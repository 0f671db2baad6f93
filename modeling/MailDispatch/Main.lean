import MailDispatch.CommandLine.Command

/-!
# The program

Looks up on the host what a command may read, carries the command out, and leaves on the host what
the command leaves behind. The host's symbolic links are kept as links, so that a task stays
confined to its workspace.

The host lends neither a mail transport nor a keyring: connecting ends in a fault, and no secret is
found.
-/

namespace MailDispatch.Host

open CommandLine (Invocation Context)

/-! ## Looking things up -/

/-- The real path of what the host has at a path, if it has anything there. -/
def realPath? (p : FilePath) : IO (Option FilePath) := do
  try return some (.ofText (toString (← IO.FS.realPath p.text)))
  catch _ => return none

/-- What the host has at a real path. What cannot be read as a file counts as a directory. -/
def entryAt (p : FilePath) : IO Entry := do
  try return .file (← IO.FS.readBinFile p.text).toList
  catch _ => return .directory

/-- Adds what the host has on the way along a real path. -/
def addReal (t : FileTree) (p : FilePath) : IO FileTree :=
  (List.range p.names.length).foldlM (fun t k ↦ do
    let loc := (p.names.take (k + 1)).reverse
    if (t.find? loc).isSome then return t
    return t.put loc (← entryAt (.ofLocation loc))) t

/-- Adds what the host has on the way along an absolute path. A name that is still missing when its
real path has been added is a link. -/
def add (t : FileTree) (p : FilePath) : IO FileTree :=
  (List.range p.names.length).foldlM (fun t k ↦ do
    match ← realPath? ⟨.root, p.names.take (k + 1)⟩ with
    | none => return t
    | some real =>
      let t ← addReal t real
      let name := p.names.getD k ""
      match t.walk FileTree.maxLinks [] (p.names.take k) with
      | .ok (.there dir .directory) =>
        if name = ".." || (t.find? (name :: dir)).isSome then return t
        return t.put (name :: dir) (.link real.text)
      | _ => return t) t

/-- Adds what the host has on the way along paths that start at the current directory. -/
def addAll (s : Surroundings) (paths : List FilePath) : IO Surroundings := do
  let tree ← paths.foldlM (fun t p ↦ add t ((FilePath.ofLocation s.current).join p)) s.tree
  return { s with tree }

/-- What the host is before any file is looked up. -/
def bare : IO Surroundings := do
  let current := (← realPath? (.ofText ".")).getD (.ofLocation [])
  let home ← IO.getEnv "HOME"
  return {
    tree := .empty
    current := current.names.reverse
    home := .ofText (home.getD "/")
    configHome := ← IO.getEnv "XDG_CONFIG_HOME" }

/-- What the host has of all that a command may read. -/
def surroundingsFor (args : List String) : IO Surroundings := do
  let s ← addAll (← bare) [.ofText "."]
  match CommandLine.parse args with
  | .error _ => return s
  | .ok i =>
    let s ← addAll s (i.named s)
    addAll s (i.mentioned s)

/-! ## What the host cannot lend -/

/-- A mail server that nothing can connect to. -/
def unreachable : Server where
  onConnect := .error ⟨"ConnectionError", "no mail transport on this host", .system⟩

/-- A keyring that holds nothing. -/
def emptyKeyring : SecretStore := .ofKeyring AccessList.mail.scope fun _ _ ↦ .absent

/-- What a command finds on the host. -/
def context (args : List String) : IO Context := do
  return {
    surroundings := ← surroundingsFor args
    write := Toml.write
    secrets := emptyKeyring
    server := unreachable
    stamp := ⟨"", toString (← IO.monoMsNow), "localhost"⟩
    time := toString (← IO.monoMsNow) }

/-! ## Leaving things behind -/

/-- Writes to the host what a command added to the tree, directories first. -/
def leave (before after : FileTree) : IO Unit := do
  for (loc, entry) in after.entries.reverse do
    if before.entries.lookup loc ≠ some entry then
      match entry with
      | .directory => IO.FS.createDirAll loc.text
      | .file content => IO.FS.writeBinFile loc.text ⟨content.toArray⟩
      | .link _ => pure ()

/-- Carries out a command line on the host. -/
def run (args : List String) : IO UInt32 := do
  let c ← context args
  let o := CommandLine.run c args
  leave c.surroundings.tree o.surroundings.tree
  IO.print o.stdout
  IO.eprint o.stderr
  match o.exit with
  | .ok status => return status.toUInt32
  | .error e =>
    IO.eprintln (e.label ++ ": " ++ e.message)
    return 1

end MailDispatch.Host

/-- Runs the program. -/
def main (args : List String) : IO UInt32 := MailDispatch.Host.run args
