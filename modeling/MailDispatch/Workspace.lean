import MailDispatch.Failure
import MailDispatch.FileTree.RealPath

/-!
# Workspaces

A workspace is a directory to which a task's file access is confined. A path is resolved first, with
all its links and steps upward, and refused if its real location does not lie within the
workspace; only then is anything read.
-/

namespace MailDispatch

/-- A directory of a file tree that file access is confined to. -/
structure Workspace where
  tree : FileTree
  /-- The real location of the directory. -/
  root : Location

/-- The real location behind a path; that it leads around in a circle of links is an error. -/
def FileTree.realLocation (t : FileTree) (current : Location) (p : FilePath) :
    Except Failure Location :=
  let loc := (t.resolve current p).location
  if p.hasNul then .error .nulInPath
  else if t.isCircular loc then .error (.linkLoop loc.text)
  else .ok loc

namespace Workspace

/-- The workspace at a path. -/
def ofPath (t : FileTree) (current : Location) (p : FilePath) : Except Failure Workspace :=
  (t.realLocation current p).map fun root ↦ ⟨t, root⟩

/-- The error for a path that holds a character that no path can hold. -/
def nulInName (path : String) : Failure := .configuration (.fileName path "embedded null byte")

/-- A failure to resolve a path. That no file can have such a name is an error of the
configuration; other failures stay what they are. -/
def unresolved (path : String) : Failure → Failure
  | .nulInPath => nulInName path
  | f => f

/-- The real location of a file of the workspace. -/
def locate (w : Workspace) (path : String) : Except Failure Location :=
  if path.toList.contains '\x00' then .error (nulInName path)
  else
    ((w.tree.realLocation [] ((FilePath.ofLocation w.root).join (.ofText path))).mapError
      (unresolved path)).bind fun loc ↦
        if loc.isWithin w.root then .ok loc
        else .error (.configuration (.outsideWorkspace path))

/-- The content of a file of the workspace. -/
def readBytes (w : Workspace) (path : String) : Except Failure (List UInt8) :=
  (w.locate path).bind fun loc ↦
    (w.tree.read [] (.ofLocation loc)).mapError .file

/-- The text that data stand for, with single line feeds for all line breaks. -/
def textOf (encoding : Text.Encoding) (bs : List UInt8) : Except Failure String :=
  match Text.decode encoding bs with
  | .ok s => .ok (String.ofList (Text.unifyLineBreaks s))
  | .error e => .error (.undecodable e)

/-- The text of a file of the workspace. -/
def readText (w : Workspace) (path : String) (encoding : Text.Encoding) :
    Except Failure String :=
  (w.readBytes path).bind (textOf encoding)

/-- The text of a file of the workspace under an encoding given by its name. -/
def readTextAs (w : Workspace) (path : String) (encodingName : String) :
    Except Failure String :=
  (w.readBytes path).bind fun bs ↦
    ((Text.Encoding.forName encodingName bs).mapError .encoding).bind fun e ↦ textOf e bs

/-- The literal of a workspace. -/
def literal (w : Workspace) : String := call "LocalWorkspace" [Text.quoted w.root.text]

end Workspace

end MailDispatch
