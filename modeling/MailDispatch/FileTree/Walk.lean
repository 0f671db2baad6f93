import MailDispatch.FileTree.Basic
import MailDispatch.Text.Quoted

/-!
# Walking to a file

How the operating system follows a path: name by name, through directories only, replacing each
symbolic link on the way by its target. A walk passes at most `maxLinks` links, which is what makes
it end. Reading, writing and making directories rest on it, and each failure is one of six.
-/

namespace MailDispatch

/-- Why a file cannot be reached. -/
inductive FileFault where
  | notFound
  | exists
  | notDirectory
  | isDirectory
  | nameTooLong
  | tooManyLinks
  deriving DecidableEq, Repr

namespace FileFault

/-- The number of a fault. -/
def number : FileFault → Nat
  | .notFound => 2
  | .exists => 17
  | .notDirectory => 20
  | .isDirectory => 21
  | .nameTooLong => 36
  | .tooManyLinks => 40

/-- The wording of a fault. -/
def text : FileFault → String
  | .notFound => "No such file or directory"
  | .exists => "File exists"
  | .notDirectory => "Not a directory"
  | .isDirectory => "Is a directory"
  | .nameTooLong => "File name too long"
  | .tooManyLinks => "Too many levels of symbolic links"

/-- The name under which a fault is reported. -/
def label : FileFault → String
  | .notFound => "FileNotFoundError"
  | .exists => "FileExistsError"
  | .notDirectory => "NotADirectoryError"
  | .isDirectory => "IsADirectoryError"
  | .nameTooLong => "OSError"
  | .tooManyLinks => "OSError"

end FileFault

/-- A fault and the path at which it arose. -/
structure FileError where
  fault : FileFault
  path : String
  deriving DecidableEq, Repr

/-- A file error in words. -/
def FileError.message (e : FileError) : String :=
  "[Errno " ++ toString e.fault.number ++ "] " ++ e.fault.text ++ ": " ++ Text.quoted e.path

/-- Where a walk ends: at an entry, or at the place of a missing last name. -/
inductive Reached where
  | there (loc : Location) (e : Entry)
  | missing (loc : Location)
  deriving DecidableEq, Repr

namespace FileTree

/-- The most links that one walk passes. -/
def maxLinks : Nat := 40

/-- The longest name, in bytes. -/
def maxNameBytes : Nat := 255

/-- The longest path text, in bytes. -/
def maxPathBytes : Nat := 4095

/-- The names of a link's target; a slash at its end demands a directory, which a dot stands for. -/
def targetNames (target : String) : List String :=
  let s := target.toList
  FilePath.namesOf s ++ if s.getLast? = some '/' then ["."] else []

/-- The place from which a link found in `dir` is followed. -/
def targetStart (dir : Location) (target : String) : Location :=
  if target.toList.head? = some '/' then [] else dir

/-- Follows names from a location, passing at most `links` symbolic links. -/
def walk (t : FileTree) (links : Nat) (current : Location) (names : List String) :
    Except FileFault Reached :=
  match names with
  | [] => match t.find? current with
    | some e => .ok (.there current e)
    | none => .error .notFound
  | name :: rest =>
    if !t.isDirectoryAt current then .error .notDirectory
    else if name = "." then t.walk links current rest
    else if name = ".." then t.walk links current.tail rest
    else if maxNameBytes < name.utf8ByteSize then .error .nameTooLong
    else match t.find? (name :: current) with
      | none => if rest.isEmpty then .ok (.missing (name :: current)) else .error .notFound
      | some (.link target) => match links with
        | 0 => .error .tooManyLinks
        | links + 1 =>
          t.walk links (targetStart current target) (targetNames target ++ rest)
      | some _ => t.walk links (name :: current) rest
termination_by (links, names.length)

/-- Where a path leads, seen from the current directory. -/
def reach (t : FileTree) (current : Location) (p : FilePath) : Except FileFault Reached :=
  if maxPathBytes < p.text.utf8ByteSize then .error .nameTooLong
  else t.walk maxLinks (p.start current) p.names

/-- The entry to which a path leads. -/
def status (t : FileTree) (current : Location) (p : FilePath) : Except FileFault Entry :=
  (t.reach current p).bind fun
    | .there _ e => .ok e
    | .missing _ => .error .notFound

/-- The content of the regular file to which a path leads. -/
def read (t : FileTree) (current : Location) (p : FilePath) :
    Except FileError (List UInt8) :=
  match t.status current p with
  | .ok (.file content) => .ok content
  | .ok _ => .error ⟨.isDirectory, p.text⟩
  | .error fault => .error ⟨fault, p.text⟩

/-- The tree after the file to which a path leads is written anew. A missing file is created. -/
def writeFile (t : FileTree) (current : Location) (p : FilePath) (content : List UInt8) :
    Except FileError FileTree :=
  match t.reach current p with
  | .ok (.there loc (.file _)) => .ok (t.put loc (.file content))
  | .ok (.there _ _) => .error ⟨.isDirectory, p.text⟩
  | .ok (.missing loc) => .ok (t.put loc (.file content))
  | .error fault => .error ⟨fault, p.text⟩

/-- The tree with a new directory at a path. Unlike reading and writing, this does not follow a
link at the end of the path. -/
def makeDirectory (t : FileTree) (current : Location) (p : FilePath) : Except FileFault FileTree :=
  if maxPathBytes < p.text.utf8ByteSize then .error .nameTooLong
  else match p.names.getLast? with
    | none => .error .exists
    | some name =>
      if name = ".." then (t.status current p).bind fun _ ↦ .error .exists
      else (t.walk maxLinks (p.start current) p.names.dropLast).bind fun
        | .missing _ => .error .notFound
        | .there dir .directory =>
          if maxNameBytes < name.utf8ByteSize then .error .nameTooLong
          else if (t.find? (name :: dir)).isSome then .error .exists
          else .ok (t.put (name :: dir) .directory)
        | .there _ _ => .error .notDirectory

/-- Whether a path leads to a directory. -/
def isDirectory (t : FileTree) (current : Location) (p : FilePath) : Bool :=
  match t.status current p with
  | .ok .directory => true
  | _ => false

/-- Makes a directory at a path, unless one is there already. -/
def ensureOne (t : FileTree) (current : Location) (p : FilePath) :
    FileTree × Except FileError Unit :=
  match t.makeDirectory current p with
  | .ok t => (t, .ok ())
  | .error fault => (t, if t.isDirectory current p then .ok () else .error ⟨fault, p.text⟩)

/-- Makes a directory at a path, and on the way to it where nothing stands. The directory around the
path is made only if its absence is the obstacle; it stays even if the one inside it cannot be
made. -/
def ensureDirectory (t : FileTree) (current : Location) (p : FilePath) :
    FileTree × Except FileError Unit :=
  match t.makeDirectory current p with
  | .ok t => (t, .ok ())
  | .error .notFound =>
    if hp : p.names = [] then (t, .error ⟨.notFound, p.text⟩)
    else
      have : p.parent.names.length < p.names.length := by
        have := List.length_pos_iff.mpr hp
        simp only [FilePath.parent, List.length_dropLast]
        omega
      match t.ensureDirectory current p.parent with
      | (t, .ok ()) => t.ensureOne current p
      | (t, .error e) => (t, .error e)
  | .error fault => (t, if t.isDirectory current p then .ok () else .error ⟨fault, p.text⟩)
termination_by p.names.length

end FileTree

end MailDispatch
