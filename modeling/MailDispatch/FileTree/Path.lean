import MailDispatch.Text.Pieces

/-!
# Paths and locations

A path is what a user writes: relative or absolute, with steps upward. A location is a place in the
tree: the names on the way to it, the innermost first, so that the directory around it is its tail
and lying beneath a place means ending with it. Empty components and single dots carry no meaning
and are dropped when a path is read; exactly two leading slashes are kept in its text.
-/

namespace MailDispatch

/-- A place in a file tree: the names that lead to it, innermost first. -/
abbrev Location := List String

namespace Location

/-- The absolute path of a location. -/
def text (loc : Location) : String := "/" ++ String.intercalate "/" loc.reverse

/-- One lexical step: up for two dots, nowhere for one dot or an empty name, down otherwise. -/
def step (loc : Location) (name : String) : Location :=
  if name = ".." then loc.tail else if name = "." || name = "" then loc else name :: loc

/-- Following names without looking at any tree. -/
def steps (loc : Location) (names : List String) : Location := names.foldl step loc

/-- Whether `loc` is `root` or lies beneath it. -/
def isWithin (loc root : Location) : Bool := root.isSuffixOf loc

end Location

/-- Where a path starts: at the current directory or at the root of the tree. -/
inductive Anchor where
  | current
  | root
  | doubleRoot
  deriving DecidableEq, Repr

/-- A path: where it starts and the names on it. -/
structure FilePath where
  anchor : Anchor
  names : List String
  deriving DecidableEq, Repr

namespace FilePath

/-- The names between the slashes of a text, empty ones and single dots left out. -/
def namesOf (s : List Char) : List String :=
  ((Text.pieces '/' s).map String.ofList).filter fun name ↦ name ≠ "" ∧ name ≠ "."

/-- The start of a path text: two slashes and no more count as a root of their own. -/
def anchorOf : List Char → Anchor
  | '/' :: '/' :: '/' :: _ => .root
  | '/' :: '/' :: _ => .doubleRoot
  | '/' :: _ => .root
  | _ => .current

/-- Reads a path. -/
def ofChars (s : List Char) : FilePath := ⟨anchorOf s, namesOf s⟩

/-- Reads a path. -/
def ofText (s : String) : FilePath := ofChars s.toList

/-- The text of a path; the current directory is a single dot. -/
def text (p : FilePath) : String :=
  let names := String.intercalate "/" p.names
  match p.anchor with
  | .current => if p.names.isEmpty then "." else names
  | .root => "/" ++ names
  | .doubleRoot => "//" ++ names

/-- The directory around a path, as far as its text shows. -/
def parent (p : FilePath) : FilePath := ⟨p.anchor, p.names.dropLast⟩

/-- `other`, taken from `p` unless it says itself where it starts. -/
def join (p other : FilePath) : FilePath :=
  match other.anchor with
  | .current => ⟨p.anchor, p.names ++ other.names⟩
  | _ => other

/-- A name below a path. -/
def child (p : FilePath) (name : String) : FilePath := ⟨p.anchor, p.names ++ [name]⟩

/-- The place from which the names of the path are followed. -/
def start (p : FilePath) (current : Location) : Location :=
  match p.anchor with
  | .current => current
  | _ => []

/-- Whether the path holds a character that no file name can hold. -/
def hasNul (p : FilePath) : Bool := p.names.any fun name ↦ name.toList.contains '\x00'

/-- The absolute path of a location. -/
def ofLocation (loc : Location) : FilePath := ⟨.root, loc.reverse⟩

end FilePath

end MailDispatch
