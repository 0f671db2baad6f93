import MailDispatch.FileTree.Path

/-!
# File trees

A file tree is a finite map from locations to entries: directories, regular files and symbolic
links. A location can be looked up only if everything on the way to it is a directory, so an entry
whose surroundings are missing does not exist. The root is always a directory.
-/

namespace MailDispatch

/-- What may stand at a location. -/
inductive Entry where
  | directory
  | file (content : List UInt8)
  | link (target : String)
  deriving DecidableEq, Repr

/-- A file tree, given by the entries at its locations; the first one for a location counts. -/
structure FileTree where
  entries : List (Location × Entry)

namespace FileTree

/-- The tree that holds nothing but its root. -/
def empty : FileTree := ⟨[]⟩

/-- The entry at a location, provided that directories lead to it. -/
def find? (t : FileTree) : Location → Option Entry
  | [] => some .directory
  | name :: parent => match t.find? parent with
    | some .directory => t.entries.lookup (name :: parent)
    | _ => none

/-- Whether a directory stands at the location itself. -/
def isDirectoryAt (t : FileTree) (loc : Location) : Bool :=
  match t.find? loc with
  | some .directory => true
  | _ => false

/-- The tree with another entry at a location. -/
def put (t : FileTree) (loc : Location) (e : Entry) : FileTree :=
  ⟨(loc, e) :: t.entries.filter fun x ↦ x.1 ≠ loc⟩

/-- The tree without the entry at a location. -/
def erase (t : FileTree) (loc : Location) : FileTree :=
  ⟨t.entries.filter fun x ↦ x.1 ≠ loc⟩

/-- The tree with directories on the way to a location wherever nothing stands. -/
def withParents (t : FileTree) : Location → FileTree
  | [] => t
  | name :: parent =>
    let t := t.withParents parent
    if (t.find? (name :: parent)).isSome then t else t.put (name :: parent) .directory

@[simp] theorem find?_nil (t : FileTree) : t.find? [] = some .directory := rfl

theorem find?_cons (t : FileTree) (name : String) (parent : Location) :
    t.find? (name :: parent) =
      if t.isDirectoryAt parent then t.entries.lookup (name :: parent) else none := by
  rw [find?, isDirectoryAt]
  split <;> simp_all

end FileTree

end MailDispatch
