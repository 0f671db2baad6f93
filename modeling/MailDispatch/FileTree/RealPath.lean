import MailDispatch.FileTree.Walk

/-!
# The real location behind a path

Resolving a path replaces every symbolic link on it by its target and applies every step upward,
whether or not something exists there: names that lead nowhere are kept. Unlike a walk it never
fails. On a link that is met again while it is being resolved, it gives up and keeps the rest of
the path as it is written, which `Resolution.looped` records.
-/

namespace MailDispatch

/-- What resolving a path yields: its real location, or where it got stuck in a circle of links,
followed by the names that were left. -/
inductive Resolution where
  | resolved (loc : Location)
  | looped (loc : Location)
  deriving DecidableEq, Repr

/-- The location that a resolution yields either way. -/
def Resolution.location : Resolution → Location
  | .resolved loc => loc
  | .looped loc => loc

namespace FileTree

/-! ## Links under way -/

/-- How many entries of the tree are not among the links whose targets are being followed. -/
def unvisited (t : FileTree) (visiting : List Location) : Nat :=
  t.entries.countP fun e ↦ !visiting.contains e.1

/-- What stands below the root is an entry. -/
theorem mem_entries_of_find?_cons {t : FileTree} {name : String} {parent : Location} {e : Entry}
    (h : t.find? (name :: parent) = some e) : (name :: parent, e) ∈ t.entries := by
  rw [find?_cons] at h
  split at h
  · obtain ⟨before, after, hentries, -⟩ := List.lookup_eq_some_iff.mp h
    rw [hentries]
    exact List.mem_append_right before List.mem_cons_self
  · cases h

/-- Following a link for the first time leaves fewer of them. -/
theorem unvisited_lt {t : FileTree} {visiting : List Location} {name : String} {base : Location}
    {e : Entry} (h : t.find? (name :: base) = some e)
    (hnew : ¬visiting.contains (name :: base) = true) :
    t.unvisited ((name :: base) :: visiting) < t.unvisited visiting := by
  obtain ⟨before, after, hentries⟩ := List.append_of_mem (mem_entries_of_find?_cons h)
  have hfewer : ∀ entries : List (Location × Entry),
      (entries.countP fun x ↦ !((name :: base) :: visiting).contains x.1) ≤
        entries.countP fun x ↦ !visiting.contains x.1 := fun entries ↦
    List.countP_mono_left fun x _ hx ↦ by simp_all
  have hhere : ((name :: base) :: visiting).contains (name :: base) = true := by simp
  rw [unvisited, unvisited, hentries, List.countP_append, List.countP_append, List.countP_cons,
    List.countP_cons]
  simp only [hhere, hnew, Bool.not_true, Bool.not_false, Bool.false_eq_true, if_false, if_true]
  have := hfewer before
  have := hfewer after
  omega

/-! ## Resolving -/

/-- The place that the names left behind a link lead to when the link is given up: as they are
written, they start at the link, or at the root if a slash stands in front of them. Any number of
slashes counts as one here. -/
def givenUp (link : Location) : List String → Location
  | "" :: name :: rest => Location.steps [] (name :: rest)
  | rest => Location.steps link rest

/-- The names of a link's target, as they are written. -/
def segments (target : String) : List String := (Text.pieces '/' target.toList).map String.ofList

/-- Follows names from a location whose links are resolved already. `visiting` holds the links
whose targets are being followed; however many there are, they are followed to the end. -/
def resolveFrom (t : FileTree) (visiting : List Location) (base : Location)
    (names : List String) : Resolution :=
  match names with
  | [] => .resolved base
  | name :: rest =>
    if name = ".." || name = "." || name = "" then
      t.resolveFrom visiting (Location.step base name) rest
    else match _hfound : t.find? (name :: base) with
      | some (.link target) =>
        if _hvisiting : visiting.contains (name :: base) then .looped (givenUp (name :: base) rest)
        else match t.resolveFrom ((name :: base) :: visiting) (targetStart base target)
            (segments target) with
          | .looped loc => .looped (givenUp loc rest)
          | .resolved loc => t.resolveFrom visiting loc rest
      | _ => t.resolveFrom visiting (name :: base) rest
termination_by (t.unvisited visiting, names.length)
decreasing_by
  · exact Prod.Lex.right _ (Nat.lt_succ_self _)
  · exact Prod.Lex.left _ _ (unvisited_lt _hfound _hvisiting)
  · exact Prod.Lex.right _ (Nat.lt_succ_self _)
  · exact Prod.Lex.right _ (Nat.lt_succ_self _)

section Equations

variable {t : FileTree} {visiting : List Location} {base : Location} {name target : String}
  {rest : List String}

theorem resolveFrom_of_step (h : (name = ".." || name = "." || name = "") = true) :
    t.resolveFrom visiting base (name :: rest)
      = t.resolveFrom visiting (Location.step base name) rest := by
  rw [resolveFrom, if_pos h]

/-- A link that is met again is given up. -/
theorem resolveFrom_of_visiting (h : ¬(name = ".." || name = "." || name = "") = true)
    (hlink : t.find? (name :: base) = some (.link target))
    (hvisiting : visiting.contains (name :: base) = true) :
    t.resolveFrom visiting base (name :: rest) = .looped (givenUp (name :: base) rest) := by
  rw [resolveFrom, if_neg h]
  split
  · rw [dif_pos hvisiting]
  · next hfree => exact absurd hlink (hfree target)

/-- A link that is met for the first time leads to where its target leads. -/
theorem resolveFrom_of_link (h : ¬(name = ".." || name = "." || name = "") = true)
    (hlink : t.find? (name :: base) = some (.link target))
    (hnew : ¬visiting.contains (name :: base) = true) :
    t.resolveFrom visiting base (name :: rest) =
      match t.resolveFrom ((name :: base) :: visiting) (targetStart base target)
          (segments target) with
      | .looped loc => .looped (givenUp loc rest)
      | .resolved loc => t.resolveFrom visiting loc rest := by
  rw [resolveFrom, if_neg h]
  split
  · next target' hlink' =>
    cases hlink.symm.trans hlink'
    rw [dif_neg hnew]
  · next hfree => exact absurd hlink (hfree target)

theorem resolveFrom_of_looped {loc : Location}
    (h : ¬(name = ".." || name = "." || name = "") = true)
    (hlink : t.find? (name :: base) = some (.link target))
    (hnew : ¬visiting.contains (name :: base) = true)
    (htarget : t.resolveFrom ((name :: base) :: visiting) (targetStart base target)
      (segments target) = .looped loc) :
    t.resolveFrom visiting base (name :: rest) = .looped (givenUp loc rest) := by
  rw [resolveFrom_of_link h hlink hnew, htarget]

theorem resolveFrom_of_resolved {loc : Location}
    (h : ¬(name = ".." || name = "." || name = "") = true)
    (hlink : t.find? (name :: base) = some (.link target))
    (hnew : ¬visiting.contains (name :: base) = true)
    (htarget : t.resolveFrom ((name :: base) :: visiting) (targetStart base target)
      (segments target) = .resolved loc) :
    t.resolveFrom visiting base (name :: rest) = t.resolveFrom visiting loc rest := by
  rw [resolveFrom_of_link h hlink hnew, htarget]

theorem resolveFrom_of_free (h : ¬(name = ".." || name = "." || name = "") = true)
    (hfree : ∀ target, t.find? (name :: base) ≠ some (.link target)) :
    t.resolveFrom visiting base (name :: rest) = t.resolveFrom visiting (name :: base) rest := by
  rw [resolveFrom, if_neg h]
  split
  · next hlink => exact absurd hlink (hfree _)
  · rfl

end Equations

/-- The real location behind a path, seen from a directory that is a real location itself. -/
def resolve (t : FileTree) (current : Location) (p : FilePath) : Resolution :=
  t.resolveFrom [] (p.start current) p.names

/-- Whether what a resolution yields still leads around in a circle of links. -/
def isCircular (t : FileTree) (loc : Location) : Bool :=
  match t.status [] (.ofLocation loc) with
  | .error .tooManyLinks => true
  | _ => false

end FileTree

end MailDispatch
