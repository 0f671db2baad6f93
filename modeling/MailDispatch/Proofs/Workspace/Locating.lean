import MailDispatch.Workspace

/-!
# Locating and reading

A path of a workspace is located before anything is read, and whatever can be wrong with it shows
there: it can hold a character that no path can hold, lead around in a circle of links, or lead
outside. After that only the file itself can fail to be read.
-/

namespace MailDispatch.Workspace

variable {w : Workspace} {path : String} {loc : Location} {e : Failure}

/-- The absolute path that is resolved for a path of the workspace. -/
def joined (w : Workspace) (path : String) : FilePath :=
  (FilePath.ofLocation w.root).join (.ofText path)

/-- What can become of a path, in the order of the checks. -/
theorem locate_eq (w : Workspace) (path : String) :
    w.locate path =
      let loc := (w.tree.resolve [] (w.joined path)).location
      if '\x00' ∈ path.toList ∨ (w.joined path).hasNul then .error (nulInName path)
      else if w.tree.isCircular loc then .error (.linkLoop loc.text)
      else if loc.isWithin w.root then .ok loc
      else .error (.configuration (.outsideWorkspace path)) := by
  have hcontains : path.toList.contains '\x00' = true ↔ '\x00' ∈ path.toList :=
    List.contains_iff_mem
  rw [locate, FileTree.realLocation, ← joined]
  dsimp only
  generalize (w.tree.resolve [] (w.joined path)).location = loc
  by_cases hpath : '\x00' ∈ path.toList
  · rw [if_pos (hcontains.mpr hpath), if_pos (.inl hpath)]
  · rw [if_neg (mt hcontains.mp hpath)]
    cases (w.joined path).hasNul with
    | true => exact (if_pos (.inr rfl)).symm
    | false =>
      rw [if_neg (not_or.mpr ⟨hpath, Bool.false_ne_true⟩)]
      cases w.tree.isCircular loc <;> rfl

/-- When a path is located, and where. -/
theorem locate_eq_ok_iff : w.locate path = .ok loc ↔
    '\x00' ∉ path.toList ∧ (w.joined path).hasNul = false ∧
      (w.tree.resolve [] (w.joined path)).location = loc ∧ w.tree.isCircular loc = false ∧
      loc.isWithin w.root := by
  rw [locate_eq]
  dsimp only
  generalize (w.tree.resolve [] (w.joined path)).location = located
  constructor
  · intro h
    split at h
    · cases h
    · next hnul =>
      obtain ⟨hpath, hjoined⟩ := not_or.mp hnul
      split at h
      · cases h
      · next hcircular =>
        split at h
        · next hwithin =>
          cases h
          exact ⟨hpath, eq_false_of_ne_true hjoined, rfl, eq_false_of_ne_true hcircular, hwithin⟩
        · cases h
  · rintro ⟨hpath, hnul, rfl, hcircular, hwithin⟩
    rw [if_neg (not_or.mpr ⟨hpath, ne_true_of_eq_false hnul⟩), if_neg (ne_true_of_eq_false hcircular),
      if_pos hwithin]

/-- How a path fails to be located. -/
theorem locate_eq_error (h : w.locate path = .error e) :
    (∃ c, e = .configuration c) ∨ ∃ loc, e = .linkLoop loc.text ∧ w.tree.isCircular loc := by
  rw [locate_eq] at h
  dsimp only at h
  split at h
  · cases h
    exact .inl ⟨_, rfl⟩
  · split at h
    · next hcircular =>
      cases h
      exact .inr ⟨_, rfl, hcircular⟩
    · split at h
      · cases h
      · cases h
        exact .inl ⟨_, rfl⟩

/-- How a file of the workspace fails to be read. -/
theorem readBytes_eq_error (h : w.readBytes path = .error e) :
    (∃ c, e = .configuration c) ∨ (∃ loc, e = .linkLoop loc) ∨ ∃ f, e = .file f := by
  rw [readBytes] at h
  cases hl : w.locate path with
  | error e' =>
    rw [hl] at h
    cases h
    rcases locate_eq_error hl with hc | ⟨loc, hloc, -⟩
    · exact .inl hc
    · exact .inr (.inl ⟨_, hloc⟩)
  | ok loc =>
    rw [hl] at h
    change (w.tree.read [] (.ofLocation loc)).mapError .file = .error e at h
    cases hr : w.tree.read [] (.ofLocation loc) with
    | ok bs => rw [hr] at h; cases h
    | error f => rw [hr] at h; cases h; exact .inr (.inr ⟨f, rfl⟩)

end MailDispatch.Workspace
