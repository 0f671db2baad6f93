import Mathlib
import MailDispatch.Proofs.FileTree.Agreement

/-!
# What was written is there

A path at which a file was written leads to that file, since a walk that ended there ends there
again: nothing else has changed, and neither a missing entry nor a file lies on the way to anything.
The same walk has passed the directory around the file, so making that directory once more does
nothing.
-/

namespace MailDispatch

/-- The location at which a walk ends. -/
def Reached.place : Reached → Location
  | .there loc _ => loc
  | .missing loc => loc

namespace FileTree

variable {t t' : FileTree} {links : Nat} {current loc : Location} {names : List String}
  {content : List UInt8} {p : FilePath}

/-! ## Walks -/

/-- Where a walk finds nothing there is a directory around. -/
theorem find?_of_walk_missing (h : t.walk links current names = .ok (.missing loc)) :
    t.find? loc = none ∧ ∃ name parent, loc = name :: parent ∧ t.isDirectoryAt parent := by
  fun_induction walk t links current names with
  | case7 _ current name _ hdir _ _ _ hnone _ =>
    cases h
    exact ⟨hnone, name, current, rfl, by simpa using hdir⟩
  -- the walk goes on: nowhere, up, behind a link, or down
  | case4 _ _ _ _ ih => exact ih h
  | case5 _ _ _ _ _ ih => exact ih h
  | case10 _ _ _ _ _ _ _ _ _ _ ih => exact ih h
  | case11 _ _ _ _ _ _ _ _ _ _ _ ih => exact ih h
  | _ => cases h

/-- A walk that ends where a file is written ends at that file. -/
theorem walk_of_find?_eq (hdir : t.isDirectoryAt loc = false)
    (hlink : ∀ target, t.find? loc ≠ some (.link target))
    (hwritten : ∀ other, t'.find? other
      = if other = loc then some (.file content) else t.find? other) {r : Reached}
    (h : t.walk links current names = .ok r) (hr : r.place = loc) :
    t'.walk links current names = .ok (.there loc (.file content)) := by
  have hsame : ∀ other, t'.isDirectoryAt other = t.isDirectoryAt other := by
    intro other
    by_cases hother : other = loc
    · rw [hother, hdir, isDirectoryAt, hwritten, if_pos rfl]
    · rw [isDirectoryAt, isDirectoryAt, hwritten, if_neg hother]
  fun_induction walk t links current names with
  | case1 _ current _ hfound =>
    cases h
    obtain rfl : current = loc := hr
    rw [walk, hwritten, if_pos rfl]
  | case4 _ _ _ hnot ih =>
    rw [walk, hsame, if_neg hnot, if_pos rfl]
    exact ih h
  | case5 _ _ _ hnot hdot ih =>
    rw [walk, hsame, if_neg hnot, if_neg hdot, if_pos rfl]
    exact ih h
  | case7 _ current name rest hnot hdot hup hlong hnone hlast =>
    cases h
    obtain rfl : name :: current = loc := hr
    rw [walk, hsame, if_neg hnot, if_neg hdot, if_neg hup, if_neg hlong, hwritten, if_pos rfl,
      List.isEmpty_iff.mp hlast]
    simp only [walk, hwritten, if_pos]
  | case10 current name _ hnot hdot hup hlong target hfound _ ih =>
    have hne : name :: current ≠ loc := fun heq ↦ hlink target (heq ▸ hfound)
    rw [walk, hsame, if_neg hnot, if_neg hdot, if_neg hup, if_neg hlong, hwritten, if_neg hne,
      hfound]
    exact ih h
  | case11 links current name rest hnot hdot hup hlong e hne hfound ih =>
    rw [walk, hsame, if_neg hnot, if_neg hdot, if_neg hup, if_neg hlong, hwritten]
    by_cases hhere : name :: current = loc
    · rw [if_pos hhere]
      exact ih h
    · rw [if_neg hhere, hfound]
      cases e with
      | link target => exact absurd rfl (hne target)
      | _ => exact ih h
  | _ => cases h

/-- Names are followed from a directory. -/
theorem find?_of_walk_ne_nil (hne : names ≠ []) {r : Reached}
    (h : t.walk links current names = .ok r) : t.find? current = some .directory := by
  obtain ⟨name, rest, rfl⟩ := List.exists_cons_of_ne_nil hne
  rw [walk] at h
  split at h
  · cases h
  · next hdir =>
    rw [isDirectoryAt] at hdir
    split at hdir
    · next hfound => exact hfound
    · exact absurd rfl hdir

/-- A walk passes a directory before it follows what is left of its names. -/
theorem walk_append {rest : List String} (hne : rest ≠ []) {r : Reached}
    (h : t.walk links current (names ++ rest) = .ok r) :
    ∃ links' dir, t.walk links current names = .ok (.there dir .directory) ∧
      t.walk links' dir rest = .ok r := by
  have hmore : ∀ names : List String, (names ++ rest).isEmpty = false := fun names ↦
    List.isEmpty_eq_false_iff.mpr (List.append_ne_nil_of_right_ne_nil names hne)
  fun_induction walk t links current names with
  | case1 links current e hfound =>
    cases hfound.symm.trans (find?_of_walk_ne_nil hne h)
    exact ⟨links, current, rfl, h⟩
  | case2 links current hnone => cases hnone.symm.trans (find?_of_walk_ne_nil hne h)
  | case3 _ _ _ _ hnot => rw [List.cons_append, walk, if_pos hnot] at h; cases h
  | case4 _ _ _ hnot ih =>
    rw [List.cons_append, walk, if_neg hnot, if_pos rfl] at h
    exact ih h
  | case5 _ _ _ hnot hdot ih =>
    rw [List.cons_append, walk, if_neg hnot, if_neg hdot, if_pos rfl] at h
    exact ih h
  | case6 _ _ _ _ hnot hdot hup hlong =>
    rw [List.cons_append, walk, if_neg hnot, if_neg hdot, if_neg hup, if_pos hlong] at h
    cases h
  | case7 _ _ _ names hnot hdot hup hlong hnone _ =>
    rw [List.cons_append, walk, if_neg hnot, if_neg hdot, if_neg hup, if_neg hlong, hnone] at h
    simp only [hmore names] at h
    cases h
  | case8 _ _ _ names hnot hdot hup hlong hnone _ =>
    rw [List.cons_append, walk, if_neg hnot, if_neg hdot, if_neg hup, if_neg hlong, hnone] at h
    simp only [hmore names] at h
    cases h
  | case9 _ _ _ hnot hdot hup hlong _ hfound =>
    rw [List.cons_append, walk, if_neg hnot, if_neg hdot, if_neg hup, if_neg hlong, hfound] at h
    cases h
  | case10 _ _ _ hnot hdot hup hlong _ hfound _ ih =>
    rw [List.cons_append, walk, if_neg hnot, if_neg hdot, if_neg hup, if_neg hlong, hfound] at h
    exact ih (by rwa [List.append_assoc])
  | case11 _ _ _ _ hnot hdot hup hlong e hne hfound ih =>
    rw [List.cons_append, walk, if_neg hnot, if_neg hdot, if_neg hup, if_neg hlong, hfound] at h
    cases e with
    | link target => exact absurd rfl (hne target)
    | _ => exact ih h

/-! ## Files -/

theorem put_put (t : FileTree) (loc : Location) (e : Entry) :
    (t.put loc e).put loc e = t.put loc e := by
  rw [put, put, List.filter_cons_of_neg (by simp), List.filter_filter]
  simp only [Bool.and_self]

/-- A path at which a file was written leads to that file. -/
theorem reach_of_writeFile (h : t.writeFile current p content = .ok t') :
    ∃ loc, t' = t.put loc (.file content) ∧
      t'.reach current p = .ok (.there loc (.file content)) := by
  rw [writeFile] at h
  cases hr : t.reach current p with
  | error f => rw [hr] at h; cases h
  | ok r =>
    rw [hr] at h
    rw [reach] at hr
    split at hr
    · cases hr
    next hshort =>
    cases r with
    | missing loc =>
      cases h
      obtain ⟨hnone, name, parent, rfl, hparent⟩ := find?_of_walk_missing hr
      have hfree : t.isDirectoryAt (name :: parent) = false := by rw [isDirectoryAt, hnone]
      refine ⟨name :: parent, rfl, ?_⟩
      rw [reach, if_neg hshort]
      have hlink : ∀ target, t.find? (name :: parent) ≠ some (.link target) := by
        intro target hfound
        cases hnone.symm.trans hfound
      exact walk_of_find?_eq hfree hlink (find?_put_of_free hparent hfree content) hr rfl
    | there loc e =>
      cases e with
      | file data =>
        cases h
        have hfound := find?_of_walk hr
        refine ⟨loc, rfl, ?_⟩
        rw [reach, if_neg hshort]
        have hlink : ∀ target, t.find? loc ≠ some (.link target) := by
          intro target hlink
          cases hfound.symm.trans hlink
        exact walk_of_find?_eq (by rw [isDirectoryAt, hfound]) hlink (find?_put hfound content) hr
          rfl
      | _ => cases h

/-- What was written is read. -/
theorem read_of_writeFile (h : t.writeFile current p content = .ok t') :
    t'.read current p = .ok content := by
  obtain ⟨loc, -, hr⟩ := reach_of_writeFile h
  exact read_eq_ok_iff.mpr ⟨loc, hr⟩

/-- Writing the same once more changes nothing. -/
theorem writeFile_of_writeFile (h : t.writeFile current p content = .ok t') :
    t'.writeFile current p content = .ok t' := by
  obtain ⟨loc, rfl, hr⟩ := reach_of_writeFile h
  rw [writeFile, hr]
  exact congrArg Except.ok (put_put t loc _)

/-! ## Directories -/

/-- Where something is in the way, no directory is made. -/
theorem ensureDirectory_of_exists (h : t.makeDirectory current p = .error .exists) :
    t.ensureDirectory current p
      = (t, if t.isDirectory current p then .ok () else .error ⟨.exists, p.text⟩) := by
  rw [ensureDirectory, h]

/-- A directory is made only at a path that is short enough. -/
theorem length_le_of_ensureDirectory (h : t.ensureDirectory current p = (t', .ok ())) :
    p.text.utf8ByteSize ≤ maxPathBytes := by
  by_contra hlong
  have hlong : maxPathBytes < p.text.utf8ByteSize := Nat.not_le.mp hlong
  have hmake : t.makeDirectory current p = .error .nameTooLong := by
    rw [makeDirectory, if_pos hlong]
  have hdir : t.isDirectory current p = false := by
    rw [isDirectory, status, reach, if_pos hlong]
    rfl
  rw [ensureDirectory, hmake, hdir] at h
  cases h

theorem reach_eq_ok {r : Reached} (h : t.reach current p = .ok r) :
    p.text.utf8ByteSize ≤ maxPathBytes ∧ t.walk maxLinks (p.start current) p.names = .ok r := by
  rw [reach] at h
  split at h
  · cases h
  · next hshort => exact ⟨Nat.not_lt.mp hshort, h⟩

theorem isDirectory_iff : t.isDirectory current p = true ↔
    ∃ loc, t.reach current p = .ok (.there loc .directory) := by
  rw [isDirectory, status]
  constructor
  · intro h
    split at h
    · next hs =>
      cases hr : t.reach current p with
      | error f => rw [hr] at hs; cases hs
      | ok r =>
        rw [hr] at hs
        cases r with
        | missing loc => cases hs
        | there loc e => cases hs; exact ⟨loc, rfl⟩
    · cases h
  · rintro ⟨loc, hr⟩
    rw [hr]
    rfl

/-- Around everything that a path with names leads to there is a directory. -/
theorem isDirectory_parent (hne : p.names ≠ [])
    (hshort : p.parent.text.utf8ByteSize ≤ maxPathBytes) {r : Reached}
    (h : t.reach current p = .ok r) : t.isDirectory current p.parent = true := by
  obtain ⟨-, hwalk⟩ := reach_eq_ok h
  rw [← List.dropLast_append_getLast hne] at hwalk
  obtain ⟨-, dir, hparent, -⟩ := walk_append (List.cons_ne_nil _ _) hwalk
  refine isDirectory_iff.mpr ⟨dir, ?_⟩
  rw [reach, if_neg (Nat.not_lt.mpr hshort)]
  exact hparent

/-- A directory is not written as a file: the path of a file has a name. -/
theorem names_ne_nil (hdir : t.ensureDirectory current p.parent = (t', .ok ()))
    {t'' : FileTree} (h : t'.writeFile current p content = .ok t'') : p.names ≠ [] := by
  intro hnil
  have hparent : p.parent = p := by
    obtain ⟨anchor, names⟩ := p
    cases hnil
    rfl
  rw [hparent] at hdir
  have hshort := length_le_of_ensureDirectory hdir
  have hmake : t.makeDirectory current p = .error .exists := by
    rw [makeDirectory, if_neg (Nat.not_lt.mpr hshort), hnil]
    rfl
  rw [ensureDirectory_of_exists hmake] at hdir
  by_cases hthere : t.isDirectory current p = true
  · rw [if_pos hthere] at hdir
    cases hdir
    obtain ⟨loc, hr⟩ := isDirectory_iff.mp hthere
    rw [writeFile, hr] at h
    cases h
  · rw [if_neg hthere] at hdir
    cases hdir

/-- What is a single name below a directory exists there. -/
theorem find?_of_walk_singleton {name : String} {dir : Location} {e : Entry}
    (hdot : name ≠ ".") (hup : name ≠ "..")
    (h : t.walk links dir [name] = .ok (.there loc e)) :
    name.utf8ByteSize ≤ maxNameBytes ∧ (t.find? (name :: dir)).isSome = true := by
  rw [walk, if_neg hdot, if_neg hup] at h
  split at h
  · cases h
  split at h
  · cases h
  next hlong =>
  refine ⟨Nat.not_lt.mp hlong, ?_⟩
  cases hfound : t.find? (name :: dir) with
  | none => rw [hfound] at h; cases h
  | some e => rfl

/-- A directory cannot be made where one is. -/
theorem makeDirectory_of_isDirectory (h : t.isDirectory current p = true)
    (hdot : p.names.getLast? ≠ some ".") : t.makeDirectory current p = .error .exists := by
  obtain ⟨loc, hreach⟩ := isDirectory_iff.mp h
  obtain ⟨hshort, hwalk⟩ := reach_eq_ok hreach
  rw [makeDirectory, if_neg (Nat.not_lt.mpr hshort)]
  cases hlast : p.names.getLast? with
  | none => rfl
  | some name =>
    by_cases hup : name = ".."
    · simp only [if_pos hup, status, hreach]
      rfl
    · obtain ⟨names, hnames⟩ := List.getLast?_eq_some_iff.mp hlast
      rw [hnames] at hwalk
      obtain ⟨_, dir, hparent, hthere⟩ := walk_append (List.cons_ne_nil _ _) hwalk
      obtain ⟨hlong, hfound⟩ := find?_of_walk_singleton (fun heq ↦ hdot (heq ▸ hlast)) hup hthere
      simp only [if_neg hup, hnames, List.dropLast_concat, hparent]
      show (if _ then _ else _) = _
      rw [if_neg (Nat.not_lt.mpr hlong), if_pos hfound]

/-- Making a directory that is there does nothing. -/
theorem ensureDirectory_of_isDirectory (h : t.isDirectory current p = true)
    (hdot : p.names.getLast? ≠ some ".") : t.ensureDirectory current p = (t, .ok ()) := by
  rw [ensureDirectory_of_exists (makeDirectory_of_isDirectory h hdot), if_pos h]

end FileTree

end MailDispatch
