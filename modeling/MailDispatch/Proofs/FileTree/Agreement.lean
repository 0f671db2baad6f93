import MailDispatch.Proofs.FileTree.Resolution

/-!
# Trees that agree within a location

Two trees that differ only in the contents of files outside some location have the same directories
and links. So every path is resolved in the same way in both of them, and a walk takes the same
course; where it ends at a file, the contents may differ, but only outside.
-/

namespace MailDispatch

/-- An entry without the content of its file. -/
def Entry.emptied : Entry → Entry
  | .file _ => .file []
  | e => e

/-- Where a walk ends, without the content of the file there. -/
def Reached.emptied : Reached → Reached
  | .there loc e => .there loc e.emptied
  | r => r

/-- Two walks whose ends differ in the content of a file only end in the same way, or both at
something that is there. -/
theorem Reached.eq_or_there {r r' : Except FileFault Reached} (h : r'.map emptied = r.map emptied) :
    r' = r ∨ ∃ loc e e', r = .ok (.there loc e) ∧ r' = .ok (.there loc e') := by
  cases r with
  | error f =>
    cases r' with
    | error f' => cases h; exact .inl rfl
    | ok a' => cases h
  | ok a =>
    cases r' with
    | error f' => cases h
    | ok a' =>
      have hreached : a'.emptied = a.emptied := Except.ok.inj h
      cases a with
      | missing loc =>
        cases a' with
        | missing loc' => cases hreached; exact .inl rfl
        | there loc' e' => cases hreached
      | there loc e =>
        cases a' with
        | missing loc' => cases hreached
        | there loc' e' =>
          obtain ⟨rfl, -⟩ := Reached.there.inj hreached
          exact .inr ⟨loc', e, e', rfl, rfl⟩

namespace FileTree

/-- Two trees that are the same but for the contents of files that are not within `root`. -/
def AgreesWithin (root : Location) (t t' : FileTree) : Prop :=
  ∀ loc, t'.find? loc = t.find? loc ∨ ¬loc.isWithin root ∧ ∃ content content',
    t.find? loc = some (.file content) ∧ t'.find? loc = some (.file content')

namespace AgreesWithin

variable {root : Location} {t t' : FileTree}

theorem symm (h : AgreesWithin root t t') : AgreesWithin root t' t := by
  intro loc
  rcases h loc with hsame | ⟨hout, content, content', hf, hf'⟩
  · exact .inl hsame.symm
  · exact .inr ⟨hout, content', content, hf', hf⟩

theorem find?_of_ne_file (h : AgreesWithin root t t') {loc : Location}
    (hne : ∀ content, t.find? loc ≠ some (.file content)) : t'.find? loc = t.find? loc := by
  rcases h loc with hsame | ⟨-, content, -, hf, -⟩
  · exact hsame
  · exact absurd hf (hne content)

theorem find?_eq_link (h : AgreesWithin root t t') {loc : Location} {target : String}
    (hlink : t.find? loc = some (.link target)) : t'.find? loc = some (.link target) := by
  rw [h.find?_of_ne_file (by rw [hlink]; exact nofun), hlink]

theorem find?_ne_link (h : AgreesWithin root t t') {loc : Location}
    (hlink : ∀ target, t.find? loc ≠ some (.link target)) (target : String) :
    t'.find? loc ≠ some (.link target) :=
  fun h' ↦ hlink target (h.symm.find?_eq_link h')

theorem isDirectoryAt_eq (h : AgreesWithin root t t') (loc : Location) :
    t'.isDirectoryAt loc = t.isDirectoryAt loc := by
  rw [isDirectoryAt, isDirectoryAt]
  rcases h loc with hsame | ⟨-, content, content', hf, hf'⟩
  · rw [hsame]
  · rw [hf, hf']

/-- A path is resolved in the same way. -/
theorem resolveFrom_eq (h : AgreesWithin root t t') (visiting : List Location) (base : Location)
    (names : List String) :
    t'.resolveFrom visiting base names = t.resolveFrom visiting base names := by
  fun_induction resolveFrom t visiting base names with
  | case1 => rw [resolveFrom]
  | case2 _ _ _ _ hstep ih => rw [resolveFrom_of_step hstep, ih]
  | case3 _ _ _ _ hstep _ hlink hvisiting =>
    rw [resolveFrom_of_visiting hstep (h.find?_eq_link hlink) hvisiting]
  | case4 _ _ _ _ hstep _ hlink hnew _ htarget ih =>
    rw [resolveFrom_of_looped hstep (h.find?_eq_link hlink) hnew (ih.trans htarget)]
  | case5 _ _ _ _ hstep _ hlink hnew _ htarget ihtarget ih =>
    rw [resolveFrom_of_resolved hstep (h.find?_eq_link hlink) hnew (ihtarget.trans htarget), ih]
  | case6 _ _ _ _ hstep hfree ih =>
    rw [resolveFrom_of_free hstep (h.find?_ne_link fun target ↦ hfree target), ih]

theorem find?_eq_none (h : AgreesWithin root t t') {loc : Location} (hnone : t.find? loc = none) :
    t'.find? loc = none := by
  rw [h.find?_of_ne_file (by rw [hnone]; exact nofun), hnone]

/-- Where something stands in one tree, so it does in the other, and it is the same but for the
content of a file. -/
theorem find?_eq_some (h : AgreesWithin root t t') {loc : Location} {e : Entry}
    (hfound : t.find? loc = some e) : ∃ e', t'.find? loc = some e' ∧ e'.emptied = e.emptied := by
  rcases h loc with hsame | ⟨-, content, content', hf, hf'⟩
  · exact ⟨e, hsame.trans hfound, rfl⟩
  · cases hf.symm.trans hfound
    exact ⟨_, hf', rfl⟩

/-- A walk takes the same course. -/
theorem walk_eq (h : AgreesWithin root t t') (links : Nat) (current : Location)
    (names : List String) :
    (t'.walk links current names).map Reached.emptied
      = (t.walk links current names).map Reached.emptied := by
  fun_induction walk t links current names with
  | case1 _ _ _ hfound =>
    obtain ⟨e', he', hsame⟩ := h.find?_eq_some hfound
    rw [walk, he']
    simp only [Except.map, Reached.emptied, hsame]
  | case2 _ _ hnone => rw [walk, h.find?_eq_none hnone]
  | case3 _ _ _ _ hdir => rw [walk, h.isDirectoryAt_eq, if_pos hdir]
  | case4 _ _ _ hdir ih => rw [walk, h.isDirectoryAt_eq, if_neg hdir, if_pos rfl, ih]
  | case5 _ _ _ hdir hdot ih =>
    rw [walk, h.isDirectoryAt_eq, if_neg hdir, if_neg hdot, if_pos rfl, ih]
  | case6 _ _ _ _ hdir hdot hup hlong =>
    rw [walk, h.isDirectoryAt_eq, if_neg hdir, if_neg hdot, if_neg hup, if_pos hlong]
  | case7 _ _ _ _ hdir hdot hup hlong hnone hlast =>
    rw [walk, h.isDirectoryAt_eq, if_neg hdir, if_neg hdot, if_neg hup, if_neg hlong,
      h.find?_eq_none hnone]
    simp only [hlast, if_true]
  | case8 _ _ _ _ hdir hdot hup hlong hnone hlast =>
    rw [walk, h.isDirectoryAt_eq, if_neg hdir, if_neg hdot, if_neg hup, if_neg hlong,
      h.find?_eq_none hnone]
    simp only [hlast]
    rfl
  | case9 _ _ _ hdir hdot hup hlong _ hlink =>
    rw [walk, h.isDirectoryAt_eq, if_neg hdir, if_neg hdot, if_neg hup, if_neg hlong,
      h.find?_eq_link hlink]
  | case10 _ _ _ hdir hdot hup hlong _ hlink _ ih =>
    rw [walk, h.isDirectoryAt_eq, if_neg hdir, if_neg hdot, if_neg hup, if_neg hlong,
      h.find?_eq_link hlink]
    exact ih
  | case11 links current name rest hdir hdot hup hlong e hne hfound ih =>
    obtain ⟨e', he', hsame⟩ := h.find?_eq_some hfound
    rw [walk, h.isDirectoryAt_eq, if_neg hdir, if_neg hdot, if_neg hup, if_neg hlong, he']
    cases e' with
    | link target =>
      cases e with
      | link target' => exact absurd rfl (hne target')
      | _ => cases hsame
    | _ => exact ih

theorem reach_eq (h : AgreesWithin root t t') (current : Location) (p : FilePath) :
    (t'.reach current p).map Reached.emptied = (t.reach current p).map Reached.emptied := by
  rw [reach, reach]
  split
  · rfl
  · exact h.walk_eq ..

/-- Where a path leads, there is the same in both trees, or a file outside. -/
theorem reach_cases (h : AgreesWithin root t t') (current : Location) (p : FilePath) :
    t'.reach current p = t.reach current p ∨
      ∃ loc content content', ¬loc.isWithin root ∧
        t.reach current p = .ok (.there loc (.file content)) ∧
        t'.reach current p = .ok (.there loc (.file content')) := by
  rcases Reached.eq_or_there (h.reach_eq current p) with hsame | ⟨loc, e, e', hr, hr'⟩
  · exact .inl hsame
  · have hfound := find?_of_reach hr
    have hfound' := find?_of_reach hr'
    rw [hr, hr']
    rcases h loc with hsame | ⟨hout, content, content', hf, hf'⟩
    · rw [hfound, hfound'] at hsame
      cases hsame
      exact .inl rfl
    · cases hf.symm.trans hfound
      cases hf'.symm.trans hfound'
      exact .inr ⟨loc, content, content', hout, rfl, rfl⟩

/-- It is the same paths that lead around in circles. -/
theorem isCircular_eq (h : AgreesWithin root t t') (loc : Location) :
    t'.isCircular loc = t.isCircular loc := by
  rw [isCircular, isCircular, status, status]
  rcases Reached.eq_or_there (h.reach_eq [] (.ofLocation loc)) with hsame | ⟨_, e, e', hr, hr'⟩
  · rw [hsame]
  · rw [hr, hr']
    rfl

end AgreesWithin

/-! ## Another content -/

variable {t : FileTree} {loc : Location} {data : List UInt8}

theorem lookup_put_of_ne {e : Entry} {other : Location} (h : other ≠ loc) :
    (t.put loc e).entries.lookup other = t.entries.lookup other := by
  have hkept : ∀ entries : List (Location × Entry),
      (entries.filter fun x ↦ x.1 ≠ loc).lookup other = entries.lookup other := by
    intro entries
    induction entries with
    | nil => rfl
    | cons entry rest ih =>
      by_cases hentry : entry.1 = loc
      · rw [List.filter_cons_of_neg (by simpa using hentry), ih, List.lookup_cons, hentry,
          beq_false_of_ne h]
      · rw [List.filter_cons_of_pos (by simpa using hentry), List.lookup_cons, List.lookup_cons, ih]
  rw [put, List.lookup_cons, beq_false_of_ne h]
  exact hkept t.entries

/-- Writing a file where there is no directory changes what stands there, and nothing else. -/
theorem find?_put_of_free {name : String} {parent : Location} (hparent : t.isDirectoryAt parent)
    (hfree : t.isDirectoryAt (name :: parent) = false) (content : List UInt8) (other : Location) :
    (t.put (name :: parent) (.file content)).find? other
      = if other = name :: parent then some (.file content) else t.find? other := by
  induction other with
  | nil => rw [if_neg (List.cons_ne_nil name parent).symm]; rfl
  | cons n up ih =>
    -- a file is no directory, whatever it holds
    have hdir : (t.put (name :: parent) (.file content)).isDirectoryAt up
        = t.isDirectoryAt up := by
      by_cases hup : up = name :: parent
      · rw [if_pos hup] at ih
        rw [isDirectoryAt, ih, hup, hfree]
      · rw [if_neg hup] at ih
        rw [isDirectoryAt, isDirectoryAt, ih]
    rw [find?_cons, find?_cons, hdir]
    by_cases hloc : n :: up = name :: parent
    · rw [if_pos hloc, hloc, put, List.lookup_cons_self, (List.cons.inj hloc).2, if_pos hparent]
    · rw [if_neg hloc, lookup_put_of_ne hloc]

/-- Writing a file anew changes what stands there, and nothing else. -/
theorem find?_put (h : t.find? loc = some (.file data)) (content : List UInt8)
    (other : Location) : (t.put loc (.file content)).find? other
      = if other = loc then some (.file content) else t.find? other := by
  cases loc with
  | nil => cases h
  | cons name parent =>
    have hparent : t.isDirectoryAt parent := by
      rw [find?_cons] at h
      split at h
      · next hparent => exact hparent
      · cases h
    exact find?_put_of_free hparent (by rw [isDirectoryAt, h]) content other

/-- Outside of a location files can be written anew. -/
theorem agreesWithin_put {root : Location} (h : t.find? loc = some (.file data))
    (hout : ¬loc.isWithin root) (content : List UInt8) :
    AgreesWithin root t (t.put loc (.file content)) := by
  intro other
  rw [find?_put h]
  by_cases hother : other = loc
  · rw [if_pos hother, hother]
    exact .inr ⟨hout, data, content, h, rfl⟩
  · rw [if_neg hother]
    exact .inl rfl

end FileTree

end MailDispatch
