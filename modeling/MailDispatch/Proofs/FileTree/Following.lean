import MailDispatch.Proofs.FileTree.Resolution

/-!
# Where a path leads

A path leads to a location if its names can be followed to the end: a step upward drops a name, a
link is replaced by what its target leads to, and any other name is kept, whether or not something
stands there. This file says so by rules, without a record of the links under way, and shows that
resolving a path is a search for such a derivation.

Links may lie within the targets of links, and a derivation says how deep. Resolving gives a link up
when it meets it again under way. That loses nothing: a link is followed to the end through fewer
nested links than it takes itself, so that it never meets itself in its shortest derivation.
-/

namespace MailDispatch.FileTree

/-- Following names from a location comes to an end at another one, with links nested at most
`depth` deep within the targets of links. -/
inductive LeadsTo (t : FileTree) : (depth : Nat) → Location → List String → Location → Prop
  | done {depth : Nat} {base : Location} : LeadsTo t depth base [] base
  /-- Two dots lead up; one dot and an empty name lead nowhere. -/
  | step {depth : Nat} {base loc : Location} {name : String} {rest : List String}
    (hname : name ∈ ["..", ".", ""]) (h : LeadsTo t depth (base.step name) rest loc) :
    LeadsTo t depth base (name :: rest) loc
  /-- A link leads to where its target leads. -/
  | link {depth : Nat} {base mid loc : Location} {name target : String} {rest : List String}
    (hname : name ∉ ["..", ".", ""]) (hlink : t.find? (name :: base) = some (.link target))
    (htarget : LeadsTo t depth (targetStart base target) (segments target) mid)
    (h : LeadsTo t (depth + 1) mid rest loc) : LeadsTo t (depth + 1) base (name :: rest) loc
  /-- Any other name leads down, even if nothing stands there. -/
  | down {depth : Nat} {base loc : Location} {name : String} {rest : List String}
    (hname : name ∉ ["..", ".", ""])
    (hfree : ∀ target, t.find? (name :: base) ≠ some (.link target))
    (h : LeadsTo t depth (name :: base) rest loc) : LeadsTo t depth base (name :: rest) loc

variable {t : FileTree} {depth : Nat} {visiting : List Location} {base loc : Location}
  {names : List String}

/-- Names lead to one location at most. -/
theorem LeadsTo.unique {depth' : Nat} {loc' : Location} (h : t.LeadsTo depth base names loc)
    (h' : t.LeadsTo depth' base names loc') : loc = loc' := by
  induction h generalizing depth' loc' with
  | done =>
    cases h'
    rfl
  | step hname _ ih =>
    cases h' with
    | step _ h' => exact ih h'
    | link hname' => exact absurd hname hname'
    | down hname' => exact absurd hname hname'
  | link hname hlink _ _ ihtarget ih =>
    cases h' with
    | step hname' => exact absurd hname' hname
    | link _ hlink' htarget' h' =>
      cases hlink.symm.trans hlink'
      rw [← ihtarget htarget'] at h'
      exact ih h'
    | down _ hfree => exact absurd hlink (hfree _)
  | down hname hfree _ ih =>
    cases h' with
    | step hname' => exact absurd hname' hname
    | link _ hlink => exact absurd hlink (hfree _)
    | down _ _ h' => exact ih h'

/-- Links may lie deeper than they do. -/
theorem LeadsTo.weaken {depth' : Nat} (h : t.LeadsTo depth base names loc) (hle : depth ≤ depth') :
    t.LeadsTo depth' base names loc := by
  induction h generalizing depth' with
  | done => exact .done
  | step hname _ ih => exact .step hname (ih hle)
  | link hname hlink _ _ ihtarget ih =>
    obtain ⟨deeper, rfl⟩ : ∃ n, depth' = n + 1 := ⟨depth' - 1, by omega⟩
    exact .link hname hlink (ihtarget (Nat.le_of_succ_le_succ hle)) (ih hle)
  | down hname hfree _ ih => exact .down hname hfree (ih hle)

/-! ## Links under way -/

/-- A link whose target is followed to the end. -/
def Settles (t : FileTree) (depth : Nat) : Location → Prop
  | [] => False
  | name :: dir => ∃ target mid, t.find? (name :: dir) = some (.link target) ∧
      t.LeadsTo depth (targetStart dir target) (segments target) mid

/-- A link that is followed to the end is so at some least depth. -/
theorem Settles.exists_least {link : Location} (h : t.Settles depth link) :
    ∃ least ≤ depth, t.Settles least link ∧ ∀ k < least, ¬t.Settles k link := by
  classical
  have hex : ∃ k, t.Settles k link := ⟨depth, h⟩
  exact ⟨Nat.find hex, Nat.find_min' hex h, Nat.find_spec hex, fun k hk ↦ Nat.find_min hex hk⟩

/-- A name that is a step is found to be one. -/
theorem isStep_iff {name : String} :
    (name = ".." || name = "." || name = "") = true ↔ name ∈ ["..", ".", ""] := by
  simp [or_assoc]

/-! ## Resolving -/

/-- What is resolved is led to. -/
theorem leadsTo_of_resolveFrom (h : t.resolveFrom visiting base names = .resolved loc) :
    ∃ depth, t.LeadsTo depth base names loc := by
  fun_induction resolveFrom t visiting base names generalizing loc with
  | case1 =>
    cases h
    exact ⟨0, .done⟩
  | case2 _ _ _ _ hstep ih =>
    obtain ⟨depth, hrest⟩ := ih h
    exact ⟨depth, .step (isStep_iff.mp hstep) hrest⟩
  -- a link that is given up
  | case3 | case4 => cases h
  | case5 _ _ _ _ hstep _ hlink _ _ htarget ihtarget ih =>
    obtain ⟨inner, hinner⟩ := ihtarget htarget
    obtain ⟨outer, houter⟩ := ih h
    exact ⟨max inner outer + 1, .link (mt isStep_iff.mpr hstep) hlink
      (hinner.weaken (le_max_left _ _)) (houter.weaken (by omega))⟩
  | case6 _ _ _ _ hstep hfree ih =>
    obtain ⟨depth, hrest⟩ := ih h
    exact ⟨depth, .down (mt isStep_iff.mpr hstep) (fun target ↦ hfree target) hrest⟩

/-- What is led to is resolved, as long as no link under way settles within that depth. -/
theorem resolveFrom_of_leadsTo (h : t.LeadsTo depth base names loc)
    (hvisiting : ∀ link ∈ visiting, ∀ k < depth, ¬t.Settles k link) :
    t.resolveFrom visiting base names = .resolved loc := by
  induction depth using Nat.strong_induction_on generalizing base names loc visiting with
  | _ depth ihdepth =>
    induction h with
    | done => rw [resolveFrom]
    | step hname _ ih =>
      rw [resolveFrom_of_step (isStep_iff.mpr hname)]
      exact ih ihdepth hvisiting
    | down hname hfree _ ih =>
      rw [resolveFrom_of_free (mt isStep_iff.mp hname) hfree]
      exact ih ihdepth hvisiting
    | @link depth base mid loc name target rest hname hlink htarget _ _ ih =>
      have hsettles : t.Settles depth (name :: base) := ⟨target, mid, hlink, htarget⟩
      have hnew : ¬visiting.contains (name :: base) = true := fun hmem ↦
        hvisiting _ (List.contains_iff_mem.mp hmem) depth (Nat.lt_succ_self depth) hsettles
      -- the target is resolved along its shortest derivation, in which the link does not settle
      obtain ⟨least, hle, ⟨target', mid', hlink', hshort⟩, hleast⟩ := hsettles.exists_least
      cases hlink.symm.trans hlink'
      have hresolved : t.resolveFrom ((name :: base) :: visiting) (targetStart base target)
          (segments target) = .resolved mid := by
        rw [htarget.unique hshort]
        refine ihdepth least (by omega) hshort ?_
        intro link hmem k hk
        rcases List.mem_cons.mp hmem with rfl | hmem
        · exact hleast k hk
        · exact hvisiting link hmem k (by omega)
      rw [resolveFrom_of_resolved (mt isStep_iff.mp hname) hlink hnew hresolved]
      exact ih ihdepth hvisiting

/-- **Resolving.** A path is resolved to a location exactly if it leads there. -/
theorem resolveFrom_eq_resolved_iff :
    t.resolveFrom [] base names = .resolved loc ↔ ∃ depth, t.LeadsTo depth base names loc := by
  constructor
  · exact leadsTo_of_resolveFrom
  · rintro ⟨depth, h⟩
    exact resolveFrom_of_leadsTo h (List.forall_mem_nil _)

/-- What a real location leads to is real. -/
theorem LeadsTo.isReal (h : t.LeadsTo depth base names loc) (hbase : t.IsReal base) :
    t.IsReal loc :=
  isReal_of_resolveFrom hbase (resolveFrom_eq_resolved_iff.mpr ⟨depth, h⟩)

end MailDispatch.FileTree
