import MailDispatch.Proofs.FileTree.Following
import MailDispatch.Proofs.Journal.Contract
import MailDispatch.Proofs.Workspace.Containment

/-!
# Which paths a workspace refuses

The rules of a workspace forbid three kinds of paths: those that hold a character no path can hold,
absolute ones, and those that lead outside. Every other path is to be located where it leads. What
is checked is the location and not the way to it, so an absolute path that leads into the workspace
is located as well. That is the one exception: the rules are kept for a path exactly if it is not
absolute, or forbidden for another reason too.

All this is about paths that lead somewhere. A path that does not meets a circle of links.
-/

namespace MailDispatch.Workspace

variable {w : Workspace} {path : String} {loc : Location}

/-- A path that says itself where it starts. -/
def IsAbsolute (path : String) : Prop := path.toList.head? = some '/'

instance : DecidablePred IsAbsolute :=
  fun path ↦ inferInstanceAs (Decidable (path.toList.head? = some '/'))

/-- The names from the root of the tree to a path: those of the workspace come first, unless the
path is absolute. -/
def namesTo (w : Workspace) (path : String) : List String :=
  if IsAbsolute path then (FilePath.ofText path).names
  else w.root.reverse ++ (FilePath.ofText path).names

/-- The real location behind a path: all links are followed and all steps upward applied, and names
that lead nowhere are kept. -/
def LeadsTo (w : Workspace) (path : String) (loc : Location) : Prop :=
  ∃ depth, w.tree.LeadsTo depth [] (w.namesTo path) loc

/-- What the rules of a workspace forbid. -/
inductive IsForbidden (w : Workspace) (path : String) : Prop
  | nul (h : '\x00' ∈ path.toList)
  | absolute (h : IsAbsolute path)
  | outside {loc : Location} (h : w.LeadsTo path loc) (hout : ¬loc.isWithin w.root)

/-- The rules are kept for a path: it is refused by a configuration error exactly if it is
forbidden, and is located where it leads otherwise. -/
structure KeepsRules (w : Workspace) (path : String) : Prop where
  refuses : (∃ e, w.locate path = .error (.configuration e)) ↔ w.IsForbidden path
  locates : ¬w.IsForbidden path → ∃ loc, w.LeadsTo path loc ∧ w.locate path = .ok loc

/-! ## Where a path leads -/

theorem anchorOf_eq_current_iff {s : List Char} :
    FilePath.anchorOf s = .current ↔ s.head? ≠ some '/' := by
  cases s with
  | nil => exact iff_of_true rfl nofun
  | cons c rest =>
    by_cases hc : c = '/'
    · rw [hc, List.head?_cons]
      refine iff_of_false ?_ (not_not_intro rfl)
      unfold FilePath.anchorOf
      split <;> simp_all
    · have hchar : ∀ tail, c :: rest ≠ '/' :: tail := fun tail h ↦ hc (List.cons.inj h).1
      rw [List.head?_cons, Ne, Option.some.injEq]
      refine iff_of_true ?_ hc
      rw [FilePath.anchorOf]
      · exact fun tail ↦ hchar _
      · exact fun tail ↦ hchar _
      · exact hchar

theorem names_joined (w : Workspace) (path : String) :
    (w.joined path).names = w.namesTo path := by
  rw [joined, FilePath.join, namesTo]
  split
  · next h => exact (if_neg (anchorOf_eq_current_iff.mp h)).symm
  · next h =>
    by_cases habsolute : IsAbsolute path
    · rw [if_pos habsolute]
    · exact absurd (anchorOf_eq_current_iff.mpr habsolute) h

theorem resolve_eq_resolved_iff :
    w.tree.resolve [] (w.joined path) = .resolved loc ↔ w.LeadsTo path loc := by
  rw [FileTree.resolve, FilePath.start_nil, names_joined, FileTree.resolveFrom_eq_resolved_iff,
    LeadsTo]

/-- A path leads to one location at most. -/
theorem LeadsTo.unique {loc' : Location} (h : w.LeadsTo path loc) (h' : w.LeadsTo path loc') :
    loc = loc' := by
  obtain ⟨_, h⟩ := h
  obtain ⟨_, h'⟩ := h'
  exact h.unique h'

/-- The paths that lead somewhere are those that meet no circle. -/
theorem meetsCircle_iff : w.MeetsCircle path ↔ ¬∃ loc, w.LeadsTo path loc := by
  constructor
  · rintro ⟨stuck, hstuck⟩ ⟨loc, h⟩
    cases hstuck.symm.trans (resolve_eq_resolved_iff.mpr h)
  · intro h
    cases hr : w.tree.resolve [] (w.joined path) with
    | looped stuck => exact ⟨stuck, hr⟩
    | resolved loc => exact absurd ⟨loc, resolve_eq_resolved_iff.mp hr⟩ h

/-! ## Locating -/

/-- A workspace at a path that is read on a disk is one that can stand on a disk. -/
theorem isNameable_of_ofPath {t : FileTree} {current : Location} {s : String}
    (ht : t.HasPlainTargets) (hcurrent : current.IsNameable)
    (h : ofPath t current (.ofText s) = .ok w) : w.IsNameable := by
  obtain ⟨root, hroot, rfl⟩ := map_eq_ok_iff.mp h
  refine ⟨?_, ht⟩
  rw [FileTree.realLocation] at hroot
  split at hroot
  · cases hroot
  · next hnul =>
    split at hroot
    · cases hroot
    · cases hroot
      refine FileTree.isNameable_location ht ?_ fun name hname ↦ ?_
      · rw [FilePath.start]
        split
        · exact hcurrent
        · exact List.forall_mem_nil _
      · refine ⟨(FilePath.mem_names_ofText hname).1.noSlash, fun hc ↦ hnul ?_⟩
        exact List.any_eq_true.mpr ⟨name, hname, List.contains_iff_mem.mpr hc⟩

/-- A path that leads somewhere has its real location there. -/
theorem realLocation_of_leadsTo {t : FileTree} {current : Location} {p : FilePath}
    (hnul : p.hasNul = false) (hstart : t.IsReal (p.start current)) {depth : Nat}
    (h : t.LeadsTo depth (p.start current) p.names loc) :
    t.realLocation current p = .ok loc := by
  have hresolve : t.resolve current p = .resolved loc :=
    FileTree.resolveFrom_eq_resolved_iff.mpr ⟨depth, h⟩
  have hcircular := (h.isReal hstart).isCircular_eq_false
  rw [FileTree.realLocation, hresolve, hnul, Resolution.location, hcircular]
  rfl

/-- It is located there if it can be written and that lies within the workspace. -/
theorem locate_of_leadsTo (hroot : w.root.IsNameable) (h : w.LeadsTo path loc) :
    w.locate path = if '\x00' ∈ path.toList then .error (nulInName path)
      else if loc.isWithin w.root then .ok loc
      else .error (.configuration (.outsideWorkspace path)) := by
  by_cases hnul : '\x00' ∈ path.toList
  · rw [locate, if_pos (List.contains_iff_mem.mpr hnul), if_pos hnul]
  · have hjoined : (w.joined path).hasNul = false :=
      List.any_eq_false.mpr fun name hname ↦ by
        simpa using (mem_names_joined hroot hnul hname).2
    obtain ⟨depth, hleads⟩ := h
    rw [← names_joined, ← FilePath.start_nil (w.joined path)] at hleads
    have hstart : w.tree.IsReal ((w.joined path).start []) := by
      rw [FilePath.start_nil]
      trivial
    have hreal := realLocation_of_leadsTo hjoined hstart hleads
    rw [locate, if_neg (mt List.contains_iff_mem.mp hnul), if_neg hnul, ← joined, hreal]
    rfl

/-- The configuration errors are those of paths with a forbidden character and of paths that lead
outside. -/
theorem refused_iff (hroot : w.root.IsNameable) (h : w.LeadsTo path loc) :
    (∃ e, w.locate path = .error (.configuration e)) ↔
      '\x00' ∈ path.toList ∨ ¬loc.isWithin w.root := by
  rw [locate_of_leadsTo hroot h]
  by_cases hnul : '\x00' ∈ path.toList
  · rw [if_pos hnul]
    exact iff_of_true ⟨_, rfl⟩ (.inl hnul)
  · rw [if_neg hnul]
    by_cases hwithin : loc.isWithin w.root
    · rw [if_pos hwithin]
      exact iff_of_false nofun (not_or.mpr ⟨hnul, not_not_intro hwithin⟩)
    · rw [if_neg hwithin]
      exact iff_of_true ⟨_, rfl⟩ (.inr hwithin)

/-- What is forbidden, where it is known where the path leads. -/
theorem isForbidden_iff (h : w.LeadsTo path loc) :
    w.IsForbidden path ↔ '\x00' ∈ path.toList ∨ IsAbsolute path ∨ ¬loc.isWithin w.root := by
  constructor
  · rintro (hnul | habsolute | ⟨h', hout⟩)
    · exact .inl hnul
    · exact .inr (.inl habsolute)
    · rw [h.unique h']
      exact .inr (.inr hout)
  · rintro (hnul | habsolute | hout)
    · exact .nul hnul
    · exact .absolute habsolute
    · exact .outside h hout

/-- Where the path leads decides whether the rules are kept for it. -/
theorem keepsRules_of_leadsTo (hroot : w.root.IsNameable) (h : w.LeadsTo path loc) :
    w.KeepsRules path ↔ (IsAbsolute path → '\x00' ∈ path.toList ∨ ¬loc.isWithin w.root) := by
  constructor
  · intro hkeeps habsolute
    exact (refused_iff hroot h).mp (hkeeps.refuses.mpr (.absolute habsolute))
  · intro hrule
    constructor
    · rw [refused_iff hroot h, isForbidden_iff h]
      constructor
      · rintro (hnul | hout)
        · exact .inl hnul
        · exact .inr (.inr hout)
      · rintro (hnul | habsolute | hout)
        · exact .inl hnul
        · exact hrule habsolute
        · exact .inr hout
    · intro hallowed
      rw [isForbidden_iff h, not_or, not_or, not_not] at hallowed
      obtain ⟨hnul, -, hwithin⟩ := hallowed
      refine ⟨loc, h, ?_⟩
      rw [locate_of_leadsTo hroot h, if_neg hnul, if_pos hwithin]

/-- **The rules of a workspace.** For a path that meets no circle of links they are kept exactly if
the path is not absolute, or has a forbidden character or leads outside besides. -/
theorem keepsRules_iff {t : FileTree} {current : Location} {root : String}
    (ht : t.HasPlainTargets) (hcurrent : current.IsNameable)
    (hw : ofPath t current (.ofText root) = .ok w) (hc : ¬w.MeetsCircle path) :
    w.KeepsRules path ↔ (IsAbsolute path →
      '\x00' ∈ path.toList ∨ ∃ loc, w.LeadsTo path loc ∧ ¬loc.isWithin w.root) := by
  obtain ⟨loc, h⟩ : ∃ loc, w.LeadsTo path loc := by
    by_contra hnone
    exact hc (meetsCircle_iff.mpr hnone)
  have houtside : (∃ loc', w.LeadsTo path loc' ∧ ¬loc'.isWithin w.root) ↔ ¬loc.isWithin w.root := by
    constructor
    · rintro ⟨loc', h', hout⟩
      rwa [h.unique h']
    · intro hout
      exact ⟨loc, h, hout⟩
  rw [houtside]
  exact keepsRules_of_leadsTo (isNameable_of_ofPath ht hcurrent hw).root h

/-- An office with a report, an archive and a link to it, and a desk that links to the office. -/
private def office : FileTree :=
  ⟨[(["office"], .directory), (["report", "office"], .file [104, 105]),
    (["archive", "office"], .directory), (["latest", "office"], .link "/office/archive/"),
    (["desk"], .link "/office")]⟩

private theorem hasPlainTargets_office : office.HasPlainTargets := by
  intro loc target hfind
  have hmem := FileTree.mem_entries_of_find? hfind (by rintro rfl; cases hfind)
  simp only [office, List.mem_cons, Prod.mk.injEq, reduceCtorEq, and_false, Entry.link.injEq,
    List.not_mem_nil, or_false, false_or] at hmem
  rcases hmem with ⟨-, rfl⟩ | ⟨-, rfl⟩ <;> decide

/-- The desk leads to the office. -/
private theorem ofPath_office :
    ofPath office [] (.ofText "/desk") = .ok ⟨office, ["office"]⟩ := by
  obtain ⟨depth, hdesk⟩ := FileTree.resolveFrom_eq_resolved_iff.mp
    (show office.resolveFrom [] [] ["desk"] = .resolved ["office"] by cbv)
  have hreal : office.realLocation [] (.ofText "/desk") = .ok ["office"] :=
    realLocation_of_leadsTo (by decide) trivial hdesk
  rw [ofPath, hreal]
  rfl

private theorem leadsTo_letter :
    LeadsTo ⟨office, ["office"]⟩ "latest/2024/../../letter" ["letter", "office"] := by
  have hresolve : office.resolveFrom [] [] ["office", "latest", "2024", "..", "..", "letter"]
      = .resolved ["letter", "office"] := by cbv
  have hnames : namesTo ⟨office, ["office"]⟩ "latest/2024/../../letter"
      = ["office", "latest", "2024", "..", "..", "letter"] := by decide
  rw [LeadsTo, hnames]
  exact FileTree.resolveFrom_eq_resolved_iff.mp hresolve

/-- A path through a link and up again, to a letter that is not written yet, is located where it
leads. -/
theorem keepsRules_office :
    (⟨office, ["office"]⟩ : Workspace).KeepsRules "latest/2024/../../letter" ∧
      ¬(⟨office, ["office"]⟩ : Workspace).IsForbidden "latest/2024/../../letter" := by
  have hc : ¬MeetsCircle ⟨office, ["office"]⟩ "latest/2024/../../letter" :=
    fun hc ↦ meetsCircle_iff.mp hc ⟨_, leadsTo_letter⟩
  have hcurrent : Location.IsNameable [] := List.forall_mem_nil _
  have hrelative : ¬IsAbsolute "latest/2024/../../letter" := by decide
  constructor
  · exact (keepsRules_iff hasPlainTargets_office hcurrent ofPath_office hc).mpr
      fun h ↦ absurd h hrelative
  · rw [isForbidden_iff leadsTo_letter]
    decide

/-- An absolute path to the report in the office is located as well, although it is forbidden. -/
theorem not_keepsRules_absolute :
    ofPath office [] (.ofText "/desk") = .ok ⟨office, ["office"]⟩ ∧
      ¬MeetsCircle ⟨office, ["office"]⟩ "/office/report" ∧ IsAbsolute "/office/report" ∧
      locate ⟨office, ["office"]⟩ "/office/report" = .ok ["report", "office"] ∧
      ¬(⟨office, ["office"]⟩ : Workspace).KeepsRules "/office/report" := by
  have hleads : LeadsTo ⟨office, ["office"]⟩ "/office/report" ["report", "office"] := by
    have hnames : namesTo ⟨office, ["office"]⟩ "/office/report" = ["office", "report"] := by decide
    rw [LeadsTo, hnames]
    exact FileTree.resolveFrom_eq_resolved_iff.mp (by cbv)
  have hcurrent : Location.IsNameable [] := List.forall_mem_nil _
  have hroot := (isNameable_of_ofPath hasPlainTargets_office hcurrent ofPath_office).root
  have hlocate : locate ⟨office, ["office"]⟩ "/office/report" = .ok ["report", "office"] := by
    rw [locate_of_leadsTo hroot hleads, if_neg (by decide), if_pos (by decide)]
  have habsolute : IsAbsolute "/office/report" := by decide
  refine ⟨ofPath_office, fun hc ↦ meetsCircle_iff.mp hc ⟨_, hleads⟩, habsolute, hlocate, ?_⟩
  intro hkeeps
  obtain ⟨e, he⟩ := hkeeps.refuses.mpr (.absolute habsolute)
  cases hlocate.symm.trans he

end MailDispatch.Workspace
