import MailDispatch.FileTree.RealPath
import MailDispatch.Proofs.FileTree.Path

/-!
# What resolving a path yields

A path that is resolved to its end leads to a real location: no link is left on it, so that a walk
along its names goes nowhere else. A path that is given up on a circle of links may still have links
on it; whatever is written behind it is then followed by names alone.
-/

namespace MailDispatch.FileTree

variable {t : FileTree} {links : Nat} {visiting : List Location}
  {base loc current : Location} {names : List String}

/-! ## Real locations -/

/-- A location at which, and on the way to which, there is no link, nor a step that is none. -/
def IsReal (t : FileTree) : Location → Prop
  | [] => True
  | name :: parent =>
    (∀ target, t.find? (name :: parent) ≠ some (.link target)) ∧ name ≠ "." ∧ name ≠ ".." ∧
      t.IsReal parent

theorem IsReal.tail (h : t.IsReal loc) : t.IsReal loc.tail := by
  cases loc with
  | nil => trivial
  | cons name parent => exact h.2.2.2

/-- What lies on the way to a real location is real. -/
theorem IsReal.of_append {below : List String} (h : t.IsReal (below ++ loc)) : t.IsReal loc := by
  induction below with
  | nil => exact h
  | cons name below ih => exact ih h.tail

theorem IsReal.step (h : t.IsReal base) {name : String}
    (hname : name = ".." ∨ name = "." ∨ name = "") : t.IsReal (base.step name) := by
  rw [Location.step]
  split
  · exact h.tail
  · next hup =>
    rw [if_pos (by simpa using hname.resolve_left hup)]
    exact h

theorem isReal_targetStart (h : t.IsReal base) (target : String) :
    t.IsReal (targetStart base target) := by
  rw [targetStart]
  split
  · trivial
  · exact h

/-- What a path is resolved to is real. -/
theorem isReal_of_resolveFrom (hbase : t.IsReal base)
    (h : t.resolveFrom visiting base names = .resolved loc) : t.IsReal loc := by
  fun_induction resolveFrom t visiting base names generalizing loc with
  | case1 => cases h; exact hbase
  -- a step that is no name
  | case2 _ _ _ _ hstep ih => exact ih (hbase.step (by simpa [or_assoc] using hstep)) h
  -- a link that is given up
  | case3 | case4 => cases h
  -- a link whose target is resolved, and then what is written behind it
  | case5 _ _ _ _ _ target _ _ _ htarget ihtarget ih =>
    exact ih (ihtarget (isReal_targetStart hbase target) htarget) h
  -- a name without a link
  | case6 _ _ _ _ hstep hlink ih =>
    have hname := not_or.mp fun h' ↦ hstep (by simpa [or_assoc] using h')
    exact ih ⟨fun target ht ↦ hlink target ht, fun hdot ↦ hname.2 (.inl hdot), hname.1, hbase⟩ h

/-- A walk along the names of a real location ends there, if it ends at an entry. -/
theorem eq_of_walk {e : Entry} (hreal : t.IsReal (names.reverse ++ current))
    (h : t.walk links current names = .ok (.there loc e)) : loc = names.reverse ++ current := by
  induction names generalizing current with
  | nil =>
    rw [walk] at h
    split at h
    · cases h; rfl
    · cases h
  | cons name rest ih =>
    rw [List.reverse_cons, List.append_assoc] at hreal ⊢
    obtain ⟨hlink, hdot, hup, -⟩ : t.IsReal (name :: current) := hreal.of_append
    rw [walk, if_neg hdot, if_neg hup] at h
    split at h
    · cases h
    · split at h
      · cases h
      · split at h
        · split at h <;> cases h
        · next ht => exact absurd ht (hlink _)
        · exact ih hreal h

/-- A walk along the names of a real location passes no link. -/
theorem walk_ne_tooManyLinks (hreal : t.IsReal (names.reverse ++ current)) :
    t.walk links current names ≠ .error .tooManyLinks := by
  induction names generalizing current with
  | nil =>
    rw [walk]
    split <;> (intro h; cases h)
  | cons name rest ih =>
    rw [List.reverse_cons, List.append_assoc] at hreal
    obtain ⟨hlink, hdot, hup, -⟩ : t.IsReal (name :: current) := hreal.of_append
    rw [walk, if_neg hdot, if_neg hup]
    split
    · intro h
      cases h
    · split
      · intro h
        cases h
      · split
        · split <;> (intro h; cases h)
        · next ht => exact absurd ht (hlink _)
        · exact ih hreal

/-- A walk ends at an entry that is there. -/
theorem find?_of_walk {e : Entry} (h : t.walk links current names = .ok (.there loc e)) :
    t.find? loc = some e := by
  fun_induction walk t links current names with
  | case1 _ _ _ hfind => cases h; exact hfind
  -- the walk goes on: nowhere, up, behind a link, or down
  | case4 _ _ _ _ ih => exact ih h
  | case5 _ _ _ _ _ ih => exact ih h
  | case10 _ _ _ _ _ _ _ _ _ _ ih => exact ih h
  | case11 _ _ _ _ _ _ _ _ _ _ _ ih => exact ih h
  | _ => cases h

theorem find?_of_reach {e : Entry} {p : FilePath} (h : t.reach current p = .ok (.there loc e)) :
    t.find? loc = some e := by
  rw [reach] at h
  split at h
  · cases h
  · exact find?_of_walk h

/-- What is read is the content of a file that the path leads to. -/
theorem read_eq_ok_iff {p : FilePath} {data : List UInt8} : t.read current p = .ok data ↔
    ∃ loc, t.reach current p = .ok (.there loc (.file data)) := by
  rw [read, status]
  constructor
  · intro h
    cases hr : t.reach current p with
    | error f => rw [hr] at h; cases h
    | ok r =>
      rw [hr] at h
      cases r with
      | missing loc => cases h
      | there loc e =>
        cases e with
        | file content => cases h; exact ⟨loc, rfl⟩
        | _ => cases h
  · rintro ⟨loc, hr⟩
    rw [hr]
    rfl

/-- Opening a real location leads to an entry there, or to none. -/
theorem eq_of_reach {e : Entry} (hreal : t.IsReal base)
    (h : t.reach [] (.ofLocation base) = .ok (.there loc e)) : loc = base := by
  have hsame : (FilePath.ofLocation base).names.reverse ++ [] = base := by
    rw [FilePath.ofLocation, List.reverse_reverse, List.append_nil]
  rw [reach, FilePath.start_nil] at h
  split at h
  · cases h
  · exact (eq_of_walk (by rwa [hsame]) h).trans hsame

/-! ## Faults -/

/-- Following names fails for four reasons; the others are left to those who write. -/
theorem fault_of_walk {fault : FileFault} (h : t.walk links current names = .error fault) :
    fault ∈ [.notFound, .notDirectory, .nameTooLong, .tooManyLinks] := by
  fun_induction walk t links current names with
  -- the walk goes on: nowhere, up, behind a link, or down
  | case4 _ _ _ _ ih => exact ih h
  | case5 _ _ _ _ _ ih => exact ih h
  | case10 _ _ _ _ _ _ _ _ _ _ ih => exact ih h
  | case11 _ _ _ _ _ _ _ _ _ _ _ ih => exact ih h
  | _ => cases h <;> decide

theorem fault_of_status {p : FilePath} {fault : FileFault}
    (h : t.status current p = .error fault) :
    fault ∈ [.notFound, .notDirectory, .nameTooLong, .tooManyLinks] := by
  rw [status, reach] at h
  split at h
  · cases h
    decide
  · cases hwalk : t.walk maxLinks (p.start current) p.names with
    | error fault' =>
      rw [hwalk] at h
      cases h
      exact fault_of_walk hwalk
    | ok reached =>
      rw [hwalk] at h
      cases reached <;> cases h
      decide

/-! ## Circles of links -/

theorem givenUp_of_not_mem (h : "" ∉ names) (link : Location) :
    givenUp link names = link.steps names := by
  unfold givenUp
  split
  · exact absurd List.mem_cons_self h
  · rfl

/-- What is written behind a path that is given up is followed by names alone. -/
theorem resolveFrom_append {extra : List String} (hnames : "" ∉ names ++ extra)
    (h : t.resolveFrom visiting base names = .looped loc) :
    t.resolveFrom visiting base (names ++ extra) = .looped (loc.steps extra) := by
  have hgivenUp : ∀ (link : Location) (name : String) (rest : List String),
      "" ∉ name :: rest ++ extra →
        givenUp link (rest ++ extra) = (givenUp link rest).steps extra := by
    intro link name rest hmem
    have hall : "" ∉ rest ++ extra := fun hm ↦ hmem (List.mem_cons_of_mem name hm)
    rw [givenUp_of_not_mem hall, Location.steps_append,
      givenUp_of_not_mem fun hm ↦ hall (List.mem_append_left extra hm)]
  fun_induction resolveFrom t visiting base names generalizing loc with
  | case1 => cases h
  | case2 _ _ _ _ hstep ih =>
    rw [List.cons_append, resolveFrom_of_step hstep]
    exact ih (fun hm ↦ hnames (List.mem_cons_of_mem _ hm)) h
  | case3 _ _ _ _ hstep _ hlink hvisiting =>
    cases h
    rw [List.cons_append, resolveFrom_of_visiting hstep hlink hvisiting, hgivenUp _ _ _ hnames]
  | case4 _ _ _ _ hstep _ hlink hnew _ htarget _ =>
    cases h
    rw [List.cons_append, resolveFrom_of_looped hstep hlink hnew htarget, hgivenUp _ _ _ hnames]
  | case5 _ _ _ _ hstep _ hlink hnew _ htarget _ ih =>
    rw [List.cons_append, resolveFrom_of_resolved hstep hlink hnew htarget]
    exact ih (fun hm ↦ hnames (List.mem_cons_of_mem _ hm)) h
  | case6 _ _ _ _ hstep hfree ih =>
    rw [List.cons_append, resolveFrom_of_free hstep fun target ↦ hfree target]
    exact ih (fun hm ↦ hnames (List.mem_cons_of_mem _ hm)) h

/-- A location leads around in a circle only if walking to it passes too many links. -/
theorem isCircular_eq_false_of_walk
    (h : t.walk maxLinks [] loc.reverse ≠ .error .tooManyLinks) : t.isCircular loc = false := by
  have hreach : t.reach [] (.ofLocation loc) ≠ .error .tooManyLinks := by
    rw [reach, FilePath.start_nil]
    split
    · nofun
    · exact h
  rw [isCircular, status]
  generalize t.reach [] (.ofLocation loc) = r at hreach ⊢
  rcases r with f | r
  · cases f with
    | tooManyLinks => exact absurd rfl hreach
    | _ => rfl
  · cases r <;> rfl

/-- A real location does not lead around in a circle. -/
theorem IsReal.isCircular_eq_false (h : t.IsReal loc) : t.isCircular loc = false := by
  refine isCircular_eq_false_of_walk (walk_ne_tooManyLinks ?_)
  rwa [List.reverse_reverse, List.append_nil]

/-- Without links nothing leads around in circles. -/
theorem isCircular_eq_false (h : ∀ loc target, t.find? loc ≠ some (.link target))
    (loc : Location) : t.isCircular loc = false := by
  have hwalk : ∀ links current names, t.walk links current names ≠ .error .tooManyLinks := by
    intro links current names
    fun_induction walk t links current names <;> simp_all
  exact isCircular_eq_false_of_walk (hwalk _ _ _)

/-! ## Names -/

/-- No link has a target that no path could hold. -/
def HasPlainTargets (t : FileTree) : Prop :=
  ∀ loc target, t.find? loc = some (.link target) → '\x00' ∉ target.toList

/-- What stands somewhere is an entry, or the root. -/
theorem mem_entries_of_find? {e : Entry} (h : t.find? loc = some e) (hloc : loc ≠ []) :
    (loc, e) ∈ t.entries := by
  obtain ⟨name, parent, rfl⟩ := List.exists_cons_of_ne_nil hloc
  exact mem_entries_of_find?_cons h

theorem isPlain_of_mem_segments {target name : String} (h : '\x00' ∉ target.toList)
    (hname : name ∈ segments target) : IsPlain name := by
  obtain ⟨piece, hpiece, rfl⟩ := List.mem_map.mp hname
  rw [IsPlain, String.toList_ofList]
  exact ⟨fun hc ↦ (Text.mem_of_mem_pieces hpiece hc).2 rfl,
    fun hc ↦ h (Text.mem_of_mem_pieces hpiece hc).1⟩

theorem isNameable_targetStart (h : base.IsNameable) (target : String) :
    (targetStart base target).IsNameable := by
  rw [targetStart]
  split
  · exact fun _ hn ↦ nomatch hn
  · exact h

theorem isNameable_givenUp {link : Location} (h : link.IsNameable)
    (hnames : ∀ name ∈ names, IsPlain name) : (givenUp link names).IsNameable := by
  unfold givenUp
  split
  · exact Location.IsNameable.steps (fun name hname ↦ hnames name (List.mem_cons_of_mem _ hname))
      fun _ hn ↦ nomatch hn
  · exact h.steps hnames

/-- A name that is followed down is the name of an entry. -/
theorem isNameable_down {name : String} {rest : List String}
    (hstep : ¬(decide (name = "..") || decide (name = ".") || decide (name = "")) = true)
    (hbase : base.IsNameable) (hnames : ∀ n ∈ name :: rest, IsPlain n) :
    Location.IsNameable (name :: base) ∧ ∀ n ∈ rest, IsPlain n := by
  have hname : base.step name = name :: base := by
    simp only [Bool.or_eq_true, decide_eq_true_eq, not_or] at hstep
    simp [Location.step, hstep]
  rw [← hname]
  exact ⟨hbase.step (hnames name List.mem_cons_self),
    fun n hn ↦ hnames n (List.mem_cons_of_mem name hn)⟩

/-- Resolving keeps to names of entries, whether or not it comes to an end. -/
theorem isNameable_location (ht : t.HasPlainTargets) (hbase : base.IsNameable)
    (hnames : ∀ name ∈ names, IsPlain name) :
    (t.resolveFrom visiting base names).location.IsNameable := by
  fun_induction resolveFrom t visiting base names with
  | case1 => exact hbase
  | case2 _ _ name rest _ ih =>
    exact ih (hbase.step (hnames name List.mem_cons_self))
      fun n hn ↦ hnames n (List.mem_cons_of_mem name hn)
  | case3 _ _ _ _ hstep =>
    obtain ⟨hlink, hrest⟩ := isNameable_down hstep hbase hnames
    exact isNameable_givenUp hlink hrest
  | case4 _ _ _ _ hstep _ hlink _ _ htarget ih =>
    have hloc := ih (isNameable_targetStart hbase _) fun n hn ↦
      isPlain_of_mem_segments (ht _ _ hlink) hn
    rw [htarget] at hloc
    exact isNameable_givenUp hloc (isNameable_down hstep hbase hnames).2
  | case5 _ _ _ _ hstep _ hlink _ _ htarget ihtarget ih =>
    have hloc := ihtarget (isNameable_targetStart hbase _) fun n hn ↦
      isPlain_of_mem_segments (ht _ _ hlink) hn
    rw [htarget] at hloc
    exact ih hloc (isNameable_down hstep hbase hnames).2
  | case6 _ _ _ _ hstep _ ih =>
    obtain ⟨hhere, hrest⟩ := isNameable_down hstep hbase hnames
    exact ih hhere hrest

end MailDispatch.FileTree
