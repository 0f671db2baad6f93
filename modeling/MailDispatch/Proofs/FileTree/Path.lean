import MailDispatch.FileTree.Path
import MailDispatch.Proofs.Text.Pieces

/-!
# Names, paths and locations

Which names a path can hold, which of them an entry can have, and how a location is reached from
another one by names alone: up as often as there are names, and down again.
-/

namespace MailDispatch

/-- A name that stands between the slashes of a path: neither empty nor a single dot. -/
structure IsComponent (name : String) : Prop where
  ne_empty : name ≠ ""
  ne_dot : name ≠ "."
  noSlash : '/' ∉ name.toList

/-- A name that an entry of a file tree can have. -/
structure IsEntryName (name : String) : Prop extends IsComponent name where
  ne_up : name ≠ ".."
  noNul : '\x00' ∉ name.toList

/-- A name without the two characters that no name of an entry can hold. -/
def IsPlain (name : String) : Prop := '/' ∉ name.toList ∧ '\x00' ∉ name.toList

/-- A location all of whose names are names of entries. -/
def Location.IsNameable (loc : Location) : Prop := ∀ name ∈ loc, IsEntryName name

/-! ## Reading paths -/

namespace FilePath

variable {s : String} {name : String} {names : List String}

theorem mem_names_ofText (h : name ∈ (ofText s).names) :
    IsComponent name ∧ ∀ c ∈ name.toList, c ∈ s.toList := by
  obtain ⟨hmem, hname⟩ := List.mem_filter.mp h
  obtain ⟨piece, hpiece, rfl⟩ := List.mem_map.mp hmem
  obtain ⟨hempty, hdot⟩ := of_decide_eq_true hname
  refine ⟨⟨hempty, hdot, fun hslash ↦ ?_⟩, fun c hc ↦ ?_⟩
  · rw [String.toList_ofList] at hslash
    exact (Text.mem_of_mem_pieces hpiece hslash).2 rfl
  · rw [String.toList_ofList] at hc
    exact (Text.mem_of_mem_pieces hpiece hc).1

theorem namesOf_slash (h : ∀ name ∈ names, IsComponent name) :
    namesOf ('/' :: ['/'].intercalate (names.map String.toList)) = names := by
  have hkeep : names.filter (fun name ↦ decide (name ≠ "" ∧ name ≠ ".")) = names :=
    List.filter_eq_self.mpr fun name hname ↦
      decide_eq_true ⟨(h name hname).ne_empty, (h name hname).ne_dot⟩
  rw [namesOf, Text.pieces, if_pos rfl]
  cases names with
  | nil => rfl
  | cons first rest =>
    have hslash : ∀ part ∈ (first :: rest).map String.toList, '/' ∉ part := by
      intro part hpart
      obtain ⟨name, hname, rfl⟩ := List.mem_map.mp hpart
      exact (h name hname).noSlash
    have hback : ((first :: rest).map String.toList).map String.ofList = first :: rest := by
      rw [List.map_map]
      exact (List.map_congr_left fun name _ ↦ String.ofList_toList).trans (List.map_id _)
    rw [Text.pieces_intercalate hslash (List.cons_ne_nil _ _), List.map_cons, hback]
    exact hkeep

theorem anchorOf_slash (h : ∀ name ∈ names, IsComponent name) :
    anchorOf ('/' :: ['/'].intercalate (names.map String.toList)) = .root := by
  -- the first name is not empty, and it does not begin with a slash
  cases names with
  | nil => rfl
  | cons first rest =>
    obtain ⟨hempty, -, hslash⟩ := h first List.mem_cons_self
    cases hchars : first.toList with
    | nil => exact absurd (String.toList_eq_nil_iff.mp hchars) hempty
    | cons c cs =>
      have hc : c ≠ '/' := fun hc ↦ hslash (by rw [hchars, hc]; exact List.mem_cons_self)
      cases rest with
      | nil => simp [anchorOf, hchars, List.intercalate, hc]
      | cons next others => simp [anchorOf, hchars, List.intercalate_cons_cons, hc]

theorem toList_text (names : List String) : (text ⟨.root, names⟩).toList
    = '/' :: ['/'].intercalate (names.map String.toList) := by
  rw [text, String.toList_append, String.toList_intercalate]
  rfl

/-- The text of an absolute path is read as that path. -/
theorem ofText_text (h : ∀ name ∈ names, IsComponent name) :
    ofText (text ⟨.root, names⟩) = ⟨.root, names⟩ := by
  rw [ofText, toList_text, ofChars, anchorOf_slash h, namesOf_slash h]

theorem mem_text {c : Char} (h : c ∈ (text ⟨.root, names⟩).toList) :
    c = '/' ∨ ∃ name ∈ names, c ∈ name.toList := by
  rw [toList_text] at h
  rcases List.mem_cons.mp h with hc | h'
  · exact .inl hc
  · rcases Text.mem_intercalate h' with hc | ⟨part, hpart, hc⟩
    · exact .inl hc
    · obtain ⟨name, hname, rfl⟩ := List.mem_map.mp hpart
      exact .inr ⟨name, hname, hc⟩

/-- A path seen from the root of the tree starts there. -/
theorem start_nil (p : FilePath) : p.start [] = [] := by
  rw [start]
  split <;> rfl

/-- The names of a joined path come from its parts. -/
theorem mem_names_join {p other : FilePath} (h : name ∈ (p.join other).names) :
    name ∈ p.names ∨ name ∈ other.names := by
  rw [join] at h
  split at h
  · exact List.mem_append.mp h
  · exact .inr h

end FilePath

/-! ## Steps -/

namespace Location

theorem steps_append (loc : Location) (names names' : List String) :
    loc.steps (names ++ names') = (loc.steps names).steps names' :=
  List.foldl_append

/-- A step by a plain name keeps to names of entries. -/
theorem IsNameable.step {loc : Location} (h : loc.IsNameable) {name : String}
    (hname : IsPlain name) : (loc.step name).IsNameable := by
  rw [Location.step]
  split
  · exact fun n hn ↦ h n (List.mem_of_mem_tail hn)
  · next hup =>
    split
    · exact h
    · next hstay =>
      have hdot : name ≠ "." ∧ name ≠ "" := by simpa using hstay
      intro n hn
      rcases List.mem_cons.mp hn with rfl | hn'
      · exact ⟨⟨hdot.2, hdot.1, hname.1⟩, hup, hname.2⟩
      · exact h n hn'

theorem IsNameable.steps {names : List String} (hnames : ∀ name ∈ names, IsPlain name)
    {loc : Location} (h : loc.IsNameable) : (loc.steps names).IsNameable := by
  induction names generalizing loc with
  | nil => exact h
  | cons name rest ih =>
    exact ih (fun n hn ↦ hnames n (List.mem_cons_of_mem name hn))
      (h.step (hnames name List.mem_cons_self))

/-- Names of entries lead down, one after the other. -/
theorem steps_of_entryNames {names : List String} (h : ∀ name ∈ names, IsEntryName name)
    (loc : Location) : loc.steps names = names.reverse ++ loc := by
  induction names generalizing loc with
  | nil => rfl
  | cons name rest ih =>
    obtain ⟨⟨hempty, hdot, -⟩, hup, -⟩ := h name List.mem_cons_self
    have hstep : loc.step name = name :: loc := by simp [step, hempty, hdot, hup]
    show (loc.step name).steps rest = _
    rw [hstep, ih fun n hn ↦ h n (List.mem_cons_of_mem name hn), List.reverse_cons,
      List.append_assoc]
    rfl

theorem steps_up (loc : Location) (n : Nat) : loc.steps (List.replicate n "..") = loc.drop n := by
  induction n generalizing loc with
  | zero => rfl
  | succ n ih =>
    rw [List.replicate_succ]
    show (loc.step "..").steps _ = _
    rw [ih]
    cases loc with
    | nil => simp [step]
    | cons name parent => simp [step]

/-- Names that lead from one location to another: all the way up, and down. -/
def route (start goal : Location) : List String :=
  List.replicate start.length ".." ++ goal.reverse

theorem steps_route {goal : Location} (h : goal.IsNameable) (start : Location) :
    start.steps (route start goal) = goal := by
  rw [route, steps_append, steps_up, List.drop_length,
    steps_of_entryNames (fun name hname ↦ h name (List.mem_reverse.mp hname)),
    List.reverse_reverse, List.append_nil]

/-- Every name on a route can be written in a path. -/
theorem isComponent_of_mem_route {start goal : Location} (h : goal.IsNameable)
    {name : String} (hname : name ∈ route start goal) :
    IsComponent name ∧ '\x00' ∉ name.toList := by
  rcases List.mem_append.mp hname with hup | hdown
  · rw [List.eq_of_mem_replicate hup]
    exact ⟨⟨by decide, by decide, by decide⟩, by decide⟩
  · have hentry := h name (List.mem_reverse.mp hdown)
    exact ⟨hentry.toIsComponent, hentry.noNul⟩

end Location

end MailDispatch
