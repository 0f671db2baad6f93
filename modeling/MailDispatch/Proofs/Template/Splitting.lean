import MailDispatch.Proofs.Journal.Contract
import MailDispatch.Proofs.Text.Runs
import MailDispatch.Proofs.Value.Writable
import MailDispatch.Template

/-!
# Templates from left to right

What a template consists of can be said without a word about how it is read. A dollar sign refers to
what stands behind it if that is another dollar sign, a name, or a name between braces
(`RefersTo`). From left to right, a template is such references and single characters
(`SplitsInto`), and a dollar sign is a single character only where it refers to nothing. Every
template splits in one way, which is how it is split.

What a piece becomes is a matter of that piece and of the parameters (`Piece.Becomes`), and a
rendered template is what its pieces become, one after the other. The pieces are there before any
parameter is looked at: nothing that a value brings in is ever taken for a part of the template, and
a parameter has no influence unless the template names it.
-/

namespace MailDispatch.Template

/-! ## Names -/

/-- An ASCII letter, or an underscore. -/
def IsLetter (c : Char) : Prop := 'a' ≤ c ∧ c ≤ 'z' ∨ 'A' ≤ c ∧ c ≤ 'Z' ∨ c = '_'

/-- An ASCII letter, an underscore, or an ASCII digit. -/
def IsLetterOrDigit (c : Char) : Prop := IsLetter c ∨ '0' ≤ c ∧ c ≤ '9'

instance : DecidablePred IsLetter := fun _ ↦ inferInstanceAs (Decidable (_ ∨ _))

instance : DecidablePred IsLetterOrDigit := fun _ ↦ inferInstanceAs (Decidable (_ ∨ _))

/-- A letter, and behind it letters and digits. -/
inductive IsName : List Char → Prop
  | mk {c : Char} {rest : List Char} (hc : IsLetter c) (hrest : ∀ d ∈ rest, IsLetterOrDigit d) :
    IsName (c :: rest)

theorem isNameStart_iff {c : Char} : isNameStart c ↔ IsLetter c := by
  simp only [isNameStart, Char.isAlpha, Char.isUpper, Char.isLower, IsLetter, Char.le_def,
    Bool.or_eq_true, Bool.and_eq_true, decide_eq_true_eq, ge_iff_le]
  tauto

theorem isNameChar_iff {c : Char} : isNameChar c ↔ IsLetterOrDigit c := by
  rw [IsLetterOrDigit, ← isNameStart_iff]
  simp only [isNameChar, isNameStart, Char.isAlphanum, Char.isDigit, Char.le_def,
    Bool.or_eq_true, Bool.and_eq_true, decide_eq_true_eq, ge_iff_le]
  tauto

theorem isNameChar_eq_false_iff {c : Char} : isNameChar c = false ↔ ¬IsLetterOrDigit c := by
  rw [← isNameChar_iff, Bool.not_eq_true]

variable {s name left : List Char} {piece : Piece} {pieces : List Piece}

/-- The name that is taken is as long as it can be. -/
theorem takeName_eq_some_iff :
    takeName s = some (name, left) ↔
      s = name ++ left ∧ IsName name ∧ ∀ c ∈ left.head?, ¬IsLetterOrDigit c := by
  constructor
  · intro h
    cases s with
    | nil => cases h
    | cons c rest =>
      rw [takeName] at h
      split at h
      · next hc =>
        cases h
        obtain ⟨hrest, hrun, hleft⟩ := Text.takeWhile_dropWhile_iff (s := rest).mp ⟨rfl, rfl⟩
        exact ⟨congrArg (c :: ·) hrest,
          .mk (isNameStart_iff.mp hc) fun d hd ↦ isNameChar_iff.mp (hrun d hd),
          fun d hd ↦ isNameChar_eq_false_iff.mp (hleft d hd)⟩
      · cases h
  · rintro ⟨rfl, ⟨hc, hrest⟩, hleft⟩
    obtain ⟨htake, hdrop⟩ := Text.takeWhile_dropWhile_iff.mpr
      ⟨rfl, fun d hd ↦ isNameChar_iff.mpr (hrest d hd),
        fun d hd ↦ isNameChar_eq_false_iff.mpr (hleft d hd)⟩
    rw [List.cons_append, takeName, if_pos (isNameStart_iff.mpr hc), htake, hdrop]

/-! ## References -/

/-- What stands behind a dollar sign is something that it refers to, and a rest. A name without
braces is as long as it can be. -/
inductive RefersTo : List Char → Piece → List Char → Prop
  | dollar (left : List Char) : RefersTo ('$' :: left) .dollar left
  | bare {name left : List Char} (hname : IsName name)
    (hleft : ∀ c ∈ left.head?, ¬IsLetterOrDigit c) :
    RefersTo (name ++ left) (.variable name false) left
  | braced {name : List Char} (hname : IsName name) (left : List Char) :
    RefersTo ('\x7b' :: (name ++ '\x7d' :: left)) (.variable name true) left

theorem reference_eq_some_iff : reference s = some (piece, left) ↔ RefersTo s piece left := by
  constructor
  · intro h
    unfold reference at h
    split at h
    · cases h
      exact .dollar left
    · split at h
      · next hn =>
        cases h
        obtain ⟨rfl, hname, -⟩ := takeName_eq_some_iff.mp hn
        exact .braced hname left
      · cases h
    · obtain ⟨⟨name, left'⟩, hn, h⟩ := Option.map_eq_some_iff.mp h
      cases h
      obtain ⟨rfl, hname, hleft⟩ := takeName_eq_some_iff.mp hn
      exact .bare hname hleft
  · intro h
    cases h with
    | dollar => rfl
    | bare hname hleft =>
      have hn := takeName_eq_some_iff.mpr ⟨rfl, hname, hleft⟩
      obtain ⟨hc, hrest⟩ := hname
      -- no name begins like the other references
      unfold reference
      split
      · next h => exact absurd ((List.cons.inj h).1 ▸ hc) (by decide)
      · next h => exact absurd ((List.cons.inj h).1 ▸ hc) (by decide)
      · rw [hn]
        rfl
    | braced hname =>
      have hbrace : ∀ c ∈ ('\x7d' :: left).head?, ¬IsLetterOrDigit c := by
        rintro c ⟨⟩
        decide
      rw [reference, takeName_eq_some_iff.mpr ⟨rfl, hname, hbrace⟩]
      rfl

theorem reference_eq_none_iff :
    reference s = none ↔ ∀ piece left, ¬RefersTo s piece left := by
  simp only [← reference_eq_some_iff, Option.eq_none_iff_forall_ne_some, Prod.forall, ne_eq]

/-! ## Splitting -/

/-- A template, and its pieces from left to right. A dollar sign is a reference wherever it can be
one. -/
inductive SplitsInto : List Char → List Piece → Prop
  | nil : SplitsInto [] []
  | plain {c : Char} {s : List Char} {pieces : List Piece} (hc : c ≠ '$')
    (hs : SplitsInto s pieces) : SplitsInto (c :: s) (.plain c :: pieces)
  | reference {s left : List Char} {piece : Piece} {pieces : List Piece}
    (h : RefersTo s piece left) (hleft : SplitsInto left pieces) :
    SplitsInto ('$' :: s) (piece :: pieces)
  | lone {s : List Char} {pieces : List Piece} (h : ∀ piece left, ¬RefersTo s piece left)
    (hs : SplitsInto s pieces) : SplitsInto ('$' :: s) (.plain '$' :: pieces)

theorem split_of_reference (h : reference s = some (piece, left)) :
    split ('$' :: s) = piece :: split left := by
  rw [split, if_pos rfl]
  split
  · next h' =>
    rw [h'] at h
    cases h
    rfl
  · next h' =>
    rw [h'] at h
    cases h

theorem split_of_no_reference (h : reference s = none) :
    split ('$' :: s) = .plain '$' :: split s := by
  rw [split, if_pos rfl]
  split
  · next h' =>
    rw [h'] at h
    cases h
  · rfl

/-- Every template splits in one way. -/
theorem splitsInto_iff : SplitsInto s pieces ↔ pieces = split s := by
  constructor
  · intro h
    -- each rule is one step of the splitter
    induction h with
    | nil => rw [split]
    | plain hc hs ih => rw [split, if_neg hc, ih]
    | reference h hleft ih => rw [split_of_reference (reference_eq_some_iff.mpr h), ih]
    | lone h hs ih => rw [split_of_no_reference (reference_eq_none_iff.mpr h), ih]
  · rintro rfl
    fun_induction split s with
    | case1 => exact .nil
    | case2 rest piece left h _ ih => exact .reference (reference_eq_some_iff.mp h) ih
    | case3 rest h ih => exact .lone (reference_eq_none_iff.mp h) ih
    | case4 c rest hc ih => exact .plain hc ih

/-! ## Rendering -/

/-- What a piece becomes: the text of the parameter that it names, or else what it is in the
template; two dollar signs become one. -/
inductive Piece.Becomes (bindings : Table) : Piece → String → Prop
  | plain (c : Char) : Becomes bindings (.plain c) (String.singleton c)
  | dollar : Becomes bindings .dollar "$"
  | bound {name : List Char} {v : Value} {shown : String} (braced : Bool)
    (hv : bindings.lookup (String.ofList name) = some v) (hshown : v.text? = some shown) :
    Becomes bindings (.variable name braced) shown
  | unbound {name : List Char} (braced : Bool)
    (hnone : bindings.lookup (String.ofList name) = none) :
    Becomes bindings (.variable name braced) (String.ofList (Piece.variable name braced).written)

variable {bindings bindings' : Table} {template shown : String}

theorem plain_eq_ok_iff {v : Value} : v.plain = .ok shown ↔ v.text? = some shown := by
  rw [Value.plain]
  cases v.text? with
  | none => exact iff_of_false nofun nofun
  | some s =>
    exact ⟨fun h ↦ congrArg some (Except.ok.inj h), fun h ↦ congrArg _ (Option.some.inj h)⟩

theorem render_piece_eq_ok_iff :
    piece.render bindings = .ok shown ↔ piece.Becomes bindings shown := by
  constructor
  · intro h
    unfold Piece.render at h
    split at h
    · cases h
      exact .plain _
    · cases h
      exact .dollar
    · split at h
      · next hv => exact .bound _ hv (plain_eq_ok_iff.mp h)
      · next hnone =>
        cases h
        exact .unbound _ hnone
  · rintro (c | _ | ⟨braced, hv, hshown⟩ | ⟨braced, hnone⟩)
    · rfl
    · rfl
    · rw [Piece.render, hv]
      exact plain_eq_ok_iff.mpr hshown
    · rw [Piece.render, hnone]

/-- A rendered template is what its pieces become. -/
theorem render_eq_ok_iff :
    render template bindings = .ok shown ↔
      ∃ texts, List.Forall₂ (Piece.Becomes bindings) (split template.toList) texts ∧
        shown = String.join texts := by
  rw [render, map_eq_ok_iff]
  simp only [mapM_eq_ok_iff, render_piece_eq_ok_iff]

/-- A piece becomes something unless the value for it cannot be written. -/
theorem exists_becomes (h : (Value.table bindings).IsWritable) (piece : Piece) :
    ∃ text, piece.Becomes bindings text := by
  rcases piece with c | _ | ⟨name, braced⟩
  · exact ⟨_, .plain c⟩
  · exact ⟨_, .dollar⟩
  · cases hv : bindings.lookup (String.ofList name) with
    | none => exact ⟨_, .unbound braced hv⟩
    | some v =>
      have hwritable := Value.isSome_text?_iff.mpr (h.lookup hv)
      obtain ⟨shown, hshown⟩ := Option.isSome_iff_exists.mp hwritable
      exact ⟨shown, .bound braced hv hshown⟩

theorem exists_forall₂_becomes (h : (Value.table bindings).IsWritable) (pieces : List Piece) :
    ∃ texts, List.Forall₂ (Piece.Becomes bindings) pieces texts := by
  choose text htext using exists_becomes h
  refine ⟨pieces.map text, ?_⟩
  rw [List.forall₂_map_right_iff, List.forall₂_same]
  exact fun piece _ ↦ htext piece

/-! ## The parameters that matter -/

/-- The template names a parameter: one of its pieces is a placeholder for it. -/
def Names (template key : String) : Prop :=
  ∃ pieces braced, SplitsInto template.toList pieces ∧ Piece.variable key.toList braced ∈ pieces

/-- The name of the parameter that a piece is a placeholder for, if it is one. -/
def Piece.name? : Piece → Option String
  | .variable name _ => some (String.ofList name)
  | _ => none

theorem Piece.name?_eq_some_iff {key : String} :
    piece.name? = some key ↔ ∃ braced, piece = .variable key.toList braced := by
  constructor
  · intro h
    rcases piece with c | _ | ⟨name, braced⟩
    · cases h
    · cases h
    · cases h
      rw [String.toList_ofList]
      exact ⟨braced, rfl⟩
  · rintro ⟨braced, rfl⟩
    rw [name?, String.ofList_toList]

/-- The names of the parameters that a template names. -/
def names (template : String) : List String := (split template.toList).filterMap Piece.name?

theorem mem_names_iff {key : String} : key ∈ names template ↔ Names template key := by
  simp only [names, Names, List.mem_filterMap, Piece.name?_eq_some_iff, splitsInto_iff]
  constructor
  · rintro ⟨_, hmem, braced, rfl⟩
    exact ⟨_, braced, rfl, hmem⟩
  · rintro ⟨_, braced, rfl, hmem⟩
    exact ⟨_, hmem, braced, rfl⟩

theorem render_variable (bindings : Table) (name : List Char) (braced : Bool) :
    (Piece.variable name braced).render bindings =
      ((bindings.lookup (String.ofList name)).map Value.plain).getD
        (.ok (String.ofList (Piece.variable name braced).written)) := by
  rw [Piece.render]
  cases bindings.lookup (String.ofList name) <;> rfl

/-- Two tables of parameters agree on what the template names: each such parameter is missing in
both, or its values are written alike. -/
def AgreeOn (template : String) (bindings bindings' : Table) : Prop :=
  ∀ key, Names template key →
    (bindings.lookup key).map Value.plain = (bindings'.lookup key).map Value.plain

/-- Parameters that a template does not name have no influence. -/
theorem render_congr (h : AgreeOn template bindings bindings') :
    render template bindings = render template bindings' := by
  have hpiece : ∀ piece ∈ split template.toList,
      piece.render bindings = piece.render bindings' := by
    rintro (c | _ | ⟨name, braced⟩) hmem
    · rfl
    · rfl
    · have hname : String.ofList name ∈ names template := List.mem_filterMap.mpr ⟨_, hmem, rfl⟩
      rw [render_variable, render_variable, h _ (mem_names_iff.mp hname)]
  rw [render, render, mapM_congr hpiece]

end MailDispatch.Template
