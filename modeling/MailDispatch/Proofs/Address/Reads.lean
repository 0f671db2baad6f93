import MailDispatch.Address.Accepted
import MailDispatch.Proofs.Address.Quotes
import MailDispatch.Proofs.Address.Surroundings
import MailDispatch.Proofs.Text.Pieces
import MailDispatch.Proofs.Text.Trim

/-!
# Well-formed lists and accepted addresses

`Reads` says what a list of addresses holds of which nothing is malformed or missing. An accepted
text is such a list of one address, and may be trimmed: it then still holds the same address.
-/

namespace MailDispatch.Address

open Text (isBlank isPadded_trim trim trim_of_forall)

/-! ## Well-formed lists -/

/-- The text `s` holds the addresses `l`, and nothing about it is malformed. -/
structure Reads (s : List Char) (l : List (List Char)) : Prop where
  balanced : isBalanced 0 (outsideQuotes s) = true
  announced : announced s = l.length
  sequence : sequence 0 false s = l
  clean : IsClean l
  bracketless : ∀ a ∈ l, '[' ∉ a

theorem withoutBracket_of_not_mem {a : List Char} (h : '[' ∉ a) : withoutBracket a = a := by
  rw [withoutBracket, if_neg (by simpa using h)]

theorem withoutBracket_of_ne_nil {a : List Char} (h : withoutBracket a ≠ []) :
    '[' ∉ a ∧ withoutBracket a = a := by
  rw [withoutBracket] at h ⊢
  split at h
  · exact absurd rfl h
  · next hb => exact ⟨by simpa using hb, if_neg hb⟩

theorem map_withoutBracket {l : List (List Char)} (h : ∀ a ∈ l, withoutBracket a = a) :
    l.map withoutBracket = l :=
  (List.map_congr_left (g := id) h).trans (List.map_id l)

theorem Reads.parsed {s : List Char} {l : List (List Char)} (h : Reads s l) : parsed s = l := by
  rw [Address.parsed, if_pos h.balanced, h.sequence]
  exact map_withoutBracket fun a ha ↦ withoutBracket_of_not_mem (h.bracketless a ha)

theorem Reads.addresses {s : List Char} {l : List (List Char)} (h : Reads s l) :
    addresses s = l := by
  rw [Address.addresses, h.parsed, if_pos h.announced.symm]

/-- A text that holds addresses is well-formed, unless one of them is empty. -/
theorem reads_of_addresses {s : List Char} {l : List (List Char)} (h : addresses s = l)
    (hl : IsClean l) (hne : l ≠ []) : Reads s l := by
  rw [addresses] at h
  split at h
  · next hcount =>
    rw [h] at hcount
    rw [parsed] at h
    split at h
    · next hbalanced =>
      have hproper : ∀ a ∈ sequence 0 false s, withoutBracket a ≠ [] := fun a ha hnil ↦
        hl.nil_not_mem (h ▸ List.mem_map.mpr ⟨a, ha, hnil⟩)
      have hseq : sequence 0 false s = l := by
        rw [← h]
        exact (map_withoutBracket fun a ha ↦ (withoutBracket_of_ne_nil (hproper a ha)).2).symm
      rw [hseq] at hproper
      exact ⟨hbalanced, hcount.symm, hseq, hl,
        fun a ha ↦ (withoutBracket_of_ne_nil (hproper a ha)).1⟩
    · exact absurd h.symm hne
  · -- an empty address is what is yielded for a wrong number of commas
    rw [← h] at hl
    exact absurd List.mem_cons_self hl.nil_not_mem

/-! ## Accepted addresses -/

theorem isBlank_of_isPlain {c : Char} (h : isPlain c = true) : isBlank c = false := by
  rw [isPlain, Bool.not_eq_true', Bool.or_eq_false_iff] at h
  exact h.1

/-- A well-formed address consists of a local part and a domain, neither of them empty. The only at
sign stands between them. -/
theorem exists_parts {a : List Char} (h : isWellFormed a = true) :
    ∃ localPart domain, a = localPart ++ '@' :: domain ∧ localPart ≠ [] ∧ domain ≠ [] ∧
      (∀ c ∈ localPart, isPlain c = true) ∧ ∀ c ∈ domain, isPlain c = true := by
  have hsplit := List.takeWhile_append_dropWhile (p := isPlain) (l := a)
  rw [isWellFormed] at h
  split at h
  · next d rest hdrop =>
    simp only [Bool.and_eq_true] at h
    obtain ⟨⟨⟨hne, hd⟩, -⟩, hrest⟩ := h
    refine ⟨a.takeWhile isPlain, d :: rest, ?_, by simpa using hne, List.cons_ne_nil _ _,
      List.all_eq_true.mp List.all_takeWhile, List.forall_mem_cons.mpr ⟨hd, ?_⟩⟩
    · rw [← hdrop, hsplit]
    · exact List.all_eq_true.mp hrest
  · cases h

theorem isWellFormed_clean {a : List Char} (h : isWellFormed a = true) :
    a ≠ [] ∧ ¬ HasBlank a := by
  obtain ⟨localPart, domain, rfl, -, -, hlocal, hdomain⟩ := exists_parts h
  refine ⟨by simp, fun ⟨c, hc, hb⟩ ↦ ?_⟩
  have hc' : isBlank c = false := by
    rcases List.mem_append.mp hc with hc | hc
    · exact isBlank_of_isPlain (hlocal c hc)
    · rcases List.mem_cons.mp hc with rfl | hc
      · decide
      · exact isBlank_of_isPlain (hdomain c hc)
  rw [hb] at hc'
  cases hc'

theorem ofText?_eq_some {s a : List Char} : ofText? s = some a ↔
    addresses s = [a] ∧ isWellFormed a = true ∧ (s.contains '<' = true ∨ a = trim s) := by
  rw [ofText?]
  constructor
  · intro h
    split at h
    · next b hb =>
      simp only [Bool.and_eq_true, Bool.or_eq_true, beq_iff_eq, Option.ite_none_right_eq_some,
        Option.some.injEq] at h
      obtain ⟨⟨hw, hs⟩, rfl⟩ := h
      exact ⟨hb, hw, hs⟩
    · cases h
  · rintro ⟨h, hw, hs⟩
    rw [h]
    simp only [hw, Bool.true_and, Bool.or_eq_true, beq_iff_eq]
    exact if_pos hs

theorem refuse_ne_ok {α : Type} (v : Value) (a : α) : refuse v ≠ .ok a := by
  rw [refuse]
  cases v.literal <;> exact fun h ↦ nomatch h

/-- What is accepted is a text, without the white space around it. -/
theorem validate_eq_ok_iff {v : Value} {s : String} : validate v = .ok s ↔
    ∃ t a, v = .text t ∧ ofText? t.toList = some a ∧ s = String.ofList (Text.trim t.toList) := by
  constructor
  · intro h
    unfold validate at h
    split at h
    · next t =>
      split at h
      · next a ha => exact ⟨t, a, rfl, ha, (Except.ok.inj h).symm⟩
      · exact absurd h (refuse_ne_ok _ s)
    · exact absurd h (refuse_ne_ok _ s)
  · rintro ⟨t, a, rfl, ha, rfl⟩
    rw [validate, ha]

theorem reads_of_ofText? {s a : List Char} (h : ofText? s = some a) : Reads s [a] := by
  obtain ⟨h, hw, -⟩ := ofText?_eq_some.mp h
  refine reads_of_addresses h ?_ (List.cons_ne_nil _ _)
  intro b hb
  obtain rfl := List.mem_singleton.mp hb
  exact isWellFormed_clean hw

/-- The one address in a text, taken apart at its only at sign, and the domain that is read from the
text. -/
structure HasParts (s localPart domain : List Char) : Prop where
  addresses : addresses s = [localPart ++ '@' :: domain]
  not_mem_localPart : '@' ∉ localPart
  not_mem_domain : '@' ∉ domain
  domain_ne_nil : domain ≠ []
  unblank : ∀ c ∈ domain, isBlank c = false
  domainOf : domainOf s = some domain

/-- An accepted address has a local part and a domain, the same in whichever text it is accepted. -/
theorem exists_hasParts {a : List Char} (hw : isWellFormed a = true) :
    ∃ localPart domain, ∀ s, ofText? s = some a → HasParts s localPart domain := by
  obtain ⟨localPart, domain, rfl, -, hne, hlocal, hdomain⟩ := exists_parts hw
  have hat : ∀ {part : List Char}, (∀ c ∈ part, isPlain c = true) → '@' ∉ part := fun hpart hmem ↦
    absurd (hpart '@' hmem) (by decide)
  refine ⟨localPart, domain, fun s h ↦ ⟨(ofText?_eq_some.mp h).1, hat hlocal, hat hdomain, hne,
    fun c hc ↦ isBlank_of_isPlain (hdomain c hc), ?_⟩⟩
  rw [domainOf, soleAddress, (reads_of_ofText? h).parsed]
  dsimp only
  rw [Text.lastPiece_append_cons (hat hdomain), if_pos (by simp)]

/-! ## Trimming -/

theorem count_comma_of_isBlank {c : Char} (hc : isBlank c) : [c].count ',' = 0 := by
  rw [List.count_eq_zero, List.mem_singleton]
  exact (ne_of_isBlank hc (by decide)).symm

/-- White space is no parenthesis, and escapes nothing. -/
theorem not_paren_of_isBlank {c : Char} (hc : isBlank c) : c ∉ ['(', ')'] := by
  exact not_mem_of_isBlank hc (by decide)

theorem Reads.of_cons_blank {c : Char} (hc : isBlank c) {s : List Char} {l : List (List Char)}
    (h : Reads (c :: s) l) : Reads s l := by
  have hb : c ≠ '\\' := ne_of_isBlank hc (by decide)
  have hq := outsideQuotes_cons hb (ne_of_isBlank hc (by decide)) s
  refine ⟨?_, ?_, ?_, h.clean, h.bracketless⟩
  · have hbal := h.balanced
    rwa [hq, isBalanced_cons (not_paren_of_isBlank hc) fun h ↦ absurd h hb] at hbal
  · rw [← h.announced, Address.announced, Address.announced, hq, List.count_cons_of_ne]
    exact ne_of_isBlank hc (by decide)
  · rw [← h.sequence]
    exact (sequence_cons_blank hc (by rw [h.sequence]; exact h.clean)).symm

theorem Reads.of_append_blank {c : Char} (hc : isBlank c) {s : List Char} {l : List (List Char)}
    (h : Reads (s ++ [c]) l) : Reads s l := by
  have hb : c ≠ '\\' := ne_of_isBlank hc (by decide)
  have hq := outsideQuotes_append_singleton (ne_of_isBlank hc (by decide)) hb s
  refine ⟨?_, ?_, ?_, h.clean, h.bracketless⟩
  · have hbal := h.balanced
    rwa [hq, isBalanced_append_singleton hb (not_paren_of_isBlank hc)] at hbal
  · rw [← h.announced, Address.announced, Address.announced, hq, List.count_append,
      count_comma_of_isBlank hc, Nat.add_zero]
  · rw [← h.sequence]
    exact (sequence_append_blank hc 0 s false (by rw [h.sequence]; exact h.clean)).symm

theorem Reads.of_append_all {s w : List Char} {l : List (List Char)} (hw : w.all isBlank = true)
    (h : Reads (s ++ w) l) : Reads s l := by
  induction w generalizing s with
  | nil => rwa [List.append_nil] at h
  | cons c w ih =>
    rw [List.all_cons, Bool.and_eq_true] at hw
    refine Reads.of_append_blank hw.1 (ih hw.2 ?_)
    rwa [List.append_assoc]

theorem Reads.of_all_append {s v : List Char} {l : List (List Char)} (hv : v.all isBlank = true)
    (h : Reads (v ++ s) l) : Reads s l := by
  induction v with
  | nil => exact h
  | cons c v ih =>
    rw [List.all_cons, Bool.and_eq_true] at hv
    exact ih hv.2 (Reads.of_cons_blank hv.1 h)

/-- Trimming does not change the addresses in a well-formed list. -/
theorem Reads.trim {s : List Char} {l : List (List Char)} (h : Reads s l) :
    Reads (Text.trim s) l := by
  obtain ⟨v, w, hv, hw, hs⟩ := isPadded_trim s
  rw [hs] at h
  exact Reads.of_append_all hw (Reads.of_all_append hv h)

theorem trim_of_not_hasBlank {s : List Char} (h : ¬ HasBlank s) : Text.trim s = s :=
  trim_of_forall fun c hc ↦ Bool.eq_false_iff.mpr fun hb ↦ h ⟨c, hc, hb⟩

/-- An accepted text may be trimmed: it is still accepted, with the same address. -/
theorem ofText?_trim {s a : List Char} (h : ofText? s = some a) :
    ofText? (Text.trim s) = some a := by
  obtain ⟨-, hw, hs⟩ := ofText?_eq_some.mp h
  refine ofText?_eq_some.mpr ⟨(reads_of_ofText? h).trim.addresses, hw, ?_⟩
  rcases hs with hs | rfl
  · -- an angle bracket is no white space
    obtain ⟨v, w, hv, hw, hsplit⟩ := isPadded_trim s
    have hmem : '<' ∈ s := List.contains_iff_mem.mp hs
    have hno : ∀ {u : List Char}, u.all isBlank = true → '<' ∉ u := fun hu hmem ↦
      absurd (List.all_eq_true.mp hu '<' hmem) (by decide)
    rw [hsplit] at hmem
    rcases List.mem_append.mp hmem with hmem | hmem
    · exact absurd hmem (hno hv)
    · rcases List.mem_append.mp hmem with hmem | hmem
      · exact .inl (List.contains_iff_mem.mpr hmem)
      · exact absurd hmem (hno hw)
  · exact .inr (trim_of_not_hasBlank (isWellFormed_clean hw).2).symm

end MailDispatch.Address
