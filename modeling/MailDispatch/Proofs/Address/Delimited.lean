import MailDispatch.Proofs.Address.Between
import MailDispatch.Proofs.Address.Reads

/-!
# Addresses and their brackets

An accepted text should be its address and nothing else, or hold it between angle brackets. Accepting
a text involves no search for brackets: a text with an opening bracket anywhere in it, be it in a
comment or in a quoted word, may lose all that surrounds its address, and what follows an address in
brackets is passed over as one character, be it a closing bracket or not. `isDelimited_iff` says what
has to hold besides for an accepted text to be what it should be.
-/

namespace MailDispatch.Address

open Text (isBlank trim)

/-! ## What the scanners leave -/

theorem gap_suffix (depth : Nat) (s : List Char) : (gap depth s).2 <:+ s := by
  fun_induction gap depth s with
  | case1 => exact List.suffix_refl _
  | case5 => exact List.suffix_refl _
  | case6 depth d rest ih => exact ih.trans ⟨['\\', d], rfl⟩
  | case2 c rest _ ih => exact ih.trans (List.suffix_cons c rest)
  | case3 c rest _ _ ih => exact ih.trans (List.suffix_cons c rest)
  | case4 rest _ _ ih => exact ih.trans (List.suffix_cons '(' rest)
  | case7 _ c rest _ _ ih => exact ih.trans (List.suffix_cons c rest)
  | case8 _ rest _ _ ih => exact ih.trans (List.suffix_cons '(' rest)
  | case9 _ c rest _ _ _ ih => exact ih.trans (List.suffix_cons c rest)

theorem afterComment_suffix (depth : Nat) (s : List Char) : afterComment depth s <:+ s := by
  fun_induction afterComment depth s with
  | case1 => exact List.suffix_refl _
  | case2 depth d rest ih => exact ih.trans ⟨['\\', d], rfl⟩
  | case3 _ c rest => exact List.suffix_cons c rest
  | case4 _ c rest _ _ _ ih => exact ih.trans (List.suffix_cons c rest)
  | case5 _ rest _ _ ih => exact ih.trans (List.suffix_cons '(' rest)
  | case6 _ c rest _ _ _ ih => exact ih.trans (List.suffix_cons c rest)

theorem delimited_suffix (d : Char) (s : List Char) : (delimited d s).2 <:+ s := by
  fun_induction delimited d s with
  | case1 => exact List.suffix_refl _
  | case2 c rest ih => exact ih.trans ⟨['\\', c], rfl⟩
  | case3 c rest => exact List.suffix_cons c rest
  | case4 rest _ _ ih => exact ih.trans (List.suffix_cons '\\' rest)
  | case5 c rest _ _ _ ih => exact ih.trans (List.suffix_cons c rest)

theorem firstWord_suffix (s : List Char) : (firstWord s).2 <:+ s := by
  induction s using phrase.induct with
  | case1 => rw [firstWord_nil]
  | case2 c rest hs ih =>
    rw [firstWord_skip hs]
    exact ih.trans (List.suffix_cons c rest)
  | case3 rest _ _ _ _ _ ih =>
    rw [firstWord_quote]
    exact ih.trans ((delimited_suffix '"' rest).trans (List.suffix_cons '"' rest))
  | case4 rest _ _ _ ih =>
    rw [firstWord_comment]
    exact ih.trans ((afterComment_suffix 1 rest).trans (List.suffix_cons '(' rest))
  | case5 c rest hs hq hp he => rw [firstWord_end (by simpa using hs) hq hp he]
  | case6 c rest hs hq hp he _ _ _ _ ih =>
    rw [firstWord_atom (by simpa using hs) hq hp (by simpa using he)]
    exact ih.trans ((List.dropWhile_suffix _).trans (List.suffix_cons c rest))

theorem wordGap_suffix (s : List Char) : (wordGap s).2 <:+ s :=
  (gap_suffix 0 _).trans (firstWord_suffix s)

theorem localText_suffix (parts : List (List Char)) (s : List Char) :
    (localText parts s).2 <:+ s := by
  induction parts, s using localPart.induct with
  | case1 parts => rw [localText_nil]
  | case2 parts rest _ ih =>
    rw [localText_dot]
    exact ih.trans ((gap_suffix 0 rest).trans (List.suffix_cons '.' rest))
  | case3 parts rest _ _ _ ih =>
    rw [localText_quote]
    exact ih.trans ((gap_suffix 0 _).trans
      ((delimited_suffix '"' rest).trans (List.suffix_cons '"' rest)))
  | case4 parts c rest hd hq he => rw [localText_end hd hq he]
  | case5 parts c rest hd hq he _ _ ih =>
    rw [localText_atom hd hq (by simpa using he)]
    exact ih.trans ((gap_suffix 0 _).trans
      ((List.dropWhile_suffix _).trans (List.suffix_cons c rest)))

theorem domain_suffix (s : List Char) : (domain s).2 <:+ s := by
  induction s using domain.induct with
  | case1 => rw [domain_nil]
  | case2 c rest hs ih =>
    rw [domain_space hs]
    exact ih.trans (List.suffix_cons c rest)
  | case3 rest _ _ ih =>
    rw [domain_comment]
    exact ih.trans ((afterComment_suffix 1 rest).trans (List.suffix_cons '(' rest))
  | case4 rest _ _ _ _ _ _ ih =>
    rw [domain_literal]
    exact ih.trans ((delimited_suffix ']' rest).trans (List.suffix_cons '[' rest))
  | case5 rest _ _ _ _ _ _ ih =>
    rw [domain_dot]
    exact ih.trans (List.suffix_cons '.' rest)
  | case6 rest => rw [domain_at]
  | case7 c rest hs hp hl hd ha he => rw [domain_end (isDomainSign_of_ne hs hp hl hd ha) he]
  | case8 c rest hs hp hl hd ha he _ _ _ _ ih =>
    rw [domain_atom (isDomainSign_of_ne hs hp hl hd ha) (by simpa using he)]
    exact ih.trans ((List.dropWhile_suffix _).trans (List.suffix_cons c rest))

theorem addrSpec_suffix (s : List Char) : (addrSpec s).2 <:+ s := by
  have hlocal := (localText_suffix [] (gap 0 s).2).trans (gap_suffix 0 s)
  rw [addrSpec_eq]
  generalize localText [] (gap 0 s).2 = r at hlocal ⊢
  obtain ⟨text, left⟩ := r
  dsimp only at hlocal ⊢
  unfold behindLocal
  split
  · next rest =>
    have hrest := ((domain_suffix _).trans (gap_suffix 0 rest)).trans
      ((List.suffix_cons '@' rest).trans hlocal)
    split <;> exact hrest
  · exact hlocal

theorem angleSpec_suffix (route : Bool) (s : List Char) : (angleSpec route s).2 <:+ s := by
  fun_induction angleSpec route s with
  | case1 => exact List.suffix_refl _
  | case2 c rest _ _ ih => exact ih.trans ((gap_suffix 0 _).trans (domain_suffix _))
  | case3 => exact List.suffix_refl _
  | case4 _ rest _ _ _ ih => exact ih.trans ((gap_suffix 0 rest).trans (List.suffix_cons '@' rest))
  | case5 _ rest _ _ _ _ ih =>
    exact ih.trans ((gap_suffix 0 rest).trans (List.suffix_cons ':' rest))
  | case6 => exact addrSpec_suffix _

theorem afterComma_suffix (s : List Char) : afterComma s <:+ s := by
  have hgap := gap_suffix 0 s
  unfold afterComma
  split
  · next rest h => exact (List.suffix_cons ',' rest).trans (h ▸ hgap)
  · exact hgap

theorem item_suffix (s : List Char) : (item s).2 <:+ s := by
  have hword := (wordGap_suffix (gap 0 s).2).trans (gap_suffix 0 s)
  have haddr := (addrSpec_suffix (gap 0 s).2).trans (gap_suffix 0 s)
  rw [item]
  generalize (gap 0 s).2 = t at hword haddr ⊢
  cases h : (wordGap t).2 with
  | nil =>
    rw [itemAt_of_nil h]
    exact List.nil_suffix
  | cons c rest =>
    rw [h] at hword
    have hrest := (List.suffix_cons c rest).trans hword
    by_cases h₁ : c = '@'
    · rw [itemAt_of_at (h₁ ▸ h)]
      exact (afterComma_suffix _).trans haddr
    · by_cases h₂ : c = ':'
      · rw [itemAt_of_colon (h₂ ▸ h)]
        exact hrest
      · by_cases h₃ : c = '<'
        · rw [itemAt_of_angle (h₃ ▸ h)]
          exact (afterComma_suffix _).trans ((List.drop_suffix 1 _).trans
            ((angleSpec_suffix _ _).trans ((gap_suffix 0 rest).trans hrest)))
        · rw [itemAt_of_other h h₁ h₂ h₃]
          refine (afterComma_suffix _).trans ?_
          split
          · exact hrest
          · exact hword

/-! ## Opening brackets -/

/-- A bracket opens an address in the text `s`, in front of the text `rest`: it stands behind the
display name, if there is one, of an item of the list that `s` is, or of a member of a group. A
bracket in a comment or in a quoted word opens none. -/
inductive OpensAt : (s rest : List Char) → Prop
  | here {s rest : List Char} (h : (wordGap (gap 0 s).2).2 = '<' :: rest) : OpensAt s rest
  | later {s rest : List Char} (h : OpensAt (item s).2 rest) : OpensAt s rest

namespace OpensAt

variable {s rest : List Char}

theorem suffix (h : OpensAt s rest) : '<' :: rest <:+ s := by
  induction h with
  | here h => exact h ▸ (wordGap_suffix _).trans (gap_suffix 0 _)
  | later _ ih => exact ih.trans (item_suffix _)

theorem ne_nil (h : OpensAt s rest) : s ≠ [] := by
  rintro rfl
  exact List.cons_ne_nil _ _ (List.suffix_nil.mp h.suffix)

/-- Wherever a bracket opens an address, the list has an address from there. -/
theorem mem_sequence (h : OpensAt s rest) :
    ∀ depth found, (angleSpec false (gap 0 rest).2).1 ∈ sequence depth found s := by
  induction h with
  | @here s rest h =>
    intro depth found
    have hne : (gap 0 s).2 ≠ [] := fun hnil ↦ by
      rw [hnil, wordGap, firstWord_nil] at h
      cases h
    have hsemicolon : (gap 0 s).2.head? ≠ some ';' := fun hhead ↦ by
      obtain ⟨t, ht⟩ := List.head?_eq_some_iff.mp hhead
      rw [ht, wordGap, firstWord_end (by decide) (by decide) (by decide) (by decide),
        gap_of_head (by decide) (by decide)] at h
      cases h
    rw [sequence_of_item found hne fun _ ↦ hsemicolon, item, itemAt_of_angle h]
    exact List.mem_cons_self
  | @later s rest h ih =>
    intro depth found
    by_cases hr : (gap 0 s).2 = []
    · -- nothing is left behind an item that is not there
      rw [item_of_gap hr] at h
      exact absurd rfl h.ne_nil
    by_cases hc : depth ≠ 0 ∧ (gap 0 s).2.head? = some ';'
    · obtain ⟨hd, hc⟩ := hc
      obtain ⟨d, rfl⟩ := Nat.exists_eq_succ_of_ne_zero hd
      obtain ⟨t, ht⟩ := List.head?_eq_some_iff.mp hc
      rw [item_of_stray ht (by decide)] at ih
      rw [sequence_succ_of_semicolon d found ht, groupEnd_eq]
      exact List.mem_append_right _ (ih d found)
    · rw [sequence_of_item found hr fun hd h ↦ hc ⟨hd, h⟩]
      obtain ⟨l, d, f, hl⟩ := exists_itemThen depth found (item s).1
      rw [hl]
      exact List.mem_append_right l (ih d f)

end OpensAt

/-! ## Routes -/

/-- The text behind a source route, a domain between an at sign and a colon, if it begins with
one. -/
def behindRoute (s : List Char) : List Char :=
  match (gap 0 s).2 with
  | '@' :: rest => match domain (gap 0 rest).2 with
    | (some (_ :: _), left) => match (gap 0 left).2 with
      | ':' :: behind => behind
      | _ => s
    | _ => s
  | _ => s

/-- Behind a route, brackets hold what they would hold without it. -/
theorem angleSpec_behindRoute (s : List Char) :
    angleSpec false (gap 0 (behindRoute s)).2 = angleSpec false (gap 0 s).2 := by
  rw [behindRoute]
  split
  · next rest hat =>
    split
    · next c name left hdomain =>
      split
      · next behind hcolon =>
        obtain ⟨d, t, ht⟩ : ∃ d t, (gap 0 rest).2 = d :: t := by
          cases ht : (gap 0 rest).2 with
          | nil => rw [ht, domain_nil] at hdomain; cases hdomain
          | cons d t => exact ⟨d, t, rfl⟩
        rw [hat]
        conv => rhs; rw [angleSpec, if_neg Bool.false_ne_true, if_neg (by decide), if_pos rfl, ht,
          angleSpec, if_pos rfl, ← ht, hdomain, hcolon, angleSpec, if_neg Bool.false_ne_true,
          if_neg (by decide), if_neg (by decide), if_pos rfl]
      · rfl
    · rfl
  · rfl

/-- No part of a local part begins with a colon. -/
theorem head_localPart (parts : List (List Char)) (s : List Char)
    (h : ∀ p ∈ parts, p.head? ≠ some ':') :
    ∀ p ∈ (localPart parts s).1, p.head? ≠ some ':' := by
  have hdrop : ∀ {parts : List (List Char)}, (∀ p ∈ parts, p.head? ≠ some ':') →
      ∀ p ∈ dropBlank parts, p.head? ≠ some ':' := by
    intro parts h
    cases parts with
    | nil => exact h
    | cons p parts =>
      rw [dropBlank]
      split
      · exact fun q hq ↦ h q (List.mem_cons_of_mem p hq)
      · exact h
  have hspace : ∀ (t : List Char) {parts : List (List Char)},
      (∀ p ∈ parts, p.head? ≠ some ':') →
      ∀ p ∈ keepSpace (gap 0 t).1 parts, p.head? ≠ some ':' := by
    intro t parts h
    rw [keepSpace]
    split
    · exact h
    · refine List.forall_mem_cons.mpr ⟨fun hhead ↦ ?_, h⟩
      have hcolon := List.all_eq_true.mp (all_isSpace_gap 0 t) ':' (List.mem_of_mem_head? hhead)
      exact absurd hcolon (by decide)
  fun_induction localPart parts s with
  | case1 => exact h
  | case2 parts rest _ ih =>
    exact ih (List.forall_mem_cons.mpr ⟨by decide, hdrop h⟩)
  | case3 parts rest _ _ _ ih =>
    refine ih (hspace _ (List.forall_mem_cons.mpr ⟨?_, h⟩))
    rw [requote, List.head?_cons]
    decide
  | case4 parts c rest hd hq he => exact hdrop h
  | case5 parts c rest hd hq he _ _ ih =>
    refine ih (hspace _ (List.forall_mem_cons.mpr ⟨?_, h⟩))
    rintro hhead
    cases hhead
    exact he (by decide)

theorem head_flatten {parts : List (List Char)} {c : Char}
    (h : parts.flatten.head? = some c) : ∃ p ∈ parts, p.head? = some c := by
  induction parts with
  | nil => cases h
  | cons p parts ih =>
    cases p with
    | nil =>
      obtain ⟨q, hq, hc⟩ := ih h
      exact ⟨q, List.mem_cons_of_mem _ hq, hc⟩
    | cons d p => exact ⟨d :: p, List.mem_cons_self, h⟩

theorem head_addrSpec (s : List Char) : (addrSpec s).1.head? ≠ some ':' := by
  intro h
  have htext : (localText [] (gap 0 s).2).1.head? ≠ some ':' := fun h ↦ by
    obtain ⟨p, hp, hhead⟩ := head_flatten h
    exact head_localPart [] (gap 0 s).2 (List.forall_mem_nil _) p (List.mem_reverse.mp hp) hhead
  rw [addrSpec_eq] at h
  have hne : (behindLocal (localText [] (gap 0 s).2).1 (localText [] (gap 0 s).2).2).1 ≠ [] := by
    intro hnil
    rw [hnil] at h
    cases h
  rcases behindLocal_cases hne with heq | ⟨rest, name, -, -, heq⟩
  · rw [heq] at h
    exact htext h
  · rw [heq] at h
    generalize (localText [] (gap 0 s).2).1 = text at h htext
    cases text with
    | nil => cases h
    | cons c text => exact htext h

theorem head_angleSpec (route : Bool) (s : List Char) : (angleSpec route s).1.head? ≠ some ':' := by
  fun_induction angleSpec route s with
  | case1 => exact (Option.some_ne_none _).symm
  | case2 c rest _ _ ih => exact ih
  | case3 => exact (Option.some_ne_none _).symm
  | case4 _ rest _ _ _ ih => exact ih
  | case5 _ rest _ _ _ _ ih => exact ih
  | case6 => exact head_addrSpec _

/-! ## Delimited addresses -/

/-- The text is the address `a`, apart from white space around it, or there is a bracket in it that
opens an address and is closed, and what stands between the two, white space, comments and a source
route left out, is `a`. -/
def IsDelimited (s a : List Char) : Prop :=
  trim s = a ∨ ∃ before rest, s = before ++ '<' :: rest ∧ OpensAt s rest ∧
    between quotedAsWritten (behindRoute rest) = some a

/-- A bracket in front of `rest` that is used as it should be. -/
structure IsUsedProperly (rest : List Char) : Prop where
  /-- There is one route at most. -/
  route : (gap 0 (behindRoute rest)).2.head? ≠ some '@' ∧
    (gap 0 (behindRoute rest)).2.head? ≠ some ':'
  /-- The address is followed by a closing bracket, with white space and comments at most in
  between. -/
  closed : between quotedAsRead (addrSpec (gap 0 (behindRoute rest)).2).2 = some []
  /-- Quoted words are written as they are held in an address. -/
  verbatim : between quotedAsWritten (behindRoute rest) = between quotedAsRead (behindRoute rest)

/-- Of an accepted text, each bracket that opens an address opens the accepted one. -/
theorem angleSpec_of_opensAt {s a rest : List Char} (h : ofText? s = some a)
    (hopens : OpensAt s rest) : (angleSpec false (gap 0 (behindRoute rest)).2).1 = a := by
  have hmem := hopens.mem_sequence 0 false
  rw [(reads_of_ofText? h).sequence] at hmem
  rw [angleSpec_behindRoute]
  exact List.mem_singleton.mp hmem

/-- What stands in brackets begins with the address, if that is not void and no route comes first. -/
theorem begins_of_angleSpec {s a : List Char} (h : (angleSpec false (gap 0 s).2).1 = a)
    (hne : a ≠ []) (hb : ¬HasBlank a) (hl : '[' ∉ a) (hat : (gap 0 s).2.head? ≠ some '@')
    (hcolon : (gap 0 s).2.head? ≠ some ':') : Begins a s (addrSpec (gap 0 s).2).2 := by
  cases hs : (gap 0 s).2 with
  | nil =>
    rw [hs, angleSpec_nil] at h
    exact absurd h.symm hne
  | cons c rest =>
    rw [hs] at h hat hcolon
    by_cases hc : c = '>'
    · rw [hc, angleSpec, if_neg Bool.false_ne_true, if_pos rfl] at h
      exact absurd h.symm hne
    · rw [angleSpec_addrSpec hc (fun h ↦ hat (congrArg some h)) fun h ↦ hcolon (congrArg some h)]
        at h
      have hbegins := addrSpec_begins (s := c :: rest) (by rwa [h]) (by rwa [h]) (by rwa [h])
      rw [h, ← hs] at hbegins
      rw [← hs]
      exact hbegins.of_gap

theorem isDelimited_of_isUsedProperly {s a rest : List Char} (h : ofText? s = some a)
    (hopens : OpensAt s rest) (hused : IsUsedProperly rest) : IsDelimited s a := by
  obtain ⟨-, hw, -⟩ := ofText?_eq_some.mp h
  obtain ⟨hne, hb⟩ := isWellFormed_clean hw
  have hl := (reads_of_ofText? h).bracketless a List.mem_cons_self
  have hbegins := begins_of_angleSpec (angleSpec_of_opensAt h hopens) hne hb hl hused.route.1
    hused.route.2
  obtain ⟨before, hbefore⟩ := hopens.suffix
  refine .inr ⟨before, rest, hbefore.symm, hopens, ?_⟩
  rw [hused.verbatim, show between quotedAsRead (behindRoute rest) = _ from hbegins, hused.closed,
    Option.map_some, List.append_nil]

theorem isUsedProperly_of_between {s a rest : List Char} (h : ofText? s = some a)
    (hopens : OpensAt s rest) (hbetween : between quotedAsWritten (behindRoute rest) = some a) :
    IsUsedProperly rest := by
  obtain ⟨-, hw, -⟩ := ofText?_eq_some.mp h
  obtain ⟨hne, hb⟩ := isWellFormed_clean hw
  have hl := (reads_of_ofText? h).bracketless a List.mem_cons_self
  have hangle := angleSpec_of_opensAt h hopens
  -- an address begins neither with an at sign nor with a colon, as what stands in brackets would
  have hroute : ∀ c ∈ ['@', ':'], (gap 0 (behindRoute rest)).2.head? = some c →
      a.head? = some c := by
    intro c hc hhead
    obtain ⟨t, ht⟩ := List.head?_eq_some_iff.mp hhead
    have hchar : c ≠ '>' ∧ c ≠ '"' ∧ isBlank c = false := by
      rcases List.mem_cons.mp hc with rfl | hc
      · decide
      · obtain rfl := List.mem_singleton.mp hc
        decide
    rw [between_of_char ht hchar.1 hchar.2.1] at hbetween
    obtain ⟨x, -, rfl⟩ := Option.map_eq_some_iff.mp hbetween
    simp [hchar.2.2]
  have hat : (gap 0 (behindRoute rest)).2.head? ≠ some '@' := fun hhead ↦ by
    obtain ⟨localPart, domain, rfl, hlocal, -, hplain, -⟩ := exists_parts hw
    have hfirst := hroute '@' (by decide) hhead
    rw [List.head?_append_of_ne_nil _ hlocal] at hfirst
    exact absurd (hplain '@' (List.mem_of_mem_head? hfirst)) (by decide)
  have hcolon : (gap 0 (behindRoute rest)).2.head? ≠ some ':' := fun hhead ↦
    head_angleSpec false _ (hangle ▸ hroute ':' (by decide) hhead)
  have hbegins := begins_of_angleSpec hangle hne hb hl hat hcolon
  -- the text as it is read is not longer than the address, and begins with it
  obtain ⟨z, hz, hle⟩ := length_between_le hbetween
  rw [Begins, hz] at hbegins
  obtain ⟨y, hy, rfl⟩ := Option.map_eq_some_iff.mp hbegins.symm
  rw [List.length_append] at hle
  obtain rfl : y = [] := List.length_eq_zero_iff.mp (by omega)
  rw [List.append_nil] at hz
  exact ⟨⟨hat, hcolon⟩, hy, hbetween.trans hz.symm⟩

/-- **Delimited addresses.** Of an accepted text that is not its address apart from white space, the
address stands between angle brackets exactly if one of its brackets opens an address and is used
properly: one route comes before the address at most, a closing bracket follows it, and no quoted
word has to be rewritten. -/
theorem isDelimited_iff {t r : String} {a : List Char} (h : validate (.text t) = .ok r)
    (ha : addresses t.toList = [a]) :
    IsDelimited t.toList a ↔
      trim t.toList = a ∨ ∃ rest, OpensAt t.toList rest ∧ IsUsedProperly rest := by
  obtain ⟨t', a', ht, haccepted, -⟩ := validate_eq_ok_iff.mp h
  obtain rfl : t = t' := Value.text.inj ht
  obtain rfl : a' = a := by
    have hsame := (ofText?_eq_some.mp haccepted).1.symm.trans ha
    exact (List.cons.inj hsame).1
  constructor
  · rintro (htrim | ⟨before, rest, -, hopens, hbetween⟩)
    · exact .inl htrim
    · exact .inr ⟨rest, hopens, isUsedProperly_of_between haccepted hopens hbetween⟩
  · rintro (htrim | ⟨rest, hopens, hused⟩)
    · exact .inl htrim
    · exact isDelimited_of_isUsedProperly haccepted hopens hused

/-- A display name and a comment in front of the bracket do no harm. -/
theorem isDelimited_alice :
    validate (.text "Alice (x) <a@b.c>") = .ok "Alice (x) <a@b.c>" ∧
      addresses "Alice (x) <a@b.c>".toList = ["a@b.c".toList] ∧
      IsDelimited "Alice (x) <a@b.c>".toList "a@b.c".toList := by
  have h : validate (.text "Alice (x) <a@b.c>") = .ok "Alice (x) <a@b.c>" := by cbv
  have ha : addresses "Alice (x) <a@b.c>".toList = ["a@b.c".toList] := by cbv
  have hopens : OpensAt "Alice (x) <a@b.c>".toList "a@b.c>".toList := .here (by cbv)
  have hroute : (gap 0 (behindRoute "a@b.c>".toList)).2 = "a@b.c>".toList := by cbv
  have hused : IsUsedProperly "a@b.c>".toList := by
    refine ⟨?_, ?_, by cbv⟩
    · rw [hroute]
      decide
    · rw [hroute]
      cbv
  exact ⟨h, ha, (isDelimited_iff h ha).mpr (.inr ⟨_, hopens, hused⟩)⟩

/-- A bare address with a comment behind it is accepted because the comment holds a bracket, which
opens nothing and is not closed. -/
theorem not_isDelimited_comment :
    validate (.text "a@b.c (<)") = .ok "a@b.c (<)" ∧
      addresses "a@b.c (<)".toList = ["a@b.c".toList] ∧ '>' ∉ "a@b.c (<)".toList ∧
      ¬IsDelimited "a@b.c (<)".toList "a@b.c".toList := by
  refine ⟨by cbv, by cbv, by decide, ?_⟩
  rintro (htrim | ⟨-, rest, -, hopens, -⟩)
  · exact absurd htrim (by decide)
  · cases hopens with
    | here h =>
      have hword : (wordGap (gap 0 "a@b.c (<)".toList).2).2 = "@b.c (<)".toList := by cbv
      rw [hword] at h
      cases h
    | later h =>
      have hitem : (item "a@b.c (<)".toList).2 = [] := by cbv
      exact h.ne_nil hitem

end MailDispatch.Address
