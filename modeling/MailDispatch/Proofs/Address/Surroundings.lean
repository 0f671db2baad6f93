import MailDispatch.Proofs.Address.Sequence

/-!
# White space around an address list

White space in front of a list and behind it does not change its addresses, as long as none of them
holds white space. This is not a matter of course: white space outside of ASCII can be an atom, and
so a word of its own or part of one.
-/

namespace MailDispatch.Address

open Text (isBlank)

/-! ## Behind a list -/

theorem item_of_blank {c : Char} (hc : isBlank c) {s : List Char} (h : (gap 0 s).2 = [c]) :
    item s = (.found [c], []) := by
  have hs := (head_gap 0 h).1
  have hword : wordGap [c] = (some [c], []) := by
    rw [wordGap, firstWord_atom hs (ne_of_isBlank hc (by decide)) (ne_of_isBlank hc (by decide))
      (by rw [endsWord, endsAtom_of_isBlank hc hs, Bool.false_and])]
    simp [firstWord_nil, gap]
  rw [item, h, itemAt_of_nil (by rw [hword]), hword]
  rfl

theorem append_blank_of_gap {c : Char} (hc : isBlank c) {depth : Nat} {found : Bool}
    {s : List Char} (hr : (gap 0 s).2 = []) (h : IsClean (sequence depth found (s ++ [c]))) :
    sequence depth found (s ++ [c]) = sequence depth found s := by
  have hrest : (gap 0 (s ++ [c])).2 = [c] ∨ (gap 0 (s ++ [c])).2 = [] := by
    rcases (gap_ending 0 s).blank hc with hb | ⟨-, hb, -⟩
    · rw [hb, hr]
      exact .inl rfl
    · exact .inr hb
  rcases hrest with hrest | hrest
  · -- the white space is a word of its own
    have hne : ∀ d, isBlank d = false → (gap 0 (s ++ [c])).2.head? ≠ some d := fun d hd h ↦ by
      rw [hrest] at h
      exact ne_of_isBlank hc hd (Option.some.inj h)
    rw [sequence_of_item found (by rw [hrest]; exact List.cons_ne_nil _ _)
      fun _ ↦ hne ';' (by decide), item_of_blank hc hrest] at h
    exact absurd (hasBlank_singleton hc) (not_isTainted_of_isClean h)
  · cases depth with
    | zero =>
      rw [sequence_zero_of_gap found (by simp) hrest] at h
      exact absurd List.mem_cons_self h.nil_not_mem
    | succ depth => rw [sequence_succ_of_gap depth found hr, sequence_succ_of_gap depth found hrest]

/-- White space behind a list either changes nothing or is seen in an address. -/
theorem sequence_append_blank {c : Char} (hc : isBlank c) (depth : Nat) (s : List Char)
    (found : Bool) (h : IsClean (sequence depth found (s ++ [c]))) :
    sequence depth found (s ++ [c]) = sequence depth found s := by
  revert found h
  induction depth, s using sequence_induction with
  | hgap depth s hr => exact fun found h ↦ append_blank_of_gap hc hr h
  | hend depth s rest hr ih =>
    intro found h
    have hv := sequence_append_of_semicolon depth found hr
    have hs := by simpa using hv []
    rw [hv] at h
    rw [hv, hs]
    refine congrArg _ ?_
    rcases afterComma_cases rest with hset | ⟨hnil, hb, -⟩
    · rw [hset] at h ⊢
      exact ih depth found h.append.2
    · rw [hnil]
      rcases hb c hc with hb | hb
      · rw [hb] at h ⊢
        exact append_blank_of_gap (s := []) hc rfl h.append.2
      · rw [hb]
  | hitem depth s hr hgc ih =>
    intro found h
    have hv := sequence_append_of_item found hr hgc
    have hs := by simpa using hv []
    rw [hv] at h
    rw [hv, hs]
    rcases (item_ending hr).blank hc with hb | ⟨hnil, hb, hi⟩
    · rw [hb] at h ⊢
      obtain ⟨l, d, f, hl⟩ := exists_itemThen depth found (item s).1
      rw [hl] at h ⊢
      rw [hl, ih d f h.append.2]
    · rw [hb, hnil, hi.resolve_right (not_isTainted_of_isClean h)]

/-! ## In front of a list -/

theorem gap_of_skip {c : Char} (hc : (isSpace c || isLineBreak c) = true) (s : List Char) :
    (gap 0 (c :: s)).2 = (gap 0 s).2 := by
  rw [gap]
  split
  · rfl
  · next hs => rw [if_pos (by simpa [hs] using hc)]

theorem gap_eq_afterComment (depth : Nat) (s : List Char) (hd : depth ≠ 0) :
    (gap depth s).2 = (gap 0 (afterComment depth s)).2 := by
  fun_induction afterComment depth s with
  | case1 depth => cases depth <;> rfl
  | case2 depth c rest ih =>
    obtain ⟨n, rfl⟩ := Nat.exists_eq_succ_of_ne_zero hd
    rw [← ih hd, gap]
  | case3 depth c rest hesc hc hle =>
    obtain rfl : depth = 1 := by omega
    rw [gap_succ_cons 0 (ne_backslash_of_ends hc), if_pos hc]
  | case4 depth c rest hesc hc hle ih =>
    obtain ⟨n, rfl⟩ : ∃ n, depth = n + 2 := ⟨depth - 2, by omega⟩
    rw [gap_succ_cons _ (ne_backslash_of_ends hc), if_pos hc]
    exact ih (by omega)
  | case5 depth rest hesc hc ih =>
    obtain ⟨n, rfl⟩ := Nat.exists_eq_succ_of_ne_zero hd
    rw [gap_succ_cons _ (by decide), if_neg hc, if_pos rfl]
    exact ih (by omega)
  | case6 depth c rest hesc hc hp ih =>
    obtain ⟨n, rfl⟩ := Nat.exists_eq_succ_of_ne_zero hd
    by_cases hb : c = '\\'
    · obtain rfl := eq_nil_of_not_escaping hb hesc
      subst hb
      rfl
    · rw [gap_succ_cons _ hb, if_neg hc, if_neg hp]
      exact ih hd

theorem gap_comment (s : List Char) : (gap 0 ('(' :: s)).2 = (gap 0 (afterComment 1 s)).2 := by
  rw [← gap_eq_afterComment 1 s Nat.one_ne_zero]
  rfl

theorem firstWord_gap (s : List Char) : firstWord (gap 0 s).2 = firstWord s := by
  induction s using phrase.induct with
  | case1 => rfl
  | case2 c rest hs ih => rw [gap_of_skip hs, firstWord_skip hs, ih]
  | case3 rest => rw [gap_of_head (by decide) (by decide)]
  | case4 rest _ _ _ ih => rw [gap_comment, firstWord_comment, ih]
  | case5 c rest hs _ hp => rw [gap_of_head (by simpa using hs) hp]
  | case6 c rest hs _ hp => rw [gap_of_head (by simpa using hs) hp]

theorem ne_of_not_endsAtom {c : Char} (hc : endsAtom c = false) :
    (isSpace c || isLineBreak c) = false ∧ c ≠ '.' ∧ c ≠ '"' ∧ c ≠ '(' := by
  rw [endsAtom, Bool.or_assoc, Bool.or_eq_false_iff] at hc
  refine ⟨hc.2, ?_, ?_, ?_⟩ <;> exact fun h ↦ absurd (h ▸ hc.1) (by decide)

theorem ne_of_not_endsWord {c : Char} (hc : endsWord c = false) :
    (isSpace c || isLineBreak c) = false ∧ c ≠ '"' ∧ c ≠ '(' := by
  by_cases hd : c = '.'
  · subst hd
    decide
  · rw [endsWord, bne_iff_ne.mpr hd, Bool.and_true] at hc
    obtain ⟨hs, -, hq, hp⟩ := ne_of_not_endsAtom hc
    exact ⟨hs, hq, hp⟩

theorem firstWord_dropWhile (s : List Char) :
    (firstWord (s.dropWhile fun d ↦ !endsWord d)).2 = (firstWord s).2 := by
  cases s with
  | nil => rfl
  | cons c rest =>
    cases he : endsWord c with
    | true => rw [List.dropWhile_cons, he]; rfl
    | false =>
      obtain ⟨hs, hq, hp⟩ := ne_of_not_endsWord he
      rw [firstWord_atom hs hq hp he, List.dropWhile_cons, he]
      rfl

/-- White space that is no gap begins a word, and does not change where the phrase ends. -/
theorem wordGap_cons_blank {c : Char} (hc : isBlank c)
    (hs : (isSpace c || isLineBreak c) = false) (s : List Char) :
    ∃ w, wordGap (c :: s) = (some (c :: w), (wordGap (gap 0 s).2).2) := by
  refine ⟨s.takeWhile fun d ↦ !endsWord d, ?_⟩
  rw [wordGap, firstWord_atom hs (ne_of_isBlank hc (by decide)) (ne_of_isBlank hc (by decide))
    (by rw [endsWord, endsAtom_of_isBlank hc hs, Bool.false_and]), firstWord_dropWhile, wordGap,
    firstWord_gap]

/-! ## Local parts -/

theorem HasBlankPart.cons {parts : List (List Char)} (h : HasBlankPart parts) (p : List Char) :
    HasBlankPart (p :: parts) := by
  obtain ⟨q, hq, hb⟩ := h
  exact ⟨q, List.mem_cons_of_mem p hq, hb⟩

/-- At most the part read last is dropped. -/
theorem HasBlankPart.dropBlank_cons {parts : List (List Char)} (h : HasBlankPart parts)
    (p : List Char) : HasBlankPart (dropBlank (p :: parts)) := by
  rw [dropBlank]
  split
  · exact h
  · exact h.cons p

theorem HasBlankPart.of_dropBlank {parts : List (List Char)}
    (h : HasBlankPart (dropBlank parts)) : HasBlankPart parts := by
  cases parts with
  | nil => exact h
  | cons p parts =>
    rw [dropBlank] at h
    split at h
    · exact h.cons p
    · exact h

theorem HasBlankPart.dropBlank_keepSpace {parts : List (List Char)} (h : HasBlankPart parts)
    (space p : List Char) : HasBlankPart (dropBlank (keepSpace space (p :: parts))) := by
  rw [keepSpace]
  split
  · exact h.dropBlank_cons p
  · exact (h.cons p).dropBlank_cons space

/-- White space stays that is not in the part read last, or not the whole of that part. -/
theorem hasBlank_localText {parts : List (List Char)} (h : HasBlankPart (dropBlank parts))
    (s : List Char) : HasBlank (localText parts s).1 := by
  induction parts, s using localPart.induct with
  | case1 parts =>
    rw [localText_nil]
    exact hasBlank_reverse_flatten h.of_dropBlank
  | case2 parts rest _ ih =>
    rw [localText_dot]
    exact ih (h.dropBlank_cons ['.'])
  | case3 parts rest _ _ _ ih =>
    rw [localText_quote]
    exact ih (h.of_dropBlank.dropBlank_keepSpace _ _)
  | case4 parts c rest hd hq he =>
    rw [localText_end hd hq he]
    exact hasBlank_reverse_flatten h
  | case5 parts c rest hd hq he _ _ ih =>
    rw [localText_atom hd hq (by simpa using he)]
    exact ih (h.of_dropBlank.dropBlank_keepSpace _ _)

theorem dropBlank_blank {p : List Char} (hp : p.all isBlank = true) (parts : List (List Char)) :
    dropBlank (p :: parts) = parts := by
  rw [dropBlank, if_pos hp]

/-- White space that begins a local part is either dropped again or stays. -/
theorem localText_blank (s : List Char) :
    (∀ p, p ≠ [] → p.all isBlank = true → HasBlank (localText [p] s).1) ∨
      ∀ p, p.all isBlank = true → localText [p] s = localText [] s := by
  have hpart : ∀ p : List Char, p ≠ [] → p.all isBlank = true → HasBlankPart [p] := by
    rintro (_ | ⟨c, p⟩) hne hp
    · exact absurd rfl hne
    · exact ⟨_, List.mem_cons_self, c, List.mem_cons_self,
        List.all_eq_true.mp hp c List.mem_cons_self⟩
  -- a dot drops the white space before it, and so does a character that ends the local part
  cases s with
  | nil =>
    refine .inl fun p hne hp ↦ ?_
    rw [localText_nil]
    exact hasBlank_reverse_flatten (hpart p hne hp)
  | cons c rest =>
    by_cases hd : c = '.'
    · subst hd
      refine .inr fun p hp ↦ ?_
      rw [localText_dot, localText_dot, dropBlank_blank hp]
      rfl
    · by_cases hq : c = '"'
      · subst hq
        refine .inl fun p hne hp ↦ ?_
        rw [localText_quote]
        exact hasBlank_localText ((hpart p hne hp).dropBlank_keepSpace _ _) _
      · cases he : endsAtom c with
        | true =>
          refine .inr fun p hp ↦ ?_
          rw [localText_end hd hq he, localText_end hd hq he, dropBlank_blank hp]
          rfl
        | false =>
          refine .inl fun p hne hp ↦ ?_
          rw [localText_atom hd hq he]
          exact hasBlank_localText ((hpart p hne hp).dropBlank_keepSpace _ _) _

/-- White space that is no gap, in front of a local part: it shows, or it changes nothing. -/
theorem localText_cons_blank {c : Char} (hc : isBlank c)
    (hs : (isSpace c || isLineBreak c) = false) (s : List Char) :
    HasBlank (localText [] (c :: s)).1 ∨
      localText [] (c :: s) = localText [] (gap 0 s).2 := by
  have hatom := localText_atom (ne_of_isBlank hc (by decide)) (ne_of_isBlank hc (by decide))
    (endsAtom_of_isBlank hc hs) [] s
  have hword : HasBlankPart [c :: s.takeWhile fun d ↦ !endsAtom d] :=
    ⟨_, List.mem_cons_self, c, List.mem_cons_self, hc⟩
  rw [hatom]
  -- only a word of white space throughout, with no gap kept behind it, can be dropped
  by_cases hspace : (gap 0 (s.dropWhile fun d ↦ !endsAtom d)).1 = []
  · rw [hspace]
    by_cases hall : (c :: s.takeWhile fun d ↦ !endsAtom d).all isBlank = true
    · rcases localText_blank (gap 0 (s.dropWhile fun d ↦ !endsAtom d)).2 with h | h
      · exact .inl (h _ (List.cons_ne_nil _ _) hall)
      · refine .inr ((h _ hall).trans ?_)
        cases s with
        | nil => rfl
        | cons d rest =>
          cases he : endsAtom d with
          | true => rw [List.dropWhile_cons, he]; rfl
          | false =>
            -- the white space has only lengthened a word that is dropped as a whole
            obtain ⟨hsd, hd, hq, hp⟩ := ne_of_not_endsAtom he
            rw [List.dropWhile_cons, he, Bool.not_false, if_pos rfl] at hspace ⊢
            rw [List.takeWhile_cons, he, Bool.not_false, if_pos rfl, List.all_cons,
              Bool.and_eq_true] at hall
            rw [gap_of_head hsd hp, localText_atom hd hq he, hspace]
            rw [List.dropWhile_cons, he, Bool.not_false, if_pos rfl] at h
            exact (h _ hall.2).symm
    · refine .inl (hasBlank_localText ?_ _)
      rw [keepSpace, if_pos List.isEmpty_nil, dropBlank, if_neg hall]
      exact hword
  · refine .inl (hasBlank_localText ?_ _)
    rw [keepSpace, if_neg (by rwa [List.isEmpty_iff])]
    exact hword.dropBlank_cons _

/-! ## Items -/

theorem behindLocal_hasBlank {text : List Char} (h : HasBlank text) (left : List Char) :
    HasBlank (behindLocal text left).1 ∨ (behindLocal text left).1 = [] := by
  unfold behindLocal
  split
  · split
    · exact .inr rfl
    · exact .inl (h.append_left _)
  · exact .inl h

theorem addrSpec_cons_blank {c : Char} (hc : isBlank c)
    (hs : (isSpace c || isLineBreak c) = false) (s : List Char) :
    HasBlank (addrSpec (c :: s)).1 ∨ (addrSpec (c :: s)).1 = [] ∨
      addrSpec (c :: s) = addrSpec (gap 0 s).2 := by
  rw [addrSpec_eq, addrSpec_eq, gap_of_head hs (ne_of_isBlank hc (by decide)), gap_gap]
  rcases localText_cons_blank hc hs s with h | h
  · rcases behindLocal_hasBlank h (localText [] (c :: s)).2 with h | h
    · exact .inl h
    · exact .inr (.inl h)
  · exact .inr (.inr (by rw [h]))

/-- White space in front of an item changes nothing, or it shows. -/
theorem item_cons_blank {c : Char} (hc : isBlank c) (s : List Char) :
    IsTainted (item (c :: s)).1 ∨ (item (c :: s)).1 = .found [] ∨ item (c :: s) = item s := by
  cases hs : isSpace c || isLineBreak c with
  | true => exact .inr (.inr (by rw [item, gap_of_skip hs, item]))
  | false =>
    obtain ⟨w, hw⟩ := wordGap_cons_blank hc hs s
    have hword : HasBlank (c :: w) := ⟨c, List.mem_cons_self, hc⟩
    have hitem : item (c :: s) = itemAt (c :: s) := by
      rw [item, gap_of_head hs (ne_of_isBlank hc (by decide))]
    rw [hitem, item]
    cases hr : (wordGap (gap 0 s).2).2 with
    | nil =>
      rw [itemAt_of_nil (by rw [hw, hr]), hw]
      exact .inl hword
    | cons d rest =>
      have hr' : (wordGap (c :: s)).2 = d :: rest := by rw [hw, hr]
      by_cases h₁ : d = '@'
      · subst h₁
        rw [itemAt_of_at hr', itemAt_of_at hr]
        rcases addrSpec_cons_blank hc hs s with h | h | h
        · exact .inl h
        · exact .inr (.inl (congrArg Item.found h))
        · exact .inr (.inr (by rw [h]))
      · by_cases h₂ : d = ':'
        · subst h₂
          exact .inr (.inr ((itemAt_of_colon hr').trans (itemAt_of_colon hr).symm))
        · by_cases h₃ : d = '<'
          · subst h₃
            exact .inr (.inr ((itemAt_of_angle hr').trans (itemAt_of_angle hr).symm))
          · rw [itemAt_of_other hr' h₁ h₂ h₃, hw]
            exact .inl hword

/-- White space in front of a list either changes nothing or is seen in an address. -/
theorem sequence_cons_blank {c : Char} (hc : isBlank c) {s : List Char}
    (h : IsClean (sequence 0 false (c :: s))) :
    sequence 0 false (c :: s) = sequence 0 false s := by
  rw [sequence_zero_of_item false (List.cons_ne_nil c s)] at h ⊢
  -- an address that is empty or shows the white space is none of a clean list
  rcases item_cons_blank hc s with hi | hi | hi
  · exact absurd hi (not_isTainted_of_isClean h)
  · rw [hi] at h
    exact absurd List.mem_cons_self h.nil_not_mem
  · rw [hi] at h ⊢
    by_cases hs : s = []
    · subst hs
      rw [item_of_gap rfl] at h
      exact absurd List.mem_cons_self h.nil_not_mem
    · rw [sequence_zero_of_item false hs]

end MailDispatch.Address
