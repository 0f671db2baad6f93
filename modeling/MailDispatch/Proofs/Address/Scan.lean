import MailDispatch.Address.Sequence
import MailDispatch.Proofs.Address.Ending

/-!
# How the scanners of an address end

`Ending` for gaps, comments, delimited parts, atoms, phrases, local parts and domains. Of a phrase
only its first word matters, and of a local part only its text.
-/

namespace MailDispatch.Address

open Text (isBlank)

/-! ## Characters -/

theorem ne_of_isBlank {c d : Char} (h : isBlank c) (hd : isBlank d = false) : c ≠ d := by
  rintro rfl
  rw [h] at hd
  cases hd

/-- White space is none of the characters in a list without white space. -/
theorem not_mem_of_isBlank {c : Char} (h : isBlank c) {l : List Char} (hl : ¬ HasBlank l) :
    c ∉ l :=
  fun hc ↦ hl ⟨c, hc, h⟩

theorem isSpecial_of_isBlank {c : Char} (h : isBlank c) : isSpecial c = false := by
  rw [isSpecial, ← Bool.not_eq_true, List.contains_iff_mem]
  exact not_mem_of_isBlank h (by decide)

theorem hasBlank_singleton {c : Char} (h : isBlank c) : HasBlank [c] :=
  ⟨c, List.mem_singleton_self c, h⟩

theorem HasBlank.cons {s : List Char} (h : HasBlank s) (c : Char) : HasBlank (c :: s) := by
  obtain ⟨b, hb, hbb⟩ := h
  exact ⟨b, List.mem_cons_of_mem c hb, hbb⟩

theorem IsOrdinary.tail {c : Char} {w : List Char} (h : IsOrdinary (c :: w)) : IsOrdinary w :=
  fun d hd ↦ h d (List.mem_cons_of_mem c hd)

theorem IsOrdinary.head {c : Char} {w : List Char} (h : IsOrdinary (c :: w)) :
    c ≠ '"' ∧ c ≠ '(' ∧ c ≠ ')' ∧ c ≠ '[' ∧ c ≠ ']' ∧ c ≠ '\\' ∧ c ≠ '\r' := by
  simpa using h c List.mem_cons_self

/-! ## Gaps and delimited parts -/

/-- A backslash that ends a text has nothing to escape. -/
theorem eq_nil_of_not_escaping {c : Char} {rest : List Char} (hc : c = '\\')
    (h : ∀ d u, c = '\\' → rest = d :: u → False) : rest = [] := by
  cases rest with
  | nil => rfl
  | cons d u => exact (h d u hc rfl).elim

/-- What ends a comment is no backslash. -/
theorem ne_backslash_of_ends {c : Char} (hc : (c = ')' || c = '\r') = true) : c ≠ '\\' := by
  rintro rfl
  exact absurd hc (by decide)

theorem gap_succ_cons (depth : Nat) {c : Char} (hb : c ≠ '\\') (rest : List Char) :
    gap (depth + 1) (c :: rest) =
      if c = ')' || c = '\r' then gap depth rest
      else if c = '(' then gap (depth + 2) rest
      else gap (depth + 1) rest := by
  rw [gap]
  exact fun _ _ h _ ↦ hb h

theorem gap_ordinary (depth : Nat) {w : List Char} (h : IsOrdinary w) :
    (gap (depth + 1) w).2 = [] := by
  induction w with
  | nil => rfl
  | cons c rest ih =>
    obtain ⟨-, hopen, hclose, -, -, hb, hr⟩ := h.head
    rw [gap_succ_cons depth hb, if_neg (by simp [hclose, hr]), if_neg hopen]
    exact ih h.tail

theorem gap_ending (depth : Nat) (s : List Char) : Ending HasBlank (gap depth) s := by
  fun_induction gap depth s with
  | case1 depth =>
    -- what can follow depends on whether a comment is still open
    cases depth with
    | zero =>
      refine .closed rfl (fun v ↦ by simp [gap, isSpace, isLineBreak, Blurs]) fun c hc ↦ ?_
      have hp := ne_of_isBlank hc (d := '(') (by decide)
      by_cases hs : isSpace c
      · exact .inr (by simp [gap, hs, Blurs, hasBlank_singleton hc])
      · by_cases hl : isLineBreak c
        · exact .inr (by simp [gap, hs, hl, Blurs])
        · exact .inl (by simp [gap, hs, hl, hp])
    | succ depth =>
      refine .unclosed rfl (fun w hw ↦ gap_ordinary depth hw) fun c hc ↦ ?_
      have hp := ne_of_isBlank hc (d := '(') (by decide)
      simp only [List.nil_append, gap, hp, if_false]
      split <;> exact ⟨rfl, .inl rfl⟩
  | case2 c rest hs ih =>
    exact ih.map (fun _ h ↦ h.cons c) fun v ↦ by simp [gap, hs]
  | case3 c rest hs hl ih => exact ih.congr fun v ↦ by simp [gap, hs, hl]
  | case4 rest hs hl ih => exact ih.congr fun v ↦ by simp [gap, hs, hl]
  | case5 c rest hs hl hc => exact .settled fun v ↦ by simp [gap, hs, hl, hc]
  | case6 depth d rest ih => exact ih.congr fun v ↦ by simp [gap]
  | case7 depth c rest hesc hc ih =>
    exact ih.congr fun v ↦ by
      rw [List.cons_append, gap_succ_cons depth (ne_backslash_of_ends hc), if_pos hc]
  | case8 depth rest hesc hc ih => exact ih.congr fun v ↦ by simp [gap]
  | case9 depth c rest hesc hc hp ih =>
    by_cases hb : c = '\\'
    · -- the first character of what follows is escaped
      obtain rfl := eq_nil_of_not_escaping hb hesc
      subst hb
      refine .unclosed rfl (fun w hw ↦ ?_) fun c hc ↦ ⟨rfl, .inl rfl⟩
      cases w with
      | nil => rfl
      | cons d w => exact show (gap (depth + 1) w).2 = [] from gap_ordinary depth hw.tail
    · exact ih.congr fun v ↦ by
        rw [List.cons_append, gap_succ_cons depth hb, if_neg hc, if_neg hp]

/-- A gap that is passed over without a trace. -/
theorem skipGap_ending (s : List Char) :
    Ending (fun _ : Unit ↦ False) (fun u ↦ ((), (gap 0 u).2)) s :=
  (gap_ending 0 s).forget () fun _ ↦ rfl

theorem gap_of_comma (v : List Char) : gap 0 (',' :: v) = ([], ',' :: v) :=
  gap_of_head (by decide) (by decide) v

theorem afterComment_cons (depth : Nat) {c : Char} (hb : c ≠ '\\') (rest : List Char) :
    afterComment depth (c :: rest) =
      if c = ')' || c = '\r' then if depth ≤ 1 then rest else afterComment (depth - 1) rest
      else if c = '(' then afterComment (depth + 1) rest
      else afterComment depth rest := by
  rw [afterComment]
  exact fun _ _ h _ ↦ hb h

theorem afterComment_ordinary (depth : Nat) {w : List Char} (h : IsOrdinary w) :
    afterComment depth w = [] := by
  induction w with
  | nil => rfl
  | cons c rest ih =>
    obtain ⟨-, hopen, hclose, -, -, hb, hr⟩ := h.head
    rw [afterComment_cons depth hb, if_neg (by simp [hclose, hr]), if_neg hopen]
    exact ih h.tail

theorem afterComment_ending (depth : Nat) (s : List Char) :
    Ending (fun _ : Unit ↦ False) (fun u ↦ ((), afterComment depth u)) s := by
  fun_induction afterComment depth s with
  | case1 depth =>
    refine .unclosed rfl (fun w hw ↦ afterComment_ordinary depth hw) fun c hc ↦ ⟨?_, .inl rfl⟩
    have hp := ne_of_isBlank hc (d := '(') (by decide)
    simp only [List.nil_append, afterComment, hp, if_false]
    repeat' split
    all_goals rfl
  | case2 depth d rest ih => exact ih.congr fun v ↦ by simp [afterComment]
  | case3 depth c rest hesc hc hd =>
    refine .settled fun v ↦ ?_
    simp only [List.cons_append, afterComment_cons depth (ne_backslash_of_ends hc), if_pos hc,
      if_pos hd]
  | case4 depth c rest hesc hc hd ih =>
    exact ih.congr fun v ↦ by
      rw [List.cons_append, afterComment_cons depth (ne_backslash_of_ends hc), if_pos hc,
        if_neg hd]
  | case5 depth rest hesc hc ih =>
    exact ih.congr fun v ↦ by simp [afterComment]
  | case6 depth c rest hesc hc hp ih =>
    by_cases hb : c = '\\'
    · obtain rfl := eq_nil_of_not_escaping hb hesc
      subst hb
      refine .unclosed rfl (fun w hw ↦ ?_) fun c hc ↦ ⟨rfl, .inl rfl⟩
      cases w with
      | nil => rfl
      | cons d w => exact show afterComment depth w = [] from afterComment_ordinary depth hw.tail
    · exact ih.congr fun v ↦ by
        rw [List.cons_append, afterComment_cons depth hb, if_neg hc, if_neg hp]

/-- The characters that close what is delimited. -/
def IsClosing (d : Char) : Prop := d = '"' ∨ d = ']'

theorem delimited_cons (d : Char) {c : Char} (hb : c ≠ '\\') (rest : List Char) :
    delimited d (c :: rest) =
      if c = d || c = '\r' then ([], rest)
      else (c :: (delimited d rest).1, (delimited d rest).2) := by
  rw [delimited, if_neg hb]
  exact fun _ _ h _ ↦ hb h

theorem delimited_ordinary {d : Char} (hd : IsClosing d) {w : List Char} (h : IsOrdinary w) :
    (delimited d w).2 = [] := by
  induction w with
  | nil => rfl
  | cons c rest ih =>
    obtain ⟨hq, -, -, -, hl, hb, hr⟩ := h.head
    have hcd : c ≠ d := by
      rcases hd with rfl | rfl
      · exact hq
      · exact hl
    rw [delimited_cons d hb, if_neg (by simp [hcd, hr])]
    exact ih h.tail

theorem delimited_ending {d : Char} (hd : IsClosing d) (s : List Char) :
    Ending HasBlank (delimited d) s := by
  fun_induction delimited d s with
  | case1 =>
    refine .unclosed rfl (fun w hw ↦ delimited_ordinary hd hw) fun c hc ↦ ?_
    rw [List.nil_append, delimited_cons d (ne_of_isBlank hc (by decide))]
    split
    · exact ⟨rfl, .inl rfl⟩
    · exact ⟨rfl, .inr (hasBlank_singleton hc)⟩
  | case2 c rest ih => exact ih.map (fun _ h ↦ h.cons c) fun v ↦ by simp [delimited]
  | case3 c rest hesc hc =>
    have hb : c ≠ '\\' := by
      rintro rfl
      rcases hd with rfl | rfl <;> exact absurd hc (by decide)
    refine .settled fun v ↦ ?_
    simp only [List.cons_append, delimited_cons d hb, if_pos hc]
  | case4 rest hesc hc ih =>
    obtain rfl := eq_nil_of_not_escaping rfl hesc
    have hnil : delimited d ['\\'] = ([], []) := by simp [delimited]
    refine .unclosed (by rw [hnil]) (fun w hw ↦ ?_) fun c hc ↦ ?_
    · cases w with
      | nil => rw [List.append_nil, hnil]
      | cons b w => exact show (delimited d w).2 = [] from delimited_ordinary hd hw.tail
    · rw [hnil]
      exact ⟨rfl, .inr (hasBlank_singleton hc)⟩
  | case5 c rest hesc hc hb ih =>
    exact ih.map (fun _ h ↦ h.cons c) fun v ↦ by
      rw [List.cons_append, delimited_cons d hb, if_neg hc]

/-! ## Atoms -/

/-- Reads characters up to one that ends an atom, or a word. -/
theorem span_ending (ends : Char → Bool) (hcomma : ends ',' = true) (s : List Char) :
    Ending HasBlank (fun u ↦ (u.takeWhile fun c ↦ !ends c, u.dropWhile fun c ↦ !ends c)) s := by
  induction s with
  | nil =>
    refine .closed rfl (fun v ↦ by simp [hcomma, Blurs]) fun c hc ↦ ?_
    cases he : ends c with
    | true => exact .inl (by simp [he])
    | false => exact .inr (by simp [he, Blurs, hasBlank_singleton hc])
  | cons c rest ih =>
    cases he : ends c with
    | true => exact .settled fun v ↦ by simp [he]
    | false => exact ih.map (fun _ h ↦ h.cons c) fun v ↦ by simp [he]

/-! ## Phrases -/

/-- White space in the text, if there is one. -/
def HasBlankIn (o : Option (List Char)) : Prop := ∃ w, o = some w ∧ HasBlank w

/-- Reads a phrase and keeps its first word. -/
def firstWord (s : List Char) : Option (List Char) × List Char := ((phrase s).1.head?, (phrase s).2)

theorem firstWord_nil : firstWord [] = (none, []) := by
  rw [firstWord, phrase]
  rfl

theorem firstWord_skip {c : Char} (hc : (isSpace c || isLineBreak c) = true) (rest : List Char) :
    firstWord (c :: rest) = firstWord rest := by
  rw [firstWord, phrase, if_pos hc, firstWord]

theorem firstWord_quote (rest : List Char) :
    firstWord ('"' :: rest)
      = (some (delimited '"' rest).1, (firstWord (delimited '"' rest).2).2) := by
  rw [firstWord, phrase]
  rfl

theorem firstWord_comment (rest : List Char) :
    firstWord ('(' :: rest) = firstWord (afterComment 1 rest) := by
  rw [firstWord, phrase]
  rfl

theorem firstWord_end {c : Char} (hs : (isSpace c || isLineBreak c) = false) (hq : c ≠ '"')
    (hp : c ≠ '(') (hc : endsWord c = true) (rest : List Char) :
    firstWord (c :: rest) = (none, c :: rest) := by
  rw [firstWord, phrase, if_neg (by simp [hs]), if_neg hq, if_neg hp, if_pos hc]
  rfl

theorem firstWord_atom {c : Char} (hs : (isSpace c || isLineBreak c) = false) (hq : c ≠ '"')
    (hp : c ≠ '(') (hc : endsWord c = false) (rest : List Char) :
    firstWord (c :: rest) = (some (c :: rest.takeWhile fun d ↦ !endsWord d),
      (firstWord (rest.dropWhile fun d ↦ !endsWord d)).2) := by
  rw [firstWord, phrase, if_neg (by simp [hs]), if_neg hq, if_neg hp, if_neg (by simp [hc])]
  rfl

theorem firstWord_comma (v : List Char) : firstWord (',' :: v) = (none, ',' :: v) :=
  firstWord_end (by decide) (by decide) (by decide) (by decide) v

/-- White space that is no gap is an atom. -/
theorem endsAtom_of_isBlank {c : Char} (hc : isBlank c)
    (hs : (isSpace c || isLineBreak c) = false) : endsAtom c = false := by
  rw [endsAtom, isSpecial_of_isBlank hc, Bool.false_or, hs]

theorem firstWord_blank {c : Char} (hc : isBlank c) :
    (firstWord [c]).2 = [] ∧ Blurs HasBlankIn none (firstWord [c]).1 := by
  cases hs : isSpace c || isLineBreak c with
  | true =>
    rw [firstWord_skip hs, firstWord_nil]
    exact ⟨rfl, .inl rfl⟩
  | false =>
    rw [firstWord_atom hs (ne_of_isBlank hc (by decide)) (ne_of_isBlank hc (by decide))
      (by rw [endsWord, endsAtom_of_isBlank hc hs, Bool.false_and])]
    exact ⟨by simp [firstWord_nil], .inr ⟨_, rfl, hasBlank_singleton hc⟩⟩

/-- A word is read, and the rest of the phrase only passed over. -/
theorem firstWord_ending_of {f : List Char → List Char × List Char} {k : List Char → List Char}
    {s s' : List Char} (hf : Ending HasBlank f s) (hk : ∀ x, HasBlank x → HasBlank (k x))
    (heq : ∀ v, firstWord (s' ++ v) = (some (k (f (s ++ v)).1), (firstWord (f (s ++ v)).2).2))
    (ih : Ending HasBlankIn firstWord (f s).2) : Ending HasBlankIn firstWord s' := by
  have hrest : Ending HasBlankIn (fun u ↦ (some (k (f s).1), (firstWord u).2)) (f s).2 :=
    ih.forget _ fun _ ↦ rfl
  refine (Ending.comp_of_ending (g := fun x u ↦ (some (k x), (firstWord u).2)) hf hrest
    (fun x ↦ ?_) fun x v ↦ ?_).congr heq
  · rw [firstWord_nil]
    exact ⟨rfl, fun hx ↦ ⟨_, rfl, hk x hx⟩⟩
  · rw [firstWord_comma]
    exact ⟨rfl, .inl rfl⟩

theorem firstWord_ending (s : List Char) : Ending HasBlankIn firstWord s := by
  induction s using phrase.induct with
  | case1 =>
    refine .closed (by rw [firstWord_nil]) (fun v ↦ ?_) fun c hc ↦ ?_
    · rw [List.nil_append, firstWord_comma, firstWord_nil]
      exact ⟨rfl, .inl rfl⟩
    · rw [List.nil_append, firstWord_nil]
      exact .inr (firstWord_blank hc)
  | case2 c rest hs ih => exact ih.congr fun v ↦ firstWord_skip hs _
  | case3 rest _ _ _ _ _ ih =>
    exact firstWord_ending_of (delimited_ending (.inl rfl) rest) (k := id) (fun _ h ↦ h)
      (fun v ↦ firstWord_quote _) ih
  | case4 rest _ _ _ ih =>
    exact ((afterComment_ending 1 rest).after ih firstWord_nil firstWord_comma).congr
      fun v ↦ firstWord_comment _
  | case5 c rest hs hq hp he =>
    rw [Bool.not_eq_true] at hs
    refine .settled fun v ↦ ?_
    rw [firstWord_end hs hq hp he, List.cons_append, firstWord_end hs hq hp he]
  | case6 c rest hs hq hp he _ _ _ _ ih =>
    rw [Bool.not_eq_true] at hs he
    exact firstWord_ending_of (span_ending endsWord (by decide) rest) (fun _ h ↦ h.cons c)
      (fun v ↦ firstWord_atom hs hq hp he _) ih

/-! ## Local parts -/

/-- Reads a local part behind parts that are read already, and joins them. -/
def localText (parts : List (List Char)) (s : List Char) : List Char × List Char :=
  ((localPart parts s).1.reverse.flatten, (localPart parts s).2)

theorem localText_nil (parts : List (List Char)) :
    localText parts [] = (parts.reverse.flatten, []) := by
  rw [localText, localPart]

theorem localText_end {c : Char} (hd : c ≠ '.') (hq : c ≠ '"') (hc : endsAtom c = true)
    (parts : List (List Char)) (rest : List Char) :
    localText parts (c :: rest) = ((dropBlank parts).reverse.flatten, c :: rest) := by
  rw [localText, localPart, if_neg hd, if_neg hq, if_pos hc]

theorem localText_dot (parts : List (List Char)) (rest : List Char) :
    localText parts ('.' :: rest) = localText (['.'] :: dropBlank parts) (gap 0 rest).2 := by
  rw [localText, localPart]
  rfl

theorem localText_quote (parts : List (List Char)) (rest : List Char) :
    localText parts ('"' :: rest) = localText
      (keepSpace (gap 0 (delimited '"' rest).2).1 (requote (delimited '"' rest).1 :: parts))
      (gap 0 (delimited '"' rest).2).2 := by
  rw [localText, localPart]
  rfl

theorem localText_atom {c : Char} (hd : c ≠ '.') (hq : c ≠ '"') (hc : endsAtom c = false)
    (parts : List (List Char)) (rest : List Char) :
    localText parts (c :: rest) = localText
      (keepSpace (gap 0 (rest.dropWhile fun d ↦ !endsAtom d)).1
        ((c :: rest.takeWhile fun d ↦ !endsAtom d) :: parts))
      (gap 0 (rest.dropWhile fun d ↦ !endsAtom d)).2 := by
  rw [localText, localPart, if_neg hd, if_neg hq, if_neg (by simp [hc])]
  rfl

/-- White space in one of the parts. -/
def HasBlankPart (parts : List (List Char)) : Prop := ∃ p ∈ parts, HasBlank p

theorem hasBlank_reverse_flatten {parts : List (List Char)} (h : HasBlankPart parts) :
    HasBlank parts.reverse.flatten := by
  obtain ⟨p, hp, c, hc, hb⟩ := h
  exact ⟨c, List.mem_flatten.mpr ⟨p, List.mem_reverse.mpr hp, hc⟩, hb⟩

/-- Dropping white space at the end is seen only if there was some. -/
theorem blurs_dropBlank (parts : List (List Char)) :
    Blurs HasBlank (dropBlank parts).reverse.flatten parts.reverse.flatten := by
  cases parts with
  | nil => exact .inl rfl
  | cons p rest =>
    rw [dropBlank]
    split
    · next hp =>
      cases p with
      | nil => exact .inl (by simp)
      | cons c cs =>
        refine .inr (hasBlank_reverse_flatten ⟨c :: cs, List.mem_cons_self, c,
          List.mem_cons_self, ?_⟩)
        exact List.all_eq_true.mp hp c List.mem_cons_self
    · exact .inl rfl

theorem hasBlankPart_keepSpace {space : List Char} (h : HasBlank space)
    (parts : List (List Char)) : HasBlankPart (keepSpace space parts) := by
  obtain ⟨c, hc, hb⟩ := h
  have hne : space.isEmpty = false := by
    cases space with
    | nil => cases hc
    | cons _ _ => rfl
  rw [keepSpace, hne]
  exact ⟨space, List.mem_cons_self, c, hc, hb⟩

theorem hasBlank_requote {w : List Char} (h : HasBlank w) : HasBlank (requote w) := by
  obtain ⟨c, hc, hb⟩ := h
  refine ⟨c, ?_, hb⟩
  rw [requote]
  refine List.mem_cons_of_mem _ (List.mem_append_left _ (List.mem_flatMap.mpr ⟨c, hc, ?_⟩))
  split <;> simp

/-- A part of a local part and the gap behind it. -/
theorem ending_part {f : List Char → List Char × List Char} {k : List Char → List Char}
    {s : List Char} (hf : Ending HasBlank f s) (hk : ∀ x, HasBlank x → HasBlank (k x))
    (parts : List (List Char)) :
    Ending HasBlankPart
      (fun u ↦ (keepSpace (gap 0 (f u).2).1 (k (f u).1 :: parts), (gap 0 (f u).2).2)) s := by
  refine Ending.comp_of_ending
    (g := fun x u ↦ (keepSpace (gap 0 u).1 (k x :: parts), (gap 0 u).2)) hf ?_ ?_ ?_
  · exact (gap_ending 0 (f s).2).map (fun x h ↦ hasBlankPart_keepSpace h _) fun v ↦ rfl
  · exact fun x ↦ ⟨rfl, fun h ↦ ⟨k x, List.mem_cons_self, hk x h⟩⟩
  · intro x v
    rw [gap_of_comma]
    exact ⟨rfl, .inl rfl⟩

/-- What follows a part ends as the part does, if the part ends with a gap. -/
theorem localText_ending_of {f : List Char → List (List Char) × List Char} {s : List Char}
    (hf : Ending HasBlankPart f s) (hgap : ∀ u, ∃ v, (f u).2 = (gap 0 v).2)
    (ih : (f s).2 ≠ [] → Ending HasBlank (localText (f s).1) (f s).2) :
    Ending HasBlank (fun u ↦ localText (f u).1 (f u).2) s := by
  refine Ending.comp hf ih (fun x ↦ ?_) (fun x v ↦ ?_) fun _ c hc hrest ↦ ?_
  · rw [localText_nil]
    exact ⟨rfl, hasBlank_reverse_flatten⟩
  · rw [localText_end (by decide) (by decide) (by decide), localText_nil]
    exact ⟨rfl, blurs_dropBlank x⟩
  · -- white space that a gap leaves over is an atom of its own
    obtain ⟨v, hv⟩ := hgap (s ++ [c])
    have hs := (head_gap 0 (hv.symm.trans hrest)).1
    rw [localText_atom (ne_of_isBlank hc (by decide)) (ne_of_isBlank hc (by decide))
      (endsAtom_of_isBlank hc hs)]
    refine .inr ⟨?_, .inr ?_⟩
    · simp [gap, localText_nil]
    · simp only [List.dropWhile_nil, gap, localText_nil]
      exact hasBlank_reverse_flatten
        ⟨[c], by simp [keepSpace], hasBlank_singleton hc⟩

theorem localText_ending (parts : List (List Char)) {s : List Char} (hs : s ≠ []) :
    Ending HasBlank (localText parts) s := by
  induction parts, s using localPart.induct with
  | case1 parts => exact absurd rfl hs
  | case2 parts rest _ ih =>
    have hf : Ending HasBlankPart (fun u ↦ (['.'] :: dropBlank parts, (gap 0 u).2)) rest :=
      (gap_ending 0 rest).forget _ fun _ ↦ rfl
    exact (localText_ending_of hf (fun u ↦ ⟨u, rfl⟩) ih).congr fun v ↦ localText_dot parts _
  | case3 parts rest _ _ _ ih =>
    have hf := ending_part (delimited_ending (.inl rfl) rest) (fun _ ↦ hasBlank_requote) parts
    exact (localText_ending_of hf (fun u ↦ ⟨_, rfl⟩) ih).congr fun v ↦ localText_quote parts _
  | case4 parts c rest hd hq he =>
    refine .settled fun v ↦ ?_
    rw [localText_end hd hq he, List.cons_append, localText_end hd hq he]
  | case5 parts c rest hd hq he _ _ ih =>
    rw [Bool.not_eq_true] at he
    have hf := ending_part (k := fun x ↦ c :: x) (span_ending endsAtom (by decide) rest)
      (fun _ h ↦ h.cons c) parts
    exact (localText_ending_of hf (fun u ↦ ⟨_, rfl⟩) ih).congr
      fun v ↦ localText_atom hd hq he parts _

/-! ## Domains -/

theorem domain_nil : domain [] = (some [], []) := by
  rw [domain]

theorem domain_space {c : Char} (hc : isSpace c = true) (rest : List Char) :
    domain (c :: rest) = domain rest := by
  rw [domain, if_pos hc]

theorem domain_comment (rest : List Char) :
    domain ('(' :: rest) = domain (afterComment 1 rest) := by
  rw [domain]
  rfl

theorem domain_literal (rest : List Char) :
    domain ('[' :: rest) = ((domain (delimited ']' rest).2).1.map fun t ↦
      '[' :: ((delimited ']' rest).1 ++ ']' :: t), (domain (delimited ']' rest).2).2) := by
  rw [domain]
  rfl

theorem domain_dot (rest : List Char) :
    domain ('.' :: rest) = ((domain rest).1.map ('.' :: ·), (domain rest).2) := by
  rw [domain]
  rfl

theorem domain_at (rest : List Char) : domain ('@' :: rest) = (none, '@' :: rest) := by
  rw [domain]
  rfl

/-- The characters that a domain gives a meaning of its own. -/
def isDomainSign (c : Char) : Bool := isSpace c || ['(', '[', '.', '@'].contains c

theorem isDomainSign_of_ne {c : Char} (hs : ¬isSpace c) (hp : c ≠ '(') (hl : c ≠ '[')
    (hd : c ≠ '.') (ha : c ≠ '@') : isDomainSign c = false := by
  simp [isDomainSign, hs, hp, hl, hd, ha]

theorem domain_end {c : Char} (hs : isDomainSign c = false) (hc : endsAtom c = true)
    (rest : List Char) : domain (c :: rest) = (some [], c :: rest) := by
  simp only [isDomainSign, Bool.or_eq_false_iff, List.contains_eq_mem, List.mem_cons,
    List.not_mem_nil, or_false, decide_eq_false_iff_not, not_or] at hs
  rw [domain, if_neg (by simp [hs.1]), if_neg hs.2.1, if_neg hs.2.2.1, if_neg hs.2.2.2.1,
    if_neg hs.2.2.2.2, if_pos hc]

theorem domain_atom {c : Char} (hs : isDomainSign c = false) (hc : endsAtom c = false)
    (rest : List Char) : domain (c :: rest) =
      ((domain (rest.dropWhile fun d ↦ !endsAtom d)).1.map fun t ↦
        c :: (rest.takeWhile (fun d ↦ !endsAtom d) ++ t),
        (domain (rest.dropWhile fun d ↦ !endsAtom d)).2) := by
  simp only [isDomainSign, Bool.or_eq_false_iff, List.contains_eq_mem, List.mem_cons,
    List.not_mem_nil, or_false, decide_eq_false_iff_not, not_or] at hs
  rw [domain, if_neg (by simp [hs.1]), if_neg hs.2.1, if_neg hs.2.2.1, if_neg hs.2.2.2.1,
    if_neg hs.2.2.2.2, if_neg (by simp [hc])]

theorem domain_comma (v : List Char) : domain (',' :: v) = (some [], ',' :: v) :=
  domain_end (by decide) (by decide) v

theorem isDomainSign_of_isBlank {c : Char} (hc : isBlank c) (hs : isSpace c = false) :
    isDomainSign c = false := by
  rw [isDomainSign, hs, Bool.false_or, ← Bool.not_eq_true, List.contains_iff_mem]
  exact not_mem_of_isBlank hc (by decide)

theorem HasBlankIn.map {o : Option (List Char)} (h : HasBlankIn o) {k : List Char → List Char}
    (hk : ∀ t, HasBlank t → HasBlank (k t)) : HasBlankIn (o.map k) := by
  obtain ⟨w, rfl, hw⟩ := h
  exact ⟨k w, rfl, hk w hw⟩

theorem HasBlank.append_right {s : List Char} (h : HasBlank s) (t : List Char) :
    HasBlank (t ++ s) := by
  obtain ⟨c, hc, hb⟩ := h
  exact ⟨c, List.mem_append_right t hc, hb⟩

theorem HasBlank.append_left {s : List Char} (h : HasBlank s) (t : List Char) :
    HasBlank (s ++ t) := by
  obtain ⟨c, hc, hb⟩ := h
  exact ⟨c, List.mem_append_left t hc, hb⟩

/-- A part is read, and put in front of the rest of the domain. -/
theorem domain_ending_of {f : List Char → List Char × List Char}
    {k : List Char → List Char → List Char} {s s' : List Char} (hf : Ending HasBlank f s)
    (hx : ∀ x t, HasBlank x → HasBlank (k x t)) (ht : ∀ x t, HasBlank t → HasBlank (k x t))
    (heq : ∀ v, domain (s' ++ v) =
      ((domain (f (s ++ v)).2).1.map (k (f (s ++ v)).1), (domain (f (s ++ v)).2).2))
    (ih : Ending HasBlankIn domain (f s).2) : Ending HasBlankIn domain s' := by
  refine (Ending.comp_of_ending (g := fun x u ↦ ((domain u).1.map (k x), (domain u).2)) hf
    (ih.map (fun _ h ↦ h.map (ht _)) fun _ ↦ rfl) (fun x ↦ ?_) fun x v ↦ ?_).congr heq
  · rw [domain_nil]
    exact ⟨rfl, fun h ↦ ⟨_, rfl, hx x [] h⟩⟩
  · rw [domain_comma, domain_nil]
    exact ⟨rfl, .inl rfl⟩

theorem domain_ending (s : List Char) : Ending HasBlankIn domain s := by
  induction s using domain.induct with
  | case1 =>
    refine .closed (by rw [domain_nil]) (fun v ↦ ?_) fun c hc ↦ ?_
    · rw [List.nil_append, domain_comma, domain_nil]
      exact ⟨rfl, .inl rfl⟩
    · rw [List.nil_append, domain_nil]
      cases hs : isSpace c with
      | true =>
        rw [domain_space hs, domain_nil]
        exact .inr ⟨rfl, .inl rfl⟩
      | false =>
        cases he : endsAtom c with
        | true => exact .inl (domain_end (isDomainSign_of_isBlank hc hs) he [])
        | false =>
          rw [domain_atom (isDomainSign_of_isBlank hc hs) he]
          refine .inr ⟨by simp [domain_nil], .inr ⟨[c], by simp [domain_nil], ?_⟩⟩
          exact hasBlank_singleton hc
  | case2 c rest hs ih => exact ih.congr fun v ↦ domain_space hs _
  | case3 rest _ _ ih =>
    exact ((afterComment_ending 1 rest).after ih domain_nil domain_comma).congr
      fun v ↦ domain_comment _
  | case4 rest _ _ _ _ _ _ ih =>
    exact domain_ending_of (k := fun x t ↦ '[' :: (x ++ ']' :: t))
      (delimited_ending (.inr rfl) rest) (fun x t h ↦ (h.append_left _).cons _)
      (fun x t h ↦ ((h.cons ']').append_right x).cons _) (fun v ↦ domain_literal _) ih
  | case5 rest _ _ _ _ _ _ ih =>
    exact ih.map (fun _ h ↦ h.map fun _ ht ↦ ht.cons '.') fun v ↦ domain_dot _
  | case6 rest =>
    refine .settled fun v ↦ ?_
    rw [domain_at, List.cons_append, domain_at]
  | case7 c rest hs hp hl hd ha he =>
    refine .settled fun v ↦ ?_
    rw [domain_end (isDomainSign_of_ne hs hp hl hd ha) he, List.cons_append,
      domain_end (isDomainSign_of_ne hs hp hl hd ha) he]
  | case8 c rest hs hp hl hd ha he _ _ _ _ ih =>
    rw [Bool.not_eq_true] at he
    exact domain_ending_of (k := fun x t ↦ c :: (x ++ t)) (span_ending endsAtom (by decide) rest)
      (fun x t h ↦ (h.append_left t).cons c) (fun x t h ↦ (h.append_right x).cons c)
      (fun v ↦ domain_atom (isDomainSign_of_ne hs hp hl hd ha) he _) ih

end MailDispatch.Address
