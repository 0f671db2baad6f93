import MailDispatch.Proofs.Address.Item

/-!
# How an address list continues

What an address list yields once more text follows it. Either any further list adds its own
addresses behind a comma, or not even the plainest one does: `sequence_splits` is this
dichotomy, and the plainest list is the one of the address `x@y`.

A list is clean if its addresses are neither empty nor hold white space, as accepted addresses do.
-/

namespace MailDispatch.Address

open Text (isBlank)

/-! ## One step -/

/-- What a list yields from an item and the text behind it. -/
def itemThen (depth : Nat) (found : Bool) : Item → List Char → List (List Char)
  | .found address, rest => address :: sequence depth true rest
  | .nothing, rest => (if depth = 0 then [[]] else []) ++ sequence depth found rest
  | .groupStart, rest => sequence (depth + 1) (found && depth != 0) rest

/-- Outside of groups, it does not matter what was found. -/
theorem sequence_zero (found : Bool) (s : List Char) :
    sequence 0 found s = sequence 0 false s := by
  conv => lhs; rw [sequence]
  conv => rhs; rw [sequence]

theorem sequence_zero_of_item (found : Bool) {s : List Char} (hs : s ≠ []) :
    sequence 0 found s = itemThen 0 found (item s).1 (item s).2 := by
  rw [sequence, dif_neg hs]
  cases (item s).1 with
  | found a => simp [itemThen, sequence_zero true]
  | nothing => simp [itemThen, sequence_zero found]
  | groupStart => simp [itemThen]

theorem sequence_zero_nil (found : Bool) : sequence 0 found [] = [] := by
  rw [sequence, dif_pos rfl]

theorem sequence_nil_true (depth : Nat) : sequence depth true [] = [] := by
  cases depth with
  | zero => exact sequence_zero_nil true
  | succ depth => rw [sequence]; rfl

theorem sequence_succ_of_gap (depth : Nat) (found : Bool) {s : List Char}
    (h : (gap 0 s).2 = []) : sequence (depth + 1) found s = closing found := by
  rw [sequence]
  split
  · rfl
  · next h' => rw [h] at h'; cases h'

theorem sequence_succ_of_item (depth : Nat) (found : Bool) {s : List Char} {c : Char}
    {rest : List Char} (h : (gap 0 s).2 = c :: rest) (hc : c ≠ ';') :
    sequence (depth + 1) found s = itemThen (depth + 1) found (item s).1 (item s).2 := by
  have hitem : item (c :: rest) = item s := by rw [item, ← h, gap_gap, item]
  rw [sequence]
  split
  · next h' => rw [h] at h'; cases h'
  · next c' rest' h' =>
    rw [h] at h'
    cases h'
    rw [if_neg hc, hitem]
    cases (item s).1 <;> simp [itemThen]

/-- What a list yields behind the end of a group. -/
def groupEnd (depth : Nat) (found : Bool) (rest : List Char) : List (List Char) :=
  if depth = 0 then closing found ++ sequence 0 false rest else sequence depth found rest

theorem sequence_succ_of_semicolon (depth : Nat) (found : Bool) {s rest : List Char}
    (h : (gap 0 s).2 = ';' :: rest) :
    sequence (depth + 1) found s = groupEnd depth found (afterComma rest) := by
  rw [sequence]
  split
  · next h' => rw [h] at h'; cases h'
  · next c' rest' h' =>
    rw [h] at h'
    cases h'
    rw [if_pos rfl]
    cases depth with
    | zero => simp [groupEnd]
    | succ depth => simp [groupEnd]

theorem sequence_of_item {depth : Nat} (found : Bool) {s : List Char} (h : (gap 0 s).2 ≠ [])
    (hc : depth ≠ 0 → (gap 0 s).2.head? ≠ some ';') :
    sequence depth found s = itemThen depth found (item s).1 (item s).2 := by
  cases hr : (gap 0 s).2 with
  | nil => exact absurd hr h
  | cons c rest =>
    cases depth with
    | zero =>
      refine sequence_zero_of_item found ?_
      rintro rfl
      cases hr
    | succ depth =>
      refine sequence_succ_of_item depth found hr ?_
      rintro rfl
      exact hc (Nat.succ_ne_zero depth) (by rw [hr]; rfl)

/-- The three ways in which a list goes on: it comes to the end, a group ends, or an item is read.
In the latter two cases what is left is shorter. -/
theorem sequence_induction {P : Nat → List Char → Prop}
    (hgap : ∀ depth s, (gap 0 s).2 = [] → P depth s)
    (hend : ∀ depth s rest, (gap 0 s).2 = ';' :: rest → (∀ d, P d (afterComma rest)) →
      P (depth + 1) s)
    (hitem : ∀ depth s, (gap 0 s).2 ≠ [] → (depth ≠ 0 → (gap 0 s).2.head? ≠ some ';') →
      (∀ d, P d (item s).2) → P depth s)
    (depth : Nat) (s : List Char) : P depth s := by
  -- an item is read in the same way within groups and outside, unless a group ends
  by_cases hr : (gap 0 s).2 = []
  · exact hgap depth s hr
  by_cases hc : depth ≠ 0 ∧ (gap 0 s).2.head? = some ';'
  · obtain ⟨hd, hc⟩ := hc
    obtain ⟨d, rfl⟩ := Nat.exists_eq_succ_of_ne_zero hd
    obtain ⟨rest, hrest⟩ := List.head?_eq_some_iff.mp hc
    have hlen : rest.length < s.length := by
      have h := length_gap_le 0 s
      rwa [hrest] at h
    have := length_afterComma_le rest
    exact hend d s rest hrest fun d ↦ sequence_induction hgap hend hitem d (afterComma rest)
  · have hs : s ≠ [] := by
      rintro rfl
      exact hr rfl
    have := length_item_lt hs
    exact hitem depth s hr (fun hd h ↦ hc ⟨hd, h⟩) fun d ↦
      sequence_induction hgap hend hitem d (item s).2
termination_by s.length
decreasing_by all_goals omega

theorem item_gap (s : List Char) : item (gap 0 s).2 = item s := by
  rw [item, gap_gap, item]

/-- White space and comments in front of a list do not count. -/
theorem sequence_gap (depth : Nat) (found : Bool) {s : List Char} (h : (gap 0 s).2 ≠ []) :
    sequence depth found (gap 0 s).2 = sequence depth found s := by
  have hgap := gap_gap s
  by_cases hc : depth ≠ 0 → (gap 0 s).2.head? ≠ some ';'
  · rw [sequence_of_item found (by rw [hgap]; exact h) (by rw [hgap]; exact hc),
      sequence_of_item found h hc, item_gap]
  · simp only [Classical.not_imp, Decidable.not_not] at hc
    obtain ⟨d, rfl⟩ := Nat.exists_eq_succ_of_ne_zero hc.1
    obtain ⟨rest, hr⟩ := List.head?_eq_some_iff.mp hc.2
    rw [sequence_succ_of_semicolon d found (hgap.trans hr), sequence_succ_of_semicolon d found hr]

/-- What neither begins a word nor structures an item is passed over. -/
theorem item_of_stray {c : Char} {s rest : List Char} (h : (gap 0 s).2 = c :: rest)
    (hc : c ∈ [',', ';']) : item s = (.nothing, afterComma rest) := by
  obtain ⟨hq, h₁, h₂, h₃, he⟩ :
      c ≠ '"' ∧ c ≠ '@' ∧ c ≠ ':' ∧ c ≠ '<' ∧ endsWord c = true := by
    rcases List.mem_cons.mp hc with rfl | hc
    · decide
    · obtain rfl := List.mem_singleton.mp hc
      decide
  obtain ⟨hs, hp⟩ := head_gap 0 h
  have hword : wordGap (c :: rest) = (none, c :: rest) := by
    rw [wordGap, firstWord_end hs hq hp he, gap_of_head hs hp]
  rw [item, h, itemAt_of_other (by rw [hword]) h₁ h₂ h₃, hword]
  rfl

theorem item_of_gap {s : List Char} (h : (gap 0 s).2 = []) : item s = (.nothing, []) := by
  have hword : wordGap [] = (none, []) := by rw [wordGap, firstWord_nil]; rfl
  rw [item, h, itemAt_of_nil (by rw [hword]), hword]
  rfl

theorem sequence_zero_of_gap (found : Bool) {s : List Char} (hs : s ≠ []) (h : (gap 0 s).2 = []) :
    sequence 0 found s = [[]] := by
  rw [sequence_zero_of_item found hs, item_of_gap h, itemThen, sequence_zero_nil]
  rfl

theorem sequence_zero_of_stray (found : Bool) {c : Char} {s rest : List Char}
    (h : (gap 0 s).2 = c :: rest) (hc : c ∈ [',', ';']) : [] ∈ sequence 0 found s := by
  rw [sequence_of_item found (by rw [h]; exact List.cons_ne_nil _ _) fun h ↦ absurd rfl h,
    item_of_stray h hc]
  exact List.mem_cons_self

/-- Within groups, a comma that nothing precedes is passed over. -/
theorem sequence_succ_of_comma (depth : Nat) (found : Bool) {s rest : List Char}
    (h : (gap 0 s).2 = ',' :: rest) :
    sequence (depth + 1) found s = sequence (depth + 1) found (afterComma rest) := by
  rw [sequence_succ_of_item depth found h (by decide), item_of_stray h (by decide), itemThen]
  simp

/-! ## Lists behind a comma -/

/-- A list in which nothing counts as an empty address. -/
def IsProper (t : List Char) : Prop := t ≠ [] ∧ [] ∉ sequence 0 false t

theorem gap_space (t : List Char) : (gap 0 (' ' :: t)).2 = (gap 0 t).2 := by
  rfl

theorem IsProper.startsItem {t : List Char} (ht : IsProper t) : StartsItem (' ' :: t) := by
  rw [StartsItem, gap_space]
  refine ⟨fun h ↦ ht.2 ?_, fun h ↦ ht.2 ?_⟩
  · rw [sequence_zero_of_gap false ht.1 h]
    exact List.mem_cons_self
  · obtain ⟨rest, hr⟩ := List.head?_eq_some_iff.mp h
    exact sequence_zero_of_stray false hr (by decide)

/-- A list behind a comma and a blank is read on its own. -/
theorem IsProper.sequence_space {t : List Char} (ht : IsProper t) (depth : Nat) (found : Bool)
    {r : List Char} (hr : r = ' ' :: t ∨ r = (gap 0 (' ' :: t)).2) :
    sequence depth found r = sequence depth found t := by
  have h := ht.startsItem.1
  have hspace : sequence depth found (' ' :: t) = sequence depth found t := by
    rw [← sequence_gap depth found h, gap_space]
    exact sequence_gap depth found h
  rcases hr with rfl | rfl
  · exact hspace
  · rw [sequence_gap depth found h, hspace]

theorem nil_mem_closing {found : Bool} (h : [] ∉ closing found) : closing found = [] := by
  cases found with
  | true => rfl
  | false => exact absurd List.mem_cons_self h

/-- In a proper list no group is empty and none ends that was not begun, so it reads the same
within groups. -/
theorem sequence_add_depth (k depth : Nat) (s : List Char) (found : Bool)
    (h : [] ∉ sequence depth found s) :
    sequence (depth + k) true s = sequence depth found s := by
  -- what was found so far is reset along the way, so it must not be fixed
  revert found h
  induction depth, s using sequence_induction with
  | hgap depth s hr =>
    intro found h
    cases depth with
    | zero =>
      by_cases hs : s = []
      · subst hs
        rw [sequence_nil_true, sequence_zero_nil]
      · rw [sequence_zero_of_gap found hs hr] at h
        exact absurd List.mem_cons_self h
    | succ depth =>
      rw [sequence_succ_of_gap depth found hr] at h ⊢
      rw [Nat.add_right_comm, sequence_succ_of_gap _ true hr, nil_mem_closing h]
      rfl
  | hend depth s rest hr ih =>
    intro found h
    rw [sequence_succ_of_semicolon depth found hr] at h ⊢
    rw [Nat.add_right_comm, sequence_succ_of_semicolon _ true hr]
    cases depth with
    | zero =>
      rw [groupEnd, if_pos rfl, List.mem_append, not_or] at h
      have ih := ih 0 false h.2
      rw [groupEnd, groupEnd, if_pos rfl, nil_mem_closing h.1, ← ih]
      cases k with
      | zero => simp [closing, sequence_zero true]
      | succ k => simp
    | succ depth =>
      rw [groupEnd, if_neg (Nat.succ_ne_zero depth)] at h
      rw [groupEnd, groupEnd, if_neg (by omega), if_neg (Nat.succ_ne_zero depth)]
      exact ih (depth + 1) found h
  | hitem depth s hr hc ih =>
    intro found h
    rw [sequence_of_item found hr hc] at h ⊢
    by_cases hk : depth + k ≠ 0 ∧ (gap 0 s).2.head? = some ';'
    · -- outside of groups, a semicolon counts as an empty address
      obtain ⟨rest, hrest⟩ := List.head?_eq_some_iff.mp hk.2
      have hd : depth = 0 := Decidable.not_not.mp fun hd ↦ hc hd hk.2
      subst hd
      rw [item_of_stray hrest (by decide)] at h
      exact absurd List.mem_cons_self h
    · rw [sequence_of_item true hr fun hd h ↦ hk ⟨hd, h⟩]
      cases hi : (item s).1 with
      | found a =>
        rw [hi, itemThen, List.mem_cons, not_or] at h
        rw [itemThen, itemThen, ih depth true h.2]
      | nothing =>
        rw [hi, itemThen, List.mem_append, not_or] at h
        have hd : depth ≠ 0 := by
          rintro rfl
          exact h.1 List.mem_cons_self
        rw [itemThen, itemThen, ih depth found h.2, if_neg hd, if_neg (by omega)]
      | groupStart =>
        rw [hi, itemThen] at h
        rw [itemThen, itemThen]
        by_cases hdk : depth + k = 0
        · obtain ⟨rfl, rfl⟩ : depth = 0 ∧ k = 0 := by omega
          simp
        · rw [← ih (depth + 1) (found && depth != 0) h, Nat.add_right_comm, Bool.true_and,
            bne_iff_ne.mpr hdk]

/-! ## What a comma does -/

/-- A list whose addresses are neither empty nor hold white space. -/
def IsClean (l : List (List Char)) : Prop := ∀ a ∈ l, a ≠ [] ∧ ¬ HasBlank a

/-- A comma and the plainest address. -/
def commaPlain : List Char := [',', ' ', 'x', '@', 'y']

/-- Either each proper list adds its own addresses to what `g` yields, or not even the plainest
list does. -/
def Splits (g : List Char → List (List Char)) (s : List Char) : Prop :=
  (∃ depth, ∀ t, IsProper t → g (s ++ ',' :: ' ' :: t) = g s ++ sequence depth true t) ∨
    g (s ++ commaPlain) ≠ g s ++ [['x', '@', 'y']]

theorem isOrdinary_commaPlain : IsOrdinary commaPlain := by
  decide

theorem IsClean.append {l r : List (List Char)} (h : IsClean (l ++ r)) : IsClean l ∧ IsClean r :=
  ⟨fun a ha ↦ h a (List.mem_append_left r ha), fun a ha ↦ h a (List.mem_append_right l ha)⟩

theorem IsClean.nil_not_mem {l : List (List Char)} (h : IsClean l) : [] ∉ l :=
  fun hl ↦ (h [] hl).1 rfl

theorem IsClean.closing {found : Bool} (h : IsClean (closing found)) : found = true := by
  cases found with
  | true => rfl
  | false => exact absurd List.mem_cons_self h.nil_not_mem

namespace Splits

variable {g g' : List Char → List (List Char)} {s s' : List Char}

/-- What is settled already does not matter. -/
theorem of_append (h : Splits g' s') (l : List (List Char))
    (hg : ∀ v, g (s ++ v) = l ++ g' (s' ++ v)) : Splits g s := by
  have hs : g s = l ++ g' s' := by simpa using hg []
  rcases h with ⟨depth, h⟩ | h
  · refine .inl ⟨depth, fun t ht ↦ ?_⟩
    rw [hg, h t ht, hs, List.append_assoc]
  · refine .inr fun heq ↦ h ?_
    rw [hg, hs, List.append_assoc] at heq
    exact List.append_cancel_left heq

/-- A list that yields no more addresses than before does not split. -/
theorem of_length (h : (g (s ++ commaPlain)).length = (g s).length) : Splits g s := by
  refine .inr fun heq ↦ ?_
  rw [heq, List.length_append] at h
  exact absurd h (by simp)

end Splits

/-- At the very beginning of a list, a comma counts as an empty address. -/
theorem splits_start (found : Bool) : Splits (sequence 0 found) [] := by
  refine .inr fun h ↦ ?_
  have hmem : [] ∈ sequence 0 found ([] ++ commaPlain) :=
    sequence_zero_of_stray found rfl (by decide)
  rw [h, sequence_zero_nil] at hmem
  exact absurd hmem (by decide)

/-- What an item adds comes before what the text behind it adds. -/
theorem exists_itemThen (depth : Nat) (found : Bool) (i : Item) :
    ∃ l d f, ∀ rest, itemThen depth found i rest = l ++ sequence d f rest := by
  cases i with
  | found a => exact ⟨[a], depth, true, fun _ ↦ rfl⟩
  | nothing => exact ⟨_, depth, found, fun _ ↦ rfl⟩
  | groupStart => exact ⟨[], depth + 1, _, fun _ ↦ rfl⟩

theorem groupEnd_eq (depth : Nat) (found : Bool) (rest : List Char) :
    groupEnd depth found rest =
      (if depth = 0 then closing found else []) ++ sequence depth found rest := by
  rw [groupEnd]
  split
  · next h => rw [h, sequence_zero found]
  · rfl

theorem not_isTainted_of_isClean {depth : Nat} {found : Bool} {i : Item} {rest : List Char}
    (h : IsClean (itemThen depth found i rest)) : ¬ IsTainted i := by
  cases i with
  | found a => exact (h a List.mem_cons_self).2
  | nothing => exact id
  | groupStart => exact id

theorem length_itemThen_nil (depth : Nat) (found : Bool) {i j : Item} (h : SameKind i j) :
    (itemThen depth found i []).length = (itemThen depth found j []).length := by
  cases i <;> cases j <;> first | rfl | exact h.elim

/-- Where a list has come to its end with nothing left open but groups, any list may follow. -/
theorem sequence_of_end {depth : Nat} {found : Bool} (h : IsClean (sequence depth found []))
    (t : List Char) :
    sequence depth found t = sequence depth found [] ++ sequence depth true t := by
  cases depth with
  | zero => rw [sequence_zero found t, sequence_zero true t, sequence_zero_nil, List.nil_append]
  | succ depth =>
    have hnil := sequence_succ_of_gap depth found (s := []) rfl
    rw [hnil] at h
    obtain rfl := h.closing
    rw [hnil]
    rfl

theorem splits_of_gap {depth : Nat} {found : Bool} {s : List Char} (hr : (gap 0 s).2 = [])
    (h : IsClean (sequence depth found s)) : Splits (sequence depth found) s := by
  cases depth with
  | zero =>
    by_cases hs : s = []
    · rw [hs]
      exact splits_start found
    · rw [sequence_zero_of_gap found hs hr] at h
      exact absurd List.mem_cons_self h.nil_not_mem
  | succ depth =>
    have hnil := sequence_succ_of_gap depth found hr
    rw [hnil] at h
    obtain rfl := h.closing
    rcases (gap_ending 0 s).comma_or_ordinary hr with hc | hw
    · refine .inl ⟨depth + 1, fun t ht ↦ ?_⟩
      rw [hnil, sequence_succ_of_comma depth true (hc _).1, afterComma_of_ne ht.startsItem.2,
        ht.sequence_space _ _ (.inr rfl)]
      rfl
    · refine .of_length ?_
      rw [hnil, sequence_succ_of_gap depth true (hw _ isOrdinary_commaPlain)]

theorem sequence_append_of_semicolon (depth : Nat) (found : Bool) {s rest : List Char}
    (hr : (gap 0 s).2 = ';' :: rest) (v : List Char) :
    sequence (depth + 1) found (s ++ v) = (if depth = 0 then closing found else []) ++
      sequence depth found (afterComma (rest ++ v)) := by
  have hset := (gap_ending 0 s).settled_of_ne_nil (by rw [hr]; exact List.cons_ne_nil _ _) v
  rw [sequence_succ_of_semicolon depth found
    (show (gap 0 (s ++ v)).2 = ';' :: (rest ++ v) by rw [hset, hr]; rfl), groupEnd_eq]

theorem sequence_append_of_item {depth : Nat} (found : Bool) {s : List Char}
    (hr : (gap 0 s).2 ≠ []) (hc : depth ≠ 0 → (gap 0 s).2.head? ≠ some ';') (v : List Char) :
    sequence depth found (s ++ v) =
      itemThen depth found (item (s ++ v)).1 (item (s ++ v)).2 := by
  have hset := (gap_ending 0 s).settled_of_ne_nil hr v
  obtain ⟨c, rest, hrest⟩ := List.exists_cons_of_ne_nil hr
  rw [hrest] at hset hc
  exact sequence_of_item found (by rw [hset]; exact List.cons_ne_nil _ _) (by rw [hset]; exact hc)

/-- Either each further list adds its own addresses behind a comma, or not even the plainest list
does. -/
theorem sequence_splits (depth : Nat) (s : List Char) (found : Bool)
    (h : IsClean (sequence depth found s)) : Splits (sequence depth found) s := by
  revert found h
  induction depth, s using sequence_induction with
  | hgap depth s hr => exact fun found h ↦ splits_of_gap hr h
  | hend depth s rest hr ih =>
    intro found h
    have hv := sequence_append_of_semicolon depth found hr
    have hs := by simpa using hv []
    rw [hs] at h
    -- behind the end of a group, a comma is passed over
    rcases afterComma_cases rest with hset | ⟨hnil, -, hc | hw⟩
    · refine (ih depth found h.append.2).of_append (if depth = 0 then closing found else [])
        fun v ↦ ?_
      rw [hv, hset]
    · rw [hnil] at h hs
      refine .inl ⟨depth, fun t ht ↦ ?_⟩
      rw [hv, hc, hs, ht.sequence_space _ _ (.inl rfl), sequence_of_end h.append.2 t,
        List.append_assoc]
    · refine .of_length ?_
      rw [hv, hs, hnil, hw _ isOrdinary_commaPlain]
  | hitem depth s hr hc ih =>
    intro found h
    have hv := sequence_append_of_item found hr hc
    have hs := by simpa using hv []
    rw [hs] at h
    obtain ⟨l, d, f, hl⟩ := exists_itemThen depth found (item s).1
    cases item_ending hr with
    | settled hset =>
      rw [hl] at h
      refine (ih d f h.append.2).of_append l fun v ↦ ?_
      rw [hv, hset, hl]
    | closed hnil hcomma _ =>
      refine .inl ⟨d, fun t ht ↦ ?_⟩
      obtain ⟨hrest, hi⟩ := hcomma _ ht.startsItem
      -- an address without white space is the same with a comma behind it
      have hi : (item (s ++ ',' :: ' ' :: t)).1 = (item s).1 :=
        (hi.resolve_right (not_isTainted_of_isClean h)).symm
      rw [hl, hnil] at h
      rw [hv, hi, hs, hl, hl, hnil, ht.sequence_space d f hrest, sequence_of_end h.append.2 t,
        List.append_assoc]
    | unclosed hnil hw _ =>
      -- the item takes in what follows, and the list stays as long as it was
      obtain ⟨hrest, hkind⟩ := hw _ isOrdinary_commaPlain
      refine .of_length ?_
      rw [hv, hs, hrest, hnil]
      exact length_itemThen_nil depth found hkind

end MailDispatch.Address
