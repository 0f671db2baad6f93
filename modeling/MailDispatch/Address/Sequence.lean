import MailDispatch.Address.Scan

/-!
# Address lists

The addresses of a header value, in order. Items stand between commas: a bare address, an address
in angle brackets behind a display name, or a group, a name with a colon and members up to a
semicolon. What cannot be understood counts as an empty address, so that malformed values show up
as such instead of being skipped. Members that cannot be understood leave no trace, but a group
without any address is an empty address itself.
-/

namespace MailDispatch.Address

/-! ## One item -/

/-- What an item of an address list turned out to be. -/
inductive Item where
  | found (address : List Char)
  | nothing
  | groupStart
  deriving DecidableEq, Repr

/-- Passes over white space, comments, and then one comma if there is one. -/
def afterComma (s : List Char) : List Char :=
  match (gap 0 s).2 with
  | ',' :: rest => rest
  | left => left

/-- The first word of a phrase, taken for an address. -/
def ofWords : List (List Char) → Item
  | [] => .nothing
  | word :: _ => .found word

/-- Reads one item that starts where a gap ended, or the beginning of a group. -/
def itemAt (s : List Char) : Item × List Char :=
  match (gap 0 (phrase s).2).2 with
  | [] => (ofWords (phrase s).1, [])
  | '@' :: _ => (.found (addrSpec s).1, afterComma (addrSpec s).2)
  | ':' :: rest => (.groupStart, rest)
  | '<' :: rest =>
    (.found (angleAddr false (gap 0 rest).2).1, afterComma (angleAddr false (gap 0 rest).2).2)
  | c :: rest => match (phrase s).1 with
    | [] => (.nothing, afterComma rest)
    | word :: _ => (.found word, afterComma (c :: rest))

/-- Reads one item, or the beginning of a group. -/
def item (s : List Char) : Item × List Char := itemAt (gap 0 s).2

/-! ## Progress -/

theorem length_afterComma_le (s : List Char) : (afterComma s).length ≤ s.length := by
  have := length_gap_le 0 s
  unfold afterComma
  split
  · next h => rw [h] at this; simp only [List.length_cons] at this; omega
  · exact this

/-- A gap ends where neither white space nor a comment starts. -/
theorem head_gap (depth : Nat) {s : List Char} {c : Char} {rest : List Char}
    (h : (gap depth s).2 = c :: rest) : (isSpace c || isLineBreak c) = false ∧ c ≠ '(' := by
  fun_induction gap depth s <;> simp_all

theorem gap_of_head {c : Char} (hs : (isSpace c || isLineBreak c) = false) (hc : c ≠ '(')
    (rest : List Char) : gap 0 (c :: rest) = ([], c :: rest) := by
  simp_all [gap]

theorem gap_gap (s : List Char) : (gap 0 (gap 0 s).2).2 = (gap 0 s).2 := by
  cases h : (gap 0 s).2 with
  | nil => rfl
  | cons c rest =>
    obtain ⟨hs, hc⟩ := head_gap 0 h
    rw [gap_of_head hs hc]

/-- A phrase that has words takes them from the text. -/
theorem length_phrase (s : List Char) :
    (phrase s).2.length ≤ s.length ∧ ((phrase s).1 ≠ [] → (phrase s).2.length < s.length) := by
  fun_induction phrase s <;> simp_all <;> omega

/-- Where a phrase ends at an at sign, an address that is read from its beginning passes it. -/
theorem length_addrSpec_lt {s : List Char} (hs : (gap 0 s).2 = s)
    {rest : List Char} (h : (gap 0 (phrase s).2).2 = '@' :: rest) :
    (addrSpec s).2.length < s.length := by
  cases s with
  | nil => simp [phrase, gap] at h
  | cons c cs =>
    obtain ⟨hc, hp⟩ := head_gap 0 hs
    have hl := length_addrSpec_localPart (c :: cs)
    rw [hs] at hl
    by_cases h₁ : c = '.' ∨ c = '"' ∨ endsAtom c = false
    · exact Nat.lt_of_le_of_lt hl.1 (length_localPart_lt [] cs h₁)
    · simp only [not_or, Bool.not_eq_false] at h₁
      obtain ⟨h₂, h₃, h₄⟩ := h₁
      have h₅ : phrase (c :: cs) = ([], c :: cs) := by
        rw [phrase]
        simp [hc, hp, h₃, endsWord, h₄, h₂]
      rw [h₅, gap_of_head hc hp] at h
      simp only [List.cons.injEq] at h
      refine Nat.lt_of_lt_of_le (hl.2 ?_) (length_localPart_le [] (c :: cs))
      rw [localPart]
      simp [h.1, endsAtom, isSpecial]

/-- An item takes in part of a text that is not empty. -/
theorem length_item_lt {s : List Char} (hs : s ≠ []) : (item s).2.length < s.length := by
  have h₀ := length_gap_le 0 s
  have h₁ := length_phrase (gap 0 s).2
  have h₂ := length_gap_le 0 (phrase (gap 0 s).2).2
  have h₃ : 0 < s.length := List.length_pos_iff.mpr hs
  unfold item itemAt
  split
  · simpa using h₃
  · next h =>
    have h₄ := length_addrSpec_lt (gap_gap s) h
    have h₅ := length_afterComma_le (addrSpec (gap 0 s).2).2
    dsimp only
    omega
  · next h => rw [h] at h₂; simp only [List.length_cons] at h₂; dsimp only; omega
  · next rest h =>
    rw [h] at h₂
    have h₄ := length_gap_le 0 rest
    have h₅ := length_angleAddr_le false (gap 0 rest).2
    have h₆ := length_afterComma_le (angleAddr false (gap 0 rest).2).2
    simp only [List.length_cons] at h₂
    dsimp only
    omega
  · next c rest _ _ _ h =>
    rw [h] at h₂
    simp only [List.length_cons] at h₂
    split
    · have := length_afterComma_le rest
      dsimp only
      omega
    · next hw =>
      have h₄ := h₁.2 (by rw [hw]; simp)
      have h₅ := length_afterComma_le (c :: rest)
      simp only [List.length_cons] at h₅
      dsimp only
      omega

/-! ## Lists -/

/-- What a finished item adds to the list: an empty address if it held none. -/
def closing (found : Bool) : List (List Char) := if found then [] else [[]]

/-- The addresses of a list. `depth` is the number of groups that are open, and `found` says
whether the outermost of them has brought an address already. -/
def sequence (depth : Nat) (found : Bool) (s : List Char) : List (List Char) :=
  match depth with
  | 0 =>
    if hs : s = [] then []
    else
      have := length_item_lt hs
      match (item s).1 with
      | .found address => address :: sequence 0 false (item s).2
      | .nothing => [] :: sequence 0 false (item s).2
      | .groupStart => sequence 1 false (item s).2
  | depth + 1 =>
    have := length_gap_le 0 s
    match _h : (gap 0 s).2 with
    | [] => closing found
    | c :: rest =>
      have := length_item_lt (s := c :: rest) (List.cons_ne_nil _ _)
      have := length_afterComma_le rest
      if c = ';' then match depth with
        | 0 => closing found ++ sequence 0 false (afterComma rest)
        | depth + 1 => sequence (depth + 1) found (afterComma rest)
      else match (item (c :: rest)).1 with
        | .found address => address :: sequence (depth + 1) true (item (c :: rest)).2
        | .nothing => sequence (depth + 1) found (item (c :: rest)).2
        | .groupStart => sequence (depth + 2) found (item (c :: rest)).2
termination_by s.length
decreasing_by all_goals simp_all; try omega

/-! ## Malformed lists -/

/-- The text behind the next quote that is not escaped, if there is one. -/
def afterQuote? : List Char → Option (List Char)
  | [] => none
  | '\\' :: _ :: rest => afterQuote? rest
  | c :: rest => if c = '"' then some rest else afterQuote? rest

theorem length_afterQuote? {s rest : List Char} (h : afterQuote? s = some rest) :
    rest.length < s.length := by
  fun_induction afterQuote? s with
  | case1 => simp at h
  | case2 _ _ ih => have := ih h; simp only [List.length_cons]; omega
  | case3 => simp_all
  | case4 _ _ _ _ ih => have := ih h; simp only [List.length_cons]; omega

/-- The text without its quoted spans. A quote that is never closed begins no span. -/
def outsideQuotes (s : List Char) : List Char :=
  match s with
  | [] => []
  | '\\' :: c :: rest => '\\' :: c :: outsideQuotes rest
  | c :: rest =>
    if c = '"' then match h : afterQuote? rest with
      | some left =>
        have := length_afterQuote? h
        outsideQuotes left
      | none => c :: rest
    else c :: outsideQuotes rest
termination_by s.length
decreasing_by all_goals simp only [List.length_cons]; omega

/-- Whether parentheses are balanced, `depth` of them being open. Escaped ones do not count. -/
def isBalanced : (depth : Nat) → List Char → Bool
  | depth, [] => depth == 0
  | depth, '\\' :: _ :: rest => isBalanced depth rest
  | depth, '(' :: rest => isBalanced (depth + 1) rest
  | 0, ')' :: _ => false
  | depth + 1, ')' :: rest => isBalanced depth rest
  | depth, _ :: rest => isBalanced depth rest

/-- An address, or an empty one if a bracket is left in it. -/
def withoutBracket (address : List Char) : List Char :=
  if address.contains '[' then [] else address

/-- The addresses that a text holds, however many there are: none if its comments are not
balanced. -/
def parsed (s : List Char) : List (List Char) :=
  if isBalanced 0 (outsideQuotes s) then (sequence 0 false s).map withoutBracket else []

/-- The number of addresses that the commas of a text announce. -/
def announced (s : List Char) : Nat := (outsideQuotes s).count ',' + 1

/-- The addresses of a text, or one empty address if their number is not the announced one. -/
def addresses (s : List Char) : List (List Char) :=
  if (parsed s).length = announced s then parsed s else [[]]

/-- The address of a text that holds exactly one, or else an empty address. -/
def soleAddress (s : List Char) : List Char :=
  match parsed s with
  | [address] => address
  | _ => []

end MailDispatch.Address
