import MailDispatch.Proofs.Address.Scan

/-!
# Quotes and parentheses across a plain character

A list is malformed if its parentheses are not balanced or its commas announce another number of
addresses; both are judged by the text outside of quotes. Here is what becomes of that text when a
plain character and more text follow. A quote that is left open is kept as it is, but as soon as
another quote follows, it begins a quoted span that reaches across.
-/

namespace MailDispatch.Address

/-! ## Quoted spans -/

theorem afterQuote?_cons {c : Char} (hb : c ≠ '\\') (rest : List Char) :
    afterQuote? (c :: rest) = if c = '"' then some rest else afterQuote? rest := by
  rw [afterQuote?]
  exact fun _ _ h _ ↦ hb h

theorem afterQuote?_append_some {s left : List Char} (h : afterQuote? s = some left)
    (v : List Char) : afterQuote? (s ++ v) = some (left ++ v) := by
  fun_induction afterQuote? s with
  | case1 => cases h
  | case2 c rest ih => exact ih h
  | case3 rest hesc =>
    cases h
    exact afterQuote?_cons (by decide) _
  | case4 c rest hesc hq ih =>
    have hb : c ≠ '\\' := by
      intro hb
      cases rest with
      | nil => cases h
      | cons d u => exact hesc d u hb rfl
    rw [List.cons_append, afterQuote?_cons hb, if_neg hq]
    exact ih h

theorem afterQuote?_append_none {s : List Char} (h : afterQuote? s = none) {d : Char}
    (hq : d ≠ '"') (hb : d ≠ '\\') (v : List Char) :
    afterQuote? (s ++ d :: v) = afterQuote? v := by
  fun_induction afterQuote? s with
  | case1 =>
    rw [List.nil_append, afterQuote?_cons hb, if_neg hq]
  | case2 c rest ih => exact ih h
  | case3 rest hesc => cases h
  | case4 c rest hesc hqc ih =>
    by_cases hbc : c = '\\'
    · -- the plain character is escaped, which does not matter
      cases rest with
      | nil =>
        subst hbc
        rfl
      | cons e u => exact (hesc e u hbc rfl).elim
    · rw [List.cons_append, afterQuote?_cons hbc, if_neg hqc]
      exact ih h

theorem outsideQuotes_quote (rest : List Char) :
    outsideQuotes ('"' :: rest) =
      match afterQuote? rest with
      | some left => outsideQuotes left
      | none => '"' :: rest := by
  rw [outsideQuotes, if_pos rfl]
  · split <;> next h => simp only [h]
  · exact fun _ _ h _ ↦ absurd h (by decide)

theorem outsideQuotes_cons {c : Char} (hb : c ≠ '\\') (hq : c ≠ '"') (rest : List Char) :
    outsideQuotes (c :: rest) = c :: outsideQuotes rest := by
  rw [outsideQuotes, if_neg hq]
  exact fun _ _ h _ ↦ hb h

theorem outsideQuotes_escape (c : Char) (rest : List Char) :
    outsideQuotes ('\\' :: c :: rest) = '\\' :: c :: outsideQuotes rest := by
  rw [outsideQuotes]

/-- How the quoted spans of the text `s` end, when the plain character `d` follows. -/
inductive QuoteEnding (d : Char) (s : List Char) : Prop where
  | closed (h : ∀ v, outsideQuotes (s ++ d :: v) = outsideQuotes s ++ d :: outsideQuotes v)
  /-- A quote is left open behind `p`, and the next quote closes it. -/
  | opened (p q : List Char) (hs : outsideQuotes s = p ++ q)
      (h : ∀ v, outsideQuotes (s ++ d :: v) = match afterQuote? v with
        | some left => p ++ outsideQuotes left
        | none => p ++ (q ++ d :: v))

theorem QuoteEnding.of_append {d : Char} {s u : List Char} (h : QuoteEnding d u) (l : List Char)
    (hu : ∀ v, outsideQuotes (s ++ v) = l ++ outsideQuotes (u ++ v)) : QuoteEnding d s := by
  have hs : outsideQuotes s = l ++ outsideQuotes u := by simpa using hu []
  cases h with
  | closed h =>
    refine .closed fun v ↦ ?_
    rw [hu, h, hs, List.append_assoc]
  | opened p q hp h =>
    refine .opened (l ++ p) q (by rw [hs, hp, List.append_assoc]) fun v ↦ ?_
    rw [hu, h]
    cases afterQuote? v <;> simp only [List.append_assoc]

theorem quoteEnding {d : Char} (hq : d ≠ '"') (hb : d ≠ '\\') (s : List Char) :
    QuoteEnding d s := by
  fun_induction outsideQuotes s with
  | case1 =>
    refine .closed fun v ↦ ?_
    rw [List.nil_append, outsideQuotes_cons hb hq, outsideQuotes]
    rfl
  | case2 c rest ih => exact ih.of_append ['\\', c] fun v ↦ outsideQuotes_escape c _
  | case3 rest left h _ _ ih =>
    refine ih.of_append [] fun v ↦ ?_
    rw [List.cons_append, outsideQuotes_quote, afterQuote?_append_some h]
    rfl
  | case4 rest h _ =>
    -- the quote stays open, and the plain character does not close it
    refine .opened [] ('"' :: rest) (by rw [outsideQuotes_quote, h]; rfl) fun v ↦ ?_
    rw [List.cons_append, outsideQuotes_quote, afterQuote?_append_none h hq hb]
    rfl
  | case5 c rest hesc hqc ih =>
    by_cases hbc : c = '\\'
    · cases rest with
      | nil =>
        subst hbc
        refine .closed fun v ↦ ?_
        rw [List.cons_append, List.nil_append, outsideQuotes_escape]
        simp [outsideQuotes]
      | cons e u => exact (hesc e u hbc rfl).elim
    · exact ih.of_append [c] fun v ↦ outsideQuotes_cons hbc hqc _

/-! ## White space -/

/-- White space behind a text does not get into quotes. -/
theorem outsideQuotes_append_singleton {d : Char} (hq : d ≠ '"') (hb : d ≠ '\\') (s : List Char) :
    outsideQuotes (s ++ [d]) = outsideQuotes s ++ [d] := by
  cases quoteEnding hq hb s with
  | closed h =>
    rw [h, outsideQuotes]
  | opened p q hs h =>
    rw [h, hs, List.append_assoc]
    rfl

/-! ## Parentheses -/

/-- A backslash at the very end counts as little as what is no parenthesis. -/
theorem isBalanced_cons {c : Char} {s : List Char} (hc : c ∉ ['(', ')'])
    (hb : c = '\\' → s = []) (depth : Nat) :
    isBalanced depth (c :: s) = isBalanced depth s := by
  simp only [List.mem_cons, List.not_mem_nil, or_false, not_or] at hc
  rw [isBalanced]
  · intro d rest h hs
    rw [hb h] at hs
    cases hs
  · exact hc.1
  · exact fun _ ↦ hc.2
  · exact fun _ _ ↦ hc.2

/-- The last case of `isBalanced`: the character is no parenthesis that counts. -/
theorem not_paren {depth : Nat} {c : Char} (ho : c ≠ '(') (hz : depth = 0 → c = ')' → False)
    (hs : ∀ d, depth = d + 1 → c = ')' → False) : c ∉ ['(', ')'] := by
  simp only [List.mem_cons, List.not_mem_nil, or_false, not_or]
  refine ⟨ho, fun hc ↦ ?_⟩
  cases depth with
  | zero => exact hz rfl hc
  | succ depth => exact hs depth rfl hc

theorem isBalanced_append {depth : Nat} {s : List Char} {d : Char} (hb : d ≠ '\\')
    (hd : d ∉ ['(', ')']) (h : isBalanced depth s = true) (v : List Char) :
    isBalanced depth (s ++ d :: v) = isBalanced 0 v := by
  fun_induction isBalanced depth s with
  | case1 depth =>
    obtain rfl := beq_iff_eq.mp h
    exact isBalanced_cons hd (fun h ↦ absurd h hb) 0
  | case2 depth c rest ih => exact ih h
  | case3 depth rest ih => exact ih h
  | case4 rest => cases h
  | case5 depth rest ih => exact ih h
  | case6 depth c rest hesc hop hz hcl ih =>
    have hc := not_paren hop hz hcl
    by_cases hbc : c = '\\'
    · -- the plain character is escaped
      obtain rfl := eq_nil_of_not_escaping hbc hesc
      subst hbc
      obtain rfl := beq_iff_eq.mp h
      rfl
    · rw [List.cons_append, isBalanced_cons hc fun h ↦ absurd h hbc]
      exact ih h

/-- What is no parenthesis at the end does not matter. -/
theorem isBalanced_append_singleton {d : Char} (hb : d ≠ '\\') (hd : d ∉ ['(', ')'])
    (depth : Nat) (s : List Char) : isBalanced depth (s ++ [d]) = isBalanced depth s := by
  fun_induction isBalanced depth s with
  | case1 depth => exact isBalanced_cons hd (fun h ↦ absurd h hb) depth
  | case2 depth c rest ih => exact ih
  | case3 depth rest ih => exact ih
  | case4 rest => rfl
  | case5 depth rest ih => exact ih
  | case6 depth c rest hesc hop hz hcl ih =>
    have hc := not_paren hop hz hcl
    by_cases hbc : c = '\\'
    · obtain rfl := eq_nil_of_not_escaping hbc hesc
      subst hbc
      rfl
    · rw [List.cons_append, isBalanced_cons hc fun h ↦ absurd h hbc]
      exact ih

end MailDispatch.Address
