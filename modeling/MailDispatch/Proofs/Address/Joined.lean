import MailDispatch.Proofs.Address.Reads

/-!
# Addresses side by side

Joining accepted addresses with commas does not always yield the list of them, since a text can be
accepted while a quoted word or a comment in it is never closed. `StandsAlone` says of a text that
it can be joined with two particular addresses, and `Reads.join` shows that it can then be joined
with any well-formed list.
-/

namespace MailDispatch.Address

/-! ## Standing alone -/

/-- The plainest address, behind a comma. It is `commaPlain` with brackets and a comment, in which
one quote stands. -/
def commaQuote : List Char := [',', ' ', '<', 'x', '@', 'y', '>', ' ', '(', '"', ')']

/-- The text reads the same when one of two simple addresses follows behind a comma, which then
counts too. -/
def StandsAlone (s : List Char) : Prop :=
  ∀ follower ∈ [commaPlain, commaQuote],
    addresses (s ++ follower) = addresses s ++ [['x', '@', 'y']]

instance : DecidablePred StandsAlone :=
  fun s ↦ inferInstanceAs (Decidable (∀ follower ∈ [commaPlain, commaQuote],
    addresses (s ++ follower) = addresses s ++ [['x', '@', 'y']]))

theorem isClean_plain {a : List Char} (h : IsClean [a]) : IsClean [a, ['x', '@', 'y']] := by
  have hplain : IsClean [['x', '@', 'y']] := by
    intro b hb
    obtain rfl := List.mem_singleton.mp hb
    exact ⟨List.cons_ne_nil _ _, by decide⟩
  intro b hb
  rcases List.mem_cons.mp hb with rfl | hb
  · exact h b List.mem_cons_self
  · exact hplain b hb

/-- A text that stands alone leaves no group, comment, quoted word or bracket open. -/
theorem Reads.exists_sequence {s a : List Char} (hs : Reads s [a]) (h : StandsAlone s) :
    ∃ depth, ∀ t, IsProper t →
      Address.sequence 0 false (s ++ ',' :: ' ' :: t) = a :: Address.sequence depth true t := by
  have hplain := h commaPlain List.mem_cons_self
  rw [hs.addresses] at hplain
  have hjoined := reads_of_addresses hplain (isClean_plain hs.clean) (by simp)
  rcases sequence_splits 0 s false (by rw [hs.sequence]; exact hs.clean) with ⟨depth, hd⟩ | hne
  · refine ⟨depth, fun t ht ↦ ?_⟩
    rw [hd t ht, hs.sequence]
    rfl
  · rw [hjoined.sequence, hs.sequence] at hne
    exact absurd rfl hne

/-- A text that stands alone leaves no quote open. -/
theorem Reads.outsideQuotes_join {s a : List Char} (hs : Reads s [a]) (h : StandsAlone s)
    (v : List Char) :
    outsideQuotes (s ++ ',' :: v) = outsideQuotes s ++ ',' :: outsideQuotes v := by
  have hquote := h commaQuote (List.mem_cons_of_mem _ List.mem_cons_self)
  rw [hs.addresses] at hquote
  have hjoined := reads_of_addresses hquote (isClean_plain hs.clean) (by simp)
  cases quoteEnding (d := ',') (by decide) (by decide) s with
  | closed h => exact h v
  | opened p q hp h =>
    -- the quote in the comment closes the open one, and the comma before it does not count
    have hout : outsideQuotes (s ++ commaQuote) = p ++ outsideQuotes [')'] := h _
    have hcount := hjoined.announced
    have hone := hs.announced
    rw [Address.announced, hout, outsideQuotes_cons (by decide) (by decide), outsideQuotes,
      List.count_append] at hcount
    rw [Address.announced, hp, List.count_append] at hone
    have hparen : ([')'] : List Char).count ',' = 0 := by decide
    simp only [List.length_append, List.length_singleton] at hcount hone
    exfalso
    omega

theorem announced_join {s v : List Char}
    (h : outsideQuotes (s ++ ',' :: v) = outsideQuotes s ++ ',' :: outsideQuotes v) :
    announced (s ++ ',' :: v) = announced s + announced v := by
  rw [announced, h, List.count_append, List.count_cons_self, announced, announced]
  omega

theorem outsideQuotes_space (t : List Char) : outsideQuotes (' ' :: t) = ' ' :: outsideQuotes t :=
  outsideQuotes_cons (by decide) (by decide) t

/-- Behind an accepted text that stands alone, any well-formed list may follow. -/
theorem Reads.join {s t a : List Char} {l : List (List Char)} (hs : Reads s [a])
    (h : StandsAlone s) (ht : Reads t l) (hl : l ≠ []) :
    Reads (s ++ ',' :: ' ' :: t) (a :: l) := by
  have hq := hs.outsideQuotes_join h (' ' :: t)
  have hproper : IsProper t := by
    refine ⟨?_, by rw [ht.sequence]; exact ht.clean.nil_not_mem⟩
    rintro rfl
    exact hl (ht.sequence.symm.trans (sequence_zero_nil false))
  refine ⟨?_, ?_, ?_, ?_, ?_⟩
  · rw [hq, isBalanced_append (by decide) (by decide) hs.balanced, outsideQuotes_space,
      isBalanced_cons (by decide) fun h ↦ absurd h (by decide)]
    exact ht.balanced
  · have hspace : Address.announced (' ' :: t) = Address.announced t := by
      rw [Address.announced, outsideQuotes_space, List.count_cons_of_ne (by decide),
        Address.announced]
    rw [announced_join hq, hs.announced, hspace, ht.announced, List.length_cons, Nat.add_comm]
    rfl
  · -- the text may leave groups open, which a proper list does not notice
    obtain ⟨depth, hd⟩ := hs.exists_sequence h
    have hdepth := sequence_add_depth depth 0 t false hproper.2
    rw [Nat.zero_add] at hdepth
    rw [hd t hproper, hdepth, ht.sequence]
  · intro b hb
    rcases List.mem_cons.mp hb with rfl | hb
    · exact hs.clean b List.mem_cons_self
    · exact ht.clean b hb
  · intro b hb
    rcases List.mem_cons.mp hb with rfl | hb
    · exact hs.bracketless b List.mem_cons_self
    · exact ht.bracketless b hb

/-- Texts of one address each, all of which but the last stand alone, join to the list of their
addresses. -/
theorem reads_intercalate (address : List Char → List Char) (entries : List (List Char))
    (hne : entries ≠ []) (hr : ∀ s ∈ entries, Reads s [address s])
    (hs : ∀ s ∈ entries.dropLast, StandsAlone s) :
    Reads (List.intercalate [',', ' '] entries) (entries.map address) := by
  induction entries with
  | nil => exact absurd rfl hne
  | cons s rest ih =>
    have hread := hr s List.mem_cons_self
    cases rest with
    | nil =>
      rw [List.intercalate_singleton]
      exact hread
    | cons t rest =>
      rw [List.intercalate_cons_cons, List.append_assoc]
      rw [List.dropLast_cons_cons] at hs
      refine hread.join (hs s List.mem_cons_self) (ih (List.cons_ne_nil _ _) ?_ ?_) (by simp)
      · exact fun u hu ↦ hr u (List.mem_cons_of_mem s hu)
      · exact fun u hu ↦ hs u (List.mem_cons_of_mem s hu)

/-- An accepted text stands alone if and only if it can be joined with every accepted text that is
trimmed. -/
theorem standsAlone_iff {s a : List Char} (hs : ofText? s = some a) :
    StandsAlone s ↔ ∀ t b, ofText? t = some b → Text.trim t = t →
      addresses (s ++ ',' :: ' ' :: t) = [a, b] := by
  have hread := reads_of_ofText? hs
  constructor
  · intro h t b ht _
    exact (hread.join h (reads_of_ofText? ht) (List.cons_ne_nil _ _)).addresses
  · intro h follower hf
    have hplain : ofText? ['x', '@', 'y'] = some ['x', '@', 'y'] := by cbv
    have hquote : ofText? ['<', 'x', '@', 'y', '>', ' ', '(', '"', ')'] = some ['x', '@', 'y'] := by
      cbv
    rw [hread.addresses]
    rcases List.mem_cons.mp hf with rfl | hf
    · exact h _ _ hplain (by decide)
    · obtain rfl := List.mem_singleton.mp hf
      exact h _ _ hquote (by decide)

end MailDispatch.Address
