import MailDispatch.Message.Base64
import MailDispatch.Proofs.Text.Utf8

/-!
# Bytes survive base64

What is written in base64 is read back byte for byte. A group of three bytes is followed through its
four characters, and a group that is cut short through those that it has. Line breaks do not get in
the way: every line but the last holds whole groups only, so that the text without its line breaks
is what the bytes are written as without lines.
-/

namespace MailDispatch.Base64

open Text (ofNat_eq)

/-! ## Digits -/

theorem digitValue?_digit : ∀ {n : Nat}, n < 64 → digitValue? (digit n) = some n := by
  decide

theorem digit_ne : ∀ {n : Nat}, n < 64 → digit n ≠ '=' ∧ digit n ≠ '\n' := by
  decide

/-! ## Groups -/

theorem decodeGroups_whole {a b c d : Nat} (ha : a < 64) (hb : b < 64) (hc : c < 64) (hd : d < 64)
    (rest : List Char) : decodeGroups (digit a :: digit b :: digit c :: digit d :: rest)
      = (decodeGroups rest).map fun others ↦ UInt8.ofNat (a * 4 + b / 16) ::
          UInt8.ofNat (b % 16 * 16 + c / 4) :: UInt8.ofNat (c % 4 * 64 + d) :: others := by
  -- the last digit is no equals sign, so that the group is none of those that are cut short
  rw [decodeGroups.eq_4 _ _ _ _ _ (fun _ h _ ↦ (digit_ne hd).1 h) fun h _ ↦ (digit_ne hd).1 h,
    digitValue?_digit ha, digitValue?_digit hb, digitValue?_digit hc, digitValue?_digit hd]
  cases decodeGroups rest <;> rfl

/-- Groups are read back as the bytes that they were made of. -/
theorem decodeGroups_encode (bs : List UInt8) : decodeGroups (encode bs) = some bs := by
  fun_induction encode bs with
  | case1 => rfl
  | case2 a =>
    have ha := a.toNat_lt
    rw [decodeGroups, digitValue?_digit (by omega), digitValue?_digit (by omega)]
    simp only [Option.bind_eq_bind, Option.bind_some, Option.pure_def, Option.some.injEq,
      List.cons.injEq, and_true]
    exact ofNat_eq (by omega)
  | case3 a b =>
    have ha := a.toNat_lt
    have hb := b.toNat_lt
    rw [decodeGroups.eq_3 _ _ _ fun h ↦ (digit_ne (by omega)).1 h, digitValue?_digit (by omega),
      digitValue?_digit (by omega), digitValue?_digit (by omega)]
    simp only [Option.bind_eq_bind, Option.bind_some, Option.pure_def, Option.some.injEq,
      List.cons.injEq, and_true]
    exact ⟨ofNat_eq (by omega), ofNat_eq (by omega)⟩
  | case4 a b c rest ih =>
    have ha := a.toNat_lt
    have hb := b.toNat_lt
    have hc := c.toNat_lt
    rw [decodeGroups_whole (by omega) (by omega) (by omega) (by omega), ih, Option.map_some,
      ofNat_eq (b := a) (by omega), ofNat_eq (b := b) (by omega), ofNat_eq (b := c) (by omega)]

/-! ## Lines -/

/-- Whole groups are written independently of what follows them. -/
theorem encode_append {bs : List UInt8} (h : 3 ∣ bs.length) (more : List UInt8) :
    encode (bs ++ more) = encode bs ++ encode more := by
  fun_induction encode bs with
  | case1 => rfl
  | case2 a => simp only [List.length_singleton] at h; omega
  | case3 a b => simp only [List.length_cons, List.length_nil] at h; omega
  | case4 a b c rest ih =>
    simp only [List.length_cons] at h
    rw [List.cons_append, List.cons_append, List.cons_append, encode, ih (by omega)]
    rfl

theorem ne_break_of_mem_encode {bs : List UInt8} {c : Char} (h : c ∈ encode bs) : c ≠ '\n' := by
  fun_induction encode bs with
  | case1 => cases h
  | case2 a =>
    have ha := a.toNat_lt
    simp only [List.mem_cons, List.not_mem_nil, or_false] at h
    rcases h with rfl | rfl | rfl | rfl
    · exact (digit_ne (by omega)).2
    · exact (digit_ne (by omega)).2
    · decide
    · decide
  | case3 a b =>
    have ha := a.toNat_lt
    have hb := b.toNat_lt
    simp only [List.mem_cons, List.not_mem_nil, or_false] at h
    rcases h with rfl | rfl | rfl | rfl
    · exact (digit_ne (by omega)).2
    · exact (digit_ne (by omega)).2
    · exact (digit_ne (by omega)).2
    · decide
  | case4 a b d rest ih =>
    have ha := a.toNat_lt
    have hb := b.toNat_lt
    have hd := d.toNat_lt
    simp only [List.mem_cons] at h
    rcases h with rfl | rfl | rfl | rfl | h
    · exact (digit_ne (by omega)).2
    · exact (digit_ne (by omega)).2
    · exact (digit_ne (by omega)).2
    · exact (digit_ne (by omega)).2
    · exact ih h

/-- Without its line breaks, the text in lines is the text without lines. -/
theorem filter_encodeLines (bs : List UInt8) :
    (encodeLines bs).filter (fun c ↦ c != '\n') = encode bs := by
  have hkept : ∀ bs : List UInt8, (encode bs).filter (fun c ↦ c != '\n') = encode bs := fun bs ↦
    List.filter_eq_self.mpr fun c hc ↦ bne_iff_ne.mpr (ne_break_of_mem_encode hc)
  fun_induction encodeLines bs with
  | case1 => rfl
  | case2 b rest ih =>
    rw [List.filter_append, hkept, List.filter_cons_of_neg (by decide), ih]
    by_cases hlen : bytesPerLine ≤ (b :: rest).length
    · rw [← encode_append (by rw [List.length_take, Nat.min_eq_left hlen]; decide),
        List.take_append_drop]
    · -- the last line, which may end within a group
      rw [List.drop_of_length_le (by omega), List.take_of_length_le (by omega), encode,
        List.append_nil]

/-- Reading is inverse to writing. -/
theorem decode_encodeLines (bs : List UInt8) : decode (encodeLines bs) = some bs := by
  rw [decode, filter_encodeLines, decodeGroups_encode]

end MailDispatch.Base64
