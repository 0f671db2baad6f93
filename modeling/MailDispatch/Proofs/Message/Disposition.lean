import Mathlib
import MailDispatch.Message.Disposition
import MailDispatch.Proofs.Text.Utf8

/-!
# File names survive their header

The name of a file is read back from the header that carries it, in either form: between quotes,
where every escape is undone, or percent-encoded, where every byte is found again and the bytes are
the UTF-8 form of the name. The forms begin differently, so that none is taken for another, and
names that differ have headers that differ.
-/

namespace MailDispatch.Disposition

open Text (encode decode decode_encode hexDigitUpper hexNumber? hexValue?)

/-! ## Names in quotes -/

/-- An escaped character is read back, whatever follows. -/
theorem unescape?_escaped (c : Char) (rest : List Char) :
    unescape? (escaped c ++ rest) = (unescape? rest).map (c :: ·) := by
  rw [escaped]
  split
  · rfl
  · next h =>
    simp only [Bool.or_eq_true, decide_eq_true_eq, not_or] at h
    rw [List.singleton_append, unescape?.eq_3 _ _ fun _ _ hc _ ↦ h.2 hc, if_neg h.1]

theorem unescape?_quoted (name : List Char) :
    unescape? (name.flatMap escaped ++ ['"']) = some name := by
  induction name with
  | nil => rfl
  | cons c rest ih => rw [List.flatMap_cons, List.append_assoc, unescape?_escaped, ih]; rfl

/-! ## Percent-encoded names -/

theorem hexValue?_hexDigitUpper : ∀ {n : Nat}, n < 16 →
    hexValue? (hexDigitUpper n) = some n := by
  decide

/-- The two digits of a byte are read back. -/
theorem hexNumber?_upper {n : Nat} (h : n < 256) :
    hexNumber? [hexDigitUpper (n / 16), hexDigitUpper (n % 16)] = some n := by
  rw [hexNumber?, List.foldlM_cons, hexValue?_hexDigitUpper (by omega), Option.map_some,
    Option.bind_eq_bind, Option.bind_some, List.foldlM_cons, hexValue?_hexDigitUpper (by omega)]
  exact congrArg some (show 16 * (16 * 0 + n / 16) + n % 16 = n by omega)

/-- A byte that stands for itself is not taken for a percent sign, and is found again. -/
theorem isUnreserved_ofNat : ∀ {n : Nat}, n < 256 → isUnreserved (UInt8.ofNat n) = true →
    Char.ofNat n ≠ '%' ∧ (Char.ofNat n).toNat = n := by
  decide +kernel

/-- A byte is read back, whatever follows. -/
theorem percentDecoded?_percentEncoded (b : UInt8) (rest : List Char) :
    percentDecoded? (percentEncoded b ++ rest) = (percentDecoded? rest).map (b :: ·) := by
  have hb := b.toNat_lt
  rw [percentEncoded]
  split
  · next h =>
    rw [← UInt8.ofNat_toNat (x := b)] at h
    obtain ⟨hne, heq⟩ := isUnreserved_ofNat hb h
    rw [List.singleton_append, percentDecoded?.eq_3 _ _ fun _ _ _ hc _ ↦ hne hc, heq,
      UInt8.ofNat_toNat]
  · rw [List.cons_append, List.cons_append, List.singleton_append, percentDecoded?,
      hexNumber?_upper hb, Option.bind_some, UInt8.ofNat_toNat]

theorem percentDecoded?_flatMap (bs : List UInt8) :
    percentDecoded? (bs.flatMap percentEncoded) = some bs := by
  induction bs with
  | nil => rfl
  | cons b rest ih => rw [List.flatMap_cons, percentDecoded?_percentEncoded, ih]; rfl

/-! ## Headers -/

theorem after?_append (start s : List Char) : after? start (start ++ s) = some s := by
  rw [after?, if_pos (List.isPrefixOf_iff_prefix.mpr (List.prefix_append start s)),
    List.drop_left]

/-- The forms begin differently. -/
theorem after?_quotedOpening (s : List Char) :
    after? quotedOpening (encodedOpening ++ s) = none :=
  rfl

theorem ofParameter?_parameter (name : List Char) :
    ofParameter? (parameter name) = some name := by
  rw [parameter]
  by_cases hempty : name.isEmpty
  · rw [if_pos hempty, List.isEmpty_iff.mp hempty]
    rfl
  rw [if_neg hempty, ofParameter?]
  by_cases hascii : isAscii name
  · rw [if_pos hascii, after?_append]
    exact unescape?_quoted name
  · rw [if_neg hascii, after?_quotedOpening]
    simp only [after?_append, percentDecoded?_flatMap, Option.bind_some, decode_encode]
    rfl

/-- The name is read back from the header. -/
theorem filenameOf?_value (name : List Char) : filenameOf? (value name) = some name := by
  rw [filenameOf?, value, after?_append]
  exact ofParameter?_parameter name

/-- Different names have different headers. -/
theorem value_injective : Function.Injective value := by
  intro name name' h
  have hread := congrArg filenameOf? h
  rw [filenameOf?_value, filenameOf?_value] at hread
  exact Option.some.inj hread

end MailDispatch.Disposition
