import Mathlib
import MailDispatch.Toml.Text

/-!
# Quoted texts are read back

Whatever a text holds, its quoted form is read back as that text, and the scanner stops right behind
the closing quote. It is enough to follow one character: it stands for itself, or an escape stands
for it.
-/

namespace MailDispatch

namespace Text

theorem hexValue?_hexDigit : ∀ n < 16, hexValue? (hexDigit n) = some n := by decide

/-- Hexadecimal digits are read back, as far as they go. -/
theorem hexNumber?_hexDigits (width n : Nat) :
    hexNumber? (hexDigits width n) = some (n % 16 ^ width) := by
  induction width generalizing n with
  | zero => rw [Nat.pow_zero, Nat.mod_one]; rfl
  | succ width ih =>
    have hlast := hexValue?_hexDigit (n % 16) (Nat.mod_lt n (by decide))
    have hread := ih (n / 16)
    unfold hexNumber? at hread ⊢
    rw [hexDigits, List.foldlM_append, hread, Option.bind_eq_bind, Option.bind_some,
      List.foldlM_cons, hlast, Nat.pow_succ, Nat.mul_comm _ 16, Nat.mod_mul, Nat.add_comm]
    rfl

theorem not_mem_hexDigits {c : Char} (h : ∀ n < 16, hexDigit n ≠ c) (width n : Nat) :
    c ∉ hexDigits width n := by
  induction width generalizing n with
  | zero => exact List.not_mem_nil
  | succ width ih =>
    rw [hexDigits, List.mem_append, List.mem_singleton, not_or]
    exact ⟨ih (n / 16), (h (n % 16) (Nat.mod_lt n (by decide))).symm⟩

end Text

namespace Toml

open Text (hexDigits hexNumber?)

/-! ## Escapes -/

theorem hexScalar_hexDigits {width n : Nat} (hn : n < 16 ^ width) (hvalid : n.isValidChar)
    (rest : List Char) :
    hexScalar width (hexDigits width n ++ rest) = .ok ([Char.ofNat n], rest) := by
  have htake : (hexDigits width n ++ rest).take width = hexDigits width n :=
    List.take_left' (Text.length_hexDigits width n)
  have hdrop : (hexDigits width n ++ rest).drop width = rest :=
    List.drop_left' (Text.length_hexDigits width n)
  rw [hexScalar, htake, hdrop, Text.length_hexDigits, if_pos rfl, Text.hexNumber?_hexDigits,
    Nat.mod_eq_of_lt hn]
  exact if_pos hvalid

theorem escape_of_lookup {c d : Char} (h : escapes.lookup c = some d) (rest : List Char) :
    escape false (c :: rest) = .ok ([d], rest) := by
  have hu : c ≠ 'u' := by rintro rfl; cases h
  have hU : c ≠ 'U' := by rintro rfl; cases h
  rw [escape, Bool.false_and, if_neg Bool.false_ne_true, if_neg hu, if_neg hU, h]

theorem escape_u (s : List Char) : escape false ('u' :: s) = hexScalar 4 s := rfl

theorem basicText_backslash {s chars left : List Char} (h : escape false s = .ok (chars, left)) :
    basicText false ('\\' :: s)
      = (basicText false left).map fun (text, left) ↦ (chars ++ text, left) := by
  rw [basicText, if_neg (by decide), if_pos rfl]
  split
  · next h' => rw [h] at h'; cases h'
  · next h' => rw [h] at h'; cases h'; rfl

theorem basicText_plain {c : Char} (hquote : c ≠ '"') (hslash : c ≠ '\\')
    (hallowed : ¬isForbidden false c = true) (s : List Char) :
    basicText false (c :: s) = (basicText false s).map (prepend c) := by
  rw [basicText, if_neg hquote, if_neg hslash, if_neg hallowed]

/-! ## Texts -/

theorem toNat_lt_of_isForbidden {c : Char} (h : isForbidden false c = true) : c.toNat < 128 := by
  simp only [isForbidden, isControl, Bool.and_eq_true, Bool.or_eq_true, decide_eq_true_eq] at h
  omega

/-- The quoted form of a character is read as that character. -/
theorem basicText_quotedChar (c : Char) (rest : List Char) :
    basicText false (quotedChar c ++ rest) = (basicText false rest).map (prepend c) := by
  have hescape : ∀ {letter : Char}, escapes.lookup letter = some c →
      basicText false (['\\', letter] ++ rest) = (basicText false rest).map (prepend c) :=
    fun h ↦ basicText_backslash (escape_of_lookup h rest)
  rw [quotedChar]
  split
  · next h =>
    rcases (by simpa using h : c = '"' ∨ c = '\\') with rfl | rfl <;> exact hescape rfl
  split
  · next _ h => exact hescape (h ▸ rfl)
  split
  · next _ h => exact hescape (h ▸ rfl)
  split
  · next _ h => exact hescape (h ▸ rfl)
  split
  · next _ h => exact hescape (h ▸ rfl)
  split
  · next h =>
    have hn : c.toNat < 16 ^ 4 := Nat.lt_trans (toNat_lt_of_isForbidden h) (by decide)
    have hread := hexScalar_hexDigits hn c.valid rest
    rw [Char.ofNat_toNat, ← escape_u] at hread
    exact basicText_backslash hread
  · next hquoted _ _ _ _ h =>
    have hplain : c ≠ '"' ∧ c ≠ '\\' := by simpa using hquoted
    exact basicText_plain hplain.1 hplain.2 h rest

theorem basicText_flatMap (s rest : List Char) :
    basicText false (s.flatMap quotedChar ++ ('"' :: rest)) = .ok (s, rest) := by
  induction s with
  | nil => rw [List.flatMap_nil, List.nil_append, basicText, if_pos rfl]; rfl
  | cons c s ih =>
    rw [List.flatMap_cons, List.append_assoc, basicText_quotedChar, ih]
    rfl

/-! ## Line breaks -/

theorem return_not_mem_quotedChar (c : Char) : '\r' ∉ quotedChar c := by
  rw [quotedChar]
  split
  · next h => rcases (by simpa using h : c = '"' ∨ c = '\\') with rfl | rfl <;> decide
  split
  · decide
  split
  · decide
  split
  · decide
  split
  · decide
  · next hreturn =>
    split
    · rw [List.mem_cons, List.mem_cons]
      rintro (h | h | h)
      · cases h
      · cases h
      · exact Text.not_mem_hexDigits (by decide) 4 c.toNat h
    · exact fun h ↦ hreturn (List.mem_singleton.mp h).symm

/-- A quoted text holds no carriage return. -/
theorem return_not_mem_quoted (s : List Char) : '\r' ∉ quoted s := by
  rw [quoted, List.mem_cons, List.mem_append, List.mem_singleton, List.mem_flatMap]
  rintro (h | ⟨c, -, h⟩ | h)
  · cases h
  · exact return_not_mem_quotedChar c h
  · cases h

end Toml

end MailDispatch
