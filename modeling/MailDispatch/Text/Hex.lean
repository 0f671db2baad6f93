/-!
# Hexadecimal numerals of fixed width

Escapes write a scalar value or a byte with a fixed number of hexadecimal digits, leading zeros
included. The digits are those of the value modulo `16 ^ width`, so the width is always exact.
-/

namespace MailDispatch.Text

/-- The lower-case hexadecimal digit of a value below 16. -/
def hexDigit (n : Nat) : Char :=
  if n < 10 then Char.ofNat (48 + n) else Char.ofNat (87 + n)

/-- The upper-case hexadecimal digit of a value below 16. -/
def hexDigitUpper (n : Nat) : Char :=
  if n < 10 then Char.ofNat (48 + n) else Char.ofNat (55 + n)

/-- The `width` last hexadecimal digits of `n`, most significant first. -/
def hexDigits : (width : Nat) → (n : Nat) → List Char
  | 0, _ => []
  | width + 1, n => hexDigits width (n / 16) ++ [hexDigit (n % 16)]

/-- The value of a hexadecimal digit in either case. -/
def hexValue? (c : Char) : Option Nat :=
  if '0' ≤ c ∧ c ≤ '9' then some (c.toNat - 48)
  else if 'a' ≤ c ∧ c ≤ 'f' then some (c.toNat - 87)
  else if 'A' ≤ c ∧ c ≤ 'F' then some (c.toNat - 55)
  else none

/-- The value of a list of hexadecimal digits, or nothing if one of them is none. -/
def hexNumber? (s : List Char) : Option Nat :=
  s.foldlM (fun n c ↦ (hexValue? c).map (16 * n + ·)) 0

@[simp] theorem length_hexDigits (width n : Nat) : (hexDigits width n).length = width := by
  induction width generalizing n with
  | zero => rfl
  | succ width ih => simp [hexDigits, ih]

end MailDispatch.Text
