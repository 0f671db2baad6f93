import MailDispatch.Text.Blank
import MailDispatch.Text.Digit

/-!
# Decimal numerals of integers

Writing and reading whole numbers in decimal notation. Both directions are limited: a numeral of
more than `maxDigits` digits is neither written nor read, because the conversion takes time that
grows faster than its length. Reading accepts the digits of every script, a sign, white space
around the number and a single low line between two digits.
-/

namespace MailDispatch.Decimal

open Text (digitValue? trim)

/-- The most digits a numeral may have. -/
def maxDigits : Nat := 4300

/-- What numerals are limited to, in words. -/
def limitText : String := "Exceeds the limit (4300 digits) for integer string conversion"

/-- What to do about a numeral that is too long, in words. -/
def limitAdvice : String := "; use sys.set_int_max_str_digits() to increase the limit"

/-- The ASCII digit of a value below ten. -/
def digitChar (n : Nat) : Char := Char.ofNat (48 + n)

/-- The decimal digits of a natural number, most significant first. -/
def digits (n : Nat) : List Char :=
  if n < 10 then [digitChar n] else digits (n / 10) ++ [digitChar (n % 10)]
termination_by n

/-- The decimal numeral of an integer, whatever its length. -/
def numeral (n : Int) : String :=
  String.ofList (if n < 0 then '-' :: digits n.natAbs else digits n.natAbs)

/-- The decimal numeral of an integer, if it is not too long to be written. -/
def numeral? (n : Int) : Option String :=
  if (digits n.natAbs).length ≤ maxDigits then some (numeral n) else none

/-- Appends a digit to a number read so far. -/
def appendDigit (n d : Nat) : Nat := 10 * n + d

/-- The values of the digits of a text in which single low lines may separate digits. The flag
says whether the character before was a digit, so a low line never leads, ends or repeats. -/
def digitValues? : (afterDigit : Bool) → List Char → Option (List Nat)
  | afterDigit, [] => if afterDigit then some [] else none
  | afterDigit, c :: rest =>
    if c = '_' then if afterDigit then digitValues? false rest else none
    else (digitValue? c).bind fun d ↦ (digitValues? true rest).map (d :: ·)

/-- The natural number that an unsigned numeral denotes. -/
def readNat? (s : List Char) : Option Nat :=
  (digitValues? false s).bind fun ds ↦
    if ds.length ≤ maxDigits then some (ds.foldl appendDigit 0) else none

/-- The integer that a text denotes, white space around it ignored. -/
def readInt? (s : List Char) : Option Int :=
  match trim s with
  | '-' :: rest => (readNat? rest).map fun n ↦ -(n : Int)
  | '+' :: rest => (readNat? rest).map fun n ↦ (n : Int)
  | rest => (readNat? rest).map fun n ↦ (n : Int)

end MailDispatch.Decimal
