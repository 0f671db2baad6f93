import MailDispatch.Text.Hex
import MailDispatch.Text.Printable

/-!
# Quoted text

How a message shows a text that must be told apart from its surroundings: between single quotes,
or between double quotes when the text holds a single quote and no double one. Line breaks, tabs,
the backslash and the quote in use are escaped with a backslash, and a character that is not
printable is shown by its scalar value in two, four or eight hexadecimal digits.
-/

namespace MailDispatch.Text

/-- The quote that surrounds a text: single, unless only a single quote occurs in it. -/
def quoteFor (s : List Char) : Char :=
  if s.contains '\'' && !s.contains '"' then '"' else '\''

/-- A scalar value as an escape of two, four or eight hexadecimal digits. -/
def escapeScalar (n : Nat) : List Char :=
  if n < 0x100 then '\\' :: 'x' :: hexDigits 2 n
  else if n < 0x10000 then '\\' :: 'u' :: hexDigits 4 n
  else '\\' :: 'U' :: hexDigits 8 n

/-- One character inside a text quoted with `quote`. -/
def quotedChar (quote c : Char) : List Char :=
  if c = quote ∨ c = '\\' then ['\\', c]
  else if c = '\n' then ['\\', 'n']
  else if c = '\r' then ['\\', 'r']
  else if c = '\t' then ['\\', 't']
  else if isPrintable c then [c]
  else escapeScalar c.toNat

/-- The text between the quotes that suit it, its special characters escaped. -/
def quotedChars (s : List Char) : List Char :=
  quoteFor s :: (s.flatMap (quotedChar (quoteFor s)) ++ [quoteFor s])

/-- The quoted form of a text. -/
def quoted (s : String) : String := String.ofList (quotedChars s.toList)

/-- One byte inside a byte string quoted with `quote`: ASCII shows as itself. -/
def quotedByte (quote : Char) (b : UInt8) : List Char :=
  if b.toNat < 0x7f then quotedChar quote (Char.ofNat b.toNat) else escapeScalar b.toNat

/-- The quoted form of a byte string, marked by a leading `b`. -/
def quotedBytes (bs : List UInt8) : String :=
  let quote := quoteFor (bs.map fun b ↦ Char.ofNat b.toNat)
  String.ofList ('b' :: quote :: (bs.flatMap (quotedByte quote) ++ [quote]))

end MailDispatch.Text
