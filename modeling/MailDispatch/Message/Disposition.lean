import MailDispatch.Text.Decoding
import MailDispatch.Text.Hex

/-!
# The disposition of an attachment

The header that makes a part an attachment also carries its file name. An ASCII name stands between
quotes, with quotes and backslashes escaped. Any other name is written as UTF-8 bytes, of which all
but letters, digits and four signs are percent-encoded; the name of the parameter then ends with an
asterisk and its value starts with the name of the encoding. `filenameOf?` reads the name back.
-/

namespace MailDispatch.Disposition

open Text (encode decode hexDigitUpper hexNumber?)

/-! ## Writing -/

/-- A quote or a backslash behind a backslash, any other character as it is. -/
def escaped (c : Char) : List Char := if c = '"' || c = '\\' then ['\\', c] else [c]

/-- Whether a byte stands for itself in a percent-encoded name. -/
def isUnreserved (b : UInt8) : Bool :=
  let c := Char.ofNat b.toNat
  c.isAlphanum || c = '_' || c = '.' || c = '-' || c = '~'

/-- A byte as itself or as a percent sign and two digits. -/
def percentEncoded (b : UInt8) : List Char :=
  if isUnreserved b then [Char.ofNat b.toNat]
  else ['%', hexDigitUpper (b.toNat / 16), hexDigitUpper (b.toNat % 16)]

/-- Whether every character is one of ASCII. -/
def isAscii (s : List Char) : Bool := s.all fun c ↦ c.toNat < 128

/-- What stands in front of the file name's form. -/
def opening : List Char := "attachment; filename".toList

/-- What stands in front of a name in quotes. -/
def quotedOpening : List Char := "=\"".toList

/-- What stands in front of a percent-encoded name. -/
def encodedOpening : List Char := "*=utf-8''".toList

/-- The parameter with a file name, behind its own name. An empty file name has no value. -/
def parameter (filename : List Char) : List Char :=
  if filename.isEmpty then []
  else if isAscii filename then quotedOpening ++ (filename.flatMap escaped ++ ['"'])
  else encodedOpening ++ (encode filename).flatMap percentEncoded

/-- The value of the header for an attachment with a file name. -/
def value (filename : List Char) : List Char := opening ++ parameter filename

/-! ## Reading -/

/-- Reads up to the closing quote, taking backslashes away. -/
def unescape? : List Char → Option (List Char)
  | [] => none
  | '\\' :: c :: rest => (unescape? rest).map (c :: ·)
  | c :: rest => if c = '"' then some [] else (unescape? rest).map (c :: ·)

/-- Reads percent-encoded bytes. -/
def percentDecoded? : List Char → Option (List UInt8)
  | [] => some []
  | '%' :: a :: b :: rest =>
    (hexNumber? [a, b]).bind fun n ↦ (percentDecoded? rest).map (UInt8.ofNat n :: ·)
  | c :: rest => (percentDecoded? rest).map (UInt8.ofNat c.toNat :: ·)

/-- What is left of a text behind a beginning, if it has that beginning. -/
def after? (start s : List Char) : Option (List Char) :=
  if start.isPrefixOf s then some (s.drop start.length) else none

/-- The file name that a parameter carries. -/
def ofParameter? (s : List Char) : Option (List Char) :=
  match after? quotedOpening s with
  | some rest => unescape? rest
  | none => match after? encodedOpening s with
    | some rest => (percentDecoded? rest).bind fun bs ↦ (decode .utf8 bs).toOption
    | none => if s.isEmpty then some [] else none

/-- The file name that the value of the header carries. -/
def filenameOf? (s : List Char) : Option (List Char) := (after? opening s).bind ofParameter?

end MailDispatch.Disposition
