import MailDispatch.Text.Hex

/-!
# Encodings

The encodings a text file may be written in, and what is said about bytes that mean nothing under
one of them: which bytes they are, where they stand and why they mean nothing.
-/

namespace MailDispatch.Text

/-- The order of the bytes of a unit: which end comes first. -/
inductive ByteOrder where
  | little
  | big
  deriving DecidableEq, Repr

/-- The encodings whose upper half is ASCII's and Latin's only in part. -/
inductive CodePage where
  /-- Latin 9, which has the euro sign. -/
  | latin9
  /-- The western code page with punctuation in place of the upper control characters. -/
  | western
  deriving DecidableEq, Repr

/-- The encodings a text file may be read in. -/
inductive Encoding where
  | utf8
  /-- UTF-8 that may start with a mark. -/
  | utf8Marked
  /-- UTF-16 in a given byte order, and whether a mark says so in front. -/
  | utf16 (order : ByteOrder) (marked : Bool)
  /-- UTF-32 in a given byte order, and whether a mark says so in front. -/
  | utf32 (order : ByteOrder) (marked : Bool)
  | latin1
  | ascii
  | page (p : CodePage)
  deriving DecidableEq, Repr

/-- The word for a byte order. -/
def ByteOrder.text : ByteOrder → String
  | .little => "le"
  | .big => "be"

/-- The name of an encoding in messages. -/
def Encoding.name : Encoding → String
  | .utf8 => "utf-8"
  | .utf8Marked => "utf-8"
  | .utf16 order _ => "utf-16-" ++ order.text
  | .utf32 order _ => "utf-32-" ++ order.text
  | .latin1 => "latin-1"
  | .ascii => "ascii"
  | .page _ => "charmap"

/-- Why bytes are no text. -/
inductive DecodeReason where
  | invalidStart
  | invalidContinuation
  | unexpectedEnd
  | beyondAscii
  | truncated
  | loneLowSurrogate
  | loneHighSurrogate
  | surrogate
  | beyondUnicode
  | undefined
  deriving DecidableEq, Repr

/-- The wording of a reason. -/
def DecodeReason.text : DecodeReason → String
  | .invalidStart => "invalid start byte"
  | .invalidContinuation => "invalid continuation byte"
  | .unexpectedEnd => "unexpected end of data"
  | .beyondAscii => "ordinal not in range(128)"
  | .truncated => "truncated data"
  | .loneLowSurrogate => "illegal encoding"
  | .loneHighSurrogate => "illegal UTF-16 surrogate"
  | .surrogate => "code point in surrogate code point range(0xd800, 0xe000)"
  | .beyondUnicode => "code point not in range(0x110000)"
  | .undefined => "character maps to <undefined>"

/-- Bytes that mean nothing: the first of them, its position, how many they are, and why. -/
structure DecodeError where
  encoding : Encoding
  byte : UInt8
  position : Nat
  count : Nat
  reason : DecodeReason
  deriving DecidableEq, Repr

/-- A decode error in words: one byte is shown, several are only located. -/
def DecodeError.message (e : DecodeError) : String :=
  let place :=
    if e.count = 1 then
      "byte 0x" ++ String.ofList (hexDigits 2 e.byte.toNat) ++ " in position " ++
        toString e.position
    else
      "bytes in position " ++ toString e.position ++ "-" ++ toString (e.position + e.count - 1)
  "'" ++ e.encoding.name ++ "' codec can't decode " ++ place ++ ": " ++ e.reason.text

end MailDispatch.Text
