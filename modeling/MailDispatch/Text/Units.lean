import MailDispatch.Text.Encoding

/-!
# UTF-16 and UTF-32

Encodings in units of two or four bytes, in either byte order. In UTF-16 a character beyond the
first 65536 is a pair of units, a high surrogate and a low one; a surrogate alone means nothing.
In UTF-32 each unit is a character, and a unit that is a surrogate or too large means nothing.
Neither does a unit that the end of the data cuts short.
-/

namespace MailDispatch.Text

/-- The number that bytes stand for, the first of them weighing most. -/
def numberOf (bs : List UInt8) : Nat := bs.foldl (fun n b ↦ 256 * n + b.toNat) 0

/-- The number that the bytes of a unit stand for. -/
def ByteOrder.unit (order : ByteOrder) (bs : List UInt8) : Nat :=
  match order with
  | .little => numberOf bs.reverse
  | .big => numberOf bs

/-- Whether a unit is the first of a pair. -/
def isHighSurrogate (n : Nat) : Bool := 0xd800 ≤ n && n < 0xdc00

/-- Whether a unit is the second of a pair. -/
def isLowSurrogate (n : Nat) : Bool := 0xdc00 ≤ n && n < 0xe000

/-- The character that a pair of units stands for. -/
def pairChar (high low : Nat) : Char :=
  Char.ofNat (0x10000 + 1024 * (high - 0xd800) + (low - 0xdc00))

/-- Decodes UTF-16, `position` bytes of the data being decoded already. -/
def decodeUtf16From (order : ByteOrder) (marked : Bool) (position : Nat) :
    List UInt8 → Except DecodeError (List Char)
  | [] => .ok []
  | [a] => .error ⟨.utf16 order marked, a, position, 1, .truncated⟩
  | a :: b :: rest =>
    let n := order.unit [a, b]
    if isLowSurrogate n then
      .error ⟨.utf16 order marked, a, position, 2, .loneLowSurrogate⟩
    else if isHighSurrogate n then match rest with
      | c :: d :: rest =>
        let m := order.unit [c, d]
        if isLowSurrogate m then
          (decodeUtf16From order marked (position + 4) rest).map (pairChar n m :: ·)
        else .error ⟨.utf16 order marked, a, position, 2, .loneHighSurrogate⟩
      | cut => .error ⟨.utf16 order marked, a, position, 2 + cut.length, .unexpectedEnd⟩
    else (decodeUtf16From order marked (position + 2) rest).map (Char.ofNat n :: ·)

/-- Decodes UTF-32, `position` bytes of the data being decoded already. -/
def decodeUtf32From (order : ByteOrder) (marked : Bool) (position : Nat) :
    List UInt8 → Except DecodeError (List Char)
  | [] => .ok []
  | a :: b :: c :: d :: rest =>
    let n := order.unit [a, b, c, d]
    if isHighSurrogate n || isLowSurrogate n then
      .error ⟨.utf32 order marked, a, position, 4, .surrogate⟩
    else if 0x110000 ≤ n then .error ⟨.utf32 order marked, a, position, 4, .beyondUnicode⟩
    else (decodeUtf32From order marked (position + 4) rest).map (Char.ofNat n :: ·)
  | a :: rest => .error ⟨.utf32 order marked, a, position, 1 + rest.length, .truncated⟩

/-- Decodes UTF-16 data, a mark in front being skipped. -/
def decodeUtf16 (order : ByteOrder) (marked : Bool) (bs : List UInt8) :
    Except DecodeError (List Char) :=
  if marked then decodeUtf16From order marked 2 (bs.drop 2)
  else decodeUtf16From order marked 0 bs

/-- Decodes UTF-32 data, a mark in front being skipped. -/
def decodeUtf32 (order : ByteOrder) (marked : Bool) (bs : List UInt8) :
    Except DecodeError (List Char) :=
  if marked then decodeUtf32From order marked 4 (bs.drop 4)
  else decodeUtf32From order marked 0 bs

end MailDispatch.Text
