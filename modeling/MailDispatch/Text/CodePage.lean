import MailDispatch.Text.Encoding

/-!
# Encodings of one byte for each character

ASCII has the lower half of the bytes only, and Latin 1 gives every byte the character of its own
number. A code page is Latin 1 except for a few bytes, which have other characters or none.
-/

namespace MailDispatch.Text

/-- Decodes Latin 1. -/
def decodeLatin1 (bs : List UInt8) : List Char := bs.map fun b ↦ Char.ofNat b.toNat

/-- Decodes ASCII, `position` bytes of the data being decoded already. -/
def decodeAsciiFrom (position : Nat) : List UInt8 → Except DecodeError (List Char)
  | [] => .ok []
  | b :: rest =>
    if b < 0x80 then (decodeAsciiFrom (position + 1) rest).map (Char.ofNat b.toNat :: ·)
    else .error ⟨.ascii, b, position, 1, .beyondAscii⟩

/-- The bytes whose characters differ from those of Latin 1, and their characters. -/
def CodePage.exceptions : CodePage → List (UInt8 × Option Char)
  | .latin9 =>
    [(0xa4, some '€'), (0xa6, some 'Š'), (0xa8, some 'š'), (0xb4, some 'Ž'), (0xb8, some 'ž'),
      (0xbc, some 'Œ'), (0xbd, some 'œ'), (0xbe, some 'Ÿ')]
  | .western =>
    [(0x80, some '€'), (0x81, none), (0x82, some '‚'), (0x83, some 'ƒ'), (0x84, some '„'),
      (0x85, some '…'), (0x86, some '†'), (0x87, some '‡'), (0x88, some 'ˆ'), (0x89, some '‰'),
      (0x8a, some 'Š'), (0x8b, some '‹'), (0x8c, some 'Œ'), (0x8d, none), (0x8e, some 'Ž'),
      (0x8f, none), (0x90, none), (0x91, some '‘'), (0x92, some '’'), (0x93, some '“'),
      (0x94, some '”'), (0x95, some '•'), (0x96, some '–'), (0x97, some '—'), (0x98, some '˜'),
      (0x99, some '™'), (0x9a, some 'š'), (0x9b, some '›'), (0x9c, some 'œ'), (0x9d, none),
      (0x9e, some 'ž'), (0x9f, some 'Ÿ')]

/-- The character of a byte in a code page. -/
def CodePage.char? (p : CodePage) (b : UInt8) : Option Char :=
  match p.exceptions.lookup b with
  | some c => c
  | none => some (Char.ofNat b.toNat)

/-- Decodes a code page, `position` bytes of the data being decoded already. -/
def decodePageFrom (p : CodePage) (position : Nat) :
    List UInt8 → Except DecodeError (List Char)
  | [] => .ok []
  | b :: rest => match p.char? b with
    | some c => (decodePageFrom p (position + 1) rest).map (c :: ·)
    | none => .error ⟨.page p, b, position, 1, .undefined⟩

end MailDispatch.Text
