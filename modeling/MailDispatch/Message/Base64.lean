/-!
# Base64

Bytes as text over an alphabet of 64 characters, in lines of 76. Three bytes make four characters; a
group that is cut short is filled up with equals signs. `decode` is what a recipient does: it skips
line breaks and reads the groups back.
-/

namespace MailDispatch.Base64

/-- The character for a number below 64. -/
def digit (n : Nat) : Char :=
  if n < 26 then Char.ofNat (65 + n)
  else if n < 52 then Char.ofNat (97 + (n - 26))
  else if n < 62 then Char.ofNat (48 + (n - 52))
  else if n = 62 then '+' else '/'

/-- The number that a character stands for. -/
def digitValue? (c : Char) : Option Nat :=
  if 'A' ≤ c && c ≤ 'Z' then some (c.toNat - 65)
  else if 'a' ≤ c && c ≤ 'z' then some (c.toNat - 97 + 26)
  else if '0' ≤ c && c ≤ '9' then some (c.toNat - 48 + 52)
  else if c = '+' then some 62
  else if c = '/' then some 63
  else none

/-- The characters for a run of bytes. -/
def encode : List UInt8 → List Char
  | [] => []
  | [a] => [digit (a.toNat / 4), digit (a.toNat % 4 * 16), '=', '=']
  | [a, b] =>
    [digit (a.toNat / 4), digit (a.toNat % 4 * 16 + b.toNat / 16), digit (b.toNat % 16 * 4), '=']
  | a :: b :: c :: rest =>
    digit (a.toNat / 4) :: digit (a.toNat % 4 * 16 + b.toNat / 16) ::
      digit (b.toNat % 16 * 4 + c.toNat / 64) :: digit (c.toNat % 64) :: encode rest

/-- The bytes of a line of 76 characters. -/
def bytesPerLine : Nat := 57

/-- Bytes in lines, each of them ended by a line feed. -/
def encodeLines (bs : List UInt8) : List Char :=
  match bs with
  | [] => []
  | b :: rest =>
    encode ((b :: rest).take bytesPerLine) ++ '\n' :: encodeLines ((b :: rest).drop bytesPerLine)
termination_by bs.length
decreasing_by simp only [List.length_drop, List.length_cons, bytesPerLine]; omega

/-- Reads groups of four characters back into bytes. -/
def decodeGroups : List Char → Option (List UInt8)
  | [] => some []
  | [a, b, '=', '='] => do
    let a ← digitValue? a
    let b ← digitValue? b
    return [UInt8.ofNat (a * 4 + b / 16)]
  | [a, b, c, '='] => do
    let a ← digitValue? a
    let b ← digitValue? b
    let c ← digitValue? c
    return [UInt8.ofNat (a * 4 + b / 16), UInt8.ofNat (b % 16 * 16 + c / 4)]
  | a :: b :: c :: d :: rest => do
    let a ← digitValue? a
    let b ← digitValue? b
    let c ← digitValue? c
    let d ← digitValue? d
    let others ← decodeGroups rest
    return UInt8.ofNat (a * 4 + b / 16) :: UInt8.ofNat (b % 16 * 16 + c / 4) ::
      UInt8.ofNat (c % 4 * 64 + d) :: others
  | _ => none

/-- Reads lines back into bytes. -/
def decode (s : List Char) : Option (List UInt8) := decodeGroups (s.filter fun c ↦ c != '\n')

end MailDispatch.Base64
