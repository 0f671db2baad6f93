import MailDispatch.Text.Encoding

/-!
# UTF-8

One to four bytes stand for a character. Decoding stops at the first bytes that mean nothing: a byte
that starts no character, a sequence cut short by a byte that does not continue it (the bytes
before that one are at fault), or by the end of the data. `encode` is the other direction.
-/

namespace MailDispatch.Text

/-- The bytes `0x80` to `0xbf` continue a character. -/
def isContinuation (b : UInt8) : Bool := 0x80 ≤ b && b ≤ 0xbf

/-- Whether `b` may be the second byte after `first`: it continues a character, and the two do not
begin an overlong form, a surrogate or a value beyond the last scalar value. -/
def mayFollow (first b : UInt8) : Bool :=
  isContinuation b &&
    !(first = 0xe0 && b < 0xa0) && !(first = 0xed && 0xa0 ≤ b) &&
    !(first = 0xf0 && b < 0x90) && !(first = 0xf4 && 0x90 ≤ b)

/-- The low six bits of a continuation byte. -/
def payload (b : UInt8) : Nat := b.toNat % 64

/-- How many bytes continue a character that starts with `b`. -/
def missingAfter (b : UInt8) : Nat :=
  if b < 0xe0 then 1 else if b < 0xf0 then 2 else 3

/-- The bits of the character that its first byte carries. -/
def leadBits (b : UInt8) : Nat :=
  if b < 0xe0 then b.toNat % 32 else if b < 0xf0 then b.toNat % 16 else b.toNat % 8

/-- Reads the bytes that are missing from a character of which `taken` bytes, with the given bits,
are read already. A failure carries the number of bytes at fault and the reason. -/
def continueChar : (missing taken bits : Nat) → List UInt8 →
    Except (Nat × DecodeReason) (Char × List UInt8)
  | 0, _, bits, rest => .ok (Char.ofNat bits, rest)
  | _ + 1, taken, _, [] => .error (taken, .unexpectedEnd)
  | missing + 1, taken, bits, c :: rest =>
    if isContinuation c then continueChar missing (taken + 1) (bits * 64 + payload c) rest
    else .error (taken, .invalidContinuation)

/-- Reads one character that starts with `b`. -/
def decodeChar (b : UInt8) (rest : List UInt8) :
    Except (Nat × DecodeReason) (Char × List UInt8) :=
  if b < 0x80 then .ok (Char.ofNat b.toNat, rest)
  else if b < 0xc2 || 0xf5 ≤ b then .error (1, .invalidStart)
  else match rest with
    | [] => .error (1, .unexpectedEnd)
    | c :: _ =>
      if mayFollow b c then continueChar (missingAfter b) 1 (leadBits b) rest
      else .error (1, .invalidContinuation)

theorem length_of_continueChar {missing taken bits : Nat} {rest : List UInt8} {c : Char}
    {rest' : List UInt8} (h : continueChar missing taken bits rest = .ok (c, rest')) :
    rest'.length ≤ rest.length := by
  fun_induction continueChar missing taken bits rest with
  | case1 => simp_all
  | case2 => simp at h
  | case3 _ _ _ _ _ _ ih => exact Nat.le_succ_of_le (ih h)
  | case4 => simp at h

theorem length_of_decodeChar {b : UInt8} {rest : List UInt8} {c : Char} {rest' : List UInt8}
    (h : decodeChar b rest = .ok (c, rest')) : rest'.length ≤ rest.length := by
  unfold decodeChar at h
  repeat' split at h
  all_goals first
    | exact length_of_continueChar h
    | simp_all

/-- Decodes UTF-8, `position` bytes of the data being decoded already. -/
def decodeUtf8From (position : Nat) (bs : List UInt8) : Except DecodeError (List Char) :=
  match bs with
  | [] => .ok []
  | b :: rest => match h : decodeChar b rest with
    | .error (count, reason) => .error ⟨.utf8, b, position, count, reason⟩
    | .ok (c, rest') =>
      have := length_of_decodeChar h
      (decodeUtf8From (position + c.utf8Size) rest').map (c :: ·)
termination_by bs.length
decreasing_by simp only [List.length_cons]; omega

/-- Decodes UTF-8 that may start with a mark, which is skipped and not counted in positions. Data
that ends within the mark is empty. -/
def decodeMarkedUtf8 : List UInt8 → Except DecodeError (List Char)
  | [0xef] => .ok []
  | [0xef, 0xbb] => .ok []
  | 0xef :: 0xbb :: 0xbf :: rest => decodeUtf8From 0 rest
  | bs => decodeUtf8From 0 bs

/-- The UTF-8 form of a text. -/
def encode (s : List Char) : List UInt8 := s.flatMap String.utf8EncodeChar

end MailDispatch.Text
