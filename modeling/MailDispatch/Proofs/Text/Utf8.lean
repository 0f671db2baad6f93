import Mathlib
import MailDispatch.Text.Decoding

/-!
# Text survives UTF-8

The UTF-8 form of a text is decoded to that text, and nothing else is. A character is followed
through the four forms that it may take: its first byte tells how many bytes are missing, and each
of these carries six more of its bits. The bytes that may come second rule out all numbers that are
no characters, or that have a shorter form.
-/

namespace MailDispatch.Text

/-! ## Bytes -/

theorem toNat_ofNat_of_lt {n : Nat} (h : n < 256) : (UInt8.ofNat n).toNat = n := by
  rw [UInt8.toNat_ofNat']
  exact Nat.mod_eq_of_lt h

/-- A byte is the number that it is read as. -/
theorem ofNat_eq {n : Nat} {b : UInt8} (h : n = b.toNat) : UInt8.ofNat n = b := by
  rw [h, UInt8.ofNat_toNat]

theorem isContinuation_iff (b : UInt8) :
    isContinuation b = true ↔ 128 ≤ b.toNat ∧ b.toNat ≤ 191 := by
  simp [isContinuation, UInt8.le_iff_toNat_le]

theorem mayFollow_iff (first b : UInt8) : mayFollow first b = true ↔
    (128 ≤ b.toNat ∧ b.toNat ≤ 191) ∧ (first.toNat = 224 → 160 ≤ b.toNat) ∧
      (first.toNat = 237 → b.toNat < 160) ∧ (first.toNat = 240 → 144 ≤ b.toNat) ∧
      (first.toNat = 244 → b.toNat < 144) := by
  simp [mayFollow, isContinuation_iff, UInt8.le_iff_toNat_le, UInt8.lt_iff_toNat_lt,
    ← UInt8.toNat_inj]
  tauto

theorem missingAfter_eq (b : UInt8) :
    missingAfter b = if b.toNat < 224 then 1 else if b.toNat < 240 then 2 else 3 := by
  simp only [missingAfter, UInt8.lt_iff_toNat_lt]
  rfl

theorem leadBits_eq (b : UInt8) : leadBits b =
    if b.toNat < 224 then b.toNat % 32 else if b.toNat < 240 then b.toNat % 16
    else b.toNat % 8 := by
  simp only [leadBits, UInt8.lt_iff_toNat_lt]
  rfl

theorem toNat_sixBits (n : Nat) : (UInt8.ofNat (n % 64 + 128)).toNat = n % 64 + 128 :=
  toNat_ofNat_of_lt (by omega)

/-- A byte that continues a character adds its six bits. -/
theorem continueChar_sixBits (missing taken bits n : Nat) (rest : List UInt8) :
    continueChar (missing + 1) taken bits (UInt8.ofNat (n % 64 + 128) :: rest)
      = continueChar missing (taken + 1) (bits * 64 + n % 64) rest := by
  have hc : isContinuation (UInt8.ofNat (n % 64 + 128)) = true := by
    rw [isContinuation_iff, toNat_sixBits]
    omega
  have hp : payload (UInt8.ofNat (n % 64 + 128)) = n % 64 := by
    rw [payload, toNat_sixBits]
    omega
  rw [continueChar, if_pos hc, hp]

/-! ## Characters -/

theorem decodeChar_of_lt {b : UInt8} (h : b.toNat < 128) (rest : List UInt8) :
    decodeChar b rest = .ok (Char.ofNat b.toNat, rest) := by
  unfold decodeChar
  rw [if_pos (UInt8.lt_iff_toNat_lt.mpr h)]

/-- What is missing from a character is read after its first byte. -/
theorem decodeChar_of_mayFollow {first second : UInt8} (hlow : 194 ≤ first.toNat)
    (hhigh : first.toNat < 245) (hsecond : mayFollow first second = true) (rest : List UInt8) :
    decodeChar first (second :: rest)
      = continueChar (missingAfter first) 1 (leadBits first) (second :: rest) := by
  have h₁ : ¬first < 0x80 := by
    rw [UInt8.lt_iff_toNat_lt]
    exact Nat.not_lt.mpr (Nat.le_trans (by decide) hlow)
  have h₂ : ¬(first < 0xc2 || 0xf5 ≤ first) = true := by
    simp only [Bool.or_eq_true, decide_eq_true_eq, UInt8.lt_iff_toNat_lt, UInt8.le_iff_toNat_le,
      not_or, Nat.not_lt, Nat.not_le]
    exact ⟨hlow, hhigh⟩
  unfold decodeChar
  rw [if_neg h₁, if_neg h₂]
  exact if_pos hsecond

/-- A character is decoded to itself, whatever follows. -/
theorem decodeChar_utf8EncodeChar (c : Char) (rest : List UInt8) :
    ∃ b tail, String.utf8EncodeChar c = b :: tail ∧
      decodeChar b (tail ++ rest) = .ok (c, rest) := by
  have hvalid : c.val.toNat < 0xd800 ∨ 0xdfff < c.val.toNat ∧ c.val.toNat < 0x110000 := c.valid
  have hc : Char.ofNat c.val.toNat = c := Char.ofNat_toNat c
  rw [String.utf8EncodeChar.eq_1]
  generalize c.val.toNat = v at *
  by_cases h₁ : v ≤ 127
  · rw [if_pos h₁]
    have hb : (UInt8.ofNat v).toNat = v := toNat_ofNat_of_lt (by omega)
    refine ⟨_, _, rfl, ?_⟩
    rw [decodeChar_of_lt (by omega), hb, hc]
    rfl
  rw [if_neg h₁]
  by_cases h₂ : v ≤ 2047
  · rw [if_pos h₂]
    have hb : (UInt8.ofNat (v / 64 % 32 + 192)).toNat = v / 64 % 32 + 192 :=
      toNat_ofNat_of_lt (by omega)
    refine ⟨_, _, rfl, ?_⟩
    rw [List.cons_append, decodeChar_of_mayFollow (by omega) (by omega)
      (by rw [mayFollow_iff, hb, toNat_sixBits]; omega), missingAfter_eq, leadBits_eq, hb,
      if_pos (by omega), if_pos (by omega), continueChar_sixBits, continueChar,
      show (v / 64 % 32 + 192) % 32 * 64 + v % 64 = v by omega, hc]
    rfl
  rw [if_neg h₂]
  by_cases h₃ : v ≤ 65535
  · rw [if_pos h₃]
    have hb : (UInt8.ofNat (v / 4096 % 16 + 224)).toNat = v / 4096 % 16 + 224 :=
      toNat_ofNat_of_lt (by omega)
    refine ⟨_, _, rfl, ?_⟩
    rw [List.cons_append, List.cons_append, decodeChar_of_mayFollow (by omega) (by omega)
      (by rw [mayFollow_iff, hb, toNat_sixBits]; omega), missingAfter_eq, leadBits_eq, hb,
      if_neg (by omega), if_pos (by omega), if_neg (by omega), if_pos (by omega),
      continueChar_sixBits, continueChar_sixBits, continueChar,
      show ((v / 4096 % 16 + 224) % 16 * 64 + v / 64 % 64) * 64 + v % 64 = v by omega, hc]
    rfl
  · rw [if_neg h₃]
    have hb : (UInt8.ofNat (v / 262144 % 8 + 240)).toNat = v / 262144 % 8 + 240 :=
      toNat_ofNat_of_lt (by omega)
    refine ⟨_, _, rfl, ?_⟩
    rw [List.cons_append, List.cons_append, List.cons_append, decodeChar_of_mayFollow (by omega)
      (by omega) (by rw [mayFollow_iff, hb, toNat_sixBits]; omega), missingAfter_eq, leadBits_eq,
      hb, if_neg (by omega), if_neg (by omega), if_neg (by omega), if_neg (by omega),
      continueChar_sixBits, continueChar_sixBits, continueChar_sixBits, continueChar,
      show (((v / 262144 % 8 + 240) % 8 * 64 + v / 4096 % 64) * 64 + v / 64 % 64) * 64 + v % 64 = v
        by omega, hc]
    rfl

theorem utf8EncodeChar_ofNat {n : Nat} (h : n.isValidChar) :
    String.utf8EncodeChar (Char.ofNat n) =
      if n ≤ 127 then [UInt8.ofNat n]
      else if n ≤ 2047 then [UInt8.ofNat (n / 64 % 32 + 192), UInt8.ofNat (n % 64 + 128)]
      else if n ≤ 65535 then
        [UInt8.ofNat (n / 4096 % 16 + 224), UInt8.ofNat (n / 64 % 64 + 128),
          UInt8.ofNat (n % 64 + 128)]
      else
        [UInt8.ofNat (n / 262144 % 8 + 240), UInt8.ofNat (n / 4096 % 64 + 128),
          UInt8.ofNat (n / 64 % 64 + 128), UInt8.ofNat (n % 64 + 128)] := by
  have hval : (Char.ofNat n).val.toNat = n := (Char.toNat_ofNat n).trans (if_pos h)
  rw [String.utf8EncodeChar.eq_1, hval]

/-- A byte that is missing is there, and continues the character. -/
theorem continueChar_eq_ok {missing taken bits : Nat} {rest : List UInt8}
    {r : Char × List UInt8} (h : continueChar (missing + 1) taken bits rest = .ok r) :
    ∃ b rest', rest = b :: rest' ∧ (128 ≤ b.toNat ∧ b.toNat ≤ 191) ∧
      continueChar missing (taken + 1) (bits * 64 + b.toNat % 64) rest' = .ok r := by
  cases rest with
  | nil => cases h
  | cons b rest' =>
    rw [continueChar] at h
    split at h
    · next hb => exact ⟨b, rest', rfl, (isContinuation_iff b).mp hb, h⟩
    · cases h

/-- A character is one byte, or starts with a byte that is followed by one that may follow. -/
theorem decodeChar_cases {b : UInt8} {rest : List UInt8} {r : Char × List UInt8}
    (h : decodeChar b rest = .ok r) :
    b.toNat < 128 ∧ r = (Char.ofNat b.toNat, rest) ∨
      (194 ≤ b.toNat ∧ b.toNat < 245) ∧ ∃ second tail, rest = second :: tail ∧
        mayFollow b second = true ∧ continueChar (missingAfter b) 1 (leadBits b) rest = .ok r := by
  unfold decodeChar at h
  split at h
  · next hlow =>
    cases h
    exact .inl ⟨UInt8.lt_iff_toNat_lt.mp hlow, rfl⟩
  split at h
  · cases h
  next hlead =>
  simp only [Bool.or_eq_true, decide_eq_true_eq, UInt8.lt_iff_toNat_lt, UInt8.le_iff_toNat_le,
    not_or, Nat.not_lt, Nat.not_le] at hlead
  split at h
  · cases h
  next second tail =>
  split at h
  · next hsecond => exact .inr ⟨hlead, second, tail, rfl, hsecond, h⟩
  · cases h

/-- The bytes from which a character is decoded are its own. -/
theorem decodeChar_eq_ok {b : UInt8} {rest rest' : List UInt8} {c : Char}
    (h : decodeChar b rest = .ok (c, rest')) : b :: rest = String.utf8EncodeChar c ++ rest' := by
  obtain ⟨hb, hr⟩ | ⟨⟨hlow, hhigh⟩, second, tail, rfl, hsecond, h⟩ := decodeChar_cases h
  · cases hr
    rw [utf8EncodeChar_ofNat (.inl (by omega)), if_pos (by omega), UInt8.ofNat_toNat]
    rfl
  rw [mayFollow_iff] at hsecond
  rw [missingAfter_eq, leadBits_eq] at h
  by_cases h₂ : b.toNat < 224
  · rw [if_pos h₂, if_pos h₂] at h
    obtain ⟨b₁, rest₁, hr, hb₁, h⟩ := continueChar_eq_ok h
    cases hr
    cases h
    rw [utf8EncodeChar_ofNat (.inl (by omega)), if_neg (by omega), if_pos (by omega),
      ofNat_eq (b := b) (by omega), ofNat_eq (b := second) (by omega)]
    rfl
  rw [if_neg h₂, if_neg h₂] at h
  by_cases h₃ : b.toNat < 240
  · rw [if_pos h₃, if_pos h₃] at h
    obtain ⟨b₁, rest₁, hr, hb₁, h⟩ := continueChar_eq_ok h
    cases hr
    obtain ⟨b₂, rest₂, rfl, hb₂, h⟩ := continueChar_eq_ok h
    cases h
    rw [utf8EncodeChar_ofNat (by unfold Nat.isValidChar; omega), if_neg (by omega),
      if_neg (by omega), if_pos (by omega), ofNat_eq (b := b) (by omega),
      ofNat_eq (b := second) (by omega), ofNat_eq (b := b₂) (by omega)]
    rfl
  · rw [if_neg h₃, if_neg h₃] at h
    obtain ⟨b₁, rest₁, hr, hb₁, h⟩ := continueChar_eq_ok h
    cases hr
    obtain ⟨b₂, rest₂, rfl, hb₂, h⟩ := continueChar_eq_ok h
    obtain ⟨b₃, rest₃, rfl, hb₃, h⟩ := continueChar_eq_ok h
    cases h
    rw [utf8EncodeChar_ofNat (by unfold Nat.isValidChar; omega), if_neg (by omega),
      if_neg (by omega), if_neg (by omega), ofNat_eq (b := b) (by omega),
      ofNat_eq (b := second) (by omega), ofNat_eq (b := b₂) (by omega),
      ofNat_eq (b := b₃) (by omega)]
    rfl

/-! ## Texts -/

theorem encode_cons (c : Char) (rest : List Char) :
    encode (c :: rest) = String.utf8EncodeChar c ++ encode rest :=
  List.flatMap_cons

theorem decodeUtf8From_cons {b : UInt8} {rest rest' : List UInt8} {c : Char}
    (h : decodeChar b rest = .ok (c, rest')) (position : Nat) :
    decodeUtf8From position (b :: rest)
      = (decodeUtf8From (position + c.utf8Size) rest').map (c :: ·) := by
  rw [decodeUtf8From]
  split
  · next h' => rw [h] at h'; cases h'
  · next h' => rw [h] at h'; cases h'; rfl

theorem decodeUtf8From_encode (position : Nat) (s : List Char) :
    decodeUtf8From position (encode s) = .ok s := by
  induction s generalizing position with
  | nil => rw [encode, List.flatMap_nil, decodeUtf8From]
  | cons c rest ih =>
    obtain ⟨b, tail, hencode, hdecode⟩ := decodeChar_utf8EncodeChar c (encode rest)
    rw [encode_cons, hencode, List.cons_append, decodeUtf8From_cons hdecode, ih]
    rfl

theorem eq_encode_of_decodeUtf8From {position : Nat} {bs : List UInt8} {s : List Char}
    (h : decodeUtf8From position bs = .ok s) : bs = encode s := by
  fun_induction decodeUtf8From position bs generalizing s with
  | case1 =>
    cases h
    rfl
  | case2 => cases h
  | case3 position b rest c rest' hdecode _ ih =>
    cases hs : decodeUtf8From (position + c.utf8Size) rest' with
    | error e =>
      rw [hs] at h
      cases h
    | ok s' =>
      rw [hs] at h
      cases h
      rw [encode_cons, ← ih hs]
      exact decodeChar_eq_ok hdecode

/-- Decoding is inverse to encoding. -/
theorem decode_encode (s : List Char) : decode .utf8 (encode s) = .ok s :=
  decodeUtf8From_encode 0 s

/-- Data that are decoded are the UTF-8 form of what they are decoded to. -/
theorem decode_eq_ok_iff {bs : List UInt8} {s : List Char} :
    decode .utf8 bs = .ok s ↔ bs = encode s := by
  constructor
  · intro h
    exact eq_encode_of_decodeUtf8From h
  · intro h
    rw [h, decode_encode]

end MailDispatch.Text
