import MailDispatch.Decimal.Numeral
import MailDispatch.Proofs.Text.Trim

/-!
# Numerals, written and read

An integer can be written exactly if its magnitude lies below `10 ^ maxDigits`, and then it is read
back from its numeral, whatever white space is put around that. Whatever is read from a numeral can
be written again, since the two limits are the same.
-/

namespace MailDispatch.Decimal

/-! ## Digits -/

/-- The values of the digits of a natural number, most significant first. -/
def digitValues (n : Nat) : List Nat :=
  if n < 10 then [n] else digitValues (n / 10) ++ [n % 10]
termination_by n

theorem digits_eq_map (n : Nat) : digits n = (digitValues n).map digitChar := by
  fun_induction digits n with
  | case1 n h => rw [digitValues, if_pos h]; rfl
  | case2 n h ih => rw [digitValues, if_neg h, List.map_append, ih]; rfl

theorem lt_ten_of_mem_digitValues {n d : Nat} (h : d ∈ digitValues n) : d < 10 := by
  fun_induction digitValues n with
  | case1 n hn => rwa [List.mem_singleton.mp h]
  | case2 n _ ih =>
    rcases List.mem_append.mp h with h | h
    · exact ih h
    · rw [List.mem_singleton.mp h]
      exact Nat.mod_lt n (by decide)

/-- Only zero has a leading zero. -/
theorem digitValues_eq_cons (n : Nat) :
    ∃ d ds, digitValues n = d :: ds ∧ (d = 0 → n = 0 ∧ ds = []) := by
  fun_induction digitValues n with
  | case1 n h => exact ⟨n, [], rfl, fun h ↦ ⟨h, rfl⟩⟩
  | case2 n h ih =>
    obtain ⟨d, ds, heq, hzero⟩ := ih
    refine ⟨d, ds ++ [n % 10], by rw [heq]; rfl, fun hd ↦ ?_⟩
    have := (hzero hd).1
    omega

/-- A numeral has a first digit, and only digits. -/
theorem exists_digits (n : Nat) :
    ∃ d ds, d < 10 ∧ (∀ x ∈ ds, x < 10) ∧ digitValues n = d :: ds ∧
      digits n = digitChar d :: ds.map digitChar ∧ (d = 0 → n = 0 ∧ ds = []) := by
  obtain ⟨d, ds, heq, hzero⟩ := digitValues_eq_cons n
  have hlt : ∀ x ∈ digitValues n, x < 10 := fun _ ↦ lt_ten_of_mem_digitValues
  rw [heq] at hlt
  obtain ⟨hd, hds⟩ := List.forall_mem_cons.mp hlt
  exact ⟨d, ds, hd, hds, heq, by rw [digits_eq_map, heq, List.map_cons], hzero⟩

theorem exists_of_mem_digits {n : Nat} {c : Char} (h : c ∈ digits n) :
    ∃ d < 10, c = digitChar d := by
  rw [digits_eq_map, List.mem_map] at h
  obtain ⟨d, hd, rfl⟩ := h
  exact ⟨d, lt_ten_of_mem_digitValues hd, rfl⟩

theorem length_digitValues (n : Nat) : (digitValues n).length = (digits n).length := by
  rw [digits_eq_map, List.length_map]

theorem foldl_digitValues (n : Nat) : (digitValues n).foldl appendDigit 0 = n := by
  fun_induction digitValues n with
  | case1 n h => exact Nat.zero_add n
  | case2 n h ih =>
    rw [List.foldl_append, ih]
    exact Nat.div_add_mod n 10

theorem digitChar_ne : ∀ d < 10, digitChar d ≠ '-' ∧ digitChar d ≠ '+' ∧ digitChar d ≠ ':' ∧
    digitChar d ≠ '_' := by decide

/-! ## Writing -/

/-- The digits of an integer behind its sign. -/
theorem toList_numeral (n : Int) : (numeral n).toList
    = if n < 0 then '-' :: digits n.natAbs else digits n.natAbs := by
  rw [numeral, String.toList_ofList]

theorem numeral?_eq_some_iff {n : Int} {text : String} : numeral? n = some text ↔
    (digits n.natAbs).length ≤ maxDigits ∧ numeral n = text := by
  rw [numeral?, Option.ite_none_right_eq_some, Option.some.injEq]

theorem length_digits_le_iff (n : Nat) :
    ∀ {k : Nat}, 0 < k → ((digits n).length ≤ k ↔ n < 10 ^ k) := by
  fun_induction digits n with
  | case1 n h =>
    intro k hk
    have h10 : 10 ^ 1 ≤ 10 ^ k := Nat.pow_le_pow_right (by decide) hk
    exact ⟨fun _ ↦ Nat.lt_of_lt_of_le h h10, fun _ ↦ hk⟩
  | case2 n h ih =>
    intro k hk
    -- the last digit is taken off the number and off the length
    obtain ⟨k, rfl⟩ : ∃ j, k = j + 1 := ⟨k - 1, by omega⟩
    rw [List.length_append, List.length_singleton, Nat.add_le_add_iff_right]
    rcases Nat.eq_zero_or_pos k with rfl | hk'
    · have hpos : 0 < (digits (n / 10)).length := by
        rw [digits]
        split <;> simp
      constructor <;> intro h' <;> omega
    · rw [ih hk', Nat.pow_succ]
      exact Nat.div_lt_iff_lt_mul (by decide)

/-- The integers that can be written are those of at most `maxDigits` digits. -/
theorem isSome_numeral?_iff (n : Int) : (numeral? n).isSome ↔ n.natAbs < 10 ^ maxDigits := by
  rw [← length_digits_le_iff n.natAbs (by decide : 0 < maxDigits), numeral?]
  split <;> simp_all

theorem isSome_numeral?_of_lt {n : Int} {k : Nat} (h : n.natAbs < 10 ^ k) (hk : k ≤ maxDigits) :
    (numeral? n).isSome :=
  (isSome_numeral?_iff n).mpr (Nat.lt_of_lt_of_le h (Nat.pow_le_pow_right (by decide) hk))

/-- The least magnitude that cannot be written. -/
theorem numeral?_ten_pow : numeral? ((10 ^ maxDigits : Nat) : Int) = none := by
  generalize hn : 10 ^ maxDigits = n
  rw [← Option.not_isSome_iff_eq_none, isSome_numeral?_iff, Int.natAbs_natCast, hn]
  exact Nat.lt_irrefl n

/-! ## Reading -/

theorem lt_ten_of_digitValue? {c : Char} {d : Nat} (h : Text.digitValue? c = some d) :
    d < 10 := by
  rw [Text.digitValue?, Option.map_eq_some_iff] at h
  obtain ⟨z, hz, rfl⟩ := h
  have := List.find?_some hz
  simp only [Bool.and_eq_true, decide_eq_true_eq] at this
  omega

theorem forall_lt_ten_of_digitValues? {afterDigit : Bool} {s : List Char} {ds : List Nat}
    (h : digitValues? afterDigit s = some ds) : ∀ d ∈ ds, d < 10 := by
  induction s generalizing afterDigit ds with
  | nil =>
    rw [digitValues?] at h
    split at h
    · cases h
      simp
    · cases h
  | cons c rest ih =>
    rw [digitValues?] at h
    split at h
    · split at h
      · exact ih h
      · cases h
    · rw [Option.bind_eq_some_iff] at h
      obtain ⟨d, hd, h⟩ := h
      obtain ⟨ds', hds', rfl⟩ := Option.map_eq_some_iff.mp h
      intro x hx
      rcases List.mem_cons.mp hx with rfl | hx'
      · exact lt_ten_of_digitValue? hd
      · exact ih hds' x hx'

/-- A number read from `k` digits behind `n` lies below `(n + 1) * 10 ^ k`. -/
theorem foldl_appendDigit_lt {ds : List Nat} (h : ∀ d ∈ ds, d < 10) (n : Nat) :
    ds.foldl appendDigit n < (n + 1) * 10 ^ ds.length := by
  induction ds generalizing n with
  | nil => simp
  | cons d rest ih =>
    rw [List.foldl_cons, List.length_cons]
    have hd : d < 10 := h d List.mem_cons_self
    calc rest.foldl appendDigit (appendDigit n d)
        < (appendDigit n d + 1) * 10 ^ rest.length :=
          ih (fun x hx ↦ h x (List.mem_cons_of_mem d hx)) _
      _ ≤ ((n + 1) * 10) * 10 ^ rest.length :=
          Nat.mul_le_mul_right _ (by rw [appendDigit]; omega)
      _ = (n + 1) * 10 ^ (rest.length + 1) := by rw [Nat.pow_succ]; ac_rfl

theorem lt_of_readNat? {s : List Char} {n : Nat} (h : readNat? s = some n) :
    n < 10 ^ maxDigits := by
  rw [readNat?, Option.bind_eq_some_iff] at h
  obtain ⟨ds, hds, h⟩ := h
  split at h
  · next hlen =>
    cases h
    have := foldl_appendDigit_lt (forall_lt_ten_of_digitValues? hds) 0
    rw [Nat.zero_add, Nat.one_mul] at this
    exact Nat.lt_of_lt_of_le this (Nat.pow_le_pow_right (by decide) hlen)
  · cases h

/-- What was read from a numeral can be written. -/
theorem isSome_numeral?_of_readInt? {s : List Char} {n : Int} (h : readInt? s = some n) :
    (numeral? n).isSome := by
  rw [isSome_numeral?_iff]
  -- with or without a sign, the magnitude is the natural number that was read
  have hread : ∀ {rest : List Char} {g : Int → Int}, (∀ m, (g m).natAbs = m.natAbs) →
      ((readNat? rest).bind fun k ↦ some (k : Int)).map g = some n →
      n.natAbs < 10 ^ maxDigits := by
    intro rest g hg hmap
    obtain ⟨m, hm, rfl⟩ := Option.map_eq_some_iff.mp hmap
    obtain ⟨k, hk, hkm⟩ := Option.bind_eq_some_iff.mp hm
    cases hkm
    rw [hg]
    exact lt_of_readNat? hk
  unfold readInt? at h
  split at h
  · exact hread Int.natAbs_neg h
  · exact hread (fun _ ↦ rfl) h
  · exact hread (fun _ ↦ rfl) h

/-! ## Reading what was written -/

theorem digitValue?_digitChar : ∀ d < 10, Text.digitValue? (digitChar d) = some d := by decide

theorem digitValues?_map {ds : List Nat} (h : ∀ d ∈ ds, d < 10) :
    digitValues? true (ds.map digitChar) = some ds := by
  induction ds with
  | nil => rfl
  | cons d ds ih =>
    have hd : d < 10 := h d List.mem_cons_self
    rw [List.map_cons, digitValues?, if_neg (digitChar_ne d hd).2.2.2, digitValue?_digitChar d hd,
      ih fun x hx ↦ h x (List.mem_cons_of_mem d hx)]
    rfl

/-- The digits of a natural number are read back, if they are not too many. -/
theorem readNat?_digits {n : Nat} (h : (digits n).length ≤ maxDigits) :
    readNat? (digits n) = some n := by
  have hvalues : digitValues? false (digits n) = some (digitValues n) := by
    obtain ⟨d, ds, hd, hds, heq, hdigits, -⟩ := exists_digits n
    -- the first digit is what allows low lines behind it, of which there are none
    rw [hdigits, heq, digitValues?, if_neg (digitChar_ne d hd).2.2.2, digitValue?_digitChar d hd,
      digitValues?_map hds]
    rfl
  rw [readNat?, hvalues, Option.bind_some, length_digitValues, if_pos h, foldl_digitValues]

theorem isBlank_of_mem_numeral {n : Int} {c : Char} (h : c ∈ (numeral n).toList) :
    Text.isBlank c = false := by
  have hdigit : ∀ d < 10, Text.isBlank (digitChar d) = false := by decide
  have hdigits : c ∈ digits n.natAbs → Text.isBlank c = false := by
    intro hmem
    obtain ⟨d, hd, rfl⟩ := exists_of_mem_digits hmem
    exact hdigit d hd
  rw [toList_numeral] at h
  split at h
  · rcases List.mem_cons.mp h with rfl | h
    · decide
    · exact hdigits h
  · exact hdigits h

theorem readInt?_of_minus {s rest : List Char} {n : Nat} (hs : Text.trim s = '-' :: rest)
    (h : readNat? rest = some n) : readInt? s = some (-(n : Int)) := by
  simp only [readInt?, hs, h]
  rfl

theorem readInt?_of_unsigned {s rest : List Char} {c : Char} {n : Nat}
    (hs : Text.trim s = c :: rest) (hminus : c ≠ '-') (hplus : c ≠ '+')
    (h : readNat? (c :: rest) = some n) : readInt? s = some (n : Int) := by
  unfold readInt?
  rw [hs]
  split
  · next heq => exact absurd (List.cons.inj heq).1 hminus
  · next heq => exact absurd (List.cons.inj heq).1 hplus
  · rw [h]
    rfl

/-- An integer that was written is read back, with any white space around its numeral. -/
theorem readInt?_numeral {n : Int} {text : String} (h : numeral? n = some text) {s : List Char}
    (hs : Text.IsPadded text.toList s) : readInt? s = some n := by
  obtain ⟨hlen, rfl⟩ := numeral?_eq_some_iff.mp h
  have htrim : Text.trim s = (numeral n).toList := by
    rw [hs.trim_eq, Text.trim_of_forall fun c hc ↦ isBlank_of_mem_numeral hc]
  rw [toList_numeral] at htrim
  by_cases hneg : n < 0
  · rw [if_pos hneg] at htrim
    rw [readInt?_of_minus htrim (readNat?_digits hlen), Int.ofNat_natAbs_of_nonpos hneg.le,
      Int.neg_neg]
  · rw [if_neg hneg] at htrim
    obtain ⟨d, ds, hd, -, -, hdigits, -⟩ := exists_digits n.natAbs
    have hread := readNat?_digits hlen
    rw [hdigits] at htrim hread
    rw [readInt?_of_unsigned htrim (digitChar_ne d hd).1 (digitChar_ne d hd).2.1 hread,
      Int.natAbs_of_nonneg (Int.not_lt.mp hneg)]

end MailDispatch.Decimal
