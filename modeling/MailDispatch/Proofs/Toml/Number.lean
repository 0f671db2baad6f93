import MailDispatch.Proofs.Decimal.Numeral
import MailDispatch.Toml.Number

/-!
# Integers are read back

An integer that is written at the end of a line is read as that integer. The scanner tries moments
first, so a numeral must not be taken for the beginning of one: those have a hyphen or a colon
behind some digits, where a numeral has another digit or the end of the line.
-/

namespace MailDispatch

namespace Toml

open Decimal (digitChar digitChar_ne digitValues maxDigits numeral numeral? numeral?_eq_some_iff
  toList_numeral)

theorem ofDigits_digitValues (n : Nat) : ofDigits 10 (digitValues n) = n :=
  Decimal.foldl_digitValues n

theorem digitIn?_digitChar : ∀ d < 10, digitIn? 10 (digitChar d) = some d := by decide

theorem digitChar_eq_zero : ∀ d < 10, digitChar d = '0' → d = 0 := by decide

/-! ## What a numeral is not -/

/-- What was read of fixed width are digits, and the rest of the text is left. -/
theorem fixed?_eq_some {width n : Nat} {s left : List Char}
    (h : fixed? width s = some (n, left)) :
    left = s.drop width ∧ width ≤ s.length ∧ ∀ c ∈ s.take width, (digitIn? 10 c).isSome := by
  rw [fixed?] at h
  split at h
  · next hlen =>
    cases h
    have htake := List.length_take_le width s
    have hle := List.length_filterMap_le (digitIn? 10) (s.take width)
    have hall : (s.take width).length = width := by omega
    refine ⟨rfl, by rw [List.length_take] at hall; omega, ?_⟩
    exact List.filterMap_length_eq_length.mp (hlen.trans hall.symm)
  · cases h

/-- Behind what was read of fixed width at the end of a line there is no mark that is not in the
line. -/
theorem expect?_of_fixed? {width n : Nat} {c : Char} {line rest left : List Char}
    (hwidth : 0 < width) (hmem : c ∉ line.tail) (hc : c ≠ '\n')
    (h : fixed? width (line ++ '\n' :: rest) = some (n, left)) : expect? c left = none := by
  obtain ⟨rfl, -, hall⟩ := fixed?_eq_some h
  have hle : width ≤ line.length := by
    by_contra hlt
    have hbreak : '\n' ∈ (line ++ '\n' :: rest).take width := by
      rw [List.take_append, List.mem_append]
      refine .inr (List.mem_take_iff_getElem.mpr ⟨0, ?_, rfl⟩)
      rw [List.length_cons]
      omega
    cases hall '\n' hbreak
  rw [List.drop_append_of_le_length hle]
  cases hdrop : line.drop width with
  | nil => exact if_neg hc.symm
  | cons d ds =>
    refine if_neg ?_
    rintro rfl
    have hd : d ∈ line.drop width := by rw [hdrop]; exact List.mem_cons_self
    rw [← List.drop_one] at hmem
    exact hmem (List.drop_subset_drop_left line hwidth hd)

/-- A line without a hyphen behind its first character does not start with a day. -/
theorem dayOrInstant?_eq_none {line : List Char} (h : '-' ∉ line.tail) (rest : List Char) :
    dayOrInstant? (line ++ '\n' :: rest) = none := by
  rw [dayOrInstant?, Option.map_eq_none_iff, day?]
  cases hf : fixed? 4 (line ++ '\n' :: rest) with
  | none => rfl
  | some p =>
    show (expect? '-' p.2).bind _ = none
    rw [expect?_of_fixed? (by decide) h (by decide) hf]
    rfl

/-- A line without a colon behind its first character does not start with a time of day. -/
theorem timeOfDay?_eq_none {line : List Char} (h : ':' ∉ line.tail) (rest : List Char) :
    timeOfDay? (line ++ '\n' :: rest) = none := by
  rw [timeOfDay?, Option.map_eq_none_iff, clock?, hourMinute?]
  cases hf : fixed? 2 (line ++ '\n' :: rest) with
  | none => rfl
  | some p =>
    show ((expect? ':' p.2).bind _).bind _ = none
    rw [expect?_of_fixed? (by decide) h (by decide) hf]
    rfl

/-! ## What a numeral is -/

theorem moreDigits_map {ds : List Nat} (h : ∀ d ∈ ds, d < 10) (rest : List Char) :
    moreDigits 10 (ds.map digitChar ++ '\n' :: rest) = (ds, '\n' :: rest) := by
  induction ds with
  | nil =>
    rw [List.map_nil, List.nil_append, moreDigits]
    · rfl
    · rintro _ _ ⟨⟩
  | cons d ds ih =>
    have hd : d < 10 := h d List.mem_cons_self
    rw [List.map_cons, List.cons_append, moreDigits]
    · rw [digitIn?_digitChar d hd, ih fun x hx ↦ h x (List.mem_cons_of_mem d hx)]
    · intro _ _ hline _
      exact (digitChar_ne d hd).2.2.2 hline

theorem sign_of_ne {c : Char} (hminus : c ≠ '-') (hplus : c ≠ '+') (s : List Char) :
    sign (c :: s) = (false, c :: s) := by
  unfold sign
  split <;> simp_all

/-- The digits of a natural number are read, and nothing else. -/
theorem wholeDigits?_digits (n : Nat) (rest : List Char) :
    wholeDigits? (Decimal.digits n ++ '\n' :: rest) = some (digitValues n, '\n' :: rest) := by
  obtain ⟨d, ds, hd, hds, heq, hdigits, hzero⟩ := Decimal.exists_digits n
  rw [hdigits, heq, List.cons_append]
  by_cases h0 : d = 0
  · rw [(hzero h0).2, h0]
    rfl
  · have hrun : digitRun? 10 (digitChar d :: (ds.map digitChar ++ '\n' :: rest))
        = some (d :: ds, '\n' :: rest) := by
      rw [digitRun?, digitIn?_digitChar d hd,
        moreDigits_map hds]
      rfl
    rw [← hrun, wholeDigits?]
    intro _ hline
    exact absurd (digitChar_eq_zero d hd (List.cons.inj hline).1) h0

/-- A numeral starts with a minus sign or a digit. -/
theorem toList_numeral_eq_cons (n : Int) :
    ∃ c rest, (numeral n).toList = c :: rest ∧ (c = '-' ∨ ∃ d < 10, c = digitChar d) := by
  rw [toList_numeral]
  split
  · exact ⟨_, _, rfl, .inl rfl⟩
  · obtain ⟨d, ds, hd, -, -, hdigits, -⟩ := Decimal.exists_digits n.natAbs
    exact ⟨_, _, hdigits, .inr ⟨d, hd, rfl⟩⟩

theorem not_mem_digits {c : Char} (hc : ∀ d < 10, digitChar d ≠ c) (n : Nat) :
    c ∉ Decimal.digits n := by
  intro h
  obtain ⟨d, hd, rfl⟩ := Decimal.exists_of_mem_digits h
  exact hc d hd rfl

theorem not_mem_numeral {c : Char} (hc : ∀ d < 10, digitChar d ≠ c) (hminus : c ≠ '-') (n : Int) :
    c ∉ (numeral n).toList := by
  rw [toList_numeral]
  split
  · exact List.not_mem_cons_of_ne_of_not_mem hminus (not_mem_digits hc n.natAbs)
  · exact not_mem_digits hc n.natAbs

/-- Behind the first character of a numeral there are digits only. -/
theorem not_mem_tail_numeral {c : Char} (hc : ∀ d < 10, digitChar d ≠ c) (n : Int) :
    c ∉ (numeral n).toList.tail := by
  rw [toList_numeral]
  split
  · exact not_mem_digits hc n.natAbs
  · exact fun h ↦ not_mem_digits hc n.natAbs (List.mem_of_mem_tail h)

theorem sign_numeral (n : Int) (rest : List Char) : sign ((numeral n).toList ++ '\n' :: rest)
    = (decide (n < 0), Decimal.digits n.natAbs ++ '\n' :: rest) := by
  rw [toList_numeral]
  split
  · next hneg => rw [decide_eq_true hneg]; rfl
  · next hpos =>
    obtain ⟨d, ds, hd, -, -, hdigits, -⟩ := Decimal.exists_digits n.natAbs
    rw [hdigits, decide_eq_false hpos]
    exact sign_of_ne (digitChar_ne d hd).1 (digitChar_ne d hd).2.1 _

theorem integer_digitValues {n : Int} (h : (Decimal.digits n.natAbs).length ≤ maxDigits) :
    integer (decide (n < 0)) (digitValues n.natAbs) = .ok (.int n) := by
  rw [integer, Decimal.length_digitValues, if_neg (Nat.not_lt.mpr h), ofDigits_digitValues]
  by_cases hneg : n < 0
  · rw [decide_eq_true hneg, if_pos rfl, Int.ofNat_natAbs_of_nonpos hneg.le, Int.neg_neg]
  · rw [decide_eq_false hneg, if_neg Bool.false_ne_true, Int.natAbs_of_nonneg (Int.not_lt.mp hneg)]

theorem decimal?_numeral {n : Int} (h : (Decimal.digits n.natAbs).length ≤ maxDigits)
    (rest : List Char) :
    decimal? ((numeral n).toList ++ '\n' :: rest) = some (.ok (.int n, '\n' :: rest)) := by
  have hexponent : exponent? ('\n' :: rest) = none := rfl
  rw [decimal?, sign_numeral]
  simp only [wholeDigits?_digits, Option.map_some, fractionDigits?, hexponent,
    integer_digitValues h]
  rfl

/-- A numeral that starts with a zero is that of zero. -/
theorem eq_break_of_numeral {n : Int} {rest left : List Char} {c : Char}
    (h : (numeral n).toList ++ '\n' :: rest = '0' :: c :: left) : c = '\n' := by
  rw [toList_numeral] at h
  split at h
  · exact absurd (List.cons.inj h).1 (by decide)
  · obtain ⟨d, ds, hd, -, -, hdigits, hzero⟩ := Decimal.exists_digits n.natAbs
    rw [hdigits, List.cons_append] at h
    obtain ⟨hfirst, hrest⟩ := List.cons.inj h
    rw [(hzero (digitChar_eq_zero d hd hfirst)).2] at hrest
    exact (List.cons.inj hrest).1.symm

theorem number?_numeral (n : Int) (rest : List Char) :
    number? ((numeral n).toList ++ '\n' :: rest)
      = decimal? ((numeral n).toList ++ '\n' :: rest) := by
  have hsecond : ∀ {c left}, (numeral n).toList ++ '\n' :: rest = '0' :: c :: left → c = '\n' :=
    eq_break_of_numeral
  generalize (numeral n).toList ++ '\n' :: rest = s at *
  unfold number?
  split
  · exact absurd (hsecond rfl) (by decide)
  · exact absurd (hsecond rfl) (by decide)
  · exact absurd (hsecond rfl) (by decide)
  · rfl

/-- An integer at the end of a line is read as that integer. -/
theorem scalar_numeral {n : Int} {text : String} (h : numeral? n = some text) (rest : List Char) :
    scalar (text.toList ++ '\n' :: rest) = .ok (.int n, '\n' :: rest) := by
  obtain ⟨hlen, rfl⟩ := numeral?_eq_some_iff.mp h
  have hday := dayOrInstant?_eq_none
    (not_mem_tail_numeral (fun d hd ↦ (digitChar_ne d hd).1) n) rest
  have htime := timeOfDay?_eq_none
    (not_mem_tail_numeral (fun d hd ↦ (digitChar_ne d hd).2.2.1) n) rest
  rw [scalar, hday, htime, number?_numeral, decimal?_numeral hlen]
  rfl

end Toml

end MailDispatch
