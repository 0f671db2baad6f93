import Mathlib
import MailDispatch.Text.Blank

/-!
# Trimmed texts

Trimming takes the white space off both ends of a text and nothing else. A text that has none there
stays as it is, and so white space around a text can be added and taken off again.
-/

namespace MailDispatch.Text

/-- The text `s` is `core` with white space around it. -/
def IsPadded (core s : List Char) : Prop :=
  ∃ v w, v.all isBlank = true ∧ w.all isBlank = true ∧ s = v ++ (core ++ w)

/-! ## What trimming leaves -/

theorem exists_trimRight (s : List Char) : ∃ w, w.all isBlank = true ∧ s = trimRight s ++ w := by
  induction s with
  | nil => exact ⟨[], rfl, rfl⟩
  | cons c rest ih =>
    obtain ⟨w, hw, hrest⟩ := ih
    rw [trimRight]
    split
    · next h =>
      rw [h, List.nil_append] at hrest
      by_cases hc : isBlank c = true
      · refine ⟨c :: w, ?_, ?_⟩
        · rw [List.all_cons, hc, hw]
          rfl
        · rw [if_pos hc, ← hrest]
          rfl
      · refine ⟨w, hw, ?_⟩
        rw [if_neg hc, ← hrest]
        rfl
    · next h =>
      refine ⟨w, hw, ?_⟩
      rw [h] at hrest
      rw [hrest]
      rfl

theorem head?_trimRight {s : List Char} {c : Char} (h : (trimRight s).head? = some c) :
    s.head? = some c := by
  cases s with
  | nil => exact h
  | cons d rest =>
    rw [trimRight] at h
    split at h
    · split at h
      · cases h
      · exact h
    · exact h

theorem isBlank_getLast_trimRight {s : List Char} {c : Char}
    (h : (trimRight s).getLast? = some c) : isBlank c = false := by
  induction s with
  | nil => cases h
  | cons d rest ih =>
    rw [trimRight] at h
    split at h
    · split at h
      · cases h
      · next hd =>
        cases h
        exact Bool.eq_false_iff.mpr hd
    · next hrest =>
      rw [hrest] at ih
      exact ih (by rwa [List.getLast?_cons_cons] at h)

/-- Trimming leaves no white space at either end. -/
theorem isBlank_ends_trim (s : List Char) :
    (∀ c, (trim s).head? = some c → isBlank c = false) ∧
      ∀ c, (trim s).getLast? = some c → isBlank c = false := by
  refine ⟨fun c hc ↦ ?_, fun c hc ↦ isBlank_getLast_trimRight hc⟩
  have hhead := head?_trimRight hc
  have hdrop := List.head?_dropWhile_not isBlank s
  rwa [hhead] at hdrop

theorem trimRight_of_getLast {s : List Char} (h : ∀ c, s.getLast? = some c → isBlank c = false) :
    trimRight s = s := by
  induction s with
  | nil => rfl
  | cons d rest ih =>
    cases rest with
    | nil => rw [trimRight, trimRight, if_neg (Bool.eq_false_iff.mp (h d rfl))]
    | cons e rest =>
      rw [trimRight, ih fun c hc ↦ h c (by rwa [List.getLast?_cons_cons])]

/-- A text without white space at its ends is left alone. -/
theorem trim_of_ends {s : List Char} (hhead : ∀ c, s.head? = some c → isBlank c = false)
    (hlast : ∀ c, s.getLast? = some c → isBlank c = false) : trim s = s := by
  have hdrop : s.dropWhile isBlank = s := by
    cases s with
    | nil => rfl
    | cons d rest => rw [List.dropWhile_cons_of_neg (Bool.eq_false_iff.mp (hhead d rfl))]
  rw [trim, hdrop, trimRight_of_getLast hlast]

theorem trim_trim (s : List Char) : trim (trim s) = trim s :=
  trim_of_ends (isBlank_ends_trim s).1 (isBlank_ends_trim s).2

/-- A text consists of what trimming leaves and of white space around it. -/
theorem isPadded_trim (s : List Char) : IsPadded (trim s) s := by
  obtain ⟨w, hw, hs⟩ := exists_trimRight (s.dropWhile isBlank)
  refine ⟨s.takeWhile isBlank, w, List.all_takeWhile, hw, ?_⟩
  rw [trim, ← hs, List.takeWhile_append_dropWhile]

theorem trim_of_forall {s : List Char} (h : ∀ c ∈ s, isBlank c = false) : trim s = s :=
  trim_of_ends (fun c hc ↦ h c (List.mem_of_mem_head? hc)) fun c hc ↦ h c (List.mem_of_getLast? hc)

/-! ## White space that is added -/

theorem trimRight_of_all_isBlank {w : List Char} (h : w.all isBlank = true) : trimRight w = [] := by
  induction w with
  | nil => rfl
  | cons c w ih =>
    rw [List.all_cons, Bool.and_eq_true] at h
    rw [trimRight, ih h.2]
    exact if_pos h.1

theorem trimRight_append (s : List Char) {w : List Char} (h : w.all isBlank = true) :
    trimRight (s ++ w) = trimRight s := by
  induction s with
  | nil => exact trimRight_of_all_isBlank h
  | cons c s ih => rw [List.cons_append, trimRight, trimRight, ih]

/-- White space around a text does not change what trimming leaves. -/
theorem IsPadded.trim_eq {core s : List Char} (h : IsPadded core s) : trim s = trim core := by
  obtain ⟨v, w, hv, hw, rfl⟩ := h
  rw [trim, trim, List.dropWhile_append_of_pos (List.all_eq_true.mp hv), List.dropWhile_append]
  split
  · next hcore =>
    rw [List.isEmpty_iff.mp hcore, List.dropWhile_eq_nil_iff.mpr (List.all_eq_true.mp hw)]
  · exact trimRight_append _ hw

end MailDispatch.Text
