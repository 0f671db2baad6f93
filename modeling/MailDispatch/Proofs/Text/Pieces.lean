import Mathlib
import MailDispatch.Text.Pieces

/-!
# The pieces of a text

The pieces between separators hold no separator and make up the text again. That they are what the
library calls `List.splitOn` brings its lemmas along.
-/

namespace MailDispatch.Text

variable {separator c : Char} {s piece : List Char}

theorem pieces_eq_splitOn (separator : Char) (s : List Char) :
    pieces separator s = s.splitOn separator := by
  induction s with
  | nil => rfl
  | cons c rest ih =>
    rw [pieces, ih, List.splitOn, List.splitOn, List.splitOnP_cons_eq_if_modifyHead]
    simp only [beq_iff_eq]
    split
    · rfl
    · cases h : List.splitOnP (· == separator) rest with
      | nil => exact absurd h (List.splitOnP_ne_nil _ _)
      | cons piece others => rfl

theorem intercalate_pieces (separator : Char) (s : List Char) :
    [separator].intercalate (pieces separator s) = s := by
  rw [pieces_eq_splitOn, List.intercalate_splitOn]

/-- Pieces without a separator are found again. -/
theorem pieces_intercalate {parts : List (List Char)} (h : ∀ part ∈ parts, separator ∉ part)
    (hne : parts ≠ []) : pieces separator ([separator].intercalate parts) = parts := by
  rw [pieces_eq_splitOn, List.splitOn_intercalate separator h hne]

/-- A piece holds characters of the text, but no separator. -/
theorem mem_of_mem_pieces (h : piece ∈ pieces separator s) (hc : c ∈ piece) :
    c ∈ s ∧ c ≠ separator := by
  induction s generalizing piece with
  | nil =>
    rw [List.mem_singleton.mp h] at hc
    cases hc
  | cons d rest ih =>
    have hrest : piece ∈ pieces separator rest → c ∈ d :: rest ∧ c ≠ separator := fun h' ↦
      ⟨List.mem_cons_of_mem d (ih h' hc).1, (ih h' hc).2⟩
    rw [pieces] at h
    split at h
    · rcases List.mem_cons.mp h with rfl | h'
      · cases hc
      · exact hrest h'
    · next hd =>
      cases hp : pieces separator rest with
      | nil => exact absurd hp (pieces_ne_nil separator rest)
      | cons first others =>
        rw [hp] at h
        rcases List.mem_cons.mp h with rfl | h'
        · rcases List.mem_cons.mp hc with rfl | hc'
          · exact ⟨List.mem_cons_self, hd⟩
          · have hfirst : first ∈ pieces separator rest := by
              rw [hp]
              exact List.mem_cons_self
            exact ⟨List.mem_cons_of_mem d (ih hfirst hc').1, (ih hfirst hc').2⟩
        · refine hrest ?_
          rw [hp]
          exact List.mem_cons_of_mem first h'

/-- What is joined brings no characters but the separator. -/
theorem mem_intercalate {parts : List (List Char)} (h : c ∈ [separator].intercalate parts) :
    c = separator ∨ ∃ part ∈ parts, c ∈ part := by
  induction parts with
  | nil => cases h
  | cons part rest ih =>
    cases rest with
    | nil => exact .inr ⟨part, List.mem_cons_self, by simpa [List.intercalate] using h⟩
    | cons next others =>
      rw [List.intercalate_cons_cons, List.mem_append, List.mem_append, List.mem_singleton] at h
      rcases h with (h | h) | h
      · exact .inr ⟨part, List.mem_cons_self, h⟩
      · exact .inl h
      · rcases ih h with hc | ⟨part', hmem, hc⟩
        · exact .inl hc
        · exact .inr ⟨part', List.mem_cons_of_mem part hmem, hc⟩

/-- What follows a separator is the last piece if it holds no other. -/
theorem lastPiece_append_cons (h : separator ∉ piece) (s : List Char) :
    lastPiece separator (s ++ separator :: piece) = piece := by
  induction s with
  | nil => rw [List.nil_append, lastPiece, if_neg (by simpa using h), if_pos rfl]
  | cons d rest ih => rw [List.cons_append, lastPiece, if_pos (by simp), ih]

/-- In front of the last piece stands a separator, if there is one at all. -/
theorem exists_eq_append_lastPiece (h : separator ∈ s) :
    ∃ front, s = front ++ separator :: lastPiece separator s := by
  induction s with
  | nil => cases h
  | cons d rest ih =>
    rw [lastPiece]
    by_cases hrest : separator ∈ rest
    · obtain ⟨front, hfront⟩ := ih hrest
      refine ⟨d :: front, ?_⟩
      rw [if_pos (List.contains_iff_mem.mpr hrest), List.cons_append, ← hfront]
    · rcases List.mem_cons.mp h with rfl | hmem
      · refine ⟨[], ?_⟩
        rw [if_neg (fun h ↦ hrest (List.contains_iff_mem.mp h)), if_pos rfl, List.nil_append]
      · exact absurd hmem hrest

theorem lastPiece_of_not_mem (h : separator ∉ s) : lastPiece separator s = s := by
  cases s with
  | nil => rfl
  | cons d rest =>
    rw [List.mem_cons, not_or] at h
    rw [lastPiece, if_neg (fun hmem ↦ h.2 (List.contains_iff_mem.mp hmem)), if_neg (Ne.symm h.1)]

/-- Nothing is left behind the last separator of a text that ends in one. -/
theorem lastPiece_eq_nil_iff (hne : s ≠ []) :
    lastPiece separator s = [] ↔ s.getLast? = some separator := by
  by_cases h : separator ∈ s
  · obtain ⟨front, hfront⟩ := exists_eq_append_lastPiece h
    have hlast : s.getLast? = (separator :: lastPiece separator s).getLast? := by
      conv_lhs => rw [hfront]
      exact List.getLast?_append_of_ne_nil front (List.cons_ne_nil _ _)
    rw [hlast]
    constructor
    · intro hnil
      rw [hnil]
      rfl
    · intro hend
      by_contra hpiece
      rw [List.getLast?_cons_of_ne_nil hpiece] at hend
      exact not_mem_lastPiece separator s (List.mem_of_getLast? hend)
  · rw [lastPiece_of_not_mem h]
    exact iff_of_false hne fun hend ↦ h (List.mem_of_getLast? hend)

theorem mem_of_mem_lastPiece (h : c ∈ lastPiece separator s) : c ∈ s := by
  induction s with
  | nil => cases h
  | cons d rest ih =>
    rw [lastPiece] at h
    split at h
    · exact List.mem_cons_of_mem d (ih h)
    · split at h
      · exact List.mem_cons_of_mem d h
      · exact h

end MailDispatch.Text
