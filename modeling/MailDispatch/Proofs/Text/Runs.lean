import Mathlib

/-!
# Runs

Readers of names and keys take the longest run of characters of one kind and go on behind it. Such
a run is known by its end: what is left does not begin with another character of that kind.
-/

namespace MailDispatch.Text

/-- The front of a text and what is behind it are its longest run and the rest exactly if they make
up the text, the front is a run, and the rest does not prolong it. -/
theorem takeWhile_dropWhile_iff {α : Type} {p : α → Bool} {s run left : List α} :
    s.takeWhile p = run ∧ s.dropWhile p = left ↔
      s = run ++ left ∧ (∀ a ∈ run, p a = true) ∧ ∀ a ∈ left.head?, p a = false := by
  constructor
  · rintro ⟨rfl, rfl⟩
    refine ⟨List.takeWhile_append_dropWhile.symm, fun a ha ↦ List.mem_takeWhile_imp ha, ?_⟩
    intro a ha
    have hhead := List.head?_dropWhile_not p s
    rwa [Option.mem_def.mp ha] at hhead
  · rintro ⟨rfl, hrun, hleft⟩
    have hnone : left.takeWhile p = [] := by
      cases left with
      | nil => rfl
      | cons a rest => exact List.takeWhile_cons_of_neg (Bool.eq_false_iff.mp (hleft a rfl))
    have htake : (run ++ left).takeWhile p = run := by
      rw [List.takeWhile_append_of_pos hrun, hnone, List.append_nil]
    refine ⟨htake, ?_⟩
    have hmade := List.takeWhile_append_dropWhile (p := p) (l := run ++ left)
    rw [htake] at hmade
    exact List.append_cancel_left hmade

end MailDispatch.Text
