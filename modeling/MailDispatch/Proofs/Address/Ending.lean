import Mathlib
import MailDispatch.Address.Scan

/-!
# How a reading ends

What becomes of the reading of a part of an address when more text follows? There are three cases.
Either the reading is settled: it ended before the end of its text, and nothing that follows can
change it. Or it came to the end and is closed: a comma behind it is left over. Or it came to the
end within a quoted word, a comment or a domain literal and is unclosed: it takes in whatever
ordinary text follows. `Ending` is this trichotomy. It passes from the parts of a reading to the
whole, so that one induction for each scanner is enough.

White space behind a text is weaker than a comma: it is left over or taken in, and in the latter
case it either changes nothing or turns up in what was read. `Ending` keeps record of this too,
since it decides whether a text may be trimmed. What was read is allowed to differ as long as it is
tainted: as long as it holds white space, which no accepted address does.
-/

namespace MailDispatch.Address

open Text (isBlank)

/-- A text without the characters that open, close or escape anything. -/
def IsOrdinary (w : List Char) : Prop :=
  ∀ c ∈ w, c ∉ ['"', '(', ')', '[', ']', '\\', '\r']

/-- `y` is `x`, or it is tainted. -/
def Blurs {α : Type} (tainted : α → Prop) (x y : α) : Prop := y = x ∨ tainted y

/-- White space within a text. -/
def HasBlank (s : List Char) : Prop := ∃ c ∈ s, isBlank c

instance : DecidablePred IsOrdinary := fun w ↦ List.decidableBAll _ w

instance : DecidablePred HasBlank := fun s ↦ List.decidableBEx _ s

/-- How the reading `f` of the text `s` ends. -/
inductive Ending {α : Type} (tainted : α → Prop) (f : List Char → α × List Char) (s : List Char) :
    Prop where
  /-- Nothing that follows changes the reading. -/
  | settled (h : ∀ v, f (s ++ v) = ((f s).1, (f s).2 ++ v))
  /-- A comma that follows ends the reading. -/
  | closed (hr : (f s).2 = [])
      (comma : ∀ v, (f (s ++ ',' :: v)).2 = ',' :: v ∧ Blurs tainted (f (s ++ ',' :: v)).1 (f s).1)
      (blank : ∀ c, isBlank c → f (s ++ [c]) = ((f s).1, [c]) ∨
        (f (s ++ [c])).2 = [] ∧ Blurs tainted (f s).1 (f (s ++ [c])).1)
  /-- Ordinary text that follows is taken in. -/
  | unclosed (hr : (f s).2 = [])
      (ordinary : ∀ w, IsOrdinary w → (f (s ++ w)).2 = [])
      (blank : ∀ c, isBlank c →
        (f (s ++ [c])).2 = [] ∧ Blurs tainted (f s).1 (f (s ++ [c])).1)

theorem Blurs.map {α β : Type} {t : α → Prop} {t' : β → Prop} {x y : α} (h : Blurs t x y)
    {k : α → β} (hk : ∀ z, t z → t' (k z)) : Blurs t' (k x) (k y) := by
  rcases h with rfl | h
  · exact .inl rfl
  · exact .inr (hk y h)

namespace Ending

variable {α β : Type} {t : α → Prop} {t' : β → Prop} {f : List Char → α × List Char}
  {s : List Char}

/-- A reading that leaves something over is settled. -/
theorem settled_of_ne_nil (h : Ending t f s) (hr : (f s).2 ≠ []) (v : List Char) :
    f (s ++ v) = ((f s).1, (f s).2 ++ v) := by
  cases h with
  | settled h => exact h v
  | closed h => exact absurd h hr
  | unclosed h => exact absurd h hr

/-- White space at the end is left over or taken in. -/
theorem blank (h : Ending t f s) {c : Char} (hc : isBlank c) :
    f (s ++ [c]) = ((f s).1, (f s).2 ++ [c]) ∨
      (f s).2 = [] ∧ (f (s ++ [c])).2 = [] ∧ Blurs t (f s).1 (f (s ++ [c])).1 := by
  cases h with
  | settled h => exact .inl (h [c])
  | closed hr _ hb =>
    rw [hr]
    rcases hb c hc with h | ⟨h, h'⟩
    · exact .inl h
    · exact .inr ⟨rfl, h, h'⟩
  | unclosed hr _ hb => exact .inr ⟨hr, hb c hc⟩

/-- Where nothing is left over, a comma is left over or ordinary text taken in. -/
theorem comma_or_ordinary (h : Ending t f s) (hr : (f s).2 = []) :
    (∀ v, (f (s ++ ',' :: v)).2 = ',' :: v ∧ Blurs t (f (s ++ ',' :: v)).1 (f s).1) ∨
      ∀ w, IsOrdinary w → (f (s ++ w)).2 = [] := by
  cases h with
  | settled h =>
    refine .inl fun v ↦ ?_
    rw [h, hr]
    exact ⟨rfl, .inl rfl⟩
  | closed _ hc _ => exact .inl hc
  | unclosed _ hw _ => exact .inr hw

/-- A reading ends as another one does, if it makes something of that one's result. -/
theorem mapBlurs {g : List Char → β × List Char} {s' : List Char} (h : Ending t f s) {k : α → β}
    (hk : ∀ x y, Blurs t x y → Blurs t' (k x) (k y))
    (hg : ∀ v, g (s' ++ v) = (k (f (s ++ v)).1, (f (s ++ v)).2)) : Ending t' g s' := by
  have hs : g s' = (k (f s).1, (f s).2) := by
    simpa using hg []
  cases h with
  | settled h =>
    refine .settled fun v ↦ ?_
    rw [hg, h, hs]
  | closed hr hc hb =>
    refine .closed (by rw [hs]; exact hr) (fun v ↦ ?_) fun c hcb ↦ ?_
    · rw [hg, hs]
      exact ⟨(hc v).1, hk _ _ (hc v).2⟩
    · rw [hg, hs]
      rcases hb c hcb with h | ⟨h, h'⟩
      · rw [h]
        exact .inl rfl
      · exact .inr ⟨h, hk _ _ h'⟩
  | unclosed hr hw hb =>
    refine .unclosed (by rw [hs]; exact hr) (fun w hwo ↦ ?_) fun c hcb ↦ ?_
    · rw [hg]
      exact hw w hwo
    · rw [hg, hs]
      exact ⟨(hb c hcb).1, hk _ _ (hb c hcb).2⟩

theorem map {g : List Char → β × List Char} {s' : List Char} (h : Ending t f s) {k : α → β}
    (hk : ∀ x, t x → t' (k x)) (hg : ∀ v, g (s' ++ v) = (k (f (s ++ v)).1, (f (s ++ v)).2)) :
    Ending t' g s' :=
  h.mapBlurs (fun _ _ h ↦ h.map hk) hg

/-- A reading ends as another one does, if it is the same. -/
theorem congr {g : List Char → α × List Char} {s' : List Char} (h : Ending t f s)
    (hg : ∀ v, g (s' ++ v) = f (s ++ v)) : Ending t g s' :=
  h.map (k := id) (fun _ h ↦ h) hg

/-- A reading of which only the rest is used. -/
theorem forget {g : List Char → β × List Char} {s' : List Char} (h : Ending t f s) (y : β)
    (hg : ∀ v, g (s' ++ v) = (y, (f (s ++ v)).2)) : Ending t' g s' :=
  h.mapBlurs (k := fun _ ↦ y) (fun _ _ _ ↦ .inl rfl) hg

/-- One reading after another. Where the first one comes to the end, the second one must be able to
begin and end there. -/
theorem comp {g : α → List Char → β × List Char} (hf : Ending t f s)
    (hg : (f s).2 ≠ [] → Ending t' (g (f s).1) (f s).2)
    (hnil : ∀ x, (g x []).2 = [] ∧ (t x → t' (g x []).1))
    (hcomma : ∀ x v, (g x (',' :: v)).2 = ',' :: v ∧ Blurs t' (g x (',' :: v)).1 (g x []).1)
    (hblank : (f s).2 = [] → ∀ c, isBlank c → (f (s ++ [c])).2 = [c] →
      g (f s).1 [c] = ((g (f s).1 []).1, [c]) ∨
        (g (f s).1 [c]).2 = [] ∧ Blurs t' (g (f s).1 []).1 (g (f s).1 [c]).1) :
    Ending t' (fun u ↦ g (f u).1 (f u).2) s := by
  -- where nothing is left over, the second reading starts at the end
  have hend : (f s).2 = [] →
      (g (f s).1 (f s).2).2 = [] ∧ ∀ c, isBlank c →
        (f (s ++ [c]) = ((f s).1, [c]) ∨
          (f (s ++ [c])).2 = [] ∧ Blurs t (f s).1 (f (s ++ [c])).1) →
        g (f (s ++ [c])).1 (f (s ++ [c])).2 = ((g (f s).1 (f s).2).1, [c]) ∨
          (g (f (s ++ [c])).1 (f (s ++ [c])).2).2 = [] ∧
            Blurs t' (g (f s).1 (f s).2).1 (g (f (s ++ [c])).1 (f (s ++ [c])).2).1 := by
    intro hr
    have hblank := hblank hr
    rw [hr]
    refine ⟨(hnil _).1, fun c hc h ↦ ?_⟩
    rcases h with h | ⟨h, h'⟩
    · have h₂ := hblank c hc (by rw [h])
      rw [h]
      exact h₂
    · rw [h]
      refine .inr ⟨(hnil _).1, ?_⟩
      rcases h' with h' | h'
      · rw [h']
        exact .inl rfl
      · exact .inr ((hnil _).2 h')
  cases hf with
  | settled h =>
    by_cases hr : (f s).2 = []
    · -- a settled reading without a rest leaves the whole of what follows to the second one
      have h' : ∀ v, f (s ++ v) = ((f s).1, v) := fun v ↦ by rw [h, hr]; rfl
      refine .closed (hend hr).1 (fun v ↦ ?_) fun c hc ↦ (hend hr).2 c hc (.inl (h' [c]))
      rw [h', hr]
      exact hcomma _ _
    · exact (hg hr).map (fun _ h ↦ h) fun v ↦ by rw [h]
  | closed hr hc hb =>
    refine .closed (hend hr).1 (fun v ↦ ?_) fun c hcb ↦ (hend hr).2 c hcb (hb c hcb)
    obtain ⟨h₁, h₂⟩ := hc v
    rw [h₁, hr]
    refine ⟨(hcomma _ v).1, ?_⟩
    rcases h₂ with h₂ | h₂
    · rw [← h₂]
      exact (hcomma _ v).2
    · exact .inr ((hnil _).2 h₂)
  | unclosed hr hw hb =>
    refine .unclosed (hend hr).1 (fun w hwo ↦ ?_) fun c hcb ↦ ?_
    · rw [hw w hwo]
      exact (hnil _).1
    · rcases (hend hr).2 c hcb (.inr (hb c hcb)) with h | h
      · rw [(hb c hcb).1] at h
        have := congrArg Prod.snd h
        rw [(hnil _).1] at this
        cases this
      · exact h

/-- One reading after another that ends in every text. -/
theorem comp_of_ending {g : α → List Char → β × List Char} (hf : Ending t f s)
    (hg : Ending t' (g (f s).1) (f s).2)
    (hnil : ∀ x, (g x []).2 = [] ∧ (t x → t' (g x []).1))
    (hcomma : ∀ x v, (g x (',' :: v)).2 = ',' :: v ∧ Blurs t' (g x (',' :: v)).1 (g x []).1) :
    Ending t' (fun u ↦ g (f u).1 (f u).2) s := by
  refine comp hf (fun _ ↦ hg) hnil hcomma fun hr c hc _ ↦ ?_
  rw [hr] at hg
  rcases hg.blank hc with h | ⟨-, h, h'⟩
  · rw [List.nil_append, (hnil _).1] at h
    exact .inl h
  · exact .inr ⟨h, h'⟩

/-- A reading of what is left when something was passed over without a trace. At the end of a text
and at a comma it yields the same. -/
theorem after {skip : List Char → List Char} {g : List Char → β × List Char} {y : β}
    (hs : Ending (fun _ : Unit ↦ False) (fun u ↦ ((), skip u)) s) (hg : Ending t' g (skip s))
    (hnil : g [] = (y, [])) (hcomma : ∀ v, g (',' :: v) = (y, ',' :: v)) :
    Ending t' (fun u ↦ g (skip u)) s := by
  refine comp_of_ending (g := fun _ ↦ g) hs hg (fun _ ↦ ?_) fun _ v ↦ ?_
  · rw [hnil]
    exact ⟨rfl, False.elim⟩
  · rw [hcomma, hnil]
    exact ⟨rfl, .inl rfl⟩

end Ending

end MailDispatch.Address
