import MailDispatch.Proofs.Session.Milestones
import MailDispatch.Session.Overlap

/-!
# When overlapping sessions restore the threshold

Each trace block saves the threshold that it finds and puts it back when it is left. That is right
as long as blocks are nested, and it goes wrong when they merely overlap: the block entered first
puts the old threshold back while another one still traces, and that one, which found the threshold
open, leaves it open at the end. `keeps_iff` says that nothing else can go wrong.

## The invariant

Among the open blocks that trace, the first has saved the threshold from before, and each of the
others the open threshold (`IsSaved`); the threshold is open as long as there are any (`IsSound`). A
turn keeps this unless it leaves the first of these blocks while there are others, that is, unless
the block `IsOutlived`.
-/

namespace MailDispatch

open TraceBlock (openThreshold)

namespace Overlap

variable {before place : Nat} {o : Overlap} {b : TraceBlock} {earlier later : List TraceBlock}

/-! ## What is asked of the threshold -/

/-- The threshold as it ought to be: open while the protocol is traced, and as it was before when no
block is open. -/
structure IsKept (before : Nat) (o : Overlap) : Prop where
  tracing : o.isTracing → o.threshold = openThreshold
  idle : o.blocks = [] → o.threshold = before

/-- Whether turns leave the threshold as it ought to be at every moment. -/
def Keeps (before : Nat) (turns : List TraceTurn) : Prop :=
  ∀ earlier, earlier <+: turns → IsKept before (after before earlier)

/-- Whether the block at a place is the first of those that trace, and not the only one. -/
def IsOutlived (o : Overlap) (place : Nat) : Prop :=
  ∃ earlier b later, o.blocks = earlier ++ b :: later ∧ earlier.length = place ∧ b.enabled ∧
    (∀ x ∈ earlier, ¬x.enabled) ∧ ∃ x ∈ later, x.enabled

/-! ## Turns -/

@[simp] theorem after_nil (before : Nat) : after before [] = ⟨before, []⟩ := rfl

theorem after_append_singleton (before : Nat) (turns : List TraceTurn) (t : TraceTurn) :
    after before (turns ++ [t]) = (after before turns).turn t := by
  rw [after, after, List.foldl_append, List.foldl_cons, List.foldl_nil]

theorem turn_leave (h : o.blocks = earlier ++ b :: later) :
    o.turn (.leave earlier.length) = ⟨b.leave o.threshold, earlier ++ later⟩ := by
  have hget : o.blocks[earlier.length]? = some b := by
    rw [h, List.getElem?_append_right (le_refl _), Nat.sub_self, List.getElem?_cons_zero]
  rw [turn, hget, h, List.eraseIdx_append_of_length_le (le_refl _), Nat.sub_self,
    List.eraseIdx_cons_zero]

/-- A block that is left stands somewhere among the open ones, unless there is none to be left. -/
theorem turn_leave_cases (o : Overlap) (place : Nat) : o.turn (.leave place) = o ∨
    ∃ earlier b later, o.blocks = earlier ++ b :: later ∧ place = earlier.length := by
  cases hget : o.blocks[place]? with
  | none => exact .inl (by rw [turn, hget])
  | some b =>
    obtain ⟨hlt, hb⟩ := List.getElem?_eq_some_iff.mp hget
    refine .inr ⟨o.blocks.take place, b, o.blocks.drop (place + 1), ?_, ?_⟩
    · rw [← hb, ← List.drop_eq_getElem_cons hlt, List.take_append_drop]
    · rw [List.length_take, Nat.min_eq_left (Nat.le_of_lt hlt)]

/-- A trace block around some work is a turn in front of it and one behind it, whatever other
sessions do to the threshold in between. -/
theorem traced_turns {μ α : Type} (enabled : Bool) (x : Work μ α) (s : Situation)
    (blocks : List TraceBlock) :
    let entered := (⟨s.thresholds.protocol, blocks⟩ : Overlap).turn (.enter enabled)
    let now := (x (Work.tracing enabled s)).state.thresholds.protocol
    (Work.tracing enabled s).thresholds.protocol = entered.threshold ∧
      (Work.traced enabled x s).state.thresholds.protocol
        = (turn ⟨now, entered.blocks⟩ (.leave blocks.length)).threshold := by
  refine ⟨rfl, ?_⟩
  have hblocks : blocks ++ [⟨enabled, s.thresholds.protocol⟩]
      = blocks ++ ⟨enabled, s.thresholds.protocol⟩ :: [] := rfl
  rw [turn_leave hblocks]
  rfl

/-- A scene is the case in which blocks are nested: the innermost one is the last in order. -/
def ofScene (s : TraceScene) : Overlap := ⟨s.thresholds.protocol, s.blocks.reverse⟩

theorem ofScene_enter (s : TraceScene) (enabled : Bool) :
    ofScene (s.step (.enter enabled)).1 = (ofScene s).turn (.enter enabled) := by
  rw [TraceScene.step, ofScene, List.reverse_cons]
  rfl

theorem ofScene_leave (s : TraceScene) (failed : Bool) :
    ofScene (s.step (.leave failed)).1 = (ofScene s).turn (.leave (s.blocks.length - 1)) := by
  rw [TraceScene.step]
  split
  · next h => rw [ofScene, h]; rfl
  · next b rest h =>
    have hblocks : (ofScene s).blocks = rest.reverse ++ b :: [] := by
      rw [ofScene, h, List.reverse_cons]
    rw [h, List.length_cons, Nat.add_sub_cancel, ← List.length_reverse, turn_leave hblocks,
      List.append_nil]
    rfl

/-! ## The invariant -/

/-- The thresholds saved by those blocks that trace. -/
def saved (blocks : List TraceBlock) : List Nat := (blocks.filter (·.enabled)).map (·.saved)

/-- Thresholds as blocks that trace save them one inside the other. -/
def IsSaved (before : Nat) : List Nat → Prop
  | [] => True
  | first :: others => first = before ∧ ∀ n ∈ others, n = openThreshold

namespace IsSaved

theorem append_openThreshold {thresholds : List Nat} (h : IsSaved before thresholds)
    (hne : thresholds ≠ []) : IsSaved before (thresholds ++ [openThreshold]) := by
  cases thresholds with
  | nil => exact absurd rfl hne
  | cons first others =>
    refine ⟨h.1, fun n hn ↦ ?_⟩
    rcases List.mem_append.mp hn with hn | hn
    · exact h.2 n hn
    · exact List.mem_singleton.mp hn

/-- The first one can be taken away if it is the only one, or if all are the same. -/
theorem of_cons {first : Nat} {others : List Nat} (h : IsSaved before (first :: others))
    (hothers : before = openThreshold ∨ others = []) : IsSaved before others := by
  cases others with
  | nil => trivial
  | cons second rest =>
    have hopen := hothers.resolve_right (List.cons_ne_nil _ _)
    exact ⟨(h.2 second List.mem_cons_self).trans hopen.symm,
      fun n hn ↦ h.2 n (List.mem_cons_of_mem second hn)⟩

/-- Each of the others can be taken away, and is the open threshold. -/
theorem of_append_cons {inner : Nat} {outer rest : List Nat}
    (h : IsSaved before (outer ++ inner :: rest)) (hne : outer ≠ []) :
    inner = openThreshold ∧ IsSaved before (outer ++ rest) := by
  cases outer with
  | nil => exact absurd rfl hne
  | cons first others =>
    refine ⟨h.2 inner (List.mem_append_right _ List.mem_cons_self), h.1, fun n hn ↦ h.2 n ?_⟩
    rcases List.mem_append.mp hn with hn | hn
    · exact List.mem_append_left _ hn
    · exact List.mem_append_right _ (List.mem_cons_of_mem inner hn)

end IsSaved

/-- The invariant: the open threshold while there is something to trace, and saved thresholds from
which the one from before comes back. -/
structure IsSound (before : Nat) (o : Overlap) : Prop where
  threshold : o.threshold = if o.isTracing then openThreshold else before
  saved : IsSaved before (saved o.blocks)

theorem saved_append (blocks blocks' : List TraceBlock) :
    saved (blocks ++ blocks') = saved blocks ++ saved blocks' := by
  rw [saved, List.filter_append, List.map_append, saved, saved]

theorem saved_cons_of_enabled (h : b.enabled) (blocks : List TraceBlock) :
    saved (b :: blocks) = b.saved :: saved blocks := by
  rw [saved, List.filter_cons_of_pos h, List.map_cons, saved]

theorem saved_cons_of_not_enabled (h : ¬b.enabled) (blocks : List TraceBlock) :
    saved (b :: blocks) = saved blocks := by
  rw [saved, List.filter_cons_of_neg h, saved]

theorem saved_eq_nil_iff {blocks : List TraceBlock} :
    saved blocks = [] ↔ ∀ x ∈ blocks, ¬x.enabled := by
  rw [saved, List.map_eq_nil_iff, List.filter_eq_nil_iff]

theorem isTracing_iff : o.isTracing ↔ saved o.blocks ≠ [] := by
  rw [isTracing, List.any_eq_true, Ne, saved_eq_nil_iff]
  push Not
  rfl

namespace IsSound

theorem isKept (h : IsSound before o) : IsKept before o where
  tracing ht := by rw [h.threshold, if_pos ht]
  idle hidle := by
    have hnot : ¬o.isTracing := by simp [isTracing, hidle]
    rw [h.threshold, if_neg hnot]

/-- The blocks that trace decide which threshold is sound. -/
theorem of_saved {blocks : List TraceBlock} {threshold : Nat}
    (hs : IsSaved before (Overlap.saved blocks))
    (hnone : Overlap.saved blocks = [] → threshold = before)
    (hsome : Overlap.saved blocks ≠ [] → threshold = openThreshold) :
    IsSound before ⟨threshold, blocks⟩ := by
  refine ⟨?_, hs⟩
  split
  · next h => exact hsome (isTracing_iff.mp h)
  · next h => exact hnone (not_not.mp fun hne ↦ h (isTracing_iff.mpr hne))

theorem threshold_of_nil (h : IsSound before o) (hnil : Overlap.saved o.blocks = []) :
    o.threshold = before := by
  rw [h.threshold, if_neg fun ht ↦ isTracing_iff.mp ht hnil]

theorem threshold_of_ne_nil (h : IsSound before o) (hne : Overlap.saved o.blocks ≠ []) :
    o.threshold = openThreshold := by
  rw [h.threshold, if_pos (isTracing_iff.mpr hne)]

theorem enter (h : IsSound before o) (enabled : Bool) :
    IsSound before (o.turn (.enter enabled)) := by
  rw [turn]
  cases enabled with
  | false =>
    have hsaved : Overlap.saved (o.blocks ++ [⟨false, o.threshold⟩]) = Overlap.saved o.blocks := by
      rw [saved_append, saved_cons_of_not_enabled Bool.false_ne_true]
      exact List.append_nil _
    exact of_saved (hsaved ▸ h.saved) (fun hnil ↦ h.threshold_of_nil (hsaved ▸ hnil))
      fun hne ↦ h.threshold_of_ne_nil (hsaved ▸ hne)
  | true =>
    have hsaved : Overlap.saved (o.blocks ++ [⟨true, o.threshold⟩])
        = Overlap.saved o.blocks ++ [o.threshold] := by
      rw [saved_append, saved_cons_of_enabled rfl]
      rfl
    refine of_saved ?_ (fun hnil ↦ ?_) fun _ ↦ rfl
    · rw [hsaved]
      by_cases hnil : Overlap.saved o.blocks = []
      · rw [hnil, h.threshold_of_nil hnil]
        exact ⟨rfl, nofun⟩
      · rw [h.threshold_of_ne_nil hnil]
        exact h.saved.append_openThreshold hnil
    · rw [hsaved] at hnil
      exact absurd hnil (List.append_ne_nil_of_right_ne_nil _ (List.cons_ne_nil _ _))

/-- The first block that traces puts the old threshold back. -/
theorem leave_of_isOutlived (h : IsSound before o) (hout : o.IsOutlived place) :
    (o.turn (.leave place)).threshold = before ∧ (o.turn (.leave place)).isTracing := by
  obtain ⟨earlier, b, later, hblocks, rfl, hb, hfirst, x, hx, hxe⟩ := hout
  rw [turn_leave hblocks]
  have hs := h.saved
  rw [hblocks, saved_append, saved_eq_nil_iff.mpr hfirst, saved_cons_of_enabled hb] at hs
  refine ⟨?_, List.any_eq_true.mpr ⟨x, List.mem_append_right _ hx, hxe⟩⟩
  rw [TraceBlock.leave, if_pos hb]
  exact hs.1

theorem leave (h : IsSound before o) (hout : before = openThreshold ∨ ¬o.IsOutlived place) :
    IsSound before (o.turn (.leave place)) := by
  rcases turn_leave_cases o place with hsame | ⟨earlier, b, later, hblocks, rfl⟩
  · rwa [hsame]
  have hs := h.saved
  rw [turn_leave hblocks, TraceBlock.leave]
  rw [hblocks, saved_append] at hs
  by_cases hb : b.enabled
  case neg =>
    -- a block that does not trace has saved nothing that counts, and puts nothing back
    have hsaved : Overlap.saved o.blocks = Overlap.saved (earlier ++ later) := by
      rw [hblocks, saved_append, saved_append, saved_cons_of_not_enabled hb]
    rw [if_neg hb]
    exact of_saved (hsaved ▸ h.saved) (fun hnil ↦ h.threshold_of_nil (hsaved.trans hnil))
      fun hne ↦ h.threshold_of_ne_nil (hsaved ▸ hne)
  case pos =>
    rw [saved_cons_of_enabled hb] at hs
    rw [if_pos hb]
    by_cases hfirst : Overlap.saved earlier = []
    · -- the first one puts back the threshold from before
      rw [hfirst] at hs
      have hsaved : Overlap.saved (earlier ++ later) = Overlap.saved later := by
        rw [saved_append, hfirst, List.nil_append]
      have hlater : before = openThreshold ∨ Overlap.saved later = [] := by
        refine hout.imp_right fun hout ↦ saved_eq_nil_iff.mpr fun x hx hxe ↦ hout ?_
        exact ⟨earlier, b, later, hblocks, rfl, hb, saved_eq_nil_iff.mp hfirst, x, hx, hxe⟩
      refine of_saved (hsaved ▸ hs.of_cons hlater) (fun _ ↦ hs.1) fun hne ↦ hs.1.trans ?_
      exact hlater.resolve_right (hsaved ▸ hne)
    · -- another one was there before it: it found the threshold open and leaves it open
      obtain ⟨hopen, hrest⟩ := hs.of_append_cons hfirst
      rw [← saved_append] at hrest
      refine of_saved hrest (fun hnil ↦ absurd ?_ hfirst) fun _ ↦ hopen
      rw [saved_append] at hnil
      exact (List.append_eq_nil_iff.mp hnil).1

end IsSound

/-! ## Whole courses of turns -/

/-- Whether the first block that traces is never left while there are others. -/
def NoneOutlived (before : Nat) (turns : List TraceTurn) : Prop :=
  ∀ earlier place, earlier ++ [.leave place] <+: turns → ¬(after before earlier).IsOutlived place

theorem isSound_after {turns : List TraceTurn}
    (h : before = openThreshold ∨ NoneOutlived before turns) :
    IsSound before (after before turns) := by
  induction turns using List.reverseRecOn with
  | nil => exact .of_saved trivial (fun _ ↦ rfl) fun hne ↦ absurd rfl hne
  | append_singleton turns t ih =>
    have hturns : IsSound before (after before turns) :=
      ih (h.imp_right fun hnone earlier place hpre ↦
        hnone earlier place (hpre.trans (List.prefix_append ..)))
    rw [after_append_singleton]
    cases t with
    | enter enabled => exact hturns.enter enabled
    | leave place =>
      exact hturns.leave (h.imp_right fun hnone ↦ hnone turns place (List.prefix_refl _))

theorem noneOutlived_of_keeps {turns : List TraceTurn} (hne : before ≠ openThreshold)
    (h : Keeps before turns) : NoneOutlived before turns := by
  induction turns using List.reverseRecOn with
  | nil => exact fun earlier place hpre ↦ absurd (List.prefix_nil.mp hpre) (by simp)
  | append_singleton turns t ih =>
    have hnone : NoneOutlived before turns :=
      ih fun earlier hpre ↦ h earlier (hpre.trans (List.prefix_append ..))
    intro earlier place hpre
    rcases List.prefix_concat_iff.mp hpre with heq | hpre'
    · -- the last turn: an outlived block would put the old threshold back too early
      obtain ⟨rfl, ht⟩ := List.append_inj' heq rfl
      intro hout
      obtain ⟨hthreshold, htracing⟩ := (isSound_after (.inr hnone)).leave_of_isOutlived hout
      have hkept := h _ hpre
      rw [after_append_singleton] at hkept
      exact hne (hthreshold.symm.trans (hkept.tracing htracing))
    · exact hnone earlier place hpre'

theorem keeps_of_noneOutlived {turns : List TraceTurn}
    (h : before = openThreshold ∨ NoneOutlived before turns) : Keeps before turns := by
  intro earlier hpre
  refine (isSound_after (h.imp_right fun hnone first place hpre' ↦ ?_)).isKept
  exact hnone first place (hpre'.trans hpre)

/-- Overlapping sessions keep the threshold as it ought to be exactly if it was open anyway, or if
of the sessions that trace at one time the one opened first is never ended before the others. -/
theorem keeps_iff (before : Nat) (turns : List TraceTurn) :
    Keeps before turns ↔ before = openThreshold ∨ NoneOutlived before turns := by
  refine ⟨fun h ↦ ?_, keeps_of_noneOutlived⟩
  by_cases hopen : before = openThreshold
  · exact .inl hopen
  · exact .inr (noneOutlived_of_keeps hopen h)

/-- Two sessions that both trace, of which the one opened first ends first: the threshold is put
back while the second one still traces, and in the end it stays open. -/
theorem not_keeps_two_sessions :
    let turns := [TraceTurn.enter true, .enter true, .leave 0]
    (after 0 turns).isTracing ∧ (after 0 turns).threshold = 0 ∧
      after 0 (turns ++ [.leave 0]) = ⟨openThreshold, []⟩ ∧ ¬Keeps 0 (turns ++ [.leave 0]) := by
  refine ⟨rfl, rfl, rfl, fun h ↦ ?_⟩
  exact absurd ((h _ (List.prefix_refl _)).idle rfl) (by decide)

/-- Sessions of which always the one opened last ends first keep the threshold. -/
theorem keeps_of_nested {turns : List TraceTurn} (h : ∀ earlier place,
    earlier ++ [.leave place] <+: turns → (after before earlier).blocks.length ≤ place + 1) :
    Keeps before turns := by
  refine keeps_of_noneOutlived (.inr fun earlier place hpre ↦ ?_)
  rintro ⟨blocks, b, later, hblocks, rfl, -, -, x, hx, -⟩
  have hlength := h earlier _ hpre
  rw [hblocks, List.length_append, List.length_cons] at hlength
  have := List.length_pos_of_mem hx
  omega

end Overlap

end MailDispatch
