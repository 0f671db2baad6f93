import Mathlib
import MailDispatch.Proofs.Session.Contract

/-!
# The milestones of a piece of work

What a piece of work writes into the log, and which thresholds are in force meanwhile, decide
nothing. The milestones among its events are the others: the calls of the client and the states that
the delivery passes. `Outcome.outline` is an outcome with its milestones alone, and the equations
below say what each step leaves of itself there, so that a longer piece of work can be followed step
by step with nothing but its milestones to keep account of.
-/

namespace MailDispatch

variable {μ α β : Type}

/-- Whether an event is a call or a state, and not only a note. -/
def Event.isMilestone : Event μ → Bool
  | .note _ => false
  | _ => true

/-- The calls and states among events. -/
def milestones (events : List (Event μ)) : List (Event μ) := events.filter Event.isMilestone

theorem milestones_append (events events' : List (Event μ)) :
    milestones (events ++ events') = milestones events ++ milestones events' :=
  List.filter_append _ _

/-- The states that a delivery passes, in order. -/
def passed (events : List (Event μ)) : List SendState := events.filterMap Event.state?

/-- The calls of the client, in order. -/
def called (events : List (Event μ)) : List (Call μ) := events.filterMap Event.call?

@[simp] theorem passed_nil : passed ([] : List (Event μ)) = [] := rfl

@[simp] theorem called_nil : called ([] : List (Event μ)) = [] := rfl

@[simp] theorem passed_cons_state (s : SendState) (events : List (Event μ)) :
    passed (.state s :: events) = s :: passed events := rfl

@[simp] theorem passed_cons_call (k : Call μ) (events : List (Event μ)) :
    passed (.call k :: events) = passed events := rfl

@[simp] theorem called_cons_state (s : SendState) (events : List (Event μ)) :
    called (.state s :: events) = called events := rfl

@[simp] theorem called_cons_call (k : Call μ) (events : List (Event μ)) :
    called (.call k :: events) = k :: called events := rfl

@[simp] theorem passed_append (events events' : List (Event μ)) :
    passed (events ++ events') = passed events ++ passed events' :=
  List.filterMap_append

@[simp] theorem called_append (events events' : List (Event μ)) :
    called (events ++ events') = called events ++ called events' :=
  List.filterMap_append

theorem passed_milestones (events : List (Event μ)) :
    passed (milestones events) = passed events := by
  rw [passed, milestones, List.filterMap_filter]
  congr 1
  funext e
  cases e <;> rfl

theorem called_milestones (events : List (Event μ)) :
    called (milestones events) = called events := by
  rw [called, milestones, List.filterMap_filter]
  congr 1
  funext e
  cases e <;> rfl

namespace Outcome

/-- An outcome without its notes. -/
def outline (o : Outcome Situation (Event μ) Failure α) : Outcome Situation (Event μ) Failure α :=
  { o with events := milestones o.events }

/-- An outcome with other events in front. -/
def behind (o : Outcome Situation (Event μ) Failure α) (events : List (Event μ)) :
    Outcome Situation (Event μ) Failure α :=
  { o with events := events ++ o.events }

theorem eq_of_outline {o : Outcome Situation (Event μ) Failure α} {r : Except Failure α}
    {s : Situation} {events : List (Event μ)} (h : o.outline = ⟨r, s, events⟩) :
    o.result = r ∧ o.state = s ∧ milestones o.events = events :=
  ⟨congrArg Outcome.result h, congrArg Outcome.state h, congrArg Outcome.events h⟩

theorem behind_behind (o : Outcome Situation (Event μ) Failure α)
    (events events' : List (Event μ)) :
    (o.behind events').behind events = o.behind (events ++ events') := by
  simp only [behind, List.append_assoc]

end Outcome

namespace Activity

open Outcome

/-! ## Chains -/

theorem outline_bind_of_ok {x : Work μ α} {s s' : Situation} {a : α} {events : List (Event μ)}
    (h : (x s).outline = ⟨.ok a, s', events⟩) (f : α → Work μ β) :
    ((x >>= f) s).outline = (f a s').outline.behind events := by
  obtain ⟨hr, hs, he⟩ := eq_of_outline h
  rw [bind_apply, chain_of_ok (show x s = ⟨.ok a, s', (x s).events⟩ by rw [← hr, ← hs])]
  simp only [outline, behind, milestones_append, he]

theorem outline_bind_of_error {x : Work μ α} {s s' : Situation} {e : Failure}
    {events : List (Event μ)} (h : (x s).outline = ⟨.error e, s', events⟩) (f : α → Work μ β) :
    ((x >>= f) s).outline = ⟨.error e, s', events⟩ := by
  obtain ⟨hr, hs, he⟩ := eq_of_outline h
  rw [bind_apply, chain_of_error (show x s = ⟨.error e, s', (x s).events⟩ by rw [← hr, ← hs])]
  simp only [outline, he]

/-! ## Failures that are handled -/

theorem outline_rescue_of_ok {x : Work μ α} {s s' : Situation} {a : α} {events : List (Event μ)}
    (h : (x s).outline = ⟨.ok a, s', events⟩) (handler : Failure → Work μ α) :
    (x.rescue handler s).outline = ⟨.ok a, s', events⟩ := by
  obtain ⟨hr, hs, he⟩ := eq_of_outline h
  rw [rescue, show x s = ⟨.ok a, s', (x s).events⟩ by rw [← hr, ← hs]]
  simp only [outline, he]

theorem outline_rescue_of_error {x : Work μ α} {s s' : Situation} {e : Failure}
    {events : List (Event μ)} (h : (x s).outline = ⟨.error e, s', events⟩)
    (handler : Failure → Work μ α) :
    (x.rescue handler s).outline = (handler e s').outline.behind events := by
  obtain ⟨hr, hs, he⟩ := eq_of_outline h
  rw [rescue, show x s = ⟨.error e, s', (x s).events⟩ by rw [← hr, ← hs]]
  simp only [outline, behind, milestones_append, he]

/-- What is done in any case leaves its milestones last, and its failure counts before the result. -/
theorem outline_ensuring {x : Work μ α} {last : Work μ Unit} {s s' : Situation}
    {r : Except Failure Unit} {events : List (Event μ)}
    (h : (last (x s).state).outline = ⟨r, s', events⟩) :
    (x.ensuring last s).outline
      = ⟨r.bind fun _ ↦ (x s).result, s', milestones (x s).events ++ events⟩ := by
  obtain ⟨hr, hs, he⟩ := eq_of_outline h
  rw [ensuring]
  cases r with
  | ok a => simp only [hr, hs, outline, milestones_append, he, Except.bind]
  | error e => simp only [hr, hs, outline, milestones_append, he, Except.bind]

end Activity

/-! ## Steps -/

theorem Activity.outline_ofResult (r : Except Failure α) (s : Situation) :
    ((Activity.ofResult r : Work μ α) s).outline = ⟨r, s, []⟩ := rfl

namespace Work

@[simp] theorem outline_prepare (x : Preparation α) (s : Situation) :
    ((prepare x : Work μ α) s).outline = ⟨x.result, s, []⟩ := by
  have h : ∀ e ∈ x.events.filterMap (s.event? (μ := μ)), ¬e.isMilestone = true := by
    intro e he
    obtain ⟨n, -, hn⟩ := List.mem_filterMap.mp he
    rw [Situation.eq_note_of_event? hn]
    exact Bool.false_ne_true
  simp only [prepare, Activity.ofTraced, Outcome.outline, milestones,
    List.filter_eq_nil_iff.mpr h]

@[simp] theorem outline_log (source : Source) (level : Level) (text : String) (s : Situation) :
    ((log source level text : Work μ Unit) s).outline = ⟨.ok (), s, []⟩ :=
  outline_prepare _ s

theorem outline_advance (next : SendState) (s : Situation) :
    ((advance next : Work μ Unit) s).outline
      = ⟨.ok (), { s with state := next }, [.state next]⟩ := by
  unfold advance
  rw [Activity.outline_bind_of_ok (show (Activity.get s).outline = ⟨.ok s, s, []⟩ from rfl),
    Activity.outline_bind_of_ok (outline_log ..)]
  rfl

theorem outline_trace (enabled : Bool) (texts : List String) (s : Situation) :
    ((trace enabled texts : Work μ Unit) s).outline = ⟨.ok (), s, []⟩ := by
  cases enabled with
  | false => rfl
  | true =>
    rw [trace, if_pos rfl]
    induction texts with
    | nil => rfl
    | cons text rest ih =>
      exact (Activity.outline_bind_of_ok (outline_log ..) _).trans (congrArg (·.behind []) ih)

/-- The thresholds inside a trace block. -/
def tracing (enabled : Bool) (s : Situation) : Situation :=
  { s with thresholds :=
    { s.thresholds with protocol := TraceBlock.enter enabled s.thresholds.protocol } }

/-- A trace block does what is done inside it. -/
theorem result_traced (enabled : Bool) (x : Work μ α) (s : Situation) :
    (traced enabled x s).result = (x (tracing enabled s)).result := rfl

theorem connected_traced (enabled : Bool) (x : Work μ α) (s : Situation) :
    (traced enabled x s).state.connected = (x (tracing enabled s)).state.connected := rfl

theorem events_traced (enabled : Bool) (x : Work μ α) (s : Situation) :
    (traced enabled x s).events = (x (tracing enabled s)).events := by
  show [] ++ ([] ++ ((x (tracing enabled s)).events ++ ([] ++ []))) = _
  rw [List.nil_append, List.nil_append, List.append_nil, List.append_nil]

theorem milestones_traced (enabled : Bool) (x : Work μ α) (s : Situation) :
    milestones (traced enabled x s).events = milestones (x (tracing enabled s)).events :=
  congrArg milestones (events_traced enabled x s)

end Work

namespace Session

@[simp] theorem outline_call (k : Call μ) (s : Situation) :
    (call k s).outline = ⟨.ok (), s, [.call k]⟩ := rfl

@[simp] theorem outline_answered (r : Except Fault α) (s : Situation) :
    ((answered r : Work μ α) s).outline = ⟨r.mapError .fault, s, []⟩ := rfl

end Session

end MailDispatch
