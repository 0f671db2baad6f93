import MailDispatch.Session.Basic

/-!
# What is done in a session

Whoever opens a session hands messages over, one after the other, and what is done next may depend
on what became of those before; in the end there is a value or a failure. A `Talk` is nothing but
that. `Talk.work` does it in a session, and `Talk.exchange` says what comes of it if the server
answers in a given way.
-/

namespace MailDispatch

variable {σ ω ε μ α : Type}

/-- `x`, and what came of it as a value: this does not fail. -/
def Activity.attempt (x : Activity σ ω ε α) : Activity σ ω ε (Except ε α) :=
  (do return .ok (← x) : Activity σ ω ε (Except ε α)).rescue fun e ↦ pure (.error e)

/-- What is done in an open session. -/
inductive Talk (μ α : Type) where
  | finish (result : Except Failure α)
  /-- A message is handed over, and what is done next depends on whether that fails. -/
  | send (message : μ) (next : Except Failure Unit → Talk μ α)

/-- What comes of a talk: the messages that were handed over, how it ended, and whether the
connection dropped over one of the messages. -/
structure Exchange (μ α : Type) where
  sent : List μ
  result : Except Failure α
  drops : Bool

namespace Talk

/-- A talk as the work of a session. -/
def work (settings : SessionSettings) : Talk μ α → Work μ α
  | .finish result => Activity.ofResult result
  | .send message next => do
    let outcome ← Activity.attempt (Session.send settings message)
    (next outcome).work settings

/-- What comes of a talk with a server that gives these answers, and accepts what comes after. -/
def exchange : Talk μ α → List SendAnswer → Exchange μ α
  | .finish result, _ => ⟨[], result, false⟩
  | .send message next, answers =>
    let answer := answers.headD {}
    let outcome := (answer.result.mapError Failure.fault).map fun _ ↦ ()
    let rest := (next outcome).exchange answers.tail
    ⟨message :: rest.sent, rest.result, answer.drops || rest.drops⟩

end Talk

end MailDispatch
