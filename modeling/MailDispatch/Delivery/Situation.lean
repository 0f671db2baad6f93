import MailDispatch.Journal.Activity
import MailDispatch.Session.Event
import MailDispatch.Session.Server

/-!
# The situation of a delivery

What a delivery depends on and changes while it runs: the thresholds of the log, whether the client
is connected, the server's answers that are not used up, and the state reached. Work is a
computation on a situation; what is noted while a mail is prepared becomes an event of it, log
records only if the thresholds of the moment let them through.
-/

namespace MailDispatch

/-- What a delivery depends on and changes while it runs. -/
structure Situation where
  thresholds : Thresholds
  connected : Bool := false
  answers : List SendAnswer := []
  state : SendState := .start

/-- A computation on a situation, with messages of type `μ`. -/
abbrev Work (μ : Type) := Activity Situation (Event μ) Failure

/-- The event for a note, unless it is a log record that is dropped. -/
def Situation.event? {μ : Type} (s : Situation) : Note → Option (Event μ)
  | .record r => if s.thresholds.passes r then some (.note (.record r)) else none
  | .lookup key => some (.note (.lookup key))

namespace Work

variable {μ α : Type}

/-- The preparation of a mail, as work. -/
def prepare (x : Preparation α) : Work μ α := Activity.ofTraced Situation.event? x

/-- Writes a log record. -/
def log (source : Source) (level : Level) (text : String) : Work μ Unit :=
  prepare (Preparation.log source level text)

/-- Reaches a state. -/
def advance (next : SendState) : Work μ Unit := do
  let s ← Activity.get
  log .sender .debug ("Send state " ++ s.state.text ++ " -> " ++ next.text)
  Activity.emit (.state next)
  Activity.modify fun s ↦ { s with state := next }

/-- Changes the threshold of protocol records. -/
def setProtocolThreshold (n : Nat) : Work μ Unit :=
  Activity.modify fun s ↦ { s with thresholds := { s.thresholds with protocol := n } }

/-- Sets whether the client is connected. -/
def setConnected (b : Bool) : Work μ Unit := Activity.modify fun s ↦ { s with connected := b }

end Work

end MailDispatch
