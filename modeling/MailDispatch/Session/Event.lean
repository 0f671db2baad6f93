import MailDispatch.Delivery.State
import MailDispatch.Session.Settings
import MailDispatch.Task.Parameters

/-!
# Events of a delivery

What can be observed of a delivery, in order: log records, keys asked of the secret store, calls of
the mail client, and the states that the delivery passes. Messages have any type here.
-/

namespace MailDispatch

/-- A call of the mail client. -/
inductive Call (μ : Type) where
  | construct (options : ClientOptions)
  | connect (timeout : Nat)
  | login (credentials : Credentials)
  | send (message : μ)
  | quit
  | close
  deriving DecidableEq, Repr

/-- Something that can be observed of a delivery. -/
inductive Event (μ : Type) where
  | note (n : Note)
  | call (c : Call μ)
  | state (s : SendState)
  deriving DecidableEq, Repr

namespace Event

variable {μ : Type}

/-- The log record, if the event is one. -/
def record? : Event μ → Option Record
  | .note (.record r) => some r
  | _ => none

/-- The key asked of the secret store, if the event is such a question. -/
def lookup? : Event μ → Option String
  | .note (.lookup key) => some key
  | _ => none

/-- The call of the mail client, if the event is one. -/
def call? : Event μ → Option (Call μ)
  | .call c => some c
  | _ => none

/-- The state of the delivery, if the event says which it enters. -/
def state? : Event μ → Option SendState
  | .state s => some s
  | _ => none

end Event

end MailDispatch
