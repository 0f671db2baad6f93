import MailDispatch.Body
import MailDispatch.Composition
import MailDispatch.Session.Basic
import MailDispatch.Task.Contents

/-!
# Delivering a mail

One task from its parameters to a sent message: render the body, collect the mail, compose the
message, open a session, hand the message over. Every anticipated failure on the way is reported as
one `TaskFailure`, whose kind says which of these steps failed; other failures pass through as they
are. Nothing is tried twice.
-/

namespace MailDispatch

/-- What is reported about a message that was sent. -/
structure Receipt where
  messageId : String
  recipients : List String
  /-- The endpoint, in words. -/
  endpoint : String
  state : SendState
  deriving DecidableEq, Repr

/-- One task: its parameters, its secrets and the workspace that it may read. -/
structure Task where
  raw : Table
  secrets : SecretStore
  workspace : Workspace

namespace Task

/-- The parameters of a task, read under the declaration of the mail task. -/
def parameters (t : Task) : TaskParameters := ⟨t.raw, t.secrets, .mail⟩

end Task

namespace Delivery

/-- A mail and the message composed from it. -/
structure Prepared where
  mail : Mail
  message : Message

/-- Renders the body, collects the mail and composes the message. -/
def prepare (t : Task) (config : OperatorConfig) (stamp : Stamp) : Work Message Prepared := do
  let body ← Work.prepare (Body.render t.parameters (t.workspace.readText · .utf8) .standard)
  let mail ← Work.prepare (t.parameters.mail config body)
  Work.advance .configResolved
  let message ← Work.prepare (mail.compose t.workspace stamp)
  Work.advance .composed
  return ⟨mail, message⟩

/-- Hands a message over in a session of its own. -/
def transmit (settings : SessionSettings) (server : Server) (message : Message) :
    Work Message Unit :=
  Session.within settings server do
    Work.advance .sessionOpened
    Work.log .sender .info ("Sending email to " ++ message.headerText "To")
    Session.send settings message

/-! ## Reports of failures -/

/-- The kind of a failure of the preparation, if it is an anticipated one. -/
def preparationKind? : Failure → Option FailureKind
  | .configuration _ => some .configuration
  | .attachment .. => some .attachment
  | .template .. => some .template
  | _ => none

/-- The kind of a failure of the transmission, if it is an anticipated one. -/
def transmissionKind? : Failure → Option FailureKind
  | .fault f => if f.isTransport then some .transport else none
  | _ => none

/-- Reports a failure of a given kind, in the given words. -/
def report {α : Type} (kind : FailureKind) (text : String) (cause : Failure) :
    Work Message α := do
  let s ← Activity.get
  Work.log .sender .error
    ("Mail task failed in state " ++ s.state.text ++ " (" ++ kind.text ++ "): " ++ text)
  Work.advance .failed
  Activity.fail (.task ⟨kind, text, some cause.toCause⟩)

/-- A step whose failures of certain kinds are reported; `words` says how. -/
def reporting {α : Type} (kind? : Failure → Option FailureKind) (words : Failure → String)
    (step : Work Message α) : Work Message α :=
  step.rescue fun e ↦ match kind? e with
    | some kind => report kind (words e) e
    | none => Activity.fail e

/-! ## The whole delivery -/

/-- Delivers the mail of a task. -/
def run (t : Task) (config : OperatorConfig) (server : Server) (stamp : Stamp) :
    Work Message Receipt := do
  let prepared ← reporting preparationKind? Failure.message (prepare t config stamp)
  let endpoint ← Activity.ofResult prepared.mail.endpoint.text
  let settings := SessionSettings.ofEndpoint prepared.mail.endpoint
  reporting transmissionKind?
    (fun e ↦ "Failed to send mail via " ++ endpoint ++ ": " ++ e.message)
    (transmit settings server prepared.message)
  Work.advance .sent
  let id := prepared.message.headerText "Message-ID"
  let recipients := prepared.mail.recipients
  Work.log .sender .info ("Mail sent: " ++ id ++ " to " ++ String.intercalate ", " recipients)
  return { messageId := id, recipients, endpoint, state := .sent }

/-- A delivery from its beginning: nothing is connected, and the server has all its answers. -/
def start (t : Task) (config : OperatorConfig) (server : Server) (stamp : Stamp)
    (thresholds : Thresholds) : Outcome Situation (Event Message) Failure Receipt :=
  run t config server stamp { thresholds, answers := server.onSend }

end Delivery

end MailDispatch
