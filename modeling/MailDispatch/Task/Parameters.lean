import MailDispatch.Failure
import MailDispatch.Journal.Record
import MailDispatch.Journal.Traced
import MailDispatch.Secret.Access
import MailDispatch.Secret.Store

/-!
# Task parameters

The parameters of one task and the secrets it may read. A key is looked up in three places: in the
secret store if the access list allows it, then among the task's own parameters, then in the task's
`mail` table, whose entries serve as defaults. A key that is set to nothing among the task's own
parameters hides the entry of the `mail` table. A lookup leaves a note for each key that it asks
the secret store for.
-/

namespace MailDispatch

/-- What is noted while a mail is prepared: log records, and the keys asked of the secret store. -/
inductive Note where
  | record (r : Record)
  | lookup (key : String)
  deriving DecidableEq, Repr

/-- A computation that prepares a mail. -/
abbrev Preparation := Traced Note Failure

namespace Preparation

/-- Writes a log record. -/
def log (source : Source) (level : Level) (text : String) : Preparation Unit :=
  .emit (.record ⟨level, source, text⟩)

/-- A configuration error. -/
def refuse {α : Type} (e : ConfigurationError) : Preparation α := .fail (.configuration e)

end Preparation

/-- The secret for a key, if there is one. -/
def SecretStore.get? (s : SecretStore) (key : String) : Except Failure (Option Value) :=
  match s.answer key with
  | .absent => .ok none
  | .present v => .ok (some v)
  | .unavailable reason => .error (.configuration (.secretStore s.scope key reason))

/-- The parameters of one task, its secrets, and which keys it may read from where. -/
structure TaskParameters where
  raw : Table
  secrets : SecretStore
  access : AccessList := .mail

namespace TaskParameters

/-- The key of the table whose entries serve as defaults. -/
def defaultsKey : String := "mail"

/-- The value of a plain parameter, whatever the access list says. -/
def plain? (p : TaskParameters) (key : String) : Option Value :=
  match p.raw.lookup key with
  | some v => v.toOption
  | none => match p.raw.lookup defaultsKey with
    | some (.table defaults) => (defaults.lookup key).bind Value.toOption
    | _ => none

/-- The value of a plain parameter that the access list allows to be plain. -/
def allowedPlain? (p : TaskParameters) (key : String) : Option Value :=
  if p.access.allowsPlain key then p.plain? key else none

/-- Asks the secret store for a key. -/
def secret (p : TaskParameters) (key : String) : Preparation (Option Value) := do
  Traced.emit (.lookup key)
  p.secrets.get? key

/-- The value of a key: the secret if there is one, or else the plain parameter. -/
def get (p : TaskParameters) (key : String) : Preparation (Option Value) := do
  if p.access.allowsSecret key then
    match ← p.secret key with
    | some v => return some v
    | none => return p.allowedPlain? key
  else return p.allowedPlain? key

/-- What the body template may name: the task's own parameters. -/
def bindings (p : TaskParameters) : Table := p.raw

end TaskParameters

end MailDispatch
