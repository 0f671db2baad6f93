import MailDispatch.Operator.Basic
import MailDispatch.Setting
import MailDispatch.Task.Choice
import MailDispatch.Task.Parameters

/-!
# The endpoint of a task

A task that sets a host brings an endpoint of its own, every field of which comes from the task's
parameters and secrets, or is a default of this library. A task that sets none goes through the
operator's endpoint. The two are never combined: a task with a host never sees the operator's
credentials, and one without a host cannot change them.
-/

namespace MailDispatch

/-- The text of an endpoint, or the failure to write it. -/
def Endpoint.text (e : Endpoint) : Except Failure String := orFail .longInteger e.text?

namespace TaskParameters

/-- A flag among the parameters, with the value that it has when it is not set. -/
def flag (p : TaskParameters) (key : String) (default : Bool) : Preparation Bool := do
  match ← p.get key with
  | none => return default
  | some v => Setting.asFlag key v

/-- A setting that is a text if it is set at all. -/
def textOrNone (key : String) : Option Value → Except Failure (Option String)
  | none => .ok none
  | some v => (Setting.asText key v).map some

/-- The warning about a password among the plain parameters. -/
def plainPasswordWarning : String :=
  "Unsecure 'password' parameter is deprecated. " ++
    "Store the SMTP password as the 'mail.password' secret instead."

/-- The password among the plain parameters. It is read in spite of the access list, but never
without a warning. -/
def plainPassword (p : TaskParameters) : Preparation (Option Value) := do
  match p.plain? "password" with
  | none => return none
  | some v =>
    Preparation.log .resolution .warning plainPasswordWarning
    return some v

/-- The endpoint that a task with a given host brings along. -/
def endpointAt (p : TaskParameters) (host : String) : Preparation Endpoint := do
  match ← p.get "port" with
  | none =>
    Preparation.refuse
      (.missingField "port" (some "Parameter 'port' is required when 'host' is set"))
  | some port =>
    let username ← p.get "username"
    let secret ← p.get "password"
    let plain ← p.plainPassword
    let port ← Setting.asInteger "port" port
    let startTls ← p.flag "tls" true
    let ssl ← p.flag "ssl" false
    let debug ← p.flag "debug" false
    let username ← textOrNone "username" username
    let password ← textOrNone "password" (secret.or plain)
    return { host, port, startTls, ssl, debug, username, password, origin := .user }

/-- The endpoint that a task brings along, if it sets a host. -/
def endpoint? (p : TaskParameters) : Preparation (Option Endpoint) := do
  match ← p.get "host" with
  | none => return none
  | some host =>
    let host ← Setting.asText "host" host
    return some (← p.endpointAt host)

/-- The settings that mean nothing without a host. -/
def hostDependent : List String := ["port", "tls", "ssl", "username", "password"]

/-- Warns about settings that are ignored because no host is set. -/
def warnIgnored (p : TaskParameters) : Preparation Unit :=
  let ignored := hostDependent.filter fun key ↦ (p.plain? key).isSome
  if ignored.isEmpty then return ()
  else
    let keys := Value.bracketed "[" "]" (ignored.map Text.quoted)
    Preparation.log .resolution .warning
      ("Ignoring SMTP parameters " ++ keys ++ " because 'host' is not set")

end TaskParameters

/-- One of two endpoints as a whole: the task's own if there is one, or else the operator's. -/
def Endpoint.select (own operator : Option Endpoint) : Except Failure Endpoint :=
  orFail (.configuration (.missingEndpoint ConfigurationError.missingEndpointText))
    (own.or operator)

namespace TaskParameters

/-- The endpoint through which the mail of a task goes. -/
def endpoint (p : TaskParameters) (config : OperatorConfig) : Preparation Endpoint := do
  let own ← p.endpoint?
  if own.isNone then p.warnIgnored
  let e ← Endpoint.select own config.endpoint
  let shown ← e.text
  Preparation.log .resolution .info
    ("Using SMTP endpoint " ++ shown ++ if e.isAuthenticated then " with authentication" else "")
  return e

end TaskParameters

end MailDispatch
