import MailDispatch.Operator.Basic
import MailDispatch.Setting
import MailDispatch.Task.Endpoint
import MailDispatch.Task.Parameters

/-!
# The layout of the operator's configuration

The settings lie in the table `mail` of the table `config`, or each under a dotted key of its own at
the top, which goes before. A setting without a value counts as absent. Writing a configuration uses
the nested layout and leaves out what is not set.
-/

namespace MailDispatch.OperatorConfig

/-! ## Reading -/

/-- The way to the table of the settings. -/
def path : List String := ["config", "mail"]

/-- The dotted key of a setting. -/
def dotted (key : String) : String := String.intercalate "." (path ++ [key])

/-- The value at the end of a way through nested tables. -/
def nested? : List String → Value → Option Value
  | [], v => some v
  | key :: keys, .table t => (t.lookup key).bind (nested? keys)
  | _ :: _, _ => none

/-- The value of a setting. -/
def setting? (data : Table) (key : String) : Option Value :=
  (match data.lookup (dotted key) with
    | some v => some v
    | none => nested? (path ++ [key]) (.table data)).bind Value.toOption

/-- A setting, converted if it is set. -/
def read {α : Type} (data : Table) (key : String)
    (convert : String → Value → Except Failure α) : Except Failure (Option α) :=
  match setting? data key with
  | none => .ok none
  | some v => (convert (dotted key) v).map some

/-- The operator's endpoint with a given host. -/
def endpointAt (data : Table) (host : String) : Except Failure Endpoint := do
  match ← read data "port" Setting.asInteger with
  | none => .error (.configuration .systemPort)
  | some port =>
    let startTls ← read data "tls" Setting.asFlag
    let ssl ← read data "ssl" Setting.asFlag
    let debug ← read data "debug" Setting.asFlag
    let username ← read data "username" Setting.asText
    let password ← read data "password" Setting.asText
    return {
      host, port, startTls := startTls.getD true, ssl := ssl.getD false,
      debug := debug.getD false, username, password, origin := .system }

/-- The operator's endpoint, if a host is set. -/
def endpointOf (data : Table) : Except Failure (Option Endpoint) := do
  match ← read data "host" Setting.asText with
  | none => return none
  | some host => return some (← endpointAt data host)

/-- The configuration that a table holds. -/
def parse (data : Table) : Except Failure OperatorConfig := do
  let subject ← read data "subject" Setting.asText
  let sender ← read data "from" Setting.asText
  let endpoint ← endpointOf data
  return { defaults := { subject, sender }, endpoint }

/-- A failure to read a configuration: a configuration error is one of the file. -/
def asFileError : Failure → Failure
  | .configuration e => .configFile ("Invalid system mail configuration: " ++ e.message)
  | f => f

/-- The configuration that a table holds; an endpoint is logged. -/
def ofTable (data : Table) : Preparation OperatorConfig := do
  let config ← (parse data).mapError asFileError
  match config.endpoint with
  | none => return config
  | some e =>
    let shown ← e.text
    Preparation.log .config .info ("System SMTP endpoint configured: " ++ shown)
    return config

/-! ## Writing -/

/-- An entry for a text that is set. -/
def entryOf (key : String) : Option String → Table
  | some s => [(key, .text s)]
  | none => []

/-- The settings of an endpoint. -/
def endpointEntries (e : Endpoint) : Table :=
  [("host", .text e.host), ("port", .int e.port), ("tls", .bool e.startTls),
    ("ssl", .bool e.ssl), ("debug", .bool e.debug)] ++
    entryOf "username" e.username ++ entryOf "password" e.password

/-- The settings of a configuration that are set. -/
def entries (c : OperatorConfig) : Table :=
  entryOf "from" c.defaults.sender ++ entryOf "subject" c.defaults.subject ++
    (c.endpoint.map endpointEntries).getD []

/-- A configuration in the nested layout. -/
def toTable (c : OperatorConfig) : Table :=
  [("config", .table [("mail", .table c.entries)])]

/-! ## Literal -/

/-- The literal of the defaults. -/
def defaultsLiteral (d : MailDefaults) : String :=
  call "MailDefaults" ["subject=" ++ Endpoint.optionLiteral d.subject,
    "from_address=" ++ Endpoint.optionLiteral d.sender]

/-- The literal of a configuration; it shows no password. -/
def literal? (c : OperatorConfig) : Option String :=
  (match c.endpoint with
    | none => some "None"
    | some e => e.literal?).map fun endpoint ↦
      call "SystemConfig" ["mail_defaults=" ++ defaultsLiteral c.defaults, "smtp=" ++ endpoint]

/-- Whether the literal of a configuration shows the password of its endpoint. An empty password
cannot be seen. -/
def showsPassword (c : OperatorConfig) : Bool :=
  let password := ((c.endpoint.bind (·.password)).getD "").toList
  let shown := (c.literal?.getD "").toList
  !password.isEmpty && Text.occurs password shown

end MailDispatch.OperatorConfig
