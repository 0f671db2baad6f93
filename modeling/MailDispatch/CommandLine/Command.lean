import MailDispatch.CommandLine.Reading
import MailDispatch.CommandLine.Report
import MailDispatch.Delivery.Basic

/-!
# Carrying out a command

A command line is carried out on the surroundings that it finds: it prints help, the version or the
paths of the configuration, writes an empty configuration, or delivers the mail of one task. The
outcome is what appears on the two streams, the exit status, and the surroundings afterwards; only a
failure that nothing anticipates takes the place of a status.
-/

namespace MailDispatch.CommandLine

/-- What a command finds: the system it runs on, the writer of configurations, the secrets, the mail
server, what marks messages, and the time shown in front of log records. -/
structure Context where
  surroundings : Surroundings
  write : Toml.Writer
  secrets : SecretStore
  server : Server
  stamp : Stamp
  time : String

/-- What a command prints, and the status that it ends with. -/
structure Printed where
  status : Nat
  stdout : String := ""
  stderr : String := ""
  deriving DecidableEq, Repr

/-- What a command leaves behind. -/
structure CommandOutcome where
  exit : Except Failure Nat
  stdout : String := ""
  stderr : String := ""
  events : List (Event Message) := []
  surroundings : Surroundings

/-- The outcome of a command that only prints. -/
def printing (c : Context) (p : Printed) : CommandOutcome :=
  { exit := .ok p.status, stdout := p.stdout, stderr := p.stderr, surroundings := c.surroundings }

/-! ## Commands without a task -/

/-- Shows where the configuration lies. -/
def showPaths (s : Surroundings) : String :=
  "Config:       " ++ s.configDirectory.text ++ "\n" ++
    "Config file:  " ++ s.configFile.text ++ "\n"

/-- Writes an empty configuration, unless there is one. -/
def initConfig (s : Surroundings) (write : Toml.Writer) (given : Option FilePath) :
    Surroundings × Except Failure Printed :=
  let p := s.configFileOr given
  match s.pathExists p with
  | .error e => (s, .error e)
  | .ok true =>
    (s, .ok { status := 1, stderr := "Config file already exists: " ++ p.text ++ "\n" })
  | .ok false =>
    let (s, written) := s.saveConfig write {} p
    (s, written.map fun _ ↦ { status := 0, stdout := "Wrote " ++ p.text ++ "\n" })

/-! ## Delivering a task -/

/-- Loads the configuration and the parameters of the task. -/
def load (s : Surroundings) (i : Invocation) (params : FilePath) :
    Preparation (OperatorConfig × Table) := do
  let config ← s.loadConfig i.config
  let raw ← s.loadTask params
  return (config, raw)

/-- What is printed about a message that was sent. -/
def receiptLine (r : Receipt) : String :=
  "Sent " ++ r.messageId ++ " to " ++ String.intercalate ", " r.recipients ++ " via " ++
    r.endpoint ++ "\n"

/-- Delivers the mail of the task with the given parameters. -/
def deliver (c : Context) (i : Invocation) (params : FilePath) : Work Message Printed := do
  let s := c.surroundings
  let (config, raw) ← Work.prepare (load s i params)
  let workspace ←
    Activity.ofResult (Workspace.ofPath s.tree s.current (i.workspaceFor params))
  let receipt ← Delivery.run ⟨raw, c.secrets, workspace⟩ config c.server c.stamp
  return { status := 0, stdout := receiptLine receipt }

/-- What is printed about an anticipated failure; others stay what they are. -/
def printFailure : Failure → Work Message Printed
  | .configFile text => pure { status := 1, stderr := "Config error: " ++ text ++ "\n" }
  | .task f => pure { status := 1, stderr := failureReport f ++ "\n" }
  | e => Activity.fail e

/-- The situation in which a delivery starts. -/
def startSituation (c : Context) (i : Invocation) : Situation where
  thresholds := ⟨if i.debug then Level.debug.rank else Level.info.rank, 0⟩
  answers := c.server.onSend

/-- The lines of the log records among events. -/
def logLines (time : String) (events : List (Event Message)) : String :=
  String.join ((events.filterMap Event.record?).map (recordLine time))

/-- The outcome of delivering the mail of the task with the given parameters. -/
def deliverOutcome (c : Context) (i : Invocation) (params : FilePath) : CommandOutcome :=
  let o := (deliver c i params).rescue printFailure (startSituation c i)
  let log := logLines c.time o.events
  match o.result with
  | .ok p =>
    { exit := .ok p.status, stdout := p.stdout, stderr := log ++ p.stderr, events := o.events,
      surroundings := c.surroundings }
  | .error e =>
    { exit := .error e, stderr := log, events := o.events, surroundings := c.surroundings }

/-! ## All commands -/

/-- Carries out what was asked for. -/
def perform (c : Context) (i : Invocation) : CommandOutcome :=
  if i.paths then printing c { status := 0, stdout := showPaths c.surroundings }
  else if i.initConfig then
    match initConfig c.surroundings c.write i.config with
    | (s, .ok p) => printing { c with surroundings := s } p
    | (s, .error e) => { exit := .error e, surroundings := s }
  else match i.params with
    | none => printing c { status := 2, stderr := usage }
    | some params => deliverOutcome c i params

/-- Carries out a command line. -/
def run (c : Context) (args : List String) : CommandOutcome :=
  match parse args with
  | .error .help => printing c { status := 0, stdout := help }
  | .error .version => printing c { status := 0, stdout := version }
  | .error (.invalid problem) => printing c { status := 2, stderr := complaint problem }
  | .ok i => perform c i

end MailDispatch.CommandLine
