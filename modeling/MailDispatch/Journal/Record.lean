/-!
# Log records

A log record has a level, a source and a text. Which records are kept depends on two thresholds: one
for the whole program and one for the source of protocol records, which counts only when it is not
zero. Sessions change the second threshold while they run.
-/

namespace MailDispatch

/-- How serious a record is. -/
inductive Level where
  | debug
  | info
  | warning
  | error
  deriving DecidableEq, Repr

namespace Level

/-- The rank of a level: records of lower rank than the threshold are dropped. -/
def rank : Level → Nat
  | .debug => 10
  | .info => 20
  | .warning => 30
  | .error => 40

/-- The word for a level. -/
def text : Level → String
  | .debug => "DEBUG"
  | .info => "INFO"
  | .warning => "WARNING"
  | .error => "ERROR"

end Level

/-- The parts of the program that write records. -/
inductive Source where
  | config
  | body
  | resolution
  | composition
  | session
  | protocol
  | sender
  deriving DecidableEq, Repr

/-- The name of a source in the log. -/
def Source.text : Source → String
  | .config => "mailtask.config"
  | .body => "mailtask.rendering.engine"
  | .resolution => "mailtask.resolve.resolver"
  | .composition => "mailtask.smtp.composer"
  | .session => "mailtask.smtp.session"
  | .protocol => "mailtask.smtp.protocol"
  | .sender => "mailtask.smtp.sender"

/-- A log record. -/
structure Record where
  level : Level
  source : Source
  text : String
  deriving DecidableEq, Repr

/-- A record as a line: level, source, text. -/
def Record.line (r : Record) : String :=
  r.level.text ++ " " ++ r.source.text ++ ": " ++ r.text

/-- The thresholds in force: that of the program, and that of protocol records, where zero means
that the program's threshold holds for them too. -/
structure Thresholds where
  general : Nat
  protocol : Nat
  deriving DecidableEq, Repr

namespace Thresholds

/-- The threshold for the records of a source. -/
def effective (t : Thresholds) : Source → Nat
  | .protocol => if t.protocol = 0 then t.general else t.protocol
  | _ => t.general

/-- Whether a record is kept. -/
def passes (t : Thresholds) (r : Record) : Bool := t.effective r.source ≤ r.level.rank

end Thresholds

end MailDispatch
