import MailDispatch.FileTree.Walk
import MailDispatch.Session.Fault
import MailDispatch.Text.Decoding
import MailDispatch.Value.Basic

/-!
# Failures

Everything that can go wrong, by cause. A task whose settings are unusable ends in a configuration
error; files that cannot be read, templates that cannot be decoded and faults of the transport have
causes of their own. A sender reports every anticipated failure as one `TaskFailure`, whose kind
says whether the task may be tried again.

Two functions give a failure its appearance: `Failure.message` its wording and `Failure.label` the
name under which it is reported.
-/

namespace MailDispatch

/-! ## Configuration errors -/

/-- Why the configuration of a task or of the system is unusable. -/
inductive ConfigurationError where
  /-- A reason given in words. -/
  | stated (text : String)
  /-- The secret store failed while a key was looked up. -/
  | secretStore (scope key reason : String)
  /-- No file can have such a name. -/
  | fileName (path reason : String)
  /-- The path leads out of the workspace. -/
  | outsideWorkspace (path : String)
  /-- The system's endpoint has a host and no port. -/
  | systemPort
  /-- Neither the task nor the system names a host. -/
  | missingEndpoint (text : String)
  /-- A required field has no value; an explanation may replace the usual wording. -/
  | missingField (field : String) (explanation : Option String)
  /-- A value is no single address; `shown` is its literal. -/
  | invalidAddress (value : Value) (shown : String)
  /-- A parameter has the wrong type or shape. -/
  | invalidParameter (key problem : String)

namespace ConfigurationError

/-- The usual wording when no endpoint exists. -/
def missingEndpointText : String := "Missing SMTP configuration"

/-- A configuration error in words. -/
def message : ConfigurationError → String
  | .stated text => text
  | .secretStore scope key reason =>
    "Secret store unavailable while reading " ++ scope ++ "." ++ key ++ ": " ++ reason
  | .fileName path reason => "Invalid file name " ++ Text.quoted path ++ ": " ++ reason
  | .outsideWorkspace path =>
    "File name must not be outside of the workspace: " ++ Text.quoted path
  | .systemPort => "config.mail.port is required when config.mail.host is set"
  | .missingEndpoint text => text
  | .missingField field explanation => match explanation with
    | some text =>
      if text = "" then "Parameter '" ++ field ++ "' is required but not set" else text
    | none => "Parameter '" ++ field ++ "' is required but not set"
  | .invalidAddress _ shown => "Invalid address: " ++ shown
  | .invalidParameter key problem => "Invalid parameter '" ++ key ++ "': " ++ problem

/-- The name under which a configuration error is reported. -/
def label : ConfigurationError → String
  | .missingEndpoint _ => "MissingSmtpConfigurationError"
  | .missingField .. => "MissingRequiredFieldError"
  | .invalidAddress .. => "InvalidAddressError"
  | .invalidParameter .. => "InvalidParameterError"
  | _ => "ConfigurationError"

end ConfigurationError

/-! ## The report of a failed task -/

/-- What kind of failure ended a task. -/
inductive FailureKind where
  | configuration
  | attachment
  | template
  | transport
  | named (text : String)
  deriving DecidableEq, Repr

namespace FailureKind

/-- The word for a kind of failure. -/
def text : FailureKind → String
  | .configuration => "configuration"
  | .attachment => "attachment"
  | .template => "template"
  | .transport => "transport"
  | .named text => text

/-- The kind of failure for a word. -/
def ofText (s : String) : FailureKind :=
  if s = "configuration" then .configuration
  else if s = "attachment" then .attachment
  else if s = "template" then .template
  else if s = "transport" then .transport
  else .named s

/-- Whether the task may succeed when it is tried again. -/
def isRetryable (k : FailureKind) : Bool := k = .transport

@[simp] theorem text_ofText (s : String) : (ofText s).text = s := by
  unfold ofText
  repeat' split
  all_goals simp_all [text]

end FailureKind

/-- The failure behind a report: its name and its wording. -/
structure Cause where
  label : String
  message : String
  deriving DecidableEq, Repr

/-- The one report of a failed task. -/
structure TaskFailure where
  kind : FailureKind
  message : String
  cause : Option Cause
  deriving DecidableEq, Repr

namespace TaskFailure

/-- Whether the task may be tried again. -/
def isRetryable (f : TaskFailure) : Bool := f.kind.isRetryable

end TaskFailure

/-! ## All failures -/

/-- Everything that can go wrong. -/
inductive Failure where
  /-- The configuration of the task is unusable. -/
  | configuration (e : ConfigurationError)
  /-- An attachment cannot be read. -/
  | attachment (path reason : String)
  /-- The template of the body cannot be read. -/
  | template (path reason : String)
  /-- A configuration or parameter file cannot be used. -/
  | configFile (text : String)
  /-- A reason in words and nothing else. -/
  | general (text : String)
  /-- The report of a failed task. -/
  | task (f : TaskFailure)
  /-- A file cannot be reached. -/
  | file (e : FileError)
  /-- Bytes are no text. -/
  | undecodable (e : Text.DecodeError)
  /-- The encoding of a text is not known. -/
  | encoding (e : Text.EncodingError)
  /-- The transport raised a fault. -/
  | fault (f : Fault)
  /-- An integer is too long to be written. -/
  | longInteger
  /-- A numeral of so many digits is too long to be read. -/
  | longNumeral (digits : Nat)
  /-- The values of a document are nested too deeply. -/
  | tooDeep
  /-- A path holds a character that no path can hold. -/
  | nulInPath
  /-- A path leads around in a circle of links. -/
  | linkLoop (path : String)
  /-- A content type has no subtype. -/
  | noSubtype

namespace Failure

open Decimal (limitText limitAdvice)

/-- A failure in words. -/
def message : Failure → String
  | .configuration e => e.message
  | .attachment path reason => "Failed to read attachment '" ++ path ++ "': " ++ reason
  | .template path reason => "Failed to read body template '" ++ path ++ "': " ++ reason
  | .configFile text => text
  | .general text => text
  | .task f => f.message
  | .file e => e.message
  | .undecodable e => e.message
  | .encoding e => e.message
  | .fault f => f.message
  | .longInteger => limitText ++ limitAdvice
  | .longNumeral digits =>
    limitText ++ ": value has " ++ toString digits ++ " digits" ++ limitAdvice
  | .tooDeep => "maximum recursion depth exceeded"
  | .nulInPath => "embedded null byte"
  | .linkLoop path => "Symlink loop from " ++ Text.quoted path
  | .noSubtype => "not enough values to unpack (expected 2, got 1)"

/-- The name under which a failure is reported. -/
def label : Failure → String
  | .configuration e => e.label
  | .attachment .. => "AttachmentReadError"
  | .template .. => "BodyTemplateError"
  | .configFile _ => "ConfigError"
  | .general _ => "MailTaskError"
  | .task _ => "TaskExecutionError"
  | .file e => e.fault.label
  | .undecodable _ => "UnicodeDecodeError"
  | .encoding (.unknown _) => "LookupError"
  | .encoding (.unmarked _) => "UnicodeError"
  | .fault f => f.name
  | .longInteger => "ValueError"
  | .longNumeral _ => "ValueError"
  | .tooDeep => "RecursionError"
  | .nulInPath => "ValueError"
  | .linkLoop _ => "RuntimeError"
  | .noSubtype => "ValueError"

/-- The families that a failure of a task or its configuration belongs to, by name, the narrowest
first. Failures of the surroundings belong to none. -/
def families : Failure → List String
  | .configuration e =>
    if e.label = "ConfigurationError" then ["ConfigurationError", "MailTaskError"]
    else [e.label, "ConfigurationError", "MailTaskError"]
  | .attachment .. => ["AttachmentReadError", "MailTaskError"]
  | .template .. => ["BodyTemplateError", "MailTaskError"]
  | .configFile _ => ["ConfigError", "MailTaskError"]
  | .general _ => ["MailTaskError"]
  | .task _ => ["TaskExecutionError", "MailTaskError"]
  | _ => []

/-- The failure as the cause of a report. -/
def toCause (f : Failure) : Cause := ⟨f.label, f.message⟩

end Failure

/-- The result if there is one, or else the failure. -/
def orFail {α : Type} (f : Failure) : Option α → Except Failure α
  | some a => .ok a
  | none => .error f

/-- The literal of a value, or the failure to write it. -/
def Value.literal (v : Value) : Except Failure String := orFail .longInteger v.literal?

/-- The plain text of a value, or the failure to write it. -/
def Value.plain (v : Value) : Except Failure String := orFail .longInteger v.text?

end MailDispatch
