import MailDispatch.Decimal.Numeral
import MailDispatch.Session.FaultWords

/-!
# Raising faults

Which fault comes of raising a name with arguments. The name decides the family of the fault, how
the arguments are read and how many there must be; where they do not suit it, or where the name is
not known, what is raised is the fault of making the one asked for. A fault of the operating system
that is named only by its number gets the name that belongs to the number.
-/

namespace MailDispatch

namespace Fault

/-! ## Names -/

/-- Names of faults of the mail transport. -/
def smtpNames : List String :=
  ["SMTPException", "SMTPServerDisconnected", "SMTPConnectError", "SMTPTimeoutError",
    "SMTPConnectTimeoutError", "SMTPReadTimeoutError", "SMTPNotSupported",
    "SMTPResponseException", "SMTPConnectResponseError", "SMTPHeloError", "SMTPDataError",
    "SMTPAuthenticationError", "SMTPSenderRefused", "SMTPRecipientRefused",
    "SMTPRecipientsRefused"]

/-- Names of faults of the operating system. -/
def systemNames : List String :=
  ["OSError", "BlockingIOError", "ChildProcessError", "ConnectionError", "BrokenPipeError",
    "ConnectionAbortedError", "ConnectionRefusedError", "ConnectionResetError",
    "FileExistsError", "FileNotFoundError", "InterruptedError", "IsADirectoryError",
    "NotADirectoryError", "PermissionError", "ProcessLookupError", "TimeoutError", "SSLError"]

/-- Names of faults of message formatting. -/
def messageNames : List String :=
  ["MessageError", "MessageParseError", "HeaderParseError"]

/-- Names of other faults. -/
def otherNames : List String :=
  ["Exception", "ArithmeticError", "AssertionError", "AttributeError", "BaseExceptionGroup",
    "BufferError", "EOFError", "ExceptionGroup", "FloatingPointError", "ImportError",
    "IndentationError", "IndexError", "KeyError", "LookupError", "MemoryError",
    "ModuleNotFoundError", "NameError", "NotImplementedError", "OverflowError",
    "RecursionError", "ReferenceError", "RuntimeError", "SyntaxError", "SystemError", "TabError",
    "TypeError", "UnboundLocalError", "UnicodeDecodeError", "UnicodeEncodeError", "UnicodeError",
    "UnicodeTranslateError", "ValueError", "ZeroDivisionError"]

/-- The family of the faults of a name, if the name is known. -/
def familyNamed? (name : String) : Option FaultFamily :=
  if smtpNames.contains name then some .smtp
  else if systemNames.contains name then some .system
  else if messageNames.contains name then some .message
  else if otherNames.contains name then some .other
  else none

/-- The fault of a name that is not known. -/
def unknown (name : String) : Fault := ⟨"KeyError", Text.quoted name, .other⟩

/-! ## Making faults -/

/-- How many arguments the faults of the mail transport take: a text, a reply of two parts, or a
reply and an address. -/
def smtpArity : String → Nat
  | "SMTPResponseException" => 2
  | "SMTPConnectResponseError" => 2
  | "SMTPHeloError" => 2
  | "SMTPDataError" => 2
  | "SMTPAuthenticationError" => 2
  | "SMTPSenderRefused" => 3
  | "SMTPRecipientRefused" => 3
  | _ => 1

/-- The name that a fault is known by. -/
def properName : String → String
  | "IOError" => "OSError"
  | "EnvironmentError" => "OSError"
  | name => name

/-- The words that there are; that an integer in them is too long to be written is a fault. -/
def written : Option String → Except Fault String
  | some words => .ok words
  | none => .error ⟨"ValueError", Decimal.limitText ++ Decimal.limitAdvice, .other⟩

/-- The fault of the operating system of a given name. The number stands in for a name that says
nothing, and a fault of waiting may count what was written. -/
def makeSystem (name : String) (arguments : List Value) : Except Fault Fault :=
  match SystemReport.ofArguments? arguments with
  | none => (written (plainWords arguments)).map (⟨name, ·, .system⟩)
  | some r => do
    let name := if name = "OSError" then r.systemName else name
    let r ← if name = "BlockingIOError" then r.ofBlocked else .ok r
    return ⟨name, ← written r.words, .system⟩

/-- What a fault that is none of the operating system says. -/
def wordsOf (name : String) (arguments : List Value) : Except Fault String :=
  if smtpNames.contains name then
    if arguments.length = smtpArity name then written (plainWords arguments)
    else .error unsuitable
  else match name with
    | "SSLError" => written (secureWords arguments)
    | "KeyError" => written (keyWords arguments)
    | "UnicodeDecodeError" => decodeWords arguments
    | "UnicodeEncodeError" => encodeWords arguments
    | "UnicodeTranslateError" => replaceWords arguments
    | "SyntaxError" => (sourceWords arguments).bind written
    | "IndentationError" => (sourceWords arguments).bind written
    | "TabError" => (sourceWords arguments).bind written
    | "ExceptionGroup" => .error (groupFault arguments)
    | "BaseExceptionGroup" => .error (groupFault arguments)
    | _ => written (plainWords arguments)

/-- The fault of a given name and arguments, or the fault of making it. -/
def make (name : String) (arguments : List Value) : Except Fault Fault :=
  let name := properName name
  match familyNamed? name with
  | none => .error (unknown name)
  | some family =>
    if family = .system ∧ name ≠ "SSLError" then makeSystem name arguments
    else (wordsOf name arguments).map (⟨name, ·, family⟩)

/-- What comes of raising a name with arguments. -/
def ofRaised (name : String) (arguments : List Value) : Fault :=
  match make name arguments with
  | .ok f => f
  | .error f => f

end Fault

end MailDispatch
