/-!
# Faults raised by the mail transport

What the transport library or the operating system below it raises: a name, a text, and the family
that it belongs to. The family decides what becomes of a fault: those of the transport, of the
operating system and of message formatting are failures of the transmission, all others are errors
of the program. The name decides nothing, since every family has more members than can be listed.
-/

namespace MailDispatch

/-- The families of faults. A fault of the transport that is one of the operating system as well
counts for the transport. -/
inductive FaultFamily where
  | smtp
  | system
  | message
  | other
  deriving DecidableEq, Repr

/-- A fault: its name, what it says, and its family. -/
structure Fault where
  name : String
  message : String
  family : FaultFamily
  deriving DecidableEq, Repr

namespace Fault

/-- Whether a fault counts as a failure of the transmission. -/
def isTransport (f : Fault) : Bool := f.family != .other

/-- Whether a fault while closing a session is only logged. -/
def isIgnoredOnQuit (f : Fault) : Bool := f.family = .smtp || f.family = .system

end Fault

end MailDispatch
