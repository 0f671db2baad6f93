import MailDispatch.Mail

/-!
# The operator's configuration

What the operator of the system sets for all tasks: the sender and subject of mails that name none,
and an endpoint for tasks that bring none of their own.
-/

namespace MailDispatch

/-- The operator's configuration. -/
structure OperatorConfig where
  defaults : MailDefaults := {}
  endpoint : Option Endpoint := none
  deriving DecidableEq, Repr

end MailDispatch
