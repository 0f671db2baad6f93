/-!
# States of a delivery

A delivery passes four states on its way to a sent message, and ends in a fifth if it fails.
-/

namespace MailDispatch

/-- How far a delivery has come. -/
inductive SendState where
  | start
  | configResolved
  | composed
  | sessionOpened
  | sent
  | failed
  deriving DecidableEq, Repr

/-- The word for a state. -/
def SendState.text : SendState → String
  | .start => "start"
  | .configResolved => "config_resolved"
  | .composed => "composed"
  | .sessionOpened => "session_opened"
  | .sent => "sent"
  | .failed => "failed"

end MailDispatch
