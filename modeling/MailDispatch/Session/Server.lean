import MailDispatch.Session.Fault

/-!
# Mail servers

A mail server as a session meets it: what it answers to connecting, to a login, to each message and
to the goodbye, which extensions it offers, and when the connection drops. Answers to messages are
used up one by one; after the last of them the server accepts everything.
-/

namespace MailDispatch

/-- A reply of a server: its code and text. -/
structure Reply where
  code : Int
  text : String
  deriving DecidableEq, Repr

/-- A reply in words. -/
def Reply.words (r : Reply) : String := toString r.code ++ " " ++ r.text

/-- A recipient that the server refused, and its reply. -/
structure Refusal where
  recipient : String
  reply : Reply
  deriving DecidableEq, Repr

/-- What a server says about a message it took: the recipients refused and its last word. -/
structure Acceptance where
  refused : List Refusal := []
  reply : String := "OK"
  deriving DecidableEq, Repr

/-- What happens to a message, and whether the connection drops meanwhile. -/
structure SendAnswer where
  result : Except Fault Acceptance := .ok {}
  drops : Bool := false

/-- A mail server. -/
structure Server where
  onConnect : Except Fault Reply := .ok ⟨220, "ready"⟩
  onLogin : Except Fault Reply := .ok ⟨235, "accepted"⟩
  onQuit : Except Fault Reply := .ok ⟨221, "bye"⟩
  onSend : List SendAnswer := []
  extensions : List String := []
  /-- Whether the connection drops as soon as it stands. -/
  dropsOnConnect : Bool := false
  /-- Whether the connection drops over the login. -/
  dropsOnLogin : Bool := false

namespace Acceptance

/-- Adds a refusal: for a recipient that is listed already, the later reply counts. -/
def addRefusal (refused : List Refusal) (r : Refusal) : List Refusal :=
  if refused.any fun x ↦ x.recipient = r.recipient then
    refused.map fun x ↦ if x.recipient = r.recipient then r else x
  else refused ++ [r]

/-- The refusals, one for each recipient, in the order in which recipients are first named. -/
def refusals (a : Acceptance) : List Refusal := a.refused.foldl addRefusal []

end Acceptance

end MailDispatch
