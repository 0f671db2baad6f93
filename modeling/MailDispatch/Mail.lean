import MailDispatch.Endpoint
import MailDispatch.Text.Pieces

/-!
# Mail

The data of one mail on its way from a task's parameters to a message: what it is addressed to,
says and carries, and the one endpoint that it goes through.
-/

namespace MailDispatch

/-- The sender and subject for tasks that set none. -/
structure MailDefaults where
  subject : Option String := none
  sender : Option String := none
  deriving DecidableEq, Repr

/-- A file of the workspace that a mail carries. -/
structure Attachment where
  path : String
  contentType : String
  /-- The name shown to the recipient. -/
  filename : String
  deriving DecidableEq, Repr

namespace Attachment

/-- The content type of a file about which nothing is said. -/
def defaultContentType : String := "application/octet-stream"

/-- The part of a path after its last slash. -/
def defaultFilename (path : String) : String :=
  String.ofList (Text.lastPiece '/' path.toList)

/-- An attachment with its name filled in: an empty name is replaced by the last part of the
path. -/
def named (path contentType filename : String) : Attachment :=
  ⟨path, contentType, if filename = "" then defaultFilename path else filename⟩

end Attachment

/-- Everything that one send needs. -/
structure Mail where
  recipients : List String
  sender : String
  subject : String
  isHtml : Bool
  body : String
  endpoint : Endpoint
  attachments : List Attachment
  deriving DecidableEq, Repr

end MailDispatch
