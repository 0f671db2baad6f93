import MailDispatch.Address.Accepted
import MailDispatch.Mail
import MailDispatch.Message.Base64
import MailDispatch.Message.Basic
import MailDispatch.Message.Disposition
import MailDispatch.Task.Parameters
import MailDispatch.Workspace

/-!
# Composing a message

A mail becomes a message: its body alone, or its body and one part for each attachment. Bodies are
encoded as UTF-8 and attachments are taken byte for byte; both are written in base64, so that
nothing that they hold can be taken for a header. Header values are written as they are.

Date, token and host name come from outside, as a `Stamp`, since they differ from one message to the
next.
-/

namespace MailDispatch

/-- What tells two messages with the same contents apart. -/
structure Stamp where
  date : String
  /-- The part of the message's identifier before the at sign. -/
  token : String
  /-- The domain of the identifier for a sender without a domain. -/
  hostname : String

namespace Mail

/-- The subtype of the text that the body is. -/
def bodySubtype (m : Mail) : String := if m.isHtml then "html" else "plain"

/-- The headers of a part that is written in base64. -/
def encodedHeaders (contentType : String) : Headers :=
  [("Content-Type", contentType), ("MIME-Version", "1.0"),
    ("Content-Transfer-Encoding", "base64")]

/-- The part for the body. -/
def bodyPart (m : Mail) : Part where
  headers := encodedHeaders ("text/" ++ m.bodySubtype ++ "; charset=\"utf-8\"")
  payload := String.ofList (Base64.encodeLines (Text.encode m.body.toList))

/-- The part for an attachment with the given content. -/
def attachmentPart (a : Attachment) (content : List UInt8) : Part where
  headers := encodedHeaders a.contentType ++
    [("Content-Disposition", String.ofList (Disposition.value a.filename.toList))]
  payload := String.ofList (Base64.encodeLines content)

/-- A failure to read an attachment. Files that cannot be read are failures of the attachment;
others stay what they are. -/
def unreadable (path : String) : Failure → Failure
  | .file e => .attachment path e.message
  | f => f

/-- The part for an attachment, with the content that the workspace has for it. -/
def readAttachment (w : Workspace) (a : Attachment) : Except Failure Part := do
  let content ← (w.readBytes a.path).mapError (unreadable a.path)
  if a.contentType.toList.contains '/' then .ok (attachmentPart a content) else .error .noSubtype

/-- The parts for the attachments of a mail. -/
def readAttachments (m : Mail) (w : Workspace) : Except Failure (List Part) :=
  m.attachments.mapM (readAttachment w)

/-- The identifier of a message. -/
def messageId (m : Mail) (stamp : Stamp) : String :=
  let domain := match Address.domainOf m.sender.toList with
    | some name => String.ofList name
    | none => stamp.hostname
  "<" ++ stamp.token ++ "@" ++ domain ++ ">"

/-- The headers that say what the message is about. -/
def envelope (m : Mail) (stamp : Stamp) : Headers :=
  [("From", m.sender), ("Sender", m.sender), ("To", String.intercalate ", " m.recipients),
    ("Subject", m.subject), ("Date", stamp.date), ("Message-ID", m.messageId stamp),
    ("X-Mailer", "mailtask")]

/-- The message for a mail, given the parts for its attachments. -/
def assemble (m : Mail) (stamp : Stamp) : List Part → Message
  | [] => .single ⟨m.bodyPart.headers ++ m.envelope stamp, m.bodyPart.payload⟩
  | parts =>
    .multipart ([("Content-Type", "multipart/mixed"), ("MIME-Version", "1.0")] ++
      m.envelope stamp) (m.bodyPart :: parts)

/-- Composes the message for a mail. -/
def compose (m : Mail) (w : Workspace) (stamp : Stamp) : Preparation Message := do
  let parts ← m.readAttachments w
  let message := m.assemble stamp parts
  Preparation.log .composition .debug
    ("Composed " ++ message.headers.contentType ++ " message " ++ m.messageId stamp ++
      " with " ++ toString m.attachments.length ++ " attachment(s)")
  return message

end Mail

end MailDispatch
