import MailDispatch.Address.Accepted
import MailDispatch.Text.Word
import MailDispatch.Task.Endpoint

/-!
# The mail of a task

Everything else that a mail needs, taken from the parameters of a task: subject, sender,
recipients, attachments, and whether the body is marked up. What ends up in a header must not hold
a line break. Lists are taken entry by entry, and the first entry that is unusable decides.
-/

namespace MailDispatch

/-- A text that goes into a header: it must not hold a line break, which would begin another
header. -/
def headerText (key : String) (s : String) : Except Failure String :=
  if s.toList.contains '\r' || s.toList.contains '\n' then
    Setting.refuse key "must not contain line breaks"
  else .ok s

/-! ## Recipients -/

/-- The addresses in the value of `to`: one address, or a list of at least one. -/
def recipientsOf (given : Value) : Except Failure (List String) :=
  match given with
  | .text s => [Value.text s].mapM Address.validate
  | v => match v.items? with
    | none => Address.refuse v
    | some [] =>
      .error (.configuration
        (.missingField "to" (some "Parameter 'to' must list at least one address")))
    | some items => items.mapM Address.validate

/-! ## Attachments -/

/-- The characters that the two parts of a content type consist of. -/
def isContentTypeChar (c : Char) : Bool := Text.isWord c || c = '.' || c = '+' || c = '-'

/-- Whether a text is a content type: two parts and a slash between them. -/
def isContentType (s : List Char) : Bool :=
  match Text.pieces '/' s with
  | [type, subtype] =>
    !type.isEmpty && !subtype.isEmpty &&
      type.all isContentTypeChar && subtype.all isContentTypeChar
  | _ => false

namespace Attachment

/-- The path in an entry of the list of attachments. -/
def pathOf (key : String) (entry : Table) : Except Failure String :=
  let path := (entry.lookup "path").getD .null
  if path.isTruthy then (Setting.asText (key ++ ".path") path).bind (headerText (key ++ ".path"))
  else .error (.configuration (.missingField (key ++ ".path") none))

/-- The content type in an entry of the list of attachments. -/
def contentTypeOf (key : String) (entry : Table) : Except Failure String :=
  match (entry.lookup "content_type").getD .null with
  | .null => .ok defaultContentType
  | v =>
    let refused := v.literal.bind fun shown ↦
      Setting.refuse (key ++ ".content_type") ("expected type/subtype, got " ++ shown)
    match v with
    | .text s => if isContentType s.toList then .ok s else refused
    | _ => refused

/-- The file name in an entry of the list of attachments, empty if there is none. -/
def filenameOf (key : String) (entry : Table) : Except Failure String :=
  match (entry.lookup "filename").getD .null with
  | .null => .ok ""
  | v => (Setting.asText (key ++ ".filename") v).bind (headerText (key ++ ".filename"))

/-- One entry of the list of attachments; `key` is what errors call it. -/
def ofEntry (key : String) : Value → Except Failure Attachment
  | .table entry => do
    let path ← pathOf key entry
    let contentType ← contentTypeOf key entry
    let filename ← filenameOf key entry
    return named path contentType filename
  | _ => Setting.refuse key "expected a table with at least 'path'"

/-- What errors call an entry of the list of attachments. -/
def entryKey (index : Nat) : String := "attach_files[" ++ toString index ++ "]"

/-- The entries of the list of attachments, the first of which has the given index. -/
def ofEntries : (index : Nat) → List Value → Except Failure (List Attachment)
  | _, [] => .ok []
  | index, entry :: rest => do
    let a ← ofEntry (entryKey index) entry
    let others ← ofEntries (index + 1) rest
    return a :: others

end Attachment

/-! ## The whole mail -/

namespace TaskParameters

/-- The recipients of a task's mail. -/
def recipients (p : TaskParameters) : Preparation (List String) := do
  match ← p.get "to" with
  | none => Preparation.refuse (.missingField "to" none)
  | some given => recipientsOf given

/-- The sender of a task's mail: the task's own, or else the operator's. -/
def sender (p : TaskParameters) (defaults : MailDefaults) : Preparation String := do
  let own ← p.get "from"
  let chosen ← (Choice.first "from" [own, defaults.sender.map Value.text]).require
  Address.validate chosen

/-- The subject of a task's mail: the task's own, or else the operator's. -/
def subject (p : TaskParameters) (defaults : MailDefaults) : Preparation String := do
  let own ← textOrNone "subject" (← p.get "subject")
  let chosen ← (Choice.first "subject" [own, defaults.subject]).require
  headerText "subject" chosen

/-- The attachments of a task's mail. -/
def attachments (p : TaskParameters) : Preparation (List Attachment) := do
  match ← p.get "attach_files" with
  | none => return []
  | some v => match v.items? with
    | none => Setting.refuse "attach_files" "expected a list of attachments"
    | some items => Attachment.ofEntries 0 items

/-- The mail of a task, around a body that is rendered already. -/
def mail (p : TaskParameters) (config : OperatorConfig) (body : String) : Preparation Mail := do
  let endpoint ← p.endpoint config
  let recipients ← p.recipients
  let sender ← p.sender config.defaults
  let subject ← p.subject config.defaults
  let isHtml ← p.flag "html" false
  let attachments ← p.attachments
  let shown ← endpoint.text
  Preparation.log .resolution .debug
    ("Resolved mail: to=" ++ Value.bracketed "[" "]" (recipients.map Text.quoted) ++
      " smtp=" ++ shown ++ " attachments=" ++ toString attachments.length)
  return { recipients, sender, subject, isHtml, body, endpoint, attachments }

end TaskParameters

end MailDispatch
