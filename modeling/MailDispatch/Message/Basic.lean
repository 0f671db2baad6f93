import MailDispatch.Text.Blank
import MailDispatch.Text.LowerCase

/-!
# Messages

A message is a list of headers and either a payload, as it is encoded for transport, or several
parts, each of which is a message without parts of its own.
-/

namespace MailDispatch

/-- Names and values of headers, in order. -/
abbrev Headers := List (String × String)

/-- A message without parts: its headers and its encoded payload. -/
structure Part where
  headers : Headers
  payload : String
  deriving DecidableEq, Repr

/-- A message: a single part, or several under common headers. -/
inductive Message where
  | single (part : Part)
  | multipart (headers : Headers) (parts : List Part)
  deriving DecidableEq, Repr

namespace Headers

/-- The value of the first header with a name. -/
def value? (h : Headers) (name : String) : Option String := h.lookup name

/-- The type and subtype that the headers declare, in lower case and without parameters. A value
that is not of that form counts as plain text. -/
def contentType (h : Headers) : String :=
  let declared := (h.value? "Content-Type").getD ""
  let type := Text.lower (Text.trim (declared.toList.takeWhile (· != ';')))
  if type.count '/' = 1 then String.ofList type else "text/plain"

end Headers

namespace Message

/-- The headers of a message. -/
def headers : Message → Headers
  | .single part => part.headers
  | .multipart headers _ => headers

/-- The parts of a message: itself if it has no others. -/
def parts : Message → List Part
  | .single part => [part]
  | .multipart _ parts => parts

/-- The value of a header that every composed message has. -/
def headerText (m : Message) (name : String) : String := (m.headers.value? name).getD ""

end Message

end MailDispatch
