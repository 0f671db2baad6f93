import MailDispatch.Failure
import MailDispatch.Journal.Record
import MailDispatch.Text.Hex

/-!
# Reports on the console

How a log record and the report of a failed task appear on the console. A report is a JSON object
over several lines, all of it ASCII: other characters are escaped as UTF-16 units.
-/

namespace MailDispatch.CommandLine

open Text (hexDigits)

/-- A log record as a line. -/
def recordLine (time : String) (r : Record) : String :=
  time ++ " [mailtask] " ++ r.line ++ "\n"

/-- A UTF-16 unit as an escape. -/
def unitEscape (n : Nat) : List Char := '\\' :: 'u' :: hexDigits 4 n

/-- A character within a JSON string. -/
def jsonChar (c : Char) : List Char :=
  if c = '"' || c = '\\' then ['\\', c]
  else if c = '\n' then ['\\', 'n']
  else if c = '\r' then ['\\', 'r']
  else if c = '\t' then ['\\', 't']
  else if c = '\x0c' then ['\\', 'f']
  else if c = '\x08' then ['\\', 'b']
  else if 32 ≤ c.toNat && c.toNat < 127 then [c]
  else if c.toNat < 0x10000 then unitEscape c.toNat
  else
    unitEscape (0xd800 + (c.toNat - 0x10000) / 0x400) ++
      unitEscape (0xdc00 + (c.toNat - 0x10000) % 0x400)

/-- A text as a JSON string. -/
def jsonString (s : String) : String :=
  String.ofList ('"' :: (s.toList.flatMap jsonChar ++ ['"']))

/-- An entry of a JSON object; `indent` stands in front of it. -/
def jsonEntry (indent key value : String) : String :=
  indent ++ jsonString key ++ ": " ++ value

/-- A JSON object over several lines, its last line indented by `indent`. -/
def jsonObject (indent : String) (entries : List (String × String)) : String :=
  "\x7b\n" ++
    String.intercalate ",\n" (entries.map fun e ↦ jsonEntry (indent ++ "  ") e.1 e.2) ++
    "\n" ++ indent ++ "\x7d"

/-- The report of a failed task. -/
def failureReport (f : TaskFailure) : String :=
  jsonObject "" ([("kind", jsonString f.kind.text), ("message", jsonString f.message),
    ("retryable", if f.isRetryable then "true" else "false")] ++
    match f.cause with
    | none => []
    | some c => [("cause", jsonObject "  "
        [("type", jsonString c.label), ("message", jsonString c.message)])])

end MailDispatch.CommandLine
