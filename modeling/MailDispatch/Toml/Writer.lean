import MailDispatch.Failure
import MailDispatch.Toml.Nest
import MailDispatch.Toml.Text

/-!
# Writing TOML

Writing a table leaves a text behind: the whole table, or what was written of it before a failure.
How a table is written is for a writer to say, and there are many. `write` is one for the tables
that configurations are kept in: flags, integers and texts, at the end of a way through tables that
hold nothing else. It writes them under one header, an entry to a line, in the order of the table.
-/

namespace MailDispatch.Toml

/-- What writing leaves behind: the text that was written, and what stopped it, if anything did. -/
structure Written where
  text : List Char
  result : Except Failure Unit := .ok ()

/-- A way of writing tables. -/
abbrev Writer := Table → Written

/-- What is left behind when a text has been written before. -/
def Written.behind (w : Written) (before : List Char) : Written :=
  { w with text := before ++ w.text }

/-- The form of a value. -/
def valueText? : Value → Option (List Char)
  | .bool true => some "true".toList
  | .bool false => some "false".toList
  | .int n => (Decimal.numeral? n).map String.toList
  | .text s => some (quoted s.toList)
  | _ => none

/-- The line of an entry. The key is written as it is. -/
def entryText? (entry : String × Value) : Option (List Char) :=
  (valueText? entry.2).map fun text ↦ entry.1.toList ++ (" = ".toList ++ (text ++ ['\n']))

/-- Writes the entries of a table, up to the first one that has no form. -/
def writeEntries : Table → Written
  | [] => { text := [] }
  | entry :: rest => match entryText? entry with
    | some line => (writeEntries rest).behind line
    | none => { text := [], result := .error .longInteger }

/-- The header of a table. The parts of its key need no quotes. -/
def headerText (key : Key) : List Char :=
  if key.isEmpty then []
  else '[' :: ((String.intercalate "." key).toList ++ [']', '\n'])

/-- Writes a table to which the keys on the way lead. -/
def writeUnder (way : Key) : Table → Written
  | [(key, .table t)] => writeUnder (way ++ [key]) t
  | t => (writeEntries t).behind (headerText way)

/-- Writes a table. -/
def write : Writer := writeUnder []

end MailDispatch.Toml
