import MailDispatch.Decimal.Binary64
import MailDispatch.Text.Quoted
import MailDispatch.Value.Moment

/-!
# Values of parameters and settings

A task's parameters and the operator's configuration hold values of any shape: nothing, a flag, a
number, a text, bytes, a moment, a list, a fixed tuple or a table. A table keeps its entries in the
order in which they were written, and a key is looked up at its first entry.

Every value has a literal, shown in messages, and a plain text, shown by templates; the two differ
for texts and moments only. Neither exists for a value that holds an integer too long to be
written, so both are partial: `none` marks that case and no other.
-/

namespace MailDispatch

open Decimal (Binary64 numeral?)

/-- A value of a parameter or setting. -/
inductive Value where
  | null
  | bool (b : Bool)
  | int (n : Int)
  | float (x : Binary64)
  | text (s : String)
  | bytes (bs : List UInt8)
  | moment (m : Moment)
  | list (items : List Value)
  | tuple (items : List Value)
  | table (entries : List (String × Value))
  deriving Repr

/-- Entries of a table, in the order in which they were written. -/
abbrev Table := List (String × Value)

namespace Value

instance : Inhabited Value := ⟨.null⟩

/-- The value, unless it is nothing: `null` is how a table says that a key has no value. -/
def toOption : Value → Option Value
  | .null => none
  | v => some v

/-- Whether the value counts as present where any empty or zero value counts as absent. -/
def isTruthy : Value → Bool
  | .null => false
  | .bool b => b
  | .int n => n != 0
  | .float x => !x.isZero
  | .text s => !s.isEmpty
  | .bytes bs => !bs.isEmpty
  | .moment _ => true
  | .list items => !items.isEmpty
  | .tuple items => !items.isEmpty
  | .table entries => !entries.isEmpty

/-- The word for the kind of a value in messages. -/
def kind : Value → String
  | .null => "NoneType"
  | .bool _ => "bool"
  | .int _ => "int"
  | .float _ => "float"
  | .text _ => "str"
  | .bytes _ => "bytes"
  | .moment (.day _) => "date"
  | .moment (.clock _) => "time"
  | .moment (.instant ..) => "datetime"
  | .list _ => "list"
  | .tuple _ => "tuple"
  | .table _ => "dict"

/-- The items of a list, a tuple or bytes, which hold small integers. A text is no sequence here. -/
def items? : Value → Option (List Value)
  | .list items => some items
  | .tuple items => some items
  | .bytes bs => some (bs.map fun b ↦ .int b.toNat)
  | _ => none

/-! ## Literals and plain texts -/

/-- The word for a flag. -/
def flagLiteral (b : Bool) : String := if b then "True" else "False"

/-- Texts between two brackets, separated by commas. -/
def bracketed (opening closing : String) (parts : List String) : String :=
  opening ++ String.intercalate ", " parts ++ closing

/-- Texts as a tuple: a single one is followed by a comma. -/
def tupleLiteral : List String → String
  | [one] => "(" ++ one ++ ",)"
  | parts => bracketed "(" ")" parts

mutual

/-- The literal of a value, unless it holds an integer too long to be written. -/
def literal? : Value → Option String
  | .null => some "None"
  | .bool b => some (flagLiteral b)
  | .int n => numeral? n
  | .float x => some x.text
  | .text s => some (Text.quoted s)
  | .bytes bs => some (Text.quotedBytes bs)
  | .moment m => some m.literal
  | .list items => (literals? items).map (bracketed "[" "]")
  | .tuple items => (literals? items).map tupleLiteral
  | .table entries => (entryLiterals? entries).map (bracketed "\x7b" "\x7d")

/-- The literals of several values. -/
def literals? : List Value → Option (List String)
  | [] => some []
  | v :: rest => (literal? v).bind fun t ↦ (literals? rest).map (t :: ·)

/-- The literals of the entries of a table: the key quoted, a colon, the value. -/
def entryLiterals? : List (String × Value) → Option (List String)
  | [] => some []
  | (key, v) :: rest =>
    (literal? v).bind fun t ↦ (entryLiterals? rest).map ((Text.quoted key ++ ": " ++ t) :: ·)

end

/-- The plain text of a value: texts and moments stand for themselves. -/
def text? : Value → Option String
  | .text s => some s
  | .moment m => some m.text
  | v => v.literal?

end Value

end MailDispatch
