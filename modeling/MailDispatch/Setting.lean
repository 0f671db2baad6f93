import MailDispatch.Failure

/-!
# Settings in typed and textual form

A setting may come from a typed source, such as a configuration file, or as text, such as a secret.
An integer may be given as a numeral and a flag as one of eight words in any letter case, both with
white space around them; everything else is refused by an error that names the key. A flag is never
taken for an integer.
-/

namespace MailDispatch.Setting

open Text (trim)

/-- The error for a value of the wrong type. -/
def refuse {α : Type} (key problem : String) : Except Failure α :=
  .error (.configuration (.invalidParameter key problem))

/-- A setting that must be a text. -/
def asText (key : String) : Value → Except Failure String
  | .text s => .ok s
  | v => refuse key ("expected a string, got " ++ v.kind)

/-- The refusal of a value that is no integer; it shows the value. -/
def refuseInteger (key : String) (v : Value) : Except Failure Int :=
  v.literal.bind fun shown ↦ refuse key ("expected an integer, got " ++ shown)

/-- A setting that must be an integer, or a text that denotes one. -/
def asInteger (key : String) : Value → Except Failure Int
  | .bool _ => refuse key "expected an integer, got a boolean"
  | .int n => .ok n
  | .text s => match Decimal.readInt? s.toList with
    | some n => .ok n
    | none => refuseInteger key (.text s)
  | v => refuseInteger key v

/-- The words for a set flag. -/
def trueWords : List String := ["true", "yes", "on", "1"]

/-- The words for a flag that is not set. -/
def falseWords : List String := ["false", "no", "off", "0"]

/-- The flag that a word stands for, in any letter case and with white space around it. -/
def readFlag? (s : List Char) : Option Bool :=
  let word := String.ofList ((trim s).map Char.toLower)
  if trueWords.contains word then some true
  else if falseWords.contains word then some false
  else none

/-- The refusal of a value that is no flag; it shows the value. -/
def refuseFlag (key : String) (v : Value) : Except Failure Bool :=
  v.literal.bind fun shown ↦ refuse key ("expected a boolean, got " ++ shown)

/-- A setting that must be a flag, or a word that stands for one. -/
def asFlag (key : String) : Value → Except Failure Bool
  | .bool b => .ok b
  | .text s => match readFlag? s.toList with
    | some b => .ok b
    | none => refuseFlag key (.text s)
  | v => refuseFlag key v

end MailDispatch.Setting
