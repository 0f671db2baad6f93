import MailDispatch.Toml.Nest
import MailDispatch.Toml.Number
import MailDispatch.Toml.Text

/-!
# Keys and values in TOML

A value is a text, a flag, a moment, a number, an array or an inline table. Arrays and inline tables
nest; the scanners that read them go down and along by one for each character at least, so that
twice the length of the document bounds their steps. How deep they nest is limited: there is room
for `nestingLimit` levels, of which an array takes two and an inline table three.
-/

namespace MailDispatch.Toml

/-! ## Keys -/

/-- A character of a key without quotes. -/
def isBare (c : Char) : Bool := c.isAlphanum || c = '-' || c = '_'

/-- What was read, as a string. -/
def asString : List Char × List Char → String × List Char
  | (text, left) => (String.ofList text, left)

/-- One part of a dotted key. -/
def keyPart : List Char → Scan String
  | '\'' :: rest => (literalText rest).map asString
  | '"' :: rest => (basicText false rest).map asString
  | s =>
    if (s.takeWhile isBare).isEmpty then malformed
    else .ok (String.ofList (s.takeWhile isBare), s.dropWhile isBare)

/-- A dotted key of at most `fuel` parts, and the blanks behind it. -/
def keyWithin : (fuel : Nat) → List Char → Except TomlError (Key × List Char)
  | 0, _ => malformed
  | fuel + 1, s => do
    let (part, s) ← keyPart s
    match skipSpace s with
    | '.' :: rest =>
      let (parts, s) ← keyWithin fuel (skipSpace rest)
      return (part :: parts, s)
    | s => return ([part], s)

/-- A dotted key, and the blanks behind it. -/
def key (s : List Char) : Scan Key := keyWithin (s.length + 1) s

/-! ## Inline tables -/

/-- An inline table that is being read, and the keys in it that are closed. -/
structure Inline where
  entries : Table := []
  closed : List Key := []

/-- Adds an entry to an inline table. -/
def Inline.add (t : Inline) (path : Key) (v : Value) : Except TomlError Inline :=
  if t.closed.any fun k ↦ k.isPrefixOf path then malformed
  else match changeNest false (addEntry (path.getLastD "") v) path.dropLast t.entries with
    | none => malformed
    | some entries =>
      .ok ⟨entries, if isContainer v then path :: t.closed else t.closed⟩

/-! ## Values -/

/-- Passes over the sign between a key and its value. -/
def equalsSign : List Char → Except TomlError (List Char)
  | '=' :: rest => .ok (skipSpace rest)
  | _ => malformed

/-- How many levels of nesting there is room for. -/
def nestingLimit : Nat := 988

/-- The room that is left inside a value that takes a number of levels. The same number is needed
again to read what it holds. -/
def roomWithin (levels room : Nat) : Except TomlError Nat :=
  if room < 2 * levels then .error .tooDeep else .ok (room - levels)

mutual

/-- A value, read in at most `fuel` steps and nested within `room` levels. -/
def valueWithin : (fuel room : Nat) → List Char → Except TomlError (Value × List Char)
  | 0, _, _ => malformed
  | fuel + 1, room, s => match s with
    | '"' :: '"' :: '"' :: rest => (basicLines rest).map fun (t, s) ↦ (.text (String.ofList t), s)
    | '"' :: rest => (basicText false rest).map fun (t, s) ↦ (.text (String.ofList t), s)
    | '\'' :: '\'' :: '\'' :: rest =>
      (literalBlock rest).map fun (t, s) ↦ (.text (String.ofList t), s)
    | '\'' :: rest => (literalText rest).map fun (t, s) ↦ (.text (String.ofList t), s)
    | 't' :: 'r' :: 'u' :: 'e' :: rest => .ok (.bool true, rest)
    | 'f' :: 'a' :: 'l' :: 's' :: 'e' :: rest => .ok (.bool false, rest)
    | '[' :: rest => do
      let room ← roomWithin 2 room
      let s ← skipGap false rest
      let (items, s) ← itemsWithin fuel room s
      return (.list items, s)
    | '\x7b' :: rest => do
      let room ← roomWithin 3 room
      match skipSpace rest with
      | '\x7d' :: rest => return (.table [], rest)
      | s =>
        let (entries, s) ← entriesWithin fuel room {} s
        return (.table entries, s)
    | s => scalar s

/-- The items of an array up to its closing bracket, read in at most `fuel` steps and nested within
`room` levels. -/
def itemsWithin : (fuel room : Nat) → List Char → Except TomlError (List Value × List Char)
  | 0, _, _ => malformed
  | fuel + 1, room, s => match s with
    | ']' :: rest => .ok ([], rest)
    | s => do
      let (v, s) ← valueWithin fuel room s
      let s ← skipGap false s
      match s with
      | ']' :: rest => return ([v], rest)
      | ',' :: rest =>
        let s ← skipGap false rest
        let (items, s) ← itemsWithin fuel room s
        return (v :: items, s)
      | _ => malformed

/-- The entries of an inline table up to its closing brace, read in at most `fuel` steps and nested
within `room` levels. -/
def entriesWithin : (fuel room : Nat) → Inline → List Char →
    Except TomlError (Table × List Char)
  | 0, _, _, _ => malformed
  | fuel + 1, room, t, s => do
    let (path, s) ← key s
    let s ← equalsSign s
    let (v, s) ← valueWithin fuel room s
    let t ← t.add path v
    match skipSpace s with
    | '\x7d' :: rest => return (t.entries, rest)
    | ',' :: rest => entriesWithin fuel room t (skipSpace rest)
    | _ => malformed

end

/-- A value. -/
def value (s : List Char) : Scan Value := valueWithin (2 * s.length + 1) nestingLimit s

end MailDispatch.Toml
