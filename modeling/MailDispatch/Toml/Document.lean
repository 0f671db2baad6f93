import MailDispatch.Toml.Value

/-!
# TOML documents

A document consists of lines: an entry, the header of a table, the header of an element of an array
of tables, or nothing. Tables are declared once, and what is written down as an inline table, an
array or by a dotted key is closed against later additions; `Marks` keeps track of that.
-/

namespace MailDispatch.Toml

/-! ## What may not be added to -/

/-- Which keys are closed. -/
structure Marks where
  /-- Keys of inline tables and arrays: nothing below them may be added. -/
  closed : List Key := []
  /-- Keys of tables that have been declared and may not be declared again. -/
  declared : List Key := []
  /-- Keys that count as declared once the next header is met. -/
  pending : List Key := []

namespace Marks

/-- Whether a key or something above it is closed. -/
def isClosed (m : Marks) (path : Key) : Bool := m.closed.any fun k ↦ k.isPrefixOf path

/-- Whether a key is declared. -/
def isDeclared (m : Marks) (path : Key) : Bool := m.declared.contains path

/-- The marks once a header is met. -/
def settle (m : Marks) : Marks := { m with declared := m.pending ++ m.declared, pending := [] }

/-- The marks without those at and below a key. -/
def clear (m : Marks) (path : Key) : Marks :=
  { m with
    closed := m.closed.filter fun k ↦ !path.isPrefixOf k
    declared := m.declared.filter fun k ↦ !path.isPrefixOf k }

/-- The marks with one more declared key. -/
def declare (m : Marks) (path : Key) : Marks := { m with declared := path :: m.declared }

end Marks

/-! ## Documents in the making -/

/-- A document that is being read: its table, its marks, and the key of the table that entries go
into. -/
structure Draft where
  table : Table := []
  marks : Marks := {}
  header : Key := []

/-- What a change of the table yields, unless it was refused. -/
def orMalformed {α : Type} : Option α → Except TomlError α
  | some a => .ok a
  | none => malformed

namespace Draft

/-- Begins the table with a key. -/
def beginTable (d : Draft) (path : Key) : Except TomlError Draft :=
  let marks := d.marks.settle
  if marks.isDeclared path || marks.isClosed path then malformed
  else (orMalformed (changeNest true some path d.table)).map fun table ↦
    ⟨table, marks.declare path, path⟩

/-- Begins another element of the array of tables with a key. -/
def beginElement (d : Draft) (path : Key) : Except TomlError Draft :=
  let marks := d.marks.settle
  if marks.isClosed path then malformed
  else
    let change := addElement (path.getLastD "")
    (orMalformed (changeNest true change path.dropLast d.table)).map fun table ↦
      ⟨table, (marks.clear path).declare path, path⟩

/-- The keys between a header and the last part of a dotted key behind it. -/
def between (header path : Key) : List Key :=
  (List.range (path.length - 1)).map fun n ↦ header ++ path.take (n + 1)

/-- Adds an entry to the table that entries go into. -/
def addValue (d : Draft) (path : Key) (v : Value) : Except TomlError Draft :=
  let parents := between d.header path
  let parent := d.header ++ path.dropLast
  if parents.any d.marks.isDeclared || d.marks.isClosed parent then malformed
  else
    let change := addEntry (path.getLastD "") v
    (orMalformed (changeNest true change parent d.table)).map fun table ↦
      let marks := { d.marks with pending := parents ++ d.marks.pending }
      let marks := if isContainer v then
        { marks with closed := (d.header ++ path) :: marks.closed } else marks
      { d with table, marks }

end Draft

/-! ## Lines -/

/-- Reads a header from behind its opening bracket. -/
def header (d : Draft) (s : List Char) : Except TomlError (Draft × List Char) :=
  match s with
  | '[' :: rest => do
    let (path, s) ← key (skipSpace rest)
    let d ← d.beginElement path
    match s with
    | ']' :: ']' :: rest => return (d, rest)
    | _ => malformed
  | s => do
    let (path, s) ← key (skipSpace s)
    let d ← d.beginTable path
    match s with
    | ']' :: rest => return (d, rest)
    | _ => malformed

/-- Reads an entry. -/
def entry (d : Draft) (s : List Char) : Except TomlError (Draft × List Char) := do
  let (path, s) ← key s
  let s ← equalsSign s
  let (v, s) ← value s
  let d ← d.addValue path v
  return (d, s)

/-- Whether a key may start with the character. -/
def startsKey (c : Char) : Bool := isBare c || c = '"' || c = '\''

/-- Reads at most `fuel` lines. -/
def linesWithin : (fuel : Nat) → Draft → List Char → Except TomlError Table
  | 0, d, _ => .ok d.table
  | fuel + 1, d, s => match skipSpace s with
    | [] => .ok d.table
    | c :: rest => do
      let (d, s) ←
        if c = '[' then header d rest
        else if startsKey c then entry d (c :: rest)
        else if c = '#' || c = '\n' then .ok (d, c :: rest)
        else malformed
      let s ← endLine s
      linesWithin fuel d s

/-- A carriage return in front of a line feed is dropped. -/
def dropReturns : List Char → List Char
  | [] => []
  | '\r' :: '\n' :: rest => '\n' :: dropReturns rest
  | c :: rest => c :: dropReturns rest

/-- Reads a document. -/
def document (s : List Char) : Except TomlError Table :=
  linesWithin (s.length + 1) {} (dropReturns s)

end MailDispatch.Toml
