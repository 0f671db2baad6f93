import MailDispatch.Value.Basic

/-!
# Tables within tables

A dotted key leads through nested tables, the missing ones of which are made on the way. In a
document, a key that leads to an array of tables leads on into its last one; inside an inline table
it does not.
-/

namespace MailDispatch.Toml

/-- A dotted key. -/
abbrev Key := List String

/-- The table with another value at the first entry for a key. -/
def replaceEntry (key : String) (v : Value) : Table → Table
  | [] => []
  | (k, w) :: rest => if k = key then (k, v) :: rest else (k, w) :: replaceEntry key v rest

/-- A list with its last item replaced. -/
def replaceLast (v : Value) (items : List Value) : List Value := items.dropLast ++ [v]

/-- Changes the table to which a key leads. `arrays` says whether the key leads into arrays of
tables. Without a table there, and if the change is refused, there is no result. -/
def changeNest (arrays : Bool) (change : Table → Option Table) :
    (path : Key) → Table → Option Table
  | [], t => change t
  | key :: path, t => match t.lookup key with
    | none => (changeNest arrays change path []).map fun inner ↦ t ++ [(key, .table inner)]
    | some (.table inner) =>
      (changeNest arrays change path inner).map fun inner ↦ replaceEntry key (.table inner) t
    | some (.list items) =>
      if arrays then match items.getLast? with
        | some (.table inner) =>
          (changeNest arrays change path inner).map fun inner ↦
            replaceEntry key (.list (replaceLast (.table inner) items)) t
        | _ => none
      else none
    | some _ => none

/-- Adds an entry, unless the table has its key already. -/
def addEntry (key : String) (v : Value) (t : Table) : Option Table :=
  match t.lookup key with
  | none => some (t ++ [(key, v)])
  | some _ => none

/-- Adds an empty table to the array of tables behind a key. -/
def addElement (key : String) (t : Table) : Option Table :=
  match t.lookup key with
  | none => some (t ++ [(key, .list [.table []])])
  | some (.list items) => some (replaceEntry key (.list (items ++ [.table []])) t)
  | some _ => none

/-- Whether a value is a table or a list, whose inside is closed once it is written down. -/
def isContainer : Value → Bool
  | .table _ => true
  | .list _ => true
  | _ => false

end MailDispatch.Toml
