import MailDispatch.Session.SystemReport
import MailDispatch.Text.Pieces

/-!
# The words of faults

A fault is raised with arguments, and what it says is made of them. Most say their one argument, or
all of them as a tuple. Faults of the operating system read a number, a reason and up to two files
in their arguments; faults of text conversion read the data, a place in it and a reason; faults of
source text read a file and a line.

Words are missing, here as for values, only where an integer is too long to be written. Arguments
that a fault cannot be made of raise another fault in its place.
-/

namespace MailDispatch

namespace Fault

/-- Arguments in words: nothing, the only one as a plain text, or all of them as a tuple. -/
def plainWords : List Value → Option String
  | [] => some ""
  | [one] => one.text?
  | arguments => (Value.tuple arguments).literal?

/-- The words of a missing key: a single argument as a literal. -/
def keyWords : List Value → Option String
  | [one] => one.literal?
  | arguments => plainWords arguments

/-- The words of a fault of an encrypted connection: the reason if it is a text, and otherwise the
arguments as a tuple, however many. -/
def secureWords (arguments : List Value) : Option String :=
  match SystemReport.ofArguments? arguments with
  | some r => match r.reason with
    | .text reason => some reason
    | _ => (Value.tuple (r.remaining arguments)).literal?
  | none => (Value.tuple arguments).literal?

/-! ## Faults of text conversion -/

/-- A position in the data of a conversion. -/
def position : Value → Except Fault Int
  | .bool b => .ok (if b then 1 else 0)
  | .int n =>
    if fitsWord n then .ok n
    else .error ⟨"OverflowError", "int too large to convert to C ssize_t", .other⟩
  | _ => .error unsuitable

/-- An argument that has to be a text. -/
def textArgument : Value → Except Fault String
  | .text s => .ok s
  | _ => .error unsuitable

/-- The place of a conversion that failed, `first` to `last`, in words: a single item is shown, and
several are only located. Items are looked up in `data` and shown by `shown`. -/
def placeWords {α : Type} (data : List α) (item items : String) (shown : α → String)
    (first stop : Int) : String :=
  let range := items ++ " in position " ++ toString first ++ "-" ++ toString (stop - 1)
  if stop = first + 1 ∧ 0 ≤ first then match data[first.toNat]? with
    | some a => item ++ " " ++ shown a ++ " in position " ++ toString first
    | none => range
  else range

/-- A character in the words of a conversion that failed. -/
def shownChar (c : Char) : String :=
  "'" ++ String.ofList (Text.escapeScalar c.toNat) ++ "'"

/-- A byte in the words of a conversion that failed. -/
def shownByte (b : UInt8) : String := "0x" ++ String.ofList (Text.hexDigits 2 b.toNat)

/-- The words of bytes that are no text. -/
def decodeWords : List Value → Except Fault String
  | [codec, data, first, stop, reason] => do
    let codec ← textArgument codec
    let first ← position first
    let stop ← position stop
    let reason ← textArgument reason
    match data with
    | .bytes bs =>
      return "'" ++ codec ++ "' codec can't decode " ++
        placeWords bs "byte" "bytes" shownByte first stop ++ ": " ++ reason
    | _ => throw unsuitable
  | _ => throw unsuitable

/-- The words of a text that an encoding cannot write. -/
def encodeWords : List Value → Except Fault String
  | [codec, data, first, stop, reason] => do
    let codec ← textArgument codec
    let data ← textArgument data
    let first ← position first
    let stop ← position stop
    let reason ← textArgument reason
    return "'" ++ codec ++ "' codec can't encode " ++
      placeWords data.toList "character" "characters" shownChar first stop ++ ": " ++ reason
  | _ => throw unsuitable

/-- The words of a text that a table of characters cannot replace. -/
def replaceWords : List Value → Except Fault String
  | [data, first, stop, reason] => do
    let data ← textArgument data
    let first ← position first
    let stop ← position stop
    let reason ← textArgument reason
    return "can't translate " ++
      placeWords data.toList "character" "characters" shownChar first stop ++ ": " ++ reason
  | _ => throw unsuitable

/-! ## Faults of source text -/

/-- The items of a value that says where in a source text a fault is. -/
def sourceItems : Value → Except Fault (List Value)
  | .text s => .ok (s.toList.map fun c ↦ .text (String.singleton c))
  | .table entries => .ok (entries.map fun e ↦ .text e.1)
  | v => match v.items? with
    | some items => .ok items
    | none => .error unsuitable

/-- Where in a source text a fault is, in words: the last part of the file's path, and the line. A
line that does not fit a word is shown as one less than none. -/
def sourcePlace (file line : Value) : String :=
  let file := match file with
    | .text path => [String.ofList (Text.lastPiece '/' path.toList)]
    | _ => []
  let line := match line with
    | .int n => ["line " ++ toString (if fitsWord n then n else -1)]
    | _ => []
  match file ++ line with
  | [] => ""
  | parts => " (" ++ String.intercalate ", " parts ++ ")"

/-- The words of a fault of a source text. A second argument of two says where: a file and a line
first, and four or six items altogether. -/
def sourceWords : List Value → Except Fault (Option String)
  | [] => .ok (Value.null.text?)
  | [text, place] => do
    match ← sourceItems place with
    | [file, line, _, _] => return text.text?.map (· ++ sourcePlace file line)
    | [file, line, _, _, _, _] => return text.text?.map (· ++ sourcePlace file line)
    | _ => throw unsuitable
  | text :: _ => .ok text.text?

/-! ## Groups of faults -/

/-- What comes of raising a group of faults: its second argument holds values, which are no
faults. -/
def groupFault : List Value → Fault
  | [.text _, members] =>
    let items := match members with
      | .text s => some s.isEmpty
      | v => v.items?.map List.isEmpty
    match items with
    | some true =>
      ⟨"ValueError", "second argument (exceptions) must be a non-empty sequence", .other⟩
    | some false =>
      ⟨"ValueError", "Item 0 of second argument (exceptions) is not an exception", .other⟩
    | none => unsuitable
  | _ => unsuitable

end Fault

end MailDispatch
