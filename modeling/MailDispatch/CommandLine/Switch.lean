import MailDispatch.Text.Digit
import MailDispatch.Text.Quoted

/-!
# Words of a command line

A word of a command line is a plain text, a switch, or the separator behind which everything is
plain. A switch may be cut short to any beginning that no other switch shares, and its argument may
follow an equals sign. A word with a dash in front that names no switch is plain if it looks like a
negative number or holds a blank, and unknown otherwise.
-/

namespace MailDispatch.CommandLine

/-- The switches. -/
inductive Switch where
  | help
  | version
  | paths
  | initConfig
  | config
  | workspace
  | debug
  deriving DecidableEq, Repr

namespace Switch

/-- Every spelling of a switch, in the order in which they are listed. -/
def spellings : List (String × Switch) :=
  [("-h", .help), ("--help", .help), ("--version", .version), ("--paths", .paths),
    ("--init-config", .initConfig), ("--config", .config), ("--workspace", .workspace),
    ("--debug", .debug)]

/-- What errors call a switch: all its spellings. -/
def name (s : Switch) : String :=
  String.intercalate "/" ((spellings.filter fun x ↦ x.2 = s).map (·.1))

end Switch

/-- A switch in use. -/
structure SwitchUse where
  switch : Switch
  /-- Whether it is spelled with a single dash, so that other letters may follow. -/
  short : Bool := false
  /-- Whether an equals sign stands in front of what follows. -/
  marked : Bool := false
  /-- What follows in the same word. -/
  explicit : Option (List Char) := none
  deriving DecidableEq, Repr

/-- A word of a command line. -/
inductive Word where
  | plain (text : String)
  | separator
  | switch (use : SwitchUse)
  | unknown (text : String)
  deriving DecidableEq, Repr

/-- The text before the first equals sign, and the text behind it if there is one. -/
def splitAtEquals (s : List Char) : List Char × Option (List Char) :=
  match s.dropWhile (· != '=') with
  | [] => (s, none)
  | _ :: rest => (s.takeWhile (· != '='), some rest)

/-- The switch with exactly this spelling. -/
def spelled? (s : List Char) : Option Switch := Switch.spellings.lookup (String.ofList s)

/-- The spellings that begin with a text. -/
def candidates (s : List Char) : List (String × Switch) :=
  Switch.spellings.filter fun x ↦ s.isPrefixOf x.1.toList

/-- Digits, possibly behind a point and other digits. -/
def isUnsignedNumber (s : List Char) : Bool :=
  let isDigit (c : Char) : Bool := (Text.digitValue? c).isSome
  match s.dropWhile isDigit with
  | [] => !s.isEmpty
  | '.' :: rest => !rest.isEmpty && rest.all isDigit
  | _ => false

/-- Whether a word looks like a negative number. A line feed at its end does not count. -/
def isNegativeNumber : List Char → Bool
  | '-' :: rest =>
    isUnsignedNumber (if rest.getLast? = some '\n' then rest.dropLast else rest)
  | _ => false

/-- A word with a dash in front that names no switch. -/
def withoutSwitch (s : List Char) : Word :=
  if isNegativeNumber s || s.contains ' ' then .plain (String.ofList s)
  else .unknown (String.ofList s)

/-- Why a word may be two switches. -/
def ambiguity (s : List Char) (found : List (String × Switch)) : String :=
  "ambiguous option: " ++ String.ofList s ++ " could match " ++
    String.intercalate ", " (found.map (·.1))

/-- A word with two dashes in front that spells no switch in full. -/
def abbreviated (s : List Char) : Except String Word :=
  let (start, explicit) := splitAtEquals s
  match candidates start with
  | [] => .ok (withoutSwitch s)
  | [(_, switch)] => .ok (.switch { switch, marked := explicit.isSome, explicit })
  | found => .error (ambiguity s found)

/-- A word with one dash in front that spells no switch in full. -/
def clustered (s : List Char) : Word :=
  match spelled? (s.take 2) with
  | some switch => .switch { switch, short := true, explicit := some (s.drop 2) }
  | none => withoutSwitch s

/-- Whether a spelling has a single dash. -/
def isShort (s : List Char) : Bool := s.take 2 != ['-', '-']

/-- What a word in front of the separator is, or why it cannot be told. -/
def classify (s : List Char) : Except String Word :=
  if s.head? != some '-' || s.length = 1 then .ok (.plain (String.ofList s))
  else match spelled? s with
    | some switch => .ok (.switch { switch, short := isShort s })
    | none =>
      let (start, explicit) := splitAtEquals s
      match spelled? start, explicit with
      | some switch, some e =>
        .ok (.switch { switch, short := isShort s, marked := true, explicit := some e })
      | _, _ => if isShort s then .ok (clustered s) else abbreviated s

/-- The words of a command line. -/
def words : List String → Except String (List Word)
  | [] => .ok []
  | "--" :: rest => .ok (.separator :: rest.map .plain)
  | arg :: rest => do
    let word ← classify arg.toList
    let others ← words rest
    return word :: others

end MailDispatch.CommandLine
