import MailDispatch.Address.Sequence
import MailDispatch.Failure

/-!
# Accepted addresses

An address is accepted if its text holds exactly one, of the form local part, at sign, domain, and
if reading it left nothing out: a bare address must be the whole text, and only an address in angle
brackets may have a display name in front of it.
-/

namespace MailDispatch.Address

open Text (isBlank trim lastPiece)

/-- The characters that the two parts of an accepted address consist of. -/
def isPlain (c : Char) : Bool := !(isBlank c || ['@', '<', '>', ',', ';'].contains c)

/-- Whether an address is a local part, an at sign and a domain that does not start with a dot. -/
def isWellFormed (address : List Char) : Bool :=
  match address.dropWhile isPlain with
  | '@' :: d :: rest =>
    !(address.takeWhile isPlain).isEmpty && isPlain d && d != '.' && rest.all isPlain
  | _ => false

/-- The one address in a text, if the text is acceptable. -/
def ofText? (s : List Char) : Option (List Char) :=
  match addresses s with
  | [address] =>
    if isWellFormed address && (s.contains '<' || address == trim s) then some address else none
  | _ => none

/-- The refusal of a value that is no single address; it shows the value. -/
def refuse {α : Type} (v : Value) : Except Failure α :=
  v.literal.bind fun shown ↦ .error (.configuration (.invalidAddress v shown))

/-- An address as it was given, without white space around it, or else the refusal. -/
def validate : Value → Except Failure String
  | .text s => match ofText? s.toList with
    | some _ => .ok (String.ofList (trim s.toList))
    | none => refuse (.text s)
  | v => refuse v

/-- The domain of an address, if it has one: what follows its last at sign. -/
def domainOf (s : List Char) : Option (List Char) :=
  let address := soleAddress s
  if address.contains '@' then some (lastPiece '@' address) else none

end MailDispatch.Address
