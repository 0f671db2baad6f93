import MailDispatch.Failure

/-!
# Choosing between candidates

Where a setting may come from several places, the candidates are listed in the order of their
precedence and the first one that is set wins. That none is set is a result too, and becomes an
error only where the field is required.
-/

namespace MailDispatch

/-- What became of a choice. -/
inductive Choice (α : Type) where
  | present (value : α)
  | missing (field : String)
  deriving DecidableEq, Repr

namespace Choice

variable {α : Type}

/-- The first candidate that is set. -/
def first (field : String) : List (Option α) → Choice α
  | [] => .missing field
  | some a :: _ => .present a
  | none :: rest => first field rest

/-- The chosen value; that it is missing is an error here. -/
def require : Choice α → Except Failure α
  | .present a => .ok a
  | .missing field => .error (.configuration (.missingField field none))

/-- The literal of a choice between values. -/
def literal : Choice Value → Except Failure String
  | .present v => v.literal.map fun shown ↦ call "Present" ["value=" ++ shown]
  | .missing field => .ok (call "MissingRequired" ["field=" ++ Text.quoted field])

/-- A value is chosen exactly if it stands first among the candidates that are set. -/
theorem first_eq_present_iff {field : String} {candidates : List (Option α)} {a : α} :
    first field candidates = .present a ↔ candidates.findSome? id = some a := by
  induction candidates with
  | nil => simp [first]
  | cons c rest ih => cases c <;> simp [first, ih]

end Choice

end MailDispatch
