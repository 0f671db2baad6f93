/-!
# Access lists

An access list declares which keys of a task may come from a secret scope, and which from nowhere
else. A key that may only be a secret is never read from the task's own parameters.
-/

namespace MailDispatch

/-- Which keys may be read as secrets. -/
structure AccessList where
  scope : String
  /-- Keys that may be secrets or plain parameters. -/
  readable : List String
  /-- Keys that may only be secrets. -/
  secretOnly : List String

namespace AccessList

/-- Whether a key may be read as a secret. -/
def allowsSecret (a : AccessList) (key : String) : Bool :=
  a.readable.contains key || a.secretOnly.contains key

/-- Whether a key may be read as a plain parameter. -/
def allowsPlain (a : AccessList) (key : String) : Bool := !a.secretOnly.contains key

/-- The declaration of the mail task: the endpoint may be secret, the password must be. -/
def mail : AccessList where
  scope := "mail"
  readable := ["host", "port", "tls", "ssl", "username"]
  secretOnly := ["password"]

/-- A key that may only be a secret is never plain. -/
theorem allowsPlain_eq_false_iff {a : AccessList} {key : String} :
    a.allowsPlain key = false ↔ key ∈ a.secretOnly := by
  simp [allowsPlain]

end AccessList

end MailDispatch
