import MailDispatch.Delivery.Situation

/-!
# Tracing the protocol

While a session with the debug flag is open, the server's replies are logged. For that time the
threshold of protocol records is lowered, and afterwards it is what it was before. The trace holds
replies, extensions, refused recipients and the login name, and never a password.
-/

namespace MailDispatch

/-! ## The records -/

namespace ProtocolTrace

/-- The record of a reply to a command. -/
def reply (command : String) (r : Reply) : String := command ++ ": " ++ r.words

/-- A name that is in a list already counts once. -/
def addName (names : List String) (name : String) : List String :=
  if names.contains name then names else names ++ [name]

/-- The record of the extensions that a server offers: each once, in order. -/
def extensions (names : List String) : String :=
  let sorted := (names.foldl addName []).mergeSort fun a b ↦ a ≤ b
  let shown := String.intercalate ", " sorted
  "EHLO extensions: " ++ if shown.isEmpty then "none" else shown

/-- The records of a message that the server took: one for each recipient refused, and one for its
last word. -/
def sent (a : Acceptance) : List String :=
  a.refusals.map (fun r ↦ "RCPT " ++ r.recipient ++ " refused: " ++ r.reply.words) ++
    ["DATA: " ++ a.reply]

end ProtocolTrace

/-! ## Blocks -/

/-- A stretch of time in which the protocol may be traced: whether it is, and the threshold of
protocol records before it. -/
structure TraceBlock where
  enabled : Bool
  saved : Nat
  deriving DecidableEq, Repr

namespace TraceBlock

/-- The threshold that shows all records of a trace. -/
def openThreshold : Nat := Level.debug.rank

/-- The threshold of protocol records inside a block that is entered under `threshold`. -/
def enter (enabled : Bool) (threshold : Nat) : Nat := if enabled then openThreshold else threshold

/-- The threshold of protocol records after a block that is left under `threshold`. -/
def leave (b : TraceBlock) (threshold : Nat) : Nat := if b.enabled then b.saved else threshold

end TraceBlock

namespace Work

variable {μ α : Type}

/-- Logs texts as protocol records, if the protocol is traced. -/
def trace (enabled : Bool) (texts : List String) : Work μ Unit :=
  if enabled then texts.forM (log .protocol .debug) else pure ()

/-- `x` inside a block of its own. -/
def traced (enabled : Bool) (x : Work μ α) : Work μ α := do
  let before := (← Activity.get).thresholds.protocol
  setProtocolThreshold (TraceBlock.enter enabled before)
  Activity.ensuring x do
    let now := (← Activity.get).thresholds.protocol
    setProtocolThreshold (TraceBlock.leave ⟨enabled, before⟩ now)

end Work

end MailDispatch
