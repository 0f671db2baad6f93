import MailDispatch.Session.TraceScript

/-!
# Sessions that overlap

Sessions that run at the same time share one threshold of protocol records. Each of them has a trace
block, which is entered when the session opens and left when it ends, and nothing orders the blocks
of different sessions: unlike those of a `TraceScene`, they need not be left in the reverse order in
which they were entered.
-/

namespace MailDispatch

/-- What a session does to the shared threshold: it enters its trace block, or it leaves it. A block
is given by its place among the open ones, the one entered first in front. -/
inductive TraceTurn where
  | enter (enabled : Bool)
  | leave (place : Nat)
  deriving DecidableEq, Repr

/-- The shared threshold of protocol records, and the blocks that are open in the order in which
they were entered. -/
structure Overlap where
  threshold : Nat
  blocks : List TraceBlock := []
  deriving DecidableEq, Repr

namespace Overlap

/-- What comes of a turn. Where no block stands there is none to be left. -/
def turn (o : Overlap) : TraceTurn → Overlap
  | .enter enabled =>
    ⟨TraceBlock.enter enabled o.threshold, o.blocks ++ [⟨enabled, o.threshold⟩]⟩
  | .leave place => match o.blocks[place]? with
    | none => o
    | some b => ⟨b.leave o.threshold, o.blocks.eraseIdx place⟩

/-- What comes of turns in any order, starting under a threshold with no block open. -/
def after (before : Nat) (turns : List TraceTurn) : Overlap := turns.foldl turn ⟨before, []⟩

/-- Whether the protocol is traced by some open block. -/
def isTracing (o : Overlap) : Bool := o.blocks.any (·.enabled)

end Overlap

end MailDispatch
