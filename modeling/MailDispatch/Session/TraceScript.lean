import MailDispatch.Session.Tracing

/-!
# Overlapping traces

Trace blocks entered and left one after the other, as sessions do that overlap in time. All of them
share one threshold of protocol records, which anything else may change as well.
-/

namespace MailDispatch

/-- A step in a sequence of overlapping traces. -/
inductive TraceStep where
  | enter (enabled : Bool)
  /-- The innermost block is left; `failed` says whether by a failure. -/
  | leave (failed : Bool)
  | setThreshold (n : Nat)
  | reply (command : String) (r : Reply)
  | extensions (names : List String)
  | sent (a : Acceptance)

/-- The shared thresholds and the blocks that are open, innermost first. -/
structure TraceScene where
  thresholds : Thresholds
  blocks : List TraceBlock := []

namespace TraceScene

/-- The scene under another threshold of protocol records. -/
def withProtocol (s : TraceScene) (n : Nat) : TraceScene :=
  { s with thresholds := { s.thresholds with protocol := n } }

/-- The records that the innermost block writes, as far as they are kept. -/
def records (s : TraceScene) (texts : List String) : List Record :=
  if (s.blocks.head?.map (·.enabled)).getD false then
    (texts.map fun text ↦ ⟨.debug, .protocol, text⟩).filter s.thresholds.passes
  else []

/-- What a step makes of a scene, and the records that it writes. -/
def step (s : TraceScene) : TraceStep → TraceScene × List Record
  | .enter enabled =>
    let before := s.thresholds.protocol
    ({ s.withProtocol (TraceBlock.enter enabled before) with
      blocks := ⟨enabled, before⟩ :: s.blocks }, [])
  | .leave _ => match s.blocks with
    | [] => (s, [])
    | b :: rest =>
      ({ s.withProtocol (b.leave s.thresholds.protocol) with blocks := rest }, [])
  | .setThreshold n => (s.withProtocol n, [])
  | .reply command r => (s, s.records [ProtocolTrace.reply command r])
  | .extensions names => (s, s.records [ProtocolTrace.extensions names])
  | .sent a => (s, s.records (ProtocolTrace.sent a))

end TraceScene

end MailDispatch
