import MailDispatch.Delivery.History
import MailDispatch.Proofs.Session.Milestones

/-!
# Deliveries do not depend on those before

The only thing that a delivery changes for those after it is the threshold of protocol records, and
only while a session with the debug flag is open: its trace block puts the threshold back however
the session ends. So a whole delivery leaves the thresholds as they were (`leavesThresholds_run`),
and each of a sequence is what it would be on its own.

What leaves the thresholds alone is said by a contract, whose rules do most of the work; a trace
block is the one place that changes them, and it has a proof of its own.
-/

namespace MailDispatch

open Activity

variable {μ α β : Type}

/-- Whether an activity leaves the thresholds as they were, however it ends. -/
structure LeavesThresholds (x : Work μ α) : Prop where
  thresholds_eq : ∀ s, (x s).state.thresholds = s.thresholds

/-- The same as a contract: the thresholds that are in force at its beginning stay in force. -/
def underThresholds (t : Thresholds) : Contract Situation (Event μ) Failure where
  state s := s.thresholds = t

namespace LeavesThresholds

theorem meets {x : Work μ α} (hx : LeavesThresholds x) (t : Thresholds) :
    Meets (underThresholds t) (fun _ ↦ True) x := by
  intro s hs
  exact ⟨(hx.thresholds_eq s).trans hs, fun _ _ ↦ trivial, .any _⟩

theorem of_meets {x : Work μ α} (h : ∀ t, Meets (underThresholds t) (fun _ ↦ True) x) :
    LeavesThresholds x :=
  ⟨fun s ↦ (h s.thresholds s rfl).1⟩

theorem ofResult (r : Except Failure α) : LeavesThresholds (Activity.ofResult r : Work μ α) :=
  ⟨fun _ ↦ rfl⟩

theorem get : LeavesThresholds (Activity.get : Work μ Situation) :=
  ⟨fun _ ↦ rfl⟩

theorem bind {x : Work μ α} {f : α → Work μ β} (hx : LeavesThresholds x)
    (hf : ∀ a, LeavesThresholds (f a)) : LeavesThresholds (x >>= f) :=
  of_meets fun t ↦ (hx.meets t).bind fun a _ ↦ (hf a).meets t

theorem rescue {x : Work μ α} {handler : Failure → Work μ α} (hx : LeavesThresholds x)
    (hh : ∀ e, LeavesThresholds (handler e)) : LeavesThresholds (x.rescue handler) :=
  of_meets fun t ↦ Meets.rescue (fun _ ↦ True) (hx.meets t) fun e _ ↦ (hh e).meets t

theorem ensuring {x : Work μ α} {last : Work μ Unit} (hx : LeavesThresholds x)
    (hl : LeavesThresholds last) : LeavesThresholds (x.ensuring last) :=
  of_meets fun t ↦ (hx.meets t).ensuring (hl.meets t)

end LeavesThresholds

/-! ## Steps -/

namespace Work

theorem leavesThresholds_prepare (x : Preparation α) : LeavesThresholds (prepare x : Work μ α) :=
  ⟨fun _ ↦ rfl⟩

theorem leavesThresholds_log (source : Source) (level : Level) (text : String) :
    LeavesThresholds (log source level text : Work μ Unit) :=
  leavesThresholds_prepare _

theorem leavesThresholds_setConnected (b : Bool) :
    LeavesThresholds (setConnected b : Work μ Unit) :=
  ⟨fun _ ↦ rfl⟩

theorem leavesThresholds_advance (next : SendState) :
    LeavesThresholds (advance next : Work μ Unit) :=
  ⟨fun _ ↦ rfl⟩

theorem leavesThresholds_trace (enabled : Bool) (texts : List String) :
    LeavesThresholds (trace enabled texts : Work μ Unit) := by
  cases enabled with
  | false => exact .ofResult (.ok ())
  | true =>
    rw [trace, if_pos rfl]
    induction texts with
    | nil => exact .ofResult (.ok ())
    | cons text rest ih => exact (leavesThresholds_log ..).bind fun _ ↦ ih

/-- A trace block changes the threshold of protocol records and puts it back. -/
theorem leavesThresholds_traced (enabled : Bool) {x : Work μ α} (hx : LeavesThresholds x) :
    LeavesThresholds (traced enabled x) := by
  refine ⟨fun s ↦ ?_⟩
  have hinside := hx.thresholds_eq (tracing enabled s)
  show { (x (tracing enabled s)).state.thresholds with
    protocol := TraceBlock.leave ⟨enabled, s.thresholds.protocol⟩
      (x (tracing enabled s)).state.thresholds.protocol } = s.thresholds
  rw [hinside]
  cases enabled <;> rfl

end Work

/-! ## Sessions -/

namespace Session

variable (settings : SessionSettings) (server : Server)

theorem leavesThresholds_call (k : Call μ) : LeavesThresholds (call k) :=
  ⟨fun _ ↦ rfl⟩

theorem leavesThresholds_answered (r : Except Fault α) :
    LeavesThresholds (answered r : Work μ α) :=
  .ofResult _

theorem leavesThresholds_connect : LeavesThresholds (connect settings server : Work μ Reply) := by
  unfold connect
  refine (leavesThresholds_call _).bind fun _ ↦ (leavesThresholds_call _).bind fun _ ↦ ?_
  refine (leavesThresholds_answered _).bind fun reply ↦ ?_
  exact (Work.leavesThresholds_setConnected _).bind fun _ ↦ .ofResult (.ok reply)

/-- What is done after the connection may have dropped. -/
theorem leavesThresholds_dropping (drops : Bool) {rest : Unit → Work μ α}
    (h : LeavesThresholds (rest ())) :
    LeavesThresholds (if drops then Work.setConnected false >>= rest else rest ()) := by
  cases drops with
  | false => exact h
  | true => exact (Work.leavesThresholds_setConnected false).bind fun _ ↦ h

theorem leavesThresholds_login : LeavesThresholds (login settings server : Work μ Unit) := by
  unfold login
  cases settings.credentials with
  | none => exact .ofResult (.ok ())
  | some c =>
    refine (Work.leavesThresholds_log ..).bind fun _ ↦ ?_
    refine (leavesThresholds_call _).bind fun _ ↦ leavesThresholds_dropping _ ?_
    refine (leavesThresholds_answered _).bind fun _ ↦ ?_
    exact (Work.leavesThresholds_log ..).bind fun _ ↦ Work.leavesThresholds_trace ..

theorem leavesThresholds_send (message : μ) : LeavesThresholds (send settings message) := by
  unfold send
  refine (leavesThresholds_call _).bind fun _ ↦ ?_
  refine LeavesThresholds.bind ⟨fun _ ↦ rfl⟩ fun answer ↦ ?_
  refine leavesThresholds_dropping _ ?_
  exact (leavesThresholds_answered _).bind fun _ ↦ Work.leavesThresholds_trace ..

theorem leavesThresholds_disconnect : LeavesThresholds (disconnect server : Work μ Unit) := by
  unfold disconnect
  refine .bind .get fun s ↦ ?_
  split
  · refine .rescue ?_ fun e ↦ ?_
    · unfold quit
      refine (Work.leavesThresholds_log ..).bind fun _ ↦ (leavesThresholds_call _).bind fun _ ↦ ?_
      exact (leavesThresholds_answered _).bind fun _ ↦ Work.leavesThresholds_setConnected false
    · unfold onFailedQuit
      split
      · split
        · refine (Work.leavesThresholds_log ..).bind fun _ ↦ ?_
          exact (leavesThresholds_call _).bind fun _ ↦ Work.leavesThresholds_setConnected false
        · exact .ofResult _
      · exact .ofResult _
  · exact .ofResult (.ok ())

/-- A session leaves the thresholds as they were if its work does. -/
theorem leavesThresholds_within {work : Work μ α} (hw : LeavesThresholds work) :
    LeavesThresholds (within settings server work) := by
  unfold within
  refine Work.leavesThresholds_traced _ ?_
  refine (LeavesThresholds.ofResult _).bind fun port ↦ ?_
  refine (Work.leavesThresholds_log ..).bind fun _ ↦ ?_
  refine (leavesThresholds_connect settings server).bind fun reply ↦ ?_
  refine (Work.leavesThresholds_log ..).bind fun _ ↦ ?_
  refine (Work.leavesThresholds_trace ..).bind fun _ ↦ ?_
  exact ((leavesThresholds_login settings server).bind fun _ ↦ hw).ensuring
    (leavesThresholds_disconnect server)

end Session

/-! ## Deliveries -/

namespace Delivery

theorem leavesThresholds_prepare (t : Task) (config : OperatorConfig) (stamp : Stamp) :
    LeavesThresholds (prepare t config stamp) := by
  unfold prepare
  refine (Work.leavesThresholds_prepare _).bind fun body ↦ ?_
  refine (Work.leavesThresholds_prepare _).bind fun mail ↦ ?_
  refine (Work.leavesThresholds_advance _).bind fun _ ↦ ?_
  refine (Work.leavesThresholds_prepare _).bind fun message ↦ ?_
  exact (Work.leavesThresholds_advance _).bind fun _ ↦ .ofResult (.ok (Prepared.mk mail message))

theorem leavesThresholds_transmit (settings : SessionSettings) (server : Server)
    (message : Message) : LeavesThresholds (transmit settings server message) := by
  unfold transmit
  refine Session.leavesThresholds_within settings server ?_
  refine (Work.leavesThresholds_advance _).bind fun _ ↦ ?_
  refine (Work.leavesThresholds_log ..).bind fun _ ↦ ?_
  exact Session.leavesThresholds_send settings message

theorem leavesThresholds_reporting (kind? : Failure → Option FailureKind)
    (words : Failure → String) {step : Work Message α} (h : LeavesThresholds step) :
    LeavesThresholds (reporting kind? words step) := by
  refine h.rescue fun e ↦ ?_
  split
  · unfold report
    refine .bind .get fun s ↦ (Work.leavesThresholds_log ..).bind fun _ ↦ ?_
    exact (Work.leavesThresholds_advance _).bind fun _ ↦ .ofResult _
  · exact .ofResult _

/-- A delivery leaves the thresholds as they were, however it ends. -/
theorem leavesThresholds_run (t : Task) (config : OperatorConfig) (server : Server)
    (stamp : Stamp) : LeavesThresholds (run t config server stamp) := by
  unfold run
  refine (leavesThresholds_reporting _ _ (leavesThresholds_prepare t config stamp)).bind fun p ↦ ?_
  refine (LeavesThresholds.ofResult _).bind fun endpoint ↦ ?_
  refine (leavesThresholds_reporting _ _ (leavesThresholds_transmit _ server p.message)).bind
    fun _ ↦ ?_
  refine (Work.leavesThresholds_advance _).bind fun _ ↦ ?_
  exact (Work.leavesThresholds_log ..).bind fun _ ↦ .ofResult (.ok _)

/-! ## Sequences of deliveries -/

theorem thresholds_alone (e : Errand) (config : OperatorConfig) (root : Location)
    (files : FileTree) (thresholds : Thresholds) :
    (e.alone config root files thresholds).state.thresholds = thresholds :=
  (leavesThresholds_run _ config e.server e.stamp).thresholds_eq _

/-- Each delivery of a sequence is what it would be by a sender of its own with the files as they
are then, and leaves the thresholds as they were before the first. -/
theorem inTurn_alone (config : OperatorConfig) (root : Location) (files : FileTree)
    (thresholds : Thresholds) (errands : List Errand) (place : Nat) :
    let runs := inTurn config root files thresholds errands
    runs[place]? = errands[place]?.map (fun e ↦
        e.alone config root (filesAt files errands place) thresholds) ∧
      runs[place]?.map (·.state.thresholds) = errands[place]?.map fun _ ↦ thresholds := by
  induction errands generalizing files place with
  | nil => exact ⟨rfl, rfl⟩
  | cons e rest ih =>
    have hkept := thresholds_alone e config root (e.edit files) thresholds
    rw [inTurn, hkept]
    cases place with
    | zero => exact ⟨rfl, congrArg some hkept⟩
    | succ place => exact ih (e.edit files) place

/-- A mail to one recipient, in a session that shows its protocol records. -/
private def errandTo (recipient token : String) : Errand where
  edit := id
  raw := [("host", .text "mx"), ("port", .int 25), ("debug", .bool true), ("to", .text recipient),
    ("from", .text "ann@mx.org"), ("subject", .text "Hi"), ("body", .text "Hello")]
  secrets := .ofTable []
  server := {}
  stamp := ⟨"now", token, "here"⟩

/-- Two mails are sent, and each has its own receipt. -/
example : (inTurn {} [] .empty ⟨Level.info.rank, 0⟩
      [errandTo "bob@mx.org" "1", errandTo "eve@mx.org" "2"]).map (·.result)
    = [.ok ⟨"<1@mx.org>", ["bob@mx.org"], "mx:25 (user)", .sent⟩,
      .ok ⟨"<2@mx.org>", ["eve@mx.org"], "mx:25 (user)", .sent⟩] := by
  cbv

end Delivery

end MailDispatch
