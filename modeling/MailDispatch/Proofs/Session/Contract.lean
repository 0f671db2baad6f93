import MailDispatch.Proofs.Journal.Contract
import MailDispatch.Session.Basic

/-!
# What a session keeps

A session is opened under settings, and everything that it hands to the mail client comes from
them: `Call.Follows` says which call carries what. Its failures come from the server, or from a port
that is too long to be written.

`SessionContract` lists what a contract has to allow for a session to meet it, and
`ProgressContract` the part of that which the rest of a delivery needs too. The situation may change
in any way that only uses up answers of the server; nothing else in it matters for what a session
does or how it fails.
-/

namespace MailDispatch

variable {μ α : Type}

/-- What a call of the client takes from the settings of its session. -/
def Call.Follows (settings : SessionSettings) : Call μ → Prop
  | .construct options => options = settings.client
  | .connect timeout => timeout = settings.connectTimeout
  | .login credentials => settings.credentials = some credentials
  | _ => True

/-- A fault that the server raises at some point. -/
def Server.Raises (server : Server) (f : Fault) : Prop :=
  server.onConnect = .error f ∨ server.onLogin = .error f ∨ server.onQuit = .error f ∨
    ∃ a ∈ server.onSend, a.result = .error f

/-- A contract that allows everything but calls and questions to the secret store: log records,
states, and changes of the situation that leave the answers of the server alone or use them up. -/
structure ProgressContract (c : Contract Situation (Event μ) Failure) : Prop where
  record : ∀ r, c.event (.note (.record r))
  advance : ∀ next, c.event (.state next)
  situation : ∀ {s s' : Situation}, s'.answers <:+ s.answers → c.state s → c.state s'

/-- What a contract has to allow so that a session under settings with a server meets it. -/
structure SessionContract (settings : SessionSettings) (server : Server)
    (c : Contract Situation (Event μ) Failure) : Prop extends ProgressContract c where
  call : ∀ {k : Call μ}, k.Follows settings → c.event (.call k)
  raised : ∀ {f}, server.Raises f → c.failure (.fault f)
  /-- The answers that are still to come may be faults too. -/
  answered : ∀ {s : Situation} {a f}, c.state s → a ∈ s.answers → a.result = .error f →
    c.failure (.fault f)
  port : Decimal.numeral? settings.port = none → c.failure .longInteger

theorem Situation.eq_note_of_event? {s : Situation} {n : Note} {e : Event μ}
    (h : s.event? n = some e) : e = .note n := by
  cases n with
  | record r =>
    rw [event?] at h
    split at h
    · exact (Option.some.inj h).symm
    · cases h
  | lookup key => exact (Option.some.inj h).symm

namespace Work

open Activity

variable {c : Contract Situation (Event μ) Failure} {post : α → Prop}

/-- The preparation of a mail leaves notes and nothing else. -/
theorem meets_prepare {x : Preparation α} (hn : ∀ n ∈ x.events, c.event (.note n))
    (hr : EndsIn post c.failure x.result) : Meets c post (prepare x) :=
  Meets.ofTraced (fun _ n hx _ h ↦ Situation.eq_note_of_event? h ▸ hn n hx) hr

theorem meets_log (hr : ∀ r, c.event (.note (.record r))) (source : Source) (level : Level)
    (text : String) : Meets c (fun _ ↦ True) (log source level text) := by
  refine meets_prepare (fun n hn ↦ ?_) trivial
  rw [List.mem_singleton.mp hn]
  exact hr _

end Work

namespace ProgressContract

open Activity

variable {c : Contract Situation (Event μ) Failure} {post : α → Prop}

theorem advance_meets (h : ProgressContract c) (next : SendState) :
    Meets c (fun _ ↦ True) (Work.advance next) := by
  unfold Work.advance
  refine Meets.bind Meets.get fun s hs ↦ ?_
  refine Meets.bind (Work.meets_log h.record _ _ _) fun _ _ ↦ ?_
  refine Meets.bind (Meets.emit (h.advance next)) fun _ _ ↦ ?_
  exact Meets.modify fun _ ↦ h.situation (List.suffix_refl _)

theorem setConnected_meets (h : ProgressContract c) (b : Bool) :
    Meets c (fun _ ↦ True) (Work.setConnected b) :=
  Meets.modify fun _ ↦ h.situation (List.suffix_refl _)

theorem setProtocolThreshold_meets (h : ProgressContract c) (n : Nat) :
    Meets c (fun _ ↦ True) (Work.setProtocolThreshold n) :=
  Meets.modify fun _ ↦ h.situation (List.suffix_refl _)

theorem trace_meets (h : ProgressContract c) (enabled : Bool)
    (texts : List String) : Meets c (fun _ ↦ True) (Work.trace enabled texts) := by
  cases enabled with
  | false => exact Meets.pure trivial
  | true =>
    rw [Work.trace, if_pos rfl]
    induction texts with
    | nil => exact Meets.pure trivial
    | cons text rest ih => exact Meets.bind (Work.meets_log h.record _ _ _) fun _ _ ↦ ih

theorem traced_meets (h : ProgressContract c) (enabled : Bool)
    {x : Work μ α} (hx : Meets c post x) : Meets c post (Work.traced enabled x) := by
  unfold Work.traced
  refine Meets.bind Meets.get fun s hs ↦ ?_
  refine Meets.bind (h.setProtocolThreshold_meets _) fun _ _ ↦ Meets.ensuring hx ?_
  exact Meets.bind Meets.get fun _ _ ↦ h.setProtocolThreshold_meets _

end ProgressContract

/-! ## The steps of a session -/

namespace SessionContract

open Activity

variable {settings : SessionSettings} {server : Server}
  {c : Contract Situation (Event μ) Failure} {post : α → Prop}

theorem call_meets (h : SessionContract settings server c) {k : Call μ}
    (hk : k.Follows settings) : Meets c (fun _ ↦ True) (Session.call k) :=
  Meets.emit (h.call hk)

theorem answered_meets {r : Except Fault α} (hr : ∀ f, r = .error f → c.failure (.fault f)) :
    Meets c (fun _ ↦ True) (Session.answered r : Work μ α) := by
  refine Meets.ofResult ?_
  cases r with
  | ok a => trivial
  | error f => exact hr f rfl

theorem connect_meets (h : SessionContract settings server c) :
    Meets c (fun _ ↦ True) (Session.connect settings server) := by
  unfold Session.connect
  refine Meets.bind (h.call_meets rfl) fun _ _ ↦ Meets.bind (h.call_meets rfl) fun _ _ ↦ ?_
  refine Meets.bind (answered_meets fun f hf ↦ h.raised (.inl hf)) fun _ _ ↦ ?_
  exact Meets.bind (h.setConnected_meets _) fun _ _ ↦ Meets.pure trivial

theorem login_meets (h : SessionContract settings server c) :
    Meets c (fun _ ↦ True) (Session.login settings server) := by
  unfold Session.login
  cases hc : settings.credentials with
  | none => exact Meets.pure trivial
  | some credentials =>
    refine Meets.bind (Work.meets_log h.record _ _ _) fun _ _ ↦ ?_
    refine Meets.bind (h.call_meets hc) fun _ _ ↦ ?_
    -- after the login itself, it goes on alike whether the server hung up or not
    have hreply : Meets c (fun _ ↦ True) (Session.answered server.onLogin : Work μ Reply) :=
      answered_meets fun f hf ↦ h.raised (.inr (.inl hf))
    have hrest : Meets c (fun _ ↦ True) (do
        let reply ← Session.answered server.onLogin
        Work.log .session .debug "SMTP authentication successful"
        Work.trace settings.debug
          [ProtocolTrace.reply ("AUTH " ++ credentials.username) reply] : Work μ Unit) :=
      Meets.bind hreply fun _ _ ↦
        Meets.bind (Work.meets_log h.record _ _ _) fun _ _ ↦ h.trace_meets _ _
    split
    · exact Meets.bind (h.setConnected_meets false) fun _ _ ↦ hrest
    · exact hrest

theorem nextAnswer_meets (h : SessionContract settings server c) :
    Meets c (fun a ↦ ∀ f, a.result = .error f → c.failure (.fault f))
      (Session.nextAnswer : Work μ SendAnswer) := by
  unfold Session.nextAnswer
  refine Meets.bind Meets.get fun s hs ↦ ?_
  refine Meets.bind (Meets.modify fun _ ↦ h.situation (List.tail_suffix _)) fun _ _ ↦ ?_
  refine Meets.pure fun f hf ↦ ?_
  cases ha : s.answers with
  | nil => rw [ha] at hf; cases hf
  | cons a rest =>
    rw [ha] at hf
    exact h.answered hs (a := a) (by rw [ha]; exact List.mem_cons_self) hf

theorem send_meets (h : SessionContract settings server c) (message : μ) :
    Meets c (fun _ ↦ True) (Session.send settings message) := by
  unfold Session.send
  refine Meets.bind (h.call_meets trivial) fun _ _ ↦ ?_
  refine Meets.bind h.nextAnswer_meets fun answer ha ↦ ?_
  have hrest : Meets c (fun _ ↦ True) (do
      let acceptance ← Session.answered answer.result
      Work.trace settings.debug (ProtocolTrace.sent acceptance) : Work μ Unit) :=
    Meets.bind (answered_meets ha) fun _ _ ↦ h.trace_meets _ _
  split
  · exact Meets.bind (h.setConnected_meets false) fun _ _ ↦ hrest
  · exact hrest

theorem quit_meets (h : SessionContract settings server c) :
    Meets c (fun _ ↦ True) (Session.quit server : Work μ Unit) := by
  unfold Session.quit
  refine Meets.bind (Work.meets_log h.record _ _ _) fun _ _ ↦ ?_
  refine Meets.bind (h.call_meets trivial) fun _ _ ↦ ?_
  refine Meets.bind (answered_meets fun f hf ↦ h.raised (.inr (.inr (.inl hf)))) fun _ _ ↦ ?_
  exact h.setConnected_meets false

/-- A failure to say goodbye is logged or stays what it is. -/
theorem onFailedQuit_meets (h : SessionContract settings server c) {e : Failure}
    (he : c.failure e) : Meets c (fun _ ↦ True) (Session.onFailedQuit e : Work μ Unit) := by
  unfold Session.onFailedQuit
  split
  · split
    · refine Meets.bind (Work.meets_log h.record _ _ _) fun _ _ ↦ ?_
      exact Meets.bind (h.call_meets trivial) fun _ _ ↦ h.setConnected_meets false
    · exact Meets.fail he
  · exact Meets.fail he

theorem disconnect_meets (h : SessionContract settings server c) :
    Meets c (fun _ ↦ True) (Session.disconnect server : Work μ Unit) := by
  unfold Session.disconnect
  refine Meets.bind Meets.get fun s _ ↦ ?_
  split
  · exact Meets.rescue c.failure h.quit_meets fun _ ↦ h.onFailedQuit_meets
  · exact Meets.pure trivial

/-- A session meets every contract that its work meets. -/
theorem within_meets (h : SessionContract settings server c) {work : Work μ α}
    (hw : Meets c post work) : Meets c post (Session.within settings server work) := by
  unfold Session.within
  refine h.traced_meets _ ?_
  have hport : EndsIn (fun _ ↦ True) c.failure
      (orFail .longInteger (Decimal.numeral? settings.port)) := by
    cases hp : Decimal.numeral? settings.port with
    | none => exact h.port hp
    | some text => trivial
  refine Meets.bind (Meets.ofResult hport) fun port _ ↦ ?_
  refine Meets.bind (Work.meets_log h.record _ _ _) fun _ _ ↦ ?_
  refine Meets.bind h.connect_meets fun reply _ ↦ ?_
  refine Meets.bind (Work.meets_log h.record _ _ _) fun _ _ ↦ ?_
  refine Meets.bind (h.trace_meets _ _) fun _ _ ↦ ?_
  exact Meets.ensuring (Meets.bind h.login_meets fun _ _ ↦ hw) h.disconnect_meets

end SessionContract

end MailDispatch
