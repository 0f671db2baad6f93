import MailDispatch.Proofs.Delivery.Course
import MailDispatch.Proofs.Delivery.Reporting

/-!
# The progress of a delivery

A delivery passes its states in a fixed order. It ends as sent, or as failed after some of the
states before; how far it came fixes under which kinds its failure may be reported, and the mail
client is not even constructed unless the failure is one of the transport. So a report says whether
another attempt makes sense exactly if somebody was called.
-/

namespace MailDispatch

/-- The states before a delivery is sent. -/
def underway : List SendState := [.configResolved, .composed, .sessionOpened]

/-- Whether a failure may be reported under a kind after the states in `reached`. -/
def FailureKind.FitsAfter (reached : List SendState) : FailureKind → Prop
  | .template => reached = []
  | .configuration => reached = [] ∨ reached = [.configResolved]
  | .attachment => reached = [.configResolved]
  | .transport => .composed ∈ reached
  | .named _ => False

variable {μ : Type}

/-- The client was told to connect, and the server accepted. -/
def Server.IsConnected (server : Server) (calls : List (Call μ)) : Prop :=
  (∃ timeout, .connect timeout ∈ calls) ∧ ∃ reply, server.onConnect = .ok reply

/-- The client was told to log in, and the server accepted. -/
def Server.IsLoggedIn (server : Server) (calls : List (Call μ)) : Prop :=
  (∃ credentials, .login credentials ∈ calls) ∧ ∃ reply, server.onLogin = .ok reply

namespace Delivery

open Activity Outcome Session

/-- How the states that a delivery passes, the calls of its client and its result belong
together. -/
structure IsOrderly (t : Task) (c : OperatorConfig) (server : Server) (states : List SendState)
    (calls : List (Call Message)) (r : Except Failure Receipt) : Prop where
  /-- What is sent has passed all states. -/
  sent : ∀ receipt, r = .ok receipt → states = underway ++ [.sent]
  /-- What is reported has failed after some of the states, the kind of the failure fits them, and
  another attempt makes sense exactly if there was a client. -/
  failed : ∀ f, r = .error (.task f) → ∃ reached, reached <+: underway ∧
    states = reached ++ [.failed] ∧ f.kind.FitsAfter reached ∧
    (f.isRetryable ↔ f.kind = .transport) ∧
    (f.isRetryable ↔ ∃ options, .construct options ∈ calls)
  /-- A session is opened exactly if there is a client for the endpoint of the task, and the server
  accepted the connection and, where the endpoint has a username, the login. -/
  opened : .sessionOpened ∈ states ↔
    ∃ e : Endpoint, (t.parameters.endpoint c).result = .ok e ∧
      .construct (SessionSettings.ofEndpoint e).client ∈ calls ∧ server.IsConnected calls ∧
      (e.username.isSome → server.IsLoggedIn calls)

/-! ## Preparation -/

/-- Whether a failure may arise in a preparation after the states in `reached`. -/
def ArisesAfter (reached : List SendState) (e : Failure) : Prop :=
  Foreseen False False e ∧ ∀ kind, preparationKind? e = some kind → kind.FitsAfter reached

theorem arisesAfter_of_unusable {reached : List SendState}
    (h : FailureKind.configuration.FitsAfter reached) {e : Failure} (he : Unusable False e) :
    ArisesAfter reached e := by
  refine ⟨he.foreseen False, ?_⟩
  intro kind hk
  cases e with
  | configuration _ => cases hk; exact h
  | longInteger => cases hk
  | _ => exact he.elim

/-- A template that cannot be read is a failure before any state is passed. -/
theorem arisesAfter_body (w : Workspace) (path : String) :
    EndsIn (fun _ ↦ True) (fun e ↦ ArisesAfter [] (Body.unreadable path e))
      (w.readText path .utf8) := by
  have hbytes : EndsIn (fun _ ↦ True) (fun e ↦ ArisesAfter [] (Body.unreadable path e))
      (w.readBytes path) := by
    cases h : w.readBytes path with
    | ok bs => trivial
    | error e =>
      rcases Workspace.readBytes_eq_error h with ⟨c, rfl⟩ | ⟨loc, rfl⟩ | ⟨f, rfl⟩
      · exact arisesAfter_of_unusable (.inl rfl) trivial
      · exact ⟨id, nofun⟩
      · exact ⟨trivial, fun kind hk ↦ by cases hk; rfl⟩
  refine EndsIn.bind hbytes fun bs _ ↦ ?_
  rw [Workspace.textOf]
  split
  · trivial
  · exact ⟨trivial, fun kind hk ↦ by cases hk; rfl⟩

/-- An attachment that cannot be read is a failure once the configuration is resolved. -/
theorem arisesAfter_attachment (w : Workspace) (path : String) :
    EndsIn (fun _ ↦ True) (fun e ↦ ArisesAfter [.configResolved] (Mail.unreadable path e))
      (w.readBytes path) := by
  cases h : w.readBytes path with
  | ok bs => trivial
  | error e =>
    rcases Workspace.readBytes_eq_error h with ⟨c, rfl⟩ | ⟨loc, rfl⟩ | ⟨f, rfl⟩
    · exact arisesAfter_of_unusable (.inr rfl) trivial
    · exact ⟨id, nofun⟩
    · exact ⟨trivial, fun kind hk ↦ by cases hk; rfl⟩

namespace Preparing

variable {t : Task} {c : OperatorConfig} {stamp : Stamp} {events : List (Event Message)}

/-- A preparation that fails has called nobody, and its failure fits the states passed. -/
theorem of_error {e : Failure} (h : Preparing t c stamp events (.error e)) :
    called events = [] ∧ passed events <+: underway ∧ passed events <+: [.configResolved] ∧
      ArisesAfter (passed events) e := by
  cases h with
  | unrendered hbody =>
    have hrender := Body.endsIn_render (p := t.parameters) False.elim
      (fun _ ↦ arisesAfter_of_unusable (.inl rfl)) (arisesAfter_body t.workspace)
    exact ⟨rfl, List.nil_prefix, List.nil_prefix, hrender.of_error hbody⟩
  | uncollected _ hmail =>
    have hunusable := (TaskParameters.endsIn_mail False.elim False.elim _).of_error hmail
    exact ⟨rfl, List.nil_prefix, List.nil_prefix, arisesAfter_of_unusable (.inl rfl) hunusable⟩
  | uncomposed _ hmail hmessage =>
    have hcontents := ((TaskParameters.endsIn_mail False.elim False.elim _).of_ok hmail).2
    have hcompose := Mail.endsIn_compose (arisesAfter_attachment t.workspace) hcontents stamp
    exact ⟨rfl, by decide, by decide, hcompose.of_error hmessage⟩

/-- What is prepared goes through the endpoint of the task. -/
theorem result_endpoint {p : Prepared} (h : Preparing t c stamp events (.ok p)) :
    (t.parameters.endpoint c).result = .ok p.mail.endpoint := by
  cases h with
  | composed _ hmail _ => exact (TaskParameters.mail_eq_ok hmail).1

/-- A preparation that succeeds has passed two states and called nobody. -/
theorem of_ok {p : Prepared} (h : Preparing t c stamp events (.ok p)) :
    called events = [] ∧ passed events = [.configResolved, .composed] := by
  cases h
  exact ⟨rfl, rfl⟩

end Preparing

/-! ## Transmission -/

section Transmission

variable {settings : SessionSettings} {server : Server} {message : Message}
  {answers : List SendAnswer} {events : List (Event Message)} {r : Except Failure Unit}

/-- A transmission fails by a fault, once there is a client, or because there is none. -/
theorem transmission_fails {e : Failure}
    (h : Session.Course settings server (handOver settings message) answers events (.error e)) :
    (e = .longInteger ∧ events = []) ∨
      ∃ f, e = .fault f ∧ .construct settings.client ∈ called events := by
  generalize hr : Except.error e = r at h
  cases h with
  | unwritten _ => cases hr; exact .inl ⟨rfl, rfl⟩
  | unreachable _ => cases hr; exact .inr ⟨_, rfl, by simp⟩
  | @rejected _ _ _ _ fault _ _ _ _ =>
    cases fault <;> cases hr <;> exact .inr ⟨_, rfl, by simp⟩
  | @opened _ s _ fault _ _ _ _ =>
    obtain ⟨s', hout⟩ := outline_handOver settings message s
    rw [(eq_of_outline hout).1] at hr
    refine .inr ?_
    cases fault with
    | some f => cases hr; exact ⟨_, rfl, by simp⟩
    | none =>
      cases ha : (s.answers.headD {}).result with
      | ok acceptance => rw [ha] at hr; cases hr
      | error f => rw [ha] at hr; cases hr; exact ⟨_, rfl, by simp⟩

/-- Nothing is called without a client. -/
theorem construct_mem_of_mem {k : Call Message}
    (h : Session.Course settings server (handOver settings message) answers events r)
    (hk : k ∈ called events) : .construct settings.client ∈ called events := by
  cases h with
  | unwritten _ => cases hk
  | _ => simp

/-- The state that a transmission passes, if any, and when it does. -/
theorem transmission_passes
    (h : Session.Course settings server (handOver settings message) answers events r) :
    (passed events = [] ∧ (∃ e, r = .error e) ∨ passed events = [.sessionOpened]) ∧
      (.sessionOpened ∈ passed events ↔ server.IsConnected (called events) ∧
        (settings.credentials.isSome → server.IsLoggedIn (called events))) := by
  cases h with
  | unwritten _ =>
    refine ⟨.inl ⟨rfl, _, rfl⟩, iff_of_false List.not_mem_nil ?_⟩
    rintro ⟨⟨⟨timeout, ht⟩, -⟩, -⟩
    cases ht
  | unreachable hconnect =>
    refine ⟨.inl ⟨rfl, _, rfl⟩, iff_of_false List.not_mem_nil ?_⟩
    rintro ⟨⟨-, reply, hreply⟩, -⟩
    cases hconnect.symm.trans hreply
  | @rejected _ f _ _ fault _ hcredentials hlogin hf =>
    rw [passed_append, passed_append, passed_opening, passed_loginCalls, hf.passed_eq_nil]
    refine ⟨.inl ⟨rfl, ?_⟩, iff_of_false List.not_mem_nil ?_⟩
    · cases fault <;> exact ⟨_, rfl⟩
    · rintro ⟨-, hlogged⟩
      obtain ⟨-, reply, hreply⟩ := hlogged hcredentials
      cases hlogin.symm.trans hreply
  | @opened reply s _ _ hconnect hlogin _ hf =>
    obtain ⟨s', hout⟩ := outline_handOver settings message s
    rw [(eq_of_outline hout).2.2]
    rw [passed_append, passed_append, passed_append, passed_opening, passed_loginCalls,
      hf.passed_eq_nil]
    refine ⟨.inr rfl, iff_of_true (List.mem_singleton_self _) ⟨⟨⟨settings.connectTimeout, ?_⟩,
      reply, hconnect⟩, ?_⟩⟩
    · simp
    · intro hcredentials
      obtain ⟨c, hc⟩ := Option.isSome_iff_exists.mp hcredentials
      refine ⟨⟨c, ?_⟩, hlogin hcredentials⟩
      simp [hc]

/-- A session is opened for the endpoint of a task exactly if the server accepts whatever the
endpoint asks for. -/
theorem sessionOpened_iff {t : Task} {c : OperatorConfig} {endpoint : Endpoint}
    (hendpoint : (t.parameters.endpoint c).result = .ok endpoint)
    (h : Session.Course (.ofEndpoint endpoint) server (handOver (.ofEndpoint endpoint) message)
      answers events r) :
    .sessionOpened ∈ passed events ↔
      ∃ e : Endpoint, (t.parameters.endpoint c).result = .ok e ∧
        .construct (SessionSettings.ofEndpoint e).client ∈ called events ∧
        server.IsConnected (called events) ∧
        (e.username.isSome → server.IsLoggedIn (called events)) := by
  have hcredentials : (SessionSettings.ofEndpoint endpoint).credentials.isSome
      ↔ endpoint.username.isSome := by
    rw [SessionSettings.ofEndpoint, Option.isSome_map]
  rw [(transmission_passes h).2, hcredentials]
  constructor
  · rintro ⟨hconnected, hlogged⟩
    obtain ⟨timeout, hcalled⟩ := hconnected.1
    exact ⟨endpoint, hendpoint, construct_mem_of_mem h hcalled, hconnected, hlogged⟩
  · rintro ⟨e, he, -, hconnected, hlogged⟩
    cases hendpoint.symm.trans he
    exact ⟨hconnected, hlogged⟩

end Transmission

/-! ## The whole delivery -/

section Reports

variable {kind? : Failure → Option FailureKind} {words : Failure → String} {e : Failure}
  {f : TaskFailure}

theorem kind_of_reportOf (h : reportOf kind? words e = .task f) (he : ∀ f, e ≠ .task f) :
    kind? e = some f.kind := by
  rw [reportOf] at h
  cases hk : kind? e with
  | none => rw [hk] at h; exact absurd h (he f)
  | some kind => rw [hk] at h; cases h; rfl

theorem failedIf_of_some {kind : FailureKind} (h : kind? e = some kind) :
    failedIf kind? e = [.state .failed] := by
  rw [failedIf, h]
  rfl

@[simp] theorem called_failedIf : called (failedIf kind? e) = [] := by
  rw [failedIf]
  split <;> rfl

theorem eq_failed_of_mem_failedIf {s : SendState} (h : s ∈ passed (failedIf kind? e)) :
    s = .failed := by
  rw [failedIf] at h
  split at h
  · exact List.mem_singleton.mp h
  · cases h

theorem isTransport_of_transmissionKind? {kind : FailureKind}
    (h : transmissionKind? e = some kind) : kind = .transport := by
  cases e with
  | fault g =>
    rw [transmissionKind?] at h
    split at h
    · exact (Option.some.inj h).symm
    · cases h
  | _ => cases h

theorem isRetryable_iff : f.isRetryable ↔ f.kind = .transport := by
  rw [TaskFailure.isRetryable, FailureKind.isRetryable, decide_eq_true_iff]

/-- What is reported of a transmission is a failure of the transport, once there is a client. -/
theorem transmission_reported {settings : SessionSettings} {server : Server} {message : Message}
    {answers : List SendAnswer} {events : List (Event Message)}
    (h : Session.Course settings server (handOver settings message) answers events (.error e))
    (hf : reportOf transmissionKind? words e = .task f) :
    transmissionKind? e = some f.kind ∧ f.kind = .transport ∧
      .construct settings.client ∈ called events := by
  have hcause := transmission_fails h
  have hkind : transmissionKind? e = some f.kind := by
    refine kind_of_reportOf hf ?_
    rintro f rfl
    rcases hcause with ⟨he, -⟩ | ⟨g, he, -⟩ <;> cases he
  refine ⟨hkind, isTransport_of_transmissionKind? hkind, ?_⟩
  rcases hcause with ⟨rfl, -⟩ | ⟨g, -, hclient⟩
  · cases hkind
  · exact hclient

end Reports

section Outcomes

variable {t : Task} {c : OperatorConfig} {server : Server} {stamp : Stamp}
  {answers : List SendAnswer} {before events : List (Event Message)} {p : Prepared}
  {e : Failure} {r : Except Failure Receipt}

/-- A delivery whose preparation fails has called nobody. -/
theorem isOrderly_of_unprepared (hprepare : Preparing t c stamp events (.error e))
    (words : Failure → String) :
    IsOrderly t c server (passed (events ++ failedIf preparationKind? e))
      (called (events ++ failedIf preparationKind? e))
      (.error (reportOf preparationKind? words e)) := by
  obtain ⟨hcalled, hunderway, hpassed, hforeseen, hfits⟩ := hprepare.of_error
  simp only [passed_append, called_append, called_failedIf, hcalled, List.append_nil]
  refine ⟨nofun, fun f hf ↦ ?_, iff_of_false ?_ ?_⟩
  · have hkind : preparationKind? e = some f.kind := by
      refine kind_of_reportOf (Except.error.inj hf) ?_
      rintro f rfl
      exact hforeseen
    have hne : f.kind ≠ .transport := by
      intro htransport
      have hmem := hfits _ hkind
      rw [htransport] at hmem
      cases List.mem_singleton.mp (hpassed.subset hmem)
    refine ⟨passed events, hunderway, ?_, hfits _ hkind, isRetryable_iff, iff_of_false ?_ ?_⟩
    · rw [failedIf_of_some hkind]
      rfl
    · rwa [isRetryable_iff]
    · exact fun ⟨options, hm⟩ ↦ nomatch hm
  · rw [List.mem_append]
    rintro (hm | hm)
    · cases List.mem_singleton.mp (hpassed.subset hm)
    · cases eq_failed_of_mem_failedIf hm
  · exact fun ⟨e, _, hm, _⟩ ↦ nomatch hm

/-- A delivery whose transmission fails is reported once there is a client, and only then. -/
theorem isOrderly_of_untransmitted (hprepare : Preparing t c stamp before (.ok p))
    (htransmit : Session.Course (.ofEndpoint p.mail.endpoint) server
      (handOver (.ofEndpoint p.mail.endpoint) p.message) answers events (.error e))
    (words : Failure → String) :
    IsOrderly t c server (passed (before ++ (events ++ failedIf transmissionKind? e)))
      (called (before ++ (events ++ failedIf transmissionKind? e)))
      (.error (reportOf transmissionKind? words e)) := by
  obtain ⟨hcalled, hpassed⟩ := hprepare.of_ok
  have hopened := sessionOpened_iff hprepare.result_endpoint htransmit
  simp only [passed_append, called_append, called_failedIf, hcalled, hpassed, List.nil_append,
    List.append_nil]
  refine ⟨nofun, fun f hf ↦ ?_, ?_⟩
  · obtain ⟨hkind, htransport, hclient⟩ :=
      transmission_reported htransmit (Except.error.inj hf)
    refine ⟨[.configResolved, .composed] ++ passed events, ?_, ?_, ?_, isRetryable_iff,
      iff_of_true (isRetryable_iff.mpr htransport) ⟨_, hclient⟩⟩
    · rcases (transmission_passes htransmit).1 with ⟨hnone, -⟩ | hone
      · rw [hnone]
        decide
      · rw [hone]
        decide
    · rw [failedIf_of_some hkind, List.append_assoc]
      rfl
    · rw [htransport]
      exact List.mem_append_left _ (List.mem_cons_of_mem _ (List.mem_singleton_self _))
  · rw [← hopened]
    simp only [List.mem_append]
    constructor
    · rintro (hm | hm | hm)
      · exact absurd hm (by decide)
      · exact hm
      · cases eq_failed_of_mem_failedIf hm
    · exact fun hm ↦ .inr (.inl hm)

/-- A delivery that is transmitted has passed all states. -/
theorem isOrderly_of_delivered (hprepare : Preparing t c stamp before (.ok p))
    (htransmit : Session.Course (.ofEndpoint p.mail.endpoint) server
      (handOver (.ofEndpoint p.mail.endpoint) p.message) answers events (.ok ()))
    (receipt : Receipt) :
    IsOrderly t c server (passed (before ++ (events ++ [.state .sent])))
      (called (before ++ (events ++ [.state .sent]))) (.ok receipt) := by
  obtain ⟨hcalled, hpassed⟩ := hprepare.of_ok
  have hopened := sessionOpened_iff hprepare.result_endpoint htransmit
  have hone : passed events = [.sessionOpened] := by
    rcases (transmission_passes htransmit).1 with ⟨-, e, he⟩ | hone
    · cases he
    · exact hone
  simp only [passed_append, called_append, hcalled, hpassed, List.nil_append, called_cons_state,
    called_nil, List.append_nil]
  refine ⟨fun receipt _ ↦ ?_, nofun, ?_⟩
  · rw [hone]
    rfl
  · rw [← hopened, hone]
    exact iff_of_true (by decide) (by decide)

theorem Course.isOrderly (h : Course t c server stamp answers events r) :
    IsOrderly t c server (passed events) (called events) r := by
  cases h with
  | unprepared hprepare => exact isOrderly_of_unprepared hprepare _
  | untransmitted hprepare _ htransmit => exact isOrderly_of_untransmitted hprepare htransmit _
  | delivered hprepare _ htransmit => exact isOrderly_of_delivered hprepare htransmit _

end Outcomes

/-- **The progress of a delivery.** Every delivery passes its states in order; what it passes, whom
it calls and what it reports belong together as `IsOrderly` says. -/
theorem isOrderly_start (t : Task) (c : OperatorConfig) (server : Server) (stamp : Stamp)
    (thresholds : Thresholds) :
    IsOrderly t c server (passed (start t c server stamp thresholds).events)
      (called (start t c server stamp thresholds).events)
      (start t c server stamp thresholds).result := by
  have hcourse := run_course t c server stamp { thresholds, answers := server.onSend }
  rw [← passed_milestones, ← called_milestones]
  exact hcourse.isOrderly

/-- A task that brings along all that a mail needs. -/
private def enough : Task where
  raw := [("host", .text "mx"), ("port", .int 25), ("to", .text "bob@mx.org"),
    ("from", .text "ann@mx.org"), ("subject", .text "Hi"), ("body", .text "Hello")]
  secrets := .ofTable []
  workspace := ⟨.empty, []⟩

/-- A mail that is sent. -/
example : passed (start enough {} {} ⟨"now", "1", "here"⟩ ⟨0, 0⟩).events
    = [.configResolved, .composed, .sessionOpened, .sent] := by
  cbv

end Delivery

end MailDispatch
