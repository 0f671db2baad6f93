import MailDispatch.Proofs.Decimal.Numeral
import MailDispatch.Proofs.Delivery.Contract
import MailDispatch.Proofs.Operator.Layout

/-!
# Isolation of endpoints

No task can bring the operator's credentials together with a host of its own, nor the other way
round. For a task with a host this is a statement about two deliveries: whatever endpoint the
operator has set up, they are the same computation, so that no result, event or state can tell the
endpoints apart. For a task without a host it is one about every call of the client: what a call
carries comes from the operator's endpoint. Such a task is given that endpoint as it is, unless its
port is too long to be written: the choice of an endpoint is logged before anything is done with it.
-/

namespace MailDispatch.Delivery

open Activity

/-! ## Tasks with a host -/

/-- A delivery depends on the operator's configuration only through the mail that is collected. -/
theorem run_congr {t : Task} {c c' : OperatorConfig}
    (h : ∀ body, t.parameters.mail c body = t.parameters.mail c' body) (server : Server)
    (stamp : Stamp) : run t c server stamp = run t c' server stamp := by
  have hprepare : prepare t c stamp = prepare t c' stamp := by
    unfold prepare
    simp only [h]
  rw [run, run, hprepare]

/-! ## Tasks without a host -/

/-- The contract under which calls carry nothing but what an endpoint of `c` says. -/
def callsOf (c : OperatorConfig) : Contract Situation (Event Message) Failure where
  event e := ∀ k, e = .call k →
    ∃ endpoint, c.endpoint = some endpoint ∧ k.Follows (.ofEndpoint endpoint)

theorem progress_callsOf (c : OperatorConfig) : ProgressContract (callsOf c) where
  record _ _ h := nomatch h
  advance _ _ h := nomatch h
  situation _ _ := trivial

theorem session_callsOf {c : OperatorConfig} {endpoint : Endpoint}
    (h : c.endpoint = some endpoint) (server : Server) :
    SessionContract (.ofEndpoint endpoint) server (callsOf c) where
  toProgressContract := progress_callsOf c
  call hk _ he := by
    cases he
    exact ⟨endpoint, h, hk⟩
  raised _ := trivial
  answered _ _ _ := trivial
  port _ := trivial

/-- A task without a host is given the operator's endpoint, if its port can be written. -/
theorem endpoint_of_hostless {p : TaskParameters} {c : OperatorConfig} {e : Endpoint}
    (h : (p.get "host").result = .ok none) (hc : c.endpoint = some e) :
    (p.endpoint c).result =
      if (Decimal.numeral? e.port).isSome then .ok e else .error .longInteger := by
  rw [TaskParameters.result_endpoint_of_none h, hc]
  show e.text.map (fun _ ↦ e) = _
  rw [Endpoint.text, Endpoint.text?]
  cases Decimal.numeral? e.port <;> rfl

/-- The mail of a task without a host goes through the operator's endpoint. -/
theorem endpoint_of_mail {p : TaskParameters} {c : OperatorConfig} {body : String} {m : Mail}
    (h : (p.get "host").result = .ok none) (hm : (p.mail c body).result = .ok m) :
    c.endpoint = some m.endpoint := by
  obtain ⟨he, -⟩ := TaskParameters.mail_eq_ok hm
  -- without an endpoint, or with one that cannot be written, no mail would have been collected
  cases hc : c.endpoint with
  | none =>
    rw [TaskParameters.result_endpoint_of_none h, hc] at he
    cases he
  | some e =>
    rw [endpoint_of_hostless h hc] at he
    split at he <;> cases he
    rfl

theorem run_meets_callsOf {t : Task} {c : OperatorConfig}
    (h : (t.parameters.get "host").result = .ok none) (server : Server) (stamp : Stamp) :
    Meets (callsOf c) (fun _ ↦ True) (run t c server stamp) := by
  have hp := progress_callsOf c
  have hmail : ∀ body, EndsIn (fun m : Mail ↦ c.endpoint = some m.endpoint) (fun _ ↦ True)
      (t.parameters.mail c body).result := fun body ↦ by
    cases hm : (t.parameters.mail c body).result with
    | error e => trivial
    | ok m => exact endpoint_of_mail h hm
  unfold run
  refine Meets.bind (reporting_meets (fun _ ↦ True) hp
    (prepare_meets hp (fun _ _ h ↦ nomatch h) (.any _) hmail fun _ _ ↦ .any _)
    (fun _ _ _ _ ↦ trivial) fun _ _ _ ↦ trivial) fun prepared hprepared ↦ ?_
  refine Meets.bind (Meets.ofResult (.any _)) fun endpoint _ ↦ ?_
  refine Meets.bind (reporting_meets (fun _ ↦ True) hp
    (transmit_meets _ (session_callsOf hprepared server))
    (fun _ _ _ _ ↦ trivial) fun _ _ _ ↦ trivial) fun _ _ ↦ ?_
  refine Meets.bind (hp.advance_meets .sent) fun _ _ ↦ ?_
  exact Meets.bind (Work.meets_log hp.record _ _ _) fun _ _ ↦ Meets.pure trivial

/-! ## Isolation -/

/-- **Isolation of endpoints.** Unless the lookup of its host yields nothing, a task is delivered in
the same way under any two configurations with the same defaults, and if it sets its own sender and
subject, under any two configurations whatsoever. If the lookup yields nothing, the endpoint is the
operator's as a whole, whatever else the task sets, provided that its port can be written, as it can
be in every configuration that was read; and every call of the client follows that endpoint. -/
theorem endpoints_isolated (t : Task) :
    ((t.parameters.get "host").result ≠ .ok none →
      (∀ c c' : OperatorConfig, c.defaults = c'.defaults →
        ∀ server stamp, run t c server stamp = run t c' server stamp) ∧
      (∀ sender subject, (t.parameters.get "from").result = .ok (some sender) →
        (t.parameters.get "subject").result = .ok (some subject) →
        ∀ (c c' : OperatorConfig) server stamp,
          run t c server stamp = run t c' server stamp)) ∧
    ((t.parameters.get "host").result = .ok none → ∀ c : OperatorConfig,
      (c.endpoint = none → (t.parameters.endpoint c).result =
        .error (.configuration (.missingEndpoint ConfigurationError.missingEndpointText))) ∧
      (∀ e, c.endpoint = some e →
        ((t.parameters.endpoint c).result =
          if (Decimal.numeral? e.port).isSome then .ok e else .error .longInteger) ∧
        ∀ data, (OperatorConfig.ofTable data).result = .ok c →
          (t.parameters.endpoint c).result = .ok e) ∧
      ∀ server stamp s k, .call k ∈ (run t c server stamp s).events →
        ∃ e, c.endpoint = some e ∧ k.Follows (.ofEndpoint e)) := by
  refine ⟨fun h ↦ ⟨fun c c' hd server stamp ↦ ?_, fun sender subject hf hs c c' server stamp ↦ ?_⟩,
    fun h c ↦ ⟨fun hc ↦ ?_, fun e hc ↦ ?_, fun server stamp s k hk ↦ ?_⟩⟩
  · refine run_congr (fun body ↦ ?_) server stamp
    rw [TaskParameters.mail, TaskParameters.endpoint_congr h c c', hd]
    rfl
  · refine run_congr (fun body ↦ ?_) server stamp
    rw [TaskParameters.mail, TaskParameters.endpoint_congr h c c',
      TaskParameters.sender_congr hf c.defaults c'.defaults,
      TaskParameters.subject_congr hs c.defaults c'.defaults]
    rfl
  · rw [TaskParameters.result_endpoint_of_none h, hc]
    rfl
  · have hr := endpoint_of_hostless h hc
    refine ⟨hr, fun data hdata ↦ ?_⟩
    rw [hr, if_pos (OperatorConfig.isRecordable_of_ofTable hdata e hc).2]
  · exact (run_meets_callsOf h server stamp s trivial).2.1 _ hk k rfl

/-- A task that brings everything along: host, port, credentials, sender and subject. -/
private def equipped : Task where
  raw := [("host", .text "mx.task.org"), ("from", .text "a@task.org"), ("subject", .text "Hi"),
    ("to", .text "b@task.org"), ("body", .text "Hello")]
  secrets := .ofTable [("port", .text "25"), ("username", .text "task"), ("password", .text "t0p")]
  workspace := ⟨.empty, []⟩

/-- A task that sets everything about its endpoint but the host. -/
private def hostless : Task where
  raw := [("port", .int 2525), ("mail", .table [("username", .text "me"), ("tls", .bool false)])]
  secrets := .ofTable [("password", .text "t0p")]
  workspace := ⟨.empty, []⟩

/-- An operator's endpoint with credentials. -/
private def operatorEndpoint : Endpoint :=
  { host := "mx.op.org", port := 587, username := some "op", password := some "s3cret",
    origin := .system }

/-- A delivery with a host of its own does not see the operator's credentials, and one without a
host is given all of them. -/
theorem endpoints_isolated_both_ways :
    (run equipped {} {} ⟨"now", "1", "here"⟩ =
        run equipped ⟨⟨some "Hello", none⟩, some operatorEndpoint⟩ {} ⟨"now", "1", "here"⟩) ∧
      (hostless.parameters.endpoint ⟨{}, some operatorEndpoint⟩).result
        = .ok operatorEndpoint := by
  have hown : (equipped.parameters.get "host").result = .ok (some (.text "mx.task.org")) := rfl
  have hnone : (hostless.parameters.get "host").result = .ok none := rfl
  refine ⟨((endpoints_isolated equipped).1 ?_).2 (.text "a@task.org") (.text "Hi") rfl rfl _ _ _ _,
    (((endpoints_isolated hostless).2 hnone ⟨{}, some operatorEndpoint⟩).2.1 _ rfl).1.trans ?_⟩
  · rw [hown]
    intro h
    cases h
  · exact if_pos (Decimal.isSome_numeral?_of_lt (by decide : 587 < 10 ^ 3) (by decide))

/-- An operator's endpoint whose port is too long to be written is no endpoint of a task without a
host, although it is the only one. -/
theorem not_endpoint_unwritable_port :
    (hostless.parameters.get "host").result = .ok none ∧
      let e : Endpoint := { operatorEndpoint with port := (10 ^ Decimal.maxDigits : Nat) }
      (hostless.parameters.endpoint ⟨{}, some e⟩).result = .error .longInteger ∧
        (hostless.parameters.endpoint ⟨{}, some e⟩).result ≠ .ok e := by
  have hnone : (hostless.parameters.get "host").result = .ok none := rfl
  refine ⟨hnone, ?_⟩
  intro e
  have hport : ¬(Decimal.numeral? e.port).isSome := by
    rw [show Decimal.numeral? e.port = none from Decimal.numeral?_ten_pow]
    exact Bool.false_ne_true
  have hresult : (hostless.parameters.endpoint ⟨{}, some e⟩).result = .error .longInteger := by
    rw [endpoint_of_hostless hnone rfl, if_neg hport]
  refine ⟨hresult, ?_⟩
  rw [hresult]
  exact nofun

end MailDispatch.Delivery
