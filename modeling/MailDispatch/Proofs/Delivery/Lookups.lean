import MailDispatch.Proofs.Delivery.Contract
import MailDispatch.Proofs.Task.Lookups

/-!
# Which secrets a delivery reads

A delivery asks the secret store while the endpoint of its mail is found and at no other time: not
while the body is rendered, which comes first, nor once a session is opened. So its questions are
those of the endpoint, in their order, whatever the store answers and wherever the delivery fails.
-/

namespace MailDispatch

open Activity

/-- The keys asked of the secret store, in order. -/
def asked {μ : Type} (events : List (Event μ)) : List String := events.filterMap Event.lookup?

theorem Event.lookup?_note {μ : Type} (n : Note) : (Event.note (μ := μ) n).lookup? = n.lookup? := by
  cases n <;> rfl

/-- The contract under which the secret store is not asked for anything. -/
def discreet : Contract Situation (Event Message) Failure where
  event e := e.lookup? = none

theorem progress_discreet : ProgressContract discreet where
  record _ := rfl
  advance _ := rfl
  situation _ _ := trivial

theorem session_discreet (settings : SessionSettings) (server : Server) :
    SessionContract settings server discreet where
  toProgressContract := progress_discreet
  call _ := rfl
  raised _ := trivial
  answered _ _ _ := trivial
  port _ := trivial

section Chains

variable {α β : Type} {x : Work Message α} {f : α → Work Message β}

theorem asked_of_discreet (h : Meets discreet (fun _ ↦ True) x) (s : Situation) :
    asked (x s).events = [] :=
  h.filterMap_eq_nil trivial fun _ he ↦ he

theorem asked_bind_of_ok {s : Situation} {a : α} (h : (x s).result = .ok a) :
    asked ((x >>= f) s).events = asked (x s).events ++ asked (f a (x s).state).events :=
  filterMap_bind_of_ok h

theorem asked_bind_of_error {s : Situation} {e : Failure} (h : (x s).result = .error e) :
    asked ((x >>= f) s).events = asked (x s).events :=
  filterMap_bind_of_error h

/-- What asks for nothing can be left aside behind a piece of work. -/
theorem asked_bind_of_discreet (h : ∀ a, Meets discreet (fun _ ↦ True) (f a)) (s : Situation) :
    asked ((x >>= f) s).events = asked (x s).events := by
  cases hx : (x s).result with
  | ok a => rw [asked_bind_of_ok hx, asked_of_discreet (h a), List.append_nil]
  | error e => exact asked_bind_of_error hx

end Chains

namespace Work

variable {α : Type} {x : Preparation α}

/-- A question is never dropped, whatever the thresholds are. -/
theorem asked_prepare (x : Preparation α) (s : Situation) :
    asked ((prepare x : Work Message α) s).events = asksFor x := by
  show (x.events.filterMap s.event?).filterMap Event.lookup? = _
  rw [List.filterMap_filterMap, asksFor]
  congr 1
  funext n
  cases n with
  | record r => simp only [Situation.event?]; split <;> rfl
  | lookup key => rfl

theorem prepare_discreet (h : asksFor x = []) :
    Meets discreet (fun _ ↦ True) (prepare x : Work Message α) := by
  refine meets_prepare (fun n hn ↦ ?_) (.any _)
  show (Event.note n).lookup? = none
  rw [Event.lookup?_note]
  exact List.filterMap_eq_nil_iff.mp h n hn

end Work

namespace Delivery

variable {α : Type}

/-- A report asks for nothing, so that a step has asked for the same whether or not its failure is
reported. -/
theorem asked_reporting (kind? : Failure → Option FailureKind) (words : Failure → String)
    (step : Work Message α) (s : Situation) :
    asked (reporting kind? words step s).events = asked (step s).events := by
  rw [reporting, Activity.rescue]
  rcases step s with ⟨e | a, s', events⟩
  · show asked (events ++ _) = _
    rw [asked, List.filterMap_append]
    refine (congrArg _ (asked_of_discreet ?_ s')).trans (List.append_nil _)
    split
    · exact report_meets progress_discreet trivial
    · exact Meets.fail trivial
  · rfl

/-- A preparation asks for what the endpoint is made of, once the body is rendered. -/
theorem asked_prepare (t : Task) (config : OperatorConfig) (stamp : Stamp) (s : Situation) :
    asked (prepare t config stamp s).events =
      match (Body.render t.parameters (t.workspace.readText · .utf8) .standard).result with
      | .ok _ => asksFor t.parameters.endpoint?
      | .error _ => [] := by
  have hbody : asked ((Work.prepare (Body.render t.parameters (t.workspace.readText · .utf8)
      .standard) : Work Message String) s).events = [] :=
    (Work.asked_prepare _ s).trans (Body.asksFor_render ..)
  unfold prepare
  cases h : (Body.render t.parameters (t.workspace.readText · .utf8) .standard).result with
  | error e => rw [asked_bind_of_error (show (Work.prepare _ s).result = .error e from h), hbody]
  | ok body =>
    rw [asked_bind_of_ok (show (Work.prepare _ s).result = .ok body from h), hbody,
      List.nil_append]
    refine (asked_bind_of_discreet (fun m ↦ ?_) _).trans
      ((Work.asked_prepare _ _).trans (TaskParameters.asksFor_mail rfl config body))
    refine Meets.bind (progress_discreet.advance_meets .configResolved) fun _ _ ↦ ?_
    refine Meets.bind (Work.prepare_discreet (m.asksFor_compose ..)) fun message _ ↦ ?_
    exact Meets.bind (progress_discreet.advance_meets .composed) fun _ _ ↦ Meets.pure trivial

/-- What follows the preparation asks for nothing. -/
theorem asked_run (t : Task) (config : OperatorConfig) (server : Server) (stamp : Stamp)
    (s : Situation) :
    asked (run t config server stamp s).events = asked (prepare t config stamp s).events := by
  unfold run
  refine (asked_bind_of_discreet (fun prepared ↦ ?_) s).trans (asked_reporting ..)
  refine Meets.bind (Meets.ofResult (.any _)) fun endpoint _ ↦ ?_
  refine Meets.bind (reporting_meets (fun _ ↦ True) progress_discreet
    (transmit_meets _ (session_discreet _ server))
    (fun _ _ _ _ ↦ trivial) fun _ _ _ ↦ trivial) fun _ _ ↦ ?_
  refine Meets.bind (progress_discreet.advance_meets .sent) fun _ _ ↦ ?_
  exact Meets.bind (Work.meets_log progress_discreet.record _ _ _) fun _ _ ↦ Meets.pure trivial

/-- **Secret lookups.** A delivery whose body cannot be rendered asks the secret store for nothing.
Any other asks for keys at the front of host, port, user name, password and the two flags, in this
order: for the host at least, and for nothing else if neither the store nor the task's own
parameters give one, so that the credentials of a task without a host stay unread. Under any access
list, the value of a key that may only be a secret does not depend on the task's own parameters, and
that of a key that is not declared as a secret does not depend on the secrets. -/
theorem secrets_asked_in_turn :
    (∀ (t : Task) (config : OperatorConfig) (server : Server) (stamp : Stamp)
        (thresholds : Thresholds),
      ((∃ e, (Body.render t.parameters (t.workspace.readText · .utf8) .standard).result = .error e) →
        asked (start t config server stamp thresholds).events = []) ∧
      ((∃ body,
          (Body.render t.parameters (t.workspace.readText · .utf8) .standard).result = .ok body) →
        asked (start t config server stamp thresholds).events ≠ [] ∧
        asked (start t config server stamp thresholds).events
          <+: ["host", "port", "username", "password", "tls", "ssl"] ∧
        (t.secrets.answer "host" = .absent → t.parameters.plain? "host" = none →
          asked (start t config server stamp thresholds).events = ["host"]))) ∧
    ∀ (access : AccessList) (raw raw' : Table) (secrets secrets' : SecretStore) (key : String),
      (key ∈ access.secretOnly →
        TaskParameters.get ⟨raw, secrets, access⟩ key
          = TaskParameters.get ⟨raw', secrets, access⟩ key) ∧
      (key ∉ access.readable → key ∉ access.secretOnly →
        TaskParameters.get ⟨raw, secrets, access⟩ key
          = TaskParameters.get ⟨raw, secrets', access⟩ key) := by
  refine ⟨fun t config server stamp thresholds ↦ ?_, fun access raw raw' secrets secrets' key ↦
    ⟨fun h ↦ TaskParameters.get_congr_raw h raw raw' secrets,
      fun hr ho ↦ TaskParameters.get_congr_secrets hr ho raw secrets secrets'⟩⟩
  rw [start, asked_run, asked_prepare]
  refine ⟨fun ⟨e, he⟩ ↦ by rw [he], fun ⟨body, hbody⟩ ↦ ?_⟩
  obtain ⟨keys, hfront, hasked, hnone⟩ :=
    TaskParameters.asksFor_endpoint? (p := t.parameters) rfl
  rw [hbody, hasked]
  refine ⟨List.cons_ne_nil _ _, (List.prefix_cons_inj "host").mpr hfront, fun habsent hplain ↦ ?_⟩
  -- neither place gives a host, so that its lookup yields nothing
  have hget : (t.parameters.get "host").result = .ok none := by
    have hsecret : (t.parameters.secret "host").result = .ok none := by
      show t.secrets.get? "host" = _
      rw [SecretStore.get?, habsent]
    unfold TaskParameters.get
    rw [if_pos (show t.parameters.access.allowsSecret "host" = true from rfl),
      Traced.result_bind_of_ok hsecret]
    exact congrArg _ hplain
  rw [hnone hget]

/-- A keyring that holds no host and fails on every other key. -/
private def lockedStore : SecretStore where
  scope := "mail"
  answer key := if key = "host" then .absent else .unavailable "locked"

/-- A task that sets a port and a password, but no host. -/
private def unhosted : Task where
  raw := [("body", .text "Hello"), ("port", .int 25), ("password", .text "t0p")]
  secrets := lockedStore
  workspace := ⟨.empty, []⟩

/-- A task without a host is through with the store after one question, and one without a body does
not ask it at all. -/
theorem secrets_asked_unhosted :
    asked (start unhosted {} {} ⟨"now", "1", "here"⟩ ⟨30, 0⟩).events = ["host"] ∧
      asked (start { unhosted with raw := [] } {} {} ⟨"now", "1", "here"⟩ ⟨30, 0⟩).events = [] ∧
      TaskParameters.get unhosted.parameters "password"
        = TaskParameters.get ⟨[], lockedStore, .mail⟩ "password" ∧
      TaskParameters.get unhosted.parameters "to"
        = TaskParameters.get ⟨unhosted.raw, .ofTable [], .mail⟩ "to" := by
  obtain ⟨hrun, hget⟩ := secrets_asked_in_turn
  have hbody : (Body.render unhosted.parameters (unhosted.workspace.readText · .utf8)
      .standard).result = .ok "Hello" := by cbv
  exact ⟨((hrun unhosted {} {} ⟨"now", "1", "here"⟩ ⟨30, 0⟩).2 ⟨_, hbody⟩).2.2 rfl rfl,
    (hrun { unhosted with raw := [] } {} {} ⟨"now", "1", "here"⟩ ⟨30, 0⟩).1 ⟨_, rfl⟩,
    (hget .mail unhosted.raw [] lockedStore lockedStore "password").1 (by decide),
    (hget .mail unhosted.raw [] lockedStore (.ofTable []) "to").2 (by decide) (by decide)⟩

end Delivery

end MailDispatch
