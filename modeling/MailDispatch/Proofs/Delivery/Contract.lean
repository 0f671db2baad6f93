import MailDispatch.Delivery.Basic
import MailDispatch.Proofs.Session.Contract

/-!
# What the steps of a delivery keep

Reporting a failure, handing a message over and the bookkeeping between them, under contracts. A
step whose failures are reported may fail in any way at first; what counts is the report, or the
failure itself where it is none that is anticipated.
-/

namespace MailDispatch.Delivery

open Activity

variable {c : Contract Situation (Event Message) Failure} {α : Type} {post : α → Prop}

theorem report_meets (h : ProgressContract c) {kind : FailureKind} {text : String}
    {cause : Failure} (hf : c.failure (.task ⟨kind, text, some cause.toCause⟩)) :
    Meets c post (report (α := α) kind text cause) := by
  unfold report
  refine Meets.bind Meets.get fun s _ ↦ ?_
  refine Meets.bind (Work.meets_log h.record _ _ _) fun _ _ ↦ ?_
  exact Meets.bind (h.advance_meets .failed) fun _ _ ↦ Meets.fail hf

theorem result_report {kind : FailureKind} {text : String} {cause : Failure} (s : Situation) :
    (report (α := α) kind text cause s).result
      = .error (.task ⟨kind, text, some cause.toCause⟩) := by
  -- the only contract that matters here is that there is no value and no other failure
  have h : ProgressContract (μ := Message)
      { failure := fun e ↦ e = .task ⟨kind, text, some cause.toCause⟩ } :=
    ⟨fun _ ↦ trivial, fun _ ↦ trivial, fun _ _ ↦ trivial⟩
  have hmeets : Meets _ (fun _ ↦ False) (report kind text cause : Work Message α) :=
    report_meets h rfl
  obtain ⟨-, -, hend⟩ := hmeets s trivial
  cases hr : (report kind text cause : Work Message α) s |>.result with
  | ok a => exact (hend.of_ok hr).elim
  | error e => rw [hend.of_error hr]

/-- What becomes of a failure where failures of certain kinds are reported. -/
def reportOf (kind? : Failure → Option FailureKind) (words : Failure → String) (e : Failure) :
    Failure :=
  match kind? e with
  | some kind => .task ⟨kind, words e, some e.toCause⟩
  | none => e

theorem result_reporting (kind? : Failure → Option FailureKind) (words : Failure → String)
    (step : Work Message α) (s : Situation) :
    (reporting kind? words step s).result = (step s).result.mapError (reportOf kind? words) := by
  rw [reporting, Activity.rescue]
  rcases step s with ⟨e | a, s', events⟩
  · dsimp only [Except.mapError, reportOf]
    cases hk : kind? e with
    | some kind => exact result_report s'
    | none => rfl
  · rfl

/-- A step with failures of its own meets a contract that allows the reports of those that are
anticipated, and the others as they are. -/
theorem reporting_meets (fails : Failure → Prop) (h : ProgressContract c)
    {kind? : Failure → Option FailureKind} {words : Failure → String} {step : Work Message α}
    (hstep : Meets { c with failure := fails } post step)
    (hreport : ∀ e kind, fails e → kind? e = some kind →
      c.failure (.task ⟨kind, words e, some e.toCause⟩))
    (hpass : ∀ e, fails e → kind? e = none → c.failure e) :
    Meets c post (reporting kind? words step) := by
  refine Meets.rescue fails hstep fun e he ↦ ?_
  split
  · next kind hk => exact report_meets h (hreport e kind he hk)
  · next hk => exact Meets.fail (hpass e he hk)

theorem transmit_meets {settings : SessionSettings} {server : Server} (message : Message)
    (h : SessionContract settings server c) :
    Meets c (fun _ ↦ True) (transmit settings server message) := by
  refine h.within_meets ?_
  refine Meets.bind (h.advance_meets .sessionOpened) fun _ _ ↦ ?_
  exact Meets.bind (Work.meets_log h.record _ _ _) fun _ _ ↦ h.send_meets message

/-- A preparation meets a contract that allows its notes and its failures, and its value is made of
results of the steps. -/
theorem prepare_meets (h : ProgressContract c) (hn : ∀ n, c.event (.note n)) {t : Task}
    {config : OperatorConfig} {stamp : Stamp} {onMail : Mail → Prop}
    (hbody : EndsIn (fun _ ↦ True) c.failure
      (Body.render t.parameters (t.workspace.readText · .utf8) .standard).result)
    (hmail : ∀ body, EndsIn onMail c.failure (t.parameters.mail config body).result)
    (hcompose : ∀ m : Mail, onMail m →
      EndsIn (fun _ ↦ True) c.failure (m.compose t.workspace stamp).result) :
    Meets c (fun p ↦ onMail p.mail) (prepare t config stamp) := by
  unfold prepare
  refine Meets.bind (Work.meets_prepare (fun n _ ↦ hn n) hbody) fun body _ ↦ ?_
  refine Meets.bind (Work.meets_prepare (fun n _ ↦ hn n) (hmail body)) fun m hm ↦ ?_
  refine Meets.bind (h.advance_meets .configResolved) fun _ _ ↦ ?_
  refine Meets.bind (Work.meets_prepare (fun n _ ↦ hn n) (hcompose m hm)) fun message _ ↦ ?_
  exact Meets.bind (h.advance_meets .composed) fun _ _ ↦ Meets.pure hm

end MailDispatch.Delivery
