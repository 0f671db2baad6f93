import MailDispatch.Proofs.Delivery.Contract
import MailDispatch.Proofs.Session.Course
import MailDispatch.Proofs.Task.Failures

/-!
# How a delivery goes

A delivery is prepared and then transmitted, and either may fail: `Delivery.Course` lists the ways
in which it goes, each with its milestones and its result, and `run_course` says that every delivery
goes in one of them. How far the preparation came is a course of its own, since the point at which a
failure arises and the kind under which it is reported have to be told together.
-/

namespace MailDispatch.Delivery

open Activity Outcome

/-! ## Preparation -/

/-- How a preparation goes: the states passed, and what came of it. -/
inductive Preparing (t : Task) (c : OperatorConfig) (stamp : Stamp) :
    List (Event Message) → Except Failure Prepared → Prop
  | unrendered {e : Failure}
    (hbody : (Body.render t.parameters (t.workspace.readText · .utf8) .standard).result = .error e) :
    Preparing t c stamp [] (.error e)
  | uncollected {body : String} {e : Failure}
    (hbody : (Body.render t.parameters (t.workspace.readText · .utf8) .standard).result = .ok body)
    (hmail : (t.parameters.mail c body).result = .error e) :
    Preparing t c stamp [] (.error e)
  | uncomposed {body : String} {m : Mail} {e : Failure}
    (hbody : (Body.render t.parameters (t.workspace.readText · .utf8) .standard).result = .ok body)
    (hmail : (t.parameters.mail c body).result = .ok m)
    (hmessage : (m.compose t.workspace stamp).result = .error e) :
    Preparing t c stamp [.state .configResolved] (.error e)
  | composed {body : String} {m : Mail} {message : Message}
    (hbody : (Body.render t.parameters (t.workspace.readText · .utf8) .standard).result = .ok body)
    (hmail : (t.parameters.mail c body).result = .ok m)
    (hmessage : (m.compose t.workspace stamp).result = .ok message) :
    Preparing t c stamp [.state .configResolved, .state .composed] (.ok ⟨m, message⟩)

/-- Every preparation goes in one of the ways listed, and uses up no answer of the server. -/
theorem outline_prepare (t : Task) (c : OperatorConfig) (stamp : Stamp) (s : Situation) :
    ∃ r s' events, (prepare t c stamp s).outline = ⟨r, s', events⟩ ∧
      Preparing t c stamp events r ∧ s'.answers = s.answers := by
  unfold prepare
  have hbody := Work.outline_prepare (μ := Message)
    (Body.render t.parameters (t.workspace.readText · .utf8) .standard) s
  cases hb : (Body.render t.parameters (t.workspace.readText · .utf8) .standard).result with
  | error e =>
    rw [hb] at hbody
    exact ⟨_, _, _, outline_bind_of_error hbody _, .unrendered hb, rfl⟩
  | ok body =>
    rw [hb] at hbody
    rw [outline_bind_of_ok hbody]
    have hmail := Work.outline_prepare (μ := Message) (t.parameters.mail c body) s
    cases hm : (t.parameters.mail c body).result with
    | error e =>
      rw [hm] at hmail
      rw [outline_bind_of_error hmail]
      exact ⟨_, _, _, rfl, .uncollected hb hm, rfl⟩
    | ok m =>
      rw [hm] at hmail
      rw [outline_bind_of_ok hmail, outline_bind_of_ok (Work.outline_advance ..)]
      have hmessage := Work.outline_prepare (μ := Message) (m.compose t.workspace stamp)
        { s with state := .configResolved }
      cases hc : (m.compose t.workspace stamp).result with
      | error e =>
        rw [hc] at hmessage
        rw [outline_bind_of_error hmessage]
        exact ⟨_, _, _, rfl, .uncomposed hb hm hc, rfl⟩
      | ok message =>
        rw [hc] at hmessage
        rw [outline_bind_of_ok hmessage, outline_bind_of_ok (Work.outline_advance ..)]
        exact ⟨_, _, _, rfl, .composed hb hm hc, rfl⟩

/-- What is prepared goes through an endpoint that can be written. -/
theorem Preparing.exists_text {t : Task} {c : OperatorConfig} {stamp : Stamp}
    {events : List (Event Message)} {p : Prepared} (h : Preparing t c stamp events (.ok p)) :
    ∃ shown, p.mail.endpoint.text = .ok shown := by
  cases h with
  | composed _ hmail _ =>
    exact ((TaskParameters.endsIn_mail False.elim False.elim _).of_ok hmail).1

/-! ## Reports -/

/-- The state that a failure leads to where failures of certain kinds are reported. -/
def failedIf (kind? : Failure → Option FailureKind) (e : Failure) : List (Event Message) :=
  if (kind? e).isSome then [.state .failed] else []

theorem outline_report {α : Type} (kind : FailureKind) (text : String) (cause : Failure)
    (s : Situation) :
    (report (α := α) kind text cause s).outline
      = ⟨.error (.task ⟨kind, text, some cause.toCause⟩), { s with state := .failed },
          [.state .failed]⟩ := by
  unfold report
  rw [outline_bind_of_ok (show (Activity.get s).outline = ⟨.ok s, s, []⟩ from rfl),
    outline_bind_of_ok (Work.outline_log ..), outline_bind_of_ok (Work.outline_advance ..)]
  rfl

theorem outline_reporting_of_ok {α : Type} (kind? : Failure → Option FailureKind)
    (words : Failure → String) {step : Work Message α} {s s' : Situation} {a : α}
    {events : List (Event Message)} (h : (step s).outline = ⟨.ok a, s', events⟩) :
    (reporting kind? words step s).outline = ⟨.ok a, s', events⟩ :=
  outline_rescue_of_ok h _

theorem outline_reporting_of_error {α : Type} (kind? : Failure → Option FailureKind)
    (words : Failure → String) {step : Work Message α} {s s' : Situation} {e : Failure}
    {events : List (Event Message)} (h : (step s).outline = ⟨.error e, s', events⟩) :
    ∃ s'', (reporting kind? words step s).outline
      = ⟨.error (reportOf kind? words e), s'', events ++ failedIf kind? e⟩ := by
  rw [reporting, outline_rescue_of_error h, reportOf, failedIf]
  cases kind? e with
  | some kind => exact ⟨_, congrArg (Outcome.behind · events) (outline_report ..)⟩
  | none => exact ⟨s', rfl⟩

/-! ## The whole delivery -/

/-- What is done in a session for one message. -/
def handOver (settings : SessionSettings) (message : Message) : Work Message Unit := do
  Work.advance .sessionOpened
  Work.log .sender .info ("Sending email to " ++ message.headerText "To")
  Session.send settings message

theorem outline_handOver (settings : SessionSettings) (message : Message) (s : Situation) :
    ∃ s', (handOver settings message s).outline
      = ⟨((s.answers.headD {}).result.mapError .fault).map fun _ ↦ (), s',
          [.state .sessionOpened, .call (.send message)]⟩ := by
  unfold handOver
  rw [outline_bind_of_ok (Work.outline_advance ..), outline_bind_of_ok (Work.outline_log ..),
    Session.outline_send]
  exact ⟨_, rfl⟩

/-- What is said of a failure of the transmission through an endpoint. -/
def transmissionText (endpoint : String) (e : Failure) : String :=
  "Failed to send mail via " ++ endpoint ++ ": " ++ e.message

/-- How a delivery goes while the server has `answers` left for the messages handed over. -/
inductive Course (t : Task) (c : OperatorConfig) (server : Server) (stamp : Stamp)
    (answers : List SendAnswer) : List (Event Message) → Except Failure Receipt → Prop
  | unprepared {events : List (Event Message)} {e : Failure}
    (hprepare : Preparing t c stamp events (.error e)) :
    Course t c server stamp answers (events ++ failedIf preparationKind? e)
      (.error (reportOf preparationKind? Failure.message e))
  | untransmitted {before events : List (Event Message)} {p : Prepared} {shown : String}
    {e : Failure} (hprepare : Preparing t c stamp before (.ok p))
    (hshown : p.mail.endpoint.text = .ok shown)
    (htransmit : Session.Course (.ofEndpoint p.mail.endpoint) server
      (handOver (.ofEndpoint p.mail.endpoint) p.message) answers events (.error e)) :
    Course t c server stamp answers (before ++ (events ++ failedIf transmissionKind? e))
      (.error (reportOf transmissionKind? (transmissionText shown) e))
  | delivered {before events : List (Event Message)} {p : Prepared} {shown : String}
    (hprepare : Preparing t c stamp before (.ok p))
    (hshown : p.mail.endpoint.text = .ok shown)
    (htransmit : Session.Course (.ofEndpoint p.mail.endpoint) server
      (handOver (.ofEndpoint p.mail.endpoint) p.message) answers events (.ok ())) :
    Course t c server stamp answers (before ++ (events ++ [.state .sent]))
      (.ok ⟨p.message.headerText "Message-ID", p.mail.recipients, shown, .sent⟩)

theorem outline_run (t : Task) (c : OperatorConfig) (server : Server) (stamp : Stamp)
    (s : Situation) :
    ∃ r s' events, (run t c server stamp s).outline = ⟨r, s', events⟩ ∧
      Course t c server stamp s.answers events r := by
  obtain ⟨r, s₁, before, hout, hprepare, hanswers⟩ := outline_prepare t c stamp s
  unfold run
  cases r with
  | error e =>
    obtain ⟨s₂, hreport⟩ := outline_reporting_of_error preparationKind? Failure.message hout
    exact ⟨_, _, _, outline_bind_of_error hreport _, .unprepared hprepare⟩
  | ok p =>
    obtain ⟨shown, hshown⟩ := hprepare.exists_text
    have htransmit := Session.within_course (.ofEndpoint p.mail.endpoint) server
      (handOver (.ofEndpoint p.mail.endpoint) p.message) s₁
    rw [hanswers] at htransmit
    generalize ho : Session.within (.ofEndpoint p.mail.endpoint) server
      (handOver (.ofEndpoint p.mail.endpoint) p.message) s₁ = o at htransmit
    have hsession : (transmit (.ofEndpoint p.mail.endpoint) server p.message s₁).outline
        = ⟨o.result, o.state, milestones o.events⟩ := congrArg Outcome.outline ho
    rw [outline_bind_of_ok (outline_reporting_of_ok _ _ hout), hshown,
      outline_bind_of_ok (outline_ofResult ..)]
    cases hr : o.result with
    | error e =>
      rw [hr] at hsession htransmit
      obtain ⟨s₂, hreport⟩ := outline_reporting_of_error transmissionKind?
        (fun e ↦ "Failed to send mail via " ++ shown ++ ": " ++ e.message) hsession
      rw [outline_bind_of_error hreport]
      exact ⟨_, _, _, rfl, .untransmitted hprepare hshown htransmit⟩
    | ok u =>
      rw [hr] at hsession htransmit
      rw [outline_bind_of_ok (outline_reporting_of_ok _ _ hsession),
        outline_bind_of_ok (Work.outline_advance ..), outline_bind_of_ok (Work.outline_log ..)]
      exact ⟨_, _, _, rfl, .delivered hprepare hshown htransmit⟩

/-- Every delivery goes in one of the ways listed. -/
theorem run_course (t : Task) (c : OperatorConfig) (server : Server) (stamp : Stamp)
    (s : Situation) :
    Course t c server stamp s.answers (milestones (run t c server stamp s).events)
      (run t c server stamp s).result := by
  obtain ⟨r, s', events, hout, hcourse⟩ := outline_run t c server stamp s
  obtain ⟨hr, -, he⟩ := eq_of_outline hout
  rw [hr, he]
  exact hcourse

end MailDispatch.Delivery
