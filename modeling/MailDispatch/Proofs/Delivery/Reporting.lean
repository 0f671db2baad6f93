import MailDispatch.Proofs.Delivery.Contract
import MailDispatch.Proofs.FileTree.Resolution
import MailDispatch.Proofs.Task.Failures
import MailDispatch.Proofs.Workspace.Locating

/-!
# What a delivery reports

A delivery ends in a receipt, in the report of a failure, or in a failure that escapes. Where the
server raises faults of the transport only, what escapes comes from the preparation, before the
client is called for the first time, and there are two such failures: an integer too long to be
written, and a path of the workspace that leads around in a circle of links.
-/

namespace MailDispatch

open Activity

variable {writable loopFree : Prop}

/-! ## Files of the workspace -/

/-- No path of the workspace leads around in a circle of links. -/
def Workspace.IsLoopFree (w : Workspace) : Prop :=
  ∀ path loc, w.locate path ≠ .error (.linkLoop loc)

namespace Workspace

variable {w : Workspace}

theorem endsIn_locate (h : loopFree → w.IsLoopFree) (path : String) :
    EndsIn (fun _ ↦ True) (Foreseen writable loopFree) (w.locate path) := by
  cases hl : w.locate path with
  | ok loc => trivial
  | error e =>
    rcases locate_eq_error hl with ⟨c, rfl⟩ | ⟨loc, rfl, -⟩
    · trivial
    · exact fun hloop ↦ h hloop path _ hl

/-- A file fails to be read because of its path or because of the file itself. -/
theorem endsIn_readBytes (writable : Prop) (h : loopFree → w.IsLoopFree) (path : String) :
    EndsIn (fun _ ↦ True) (fun e ↦ Foreseen writable loopFree e ∨ ∃ f, e = .file f)
      (w.readBytes path) := by
  refine EndsIn.bind ((endsIn_locate h path).weaken (fun _ h ↦ h) fun _ ↦ .inl) fun loc _ ↦ ?_
  cases w.tree.read [] (.ofLocation loc) with
  | ok content => trivial
  | error f => exact .inr ⟨f, rfl⟩

/-- Without links nothing leads around in circles. -/
theorem isLoopFree_of_find? (h : ∀ loc target, w.tree.find? loc ≠ some (.link target)) :
    w.IsLoopFree := by
  intro path text hl
  rcases locate_eq_error hl with ⟨c, hc⟩ | ⟨loc, -, hloc⟩
  · cases hc
  · rw [FileTree.isCircular_eq_false h loc] at hloc
    cases hloc

theorem isLoopFree_empty : IsLoopFree ⟨.empty, []⟩ := by
  refine isLoopFree_of_find? fun loc target ↦ ?_
  cases loc with
  | nil => simp
  | cons name parent =>
    rw [FileTree.find?_cons]
    split <;> simp [FileTree.empty]

end Workspace

theorem Body.foreseen_unreadable {path : String} {e : Failure} (h : Foreseen writable loopFree e) :
    Foreseen writable loopFree (unreadable path e) := by
  cases e <;> trivial

theorem Mail.foreseen_unreadable {path : String} {e : Failure} (h : Foreseen writable loopFree e) :
    Foreseen writable loopFree (unreadable path e) := by
  cases e <;> trivial

/-- A template file fails to be read for a foreseen reason, once its failures are those of the
template. -/
theorem Workspace.endsIn_readText {w : Workspace} (h : loopFree → w.IsLoopFree) (path : String) :
    EndsIn (fun _ ↦ True) (fun e ↦ Foreseen writable loopFree (Body.unreadable path e))
      (w.readText path .utf8) := by
  refine EndsIn.bind (EndsIn.weaken (endsIn_readBytes writable h path) (fun _ h ↦ h)
    fun e he ↦ ?_) fun bs _ ↦ ?_
  · rcases he with he | ⟨f, rfl⟩
    · exact Body.foreseen_unreadable he
    · trivial
  · rw [textOf]
    split <;> trivial

/-! ## Composition -/

/-- An attachment fails to be read for a foreseen reason, once its failures are those of the
attachment. -/
theorem Mail.endsIn_read {w : Workspace} (h : loopFree → w.IsLoopFree) (path : String) :
    EndsIn (fun _ ↦ True) (fun e ↦ Foreseen writable loopFree (unreadable path e))
      (w.readBytes path) := by
  refine (Workspace.endsIn_readBytes writable h path).weaken (fun _ h ↦ h) fun e he ↦ ?_
  rcases he with he | ⟨f, rfl⟩
  · exact Mail.foreseen_unreadable he
  · trivial

/-- A message fails to be composed only because an attachment cannot be read. -/
theorem Mail.endsIn_compose {fails : Failure → Prop} {m : Mail} {w : Workspace}
    (hread : ∀ path, EndsIn (fun _ ↦ True) (fun e ↦ fails (unreadable path e)) (w.readBytes path))
    (hm : ∀ a ∈ m.attachments, a.contentType.toList.contains '/') (stamp : Stamp) :
    EndsIn (fun _ ↦ True) fails (m.compose w stamp).result := by
  have hpart : ∀ a ∈ m.attachments, EndsIn (fun _ ↦ True) fails (readAttachment w a) := by
    intro a ha
    unfold readAttachment
    refine EndsIn.bind (EndsIn.mapError (hread a.path) fun _ he ↦ he) fun content _ ↦ ?_
    rw [if_pos (hm a ha)]
    trivial
  unfold compose
  exact Traced.endsIn_bind (EndsIn.mapM hpart) fun _ _ ↦ trivial

namespace Delivery

/-! ## Preparation -/

/-- All that a task and a configuration hold can be written, and the workspace has no circles. -/
structure IsForeseeable (t : Task) (c : OperatorConfig) : Prop where
  parameters : t.parameters.IsWritable
  config : c.IsWritable
  workspace : t.workspace.IsLoopFree

/-- The contract under which nobody is called, with a server's answers still to come. -/
def uncalled (server : Server) (failure : Failure → Prop) :
    Contract Situation (Event Message) Failure where
  state s := s.answers <:+ server.onSend
  event e := ∀ k, e ≠ .call k
  failure := failure

theorem progress_uncalled (server : Server) (failure : Failure → Prop) :
    ProgressContract (uncalled server failure) where
  record _ _ h := nomatch h
  advance _ _ h := nomatch h
  situation h hs := h.trans hs

/-- What is prepared has an endpoint that can be written. -/
theorem prepare_meets_foreseen {t : Task} {c : OperatorConfig}
    (hp : writable → t.parameters.IsWritable) (hc : writable → c.IsWritable)
    (hw : loopFree → t.workspace.IsLoopFree) (server : Server) (stamp : Stamp) :
    Meets (uncalled server (Foreseen writable loopFree))
      (fun p ↦ ∃ shown, p.mail.endpoint.text = .ok shown) (prepare t c stamp) :=
  (prepare_meets (progress_uncalled server _) (fun _ _ h ↦ nomatch h)
    (Body.endsIn_render hp (fun _ ↦ Unusable.foreseen loopFree) (Workspace.endsIn_readText hw))
    (fun body ↦ (TaskParameters.endsIn_mail hp hc body).weaken (fun _ h ↦ h)
      fun _ ↦ Unusable.foreseen loopFree)
    fun _ hm ↦ Mail.endsIn_compose (Mail.endsIn_read hw) hm.2 stamp).weaken fun _ h ↦ h.1

/-! ## Transmission -/

/-- The contract under which every failure is a report, with a server's answers still to come. -/
def reported (server : Server) : Contract Situation (Event Message) Failure where
  state s := s.answers <:+ server.onSend
  failure e := ∃ r, e = .task r

theorem progress_reported (server : Server) : ProgressContract (reported server) where
  record _ := trivial
  advance _ := trivial
  situation h hs := h.trans hs

/-- With a server that raises faults of the transport only, a session under settings that can be
written fails by such a fault. -/
theorem session_transport {server : Server} (h : ∀ f, server.Raises f → f.isTransport)
    {endpoint : Endpoint} {shown : String} (hs : endpoint.text = .ok shown) :
    SessionContract (.ofEndpoint endpoint) server
      { reported server with failure := fun e ↦ ∃ f, e = .fault f ∧ f.isTransport } where
  record _ := trivial
  advance _ := trivial
  situation h hs := h.trans hs
  call _ := trivial
  raised hf := ⟨_, rfl, h _ hf⟩
  answered hs ha hf := ⟨_, rfl, h _ (.inr (.inr (.inr ⟨_, hs.subset ha, hf⟩)))⟩
  port hn := by
    rw [Endpoint.text, Endpoint.text?] at hs
    rw [show Decimal.numeral? endpoint.port = none from hn] at hs
    cases hs

theorem transmission_meets_reported {server : Server}
    (h : ∀ f, server.Raises f → f.isTransport) {endpoint : Endpoint} {shown : String}
    (hs : endpoint.text = .ok shown) (words : Failure → String) (message : Message) :
    Meets (reported server) (fun _ ↦ True)
      (reporting transmissionKind? words (transmit (.ofEndpoint endpoint) server message)) := by
  refine reporting_meets _ (progress_reported server)
    (transmit_meets message (session_transport h hs)) (fun _ _ _ _ ↦ ⟨_, rfl⟩) ?_
  rintro e ⟨f, rfl, hf⟩ hk
  rw [transmissionKind?, if_pos hf] at hk
  cases hk

/-! ## The whole delivery -/

/-- The delivery ended in a receipt or in the report of a failure. -/
def IsReported (o : Outcome Situation (Event Message) Failure Receipt) : Prop :=
  EndsIn (fun _ ↦ True) (fun e ↦ ∃ r, e = .task r) o.result

/-- What is prepared without a failure is delivered or reported. If the preparation fails, so does
the delivery, before anybody is called, with what becomes of that failure. -/
theorem run_cases {server : Server} (h : ∀ f, server.Raises f → f.isTransport) (t : Task)
    (c : OperatorConfig) (stamp : Stamp) {s : Situation} (hs : s.answers <:+ server.onSend) :
    ((∃ p, (prepare t c stamp s).result = .ok p) ∧ IsReported (run t c server stamp s)) ∨
      ∃ e, (prepare t c stamp s).result = .error e ∧
        (run t c server stamp s).result = .error (reportOf preparationKind? Failure.message e) ∧
        ∀ k, .call k ∉ (run t c server stamp s).events := by
  have hstep : Meets (uncalled server fun _ ↦ True)
      (fun p ↦ ∃ shown, p.mail.endpoint.text = .ok shown)
      (reporting preparationKind? Failure.message (prepare t c stamp)) :=
    reporting_meets (Foreseen False False) (progress_uncalled server _)
      (prepare_meets_foreseen False.elim False.elim False.elim server stamp)
      (fun _ _ _ _ ↦ trivial) fun _ _ _ ↦ trivial
  obtain ⟨hstate, hevents, hprepared⟩ := hstep s hs
  have hresult := result_reporting preparationKind? Failure.message (prepare t c stamp) s
  unfold run
  rcases bind_cases _ _ s with ⟨p, hp, hrun⟩ | ⟨e, he, hrun, hsame⟩
  · left
    obtain ⟨shown, hshown⟩ := hprepared.of_ok hp
    rw [hresult] at hp
    refine ⟨?_, ?_⟩
    · cases hr : (prepare t c stamp s).result with
      | ok p => exact ⟨p, rfl⟩
      | error e => rw [hr] at hp; cases hp
    · -- all that comes behind the preparation can fail by a report only
      rw [IsReported, hrun]
      show EndsIn (fun _ ↦ True) (reported server).failure _
      refine Meets.result ?_ hstate
      refine Meets.bind (Meets.ofResult (show EndsIn (fun _ ↦ True) _ _ by rw [hshown]; trivial))
        fun endpoint _ ↦ ?_
      refine Meets.bind (transmission_meets_reported h hshown _ _) fun _ _ ↦ ?_
      refine Meets.bind ((progress_reported server).advance_meets .sent) fun _ _ ↦ ?_
      exact Meets.bind (Work.meets_log (progress_reported server).record _ _ _) fun _ _ ↦
        Meets.pure trivial
  · right
    rw [hresult] at he
    cases hr : (prepare t c stamp s).result with
    | ok p => rw [hr] at he; cases he
    | error e' =>
      rw [hr] at he
      cases he
      refine ⟨e', rfl, hrun, fun k hk ↦ ?_⟩
      rw [hsame] at hk
      exact hevents _ hk k rfl

/-! ## Failures that escape -/

/-- A failure before anything is composed is one of the preparation. -/
theorem result_prepare_of_mail {t : Task} {c : OperatorConfig} {e : Failure}
    (h : ((Body.render t.parameters (t.workspace.readText · .utf8) .standard).result.bind
      fun body ↦ (t.parameters.mail c body).result) = .error e)
    (stamp : Stamp) (s : Situation) : (prepare t c stamp s).result = .error e := by
  unfold prepare
  rcases bind_cases (Work.prepare (Body.render t.parameters (t.workspace.readText · .utf8)
    .standard)) _ s with ⟨body, hb, hrun⟩ | ⟨e', he, hrun, -⟩
  · -- the body was rendered, so that the failure is one of collecting the mail
    rw [show (Body.render ..).result = .ok body from hb] at h
    refine hrun.trans ?_
    rcases bind_cases (Work.prepare (t.parameters.mail c body)) _ s with
      ⟨m, hm, -⟩ | ⟨e', he, hrun', -⟩
    · cases h.symm.trans hm
    · cases h.symm.trans he
      exact hrun'
  · rw [show (Body.render ..).result = .error e' from he] at h
    cases h
    exact hrun

/-- A failure of the preparation decides the delivery, by a report if it is one that is anticipated. -/
theorem result_run_of_prepare {t : Task} {c : OperatorConfig} {stamp : Stamp} {s : Situation}
    {e : Failure} (h : (prepare t c stamp s).result = .error e) (server : Server) :
    (run t c server stamp s).result = .error (reportOf preparationKind? Failure.message e) := by
  have hresult := result_reporting preparationKind? Failure.message (prepare t c stamp) s
  unfold run
  rcases bind_cases (reporting preparationKind? Failure.message (prepare t c stamp)) _ s with
    ⟨p, hp, -⟩ | ⟨e', he', hrun, -⟩
  · rw [hresult, h] at hp
    cases hp
  · rw [hresult, h, Except.mapError] at he'
    cases he'
    exact hrun

/-- One that is not anticipated stays what it is. -/
theorem result_run_of_unanticipated {t : Task} {c : OperatorConfig} {stamp : Stamp} {s : Situation}
    {e : Failure} (h : (prepare t c stamp s).result = .error e) (he : preparationKind? e = none)
    (server : Server) : (run t c server stamp s).result = .error e := by
  rw [result_run_of_prepare h, reportOf, he]

/-- A template file on a path that leads around in a circle makes the delivery escape. -/
theorem result_run_of_locate {w : Workspace} {path : String} {loc : String}
    (h : w.locate path = .error (.linkLoop loc)) (secrets : SecretStore) (c : OperatorConfig)
    (server : Server) (stamp : Stamp) (s : Situation) :
    (run ⟨[("_command", .text path)], secrets, w⟩ c server stamp s).result
      = .error (.linkLoop loc) := by
  refine result_run_of_unanticipated (result_prepare_of_mail ?_ stamp s) rfl server
  have hread : w.readText path .utf8 = .error (.linkLoop loc) := by
    rw [Workspace.readText, Workspace.readBytes, h]
    rfl
  rw [Body.render, Traced.result_bind,
    Body.result_template_of_file (show _ = some (Value.text path) from rfl)]
  show ((Except.mapError (Body.unreadable path) (w.readText path .utf8)).bind _).bind _ = _
  rw [hread]
  rfl

/-- A body that cannot be written makes the delivery escape. -/
theorem result_run_of_body {v : Value} (h : ¬v.IsWritable) (secrets : SecretStore)
    (w : Workspace) (c : OperatorConfig) (server : Server) (stamp : Stamp) (s : Situation) :
    (run ⟨[("body", v)], secrets, w⟩ c server stamp s).result = .error .longInteger := by
  refine result_run_of_unanticipated (result_prepare_of_mail ?_ stamp s) rfl server
  have hplain : v.plain = .error .longInteger := by
    rw [← Value.isSome_text?_iff, Option.not_isSome_iff_eq_none] at h
    rw [Value.plain, h]
    rfl
  have hsome : v.toOption = some v := by
    cases v with
    | null => exact absurd rfl h
    | _ => rfl
  have hbody : (Task.parameters ⟨[("body", v)], secrets, w⟩).plain? Body.textKey = some v := hsome
  rw [Body.render, Traced.result_bind, Body.result_template_of_text rfl hbody, hplain]
  rfl

/-- So does an operator's endpoint whose port cannot be written, for every task without a host that
has a body. -/
theorem result_run_of_port {c : OperatorConfig} (h : ¬c.IsWritable) (w : Workspace)
    (server : Server) (stamp : Stamp) (s : Situation) :
    (run ⟨[("body", .text "")], .ofTable [], w⟩ c server stamp s).result
      = .error .longInteger := by
  obtain ⟨e, he, hport⟩ : ∃ e, c.endpoint = some e ∧ Decimal.numeral? e.port = none := by
    simpa [OperatorConfig.IsWritable] using h
  have htext : e.text = .error .longInteger := by
    rw [Endpoint.text, Endpoint.text?, hport]
    rfl
  refine result_run_of_unanticipated (result_prepare_of_mail ?_ stamp s) rfl server
  have hbody : Template.render "" [("body", .text "")] = .ok "" := by
    rw [Template.render, show "".toList = [] from rfl, Template.split]
    rfl
  have hmail : ∀ body, ((Task.parameters ⟨[("body", .text "")], .ofTable [], w⟩).mail c
      body).result = .error .longInteger := by
    intro body
    rw [TaskParameters.mail, Traced.result_bind, TaskParameters.result_endpoint_of_none rfl, he]
    show (e.text.map _).bind _ = _
    rw [htext]
    rfl
  show (Template.render "" [("body", .text "")]).bind _ = _
  rw [hbody]
  exact hmail ""

/-! ## The failure channel -/

/-- A foreseen failure that is not anticipated is one of the two others. -/
theorem eq_of_foreseen {e : Failure} (h : Foreseen writable loopFree e)
    (hk : preparationKind? e = none) :
    (e = .longInteger ∧ ¬writable) ∨ ∃ loc, e = .linkLoop loc ∧ ¬loopFree := by
  cases e with
  | longInteger => exact .inl ⟨rfl, h⟩
  | linkLoop loc => exact .inr ⟨loc, rfl, h⟩
  | configuration _ => cases hk
  | attachment _ _ => cases hk
  | template _ _ => cases hk
  | _ => exact h.elim

/-- What becomes of a failure of the preparation is a report, unless it is one of two failures. -/
theorem reportOf_cases {e : Failure} {o : Outcome Situation (Event Message) Failure Receipt}
    (ho : o.result = .error (reportOf preparationKind? Failure.message e))
    (h : Foreseen writable loopFree e) :
    (IsReported o ∧ e ≠ .longInteger ∧ ∀ loc, e ≠ .linkLoop loc) ∨
      ¬IsReported o ∧ o.result = .error e ∧
        (e = .longInteger ∧ ¬writable ∨ ∃ loc, e = .linkLoop loc ∧ ¬loopFree) := by
  rw [IsReported, ho, reportOf]
  cases hk : preparationKind? e with
  | some kind =>
    refine .inl ⟨⟨_, rfl⟩, ?_, fun loc ↦ ?_⟩
    · rintro rfl
      cases hk
    · rintro rfl
      cases hk
  | none =>
    have hcases := eq_of_foreseen h hk
    refine .inr ⟨?_, rfl, hcases⟩
    rintro ⟨r, hr⟩
    rcases hcases with ⟨rfl, -⟩ | ⟨loc, rfl, -⟩ <;> cases hr

/-- **The failure channel.** With a server that raises faults of the transport only, a delivery ends
in a receipt or in the report of a failure, unless its preparation fails because an integer is too
long to be written or a path leads around in a circle of links. Then nobody is called and that
failure escapes. Neither occurs if everything that the task and the configuration hold can be
written and the workspace has no such path, and none of these conditions can be left out: any path
of that kind, any body that cannot be written and any port of the operator's that cannot be written
makes some delivery escape. -/
theorem reported_iff_preparation_anticipated (t : Task) (c : OperatorConfig) {server : Server}
    (stamp : Stamp) (thresholds : Thresholds) (h : ∀ f, server.Raises f → f.isTransport) :
    (IsReported (start t c server stamp thresholds) ↔
      (prepare t c stamp { thresholds, answers := server.onSend }).result ≠ .error .longInteger ∧
        ∀ loc, (prepare t c stamp { thresholds, answers := server.onSend }).result
          ≠ .error (.linkLoop loc)) ∧
    (¬IsReported (start t c server stamp thresholds) →
      ((start t c server stamp thresholds).result = .error .longInteger ∨
        ∃ loc, (start t c server stamp thresholds).result = .error (.linkLoop loc)) ∧
      ∀ k, .call k ∉ (start t c server stamp thresholds).events) ∧
    (IsForeseeable t c → IsReported (start t c server stamp thresholds)) ∧
    (∀ path loc, t.workspace.locate path = .error (.linkLoop loc) →
      (start { t with raw := [("_command", .text path)] } c server stamp thresholds).result
        = .error (.linkLoop loc)) ∧
    (∀ v : Value, ¬v.IsWritable →
      (start { t with raw := [("body", v)] } c server stamp thresholds).result
        = .error .longInteger) ∧
    (¬c.IsWritable →
      (start { t with raw := [("body", .text "")], secrets := .ofTable [] } c server stamp
        thresholds).result = .error .longInteger) := by
  let s₀ : Situation := { thresholds, answers := server.onSend }
  have hs : s₀.answers <:+ server.onSend := List.suffix_refl _
  have hescape : (∀ path loc, t.workspace.locate path = .error (.linkLoop loc) →
      (start { t with raw := [("_command", .text path)] } c server stamp thresholds).result
        = .error (.linkLoop loc)) ∧
      (∀ v : Value, ¬v.IsWritable →
        (start { t with raw := [("body", v)] } c server stamp thresholds).result
          = .error .longInteger) ∧
      (¬c.IsWritable →
        (start { t with raw := [("body", .text "")], secrets := .ofTable [] } c server stamp
          thresholds).result = .error .longInteger) :=
    ⟨fun path loc hl ↦ result_run_of_locate hl t.secrets c server stamp s₀,
      fun v hv ↦ result_run_of_body hv t.secrets t.workspace c server stamp s₀,
      fun hc ↦ result_run_of_port hc t.workspace server stamp s₀⟩
  -- with nothing ruled out, these are all the failures that a preparation can have
  have hall : EndsIn _ (Foreseen False False) (prepare t c stamp s₀).result :=
    (prepare_meets_foreseen False.elim False.elim False.elim server stamp).result hs
  rcases run_cases h t c stamp hs with ⟨⟨p, hp⟩, hr⟩ | ⟨e, he, hrun, hcalls⟩
  · refine ⟨iff_of_true hr ?_, fun hn ↦ absurd hr hn, fun _ ↦ hr, hescape⟩
    constructor
    · exact fun he ↦ nomatch hp.symm.trans he
    · exact fun loc he ↦ nomatch hp.symm.trans he
  · have hresult : ∀ e', (prepare t c stamp s₀).result = .error e' ↔ e = e' := fun e' ↦ by
      rw [he, Except.error.injEq]
    rcases reportOf_cases hrun (hall.of_error he) with ⟨hr, hlong, hloop⟩ | ⟨hn, hsame, hcases⟩
    · refine ⟨iff_of_true hr ?_, fun hn ↦ absurd hr hn, fun _ ↦ hr, hescape⟩
      exact ⟨fun he' ↦ hlong ((hresult _).mp he'), fun loc he' ↦ hloop loc ((hresult _).mp he')⟩
    · refine ⟨iff_of_false hn ?_, fun _ ↦ ⟨?_, hcalls⟩, fun hf ↦ ?_, hescape⟩
      · rintro ⟨hlong, hloop⟩
        rcases hcases with ⟨rfl, -⟩ | ⟨loc, rfl, -⟩
        · exact hlong he
        · exact hloop loc he
      · rcases hcases with ⟨rfl, -⟩ | ⟨loc, rfl, -⟩
        · exact .inl hsame
        · exact .inr ⟨loc, hsame⟩
      · -- a foreseeable task rules both failures out
        have hforeseen : EndsIn _ (Foreseen True True) (prepare t c stamp s₀).result :=
          (prepare_meets_foreseen (fun _ ↦ hf.parameters) (fun _ ↦ hf.config)
            (fun _ ↦ hf.workspace) server stamp).result hs
        have he' := hforeseen.of_error he
        rcases hcases with ⟨rfl, -⟩ | ⟨loc, rfl, -⟩
        · exact absurd trivial he'
        · exact absurd trivial he'

/-- A workspace with nothing in it but a link to itself. -/
private def circular : Workspace := ⟨⟨[(["loop"], .link "loop")]⟩, []⟩

private theorem locate_circular : circular.locate "loop" = .error (.linkLoop "/loop") := by cbv

/-- A server that refuses every connection. -/
private def refusing : Server := { onConnect := .error ⟨"gaierror", "unknown host", .system⟩ }

private theorem isTransport_refusing : ∀ f, refusing.Raises f → f.isTransport := by
  rintro f (hf | hf | hf | ⟨a, ha, -⟩)
  · cases hf
    rfl
  · cases hf
  · cases hf
  · cases ha

private theorem exists_not_isWritable : ∃ n : Int, ¬(Value.int n).IsWritable := by
  refine ⟨(10 ^ Decimal.maxDigits : Nat), ?_⟩
  rw [Value.isWritable_int_iff, Decimal.numeral?_ten_pow]
  exact Bool.false_ne_true

/-- A task over an empty workspace. -/
private def greeting : Task := ⟨[("body", .text "Hello")], .ofTable [], ⟨.empty, []⟩⟩

private theorem isForeseeable_greeting : IsForeseeable greeting {} where
  parameters := by
    refine ⟨?_, fun key v hv ↦ nomatch hv⟩
    rw [Value.isWritable_table_iff]
    intro e he
    rw [List.mem_singleton.mp he]
    exact Value.isWritable_text _
  config _ he := nomatch he
  workspace := Workspace.isLoopFree_empty

/-- Each part at an input of its own. -/
theorem reported_greeting :
    IsReported (start greeting {} refusing ⟨"now", "1", "here"⟩ ⟨20, 0⟩) ∧
      (start ⟨[("_command", .text "loop")], .ofTable [], circular⟩ {} refusing
        ⟨"now", "1", "here"⟩ ⟨20, 0⟩).result = .error (.linkLoop "/loop") ∧
      ∃ n : Int,
        (start ⟨[("body", .int n)], .ofTable [], circular⟩ {} refusing
          ⟨"now", "1", "here"⟩ ⟨20, 0⟩).result = .error .longInteger ∧
        (start ⟨[("body", .text "")], .ofTable [], circular⟩
          ⟨{}, some { host := "mx", port := n }⟩ refusing
          ⟨"now", "1", "here"⟩ ⟨20, 0⟩).result = .error .longInteger := by
  obtain ⟨n, hn⟩ := exists_not_isWritable
  have hport : ¬OperatorConfig.IsWritable ⟨{}, some { host := "mx", port := n }⟩ := fun h ↦
    hn (Value.isWritable_int_iff.mpr (h _ rfl))
  obtain ⟨-, -, hreported, -⟩ := reported_iff_preparation_anticipated greeting {}
    ⟨"now", "1", "here"⟩ ⟨20, 0⟩ isTransport_refusing
  obtain ⟨-, -, -, hloop, hbody, -⟩ := reported_iff_preparation_anticipated
    ⟨[], .ofTable [], circular⟩ {} ⟨"now", "1", "here"⟩ ⟨20, 0⟩ isTransport_refusing
  obtain ⟨-, -, -, -, -, hconfig⟩ := reported_iff_preparation_anticipated
    ⟨[], .ofTable [], circular⟩ ⟨{}, some { host := "mx", port := n }⟩
    ⟨"now", "1", "here"⟩ ⟨20, 0⟩ isTransport_refusing
  exact ⟨hreported isForeseeable_greeting, hloop "loop" "/loop" locate_circular, n, hbody _ hn,
    hconfig hport⟩

/-- A body file that is a link to itself: the delivery fails, and not by a report, although the
server raises nothing at all. -/
theorem not_isReported_circular :
    (∀ f, Server.Raises {} f → f.isTransport) ∧
      ¬IsReported (start ⟨[("_command", .text "loop")], .ofTable [], circular⟩ {} {}
        ⟨"now", "1", "here"⟩ ⟨20, 0⟩) := by
  constructor
  · rintro f (hf | hf | hf | ⟨a, ha, -⟩)
    · cases hf
    · cases hf
    · cases hf
    · cases ha
  · intro h
    rw [IsReported, start, result_run_of_locate locate_circular] at h
    obtain ⟨r, hr⟩ := h
    cases hr

end Delivery

end MailDispatch
