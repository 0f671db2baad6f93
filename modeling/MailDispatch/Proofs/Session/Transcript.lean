import MailDispatch.Proofs.Session.Lifecycle

/-!
# The transcript of a session

While a session with the debug flag is open, what the server says is logged, and nothing else is
logged as part of the protocol. `transcript` says what that is line by line, from the server's
answers and from what is done in the session: the reply to connecting, the extensions, the reply to
the login, and for each message that was taken the recipients that were refused and the last word.
A call that fails leaves no line.

The threshold that a session sets when it opens shows these records whatever the thresholds were
before, and no step of the session changes it (`Situation.Shows`), so that the records of a session
are those of its steps in turn.
-/

namespace MailDispatch

variable {μ α β : Type}

open Activity Outcome

/-! ## Lines -/

/-- What the server says about the messages that it takes, in order. -/
def Talk.acceptances : Talk μ α → List SendAnswer → List Acceptance
  | .finish _, _ => []
  | .send _ next, answers =>
    let answer := answers.headD {}
    let outcome := (answer.result.mapError Failure.fault).map fun _ ↦ ()
    answer.result.toOption.toList ++ (next outcome).acceptances answers.tail

namespace Session

/-- The line about the extensions that a server offers: their names, each once and in order. -/
def extensionsLine (names : List String) : String :=
  let shown := String.intercalate ", " (names.toFinset.sort (· ≤ ·))
  "EHLO extensions: " ++ if shown = "" then "none" else shown

/-- The lines about a message that the server took: one for each recipient it refused, and its last
word. -/
def takenLines (a : Acceptance) : List String :=
  a.refusals.map (fun r ↦ "RCPT " ++ r.recipient ++ " refused: " ++ r.reply.words) ++
    ["DATA: " ++ a.reply]

/-- The line about a login, if it is made under a name and returns, and the lines about what is done
then. Nothing is done after a login that fails. -/
def loginLines (username : Option String) (server : Server) (lines : List String) : List String :=
  match username, server.onLogin with
  | none, _ => lines
  | some name, .ok reply => ("AUTH " ++ name ++ ": " ++ reply.words) :: lines
  | some _, .error _ => []

/-- The lines about a session in which some talk takes place, with a server that gives `answers` to
the messages. There are none if no connection comes about. -/
def transcript (e : Endpoint) (server : Server) (talk : Talk μ α) (answers : List SendAnswer) :
    List String :=
  match Decimal.numeral? e.port, server.onConnect with
  | some _, .ok reply =>
    ("connect: " ++ reply.words) :: extensionsLine server.extensions ::
      loginLines e.username server ((talk.acceptances answers).flatMap takenLines)
  | _, _ => []

end Session

/-! ## Protocol records -/

/-- The protocol record, if the event is one. -/
def Event.protocol? : Event μ → Option Record
  | .note (.record r) => if r.source = .protocol then some r else none
  | _ => none

/-- The protocol records among events, in order. -/
def protocolRecords (events : List (Event μ)) : List Record := events.filterMap Event.protocol?

/-- Lines as they are logged by a session that does or does not trace the protocol. -/
def logged (enabled : Bool) (lines : List String) : List Record :=
  if enabled then lines.map fun line ↦ ⟨.debug, .protocol, line⟩ else []

theorem logged_append (enabled : Bool) (lines lines' : List String) :
    logged enabled (lines ++ lines') = logged enabled lines ++ logged enabled lines' := by
  cases enabled with
  | false => rfl
  | true => exact List.map_append

@[simp] theorem logged_nil (enabled : Bool) : logged enabled [] = [] := by
  cases enabled <;> rfl

/-- The contract under which nothing is logged as part of the protocol. -/
def aside : Contract Situation (Event μ) Failure where
  event e := e.protocol? = none

section Chains

variable {x : Work μ α} {s s' : Situation} {events : List (Event μ)}

theorem protocolRecords_of_aside (h : Meets aside (fun _ ↦ True) x) (s : Situation) :
    protocolRecords (x s).events = [] :=
  h.filterMap_eq_nil trivial fun _ he ↦ he

theorem protocolRecords_bind_of_ok {a : α} (h : (x s).outline = ⟨.ok a, s', events⟩)
    (f : α → Work μ β) :
    protocolRecords ((x >>= f) s).events =
      protocolRecords (x s).events ++ protocolRecords (f a s').events := by
  obtain ⟨hr, rfl, -⟩ := eq_of_outline h
  exact filterMap_bind_of_ok hr

theorem protocolRecords_bind_of_error {e : Failure}
    (h : (x s).outline = ⟨.error e, s', events⟩) (f : α → Work μ β) :
    protocolRecords ((x >>= f) s).events = protocolRecords (x s).events :=
  filterMap_bind_of_error (eq_of_outline h).1

/-- What logs nothing of the protocol can be left aside in front of a piece of work. -/
theorem protocolRecords_bind_of_aside (hx : Meets aside (fun _ ↦ True) x) {a : α}
    (h : (x s).outline = ⟨.ok a, s', events⟩) (f : α → Work μ β) :
    protocolRecords ((x >>= f) s).events = protocolRecords (f a s').events := by
  rw [protocolRecords_bind_of_ok h, protocolRecords_of_aside hx, List.nil_append]

/-- An attempt logs what is attempted. -/
theorem protocolRecords_attempt (x : Work μ α) (s : Situation) :
    protocolRecords (attempt x s).events = protocolRecords (x s).events := by
  unfold attempt
  rw [rescue, bind_pure_apply]
  cases (x s).result with
  | ok a => rfl
  | error e => exact congrArg protocolRecords (List.append_nil _)

end Chains

/-! ## What is logged aside -/

theorem ofResult_aside (r : Except Failure α) :
    Meets aside (fun _ ↦ True) (Activity.ofResult r : Work μ α) :=
  Meets.ofResult (.any r)

theorem Work.log_aside {source : Source} (h : source ≠ .protocol) (level : Level) (text : String) :
    Meets aside (fun _ ↦ True) (log source level text : Work μ Unit) := by
  refine meets_prepare (fun n hn ↦ ?_) trivial
  rw [List.mem_singleton.mp hn]
  exact if_neg h

theorem Work.setConnected_aside (b : Bool) :
    Meets aside (fun _ ↦ True) (setConnected b : Work μ Unit) :=
  Meets.modify fun _ ↦ id

namespace Session

theorem answered_aside (r : Except Fault α) :
    Meets aside (fun _ ↦ True) (answered r : Work μ α) :=
  ofResult_aside _

theorem call_aside (k : Call μ) : Meets aside (fun _ ↦ True) (call k) :=
  Meets.emit rfl

theorem connect_aside (settings : SessionSettings) (server : Server) :
    Meets aside (fun _ ↦ True) (connect settings server : Work μ Reply) := by
  unfold connect
  refine Meets.bind (call_aside _) fun _ _ ↦ Meets.bind (call_aside _) fun _ _ ↦ ?_
  refine Meets.bind (answered_aside _) fun _ _ ↦ ?_
  exact Meets.bind (Work.setConnected_aside true) fun _ _ ↦ Meets.pure trivial

theorem nextAnswer_aside : Meets aside (fun _ ↦ True) (nextAnswer : Work μ SendAnswer) := by
  unfold nextAnswer
  refine Meets.bind Meets.get fun _ _ ↦ ?_
  exact Meets.bind (Meets.modify fun _ ↦ id) fun _ _ ↦ Meets.pure trivial

theorem quit_aside (server : Server) : Meets aside (fun _ ↦ True) (quit server : Work μ Unit) := by
  unfold quit
  refine Meets.bind (Work.log_aside (by decide) _ _) fun _ _ ↦ ?_
  refine Meets.bind (call_aside _) fun _ _ ↦ Meets.bind (answered_aside _) fun _ _ ↦ ?_
  exact Work.setConnected_aside false

theorem onFailedQuit_aside (e : Failure) :
    Meets aside (fun _ ↦ True) (onFailedQuit e : Work μ Unit) := by
  unfold onFailedQuit
  split
  · split
    · refine Meets.bind (Work.log_aside (by decide) _ _) fun _ _ ↦ ?_
      exact Meets.bind (call_aside _) fun _ _ ↦ Work.setConnected_aside false
    · exact Meets.fail trivial
  · exact Meets.fail trivial

theorem disconnect_aside (server : Server) :
    Meets aside (fun _ ↦ True) (disconnect server : Work μ Unit) := by
  unfold disconnect
  refine Meets.bind Meets.get fun _ _ ↦ ?_
  split
  · exact Meets.rescue (fun _ ↦ True) (quit_aside server) fun e _ ↦ onFailedQuit_aside e
  · exact Meets.pure trivial

end Session

/-! ## What is traced -/

/-- The thresholds show the protocol records of a session that traces. -/
def Situation.Shows (s : Situation) (enabled : Bool) : Prop :=
  enabled = true → s.thresholds.protocol = TraceBlock.openThreshold

theorem Situation.shows_dropping {s : Situation} {enabled : Bool} (h : s.Shows enabled)
    (answers : List SendAnswer) (drops : Bool) :
    (({ s with answers } : Situation).dropping drops).Shows enabled := by
  cases drops <;> exact h

theorem Work.shows_tracing (enabled : Bool) (s : Situation) :
    (tracing enabled s).Shows enabled := by
  rintro rfl
  rfl

/-- A record that is shown is kept. -/
theorem Situation.passes_of_shows {s : Situation} (h : s.Shows true) (line : String) :
    s.thresholds.passes ⟨.debug, .protocol, line⟩ = true := by
  rw [Thresholds.passes, Thresholds.effective, h rfl]
  rfl

theorem Work.protocolRecords_trace {enabled : Bool} {s : Situation} (h : s.Shows enabled)
    (lines : List String) :
    protocolRecords ((trace enabled lines : Work μ Unit) s).events = logged enabled lines := by
  cases enabled with
  | false => rfl
  | true =>
    have hlog : ∀ line,
        protocolRecords ((log .protocol .debug line : Work μ Unit) s).events
          = [⟨.debug, .protocol, line⟩] := by
      intro line
      have hkept : s.event? (μ := μ) (.record ⟨.debug, .protocol, line⟩)
          = some (.note (.record ⟨.debug, .protocol, line⟩)) :=
        if_pos (Situation.passes_of_shows h line)
      show protocolRecords ([Note.record ⟨.debug, .protocol, line⟩].filterMap s.event?) = _
      rw [List.filterMap_cons_some hkept]
      rfl
    rw [trace, if_pos rfl]
    induction lines with
    | nil => rfl
    | cons line rest ih =>
      refine (protocolRecords_bind_of_ok (outline_log ..) _).trans ?_
      rw [hlog]
      exact congrArg _ ih

namespace Session

/-- The records of a step that goes on with `rest` after the connection has dropped, if it did. -/
theorem protocolRecords_dropping (drops : Bool) (rest : Unit → Work μ α) (s : Situation) :
    protocolRecords ((if drops then Work.setConnected false >>= rest else rest ()) s).events
      = protocolRecords (rest () (s.dropping drops)).events := by
  cases drops <;> rfl

theorem protocolRecords_login {settings : SessionSettings} (server : Server) {s : Situation}
    (h : s.Shows settings.debug) :
    protocolRecords ((login settings server : Work μ Unit) s).events
      = logged settings.debug
          (loginLines (settings.credentials.map Credentials.username) server []) := by
  unfold login
  cases hc : settings.credentials with
  | none => exact (logged_nil _).symm
  | some c =>
    rw [protocolRecords_bind_of_aside (Work.log_aside (by decide) _ _) (Work.outline_log ..),
      protocolRecords_bind_of_aside (call_aside _) (outline_call ..)]
    refine (protocolRecords_dropping server.dropsOnLogin _ s).trans ?_
    unfold loginLines
    cases server.onLogin with
    | error f => exact (logged_nil _).symm
    | ok reply =>
      rw [protocolRecords_bind_of_aside (answered_aside _) (outline_answered ..),
        protocolRecords_bind_of_aside (Work.log_aside (by decide) _ _) (Work.outline_log ..)]
      exact Work.protocolRecords_trace (Situation.shows_dropping h s.answers _) _

theorem protocolRecords_send {settings : SessionSettings} (message : μ) {s : Situation}
    (h : s.Shows settings.debug) :
    protocolRecords (send settings message s).events
      = logged settings.debug
          ((s.answers.headD {}).result.toOption.toList.flatMap takenLines) := by
  unfold send
  rw [protocolRecords_bind_of_aside (call_aside _) (outline_call ..),
    protocolRecords_bind_of_aside nextAnswer_aside
    (show (nextAnswer s).outline
      = ⟨.ok (s.answers.headD {}), { s with answers := s.answers.tail }, []⟩ from rfl)]
  refine (protocolRecords_dropping (s.answers.headD {}).drops _ _).trans ?_
  cases ha : (s.answers.headD {}).result with
  | error f => exact (logged_nil _).symm
  | ok acceptance =>
    rw [protocolRecords_bind_of_aside (answered_aside _) (outline_answered ..)]
    refine (Work.protocolRecords_trace (Situation.shows_dropping h _ _) _).trans ?_
    exact congrArg (logged settings.debug) (List.flatMap_singleton ..).symm

end Session

/-! ## What is done in a session -/

namespace Talk

/-- A talk is logged message by message. -/
theorem protocolRecords_work {settings : SessionSettings} (talk : Talk μ α) {s : Situation}
    (h : s.Shows settings.debug) :
    protocolRecords (talk.work settings s).events
      = logged settings.debug ((talk.acceptances s.answers).flatMap Session.takenLines) := by
  induction talk generalizing s with
  | finish result => exact (logged_nil _).symm
  | send message next ih =>
    -- what follows meets the rest of the answers, and thresholds that show it as well
    rw [work,
      protocolRecords_bind_of_ok (outline_attempt (Session.outline_send settings message s)),
      protocolRecords_attempt, Session.protocolRecords_send message h,
      ih _ (Situation.shows_dropping h _ _), Situation.answers_dropping, ← logged_append,
      ← List.flatMap_append]
    rfl

end Talk

namespace Session

/-- After the login, what is logged is that of the work, which the login does not interfere with. -/
theorem protocolRecords_login_bind {settings : SessionSettings} (server : Server) {work : Work μ α}
    {s : Situation} (h : s.Shows settings.debug) {lines : List String}
    (hwork : ∀ s' : Situation, s'.answers = s.answers → s'.Shows settings.debug →
      protocolRecords (work s').events = logged settings.debug lines) :
    protocolRecords ((do login settings server; work : Work μ α) s).events
      = logged settings.debug
          (loginLines (settings.credentials.map Credentials.username) server lines) := by
  have hlogin := protocolRecords_login (μ := μ) server h
  cases hc : settings.credentials with
  | none =>
    rw [protocolRecords_bind_of_ok (outline_login_of_none hc server s), hlogin, hc, hwork s rfl h,
      ← logged_append]
    rfl
  | some c =>
    have hout := outline_login_of_some (μ := μ) hc server s
    unfold loginLines at hlogin ⊢
    rw [hc] at hlogin
    cases hl : server.onLogin with
    | error f =>
      rw [hl] at hout hlogin
      exact (protocolRecords_bind_of_error hout _).trans hlogin
    | ok reply =>
      rw [hl] at hout hlogin
      rw [protocolRecords_bind_of_ok hout, hlogin,
        hwork _ (Situation.answers_dropping ..) (Situation.shows_dropping h s.answers _),
        ← logged_append]
      rfl

/-! ## The extensions -/

theorem mem_addName {names : List String} {name other : String} :
    other ∈ ProtocolTrace.addName names name ↔ other ∈ names ∨ other = name := by
  rw [ProtocolTrace.addName]
  split
  · next h =>
    refine ⟨.inl, ?_⟩
    rintro (h' | rfl)
    · exact h'
    · exact List.contains_iff_mem.mp h
  · rw [List.mem_append, List.mem_singleton]

theorem nodup_addName {names : List String} (h : names.Nodup) (name : String) :
    (ProtocolTrace.addName names name).Nodup := by
  rw [ProtocolTrace.addName]
  split
  · exact h
  · next hnot =>
    refine h.append (List.nodup_singleton name) ?_
    rw [List.disjoint_singleton]
    exact fun hmem ↦ hnot (List.contains_iff_mem.mpr hmem)

/-- Adding names one by one, a list without repetitions stays one. -/
theorem foldl_addName {names : List String} (h : names.Nodup) (more : List String) :
    (more.foldl ProtocolTrace.addName names).Nodup ∧
      ∀ name, name ∈ more.foldl ProtocolTrace.addName names ↔ name ∈ names ∨ name ∈ more := by
  induction more generalizing names with
  | nil => simp [h]
  | cons next rest ih =>
    obtain ⟨hnodup, hmem⟩ := ih (nodup_addName h next)
    refine ⟨hnodup, fun name ↦ ?_⟩
    rw [List.foldl_cons, hmem, mem_addName, List.mem_cons, or_assoc]

theorem extensions_eq (names : List String) :
    ProtocolTrace.extensions names = extensionsLine names := by
  obtain ⟨hnodup, hmem⟩ := foldl_addName List.nodup_nil names
  have hsorted : names.toFinset.sort (· ≤ ·) =
      (names.foldl ProtocolTrace.addName []).mergeSort fun a b ↦ a ≤ b := by
    have hperm := List.mergeSort_perm (names.foldl ProtocolTrace.addName []) fun a b ↦ a ≤ b
    have hsame : names.toFinset = ((names.foldl ProtocolTrace.addName []).mergeSort
        fun a b ↦ a ≤ b).toFinset := by
      ext name
      rw [List.mem_toFinset, List.mem_toFinset, hperm.mem_iff, hmem]
      simp
    -- a sorted list without repetitions is the sorted list of its members
    rw [hsame, List.toFinset_sort _ (hperm.nodup_iff.mpr hnodup)]
    exact List.pairwise_mergeSort' _ _
  unfold ProtocolTrace.extensions extensionsLine
  simp only [hsorted, String.isEmpty_iff]

/-! ## Refusals -/

/-- Recipients that are not named yet are added one after the other. -/
theorem foldl_addRefusal {front more : List Refusal}
    (h : ((front ++ more).map Refusal.recipient).Nodup) :
    more.foldl Acceptance.addRefusal front = front ++ more := by
  induction more generalizing front with
  | nil => exact (List.append_nil front).symm
  | cons r rest ih =>
    -- the next recipient is none of those in front
    have hnew : ¬ front.any (fun x ↦ x.recipient = r.recipient) := by
      rw [List.any_eq_true]
      rintro ⟨x, hx, heq⟩
      rw [List.map_append] at h
      exact List.disjoint_of_nodup_append h (List.mem_map_of_mem hx)
        (of_decide_eq_true heq ▸ List.mem_cons_self)
    rw [List.append_cons] at h ⊢
    rw [List.foldl_cons, Acceptance.addRefusal, if_neg hnew, ih h]

/-- Refusals of which each is of another recipient are taken as they are. -/
theorem refusals_eq_refused {a : Acceptance} (h : (a.refused.map Refusal.recipient).Nodup) :
    a.refusals = a.refused :=
  foldl_addRefusal h

/-! ## The whole -/

/-- A session that stands logs what is done in it, and nothing at its end. -/
theorem protocolRecords_connected {e : Endpoint} (server : Server) (talk : Talk μ α)
    {s : Situation} (h : s.Shows e.debug) :
    protocolRecords (connected (.ofEndpoint e) server (talk.work (.ofEndpoint e)) s).events
      = logged e.debug
          (loginLines e.username server ((talk.acceptances s.answers).flatMap takenLines)) := by
  have hname :
      (SessionSettings.ofEndpoint e).credentials.map Credentials.username = e.username := by
    cases hu : e.username <;> simp [SessionSettings.ofEndpoint, hu]
  have hlogin : protocolRecords ((do
        login (.ofEndpoint e) server
        talk.work (.ofEndpoint e) : Work μ α) s).events = _ :=
    protocolRecords_login_bind server h fun s' hs' h' ↦ hs' ▸ talk.protocolRecords_work h'
  refine (filterMap_ensuring ..).trans ?_
  refine (congrArg _ (protocolRecords_of_aside (disconnect_aside server) _)).trans ?_
  rw [List.append_nil, ← hname]
  exact hlogin

theorem protocolRecords_inside {e : Endpoint} (server : Server) (talk : Talk μ α) {s : Situation}
    (h : s.Shows e.debug) :
    protocolRecords (inside (.ofEndpoint e) server (talk.work (.ofEndpoint e)) s).events
      = logged e.debug (transcript e server talk s.answers) := by
  unfold inside transcript
  cases hp : Decimal.numeral? e.port with
  | none =>
    rw [show Decimal.numeral? (SessionSettings.ofEndpoint e).port = none from hp]
    exact (protocolRecords_bind_of_error (outline_ofResult ..) _).trans (logged_nil _).symm
  | some port =>
    rw [show Decimal.numeral? (SessionSettings.ofEndpoint e).port = some port from hp,
      orFail, protocolRecords_bind_of_aside (ofResult_aside _) (outline_ofResult ..),
      protocolRecords_bind_of_aside (Work.log_aside (by decide) _ _) (Work.outline_log ..)]
    cases hc : server.onConnect with
    | error f =>
      rw [protocolRecords_bind_of_error (outline_connect_of_error hc s),
        protocolRecords_of_aside (connect_aside _ _)]
      exact (logged_nil _).symm
    | ok reply =>
      rw [protocolRecords_bind_of_aside (connect_aside _ _) (outline_connect_of_ok hc s),
        protocolRecords_bind_of_aside (Work.log_aside (by decide) _ _) (Work.outline_log ..),
        protocolRecords_bind_of_ok (Work.outline_trace ..), extensions_eq]
      have hshown : (({ s with connected := !server.dropsOnConnect } : Situation)).Shows e.debug := h
      refine (congrArg₂ _ (Work.protocolRecords_trace hshown _)
        (protocolRecords_connected server talk hshown)).trans ?_
      exact (logged_append ..).symm

/-- **Transcript.** If its endpoint asks for that, a session logs as part of the protocol exactly
the lines of its transcript, in their order, and otherwise it logs nothing there, whatever the
server answers, whatever is done in the session, however it ends, and whatever the thresholds were
before. Refusals that name each recipient once are those that the transcript lists. -/
theorem within_transcript :
    (∀ (e : Endpoint) (server : Server) (talk : Talk μ α) (s : Situation),
      protocolRecords (within (.ofEndpoint e) server (talk.work (.ofEndpoint e)) s).events
        = if e.debug then
            (transcript e server talk s.answers).map fun line ↦ ⟨.debug, .protocol, line⟩
          else []) ∧
      ∀ a : Acceptance, (a.refused.map Refusal.recipient).Nodup → a.refusals = a.refused := by
  refine ⟨fun e server talk s ↦ ?_, fun a ↦ refusals_eq_refused⟩
  rw [within_eq_traced, Work.events_traced]
  exact protocolRecords_inside server talk (Work.shows_tracing e.debug s)

/-- A server that does not take the first message, and refuses a recipient of the second. -/
private def selective : Server where
  extensions := ["SIZE", "PIPELINING", "SIZE"]
  onSend := [{ result := .error ⟨"SMTPDataError", "no", .smtp⟩ },
    { result := .ok { refused := [⟨"bob@task.org", ⟨550, "unknown user"⟩⟩] } }]

/-- An endpoint that is to be traced. -/
private def traced : Endpoint := { host := "mx", port := 25, username := some "ann", debug := true }

/-- Both messages are handed over, and then the work fails. -/
private def letters : Talk String Unit :=
  .send "one" fun _ ↦ .send "two" fun _ ↦ .finish (.error .longInteger)

/-- The session with both messages is logged, although the thresholds let hardly any record pass. -/
theorem within_transcript_selective :
    protocolRecords (within (.ofEndpoint traced) selective (letters.work (.ofEndpoint traced))
        { thresholds := ⟨40, 40⟩, answers := selective.onSend }).events =
      ["connect: 220 ready", "EHLO extensions: PIPELINING, SIZE", "AUTH ann: 235 accepted",
        "RCPT bob@task.org refused: 550 unknown user", "DATA: OK"].map
          fun line ↦ ⟨.debug, .protocol, line⟩ := by
  have hlines : transcript traced selective letters selective.onSend =
      ["connect: 220 ready", "EHLO extensions: PIPELINING, SIZE", "AUTH ann: 235 accepted",
        "RCPT bob@task.org refused: 550 unknown user", "DATA: OK"] := by
    have hextensions :
        extensionsLine selective.extensions = "EHLO extensions: PIPELINING, SIZE" := by
      unfold extensionsLine
      cbv
    unfold transcript
    rw [hextensions]
    cbv
  rw [← hlines]
  exact (within_transcript.1 traced selective letters _).trans (if_pos rfl)

end Session

end MailDispatch
