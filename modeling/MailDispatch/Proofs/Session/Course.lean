import MailDispatch.Proofs.Session.Milestones

/-!
# How a session goes

A session goes in one of a few ways, and `Session.Course` lists them: the server cannot be reached,
or it rejects the login, or the work is done; in the last two cases the session says goodbye unless
the connection is gone, and `Session.Farewell` lists the ways in which that goes. Both are relations
between what the server does and the milestones that the client leaves, and `within_course` says
that every session is one of these. What is claimed of all sessions can then be read off case by
case.
-/

namespace MailDispatch

variable {μ α : Type}

/-- The situation after a connection has dropped, if it did. -/
def Situation.dropping (s : Situation) (drops : Bool) : Situation :=
  if drops then { s with connected := false } else s

@[simp] theorem Situation.answers_dropping (s : Situation) (drops : Bool) :
    (s.dropping drops).answers = s.answers := by
  cases drops <;> rfl

namespace Session

open Activity Outcome

/-! ## The steps -/

/-- The calls that open a connection. -/
def opening (settings : SessionSettings) : List (Event μ) :=
  [.call (.construct settings.client), .call (.connect settings.connectTimeout)]

/-- The calls of a login. -/
def loginCalls (settings : SessionSettings) : List (Event μ) :=
  (settings.credentials.map fun c ↦ Event.call (Call.login c)).toList

@[simp] theorem passed_opening (settings : SessionSettings) :
    passed (opening (μ := μ) settings) = [] := rfl

@[simp] theorem called_opening (settings : SessionSettings) :
    called (opening (μ := μ) settings)
      = [.construct settings.client, .connect settings.connectTimeout] := rfl

@[simp] theorem passed_loginCalls (settings : SessionSettings) :
    passed (loginCalls (μ := μ) settings) = [] := by
  rw [loginCalls]
  cases settings.credentials <;> rfl

@[simp] theorem called_loginCalls (settings : SessionSettings) :
    called (loginCalls (μ := μ) settings) = (settings.credentials.map Call.login).toList := by
  rw [loginCalls]
  cases settings.credentials <;> rfl

theorem outline_connect_of_ok {settings : SessionSettings} {server : Server} {reply : Reply}
    (h : server.onConnect = .ok reply) (s : Situation) :
    ((connect settings server : Work μ Reply) s).outline
      = ⟨.ok reply, { s with connected := !server.dropsOnConnect }, opening settings⟩ := by
  unfold connect
  rw [outline_bind_of_ok (outline_call ..), outline_bind_of_ok (outline_call ..), h]
  rfl

theorem outline_connect_of_error {settings : SessionSettings} {server : Server} {f : Fault}
    (h : server.onConnect = .error f) (s : Situation) :
    ((connect settings server : Work μ Reply) s).outline
      = ⟨.error (.fault f), s, opening settings⟩ := by
  unfold connect
  rw [outline_bind_of_ok (outline_call ..), outline_bind_of_ok (outline_call ..), h]
  rfl

/-- A step that goes on with `rest` after the connection has dropped, if it did. -/
theorem outline_dropping (drops : Bool) (rest : Unit → Work μ α) (s : Situation) :
    ((if drops then Work.setConnected false >>= rest else rest () : Work μ α) s).outline
      = (rest () (s.dropping drops)).outline := by
  cases drops <;> rfl

theorem outline_login_of_none {settings : SessionSettings} (h : settings.credentials = none)
    (server : Server) (s : Situation) :
    ((login settings server : Work μ Unit) s).outline = ⟨.ok (), s, []⟩ := by
  rw [login, h]
  rfl

theorem outline_login_of_some {settings : SessionSettings} {c : Credentials}
    (h : settings.credentials = some c) (server : Server) (s : Situation) :
    ((login settings server : Work μ Unit) s).outline
      = ⟨(server.onLogin.mapError .fault).map fun _ ↦ (), s.dropping server.dropsOnLogin,
          [.call (.login c)]⟩ := by
  unfold login
  rw [h, outline_bind_of_ok (Work.outline_log ..), outline_bind_of_ok (outline_call ..),
    behind_behind, List.nil_append]
  refine (congrArg (Outcome.behind · [Event.call (Call.login c)])
    (outline_dropping server.dropsOnLogin _ s)).trans ?_
  cases hl : server.onLogin with
  | error f => rfl
  | ok reply =>
    rw [outline_bind_of_ok (outline_answered ..), outline_bind_of_ok (Work.outline_log ..),
      Work.outline_trace]
    rfl

theorem outline_send (settings : SessionSettings) (message : μ) (s : Situation) :
    (send settings message s).outline
      = ⟨((s.answers.headD {}).result.mapError .fault).map fun _ ↦ (),
          { s with answers := s.answers.tail }.dropping (s.answers.headD {}).drops,
          [.call (.send message)]⟩ := by
  unfold send
  rw [outline_bind_of_ok (outline_call ..), outline_bind_of_ok
    (show (nextAnswer s).outline
      = ⟨.ok (s.answers.headD {}), { s with answers := s.answers.tail }, []⟩ from rfl),
    behind_behind, List.append_nil]
  refine (congrArg (Outcome.behind · [Event.call (Call.send message)])
    (outline_dropping (s.answers.headD {}).drops _ _)).trans ?_
  cases ha : (s.answers.headD {}).result with
  | error f => rfl
  | ok acceptance =>
    rw [outline_bind_of_ok (outline_answered ..), Work.outline_trace]
    rfl

/-! ## The goodbye -/

/-- How a session ends that is or is not connected: the calls of its end, and the fault that is not
only logged, if there is one. -/
inductive Farewell (server : Server) : Bool → List (Event μ) → Option Fault → Prop
  | gone : Farewell server false [] none
  | polite {reply : Reply} (h : server.onQuit = .ok reply) :
    Farewell server true [.call .quit] none
  | ignored {f : Fault} (h : server.onQuit = .error f) (hf : f.isIgnoredOnQuit = true) :
    Farewell server true [.call .quit, .call .close] none
  | failed {f : Fault} (h : server.onQuit = .error f) (hf : f.isIgnoredOnQuit = false) :
    Farewell server true [.call .quit] (some f)

namespace Farewell

variable {server : Server} {connected : Bool} {goodbye : List (Event μ)} {fault : Option Fault}

/-- A goodbye passes no state. -/
theorem passed_eq_nil (h : Farewell server connected goodbye fault) :
    passed goodbye = [] := by
  cases h <;> rfl

/-- A goodbye whose failure is ignored leaves no fault. -/
theorem eq_none (h : Farewell server connected goodbye fault)
    (hquit : ∀ f, server.onQuit = .error f → f.isIgnoredOnQuit) : fault = none := by
  cases h with
  | failed hf hnot => rw [hquit _ hf] at hnot; cases hnot
  | _ => rfl

theorem eq_of_mem_called (h : Farewell server connected goodbye fault) {k : Call μ}
    (hk : k ∈ called goodbye) : k = .quit ∨ k = .close := by
  cases h with
  | gone => exact absurd hk List.not_mem_nil
  | polite _ => exact .inl (List.mem_singleton.mp hk)
  | ignored _ _ => simpa [called, Event.call?] using hk
  | failed _ _ => exact .inl (List.mem_singleton.mp hk)

end Farewell

/-- The result of a session, unless the fault of its goodbye takes its place. -/
def closing (fault : Option Fault) (r : Except Failure α) : Except Failure α :=
  fault.elim r fun f ↦ .error (.fault f)

theorem outline_quit (server : Server) (s : Situation) :
    ((quit server : Work μ Unit) s).outline
      = match server.onQuit with
        | .ok _ => ⟨.ok (), { s with connected := false }, [.call .quit]⟩
        | .error f => ⟨.error (.fault f), s, [.call .quit]⟩ := by
  unfold quit
  rw [outline_bind_of_ok (Work.outline_log ..), outline_bind_of_ok (outline_call ..)]
  cases server.onQuit with
  | ok reply => rfl
  | error f => rfl

theorem outline_onFailedQuit (f : Fault) (s : Situation) :
    ((onFailedQuit (.fault f) : Work μ Unit) s).outline
      = if f.isIgnoredOnQuit then ⟨.ok (), { s with connected := false }, [.call .close]⟩
        else ⟨.error (.fault f), s, []⟩ := by
  rw [onFailedQuit]
  split
  · rw [outline_bind_of_ok (Work.outline_log ..), outline_bind_of_ok (outline_call ..)]
    rfl
  · rfl

/-- Every session ends in one of the ways listed. -/
theorem outline_disconnect (server : Server) (s : Situation) :
    ∃ goodbye fault s', Farewell server s.connected goodbye fault ∧
      ((disconnect server : Work μ Unit) s).outline = ⟨closing fault (.ok ()), s', goodbye⟩ := by
  unfold disconnect
  rw [outline_bind_of_ok (show (Activity.get s).outline = ⟨.ok s, s, []⟩ from rfl)]
  cases hc : s.connected with
  | false => exact ⟨[], none, s, .gone, rfl⟩
  | true =>
    have hquit := outline_quit (μ := μ) server s
    cases h : server.onQuit with
    | ok reply =>
      rw [h] at hquit
      rw [if_pos rfl, outline_rescue_of_ok hquit]
      exact ⟨_, none, _, .polite h, rfl⟩
    | error f =>
      rw [h] at hquit
      rw [if_pos rfl, outline_rescue_of_error hquit, outline_onFailedQuit]
      cases hf : f.isIgnoredOnQuit with
      | true => exact ⟨_, none, _, .ignored h hf, rfl⟩
      | false => exact ⟨_, some f, _, .failed h hf, rfl⟩

theorem outline_ensuring_disconnect (server : Server) (x : Work μ α) (s : Situation) :
    ∃ goodbye fault s', Farewell server (x s).state.connected goodbye fault ∧
      (x.ensuring (disconnect server) s).outline
        = ⟨closing fault (x s).result, s', milestones (x s).events ++ goodbye⟩ := by
  obtain ⟨goodbye, fault, s', hgoodbye, hout⟩ := outline_disconnect server (x s).state
  refine ⟨goodbye, fault, s', hgoodbye, ?_⟩
  rw [outline_ensuring hout]
  cases fault <;> rfl

/-! ## From the beginning to the end -/

/-- What is done once a connection stands. -/
def connected (settings : SessionSettings) (server : Server) (work : Work μ α) : Work μ α :=
  (do login settings server; work : Work μ α).ensuring (disconnect server)

/-- What is done in the trace block of a session. -/
def inside (settings : SessionSettings) (server : Server) (work : Work μ α) : Work μ α := do
  let port ← Activity.ofResult (orFail .longInteger (Decimal.numeral? settings.port))
  Work.log .session .info ("Connecting to SMTP " ++ settings.hostname ++ ":" ++ port)
  let reply ← connect settings server
  Work.log .session .debug "SMTP connection established"
  Work.trace settings.debug
    [ProtocolTrace.reply "connect" reply, ProtocolTrace.extensions server.extensions]
  connected settings server work

theorem within_eq_traced (settings : SessionSettings) (server : Server) (work : Work μ α) :
    within settings server work = Work.traced settings.debug (inside settings server work) := rfl

theorem outline_inside_of_unwritten {settings : SessionSettings}
    (hport : Decimal.numeral? settings.port = none) (server : Server) (work : Work μ α)
    (s : Situation) :
    (inside settings server work s).outline = ⟨.error .longInteger, s, []⟩ := by
  unfold inside
  rw [hport]
  exact outline_bind_of_error (outline_ofResult _ s) _

theorem outline_inside_of_error {settings : SessionSettings} {server : Server} {port : String}
    {f : Fault} (hport : Decimal.numeral? settings.port = some port)
    (hconnect : server.onConnect = .error f) (work : Work μ α) (s : Situation) :
    (inside settings server work s).outline = ⟨.error (.fault f), s, opening settings⟩ := by
  unfold inside
  rw [hport, orFail, outline_bind_of_ok (outline_ofResult ..),
    outline_bind_of_ok (Work.outline_log ..),
    outline_bind_of_error (outline_connect_of_error hconnect s)]
  rfl

theorem outline_inside_of_ok {settings : SessionSettings} {server : Server} {port : String}
    {reply : Reply} (hport : Decimal.numeral? settings.port = some port)
    (hconnect : server.onConnect = .ok reply) (work : Work μ α) (s : Situation) :
    (inside settings server work s).outline
      = (connected settings server work
          { s with connected := !server.dropsOnConnect }).outline.behind (opening settings) := by
  unfold inside
  rw [hport, orFail, outline_bind_of_ok (outline_ofResult ..),
    outline_bind_of_ok (Work.outline_log ..),
    outline_bind_of_ok (outline_connect_of_ok hconnect s), outline_bind_of_ok (Work.outline_log ..),
    outline_bind_of_ok (Work.outline_trace ..)]
  rfl

/-! ## Courses -/

/-- How a session under settings goes in which some work is to be done, while the server has
`answers` left for the messages handed over: its milestones and its result. -/
inductive Course (settings : SessionSettings) (server : Server) (work : Work μ α)
    (answers : List SendAnswer) : List (Event μ) → Except Failure α → Prop
  | unwritten (hport : Decimal.numeral? settings.port = none) :
    Course settings server work answers [] (.error .longInteger)
  | unreachable {f : Fault} (hconnect : server.onConnect = .error f) :
    Course settings server work answers (opening settings) (.error (.fault f))
  | rejected {reply : Reply} {f : Fault} {connected : Bool} {goodbye : List (Event μ)}
    {fault : Option Fault} (hconnect : server.onConnect = .ok reply)
    (hcredentials : settings.credentials.isSome) (hlogin : server.onLogin = .error f)
    (hgoodbye : Farewell server connected goodbye fault) :
    Course settings server work answers (opening settings ++ (loginCalls settings ++ goodbye))
      (closing fault (.error (.fault f)))
  | opened {reply : Reply} {s : Situation} {goodbye : List (Event μ)} {fault : Option Fault}
    (hconnect : server.onConnect = .ok reply)
    (hlogin : settings.credentials.isSome → ∃ reply, server.onLogin = .ok reply)
    (hanswers : s.answers = answers)
    (hgoodbye : Farewell server (work s).state.connected goodbye fault) :
    Course settings server work answers
      (opening settings ++ (loginCalls settings ++ (milestones (work s).events ++ goodbye)))
      (closing fault (work s).result)

theorem Course.of_outline {settings : SessionSettings} {server : Server} {work : Work μ α}
    {answers : List SendAnswer} {o : Outcome Situation (Event μ) Failure α} {r : Except Failure α}
    {s : Situation} {events : List (Event μ)} (h : o.outline = ⟨r, s, events⟩)
    (hc : Course settings server work answers events r) :
    Course settings server work answers (milestones o.events) o.result := by
  obtain ⟨hr, -, he⟩ := eq_of_outline h
  rw [hr, he]
  exact hc

theorem connected_course {settings : SessionSettings} {server : Server} {reply : Reply}
    (hconnect : server.onConnect = .ok reply) (work : Work μ α) (s : Situation) :
    ∃ r s' events, (connected settings server work s).outline = ⟨r, s', events⟩ ∧
      Course settings server work s.answers (opening settings ++ events) r := by
  obtain ⟨goodbye, fault, s', hgoodbye, hout⟩ :=
    outline_ensuring_disconnect server (do login settings server; work) s
  refine ⟨_, _, _, hout, ?_⟩
  cases hc : settings.credentials with
  | none =>
    have hcalls : loginCalls settings = ([] : List (Event μ)) := by rw [loginCalls, hc]; rfl
    obtain ⟨hr, hs, he⟩ := eq_of_outline
      (outline_bind_of_ok (outline_login_of_none hc server s) fun _ ↦ work)
    rw [hs] at hgoodbye
    have hcourse : Course settings server work s.answers _ _ :=
      .opened hconnect (by rw [hc]; exact nofun) rfl hgoodbye
    rw [hcalls] at hcourse
    rw [hr, he]
    exact hcourse
  | some c =>
    have hcalls : loginCalls settings = [Event.call (Call.login c : Call μ)] := by
      rw [loginCalls, hc]
      rfl
    have hlogin := outline_login_of_some (μ := μ) hc server s
    cases hl : server.onLogin with
    | error f =>
      rw [hl] at hlogin
      obtain ⟨hr, -, he⟩ := eq_of_outline (outline_bind_of_error hlogin fun _ ↦ work)
      rw [hr, he, ← hcalls]
      exact .rejected hconnect (by rw [hc]; rfl) hl hgoodbye
    | ok reply' =>
      rw [hl] at hlogin
      obtain ⟨hr, hs, he⟩ := eq_of_outline (outline_bind_of_ok hlogin fun _ ↦ work)
      rw [hs] at hgoodbye
      have hcourse : Course settings server work s.answers _ _ :=
        .opened hconnect (fun _ ↦ ⟨reply', hl⟩) (Situation.answers_dropping ..) hgoodbye
      rw [hcalls] at hcourse
      rw [hr, he]
      exact hcourse

/-- Every session goes in one of the ways listed. -/
theorem within_course (settings : SessionSettings) (server : Server) (work : Work μ α)
    (s : Situation) :
    Course settings server work s.answers (milestones (within settings server work s).events)
      (within settings server work s).result := by
  rw [within_eq_traced, Work.result_traced, Work.milestones_traced]
  generalize hs : Work.tracing settings.debug s = s₁
  have hanswers : s₁.answers = s.answers := hs ▸ rfl
  rw [← hanswers]
  clear hs hanswers s
  cases hp : Decimal.numeral? settings.port with
  | none => exact .of_outline (outline_inside_of_unwritten hp server work s₁) (.unwritten hp)
  | some port =>
    cases hc : server.onConnect with
    | error f => exact .of_outline (outline_inside_of_error hp hc work s₁) (.unreachable hc)
    | ok reply =>
      obtain ⟨r, s', events, hout, hcourse⟩ :=
        connected_course hc work { s₁ with connected := !server.dropsOnConnect }
      refine .of_outline (s := s') ?_ hcourse
      rw [outline_inside_of_ok hp hc, hout]
      rfl

end Session

end MailDispatch
