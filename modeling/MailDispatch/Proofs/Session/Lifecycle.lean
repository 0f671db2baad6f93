import MailDispatch.Proofs.Decimal.Numeral
import MailDispatch.Proofs.Session.Course
import MailDispatch.Session.Talk

/-!
# The life of a session

Whatever is done in a session, its calls come in one order: the client is made and connects, logs in
if there are credentials, hands messages over, and says goodbye if it is still connected by then.
`Session.Lifecycle` lists the ways in which that goes, each with its calls and with what leaves the
session; whether there is a connection at the end is told there by the server's answers alone. A
session whose port is too long to be written does not come to its first call.
-/

namespace MailDispatch

variable {μ α : Type}

open Activity Outcome

/-! ## What is done in a session -/

theorem Activity.outline_attempt {x : Work μ α} {s s' : Situation} {r : Except Failure α}
    {events : List (Event μ)} (h : (x s).outline = ⟨r, s', events⟩) :
    (attempt x s).outline = ⟨.ok r, s', events⟩ := by
  unfold attempt
  cases r with
  | error e =>
    rw [outline_rescue_of_error (outline_bind_of_error h _)]
    exact congrArg (Outcome.mk _ _) (List.append_nil _)
  | ok a =>
    have hx : ((do return .ok (← x) : Work μ (Except Failure α)) s).outline
        = ⟨.ok (.ok a), s', events⟩ := by
      rw [outline_bind_of_ok h]
      exact congrArg (Outcome.mk _ _) (List.append_nil _)
    exact outline_rescue_of_ok hx _

theorem Situation.dropping_dropping (s : Situation) (answers : List SendAnswer)
    (first rest : Bool) :
    ({ s.dropping first with answers } : Situation).dropping rest
      = ({ s with answers } : Situation).dropping (first || rest) := by
  cases first <;> cases rest <;> rfl

@[simp] theorem Situation.connected_dropping (s : Situation) (drops : Bool) :
    (s.dropping drops).connected = (s.connected && !drops) := by
  cases drops <;> simp [dropping]

namespace Talk

/-- A talk does in a session what it comes to with the answers of the server. -/
theorem outline_work (settings : SessionSettings) (talk : Talk μ α) (s : Situation) :
    ∃ answers, (talk.work settings s).outline
      = ⟨(talk.exchange s.answers).result,
          ({ s with answers } : Situation).dropping (talk.exchange s.answers).drops,
          (talk.exchange s.answers).sent.map fun m ↦ .call (.send m)⟩ := by
  induction talk generalizing s with
  | finish result => exact ⟨s.answers, rfl⟩
  | send message next ih =>
    rw [work, outline_bind_of_ok (outline_attempt (Session.outline_send settings message s))]
    obtain ⟨answers, hrest⟩ := ih _ (({ s with answers := s.answers.tail } : Situation).dropping
      (s.answers.headD {}).drops)
    refine ⟨answers, ?_⟩
    rw [hrest, Situation.answers_dropping]
    exact congrArg (Outcome.mk _ · _)
      (Situation.dropping_dropping { s with answers := s.answers.tail } answers _ _)

theorem called_map_send (sent : List μ) :
    called (sent.map fun m ↦ Event.call (Call.send m)) = sent.map Call.send := by
  rw [called, List.filterMap_map]
  exact congrFun List.filterMap_eq_map' sent

end Talk

namespace Session

/-! ## The end -/

/-- A goodbye that fails at most in a way that is only logged leaves no connection. -/
theorem connected_disconnect {server : Server}
    (h : ∀ f, server.onQuit = .error f → f.isIgnoredOnQuit = true) (s : Situation) :
    ((disconnect server : Work μ Unit) s).state.connected = false := by
  cases hs : s.connected with
  | false =>
    have hnone : (disconnect server : Work μ Unit) s = ⟨.ok (), s, []⟩ := by
      unfold disconnect
      rw [bind_apply, chain_of_ok (show Activity.get s = ⟨.ok s, s, []⟩ from rfl)]
      simp only [hs]
      rfl
    rw [hnone, hs]
  | true =>
    have hquit := outline_quit (μ := μ) server s
    suffices hout : (((quit server : Work μ Unit).rescue onFailedQuit) s).outline.state.connected
        = false by
      unfold disconnect
      rw [bind_apply, chain_of_ok (show Activity.get s = ⟨.ok s, s, []⟩ from rfl)]
      simp only [hs]
      exact hout
    cases hq : server.onQuit with
    | ok reply => rw [hq] at hquit; rw [outline_rescue_of_ok hquit]
    | error f =>
      rw [hq] at hquit
      rw [outline_rescue_of_error hquit, outline_onFailedQuit, if_pos (h f hq)]
      rfl

theorem state_ensuring (x : Work μ α) (last : Work μ Unit) (s : Situation) :
    (x.ensuring last s).state = (last (x s).state).state := by
  rw [ensuring]
  split <;> rfl

/-! ## The login -/

/-- After a login that was not rejected the work is done, unless the connection is gone already. -/
theorem outline_login_bind {settings : SessionSettings} {server : Server}
    (hlogin : settings.credentials.isSome → ∃ reply, server.onLogin = .ok reply) (work : Work μ α)
    (s : Situation) :
    ((do login settings server; work : Work μ α) s).outline
      = (work (s.dropping (settings.credentials.isSome && server.dropsOnLogin))).outline.behind
          (loginCalls settings) := by
  cases hc : settings.credentials with
  | none =>
    rw [outline_bind_of_ok (outline_login_of_none hc server s), loginCalls, hc]
    rfl
  | some c =>
    obtain ⟨reply, hreply⟩ := hlogin (by rw [hc]; rfl)
    have hout := outline_login_of_some (μ := μ) hc server s
    rw [hreply] at hout
    rw [outline_bind_of_ok hout, loginCalls, hc]
    rfl

theorem outline_login_bind_of_error {settings : SessionSettings} {server : Server}
    {c : Credentials} {f : Fault} (hc : settings.credentials = some c)
    (hlogin : server.onLogin = .error f) (work : Work μ α) (s : Situation) :
    ((do login settings server; work : Work μ α) s).outline
      = ⟨.error (.fault f), s.dropping server.dropsOnLogin, [.call (.login c)]⟩ := by
  have hout := outline_login_of_some (μ := μ) hc server s
  rw [hlogin] at hout
  exact outline_bind_of_error hout _

/-! ## The whole -/

/-- How a session goes in which some talk takes place: the calls of the client, what the session ends
in, and the fault of its goodbye that takes the place of that, if there is one. The goodbye depends
on whether there is a connection at the end. -/
inductive Lifecycle (settings : SessionSettings) (server : Server) (talk : Talk μ α) :
    List (Call μ) → Except Failure α → Option Fault → Prop
  /-- Nothing follows when connecting fails. -/
  | unreachable {f : Fault} (hconnect : server.onConnect = .error f) :
    Lifecycle settings server talk [.construct settings.client, .connect settings.connectTimeout]
      (.error (.fault f)) none
  /-- No message follows when the login fails. -/
  | rejected {reply : Reply} {c : Credentials} {f : Fault} {goodbye : List (Event μ)}
    {fault : Option Fault} (hconnect : server.onConnect = .ok reply)
    (hcredentials : settings.credentials = some c) (hlogin : server.onLogin = .error f)
    (hgoodbye : Farewell server (!server.dropsOnConnect && !server.dropsOnLogin) goodbye fault) :
    Lifecycle settings server talk
      ([.construct settings.client, .connect settings.connectTimeout, .login c] ++ called goodbye)
      (.error (.fault f)) fault
  | opened {reply : Reply} {goodbye : List (Event μ)} {fault : Option Fault}
    (hconnect : server.onConnect = .ok reply)
    (hlogin : settings.credentials.isSome → ∃ reply, server.onLogin = .ok reply)
    (hgoodbye : Farewell server
      (!server.dropsOnConnect && !(settings.credentials.isSome && server.dropsOnLogin) &&
        !(talk.exchange server.onSend).drops) goodbye fault) :
    Lifecycle settings server talk
      ([.construct settings.client, .connect settings.connectTimeout] ++
        ((settings.credentials.map Call.login).toList ++
          ((talk.exchange server.onSend).sent.map Call.send ++ called goodbye)))
      (talk.exchange server.onSend).result fault

/-- What is done once a connection stands goes in one of the ways listed. -/
theorem connected_lifecycle (settings : SessionSettings) {server : Server} {reply : Reply}
    (hconnect : server.onConnect = .ok reply) (talk : Talk μ α) {s : Situation}
    (hs : s.connected = !server.dropsOnConnect) (hanswers : s.answers = server.onSend) :
    ∃ ends fault, Lifecycle settings server talk (called (opening settings ++ milestones
        (connected settings server (talk.work settings) s).events)) ends fault ∧
      (connected settings server (talk.work settings) s).result = closing fault ends := by
  obtain ⟨goodbye, fault, s', hgoodbye, hout⟩ := outline_ensuring_disconnect server
    (do login settings server; talk.work settings) s
  obtain ⟨hresult, -, hevents⟩ := eq_of_outline hout
  rw [connected, hresult, hevents, called_append, called_append, called_milestones, called_opening]
  by_cases hlogin : settings.credentials.isSome → ∃ reply, server.onLogin = .ok reply
  case pos =>
    have hx := outline_login_bind hlogin (talk.work settings) s
    obtain ⟨answers, hwork⟩ := talk.outline_work settings
      (s.dropping (settings.credentials.isSome && server.dropsOnLogin))
    rw [hwork, Situation.answers_dropping, hanswers] at hx
    obtain ⟨hr, hst, he⟩ := eq_of_outline hx
    rw [hst] at hgoodbye
    rw [hr, ← called_milestones, he, called_append, called_loginCalls, Talk.called_map_send,
      List.append_assoc]
    refine ⟨_, fault, .opened hconnect hlogin ?_, rfl⟩
    simpa [hs] using hgoodbye
  case neg =>
    push Not at hlogin
    obtain ⟨hsome, hnot⟩ := hlogin
    obtain ⟨c, hc⟩ := Option.isSome_iff_exists.mp hsome
    cases hl : server.onLogin with
    | ok reply' => exact absurd hl (hnot reply')
    | error f =>
      have hx := outline_login_bind_of_error hc hl (talk.work settings) s
      obtain ⟨hr, hst, he⟩ := eq_of_outline hx
      rw [hst] at hgoodbye
      rw [hr, ← called_milestones, he]
      refine ⟨_, fault, .rejected hconnect hc hl ?_, rfl⟩
      simpa [hs] using hgoodbye

theorem Lifecycle.eq_none_of_ignored {settings : SessionSettings} {server : Server}
    {talk : Talk μ α} {calls : List (Call μ)} {ends : Except Failure α} {fault : Option Fault}
    (hl : Lifecycle settings server talk calls ends fault)
    (h : ∀ f, server.onQuit = .error f → f.isIgnoredOnQuit = true) : fault = none := by
  cases hl with
  | unreachable _ => rfl
  | rejected _ _ _ hgoodbye => exact hgoodbye.eq_none h
  | opened _ _ hgoodbye => exact hgoodbye.eq_none h

/-- A session that goes in one of the ways listed constructs a client before anything else. -/
theorem Lifecycle.head?_calls {settings : SessionSettings} {server : Server} {talk : Talk μ α}
    {calls : List (Call μ)} {ends : Except Failure α} {fault : Option Fault}
    (hl : Lifecycle settings server talk calls ends fault) :
    calls.head? = some (.construct settings.client) := by
  cases hl <;> rfl

/-- What is done in the trace block of a session whose port can be written goes in one of the ways
listed, and it leaves no connection after a goodbye that fails at most in a way that is only
logged. -/
theorem inside_lifecycle {settings : SessionSettings} {server : Server} {port : String}
    (hport : Decimal.numeral? settings.port = some port) (talk : Talk μ α) {s : Situation}
    (hs : s.connected = false) (hanswers : s.answers = server.onSend) :
    let o := inside settings server (talk.work settings) s
    ∃ ends fault, Lifecycle settings server talk (called (milestones o.events)) ends fault ∧
      o.result = closing fault ends ∧
      ((∀ f, server.onQuit = .error f → f.isIgnoredOnQuit = true) →
        o.state.connected = false) := by
  intro o
  cases hc : server.onConnect with
  | error f =>
    obtain ⟨hr, hstate, he⟩ :=
      eq_of_outline (outline_inside_of_error hport hc (talk.work settings) s)
    rw [hr, hstate, he]
    exact ⟨_, none, .unreachable hc, rfl, fun _ ↦ hs⟩
  | ok reply =>
    obtain ⟨hr, hstate, he⟩ :=
      eq_of_outline (outline_inside_of_ok hport hc (talk.work settings) s)
    obtain ⟨ends, fault, hlife, hends⟩ := connected_lifecycle settings hc talk
      (s := { s with connected := !server.dropsOnConnect }) rfl hanswers
    rw [hr, hstate, he]
    refine ⟨ends, fault, hlife, hends, fun h ↦ ?_⟩
    exact (congrArg Situation.connected (state_ensuring ..)).trans (connected_disconnect h _)

/-- Every session whose port can be written goes in one of the ways listed. If the goodbye fails at
most in a way that is only logged, nothing takes the place of what the session ends in, and no
connection is left. The login is that of the endpoint for which the session is opened. -/
theorem within_lifecycle (settings : SessionSettings) (server : Server) (talk : Talk μ α)
    (thresholds : Thresholds) (hport : (Decimal.numeral? settings.port).isSome) :
    let o := within settings server (talk.work settings) { thresholds, answers := server.onSend }
    ∃ ends fault, Lifecycle settings server talk (called o.events) ends fault ∧
      o.result = closing fault ends ∧
      ((∀ f, server.onQuit = .error f → f.isIgnoredOnQuit = true) →
        o.result = ends ∧ o.state.connected = false) ∧
      ∀ e : Endpoint, settings = .ofEndpoint e →
        settings.credentials = e.username.map fun name ↦ ⟨name, e.password.getD ""⟩ := by
  intro o
  obtain ⟨port, hp⟩ := Option.isSome_iff_exists.mp hport
  obtain ⟨ends, fault, hlife, hends, hleft⟩ := inside_lifecycle hp talk
    (s := Work.tracing settings.debug { thresholds, answers := server.onSend }) rfl rfl
  rw [← Work.milestones_traced, called_milestones] at hlife
  rw [← Work.result_traced] at hends
  rw [← Work.connected_traced] at hleft
  refine ⟨ends, fault, hlife, hends, fun h ↦ ⟨?_, hleft h⟩, ?_⟩
  · rw [hlife.eq_none_of_ignored h] at hends
    exact hends
  · rintro e rfl
    rfl

/-- A session whose goodbye finds the server gone: it is closed, and nothing of that is seen. -/
theorem within_lifecycle_hangingUp :
    let settings := SessionSettings.ofEndpoint { host := "mx", port := 25, username := some "ann" }
    let server : Server := { onQuit := .error ⟨"SMTPServerDisconnected", "gone", .smtp⟩ }
    let talk : Talk String Unit := .send "letter" fun _ ↦ .finish (.ok ())
    let o := within settings server (talk.work settings)
      { thresholds := ⟨30, 0⟩, answers := server.onSend }
    (Decimal.numeral? settings.port).isSome ∧
      called o.events = [.construct settings.client, .connect 10, .login ⟨"ann", ""⟩,
        .send "letter", .quit, .close] ∧
      o.result = .ok () ∧ o.state.connected = false := by
  intro settings server talk o
  have hport : (Decimal.numeral? settings.port).isSome :=
    Decimal.isSome_numeral?_of_lt (by decide : 25 < 10 ^ 2) (by decide)
  obtain ⟨ends, fault, hlife, -, hquiet, -⟩ :=
    within_lifecycle settings server talk ⟨30, 0⟩ hport
  obtain ⟨hresult, hleft⟩ := hquiet (by rintro f ⟨⟩; decide)
  refine ⟨hport, ?_, ?_, hleft⟩
  · show called (within settings server (talk.work settings) _).events = _
    generalize called (within settings server (talk.work settings) _).events = calls at hlife ⊢
    cases hlife with
    | unreachable hconnect => cases hconnect
    | rejected _ _ hlogin _ => cases hlogin
    | opened _ _ hgoodbye =>
      cases hgoodbye with
      | polite h => cases h
      | ignored h _ => rfl
      | failed h hf => cases h; cases hf
  · rw [hresult]
    generalize called _ = calls at hlife
    cases hlife with
    | unreachable hconnect => cases hconnect
    | rejected _ _ hlogin _ => cases hlogin
    | opened _ _ _ => rfl

/-- A session whose port is too long to be written goes in none of the ways listed: it constructs no
client, and what leaves it comes neither from a call nor from what is done in it. -/
theorem not_lifecycle_unwritable_port :
    let settings := SessionSettings.ofEndpoint
      { host := "mx", port := (10 ^ Decimal.maxDigits : Nat) }
    let talk : Talk String Unit := .finish (.ok ())
    let o := within settings {} (talk.work settings) { thresholds := ⟨30, 0⟩ }
    called o.events = [] ∧ o.result = .error .longInteger ∧
      ∀ calls ends fault, Lifecycle settings {} talk calls ends fault →
        called o.events ≠ calls ∧ o.result ≠ ends := by
  intro settings talk o
  obtain ⟨hr, -, he⟩ := eq_of_outline (@outline_inside_of_unwritten _ _ settings
    Decimal.numeral?_ten_pow {} (talk.work settings)
    (Work.tracing settings.debug { thresholds := ⟨30, 0⟩ }))
  have hcalls : called o.events = [] := by
    show called (within settings {} (talk.work settings) _).events = []
    rw [within_eq_traced, ← called_milestones, Work.milestones_traced, he]
    rfl
  have hresult : o.result = .error .longInteger := by
    show (within settings {} (talk.work settings) _).result = _
    rw [within_eq_traced, Work.result_traced, hr]
  refine ⟨hcalls, hresult, fun calls ends fault hlife ↦ ⟨?_, ?_⟩⟩
  · rintro rfl
    have hfirst := hlife.head?_calls
    rw [hcalls] at hfirst
    cases hfirst
  · rintro rfl
    rw [hresult] at hlife
    generalize hends : (Except.error Failure.longInteger : Except Failure Unit) = ends at hlife
    cases hlife <;> cases hends

end Session

end MailDispatch
