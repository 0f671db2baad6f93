import MailDispatch.Proofs.Delivery.Course
import MailDispatch.Proofs.Task.Password

/-!
# Secrecy of the password

Two deliveries that differ in the password alone can be told apart by nothing but the login: they
end in the same result and the same situation, and the events on the way are the same once the
password is hidden in the login. No other call is given it, and without a username there is no login
in which it could be given.
-/

namespace MailDispatch

variable {μ : Type}

/-! ## Hiding a password -/

/-- Credentials without their password. -/
def Credentials.hidden (c : Credentials) : Credentials := { c with password := "" }

/-- A call with the password hidden that it logs in with, if it does. -/
def Call.hidden : Call μ → Call μ
  | .login c => .login c.hidden
  | k => k

/-- An event with the password hidden in it, if it is a login. -/
def Event.hidden : Event μ → Event μ
  | .call k => .call k.hidden
  | e => e

/-- Two settings that differ in the password of their credentials at most. -/
def SessionSettings.IsAlike (s s' : SessionSettings) : Prop :=
  ∃ cs, s' = { s with credentials := cs } ∧
    Option.Rel (fun c c' ↦ c'.username = c.username) s.credentials cs

namespace SessionSettings

theorem isAlike_refl (s : SessionSettings) : s.IsAlike s := by
  refine ⟨s.credentials, rfl, ?_⟩
  cases s.credentials with
  | none => exact .none
  | some c => exact .some rfl

theorem isAlike_ofEndpoint {e e' : Endpoint} (h : e.IsAlike e') :
    (ofEndpoint e).IsAlike (ofEndpoint e') := by
  obtain ⟨w, rfl⟩ := h
  refine ⟨_, rfl, ?_⟩
  rw [ofEndpoint]
  cases e.username with
  | none => exact .none
  | some name => exact .some rfl

/-- Without a username, the password of an endpoint is nowhere in the settings. -/
theorem ofEndpoint_eq_of_none {e e' : Endpoint} (h : e.IsAlike e') (hname : e.username = none) :
    ofEndpoint e' = ofEndpoint e := by
  obtain ⟨w, rfl⟩ := h
  rw [ofEndpoint, ofEndpoint, hname]
  rfl

end SessionSettings

/-! ## Sessions -/

namespace Work

open Activity

variable {ω : Type} {α : Type} {mask : Event μ → ω} {R : α → α → Prop} {x y : Work μ α}

/-- A trace block around two pieces of work that are alike. -/
theorem traced_alike (enabled : Bool) (h : Alike mask R x y) :
    Alike mask R (traced enabled x) (traced enabled y) := by
  unfold traced
  refine .bind_same _ fun s ↦ ?_
  exact .bind_same _ fun _ ↦ h.ensuring _

end Work

namespace Session

open Activity

variable {α : Type} {s s' : SessionSettings}

theorem call_alike {k k' : Call μ} (h : k.hidden = k'.hidden) :
    Alike Event.hidden Eq (call k) (call k') :=
  .emit (congrArg Event.call h)

/-- The client is constructed and connects without the password. -/
theorem connect_eq (h : s.IsAlike s') (server : Server) :
    (connect s' server : Work μ Reply) = connect s server := by
  obtain ⟨cs, rfl, -⟩ := h
  rfl

theorem login_alike (h : s.IsAlike s') (server : Server) :
    Alike (Event.hidden (μ := μ)) Eq (login s server) (login s' server) := by
  obtain ⟨cs, rfl, hcs⟩ := h
  unfold login
  dsimp only
  generalize s.credentials = o at hcs
  cases hcs with
  | none => exact .refl (fun _ ↦ rfl) _
  | @some c c' hname =>
    have hlogin : (Call.login c : Call μ).hidden = (Call.login c').hidden := by
      simp only [Call.hidden, Credentials.hidden, hname]
    dsimp only
    rw [hname]
    refine .bind_same _ fun _ ↦ ?_
    exact .bind (call_alike hlogin) fun _ _ _ ↦ .refl (fun _ ↦ rfl) _

/-- Two sessions for the same work under settings that differ in the password. -/
theorem within_alike (h : s.IsAlike s') (server : Server) (work : Work μ α) :
    Alike Event.hidden Eq (within s server work) (within s' server work) := by
  have hconnect := connect_eq (μ := μ) h server
  have hlogin := login_alike (μ := μ) h server
  obtain ⟨cs, rfl, -⟩ := h
  unfold within
  refine Work.traced_alike _ ?_
  refine .bind_same _ fun port ↦ ?_
  refine .bind_same _ fun _ ↦ ?_
  rw [hconnect]
  refine .bind_same _ fun reply ↦ ?_
  refine .bind_same _ fun _ ↦ ?_
  refine .bind_same _ fun _ ↦ ?_
  refine .ensuring ?_ _
  exact hlogin.bind fun _ _ _ ↦ .refl (fun _ ↦ rfl) _

end Session

namespace Delivery

open Activity

variable {t : Task} {c c' : OperatorConfig} {secrets : SecretStore}

theorem transmit_alike {s s' : SessionSettings} (h : s.IsAlike s') (server : Server)
    (message : Message) :
    Alike Event.hidden Eq (transmit s server message) (transmit s' server message) := by
  have hwithin := Session.within_alike h server (handOver s message)
  obtain ⟨cs, rfl, -⟩ := h
  exact hwithin

/-! ## The whole delivery -/

section Runs

variable {ω : Type} {mask : Event Message → ω} {R : SessionSettings → SessionSettings → Prop}

/-- Two mails that are alike become the same message, for an endpoint with settings in a relation. -/
def Prepared.IsAlike (R : SessionSettings → SessionSettings → Prop) (p p' : Prepared) : Prop :=
  p'.message = p.message ∧ p.mail.IsAlike p'.mail ∧
    R (.ofEndpoint p.mail.endpoint) (.ofEndpoint p'.mail.endpoint)

theorem prepare_alike (hmail : ∀ body, (t.parameters.mail c body).Alike
      (fun m m' ↦ m.IsAlike m' ∧ R (.ofEndpoint m.endpoint) (.ofEndpoint m'.endpoint))
      ({ t with secrets }.parameters.mail c' body)) (stamp : Stamp) :
    Alike mask (Prepared.IsAlike R) (prepare t c stamp)
      (prepare { t with secrets } c' stamp) := by
  unfold prepare
  -- neither the body nor the message depends on a password
  refine .bind_same _ fun body ↦ ?_
  refine .bind (.ofTraced (hmail body)) fun m m' hm ↦ ?_
  obtain ⟨⟨e, he, rfl⟩, hlike⟩ := hm
  refine .bind_same _ fun _ ↦ ?_
  refine .bind_same _ fun message ↦ ?_
  exact .bind_same _ fun _ ↦ .pure ⟨rfl, ⟨e, he, rfl⟩, hlike⟩

/-- Two deliveries are alike if the mails collected for them are, and sessions under settings in
the relation. -/
theorem run_alike (hrefl : ∀ s, R s s) (server : Server)
    (htransmit : ∀ s s' message, R s s' →
      Alike mask Eq (transmit s server message) (transmit s' server message))
    (hmail : ∀ body, (t.parameters.mail c body).Alike
      (fun m m' ↦ m.IsAlike m' ∧ R (.ofEndpoint m.endpoint) (.ofEndpoint m'.endpoint))
      ({ t with secrets }.parameters.mail c' body)) (stamp : Stamp) :
    Alike mask Eq (run t c server stamp) (run { t with secrets } c' server stamp) := by
  have hprepared : ∀ p, Prepared.IsAlike R p p := fun p ↦
    ⟨rfl, ⟨_, Endpoint.isAlike_refl _, rfl⟩, hrefl _⟩
  unfold run
  refine .bind (.rescue hprepared (prepare_alike hmail stamp) _) fun p p' hp ↦ ?_
  obtain ⟨m, message⟩ := p
  obtain ⟨m', message'⟩ := p'
  obtain ⟨hmessage, ⟨e, he, rfl⟩, hlike⟩ := hp
  obtain rfl : message' = message := hmessage
  dsimp only
  rw [he.text_eq]
  refine .bind_same _ fun shown ↦ ?_
  refine .bind (.rescue (fun _ ↦ rfl) (htransmit _ _ message' hlike) _) fun _ _ _ ↦ ?_
  exact .refl (fun _ ↦ rfl) _

end Runs

/-- **Secrecy of the password.** Two deliveries that differ at most in the secret for the password,
if that is a text in both, and in the password of the operator's endpoint, end in the same result
and the same situation, and their events are the same but for the password that a login is given.
If the endpoint has no username, they are the same altogether. -/
theorem password_hidden {t : Task} {secrets : SecretStore} (hs : t.secrets.IsAlike secrets)
    {c c' : OperatorConfig} (hc : c.IsAlike c') (server : Server) (stamp : Stamp)
    (thresholds : Thresholds) :
    (start { t with secrets } c' server stamp thresholds).result
        = (start t c server stamp thresholds).result ∧
      (start { t with secrets } c' server stamp thresholds).state
        = (start t c server stamp thresholds).state ∧
      (start { t with secrets } c' server stamp thresholds).events.map Event.hidden
        = (start t c server stamp thresholds).events.map Event.hidden ∧
      ((∀ e, (t.parameters.endpoint c).result = .ok e → e.username = none) →
        start { t with secrets } c' server stamp thresholds
          = start t c server stamp thresholds) := by
  have hmail := TaskParameters.mail_alike (p := t.parameters) hs hc
  have hhidden : Alike Event.hidden Eq (run t c server stamp)
      (run { t with secrets } c' server stamp) := by
    refine run_alike SessionSettings.isAlike_refl server
      (fun s s' message hlike ↦ transmit_alike hlike server message) (fun body ↦ ?_) stamp
    refine (hmail body).strengthen fun m m' _ _ hm ↦ ⟨hm, ?_⟩
    obtain ⟨e, he, rfl⟩ := hm
    exact SessionSettings.isAlike_ofEndpoint he
  obtain ⟨hresult, hstate, hevents⟩ := hhidden { thresholds, answers := server.onSend }
  refine ⟨hresult.eq.symm, hstate.symm, hevents.symm, fun hname ↦ ?_⟩
  -- without a username the settings are the same, so that nothing has to be hidden
  have hsame : Alike id Eq (run t c server stamp) (run { t with secrets } c' server stamp) := by
    refine run_alike (R := fun s s' ↦ s' = s) (fun _ ↦ rfl) server ?_ (fun body ↦ ?_) stamp
    · rintro s _ message rfl
      exact .refl (fun _ ↦ rfl) _
    · refine (hmail body).strengthen fun m m' hm _ hlike ↦ ⟨hlike, ?_⟩
      obtain ⟨e, he, rfl⟩ := hlike
      exact SessionSettings.ofEndpoint_eq_of_none he (hname _ (TaskParameters.mail_eq_ok hm).1)
  exact (hsame { thresholds, answers := server.onSend }).eq.symm

/-- A task that logs in with a password. -/
private def member (password : String) : Task where
  raw := [("host", .text "mx.task.org"), ("port", .int 25), ("from", .text "a@task.org"),
    ("subject", .text "Hi"), ("to", .text "b@task.org"), ("body", .text "Hello")]
  secrets := .ofTable [("username", .text "ann"), ("password", .text password)]
  workspace := ⟨.empty, []⟩

/-- Whichever password a member has, its delivery looks the same. -/
theorem password_hidden_member :
    (member "t0p").secrets.IsAlike (member "swordfish").secrets ∧
      (start (member "swordfish") {} {} ⟨"now", "1", "here"⟩ ⟨10, 0⟩).events.map Event.hidden
        = (start (member "t0p") {} {} ⟨"now", "1", "here"⟩ ⟨10, 0⟩).events.map Event.hidden := by
  have hsecrets : (member "t0p").secrets.IsAlike (member "swordfish").secrets := by
    refine ⟨rfl, fun key hkey ↦ ?_, .inr ⟨"t0p", "swordfish", rfl, rfl⟩⟩
    have hbeq : (key == "password") = false := beq_false_of_ne hkey
    simp only [member, SecretStore.ofTable, List.lookup, hbeq]
  have hconfig : OperatorConfig.IsAlike {} {} := ⟨rfl, .none⟩
  exact ⟨hsecrets, (password_hidden hsecrets hconfig {} ⟨"now", "1", "here"⟩ ⟨10, 0⟩).2.2.1⟩

end Delivery

end MailDispatch
