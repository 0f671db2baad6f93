import MailDispatch.Proofs.Journal.Alike
import MailDispatch.Proofs.Task.Endpoint

/-!
# What a mail has of a password

Two tasks that differ in the secret for the password, and two configurations that differ in the
password of the operator's endpoint, collect the same mail but for the password of its endpoint:
with the same records and the same questions to the secret store, and if they fail, in the same way.
Only one lookup meets the difference; everything else asks for other keys.
-/

namespace MailDispatch

/-- Two secret stores that answer in the same way, except that the secrets for the password may be
different texts. -/
structure SecretStore.IsAlike (s s' : SecretStore) : Prop where
  scope : s'.scope = s.scope
  answer : ∀ key, key ≠ "password" → s'.answer key = s.answer key
  password : s'.answer "password" = s.answer "password" ∨
    ∃ w w', s.answer "password" = .present (.text w) ∧ s'.answer "password" = .present (.text w')

/-- Two endpoints that differ in their passwords at most. -/
def Endpoint.IsAlike (e e' : Endpoint) : Prop := ∃ w, e' = { e with password := w }

/-- Two mails that differ in the passwords of their endpoints at most. -/
def Mail.IsAlike (m m' : Mail) : Prop := ∃ e, m.endpoint.IsAlike e ∧ m' = { m with endpoint := e }

/-- Two configurations that differ in the passwords of their endpoints at most. -/
structure OperatorConfig.IsAlike (c c' : OperatorConfig) : Prop where
  defaults : c'.defaults = c.defaults
  endpoint : Option.Rel Endpoint.IsAlike c.endpoint c'.endpoint

theorem Endpoint.isAlike_refl (e : Endpoint) : e.IsAlike e := ⟨e.password, rfl⟩

/-- The text of an endpoint does not show its password. -/
theorem Endpoint.IsAlike.text_eq {e e' : Endpoint} (h : e.IsAlike e') : e'.text = e.text := by
  obtain ⟨w, rfl⟩ := h
  rfl

namespace TaskParameters

variable {p : TaskParameters} {s : SecretStore} {key : String}

/-! ## Lookups -/

theorem get_same (h : p.secrets.IsAlike s) (hk : key ≠ "password") :
    { p with secrets := s }.get key = p.get key := by
  have hsecret : { p with secrets := s }.secret key = p.secret key := by
    rw [secret, secret, SecretStore.get?, SecretStore.get?, h.answer key hk, h.scope]
  rw [get, get, hsecret]
  rfl

theorem flag_same (h : p.secrets.IsAlike s) (hk : key ≠ "password") (default : Bool) :
    { p with secrets := s }.flag key default = p.flag key default := by
  rw [flag, flag, get_same h hk]

/-- The lookup of the password yields the same on both sides, or a text on either. -/
theorem get_password_alike (h : p.secrets.IsAlike s) :
    (p.get "password").Alike (fun o o' ↦ o' = o ∨ ∃ w w', o = some (.text w) ∧ o' = some (.text w'))
      ({ p with secrets := s }.get "password") := by
  unfold get
  dsimp only
  split
  · have hsecret : (p.secret "password").Alike
        (fun o o' ↦ o' = o ∨ ∃ w w', o = some (.text w) ∧ o' = some (.text w'))
        ({ p with secrets := s }.secret "password") := by
      refine .bind_same _ fun _ _ ↦ .ofResult ?_
      rw [SecretStore.get?, SecretStore.get?, h.scope]
      rcases h.password with hsame | ⟨w, w', hw, hw'⟩
      · rw [hsame]
        exact .refl (fun _ ↦ .inl rfl) _
      · rw [hw, hw']
        exact .ok (.inr ⟨w, w', rfl, rfl⟩)
    refine hsecret.bind fun o o' ho ↦ ?_
    rcases ho with rfl | ⟨w, w', rfl, rfl⟩
    · exact .refl (fun _ ↦ .inl rfl) _
    · exact .pure (.inr ⟨w, w', rfl, rfl⟩)
  · exact .refl (fun _ ↦ .inl rfl) _

/-! ## The endpoint -/

theorem endpointAt_alike (h : p.secrets.IsAlike s) (host : String) :
    (p.endpointAt host).Alike Endpoint.IsAlike ({ p with secrets := s }.endpointAt host) := by
  unfold endpointAt
  simp only [get_same h (by decide : "port" ≠ "password"),
    get_same h (by decide : "username" ≠ "password"),
    flag_same h (by decide : "tls" ≠ "password"), flag_same h (by decide : "ssl" ≠ "password"),
    flag_same h (by decide : "debug" ≠ "password")]
  refine .bind_same _ fun given _ ↦ ?_
  cases given with
  | none => exact .refl Endpoint.isAlike_refl _
  | some port =>
    refine .bind_same _ fun username _ ↦ ?_
    refine .bind (get_password_alike h) fun secret secret' hsecret ↦ ?_
    refine .bind_same _ fun plain _ ↦ ?_
    refine .bind_same _ fun port _ ↦ ?_
    refine .bind_same _ fun startTls _ ↦ ?_
    refine .bind_same _ fun ssl _ ↦ ?_
    refine .bind_same _ fun debug _ ↦ ?_
    refine .bind_same _ fun username _ ↦ ?_
    -- a password that is a text is accepted, whichever it is
    have hpassword : ResultsAlike (fun _ _ ↦ True) (textOrNone "password" (secret.or plain))
        (textOrNone "password" (secret'.or plain)) := by
      rcases hsecret with rfl | ⟨w, w', rfl, rfl⟩
      · exact .refl (fun _ ↦ trivial) _
      · exact .ok trivial
    exact .bind (.ofResult hpassword) fun w w' _ ↦ .pure ⟨w', rfl⟩

theorem endpoint?_alike (h : p.secrets.IsAlike s) :
    p.endpoint?.Alike (Option.Rel Endpoint.IsAlike) { p with secrets := s }.endpoint? := by
  unfold endpoint?
  rw [get_same h (by decide : "host" ≠ "password")]
  refine .bind_same _ fun given _ ↦ ?_
  cases given with
  | none => exact .pure .none
  | some host =>
    refine .bind_same _ fun host _ ↦ ?_
    exact .bind (endpointAt_alike h host) fun e e' he ↦ .pure (.some he)

theorem announced_alike {selected selected' : Except Failure Endpoint}
    (h : ResultsAlike Endpoint.IsAlike selected selected') :
    (Endpoint.announced selected).Alike Endpoint.IsAlike (Endpoint.announced selected') := by
  refine .bind (.ofResult h) fun e e' he ↦ ?_
  rw [he.text_eq]
  obtain ⟨w, rfl⟩ := he
  refine .bind_same _ fun shown _ ↦ ?_
  exact .bind_same _ fun _ _ ↦ .pure ⟨w, rfl⟩

theorem endpoint_alike (h : p.secrets.IsAlike s) {c c' : OperatorConfig} (hc : c.IsAlike c') :
    (p.endpoint c).Alike Endpoint.IsAlike ({ p with secrets := s }.endpoint c') := by
  rw [endpoint_eq, endpoint_eq]
  refine .bind (endpoint?_alike h) fun own own' hown ↦ ?_
  have hselect : ResultsAlike Endpoint.IsAlike (Endpoint.select own c.endpoint)
      (Endpoint.select own' c'.endpoint) := by
    cases hown with
    | some he => exact .ok he
    | none =>
      have hendpoint := hc.endpoint
      generalize c.endpoint = o at hendpoint
      generalize c'.endpoint = o' at hendpoint
      cases hendpoint with
      | some he => exact .ok he
      | none => exact .error _
  cases hown with
  | some he => exact announced_alike hselect
  | none => exact .bind_same _ fun _ _ ↦ announced_alike hselect

/-! ## The mail -/

theorem mail_alike (h : p.secrets.IsAlike s) {c c' : OperatorConfig} (hc : c.IsAlike c')
    (body : String) :
    (p.mail c body).Alike Mail.IsAlike ({ p with secrets := s }.mail c' body) := by
  unfold mail
  simp only [recipients, sender, subject, attachments, hc.defaults,
    get_same h (by decide : "to" ≠ "password"), get_same h (by decide : "from" ≠ "password"),
    get_same h (by decide : "subject" ≠ "password"),
    get_same h (by decide : "attach_files" ≠ "password"),
    flag_same h (by decide : "html" ≠ "password")]
  refine .bind (endpoint_alike h hc) fun e e' he ↦ ?_
  refine .bind_same _ fun recipients _ ↦ ?_
  refine .bind_same _ fun sender _ ↦ ?_
  refine .bind_same _ fun subject _ ↦ ?_
  refine .bind_same _ fun isHtml _ ↦ ?_
  refine .bind_same _ fun attachments _ ↦ ?_
  rw [he.text_eq]
  refine .bind_same _ fun shown _ ↦ ?_
  exact .bind_same _ fun _ _ ↦ .pure ⟨e', he, rfl⟩

end TaskParameters

end MailDispatch
