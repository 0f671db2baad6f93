import MailDispatch.Operator.Layout
import MailDispatch.Proofs.Journal.Contract
import MailDispatch.Task.Contents

/-!
# Where the endpoint of a task comes from

The lookup of the host decides between two origins. Unless it yields nothing, the operator's
endpoint has no influence on the endpoint of the task, not even on how finding it fails; if it
yields nothing, that endpoint is the operator's.
-/

namespace MailDispatch

/-- An endpoint that was selected, once its text is logged. -/
def Endpoint.announced (selected : Except Failure Endpoint) : Preparation Endpoint := do
  let e ← selected
  let shown ← e.text
  Preparation.log .resolution .info
    ("Using SMTP endpoint " ++ shown ++ if e.isAuthenticated then " with authentication" else "")
  return e

namespace TaskParameters

variable {p : TaskParameters} {c : OperatorConfig} {key : String}

/-! ## Lookups -/

theorem get_of_not_allowed (h : p.access.allowsSecret key = false) :
    p.get key = pure (p.allowedPlain? key) := by
  unfold get
  rw [h]
  rfl

theorem result_get_of_allowed (h : p.access.allowsSecret key) :
    (p.get key).result = (p.secrets.get? key).map fun o ↦ o.or (p.allowedPlain? key) := by
  have hsecret : (p.secret key).result = p.secrets.get? key := rfl
  unfold get
  rw [if_pos h, Traced.result_bind, hsecret]
  rcases p.secrets.get? key with e | _ | v <;> rfl

/-- A key for which the store has no secret, if it may be asked at all. -/
theorem result_get_of_absent
    (h : p.access.allowsSecret key = true → p.secrets.answer key = .absent) :
    (p.get key).result = .ok (p.allowedPlain? key) := by
  cases hallowed : p.access.allowsSecret key with
  | true =>
    rw [result_get_of_allowed hallowed, SecretStore.get?, h hallowed]
    rfl
  | false => rw [get_of_not_allowed hallowed, Traced.result_pure]

theorem result_get_of_present {v : Value} (hallowed : p.access.allowsSecret key)
    (h : p.secrets.answer key = .present v) : (p.get key).result = .ok (some v) := by
  rw [result_get_of_allowed hallowed, SecretStore.get?, h]
  rfl

/-- The value of a key that may only be a secret is what the store answers. -/
theorem result_get_of_secretOnly (h : key ∈ p.access.secretOnly) :
    (p.get key).result = p.secrets.get? key := by
  have hsecret : p.access.allowsSecret key = true := by
    rw [AccessList.allowsSecret, List.contains_iff_mem.mpr h, Bool.or_true]
  have hplain : p.allowedPlain? key = none := by
    rw [allowedPlain?, AccessList.allowsPlain_eq_false_iff.mpr h]
    rfl
  rw [result_get_of_allowed hsecret, hplain]
  rcases p.secrets.get? key with e | _ | v <;> rfl

/-- The password is never read as a plain parameter that is allowed, but on a path of its own. -/
theorem result_plainPassword (p : TaskParameters) :
    p.plainPassword.result = .ok (p.plain? "password") := by
  unfold plainPassword
  cases p.plain? "password" <;> rfl

/-! ## The choice of an endpoint -/

/-- Whichever endpoint is selected, it is announced; a task without one of its own may be warned
before. -/
theorem endpoint_eq (p : TaskParameters) (c : OperatorConfig) :
    p.endpoint c = p.endpoint? >>= fun own ↦
      if own.isNone then
        p.warnIgnored >>= fun _ ↦ Endpoint.announced (Endpoint.select own c.endpoint)
      else Endpoint.announced (Endpoint.select own c.endpoint) :=
  rfl

/-! ## A task with a host -/

theorem endpoint?_ne_none (h : (p.get "host").result ≠ .ok none) :
    p.endpoint?.result ≠ .ok none := by
  intro hn
  unfold endpoint? at hn
  obtain ⟨host, hg, hn⟩ := Traced.bind_eq_ok hn
  cases host with
  | none => exact h hg
  | some v =>
    obtain ⟨text, -, hn⟩ := Traced.bind_eq_ok hn
    obtain ⟨e, -, hn⟩ := Traced.bind_eq_ok hn
    cases hn

/-- The operator's configuration has no influence on the endpoint of a task with a host. -/
theorem endpoint_congr (h : (p.get "host").result ≠ .ok none) (c c' : OperatorConfig) :
    p.endpoint c = p.endpoint c' := by
  unfold endpoint
  refine Traced.bind_congr fun own hown ↦ ?_
  cases own with
  | none => exact absurd hown (endpoint?_ne_none h)
  -- the operator's endpoint is not looked at
  | some e => rfl

/-! ## A task without a host -/

theorem result_endpoint?_of_none (h : (p.get "host").result = .ok none) :
    p.endpoint?.result = .ok none := by
  rw [endpoint?, Traced.result_bind, h]
  rfl

theorem result_warnIgnored (p : TaskParameters) : p.warnIgnored.result = .ok () := by
  unfold warnIgnored
  dsimp only
  split <;> rfl

/-- A task without a host goes through the operator's endpoint. It fails if there is none, or if its
text, which is logged, cannot be written. -/
theorem result_endpoint_of_none (h : (p.get "host").result = .ok none) :
    (p.endpoint c).result
      = (Endpoint.select none c.endpoint).bind fun e ↦ e.text.map fun _ ↦ e := by
  rw [endpoint, Traced.result_bind, result_endpoint?_of_none h]
  simp only [Except.bind, Option.isNone_none, if_true, Traced.result_bind, result_warnIgnored,
    Traced.result_monadLift]
  cases Endpoint.select none c.endpoint with
  | error e => rfl
  | ok e => cases e.text <;> rfl

/-! ## The mail around the endpoint -/

/-- What a collected mail consists of. -/
theorem mail_eq_ok {body : String} {m : Mail} (h : (p.mail c body).result = .ok m) :
    (p.endpoint c).result = .ok m.endpoint ∧ p.recipients.result = .ok m.recipients ∧
      (p.sender c.defaults).result = .ok m.sender ∧ (p.subject c.defaults).result = .ok m.subject ∧
      p.attachments.result = .ok m.attachments ∧ m.body = body ∧
      ∃ shown, m.endpoint.text = .ok shown := by
  unfold mail at h
  obtain ⟨endpoint, h₁, h⟩ := Traced.bind_eq_ok h
  obtain ⟨recipients, h₂, h⟩ := Traced.bind_eq_ok h
  obtain ⟨sender, h₃, h⟩ := Traced.bind_eq_ok h
  obtain ⟨subject, h₄, h⟩ := Traced.bind_eq_ok h
  obtain ⟨isHtml, -, h⟩ := Traced.bind_eq_ok h
  obtain ⟨attachments, h₅, h⟩ := Traced.bind_eq_ok h
  obtain ⟨shown, h₆, h⟩ := Traced.bind_eq_ok h
  obtain ⟨-, -, h⟩ := Traced.bind_eq_ok h
  cases h
  exact ⟨h₁, h₂, h₃, h₄, h₅, rfl, shown, h₆⟩

/-- A sender that the task sets itself leaves the operator's aside. -/
theorem sender_congr {v : Value} (h : (p.get "from").result = .ok (some v))
    (d d' : MailDefaults) : p.sender d = p.sender d' := by
  unfold sender
  refine Traced.bind_congr fun own hown ↦ ?_
  rw [h] at hown
  cases hown
  rfl

/-- So does a subject. -/
theorem subject_congr {v : Value} (h : (p.get "subject").result = .ok (some v))
    (d d' : MailDefaults) : p.subject d = p.subject d' := by
  unfold subject
  refine Traced.bind_congr fun given hgiven ↦ ?_
  rw [h] at hgiven
  cases hgiven
  refine Traced.bind_congr fun own hown ↦ ?_
  rw [Traced.result_monadLift, textOrNone] at hown
  cases ht : Setting.asText "subject" v with
  | error e => rw [ht] at hown; cases hown
  | ok s => rw [ht] at hown; cases hown; rfl

end TaskParameters

/-! ## A configuration that was read -/

/-- The text of an endpoint is logged when its configuration is read, so that it can be written
ever after. -/
theorem OperatorConfig.text_of_ofTable {data : Table} {c : OperatorConfig} {e : Endpoint}
    (h : (OperatorConfig.ofTable data).result = .ok c) (he : c.endpoint = some e) :
    ∃ shown, e.text = .ok shown := by
  unfold ofTable at h
  obtain ⟨config, -, h⟩ := Traced.bind_eq_ok h
  cases hc : config.endpoint with
  | none =>
    rw [hc] at h
    cases h
    rw [he] at hc
    cases hc
  | some e' =>
    rw [hc] at h
    obtain ⟨shown, hs, h⟩ := Traced.bind_eq_ok h
    obtain ⟨-, -, h⟩ := Traced.bind_eq_ok h
    cases h
    rw [he] at hc
    cases hc
    exact ⟨shown, hs⟩

end MailDispatch
