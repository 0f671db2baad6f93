import MailDispatch.Body
import MailDispatch.Composition
import MailDispatch.Proofs.Task.Endpoint

/-!
# What is asked of the secret store

Only the endpoint of a task is looked up among its secrets, and its keys are asked for in a fixed
order. Where a lookup fails, or a value that was found is unusable, no further key is asked for: what
was asked is the front of that order. A task without a host asks for nothing else, so that its
credentials stay unread. Rendering the body, collecting the rest of the mail and composing the
message ask for nothing at all.
-/

namespace MailDispatch

/-- The key asked of the secret store, if a note is such a question. -/
def Note.lookup? : Note → Option String
  | .lookup key => some key
  | .record _ => none

/-- The keys that a preparation asks the secret store for, in order. -/
def asksFor {α : Type} (x : Preparation α) : List String := x.events.filterMap Note.lookup?

section Chains

variable {α β : Type} {x : Preparation α} {f : α → Preparation β}

theorem asksFor_bind_of_ok {a : α} (h : x.result = .ok a) :
    asksFor (x >>= f) = asksFor x ++ asksFor (f a) :=
  Traced.filterMap_bind_of_ok h

theorem asksFor_bind_of_error {e : Failure} (h : x.result = .error e) :
    asksFor (x >>= f) = asksFor x := by
  rw [asksFor, Traced.events_bind_of_error h]
  rfl

/-- What asks for nothing can be left aside behind a computation. -/
theorem asksFor_bind_of_silent (h : ∀ a, asksFor (f a) = []) : asksFor (x >>= f) = asksFor x :=
  Traced.filterMap_bind_of_silent h

theorem asksFor_bind_eq_nil (hx : asksFor x = []) (hf : ∀ a, asksFor (f a) = []) :
    asksFor (x >>= f) = [] :=
  (asksFor_bind_of_silent hf).trans hx

/-- A key that is asked for in any case comes before those of what follows, if that is reached. -/
theorem asksFor_bind_front_cons {key : String} {keys : List String} (hx : asksFor x = [key])
    (hf : ∀ a, asksFor (f a) <+: keys) : asksFor (x >>= f) <+: key :: keys := by
  cases h : x.result with
  | ok a =>
    rw [asksFor_bind_of_ok h, hx, List.singleton_append]
    exact (List.prefix_cons_inj key).mpr (hf a)
  | error e =>
    rw [asksFor_bind_of_error h, hx]
    exact ⟨keys, rfl⟩

/-- A step that asks for nothing adds nothing to what follows. -/
theorem asksFor_bind_front {keys : List String} (hx : asksFor x = [])
    (hf : ∀ a, asksFor (f a) <+: keys) : asksFor (x >>= f) <+: keys := by
  cases h : x.result with
  | ok a =>
    rw [asksFor_bind_of_ok h, hx, List.nil_append]
    exact hf a
  | error e =>
    rw [asksFor_bind_of_error h, hx]
    exact List.nil_prefix

end Chains

namespace TaskParameters

variable {p : TaskParameters} {key : String}

/-! ## Lookups -/

theorem asksFor_get_of_allowed (h : p.access.allowsSecret key) : asksFor (p.get key) = [key] := by
  unfold get
  rw [if_pos h]
  -- what the store answers only decides what is yielded
  rw [asksFor_bind_of_silent fun o ↦ by cases o <;> rfl]
  exact asksFor_bind_of_silent fun _ ↦ rfl

theorem asksFor_get_of_not_allowed (h : p.access.allowsSecret key = false) :
    asksFor (p.get key) = [] := by
  rw [get_of_not_allowed h]
  rfl

/-- A flag is asked for as its key is. -/
theorem asksFor_flag (default : Bool) : asksFor (p.flag key default) = asksFor (p.get key) :=
  asksFor_bind_of_silent fun o ↦ by cases o <;> rfl

/-- The value of a key that may only be a secret does not depend on the task's own parameters. -/
theorem get_congr_raw {access : AccessList} (h : key ∈ access.secretOnly) (raw raw' : Table)
    (secrets : SecretStore) : get ⟨raw, secrets, access⟩ key = get ⟨raw', secrets, access⟩ key := by
  have hplain : access.allowsPlain key = false := AccessList.allowsPlain_eq_false_iff.mpr h
  simp only [get, secret, allowedPlain?, hplain, Bool.false_eq_true, if_false]

/-- The value of a key that is not declared as a secret does not depend on the secrets. -/
theorem get_congr_secrets {access : AccessList} (hr : key ∉ access.readable)
    (ho : key ∉ access.secretOnly) (raw : Table) (secrets secrets' : SecretStore) :
    get ⟨raw, secrets, access⟩ key = get ⟨raw, secrets', access⟩ key := by
  have hsecret : access.allowsSecret key = false := by
    rw [AccessList.allowsSecret, Bool.or_eq_false_iff]
    exact ⟨by simpa using hr, by simpa using ho⟩
  rw [get_of_not_allowed hsecret, get_of_not_allowed hsecret]
  rfl

/-! ## The endpoint -/

theorem asksFor_plainPassword (p : TaskParameters) : asksFor p.plainPassword = [] := by
  unfold plainPassword
  cases p.plain? "password" <;> rfl

/-- Choosing an endpoint asks for nothing but what the task's own is made of. -/
theorem asksFor_endpoint (c : OperatorConfig) : asksFor (p.endpoint c) = asksFor p.endpoint? := by
  have hannounced : ∀ own, asksFor (Endpoint.announced (Endpoint.select own c.endpoint)) = [] :=
    fun own ↦ asksFor_bind_eq_nil rfl fun e ↦ asksFor_bind_eq_nil rfl fun shown ↦ rfl
  have hwarn : asksFor p.warnIgnored = [] := by
    unfold warnIgnored
    dsimp only
    split <;> rfl
  rw [endpoint_eq]
  refine asksFor_bind_of_silent fun own ↦ ?_
  split
  · exact asksFor_bind_eq_nil hwarn fun _ ↦ hannounced own
  · exact hannounced own

/-- The keys that the endpoint of a task is made of, apart from its host. -/
def endpointKeys : List String := ["port", "username", "password", "tls", "ssl"]

variable (hp : p.access = .mail)

include hp

/-- Under the declaration of the mail task, a key is asked for exactly if it is declared. -/
theorem asksFor_get (key : String) :
    asksFor (p.get key) = if AccessList.mail.allowsSecret key then [key] else [] := by
  split
  · next h => exact asksFor_get_of_allowed (hp ▸ h)
  · next h => exact asksFor_get_of_not_allowed (hp ▸ Bool.eq_false_iff.mpr h)

theorem asksFor_endpointAt (host : String) : asksFor (p.endpointAt host) <+: endpointKeys := by
  unfold endpointAt
  refine asksFor_bind_front_cons (asksFor_get hp "port") fun given ↦ ?_
  cases given with
  | none => exact List.nil_prefix
  | some port =>
    refine asksFor_bind_front_cons (asksFor_get hp "username") fun username ↦ ?_
    refine asksFor_bind_front_cons (asksFor_get hp "password") fun secret ↦ ?_
    refine asksFor_bind_front (asksFor_plainPassword p) fun plain ↦ ?_
    refine asksFor_bind_front rfl fun port ↦ ?_
    refine asksFor_bind_front_cons ((asksFor_flag true).trans (asksFor_get hp "tls"))
      fun startTls ↦ ?_
    refine asksFor_bind_front_cons ((asksFor_flag false).trans (asksFor_get hp "ssl"))
      fun ssl ↦ ?_
    refine asksFor_bind_front ((asksFor_flag false).trans (asksFor_get hp "debug"))
      fun debug ↦ ?_
    exact asksFor_bind_front rfl fun username ↦ asksFor_bind_front rfl fun password ↦
      List.nil_prefix

/-- The host is asked for first, whatever comes of it. -/
theorem asksFor_endpoint? :
    ∃ keys, keys <+: endpointKeys ∧ asksFor p.endpoint? = "host" :: keys ∧
      ((p.get "host").result = .ok none → keys = []) := by
  have hhost : asksFor (p.get "host") = ["host"] := asksFor_get hp "host"
  unfold endpoint?
  cases h : (p.get "host").result with
  | error e =>
    refine ⟨[], List.nil_prefix, ?_, nofun⟩
    rw [asksFor_bind_of_error h, hhost]
  | ok o =>
    rw [asksFor_bind_of_ok h, hhost]
    cases o with
    | none => exact ⟨[], List.nil_prefix, rfl, fun _ ↦ rfl⟩
    | some v =>
      refine ⟨_, asksFor_bind_front rfl fun host ↦ ?_, rfl, nofun⟩
      rw [asksFor_bind_of_silent fun own ↦ rfl]
      exact asksFor_endpointAt hp host

/-! ## The mail around the endpoint -/

/-- Everything about a mail but its endpoint is found without asking. -/
theorem asksFor_mail (c : OperatorConfig) (body : String) :
    asksFor (p.mail c body) = asksFor p.endpoint? := by
  have hrecipients : asksFor p.recipients = [] :=
    asksFor_bind_eq_nil (asksFor_get hp "to") fun o ↦ by cases o <;> rfl
  have hsender : asksFor (p.sender c.defaults) = [] :=
    asksFor_bind_eq_nil (asksFor_get hp "from") fun own ↦ asksFor_bind_eq_nil rfl fun _ ↦ rfl
  have hsubject : asksFor (p.subject c.defaults) = [] :=
    asksFor_bind_eq_nil (asksFor_get hp "subject") fun given ↦
      asksFor_bind_eq_nil rfl fun own ↦ asksFor_bind_eq_nil rfl fun _ ↦ rfl
  have hattachments : asksFor p.attachments = [] := by
    refine asksFor_bind_eq_nil (asksFor_get hp "attach_files") fun o ↦ ?_
    cases o with
    | none => rfl
    | some v => dsimp only; split <;> rfl
  rw [mail, ← asksFor_endpoint c]
  refine asksFor_bind_of_silent fun endpoint ↦ ?_
  refine asksFor_bind_eq_nil hrecipients fun recipients ↦ ?_
  refine asksFor_bind_eq_nil hsender fun sender ↦ ?_
  refine asksFor_bind_eq_nil hsubject fun subject ↦ ?_
  refine asksFor_bind_eq_nil ((asksFor_flag false).trans (asksFor_get hp "html")) fun isHtml ↦ ?_
  refine asksFor_bind_eq_nil hattachments fun attachments ↦ ?_
  exact asksFor_bind_eq_nil rfl fun shown ↦ asksFor_bind_eq_nil rfl fun _ ↦ rfl

end TaskParameters

/-! ## The other steps -/

theorem Body.asksFor_render (p : TaskParameters) (read : String → Except Failure String)
    (engine : Engine) : asksFor (render p read engine) = [] := by
  have htemplate : asksFor (template p read) = [] := by
    unfold template
    split
    · exact asksFor_bind_eq_nil rfl fun path ↦ asksFor_bind_eq_nil rfl fun _ ↦ rfl
    · split <;> rfl
  exact asksFor_bind_eq_nil htemplate fun text ↦ rfl

theorem Mail.asksFor_compose (m : Mail) (w : Workspace) (stamp : Stamp) :
    asksFor (m.compose w stamp) = [] :=
  asksFor_bind_eq_nil rfl fun _ ↦ asksFor_bind_eq_nil rfl fun _ ↦ rfl

end MailDispatch
