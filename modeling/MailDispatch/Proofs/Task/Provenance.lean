import MailDispatch.Proofs.Task.Lookups

/-!
# Where the password of a task comes from

The password of a task's endpoint is the secret if there is one, and else the plain one: the task's
own entry, or the one in its table of defaults where it has none. An entry without a value hides
the default. The warning about plain passwords goes by the plain password alone, so that it is
written even where a secret takes its place.
-/

namespace MailDispatch

/-! ## Records of a preparation -/

/-- The log record that a note is, if it is one. -/
def Note.record? : Note → Option Record
  | .record r => some r
  | .lookup _ => none

/-- The log records that a preparation writes, in order. -/
def recordsOf {α : Type} (x : Preparation α) : List Record := x.events.filterMap Note.record?

section Chains

variable {α β : Type} {x : Preparation α} {f : α → Preparation β}

/-- What writes nothing can be left aside behind a computation. -/
theorem recordsOf_bind_of_silent (h : ∀ a, recordsOf (f a) = []) :
    recordsOf (x >>= f) = recordsOf x :=
  Traced.filterMap_bind_of_silent h

theorem recordsOf_bind_eq_nil (hx : recordsOf x = []) (hf : ∀ a, recordsOf (f a) = []) :
    recordsOf (x >>= f) = [] :=
  (recordsOf_bind_of_silent hf).trans hx

/-- What writes nothing can be left aside before a computation that is reached. -/
theorem recordsOf_bind_of_reached (hx : recordsOf x = []) {a : α} (h : x.result = .ok a) :
    recordsOf (x >>= f) = recordsOf (f a) := by
  rw [recordsOf, Traced.filterMap_bind_of_ok h]
  exact (congrArg (· ++ recordsOf (f a)) hx).trans (List.nil_append _)

end Chains

/-! ## Secrets and plain parameters -/

/-- What a task's parameters hold under a key: the entry of their own, which may be without a value,
or else the one among the defaults. -/
inductive HoldsPlain (raw : Table) (key : String) : Option Value → Prop
  | own {v : Value} (hown : raw.lookup key = some v) : HoldsPlain raw key v.toOption
  | default {defaults : Table} {v : Value} (hown : raw.lookup key = none)
      (hdefaults : raw.lookup "mail" = some (.table defaults))
      (hdefault : defaults.lookup key = some v) : HoldsPlain raw key v.toOption
  | unset (hown : raw.lookup key = none)
      (hdefaults : ∀ defaults, raw.lookup "mail" = some (.table defaults) →
        defaults.lookup key = none) : HoldsPlain raw key none

/-- A store yields exactly the secrets that it answers. -/
theorem SecretStore.get?_eq_some_iff {s : SecretStore} {key : String} {v : Value} :
    s.get? key = .ok (some v) ↔ s.answer key = .present v := by
  rw [get?]
  constructor
  · intro h
    cases hanswer : s.answer key with
    | absent =>
      rw [hanswer] at h
      cases h
    | present secret =>
      rw [hanswer] at h
      cases h
      rfl
    | unavailable reason =>
      rw [hanswer] at h
      cases h
  · intro h
    rw [h]

namespace TaskParameters

variable {p : TaskParameters} {key : String}

/-- The reader of plain parameters yields what they hold. -/
theorem holdsPlain_iff {o : Option Value} : HoldsPlain p.raw key o ↔ p.plain? key = o := by
  constructor
  · intro h
    cases h with
    | own hown => rw [plain?, hown]
    | default hown hdefaults hdefault =>
      rw [plain?, hown, defaultsKey, hdefaults]
      dsimp only
      rw [hdefault, Option.bind_some]
    | unset hown hdefaults =>
      rw [plain?, hown, defaultsKey]
      dsimp only
      split
      · next defaults hmail => rw [hdefaults defaults hmail, Option.bind_none]
      · rfl
  · rintro rfl
    cases hown : p.raw.lookup key with
    | some v =>
      rw [plain?, hown]
      exact .own hown
    | none =>
      rw [plain?, hown, defaultsKey]
      dsimp only
      split
      · next defaults hmail =>
        cases hdefault : defaults.lookup key with
        | some v => exact .default hown hmail hdefault
        | none =>
          refine .unset hown fun defaults' hmail' ↦ ?_
          rw [hmail] at hmail'
          cases hmail'
          exact hdefault
      · next hmail => exact .unset hown fun defaults h ↦ absurd h (hmail defaults)

/-! ## The password of an endpoint -/

theorem recordsOf_get (p : TaskParameters) (key : String) : recordsOf (p.get key) = [] := by
  unfold get
  split
  · exact recordsOf_bind_eq_nil (recordsOf_bind_of_silent fun _ ↦ rfl) fun o ↦ by cases o <;> rfl
  · rfl

theorem recordsOf_flag (p : TaskParameters) (key : String) (default : Bool) :
    recordsOf (p.flag key default) = [] :=
  recordsOf_bind_eq_nil (recordsOf_get p key) fun o ↦ by cases o <;> rfl

/-- The warning goes by the plain password. -/
theorem recordsOf_plainPassword (p : TaskParameters) :
    recordsOf p.plainPassword =
      if (p.plain? "password").isSome then [⟨.warning, .resolution, plainPasswordWarning⟩]
      else [] := by
  unfold plainPassword
  cases p.plain? "password" <;> rfl

/-- The password of an endpoint is the secret, or else the plain one; nothing is written but the
warning about the latter. -/
theorem endpointAt_eq_ok {host : String} {e : Endpoint} (h : (p.endpointAt host).result = .ok e) :
    (∃ secret, (p.get "password").result = .ok secret ∧
      textOrNone "password" (secret.or (p.plain? "password")) = .ok e.password) ∧
    recordsOf (p.endpointAt host) = recordsOf p.plainPassword := by
  unfold endpointAt at h ⊢
  obtain ⟨given, hport, h⟩ := Traced.bind_eq_ok h
  cases given with
  | none => cases h
  | some port =>
    rw [recordsOf_bind_of_reached (recordsOf_get p _) hport]
    obtain ⟨username, husername, h⟩ := Traced.bind_eq_ok h
    rw [recordsOf_bind_of_reached (recordsOf_get p _) husername]
    obtain ⟨secret, hsecret, h⟩ := Traced.bind_eq_ok h
    rw [recordsOf_bind_of_reached (recordsOf_get p _) hsecret]
    obtain ⟨plain, hplain, h⟩ := Traced.bind_eq_ok h
    rw [result_plainPassword] at hplain
    cases hplain
    obtain ⟨_, -, h⟩ := Traced.bind_eq_ok h
    obtain ⟨_, -, h⟩ := Traced.bind_eq_ok h
    obtain ⟨_, -, h⟩ := Traced.bind_eq_ok h
    obtain ⟨_, -, h⟩ := Traced.bind_eq_ok h
    obtain ⟨_, -, h⟩ := Traced.bind_eq_ok h
    obtain ⟨password, hpassword, h⟩ := Traced.bind_eq_ok h
    cases h
    refine ⟨⟨secret, hsecret, hpassword⟩, recordsOf_bind_of_silent fun plain ↦ ?_⟩
    refine recordsOf_bind_eq_nil rfl fun port ↦ ?_
    refine recordsOf_bind_eq_nil (recordsOf_flag p _ _) fun startTls ↦ ?_
    refine recordsOf_bind_eq_nil (recordsOf_flag p _ _) fun ssl ↦ ?_
    refine recordsOf_bind_eq_nil (recordsOf_flag p _ _) fun debug ↦ ?_
    exact recordsOf_bind_eq_nil rfl fun username ↦ recordsOf_bind_eq_nil rfl fun password ↦ rfl

theorem endpoint?_eq_some {e : Endpoint} (h : p.endpoint?.result = .ok (some e)) :
    (∃ secret, (p.get "password").result = .ok secret ∧
      textOrNone "password" (secret.or (p.plain? "password")) = .ok e.password) ∧
    recordsOf p.endpoint? = recordsOf p.plainPassword := by
  unfold endpoint? at h ⊢
  obtain ⟨given, hhost, h⟩ := Traced.bind_eq_ok h
  rw [recordsOf_bind_of_reached (recordsOf_get p _) hhost]
  cases given with
  | none => cases h
  | some v =>
    obtain ⟨host, htext, h⟩ := Traced.bind_eq_ok h
    rw [recordsOf_bind_of_reached rfl htext]
    obtain ⟨e', he, h⟩ := Traced.bind_eq_ok h
    cases h
    rw [recordsOf_bind_of_silent fun _ ↦ rfl]
    exact endpointAt_eq_ok he

theorem textOrNone_eq_ok_iff {o : Option Value} {s : Option String} :
    textOrNone key o = .ok s ↔ o = s.map Value.text := by
  constructor
  · intro h
    cases o with
    | none =>
      cases h
      rfl
    | some v =>
      obtain ⟨text, htext, rfl⟩ := map_eq_ok_iff.mp h
      cases v with
      | text t =>
        cases htext
        rfl
      | _ => cases htext
  · rintro rfl
    cases s <;> rfl

end TaskParameters

/-- What is promised of the password of an endpoint that a task brings along. -/
structure Endpoint.HasPasswordOf (e : Endpoint) (p : TaskParameters) : Prop where
  /-- The secret goes before every plain password, and it is a text. -/
  secret : ∀ v, p.secrets.answer "password" = .present v → ∃ s, v = .text s ∧ e.password = some s
  /-- Without a secret, the plain password is taken, and it is a text if there is one. -/
  plain : p.secrets.answer "password" = .absent →
    HoldsPlain p.raw "password" (e.password.map Value.text)
  /-- The store was asked, and it answered. -/
  answered : ∀ reason, p.secrets.answer "password" ≠ .unavailable reason
  /-- A plain password is warned about once, whether it is taken or not, and nothing else is
  written. -/
  warned : ∀ plain, HoldsPlain p.raw "password" plain → recordsOf p.endpoint? =
    if plain.isSome then [⟨.warning, .resolution, TaskParameters.plainPasswordWarning⟩] else []

namespace TaskParameters

/-- **Provenance of the password.** Every endpoint that a task brings along has the secret as its
password, or else the plain password of the task, and there is a warning exactly about the latter.
The lookup of the password never yields a plain one: what it yields is what the store answers. -/
theorem password_provenance (raw : Table) (secrets : SecretStore) :
    (∀ e, (endpoint? ⟨raw, secrets, .mail⟩).result = .ok (some e) →
      e.HasPasswordOf ⟨raw, secrets, .mail⟩) ∧
    ∀ v, (get ⟨raw, secrets, .mail⟩ "password").result = .ok (some v) ↔
      secrets.answer "password" = .present v := by
  have hget : (get ⟨raw, secrets, .mail⟩ "password").result = secrets.get? "password" :=
    result_get_of_secretOnly (by decide : "password" ∈ AccessList.mail.secretOnly)
  rw [hget]
  refine ⟨fun e he ↦ ?_, fun v ↦ SecretStore.get?_eq_some_iff⟩
  obtain ⟨⟨secret, hsecret, hpassword⟩, hrecords⟩ := endpoint?_eq_some he
  rw [hget] at hsecret
  have hchosen := textOrNone_eq_ok_iff.mp hpassword
  refine ⟨fun v hv ↦ ?_, fun habsent ↦ ?_, fun reason hreason ↦ ?_, fun plain hplain ↦ ?_⟩
  · rw [SecretStore.get?, hv] at hsecret
    cases hsecret
    obtain ⟨s, hs, rfl⟩ := Option.map_eq_some_iff.mp hchosen.symm
    exact ⟨s, rfl, hs⟩
  · rw [SecretStore.get?, habsent] at hsecret
    cases hsecret
    exact holdsPlain_iff.mpr hchosen
  · rw [SecretStore.get?, hreason] at hsecret
    cases hsecret
  · rw [hrecords, recordsOf_plainPassword, holdsPlain_iff.mp hplain]

/-- A task with a password of its own beside the one among its defaults. -/
private def outspoken : Table :=
  [("host", .text "mx"), ("port", .int 25), ("password", .text "mine"),
    ("mail", .table [("password", .text "default")])]

/-- The same task, whose own entry is without a value. -/
private def reticent : Table :=
  [("host", .text "mx"), ("port", .int 25), ("password", .null),
    ("mail", .table [("password", .text "default")])]

/-- A secret goes before a plain password, which is warned about nevertheless. An entry without a
value hides the default and calls for no warning. -/
theorem password_provenance_outspoken :
    (∃ e, (endpoint? ⟨outspoken, .ofTable [("password", .text "t0p")], .mail⟩).result
        = .ok (some e) ∧ e.password = some "t0p" ∧
        recordsOf (endpoint? ⟨outspoken, .ofTable [("password", .text "t0p")], .mail⟩)
          = [⟨.warning, .resolution, plainPasswordWarning⟩]) ∧
      ∃ e, (endpoint? ⟨reticent, .ofTable [], .mail⟩).result = .ok (some e) ∧
        HoldsPlain reticent "password" (e.password.map Value.text) ∧
        recordsOf (endpoint? ⟨reticent, .ofTable [], .mail⟩) = [] := by
  have hsecret : (endpoint? ⟨outspoken, .ofTable [("password", .text "t0p")], .mail⟩).result = .ok
      (some { host := "mx", port := 25, password := some "t0p" }) := by cbv
  have hplain : (endpoint? ⟨reticent, .ofTable [], .mail⟩).result = .ok
      (some { host := "mx", port := 25 }) := by cbv
  refine ⟨⟨_, hsecret, ?_⟩, _, hplain, ?_⟩
  · have h := (password_provenance outspoken (.ofTable [("password", .text "t0p")])).1 _ hsecret
    obtain ⟨s, hs, hpassword⟩ := h.secret (.text "t0p") rfl
    cases hs
    exact ⟨hpassword, h.warned _ (.own rfl)⟩
  · have h := (password_provenance reticent (.ofTable [])).1 _ hplain
    exact ⟨h.plain rfl, h.warned _ (.own rfl)⟩

end TaskParameters

end MailDispatch
