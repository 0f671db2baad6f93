import MailDispatch.Proofs.Operator.Layout
import MailDispatch.Proofs.Task.Endpoint
import MailDispatch.Proofs.Task.Failures

/-!
# One table, read by the task and by the operator

The settings of an endpoint have two readers, one for the parameters of a task and one for the
operator's configuration. A table without secrets beside it means the same to both: no endpoint, an
endpoint with the same fields, or a failure over the same setting. The readers are compared step by
step, since both take the settings in the same order.
-/

namespace MailDispatch

/-! ## Results side by side -/

/-- Two values in a relation, or two failures in one. -/
inductive ResultsPaired {ε α β : Type} (values : α → β → Prop) (failures : ε → ε → Prop) :
    Except ε α → Except ε β → Prop
  | ok {a : α} {b : β} (h : values a b) : ResultsPaired values failures (.ok a) (.ok b)
  | error {e e' : ε} (h : failures e e') : ResultsPaired values failures (.error e) (.error e')

namespace ResultsPaired

variable {ω ε α β γ δ : Type} {values : α → β → Prop} {values' : γ → δ → Prop}
  {failures : ε → ε → Prop}

theorem map {r : Except ε α} {r' : Except ε β} {f : α → γ} {g : β → δ}
    (h : ResultsPaired values failures r r') (hfg : ∀ a b, values a b → values' (f a) (g b)) :
    ResultsPaired values' failures (r.map f) (r'.map g) := by
  cases h with
  | ok h => exact .ok (hfg _ _ h)
  | error h => exact .error h

theorem map_right {r : Except ε α} {r' : Except ε β} {g : β → δ} {values' : α → δ → Prop}
    (h : ResultsPaired values failures r r') (hg : ∀ a b, values a b → values' a (g b)) :
    ResultsPaired values' failures r (r'.map g) := by
  cases h with
  | ok h => exact .ok (hg _ _ h)
  | error h => exact .error h

/-- A setting that is present, beside the setting itself. -/
theorem some_right {r r' : Except ε α} (h : ResultsPaired Eq failures r r') :
    ResultsPaired (fun a o ↦ o = some a) failures r (r'.map some) :=
  h.map_right fun _ _ hab ↦ congrArg some hab.symm

/-- A traced computation chains like one that leaves no trace. -/
theorem bind {x : Traced ω ε α} {r : Except ε β} {f : α → Traced ω ε γ} {g : β → Except ε δ}
    (h : ResultsPaired values failures x.result r)
    (hfg : ∀ a b, values a b → ResultsPaired values' failures (f a).result (g b)) :
    ResultsPaired values' failures (x >>= f).result (r >>= g) := by
  rw [Traced.result_bind]
  generalize x.result = own at h ⊢
  cases h with
  | ok h => exact hfg _ _ h
  | error h => exact .error h

end ResultsPaired

/-! ## Endpoints and failures of the two readers -/

/-- What the task and the operator make of the same settings: no endpoint, or one whose fields are
the same except for the origin. -/
inductive Endpoint.Counterpart : Option Endpoint → Option Endpoint → Prop
  | unset : Counterpart none none
  | set {own : Endpoint} (horigin : own.origin = .user) :
    Counterpart (some own) (some { own with origin := .system })

/-- Two errors over the same setting, as the task and as the operator name it. -/
inductive ConfigurationError.Counterpart : ConfigurationError → ConfigurationError → Prop
  /-- A value has the wrong type. -/
  | invalid (key problem : String) :
    Counterpart (.invalidParameter key problem) (.invalidParameter ("config.mail." ++ key) problem)
  /-- There is a host and no port. -/
  | noPort (explanation : Option String) :
    Counterpart (.missingField "port" explanation) .systemPort

/-- Two failures over the same setting, or over an integer that is too long to be shown. -/
inductive Failure.Counterpart : Failure → Failure → Prop
  | configuration {e e' : ConfigurationError} (h : e.Counterpart e') :
    Counterpart (.configuration e) (.configuration e')
  | longInteger : Counterpart .longInteger .longInteger

open OperatorConfig (dotted nested)

namespace Setting

variable (key : String)

theorem paired_refuse {α : Type} (problem : String) :
    ResultsPaired (@Eq α) Failure.Counterpart (refuse key problem)
      (refuse (dotted key) problem) := by
  rw [OperatorConfig.dotted_eq]
  exact .error (.configuration (.invalid key problem))

/-- A value that is shown in an error is shown to both. -/
theorem paired_refuse_literal {α : Type} (v : Value) (problem : String → String) :
    ResultsPaired (@Eq α) Failure.Counterpart
      (v.literal.bind fun shown ↦ refuse key (problem shown))
      (v.literal.bind fun shown ↦ refuse (dotted key) (problem shown)) := by
  rw [Value.literal]
  cases v.literal? with
  | none => exact .error .longInteger
  | some shown => exact paired_refuse key (problem shown)

theorem paired_asText (v : Value) :
    ResultsPaired Eq Failure.Counterpart (asText key v) (asText (dotted key) v) := by
  cases v with
  | text s => exact .ok rfl
  | _ => exact paired_refuse key _

theorem paired_asInteger (v : Value) :
    ResultsPaired Eq Failure.Counterpart (asInteger key v) (asInteger (dotted key) v) := by
  have hrefuse : ResultsPaired Eq Failure.Counterpart (refuseInteger key v)
      (refuseInteger (dotted key) v) := paired_refuse_literal key v _
  cases v with
  | bool b => exact paired_refuse key _
  | int n => exact .ok rfl
  | text s =>
    rw [asInteger, asInteger]
    cases Decimal.readInt? s.toList with
    | some n => exact .ok rfl
    | none => exact hrefuse
  | _ => exact hrefuse

theorem paired_asFlag (v : Value) :
    ResultsPaired Eq Failure.Counterpart (asFlag key v) (asFlag (dotted key) v) := by
  have hrefuse : ResultsPaired Eq Failure.Counterpart (refuseFlag key v)
      (refuseFlag (dotted key) v) := paired_refuse_literal key v _
  cases v with
  | bool b => exact .ok rfl
  | text s =>
    rw [asFlag, asFlag]
    cases readFlag? s.toList with
    | some b => exact .ok rfl
    | none => exact hrefuse
  | _ => exact hrefuse

end Setting

/-! ## The two readers -/

namespace TaskParameters

variable {m : Table} {secrets : SecretStore} {key : String}

/-- Without secrets and without a table of defaults, a parameter is the entry for it. -/
theorem plain?_eq (hmail : m.lookup defaultsKey = none) (key : String) :
    plain? ⟨m, secrets, .mail⟩ key = (m.lookup key).bind Value.toOption := by
  rw [plain?, hmail]
  cases m.lookup key <;> rfl

/-- A setting that may be a plain parameter. -/
theorem result_get_of_allowsPlain (hsecrets : ∀ key, secrets.answer key = .absent)
    (hmail : m.lookup defaultsKey = none) (key : String) (hkey : AccessList.mail.allowsPlain key) :
    (get ⟨m, secrets, .mail⟩ key).result = .ok (OperatorConfig.setting? (nested m) key) := by
  rw [result_get_of_absent fun _ ↦ hsecrets key, allowedPlain?, if_pos hkey, plain?_eq hmail,
    OperatorConfig.setting?_nested]

theorem paired_textOrNone (key : String) :
    ResultsPaired Eq Failure.Counterpart
      (textOrNone key (OperatorConfig.setting? (nested m) key))
      (OperatorConfig.read (nested m) key Setting.asText) := by
  rw [OperatorConfig.read]
  cases OperatorConfig.setting? (nested m) key with
  | none => exact .ok rfl
  | some v => exact (Setting.paired_asText key v).map fun _ _ ↦ congrArg some

theorem paired_flag (hsecrets : ∀ key, secrets.answer key = .absent)
    (hmail : m.lookup defaultsKey = none) (hkey : AccessList.mail.allowsPlain key)
    (default : Bool) :
    ResultsPaired (fun b set ↦ b = set.getD default) Failure.Counterpart
      (flag ⟨m, secrets, .mail⟩ key default).result
      (OperatorConfig.read (nested m) key Setting.asFlag) := by
  unfold flag
  rw [Traced.result_bind, result_get_of_allowsPlain hsecrets hmail key hkey,
    OperatorConfig.read]
  cases OperatorConfig.setting? (nested m) key with
  | none => exact .ok rfl
  | some v => exact (Setting.paired_asFlag key v).map_right fun _ _ h ↦ h

theorem paired_endpointAt (hsecrets : ∀ key, secrets.answer key = .absent)
    (hmail : m.lookup defaultsKey = none) (host : String) :
    ResultsPaired (fun own e ↦ own.origin = .user ∧ e = { own with origin := .system })
      Failure.Counterpart (endpointAt ⟨m, secrets, .mail⟩ host).result
      (OperatorConfig.endpointAt (nested m) host) := by
  have hplain := result_get_of_allowsPlain hsecrets hmail
  have hpassword : (get ⟨m, secrets, .mail⟩ "password").result = .ok none :=
    result_get_of_absent fun _ ↦ hsecrets "password"
  unfold endpointAt OperatorConfig.endpointAt
  rw [Traced.result_bind_of_ok (hplain "port" rfl), OperatorConfig.read]
  cases OperatorConfig.setting? (nested m) "port" with
  | none => exact .error (.configuration (.noPort _))
  | some v =>
    -- the task's reader looks up all texts before it converts the port
    dsimp only
    rw [Traced.result_bind_of_ok (hplain "username" rfl), Traced.result_bind_of_ok hpassword,
      Traced.result_bind_of_ok (result_plainPassword _), plain?_eq hmail,
      ← OperatorConfig.setting?_nested, Option.none_or]
    refine (Setting.paired_asInteger "port" v).some_right.bind fun port _ hsome ↦ ?_
    rw [hsome]
    refine (paired_flag hsecrets hmail rfl true).bind fun startTls _ htls ↦ ?_
    refine (paired_flag hsecrets hmail rfl false).bind fun ssl _ hssl ↦ ?_
    refine (paired_flag hsecrets hmail rfl false).bind fun debug _ hdebug ↦ ?_
    refine (paired_textOrNone "username").bind fun username _ husername ↦ ?_
    refine (paired_textOrNone "password").bind fun password _ hword ↦ ?_
    rw [← htls, ← hssl, ← hdebug, ← husername, ← hword]
    exact .ok ⟨rfl, rfl⟩

/-- The readers agree on all values, those included that are too long to be shown. -/
theorem paired_endpoint? (hsecrets : ∀ key, secrets.answer key = .absent)
    (hmail : m.lookup defaultsKey = none) :
    ResultsPaired Endpoint.Counterpart Failure.Counterpart
      (endpoint? ⟨m, secrets, .mail⟩).result (OperatorConfig.endpointOf (nested m)) := by
  unfold endpoint? OperatorConfig.endpointOf
  rw [Traced.result_bind_of_ok (result_get_of_allowsPlain hsecrets hmail "host" rfl),
    OperatorConfig.read]
  cases OperatorConfig.setting? (nested m) "host" with
  | none => exact .ok .unset
  | some v =>
    dsimp only
    refine (Setting.paired_asText "host" v).some_right.bind fun host _ hsome ↦ ?_
    rw [hsome]
    refine (paired_endpointAt hsecrets hmail host).bind fun own e h ↦ ?_
    rw [h.2]
    exact .ok (.set h.1)

end TaskParameters

variable {m : Table} {secrets : SecretStore}

/-- **Agreement of the readers.** Without secrets, and where every integer can be shown, the
settings of a table make the same endpoint for a task and for the operator, or the same error. -/
theorem readers_agree (hmail : m.lookup "mail" = none)
    (hsecrets : ∀ key, secrets.answer key = .absent) (hwritable : (Value.table m).IsWritable) :
    ResultsPaired Endpoint.Counterpart
      (fun f f' ↦ ∃ e e', f = .configuration e ∧ f' = .configuration e' ∧ e.Counterpart e')
      (TaskParameters.endpoint? ⟨m, secrets, .mail⟩).result
      (OperatorConfig.endpointOf (nested m)) := by
  have hall : TaskParameters.IsWritable ⟨m, secrets, .mail⟩ := by
    refine ⟨hwritable, fun key v hv ↦ ?_⟩
    rw [hsecrets] at hv
    cases hv
  have hunusable := TaskParameters.endsIn_endpoint? fun _ : True ↦ hall
  have hpaired := TaskParameters.paired_endpoint? hsecrets hmail
  generalize (TaskParameters.endpoint? ⟨m, secrets, .mail⟩).result = own at hunusable hpaired ⊢
  generalize OperatorConfig.endpointOf (nested m) = operator at hpaired ⊢
  cases hpaired with
  | ok h => exact .ok h
  | error h =>
    cases h with
    | configuration h => exact .error ⟨_, _, rfl, rfl, h⟩
    | longInteger => exact absurd trivial hunusable

/-- Settings that are texts, as they come from the environment. -/
private def textual : Table :=
  [("host", .text "mx"), ("port", .text " 587 "), ("tls", .text "No"), ("debug", .null),
    ("password", .text "pw")]

/-- They make an endpoint for a task, and so they make one for the operator. -/
theorem readers_agree_textual :
    ∃ own, (TaskParameters.endpoint? ⟨textual, .ofTable [], .mail⟩).result = .ok (some own) ∧
      OperatorConfig.endpointOf (nested textual) = .ok (some { own with origin := .system }) := by
  have habsent : ∀ key, (SecretStore.ofTable []).answer key = .absent := fun _ ↦ rfl
  have hwritable : (Value.table textual).IsWritable := by cbv
  have hagree := readers_agree (by decide : textual.lookup "mail" = none) habsent hwritable
  have hown : (TaskParameters.endpoint? ⟨textual, .ofTable [], .mail⟩).result = .ok
      (some { host := "mx", port := 587, startTls := false, password := some "pw" }) := by cbv
  rw [hown] at hagree
  refine ⟨_, hown, ?_⟩
  generalize OperatorConfig.endpointOf (nested textual) = operator at hagree ⊢
  cases hagree with
  | ok h =>
    cases h
    rfl

end MailDispatch
