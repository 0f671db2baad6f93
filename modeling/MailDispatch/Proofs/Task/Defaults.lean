import MailDispatch.Proofs.Task.Endpoint

/-!
# A table of defaults

The defaults of a task may as well stand among its own parameters, each under a key that it has not
set itself. Nothing about a mail tells the difference, neither what is collected nor what is logged
or asked of the secret store: all plain parameters are read in one way, and none of them under the
key of the table. A default under a key that the task has set is never looked at.
-/

namespace MailDispatch

/-! ## Adding defaults -/

/-- A task's own parameters and those of its defaults that they do not hide. -/
def flattened (raw defaults : Table) : Table :=
  raw ++ defaults.filter fun entry ↦ (raw.lookup entry.1).isNone

theorem lookup_filter (t : Table) (keep : String → Bool) (key : String) :
    (t.filter fun entry ↦ keep entry.1).lookup key = if keep key then t.lookup key else none := by
  induction t with
  | nil => rw [List.filter_nil, List.lookup_nil, ite_self]
  | cons entry t ih =>
    obtain ⟨other, v⟩ := entry
    rw [List.filter_cons]
    by_cases hkey : key = other
    · subst hkey
      split
      · rw [List.lookup_cons_self, List.lookup_cons_self]
      · next hkeep => rw [ih, if_neg hkeep]
    · rw [List.lookup_cons, beq_false_of_ne hkey, ← ih]
      split
      · rw [List.lookup_cons, beq_false_of_ne hkey]
      · rfl

theorem lookup_flattened (raw defaults : Table) (key : String) :
    (flattened raw defaults).lookup key = (raw.lookup key).or (defaults.lookup key) := by
  rw [flattened, List.lookup_append,
    lookup_filter defaults (fun key ↦ (raw.lookup key).isNone) key]
  cases raw.lookup key <;> rfl

namespace TaskParameters

variable {p : TaskParameters} {raw m m' : Table} {key : String}

/-! ## What a mail depends on -/

/-- With other parameters, the task reads the same under every key but that of its defaults. -/
def ReadsSame (p : TaskParameters) (raw : Table) : Prop :=
  ∀ key, key ≠ defaultsKey → { p with raw }.plain? key = p.plain? key

theorem get_congr_plain (h : p.ReadsSame raw) (hkey : key ≠ defaultsKey) :
    { p with raw }.get key = p.get key := by
  have hplain : { p with raw }.allowedPlain? key = p.allowedPlain? key := by
    rw [allowedPlain?, allowedPlain?, h key hkey]
  rw [get, get, hplain]
  rfl

theorem flag_congr_plain (h : p.ReadsSame raw) (hkey : key ≠ defaultsKey) (default : Bool) :
    { p with raw }.flag key default = p.flag key default := by
  rw [flag, flag, get_congr_plain h hkey]

theorem endpoint?_congr_plain (h : p.ReadsSame raw) : { p with raw }.endpoint? = p.endpoint? := by
  simp only [endpoint?, endpointAt, plainPassword, h "password" (by decide),
    get_congr_plain h (by decide : "host" ≠ defaultsKey),
    get_congr_plain h (by decide : "port" ≠ defaultsKey),
    get_congr_plain h (by decide : "username" ≠ defaultsKey),
    get_congr_plain h (by decide : "password" ≠ defaultsKey),
    flag_congr_plain h (by decide : "tls" ≠ defaultsKey),
    flag_congr_plain h (by decide : "ssl" ≠ defaultsKey),
    flag_congr_plain h (by decide : "debug" ≠ defaultsKey)]

/-- The warning about settings that are ignored reads plain parameters, whatever is declared. -/
theorem warnIgnored_congr_plain (h : p.ReadsSame raw) :
    { p with raw }.warnIgnored = p.warnIgnored := by
  have hignored : (hostDependent.filter fun key ↦ ({ p with raw }.plain? key).isSome)
      = hostDependent.filter fun key ↦ (p.plain? key).isSome := by
    refine List.filter_congr fun key hmem ↦ ?_
    have hkey : ∀ key ∈ hostDependent, key ≠ defaultsKey := by decide
    rw [h key (hkey key hmem)]
  rw [warnIgnored, warnIgnored, hignored]

theorem endpoint_congr_plain (h : p.ReadsSame raw) (c : OperatorConfig) :
    { p with raw }.endpoint c = p.endpoint c := by
  rw [endpoint_eq, endpoint_eq, endpoint?_congr_plain h, warnIgnored_congr_plain h]

/-- A mail depends on the parameters of the task only through what is read under single keys. -/
theorem mail_congr_plain (h : p.ReadsSame raw) (c : OperatorConfig) (body : String) :
    { p with raw }.mail c body = p.mail c body := by
  simp only [mail, recipients, sender, subject, attachments, endpoint_congr_plain h,
    get_congr_plain h (by decide : "to" ≠ defaultsKey),
    get_congr_plain h (by decide : "from" ≠ defaultsKey),
    get_congr_plain h (by decide : "subject" ≠ defaultsKey),
    get_congr_plain h (by decide : "attach_files" ≠ defaultsKey),
    flag_congr_plain h (by decide : "html" ≠ defaultsKey)]

/-! ## Defaults -/

/-- Beside a table of defaults, a parameter is the entry for it in the two tables joined. -/
theorem plain?_of_defaults (hmail : p.raw.lookup defaultsKey = some (.table m)) (key : String) :
    p.plain? key = ((p.raw.lookup key).or (m.lookup key)).bind Value.toOption := by
  rw [plain?, hmail]
  cases p.raw.lookup key <;> rfl

theorem readsSame_flattened (hmail : p.raw.lookup defaultsKey = some (.table m)) :
    p.ReadsSame (flattened p.raw m) := by
  intro key _
  have hflat : (flattened p.raw m).lookup defaultsKey = some (.table m) := by
    rw [lookup_flattened, hmail, Option.some_or]
  rw [plain?_of_defaults hflat, plain?_of_defaults hmail, lookup_flattened]
  cases p.raw.lookup key with
  | some v => rfl
  | none => cases m.lookup key <;> rfl

/-- Of the defaults, only those matter that the task's own parameters do not hide. -/
theorem readsSame_of_hidden (hmail : p.raw.lookup defaultsKey = some (.table m))
    (hmail' : raw.lookup defaultsKey = some (.table m'))
    (hown : ∀ key, key ≠ defaultsKey → raw.lookup key = p.raw.lookup key)
    (hdefaults : ∀ key, p.raw.lookup key = none → m'.lookup key = m.lookup key) :
    p.ReadsSame raw := by
  intro key hkey
  rw [plain?_of_defaults hmail', plain?_of_defaults hmail, hown key hkey]
  cases h : p.raw.lookup key with
  | some v => rfl
  | none => rw [hdefaults key h]

/-- **Defaults.** Collecting the mail of a task that has a table of defaults is one computation with
the same result, records and questions to the secret store, whether the defaults are kept apart or
added to the task's own parameters under the keys that these lack. A default under a key that the
task has set, if only to nothing, can be changed, taken away or put in without a difference. -/
theorem mail_flattened (hmail : p.raw.lookup "mail" = some (.table m)) (c : OperatorConfig)
    (body : String) :
    { p with raw := flattened p.raw m }.mail c body = p.mail c body ∧
      ∀ raw m', raw.lookup "mail" = some (.table m') →
        (∀ key, key ≠ "mail" → raw.lookup key = p.raw.lookup key) →
        (∀ key, p.raw.lookup key = none → m'.lookup key = m.lookup key) →
        { p with raw }.mail c body = p.mail c body :=
  ⟨mail_congr_plain (readsSame_flattened hmail) c body, fun _ _ hmail' hown hdefaults ↦
    mail_congr_plain (readsSame_of_hidden hmail hmail' hown hdefaults) c body⟩

/-- Defaults of a task; those for its subject and port are hidden below. -/
private def household : Table :=
  [("host", .text "mx"), ("port", .int 587), ("subject", .text "Minutes"),
    ("from", .text "ann@mx.org"), ("mail", .table [("ssl", .bool true)])]

/-- A task with these defaults, or with others. -/
private def memo (defaults : Table) : TaskParameters where
  raw := [("to", .text "bob@mx.org"), ("port", .int 25), ("subject", .null),
    ("mail", .table defaults)]
  secrets := .ofTable [("password", .text "t0p")]

/-- The host and the sender may be added to the task, and the subject and the port may be taken out
of its defaults. -/
theorem mail_flattened_memo :
    TaskParameters.mail
        { memo household with
          raw := (memo household).raw ++ [("host", .text "mx"), ("from", .text "ann@mx.org")] }
        { defaults := { subject := some "News" } } "Hello"
      = (memo household).mail { defaults := { subject := some "News" } } "Hello" ∧
    (memo [("host", .text "mx"), ("from", .text "ann@mx.org")]).mail
        { defaults := { subject := some "News" } } "Hello"
      = (memo household).mail { defaults := { subject := some "News" } } "Hello" ∧
    ((memo household).mail { defaults := { subject := some "News" } } "Hello").result.isOk := by
  have hmail : (memo household).raw.lookup "mail" = some (.table household) := rfl
  obtain ⟨hflat, hhidden⟩ :=
    mail_flattened hmail { defaults := { subject := some "News" } } "Hello"
  refine ⟨hflat, hhidden _ [("host", .text "mx"), ("from", .text "ann@mx.org")] rfl ?_ ?_, by cbv⟩
  · intro key hkey
    simp only [memo, List.lookup_cons, beq_false_of_ne hkey]
  · intro key hkey
    -- these are the defaults that are not hidden
    show (household.filter fun entry ↦ ((memo household).raw.lookup entry.1).isNone).lookup key = _
    rw [lookup_filter household (fun key ↦ ((memo household).raw.lookup key).isNone) key, hkey]
    rfl

/-- The host and the sender are the defaults, the port is the task's own, and the subject is neither
of the two. -/
example : ((memo household).mail { defaults := { subject := some "News" } } "Hello").result
    = .ok {
      recipients := ["bob@mx.org"]
      sender := "ann@mx.org"
      subject := "News"
      isHtml := false
      body := "Hello"
      endpoint := { host := "mx", port := 25, password := some "t0p" }
      attachments := [] } := by
  cbv

end TaskParameters

end MailDispatch
