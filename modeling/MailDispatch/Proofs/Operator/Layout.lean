import Mathlib
import MailDispatch.Operator.Layout
import MailDispatch.Proofs.Task.Endpoint

/-!
# The layout of a configuration is read back

A configuration that is laid out as a table is what that table is read as, setting by setting. This
takes an endpoint that is the system's own, since nothing of its origin is laid out, and whose port
can be written, since that is done whenever an endpoint is read. Every configuration that comes of
reading some table is of this kind.
-/

namespace MailDispatch.OperatorConfig

open Decimal (numeral?)

variable {c : OperatorConfig}

/-- The endpoint, if there is one, is the system's own, and its port can be written. -/
def IsRecordable (c : OperatorConfig) : Prop :=
  ∀ e, c.endpoint = some e → e.origin = .system ∧ (numeral? e.port).isSome

/-! ## Settings -/

theorem lookup_entryOf (key other : String) (v : Option String) :
    (entryOf key v).lookup other = if other = key then v.map .text else none := by
  cases v with
  | none => rw [entryOf, List.lookup_nil, Option.map_none, ite_self]
  | some s =>
    rw [entryOf, List.lookup_cons, List.lookup_nil]
    by_cases h : other = key
    · rw [h, if_pos rfl, beq_self_eq_true, Option.map_some]
    · rw [if_neg h, beq_false_of_ne h]

theorem dotted_eq (key : String) : dotted key = "config.mail." ++ key := by
  rw [dotted, ← String.toList_inj, String.toList_intercalate, String.toList_append]
  simp [path, List.intercalate_cons_cons]

/-- Settings in the nested layout. -/
def nested (settings : Table) : Table := [("config", .table [("mail", .table settings)])]

theorem dotted_ne_config (key : String) : dotted key ≠ "config" := by
  intro h
  have hlength := congrArg String.length h
  rw [dotted_eq, String.length_append, show "config.mail.".length = 12 from by decide,
    show "config".length = 6 from by decide] at hlength
  omega

theorem lookup_dotted_nested (settings : Table) (key : String) :
    (nested settings).lookup (dotted key) = none := by
  rw [nested, List.lookup_cons, beq_false_of_ne (dotted_ne_config key)]
  rfl

theorem nested?_nested (settings : Table) (key : String) :
    nested? (path ++ [key]) (.table (nested settings)) = settings.lookup key := by
  show (some (Value.table settings)).bind (nested? [key]) = _
  cases hl : settings.lookup key with
  | none => simp [nested?, hl]
  | some v => simp [nested?, hl]

/-- In the nested layout a setting is the entry for it. -/
theorem setting?_nested (settings : Table) (key : String) :
    setting? (nested settings) key = (settings.lookup key).bind Value.toOption := by
  rw [setting?, lookup_dotted_nested, nested?_nested]

/-- A setting of a configuration that is laid out is the entry for it. -/
theorem setting?_toTable (key : String) (c : OperatorConfig) :
    setting? c.toTable key = (c.entries.lookup key).bind Value.toOption :=
  setting?_nested c.entries key

section Read

variable {α : Type} {data : Table} {key : String} {convert : String → Value → Except Failure α}

theorem read_of_unset (h : setting? data key = none) : read data key convert = .ok none := by
  rw [read, h]

theorem read_of_set {v : Value} {a : α} (h : setting? data key = some v)
    (hv : convert (dotted key) v = .ok a) : read data key convert = .ok (some a) := by
  rw [read, h]
  exact map_eq_ok_iff.mpr ⟨a, hv, rfl⟩

/-- A text that may be set is read as it is. -/
theorem read_text_of_setting {s : Option String} (h : setting? data key = s.map .text) :
    read data key Setting.asText = .ok s := by
  cases s with
  | none => exact read_of_unset h
  | some s => exact read_of_set h rfl

end Read

theorem read_text {key : String} {v : Option String}
    (hlookup : c.entries.lookup key = v.map .text) :
    read c.toTable key Setting.asText = .ok v := by
  refine read_text_of_setting ?_
  rw [setting?_toTable, hlookup]
  cases v <;> rfl

theorem read_integer {key : String} {n : Int}
    (hlookup : c.entries.lookup key = some (.int n)) :
    read c.toTable key Setting.asInteger = .ok (some n) :=
  read_of_set (v := .int n) (by rw [setting?_toTable, hlookup]; rfl) rfl

theorem read_flag {key : String} {b : Bool}
    (hlookup : c.entries.lookup key = some (.bool b)) :
    read c.toTable key Setting.asFlag = .ok (some b) :=
  read_of_set (v := .bool b) (by rw [setting?_toTable, hlookup]; rfl) rfl

/-! ## Entries -/

/-- The entry for a key is found among the settings of the endpoint unless it is a default. -/
theorem lookup_entries (c : OperatorConfig) (key : String) (hfrom : key ≠ "from")
    (hsubject : key ≠ "subject") : c.entries.lookup key
      = ((c.endpoint.map endpointEntries).getD []).lookup key := by
  rw [entries, List.lookup_append, List.lookup_append, lookup_entryOf, lookup_entryOf,
    if_neg hfrom, if_neg hsubject, Option.none_or, Option.none_or]

theorem lookup_endpointEntries_of_default {key : String} (h : key = "from" ∨ key = "subject")
    (endpoint : Option Endpoint) : ((endpoint.map endpointEntries).getD []).lookup key = none := by
  cases endpoint with
  | none => rfl
  | some e =>
    rcases h with rfl | rfl <;>
      simp [endpointEntries, List.lookup_append, lookup_entryOf, List.lookup_cons]

theorem lookup_from (c : OperatorConfig) :
    c.entries.lookup "from" = c.defaults.sender.map .text := by
  rw [entries, List.lookup_append, List.lookup_append, lookup_entryOf, lookup_entryOf,
    if_pos rfl, if_neg (by decide), lookup_endpointEntries_of_default (.inl rfl), Option.or_none,
    Option.or_none]

theorem lookup_subject (c : OperatorConfig) :
    c.entries.lookup "subject" = c.defaults.subject.map .text := by
  rw [entries, List.lookup_append, List.lookup_append, lookup_entryOf, lookup_entryOf,
    if_neg (by decide), if_pos rfl, lookup_endpointEntries_of_default (.inr rfl), Option.none_or,
    Option.or_none]

theorem lookup_username (e : Endpoint) :
    (endpointEntries e).lookup "username" = e.username.map .text := by
  simp [endpointEntries, List.lookup_append, lookup_entryOf, List.lookup_cons]

theorem lookup_password (e : Endpoint) :
    (endpointEntries e).lookup "password" = e.password.map .text := by
  simp [endpointEntries, List.lookup_append, lookup_entryOf, List.lookup_cons]

/-! ## Whole configurations -/

theorem endpointAt_toTable {e : Endpoint} (he : c.endpoint = some e)
    (horigin : e.origin = .system) : endpointAt c.toTable e.host = .ok e := by
  have hlookup : ∀ {key : String}, key ≠ "from" → key ≠ "subject" →
      c.entries.lookup key = (endpointEntries e).lookup key := by
    intro key hfrom hsubject
    rw [lookup_entries c _ hfrom hsubject, he]
    rfl
  have hport : read c.toTable "port" Setting.asInteger = .ok (some e.port) :=
    read_integer (hlookup (by decide) (by decide))
  have htls : read c.toTable "tls" Setting.asFlag = .ok (some e.startTls) :=
    read_flag (hlookup (by decide) (by decide))
  have hssl : read c.toTable "ssl" Setting.asFlag = .ok (some e.ssl) :=
    read_flag (hlookup (by decide) (by decide))
  have hdebug : read c.toTable "debug" Setting.asFlag = .ok (some e.debug) :=
    read_flag (hlookup (by decide) (by decide))
  have husername : read c.toTable "username" Setting.asText = .ok e.username :=
    read_text ((hlookup (by decide) (by decide)).trans (lookup_username e))
  have hpassword : read c.toTable "password" Setting.asText = .ok e.password :=
    read_text ((hlookup (by decide) (by decide)).trans (lookup_password e))
  obtain ⟨host, port, startTls, ssl, debug, username, password, origin⟩ := e
  cases horigin
  simp only [endpointAt, hport, htls, hssl, hdebug, husername, hpassword, bind, Except.bind]
  rfl

theorem endpointOf_toTable (h : ∀ e, c.endpoint = some e → e.origin = .system) :
    endpointOf c.toTable = .ok c.endpoint := by
  have hlookup := lookup_entries c "host" (by decide) (by decide)
  cases he : c.endpoint with
  | none =>
    rw [he] at hlookup
    have hhost : read c.toTable "host" Setting.asText = .ok none := read_text hlookup
    simp only [endpointOf, hhost, bind, Except.bind]
    rfl
  | some e =>
    rw [he] at hlookup
    have hhost : read c.toTable "host" Setting.asText = .ok (some e.host) :=
      read_text hlookup
    simp only [endpointOf, hhost, endpointAt_toTable he (h e he), bind, Except.bind]
    rfl

theorem parse_toTable (h : ∀ e, c.endpoint = some e → e.origin = .system) :
    parse c.toTable = .ok c := by
  have hsubject : read c.toTable "subject" Setting.asText = .ok c.defaults.subject :=
    read_text (lookup_subject c)
  have hfrom : read c.toTable "from" Setting.asText = .ok c.defaults.sender :=
    read_text (lookup_from c)
  simp only [parse, hsubject, hfrom, endpointOf_toTable h, bind, Except.bind]
  rfl

theorem text_of_isSome_numeral? {e : Endpoint} (h : (numeral? e.port).isSome) :
    ∃ shown, e.text = .ok shown := by
  obtain ⟨port, hport⟩ := Option.isSome_iff_exists.mp h
  exact ⟨_, by rw [Endpoint.text, Endpoint.text?, hport]; rfl⟩

/-- A recordable configuration is read back from its layout. -/
theorem result_ofTable_toTable (h : c.IsRecordable) : (ofTable c.toTable).result = .ok c := by
  rw [ofTable, parse_toTable fun e he ↦ (h e he).1, Traced.result_bind, Traced.result_monadLift]
  simp only [Except.mapError, Except.bind]
  cases he : c.endpoint with
  | none => rfl
  | some e =>
    obtain ⟨shown, hshown⟩ := text_of_isSome_numeral? (h e he).2
    simp only [Traced.result_bind, Traced.result_monadLift, hshown]
    rfl

/-! ## What was read -/

theorem origin_of_endpointAt {data : Table} {host : String} {e : Endpoint}
    (h : endpointAt data host = .ok e) : e.origin = .system := by
  unfold endpointAt at h
  obtain ⟨port, -, h⟩ := bind_eq_ok h
  cases port with
  | none => cases h
  | some port =>
    obtain ⟨_, -, h⟩ := bind_eq_ok h
    obtain ⟨_, -, h⟩ := bind_eq_ok h
    obtain ⟨_, -, h⟩ := bind_eq_ok h
    obtain ⟨_, -, h⟩ := bind_eq_ok h
    obtain ⟨_, -, h⟩ := bind_eq_ok h
    cases h
    rfl

theorem origin_of_endpointOf {data : Table} {endpoint : Option Endpoint}
    (h : endpointOf data = .ok endpoint) : ∀ e, endpoint = some e → e.origin = .system := by
  rintro e rfl
  unfold endpointOf at h
  obtain ⟨host, -, h⟩ := bind_eq_ok h
  cases host with
  | none => cases h
  | some host =>
    obtain ⟨e', he', h⟩ := bind_eq_ok h
    cases h
    exact origin_of_endpointAt he'

theorem origin_of_parse {data : Table} (h : parse data = .ok c) :
    ∀ e, c.endpoint = some e → e.origin = .system := by
  unfold parse at h
  obtain ⟨_, -, h⟩ := bind_eq_ok h
  obtain ⟨_, -, h⟩ := bind_eq_ok h
  obtain ⟨endpoint, hendpoint, h⟩ := bind_eq_ok h
  cases h
  exact origin_of_endpointOf hendpoint

theorem parse_of_ofTable {data : Table} (h : (ofTable data).result = .ok c) :
    parse data = .ok c := by
  unfold ofTable at h
  obtain ⟨config, hconfig, h⟩ := Traced.bind_eq_ok h
  have hc : config = c := by
    cases he : config.endpoint with
    | none => rw [he] at h; cases h; rfl
    | some e =>
      rw [he] at h
      obtain ⟨_, -, h⟩ := Traced.bind_eq_ok h
      obtain ⟨_, -, h⟩ := Traced.bind_eq_ok h
      cases h
      rfl
  rw [Traced.result_monadLift, hc] at hconfig
  cases hp : parse data with
  | error e => rw [hp] at hconfig; cases hconfig
  | ok config => rw [hp] at hconfig; exact hconfig

/-- What was read is recordable. -/
theorem isRecordable_of_ofTable {data : Table} (h : (ofTable data).result = .ok c) :
    c.IsRecordable := by
  intro e he
  refine ⟨origin_of_parse (parse_of_ofTable h) e he, ?_⟩
  obtain ⟨shown, hshown⟩ := text_of_ofTable h he
  rw [Endpoint.text, Endpoint.text?] at hshown
  cases hport : numeral? e.port with
  | none => rw [hport] at hshown; cases hshown
  | some port => rfl

end MailDispatch.OperatorConfig
