import MailDispatch.Proofs.Operator.Layout
import MailDispatch.Proofs.Task.Defaults

/-!
# Dotted keys and nested tables

A setting of the operator stands under a dotted key of its own or in the nested tables, and nothing
that comes of reading a configuration tells the two apart. What matters is only what the table holds
for each of the nine settings, and the dotted key goes before, even if it has no value. `gathered`
brings the settings of any table into the nested layout, whatever else the table holds, and whether
or not its nested keys lead through tables.
-/

namespace MailDispatch.OperatorConfig

variable {data data' : Table} {key : String} {v : Value}

/-! ## What a table holds -/

/-- The keys of the settings. -/
def settingKeys : List String :=
  ["subject", "from", "host", "port", "tls", "ssl", "debug", "username", "password"]

/-- What a table holds for a setting: the entry under its dotted key, or where there is none, the
entry in the nested tables. -/
inductive Holds (data : Table) (key : String) (v : Value) : Prop
  | dotted (hdotted : data.lookup ("config.mail." ++ key) = some v)
  | nested {config mail : Table} (hdotted : data.lookup ("config.mail." ++ key) = none)
      (hconfig : data.lookup "config" = some (.table config))
      (hmail : config.lookup "mail" = some (.table mail)) (hkey : mail.lookup key = some v)

/-- The entry that a table holds for a setting. -/
def held? (data : Table) (key : String) : Option Value :=
  (data.lookup (dotted key)).or (nested? (path ++ [key]) (.table data))

theorem setting?_eq (data : Table) (key : String) :
    setting? data key = (held? data key).bind Value.toOption := by
  rw [setting?, held?]
  cases data.lookup (dotted key) <;> rfl

/-- Only tables lead on to the nested entry. -/
theorem nested?_path_eq_some_iff : nested? (path ++ [key]) (.table data) = some v ↔
    ∃ config mail, data.lookup "config" = some (.table config) ∧
      config.lookup "mail" = some (.table mail) ∧ mail.lookup key = some v := by
  have hlast : ∀ u : Value, nested? [key] u = some v ↔
      ∃ mail, u = .table mail ∧ mail.lookup key = some v := by
    intro u
    cases u with
    | table mail => simp [nested?]
    | _ => simp [nested?]
  have hmail : ∀ u : Value, nested? ["mail", key] u = some v ↔
      ∃ config, u = .table config ∧
        ∃ mail, config.lookup "mail" = some (.table mail) ∧ mail.lookup key = some v := by
    intro u
    cases u with
    | table config =>
      rw [nested?, Option.bind_eq_some_iff]
      simp [hlast]
    | _ => simp [nested?]
  rw [path, List.cons_append, List.cons_append, List.nil_append, nested?, Option.bind_eq_some_iff]
  constructor
  · rintro ⟨u, hu, hv⟩
    obtain ⟨config, rfl, mail, hmail, hkey⟩ := (hmail u).mp hv
    exact ⟨config, mail, hu, hmail, hkey⟩
  · rintro ⟨config, mail, hconfig, hinner, hkey⟩
    exact ⟨.table config, hconfig, (hmail _).mpr ⟨config, rfl, mail, hinner, hkey⟩⟩

theorem holds_iff : Holds data key v ↔ held? data key = some v := by
  rw [held?, dotted_eq]
  constructor
  · intro h
    cases h with
    | dotted hdotted => rw [hdotted, Option.some_or]
    | nested hdotted hconfig hmail hkey =>
      rw [hdotted, Option.none_or, nested?_path_eq_some_iff]
      exact ⟨_, _, hconfig, hmail, hkey⟩
  · intro h
    cases hdotted : data.lookup ("config.mail." ++ key) with
    | some u =>
      rw [hdotted, Option.some_or] at h
      exact .dotted (hdotted.trans h)
    | none =>
      rw [hdotted, Option.none_or, nested?_path_eq_some_iff] at h
      obtain ⟨config, mail, hconfig, hmail, hkey⟩ := h
      exact .nested hdotted hconfig hmail hkey

/-! ## What a configuration depends on -/

/-- A configuration is read through its settings and in no other way. -/
theorem parse_congr (h : ∀ key ∈ settingKeys, setting? data' key = setting? data key) :
    parse data' = parse data := by
  have hread : ∀ {α : Type} {convert : String → Value → Except Failure α}, ∀ key ∈ settingKeys,
      read data' key convert = read data key convert := by
    intro α convert key hkey
    rw [read, read, h key hkey]
  have hat : ∀ host, endpointAt data' host = endpointAt data host := by
    intro host
    simp only [endpointAt, hread "port" (by decide), hread "tls" (by decide),
      hread "ssl" (by decide), hread "debug" (by decide), hread "username" (by decide),
      hread "password" (by decide)]
  simp only [parse, endpointOf, hat, hread "subject" (by decide), hread "from" (by decide),
    hread "host" (by decide)]

theorem ofTable_congr (h : ∀ key ∈ settingKeys, held? data' key = held? data key) :
    ofTable data' = ofTable data := by
  have hparse : parse data' = parse data := by
    apply parse_congr
    intro key hkey
    rw [setting?_eq, setting?_eq, h key hkey]
  rw [ofTable, ofTable, hparse]

/-! ## The settings gathered in one table -/

/-- The entries that a table holds for the settings. -/
def gathered (data : Table) : Table :=
  settingKeys.filterMap fun key ↦ (held? data key).map fun v ↦ (key, v)

theorem lookup_filterMap_keys (keys : List String) (f : String → Option Value) (key : String) :
    (keys.filterMap fun key ↦ (f key).map fun v ↦ (key, v)).lookup key
      = if key ∈ keys then f key else none := by
  induction keys with
  | nil => rfl
  | cons first rest ih =>
    rw [List.filterMap_cons]
    by_cases hkey : key = first
    · subst hkey
      rw [if_pos List.mem_cons_self]
      cases hf : f key with
      | some v => exact List.lookup_cons_self
      | none =>
        rw [Option.map_none]
        dsimp only
        rw [ih, hf, ite_self]
    · have hmem : key ∈ first :: rest ↔ key ∈ rest := by simp [hkey]
      simp only [hmem]
      rw [← ih]
      cases f first with
      | some v => exact (List.lookup_cons ..).trans (by rw [beq_false_of_ne hkey])
      | none => rfl

theorem lookup_gathered (data : Table) (key : String) :
    (gathered data).lookup key = if key ∈ settingKeys then held? data key else none :=
  lookup_filterMap_keys settingKeys (held? data) key

/-! ## Settings in both layouts -/

/-- Settings under dotted keys, and others in the nested tables. -/
def layered (flat inner : Table) : Table :=
  flat.map (fun entry ↦ (dotted entry.1, entry.2)) ++ nested inner

theorem dotted_injective : Function.Injective dotted := by
  intro key key' h
  rw [dotted_eq, dotted_eq] at h
  exact (String.append_right_inj _).mp h

/-- Entries are found under new keys as they were under the old ones. -/
theorem lookup_map_key {rename : String → String} (h : Function.Injective rename) (t : Table)
    (key : String) :
    (t.map fun entry ↦ (rename entry.1, entry.2)).lookup (rename key) = t.lookup key := by
  induction t with
  | nil => rfl
  | cons entry rest ih =>
    obtain ⟨other, v⟩ := entry
    rw [List.map_cons, List.lookup_cons, List.lookup_cons, ih]
    by_cases hkey : key = other
    · rw [hkey, beq_self_eq_true, beq_self_eq_true]
    · rw [beq_false_of_ne hkey, beq_false_of_ne (h.ne hkey)]

theorem lookup_config_dotted (flat : Table) :
    (flat.map fun entry ↦ (dotted entry.1, entry.2)).lookup "config" = none := by
  rw [List.lookup_eq_none_iff]
  intro entry hentry
  obtain ⟨setting, -, rfl⟩ := List.mem_map.mp hentry
  exact bne_iff_ne.mpr (dotted_ne_config setting.1).symm

/-- Of two entries for a setting, the one under the dotted key is held. -/
theorem held?_layered (flat inner : Table) (key : String) :
    held? (layered flat inner) key = (flat.lookup key).or (inner.lookup key) := by
  have hdotted : (layered flat inner).lookup (dotted key) = flat.lookup key := by
    rw [layered, List.lookup_append, lookup_map_key dotted_injective, lookup_dotted_nested,
      Option.or_none]
  have hconfig : (layered flat inner).lookup "config" = (nested inner).lookup "config" := by
    rw [layered, List.lookup_append, lookup_config_dotted, Option.none_or]
  have hinner : nested? (path ++ [key]) (.table (layered flat inner)) = inner.lookup key := by
    rw [← nested?_nested inner key, path, List.cons_append, nested?, nested?, hconfig]
  rw [held?, hdotted, hinner]

theorem held?_nested (settings : Table) (key : String) :
    held? (nested settings) key = settings.lookup key :=
  held?_layered [] settings key

theorem lookup_filter_or (t : Table) (select : String → Bool) (key : String) :
    ((t.filter fun entry ↦ select entry.1).lookup key).or
      ((t.filter fun entry ↦ !select entry.1).lookup key) = t.lookup key := by
  rw [lookup_filter t select, lookup_filter t fun key ↦ !select key]
  cases select key with
  | true => exact Option.or_none
  | false => exact Option.none_or

/-- **Layouts.** Reading any table comes to the same, in the configuration, its record or the error,
as reading its settings from the nested tables, where the entry under a dotted key is taken before
the nested one, even without a value. Tables that hold the same for the nine settings are read
alike, whatever else is in them. So where there are settings in both layouts, those under dotted
keys hide the others, and settings may be divided among the layouts in any way. -/
theorem layouts_interchangeable :
    (∀ data, (∀ key v, (gathered data).lookup key = some v ↔ key ∈ settingKeys ∧ Holds data key v) ∧
      ofTable (nested (gathered data)) = ofTable data) ∧
    (∀ data data', (∀ key ∈ settingKeys, ∀ v, Holds data' key v ↔ Holds data key v) →
      ofTable data' = ofTable data) ∧
    (∀ flat inner, ofTable (layered flat inner) = ofTable (nested (flattened flat inner))) ∧
    ∀ (settings : Table) (isDotted : String → Bool),
      ofTable (layered (settings.filter fun entry ↦ isDotted entry.1)
          (settings.filter fun entry ↦ !isDotted entry.1))
        = ofTable (nested settings) := by
  refine ⟨fun data ↦ ⟨fun key v ↦ ?_, ?_⟩, fun data data' h ↦ ?_, fun flat inner ↦ ?_,
    fun settings isDotted ↦ ?_⟩
  · rw [lookup_gathered, holds_iff]
    by_cases hkey : key ∈ settingKeys
    · rw [if_pos hkey, and_iff_right hkey]
    · rw [if_neg hkey]
      exact iff_of_false nofun fun h ↦ hkey h.1
  · apply ofTable_congr
    intro key hkey
    rw [held?_nested, lookup_gathered, if_pos hkey]
  · apply ofTable_congr
    intro key hkey
    ext v
    rw [← holds_iff, ← holds_iff, h key hkey v]
  · apply ofTable_congr
    intro key _
    rw [held?_layered, held?_nested, lookup_flattened]
  · apply ofTable_congr
    intro key _
    rw [held?_layered, held?_nested, lookup_filter_or]

/-- The host under its dotted key hides the nested one; the port is where it can be found. -/
example : (ofTable [("config.mail.host", .text "mx"), ("config", .table [("mail", .table [
      ("host", .text "hidden"), ("port", .int 587)])])]).result
    = .ok { endpoint := some { host := "mx", port := 587, origin := .system } } := by
  cbv

end MailDispatch.OperatorConfig
