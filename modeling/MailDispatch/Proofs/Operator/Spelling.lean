import MailDispatch.Proofs.Operator.Counterpart
import MailDispatch.Proofs.Setting.Spelling
import MailDispatch.Proofs.Task.Provenance

/-!
# Endpoints in typed and textual form

The settings of an endpoint may be typed values or texts that denote them. Both readers, the one for
the parameters of a task and the one for the operator's configuration, find the same endpoint
whichever of its settings are spelled out, and wherever they lie: among the secrets, on their own,
among the defaults, in nested tables or under dotted keys.
-/

namespace MailDispatch

open Decimal (numeral?)
open Setting (DenotesFlag DenotesInteger)

/-! ## Spellings -/

/-- A flag is given in some way, or it is left out and has its default. -/
def GivesFlag (gives : String → Option Value → Prop) (key : String) (default b : Bool) : Prop :=
  gives key none ∧ b = default ∨ ∃ v, gives key (some v) ∧ DenotesFlag b v

/-- The settings of an endpoint are given, where `gives` says what there is under a key. -/
structure Endpoint.IsGivenBy (e : Endpoint) (gives : String → Option Value → Prop) : Prop where
  host : gives "host" (some (.text e.host))
  port : ∃ v, gives "port" (some v) ∧ DenotesInteger e.port v
  startTls : GivesFlag gives "tls" true e.startTls
  ssl : GivesFlag gives "ssl" false e.ssl
  debug : GivesFlag gives "debug" false e.debug
  username : gives "username" (e.username.map .text)
  password : gives "password" (e.password.map .text)

/-- What there is for a task under a key: the secret, if the key is declared and there is one, or
else the plain parameter. -/
inductive TaskParameters.Gives (p : TaskParameters) (key : String) : Option Value → Prop
  | secret {v : Value} (hdeclared : p.access.allowsSecret key)
      (hanswer : p.secrets.answer key = .present v) : p.Gives key (some v)
  | plain {o : Option Value} (habsent : p.access.allowsSecret key → p.secrets.answer key = .absent)
      (hplain : HoldsPlain p.raw key o) : p.Gives key o

/-- The operator's settings are those of a configuration with an endpoint. -/
structure OperatorConfig.IsGivenBy (d : MailDefaults) (e : Endpoint) (data : Table) : Prop where
  subject : setting? data "subject" = d.subject.map .text
  sender : setting? data "from" = d.sender.map .text
  endpoint : e.IsGivenBy fun key o ↦ setting? data key = o

variable {e : Endpoint} {gives gives' : String → Option Value → Prop}

theorem GivesFlag.imp (himp : ∀ key o, gives key o → gives' key o) {key : String} {default b : Bool}
    (h : GivesFlag gives key default b) : GivesFlag gives' key default b := by
  rcases h with ⟨hunset, hb⟩ | ⟨v, hv, hb⟩
  · exact .inl ⟨himp _ _ hunset, hb⟩
  · exact .inr ⟨v, himp _ _ hv, hb⟩

theorem Endpoint.IsGivenBy.imp (himp : ∀ key o, gives key o → gives' key o)
    (h : e.IsGivenBy gives) : e.IsGivenBy gives' := by
  obtain ⟨port, hport, hdenotes⟩ := h.port
  exact ⟨himp _ _ h.host, ⟨port, himp _ _ hport, hdenotes⟩, h.startTls.imp himp, h.ssl.imp himp,
    h.debug.imp himp, himp _ _ h.username, himp _ _ h.password⟩

/-- The entries for an endpoint are its settings as typed values. -/
theorem Endpoint.isGivenBy_entries (e : Endpoint) : e.IsGivenBy fun key o ↦
    ((OperatorConfig.endpointEntries e).lookup key).bind Value.toOption = o where
  host := rfl
  port := ⟨.int e.port, rfl, .typed⟩
  startTls := .inr ⟨.bool e.startTls, rfl, .typed⟩
  ssl := .inr ⟨.bool e.ssl, rfl, .typed⟩
  debug := .inr ⟨.bool e.debug, rfl, .typed⟩
  username := by
    rw [OperatorConfig.lookup_username]
    cases e.username <;> rfl
  password := by
    rw [OperatorConfig.lookup_password]
    cases e.password <;> rfl

/-! ## The reader of a task -/

namespace TaskParameters

variable {p : TaskParameters} {key : String}

theorem Gives.of_plain {o : Option Value}
    (habsent : p.access.allowsSecret key → p.secrets.answer key = .absent)
    (h : p.plain? key = o) : p.Gives key o :=
  .plain habsent (holdsPlain_iff.mpr h)

/-- The entries for an endpoint, as parameters of a task. -/
theorem isGivenBy_entries (e : Endpoint) :
    e.IsGivenBy (Gives ⟨OperatorConfig.endpointEntries e, .ofTable [], .mail⟩) := by
  have hmail : (OperatorConfig.endpointEntries e).lookup defaultsKey = none := by
    simp [OperatorConfig.endpointEntries, List.lookup_append, OperatorConfig.lookup_entryOf,
      List.lookup_cons, defaultsKey]
  exact e.isGivenBy_entries.imp fun key o h ↦
    .of_plain (fun _ ↦ rfl) ((plain?_eq hmail key).trans h)

section Mail

variable (hp : p.access = .mail)

include hp

theorem result_get_of_gives {o : Option Value} (h : p.Gives key o)
    (hkey : AccessList.mail.allowsPlain key) : (p.get key).result = .ok o := by
  cases h with
  | secret hdeclared hanswer => exact result_get_of_present hdeclared hanswer
  | plain habsent hplain =>
    rw [result_get_of_absent habsent, allowedPlain?, hp, if_pos hkey, holdsPlain_iff.mp hplain]

/-- The password is put together from the secret and the plain one. -/
theorem password_of_gives {o : Option Value} (h : p.Gives "password" o) :
    ∃ secret, (p.get "password").result = .ok secret ∧ secret.or (p.plain? "password") = o := by
  cases h with
  | secret hdeclared hanswer => exact ⟨_, result_get_of_present hdeclared hanswer, Option.some_or⟩
  | plain habsent hplain =>
    refine ⟨none, ?_, holdsPlain_iff.mp hplain⟩
    rw [result_get_of_absent habsent, allowedPlain?, hp]
    rfl

theorem result_flag_of_gives {default b : Bool} (h : GivesFlag p.Gives key default b)
    (hkey : AccessList.mail.allowsPlain key) : (p.flag key default).result = .ok b := by
  unfold flag
  rcases h with ⟨hunset, rfl⟩ | ⟨v, hv, hb⟩
  · rw [Traced.result_bind_of_ok (result_get_of_gives hp hunset hkey), Traced.result_pure]
  · rw [Traced.result_bind_of_ok (result_get_of_gives hp hv hkey)]
    exact Setting.asFlag_of_denotes hb key

theorem result_endpointAt_of_gives (h : e.IsGivenBy p.Gives) :
    (p.endpointAt e.host).result = .ok { e with origin := .user } := by
  obtain ⟨port, hport, hdenotes⟩ := h.port
  obtain ⟨secret, hsecret, hchosen⟩ := password_of_gives hp h.password
  unfold endpointAt
  rw [Traced.result_bind_of_ok (result_get_of_gives hp hport rfl)]
  dsimp only
  rw [Traced.result_bind_of_ok (result_get_of_gives hp h.username rfl),
    Traced.result_bind_of_ok hsecret, Traced.result_bind_of_ok (result_plainPassword p), hchosen,
    Traced.result_bind_of_ok (Setting.asInteger_of_denotes hdenotes "port"),
    Traced.result_bind_of_ok (result_flag_of_gives hp h.startTls rfl),
    Traced.result_bind_of_ok (result_flag_of_gives hp h.ssl rfl),
    Traced.result_bind_of_ok (result_flag_of_gives hp h.debug rfl),
    Traced.result_bind_of_ok (textOrNone_eq_ok_iff.mpr rfl),
    Traced.result_bind_of_ok (textOrNone_eq_ok_iff.mpr rfl), Traced.result_pure]

/-- A task whose settings are those of an endpoint brings it along. -/
theorem result_endpoint?_of_gives (h : e.IsGivenBy p.Gives) :
    p.endpoint?.result = .ok (some { e with origin := .user }) := by
  have hhost : (liftM (Setting.asText "host" (.text e.host)) : Preparation String).result
      = .ok e.host := rfl
  unfold endpoint?
  rw [Traced.result_bind_of_ok (result_get_of_gives hp h.host rfl)]
  dsimp only
  rw [Traced.result_bind_of_ok hhost, Traced.result_bind_of_ok (result_endpointAt_of_gives hp h),
    Traced.result_pure]

end Mail

end TaskParameters

/-! ## The reader of the operator's configuration -/

namespace OperatorConfig

variable {data : Table} {d : MailDefaults} {key : String}

theorem read_flag_of_gives {default b : Bool}
    (h : GivesFlag (fun key o ↦ setting? data key = o) key default b) :
    ∃ o, read data key Setting.asFlag = .ok o ∧ o.getD default = b := by
  rcases h with ⟨hunset, rfl⟩ | ⟨v, hv, hb⟩
  · exact ⟨none, read_of_unset hunset, rfl⟩
  · exact ⟨some b, read_of_set hv (Setting.asFlag_of_denotes hb _), rfl⟩

/-- The entries for an endpoint, in the nested layout. -/
theorem isGivenBy_nested_entries (e : Endpoint) :
    e.IsGivenBy fun key o ↦ setting? (nested (endpointEntries e)) key = o :=
  e.isGivenBy_entries.imp fun key _ h ↦ (setting?_nested _ key).trans h

theorem endpointAt_of_isGivenBy (h : e.IsGivenBy fun key o ↦ setting? data key = o) :
    endpointAt data e.host = .ok { e with origin := .system } := by
  obtain ⟨v, hv, hdenotes⟩ := h.port
  have hport : read data "port" Setting.asInteger = .ok (some e.port) :=
    read_of_set hv (Setting.asInteger_of_denotes hdenotes _)
  obtain ⟨startTls, htls, hstartTls⟩ := read_flag_of_gives h.startTls
  obtain ⟨ssl, hssl, hssl'⟩ := read_flag_of_gives h.ssl
  obtain ⟨debug, hdebug, hdebug'⟩ := read_flag_of_gives h.debug
  simp only [endpointAt, hport, htls, hssl, hdebug, read_text_of_setting h.username,
    read_text_of_setting h.password, bind, Except.bind, hstartTls, hssl', hdebug']
  rfl

/-- A table with the settings of a configuration is parsed as it. -/
theorem parse_of_isGivenBy (h : IsGivenBy d e data) :
    parse data = .ok ⟨d, some { e with origin := .system }⟩ := by
  have hhost : read data "host" Setting.asText = .ok (some e.host) :=
    read_text_of_setting h.endpoint.host
  have hendpoint : endpointOf data = .ok (some { e with origin := .system }) := by
    simp only [endpointOf, hhost, endpointAt_of_isGivenBy h.endpoint, bind, Except.bind]
    rfl
  simp only [parse, read_text_of_setting h.subject, read_text_of_setting h.sender, hendpoint, bind,
    Except.bind]
  rfl

/-- Where the port can be written, so that the endpoint can be logged, the table is loaded. -/
theorem result_ofTable_of_isGivenBy (h : IsGivenBy d e data) (hport : (numeral? e.port).isSome) :
    (ofTable data).result = .ok ⟨d, some { e with origin := .system }⟩ := by
  obtain ⟨port, hn⟩ := Option.isSome_iff_exists.mp hport
  unfold ofTable
  rw [parse_of_isGivenBy h,
    Traced.result_bind_of_ok (rfl : (liftM _ : Preparation OperatorConfig).result = .ok _)]
  dsimp only
  have htext : ∃ shown, ({ e with origin := .system } : Endpoint).text = .ok shown := by
    rw [Endpoint.text, Endpoint.text?, hn]
    exact ⟨_, rfl⟩
  obtain ⟨shown, hshown⟩ := htext
  rw [hshown]
  rfl

end OperatorConfig

/-- **Spelling.** Any two tasks that are given the same settings of an endpoint, each of them typed
or as a text and from wherever the task takes it, bring along the same endpoint, which is the one
that was given. Any two configurations of the operator that are given the same settings are loaded
as the same one, with the same records. -/
theorem spelling_irrelevant {e : Endpoint} (hport : (Decimal.digits e.port.natAbs).length ≤ 4300) :
    (∀ (raw raw' : Table) (secrets secrets' : SecretStore),
      e.IsGivenBy (TaskParameters.Gives ⟨raw, secrets, .mail⟩) →
      e.IsGivenBy (TaskParameters.Gives ⟨raw', secrets', .mail⟩) →
      (TaskParameters.endpoint? ⟨raw, secrets, .mail⟩).result
        = .ok (some { e with origin := .user }) ∧
      (TaskParameters.endpoint? ⟨raw', secrets', .mail⟩).result
        = (TaskParameters.endpoint? ⟨raw, secrets, .mail⟩).result) ∧
    ∀ (d : MailDefaults) (data data' : Table),
      OperatorConfig.IsGivenBy d e data → OperatorConfig.IsGivenBy d e data' →
      (OperatorConfig.ofTable data).result = .ok ⟨d, some { e with origin := .system }⟩ ∧
      OperatorConfig.ofTable data' = OperatorConfig.ofTable data := by
  constructor
  · intro raw raw' secrets secrets' h h'
    have hresult := TaskParameters.result_endpoint?_of_gives rfl h
    exact ⟨hresult, (TaskParameters.result_endpoint?_of_gives rfl h').trans hresult.symm⟩
  · intro d data data' h h'
    have hwritable : (numeral? e.port).isSome :=
      Option.isSome_iff_exists.mpr ⟨_, Decimal.numeral?_eq_some_iff.mpr ⟨hport, rfl⟩⟩
    refine ⟨OperatorConfig.result_ofTable_of_isGivenBy h hwritable, ?_⟩
    rw [OperatorConfig.ofTable, OperatorConfig.ofTable, OperatorConfig.parse_of_isGivenBy h,
      OperatorConfig.parse_of_isGivenBy h']

/-- An endpoint, the settings of which are spelled out below. -/
private def smarthost : Endpoint :=
  { host := "mx", port := -25, startTls := false, ssl := true, username := some "ann",
    password := some "t0p" }

/-- Its settings among those of a task, partly texts with white space around them. -/
private def spelled : Table :=
  [("port", .text "\t-25\n"), ("tls", .text " oFF "),
    ("mail", .table [("username", .text "ann"), ("password", .text "plain")])]

/-- The secrets beside them. -/
private def spelledSecrets : Table :=
  [("host", .text "mx"), ("ssl", .text "YES\u3000"), ("password", .text "t0p")]

/-- Its settings under dotted keys. -/
private def dottedTable : Table :=
  [("config.mail.host", .text "mx"), ("config.mail.port", .text "-25"),
    ("config.mail.tls", .text "0"), ("config.mail.ssl", .text "On"),
    ("config.mail.username", .text "ann"), ("config.mail.password", .text "t0p")]

private theorem numeral?_smarthost : numeral? smarthost.port = some "-25" := by cbv

private theorem gives_spelled :
    smarthost.IsGivenBy (TaskParameters.Gives ⟨spelled, .ofTable spelledSecrets, .mail⟩) where
  host := .secret rfl rfl
  port := ⟨.text "\t-25\n", .of_plain (fun _ ↦ rfl) rfl,
    .textual numeral?_smarthost ⟨['\t'], ['\n'], rfl, rfl, rfl⟩⟩
  startTls := .inr ⟨.text " oFF ", .of_plain (fun _ ↦ rfl) rfl,
    .textual (by decide : "off" ∈ Setting.falseWords)
      (by decide : Setting.IsCasing ['o', 'f', 'f'] ['o', 'F', 'F']) ⟨[' '], [' '], rfl, rfl, rfl⟩⟩
  ssl := .inr ⟨.text "YES\u3000", .secret rfl rfl,
    .textual (by decide : "yes" ∈ Setting.trueWords)
      (by decide : Setting.IsCasing ['y', 'e', 's'] ['Y', 'E', 'S'])
      ⟨[], ['\u3000'], rfl, rfl, rfl⟩⟩
  debug := .inl ⟨.of_plain (fun h ↦ absurd h Bool.false_ne_true) rfl, rfl⟩
  username := .of_plain (fun _ ↦ rfl) rfl
  password := .secret rfl rfl

private theorem isGivenBy_dotted : OperatorConfig.IsGivenBy {} smarthost dottedTable where
  subject := by cbv
  sender := by cbv
  endpoint := {
    host := by cbv
    port := ⟨.text "-25", by cbv, .textual numeral?_smarthost ⟨[], [], rfl, rfl, rfl⟩⟩
    startTls := .inr ⟨.text "0", by cbv, .textual (by decide : "0" ∈ Setting.falseWords)
      (by decide : Setting.IsCasing ['0'] ['0']) ⟨[], [], rfl, rfl, rfl⟩⟩
    ssl := .inr ⟨.text "On", by cbv, .textual (by decide : "on" ∈ Setting.trueWords)
      (by decide : Setting.IsCasing ['o', 'n'] ['O', 'n']) ⟨[], [], rfl, rfl, rfl⟩⟩
    debug := .inl ⟨by cbv, rfl⟩
    username := by cbv
    password := by cbv }

/-- The spelled settings make the endpoint that the typed ones make, for a task and for the
operator. -/
theorem spelling_irrelevant_smarthost :
    (TaskParameters.endpoint? ⟨spelled, .ofTable spelledSecrets, .mail⟩).result
        = (TaskParameters.endpoint?
            ⟨OperatorConfig.endpointEntries smarthost, .ofTable [], .mail⟩).result ∧
      OperatorConfig.ofTable dottedTable = OperatorConfig.ofTable
        (OperatorConfig.nested (OperatorConfig.endpointEntries smarthost)) ∧
      (OperatorConfig.ofTable dottedTable).result
        = .ok ⟨{}, some { smarthost with origin := .system }⟩ := by
  have hport : (Decimal.digits smarthost.port.natAbs).length ≤ 4300 := by cbv
  have hnested : OperatorConfig.IsGivenBy {} smarthost
      (OperatorConfig.nested (OperatorConfig.endpointEntries smarthost)) :=
    ⟨by rw [OperatorConfig.setting?_nested]; rfl, by rw [OperatorConfig.setting?_nested]; rfl,
      OperatorConfig.isGivenBy_nested_entries smarthost⟩
  obtain ⟨htask, hoperator⟩ := spelling_irrelevant hport
  exact ⟨(htask _ _ _ _ (TaskParameters.isGivenBy_entries smarthost) gives_spelled).2,
    (hoperator {} _ _ hnested isGivenBy_dotted).2, (hoperator {} _ _ isGivenBy_dotted hnested).1⟩

end MailDispatch
