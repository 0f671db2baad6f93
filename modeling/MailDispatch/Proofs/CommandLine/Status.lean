import MailDispatch.Proofs.CommandLine.Delivery
import MailDispatch.Proofs.CommandLine.Report
import MailDispatch.Proofs.Operator.File

/-!
# What the status of a command tells

A command that delivers a task ends in status 0 exactly if one message was handed over and the
server took it, and in status 1 exactly if a file could not be loaded or the delivery failed by a
report. What it prints agrees: the receipt of that delivery, or its report, which is read as what
there is to tell of the failure. A command that writes an empty configuration ends in status 0 only
if there was nothing to overwrite and what it wrote can be loaded, and with any other status it has
touched no file.
-/

namespace MailDispatch.CommandLine

variable {c : Context} {s s' : Surroundings} {i : Invocation} {params : FilePath} {e : Failure}
  {o : Outcome Situation (Event Message) Failure Receipt}

/-! ## What the status tells of a delivery -/

/-- What the status of a command that delivers a task tells, and what is printed along with it. -/
structure TellsDelivery (c : Context) (i : Invocation) (params : FilePath) (o : CommandOutcome) :
    Prop where
  /-- There are two statuses, unless a failure takes the place of the status. -/
  status : ∀ n, o.exit = .ok n → n = 0 ∨ n = 1
  /-- Whoever is called is called by the delivery: before it there are log records only. -/
  events : ∀ d, delivery c i params = .ok d → ∃ before, o.events = before ++ d.events ∧
    ∀ event ∈ before, ∃ r, event = .note (.record r)
  /-- If the server's goodbye fails, if at all, by a fault of the transport or of the operating
  system, the status is 0 exactly if one message was handed over and the server took it. -/
  sent : (∀ f, c.server.onQuit = .error f → f.family = .smtp ∨ f.family = .system) →
    (o.exit = .ok 0 ↔
      (handedOver (called o.events)).length = 1 ∧ c.server.Takes (called o.events))
  /-- Then the receipt of the delivery is printed, and nothing else. -/
  receipt : o.exit = .ok 0 → ∃ d receipt, delivery c i params = .ok d ∧ d.result = .ok receipt ∧
    o.stdout = "Sent " ++ receipt.messageId ++ " to " ++
      String.intercalate ", " receipt.recipients ++ " via " ++ receipt.endpoint ++ "\n"
  /-- The status is 1 exactly if a file cannot be loaded or the delivery fails by a report. -/
  failed : o.exit = .ok 1 ↔
    (∃ text, (load c.surroundings i params).result = .error (.configFile text)) ∨
      ∃ d f, delivery c i params = .ok d ∧ d.result = .error (.task f)
  /-- If a file cannot be loaded, nothing but log records is left: no secret is asked for and nobody
  is called. -/
  unloaded : ∀ text, (load c.surroundings i params).result = .error (.configFile text) →
    ∀ event ∈ o.events, ∃ r, event = .note (.record r)
  /-- If the delivery fails by a report, that is printed last, as a JSON text. -/
  reported : ∀ d f, delivery c i params = .ok d → d.result = .error (.task f) → o.stdout = "" ∧
    ∃ report, o.stderr = logLines c.time o.events ++ report ++ "\n" ∧
      Json.read report = some f.details

theorem tellsDelivery_of_configFile {text : String} (hd : delivery c i params = .error e)
    (hload : (load c.surroundings i params).result = .error (.configFile text)) :
    TellsDelivery c i params (ended c (loadEvents c i params) (printed (.configFile text))) where
  status n hn := by
    cases hn
    exact .inr rfl
  events d hd' := nomatch hd.symm.trans hd'
  sent _ := iff_of_false nofun (not_sent_of_loadEvents c i params)
  receipt := nofun
  failed := iff_of_true rfl (.inl ⟨text, hload⟩)
  unloaded _ _ _ := exists_record_of_mem_loadEvents
  reported d f hd' := nomatch hd.symm.trans hd'

theorem tellsDelivery_of_escape (hd : delivery c i params = .error e)
    (hload : ∀ text, (load c.surroundings i params).result ≠ .error (.configFile text)) :
    TellsDelivery c i params (ended c (loadEvents c i params) (.error e)) where
  status := nofun
  events d hd' := nomatch hd.symm.trans hd'
  sent _ := iff_of_false nofun (not_sent_of_loadEvents c i params)
  receipt := nofun
  failed := by
    refine iff_of_false nofun ?_
    rintro (⟨text, h⟩ | ⟨d, f, hd', -⟩)
    · exact hload text h
    · cases hd.symm.trans hd'
  unloaded text h := absurd h (hload text)
  reported d f hd' := nomatch hd.symm.trans hd'

/-- A command that comes to its delivery has loaded its files before, and does nothing after it. -/
theorem events_of_delivery {d : Outcome Situation (Event Message) Failure Receipt}
    (hd : delivery c i params = .ok o) (hd' : delivery c i params = .ok d)
    (r : Except Failure Printed) :
    ∃ before, (ended c (loadEvents c i params ++ o.events) r).events = before ++ d.events ∧
      ∀ event ∈ before, ∃ r, event = .note (.record r) := by
  cases hd.symm.trans hd'
  refine ⟨loadEvents c i params, ?_, fun _ ↦ exists_record_of_mem_loadEvents⟩
  cases r <;> rfl

theorem tellsDelivery_of_receipt {receipt : Receipt} (hd : delivery c i params = .ok o)
    (hr : o.result = .ok receipt) : TellsDelivery c i params
      (ended c (loadEvents c i params ++ o.events)
        (.ok { status := 0, stdout := receiptLine receipt })) where
  status n hn := by
    cases hn
    exact .inl rfl
  events d hd' := events_of_delivery hd hd' _
  sent hquit := iff_of_true rfl ((receipt_iff_sent hd hquit).mp ⟨receipt, hr⟩)
  receipt _ := ⟨o, receipt, hd, hr, rfl⟩
  failed := by
    refine iff_of_false nofun ?_
    rintro (⟨text, h⟩ | ⟨d, f, hd', hf⟩)
    · exact load_of_delivery hd text h
    · cases hd.symm.trans hd'
      cases hr.symm.trans hf
  unloaded text h := absurd h (load_of_delivery hd text)
  reported d f hd' hf := by
    cases hd.symm.trans hd'
    cases hr.symm.trans hf

theorem tellsDelivery_of_report {f : TaskFailure} (hd : delivery c i params = .ok o)
    (hr : o.result = .error (.task f)) : TellsDelivery c i params
      (ended c (loadEvents c i params ++ o.events) (printed (.task f))) where
  status n hn := by
    cases hn
    exact .inr rfl
  events d hd' := events_of_delivery hd hd' _
  sent hquit := iff_of_false nofun (not_sent_of_error hd hr hquit)
  receipt := nofun
  failed := iff_of_true rfl (.inr ⟨o, f, hd, hr⟩)
  unloaded text h := absurd h (load_of_delivery hd text)
  reported d f' hd' hf := by
    cases hd.symm.trans hd'
    cases hr.symm.trans hf
    exact ⟨rfl, failureReport f, (String.append_assoc ..).symm, f.read_failureReport⟩

theorem tellsDelivery_of_failure (hd : delivery c i params = .ok o) (hr : o.result = .error e)
    (he : ∀ f, e ≠ .task f) : TellsDelivery c i params
      (ended c (loadEvents c i params ++ o.events) (.error e)) where
  status := nofun
  events d hd' := events_of_delivery hd hd' _
  sent hquit := iff_of_false nofun (not_sent_of_error hd hr hquit)
  receipt := nofun
  failed := by
    refine iff_of_false nofun ?_
    rintro (⟨text, h⟩ | ⟨d, f, hd', hf⟩)
    · exact load_of_delivery hd text h
    · cases hd.symm.trans hd'
      cases hr.symm.trans hf
      exact he f rfl
  unloaded text h := absurd h (load_of_delivery hd text)
  reported d f hd' hf := by
    cases hd.symm.trans hd'
    cases hr.symm.trans hf
    exact absurd rfl (he f)

theorem tellsDelivery_deliverOutcome (c : Context) (i : Invocation) (params : FilePath) :
    TellsDelivery c i params (deliverOutcome c i params) := by
  cases hd : delivery c i params with
  | error e =>
    rw [deliverOutcome_of_error (deliver_of_delivery_error hd)]
    rcases printed_of_delivery_error hd with ⟨text, hload, rfl⟩ | ⟨hload, hprinted⟩
    · exact tellsDelivery_of_configFile hd hload
    · rw [hprinted]
      exact tellsDelivery_of_escape hd hload
  | ok o =>
    have hdeliver := deliver_of_delivery_ok hd
    cases hr : o.result with
    | ok receipt =>
      rw [hr] at hdeliver
      rw [deliverOutcome_of_ok hdeliver]
      exact tellsDelivery_of_receipt hd hr
    | error e =>
      rw [hr] at hdeliver
      rw [deliverOutcome_of_error hdeliver]
      obtain ⟨t, config, hcourse⟩ := course_of_delivery hd
      rw [hr] at hcourse
      have hfile := hcourse.not_isConfigFile
      cases e with
      | task f => exact tellsDelivery_of_report hd hr
      | configFile text => exact absurd trivial hfile
      | _ => exact tellsDelivery_of_failure hd hr nofun

/-! ## What the status tells of a configuration -/

/-- What the status of a command that writes an empty configuration tells. -/
structure TellsConfig (s : Surroundings) (given : Option FilePath) (o : CommandOutcome) : Prop where
  /-- The status is 0 only if the path led nowhere, and there is a file now from which an empty
  configuration is loaded. -/
  written : o.exit = .ok 0 →
    (∀ entry, s.tree.status s.current (s.configFileOr given) ≠ .ok entry) ∧
    (∃ content, o.surroundings.read (s.configFileOr given) = .ok content) ∧
    (o.surroundings.loadConfig (some (s.configFileOr given))).result = .ok {}
  /-- With any other status nothing has changed. -/
  unchanged : ∀ n, o.exit = .ok n → n ≠ 0 → o.surroundings = s

/-- An empty configuration that is written where there was nothing is loaded from there. -/
theorem tellsConfig_of_saved {write : Toml.Writer} (hwrite : write.FollowsToml)
    {given : Option FilePath} {o : CommandOutcome}
    (hthere : s.pathExists (s.configFileOr given) = .ok false)
    (hsave : s.saveConfig write {} (s.configFileOr given) = (s', .ok ())) (hexit : o.exit = .ok 0)
    (ho : o.surroundings = s') : TellsConfig s given o where
  written _ := by
    have hempty : OperatorConfig.IsRecordable {} := by
      intro e he
      cases he
    obtain ⟨-, hfile⟩ := Surroundings.saveConfig_eq_ok hsave
    obtain ⟨-, hnul, -⟩ := Surroundings.writeFile_eq_ok hfile
    rw [ho]
    refine ⟨fun entry hentry ↦ ?_, ⟨_, (Surroundings.read_of_writeFile hfile).2⟩, ?_⟩
    · cases hthere.symm.trans (Surroundings.pathExists_eq_true_iff.mpr ⟨hnul, entry, hentry⟩)
    · exact Surroundings.loadConfig_of_saveConfig hwrite hempty hsave
  unchanged n hn hne := absurd (Except.ok.inj (hn.symm.trans hexit)) hne

/-- A command that ends by a failure has no status that could tell anything. -/
theorem tellsConfig_of_error {given : Option FilePath} {o : CommandOutcome}
    (h : o.exit = .error e) : TellsConfig s given o where
  written h' := by cases h.symm.trans h'
  unchanged n h' := by cases h.symm.trans h'

/-- A command that writes a configuration prints what came of that. -/
theorem perform_of_init (c : Context) (hpaths : i.paths = false) (hinit : i.initConfig = true) :
    perform c i = match initConfig c.surroundings c.write i.config with
      | (s, .ok p) => printing { c with surroundings := s } p
      | (s, .error e) => { exit := .error e, surroundings := s } := by
  have hnot : ¬i.paths = true := by
    rw [hpaths]
    exact Bool.false_ne_true
  exact (if_neg hnot).trans (if_pos hinit)

theorem perform_of_saved (hpaths : i.paths = false) (hinit : i.initConfig = true)
    (hthere : c.surroundings.pathExists (c.surroundings.configFileOr i.config) = .ok false)
    (hsave : c.surroundings.saveConfig c.write {} (c.surroundings.configFileOr i.config)
      = (s', .ok ())) :
    perform c i = printing { c with surroundings := s' } {
      status := 0
      stdout := "Wrote " ++ (c.surroundings.configFileOr i.config).text ++ "\n" } := by
  rw [perform_of_init c hpaths hinit, initConfig, hthere]
  simp only [hsave]
  rfl

theorem tellsConfig_perform (c : Context) (hpaths : i.paths = false) (hinit : i.initConfig = true)
    (hwrite : c.write.FollowsToml) : TellsConfig c.surroundings i.config (perform c i) := by
  cases hthere : c.surroundings.pathExists (c.surroundings.configFileOr i.config) with
  | error e =>
    rw [perform_of_init c hpaths hinit, initConfig, hthere]
    exact tellsConfig_of_error rfl
  | ok there =>
    cases there with
    | true =>
      rw [perform_of_init c hpaths hinit, initConfig, hthere]
      refine ⟨fun h ↦ ?_, fun _ _ _ ↦ rfl⟩
      cases h
    | false =>
      rcases hsave : c.surroundings.saveConfig c.write {} (c.surroundings.configFileOr i.config)
        with ⟨s, r⟩
      cases r with
      | error e =>
        rw [perform_of_init c hpaths hinit, initConfig, hthere]
        simp only [hsave]
        exact tellsConfig_of_error rfl
      | ok u =>
        rw [perform_of_saved hpaths hinit hthere hsave]
        exact tellsConfig_of_saved hwrite hthere hsave rfl rfl

/-! ## All commands -/

/-- A command line that asks for nothing else names the file with its parameters. -/
theorem exists_params {args : List String} (hparse : parse args = .ok i) (hpaths : i.paths = false)
    (hinit : i.initConfig = false) : ∃ params, i.params = some params := by
  rw [parse] at hparse
  split at hparse
  · cases hparse
  obtain ⟨p, -, hconclude⟩ := bind_eq_ok hparse
  rw [conclude] at hconclude
  split at hconclude
  · cases hconclude
  split at hconclude
  · cases hconclude
  · next hparams =>
    cases hconclude
    cases h : p.invocation.params with
    | some params => exact ⟨params, rfl⟩
    | none => simp [h, hpaths, hinit] at hparams

/-- **Statuses.** Unless the paths are asked for, a command that returns tells by its status, and by
what it prints, what became of the task that it was to deliver, or of the configuration that it was
to write. -/
theorem status_tells (c : Context) {args : List String} (hparse : parse args = .ok i)
    (hpaths : i.paths = false) :
    (i.initConfig = false → ∃ params, i.params = some params ∧
      TellsDelivery c i params (run c args)) ∧
    (i.initConfig = true → c.write.FollowsToml →
      TellsConfig c.surroundings i.config (run c args)) := by
  refine ⟨fun hinit ↦ ?_, fun hinit hwrite ↦ ?_⟩
  · obtain ⟨params, hparams⟩ := exists_params hparse hpaths hinit
    rw [run_eq_deliverOutcome hparse hpaths hinit hparams]
    exact ⟨params, hparams, tellsDelivery_deliverOutcome c i params⟩
  · rw [run, hparse]
    exact tellsConfig_perform c hpaths hinit hwrite

/-- A task that brings along all that a mail needs. -/
private def letterText : String :=
  "host = \"mx\"\nport = 25\nto = \"b@c\"\nfrom = \"a@b\"\nsubject = \"x\"\nbody = \"y\""

private def letterTable : Table :=
  [("host", .text "mx"), ("port", .int 25), ("to", .text "b@c"), ("from", .text "a@b"),
    ("subject", .text "x"), ("body", .text "y")]

/-- A system with the task, and a server that takes messages and hangs up when told goodbye. -/
private def posting : Context :=
  { besides (Text.encode letterText.toList) with
    server := { onQuit := .error ⟨"SMTPServerDisconnected", "gone", .smtp⟩ } }

private theorem load_posting :
    (load posting.surroundings { params := some (.ofText "task.toml") }
      (.ofText "task.toml")).result = .ok ({}, letterTable) := by
  have hdocument : Toml.document letterText.toList = .ok letterTable := by
    unfold letterText letterTable
    cbv
  rw [result_load, posting, loadConfig_besides, Surroundings.loadTask, read_besides]
  show (Surroundings.parseDocument _ _).map _ = _
  rw [Surroundings.parseDocument_encode hdocument]
  rfl

private theorem exists_delivery_posting : ∃ d,
    delivery posting { params := some (.ofText "task.toml") } (.ofText "task.toml") = .ok d ∧
      ∃ message, handedOver (called d.events) = [message] := by
  have hworkspace : Workspace.ofPath posting.surroundings.tree posting.surroundings.current
      (Invocation.workspaceFor { params := some (.ofText "task.toml") } (.ofText "task.toml"))
        = .ok ⟨posting.surroundings.tree, []⟩ := by
    generalize posting.surroundings.tree = tree
    cbv
  refine ⟨Delivery.run ⟨letterTable, posting.secrets, ⟨posting.surroundings.tree, []⟩⟩ {}
    posting.server posting.stamp { thresholds := ⟨Level.info.rank, 0⟩ }, ?_,
    List.length_eq_one_iff.mp ?_⟩
  · rw [delivery, load_posting]
    show (Workspace.ofPath _ _ _).map _ = _
    rw [hworkspace]
    rfl
  · generalize posting.surroundings.tree = tree
    cbv

/-- A configuration that is not the usual one is written into the current directory. -/
private theorem exit_init : parse ["--init-config", "--config", "mail.toml"]
      = .ok { initConfig := true, config := some (.ofText "mail.toml") } ∧
    (run posting ["--init-config", "--config", "mail.toml"]).exit = .ok 0 := by
  have hparse : parse ["--init-config", "--config", "mail.toml"]
      = .ok { initConfig := true, config := some (.ofText "mail.toml") } := by cbv
  have hreach : posting.surroundings.tree.reach [] (.ofText "mail.toml")
      = .ok (.missing ["mail.toml"]) := by
    rw [posting, besides]
    generalize Text.encode letterText.toList = content
    cbv
  have hdir : posting.surroundings.tree.isDirectory [] ⟨.current, []⟩ = true := by cbv
  have hthere : posting.surroundings.pathExists (.ofText "mail.toml") = .ok false := by
    rw [Surroundings.pathExists, if_neg (by decide), FileTree.status,
      show posting.surroundings.current = [] from rfl, hreach]
    rfl
  obtain ⟨s, hfile⟩ := Surroundings.exists_writeFile_of_missing (by decide) (by decide) hdir
    (by decide) hreach (Text.encode (Toml.write ({} : OperatorConfig).toTable).text)
  have hsave := Surroundings.saveConfig_of_writeFile (by cbv) hfile
  refine ⟨hparse, ?_⟩
  rw [run, hparse]
  exact congrArg CommandOutcome.exit (perform_of_saved rfl rfl hthere hsave)

/-- The task is delivered, although the goodbye fails, and an empty configuration is written. -/
theorem status_tells_posting :
    (parse ["task.toml"] = .ok { params := some (.ofText "task.toml") } ∧
      (∀ f, posting.server.onQuit = .error f → f.family = .smtp ∨ f.family = .system) ∧
      (run posting ["task.toml"]).exit = .ok 0) ∧
    parse ["--init-config", "--config", "mail.toml"] = .ok { initConfig := true, config := some (.ofText "mail.toml") } ∧ posting.write.FollowsToml ∧
      (run posting ["--init-config", "--config", "mail.toml"]).exit = .ok 0 ∧
      ((run posting ["--init-config", "--config", "mail.toml"]).surroundings.loadConfig
        (some (.ofText "mail.toml"))).result = .ok {} := by
  have hquit : ∀ f, posting.server.onQuit = .error f → f.family = .smtp ∨ f.family = .system := by
    intro f hf
    cases hf
    exact .inl rfl
  obtain ⟨hparse, hexit⟩ := exit_init
  have hwrite : posting.write.FollowsToml := Toml.followsToml_write
  refine ⟨⟨parse_task, hquit, ?_⟩, hparse, hwrite, hexit,
    (((status_tells posting hparse rfl).2 rfl hwrite).written hexit).2.2⟩
  obtain ⟨params, hparams, htells⟩ := (status_tells posting parse_task rfl).1 rfl
  cases hparams
  obtain ⟨d, hd, message, hone⟩ := exists_delivery_posting
  obtain ⟨before, hevents, hbefore⟩ := htells.events d hd
  have hsame : handedOver (called (run posting ["task.toml"]).events) = [message] := by
    rw [hevents, called_append, called_eq_nil hbefore, List.nil_append, hone]
  refine (htells.sent hquit).mpr ⟨congrArg List.length hsame, ?_⟩
  rw [Delivery.takes_iff_of_singleton hsame]
  exact ⟨{}, rfl⟩

end MailDispatch.CommandLine
