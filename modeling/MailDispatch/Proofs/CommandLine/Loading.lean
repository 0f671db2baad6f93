import MailDispatch.CommandLine.Command
import MailDispatch.Proofs.Operator.Loading

/-!
# What a command shows of a failure to load

A task whose configuration or parameters cannot be loaded is not begun: no secret is asked for and
the mail client is not called. The command says what is wrong with the file and ends with a status,
except for the failures of loading that escape: these take the place of the status.
-/

namespace MailDispatch.CommandLine

variable {c : Context} {s : Surroundings} {i : Invocation} {params : FilePath} {e : Failure}

/-! ## Log records and nothing else -/

/-- The note is a log record, and no question for a secret. -/
def IsLogged (n : Note) : Prop := ∃ r, n = .record r

theorem isLogged_log (source : Source) (level : Level) (text : String) :
    ∀ n ∈ (Preparation.log source level text).events, IsLogged n :=
  List.forall_mem_singleton.mpr ⟨_, rfl⟩

theorem isLogged_liftM {α : Type} (r : Except Failure α) :
    ∀ n ∈ (liftM r : Preparation α).events, IsLogged n :=
  List.forall_mem_nil _

theorem isLogged_ofTable (data : Table) :
    ∀ n ∈ (OperatorConfig.ofTable data).events, IsLogged n := by
  unfold OperatorConfig.ofTable
  refine Traced.forall_events_bind (isLogged_liftM _) fun config ↦ ?_
  cases config.endpoint with
  | none => exact List.forall_mem_nil _
  | some e =>
    refine Traced.forall_events_bind (isLogged_liftM _) fun shown ↦ ?_
    exact Traced.forall_events_bind (isLogged_log _ _ _) fun _ ↦ List.forall_mem_nil _

theorem isLogged_loadConfig (s : Surroundings) (given : Option FilePath) :
    ∀ n ∈ (s.loadConfig given).events, IsLogged n := by
  unfold Surroundings.loadConfig
  refine Traced.forall_events_bind (isLogged_liftM _) fun there ↦ ?_
  cases there with
  | true =>
    refine Traced.forall_events_bind (isLogged_liftM _) fun content ↦ ?_
    exact Traced.forall_events_bind (isLogged_liftM _) isLogged_ofTable
  | false => exact Traced.forall_events_bind (isLogged_log _ _ _) fun _ ↦ List.forall_mem_nil _

theorem isLogged_load (s : Surroundings) (i : Invocation) (params : FilePath) :
    ∀ n ∈ (load s i params).events, IsLogged n :=
  Traced.forall_events_bind (isLogged_loadConfig s i.config) fun _ ↦
    Traced.forall_events_bind (isLogged_liftM _) fun _ ↦ List.forall_mem_nil _

/-! ## Failures -/

/-- How loading the configuration and the parameters of a task fails other than by an error of the
file. The configuration is loaded first. -/
def LoadEscape (s : Surroundings) (i : Invocation) (params : FilePath) (e : Failure) : Prop :=
  s.ConfigEscape (s.configFileOr i.config) e ∨
    (∃ config, (s.loadConfig i.config).result = .ok config) ∧ s.TaskEscape params e

theorem result_load (s : Surroundings) (i : Invocation) (params : FilePath) :
    (load s i params).result = (s.loadConfig i.config).result.bind fun config ↦
      (s.loadTask params).map fun raw ↦ (config, raw) := by
  unfold load
  rw [Traced.result_bind]
  congr 1
  funext config
  rw [Traced.result_bind, Traced.result_monadLift]
  cases s.loadTask params <;> rfl

theorem load_eq_error_iff : (load s i params).result = .error e ↔
    (s.loadConfig i.config).result = .error e ∨
      (∃ config, (s.loadConfig i.config).result = .ok config) ∧ s.loadTask params = .error e := by
  rw [result_load, bind_eq_error_iff]
  simp only [map_eq_error_iff, exists_and_right]

theorem loadEscape_iff (s : Surroundings) (i : Invocation) (params : FilePath) (e : Failure) :
    (load s i params).result = .error e ∧ ¬e.IsConfigFile ↔ LoadEscape s i params e := by
  rw [load_eq_error_iff, LoadEscape, ← Surroundings.configEscape_iff,
    ← Surroundings.taskEscape_iff, or_and_right, and_assoc]

/-- A failure of loading that escapes is none about which anything is printed. -/
theorem LoadEscape.printFailure_eq (h : LoadEscape s i params e) :
    printFailure e = Activity.fail e := by
  have hunread : ∀ {content}, Surroundings.Unread content e → printFailure e = Activity.fail e := by
    intro content h
    cases h <;> rfl
  rcases h with h | ⟨-, h⟩
  · cases h with
    | unread _ h => exact hunread h
    | _ => rfl
  · cases h with
    | unread _ h => exact hunread h
    | nul _ => rfl

/-! ## The command -/

/-- The events of loading that are not dropped. -/
def loadEvents (c : Context) (i : Invocation) (params : FilePath) : List (Event Message) :=
  (load c.surroundings i params).events.filterMap (startSituation c i).event?

theorem exists_record_of_mem_loadEvents {event : Event Message}
    (h : event ∈ loadEvents c i params) : ∃ r, event = .note (.record r) := by
  obtain ⟨n, hn, hevent⟩ := List.mem_filterMap.mp h
  obtain ⟨r, rfl⟩ := isLogged_load c.surroundings i params n hn
  rw [Situation.event?] at hevent
  split at hevent
  · cases hevent
    exact ⟨r, rfl⟩
  · cases hevent

/-- A task that is not loaded is not begun. -/
theorem deliver_of_load_error (h : (load c.surroundings i params).result = .error e) :
    deliver c i params (startSituation c i) =
      ⟨.error e, startSituation c i, loadEvents c i params⟩ := by
  have hprepare : (Work.prepare (load c.surroundings i params) : Work Message _)
      (startSituation c i) = ⟨.error e, startSituation c i, loadEvents c i params⟩ := by
    rw [← h]
    rfl
  unfold deliver
  exact Activity.chain_of_error hprepare _

/-- What a command leaves behind that reports an error of a file. -/
def reported (c : Context) (i : Invocation) (params : FilePath) (text : String) :
    CommandOutcome where
  exit := .ok 1
  stderr := logLines c.time (loadEvents c i params) ++ ("Config error: " ++ text ++ "\n")
  events := loadEvents c i params
  surroundings := c.surroundings

/-- What a command leaves behind that a failure takes the status of. -/
def escaped (c : Context) (i : Invocation) (params : FilePath) (e : Failure) : CommandOutcome where
  exit := .error e
  stderr := logLines c.time (loadEvents c i params)
  events := loadEvents c i params
  surroundings := c.surroundings

theorem deliverOutcome_of_configFile {text : String}
    (h : (load c.surroundings i params).result = .error (.configFile text)) :
    deliverOutcome c i params = reported c i params text := by
  have hrescue : (deliver c i params).rescue printFailure (startSituation c i) =
      ⟨.ok { status := 1, stderr := "Config error: " ++ text ++ "\n" }, startSituation c i,
        loadEvents c i params ++ []⟩ := by
    rw [Activity.rescue, deliver_of_load_error h]
    rfl
  rw [List.append_nil] at hrescue
  simp only [deliverOutcome, hrescue]
  rfl

theorem deliverOutcome_of_loadEscape (h : LoadEscape c.surroundings i params e) :
    deliverOutcome c i params = escaped c i params e := by
  obtain ⟨hload, -⟩ := (loadEscape_iff _ _ _ _).mpr h
  have hrescue : (deliver c i params).rescue printFailure (startSituation c i) =
      ⟨.error e, startSituation c i, loadEvents c i params ++ []⟩ := by
    rw [Activity.rescue, deliver_of_load_error hload]
    simp only [h.printFailure_eq]
    rfl
  rw [List.append_nil] at hrescue
  simp only [deliverOutcome, hrescue]
  rfl

theorem run_eq_deliverOutcome {args : List String} (hparse : parse args = .ok i)
    (hpaths : i.paths = false) (hinit : i.initConfig = false) (hparams : i.params = some params) :
    run c args = deliverOutcome c i params := by
  rw [run, hparse]
  simp only [perform, hpaths, hinit, hparams, Bool.false_eq_true, if_false]

/-- **Failures of loading.** Loading a configuration or the parameters of a task fails by an error
of the file, or in one of the ways that are listed. A command whose files cannot be loaded asks for
no secret, calls no client and prints nothing but log records and the error of the file, with which
it ends in status 1, unless the failure is one of those listed: then it ends by that failure. -/
theorem loading_reported (c : Context) :
    (∀ given e, (c.surroundings.loadConfig given).result = .error e ∧ ¬e.IsConfigFile ↔
      c.surroundings.ConfigEscape (c.surroundings.configFileOr given) e) ∧
    (∀ p e, c.surroundings.loadTask p = .error e ∧ ¬e.IsConfigFile ↔
      c.surroundings.TaskEscape p e) ∧
    ∀ (args : List String) (i : Invocation) (params : FilePath),
      parse args = .ok i → i.paths = false → i.initConfig = false → i.params = some params →
      ((∃ e, (c.surroundings.loadConfig i.config).result = .error e) ∨
        ∃ e, c.surroundings.loadTask params = .error e) →
      (run c args).stdout = "" ∧
        (∀ event ∈ (run c args).events, ∃ r, event = .note (.record r)) ∧
        (∀ e, (run c args).exit = .error e ↔ LoadEscape c.surroundings i params e) ∧
        ((∀ e, ¬LoadEscape c.surroundings i params e) → ∃ text,
          (load c.surroundings i params).result = .error (.configFile text) ∧
            (run c args).exit = .ok 1 ∧ (run c args).stderr =
              logLines c.time (run c args).events ++ ("Config error: " ++ text ++ "\n")) := by
  refine ⟨Surroundings.configEscape_iff _, Surroundings.taskEscape_iff _, ?_⟩
  intro args i params hparse hpaths hinit hparams hfails
  have hload : ∃ e, (load c.surroundings i params).result = .error e := by
    cases hconfig : (c.surroundings.loadConfig i.config).result with
    | error e => exact ⟨e, load_eq_error_iff.mpr (.inl hconfig)⟩
    | ok config =>
      rcases hfails with ⟨e, he⟩ | ⟨e, he⟩
      · cases hconfig.symm.trans he
      · exact ⟨e, load_eq_error_iff.mpr (.inr ⟨⟨config, hconfig⟩, he⟩)⟩
  obtain ⟨e, he⟩ := hload
  rw [run_eq_deliverOutcome hparse hpaths hinit hparams]
  by_cases hfile : e.IsConfigFile
  · cases e with
    | configFile text =>
      have hno : ∀ e, ¬LoadEscape c.surroundings i params e := by
        intro e' hescape
        obtain ⟨he', hnot⟩ := (loadEscape_iff _ _ _ _).mpr hescape
        cases he.symm.trans he'
        exact hnot trivial
      rw [deliverOutcome_of_configFile he]
      refine ⟨rfl, fun _ ↦ exists_record_of_mem_loadEvents, fun e' ↦ ?_, fun _ ↦ ?_⟩
      · exact iff_of_false nofun (hno e')
      · exact ⟨text, he, rfl, rfl⟩
    | _ => exact hfile.elim
  · have hescape := (loadEscape_iff _ _ _ _).mp ⟨he, hfile⟩
    rw [deliverOutcome_of_loadEscape hescape]
    refine ⟨rfl, fun _ ↦ exists_record_of_mem_loadEvents, fun e' ↦ ⟨fun h ↦ ?_, fun h ↦ ?_⟩,
      fun hno ↦ absurd hescape (hno e)⟩
    · cases h
      exact hescape
    · obtain ⟨he', -⟩ := (loadEscape_iff _ _ _ _).mpr h
      cases he.symm.trans he'
      rfl

/-- A system with the parameters of a task in a file, and without a configuration. -/
def besides (content : List UInt8) : Context where
  surroundings := ⟨⟨[(["task.toml"], .file content)]⟩, [], ⟨.root, []⟩, none⟩
  write := Toml.write
  secrets := .ofTable []
  server := {}
  stamp := ⟨"now", "1", "here"⟩
  time := "now"

variable (content : List UInt8)

theorem loadConfig_besides :
    ((besides content).surroundings.loadConfig none).result = .ok {} := by
  have hreach : FileTree.reach ⟨[(["task.toml"], .file content)]⟩ []
      ⟨.root, [".config", "mailtask", "config.toml"]⟩ = .error .notFound := by cbv
  have hexists : (besides content).surroundings.pathExists
      ((besides content).surroundings.configFileOr none) = .ok false := by
    show Surroundings.pathExists _ ⟨.root, [".config", "mailtask", "config.toml"]⟩ = _
    rw [Surroundings.pathExists, if_neg (by decide), FileTree.status, besides, hreach]
    rfl
  rw [Surroundings.result_loadConfig, hexists]
  rfl

theorem read_besides :
    (besides content).surroundings.read (.ofText "task.toml") = .ok content := by
  have hreach : FileTree.reach ⟨[(["task.toml"], .file content)]⟩ [] (.ofText "task.toml") =
      .ok (.there ["task.toml"] (.file content)) := by cbv
  rw [Surroundings.read, if_neg (by decide), besides, FileTree.read_eq_ok_iff.mpr ⟨_, hreach⟩]
  rfl

theorem parse_task :
    parse ["task.toml"] = .ok { params := some (.ofText "task.toml") } := by
  cbv

variable {content}

private theorem load_besides (h : (besides content).surroundings.loadTask (.ofText "task.toml") =
    .error e) : (load (besides content).surroundings { params := some (.ofText "task.toml") }
      (.ofText "task.toml")).result = .error e :=
  load_eq_error_iff.mpr (.inr ⟨⟨{}, loadConfig_besides content⟩, h⟩)

private theorem loadTask_besides {document : List Char}
    (h : Toml.document document = .error .malformed) :
    (besides (Text.encode document)).surroundings.loadTask (.ofText "task.toml") =
      .error (.configFile "Invalid task parameters task.toml: <toml syntax error>") := by
  rw [Surroundings.loadTask, read_besides]
  show Surroundings.parseDocument _ _ = _
  rw [Surroundings.parseDocument, Text.decode_encode]
  simp only [h]
  rfl

/-- Parameters that are malformed are not loaded, and the command says so. -/
theorem loading_reported_malformed :
    parse ["task.toml"] = .ok { params := some (.ofText "task.toml") } ∧
      (∃ e, (besides (Text.encode "to = ".toList)).surroundings.loadTask (.ofText "task.toml") =
        .error e) ∧
      (run (besides (Text.encode "to = ".toList)) ["task.toml"]).exit = .ok 1 := by
  have hdocument : Toml.document "to = ".toList = .error .malformed := by cbv
  generalize "to = ".toList = document at hdocument ⊢
  have htask := loadTask_besides hdocument
  have hno : ∀ e, ¬LoadEscape (besides (Text.encode document)).surroundings
      { params := some (.ofText "task.toml") } (.ofText "task.toml") e := by
    intro e hescape
    obtain ⟨he, hfile⟩ := (loadEscape_iff _ _ _ _).mpr hescape
    cases (load_besides htask).symm.trans he
    exact hfile trivial
  obtain ⟨-, -, hrun⟩ := loading_reported (besides (Text.encode document))
  obtain ⟨-, -, -, hreported⟩ := hrun _ _ _ parse_task rfl rfl rfl (.inr ⟨_, htask⟩)
  obtain ⟨text, -, hexit, -⟩ := hreported hno
  exact ⟨parse_task, ⟨_, htask⟩, hexit⟩

private theorem exit_besides (h : Surroundings.Unread content e) :
    (besides content).surroundings.loadTask (.ofText "task.toml") = .error e ∧
      (run (besides content) ["task.toml"]).exit = .error e := by
  have hescape := Surroundings.TaskEscape.unread (read_besides content) h
  obtain ⟨htask, hfile⟩ := (Surroundings.taskEscape_iff _ _ _).mpr hescape
  refine ⟨htask, ?_⟩
  rw [run_eq_deliverOutcome parse_task rfl rfl rfl,
    deliverOutcome_of_loadEscape ((loadEscape_iff _ _ _ _).mp ⟨load_besides htask, hfile⟩)]
  rfl

/-- Parameters that are no text are no error of the file: they end the command. -/
theorem not_reported_undecodable :
    ∃ cause, (besides [0xff]).surroundings.loadTask (.ofText "task.toml") =
        .error (.undecodable cause) ∧
      (run (besides [0xff]) ["task.toml"]).exit = .error (.undecodable cause) := by
  have hdecode : Text.decode .utf8 [0xff] = .error ⟨.utf8, 0xff, 0, 1, .invalidStart⟩ := by cbv
  exact ⟨_, exit_besides (.of_decode hdecode)⟩

end MailDispatch.CommandLine
