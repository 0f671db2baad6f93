import MailDispatch.Operator.File
import MailDispatch.Proofs.FileTree.Resolution
import MailDispatch.Proofs.Task.Failures
import MailDispatch.Proofs.Text.Utf8

/-!
# How loading fails

Loading the operator's configuration or the parameters of a task is meant to fail in one way only,
by an error of the file. Whether it does depends on what there is at the path. Such an error stands
for a malformed document and for settings that are unusable, and with the parameters of a task for a
file that cannot be opened. What is left is listed here case by case: these failures escape.
-/

namespace MailDispatch

/-- The failure is an error of a configuration file or of a file with parameters. -/
def Failure.IsConfigFile : Failure → Prop
  | .configFile _ => True
  | _ => False

/-! ## Settings -/

namespace OperatorConfig

variable {writable : Prop} {data : Table} {key : String}

theorem isWritable_of_nested? {keys : List String} {v u : Value} (h : v.IsWritable)
    (hu : nested? keys v = some u) : u.IsWritable := by
  induction keys generalizing v with
  | nil =>
    cases hu
    exact h
  | cons key keys ih =>
    cases v with
    | table t =>
      obtain ⟨inner, hinner, hu⟩ := Option.bind_eq_some_iff.mp hu
      exact ih (h.lookup hinner) hu
    | _ => cases hu

theorem writableIf_setting? (h : writable → (Value.table data).IsWritable) :
    WritableIf writable (setting? data key) := by
  intro v hv hw
  obtain ⟨u, hu, huv⟩ := Option.bind_eq_some_iff.mp hv
  have hu' : u.IsWritable := by
    split at hu
    · next hlookup =>
      cases hu
      exact (h hw).lookup hlookup
    · exact isWritable_of_nested? (h hw) hu
  exact TaskParameters.writableIf_toOption (fun _ ↦ hu') v huv hw

theorem endsIn_read {α : Type} {post : α → Prop} {convert : String → Value → Except Failure α}
    (h : writable → (Value.table data).IsWritable)
    (hconvert : ∀ v, (writable → v.IsWritable) →
      EndsIn post (Unusable writable) (convert (dotted key) v)) :
    EndsIn (fun o ↦ ∀ a, o = some a → post a) (Unusable writable) (read data key convert) := by
  rw [read]
  cases hv : setting? data key with
  | none => exact nofun
  | some v =>
    refine (hconvert v (writableIf_setting? h v hv)).map fun a ha ↦ ?_
    rintro _ ⟨⟩
    exact ha

theorem endsIn_endpointAt (h : writable → (Value.table data).IsWritable) (host : String) :
    EndsIn (PortIf writable) (Unusable writable) (endpointAt data host) := by
  have hflag : ∀ key, EndsIn (fun _ ↦ True) (Unusable writable) (read data key Setting.asFlag) :=
    fun _ ↦ (endsIn_read h fun _ ↦ Setting.endsIn_asFlag).weaken (fun _ _ ↦ trivial) fun _ ↦ id
  have htext : ∀ key, EndsIn (fun _ ↦ True) (Unusable writable) (read data key Setting.asText) :=
    fun _ ↦ (endsIn_read h fun _ _ ↦ Setting.endsIn_asText).weaken (fun _ _ ↦ trivial) fun _ ↦ id
  unfold endpointAt
  refine (endsIn_read h fun _ ↦ Setting.endsIn_asInteger).bind fun port hport ↦ ?_
  cases port with
  | none => trivial
  | some n =>
    refine (hflag _).bind fun _ _ ↦ (hflag _).bind fun _ _ ↦ (hflag _).bind fun _ _ ↦ ?_
    exact (htext _).bind fun _ _ ↦ (htext _).bind fun _ _ ↦ hport n rfl

theorem endsIn_endpointOf (h : writable → (Value.table data).IsWritable) :
    EndsIn (fun o ↦ ∀ e, o = some e → PortIf writable e) (Unusable writable)
      (endpointOf data) := by
  unfold endpointOf
  refine (endsIn_read h fun _ _ ↦ Setting.endsIn_asText).bind fun host _ ↦ ?_
  cases host with
  | none => exact nofun
  | some host =>
    refine (endsIn_endpointAt h host).bind fun e he ↦ ?_
    rintro _ ⟨⟩
    exact he

theorem endsIn_parse (h : writable → (Value.table data).IsWritable) :
    EndsIn (fun c ↦ ∀ e, c.endpoint = some e → PortIf writable e) (Unusable writable)
      (parse data) := by
  unfold parse
  refine (endsIn_read h fun _ _ ↦ Setting.endsIn_asText).bind fun _ _ ↦ ?_
  refine (endsIn_read h fun _ _ ↦ Setting.endsIn_asText).bind fun _ _ ↦ ?_
  exact (endsIn_endpointOf h).bind fun _ he ↦ he

/-- Settings are unusable by an error of the file, unless they hold an integer that is too long to
be written. -/
theorem endsIn_ofTable (h : writable → (Value.table data).IsWritable) :
    EndsIn (fun _ ↦ True) (fun e ↦ e.IsConfigFile ∨ e = .longInteger ∧ ¬writable)
      (ofTable data).result := by
  have hunusable : ∀ e, Unusable writable e →
      (asFileError e).IsConfigFile ∨ asFileError e = .longInteger ∧ ¬writable := by
    intro e he
    cases e with
    | configuration _ => exact .inl trivial
    | longInteger => exact .inr ⟨rfl, he⟩
    | _ => exact he.elim
  unfold ofTable
  refine Traced.endsIn_bind ((endsIn_parse h).mapError hunusable) fun c hc ↦ ?_
  split
  · trivial
  · next e he =>
    have htext : EndsIn (fun _ ↦ True) (fun f ↦ f.IsConfigFile ∨ f = .longInteger ∧ ¬writable)
        e.text := by
      rw [Endpoint.text, Endpoint.text?]
      cases hport : Decimal.numeral? e.port with
      | some port => trivial
      | none =>
        refine .inr ⟨rfl, fun hw ↦ ?_⟩
        have hsome := hc e he hw
        rw [hport] at hsome
        cases hsome
    exact Traced.endsIn_bind htext fun _ _ ↦ trivial

end OperatorConfig

namespace Surroundings

variable {s : Surroundings} {given : Option FilePath} {p : FilePath} {what : String}
  {content : List UInt8} {data : Table} {e : Failure}

/-! ## Documents -/

/-- Why the content of a file is not read as a document, other than by being malformed. -/
inductive Unread (content : List UInt8) : Failure → Prop
  /-- It is no text in UTF-8. -/
  | undecodable {cause : Text.DecodeError} (hno : ∀ text, content ≠ Text.encode text)
    (h : Text.decode .utf8 content = .error cause) : Unread content (.undecodable cause)
  /-- It holds a decimal integer with too many digits. -/
  | longNumeral {text : List Char} {digits : Nat} (htext : content = Text.encode text)
    (h : Toml.document text = .error (.longNumeral digits)) :
    Unread content (.longNumeral digits)
  | tooDeep {text : List Char} (htext : content = Text.encode text)
    (h : Toml.document text = .error .tooDeep) : Unread content .tooDeep

theorem Unread.of_decode {cause : Text.DecodeError}
    (h : Text.decode .utf8 content = .error cause) : Unread content (.undecodable cause) := by
  refine .undecodable (fun text htext ↦ ?_) h
  cases h.symm.trans (Text.decode_eq_ok_iff.mpr htext)

theorem Unread.not_isConfigFile (h : Unread content e) : ¬e.IsConfigFile := by
  cases h <;> exact id

theorem Unread.parseDocument (h : Unread content e) (what : String) :
    parseDocument what content = .error e := by
  cases h with
  | undecodable _ h => rw [Surroundings.parseDocument, h]
  | longNumeral htext h =>
    rw [Surroundings.parseDocument, htext, Text.decode_encode]
    simp only [h]
  | tooDeep htext h =>
    rw [Surroundings.parseDocument, htext, Text.decode_encode]
    simp only [h]

theorem unread_of_parseDocument (h : parseDocument what content = .error e)
    (he : ¬e.IsConfigFile) : Unread content e := by
  rw [parseDocument] at h
  split at h
  · next hcause =>
    cases h
    exact .of_decode hcause
  · next text htext =>
    split at h
    · cases h
    · cases h
      exact absurd trivial he
    · next hdocument =>
      cases h
      exact .longNumeral (Text.decode_eq_ok_iff.mp htext) hdocument
    · next hdocument =>
      cases h
      exact .tooDeep (Text.decode_eq_ok_iff.mp htext) hdocument

/-! ## The parameters of a task -/

/-- How loading the parameters of a task fails other than by an error of the file. -/
inductive TaskEscape (s : Surroundings) (p : FilePath) : Failure → Prop
  | nul (h : p.hasNul) : TaskEscape s p .nulInPath
  | unread {content : List UInt8} {e : Failure} (hread : s.read p = .ok content)
    (h : Unread content e) : TaskEscape s p e

theorem taskEscape_iff (s : Surroundings) (p : FilePath) (e : Failure) :
    s.loadTask p = .error e ∧ ¬e.IsConfigFile ↔ s.TaskEscape p e := by
  constructor
  · rintro ⟨h, he⟩
    rw [loadTask, bind_eq_error_iff, mapError_eq_error_iff] at h
    rcases h with ⟨cause, hread, rfl⟩ | ⟨content, hread, hparse⟩
    · rw [read] at hread
      split at hread
      · next hnul =>
        cases hread
        exact .nul hnul
      · -- a file that cannot be opened is an error of the file
        obtain ⟨fault, -, rfl⟩ := mapError_eq_error_iff.mp hread
        exact absurd trivial he
    · exact .unread (mapError_eq_ok_iff.mp hread) (unread_of_parseDocument hparse he)
  · intro h
    cases h with
    | nul h =>
      rw [loadTask, read, if_pos h]
      exact ⟨rfl, id⟩
    | unread hread h =>
      rw [loadTask, hread]
      exact ⟨h.parseDocument _, h.not_isConfigFile⟩

/-! ## Whether there is a configuration -/

/-- Looking for a file fails only if a name on the way, or the path, is too long. -/
theorem pathExists_eq_error_iff : s.pathExists p = .error e ↔
    p.hasNul = false ∧ s.tree.status s.current p = .error .nameTooLong ∧
      e = .file ⟨.nameTooLong, p.text⟩ := by
  rw [pathExists]
  cases p.hasNul with
  | true => exact iff_of_false nofun nofun
  | false =>
    cases hstatus : s.tree.status s.current p with
    | ok entry => exact iff_of_false nofun nofun
    | error fault =>
      have hfault := FileTree.fault_of_status hstatus
      fin_cases hfault
      · exact iff_of_false nofun nofun
      · exact iff_of_false nofun nofun
      · exact ⟨fun h ↦ ⟨rfl, rfl, (Except.error.inj h).symm⟩, fun h ↦ by rw [h.2.2]; rfl⟩
      · exact iff_of_false nofun nofun

theorem pathExists_eq_true_iff : s.pathExists p = .ok true ↔
    p.hasNul = false ∧ ∃ entry, s.tree.status s.current p = .ok entry := by
  rw [pathExists]
  cases p.hasNul with
  | true => exact iff_of_false nofun nofun
  | false =>
    cases hstatus : s.tree.status s.current p with
    | ok entry => exact iff_of_true rfl ⟨rfl, entry, rfl⟩
    | error fault => cases fault <;> exact iff_of_false nofun nofun

/-! ## The operator's configuration -/

/-- How loading the configuration in a file fails other than by an error of the file. -/
inductive ConfigEscape (s : Surroundings) (p : FilePath) : Failure → Prop
  | nameTooLong (hnul : p.hasNul = false)
    (h : s.tree.status s.current p = .error .nameTooLong) :
    ConfigEscape s p (.file ⟨.nameTooLong, p.text⟩)
  | noFile {entry : Entry} (hnul : p.hasNul = false)
    (hentry : s.tree.status s.current p = .ok entry) (h : ∀ content, entry ≠ .file content) :
    ConfigEscape s p (.file ⟨.isDirectory, p.text⟩)
  | unread {content : List UInt8} {e : Failure} (hread : s.read p = .ok content)
    (h : Unread content e) : ConfigEscape s p e
  /-- The settings hold an integer that is too long to be shown. -/
  | unwritable {text : List Char} {data : Table} (hread : s.read p = .ok (Text.encode text))
    (hdata : Toml.document text = .ok data) (hlong : ¬(Value.table data).IsWritable)
    (h : (OperatorConfig.ofTable data).result = .error .longInteger) :
    ConfigEscape s p .longInteger

/-- What is read of a path that leads somewhere. -/
theorem read_of_status {entry : Entry} (hnul : p.hasNul = false)
    (h : s.tree.status s.current p = .ok entry) :
    (∃ content, entry = .file content ∧ s.read p = .ok content) ∨
      (∀ content, entry ≠ .file content) ∧ s.read p = .error (.file ⟨.isDirectory, p.text⟩) := by
  rw [read, if_neg (by rw [hnul]; exact Bool.false_ne_true), FileTree.read, h]
  cases entry with
  | file content => exact .inl ⟨content, rfl, rfl⟩
  | _ =>
    refine .inr ⟨?_, rfl⟩
    intro content hfile
    cases hfile

theorem pathExists_of_read (h : s.read p = .ok content) : s.pathExists p = .ok true := by
  rw [read] at h
  split at h
  · cases h
  · next hnul =>
    refine pathExists_eq_true_iff.mpr ⟨Bool.not_eq_true _ ▸ hnul, ?_⟩
    rw [FileTree.read] at h
    cases hstatus : s.tree.status s.current p with
    | ok entry => exact ⟨entry, rfl⟩
    | error fault => rw [hstatus] at h; cases h

theorem parseDocument_eq_ok (h : parseDocument what content = .ok data) :
    ∃ text, content = Text.encode text ∧ Toml.document text = .ok data := by
  rw [parseDocument] at h
  split at h
  · cases h
  · next text htext =>
    split at h
    · next hdocument =>
      cases h
      exact ⟨text, Text.decode_eq_ok_iff.mp htext, hdocument⟩
    all_goals cases h

theorem parseDocument_encode {text : List Char} (h : Toml.document text = .ok data)
    (what : String) : parseDocument what (Text.encode text) = .ok data := by
  rw [parseDocument, Text.decode_encode]
  simp only [h]

/-- Where there is no configuration, none is read. -/
theorem result_loadConfig (s : Surroundings) (given : Option FilePath) :
    (s.loadConfig given).result = (s.pathExists (s.configFileOr given)).bind fun there ↦
      if there then (s.read (s.configFileOr given)).bind fun content ↦
        (parseDocument ("Invalid config file " ++ (s.configFileOr given).text) content).bind
          fun data ↦ (OperatorConfig.ofTable data).result
      else .ok {} := by
  unfold loadConfig
  rw [Traced.result_bind, Traced.result_monadLift]
  congr 1
  funext there
  cases there with
  | false => rfl
  | true => simp only [if_true, Traced.result_bind, Traced.result_monadLift]

theorem result_loadConfig_of_exists (h : s.pathExists (s.configFileOr given) = .ok true) :
    (s.loadConfig given).result = (s.read (s.configFileOr given)).bind fun content ↦
      (parseDocument ("Invalid config file " ++ (s.configFileOr given).text) content).bind
        fun data ↦ (OperatorConfig.ofTable data).result := by
  rw [result_loadConfig, h]
  rfl

/-- What is read of a configuration that is there. -/
theorem result_loadConfig_of_read (h : s.read (s.configFileOr given) = .ok content) :
    (s.loadConfig given).result =
      (parseDocument ("Invalid config file " ++ (s.configFileOr given).text) content).bind
        fun data ↦ (OperatorConfig.ofTable data).result := by
  rw [result_loadConfig_of_exists (pathExists_of_read h), h]
  rfl

theorem ConfigEscape.result_loadConfig (h : s.ConfigEscape (s.configFileOr given) e) :
    (s.loadConfig given).result = .error e ∧ ¬e.IsConfigFile := by
  cases h with
  | nameTooLong hnul h =>
    rw [Surroundings.result_loadConfig, pathExists_eq_error_iff.mpr ⟨hnul, h, rfl⟩]
    exact ⟨rfl, id⟩
  | noFile hnul hentry hno =>
    rw [result_loadConfig_of_exists (pathExists_eq_true_iff.mpr ⟨hnul, _, hentry⟩)]
    rcases read_of_status hnul hentry with ⟨content, hfile, -⟩ | ⟨-, hread⟩
    · exact absurd hfile (hno content)
    · rw [hread]
      exact ⟨rfl, id⟩
  | unread hread h =>
    rw [result_loadConfig_of_read hread, h.parseDocument]
    exact ⟨rfl, h.not_isConfigFile⟩
  | unwritable hread hdata _ h =>
    rw [result_loadConfig_of_read hread, parseDocument_encode hdata]
    exact ⟨h, id⟩

/-- A configuration whose content was read fails to load as a document, or by its settings. -/
theorem configEscape_of_read (hread : s.read (s.configFileOr given) = .ok content)
    (h : (s.loadConfig given).result = .error e) (he : ¬e.IsConfigFile) :
    s.ConfigEscape (s.configFileOr given) e := by
  rw [result_loadConfig_of_read hread, bind_eq_error_iff] at h
  rcases h with hdata | ⟨data, hdata, h⟩
  · exact .unread hread (unread_of_parseDocument hdata he)
  · obtain ⟨text, rfl, hdocument⟩ := parseDocument_eq_ok hdata
    obtain ⟨rfl, hlong⟩ := ((OperatorConfig.endsIn_ofTable id).of_error h).resolve_left he
    exact .unwritable hread hdocument hlong h

theorem configEscape_iff (s : Surroundings) (given : Option FilePath) (e : Failure) :
    (s.loadConfig given).result = .error e ∧ ¬e.IsConfigFile ↔
      s.ConfigEscape (s.configFileOr given) e := by
  refine ⟨?_, ConfigEscape.result_loadConfig⟩
  rintro ⟨h, he⟩
  have hload := h
  rw [Surroundings.result_loadConfig, bind_eq_error_iff] at hload
  rcases hload with hexists | ⟨there, hexists, hload⟩
  · obtain ⟨hnul, hstatus, rfl⟩ := pathExists_eq_error_iff.mp hexists
    exact .nameTooLong hnul hstatus
  cases there with
  | false => cases hload
  | true =>
    obtain ⟨hnul, entry, hentry⟩ := pathExists_eq_true_iff.mp hexists
    rcases read_of_status hnul hentry with ⟨content, -, hread⟩ | ⟨hno, hread⟩
    · exact configEscape_of_read hread h he
    · rw [hread] at hload
      cases hload
      exact .noFile hnul hentry hno

end Surroundings

end MailDispatch
