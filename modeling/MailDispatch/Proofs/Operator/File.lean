import Mathlib
import MailDispatch.Operator.File
import MailDispatch.Proofs.Decimal.Numeral
import MailDispatch.Proofs.FileTree.Writing
import MailDispatch.Proofs.Operator.Layout
import MailDispatch.Proofs.Operator.Loading
import MailDispatch.Proofs.Toml.Document

/-!
# A saved configuration is loaded

Whatever texts a configuration holds, and wherever it was saved, loading it from there gives the
configuration back. Three steps are undone one after the other: the bytes in the file are those that
were written, the text and the table in them are those of the configuration, and the configuration
is what its table is read as. Saving it again, there or elsewhere, gives the same bytes. Any writer
of tables will do, as long as it follows TOML.
-/

namespace MailDispatch

/-! ## The content of a file -/

namespace OperatorConfig

/-- The keys of all settings, in the order in which they are written. -/
def keys : List String :=
  ["from", "subject", "host", "port", "tls", "ssl", "debug", "username", "password"]

theorem map_fst_entryOf (key : String) (v : Option String) :
    ((entryOf key v).map Prod.fst).Sublist [key] := by
  cases v with
  | none => exact List.nil_sublist _
  | some s => exact List.Sublist.refl _

theorem map_fst_endpointEntries (e : Endpoint) : ((endpointEntries e).map Prod.fst).Sublist
    ["host", "port", "tls", "ssl", "debug", "username", "password"] := by
  rw [endpointEntries, List.map_append, List.map_append]
  exact ((List.Sublist.refl ["host", "port", "tls", "ssl", "debug"]).append
    (map_fst_entryOf "username" e.username)).append (map_fst_entryOf "password" e.password)

/-- The settings that are set are written in a fixed order. -/
theorem map_fst_entries (c : OperatorConfig) : (c.entries.map Prod.fst).Sublist keys := by
  rw [entries, List.map_append, List.map_append]
  refine ((map_fst_entryOf "from" _).append (map_fst_entryOf "subject" _)).append ?_
  cases c.endpoint with
  | none => exact List.nil_sublist _
  | some e => exact map_fst_endpointEntries e

theorem isPlain_of_mem_entryOf {key : String} {v : Option String} {entry : String × Value}
    (h : entry ∈ entryOf key v) : Toml.IsPlain entry.2 := by
  cases v with
  | none => cases h
  | some s =>
    rw [List.mem_singleton.mp h]
    exact .text s

theorem isPlain_of_mem_endpointEntries {e : Endpoint} (he : (Decimal.numeral? e.port).isSome)
    {entry : String × Value} (h : entry ∈ endpointEntries e) : Toml.IsPlain entry.2 := by
  rw [endpointEntries, List.mem_append, List.mem_append] at h
  rcases h with (h | h) | h
  · simp only [List.mem_cons, List.not_mem_nil, or_false] at h
    rcases h with rfl | rfl | rfl | rfl | rfl
    · exact .text e.host
    · exact .integer he
    · exact .flag e.startTls
    · exact .flag e.ssl
    · exact .flag e.debug
  · exact isPlain_of_mem_entryOf h
  · exact isPlain_of_mem_entryOf h

/-- The settings of a recordable configuration are a table that every writer can write. -/
theorem isPlainTable_entries {c : OperatorConfig} (hc : c.IsRecordable) :
    Toml.IsPlainTable c.entries where
  values entry h := by
    rw [entries, List.mem_append, List.mem_append] at h
    rcases h with (h | h) | h
    · exact isPlain_of_mem_entryOf h
    · exact isPlain_of_mem_entryOf h
    · cases hendpoint : c.endpoint with
      | none => rw [hendpoint] at h; cases h
      | some endpoint =>
        rw [hendpoint] at h
        exact isPlain_of_mem_endpointEntries (hc endpoint hendpoint).2 h
  bare entry h := by
    have hmem : entry.1 ∈ keys := (map_fst_entries c).subset (List.mem_map_of_mem h)
    exact (by decide : ∀ k ∈ keys, Toml.isBareKey k = true) entry.1 hmem
  distinct := (map_fst_entries c).nodup (by decide)

/-- A writer that follows TOML puts the layout of a configuration down as it is read. -/
theorem exists_document {write : Toml.Writer} (hwrite : write.FollowsToml) {c : OperatorConfig}
    (hc : c.IsRecordable) :
    ∃ text, write c.toTable = ⟨text, .ok ()⟩ ∧ Toml.document text = .ok c.toTable :=
  hwrite path c.entries (by decide) (by decide) (isPlainTable_entries hc)

end OperatorConfig

namespace Surroundings

variable {s s' : Surroundings} {write : Toml.Writer} {c : OperatorConfig} {p : FilePath}
  {content : List UInt8}

/-! ## Writing -/

/-- What it takes to write a file. -/
theorem writeFile_eq_ok (h : s.writeFile p content = (s', .ok ())) :
    p.parent.hasNul = false ∧ p.hasNul = false ∧ ∃ tree tree',
      s.tree.ensureDirectory s.current p.parent = (tree, .ok ()) ∧
      tree.writeFile s.current p content = .ok tree' ∧ s' = { s with tree := tree' } := by
  rw [writeFile] at h
  split at h
  · cases h
  next hparent =>
  split at h
  · cases h
  next tree hdir =>
  split at h
  · cases h
  next hnul =>
  split at h
  · cases h
  next tree' hwrite =>
  cases h
  exact ⟨Bool.not_eq_true _ ▸ hparent, Bool.not_eq_true _ ▸ hnul, tree, tree', hdir, hwrite, rfl⟩

/-- A file is written where there is none, if the directory is there. -/
theorem exists_writeFile_of_missing {loc : Location} (hparent : p.parent.hasNul = false)
    (hnul : p.hasNul = false) (hdir : s.tree.isDirectory s.current p.parent = true)
    (hdot : p.parent.names.getLast? ≠ some ".")
    (hreach : s.tree.reach s.current p = .ok (.missing loc)) (content : List UInt8) :
    ∃ s', s.writeFile p content = (s', .ok ()) := by
  rw [writeFile, hparent]
  simp only [FileTree.ensureDirectory_of_isDirectory hdir hdot, FileTree.writeFile, hreach, hnul]
  exact ⟨_, rfl⟩

/-- A file that was written exists, and it holds what was written. -/
theorem read_of_writeFile (h : s.writeFile p content = (s', .ok ())) :
    s'.pathExists p = .ok true ∧ s'.read p = .ok content := by
  obtain ⟨-, hnul, tree, tree', -, hwrite, rfl⟩ := writeFile_eq_ok h
  obtain ⟨loc, -, hreach⟩ := FileTree.reach_of_writeFile hwrite
  have hstatus : tree'.status s.current p = .ok (.file content) := by
    rw [FileTree.status, hreach]
    rfl
  constructor
  · rw [pathExists, hnul]
    simp only [hstatus]
    rfl
  · rw [read, hnul, FileTree.read_of_writeFile hwrite]
    rfl

/-- Writing a file once more changes nothing. -/
theorem writeFile_of_writeFile (hdot : p.parent.names.getLast? ≠ some ".")
    (h : s.writeFile p content = (s', .ok ())) : s'.writeFile p content = (s', .ok ()) := by
  obtain ⟨hparent, hnul, tree, tree', hdir, hwrite, rfl⟩ := writeFile_eq_ok h
  obtain ⟨loc, -, hreach⟩ := FileTree.reach_of_writeFile hwrite
  have hthere := FileTree.isDirectory_parent (FileTree.names_ne_nil hdir hwrite)
    (FileTree.length_le_of_ensureDirectory hdir) hreach
  rw [writeFile, hparent, hnul]
  simp only [FileTree.ensureDirectory_of_isDirectory hthere hdot,
    FileTree.writeFile_of_writeFile hwrite]
  rfl

/-! ## Saving and loading -/

theorem saveConfig_eq_ok (h : s.saveConfig write c p = (s', .ok ())) :
    (write c.toTable).result = .ok () ∧
      s.writeFile p (Text.encode (write c.toTable).text) = (s', .ok ()) := by
  rw [saveConfig] at h
  split at h
  · next hfile =>
    rw [Prod.mk.injEq] at h
    obtain ⟨rfl, hresult⟩ := h
    exact ⟨hresult, hfile⟩
  · cases h

/-- A configuration is saved where its file can be written, if the writer writes it to the end. -/
theorem saveConfig_of_writeFile (hresult : (write c.toTable).result = .ok ())
    (h : s.writeFile p (Text.encode (write c.toTable).text) = (s', .ok ())) :
    s.saveConfig write c p = (s', .ok ()) := by
  simp only [saveConfig, h, hresult]

theorem configFileOr_of_writeFile (h : s.writeFile p content = (s', .ok ()))
    (given : Option FilePath) : s'.configFileOr given = s.configFileOr given := by
  obtain ⟨-, -, _, _, -, -, rfl⟩ := writeFile_eq_ok h
  rfl

/-- A path that is read from a text, or the usual one, does not end in a dot. -/
theorem getLast?_configFileOr (s : Surroundings) (path : Option String) :
    (s.configFileOr (path.map .ofText)).parent.names.getLast? ≠ some "." := by
  cases path with
  | none =>
    rw [Option.map_none, configFileOr, Option.getD_none, configFile, FilePath.child,
      FilePath.parent, List.dropLast_concat, configDirectory, FilePath.child, List.getLast?_concat]
    decide
  | some path =>
    intro h
    have hmem : "." ∈ FilePath.namesOf path.toList :=
      List.mem_of_mem_dropLast (List.mem_of_getLast? h)
    rw [FilePath.namesOf, List.mem_filter] at hmem
    exact absurd hmem.2 (by decide)

/-- A configuration is loaded from the file in which it was saved. -/
theorem loadConfig_of_saveConfig (hwrite : write.FollowsToml) (hc : c.IsRecordable)
    {given : Option FilePath} (h : s.saveConfig write c (s.configFileOr given) = (s', .ok ())) :
    (s'.loadConfig given).result = .ok c := by
  obtain ⟨-, hfile⟩ := saveConfig_eq_ok h
  obtain ⟨hthere, hread⟩ := read_of_writeFile hfile
  obtain ⟨text, htext, hdocument⟩ := OperatorConfig.exists_document hwrite hc
  rw [← configFileOr_of_writeFile hfile] at hthere hread
  rw [htext] at hread
  have hparse := parseDocument_encode hdocument
    ("Invalid config file " ++ (s'.configFileOr given).text)
  rw [loadConfig]
  simp only [Traced.result_bind, Traced.result_monadLift, hthere, Except.bind, if_pos, hread,
    hparse]
  exact OperatorConfig.result_ofTable_toTable hc

/-- A configuration is read back from its layout, and loaded from wherever it was saved, whichever
writer was used that follows TOML; saving it again changes nothing there, and elsewhere writes the
same bytes. Whatever is read from a table is read again from its layout. -/
theorem saved_loaded :
    (∀ c : OperatorConfig, c.IsRecordable →
      (OperatorConfig.ofTable c.toTable).result = .ok c ∧
      ∀ write : Toml.Writer, write.FollowsToml → ∀ (s s' : Surroundings) (path : Option String),
        s.saveConfig write c (s.configFileOr (path.map .ofText)) = (s', .ok ()) →
        (s'.loadConfig (path.map .ofText)).result = .ok c ∧
        s'.saveConfig write c (s'.configFileOr (path.map .ofText)) = (s', .ok ()) ∧
        ∃ content, s'.read (s'.configFileOr (path.map .ofText)) = .ok content ∧
          ∀ p s'', s'.saveConfig write c p = (s'', .ok ()) → s''.read p = .ok content) ∧
    ∀ (data : Table) (c : OperatorConfig), (OperatorConfig.ofTable data).result = .ok c →
      (OperatorConfig.ofTable c.toTable).result = .ok c := by
  refine ⟨fun c hc ↦
      ⟨OperatorConfig.result_ofTable_toTable hc, fun write hwrite s s' path h ↦ ?_⟩,
    fun data c h ↦
      OperatorConfig.result_ofTable_toTable (OperatorConfig.isRecordable_of_ofTable h)⟩
  obtain ⟨hresult, hfile⟩ := saveConfig_eq_ok h
  have hsame := configFileOr_of_writeFile hfile (path.map .ofText)
  refine ⟨loadConfig_of_saveConfig hwrite hc h, ?_, Text.encode (write c.toTable).text, ?_,
    fun p s'' h' ↦ ?_⟩
  · rw [hsame]
    exact saveConfig_of_writeFile hresult
      (writeFile_of_writeFile (getLast?_configFileOr s path) hfile)
  · rw [hsame]
    exact (read_of_writeFile hfile).2
  · exact (read_of_writeFile (saveConfig_eq_ok h').2).2

/-- A configuration whose texts hold what must be escaped. -/
private def letterhead : OperatorConfig where
  defaults := { sender := some "\"Ann\" <ann@task.org>", subject := some "Hi\r\n\\\x00\x7f\t" }
  endpoint := some {
    host := "mx", port := -25, startTls := false, username := some "ann", origin := .system }

private theorem isRecordable_letterhead : letterhead.IsRecordable := by
  rintro e ⟨⟩
  exact ⟨rfl, Decimal.isSome_numeral?_of_lt (k := 2) (by decide) (by decide)⟩

/-- A system without any files. -/
private def unused : Surroundings := ⟨.empty, [], ⟨.root, []⟩, none⟩

private theorem writeFile_unused (content : List UInt8) :
    ∃ s', unused.writeFile (.ofText "mail.toml") content = (s', .ok ()) := by
  have hname : FilePath.ofText "mail.toml" = ⟨.current, ["mail.toml"]⟩ := by decide
  have hreach : unused.tree.reach unused.current ⟨.current, ["mail.toml"]⟩
      = .ok (.missing ["mail.toml"]) := by cbv
  rw [hname]
  exact exists_writeFile_of_missing (by decide) (by decide) (by cbv) (by decide) hreach content

theorem saved_loaded_letterhead : letterhead.IsRecordable ∧ Toml.write.FollowsToml ∧
    ∃ s', unused.saveConfig Toml.write letterhead
        (unused.configFileOr (some (.ofText "mail.toml"))) = (s', .ok ()) ∧
      (s'.loadConfig (some (.ofText "mail.toml"))).result = .ok letterhead := by
  obtain ⟨text, htext, -⟩ :=
    OperatorConfig.exists_document Toml.followsToml_write isRecordable_letterhead
  obtain ⟨s', hfile⟩ := writeFile_unused (Text.encode (Toml.write letterhead.toTable).text)
  have hsave : unused.saveConfig Toml.write letterhead
      (unused.configFileOr ((some "mail.toml").map .ofText)) = (s', .ok ()) :=
    saveConfig_of_writeFile (by rw [htext]) hfile
  exact ⟨isRecordable_letterhead, Toml.followsToml_write, s', hsave,
    ((saved_loaded.1 letterhead isRecordable_letterhead).2 Toml.write Toml.followsToml_write unused
      s' (some "mail.toml") hsave).1⟩

end Surroundings

end MailDispatch
