import MailDispatch.Proofs.Delivery.Reporting
import MailDispatch.Proofs.Task.Endpoint
import MailDispatch.Proofs.Workspace.Containment

/-!
# What a delivery learns of files outside of its workspace

A delivery reads the template and the attachments that its task names. Unless one of their paths
escapes from the workspace, it cannot tell apart two file trees that agree within the workspace; and
if some path does escape, some delivery can, by using the file as its template.
-/

namespace MailDispatch

/-- The paths that a task names: that of its template and those of its attachments. -/
def Task.Names (t : Task) (path : String) : Prop :=
  (∃ v, t.parameters.plain? Body.fileKey = some v ∧ v.plain = .ok path) ∨
    ∃ attachments, t.parameters.attachments.result = .ok attachments ∧
      ∃ a ∈ attachments, a.path = path

theorem Activity.ofTraced_bind_congr {σ ω ε ν α β : Type} {keep : σ → ν → Option ω}
    {x : Traced ν ε α} {f g : α → Activity σ ω ε β} (h : ∀ a, x.result = .ok a → f a = g a) :
    Activity.ofTraced keep x >>= f = Activity.ofTraced keep x >>= g := by
  funext s
  rw [bind_apply, bind_apply]
  cases hr : x.result with
  | ok a =>
    have hx : Activity.ofTraced keep x s = ⟨.ok a, s, x.events.filterMap (keep s)⟩ := by
      rw [← hr]
      rfl
    rw [chain_of_ok hx, chain_of_ok hx, h a hr]
  | error e =>
    have hx : Activity.ofTraced keep x s = ⟨.error e, s, x.events.filterMap (keep s)⟩ := by
      rw [← hr]
      rfl
    rw [chain_of_error hx, chain_of_error hx]

namespace Delivery

open Activity

variable {t : Task} {w : Workspace}

/-! ## Reading the same -/

theorem render_eq_of_reads {p : TaskParameters} {read read' : String → Except Failure String}
    (h : ∀ v path, p.plain? Body.fileKey = some v → v.plain = .ok path → read' path = read path)
    (engine : Engine) : Body.render p read' engine = Body.render p read engine := by
  have htemplate : Body.template p read' = Body.template p read := by
    rw [Body.template, Body.template]
    cases hv : p.plain? Body.fileKey with
    | none => rfl
    | some v =>
      refine Traced.bind_congr fun path hpath ↦ ?_
      rw [h v path hv hpath]
  rw [Body.render, Body.render, htemplate]

theorem compose_eq_of_reads {m : Mail} {w' : Workspace}
    (h : ∀ a ∈ m.attachments, w'.readBytes a.path = w.readBytes a.path) (stamp : Stamp) :
    m.compose w' stamp = m.compose w stamp := by
  have hread : m.readAttachments w' = m.readAttachments w :=
    mapM_congr fun a ha ↦ by rw [Mail.readAttachment, Mail.readAttachment, h a ha]
  rw [Mail.compose, Mail.compose, hread]

/-- A delivery depends on its workspace only through what is read at the paths that it names. -/
theorem run_eq_of_reads
    (h : ∀ path, t.Names path → w.readBytes path = t.workspace.readBytes path)
    (c : OperatorConfig) (server : Server) (stamp : Stamp) :
    run { t with workspace := w } c server stamp = run t c server stamp := by
  have hbody : Body.render t.parameters (w.readText · .utf8) .standard
      = Body.render t.parameters (t.workspace.readText · .utf8) .standard := by
    refine render_eq_of_reads (fun v path hv hpath ↦ ?_) _
    rw [Workspace.readText, Workspace.readText, h path (.inl ⟨v, hv, hpath⟩)]
  have hprepare : prepare { t with workspace := w } c stamp = prepare t c stamp := by
    show (Work.prepare (Body.render t.parameters (w.readText · .utf8) .standard) >>= _) = _
    rw [hbody]
    refine congrArg _ (funext fun body ↦ ofTraced_bind_congr fun m hm ↦ ?_)
    obtain ⟨-, -, -, -, hattachments, -⟩ := TaskParameters.mail_eq_ok hm
    rw [compose_eq_of_reads fun a ha ↦ h a.path (.inr ⟨_, hattachments, a, ha, rfl⟩)]
  rw [run, run, hprepare]

/-- A delivery whose paths do not escape cannot tell apart two trees that agree within the
workspace. -/
theorem start_eq_of_agreesWithin {tree : FileTree} (h : w.tree.AgreesWithin w.root tree)
    {raw : Table} {secrets : SecretStore}
    (hpaths : ∀ path, Task.Names ⟨raw, secrets, w⟩ path → ¬w.Escapes path) (c : OperatorConfig)
    (server : Server) (stamp : Stamp) (thresholds : Thresholds) :
    start ⟨raw, secrets, { w with tree }⟩ c server stamp thresholds
      = start ⟨raw, secrets, w⟩ c server stamp thresholds := by
  have hrun := run_eq_of_reads (t := ⟨raw, secrets, w⟩)
    (fun path hpath ↦ Workspace.readBytes_eq_of_agreesWithin h (hpaths path hpath)) c server stamp
  rw [start, start, ← hrun]

/-! ## Telling apart -/

/-- A task that takes a file of the workspace for its template, and sets nothing else. -/
def templated (path : String) (w : Workspace) : Task where
  raw := [("_command", .text path)]
  secrets := .ofTable []
  workspace := w

variable {path : String}

theorem result_template_templated (path : String) (w : Workspace) :
    (Body.template (templated path w).parameters (w.readText · .utf8)).result
      = (w.readText path .utf8).mapError (Body.unreadable path) := by
  rw [Body.result_template_of_file (show _ = some (Value.text path) from rfl)]
  rfl

/-- A template that is no text is reported as such. -/
theorem kind_run_of_undecodable (h : w.readBytes path = .ok [0xff]) (server : Server)
    (stamp : Stamp) (s : Situation) :
    ∃ f, (run (templated path w) {} server stamp s).result = .error (.task f) ∧
      f.kind = .template := by
  have hread : ∃ e, w.readText path .utf8 = .error (.undecodable e) := by
    have hdecode : Workspace.textOf .utf8 [0xff]
        = .error (.undecodable ⟨.utf8, 0xff, 0, 1, .invalidStart⟩) := by cbv
    rw [Workspace.readText, h]
    exact ⟨_, hdecode⟩
  obtain ⟨e, he⟩ := hread
  have hprepare : (prepare (templated path w) {} stamp s).result
      = .error (.template path e.message) := by
    refine result_prepare_of_mail ?_ stamp s
    rw [Body.render, Traced.result_bind]
    show ((Body.template (templated path w).parameters (w.readText · .utf8)).result.bind _).bind _
      = _
    rw [result_template_templated, he]
    rfl
  exact ⟨_, result_run_of_prepare hprepare server, rfl⟩

/-- One that is empty is rendered, and what is reported is that there is no endpoint. -/
theorem kind_run_of_empty (h : w.readBytes path = .ok []) (server : Server)
    (stamp : Stamp) (s : Situation) :
    ∃ f, (run (templated path w) {} server stamp s).result = .error (.task f) ∧
      f.kind = .configuration := by
  have hread : w.readText path .utf8 = .ok "" := by
    have hdecode : Workspace.textOf .utf8 [] = .ok "" := by cbv
    rw [Workspace.readText, h]
    exact hdecode
  have hrender : ∀ bindings, Template.render "" bindings = .ok "" := by
    intro bindings
    rw [Template.render, show "".toList = [] from rfl, Template.split]
    rfl
  have hprepare : (prepare (templated path w) {} stamp s).result
      = .error (.configuration (.missingEndpoint ConfigurationError.missingEndpointText)) := by
    refine result_prepare_of_mail ?_ stamp s
    rw [Body.render, Traced.result_bind]
    show ((Body.template (templated path w).parameters (w.readText · .utf8)).result.bind _).bind _
      = _
    rw [result_template_templated, hread]
    show (Template.render "" _).bind _ = _
    rw [hrender]
    show ((templated path w).parameters.mail {} "").result = _
    rw [TaskParameters.mail, Traced.result_bind, TaskParameters.result_endpoint_of_none rfl]
    rfl
  exact ⟨_, result_run_of_prepare hprepare server, rfl⟩

/-- A path that escapes makes some delivery depend on a file outside: it is a template or none,
whichever the file holds. -/
theorem not_escapes_of_start_eq (stamp : Stamp) (thresholds : Thresholds)
    (h : ∀ t, w.tree.AgreesWithin w.root t →
      start (templated path { w with tree := t }) {} {} stamp thresholds
        = start (templated path w) {} {} stamp thresholds) : ¬w.Escapes path := by
  rintro ⟨loc, data, hopens, hout⟩
  have hagree := FileTree.agreesWithin_put hopens.find? hout
  obtain ⟨f, hf, hkind⟩ := kind_run_of_undecodable
    (Workspace.readBytes_put hopens hout [0xff]) {} stamp { thresholds }
  obtain ⟨f', hf', hkind'⟩ := kind_run_of_empty
    (Workspace.readBytes_put hopens hout []) {} stamp { thresholds }
  have hsame : f = f' := by
    have hresult := congrArg Outcome.result ((h _ (hagree [0xff])).trans (h _ (hagree [])).symm)
    rw [start, start] at hresult
    cases hf.symm.trans (hresult.trans hf')
    rfl
  rw [hsame, hkind'] at hkind
  cases hkind

/-- **Containment.** What is read at a path is the content of the regular file that opening its
location leads to, and unless resolving the path meets a circle of links, that file stands within
the workspace. Some path escapes exactly if some path meets a circle and some location leads outside.
A delivery whose paths do not escape cannot tell apart two trees that agree within the workspace,
and if no delivery can, then no path escapes. -/
theorem reads_contained (w : Workspace) :
    (∀ path data, w.readBytes path = .ok data → ∃ loc, w.Opens path loc data ∧
      w.tree.find? loc = some (.file data) ∧ (¬w.MeetsCircle path → loc.isWithin w.root)) ∧
    (∀ path name text, w.readTextAs path name = .ok text → ∃ data encoding,
      w.readBytes path = .ok data ∧ Text.Encoding.forName name data = .ok encoding ∧
        Workspace.textOf encoding data = .ok text) ∧
    (w.IsNameable → ((∃ path, w.Escapes path) ↔
      (∃ path, '\x00' ∉ path.toList ∧ w.MeetsCircle path) ∧ w.LeadsOut)) ∧
    (∀ t, w.tree.AgreesWithin w.root t → ∀ raw secrets,
      (∀ path, Task.Names ⟨raw, secrets, w⟩ path → ¬w.Escapes path) →
      ∀ c server stamp thresholds,
        start ⟨raw, secrets, { w with tree := t }⟩ c server stamp thresholds
          = start ⟨raw, secrets, w⟩ c server stamp thresholds) ∧
    ((∀ path, ¬w.Escapes path) ↔ ∀ t, w.tree.AgreesWithin w.root t →
      ∀ raw secrets c server stamp thresholds,
        start ⟨raw, secrets, { w with tree := t }⟩ c server stamp thresholds
          = start ⟨raw, secrets, w⟩ c server stamp thresholds) := by
  refine ⟨fun path data h ↦ ?_, fun path name text ↦ Workspace.readTextAs_eq_ok,
    Workspace.exists_escapes_iff, fun _ ht _ _ ↦ start_eq_of_agreesWithin ht,
    fun h t ht raw secrets ↦ start_eq_of_agreesWithin ht fun path _ ↦ h path, fun h path ↦ ?_⟩
  · obtain ⟨loc, hopens⟩ := Workspace.readBytes_eq_ok_iff.mp h
    exact ⟨loc, hopens, hopens.find?, fun hc ↦ (hopens.isWithin hc).2⟩
  · exact not_escapes_of_start_eq ⟨"", "", ""⟩ ⟨0, 0⟩ fun t ht ↦ h t ht _ _ _ _ _ _

/-- A workspace with a note in it, and a file beside it. -/
private def study : Workspace where
  tree := ⟨[(["ws"], .directory), (["note", "ws"], .file [104, 105]), (["secret.txt"], .file [42])]⟩
  root := ["ws"]

/-- The note stands within the workspace, and a delivery that takes it for its template is the same
whatever the file beside the workspace holds. -/
theorem reads_contained_study :
    (∃ loc, study.Opens "note" loc [104, 105] ∧ loc.isWithin study.root) ∧
      start (templated "note"
          { study with tree := study.tree.put ["secret.txt"] (.file [43]) }) {} {}
          ⟨"now", "1", "here"⟩ ⟨20, 0⟩
        = start (templated "note" study) {} {} ⟨"now", "1", "here"⟩ ⟨20, 0⟩ := by
  obtain ⟨hbytes, -, -, hruns, -⟩ := reads_contained study
  have hcircle : ¬study.MeetsCircle "note" := by
    rintro ⟨loc, hloc⟩
    have hresolve : study.tree.resolve [] (study.joined "note") = .resolved ["note", "ws"] := by cbv
    cases hresolve.symm.trans hloc
  constructor
  · obtain ⟨loc, hopens, -, hwithin⟩ := hbytes "note" [104, 105] (by cbv)
    exact ⟨loc, hopens, hwithin hcircle⟩
  · have hsecret : study.tree.find? ["secret.txt"] = some (.file [42]) := by cbv
    refine hruns _ (FileTree.agreesWithin_put hsecret (by decide) [43]) _ _ ?_ _ _ _ _
    -- the template is the only path that the task names
    rintro path (⟨v, hv, hpath⟩ | ⟨attachments, hattachments, a, ha, -⟩) hescapes
    · cases hv
      cases hpath
      exact hcircle hescapes.meetsCircle
    · cases hattachments
      cases ha

/-- A workspace with a link to itself, and another one to a file beside the workspace. -/
private def maze : Workspace where
  tree := ⟨[(["ws"], .directory), (["loop", "ws"], .link "loop"),
    (["out", "ws"], .link "../secret.txt"), (["secret.txt"], .file [42])]⟩
  root := ["ws"]

private theorem reach_maze : maze.tree.reach [] (.ofLocation ["out", "ws"])
    = .ok (.there ["secret.txt"] (.file [42])) := by
  have hbeside : maze.tree.walk 39 ["ws"] ["..", "secret.txt"]
      = .ok (.there ["secret.txt"] (.file [42])) := by cbv
  have hlink : maze.tree.walk 40 ["ws"] ["out"] = .ok (.there ["secret.txt"] (.file [42])) := by
    have hfind : maze.tree.find? ["out", "ws"] = some (.link "../secret.txt") := by cbv
    have hdir : maze.tree.isDirectoryAt ["ws"] = true := by cbv
    have hnames : FileTree.targetNames "../secret.txt" = ["..", "secret.txt"] := by decide
    have hstart : FileTree.targetStart ["ws"] "../secret.txt" = ["ws"] := by decide
    rw [FileTree.walk, hdir, hfind]
    simp only [hnames, hstart, List.append_nil, hbeside]
    rfl
  have hfind : maze.tree.find? ["ws"] = some .directory := by cbv
  rw [FileTree.reach, if_neg (by decide)]
  show maze.tree.walk 40 [] ["ws", "out"] = _
  rw [FileTree.walk, hfind]
  simp only [hlink]
  rfl

/-- Behind a link to itself, the link that leads outside is not looked at: what is read is the
content of the file beside the workspace. -/
theorem not_contained_maze :
    maze.readBytes "loop/../out" = .ok [42] ∧
      ∀ loc, maze.Opens "loop/../out" loc [42] → ¬loc.isWithin maze.root := by
  have hlocate : maze.locate "loop/../out" = .ok ["out", "ws"] := by
    have hjoined : maze.joined "loop/../out" = ⟨.root, ["ws", "loop", "..", "out"]⟩ := by cbv
    have hresolve : maze.tree.resolve [] ⟨.root, ["ws", "loop", "..", "out"]⟩
        = .looped ["out", "ws"] := by cbv
    rw [Workspace.locate_eq_ok_iff, hjoined, hresolve, FileTree.isCircular, FileTree.status,
      show (Resolution.looped ["out", "ws"]).location = ["out", "ws"] from rfl, reach_maze]
    decide
  constructor
  · exact Workspace.readBytes_eq_ok_iff.mpr ⟨_, _, hlocate, reach_maze⟩
  · rintro loc ⟨located, hlocated, hreach⟩
    cases hlocate.symm.trans hlocated
    cases reach_maze.symm.trans hreach
    decide

end Delivery

end MailDispatch
