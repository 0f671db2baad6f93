import MailDispatch.Proofs.Message.Contents
import MailDispatch.Proofs.Task.Entries

/-!
# The names of attachments

An attachment is shown under the name that its entry gives it. An entry may leave that open, and the
name then is the last segment of the path, the text behind the last slash. Such a name is empty just
if the path ends in a slash, which a workspace does not mind: the file is opened all the same, and
its part has no name. All other attachments are named, both in the mail and in the message.
-/

namespace MailDispatch

namespace Attachment

variable {key : String} {entry : Table} {a : Attachment}

/-! ## Names of entries -/

/-- An entry does not say what its file is called. -/
inductive LeavesOpen (entry : Table) : Prop
  | absent (h : entry.lookup "filename" = none)
  | null (h : entry.lookup "filename" = some .null)
  | empty (h : entry.lookup "filename" = some (.text ""))

/-- A name is the last segment of a path: all of it, or what stands behind a folder. -/
inductive IsLastSegment (name : List Char) : (path : List Char) → Prop
  | whole (h : '/' ∉ name) : IsLastSegment name name
  | inside (h : '/' ∉ name) (folder : List Char) : IsLastSegment name (folder ++ '/' :: name)

/-- The attachment is the file of an entry and fit for a header, and its name comes from its path if
the entry leaves the name open. -/
structure IsNamedAfter (a : Attachment) (entry : Table) : Prop where
  path : entry.lookup "path" = some (.text a.path)
  unbroken : Text.IsUnbroken a.filename.toList
  segment : LeavesOpen entry → IsLastSegment a.filename.toList a.path.toList

/-- The attachment has a name that is not empty. -/
structure IsNamed (a : Attachment) (entry : Table) : Prop extends IsNamedAfter a entry where
  nonempty : a.filename ≠ ""

theorem isLastSegment_lastPiece (path : List Char) :
    IsLastSegment (Text.lastPiece '/' path) path := by
  by_cases h : '/' ∈ path
  · obtain ⟨folder, hfolder⟩ := Text.exists_eq_append_lastPiece h
    conv_rhs => rw [hfolder]
    exact .inside (Text.not_mem_lastPiece '/' path) folder
  · rw [Text.lastPiece_of_not_mem h]
    exact .whole h

/-- What was checked as part of a header is taken as it was given. -/
theorem eq_text_of_checked {v : Value} {s : String}
    (h : (Setting.asText key v).bind (headerText key) = .ok s) : v = .text s := by
  obtain ⟨given, hgiven, hs⟩ := bind_eq_ok h
  have hsame : given = s := by
    rw [headerText] at hs
    split at hs
    · cases hs
    · exact Except.ok.inj hs
  cases v with
  | text t => rw [Except.ok.inj hgiven, hsame]
  | _ => cases hgiven

theorem pathOf_eq_ok {path : String} (h : pathOf key entry = .ok path) :
    entry.lookup "path" = some (.text path) ∧ path ≠ "" := by
  rw [pathOf] at h
  split at h
  · next htruthy =>
    have hgiven := eq_text_of_checked h
    rw [hgiven] at htruthy
    constructor
    · rcases Option.getD_eq_iff.mp hgiven with hlookup | ⟨-, hnull⟩
      · exact hlookup
      · cases hnull
    · rintro rfl
      cases htruthy
  · cases h

/-- The empty name stands for one that is left open. -/
theorem filenameOf_eq_ok {filename : String} (h : filenameOf key entry = .ok filename) :
    filename = "" ↔ LeavesOpen entry := by
  rw [filenameOf] at h
  split at h
  · next hnull =>
    refine iff_of_true (Except.ok.inj h).symm ?_
    rcases Option.getD_eq_iff.mp hnull with hlookup | ⟨habsent, -⟩
    · exact .null hlookup
    · exact .absent habsent
  · next hgiven =>
    rcases Option.getD_eq_iff.mp (eq_text_of_checked h) with hlookup | ⟨-, hnull⟩
    · constructor
      · rintro rfl
        exact .empty hlookup
      · intro hopen
        cases hopen with
        | absent habsent => cases habsent.symm.trans hlookup
        | null hnull => cases hnull.symm.trans hlookup
        | empty hempty => cases hempty.symm.trans hlookup; rfl
    · cases hnull

/-- The attachment of an entry is named after it, and has no name just if the name is left open and
nothing stands behind the last slash of the path. -/
theorem isNamedAfter_ofEntry (h : ofEntry key (.table entry) = .ok a) :
    a.IsNamedAfter entry ∧
      (a.filename = "" ↔ LeavesOpen entry ∧ a.path.toList.getLast? = some '/') := by
  have hunbroken := (isUnbroken_ofEntry (.table entry)).of_ok h
  obtain ⟨path, hpath, h⟩ := bind_eq_ok h
  obtain ⟨contentType, -, h⟩ := bind_eq_ok h
  obtain ⟨filename, hfilename, h⟩ := bind_eq_ok h
  obtain rfl := Except.ok.inj h
  obtain ⟨hlookup, hne⟩ := pathOf_eq_ok hpath
  have hopen := filenameOf_eq_ok hfilename
  have hfilled : LeavesOpen entry →
      (named path contentType filename).filename = defaultFilename path := fun hleft ↦
    if_pos (hopen.mpr hleft)
  refine ⟨⟨hlookup, hunbroken.filename, fun hleft ↦ ?_⟩, ?_⟩
  · rw [hfilled hleft, defaultFilename, String.toList_ofList]
    exact isLastSegment_lastPiece path.toList
  · by_cases hleft : LeavesOpen entry
    · rw [hfilled hleft, defaultFilename, ← String.toList_eq_nil_iff, String.toList_ofList,
        Text.lastPiece_eq_nil_iff (mt String.toList_eq_nil_iff.mp hne)]
      exact (and_iff_right hleft).symm
    · have hgiven : filename ≠ "" := mt hopen.mp hleft
      rw [named, if_neg hgiven]
      exact iff_of_false hgiven fun h ↦ hleft h.1

/-- Only a table comes to an attachment. -/
theorem exists_table_of_ofEntry {v : Value} (h : ofEntry key v = .ok a) :
    ∃ entry, v = .table entry := by
  cases v with
  | table entry => exact ⟨entry, rfl⟩
  | _ => cases h

/-- What comes of an entry is named, unless the entry leaves that to a path that ends in a slash. -/
theorem exists_isNamed_iff {v : Value} (h : ofEntry key v = .ok a) :
    (∃ entry, v = .table entry ∧ a.IsNamed entry) ↔
      ∀ entry path, v = .table entry → entry.lookup "path" = some (.text path) →
        LeavesOpen entry → path.toList.getLast? ≠ some '/' := by
  obtain ⟨entry, rfl⟩ := exists_table_of_ofEntry h
  obtain ⟨hafter, hempty⟩ := isNamedAfter_ofEntry h
  constructor
  · rintro ⟨named, hnamed, ha⟩ given path hgiven hpath hopen hend
    cases hnamed
    cases hgiven
    cases hpath.symm.trans hafter.path
    exact ha.nonempty (hempty.mpr ⟨hopen, hend⟩)
  · intro hall
    refine ⟨entry, rfl, hafter, fun hnone ↦ ?_⟩
    obtain ⟨hopen, hend⟩ := hempty.mp hnone
    exact hall entry a.path rfl hafter.path hopen hend

end Attachment

/-! ## Names in messages -/

/-- The parts behind the body are marked with the names of the attachments. -/
theorem Mail.filenames_of_compose {m : Mail} {w : Workspace} {stamp : Stamp} {message : Message}
    (htypes : ∀ a ∈ m.attachments, isContentType a.contentType.toList)
    (h : (m.compose w stamp).result = .ok message) :
    message.parts.tail.map Part.filename? = m.attachments.map fun a ↦ some a.filename.toList := by
  obtain ⟨parts, hparts, rfl⟩ := compose_eq_ok h
  have hnames : parts.map Part.filename? = m.attachments.map fun a ↦ some a.filename.toList := by
    have hcarried := carries_readAttachments htypes hparts
    rw [← List.forall₂_eq_eq_eq, List.forall₂_map_left_iff, List.forall₂_map_right_iff]
    exact hcarried.flip.imp fun part a ⟨_, _, hpart⟩ ↦ hpart.filename
  cases parts with
  | nil => exact hnames
  | cons part rest => exact hnames

/-! ## All attachments of a task -/

/-- The entries of the list of attachments that a task has, if it has one. -/
def TaskParameters.listedFiles (p : TaskParameters) : List Value :=
  match (p.get "attach_files").result with
  | .ok (some v) => v.items?.getD []
  | _ => []

theorem TaskParameters.ofList_listedFiles {p : TaskParameters} {l : List Attachment}
    (h : p.attachments.result = .ok l) : Attachment.ofList p.listedFiles = .ok l := by
  rw [listedFiles]
  unfold attachments at h
  obtain ⟨given, hgiven, h⟩ := Traced.bind_eq_ok h
  rw [hgiven]
  cases given with
  | none => exact h
  | some v =>
    dsimp only at h ⊢
    cases hitems : v.items? with
    | none => rw [hitems] at h; cases h
    | some entries => rw [hitems] at h; exact h

/-- The attachments are named, each by its entry or after it, and so are all parts that are composed
from them. -/
structure AreNamed (entries : List Value) (l : List Attachment) : Prop where
  attachments : List.Forall₂ (fun v a ↦ ∃ entry, v = .table entry ∧ a.IsNamed entry) entries l
  parts : ∀ (m : Mail) (w : Workspace) (stamp : Stamp) (message : Message), m.attachments = l →
    (m.compose w stamp).result = .ok message →
    ∀ part ∈ message.parts.tail, ∃ name, part.filename? = some name ∧ name ≠ []

/-- A property of pairs that is decided by their first members holds of all pairs if it holds of all
first members. -/
theorem forall₂_iff_forall_mem {α β : Type} {R S : α → β → Prop} {P : α → Prop} {l : List α}
    {l' : List β} (h : List.Forall₂ R l l') (hiff : ∀ a b, R a b → (S a b ↔ P a)) :
    List.Forall₂ S l l' ↔ ∀ a ∈ l, P a := by
  induction h with
  | nil => simp
  | cons hab _ ih => rw [List.forall₂_cons, List.forall_mem_cons, hiff _ _ hab, ih]

/-- **Names.** The attachments that a task has, and the parts that are composed from them, are all
named just if no entry leaves open the name of a file whose path ends in a slash. In any case, no
name holds a line break, a name that is left open is the last segment of the path, and each part is
marked with the name of its attachment. -/
theorem areNamed_iff {p : TaskParameters} {l : List Attachment}
    (hl : p.attachments.result = .ok l) :
    (AreNamed p.listedFiles l ↔ ∀ entry path, .table entry ∈ p.listedFiles →
      entry.lookup "path" = some (.text path) → Attachment.LeavesOpen entry →
        path.toList.getLast? ≠ some '/') ∧
      List.Forall₂ (fun v a ↦ ∃ entry, v = .table entry ∧ a.IsNamedAfter entry) p.listedFiles l ∧
      ∀ (m : Mail) (w : Workspace) (stamp : Stamp) (message : Message), m.attachments = l →
        (m.compose w stamp).result = .ok message →
        message.parts.tail.map Part.filename? = l.map fun a ↦ some a.filename.toList := by
  have hread : List.Forall₂ (fun v a ↦ Attachment.ofEntry (Attachment.entryKey 0) v = .ok a)
      p.listedFiles l :=
    (Attachment.ofList_eq_ok_iff.mp (TaskParameters.ofList_listedFiles hl)).imp
      fun _ _ ↦ Attachment.ofList_singleton_eq_ok_iff.mp
  have hnames : ∀ (m : Mail) (w : Workspace) (stamp : Stamp) (message : Message),
      m.attachments = l → (m.compose w stamp).result = .ok message →
      message.parts.tail.map Part.filename? = l.map fun a ↦ some a.filename.toList := by
    rintro m w stamp message rfl hmessage
    exact Mail.filenames_of_compose (isContentType_attachments hl) hmessage
  have hafter : List.Forall₂ (fun v a ↦ ∃ entry, v = .table entry ∧ a.IsNamedAfter entry)
      p.listedFiles l := by
    refine hread.imp fun v a ha ↦ ?_
    obtain ⟨entry, rfl⟩ := Attachment.exists_table_of_ofEntry ha
    exact ⟨entry, rfl, (Attachment.isNamedAfter_ofEntry ha).1⟩
  have hnamed := forall₂_iff_forall_mem hread fun _ _ ↦ Attachment.exists_isNamed_iff
  refine ⟨⟨fun h entry path hmem ↦ ?_, fun h ↦ ?_⟩, hafter, hnames⟩
  · exact hnamed.mp h.attachments _ hmem entry path rfl
  · have hall := hnamed.mpr fun v hv entry path hentry ↦ h entry path (hentry ▸ hv)
    refine ⟨hall, fun m w stamp message hm hmessage part hpart ↦ ?_⟩
    -- the part is marked with the name of one of the attachments
    have hmarked := List.mem_map_of_mem (f := Part.filename?) hpart
    rw [hnames m w stamp message hm hmessage] at hmarked
    obtain ⟨a, ha, hmark⟩ := List.mem_map.mp hmarked
    have hnonempty : ∀ a ∈ l, a.filename ≠ "" := by
      have hpairs : List.Forall₂ (fun (a : Attachment) (_ : Value) ↦ a.filename ≠ "" ∧ True)
          l p.listedFiles :=
        hall.flip.imp fun a v ⟨_, _, ha⟩ ↦ ⟨ha.nonempty, trivial⟩
      exact ((List.forall₂_and_left _ _).mp hpairs).1
    exact ⟨_, hmark.symm, mt String.toList_eq_nil_iff.mp (hnonempty a ha)⟩

/-- A task with an attachment. -/
private def enclosing (entry : Table) : TaskParameters where
  raw := [("attach_files", .list [.table entry])]
  secrets := .ofTable []

private theorem listedFiles_enclosing (entry : Table) :
    (enclosing entry).listedFiles = [.table entry] := by
  rw [TaskParameters.listedFiles, TaskParameters.get_of_not_allowed rfl]
  rfl

private theorem result_attachments_enclosing {entry : Table} {a : Attachment}
    (h : Attachment.ofEntry (Attachment.entryKey 0) (.table entry) = .ok a) :
    (enclosing entry).attachments.result = .ok [a] := by
  have hget : ((enclosing entry).get "attach_files").result
      = .ok (some (.list [.table entry])) := by
    rw [TaskParameters.get_of_not_allowed rfl]
    rfl
  rw [TaskParameters.result_attachments hget rfl]
  exact Attachment.ofList_singleton_eq_ok_iff.mpr h

/-- A file in a folder is named, although its entry leaves the name open. -/
theorem areNamed_report :
    (enclosing [("path", .text "q1/report.csv")]).attachments.result =
        .ok [⟨"q1/report.csv", "application/octet-stream", "report.csv"⟩] ∧
      AreNamed [.table [("path", .text "q1/report.csv")]]
        [⟨"q1/report.csv", "application/octet-stream", "report.csv"⟩] := by
  have hl : (enclosing [("path", .text "q1/report.csv")]).attachments.result =
      .ok [⟨"q1/report.csv", "application/octet-stream", "report.csv"⟩] :=
    result_attachments_enclosing rfl
  have hnamed := (areNamed_iff hl).1
  rw [listedFiles_enclosing] at hnamed
  refine ⟨hl, hnamed.mpr fun entry path hmem hpath _ ↦ ?_⟩
  cases List.mem_singleton.mp hmem
  cases hpath
  decide

/-- A workspace with a scan. -/
private def archive : Workspace where
  tree := ⟨[(["ws"], .directory), (["scan", "ws"], .file [49])]⟩
  root := ["ws"]

/-- A mail with the scan, without a name for it. -/
private def submission : Mail where
  recipients := ["x@y"]
  sender := "a@b.c"
  subject := "Scan"
  isHtml := false
  body := "Enclosed"
  endpoint := { host := "mx", port := 25 }
  attachments := [⟨"scan/", "application/octet-stream", ""⟩]

/-- With a slash behind its path, a file is accepted without a name. The workspace opens it, and the
part that carries it is marked with an empty name. -/
theorem not_areNamed_trailing_slash :
    ∃ p : TaskParameters, p.attachments.result = .ok submission.attachments ∧
      ¬ AreNamed p.listedFiles submission.attachments ∧
      ∃ message, (submission.compose archive ⟨"now", "1", "here"⟩).result = .ok message ∧
        ∃ part ∈ message.parts.tail, part.filename? = some [] := by
  have hl : (enclosing [("path", .text "scan/")]).attachments.result =
      .ok submission.attachments :=
    result_attachments_enclosing rfl
  have htypes := isContentType_attachments hl
  have hopened : archive.readBytes "scan/" = .ok [49] := by cbv
  obtain ⟨message, hmessage⟩ : ∃ message,
      (submission.compose archive ⟨"now", "1", "here"⟩).result = .ok message := by
    have hread : submission.readAttachments archive = .ok [Mail.attachmentPart _ [49]] :=
      mapM_eq_ok_iff.mpr (.cons ((Mail.readAttachment_eq_ok_iff
        (htypes _ List.mem_cons_self)).mpr ⟨[49], hopened, rfl⟩) .nil)
    exact ⟨_, by rw [Mail.result_compose, hread, Except.map]⟩
  have hnames : message.parts.tail.map Part.filename? = [some []] := by
    rw [Mail.filenames_of_compose htypes hmessage, submission,
      List.map_singleton, String.toList_empty]
  refine ⟨_, hl, fun h ↦ ?_, message, hmessage, ?_⟩
  · rw [listedFiles_enclosing] at h
    rw [submission] at h
    obtain ⟨⟨_, _, ha⟩, -⟩ := List.forall₂_cons.mp h.attachments
    exact ha.nonempty rfl
  · exact List.mem_map.mp (hnames ▸ List.mem_cons_self)

end MailDispatch
