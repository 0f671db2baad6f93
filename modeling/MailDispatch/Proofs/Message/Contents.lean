import MailDispatch.Proofs.Message.Base64
import MailDispatch.Proofs.Message.Composition
import MailDispatch.Proofs.Message.Disposition
import MailDispatch.Proofs.Task.Contents

/-!
# What a message carries

A composed message carries all of its mail: the body as text, and every attachment with its content
type, its name and its bytes, in the order of the mail. What a part holds is what its recipient gets
out of it by following its headers, so that the writing of bytes and names is seen from the other
end. Composing fails only if an attachment cannot be read, and then as the first such attachment.
-/

namespace MailDispatch

/-! ## Parts as they are received -/

namespace Part

/-- The bytes that a part in base64 holds. -/
def bytes? (part : Part) : Option (List UInt8) :=
  if part.headers.value? "Content-Transfer-Encoding" = some "base64" then
    Base64.decode part.payload.toList
  else none

/-- The file name with which a part is marked. -/
def filename? (part : Part) : Option (List Char) :=
  (part.headers.value? "Content-Disposition").bind fun value ↦
    Disposition.filenameOf? value.toList

/-- The part is the body of a mail: text in UTF-8, marked up or plain. -/
structure IsBody (part : Part) (m : Mail) : Prop where
  contentType : part.headers.contentType = if m.isHtml then "text/html" else "text/plain"
  declared : part.headers.value? "Content-Type" =
    some ("text/" ++ (if m.isHtml then "html" else "plain") ++ "; charset=\"utf-8\"")
  bytes : part.bytes? = some (Text.encode m.body.toList)

/-- The part carries an attachment with the given content. -/
structure Carries (part : Part) (a : Attachment) (content : List UInt8) : Prop where
  contentType : part.headers.value? "Content-Type" = some a.contentType
  filename : part.filename? = some a.filename.toList
  bytes : part.bytes? = some content

end Part

/-- The message carries a mail out of a workspace: its body alone, or its body and behind it one
part for each attachment. -/
inductive Message.Carries (m : Mail) (w : Workspace) : Message → Prop
  | single {part : Part} (hnone : m.attachments = []) (hbody : part.IsBody m) :
    Carries m w (.single part)
  | multipart {headers : Headers} {body : Part} {parts : List Part} (hsome : m.attachments ≠ [])
    (htype : headers.value? "Content-Type" = some "multipart/mixed") (hbody : body.IsBody m)
    (hparts : List.Forall₂
      (fun a part ↦ ∃ content, w.readBytes a.path = .ok content ∧ part.Carries a content)
      m.attachments parts) :
    Carries m w (.multipart headers (body :: parts))

/-- All attachments that a message carries could be read. -/
theorem Message.Carries.readable {m : Mail} {w : Workspace} {message : Message}
    (h : message.Carries m w) :
    ∀ a ∈ m.attachments, ∃ content, w.readBytes a.path = .ok content := by
  cases h with
  | single hnone _ =>
    rw [hnone]
    exact List.forall_mem_nil _
  | multipart _ _ _ hparts =>
    have hread : List.Forall₂
        (fun a (_ : Part) ↦ (∃ content, w.readBytes a.path = .ok content) ∧ True)
        m.attachments _ :=
      hparts.imp fun a part ⟨content, hcontent, _⟩ ↦ ⟨⟨content, hcontent⟩, trivial⟩
    exact ((List.forall₂_and_left _ _).mp hread).1

namespace Mail

/-- The failure to read the first attachment that cannot be read. -/
def FirstUnreadable (m : Mail) (w : Workspace) (e : Failure) : Prop :=
  ∃ before a after cause, m.attachments = before ++ a :: after ∧
    (∀ earlier ∈ before, ∃ content, w.readBytes earlier.path = .ok content) ∧
    w.readBytes a.path = .error cause ∧ e = unreadable a.path cause

variable {m : Mail} {w : Workspace} {stamp : Stamp}

/-! ## Parts as they are composed -/

theorem bytes?_of_encoded {part : Part} {bs : List UInt8}
    (hencoding : part.headers.value? "Content-Transfer-Encoding" = some "base64")
    (hpayload : part.payload = String.ofList (Base64.encodeLines bs)) : part.bytes? = some bs := by
  rw [Part.bytes?, if_pos hencoding, hpayload, String.toList_ofList, Base64.decode_encodeLines]

/-- The headers behind those of the body do not matter to what it holds. -/
theorem isBody_bodyPart (m : Mail) (more : Headers) :
    Part.IsBody ⟨m.bodyPart.headers ++ more, m.bodyPart.payload⟩ m where
  contentType := by
    have hdeclared : (m.bodyPart.headers ++ more).value? "Content-Type" =
        some ("text/" ++ m.bodySubtype ++ "; charset=\"utf-8\"") := rfl
    rw [Headers.contentType, hdeclared, bodySubtype]
    cases m.isHtml <;> decide
  declared := rfl
  bytes := bytes?_of_encoded rfl rfl

theorem carries_attachmentPart (a : Attachment) (content : List UInt8) :
    (attachmentPart a content).Carries a content where
  contentType := rfl
  filename := by
    have hdeclared : (attachmentPart a content).headers.value? "Content-Disposition" =
        some (String.ofList (Disposition.value a.filename.toList)) := rfl
    rw [Part.filename?, hdeclared, Option.bind_some, String.toList_ofList,
      Disposition.filenameOf?_value]
  bytes := bytes?_of_encoded rfl rfl

/-- With a content type of two parts, an attachment fails to become a part only if its file cannot
be read. -/
theorem readAttachment_eq {a : Attachment} (h : isContentType a.contentType.toList) :
    readAttachment w a = ((w.readBytes a.path).mapError (unreadable a.path)).map
      (attachmentPart a) := by
  rw [readAttachment]
  simp only [contains_slash_of_isContentType h, if_true]
  cases w.readBytes a.path <;> rfl

theorem readAttachment_eq_ok_iff {a : Attachment} (h : isContentType a.contentType.toList)
    {part : Part} : readAttachment w a = .ok part ↔
      ∃ content, w.readBytes a.path = .ok content ∧ part = attachmentPart a content := by
  rw [readAttachment_eq h, map_eq_ok_iff]
  simp only [mapError_eq_ok_iff]

theorem readAttachment_eq_error_iff {a : Attachment} (h : isContentType a.contentType.toList)
    {e : Failure} : readAttachment w a = .error e ↔
      ∃ cause, w.readBytes a.path = .error cause ∧ e = unreadable a.path cause := by
  rw [readAttachment_eq h, map_eq_error_iff, mapError_eq_error_iff]

/-! ## All attachments -/

/-- The parts that were read carry the attachments, in their order. -/
theorem carries_readAttachments (h : ∀ a ∈ m.attachments, isContentType a.contentType.toList)
    {parts : List Part} (hparts : m.readAttachments w = .ok parts) :
    List.Forall₂
      (fun a part ↦ ∃ content, w.readBytes a.path = .ok content ∧ part.Carries a content)
      m.attachments parts := by
  have hread := (List.forall₂_and_left _ _).mpr ⟨h, mapM_eq_ok_iff.mp hparts⟩
  refine hread.imp ?_
  rintro a part ⟨ha, hpart⟩
  obtain ⟨content, hcontent, rfl⟩ := (readAttachment_eq_ok_iff ha).mp hpart
  exact ⟨content, hcontent, carries_attachmentPart a content⟩

/-- Reading stops at the first attachment that cannot be read. -/
theorem readAttachments_eq_error_iff
    (h : ∀ a ∈ m.attachments, isContentType a.contentType.toList) {e : Failure} :
    m.readAttachments w = .error e ↔ m.FirstUnreadable w e := by
  rw [readAttachments, mapM_eq_error_iff]
  constructor
  · rintro ⟨before, a, after, hsplit, hbefore, ha⟩
    rw [hsplit, List.forall_mem_append, List.forall_mem_cons] at h
    obtain ⟨cause, hcause, he⟩ := (readAttachment_eq_error_iff h.2.1).mp ha
    refine ⟨before, a, after, cause, hsplit, fun earlier hmem ↦ ?_, hcause, he⟩
    obtain ⟨part, hpart⟩ := hbefore earlier hmem
    obtain ⟨content, hcontent, -⟩ := (readAttachment_eq_ok_iff (h.1 earlier hmem)).mp hpart
    exact ⟨content, hcontent⟩
  · rintro ⟨before, a, after, cause, hsplit, hbefore, hcause, he⟩
    rw [hsplit, List.forall_mem_append, List.forall_mem_cons] at h
    refine ⟨before, a, after, hsplit, fun earlier hmem ↦ ?_,
      (readAttachment_eq_error_iff h.2.1).mpr ⟨cause, hcause, he⟩⟩
    obtain ⟨content, hcontent⟩ := hbefore earlier hmem
    exact ⟨attachmentPart earlier content,
      (readAttachment_eq_ok_iff (h.1 earlier hmem)).mpr ⟨content, hcontent, rfl⟩⟩

/-! ## Messages -/

/-- Composing fails as reading the attachments does. -/
theorem result_compose (m : Mail) (w : Workspace) (stamp : Stamp) :
    (m.compose w stamp).result = (m.readAttachments w).map (m.assemble stamp) := by
  rw [compose, Traced.result_bind, Traced.result_monadLift]
  cases m.readAttachments w <;> rfl

/-- A message that was assembled from parts for all attachments carries the mail. -/
theorem carries_assemble {parts : List Part}
    (h : List.Forall₂
      (fun a part ↦ ∃ content, w.readBytes a.path = .ok content ∧ part.Carries a content)
      m.attachments parts) : (m.assemble stamp parts).Carries m w := by
  cases parts with
  | nil => exact .single (List.forall₂_nil_right_iff.mp h) (isBody_bodyPart m _)
  | cons part rest =>
    refine .multipart ?_ rfl ?_ h
    · intro hnil
      rw [hnil] at h
      cases h
    · have hbody := isBody_bodyPart m []
      rwa [List.append_nil] at hbody

/-- **Contents.** A composed message carries its mail, whatever the attachments are called and
whatever their files hold. Composing succeeds if all attachments can be read, and fails as the first
one that cannot. Attachments with different names are marked differently. -/
theorem composed_carries (h : ∀ a ∈ m.attachments, isContentType a.contentType.toList)
    (w : Workspace) (stamp : Stamp) :
    (∀ message, (m.compose w stamp).result = .ok message → message.Carries m w) ∧
      ((∃ message, (m.compose w stamp).result = .ok message) ↔
        ∀ a ∈ m.attachments, ∃ content, w.readBytes a.path = .ok content) ∧
      (∀ e, (m.compose w stamp).result = .error e ↔ m.FirstUnreadable w e) ∧
      Function.Injective Disposition.value := by
  have hcarries : ∀ message, (m.compose w stamp).result = .ok message → message.Carries m w := by
    intro message hmessage
    rw [result_compose, map_eq_ok_iff] at hmessage
    obtain ⟨parts, hparts, rfl⟩ := hmessage
    exact carries_assemble (carries_readAttachments h hparts)
  have hfails : ∀ e, (m.compose w stamp).result = .error e ↔ m.FirstUnreadable w e := by
    intro e
    rw [result_compose, map_eq_error_iff, readAttachments_eq_error_iff h]
  refine ⟨hcarries, ?_, hfails, Disposition.value_injective⟩
  constructor
  · rintro ⟨message, hmessage⟩
    exact (hcarries message hmessage).readable
  · intro hall
    cases hmessage : (m.compose w stamp).result with
    | ok message => exact ⟨message, rfl⟩
    | error e =>
      -- an attachment that cannot be read is none of those that can
      obtain ⟨before, a, after, cause, hsplit, -, hcause, -⟩ := (hfails e).mp hmessage
      obtain ⟨content, hcontent⟩ := hall a (by rw [hsplit]; exact List.mem_append_cons_self)
      cases hcause.symm.trans hcontent

/-- A workspace with an empty file and a note. -/
private def desk : Workspace where
  tree := ⟨[(["ws"], .directory), (["blank", "ws"], .file []),
    (["note", "ws"], .file [0, 13, 10, 255])]⟩
  root := ["ws"]

/-- A mail with both, the note under a name that cannot be written as it is. -/
private def parcel : Mail where
  recipients := ["x@y"]
  sender := "a@b.c"
  subject := "Hi"
  isHtml := true
  body := "Grüße"
  endpoint := { host := "mx", port := 25 }
  attachments := [⟨"blank", "text/plain", "\"blank\""⟩, ⟨"note", "text/x-note", "Grüße.txt"⟩]

/-- The parcel is composed, and the message carries it. -/
theorem composed_carries_parcel :
    (∀ a ∈ parcel.attachments, isContentType a.contentType.toList) ∧
      ∃ message, (parcel.compose desk ⟨"now", "1", "here"⟩).result = .ok message ∧
        message.Carries parcel desk := by
  have htypes : ∀ a ∈ parcel.attachments, isContentType a.contentType.toList := by decide
  obtain ⟨hcarries, hreadable, -⟩ := composed_carries htypes desk ⟨"now", "1", "here"⟩
  have hread : ∀ a ∈ parcel.attachments, ∃ content, desk.readBytes a.path = .ok content := by
    have hblank : desk.readBytes "blank" = .ok [] := by cbv
    have hnote : desk.readBytes "note" = .ok [0, 13, 10, 255] := by cbv
    exact List.forall_mem_cons.mpr ⟨⟨_, hblank⟩, List.forall_mem_singleton.mpr ⟨_, hnote⟩⟩
  obtain ⟨message, hmessage⟩ := hreadable.mpr hread
  exact ⟨htypes, message, hmessage, hcarries message hmessage⟩

end Mail

end MailDispatch
