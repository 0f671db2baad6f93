import MailDispatch.Proofs.Address.Reads
import MailDispatch.Proofs.Message.Composition
import MailDispatch.Proofs.Message.Recipients
import MailDispatch.Proofs.Task.Contents

/-!
# Line breaks in headers

Header values are written as they are, so that a line break in one begins another header. Subjects,
file names and content types cannot bring one in, and neither can the identifier of a message.
Addresses can, since white space in a quoted name or in a comment is accepted: what they hold is
what decides.
-/

namespace MailDispatch

open Text (IsUnbroken)
open Address (ofText? validate)

/-! ## File names -/

namespace Disposition

theorem isUnbroken_escaped {c : Char} (h : c ∉ ['\r', '\n']) : IsUnbroken (escaped c) := by
  rw [escaped]
  split
  · exact Text.isUnbroken_cons.mpr ⟨by decide, Text.isUnbroken_cons.mpr ⟨h, fun _ h ↦ nomatch h⟩⟩
  · exact Text.isUnbroken_cons.mpr ⟨h, fun _ h ↦ nomatch h⟩

theorem isUnbroken_percentEncoded (b : UInt8) : IsUnbroken (percentEncoded b) := by
  -- two digits for each of the few bytes there are
  have hall : ∀ n < 256, IsUnbroken (percentEncoded (UInt8.ofNat n)) := by decide +kernel
  have h := hall b.toNat b.toNat_lt
  rwa [UInt8.ofNat_toNat] at h

/-- The header of an attachment holds a line break only if the file name does. -/
theorem isUnbroken_value {filename : List Char} (h : IsUnbroken filename) :
    IsUnbroken (value filename) := by
  rw [value, Text.isUnbroken_append, parameter]
  refine ⟨by decide, ?_⟩
  split
  · exact fun _ h ↦ nomatch h
  · split
    · rw [Text.isUnbroken_append, Text.isUnbroken_append]
      exact ⟨by decide, Text.isUnbroken_flatMap fun c hc ↦ isUnbroken_escaped (h c hc), by decide⟩
    · rw [Text.isUnbroken_append]
      exact ⟨by decide, Text.isUnbroken_flatMap fun b _ ↦ isUnbroken_percentEncoded b⟩

end Disposition

/-! ## Messages -/

/-- The headers of a message and of its parts. -/
def Message.allHeaders (message : Message) : Headers :=
  message.headers ++ message.parts.flatMap Part.headers

/-- No header of the message or of a part of it holds a line break. -/
def Message.IsUnbroken (message : Message) : Prop :=
  ∀ header ∈ message.allHeaders, Text.IsUnbroken header.2.toList

namespace Mail

variable {m : Mail} {w : Workspace} {stamp : Stamp}

theorem isUnbroken_encodedHeaders {contentType : String} (h : IsUnbroken contentType.toList) :
    ∀ header ∈ encodedHeaders contentType, IsUnbroken header.2.toList := by
  rw [encodedHeaders, List.forall_mem_cons]
  exact ⟨h, by decide⟩

theorem isUnbroken_bodyPart (m : Mail) :
    ∀ header ∈ m.bodyPart.headers, IsUnbroken header.2.toList := by
  refine isUnbroken_encodedHeaders ?_
  rw [bodySubtype]
  cases m.isHtml <;> decide

theorem isUnbroken_attachmentPart {a : Attachment} (h : a.IsUnbroken) (content : List UInt8) :
    ∀ header ∈ (attachmentPart a content).headers, IsUnbroken header.2.toList := by
  rw [attachmentPart, List.forall_mem_append, List.forall_mem_singleton, String.toList_ofList]
  exact ⟨isUnbroken_encodedHeaders h.contentType, Disposition.isUnbroken_value h.filename⟩

/-- The parts that are read for attachments without line breaks have none either. -/
theorem isUnbroken_readAttachments (h : ∀ a ∈ m.attachments, a.IsUnbroken) {parts : List Part}
    (hparts : m.readAttachments w = .ok parts) :
    ∀ part ∈ parts, ∀ header ∈ part.headers, IsUnbroken header.2.toList := by
  have hread : ∀ a ∈ m.attachments,
      EndsIn (fun part ↦ ∀ header ∈ part.headers, IsUnbroken header.2.toList) (fun _ ↦ True)
        (readAttachment w a) := by
    intro a ha
    refine EndsIn.bind (.any _) fun content (_ : True) ↦ ?_
    split
    · exact isUnbroken_attachmentPart (h a ha) content
    · trivial
  exact (EndsIn.mapM hread).of_ok hparts

/-- The domain in the identifier of a message is that of the sender's address. -/
theorem isUnbroken_messageId {a : List Char} (h : ofText? m.sender.toList = some a)
    (htoken : IsUnbroken stamp.token.toList) : IsUnbroken (m.messageId stamp).toList := by
  obtain ⟨localPart, name, hread⟩ := Address.exists_hasParts (Address.ofText?_eq_some.mp h).2.1
  have hparts := hread _ h
  have hdomain : IsUnbroken name := .of_all (p := fun c ↦ !Text.isBlank c) (by decide) (by decide)
    (List.all_eq_true.mpr fun c hc ↦ by simpa using hparts.unblank c hc)
  rw [messageId, hparts.domainOf]
  simp only [String.toList_append, String.toList_ofList, Text.isUnbroken_append]
  exact ⟨⟨⟨⟨by decide, htoken⟩, by decide⟩, hdomain⟩, by decide⟩

/-- Where a header of a message comes from. -/
theorem mem_allHeaders_assemble {parts : List Part} {header : String × String} :
    header ∈ (m.assemble stamp parts).allHeaders → header ∈ m.envelope stamp ∨
      header ∈ m.bodyPart.headers ∨
      header ∈ [("Content-Type", "multipart/mixed"), ("MIME-Version", "1.0")] ∨
      ∃ part ∈ parts, header ∈ part.headers := by
  rw [Message.allHeaders, List.mem_append, List.mem_flatMap]
  cases parts with
  | nil =>
    have hsingle : header ∈ m.bodyPart.headers ++ m.envelope stamp →
        header ∈ m.envelope stamp ∨ header ∈ m.bodyPart.headers := fun h ↦
      (List.mem_append.mp h).symm
    rintro (h | ⟨part, hpart, h⟩)
    · exact (hsingle h).imp id .inl
    · obtain rfl := List.mem_singleton.mp hpart
      exact (hsingle h).imp id .inl
  | cons part rest =>
    rintro (h | ⟨other, hother, h⟩)
    · rcases List.mem_append.mp h with h | h
      · exact .inr (.inr (.inl h))
      · exact .inl h
    · rcases List.mem_cons.mp hother with rfl | hother
      · exact .inr (.inl h)
      · exact .inr (.inr (.inr ⟨other, hother, h⟩))

theorem mem_allHeaders_of_mem_envelope {header : String × String} (h : header ∈ m.envelope stamp)
    (parts : List Part) : header ∈ (m.assemble stamp parts).allHeaders := by
  refine List.mem_append_left _ ?_
  cases parts with
  | nil => exact List.mem_append_right _ h
  | cons part rest => exact List.mem_append_right _ h

/-- The headers that name the sender and the recipients. -/
def addressHeaders (m : Mail) : Headers :=
  [("From", m.sender), ("Sender", m.sender), ("To", String.intercalate ", " m.recipients)]

theorem mem_envelope_of_mem_addressHeaders {header : String × String}
    (h : header ∈ m.addressHeaders) : header ∈ m.envelope stamp :=
  List.mem_append_left [("Subject", m.subject), ("Date", stamp.date),
    ("Message-ID", m.messageId stamp), ("X-Mailer", "mailtask")] h

/-- The other headers of a message hold no line break. -/
theorem mem_addressHeaders_or_isUnbroken {a : List Char}
    (hsender : ofText? m.sender.toList = some a) (hsubject : IsUnbroken m.subject.toList)
    (hdate : IsUnbroken stamp.date.toList) (htoken : IsUnbroken stamp.token.toList)
    {parts : List Part}
    (hparts : ∀ part ∈ parts, ∀ header ∈ part.headers, IsUnbroken header.2.toList) :
    ∀ header ∈ (m.assemble stamp parts).allHeaders,
      header ∈ m.addressHeaders ∨ IsUnbroken header.2.toList := by
  intro header h
  rcases mem_allHeaders_assemble h with h | h | h | ⟨part, hpart, h⟩
  · -- the addresses come first in the envelope, and four other headers behind them
    have hothers : ∀ header ∈ [("Subject", m.subject), ("Date", stamp.date),
        ("Message-ID", m.messageId stamp), ("X-Mailer", "mailtask")],
        IsUnbroken header.2.toList := by
      rw [List.forall_mem_cons, List.forall_mem_cons, List.forall_mem_cons]
      exact ⟨hsubject, hdate, isUnbroken_messageId hsender htoken, by decide⟩
    rcases List.mem_append.mp (show header ∈ m.addressHeaders ++ _ from h) with h | h
    · exact .inl h
    · exact .inr (hothers header h)
  · exact .inr (isUnbroken_bodyPart m header h)
  · have hfixed : ∀ header ∈ [("Content-Type", "multipart/mixed"), ("MIME-Version", "1.0")],
        IsUnbroken header.2.toList := by decide
    exact .inr (hfixed header h)
  · exact .inr (hparts part hpart header h)

end Mail

theorem exists_ofText?_sender {p : TaskParameters} {d : MailDefaults} {s : String}
    (h : (p.sender d).result = .ok s) : ∃ a, ofText? s.toList = some a := by
  unfold TaskParameters.sender at h
  obtain ⟨own, -, h⟩ := Traced.bind_eq_ok h
  obtain ⟨chosen, -, h⟩ := Traced.bind_eq_ok h
  obtain ⟨a, -, ha⟩ := validate_eq_ok h
  exact ⟨a, ha⟩

/-- In a message composed for a task, line breaks get into headers only by the addresses of the
sender and the recipients, and every line break of those does. -/
theorem isUnbroken_iff_addresses {p : TaskParameters} {c : OperatorConfig} {body : String}
    {m : Mail} {w : Workspace} {stamp : Stamp} {message : Message} (hm : (p.mail c body).result = .ok m)
    (hmessage : (m.compose w stamp).result = .ok message)
    (hdate : IsUnbroken stamp.date.toList) (htoken : IsUnbroken stamp.token.toList) :
    (∀ header ∈ message.allHeaders, header.1 ∉ ["From", "Sender", "To"] →
        IsUnbroken header.2.toList) ∧
      (message.IsUnbroken ↔
        IsUnbroken m.sender.toList ∧ ∀ r ∈ m.recipients, IsUnbroken r.toList) := by
  obtain ⟨-, -, hsender, hsubject, hattachments, -, -⟩ := TaskParameters.mail_eq_ok hm
  obtain ⟨parts, hparts, rfl⟩ := Mail.compose_eq_ok hmessage
  obtain ⟨a, ha⟩ := exists_ofText?_sender hsender
  have hall := Mail.mem_addressHeaders_or_isUnbroken ha (isUnbroken_subject hsubject) hdate htoken
    (Mail.isUnbroken_readAttachments (isUnbroken_attachments hattachments) hparts)
  have haddresses : (∀ header ∈ m.addressHeaders, IsUnbroken header.2.toList) ↔
      IsUnbroken m.sender.toList ∧ ∀ r ∈ m.recipients, IsUnbroken r.toList := by
    rw [Mail.addressHeaders, List.forall_mem_cons, List.forall_mem_cons,
      List.forall_mem_singleton, String.toList_intercalate, Text.isUnbroken_intercalate (by decide),
      List.forall_mem_map]
    constructor
    · exact fun h ↦ h.2
    · exact fun h ↦ ⟨h.1, h⟩
  refine ⟨fun header h hname ↦ (hall header h).resolve_left fun h ↦ hname ?_, ?_⟩
  · exact List.mem_map_of_mem h
  · rw [← haddresses]
    constructor
    · intro h header hmem
      exact h header
        (Mail.mem_allHeaders_of_mem_envelope (Mail.mem_envelope_of_mem_addressHeaders hmem) parts)
    · intro h header hmem
      rcases hall header hmem with hmem | hmem
      · exact h header hmem
      · exact hmem

/-- A task for one recipient, with everything else of the plainest kind. -/
private def letterTask (recipient : String) : TaskParameters where
  raw := [("to", .text recipient), ("from", .text "a@b.c"), ("subject", .text "Hi"),
    ("host", .text "mx"), ("port", .int 25)]
  secrets := .ofTable []

/-- The mail of such a task. -/
private def letterTo (recipient : String) : Mail where
  recipients := [recipient]
  sender := "a@b.c"
  subject := "Hi"
  isHtml := false
  body := "Hello"
  endpoint := { host := "mx", port := 25 }
  attachments := []

/-- A letter to a plain address has unbroken headers. -/
theorem isUnbroken_plain_letter :
    ((letterTask "x@y").mail {} "Hello").result = .ok (letterTo "x@y") ∧
      ∃ message, ((letterTo "x@y").compose ⟨.empty, []⟩ ⟨"now", "1", "here"⟩).result =
        .ok message ∧ message.IsUnbroken := by
  have hmail : ((letterTask "x@y").mail {} "Hello").result = .ok (letterTo "x@y") := by cbv
  have hmessage := Mail.compose_of_no_attachments (m := letterTo "x@y") rfl ⟨.empty, []⟩
    ⟨"now", "1", "here"⟩
  exact ⟨hmail, _, hmessage,
    (isUnbroken_iff_addresses hmail hmessage (by decide) (by decide)).2.mpr (by decide)⟩

/-- A recipient whose quoted name holds line breaks: the mail is collected and composed, and one of
the lines in its headers is a header that nobody checked. -/
theorem not_isUnbroken_quoted_name :
    ∃ m message,
      ((letterTask "\"Alice\nBcc: eve@evil.org\n\" <alice@example.com>").mail {} "Hello").result =
          .ok m ∧
        (m.compose ⟨.empty, []⟩ ⟨"now", "1", "here"⟩).result = .ok message ∧
        ¬ message.IsUnbroken := by
  refine ⟨letterTo "\"Alice\nBcc: eve@evil.org\n\" <alice@example.com>", _, by cbv,
    Mail.compose_of_no_attachments rfl _ _, fun h ↦ ?_⟩
  have hto := h _ (Mail.mem_allHeaders_of_mem_envelope
    (Mail.mem_envelope_of_mem_addressHeaders (List.mem_cons_of_mem _
      (List.mem_cons_of_mem _ List.mem_cons_self))) [])
  exact absurd hto (by decide)

end MailDispatch
