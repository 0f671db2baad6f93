import MailDispatch.Proofs.Task.Endpoint
import MailDispatch.Proofs.Text.Pieces

/-!
# What the parts of a mail look like

What was accepted as part of a mail has a shape that later steps rely on. A content type is made of
two words around a slash. Subjects and attachments hold no line break, since they go into headers.
-/

namespace MailDispatch

/-! ## Content types -/

/-- A content type consists of two words and a slash between them. -/
theorem exists_words_of_isContentType {s : List Char} (h : isContentType s) :
    ∃ type subtype, s = type ++ '/' :: subtype ∧ type.all isContentTypeChar ∧
      subtype.all isContentTypeChar := by
  unfold isContentType at h
  split at h
  · next type subtype hp =>
    simp only [Bool.and_eq_true] at h
    refine ⟨type, subtype, ?_, h.1.2, h.2⟩
    rw [← Text.intercalate_pieces '/' s, hp]
    simp [List.intercalate]
  · cases h

theorem contains_slash_of_isContentType {s : List Char} (h : isContentType s) :
    s.contains '/' := by
  obtain ⟨type, subtype, rfl, -, -⟩ := exists_words_of_isContentType h
  simp

/-! ## Line breaks -/

namespace Text

/-- A text without carriage returns and line feeds. -/
def IsUnbroken (s : List Char) : Prop := ∀ c ∈ s, c ∉ ['\r', '\n']

instance : DecidablePred IsUnbroken := fun s ↦ List.decidableBAll _ s

theorem isUnbroken_append {s t : List Char} :
    IsUnbroken (s ++ t) ↔ IsUnbroken s ∧ IsUnbroken t :=
  List.forall_mem_append

theorem isUnbroken_cons {c : Char} {s : List Char} :
    IsUnbroken (c :: s) ↔ c ∉ ['\r', '\n'] ∧ IsUnbroken s :=
  List.forall_mem_cons

theorem IsUnbroken.of_all {p : Char → Bool} (hr : p '\r' = false) (hn : p '\n' = false)
    {s : List Char} (h : s.all p = true) : IsUnbroken s := by
  intro c hc hmem
  have hpc := List.all_eq_true.mp h c hc
  simp only [List.mem_cons, List.not_mem_nil, or_false] at hmem
  rcases hmem with rfl | rfl
  · exact absurd hpc (by rw [hr]; decide)
  · exact absurd hpc (by rw [hn]; decide)

theorem isUnbroken_flatMap {α : Type} {f : α → List Char} {l : List α}
    (h : ∀ a ∈ l, IsUnbroken (f a)) : IsUnbroken (l.flatMap f) := by
  intro c hc
  obtain ⟨a, ha, hc⟩ := List.mem_flatMap.mp hc
  exact h a ha c hc

theorem isUnbroken_intercalate {separator : List Char} (hs : IsUnbroken separator)
    (l : List (List Char)) :
    IsUnbroken (separator.intercalate l) ↔ ∀ s ∈ l, IsUnbroken s := by
  induction l with
  | nil =>
    constructor
    · exact fun _ s hs ↦ nomatch hs
    · exact fun _ c hc ↦ nomatch hc
  | cons s rest ih =>
    cases rest with
    | nil => rw [List.intercalate_singleton, List.forall_mem_singleton]
    | cons t rest =>
      rw [List.intercalate_cons_cons, isUnbroken_append, isUnbroken_append, ih,
        List.forall_mem_cons (a := s)]
      constructor
      · exact fun h ↦ ⟨h.1.1, h.2⟩
      · exact fun h ↦ ⟨⟨h.1, hs⟩, h.2⟩

end Text

open Text (IsUnbroken)

theorem isUnbroken_of_isContentType {s : List Char} (h : isContentType s) : IsUnbroken s := by
  obtain ⟨type, subtype, rfl, htype, hsubtype⟩ := exists_words_of_isContentType h
  have hr : isContentTypeChar '\r' = false := by decide
  have hn : isContentTypeChar '\n' = false := by decide
  rw [Text.isUnbroken_append, Text.isUnbroken_cons]
  exact ⟨.of_all hr hn htype, by decide, .of_all hr hn hsubtype⟩

theorem isUnbroken_of_headerText {key s t : String} (h : headerText key s = .ok t) :
    IsUnbroken t.toList := by
  rw [headerText] at h
  split at h
  · cases h
  · next hbreak =>
    cases h
    simp only [Bool.or_eq_true, List.contains_iff_mem, not_or] at hbreak
    intro c hc hmem
    simp only [List.mem_cons, List.not_mem_nil, or_false] at hmem
    rcases hmem with rfl | rfl
    · exact hbreak.1 hc
    · exact hbreak.2 hc

theorem isUnbroken_subject {p : TaskParameters} {d : MailDefaults} {s : String}
    (h : (p.subject d).result = .ok s) : IsUnbroken s.toList := by
  unfold TaskParameters.subject at h
  obtain ⟨given, -, h⟩ := Traced.bind_eq_ok h
  obtain ⟨own, -, h⟩ := Traced.bind_eq_ok h
  obtain ⟨chosen, -, h⟩ := Traced.bind_eq_ok h
  exact isUnbroken_of_headerText h

/-! ## Attachments -/

namespace Attachment

/-- No part of an attachment that goes into a header holds a line break. -/
structure IsUnbroken (a : Attachment) : Prop where
  contentType : Text.IsUnbroken a.contentType.toList
  filename : Text.IsUnbroken a.filename.toList

variable {key : String} {entry : Table}

/-- A text that was checked as part of a header. -/
theorem isUnbroken_checked (v : Value) :
    EndsIn (fun s ↦ Text.IsUnbroken s.toList) (fun _ ↦ True)
      ((Setting.asText key v).bind (headerText key)) :=
  EndsIn.bind (.any _) fun _ (_ : True) ↦
    .of_forall_ok fun _ ↦ isUnbroken_of_headerText

theorem isUnbroken_pathOf :
    EndsIn (fun s ↦ Text.IsUnbroken s.toList) (fun _ ↦ True) (pathOf key entry) := by
  rw [pathOf]
  split
  · exact isUnbroken_checked _
  · trivial

theorem isUnbroken_filenameOf :
    EndsIn (fun s ↦ Text.IsUnbroken s.toList) (fun _ ↦ True) (filenameOf key entry) := by
  rw [filenameOf]
  split
  · exact fun c hc ↦ nomatch hc
  · exact isUnbroken_checked _

/-- A content type that was given is checked, and the one that stands in for it is one too. -/
theorem isContentType_contentTypeOf :
    EndsIn (fun s ↦ isContentType s.toList) (fun _ ↦ True) (contentTypeOf key entry) := by
  refine .of_forall_ok fun s h ↦ ?_
  have hdefault : isContentType defaultContentType.toList := by decide
  have hrefused : ∀ v : Value, (v.literal.bind fun shown ↦ Setting.refuse (key ++ ".content_type")
      ("expected type/subtype, got " ++ shown)) ≠ .ok s := by
    intro v
    cases v.literal <;> exact fun h ↦ nomatch h
  unfold contentTypeOf at h
  split at h
  · cases h
    exact hdefault
  · next v _ =>
    split at h
    · split at h
      · next hs =>
        cases h
        exact hs
      · exact absurd h (hrefused _)
    · exact absurd h (hrefused _)

theorem isUnbroken_named {path contentType filename : String}
    (hp : Text.IsUnbroken path.toList) (hc : Text.IsUnbroken contentType.toList)
    (hf : Text.IsUnbroken filename.toList) : (named path contentType filename).IsUnbroken := by
  refine ⟨hc, ?_⟩
  rw [named]
  split
  · rw [defaultFilename, String.toList_ofList]
    exact fun c hc ↦ hp c (Text.mem_of_mem_lastPiece hc)
  · exact hf

theorem isContentType_ofEntry (v : Value) :
    EndsIn (fun a ↦ isContentType a.contentType.toList) (fun _ ↦ True) (ofEntry key v) := by
  cases v with
  | table entry =>
    exact EndsIn.bind (.any _) fun _ (_ : True) ↦
      isContentType_contentTypeOf.bind fun _ hc ↦
        EndsIn.bind (.any _) fun _ (_ : True) ↦ hc
  | _ => trivial

theorem isUnbroken_ofEntry (v : Value) : EndsIn IsUnbroken (fun _ ↦ True) (ofEntry key v) := by
  cases v with
  | table entry =>
    exact isUnbroken_pathOf.bind fun _ hp ↦ isContentType_contentTypeOf.bind fun _ hc ↦
      isUnbroken_filenameOf.bind fun _ hf ↦
        isUnbroken_named hp (isUnbroken_of_isContentType hc) hf
  | _ => trivial

/-- What holds of the attachment for each entry holds of all attachments. -/
theorem forall_ofEntries {post : Attachment → Prop} {fails : Failure → Prop} {entries : List Value}
    (h : ∀ v ∈ entries, ∀ key, EndsIn post fails (ofEntry key v)) (index : Nat) :
    EndsIn (fun l ↦ ∀ a ∈ l, post a) fails (ofEntries index entries) := by
  induction entries generalizing index with
  | nil => exact fun a ha ↦ nomatch ha
  | cons v rest ih =>
    rw [List.forall_mem_cons] at h
    exact (h.1 _).bind fun a ha ↦ (ih h.2 (index + 1)).bind fun l hl ↦
      List.forall_mem_cons.mpr ⟨ha, hl⟩

end Attachment

/-- The attachments of a task come from the entries of a list. -/
theorem forall_attachments {post : Attachment → Prop}
    (h : ∀ v key, EndsIn post (fun _ ↦ True) (Attachment.ofEntry key v)) {p : TaskParameters}
    {l : List Attachment} (hl : p.attachments.result = .ok l) : ∀ a ∈ l, post a := by
  unfold TaskParameters.attachments at hl
  obtain ⟨given, -, hl⟩ := Traced.bind_eq_ok hl
  split at hl
  · cases hl
    exact fun a ha ↦ nomatch ha
  · split at hl
    · cases hl
    · exact (Attachment.forall_ofEntries (fun v _ key ↦ h v key) 0).of_ok hl

theorem isUnbroken_attachments {p : TaskParameters} {l : List Attachment}
    (h : p.attachments.result = .ok l) : ∀ a ∈ l, a.IsUnbroken :=
  forall_attachments (fun v _ ↦ Attachment.isUnbroken_ofEntry v) h

theorem isContentType_attachments {p : TaskParameters} {l : List Attachment}
    (h : p.attachments.result = .ok l) : ∀ a ∈ l, isContentType a.contentType.toList :=
  forall_attachments (fun v _ ↦ Attachment.isContentType_ofEntry v) h

end MailDispatch
