import MailDispatch.Body
import MailDispatch.Proofs.Task.Contents
import MailDispatch.Proofs.Value.Writable
import MailDispatch.Task.Contents

/-!
# How the preparation of a mail fails

A preparation fails for one of the reasons that a sender anticipates, except in two cases: it has
to write an integer that is too long, or a path of the workspace leads around in a circle of links.
`Foreseen` says so under two propositions, that all values are writable and that no path leads
around in circles, either of which rules its case out. They are kept apart and need not hold: the
same lemmas then say which failures there are at all. What has to do with settings alone, and so
everything up to the mail, fails for fewer reasons: `Unusable` lists them.
-/

namespace MailDispatch

/-- A failure that is anticipated, or one of the two others where nothing rules it out. -/
def Foreseen (writable loopFree : Prop) : Failure → Prop
  | .configuration _ => True
  | .attachment .. => True
  | .template .. => True
  | .longInteger => ¬writable
  | .linkLoop _ => ¬loopFree
  | _ => False

/-- A failure that unusable settings lead to: an error of the configuration, or an integer that is
too long to be written where nothing rules it out. -/
def Unusable (writable : Prop) : Failure → Prop
  | .configuration _ => True
  | .longInteger => ¬writable
  | _ => False

theorem Unusable.foreseen {writable : Prop} (loopFree : Prop) {e : Failure}
    (h : Unusable writable e) : Foreseen writable loopFree e := by
  cases e with
  | configuration _ => trivial
  | longInteger => exact h
  | _ => exact h.elim

/-- The parameters of the task, and the secrets that it may read, are writable. -/
def TaskParameters.IsWritable (p : TaskParameters) : Prop :=
  (Value.table p.raw).IsWritable ∧
    ∀ key v, p.secrets.answer key = .present v → v.IsWritable

/-- The port of the operator's endpoint is not too long to be written. -/
def OperatorConfig.IsWritable (c : OperatorConfig) : Prop :=
  ∀ e, c.endpoint = some e → (Decimal.numeral? e.port).isSome

variable {writable : Prop}

/-! ## Values and settings -/

/-- Of a value that may be absent: it is writable if everything is. -/
def WritableIf (writable : Prop) (o : Option Value) : Prop :=
  ∀ v, o = some v → writable → v.IsWritable

/-- Of an endpoint: its port is not too long to be written if nothing is. -/
def PortIf (writable : Prop) (e : Endpoint) : Prop :=
  writable → (Decimal.numeral? e.port).isSome

theorem endsIn_orFail {α : Type} {o : Option α} (h : writable → o.isSome) :
    EndsIn (fun _ ↦ True) (Unusable writable) (orFail .longInteger o) := by
  cases o with
  | some a => trivial
  | none => exact fun hw ↦ by simpa using h hw

theorem endsIn_literal {v : Value} (h : writable → v.IsWritable) :
    EndsIn (fun _ ↦ True) (Unusable writable) v.literal :=
  endsIn_orFail h

theorem endsIn_plain {v : Value} (h : writable → v.IsWritable) :
    EndsIn (fun _ ↦ True) (Unusable writable) v.plain :=
  endsIn_orFail fun hw ↦ Value.isSome_text?_iff.mpr (h hw)

namespace Setting

variable {key : String} {v : Value}

theorem endsIn_asText : EndsIn (fun _ ↦ True) (Unusable writable) (asText key v) := by
  cases v <;> trivial

/-- An integer that was written by someone can be written again. -/
theorem endsIn_asInteger (h : writable → v.IsWritable) :
    EndsIn (fun n ↦ writable → (Decimal.numeral? n).isSome) (Unusable writable)
      (asInteger key v) := by
  have hrefuse : EndsIn (fun n ↦ writable → (Decimal.numeral? n).isSome)
      (Unusable writable) (refuseInteger key v) :=
    (endsIn_literal h).bind fun _ _ ↦ trivial
  cases v with
  | bool b => trivial
  | int n => exact fun hw ↦ Value.isWritable_int_iff.mp (h hw)
  | text s =>
    rw [asInteger]
    cases hn : Decimal.readInt? s.toList with
    | some n => exact fun _ ↦ Decimal.isSome_numeral?_of_readInt? hn
    | none => exact hrefuse
  | _ => exact hrefuse

theorem endsIn_asFlag (h : writable → v.IsWritable) :
    EndsIn (fun _ ↦ True) (Unusable writable) (asFlag key v) := by
  have hrefuse : EndsIn (fun _ ↦ True) (Unusable writable) (refuseFlag key v) :=
    (endsIn_literal h).bind fun _ _ ↦ trivial
  cases v with
  | bool b => trivial
  | text s =>
    rw [asFlag]
    cases readFlag? s.toList with
    | some b => trivial
    | none => exact hrefuse
  | _ => exact hrefuse

end Setting

/-! ## Parameters -/

namespace TaskParameters

variable {p : TaskParameters} {key : String}

theorem writableIf_toOption {v : Value} (h : writable → v.IsWritable) :
    WritableIf writable v.toOption := by
  intro u hu
  cases v <;> cases hu <;> exact h

theorem writableIf_plain? (h : writable → p.IsWritable) :
    WritableIf writable (p.plain? key) := by
  rw [plain?]
  cases hv : p.raw.lookup key with
  | some v => exact writableIf_toOption fun hw ↦ (h hw).1.lookup hv
  | none =>
    -- what the task does not set itself may be among the defaults that it brings along
    cases hd : p.raw.lookup defaultsKey with
    | none => exact fun v hv ↦ nomatch hv
    | some d =>
      cases d with
      | table defaults =>
        dsimp only
        cases hu : defaults.lookup key with
        | none => exact fun v hv ↦ nomatch hv
        | some u => exact writableIf_toOption fun hw ↦ ((h hw).1.lookup hd).lookup hu
      | _ => exact fun v hv ↦ nomatch hv

theorem endsIn_get (h : writable → p.IsWritable) :
    EndsIn (WritableIf writable) (Unusable writable) (p.get key).result := by
  have hplain : WritableIf writable (p.allowedPlain? key) := by
    rw [allowedPlain?]
    split
    · exact writableIf_plain? h
    · intro v hv
      cases hv
  have hsecret : EndsIn (WritableIf writable) (Unusable writable)
      (p.secret key).result := by
    show EndsIn _ _ (p.secrets.get? key)
    rw [SecretStore.get?]
    cases hs : p.secrets.answer key with
    | absent =>
      intro v hv
      cases hv
    | present v =>
      intro u hu hw
      cases hu
      exact (h hw).2 key v hs
    | unavailable reason => trivial
  unfold get
  split
  · refine Traced.endsIn_bind hsecret fun o ho ↦ ?_
    cases o with
    | some v => exact ho
    | none => exact hplain
  · exact hplain

theorem endsIn_flag (h : writable → p.IsWritable) {default : Bool} :
    EndsIn (fun _ ↦ True) (Unusable writable) (p.flag key default).result := by
  refine Traced.endsIn_bind (endsIn_get h) fun o ho ↦ ?_
  cases o with
  | none => trivial
  | some v => exact Setting.endsIn_asFlag (ho v rfl)

theorem endsIn_textOrNone {o : Option Value} :
    EndsIn (fun _ ↦ True) (Unusable writable) (textOrNone key o) := by
  cases o with
  | none => trivial
  | some v => exact Setting.endsIn_asText.map fun _ _ ↦ trivial

/-! ## The parts of a mail -/

theorem endsIn_plainPassword :
    EndsIn (fun _ ↦ True) (Unusable writable) p.plainPassword.result := by
  unfold plainPassword
  cases p.plain? "password" <;> trivial

theorem endsIn_endpointAt (h : writable → p.IsWritable) {host : String} :
    EndsIn (PortIf writable) (Unusable writable) (p.endpointAt host).result := by
  unfold endpointAt
  refine Traced.endsIn_bind (endsIn_get h) fun given hgiven ↦ ?_
  cases given with
  | none => trivial
  | some port =>
    refine Traced.endsIn_bind (endsIn_get h) fun _ _ ↦ ?_
    refine Traced.endsIn_bind (endsIn_get h) fun _ _ ↦ ?_
    refine Traced.endsIn_bind endsIn_plainPassword fun _ _ ↦ ?_
    refine Traced.endsIn_bind (Setting.endsIn_asInteger (hgiven port rfl)) fun n hn ↦ ?_
    refine Traced.endsIn_bind (endsIn_flag h) fun _ _ ↦ ?_
    refine Traced.endsIn_bind (endsIn_flag h) fun _ _ ↦ ?_
    refine Traced.endsIn_bind (endsIn_flag h) fun _ _ ↦ ?_
    refine Traced.endsIn_bind endsIn_textOrNone fun _ _ ↦ ?_
    exact Traced.endsIn_bind endsIn_textOrNone fun _ _ ↦ hn

theorem endsIn_endpoint? (h : writable → p.IsWritable) :
    EndsIn (fun o ↦ ∀ e, o = some e → PortIf writable e) (Unusable writable)
      p.endpoint?.result := by
  unfold endpoint?
  refine Traced.endsIn_bind (endsIn_get h) fun given _ ↦ ?_
  cases given with
  | none => exact fun e he ↦ nomatch he
  | some host =>
    refine Traced.endsIn_bind Setting.endsIn_asText fun _ _ ↦ ?_
    refine Traced.endsIn_bind (endsIn_endpointAt h) fun own hown ↦ ?_
    intro e he
    cases he
    exact hown

theorem endsIn_text {e : Endpoint} (h : PortIf writable e) :
    EndsIn (fun _ ↦ True) (Unusable writable) e.text :=
  endsIn_orFail fun hw ↦ by rw [Endpoint.text?, Option.isSome_map]; exact h hw

theorem endsIn_announced {selected : Except Failure Endpoint}
    (h : EndsIn (PortIf writable) (Unusable writable) selected) :
    EndsIn (PortIf writable) (Unusable writable) (Endpoint.announced selected).result :=
  Traced.endsIn_bind h fun _ he ↦ Traced.endsIn_bind (endsIn_text he) fun _ _ ↦ he

theorem endsIn_endpoint {c : OperatorConfig} (h : writable → p.IsWritable)
    (hc : writable → c.IsWritable) :
    EndsIn (PortIf writable) (Unusable writable) (p.endpoint c).result := by
  -- whichever of the two endpoints is taken, its port can be written
  have hselect : ∀ own : Option Endpoint,
      (∀ e, own = some e → PortIf writable e) →
      EndsIn (PortIf writable) (Unusable writable)
        (Endpoint.select own c.endpoint) := by
    intro own hown
    cases own with
    | some e => exact hown e rfl
    | none =>
      cases he : c.endpoint with
      | none => trivial
      | some e => exact fun hw ↦ hc hw e he
  rw [endpoint_eq]
  refine Traced.endsIn_bind (endsIn_endpoint? h) fun own hown ↦ ?_
  split
  · rw [Traced.result_bind, result_warnIgnored]
    exact endsIn_announced (hselect own hown)
  · exact endsIn_announced (hselect own hown)

theorem endsIn_validate {v : Value} (h : writable → v.IsWritable) :
    EndsIn (fun _ ↦ True) (Unusable writable) (Address.validate v) := by
  have hrefuse : EndsIn (fun _ ↦ True) (Unusable writable)
      (Address.refuse v : Except Failure String) := (endsIn_literal h).bind fun _ _ ↦ trivial
  cases v with
  | text s =>
    rw [Address.validate]
    split
    · trivial
    · exact hrefuse
  | _ => exact hrefuse

theorem endsIn_recipients (h : writable → p.IsWritable) :
    EndsIn (fun _ ↦ True) (Unusable writable) p.recipients.result := by
  unfold recipients
  refine Traced.endsIn_bind (endsIn_get h) fun o ho ↦ ?_
  cases o with
  | none => trivial
  | some given =>
    have hmapM : ∀ items : List Value, (∀ v ∈ items, writable → v.IsWritable) →
        EndsIn (fun _ ↦ True) (Unusable writable) (items.mapM Address.validate) :=
      fun items hi ↦ (EndsIn.mapM fun v hv ↦ endsIn_validate (hi v hv)).weaken
        (fun _ _ ↦ trivial) fun _ he ↦ he
    show EndsIn _ _ (recipientsOf given)
    unfold recipientsOf
    split
    · exact hmapM _ fun v hv ↦ by
        rw [List.mem_singleton.mp hv]
        exact fun _ ↦ Value.isWritable_text _
    · split
      · exact (endsIn_literal (ho _ rfl)).bind fun _ _ ↦ trivial
      · trivial
      · next hitems => exact hmapM _ fun v hv hw ↦ (ho _ rfl hw).items hitems v hv

theorem endsIn_require {α : Type} {c : Choice α} {post : α → Prop}
    (h : ∀ a, c = .present a → post a) :
    EndsIn post (Unusable writable) c.require := by
  cases c with
  | present a => exact h a rfl
  | missing field => trivial

theorem endsIn_sender (h : writable → p.IsWritable) {d : MailDefaults} :
    EndsIn (fun _ ↦ True) (Unusable writable) (p.sender d).result := by
  unfold sender
  refine Traced.endsIn_bind (endsIn_get h) fun own hown ↦ ?_
  have hchosen : ∀ v, Choice.first "from" [own, d.sender.map Value.text] = .present v →
      writable → v.IsWritable := by
    intro v hv
    rw [Choice.first_eq_present_iff] at hv
    cases own with
    | some u =>
      cases hv
      exact hown v rfl
    | none =>
      cases hs : d.sender with
      | none => rw [hs] at hv; cases hv
      | some s =>
        rw [hs] at hv
        cases hv
        exact fun _ ↦ Value.isWritable_text s
  refine Traced.endsIn_bind (endsIn_require hchosen) fun v hv ↦ ?_
  exact endsIn_validate hv

theorem endsIn_headerText {s : String} :
    EndsIn (fun _ ↦ True) (Unusable writable) (headerText key s) := by
  unfold headerText
  split <;> trivial

theorem endsIn_subject (h : writable → p.IsWritable) {d : MailDefaults} :
    EndsIn (fun _ ↦ True) (Unusable writable) (p.subject d).result := by
  unfold subject
  refine Traced.endsIn_bind (endsIn_get h) fun given _ ↦ ?_
  refine Traced.endsIn_bind endsIn_textOrNone fun own _ ↦ ?_
  refine Traced.endsIn_bind (endsIn_require fun _ _ ↦ trivial) fun chosen _ ↦ ?_
  exact endsIn_headerText

/-! ## Attachments -/

theorem endsIn_contentTypeOf {entry : Table} (h : writable → (Value.table entry).IsWritable) :
    EndsIn (fun s ↦ s.toList.contains '/') (Unusable writable)
      (Attachment.contentTypeOf key entry) := by
  unfold Attachment.contentTypeOf
  cases hv : entry.lookup "content_type" with
  | none => exact (by decide : Attachment.defaultContentType.toList.contains '/')
  | some v =>
    have hrefused : EndsIn (fun s : String ↦ s.toList.contains '/') (Unusable writable)
        (v.literal.bind fun shown ↦ Setting.refuse (key ++ ".content_type")
          ("expected type/subtype, got " ++ shown)) :=
      (endsIn_literal fun hw ↦ (h hw).lookup hv).bind fun _ _ ↦ trivial
    cases v with
    | null => exact (by decide : Attachment.defaultContentType.toList.contains '/')
    | text s =>
      dsimp only [Option.getD_some]
      split
      · next hs => exact contains_slash_of_isContentType hs
      · exact hrefused
    | _ => exact hrefused

theorem endsIn_ofEntry {v : Value} (h : writable → v.IsWritable) :
    EndsIn (fun a ↦ a.contentType.toList.contains '/') (Unusable writable)
      (Attachment.ofEntry key v) := by
  cases v with
  | table entry =>
    have hpath : EndsIn (fun _ ↦ True) (Unusable writable)
        (Attachment.pathOf key entry) := by
      rw [Attachment.pathOf]
      split
      · exact Setting.endsIn_asText.bind fun _ _ ↦ endsIn_headerText
      · trivial
    have hfilename : EndsIn (fun _ ↦ True) (Unusable writable)
        (Attachment.filenameOf key entry) := by
      rw [Attachment.filenameOf]
      split
      · trivial
      · exact Setting.endsIn_asText.bind fun _ _ ↦ endsIn_headerText
    exact hpath.bind fun _ _ ↦ (endsIn_contentTypeOf h).bind fun _ hcontent ↦
      hfilename.bind fun _ _ ↦ hcontent
  | _ => trivial

theorem endsIn_attachments (h : writable → p.IsWritable) :
    EndsIn (fun as ↦ ∀ a ∈ as, a.contentType.toList.contains '/') (Unusable writable)
      p.attachments.result := by
  unfold attachments
  refine Traced.endsIn_bind (endsIn_get h) fun o ho ↦ ?_
  cases o with
  | none => exact fun a ha ↦ nomatch ha
  | some v =>
    dsimp only
    split
    · trivial
    · next hitems =>
      exact Attachment.forall_ofEntries
        (fun i hi _ ↦ endsIn_ofEntry fun hw ↦ (ho v rfl hw).items hitems i hi) 0

/-! ## The mail and its body -/

/-- A mail fails to be collected because of its settings. If it is collected, its endpoint can be
written and its content types have two parts. -/
theorem endsIn_mail {c : OperatorConfig} (h : writable → p.IsWritable)
    (hc : writable → c.IsWritable) (body : String) :
    EndsIn (fun m ↦ (∃ shown, m.endpoint.text = .ok shown) ∧
        ∀ a ∈ m.attachments, a.contentType.toList.contains '/')
      (Unusable writable) (p.mail c body).result := by
  unfold mail
  refine Traced.endsIn_bind (endsIn_endpoint h hc) fun endpoint he ↦ ?_
  refine Traced.endsIn_bind (endsIn_recipients h) fun _ _ ↦ ?_
  refine Traced.endsIn_bind (endsIn_sender h) fun _ _ ↦ ?_
  refine Traced.endsIn_bind (endsIn_subject h) fun _ _ ↦ ?_
  refine Traced.endsIn_bind (endsIn_flag h) fun _ _ ↦ ?_
  refine Traced.endsIn_bind (endsIn_attachments h) fun _ hattachments ↦ ?_
  have htext : EndsIn (fun shown ↦ endpoint.text = .ok shown) (Unusable writable)
      endpoint.text := by
    have hfail : EndsIn (fun _ ↦ True) (Unusable writable) endpoint.text :=
      endsIn_text he
    cases hs : endpoint.text with
    | error e => exact hfail.of_error hs
    | ok shown => rfl
  exact Traced.endsIn_bind htext fun shown hs ↦ ⟨⟨shown, hs⟩, hattachments⟩

end TaskParameters

/-! ## The body -/

theorem Template.endsIn_render {bindings : Table} (h : writable → (Value.table bindings).IsWritable)
    (template : String) :
    EndsIn (fun _ ↦ True) (Unusable writable) (render template bindings) := by
  have hpiece : ∀ piece ∈ split template.toList,
      EndsIn (fun _ ↦ True) (Unusable writable) (Piece.render bindings piece) := by
    intro piece _
    unfold Piece.render
    split
    · trivial
    · trivial
    · split
      · next hv => exact endsIn_plain fun hw ↦ (h hw).lookup hv
      · trivial
  exact (EndsIn.mapM hpiece).map fun _ _ ↦ trivial

namespace Body

variable {p : TaskParameters} {read : String → Except Failure String} {v : Value}

theorem result_template_of_file (h : p.plain? fileKey = some v) :
    (template p read).result
      = v.plain.bind fun path ↦ (read path).mapError (unreadable path) := by
  rw [template, h]
  dsimp only
  rw [Traced.result_bind]
  rfl

theorem result_template_of_text (h : p.plain? fileKey = none) (hv : p.plain? textKey = some v) :
    (template p read).result = v.plain := by
  rw [template, h]
  dsimp only
  rw [hv]
  rfl

/-- A body fails to be rendered because of its settings, or because a file cannot be read. -/
theorem endsIn_render {fails : Failure → Prop} (h : writable → p.IsWritable)
    (hunusable : ∀ e, Unusable writable e → fails e)
    (hread : ∀ path, EndsIn (fun _ ↦ True) (fun e ↦ fails (Body.unreadable path e)) (read path)) :
    EndsIn (fun _ ↦ True) fails (render p read .standard).result := by
  have hplain : ∀ {key : String} {v : Value}, p.plain? key = some v →
      EndsIn (fun _ ↦ True) fails v.plain := fun hv ↦
    (endsIn_plain (TaskParameters.writableIf_plain? h _ hv)).weaken (fun _ h ↦ h) hunusable
  have htemplate : EndsIn (fun _ ↦ True) fails (template p read).result := by
    cases hv : p.plain? fileKey with
    | some v =>
      rw [result_template_of_file hv]
      exact (hplain hv).bind fun path _ ↦ (hread path).mapError fun _ he ↦ he
    | none =>
      cases hu : p.plain? textKey with
      | some u =>
        rw [result_template_of_text hv hu]
        exact hplain hu
      | none =>
        rw [template, hv]
        dsimp only
        rw [hu]
        exact hunusable _ trivial
  refine Traced.endsIn_bind htemplate fun text _ ↦ ?_
  exact (Template.endsIn_render (fun hw ↦ (h hw).1) text).weaken (fun _ h ↦ h) hunusable

end Body

end MailDispatch
