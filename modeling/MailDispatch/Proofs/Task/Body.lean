import MailDispatch.Body
import MailDispatch.Proofs.Template.Splitting

/-!
# What a body depends on

A task selects its template, and the template selects among the parameters. Two tasks whose
templates lie under the same path, or are the same text, have the same template or fail to have one
in the same way; and if they agree on the parameters that it names, they have the same body. Secrets
are no parameters, and neither are the entries of the `mail` table, although they may select the
template.
-/

namespace MailDispatch.Body

variable {p q : TaskParameters} {read : String → Except Failure String}

/-- Two tasks select the same template: both name a file, in the same words, or neither does, and
the texts that they give instead are the same, if they give any. -/
structure SelectSame (p q : TaskParameters) : Prop where
  file : (p.plain? fileKey).map Value.plain = (q.plain? fileKey).map Value.plain
  text : p.plain? fileKey = none →
    (p.plain? textKey).map Value.plain = (q.plain? textKey).map Value.plain

/-- The template depends on how the two parameters that select it are written. -/
theorem template_eq (p : TaskParameters) (read : String → Except Failure String) :
    template p read =
      ((p.plain? fileKey).map Value.plain).elim
        (((p.plain? textKey).map Value.plain).elim
          (Preparation.refuse
            (.missingField textKey (some "Either a body template file or 'body' is required")))
          liftM)
        (fun shown ↦ do
          let path ← shown
          Preparation.log .body .debug ("Loading body template from workspace file " ++ path)
          (read path).mapError (unreadable path)) := by
  rw [template]
  cases p.plain? fileKey with
  | some v => rfl
  | none => cases p.plain? textKey <;> rfl

theorem template_congr (h : SelectSame p q) (read : String → Except Failure String) :
    template p read = template q read := by
  rw [template_eq, template_eq, ← h.file]
  cases hp : p.plain? fileKey with
  | some v => rfl
  | none => rw [← h.text hp]

theorem render_congr (h : SelectSame p q)
    (hagree : ∀ text, (template p read).result = .ok text →
      Template.AgreeOn text p.raw q.raw) :
    render p read .standard = render q read .standard := by
  rw [render, render, ← template_congr h read]
  refine Traced.bind_congr fun text htext ↦ ?_
  rw [Engine.standard, TaskParameters.bindings, TaskParameters.bindings,
    Template.render_congr (hagree text htext)]

/-- **Rendering.** A template splits into pieces in one way, before any parameter is looked at, and
rendering it yields what the pieces become, one after the other, provided that the parameters can be
written. The body of a task does not depend on its secrets, whatever they are. Nor does it depend on
anything else about the task than which template is selected and how the parameters that the
template names are written: tasks that agree on this have the same body or the same failure, and
leave the same notes. -/
theorem rendered_in_one_pass :
    (∀ template : String, ∃ pieces,
      (∀ others, Template.SplitsInto template.toList others ↔ others = pieces) ∧
      ∀ bindings, (Value.table bindings).IsWritable →
        ∃ texts, List.Forall₂ (Template.Piece.Becomes bindings) pieces texts ∧
          Template.render template bindings = .ok (String.join texts)) ∧
    (∀ p read secrets, render { p with secrets } read .standard = render p read .standard) ∧
    ∀ p q read, SelectSame p q →
      (∀ text, (template p read).result = .ok text → Template.AgreeOn text p.raw q.raw) →
      render p read .standard = render q read .standard := by
  refine ⟨fun template ↦ ⟨Template.split template.toList, fun others ↦ Template.splitsInto_iff,
    fun bindings hwritable ↦ ?_⟩, fun p read secrets ↦ rfl, fun p q read ↦ render_congr⟩
  obtain ⟨texts, htexts⟩ := Template.exists_forall₂_becomes hwritable _
  exact ⟨texts, htexts, Template.render_eq_ok_iff.mpr ⟨texts, htexts, rfl⟩⟩

/-- A reminder with a placeholder for a value that looks like one, and with dollar signs that stand
for themselves. -/
private def reminder : String := "Dear $name: $\x7btotal\x7d$$ until $1 $\x7bdue"

/-- A task that names the file of its template among its own parameters. -/
private def pressing : TaskParameters where
  raw := [("_command", .text "reminder.txt"), ("name", .text "$\x7btotal\x7d"), ("total", .int 3)]
  secrets := .ofTable [("name", .text "Eve")]

/-- A task that has the file among its defaults, and its parameters in another form and order. -/
private def patient : TaskParameters where
  raw := [("mail", .table [("_command", .text "reminder.txt"), ("due", .text "Monday")]),
    ("total", .text "3"), ("name", .text "$\x7btotal\x7d"), ("body", .text "Never mind")]
  secrets := .ofTable [("due", .text "Tuesday")]

/-- Both tasks have the same body: nothing that differs is named by the template, neither a default
nor a secret, and a number is as good as its numeral. -/
theorem rendered_in_one_pass_reminder :
    (∃ texts, List.Forall₂ (Template.Piece.Becomes pressing.raw)
        (Template.split reminder.toList) texts ∧
      Template.render reminder pressing.raw = .ok (String.join texts)) ∧
    render pressing (fun _ ↦ .ok reminder) .standard
      = render patient (fun _ ↦ .ok reminder) .standard ∧
    (render pressing (fun _ ↦ .ok reminder) .standard).result
      = .ok "Dear $\x7btotal\x7d: 3$ until $1 $\x7bdue" := by
  obtain ⟨hpass, -, hsame⟩ := rendered_in_one_pass
  have hnames : Template.names reminder = ["name", "total"] := by cbv
  refine ⟨?_, hsame _ _ _ ⟨rfl, ?_⟩ ?_, by cbv⟩
  · obtain ⟨pieces, hpieces, hrender⟩ := hpass reminder
    have hwritable : (Value.table pressing.raw).IsWritable := by
      show Option.isSome _ = true
      cbv
    rw [Template.splitsInto_iff.mp ((hpieces pieces).mpr rfl)] at hrender
    exact hrender _ hwritable
  · intro h
    cases h
  · intro text htext key hkey
    rw [← Except.ok.inj htext, ← Template.mem_names_iff, hnames] at hkey
    rcases List.mem_pair.mp hkey with rfl | rfl <;> cbv

end MailDispatch.Body
