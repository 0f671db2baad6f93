import MailDispatch.Proofs.Address.Joined
import MailDispatch.Proofs.Message.Composition
import MailDispatch.Task.Contents

/-!
# The header of recipients

Recipients are accepted one by one, but the header that names them is read as a whole by whoever
sends the message on. The two agree as long as the recipients before the last one stand alone, and
that is not merely sufficient: one that does not stand alone goes wrong together with some other.
-/

namespace MailDispatch

open Address (StandsAlone ofText? validate validate_eq_ok_iff)

/-- The address that is accepted in a value, if it is acceptable. -/
def Address.acceptedIn : Value → Option (List Char)
  | .text s => ofText? s.toList
  | _ => none

/-- The entries of a value of `to`. -/
def entriesOf : Value → List Value
  | .text s => [.text s]
  | v => v.items?.getD []

/-- The header of recipients holds the address accepted in each of the entries, in their order, and
no other. -/
def Message.Names (message : Message) (entries : List Value) : Prop :=
  (Address.addresses (message.headerText "To").toList).map some = entries.map Address.acceptedIn

/-! ## Accepted recipients -/

theorem validate_eq_ok {v : Value} {s : String} (h : validate v = .ok s) :
    ∃ a, Address.acceptedIn v = some a ∧ ofText? s.toList = some a := by
  obtain ⟨t, a, rfl, ha, rfl⟩ := validate_eq_ok_iff.mp h
  refine ⟨a, ha, ?_⟩
  rw [String.toList_ofList]
  exact Address.ofText?_trim ha

theorem mapM_validate_eq_ok {items : List Value} {r : List String}
    (h : items.mapM validate = .ok r) :
    r.map (fun s ↦ ofText? s.toList) = items.map Address.acceptedIn ∧
      ∀ s ∈ r, ∃ v ∈ items, validate v = .ok s := by
  constructor
  · induction mapM_eq_ok_iff.mp h with
    | nil => rfl
    | cons hv hrest ih =>
      obtain ⟨a, ha, hs⟩ := validate_eq_ok hv
      rw [List.map_cons, List.map_cons, hs, ha, ih (mapM_eq_ok_iff.mpr hrest)]
  · have hfrom : ∀ v ∈ items,
        EndsIn (fun s ↦ ∃ v ∈ items, validate v = .ok s) (fun _ ↦ True) (validate v) :=
      fun v hv ↦ .of_forall_ok fun s hs ↦ ⟨v, hv, hs⟩
    exact (EndsIn.mapM hfrom).of_ok h

/-- There is at least one recipient. Every recipient comes from an entry, and its address is the one
that was accepted there. -/
theorem recipientsOf_eq_ok {given : Value} {r : List String} (h : recipientsOf given = .ok r) :
    r ≠ [] ∧ r.map (fun s ↦ ofText? s.toList) = (entriesOf given).map Address.acceptedIn ∧
      ∀ s ∈ r, ∃ v ∈ entriesOf given, validate v = .ok s := by
  have hne : ∀ {items : List Value}, items ≠ [] → items.mapM validate = .ok r →
      r ≠ [] ∧ r.map (fun s ↦ ofText? s.toList) = items.map Address.acceptedIn ∧
        ∀ s ∈ r, ∃ v ∈ items, validate v = .ok s := by
    intro items hitems hr
    have hmap := mapM_validate_eq_ok hr
    refine ⟨?_, hmap⟩
    rintro rfl
    exact hitems (List.map_eq_nil_iff.mp hmap.1.symm)
  unfold recipientsOf at h
  split at h
  · exact hne (List.cons_ne_nil _ _) h
  · next hv =>
    split at h
    · exact absurd h (Address.refuse_ne_ok _ r)
    · cases h
    · next items hitems hsome =>
      have hentries : entriesOf given = items := by
        rw [entriesOf, hsome, Option.getD_some]
        exact hv
      rw [hentries]
      exact hne (fun hnil ↦ hitems hnil) h

theorem recipientsOf_pair {v v' : Value} {s : String} {r : List String} (hv : validate v = .ok s)
    (h : recipientsOf (.list [v, v']) = .ok r) : ∃ s', r = [s, s'] := by
  have hmapM : [v, v'].mapM validate = .ok r := h
  obtain ⟨s₁, _, h₁, hrest, rfl⟩ := List.forall₂_cons_left_iff.mp (mapM_eq_ok_iff.mp hmapM)
  obtain ⟨s₂, _, -, hnil, rfl⟩ := List.forall₂_cons_left_iff.mp hrest
  obtain rfl := List.forall₂_nil_left_iff.mp hnil
  cases hv.symm.trans h₁
  exact ⟨s₂, rfl⟩

/-! ## The header -/

theorem toList_headerText_to (m : Mail) (stamp : Stamp) (parts : List Part) :
    ((m.assemble stamp parts).headerText "To").toList =
      List.intercalate [',', ' '] (m.recipients.map String.toList) := by
  rw [Mail.headerText_to, String.toList_intercalate]
  rfl

/-- Recipients of which all but the last stand alone are the ones that the header names. -/
theorem names_of_standsAlone {given : Value} {r : List String} (hr : recipientsOf given = .ok r)
    (hs : ∀ s ∈ r.dropLast, StandsAlone s.toList) {m : Mail} (hm : m.recipients = r)
    (stamp : Stamp) (parts : List Part) : (m.assemble stamp parts).Names (entriesOf given) := by
  obtain ⟨hne, hmap, hentry⟩ := recipientsOf_eq_ok hr
  have hall : ∀ s ∈ r, ∃ a, ofText? s.toList = some a := fun s hs ↦ by
    obtain ⟨v, -, hv⟩ := hentry s hs
    obtain ⟨a, -, ha⟩ := validate_eq_ok hv
    exact ⟨a, ha⟩
  have hread := Address.reads_intercalate (fun s ↦ (ofText? s).getD []) (r.map String.toList)
    (by simpa using hne)
    (by
      intro s hmem
      obtain ⟨t, ht, rfl⟩ := List.mem_map.mp hmem
      obtain ⟨a, ha⟩ := hall t ht
      rw [ha]
      exact Address.reads_of_ofText? ha)
    (by
      intro s hmem
      rw [← List.map_dropLast] at hmem
      obtain ⟨t, ht, rfl⟩ := List.mem_map.mp hmem
      exact hs t ht)
  rw [Message.Names, toList_headerText_to, hm, hread.addresses, ← hmap, List.map_map, List.map_map]
  refine List.map_congr_left fun s hmem ↦ ?_
  obtain ⟨a, ha⟩ := hall s hmem
  simp only [Function.comp_apply, ha, Option.getD_some]

/-- Mail to the given recipients, with nothing else in it. -/
def Mail.bare (recipients : List String) : Mail where
  recipients := recipients
  sender := ""
  subject := ""
  isHtml := false
  body := ""
  endpoint := { host := "", port := 0 }
  attachments := []

/-- A recipient that the header names together with any recipient behind it stands alone. -/
theorem standsAlone_of_names {v : Value} {s : String} (hv : validate v = .ok s)
    (h : ∀ (v' : Value) (r : List String), recipientsOf (.list [v, v']) = .ok r →
      ((Mail.bare r).assemble ⟨"", "", ""⟩ []).Names [v, v']) : StandsAlone s.toList := by
  obtain ⟨a, hva, ha⟩ := validate_eq_ok hv
  refine (Address.standsAlone_iff ha).mpr fun t b hb htrim ↦ ?_
  have hb' : ofText? (String.ofList t).toList = some b := by rwa [String.toList_ofList]
  have ht : validate (.text (String.ofList t)) = .ok (String.ofList t) :=
    validate_eq_ok_iff.mpr ⟨_, b, rfl, hb', by rw [String.toList_ofList, htrim]⟩
  have hr : recipientsOf (.list [v, .text (String.ofList t)]) = .ok [s, String.ofList t] :=
    mapM_eq_ok_iff.mpr (.cons hv (.cons ht .nil))
  have hnames := h _ _ hr
  rw [Message.Names, toList_headerText_to] at hnames
  have hjoined : List.intercalate [',', ' ']
      ((Mail.bare [s, String.ofList t]).recipients.map String.toList) =
        s.toList ++ ',' :: ' ' :: t := by
    simp [Mail.bare, List.intercalate]
  rw [hjoined, List.map_cons, List.map_singleton, hva, Address.acceptedIn, hb'] at hnames
  exact (List.map_inj_right fun _ _ h ↦ Option.some.inj h).mp (hnames : _ = [a, b].map some)

/-- **The header of recipients.** The recipients before the last one stand alone if and only if the
header names what was accepted in every entry, whatever other recipient comes last and however the
leading ones are repeated, left out or exchanged. -/
theorem recipients_named_iff {given : Value} {r : List String} (hr : recipientsOf given = .ok r) :
    (∀ s ∈ r.dropLast, StandsAlone s.toList) ↔
      ∀ (given' : Value) (r' : List String), recipientsOf given' = .ok r' →
        r'.dropLast ⊆ r.dropLast →
        ∀ (m : Mail) (w : Workspace) (stamp : Stamp) (message : Message), m.recipients = r' →
          (m.compose w stamp).result = .ok message → message.Names (entriesOf given') := by
  constructor
  · intro hs given' r' hr' hsub m w stamp message hm hmessage
    obtain ⟨parts, -, rfl⟩ := Mail.compose_eq_ok hmessage
    exact names_of_standsAlone hr' (fun s hmem ↦ hs s (hsub hmem)) hm stamp parts
  · -- each leading recipient is tried with one other behind it, in a mail with nothing else
    intro h s hmem
    obtain ⟨-, -, hentry⟩ := recipientsOf_eq_ok hr
    obtain ⟨v, -, hv⟩ := hentry s (List.dropLast_subset r hmem)
    refine standsAlone_of_names hv fun v' r' hr' ↦ ?_
    obtain ⟨s', rfl⟩ := recipientsOf_pair hv hr'
    refine h (.list [v, v']) [s, s'] hr' ?_ (Mail.bare [s, s']) ⟨.empty, []⟩ _ _ rfl
      (Mail.compose_of_no_attachments rfl _ _)
    intro t ht
    obtain rfl := List.mem_singleton.mp ht
    exact hmem

/-- A display name that holds a comma does no harm. -/
theorem recipients_named_ann :
    recipientsOf (.list [.text "\"Ann, B.\" <a@b.c>", .text "d@e.f"]) =
        .ok ["\"Ann, B.\" <a@b.c>", "d@e.f"] ∧
      ((Mail.bare ["\"Ann, B.\" <a@b.c>", "d@e.f"]).assemble ⟨"now", "1", "here"⟩ []).Names
        [.text "\"Ann, B.\" <a@b.c>", .text "d@e.f"] := by
  have hr : recipientsOf (.list [.text "\"Ann, B.\" <a@b.c>", .text "d@e.f"]) =
      .ok ["\"Ann, B.\" <a@b.c>", "d@e.f"] := by
    cbv
  have halone : StandsAlone "\"Ann, B.\" <a@b.c>".toList := by
    intro follower hf
    rcases List.mem_cons.mp hf with rfl | hf
    · cbv
    · obtain rfl := List.mem_singleton.mp hf
      cbv
  refine ⟨hr, (recipients_named_iff hr).mp ?_ _ _ hr (fun _ h ↦ h) (Mail.bare _) ⟨.empty, []⟩ _ _
    rfl (Mail.compose_of_no_attachments rfl _ _)⟩
  intro s hs
  obtain rfl := List.mem_singleton.mp hs
  exact halone

/-- Two recipients of which the first one ends within a quoted word: each is accepted, but the
header holds the first address only. -/
theorem not_names_unclosed :
    ∃ r, recipientsOf (.list [.text "\"a@b.c\" (<) \"x", .text "\"y\" <d@e.f>"]) = .ok r ∧
      ∃ message, ((Mail.bare r).compose ⟨.empty, []⟩ ⟨"now", "1", "here"⟩).result = .ok message ∧
        Address.addresses (message.headerText "To").toList = ["a@b.c".toList] ∧
        ¬ message.Names [.text "\"a@b.c\" (<) \"x", .text "\"y\" <d@e.f>"] := by
  refine ⟨["\"a@b.c\" (<) \"x", "\"y\" <d@e.f>"], by cbv, _,
    Mail.compose_of_no_attachments rfl _ _, ?_⟩
  have h : Address.addresses (((Mail.bare ["\"a@b.c\" (<) \"x", "\"y\" <d@e.f>"]).assemble
      ⟨"now", "1", "here"⟩ []).headerText "To").toList = ["a@b.c".toList] := by
    cbv
  refine ⟨h, fun hnames ↦ ?_⟩
  rw [Message.Names, h] at hnames
  exact absurd (congrArg List.length hnames) (by decide)

end MailDispatch
