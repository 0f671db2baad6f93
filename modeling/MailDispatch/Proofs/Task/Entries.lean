import MailDispatch.Proofs.Address.Reads
import MailDispatch.Proofs.Task.Failures

/-!
# Lists of parameters

A list among the parameters is taken entry by entry, all or nothing. Recipients are checked one like
the other; an entry of the list of attachments is known to errors by its place, and nothing else
about it depends on where it stands. `IsPlaceless` says so of each step in reading an entry: it
comes to the same value or the same `EntryProblem` under any key. What a whole list comes to follows
from what its entries come to alone.
-/

namespace MailDispatch

/-! ## Entries of the list of attachments -/

namespace Attachment

/-- What can be wrong with an entry, wherever it stands: it lacks a part, it or a part of it is
unusable, or a part of it is too long to be shown. -/
inductive EntryProblem where
  | missing (part : String)
  | invalid (part problem : String)
  | unwritable

/-- The failure over an entry that errors call `key`. -/
def EntryProblem.failure (key : String) : EntryProblem → Failure
  | .missing part => .configuration (.missingField (key ++ part) none)
  | .invalid part problem => .configuration (.invalidParameter (key ++ part) problem)
  | .unwritable => .longInteger

/-- A failure tells which problem it is of, once the key is known. -/
theorem EntryProblem.failure_injective (key : String) : Function.Injective (failure key) := by
  intro problem problem' h
  cases problem with
  | missing part =>
    cases problem' with
    | missing part' =>
      simp only [failure, Failure.configuration.injEq, ConfigurationError.missingField.injEq] at h
      rw [(String.append_right_inj key).mp h.1]
    | _ => cases h
  | invalid part text =>
    cases problem' with
    | invalid part' text' =>
      simp only [failure, Failure.configuration.injEq,
        ConfigurationError.invalidParameter.injEq] at h
      rw [(String.append_right_inj key).mp h.1, h.2]
    | _ => cases h
  | unwritable =>
    cases problem' with
    | unwritable => rfl
    | _ => cases h

/-- What is read comes to the same value or problem, whatever errors call the entry. -/
def IsPlaceless {α : Type} (f : String → Except Failure α) : Prop :=
  ∃ verdict : Except EntryProblem α, ∀ key, f key = verdict.mapError (EntryProblem.failure key)

namespace IsPlaceless

variable {α β : Type} {f : String → Except Failure α} {g : α → String → Except Failure β}

theorem ok (a : α) : IsPlaceless fun _ ↦ .ok a :=
  ⟨.ok a, fun _ ↦ rfl⟩

theorem refuse (part problem : String) :
    IsPlaceless fun key ↦ (Setting.refuse (key ++ part) problem : Except Failure α) :=
  ⟨.error (.invalid part problem), fun _ ↦ rfl⟩

theorem literal (v : Value) : IsPlaceless fun _ ↦ v.literal := by
  rw [Value.literal]
  cases v.literal? with
  | some shown => exact ok shown
  | none => exact ⟨.error .unwritable, fun _ ↦ rfl⟩

theorem bind (hf : IsPlaceless f) (hg : ∀ a, IsPlaceless (g a)) :
    IsPlaceless fun key ↦ (f key).bind fun a ↦ g a key := by
  obtain ⟨verdict, hverdict⟩ := hf
  cases verdict with
  | error problem =>
    refine ⟨.error problem, fun key ↦ ?_⟩
    dsimp only
    rw [hverdict key]
    rfl
  | ok a =>
    obtain ⟨next, hnext⟩ := hg a
    refine ⟨next, fun key ↦ ?_⟩
    dsimp only
    rw [hverdict key, ← hnext key]
    rfl

theorem ok_congr (hf : IsPlaceless f) {key : String} {a : α} (h : f key = .ok a)
    (key' : String) : f key' = .ok a := by
  obtain ⟨verdict, hverdict⟩ := hf
  rw [hverdict key, mapError_eq_ok_iff] at h
  rw [hverdict key', h]
  rfl

theorem exists_problem (hf : IsPlaceless f) {key : String} {e : Failure} (h : f key = .error e) :
    ∃ problem : EntryProblem, e = problem.failure key ∧
      ∀ key', f key' = .error (problem.failure key') := by
  obtain ⟨verdict, hverdict⟩ := hf
  rw [hverdict key, mapError_eq_error_iff] at h
  obtain ⟨problem, hproblem, he⟩ := h
  refine ⟨problem, he, fun key' ↦ ?_⟩
  rw [hverdict key', hproblem]
  rfl

end IsPlaceless

/-- A text that is checked as part of a header. -/
theorem isPlaceless_checked (part : String) (v : Value) :
    IsPlaceless fun key ↦ (Setting.asText (key ++ part) v).bind (headerText (key ++ part)) := by
  have htext : IsPlaceless fun key ↦ Setting.asText (key ++ part) v := by
    cases v with
    | text s => exact .ok s
    | _ => exact .refuse part _
  refine htext.bind fun s ↦ ?_
  unfold headerText
  split
  · exact .refuse part _
  · exact .ok s

theorem isPlaceless_pathOf (entry : Table) : IsPlaceless fun key ↦ pathOf key entry := by
  unfold pathOf
  dsimp only
  split
  · exact isPlaceless_checked ".path" _
  · exact ⟨.error (.missing ".path"), fun _ ↦ rfl⟩

theorem isPlaceless_contentTypeOf (entry : Table) :
    IsPlaceless fun key ↦ contentTypeOf key entry := by
  have hrefused : ∀ v : Value, IsPlaceless fun key ↦ (v.literal.bind fun shown ↦
      Setting.refuse (key ++ ".content_type") ("expected type/subtype, got " ++ shown) :
      Except Failure String) :=
    fun v ↦ (IsPlaceless.literal v).bind fun _ ↦ .refuse ".content_type" _
  unfold contentTypeOf
  cases (entry.lookup "content_type").getD .null with
  | null => exact .ok _
  | text s =>
    dsimp only
    split
    · exact .ok s
    · exact hrefused (.text s)
  | _ => exact hrefused _

theorem isPlaceless_filenameOf (entry : Table) : IsPlaceless fun key ↦ filenameOf key entry := by
  unfold filenameOf
  split
  · exact .ok ""
  · exact isPlaceless_checked ".filename" _

/-- An entry comes to the same wherever it stands. -/
theorem isPlaceless_ofEntry (v : Value) : IsPlaceless fun key ↦ ofEntry key v := by
  have hrefused : IsPlaceless fun key ↦
      (Setting.refuse key "expected a table with at least 'path'" : Except Failure Attachment) := by
    refine ⟨.error (.invalid "" "expected a table with at least 'path'"), fun key ↦ ?_⟩
    rw [Except.mapError, EntryProblem.failure, String.append_empty]
    rfl
  cases v with
  | table entry =>
    exact (isPlaceless_pathOf entry).bind fun path ↦
      (isPlaceless_contentTypeOf entry).bind fun contentType ↦
        (isPlaceless_filenameOf entry).bind fun filename ↦ .ok (named path contentType filename)
  | _ => exact hrefused

/-! ## The list of attachments -/

/-- The attachments that a list of entries comes to. -/
def ofList (entries : List Value) : Except Failure (List Attachment) := ofEntries 0 entries

theorem ofEntries_eq_mapM (index : Nat) (entries : List Value) :
    ofEntries index entries = (entries.zipIdx index).mapM fun p ↦ ofEntry (entryKey p.2) p.1 := by
  induction entries generalizing index with
  | nil => rfl
  | cons v rest ih => rw [ofEntries, List.zipIdx_cons, List.mapM_cons, ih]

theorem ofList_singleton (v : Value) :
    ofList [v] = (ofEntry (entryKey 0) v).map fun a ↦ [a] := by
  rw [ofList, ofEntries]
  cases ofEntry (entryKey 0) v <;> rfl

theorem ofList_singleton_eq_ok_iff {v : Value} {a : Attachment} :
    ofList [v] = .ok [a] ↔ ofEntry (entryKey 0) v = .ok a := by
  rw [ofList_singleton, map_eq_ok_iff]
  simp

theorem ofList_singleton_eq_error_iff {v : Value} {e : Failure} :
    ofList [v] = .error e ↔ ofEntry (entryKey 0) v = .error e := by
  rw [ofList_singleton, map_eq_error_iff]

/-- Each attachment is the one that its entry comes to alone. -/
theorem ofList_eq_ok_iff {entries : List Value} {l : List Attachment} :
    ofList entries = .ok l ↔ List.Forall₂ (fun v a ↦ ofList [v] = .ok [a]) entries l := by
  have hplace : ∀ (p : Value × Nat) (a : Attachment),
      ofEntry (entryKey p.2) p.1 = .ok a ↔ ofList [p.1] = .ok [a] := by
    intro p a
    rw [ofList_singleton_eq_ok_iff]
    constructor
    · intro h
      exact (isPlaceless_ofEntry p.1).ok_congr h _
    · intro h
      exact (isPlaceless_ofEntry p.1).ok_congr h _
  rw [ofList, ofEntries_eq_mapM, mapM_eq_ok_iff]
  simp only [hplace]
  rw [← List.forall₂_map_left_iff (f := Prod.fst) (R := fun v a ↦ ofList [v] = .ok [a]),
    List.zipIdx_map_fst]

/-- A list fails over the first entry that fails alone, and in the same way but for the place. -/
theorem ofList_eq_error_iff {entries : List Value} {e : Failure} :
    ofList entries = .error e ↔ ∃ before v after problem, entries = before ++ v :: after ∧
      (∀ u ∈ before, ∃ a, ofList [u] = .ok [a]) ∧
      ofList [v] = .error (EntryProblem.failure (entryKey 0) problem) ∧
      e = problem.failure (entryKey before.length) := by
  rw [ofList, ofEntries_eq_mapM, mapM_eq_error_iff]
  constructor
  · rintro ⟨before, p, after, hsplit, hbefore, hp⟩
    obtain ⟨earlier, rest, rfl, rfl, hrest⟩ := List.zipIdx_eq_append_iff.mp hsplit
    obtain ⟨v, later, rfl, rfl, rfl⟩ := List.zipIdx_eq_cons_iff.mp hrest.symm
    obtain ⟨problem, he, hproblem⟩ := (isPlaceless_ofEntry v).exists_problem hp
    refine ⟨earlier, v, later, problem, rfl, fun u hu ↦ ?_,
      ofList_singleton_eq_error_iff.mpr (hproblem _), ?_⟩
    · rw [← List.zipIdx_map_fst 0 earlier] at hu
      obtain ⟨q, hq, rfl⟩ := List.mem_map.mp hu
      obtain ⟨a, ha⟩ := hbefore q hq
      exact ⟨a, ofList_singleton_eq_ok_iff.mpr ((isPlaceless_ofEntry q.1).ok_congr ha _)⟩
    · rw [he, Nat.zero_add]
  · rintro ⟨before, v, after, problem, rfl, hbefore, hv, rfl⟩
    refine ⟨before.zipIdx 0, (v, before.length), after.zipIdx (before.length + 1), ?_,
      fun q hq ↦ ?_, ?_⟩
    · rw [List.zipIdx_append, List.zipIdx_cons, Nat.zero_add]
    · have hmem : q.1 ∈ before := by
        rw [← List.zipIdx_map_fst 0 before]
        exact List.mem_map_of_mem hq
      obtain ⟨a, ha⟩ := hbefore q.1 hmem
      exact ⟨a, (isPlaceless_ofEntry q.1).ok_congr (ofList_singleton_eq_ok_iff.mp ha) _⟩
    · obtain ⟨problem', he, hproblem⟩ :=
        (isPlaceless_ofEntry v).exists_problem (ofList_singleton_eq_error_iff.mp hv)
      rw [EntryProblem.failure_injective _ he]
      exact hproblem _

theorem ofList_append_eq_ok_iff {xs ys : List Value} {l : List Attachment} :
    ofList (xs ++ ys) = .ok l ↔
      ∃ first second, ofList xs = .ok first ∧ ofList ys = .ok second ∧ l = first ++ second := by
  constructor
  · intro h
    have hl := (ofList_eq_ok_iff.mp h).flip
    refine ⟨l.take xs.length, l.drop xs.length, ?_, ?_, (List.take_append_drop ..).symm⟩
    · exact ofList_eq_ok_iff.mpr (List.forall₂_take_append l xs ys hl).flip
    · exact ofList_eq_ok_iff.mpr (List.forall₂_drop_append l xs ys hl).flip
  · rintro ⟨first, second, hfirst, hsecond, rfl⟩
    exact ofList_eq_ok_iff.mpr
      (List.rel_append (ofList_eq_ok_iff.mp hfirst) (ofList_eq_ok_iff.mp hsecond))

/-- An entry without integers that are too long has a problem that is over the entry itself. -/
theorem ne_unwritable {v : Value} (hv : v.IsWritable) {problem : EntryProblem}
    (h : ofList [v] = .error (problem.failure (entryKey 0))) : problem ≠ .unwritable := by
  rintro rfl
  have hfails : EndsIn _ _ (ofEntry (entryKey 0) v) :=
    TaskParameters.endsIn_ofEntry fun _ : True ↦ hv
  rw [ofList_singleton_eq_error_iff.mp h] at hfails
  exact hfails trivial

end Attachment

/-! ## Recipients -/

theorem Address.eq_of_validate_eq_error {v : Value} {e : Failure} (h : validate v = .error e)
    (hv : v.IsWritable) : ∃ shown, e = .configuration (.invalidAddress v shown) := by
  obtain ⟨shown, hshown⟩ := Option.isSome_iff_exists.mp hv
  have hrefuse : (refuse v : Except Failure String)
      = .error (.configuration (.invalidAddress v shown)) := by
    rw [refuse, Value.literal, hshown]
    rfl
  refine ⟨shown, ?_⟩
  cases v with
  | text s =>
    rw [validate] at h
    split at h
    · cases h
    · exact Except.error.inj (h.symm.trans hrefuse)
  | _ => exact Except.error.inj (h.symm.trans hrefuse)

theorem recipientsOf_eq_mapM {given : Value} {entries : List Value}
    (h : given.items? = some entries) (hne : entries ≠ []) :
    recipientsOf given = entries.mapM Address.validate := by
  unfold recipientsOf
  split
  · cases h
  · split
    · next hnone => rw [hnone] at h; cases h
    · next hnil => rw [hnil] at h; exact absurd (Option.some.inj h).symm hne
    · next hitems => rw [hitems] at h; rw [Option.some.inj h]

/-! ## Both lists of a task -/

namespace TaskParameters

variable {p : TaskParameters} {given : Value}

theorem result_attachments {entries : List Value}
    (hget : (p.get "attach_files").result = .ok (some given))
    (hitems : given.items? = some entries) :
    p.attachments.result = Attachment.ofList entries := by
  unfold attachments
  rw [Traced.result_bind_of_ok hget]
  simp only [hitems]
  rfl

theorem result_recipients (hget : (p.get "to").result = .ok (some given)) :
    p.recipients.result = recipientsOf given := by
  unfold recipients
  rw [Traced.result_bind_of_ok hget]
  rfl

end TaskParameters

open Attachment (ofList entryKey EntryProblem)

/-- **Lists.** The attachments of a task are what its list of entries comes to. A list in two parts
comes to the attachments of both if each part comes to some, and these are what the entries come to
alone; otherwise the first entry that is refused decides, with the problem that it has alone, which
is reported under its place, and is over the entry unless an integer in it is too long. The
recipients of a task are what the addresses in a list of at least one entry are accepted as, each in
its place; otherwise the first entry that is refused is reported. A single address may as well be a
list of one. -/
theorem lists_taken_entrywise :
    ((∀ (p : TaskParameters) (given : Value) (entries : List Value),
        (p.get "attach_files").result = .ok (some given) → given.items? = some entries →
        p.attachments.result = ofList entries) ∧
      (∀ xs ys l, ofList (xs ++ ys) = .ok l ↔
        ∃ first second, ofList xs = .ok first ∧ ofList ys = .ok second ∧ l = first ++ second) ∧
      (∀ entries l, ofList entries = .ok l ↔
        List.Forall₂ (fun v a ↦ ofList [v] = .ok [a]) entries l) ∧
      (∀ entries e, ofList entries = .error e ↔
        ∃ before v after problem, entries = before ++ v :: after ∧
          (∀ u ∈ before, ∃ a, ofList [u] = .ok [a]) ∧
          ofList [v] = .error (EntryProblem.failure (entryKey 0) problem) ∧
          e = problem.failure (entryKey before.length)) ∧
      ∀ (v : Value) (problem : EntryProblem), v.IsWritable →
        ofList [v] = .error (problem.failure (entryKey 0)) → problem ≠ .unwritable) ∧
    ((∀ (p : TaskParameters) (given : Value), (p.get "to").result = .ok (some given) →
        p.recipients.result = recipientsOf given) ∧
      (∀ (given : Value) (entries : List Value), given.items? = some entries → entries ≠ [] →
        (∀ l, recipientsOf given = .ok l ↔
          List.Forall₂ (fun v s ↦ Address.validate v = .ok s) entries l) ∧
        ∀ e, recipientsOf given = .error e ↔ ∃ before v after, entries = before ++ v :: after ∧
          (∀ u ∈ before, ∃ s, Address.validate u = .ok s) ∧ Address.validate v = .error e) ∧
      (∀ v e, Address.validate v = .error e → v.IsWritable →
        ∃ shown, e = .configuration (.invalidAddress v shown)) ∧
      ∀ s, recipientsOf (.text s) = recipientsOf (.list [.text s])) := by
  refine ⟨⟨fun p given entries ↦ TaskParameters.result_attachments,
    fun xs ys l ↦ Attachment.ofList_append_eq_ok_iff,
    fun entries l ↦ Attachment.ofList_eq_ok_iff, fun entries e ↦ Attachment.ofList_eq_error_iff,
    fun v problem hv h ↦ Attachment.ne_unwritable hv h⟩,
    fun p given ↦ TaskParameters.result_recipients, fun given entries hitems hne ↦ ?_,
    fun v e ↦ Address.eq_of_validate_eq_error, fun s ↦ rfl⟩
  rw [recipientsOf_eq_mapM hitems hne]
  exact ⟨fun l ↦ mapM_eq_ok_iff, fun e ↦ mapM_eq_error_iff⟩

/-- Two attachments, of which the second has no path. -/
private def enclosures : List Value := [.table [("path", .text "a/plan.txt")], .table []]

/-- A recipient that is no text behind one that is accepted. -/
private def addressees : List Value := [.text " ann@mx.org", .int 5]

/-- A task with both. -/
private def unsorted : TaskParameters where
  raw := [("to", .list addressees), ("attach_files", .tuple enclosures)]
  secrets := .ofTable []

/-- The task fails over the second entry of each list. -/
theorem lists_taken_entrywise_unsorted :
    unsorted.attachments.result
        = .error (.configuration (.missingField "attach_files[1].path" none)) ∧
      ∃ shown, unsorted.recipients.result
        = .error (.configuration (.invalidAddress (.int 5) shown)) := by
  obtain ⟨⟨hattached, -, -, herror, -⟩, hrecipients, hlist, hrefused, -⟩ := lists_taken_entrywise
  have hfiles : (unsorted.get "attach_files").result = .ok (some (.tuple enclosures)) := by
    rw [TaskParameters.get_of_not_allowed (by decide)]
    rfl
  have hto : (unsorted.get "to").result = .ok (some (.list addressees)) := by
    rw [TaskParameters.get_of_not_allowed (by decide)]
    rfl
  constructor
  · have hfirst : ofList [.table [("path", .text "a/plan.txt")]]
        = .ok [⟨"a/plan.txt", "application/octet-stream", "plan.txt"⟩] :=
      Attachment.ofList_singleton_eq_ok_iff.mpr rfl
    have hsecond : ofList [.table []]
        = .error (EntryProblem.failure (entryKey 0) (.missing ".path")) :=
      Attachment.ofList_singleton_eq_error_iff.mpr rfl
    rw [hattached unsorted _ enclosures hfiles rfl, herror]
    exact ⟨[.table [("path", .text "a/plan.txt")]], .table [], [], .missing ".path", rfl,
      List.forall_mem_singleton.mpr ⟨_, hfirst⟩, hsecond, by cbv⟩
  · have hlast : ∃ e, Address.validate (.int 5) = .error e := by
      cases h : Address.validate (.int 5) with
      | ok s => cases (Address.refuse_ne_ok (.int 5) s) h
      | error e => exact ⟨e, rfl⟩
    obtain ⟨e, he⟩ := hlast
    have hwritable : (Value.int 5).IsWritable := by cbv
    obtain ⟨shown, rfl⟩ := hrefused _ _ he hwritable
    refine ⟨shown, ?_⟩
    rw [hrecipients unsorted _ hto,
      (hlist (.list addressees) addressees rfl (List.cons_ne_nil _ _)).2]
    exact ⟨[.text " ann@mx.org"], .int 5, [], rfl,
      List.forall_mem_singleton.mpr ⟨"ann@mx.org", by cbv⟩, he⟩

end MailDispatch
