import Mathlib
import MailDispatch.Proofs.Text.Pieces
import MailDispatch.Proofs.Toml.Value
import MailDispatch.Toml.Document
import MailDispatch.Toml.Writer

/-!
# Documents are read back

A writer follows TOML if what it writes is read back, at least for flags, texts and integers in
nested tables; that is all that is asked of writers elsewhere. `write` is one that does. It puts a
table down line by line under a header, and a reader that has read some of the lines holds the
entries on them, in the table that the header leads to. So it holds the whole table in the end,
wherever the keys are distinct and need no quotes.
-/

namespace MailDispatch.Toml

/-! ## Tables at the end of a way -/

/-- The table in which a key leads to `t`, and nothing else is. -/
def nest : Key → Table → Table
  | [], t => t
  | key :: path, t => [(key, .table (nest path t))]

/-- The values that every writer can write: flags, texts, and integers that are not too long. -/
inductive IsPlain : Value → Prop
  | flag (b : Bool) : IsPlain (.bool b)
  | integer {n : Int} (h : (Decimal.numeral? n).isSome) : IsPlain (.int n)
  | text (s : String) : IsPlain (.text s)

/-- The tables that every writer can write under a header: all values are plain, and the keys are
distinct and need no quotes. -/
structure IsPlainTable (t : Table) : Prop where
  values : ∀ e ∈ t, IsPlain e.2
  bare : ∀ e ∈ t, isBareKey e.1 = true
  distinct : (t.map (·.1)).Nodup

/-- A writer follows TOML: a plain table at the end of a way through tables is written to the end,
and what is written is read as that table. -/
def Writer.FollowsToml (writer : Writer) : Prop :=
  ∀ (way : Key) (t : Table), way ≠ [] → (∀ k ∈ way, isBareKey k = true) → IsPlainTable t →
    ∃ text, writer (nest way t) = ⟨text, .ok ()⟩ ∧ document text = .ok (nest way t)

/-- A header makes the tables on its way. -/
theorem changeNest_nil (path : Key) : changeNest true some path [] = some (nest path []) := by
  induction path with
  | nil => rfl
  | cons key path ih =>
    rw [changeNest, List.lookup_nil, ih]
    rfl

/-- A change takes place at the end of the way. -/
theorem changeNest_nest {change : Table → Option Table} {t t' : Table} (h : change t = some t')
    (path : Key) : changeNest true change path (nest path t) = some (nest path t') := by
  induction path with
  | nil => exact h
  | cons key path ih =>
    rw [nest, changeNest, List.lookup_cons_self]
    simp only [ih, Option.map_some, replaceEntry, if_pos]
    rfl

/-! ## The reader between two lines -/

/-- A reader under the header `path` that has read the entries `done`. -/
def under (path : Key) (done : Table) : Draft := ⟨nest path done, { declared := [path] }, path⟩

theorem beginTable_nil (path : Key) : Draft.beginTable {} path = .ok (under path []) := by
  rw [Draft.beginTable]
  simp only [changeNest_nil, orMalformed]
  rfl

theorem addValue_under {done : Table} {key : String} {v : Value} (hkey : done.lookup key = none)
    (hv : isContainer v = false) (path : Key) :
    (under path done).addValue [key] v = .ok (under path (done ++ [(key, v)])) := by
  have hadd : addEntry key v done = some (done ++ [(key, v)]) := by rw [addEntry, hkey]
  have hchange := changeNest_nest hadd path
  have hlast : [key].getLastD "" = key := rfl
  rw [Draft.addValue]
  simp only [under, Draft.between, List.length_singleton, Nat.sub_self, List.range_zero,
    List.map_nil, List.any_nil, Marks.isClosed, Bool.or_self, Bool.false_eq_true, if_false,
    List.dropLast_singleton, List.append_nil, hlast, hchange, orMalformed, hv]
  rfl

/-! ## Lines -/

/-- A line holds an entry whose value has a form. -/
theorem entryText?_eq_some {e : String × Value} {line : List Char} (h : entryText? e = some line) :
    ∃ text, valueText? e.2 = some text ∧
      line = e.1.toList ++ (" = ".toList ++ (text ++ ['\n'])) := by
  obtain ⟨text, htext, rfl⟩ := Option.map_eq_some_iff.mp h
  exact ⟨text, htext, rfl⟩

/-- The entries of a table are written to the end if each of them has a line. -/
theorem writeEntries_cons_eq {e : String × Value} {t : Table} {text : List Char}
    (h : writeEntries (e :: t) = ⟨text, .ok ()⟩) :
    ∃ line lines, entryText? e = some line ∧ writeEntries t = ⟨lines, .ok ()⟩ ∧
      text = line ++ lines := by
  rw [writeEntries] at h
  cases hline : entryText? e with
  | none => rw [hline] at h; cases h
  | some line =>
    rw [hline] at h
    generalize writeEntries t = w at h
    obtain ⟨lines, r⟩ := w
    cases h
    exact ⟨line, lines, rfl, rfl, rfl⟩

theorem IsPlain.exists_valueText {v : Value} (h : IsPlain v) : ∃ text, valueText? v = some text := by
  cases h with
  | flag b => cases b <;> exact ⟨_, rfl⟩
  | integer h =>
    obtain ⟨numeral, hn⟩ := Option.isSome_iff_exists.mp h
    exact ⟨numeral.toList, by rw [valueText?, hn]; rfl⟩
  | text s => exact ⟨_, rfl⟩

/-- Plain values are written to the end. -/
theorem exists_writeEntries {t : Table} (h : ∀ e ∈ t, IsPlain e.2) :
    ∃ lines, writeEntries t = ⟨lines, .ok ()⟩ := by
  induction t with
  | nil => exact ⟨[], rfl⟩
  | cons e t ih =>
    obtain ⟨text, htext⟩ := (h e List.mem_cons_self).exists_valueText
    obtain ⟨lines, hlines⟩ := ih fun x hx ↦ h x (List.mem_cons_of_mem e hx)
    refine ⟨e.1.toList ++ (" = ".toList ++ (text ++ ['\n'])) ++ lines, ?_⟩
    rw [writeEntries, entryText?, htext, hlines]
    rfl

theorem isContainer_of_valueText? {v : Value} {text : List Char} (h : valueText? v = some text) :
    isContainer v = false := by
  cases v <;> first | rfl | cases h

theorem digitChar_not_isSpace :
    ∀ d < 10, ¬isSpace (Decimal.digitChar d) = true := by decide

/-- The form of a value starts with no blank. -/
theorem skipSpace_valueText {v : Value} {text : List Char} (h : valueText? v = some text)
    (rest : List Char) : skipSpace (text ++ rest) = text ++ rest := by
  cases v with
  | bool b => cases b <;> cases h <;> rfl
  | int n =>
    obtain ⟨numeral, hn, rfl⟩ := Option.map_eq_some_iff.mp h
    obtain ⟨c, tail, hc, hfirst⟩ := toList_numeral_eq_cons n
    rw [← (Decimal.numeral?_eq_some_iff.mp hn).2, hc]
    refine List.dropWhile_cons_of_neg ?_
    rcases hfirst with rfl | ⟨d, hd, rfl⟩
    · decide
    · exact digitChar_not_isSpace d hd
  | text s => cases h; rfl
  | _ => cases h

/-- A line is read as the entry on it, up to its end. -/
theorem entry_append {key : String} {v : Value} {text : List Char} {done : Table}
    (hbare : isBareKey key = true) (htext : valueText? v = some text)
    (hkey : done.lookup key = none) (path : Key) (rest : List Char) :
    entry (under path done) (key.toList ++ (' ' :: '=' :: ' ' :: (text ++ '\n' :: rest)))
      = .ok (under path (done ++ [(key, v)]), '\n' :: rest) := by
  have hread : Toml.key (key.toList ++ (' ' :: '=' :: ' ' :: (text ++ '\n' :: rest)))
      = .ok ([key], '=' :: ' ' :: (text ++ '\n' :: rest)) := by
    refine keyWithin_last (keyPart_append hbare ?_) ?_ _
    · rintro c ⟨⟩
      rfl
    · exact (by decide : some '=' ≠ some '.')
  have hsign : equalsSign ('=' :: ' ' :: (text ++ '\n' :: rest)) = .ok (text ++ '\n' :: rest) :=
    congrArg Except.ok (skipSpace_valueText htext _)
  have hadd := addValue_under hkey (isContainer_of_valueText? htext) path
  simp only [entry, bind, Except.bind, hread, hsign, value_valueText htext, hadd]
  rfl

/-- After a line, the reader goes on with the next one. -/
theorem linesWithin_entry {key : String} {v : Value} {line : List Char} {done : Table}
    (hline : entryText? (key, v) = some line) (hbare : isBareKey key = true)
    (hkey : done.lookup key = none) (path : Key) (fuel : Nat) (rest : List Char) :
    linesWithin (fuel + 1) (under path done) (line ++ rest)
      = linesWithin fuel (under path (done ++ [(key, v)])) rest := by
  obtain ⟨text, htext, rfl⟩ := entryText?_eq_some hline
  obtain ⟨c, tail, hc, hfirst⟩ := eq_cons_of_isBareKey hbare
  have hread := entry_append hbare htext hkey path rest
  have hassoc : key.toList ++ (" = ".toList ++ (text ++ ['\n'])) ++ rest
      = key.toList ++ (' ' :: '=' :: ' ' :: (text ++ '\n' :: rest)) := by
    rw [List.append_assoc, List.append_assoc, List.append_assoc]
    rfl
  have hbracket : c ≠ '[' := isBare_ne hfirst (by decide)
  have hstarts : startsKey c = true := by rw [startsKey, hfirst]; rfl
  rw [hassoc]
  rw [hc, List.cons_append] at hread ⊢
  rw [linesWithin, skipSpace_of_isBare hfirst]
  simp only [bind, Except.bind, if_neg hbracket, if_pos hstarts, hread]
  rfl

/-- A reader between two lines reads the lines that are left. -/
theorem linesWithin_entries {t : Table} {lines : List Char} (h : writeEntries t = ⟨lines, .ok ()⟩)
    (hbare : ∀ e ∈ t, isBareKey e.1 = true) {done : Table} (hkeys : (t.map (·.1)).Nodup)
    (hnew : ∀ e ∈ t, done.lookup e.1 = none) (path : Key) {fuel : Nat}
    (hfuel : t.length < fuel) :
    linesWithin fuel (under path done) lines = .ok (nest path (done ++ t)) := by
  induction t generalizing lines done fuel with
  | nil =>
    cases h
    obtain ⟨fuel, rfl⟩ := Nat.exists_eq_succ_of_ne_zero (Nat.ne_of_gt hfuel)
    rw [List.append_nil]
    rfl
  | cons e t ih =>
    obtain ⟨line, lines, hline, hlines, rfl⟩ := writeEntries_cons_eq h
    obtain ⟨fuel, rfl⟩ := Nat.exists_eq_succ_of_ne_zero (Nat.ne_of_gt (Nat.zero_lt_of_lt hfuel))
    rw [List.map_cons, List.nodup_cons] at hkeys
    rw [linesWithin_entry hline (hbare e List.mem_cons_self) (hnew e List.mem_cons_self),
      ih hlines (fun x hx ↦ hbare x (List.mem_cons_of_mem e hx)) hkeys.2 ?_
        (Nat.lt_of_succ_lt_succ hfuel), List.append_assoc]
    · rfl
    · intro x hx
      have hne : x.1 ≠ e.1 := fun heq ↦ hkeys.1 (heq ▸ List.mem_map_of_mem hx)
      rw [List.lookup_append, hnew x (List.mem_cons_of_mem e hx), List.lookup_cons,
        beq_false_of_ne hne]
      rfl

/-! ## Whole documents -/

theorem dropReturns_eq_self {s : List Char} (h : '\r' ∉ s) : dropReturns s = s := by
  fun_induction dropReturns s with
  | case1 => rfl
  | case2 => exact absurd List.mem_cons_self h
  | case3 c rest _ ih => rw [ih fun hr ↦ h (List.mem_cons_of_mem c hr)]

theorem return_not_mem_valueText {v : Value} {text : List Char} (h : valueText? v = some text) :
    '\r' ∉ text := by
  cases v with
  | bool b => cases b <;> cases h <;> decide
  | int n =>
    obtain ⟨numeral, hn, rfl⟩ := Option.map_eq_some_iff.mp h
    rw [← (Decimal.numeral?_eq_some_iff.mp hn).2]
    exact not_mem_numeral (by decide) (by decide) n
  | text s => cases h; exact return_not_mem_quoted _
  | _ => cases h

theorem return_not_mem_writeEntries {t : Table} {lines : List Char}
    (h : writeEntries t = ⟨lines, .ok ()⟩) (hbare : ∀ e ∈ t, isBareKey e.1 = true) : '\r' ∉ lines := by
  induction t generalizing lines with
  | nil => cases h; exact List.not_mem_nil
  | cons e t ih =>
    obtain ⟨line, lines, hline, hlines, rfl⟩ := writeEntries_cons_eq h
    obtain ⟨text, htext, rfl⟩ := entryText?_eq_some hline
    have hkey : '\r' ∉ e.1.toList := fun hr ↦
      isBare_ne ((isBareKey_iff.mp (hbare e List.mem_cons_self)).2 _ hr) (by decide) rfl
    have hlines := ih hlines fun x hx ↦ hbare x (List.mem_cons_of_mem e hx)
    have hvalue := return_not_mem_valueText htext
    simp only [List.mem_append, not_or]
    exact ⟨⟨hkey, by decide, hvalue, by decide⟩, hlines⟩

/-- There are as many characters as lines at least. -/
theorem length_le_of_writeEntries {t : Table} {lines : List Char}
    (h : writeEntries t = ⟨lines, .ok ()⟩) : t.length ≤ lines.length := by
  induction t generalizing lines with
  | nil => exact Nat.zero_le _
  | cons e t ih =>
    obtain ⟨line, lines, hline, hlines, rfl⟩ := writeEntries_cons_eq h
    obtain ⟨text, htext, rfl⟩ := entryText?_eq_some hline
    have := ih hlines
    simp only [List.length_append, List.length_cons]
    omega

theorem length_le_intercalate (path : Key) :
    path.length ≤ (['.'].intercalate (path.map String.toList)).length + 1 := by
  induction path with
  | nil => exact Nat.zero_le _
  | cons part parts ih =>
    cases parts with
    | nil => exact Nat.le_add_left _ _
    | cons next parts =>
      rw [List.map_cons, List.map_cons, List.intercalate_cons_cons, ← List.map_cons]
      simp only [List.length_append, List.length_cons, List.length_nil] at ih ⊢
      omega

/-- The header is read, and the reader is under it. -/
theorem linesWithin_header {path : Key} (hne : path ≠ [])
    (hpath : ∀ k ∈ path, isBareKey k = true) (fuel : Nat) (rest : List Char) :
    linesWithin (fuel + 1) {}
        ('[' :: (['.'].intercalate (path.map String.toList) ++ (']' :: '\n' :: rest)))
      = linesWithin fuel (under path []) rest := by
  obtain ⟨part, parts, rfl⟩ := List.exists_cons_of_ne_nil hne
  have hpart := hpath part List.mem_cons_self
  have hread : Toml.key (skipSpace (['.'].intercalate ((part :: parts).map String.toList) ++
      (']' :: '\n' :: rest))) = .ok (part :: parts, ']' :: '\n' :: rest) := by
    rw [skipSpace_intercalate hpart parts]
    refine keyWithin_intercalate hne hpath ?_ ?_ ?_
    · rintro c ⟨⟩
      rfl
    · exact (by decide : some ']' ≠ some '.')
    · have := length_le_intercalate (part :: parts)
      rw [List.length_append]
      omega
  have hheader : header {} (['.'].intercalate ((part :: parts).map String.toList) ++
      (']' :: '\n' :: rest)) = .ok (under (part :: parts) [], '\n' :: rest) := by
    unfold header
    split
    · next h =>
      obtain ⟨c, tail, hc, hbare⟩ := intercalate_eq_cons hpart parts
      rw [hc] at h
      exact absurd (List.cons.inj h).1 (isBare_ne hbare (by decide))
    · simp only [bind, Except.bind, hread, beginTable_nil]
      rfl
  rw [linesWithin, show skipSpace ('[' :: _) = '[' :: _ from rfl]
  simp only [bind, Except.bind, if_pos, hheader]
  rfl

/-- A table under a header is read back as it was written. -/
theorem document_headerText_append {way : Key} {t : Table} {lines : List Char}
    (h : writeEntries t = ⟨lines, .ok ()⟩) (hne : way ≠ []) (hway : ∀ k ∈ way, isBareKey k = true)
    (ht : IsPlainTable t) : document (headerText way ++ lines) = .ok (nest way t) := by
  have hheader : headerText way ++ lines
      = '[' :: (['.'].intercalate (way.map String.toList) ++ (']' :: '\n' :: lines)) := by
    rw [headerText, if_neg (mt List.isEmpty_iff.mp hne), String.toList_intercalate,
      show ".".toList = ['.'] from rfl, List.cons_append, List.append_assoc]
    rfl
  rw [hheader]
  have hreturn : '\r' ∉ '[' :: (['.'].intercalate (way.map String.toList) ++
      (']' :: '\n' :: lines)) := by
    simp only [List.mem_cons, List.mem_append, not_or]
    refine ⟨by decide, fun hpart ↦ ?_, by decide, by decide,
      return_not_mem_writeEntries h ht.bare⟩
    rcases Text.mem_intercalate hpart with hdot | ⟨part, hmem, hr⟩
    · cases hdot
    · obtain ⟨k, hk, rfl⟩ := List.mem_map.mp hmem
      exact isBare_ne ((isBareKey_iff.mp (hway k hk)).2 _ hr) (by decide) rfl
  have hlong := length_le_of_writeEntries h
  rw [document, dropReturns_eq_self hreturn]
  show linesWithin (_ + 1) {} ('[' :: (['.'].intercalate _ ++ _)) = _
  rw [linesWithin_header hne hway,
    linesWithin_entries h ht.bare ht.distinct (fun _ _ ↦ rfl)]
  · rfl
  · simp only [List.length_cons, List.length_append]
    omega

/-! ## A writer that follows TOML -/

/-- The keys on the way to a table become its header. -/
theorem writeUnder_nest {t : Table} (ht : ∀ e ∈ t, IsPlain e.2) (before way : Key) :
    writeUnder before (nest way t) = (writeEntries t).behind (headerText (before ++ way)) := by
  induction way generalizing before with
  | nil =>
    rw [nest, List.append_nil]
    unfold writeUnder
    split
    · cases ht _ List.mem_cons_self
    · rfl
  | cons key way ih =>
    rw [nest, writeUnder, ih, List.append_assoc, List.singleton_append]

theorem followsToml_write : Writer.FollowsToml write := by
  intro way t hne hway ht
  obtain ⟨lines, hlines⟩ := exists_writeEntries ht.values
  refine ⟨headerText way ++ lines, ?_, document_headerText_append hlines hne hway ht⟩
  rw [write, writeUnder_nest ht.values, hlines]
  rfl

end MailDispatch.Toml
