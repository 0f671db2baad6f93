import MailDispatch.CommandLine.Report
import MailDispatch.Proofs.Toml.Text
import MailDispatch.Text.Units

/-!
# Reports are read back

The report of a failed task is JSON, and a reader of JSON finds in it all that there is to tell:
the kind of the failure, its message, whether the task may be tried again, and the cause, whatever
characters these texts hold. In JSON a quoted text stands for UTF-16 units, so that a character
beyond the first 65536 is written as two escapes, and neither of them is a character.
-/

namespace MailDispatch

/-- What a JSON text stands for. No report holds a number, an array or null. -/
inductive Json where
  | text (s : String)
  | truth (b : Bool)
  | object (entries : List (String × Json))

namespace Json

open CommandLine
open Text (hexDigits hexNumber? isHighSurrogate isLowSurrogate pairChar)

/-! ## Quoted texts -/

/-- The UTF-16 units of a character. -/
def unitsOf (c : Char) : List Nat :=
  if c.toNat < 0x10000 then [c.toNat]
  else [0xd800 + (c.toNat - 0x10000) / 0x400, 0xdc00 + (c.toNat - 0x10000) % 0x400]

/-- The text that UTF-16 units stand for. A surrogate alone stands for nothing. -/
def ofUnits? : List Nat → Option (List Char)
  | [] => some []
  | n :: rest =>
    if isLowSurrogate n then none
    else if isHighSurrogate n then match rest with
      | [] => none
      | m :: rest => if isLowSurrogate m then (ofUnits? rest).map (pairChar n m :: ·) else none
    else (ofUnits? rest).map (Char.ofNat n :: ·)

/-- The letters that a backslash escapes, and the units that they stand for then. -/
def escapes : List (Char × Nat) :=
  [('"', 0x22), ('\\', 0x5c), ('/', 0x2f), ('b', 8), ('f', 12), ('n', 10), ('r', 13), ('t', 9)]

/-- The units of a quoted text, up to the closing quote, and what stands behind it. -/
def units : List Char → Option (List Nat × List Char)
  | [] => none
  | '"' :: left => some ([], left)
  | '\\' :: 'u' :: a :: b :: c :: d :: rest =>
    (hexNumber? [a, b, c, d]).bind fun n ↦ (units rest).map (Prod.map (n :: ·) id)
  | '\\' :: c :: rest =>
    (escapes.lookup c).bind fun n ↦ (units rest).map (Prod.map (n :: ·) id)
  | c :: rest => if c.toNat < 0x20 then none else (units rest).map (Prod.map (unitsOf c ++ ·) id)

/-- The text up to the closing quote, and what stands behind it. -/
def readText (s : List Char) : Option (String × List Char) :=
  (units s).bind fun (ns, left) ↦ (ofUnits? ns).map fun t ↦ (String.ofList t, left)

/-! ## Values -/

/-- Whether a character may stand around values. -/
def isSpace (c : Char) : Bool := c = ' ' || c = '\n' || c = '\r' || c = '\t'

/-- The text behind white space. -/
def skip (s : List Char) : List Char := s.dropWhile isSpace

/-- What stands behind a sign, if a text begins with it. -/
def behind (sign : Char) (s : List Char) : Option (List Char) :=
  match skip s with
  | [] => none
  | c :: left => if c = sign then some left else none

/-- The key at the beginning of an entry, and what stands behind its colon. -/
def readKey (s : List Char) : Option (String × List Char) :=
  (behind '"' s).bind fun rest ↦ (readText rest).bind fun (key, left) ↦
    (behind ':' left).map (key, ·)

mutual

/-- The value at the beginning of a text, and what stands behind it. The fuel is used up by one
for each value and each entry; the length of the text is enough of it. -/
def readValue : (fuel : Nat) → List Char → Option (Json × List Char)
  | 0, _ => none
  | fuel + 1, s => match skip s with
    | '"' :: rest => (readText rest).map (Prod.map .text id)
    | 't' :: 'r' :: 'u' :: 'e' :: left => some (.truth true, left)
    | 'f' :: 'a' :: 'l' :: 's' :: 'e' :: left => some (.truth false, left)
    | '\x7b' :: rest => match skip rest with
      | '\x7d' :: left => some (.object [], left)
      | rest => (readEntries fuel rest).map (Prod.map .object id)
    | _ => none

/-- The entries of an object up to its closing brace, and what stands behind it. -/
def readEntries : (fuel : Nat) → List Char → Option (List (String × Json) × List Char)
  | 0, _ => none
  | fuel + 1, s => (readKey s).bind fun (key, rest) ↦ (readValue fuel rest).bind fun (v, rest) ↦
    match skip rest with
    | ',' :: rest => (readEntries fuel rest).map (Prod.map ((key, v) :: ·) id)
    | '\x7d' :: left => some ([(key, v)], left)
    | _ => none

end

/-- The value that a JSON text stands for. -/
def read (s : String) : Option Json :=
  match readValue s.length s.toList with
  | some (v, left) => if skip left = [] then some v else none
  | none => none

/-! ## Quoted texts are read back -/

theorem toNat_cases (c : Char) :
    c.toNat < 0xd800 ∨ 0xdfff < c.toNat ∧ c.toNat < 0x110000 := c.valid

theorem units_unitEscape {n : Nat} (hn : n < 0x10000) (rest : List Char) :
    units (unitEscape n ++ rest) = (units rest).map (Prod.map (n :: ·) id) := by
  have hread := Text.hexNumber?_hexDigits 4 n
  rw [Nat.mod_eq_of_lt (show n < 16 ^ 4 from hn)] at hread
  show (hexNumber? (hexDigits 4 n)).bind _ = _
  rw [hread]
  rfl

theorem units_escape {letter : Char} {n : Nat} (h : escapes.lookup letter = some n)
    (rest : List Char) :
    units ('\\' :: letter :: rest) = (units rest).map (Prod.map (n :: ·) id) := by
  have hletter : letter ≠ 'u' := by
    rintro rfl
    cases h
  rw [units.eq_4 _ _ fun _ _ _ _ _ hu _ ↦ hletter hu, h]
  rfl

theorem units_plain {c : Char} (hquote : c ≠ '"') (hslash : c ≠ '\\') (hc : ¬c.toNat < 0x20)
    (rest : List Char) : units (c :: rest) = (units rest).map (Prod.map (unitsOf c ++ ·) id) := by
  rw [units.eq_5 _ _ hquote (fun _ _ _ _ _ h _ ↦ hslash h) fun _ _ h _ ↦ hslash h, if_neg hc]

theorem units_jsonChar (c : Char) (rest : List Char) :
    units (jsonChar c ++ rest) = (units rest).map (Prod.map (unitsOf c ++ ·) id) := by
  rw [jsonChar]
  split
  · next h =>
    rcases (by simpa using h : c = '"' ∨ c = '\\') with rfl | rfl <;> exact units_escape rfl rest
  next hplain =>
  split
  · next h => exact h ▸ units_escape rfl rest
  split
  · next h => exact h ▸ units_escape rfl rest
  split
  · next h => exact h ▸ units_escape rfl rest
  split
  · next h => exact h ▸ units_escape rfl rest
  split
  · next h => exact h ▸ units_escape rfl rest
  split
  · next h =>
    simp only [Bool.or_eq_true, decide_eq_true_iff, not_or] at hplain
    simp only [Bool.and_eq_true, decide_eq_true_iff] at h
    exact units_plain hplain.1 hplain.2 (by omega) rest
  split
  · next h => rw [units_unitEscape h, unitsOf, if_pos h]; rfl
  · next h =>
    have hvalid := toNat_cases c
    rw [List.append_assoc, units_unitEscape (by omega), units_unitEscape (by omega),
      Option.map_map, unitsOf, if_neg h]
    rfl

theorem units_flatMap (s rest : List Char) :
    units (s.flatMap jsonChar ++ '"' :: rest) = some (s.flatMap unitsOf, rest) := by
  induction s with
  | nil => rw [List.flatMap_nil, List.nil_append, units.eq_2]; rfl
  | cons c s ih =>
    rw [List.flatMap_cons, List.append_assoc, units_jsonChar, ih, List.flatMap_cons]
    rfl

theorem ofUnits?_pair {n m : Nat} (hn : isHighSurrogate n = true) (hm : isLowSurrogate m = true)
    (rest : List Nat) : ofUnits? (n :: m :: rest) = (ofUnits? rest).map (pairChar n m :: ·) := by
  have hlow : isLowSurrogate n = false := by
    simp only [isHighSurrogate, isLowSurrogate, Bool.and_eq_true, Bool.and_eq_false_iff,
      decide_eq_true_iff, decide_eq_false_iff_not] at hn ⊢
    omega
  rw [ofUnits?.eq_def]
  simp only [hlow, hn, hm, if_true, Bool.false_eq_true, if_false]

/-- A character is read back from its units. -/
theorem ofUnits?_unitsOf (c : Char) (rest : List Nat) :
    ofUnits? (unitsOf c ++ rest) = (ofUnits? rest).map (c :: ·) := by
  have hvalid := toNat_cases c
  rw [unitsOf]
  split
  · have hlow : isLowSurrogate c.toNat = false := by
      simp only [isLowSurrogate, Bool.and_eq_false_iff, decide_eq_false_iff_not]
      omega
    have hhigh : isHighSurrogate c.toNat = false := by
      simp only [isHighSurrogate, Bool.and_eq_false_iff, decide_eq_false_iff_not]
      omega
    rw [List.singleton_append, ofUnits?.eq_def]
    simp only [hlow, hhigh, Bool.false_eq_true, if_false, Char.ofNat_toNat]
  · next h =>
    have hchar : pairChar (0xd800 + (c.toNat - 0x10000) / 0x400)
        (0xdc00 + (c.toNat - 0x10000) % 0x400) = c := by
      rw [pairChar, show 0x10000 + 1024 * (0xd800 + (c.toNat - 0x10000) / 0x400 - 0xd800)
        + (0xdc00 + (c.toNat - 0x10000) % 0x400 - 0xdc00) = c.toNat by omega, Char.ofNat_toNat]
    rw [List.cons_append, List.singleton_append, ofUnits?_pair, hchar]
    · simp only [isHighSurrogate, Bool.and_eq_true, decide_eq_true_iff]
      omega
    · simp only [isLowSurrogate, Bool.and_eq_true, decide_eq_true_iff]
      omega

theorem ofUnits?_flatMap (s : List Char) : ofUnits? (s.flatMap unitsOf) = some s := by
  induction s with
  | nil => rfl
  | cons c s ih => rw [List.flatMap_cons, ofUnits?_unitsOf, ih]; rfl

theorem readText_flatMap (s : String) (rest : List Char) :
    readText (s.toList.flatMap jsonChar ++ '"' :: rest) = some (s, rest) := by
  rw [readText, units_flatMap]
  show (ofUnits? _).map _ = _
  rw [ofUnits?_flatMap, Option.map_some, String.ofList_toList]

/-! ## Values are read back -/

theorem skip_append {indent : List Char} (h : ∀ c ∈ indent, isSpace c = true) (s : List Char) :
    skip (indent ++ s) = skip s :=
  List.dropWhile_append_of_pos h

theorem readValue_space (fuel : Nat) (s : List Char) :
    readValue fuel (' ' :: s) = readValue fuel s := by
  cases fuel <;> rfl

theorem readEntries_skip (fuel : Nat) (s : List Char) :
    readEntries fuel (skip s) = readEntries fuel s := by
  have hskip : skip (skip s) = skip s := List.dropWhile_idempotent _ _
  cases fuel with
  | zero => rfl
  | succ fuel => rw [readEntries, readEntries, readKey, readKey, behind, behind, hskip]

theorem readEntries_newline (fuel : Nat) (s : List Char) :
    readEntries fuel ('\n' :: s) = readEntries fuel s :=
  (readEntries_skip fuel _).symm.trans (readEntries_skip fuel s)

/-- The text is read as the value, whatever stands behind it. -/
def IsTextOf (s : String) (v : Json) : Prop :=
  ∀ fuel, s.length ≤ fuel → ∀ rest, readValue fuel (s.toList ++ rest) = some (v, rest)

theorem IsTextOf.read {s : String} {v : Json} (h : IsTextOf s v) : read s = some v := by
  have hread := h s.length le_rfl []
  rw [List.append_nil] at hread
  rw [Json.read, hread]
  rfl

theorem toList_jsonString (s : String) :
    (jsonString s).toList = '"' :: (s.toList.flatMap jsonChar ++ ['"']) := by
  rw [jsonString, String.toList_ofList]

theorem isTextOf_text (s : String) : IsTextOf (jsonString s) (.text s) := by
  intro fuel hfuel rest
  rw [← String.length_toList, toList_jsonString] at hfuel
  cases fuel with
  | zero => cases hfuel
  | succ fuel =>
    rw [toList_jsonString, List.cons_append, List.append_assoc]
    show (readText _).map _ = _
    rw [List.singleton_append, readText_flatMap]
    rfl

theorem isTextOf_truth (b : Bool) : IsTextOf (if b then "true" else "false") (.truth b) := by
  intro fuel hfuel rest
  cases fuel with
  | zero => cases b <;> cases hfuel
  | succ fuel => cases b <;> rfl

/-! ### Objects -/

/-- The entry of a text is read as an entry of an object. -/
def IsEntryOf (e : String × String) (v : String × Json) : Prop := e.1 = v.1 ∧ IsTextOf e.2 v.2

section Objects

variable {indent key text : String} {v : Json} {rest left : List Char}
  {entries : List (String × String)} {values : List (String × Json)}

theorem toList_jsonEntry (indent key text : String) : (jsonEntry indent key text).toList =
    indent.toList ++ '"' :: (key.toList.flatMap jsonChar ++ '"' :: ':' :: ' ' :: text.toList) := by
  simp only [jsonEntry, String.toList_append, toList_jsonString, List.append_assoc,
    List.cons_append, List.nil_append]
  rfl

theorem length_lt_jsonEntry (indent key text : String) :
    text.length < (jsonEntry indent key text).toList.length := by
  rw [toList_jsonEntry, ← String.length_toList]
  simp only [List.length_append, List.length_cons]
  omega

theorem readKey_jsonEntry (hindent : ∀ c ∈ indent.toList, isSpace c = true)
    (key text : String) (rest : List Char) :
    readKey ((jsonEntry indent key text).toList ++ rest)
      = some (key, ' ' :: (text.toList ++ rest)) := by
  rw [toList_jsonEntry, List.append_assoc, readKey, behind, skip_append hindent, List.cons_append,
    List.append_assoc]
  show (readText (key.toList.flatMap jsonChar ++ '"' :: _)).bind _ = _
  rw [readText_flatMap]
  rfl

/-- An entry is read as its key and its value; what comes behind it decides how it goes on. -/
theorem readEntries_jsonEntry (hindent : ∀ c ∈ indent.toList, isSpace c = true)
    (hv : IsTextOf text v) {fuel : Nat} (hfuel : text.length ≤ fuel) (key : String) :
    (∀ rest, readEntries (fuel + 1) ((jsonEntry indent key text).toList ++ ',' :: rest)
      = (readEntries fuel rest).map (Prod.map ((key, v) :: ·) id)) ∧
    ∀ rest left, skip rest = '\x7d' :: left →
      readEntries (fuel + 1) ((jsonEntry indent key text).toList ++ rest)
        = some ([(key, v)], left) := by
  refine ⟨fun rest ↦ ?_, fun rest left h ↦ ?_⟩
  · simp only [readEntries, readKey_jsonEntry hindent, Option.bind_some, readValue_space,
      hv fuel hfuel]
    rfl
  · simp only [readEntries, readKey_jsonEntry hindent, Option.bind_some, readValue_space,
      hv fuel hfuel, h]

/-- The lines of entries, one for each. -/
def entryLines (indent : String) (entries : List (String × String)) : List Char :=
  [',', '\n'].intercalate (entries.map fun e ↦ (jsonEntry indent e.1 e.2).toList)

theorem entryLines_singleton (indent key text : String) :
    entryLines indent [(key, text)] = (jsonEntry indent key text).toList :=
  List.intercalate_singleton

theorem entryLines_cons_cons (indent key text : String) (e : String × String)
    (entries : List (String × String)) : entryLines indent ((key, text) :: e :: entries)
      = (jsonEntry indent key text).toList ++ ',' :: '\n' :: entryLines indent (e :: entries) := by
  rw [entryLines, List.map_cons, List.map_cons, List.intercalate_cons_cons, List.append_assoc]
  rfl

/-- Entries in a row are read up to the closing brace behind them. -/
theorem readEntries_entryLines (hindent : ∀ c ∈ indent.toList, isSpace c = true)
    (h : List.Forall₂ IsEntryOf entries values) (hne : entries ≠ [])
    (hrest : skip rest = '\x7d' :: left) :
    ∀ fuel, (entryLines indent entries).length ≤ fuel →
      readEntries fuel (entryLines indent entries ++ rest) = some (values, left) := by
  induction h with
  | nil => exact absurd rfl hne
  | @cons e v entries _ hev hes ih =>
    obtain ⟨key, text⟩ := e
    obtain ⟨_, value⟩ := v
    obtain ⟨rfl, hvalue⟩ := hev
    have hlt := length_lt_jsonEntry indent key text
    intro fuel hfuel
    cases hes with
    | nil =>
      rw [entryLines_singleton] at hfuel ⊢
      obtain ⟨fuel, rfl⟩ : ∃ k, fuel = k + 1 := Nat.exists_eq_succ_of_ne_zero (by omega)
      exact (readEntries_jsonEntry hindent hvalue (Nat.le_of_lt_succ (hlt.trans_le hfuel)) key).2
        rest left hrest
    | cons _ _ =>
      rw [entryLines_cons_cons] at hfuel ⊢
      rw [List.length_append, List.length_cons, List.length_cons] at hfuel
      obtain ⟨fuel, rfl⟩ : ∃ k, fuel = k + 1 := Nat.exists_eq_succ_of_ne_zero (by omega)
      rw [List.append_assoc, List.cons_append, List.cons_append]
      refine ((readEntries_jsonEntry hindent hvalue (by dsimp only; omega) key).1 _).trans ?_
      rw [readEntries_newline, ih (List.cons_ne_nil _ _) fuel (by omega)]
      rfl

theorem skip_entryLines (hindent : ∀ c ∈ indent.toList, isSpace c = true) (hne : entries ≠ [])
    (rest : List Char) : ∃ tail, skip (entryLines indent entries ++ rest) = '"' :: tail := by
  have hentry : ∀ key text rest, ∃ tail,
      skip ((jsonEntry indent key text).toList ++ rest) = '"' :: tail := by
    intro key text rest
    rw [toList_jsonEntry, List.append_assoc, skip_append hindent]
    exact ⟨_, rfl⟩
  cases entries with
  | nil => exact absurd rfl hne
  | cons e entries =>
    obtain ⟨key, shown⟩ := e
    cases entries with
    | nil =>
      rw [entryLines_singleton]
      exact hentry key shown rest
    | cons e entries =>
      rw [entryLines_cons_cons, List.append_assoc]
      exact hentry key shown _

theorem readValue_close (h : skip rest = '\x7d' :: left) (fuel : Nat) :
    readValue (fuel + 1) ('\x7b' :: rest) = some (.object [], left) := by
  simp only [readValue, show skip ('\x7b' :: rest) = '\x7b' :: rest from rfl, h]

theorem readValue_entries {tail : List Char} (h : skip rest = '"' :: tail) (fuel : Nat) :
    readValue (fuel + 1) ('\x7b' :: '\n' :: rest)
      = (readEntries fuel ('\n' :: rest)).map (Prod.map .object id) := by
  have hline : skip ('\n' :: rest) = '"' :: tail := h
  rw [← readEntries_skip fuel, hline]
  simp only [readValue, show skip ('\x7b' :: '\n' :: rest) = '\x7b' :: '\n' :: rest from rfl, hline]
  rfl

/-- An object over several lines is read as its entries. -/
theorem isTextOf_object (hindent : ∀ c ∈ indent.toList, isSpace c = true)
    (h : List.Forall₂ IsEntryOf entries values) :
    IsTextOf (jsonObject indent entries) (.object values) := by
  have htext : (jsonObject indent entries).toList = '\x7b' :: '\n' ::
      (entryLines (indent ++ "  ") entries ++ '\n' :: (indent.toList ++ ['\x7d'])) := by
    simp only [jsonObject, String.toList_append, String.toList_intercalate, List.map_map,
      List.append_assoc]
    rfl
  have hinner : ∀ c ∈ (indent ++ "  ").toList, isSpace c = true := by
    rw [String.toList_append]
    exact List.forall_mem_append.mpr ⟨hindent, by simp [isSpace]⟩
  intro fuel hfuel rest
  have hclose : skip ('\n' :: (indent.toList ++ ['\x7d'] ++ rest)) = '\x7d' :: rest := by
    show skip (indent.toList ++ ['\x7d'] ++ rest) = _
    rw [List.append_assoc, skip_append hindent]
    rfl
  rw [← String.length_toList, htext] at hfuel
  rw [htext, List.cons_append, List.cons_append, List.append_assoc, List.cons_append]
  cases fuel with
  | zero => cases hfuel
  | succ fuel =>
    cases h with
    | nil => exact readValue_close hclose fuel
    | cons hev hes =>
      have hall := List.Forall₂.cons hev hes
      obtain ⟨tail, htail⟩ := skip_entryLines hinner (List.cons_ne_nil _ _)
        ('\n' :: (indent.toList ++ ['\x7d'] ++ rest))
      rw [List.length_cons, List.length_cons, List.length_append] at hfuel
      refine (readValue_entries htail fuel).trans ?_
      rw [readEntries_newline,
        readEntries_entryLines hinner hall (List.cons_ne_nil _ _) hclose fuel (by omega)]
      rfl

end Objects

end Json

/-! ## Reports are read back -/

namespace TaskFailure

/-- What there is to tell of a failed task. -/
def details (f : TaskFailure) : Json :=
  .object ([("kind", .text f.kind.text), ("message", .text f.message),
    ("retryable", .truth f.isRetryable)] ++
    match f.cause with
    | none => []
    | some c => [("cause", .object [("type", .text c.label), ("message", .text c.message)])])

/-- The report of a failed task is read as what there is to tell of it. -/
theorem read_failureReport (f : TaskFailure) :
    Json.read (CommandLine.failureReport f) = some f.details := by
  refine Json.IsTextOf.read ?_
  rw [CommandLine.failureReport, details]
  refine Json.isTextOf_object (by simp) ?_
  refine .cons ⟨rfl, Json.isTextOf_text _⟩ (.cons ⟨rfl, Json.isTextOf_text _⟩
    (.cons ⟨rfl, Json.isTextOf_truth _⟩ ?_))
  cases f.cause with
  | none => exact .nil
  | some c =>
    refine .cons ⟨rfl, Json.isTextOf_object (by simp [Json.isSpace]) ?_⟩ .nil
    exact .cons ⟨rfl, Json.isTextOf_text _⟩ (.cons ⟨rfl, Json.isTextOf_text _⟩ .nil)

end TaskFailure

end MailDispatch
