import MailDispatch.Proofs.Text.Runs
import MailDispatch.Proofs.Toml.Number
import MailDispatch.Proofs.Toml.Text
import MailDispatch.Toml.Value
import MailDispatch.Toml.Writer

/-!
# Keys and values are read back

A dotted key whose parts need no quotes is read back, up to the blanks behind it, and so is the form
of a flag, an integer or a text at the end of a line.
-/

namespace MailDispatch.Toml

/-! ## Keys -/

/-- Whether a key can be written without quotes. -/
def isBareKey (key : String) : Bool := !key.toList.isEmpty && key.toList.all isBare

theorem isBareKey_iff {key : String} :
    isBareKey key = true ↔ key.toList ≠ [] ∧ ∀ c ∈ key.toList, isBare c = true := by
  simp [isBareKey]

/-- A bare key starts with a character that begins nothing else. -/
theorem eq_cons_of_isBareKey {key : String} (h : isBareKey key = true) :
    ∃ c rest, key.toList = c :: rest ∧ isBare c = true := by
  obtain ⟨hne, hbare⟩ := isBareKey_iff.mp h
  obtain ⟨c, rest, hkey⟩ := List.exists_cons_of_ne_nil hne
  exact ⟨c, rest, hkey, hbare c (hkey ▸ List.mem_cons_self)⟩

theorem isBare_ne {c d : Char} (h : isBare c = true) (hd : isBare d = false) : c ≠ d := by
  rintro rfl
  rw [h] at hd
  cases hd

theorem skipSpace_of_isBare {c : Char} (h : isBare c = true) (s : List Char) :
    skipSpace (c :: s) = c :: s := by
  refine List.dropWhile_cons_of_neg ?_
  rw [isSpace, Bool.or_eq_true, decide_eq_true_eq, decide_eq_true_eq, not_or]
  exact ⟨isBare_ne h (by decide), isBare_ne h (by decide)⟩

/-- A bare key is read up to the first character that cannot belong to it. -/
theorem keyPart_append {key : String} (hkey : isBareKey key = true) {left : List Char}
    (hleft : ∀ c ∈ left.head?, isBare c = false) :
    keyPart (key.toList ++ left) = .ok (key, left) := by
  obtain ⟨c, rest, hc, hbare⟩ := eq_cons_of_isBareKey hkey
  obtain ⟨htake, hdrop⟩ :=
    Text.takeWhile_dropWhile_iff.mpr ⟨rfl, (isBareKey_iff.mp hkey).2, hleft⟩
  unfold keyPart
  split
  · next h => exact absurd (List.cons.inj (hc ▸ h)).1 (isBare_ne hbare (by decide))
  · next h => exact absurd (List.cons.inj (hc ▸ h)).1 (isBare_ne hbare (by decide))
  · rw [htake, hdrop, if_neg (by rw [hc]; exact Bool.false_ne_true),
      String.ofList_toList]

theorem keyWithin_last {part : String} {s left : List Char} (h : keyPart s = .ok (part, left))
    (hdot : (skipSpace left).head? ≠ some '.') (fuel : Nat) :
    keyWithin (fuel + 1) s = .ok ([part], skipSpace left) := by
  rw [keyWithin, h]
  simp only [bind, Except.bind]
  split
  · next hs => exact absurd (congrArg List.head? hs) hdot
  · rfl

theorem keyWithin_dot {part : String} {s rest left : List Char} {parts : Key} {fuel : Nat}
    (h : keyPart s = .ok (part, '.' :: rest))
    (hrest : keyWithin fuel (skipSpace rest) = .ok (parts, left)) :
    keyWithin (fuel + 1) s = .ok (part :: parts, left) := by
  rw [keyWithin, h]
  show (keyWithin fuel (skipSpace rest)).bind _ = _
  rw [hrest]
  rfl

/-- A dotted key of bare parts starts with a bare character. -/
theorem intercalate_eq_cons {part : String} (h : isBareKey part = true) (parts : Key) :
    ∃ c rest, ['.'].intercalate ((part :: parts).map String.toList) = c :: rest ∧
      isBare c = true := by
  obtain ⟨c, rest, hc, hbare⟩ := eq_cons_of_isBareKey h
  cases parts with
  | nil =>
    rw [List.map_cons, List.map_nil, List.intercalate_singleton]
    exact ⟨c, rest, hc, hbare⟩
  | cons next parts =>
    rw [List.map_cons, List.map_cons, List.intercalate_cons_cons, hc]
    exact ⟨c, _, rfl, hbare⟩

theorem skipSpace_intercalate {part : String} (h : isBareKey part = true) (parts : Key)
    (left : List Char) :
    skipSpace (['.'].intercalate ((part :: parts).map String.toList) ++ left)
      = ['.'].intercalate ((part :: parts).map String.toList) ++ left := by
  obtain ⟨c, rest, hc, hbare⟩ := intercalate_eq_cons h parts
  rw [hc]
  exact skipSpace_of_isBare hbare _

/-- A dotted key of bare parts is read, together with the blanks behind it. -/
theorem keyWithin_intercalate {path : Key} (hne : path ≠ [])
    (hpath : ∀ k ∈ path, isBareKey k = true) {left : List Char}
    (hleft : ∀ c ∈ left.head?, isBare c = false) (hdot : (skipSpace left).head? ≠ some '.')
    {fuel : Nat} (hfuel : path.length ≤ fuel) :
    keyWithin fuel (['.'].intercalate (path.map String.toList) ++ left)
      = .ok (path, skipSpace left) := by
  induction path generalizing fuel with
  | nil => exact absurd rfl hne
  | cons part parts ih =>
    obtain ⟨fuel, rfl⟩ : ∃ n, fuel = n + 1 :=
      Nat.exists_eq_succ_of_ne_zero (Nat.ne_of_gt (Nat.lt_of_lt_of_le (Nat.succ_pos _) hfuel))
    have hpart := hpath part List.mem_cons_self
    cases parts with
    | nil =>
      rw [List.map_cons, List.map_nil, List.intercalate_singleton]
      exact keyWithin_last (keyPart_append hpart hleft) hdot fuel
    | cons next parts =>
      have hnext := hpath next (List.mem_cons_of_mem _ List.mem_cons_self)
      have hrest := ih (List.cons_ne_nil _ _) (fun k hk ↦ hpath k (List.mem_cons_of_mem _ hk))
        (Nat.le_of_succ_le_succ hfuel)
      rw [List.map_cons, List.map_cons, List.intercalate_cons_cons, List.append_assoc,
        List.append_assoc, List.singleton_append]
      refine keyWithin_dot (keyPart_append hpart fun c hc ↦ ?_) ?_
      · rw [← Option.some.inj hc]
        decide
      · rwa [← List.map_cons, skipSpace_intercalate hnext]

/-! ## Values -/

theorem quotedChar_eq_cons (c : Char) : ∃ d rest, quotedChar c = d :: rest ∧ d ≠ '"' := by
  rw [quotedChar]
  split
  · exact ⟨_, _, rfl, by decide⟩
  · next h =>
    have hc : c ≠ '"' := fun hc ↦ h (by rw [hc]; rfl)
    repeat' split
    all_goals first
      | exact ⟨_, _, rfl, by decide⟩
      | exact ⟨_, _, rfl, hc⟩

/-- A quoted text does not start with three quotes. -/
theorem quoted_ne_three (s rest : List Char) (left : List Char) :
    s.flatMap quotedChar ++ ('"' :: '\n' :: rest) ≠ '"' :: '"' :: left := by
  cases s with
  | nil => exact fun h ↦ absurd (List.cons.inj (List.cons.inj h).2).1 (by decide)
  | cons c s =>
    obtain ⟨d, tail, hd, hne⟩ := quotedChar_eq_cons c
    rw [List.flatMap_cons, hd]
    exact fun h ↦ hne (List.cons.inj h).1

theorem valueWithin_quoted (fuel room : Nat) (s rest : List Char) :
    valueWithin (fuel + 1) room (quoted s ++ '\n' :: rest)
      = .ok (.text (String.ofList s), '\n' :: rest) := by
  have hline : quoted s ++ '\n' :: rest
      = '"' :: (s.flatMap quotedChar ++ ('"' :: '\n' :: rest)) := by
    rw [quoted, List.cons_append, List.append_assoc]
    rfl
  rw [hline, valueWithin, basicText_flatMap]
  · rfl
  · exact fun left h ↦ quoted_ne_three s rest left h

theorem digitChar_not_mem : ∀ d < 10,
    Decimal.digitChar d ∉ ['"', '\'', 't', 'f', '[', '\x7b'] := by decide

/-- A value that starts like a numeral is read as a number or a moment. -/
theorem valueWithin_scalar {c : Char} (hc : c ∉ ['"', '\'', 't', 'f', '[', '\x7b'])
    (fuel room : Nat) (s : List Char) : valueWithin (fuel + 1) room (c :: s) = scalar (c :: s) := by
  unfold valueWithin
  split <;> simp_all

/-- A value at the end of a line is read back. -/
theorem value_valueText {v : Value} {text : List Char} (h : valueText? v = some text)
    (rest : List Char) : value (text ++ '\n' :: rest) = .ok (v, '\n' :: rest) := by
  rw [value]
  cases v with
  | bool b =>
    cases b <;> cases h <;> rfl
  | int n =>
    obtain ⟨numeral, hn, rfl⟩ := Option.map_eq_some_iff.mp h
    obtain ⟨c, tail, hc, hfirst⟩ := toList_numeral_eq_cons n
    have hscalar := scalar_numeral hn rest
    rw [← (Decimal.numeral?_eq_some_iff.mp hn).2, hc] at hscalar ⊢
    refine (valueWithin_scalar ?_ _ _ _).trans hscalar
    rcases hfirst with rfl | ⟨d, hd, rfl⟩
    · decide
    · exact digitChar_not_mem d hd
  | text s =>
    cases h
    rw [valueWithin_quoted, String.ofList_toList]
  | _ => cases h

end MailDispatch.Toml
