import MailDispatch.Proofs.Decimal.Numeral
import MailDispatch.Value.Basic

/-!
# Which values can be written

A value is writable if it has a literal, that is, if no integer in it is too long. Writability
passes from a list or a table to everything in it, and back, so that whatever is looked up in a
writable table can be shown in a message or filled into a template.
-/

namespace MailDispatch.Value

/-- No integer in the value is too long to be written. -/
def IsWritable (v : Value) : Prop := v.literal?.isSome

theorem isWritable_text (s : String) : (text s).IsWritable := by
  rw [IsWritable, literal?]
  rfl

theorem isWritable_int_iff {n : Int} : (int n).IsWritable ↔ (Decimal.numeral? n).isSome := by
  rw [IsWritable, literal?]

/-- A byte is a small number. -/
theorem isWritable_byte (b : UInt8) : (int b.toNat).IsWritable := by
  rw [isWritable_int_iff, Decimal.isSome_numeral?_iff]
  calc (b.toNat : Int).natAbs
      < 10 ^ 3 := by have := b.toNat_lt; simp only [Int.natAbs_natCast]; omega
    _ ≤ 10 ^ Decimal.maxDigits := Nat.pow_le_pow_right (by decide) (by decide)

/-- The plain text of a value can be written exactly if its literal can. -/
theorem isSome_text?_iff {v : Value} : v.text?.isSome ↔ v.IsWritable := by
  cases v with
  | text s => exact iff_of_true rfl (isWritable_text s)
  | moment m => exact iff_of_true rfl (by rw [IsWritable, literal?]; rfl)
  | _ => rfl

/-! ## Lists and tables -/

theorem isSome_literals?_iff {items : List Value} :
    (literals? items).isSome ↔ ∀ v ∈ items, v.IsWritable := by
  induction items with
  | nil => simp [literals?]
  | cons v rest ih =>
    rw [literals?, List.forall_mem_cons, ← ih, IsWritable]
    cases v.literal? <;> simp

theorem isSome_entryLiterals?_iff {entries : Table} :
    (entryLiterals? entries).isSome ↔ ∀ e ∈ entries, e.2.IsWritable := by
  induction entries with
  | nil => simp [entryLiterals?]
  | cons e rest ih =>
    rw [entryLiterals?, List.forall_mem_cons, ← ih, IsWritable]
    cases e.2.literal? <;> simp

theorem isWritable_table_iff {entries : Table} :
    (table entries).IsWritable ↔ ∀ e ∈ entries, e.2.IsWritable := by
  rw [IsWritable, literal?, Option.isSome_map, isSome_entryLiterals?_iff]

/-- What is looked up in a writable table is writable. -/
theorem IsWritable.lookup {entries : Table} (h : (table entries).IsWritable) {key : String}
    {v : Value} (hv : entries.lookup key = some v) : v.IsWritable := by
  rw [isWritable_table_iff] at h
  obtain ⟨l₁, l₂, rfl, -⟩ := List.lookup_eq_some_iff.mp hv
  exact h (key, v) (List.mem_append_right _ List.mem_cons_self)

/-- The items of a writable value are writable. -/
theorem IsWritable.items {v : Value} (h : v.IsWritable) {items : List Value}
    (hi : v.items? = some items) : ∀ i ∈ items, i.IsWritable := by
  cases v with
  | list l =>
    cases hi
    rwa [IsWritable, literal?, Option.isSome_map, isSome_literals?_iff] at h
  | tuple l =>
    cases hi
    rwa [IsWritable, literal?, Option.isSome_map, isSome_literals?_iff] at h
  | bytes bs =>
    cases hi
    intro i hi
    obtain ⟨b, -, rfl⟩ := List.mem_map.mp hi
    exact isWritable_byte b
  | _ => cases hi

end MailDispatch.Value
