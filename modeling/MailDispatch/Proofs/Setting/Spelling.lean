import MailDispatch.Proofs.Decimal.Numeral
import MailDispatch.Setting

/-!
# Spellings of a setting

An integer may be given as its numeral, and a flag as one of its words in any letter case, both with
white space around them. What the converters make of such a text is what they make of the value
itself.
-/

namespace MailDispatch.Setting

open Decimal (numeral?)
open Text (IsPadded isBlank)

/-! ## Spellings -/

/-- The ways to give an integer. -/
inductive DenotesInteger (n : Int) : Value → Prop
  | typed : DenotesInteger n (.int n)
  | textual {text s : String} (hn : numeral? n = some text)
      (hs : IsPadded text.toList s.toList) : DenotesInteger n (.text s)

/-- The words for a flag. -/
def words (b : Bool) : List String := if b then trueWords else falseWords

/-- The text `s` is a word of small letters, each of which may be written as a capital. -/
def IsCasing (word s : List Char) : Prop := List.Forall₂ (fun d c ↦ c = d ∨ c = d.toUpper) word s

instance (word s : List Char) : Decidable (IsCasing word s) :=
  inferInstanceAs (Decidable (List.Forall₂ ..))

/-- The ways to give a flag. -/
inductive DenotesFlag (b : Bool) : Value → Prop
  | typed : DenotesFlag b (.bool b)
  | textual {word s : String} {cased : List Char} (hword : word ∈ words b)
      (hcased : IsCasing word.toList cased) (hs : IsPadded cased s.toList) : DenotesFlag b (.text s)

variable {n : Int} {b : Bool} {v : Value}

/-! ## Integers -/

theorem asInteger_of_denotes (h : DenotesInteger n v) (key : String) : asInteger key v = .ok n := by
  cases h with
  | typed => rfl
  | textual hn hs => rw [asInteger, Decimal.readInt?_numeral hn hs]

/-! ## Flags -/

/-- Small letters and capitals in the words for flags. -/
theorem letters_words (b : Bool) : ∀ word ∈ words b, ∀ d ∈ word.toList,
    ∀ c ∈ [d, d.toUpper], c.toLower = d ∧ isBlank c = false := by
  cases b <;> simp [words, trueWords, falseWords] <;> decide

theorem letters_of_isCasing {word : String} {cased : List Char} (hword : word ∈ words b)
    (h : IsCasing word.toList cased) :
    cased.map Char.toLower = word.toList ∧ ∀ c ∈ cased, isBlank c = false := by
  have hletters := letters_words b word hword
  rw [IsCasing] at h
  generalize word.toList = l at h hletters
  induction h with
  | nil => exact ⟨rfl, List.forall_mem_nil _⟩
  | @cons d c _ _ hc _ ih =>
    obtain ⟨hmap, hblank⟩ := ih fun d hd ↦ hletters d (List.mem_cons_of_mem _ hd)
    have hletter : c.toLower = d ∧ isBlank c = false :=
      hletters d List.mem_cons_self c (by simpa using hc)
    exact ⟨by rw [List.map_cons, hletter.1, hmap], List.forall_mem_cons.mpr ⟨hletter.2, hblank⟩⟩

/-- No word stands for both flags. -/
theorem flagOf_words : ∀ b, ∀ word ∈ words b, (if trueWords.contains word then some true
    else if falseWords.contains word then some false else none) = some b := by decide

theorem readFlag?_of_isCasing {word : String} {cased s : List Char} (hword : word ∈ words b)
    (hcased : IsCasing word.toList cased) (hs : IsPadded cased s) : readFlag? s = some b := by
  obtain ⟨hmap, hblank⟩ := letters_of_isCasing hword hcased
  rw [readFlag?, hs.trim_eq, Text.trim_of_forall hblank, hmap, String.ofList_toList]
  exact flagOf_words b word hword

theorem asFlag_of_denotes (h : DenotesFlag b v) (key : String) : asFlag key v = .ok b := by
  cases h with
  | typed => rfl
  | textual hword hcased hs => rw [asFlag, readFlag?_of_isCasing hword hcased hs]

end MailDispatch.Setting
