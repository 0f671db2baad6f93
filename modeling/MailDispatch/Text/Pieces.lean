/-!
# Cutting a text at a separator

`pieces` cuts a text at every occurrence of a separator, so there is one piece more than there are
separators and no piece holds one; `lastPiece` is the part after the last separator, the whole text
if there is none.
-/

namespace MailDispatch.Text

/-- The parts of a text between the occurrences of a separator. -/
def pieces (separator : Char) : List Char → List (List Char)
  | [] => [[]]
  | c :: rest =>
    if c = separator then [] :: pieces separator rest
    else match pieces separator rest with
      | [] => [[c]]
      | piece :: others => (c :: piece) :: others

/-- The part of a text after the last occurrence of a separator. -/
def lastPiece (separator : Char) : List Char → List Char
  | [] => []
  | c :: rest =>
    if rest.contains separator then lastPiece separator rest
    else if c = separator then rest else c :: rest

/-- Whether a text occurs within another one. -/
def occurs (part : List Char) : List Char → Bool
  | [] => part.isEmpty
  | c :: rest => part.isPrefixOf (c :: rest) || occurs part rest

theorem pieces_ne_nil (separator : Char) (s : List Char) : pieces separator s ≠ [] := by
  cases s with
  | nil => simp [pieces]
  | cons c rest =>
    rw [pieces]
    split
    · simp
    · split <;> simp

/-- No separator survives in the last piece. -/
theorem not_mem_lastPiece (separator : Char) (s : List Char) :
    separator ∉ lastPiece separator s := by
  induction s with
  | nil => simp [lastPiece]
  | cons c rest ih =>
    rw [lastPiece]
    split
    · exact ih
    · next h =>
      have h' : separator ∉ rest := by simpa using h
      split
      · exact h'
      · next hc => simp [h', Ne.symm hc]

end MailDispatch.Text
