import MailDispatch.Text.Hex
import MailDispatch.Toml.Scan

/-!
# Texts in TOML

Texts stand between quotes, where backslashes escape, or between apostrophes, where nothing does;
tripled, either may run over several lines. `quoted` writes a text between quotes in a way that is
read back as the same text.
-/

namespace MailDispatch.Toml

open Text (hexDigits hexNumber?)

/-! ## Between apostrophes -/

/-- Puts a character in front of what a scanner read. -/
def prepend (c : Char) : List Char × List Char → List Char × List Char
  | (text, left) => (c :: text, left)

/-- Reads up to the closing apostrophe. -/
def literalText : List Char → Scan (List Char)
  | [] => malformed
  | c :: rest =>
    if c = '\'' then .ok ([], rest)
    else if isForbidden false c then malformed
    else (literalText rest).map (prepend c)

/-- Reads up to the three closing apostrophes. -/
def literalLines : List Char → Scan (List Char)
  | [] => malformed
  | '\'' :: '\'' :: '\'' :: rest => .ok ([], rest)
  | c :: rest =>
    if isForbidden true c then malformed else (literalLines rest).map (prepend c)

/-! ## Between quotes -/

/-- The characters that a backslash in front of a single character stands for. -/
def escapes : List (Char × Char) :=
  [('b', '\x08'), ('t', '\t'), ('n', '\n'), ('f', '\x0c'), ('r', '\r'), ('"', '"'), ('\\', '\\')]

/-- Reads the scalar value of a character in `width` hexadecimal digits. -/
def hexScalar (width : Nat) (s : List Char) : Scan (List Char) :=
  if (s.take width).length = width then match hexNumber? (s.take width) with
    | some n => if n.isValidChar then .ok ([Char.ofNat n], s.drop width) else malformed
    | none => malformed
  else malformed

/-- Reads what follows a backslash. Where line feeds are allowed, a backslash at the end of a line
takes away all white space up to the next character. -/
def escape (lines : Bool) (s : List Char) : Scan (List Char) :=
  match s with
  | [] => malformed
  | c :: rest =>
    if lines && isSpaceOrBreak c then match skipSpace (c :: rest) with
      | [] => .ok ([], [])
      | '\n' :: left => .ok ([], skipLines left)
      | _ => malformed
    else if c = 'u' then hexScalar 4 rest
    else if c = 'U' then hexScalar 8 rest
    else match escapes.lookup c with
      | some d => .ok ([d], rest)
      | none => malformed

theorem length_dropWhile_le (p : Char → Bool) (s : List Char) :
    (s.dropWhile p).length ≤ s.length := by
  induction s with
  | nil => simp
  | cons c rest ih =>
    rw [List.dropWhile_cons]
    split
    · exact Nat.le_succ_of_le ih
    · exact Nat.le_refl _

theorem length_hexScalar {width : Nat} {s text left : List Char}
    (h : hexScalar width s = .ok (text, left)) : left.length ≤ s.length := by
  unfold hexScalar malformed at h
  repeat' split at h
  all_goals simp_all
  rw [← h.2, List.length_drop]
  omega

theorem length_escape {lines : Bool} {s text left : List Char}
    (h : escape lines s = .ok (text, left)) : left.length ≤ s.length := by
  unfold escape malformed at h
  split at h
  · simp at h
  · next c rest =>
    split at h
    · have h₁ := length_dropWhile_le isSpace (c :: rest)
      split at h
      · simp_all
      · next left' hl =>
        have h₂ := length_dropWhile_le isSpaceOrBreak left'
        rw [skipSpace] at hl
        rw [hl] at h₁
        simp only [Except.ok.injEq, Prod.mk.injEq] at h
        rw [← h.2, skipLines]
        simp only [List.length_cons] at h₁ ⊢
        omega
      · simp at h
    · split at h
      · exact Nat.le_succ_of_le (length_hexScalar h)
      · split at h
        · exact Nat.le_succ_of_le (length_hexScalar h)
        · split at h
          · simp_all
          · simp at h

/-- Reads up to the closing quote, or to three of them where line feeds are allowed. -/
def basicText (lines : Bool) (s : List Char) : Scan (List Char) :=
  match s with
  | [] => malformed
  | c :: rest =>
    if c = '"' then
      if !lines then .ok ([], rest)
      else if ['"', '"'].isPrefixOf rest then .ok ([], rest.drop 2)
      else (basicText lines rest).map (prepend c)
    else if c = '\\' then match h : escape lines rest with
      | .error e => .error e
      | .ok (chars, left) =>
        have := length_escape h
        (basicText lines left).map fun (text, left) ↦ (chars ++ text, left)
    else if isForbidden lines c then malformed
    else (basicText lines rest).map (prepend c)
termination_by s.length
decreasing_by all_goals simp only [List.length_cons]; omega

/-! ## Over several lines -/

/-- Passes over the line feed right behind an opening. -/
def skipFirstBreak : List Char → List Char
  | '\n' :: rest => rest
  | s => s

/-- Adds up to two delimiters that stand in front of the three closing ones. -/
def extraDelimiters (c : Char) : List Char × List Char → List Char × List Char
  | (text, a :: b :: left) =>
    if a = c ∧ b = c then (text ++ [c, c], left)
    else if a = c then (text ++ [c], b :: left)
    else (text, a :: b :: left)
  | (text, [a]) => if a = c then (text ++ [c], []) else (text, [a])
  | (text, []) => (text, [])

/-- Reads a text over several lines, from behind its three opening quotes. -/
def basicLines (s : List Char) : Scan (List Char) :=
  (basicText true (skipFirstBreak s)).map (extraDelimiters '"')

/-- Reads a text over several lines, from behind its three opening apostrophes. -/
def literalBlock (s : List Char) : Scan (List Char) :=
  (literalLines (skipFirstBreak s)).map (extraDelimiters '\'')

/-! ## Writing -/

/-- A character of a text between quotes. -/
def quotedChar (c : Char) : List Char :=
  if c = '"' || c = '\\' then ['\\', c]
  else if c = '\x08' then ['\\', 'b']
  else if c = '\n' then ['\\', 'n']
  else if c = '\x0c' then ['\\', 'f']
  else if c = '\r' then ['\\', 'r']
  else if isForbidden false c then '\\' :: 'u' :: hexDigits 4 c.toNat
  else [c]

/-- A text between quotes. -/
def quoted (s : List Char) : List Char := '"' :: (s.flatMap quotedChar ++ ['"'])

end MailDispatch.Toml
