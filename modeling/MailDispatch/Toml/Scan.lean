/-!
# Scanning TOML

What all parts of a TOML reader share: the ways in which a document can be unreadable, the shape of
scanners, and the characters and gaps between tokens.
-/

namespace MailDispatch.Toml

/-- Why a document cannot be read: it is malformed, it holds a decimal integer with so many digits
that it is not read, or its values are nested too deeply. -/
inductive TomlError where
  | malformed
  | longNumeral (digits : Nat)
  | tooDeep
  deriving DecidableEq, Repr

/-- The result of a scanner: what was read and the text that is left. -/
abbrev Scan (α : Type) := Except TomlError (α × List Char)

/-- The failure of a malformed document. -/
def malformed {α : Type} : Except TomlError α := .error .malformed

/-- A blank or a tab. -/
def isSpace (c : Char) : Bool := c = ' ' || c = '\t'

/-- A blank, a tab or a line feed. -/
def isSpaceOrBreak (c : Char) : Bool := isSpace c || c = '\n'

/-- A control character. -/
def isControl (c : Char) : Bool := c.toNat < 32 || c.toNat = 127

/-- A character that may not stand in a text or a comment. `lines` says whether line feeds may. -/
def isForbidden (lines : Bool) (c : Char) : Bool :=
  isControl c && c != '\t' && !(lines && c = '\n')

/-- Passes over blanks and tabs. -/
def skipSpace (s : List Char) : List Char := s.dropWhile isSpace

/-- Passes over blanks, tabs and line feeds. -/
def skipLines (s : List Char) : List Char := s.dropWhile isSpaceOrBreak

/-- Passes over a comment up to the end of its line, if one starts here. -/
def skipComment (s : List Char) : Except TomlError (List Char) :=
  match s with
  | '#' :: rest =>
    if (rest.takeWhile (· != '\n')).any (isForbidden false) then malformed
    else .ok (rest.dropWhile (· != '\n'))
  | _ => .ok s

/-- Passes over blanks, tabs, line feeds and comments. `comment` says whether a comment is being
passed over. -/
def skipGap : (comment : Bool) → List Char → Except TomlError (List Char)
  | _, [] => .ok []
  | false, c :: rest =>
    if isSpaceOrBreak c then skipGap false rest
    else if c = '#' then skipGap true rest
    else .ok (c :: rest)
  | true, c :: rest =>
    if c = '\n' then skipGap false rest
    else if isForbidden false c then malformed
    else skipGap true rest

/-- Passes over the rest of a line: blanks, tabs, a comment and the line feed, which may be missing
at the end of the document. -/
def endLine (s : List Char) : Except TomlError (List Char) :=
  (skipComment (skipSpace s)).bind fun
    | [] => .ok []
    | '\n' :: rest => .ok rest
    | _ => malformed

end MailDispatch.Toml
