import MailDispatch.Text.Ranges

/-!
# White space

The white space that is trimmed from settings and addresses: the ASCII blanks, the four
information separators U+001C to U+001F, the next-line control, and the Unicode space separators.
`trim` removes it at both ends and nowhere else.
-/

namespace MailDispatch.Text

/-- The ranges of white space. -/
def blankRanges : List ScalarRange :=
  [(0x9, 0xd), (0x1c, 0x20), (0x85, 0x85), (0xa0, 0xa0), (0x1680, 0x1680), (0x2000, 0x200a),
    (0x2028, 0x2029), (0x202f, 0x202f), (0x205f, 0x205f), (0x3000, 0x3000)]

/-- White space, in the sense of this library. -/
def isBlank (c : Char) : Bool := inRanges blankRanges c.toNat

/-- The text without the white space at its end. -/
def trimRight : List Char → List Char
  | [] => []
  | c :: rest => match trimRight rest with
    | [] => if isBlank c then [] else [c]
    | d :: rest' => c :: d :: rest'

/-- The text without the white space at its two ends. -/
def trim (s : List Char) : List Char := trimRight (s.dropWhile isBlank)

end MailDispatch.Text
