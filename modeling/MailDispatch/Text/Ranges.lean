/-!
# Classes of characters given by ranges

A character class of the Unicode standard is data: an increasing list of closed ranges of scalar
values. This file says what it means to lie in such a list; the lists themselves stand in the
modules named for their class.
-/

namespace MailDispatch.Text

/-- A closed range of scalar values: its least and its greatest member. -/
abbrev ScalarRange := Nat × Nat

/-- Membership of a scalar value in a list of closed ranges. -/
def inRanges (table : List ScalarRange) (n : Nat) : Bool :=
  table.any fun r ↦ r.1 ≤ n && n ≤ r.2

end MailDispatch.Text
