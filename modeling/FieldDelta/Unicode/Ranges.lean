/-! # Tables of code points

A property of characters is stored as a list of closed ranges of code points, in rising order.
`inRanges` looks a character up in such a table.
-/

namespace FieldDelta.Unicode

/-- A closed range of code points: its first and its last member. -/
abbrev CodeRange := Nat × Nat

/-- Whether `c` lies in one of the ranges. -/
def inRanges (ranges : List CodeRange) (c : Char) : Bool :=
  ranges.any fun (first, last) => first ≤ c.toNat && c.toNat ≤ last

end FieldDelta.Unicode
