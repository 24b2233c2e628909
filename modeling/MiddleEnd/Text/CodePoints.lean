/-!
# Ranges of code points

Properties of characters are given as tables of ranges of code points. A table is in ascending
order, its ranges are inclusive and do not overlap, and `Ranges.contains` looks a character up.
-/

namespace MiddleEnd.Text

/-- Inclusive ranges of code points, in ascending order. -/
abbrev Ranges := List (Nat × Nat)

/-- Whether the code point of a character lies in one of the ranges. -/
def Ranges.contains (table : Ranges) (c : Char) : Bool :=
  table.any fun range => range.1 ≤ c.toNat && c.toNat ≤ range.2

end MiddleEnd.Text
