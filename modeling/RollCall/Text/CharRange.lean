/-!
# Sets of characters as lists of code-point ranges

The Unicode properties that the library needs are finite unions of ranges.  A table is a list of
pairs `(first, last)`, both ends included.

* `RangeTable.contains` decides membership.
-/

namespace RollCall.Text

/-- A table of code-point ranges, both ends included. -/
abbrev RangeTable := List (Nat × Nat)

/-- A character lies in a table when its code point lies in one of the ranges. -/
def RangeTable.contains (table : RangeTable) (c : Char) : Bool :=
  table.any fun range => decide (range.1 ≤ c.toNat) && decide (c.toNat ≤ range.2)

end RollCall.Text
