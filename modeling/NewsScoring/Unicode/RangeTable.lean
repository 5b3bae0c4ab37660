/-!
# Sets of code points as sorted boundaries

`RangeTable` stores a property of characters as the ascending list of the code points at which
membership changes: the character at the first boundary is the first member, the one at the second
boundary is the first non-member after it, and so on.  A code point belongs to the set exactly when
an odd number of boundaries is at most that code point, which `RangeTable.contains` decides by a
binary search for that number (`RangeTable.rank`).
-/

namespace NewsScoring.Unicode

/-- A set of code points, stored as the ascending positions at which membership changes. -/
structure RangeTable where
  boundaries : Array Nat

namespace RangeTable

/-- The number of boundaries at most `n`, searched for among the positions from `lo` to `hi`;
every boundary before `lo` is at most `n` and every one from `hi` on is above it. -/
def rankBetween (boundaries : Array Nat) (n lo hi : Nat) : Nat :=
  if lo < hi then
    let mid := (lo + hi) / 2
    if boundaries.getD mid 0 ≤ n then rankBetween boundaries n (mid + 1) hi
    else rankBetween boundaries n lo mid
  else lo
termination_by hi - lo

/-- The number of boundaries at most `n`. -/
def rank (table : RangeTable) (n : Nat) : Nat :=
  rankBetween table.boundaries n 0 table.boundaries.size

/-- Whether a character belongs to the set: an odd number of boundaries is at most its code. -/
def contains (table : RangeTable) (c : Char) : Bool :=
  table.rank c.toNat % 2 == 1

end RangeTable

end NewsScoring.Unicode
