/-!
# The shortest decimal that reads back

A positive binary floating-point number is `m · 2 ^ q`.  The real numbers that round to it form an
interval around it, which contains its ends exactly if `m` is even.  `shortest` is the decimal with
the fewest digits in that interval, and of those the nearest to the number: the decimal grids `10 ^
k` are tried from the coarsest to the finest, and on each only the two neighbours of the number are
candidates, since an interval that contains a point of a grid contains a neighbour.
-/

namespace NewsScoring

/-- The number `digits · 10 ^ exponent`. -/
structure Decimal where
  digits : Nat
  exponent : Int
  deriving DecidableEq, Repr

namespace Decimal

/-- A positive binary floating-point number `mantissa · 2 ^ exponent`, with whether the next smaller
number is only half as far away as the next larger one. -/
structure Binary where
  mantissa : Nat
  exponent : Int
  narrowBelow : Bool

/-- The parts of a finite positive number, read off its bits. -/
def Binary.ofBits (bits : Nat) : Binary :=
  let fraction : Nat := bits % 0x10000000000000
  let biased : Nat := bits / 0x10000000000000 % 0x800
  if biased == 0 then ⟨fraction, -1074, false⟩
  else ⟨0x10000000000000 + fraction, (biased : Int) - 1075, fraction == 0 && biased != 1⟩

/-! ### Grids

A number is compared with the points of a grid `10 ^ k` in whole multiples of a common unit, which
is cleared of the negative powers of two and of ten. -/

/-- A quarter of the last binary place of a number, in units. -/
def Binary.quarter (x : Binary) (k : Int) : Nat :=
  Nat.pow 2 (x.exponent - 2).toNat * Nat.pow 10 (-k).toNat

/-- The step of a grid, in units. -/
def Binary.step (x : Binary) (k : Int) : Nat :=
  Nat.pow 10 k.toNat * Nat.pow 2 (2 - x.exponent).toNat

/-- Whether `n` units round to a number.  The interval of those that do reaches half a place to
either side. -/
def Binary.isNear (x : Binary) (k : Int) (n : Nat) : Bool :=
  let low := (4 * x.mantissa - (if x.narrowBelow then 1 else 2)) * x.quarter k
  let high := (4 * x.mantissa + 2) * x.quarter k
  if x.mantissa % 2 == 0 then low ≤ n && n ≤ high else low < n && n < high

/-- The neighbour of the number on the grid `10 ^ k` that rounds to the number, the nearer one if
both do and the upper one on a tie. -/
def onGrid (x : Binary) (k : Int) : Option Decimal :=
  let value := 4 * x.mantissa * x.quarter k
  -- the neighbours are `below` and `below + 1` steps away from zero
  let below := value / x.step k
  let lower := below * x.step k
  let upper := (below + 1) * x.step k
  let lowerFits := 0 < below && x.isNear k lower
  let isLowerNearer := value - lower < upper - value
  if lowerFits && (!x.isNear k upper || isLowerNearer) then some ⟨below, k⟩
  else if x.isNear k upper then some ⟨below + 1, k⟩
  else none

/-- The decimal with the fewest digits that rounds to a finite positive number. -/
def shortest (x : Binary) : Decimal :=
  ((List.range 634).findSome? fun (i : Nat) => onGrid x (309 - (i : Int))).getD ⟨0, 0⟩

end Decimal

end NewsScoring
