/-!
# The arithmetic of scores

Weights, scores and quantiles are computed in a type with the operations of `Scalar`.  The program
runs on `Float`, whose results are rounded and whose comparisons fail on NaN; an exact type of
numbers is another instance.  Comparisons are decidable, `x ≤ x` fails exactly for NaN, and `ofNat`
rounds to the nearest number.
-/

namespace NewsScoring

/-- The operations on numbers that scores are computed with. -/
class Scalar (α : Type) extends Add α, Sub α, Mul α, Div α, Neg α, LE α, LT α where
  decidableLe : DecidableLE α
  decidableLt : DecidableLT α
  /-- The number nearest to a natural number. -/
  ofNat : Nat → α
  /-- The square root. -/
  sqrt : α → α
  /-- The natural logarithm. -/
  log : α → α
  /-- The largest natural number at most a number that is not negative. -/
  floor : α → Nat
  /-- Whether a number is neither infinite nor NaN. -/
  isFinite : α → Bool
  /-- The order in which samples are sorted; total, and finer than `≤`. -/
  sortsBefore : α → α → Bool

namespace Scalar

variable {α : Type} [Scalar α]

instance (x y : α) : Decidable (x ≤ y) := decidableLe x y

instance (x y : α) : Decidable (x < y) := decidableLt x y

/-- Whether a number is NaN: the one number that is not at most itself. -/
def isNaN (x : α) : Bool :=
  !decide (x ≤ x)

/-- Whether two numbers are equal as numbers: each is at most the other. -/
def equals (x y : α) : Bool :=
  decide (x ≤ y) && decide (y ≤ x)

/-- Zero. -/
def zero : α := ofNat 0

/-- One. -/
def one : α := ofNat 1

/-- The number nearest to an integer. -/
def ofInt : Int → α
  | .ofNat n => ofNat n
  | .negSucc n => -ofNat (n + 1)

/-- The number between two bounds that is nearest to `x`; NaN stays NaN. -/
def clamp (least most x : α) : α :=
  if x < least then least else if most < x then most else x

/-- The larger of two numbers, the first where they are equal. -/
def max (x y : α) : α :=
  if x < y then y else x

/-- Whether a number lies between zero and one. -/
def isFraction (x : α) : Bool :=
  decide (zero ≤ x) && decide (x ≤ one)

end Scalar

/-! ### Binary floating point -/

/-- The position of a floating-point number among all bit patterns: negative numbers come first, in
the order of their size, and the zero with a sign comes before the one without. -/
def floatPosition (x : Float) : Int :=
  let bits := x.toBits.toNat
  if bits < 0x8000000000000000 then bits else -((bits - 0x8000000000000000 : Nat) : Int) - 1

/-- Floating-point arithmetic with the given logarithm. -/
@[reducible] def Scalar.float (log : Float → Float) : Scalar Float where
  decidableLe := inferInstance
  decidableLt := inferInstance
  ofNat := Float.ofNat
  sqrt := Float.sqrt
  log := log
  floor x := x.toUInt64.toNat
  isFinite := Float.isFinite
  sortsBefore x y := floatPosition x ≤ floatPosition y

instance : Scalar Float := .float Float.log

end NewsScoring
