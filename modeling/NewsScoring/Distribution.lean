import NewsScoring.Bisect
import NewsScoring.Scalar
import NewsScoring.ScoringError

/-!
# Distributions of scores

A `Distribution` has the values of a number of samples at some percentiles, its checkpoints, in
ascending order.  Between two checkpoints values are interpolated along a line.  `valueAt` is the
value at a percentile, and `quantileOf` the least quantile at which a value is reached; both answer
with an end of the distribution for what lies beyond it.
-/

namespace NewsScoring

variable {α : Type} [Scalar α]

open Scalar

/-- The value of a distribution at a percentile. -/
structure Checkpoint (α : Type) where
  percentile : Nat
  value : α
  /-- The number of samples that are at most the value. -/
  count : Nat

/-- The checkpoints of a number of samples. -/
structure Distribution (α : Type) where
  sampleCount : Nat
  checkpoints : List (Checkpoint α)

namespace Distribution

/-- The distribution of no samples. -/
def empty : Distribution α := ⟨0, []⟩

/-- Whether there are no checkpoints. -/
def isEmpty (distribution : Distribution α) : Bool :=
  distribution.checkpoints.isEmpty

/-! ### Stored distributions -/

/-- Why stored checkpoints are refused. -/
inductive Defect (α : Type) where
  /-- A percentile does not lie above the one before it. -/
  | percentileOrder (earlier later : Nat)
  /-- A value lies below the one before it. -/
  | valueOrder (earlier later : Checkpoint α)
  /-- A percentile lies above 100, or a value is not finite. -/
  | badCheckpoint (checkpoint : Checkpoint α)

/-- What is wrong with two neighbouring checkpoints. -/
def pairDefect? (a b : Checkpoint α) : Option (Defect α) :=
  if b.percentile ≤ a.percentile then some (.percentileOrder a.percentile b.percentile)
  else if b.value < a.value then some (.valueOrder a b)
  else none

/-- What is wrong with the first two neighbouring checkpoints that are out of order. -/
def orderDefect? : List (Checkpoint α) → Option (Defect α)
  | a :: b :: rest => (pairDefect? a b).or (orderDefect? (b :: rest))
  | _ => none

/-- Whether a checkpoint has a percentile of at most 100 and a finite value. -/
def isSound (checkpoint : Checkpoint α) : Bool :=
  checkpoint.percentile ≤ 100 && isFinite checkpoint.value

/-- What is wrong with checkpoints: the first pair out of order, or the first checkpoint that is not
sound. -/
def defect? (checkpoints : List (Checkpoint α)) : Option (Defect α) :=
  (orderDefect? checkpoints).or ((checkpoints.find? (!isSound ·)).map .badCheckpoint)

/-- The distribution with the given checkpoints. -/
def ofCheckpoints (sampleCount : Nat) (checkpoints : List (Checkpoint α)) :
    Except (Defect α) (Distribution α) :=
  match defect? checkpoints with
  | some defect => .error defect
  | none => .ok ⟨sampleCount, checkpoints⟩

/-! ### Values and quantiles -/

/-- The point at `ratio` of the way from `a` to `b`. -/
def interpolate (a b ratio : α) : α :=
  a + ratio * (b - a)

/-- A percentile as a number between 0 and 100; NaN counts as 0. -/
def clampPercentile (p : α) : α :=
  if isNaN p then zero else clamp zero (ofNat 100) p

/-- The index of the first checkpoint whose percentile is at least `p`. -/
def percentileIndex (distribution : Distribution α) (p : α) : Nat :=
  bisect (fun checkpoint => decide ((ofNat checkpoint.percentile : α) < p)) distribution.checkpoints

/-- The index of the first checkpoint whose value is at least `x`. -/
def valueIndex (distribution : Distribution α) (x : α) : Nat :=
  bisect (fun checkpoint => decide (checkpoint.value < x)) distribution.checkpoints

/-- The checkpoint at an index, or the last one. -/
def checkpointAt (distribution : Distribution α) (last : Checkpoint α) (i : Nat) : Checkpoint α :=
  distribution.checkpoints[i]?.getD last

/-- The value at a percentile of a distribution with the given last checkpoint. -/
def valueBefore (distribution : Distribution α) (last : Checkpoint α) (p : α) : α :=
  let i := distribution.percentileIndex p
  let top := distribution.checkpointAt last i
  if distribution.checkpoints.length ≤ i then last.value
  else if i == 0 || equals (ofNat top.percentile) p then top.value
  else
    let bottom := distribution.checkpointAt last (i - 1)
    interpolate bottom.value top.value
      ((p - ofNat bottom.percentile) / ofNat (top.percentile - bottom.percentile))

/-- The value at a percentile. -/
def valueAt (distribution : Distribution α) (p : α) : Except ScoringError α :=
  match distribution.checkpoints.getLast? with
  | none => .error .emptyDistribution
  | some last => .ok (distribution.valueBefore last (clampPercentile p))

/-- The percentile at which a value strictly between the ends is reached. -/
def percentileBetween (distribution : Distribution α) (last : Checkpoint α) (x : α) : α :=
  let i := distribution.valueIndex x
  let top := distribution.checkpointAt last i
  if equals top.value x then ofNat top.percentile
  else
    let bottom := distribution.checkpointAt last (i - 1)
    -- the value of `bottom` is below `x` and that of `top` above it
    let ratio := (x - bottom.value) / (top.value - bottom.value)
    ofNat bottom.percentile + ratio * ofNat (top.percentile - bottom.percentile)

/-- The percentile at which a value is reached, of a distribution with the given ends.  NaN and
values up to the first are reached at the first checkpoint, values from the last on at the first
checkpoint with the last value. -/
def percentileOf (distribution : Distribution α) (first last : Checkpoint α) (x : α) : α :=
  if isNaN x || decide (x ≤ first.value) then ofNat first.percentile
  else if last.value ≤ x then
    ofNat (distribution.checkpointAt last (distribution.valueIndex last.value)).percentile
  else distribution.percentileBetween last x

/-- The quantile at which a value is reached. -/
def quantileOf (distribution : Distribution α) (x : α) : Except ScoringError α :=
  match distribution.checkpoints.head?, distribution.checkpoints.getLast? with
  | some first, some last => .ok (distribution.percentileOf first last x / ofNat 100)
  | _, _ => .error .emptyDistribution

end Distribution

end NewsScoring
