import NewsScoring.Distribution

/-!
# The distribution of samples

`Samples` gathers finite numbers.  Its value at a percentile lies on the line between the two
samples, in sorted order, whose positions are next to the percentile's share of all positions.
`distribution` has a checkpoint at each whole percentile from 0 to 100.
-/

namespace NewsScoring

/-- The samples gathered so far, in the order in which they came. -/
structure Samples (α : Type) where
  values : List α

namespace Samples

variable {α : Type} [Scalar α]

open Scalar

/-- No samples. -/
def empty : Samples α := ⟨[]⟩

/-- The samples with one more, unless it is infinite or NaN. -/
def add (samples : Samples α) (value : α) : Samples α :=
  if isFinite value then ⟨samples.values ++ [value]⟩ else samples

/-- The finite numbers of a list as samples. -/
def ofList (values : List α) : Samples α :=
  ⟨values.filter isFinite⟩

/-- The samples in ascending order. -/
def sorted (samples : Samples α) : List α :=
  samples.values.mergeSort sortsBefore

/-- The position of a percentile among `count` sorted samples. -/
def position (count : Nat) (p : α) : α :=
  Distribution.clampPercentile p / ofNat 100 * ofNat (count - 1)

/-- The index of the last sample at or before a position. -/
def lowerIndex (position : α) : Nat :=
  floor position

/-- The index of the first sample at or after a position. -/
def upperIndex (position : α) : Nat :=
  if equals (ofNat (floor position)) position then floor position else floor position + 1

/-- The value at a percentile of sorted samples. -/
def percentileOfSorted (sorted : List α) (p : α) : Option α := do
  let position := position sorted.length p
  let lower ← sorted[lowerIndex position]?
  let upper ← sorted[upperIndex position]?
  if lowerIndex position == upperIndex position then return lower
  return Distribution.interpolate lower upper (position - ofNat (lowerIndex position))

/-- The value at a percentile, if there are samples. -/
def percentile? (samples : Samples α) (p : α) : Option α :=
  percentileOfSorted samples.sorted p

/-- The checkpoint of sorted samples at a percentile. -/
def checkpoint? (sorted : List α) (percentile : Nat) : Option (Checkpoint α) :=
  (percentileOfSorted sorted (ofNat percentile)).map fun value =>
    ⟨percentile, value, bisect (fun sample => decide (sample ≤ value)) sorted⟩

/-- The distribution of the samples, with a checkpoint at each whole percentile. -/
def distribution (samples : Samples α) : Distribution α :=
  let sorted := samples.sorted
  ⟨sorted.length, (List.range 101).filterMap (checkpoint? sorted)⟩

end Samples

end NewsScoring
