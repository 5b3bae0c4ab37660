import NewsScoring.Cbor.Record
import NewsScoring.Distribution

/-!
# Distributions as CBOR items

A distribution is stored as the number of samples and the list of its checkpoints.  A value that is
a whole number may be stored as one.
-/

namespace NewsScoring.Distribution

open Cbor

variable {α : Type}

/-- A checkpoint as a record. -/
def checkpointItem (checkpoint : Checkpoint α) : Item α :=
  .ofFields [("percentile", .unsigned checkpoint.percentile), ("value", .float checkpoint.value),
    ("data_point_count", .unsigned checkpoint.count)]

/-- A distribution as a record. -/
def toItem (distribution : Distribution α) : Item α :=
  .ofFields [("sample_count", .unsigned distribution.sampleCount),
    ("percentiles", .list (distribution.checkpoints.map checkpointItem))]

/-- The number that an item stands for.  Negative whole numbers are read down to `-2 ^ 63`. -/
def value? [Scalar α] : Item α → Option α
  | .float x => some x
  | .unsigned n => some (Scalar.ofNat n)
  | .negative n => if n < 0x8000000000000000 then some (Scalar.ofInt (.negSucc n)) else none
  | _ => none

/-- A percentile; it is stored in a byte. -/
def percentile? (item : Item α) : Option Nat := do
  let n ← item.nat?
  if n < 256 then some n else none

/-- The checkpoint of a record. -/
def checkpoint? [Scalar α] (item : Item α) : Option (Checkpoint α) := do
  match ← item.fields? ["percentile", "value", "data_point_count"] with
  | [percentile, value, count] => return ⟨← percentile? percentile, ← value? value, ← count.nat?⟩
  | _ => none

/-- The number of samples and the checkpoints of a record. -/
def parts? [Scalar α] (item : Item α) : Option (Nat × List (Checkpoint α)) := do
  match ← item.fields? ["sample_count", "percentiles"] with
  | [sampleCount, checkpoints] =>
    return (← sampleCount.nat?, ← (← checkpoints.items?).mapM checkpoint?)
  | _ => none

end NewsScoring.Distribution
