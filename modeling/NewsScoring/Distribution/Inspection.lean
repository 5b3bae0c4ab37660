import NewsScoring.Decimal.Notation
import NewsScoring.Distribution

/-!
# Messages about distributions

The messages about stored checkpoints that are refused.
-/

namespace NewsScoring.Distribution

/-- A checkpoint with all its parts, for inspection. -/
def inspectCheckpoint (checkpoint : Checkpoint Float) : String :=
  "Percentile \x7b percentile: " ++ checkpoint.percentile.repr ++ ", value: " ++
    Decimal.render Decimal.exact checkpoint.value ++ ", data_point_count: " ++
    checkpoint.count.repr ++ " \x7d"

/-- A value with its percentile. -/
def valueText (checkpoint : Checkpoint Float) : String :=
  Decimal.render Decimal.plain checkpoint.value ++ " at p" ++ checkpoint.percentile.repr

/-- The message about stored checkpoints that are refused. -/
def Defect.message : Defect Float → String
  | .percentileOrder earlier later =>
    "percentile " ++ later.repr ++ " listed after " ++ earlier.repr
  | .valueOrder earlier later => "value " ++ valueText earlier ++ " is above " ++ valueText later
  | .badCheckpoint checkpoint => "invalid checkpoint " ++ inspectCheckpoint checkpoint

end NewsScoring.Distribution
