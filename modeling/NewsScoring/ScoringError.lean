/-!
# Why a document is not scored

The causes for which a vector, a similarity or a score cannot be computed, and their messages.
-/

namespace NewsScoring

/-- Why a document has no vector, similarity or score. -/
inductive ScoringError where
  /-- One of two compared vectors has only zero weights. -/
  | zeroVector
  /-- The counts of the universe could not be read from the path, for the reason given. -/
  | universeUnavailable (path reason : String)
  /-- The counts to be weighted span more documents than the universe. -/
  | universeTooSmall (documents universeDocuments : Nat)
  /-- A distribution without checkpoints was asked for a value or a quantile. -/
  | emptyDistribution
  /-- No feature is registered under the identifier. -/
  | unknownFeature (id : Nat)
  deriving DecidableEq, Repr

/-- The message about a cause. -/
def ScoringError.message : ScoringError → String
  | .zeroVector => "cosine similarity of a zero vector is undefined"
  | .universeUnavailable path reason => "universe vector unavailable (" ++ path ++ "): " ++ reason
  | .universeTooSmall documents universeDocuments =>
    "vector holds " ++ documents.repr ++ " documents but the universe only " ++
      universeDocuments.repr
  | .emptyDistribution => "distribution has no percentiles"
  | .unknownFeature id => "feature " ++ id.repr ++ " is not registered"

end NewsScoring
