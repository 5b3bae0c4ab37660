import NewsScoring.Artifact.Error
import NewsScoring.Category
import NewsScoring.Decimal.Notation
import NewsScoring.Text.Quoted

/-!
# Why a feature is refused

The causes for which a feature cannot be made from its parts or loaded, and their messages.
-/

namespace NewsScoring

/-- How a feature arrives at its scores. -/
inductive FeatureKind where
  /-- By comparison with a seed vector. -/
  | vector
  /-- By rules. -/
  | heuristic
  deriving DecidableEq, Repr

/-- The name of a kind. -/
def FeatureKind.name : FeatureKind → String
  | .vector => "vector"
  | .heuristic => "heuristic"

/-- Why a feature is refused. -/
inductive FeatureError (α : Type) where
  /-- The category is not one of features of this kind. -/
  | categoryMismatch (id : FeatureId) (category : Category) (kind : FeatureKind)
  /-- A pattern is not well-formed. -/
  | invalidPattern (id : FeatureId) (pattern : String)
  /-- A rule has a score that is not between zero and one. -/
  | scoreOutOfRange (id : FeatureId) (score : α)
  /-- There are no rules that could give a score. -/
  | missingRules (id : FeatureId)
  /-- The distribution of the similarities to the seed is empty. -/
  | emptyDistribution (id : FeatureId)
  /-- A stored part cannot be used. -/
  | artifact (cause : ArtifactError)
  deriving DecidableEq, Repr

/-- The message about a cause. -/
def FeatureError.message : FeatureError Float → String
  | .categoryMismatch id category kind =>
    "feature " ++ id.repr ++ " cannot be a " ++ kind.name ++ " feature with category " ++
      category.name
  | .invalidPattern id pattern =>
    "invalid pattern " ++ Text.quote pattern ++ " for feature " ++ id.repr ++ ": "
  | .scoreOutOfRange id score =>
    "rule score " ++ Decimal.render Decimal.plain score ++ " for feature " ++ id.repr ++
      " is outside [0, 1]"
  | .missingRules id => "heuristic feature " ++ id.repr ++ " has no rules"
  | .emptyDistribution id => "vector feature " ++ id.repr ++ " has an empty score distribution"
  | .artifact cause => cause.message

end NewsScoring
