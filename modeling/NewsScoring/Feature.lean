import NewsScoring.Feature.Vector
import NewsScoring.Heuristic
import NewsScoring.Weighing

/-!
# Features

A feature gives each article a score between zero and one, by comparison with a seed or by rules.
Only comparisons need the weights of the article, and may fail.
-/

namespace NewsScoring

/-- Something that articles are scored for. -/
inductive Feature (α : Type) where
  | vector (feature : VectorFeature α)
  | heuristic (feature : HeuristicFeature α)

variable {m : Type → Type} [Monad m] [MonadExceptOf ScoringError m] {α : Type} [Scalar α]

namespace VectorFeature

/-- The similarity of an article to the seed. -/
def rawSimilarity (feature : VectorFeature α) (w : Weighing m α) (document : Document) : m α := do
  let weights ← w.document document
  let seed ← w.bag feature.seed
  MonadExcept.ofExcept (weights.cosine seed)

/-- The score of an article: the quantile of its similarity to the seed. -/
def score (feature : VectorFeature α) (w : Weighing m α) (document : Document) : m α := do
  let raw ← feature.rawSimilarity w document
  MonadExcept.ofExcept (feature.distribution.quantileOf raw)

end VectorFeature

namespace Feature

/-- The number of a feature. -/
def id : Feature α → FeatureId
  | vector feature => feature.id
  | heuristic feature => feature.id

/-- The category of a feature. -/
def category : Feature α → Category
  | vector feature => feature.category
  | heuristic _ => .manualHeuristic

/-- The title of a feature. -/
def title : Feature α → String
  | vector feature => feature.title
  | heuristic feature => feature.title

/-- How a feature arrives at its scores. -/
def kind : Feature α → FeatureKind
  | vector _ => .vector
  | heuristic _ => .heuristic

/-- The score of an article. -/
def score (feature : Feature α) (w : Weighing m α) (document : Document) : m α :=
  match feature with
  | vector feature => feature.score w document
  | heuristic feature => pure (feature.score document)

/-- The similarity of an article to the seed of a feature that has one. -/
def rawSimilarity? (feature : Feature α) (w : Weighing m α) (document : Document) : m (Option α) :=
  match feature with
  | vector feature => some <$> feature.rawSimilarity w document
  | heuristic _ => pure none

/-- The feature of a catalogue entry.  A category of vectors needs artifacts, and the other one
rules. -/
def load (disk : Disk) (layout : ArtifactLayout) (entry : CatalogueEntry Float) :
    Except (FeatureError Float) (Feature Float) :=
  if entry.category.isVectorBacked then vector <$> VectorFeature.load disk layout entry
  else match entry.rules with
    | none => .error (.missingRules entry.id)
    | some rules =>
      heuristic <$> HeuristicFeature.ofRules .regular entry.id entry.category entry.title rules

end Feature

end NewsScoring
