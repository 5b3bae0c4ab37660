import NewsScoring.Feature

/-!
# Registries

A `Registry` has the features that could be loaded, in the order of the catalogue, and the numbers
of those that could not.  `classify` scores an article for all of them and keeps the best of each
category.  Features are loaded and scored one after the other; none of them sees another.
-/

namespace NewsScoring

/-- The features that articles are scored for. -/
structure Registry (α : Type) where
  version : Nat
  features : KeyedList FeatureId (Feature α)
  /-- The features of the catalogue that could not be loaded. -/
  omitted : List FeatureId

/-- The score of an article for a feature. -/
structure FeatureScore (α : Type) where
  id : FeatureId
  category : Category
  score : α
  deriving DecidableEq

/-- The best scores of an article, category by category. -/
abbrev Classification (α : Type) := List (FeatureScore α)

namespace Classification

variable {α : Type}

/-- The score for a feature, if it is among the best. -/
def score? (classification : Classification α) (id : FeatureId) : Option α :=
  (classification.find? (·.id == id)).map FeatureScore.score

/-- The scores for the features of a category. -/
def inCategory (classification : Classification α) (category : Category) : List (FeatureScore α) :=
  classification.filter (·.category == category)

end Classification

namespace Registry

variable {α : Type}

/-- The registry of given features.  A feature with the number of an earlier one takes its place. -/
def ofFeatures (features : List (Feature α)) : Registry α :=
  ⟨0, KeyedList.ofList (features.map fun feature => (feature.id, feature)), []⟩

/-- The registry with one more entry of a catalogue, loaded or omitted. -/
def addEntry (disk : Disk) (layout : ArtifactLayout) (registry : Registry Float)
    (entry : CatalogueEntry Float) : Registry Float :=
  match Feature.load disk layout entry with
  | .ok feature => { registry with features := registry.features.put entry.id feature }
  | .error _ => { registry with omitted := registry.omitted ++ [entry.id] }

/-- The registry of those features of a catalogue that can be loaded. -/
def warmUp (disk : Disk) (layout : ArtifactLayout) (catalogue : Catalogue Float) : Registry Float :=
  catalogue.entries.foldl (addEntry disk layout) ⟨catalogue.version, KeyedList.empty, []⟩

/-- The feature of a number. -/
def feature? (registry : Registry α) (id : FeatureId) : Option (Feature α) :=
  registry.features.find? id

/-- The features, in order. -/
def all (registry : Registry α) : List (Feature α) :=
  registry.features.values

/-- The features of a category, in order. -/
def inCategory (registry : Registry α) (category : Category) : List (Feature α) :=
  registry.all.filter (·.category == category)

/-- The number of features. -/
def size (registry : Registry α) : Nat :=
  registry.features.size

/-- Whether there are no features. -/
def isEmpty (registry : Registry α) : Bool :=
  registry.features.isEmpty

/-! ### Scores -/

variable [Scalar α]

/-- The best `top` scores of a category, the highest first. -/
def best (top : Nat) (scores : List (FeatureScore α)) (category : Category) : Classification α :=
  let offers := (scores.filter (·.category == category)).map fun score => (score.id, score.score)
  ((RankedList.empty top).addAll offers).toList.map fun (id, score) => ⟨id, category, score⟩

variable {m : Type → Type} [Monad m] [MonadExceptOf ScoringError m]

/-- The score of an article for a feature, with what the feature is. -/
def scoreFeature (w : Weighing m α) (document : Document) (feature : Feature α) :
    m (FeatureScore α) := do
  return ⟨feature.id, feature.category, ← feature.score w document⟩

/-- The best `top` scores of an article in each category.  It fails with the first feature that
fails. -/
def classify (registry : Registry α) (w : Weighing m α) (top : Nat) (document : Document) :
    m (Classification α) := do
  let scores ← registry.all.mapM (scoreFeature w document)
  return Category.all.flatMap (best top scores)

end Registry

end NewsScoring
