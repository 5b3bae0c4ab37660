import NewsScoring.Artifact.Layout
import NewsScoring.Catalogue
import NewsScoring.Distribution
import NewsScoring.Feature.Error
import NewsScoring.TermBag

/-!
# Features by comparison

A `VectorFeature` scores an article by its similarity to a seed, the counted terms of articles known
to belong to the feature, and tells the quantile of that similarity in the distribution of earlier
ones.
-/

namespace NewsScoring

/-- A feature that compares articles with a seed. -/
structure VectorFeature (α : Type) where
  id : FeatureId
  category : Category
  title : String
  seed : TermBag
  distribution : Distribution α

namespace VectorFeature

variable {α : Type}

/-- The feature with the given seed and distribution. -/
def ofParts (id : FeatureId) (category : Category) (title : String) (seed : TermBag)
    (distribution : Distribution α) : Except (FeatureError α) (VectorFeature α) :=
  if !category.isVectorBacked then .error (.categoryMismatch id category .vector)
  else if distribution.isEmpty then .error (.emptyDistribution id)
  else .ok { id, category, title, seed, distribution }

/-- The feature of a catalogue entry, with seed and distribution from its artifacts. -/
def load (disk : Disk) (layout : ArtifactLayout) (entry : CatalogueEntry Float) :
    Except (FeatureError Float) (VectorFeature Float) := do
  if !entry.category.isVectorBacked then throw (.categoryMismatch entry.id entry.category .vector)
  let seed ← (Artifact.readBag disk (layout.vectorPath entry.category entry.id)).mapError .artifact
  let distribution ←
    (Artifact.readDistribution disk (layout.distributionPath entry.category entry.id)).mapError
      .artifact
  ofParts entry.id entry.category entry.title seed distribution

end VectorFeature

end NewsScoring
