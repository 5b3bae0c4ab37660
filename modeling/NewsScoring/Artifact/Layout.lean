import NewsScoring.Artifact
import NewsScoring.Category
import NewsScoring.FileTree
import NewsScoring.Path

/-!
# Where artifacts are kept

Under a root directory, a file holds the counts of the universe, and each feature has a directory of
its own, named for its category and number, with its seed vector and its distribution.
-/

namespace NewsScoring

/-- The directory under which artifacts are kept. -/
structure ArtifactLayout where
  root : String
  deriving DecidableEq, Repr

namespace ArtifactLayout

/-- The file with the counts of the universe. -/
def universePath (layout : ArtifactLayout) : String :=
  Path.join layout.root "universe.vector"

/-- The directory of a feature. -/
def featureDirectory (layout : ArtifactLayout) (category : Category) (id : FeatureId) : String :=
  Path.join (Path.join layout.root category.name) id.repr

/-- The file with the seed vector of a feature. -/
def vectorPath (layout : ArtifactLayout) (category : Category) (id : FeatureId) : String :=
  Path.join (layout.featureDirectory category id) "feature.vector"

/-- The file with the distribution of a feature. -/
def distributionPath (layout : ArtifactLayout) (category : Category) (id : FeatureId) : String :=
  Path.join (layout.featureDirectory category id) "feature.distribution"

/-- The tree with an artifact written to a path. -/
def writeArtifact (tree : FileTree) (path : String) (content : Content) :
    Except ArtifactError FileTree :=
  match tree.write path content with
  | .ok tree => .ok tree
  | .error absence => .error (.io path (absence == .missing))

/-- The tree with the artifacts of a feature written. -/
def writeFeature (layout : ArtifactLayout) (tree : FileTree) (category : Category) (id : FeatureId)
    (seed : TermBag) (distribution : Distribution Float) : Except ArtifactError FileTree := do
  let tree ← writeArtifact tree (layout.vectorPath category id) (Artifact.ofBag seed)
  writeArtifact tree (layout.distributionPath category id) (Artifact.ofDistribution distribution)

end ArtifactLayout

end NewsScoring
