import NewsScoring.Artifact
import NewsScoring.ScoringError
import NewsScoring.Universe

/-!
# Universes that are read when they are needed

A `UniverseSource` names the file of a universe.  The file is read when the universe is asked for
the first time; what came of it, the universe or the reason why there is none, is kept for all later
times.
-/

namespace NewsScoring

/-- A universe, or the file to read it from. -/
structure UniverseSource where
  path : String
  /-- What came of reading the file, if it has been read. -/
  outcome : Option (Except ScoringError Universe)

namespace UniverseSource

/-- The universe in a file that has not been read yet. -/
def ofPath (path : String) : UniverseSource :=
  ⟨path, none⟩

/-- A universe that is there from the start. -/
def ofUniverse (u : Universe) : UniverseSource :=
  ⟨"<memory>", some (.ok u)⟩

/-- Whether there is a universe by now. -/
def isLoaded (source : UniverseSource) : Bool :=
  match source.outcome with
  | some (.ok _) => true
  | _ => false

/-- What comes of reading the file of a universe. -/
def read (disk : Disk) (path : String) : Except ScoringError Universe :=
  match Artifact.readBag disk path with
  | .ok bag => .ok ⟨0, bag⟩
  | .error cause => .error (.universeUnavailable path cause.message)

/-- The universe, and the source that remembers it. -/
def get (source : UniverseSource) (disk : Disk) : Except ScoringError Universe × UniverseSource :=
  match source.outcome with
  | some outcome => (outcome, source)
  | none =>
    let outcome := read disk source.path
    (outcome, ⟨source.path, some outcome⟩)

end UniverseSource

end NewsScoring
