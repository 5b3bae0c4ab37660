import NewsScoring.CommandLine
import NewsScoring.Gzip

/-!
# The files that a call reads

A call reads its files through a `Disk`.  `wantedPaths` tells which files it may read, as far as the
files that are known already say so: the arguments first, then what the configuration names, then
the artifacts of the features in the catalogue.  After three rounds no new ones turn up.
-/

namespace NewsScoring

/-- What a file holds, by its bytes: if they can be unpacked it is a compressed one. -/
def Content.ofBytes (bytes : Bytes) : Content :=
  match Gzip.unpack? bytes with
  | some payload => .compressed payload
  | none => .plain bytes

namespace CommandLine

/-- What is known of some paths. -/
abbrev Snapshot := List (String × Except Absence Content)

/-- The files of a snapshot; there is nothing at other paths. -/
def Snapshot.disk (snapshot : Snapshot) : Disk :=
  fun path => (snapshot.lookup path).getD (.error .missing)

/-- The artifacts of the features in a catalogue. -/
def artifactPaths (layout : ArtifactLayout) (catalogue : Catalogue Float) : List String :=
  (catalogue.entries.filter (·.category.isVectorBacked)).flatMap fun entry =>
    [layout.vectorPath entry.category entry.id, layout.distributionPath entry.category entry.id]

/-- The files that an engine of a configuration reads. -/
def enginePaths (disk : Disk) (config : Config Float) : List String :=
  let artifacts := match EngineParts.loadCatalogue { config } disk with
    | .ok catalogue => artifactPaths config.layout catalogue
    | .error _ => []
  config.stopwordsPath.toList ++ config.cataloguePath.toList ++
    config.effectiveUniversePath :: artifacts

/-- The files that a call with the given arguments reads. -/
def wantedPaths (disk : Disk) (arguments : List String) : List String :=
  match arguments with
  | [] => []
  | path :: documents =>
    let named := match Config.load disk path with
      | .ok config => enginePaths disk config
      | .error _ => []
    path :: documents ++ named

/-- How often the files that are wanted have to be looked up. -/
def rounds : Nat := 3

end CommandLine

end NewsScoring
