import NewsScoring.Artifact.Layout
import NewsScoring.Config.Error
import NewsScoring.Decimal.Notation
import NewsScoring.Duplicates.Settings

/-!
# Configurations

A `Config` says where the files of an engine are and how it scores.  `defect?` finds the first
setting with which classification or the search for duplicates would answer nothing.
-/

namespace NewsScoring

/-- How many documents keep their vectors, and for how long. -/
structure MemoSettings where
  capacity : Nat := 1000
  ttlSeconds : Nat := 60
  deriving DecidableEq, Repr

/-- The longest time for which a memo can keep vectors: a thousand years of 365 days. -/
def MemoSettings.longestTtl : Nat :=
  1000 * 365 * 24 * 60 * 60

/-- Whether a memo is to keep vectors for longer than it can.  One that keeps none may be told any
time. -/
def MemoSettings.isOverlong (settings : MemoSettings) : Bool :=
  settings.capacity != 0 && decide (longestTtl < settings.ttlSeconds)

/-- The configuration of an engine. -/
structure Config (α : Type) where
  /-- The directory of the artifacts. -/
  artifactRoot : String := "artifacts"
  /-- The file of the universe, if it is not the one among the artifacts. -/
  universePath : Option String := none
  /-- The file of the stopwords, if they are not the English ones. -/
  stopwordsPath : Option String := none
  /-- The file of the catalogue, if it is not the one that comes with the library. -/
  cataloguePath : Option String := none
  memo : MemoSettings := {}
  /-- How many features of each category are reported. -/
  topPerCategory : Nat := 5
  duplicates : DuplicateSettings α

namespace Config

variable {α : Type} [Scalar α]

/-- The configuration where nothing else is said. -/
def standard : Config α where
  duplicates := .standard

/-- The places of the artifacts. -/
def layout (config : Config α) : ArtifactLayout :=
  ⟨config.artifactRoot⟩

/-- The file of the universe. -/
def effectiveUniversePath (config : Config α) : String :=
  config.universePath.getD config.layout.universePath

/-- The configuration with its relative paths seen from a directory. -/
def relativeTo (config : Config α) (directory : String) : Config α :=
  { config with
    artifactRoot := Path.join directory config.artifactRoot
    universePath := config.universePath.map (Path.join directory)
    stopwordsPath := config.stopwordsPath.map (Path.join directory)
    cataloguePath := config.cataloguePath.map (Path.join directory) }

/-! ### Settings that are refused -/

/-- A setting with which nothing would be answered. -/
inductive Defect (α : Type) where
  /-- No feature would be reported. -/
  | noFeatures
  /-- The threshold is not a finite number between zero and one. -/
  | threshold (value : α)
  /-- No two articles would lie in the window. -/
  | noWindow
  deriving DecidableEq, Repr

/-- What is wrong with the settings for duplicates. -/
def duplicatesDefect? (settings : DuplicateSettings α) : Option (Defect α) :=
  if !(Scalar.isFinite settings.threshold && Scalar.isFraction settings.threshold) then
    some (.threshold settings.threshold)
  else if settings.windowHours == 0 then some .noWindow
  else none

/-- What is wrong with a configuration. -/
def defect? (config : Config α) : Option (Defect α) :=
  if config.topPerCategory == 0 then some .noFeatures else duplicatesDefect? config.duplicates

/-- The setting that is refused. -/
def Defect.field : Defect α → String
  | .noFeatures => "classification.top_per_category"
  | .threshold _ => "duplicates.similarity_threshold"
  | .noWindow => "duplicates.window_hours"

/-- Why a setting is refused. -/
def Defect.reason : Defect Float → String
  | .noFeatures => "must be at least 1"
  | .threshold value => Decimal.render Decimal.plain value ++ " is not a finite value in [0, 1]"
  | .noWindow => "must be at least 1"

/-- The error about a setting that is refused. -/
def Defect.toError (defect : Defect Float) : ConfigError :=
  .invalid defect.field defect.reason

/-- Refuses a configuration that has a defect. -/
def validate (config : Config Float) : Except ConfigError Unit :=
  match config.defect? with
  | some defect => .error defect.toError
  | none => .ok ()

end Config

end NewsScoring
