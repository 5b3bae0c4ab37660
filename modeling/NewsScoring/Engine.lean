import NewsScoring.Catalogue.Builtin
import NewsScoring.Catalogue.File
import NewsScoring.Config.File
import NewsScoring.Duplicates
import NewsScoring.Registry
import NewsScoring.Vectorizer

/-!
# Engines

An `Engine` has all that articles are scored with.  It is built from a configuration, whose files
are read at once, all but the universe, which is read when an article is first weighed.  What may be
given instead of a file is in `EngineParts`.  A part that is refused is an error of the caller; a
memo that would have to keep vectors for too long aborts the program (`BuildFailure`).
-/

namespace NewsScoring

/-- All that articles are scored with. -/
structure Engine where
  config : Config Float
  vectorizer : Vectorizer Float
  registry : Registry Float

/-- A configuration, and parts that take the place of what it names. -/
structure EngineParts where
  config : Config Float := .standard
  tokenizer : Option Tokenizer := none
  background : Option Universe := none
  catalogue : Option (Catalogue Float) := none
  registry : Option (Registry Float) := none

/-- Why no engine is built. -/
inductive BuildFailure where
  /-- A part is refused. -/
  | refused (cause : ConfigError)
  /-- The memo cannot be made, which no caller gets to know: it ends the program. -/
  | aborted
  deriving DecidableEq, Repr

namespace EngineParts

/-- The given tokenizer, or the one with the stopwords that the configuration names. -/
def loadTokenizer (parts : EngineParts) (disk : Disk) : Except ConfigError Tokenizer :=
  match parts.tokenizer, parts.config.stopwordsPath with
  | some tokenizer, _ => .ok tokenizer
  | none, some path => do return ⟨.ofText (← disk.read path)⟩
  | none, none => .ok .english

/-- The given universe, or the one that the configuration names. -/
def source (parts : EngineParts) : UniverseSource :=
  match parts.background with
  | some u => .ofUniverse u
  | none => .ofPath parts.config.effectiveUniversePath

/-- The given catalogue, or the one that the configuration names. -/
def loadCatalogue (parts : EngineParts) (disk : Disk) : Except ConfigError (Catalogue Float) :=
  match parts.catalogue, parts.config.cataloguePath with
  | some catalogue, _ => .ok catalogue
  | none, some path => Catalogue.load disk path
  | none, none => .ok .builtin

/-- The given registry, or that of the features of the catalogue; one of them at least has to be
loaded. -/
def loadRegistry (parts : EngineParts) (disk : Disk) : Except ConfigError (Registry Float) :=
  match parts.registry with
  | some registry => .ok registry
  | none => do
    let catalogue ← parts.loadCatalogue disk
    let registry := Registry.warmUp disk parts.config.layout catalogue
    if registry.isEmpty && !catalogue.isEmpty then throw (.emptyRegistry catalogue.size)
    return registry

/-- What is loaded for an engine of a valid configuration: the tokenizer and the registry. -/
def load (parts : EngineParts) (disk : Disk) :
    Except ConfigError (Tokenizer × Registry Float) := do
  parts.config.validate
  let tokenizer ← parts.loadTokenizer disk
  let registry ← parts.loadRegistry disk
  return (tokenizer, registry)

/-- The engine of the given parts.  The memo is made last. -/
def build (parts : EngineParts) (disk : Disk) : Except BuildFailure Engine :=
  match parts.load disk with
  | .error cause => .error (.refused cause)
  | .ok (tokenizer, registry) =>
    if parts.config.memo.isOverlong then .error .aborted
    else .ok { config := parts.config
               vectorizer := ⟨tokenizer, parts.source, .empty parts.config.memo.capacity⟩
               registry }

end EngineParts

namespace Engine

/-- The engine of a configuration. -/
def ofConfig (config : Config Float) (disk : Disk) : Except BuildFailure Engine :=
  EngineParts.build { config } disk

/-- What comes of a computation with the vectorizer of an engine, and the engine after it. -/
def perform {β : Type} (engine : Engine) (computation : Scoring Float β) :
    Except ScoringError β × Engine :=
  let (outcome, vectorizer) := computation.run.run engine.vectorizer
  (outcome, { engine with vectorizer })

/-! ### Scores -/

-- The arithmetic of scores is a parameter.  The program takes that of `Float`, with the logarithm
-- of the machine.
variable [Scalar Float]

/-- The score of an article for the feature of a number. -/
def score (engine : Engine) (disk : Disk) (document : Document) (id : FeatureId) :
    Except ScoringError Float × Engine :=
  match engine.registry.feature? id with
  | none => (.error (.unknownFeature id), engine)
  | some feature => engine.perform (feature.score (Vectorizer.weighing disk) document)

/-- The best scores of an article in each category. -/
def classify (engine : Engine) (disk : Disk) (document : Document) :
    Except ScoringError (Classification Float) × Engine :=
  engine.perform
    (engine.registry.classify (Vectorizer.weighing disk) engine.config.topPerCategory document)

/-- The weights of an article. -/
def documentVector (engine : Engine) (disk : Disk) (document : Document) :
    Except ScoringError (WeightVector Float) × Engine :=
  engine.perform ((Vectorizer.weighing disk).document document)

/-- The similarity of two articles. -/
def similarity (engine : Engine) (disk : Disk) (a b : Document) :
    Except ScoringError Float × Engine :=
  engine.perform ((Vectorizer.weighing disk).similarity a b)

/-- The duplicates of an article among candidates. -/
def findDuplicates (engine : Engine) (disk : Disk) (subject : Document)
    (candidates : List Document) : Except ScoringError (List (DuplicateRelation Float)) × Engine :=
  engine.perform <| Duplicates.findDuplicates (Vectorizer.weighing disk) engine.config.duplicates
    subject candidates

/-- The duplicates of an article among the candidates of a supplier. -/
def findWith {ε : Type} (engine : Engine) (disk : Disk)
    (supplier : Duplicates.Supplier (Scoring Float) ε) (subject : Document) :
    Except ScoringError (Except ε (List (DuplicateRelation Float))) × Engine :=
  engine.perform <| Duplicates.findWith (Vectorizer.weighing disk) engine.config.duplicates
    supplier subject

/-- The articles that are no duplicates of one that is kept before them. -/
def withoutDuplicates (engine : Engine) (disk : Disk) (documents : List Document) :
    Except ScoringError (List Document) × Engine :=
  engine.perform <| Duplicates.withoutDuplicates (Vectorizer.weighing disk) engine.config.duplicates
    documents

end Engine

end NewsScoring
