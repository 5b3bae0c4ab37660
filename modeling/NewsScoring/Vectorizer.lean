import NewsScoring.DocumentMemo
import NewsScoring.Universe.Source
import NewsScoring.Weighing

/-!
# Vectorizers

A `Vectorizer` weighs documents in a universe that is read when it is needed, and remembers the
vectors of the documents it has seen.
-/

namespace NewsScoring

/-- A tokenizer, a universe and the vectors of documents seen so far. -/
structure Vectorizer (α : Type) where
  tokenizer : Tokenizer
  source : UniverseSource
  memo : DocumentMemo (WeightVector α)

/-- Computations with a vectorizer, which may fail; what it has read and remembered stays. -/
abbrev Scoring (α : Type) := ExceptT ScoringError (StateM (Vectorizer α))

namespace Vectorizer

variable {α : Type}

/-- The universe, which is read if it has not been read yet. -/
def loadUniverse (disk : Disk) : Scoring α Universe :=
  fun vectorizer =>
    let (outcome, source) := vectorizer.source.get disk
    (outcome, { vectorizer with source })

variable [Scalar α]

/-- The weights of a document, remembered or computed. -/
def fetch (u : Universe) (document : Document) : Scoring α (WeightVector α) :=
  fun vectorizer =>
    let (outcome, memo) := vectorizer.memo.fetch document fun _ =>
      (vectorizer.tokenizer.bag document).weighted u
    (outcome, { vectorizer with memo })

/-- Weighing with a vectorizer. -/
def weighing (disk : Disk) : Weighing (Scoring α) α where
  document document := do fetch (← loadUniverse disk) document
  bag bag := do MonadExcept.ofExcept (bag.weighted (← loadUniverse disk))

end Vectorizer

end NewsScoring
