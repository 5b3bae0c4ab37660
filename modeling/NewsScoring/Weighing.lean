import NewsScoring.Similarity
import NewsScoring.Tokenizer.Counting

/-!
# Weighing documents

Scores are computed from the weight vectors of documents and of counted terms.  A `Weighing`
supplies both, in a monad in which it may fail and may have a state.  `Weighing.plain` computes each
vector anew for one universe.
-/

namespace NewsScoring

/-- How documents and counted terms get their weights. -/
structure Weighing (m : Type → Type) (α : Type) where
  document : Document → m (WeightVector α)
  bag : TermBag → m (WeightVector α)

namespace Weighing

variable {m : Type → Type} {α : Type} [Scalar α]

/-- The weights in a universe, computed anew each time. -/
def plain (tokenizer : Tokenizer) (u : Universe) : Weighing (Except ScoringError) α where
  document document := (tokenizer.bag document).weighted u
  bag bag := bag.weighted u

/-- The weights of one weighing in another monad. -/
def lift {n : Type → Type} (w : Weighing m α) (run : {β : Type} → m β → n β) : Weighing n α where
  document document := run (w.document document)
  bag bag := run (w.bag bag)

variable [Monad m] [MonadExceptOf ScoringError m]

/-- The similarity of two documents. -/
def similarity (w : Weighing m α) (a b : Document) : m α := do
  let a ← w.document a
  let b ← w.document b
  MonadExcept.ofExcept (a.cosine b)

end Weighing

end NewsScoring
