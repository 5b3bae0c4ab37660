import NewsScoring.TfIdf

/-!
# Counts that remember their weights

A `MemoizedBag` keeps the weights that it computed first, together with the identifier of the
universe they belong to, and answers with them whenever it is asked about that universe again.
Every vector that is computed gets a serial number of its own; two answers are the same object
exactly if they have the same number.
-/

namespace NewsScoring

variable {α : Type} [Scalar α]

/-- A vector with the number under which it was made. -/
structure Numbered (α : Type) where
  serial : Nat
  vector : WeightVector α

/-- Counts with the weights that were computed first, and the universe these belong to. -/
structure MemoizedBag (α : Type) where
  bag : TermBag
  memo : Option (Nat × Numbered α)
  /-- The number of vectors made so far. -/
  made : Nat

namespace MemoizedBag

/-- Counts without remembered weights. -/
def ofBag (bag : TermBag) : MemoizedBag α :=
  ⟨bag, none, 0⟩

/-- The counts after a vector has been made, which is remembered if it is the first. -/
def remember (bag : MemoizedBag α) (u : Universe) (vector : Numbered α) : MemoizedBag α :=
  { bag with
    memo := bag.memo.or (some (u.id, vector))
    made := bag.made + 1 }

/-- The weights in a universe, remembered or computed; an error is not remembered. -/
def weighted (bag : MemoizedBag α) (u : Universe) :
    Except ScoringError (Numbered α) × MemoizedBag α :=
  match bag.memo.filter (·.1 == u.id) with
  | some (_, vector) => (.ok vector, bag)
  | none =>
    match bag.bag.weighted u with
    | .error cause => (.error cause, bag)
    | .ok vector => (.ok ⟨bag.made, vector⟩, bag.remember u ⟨bag.made, vector⟩)

end MemoizedBag

end NewsScoring
