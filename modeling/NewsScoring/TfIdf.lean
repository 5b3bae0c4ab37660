import NewsScoring.RankedList
import NewsScoring.Scalar
import NewsScoring.ScoringError
import NewsScoring.Universe

/-!
# Weighted terms

The weight of a term in counted documents is its frequency times its rarity in a universe, the
logarithm of the number of documents of the universe over the number of those with the term (`idf`).
A `WeightVector` has the weights of all counted terms, in the order of the counts, and their
Euclidean norm.  Weights are never negative and never infinite.
-/

namespace NewsScoring

variable {α : Type} [Scalar α]

open Scalar

/-- What is added to the number of documents with a term, so that it is never zero. -/
def idfEpsilon : α :=
  one / ofNat 1000000

/-- The rarity of a term that occurs in `documents` of `documentCount` documents. -/
def idf (documentCount documents : Nat) : α :=
  let ratio : α := ofNat documentCount / (idfEpsilon + ofNat documents)
  if zero < log ratio then log ratio else zero

/-- Terms with weights, and the norm of the weights. -/
structure WeightVector (α : Type) where
  weights : KeyedList String α
  norm : α

namespace WeightVector

/-- A weight as it is kept: zero unless it is positive and finite. -/
def sanitize (weight : α) : α :=
  if isFinite weight && decide (zero < weight) then weight else zero

/-- The sum of squares to which one more square is added for each weight, in order. -/
def addSquares (sum : α) (weights : List α) : α :=
  weights.foldl (fun sum weight => sum + weight * weight) sum

/-- The vector with the given weights; a term that is given again keeps its place and gets the later
weight. -/
def ofWeights (weights : List (String × α)) : WeightVector α :=
  let kept := weights.map fun (term, weight) => (term, sanitize weight)
  ⟨KeyedList.ofList kept, sqrt (addSquares zero (kept.map Prod.snd))⟩

/-- The weight of a term, if it is listed. -/
def weight? (vector : WeightVector α) (term : String) : Option α :=
  vector.weights.find? term

/-- Whether all weights are zero. -/
def isZero (vector : WeightVector α) : Bool :=
  equals vector.norm zero

/-- The number of terms. -/
def size (vector : WeightVector α) : Nat :=
  vector.weights.size

/-- The terms with their weights, in order. -/
def toList (vector : WeightVector α) : List (String × α) :=
  vector.weights.entries

/-- The `n` terms of the largest positive weights, heaviest first. -/
def topTerms (vector : WeightVector α) (n : Nat) : List String :=
  let positive := vector.toList.filter fun entry => decide (zero < entry.2)
  ((RankedList.empty n).addAll positive).keys

end WeightVector

namespace TermBag

/-- The weight of a term of the given tally in a universe. -/
def weightIn (u : Universe) (term : String) (tally : Tally) : α :=
  ofNat tally.frequency * idf u.documentCount (u.documents term)

/-- The weights of counted terms in a universe that is not smaller than the counts. -/
def weighted (bag : TermBag) (u : Universe) : Except ScoringError (WeightVector α) :=
  if u.documentCount < bag.documentCount then
    .error (.universeTooSmall bag.documentCount u.documentCount)
  else .ok <| .ofWeights <| bag.toList.map fun (term, tally) =>
    (term, weightIn u term tally)

/-- Counts have no weights only in a universe with fewer documents. -/
theorem weighted_eq_error_iff {bag : TermBag} {u : Universe} {cause : ScoringError} :
    (bag.weighted u : Except ScoringError (WeightVector α)) = .error cause ↔
      u.documentCount < bag.documentCount ∧
        .universeTooSmall bag.documentCount u.documentCount = cause := by
  by_cases h : u.documentCount < bag.documentCount <;> simp [weighted, h]

theorem exists_weighted_eq_ok_iff {bag : TermBag} {u : Universe} :
    (∃ vector : WeightVector α, bag.weighted u = .ok vector) ↔
      bag.documentCount ≤ u.documentCount := by
  by_cases h : u.documentCount < bag.documentCount
  · simp [weighted, h]
  · simp [weighted, h, Nat.le_of_not_lt h]

/-- The weighted terms are the counted ones, in their order. -/
theorem keys_of_weighted_eq_ok {bag : TermBag} {u : Universe} {vector : WeightVector α}
    (h : bag.weighted u = .ok vector) : vector.weights.keys = bag.terms.keys := by
  have hfit : bag.documentCount ≤ u.documentCount := exists_weighted_eq_ok_iff.1 ⟨vector, h⟩
  rw [weighted, if_neg (Nat.not_lt.2 hfit), Except.ok.injEq] at h
  subst h
  rw [WeightVector.ofWeights, KeyedList.keys_ofList]
  · simp [TermBag.toList, KeyedList.keys]
  · simpa [TermBag.toList, Function.comp_def] using bag.terms.nodup_keys

end TermBag

end NewsScoring
