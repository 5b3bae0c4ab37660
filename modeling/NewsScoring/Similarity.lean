import NewsScoring.TfIdf

/-!
# The similarity of weighted terms

The cosine of the angle between two weight vectors: the sum of the products of the weights of their
common terms (`dot`), over the product of their norms.  The cosine of a vector whose weights are all
zero is undefined.
-/

namespace NewsScoring.WeightVector

variable {α : Type} [Scalar α]

open Scalar

/-- The products of the weights of the common terms, in the order of the first vector. -/
def commonProducts (a b : WeightVector α) : List α :=
  a.toList.filterMap fun (term, weight) => (b.weight? term).map (weight * ·)

/-- The sum of the products of the weights of the common terms, in the order of the vector with
fewer terms, or of the first of two equally long ones.  The sum starts at minus zero, which it stays
where no term is common. -/
def dot (a b : WeightVector α) : α :=
  let products := if a.size ≤ b.size then commonProducts a b else commonProducts b a
  products.foldl (· + ·) (-zero)

/-- The cosine similarity of two vectors, between zero and one. -/
def cosine (a b : WeightVector α) : Except ScoringError α :=
  if a.isZero || b.isZero then .error .zeroVector
  else .ok (clamp zero one (dot a b / (a.norm * b.norm)))

end NewsScoring.WeightVector
