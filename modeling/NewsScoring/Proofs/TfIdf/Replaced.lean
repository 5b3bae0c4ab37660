import NewsScoring.Proofs.TfIdf.Norm

/-!
# Norms of weights that are replaced

A vector keeps the last weight of each term (`WeightVector.ofWeights`), but its norm is of all
weights that it was given (`norm_ofWeights`), so that a weight that was replaced still counts.  The
norm is that of the listed weights exactly if only zeros were replaced (`hasOwnNorm_ofWeights_iff`).
-/

namespace NewsScoring

open Exact Scalar

namespace WeightVector

/-- What the norm is meant to be: the root of the sum of the squares of the listed weights, which is
zero exactly if all of them are. -/
structure HasOwnNorm (v : WeightVector Exact) : Prop where
  norm_mul_self : v.norm * v.norm = ofReal v.squareSum
  isZero_iff : v.isZero = true ↔ v.HasOnlyZeros

variable (weights : List (String × Exact))

theorem isZero_ofWeights_iff :
    (ofWeights weights).isZero = true ↔ ∀ entry ∈ weights, sanitize entry.2 = zero := by
  rw [isZero, norm_ofWeights, zero_eq, equals_ofReal,
    Real.sqrt_eq_zero (givenSquareSum_nonneg weights), givenSquareSum_eq_zero_iff, zero_eq]

theorem norm_mul_self_ofWeights : (ofWeights weights).norm * (ofWeights weights).norm =
    ofReal ((ofWeights weights).squareSum + givenSquareSum (KeyedList.replaced weights)) := by
  rw [norm_ofWeights, ofReal_mul, Real.mul_self_sqrt (givenSquareSum_nonneg weights),
    squareSum_ofWeights_add_replaced]

/-- The listed weights are real numbers that are not negative.  The square of the norm exceeds the
sum of their squares by the squares of the weights that were replaced, and a vector is zero only if
all weights it was given are.  So the norm is that of the listed weights exactly if no weight was
replaced but zeros. -/
theorem hasOwnNorm_ofWeights_iff :
    (∀ entry ∈ (ofWeights weights).toList, ∃ r : ℝ, 0 ≤ r ∧ entry.2 = ofReal r) ∧
    (ofWeights weights).norm * (ofWeights weights).norm =
      ofReal ((ofWeights weights).squareSum + givenSquareSum (KeyedList.replaced weights)) ∧
    ((ofWeights weights).isZero = true ↔ ∀ entry ∈ weights, sanitize entry.2 = zero) ∧
    ((ofWeights weights).HasOwnNorm ↔
      ∀ entry ∈ KeyedList.replaced weights, sanitize entry.2 = zero) := by
  refine ⟨weight_nonneg_ofWeights weights, norm_mul_self_ofWeights weights,
    isZero_ofWeights_iff weights, ?_, ?_⟩
  · intro h
    have hsquares := h.norm_mul_self
    rw [norm_mul_self_ofWeights, ofReal_inj, add_eq_left] at hsquares
    exact givenSquareSum_eq_zero_iff.1 hsquares
  · intro h
    have hv := isEuclidean_ofWeights h
    exact ⟨hv.norm_mul_self, hv.isZero_iff⟩

/-- A weight that a zero replaces still makes the norm positive. -/
theorem not_hasOwnNorm_robots :
    ¬(ofWeights [("robots", ofReal 3), ("robots", ofReal 0)]).HasOwnNorm := by
  have hthree : sanitize (ofReal 3) = ofReal 3 := sanitize_ofReal (by norm_num)
  have hzero : sanitize (ofReal 0) = (zero : Exact) := (sanitize_ofReal le_rfl).trans zero_eq.symm
  have hlisted : (ofWeights [("robots", ofReal 3), ("robots", ofReal 0)]).toList =
      [("robots", zero)] := by
    rw [← hzero]
    rfl
  intro h
  have honlyZeros : (ofWeights [("robots", ofReal 3), ("robots", ofReal 0)]).HasOnlyZeros := by
    rw [HasOnlyZeros, hlisted]
    simp
  have hgiven := (isZero_ofWeights_iff _).1 (h.isZero_iff.2 honlyZeros) _ List.mem_cons_self
  rw [hthree, zero_eq, ofReal_inj] at hgiven
  norm_num at hgiven

end WeightVector

end NewsScoring
