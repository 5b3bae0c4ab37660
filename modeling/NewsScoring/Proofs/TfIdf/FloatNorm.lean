import NewsScoring.Proofs.Scalar.Underflow
import NewsScoring.Proofs.TfIdf.Heaviest

/-!
# Norms of floating-point weights

The square of a small weight may be rounded to zero.  The weights of counted terms are not that
small: a positive one is at least the least positive logarithm, and its square still has all the
bits of a mantissa.  So counted terms have a norm other than zero if one of their weights is
positive (`TermBag.isZero_eq_false_of_mem_positive`).
-/

namespace NewsScoring

open FloatBound

/-- Whether positive logarithms are not tiny.  The least number above one exceeds it by `2⁻⁵²`, and
that is about its logarithm. -/
def HasNoTinyLogarithm (log : Float → Float) : Prop :=
  ∀ x, Float.ofNat 0 < log x → (1e-100 : Float) ≤ log x

/-! ### The sum of squares -/

section

variable {sum : Float} {weights : List Float}

theorem isLarge_addSquares (hsum : IsLarge (-718) sum)
    (hweights : ∀ weight ∈ weights, IsZero weight ∨ IsLarge (-385) weight) :
    IsLarge (-718) (WeightVector.addSquares sum weights) := by
  induction weights generalizing sum with
  | nil => exact hsum
  | cons weight rest ih =>
    obtain ⟨hweight, hrest⟩ := List.forall_mem_cons.1 hweights
    refine ih ?_ hrest
    rcases hweight with hzero | hlarge
    · exact isLarge_add_of_isZero_right hsum (isZero_mul_self hzero) (by decide)
    · exact isLarge_add hsum (isLarge_mul hlarge hlarge (by decide)) (by decide)

/-- A sum of squares stays zero until a weight is large. -/
theorem isLarge_addSquares_of_mem (hsum : IsZero sum)
    (hweights : ∀ weight ∈ weights, IsZero weight ∨ IsLarge (-385) weight)
    (hlarge : ∃ weight ∈ weights, IsLarge (-385) weight) :
    IsLarge (-718) (WeightVector.addSquares sum weights) := by
  induction weights generalizing sum with
  | nil =>
    obtain ⟨weight, hmem, -⟩ := hlarge
    exact absurd hmem List.not_mem_nil
  | cons weight rest ih =>
    obtain ⟨hweight, hrest⟩ := List.forall_mem_cons.1 hweights
    have hfirst (h : IsLarge (-385) weight) :
        IsLarge (-718) (WeightVector.addSquares sum (weight :: rest)) := by
      have hsquare : IsLarge (-718) (weight * weight) := isLarge_mul h h (by decide)
      have hnext : IsLarge (-718) (sum + weight * weight) :=
        isLarge_add_of_isZero_left hsum hsquare (by decide)
      show IsLarge (-718) (WeightVector.addSquares (sum + weight * weight) rest)
      exact isLarge_addSquares hnext hrest
    rcases hweight with hzero | hweight
    · obtain ⟨other, hmem, hother⟩ := hlarge
      rcases List.mem_cons.1 hmem with rfl | hmem
      · exact hfirst hother
      · exact ih (isZero_add hsum (isZero_mul_self hzero)) hrest ⟨other, hmem, hother⟩
    · exact hfirst hweight

end

/-! ### Weights of counted terms -/

namespace TermBag

/-- Where positive logarithms are not tiny, neither are positive weights. -/
theorem isLarge_weightIn {log : Float → Float} (hlog : HasNoTinyLogarithm log) {u : Universe}
    {term : String} {tally : Tally} :
    letI := Scalar.float log
    Float.ofNat 0 < (weightIn u term tally : Float) → IsLarge (-385) (weightIn u term tally) := by
  let : Scalar Float := .float log
  show Float.ofNat 0 < Float.ofNat tally.frequency * idf u.documentCount (u.documents term) →
    IsLarge (-385) (Float.ofNat tally.frequency * idf u.documentCount (u.documents term))
  intro hpos
  have hfrequency : 1 ≤ tally.frequency := by
    refine Nat.pos_of_ne_zero fun hzero => ?_
    rw [hzero] at hpos
    exact not_pos_mul_of_isZero (.inl isZero_ofNat_zero) hpos
  have hidf : IsLarge (-385) (idf u.documentCount (u.documents term)) := by
    rw [idf] at hpos ⊢
    split at hpos
    · rename_i hrare
      rw [if_pos hrare]
      exact isLarge_of_le (hlog _ hrare)
    · exact absurd hpos (not_pos_mul_of_isZero (.inr isZero_ofNat_zero))
  exact isLarge_mul (isLarge_ofNat hfrequency) hidf (by decide)

/-- Counted terms have a vector that is not zero if one of the weights is positive. -/
theorem isZero_eq_false_of_mem_positive {log : Float → Float} (hlog : HasNoTinyLogarithm log)
    {bag : TermBag} {u : Universe} :
    letI := Scalar.float log
    ∀ {vector : WeightVector Float}, bag.weighted u = .ok vector →
      ∀ entry ∈ vector.positive, vector.isZero = false := by
  let : Scalar Float := .float log
  intro vector h entry hentry
  obtain ⟨hlisted, hpos⟩ := WeightVector.mem_positive_iff.1 hentry
  have hnorm := (isBuilt_of_weighted_eq_ok h).norm_eq
  have hmem : entry.2 ∈ vector.toList.map Prod.snd := List.mem_map_of_mem hlisted
  have hweights : ∀ weight ∈ vector.toList.map Prod.snd, IsZero weight ∨ IsLarge (-385) weight := by
    intro weight hweight
    rw [toList_eq_map_sanitize h, List.map_map] at hweight
    obtain ⟨counted, -, rfl⟩ := List.mem_map.1 hweight
    rw [Function.comp_apply, WeightVector.sanitize]
    split
    · rename_i hkept
      rw [Bool.and_eq_true, decide_eq_true_eq] at hkept
      exact .inr (isLarge_weightIn hlog hkept.2)
    · exact .inl isZero_ofNat_zero
  have hlarge := isLarge_addSquares_of_mem isZero_ofNat_zero hweights
    ⟨_, hmem, (hweights _ hmem).resolve_left fun hzero => not_pos_of_isZero hzero hpos⟩
  have hnot : ¬vector.norm ≤ Float.ofNat 0 := by
    rw [hnorm]
    exact not_le_zero_of_isLarge (isLarge_sqrt hlarge (by decide))
  rw [WeightVector.isZero, Scalar.equals, Bool.and_eq_false_iff]
  exact .inl (decide_eq_false hnot)

end TermBag

end NewsScoring
