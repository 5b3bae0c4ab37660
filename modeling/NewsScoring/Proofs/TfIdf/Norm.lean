import Mathlib.Algebra.Order.BigOperators.Group.Finset
import NewsScoring.Proofs.KeyedList.Replaced
import NewsScoring.Proofs.Scalar.Exact
import NewsScoring.Proofs.TfIdf.Keywords

/-!
# Weights and norms as real numbers

Without rounding, the weights that are kept are real numbers that are not negative
(`exists_sanitize_eq`), and the norm is the root of the sum of the squares of all weights that were
given (`norm_ofWeights`).  Of different terms these are the weights that are listed
(`IsBuilt.isEuclidean`), so that the norm is zero exactly where all weights are
(`IsEuclidean.isZero_iff`).
-/

namespace NewsScoring

open Exact Scalar

namespace WeightVector

/-- The terms with weights. -/
def terms (v : WeightVector Exact) : Finset String :=
  v.weights.keys.toFinset

/-- The weight of a term as a real number; zero for a term that is not listed. -/
noncomputable def weightOf (v : WeightVector Exact) (term : String) : ℝ :=
  ((v.weight? term).map Exact.toReal).getD 0

/-- The sum of the squares of the weights. -/
noncomputable def squareSum (v : WeightVector Exact) : ℝ :=
  ∑ term ∈ v.terms, v.weightOf term ^ 2

/-- Whether no weight is other than zero. -/
def HasOnlyZeros (v : WeightVector Exact) : Prop :=
  ∀ entry ∈ v.toList, entry.2 = zero

/-- What weights are without rounding: real numbers that are not negative, with their Euclidean
norm. -/
structure IsEuclidean (v : WeightVector Exact) : Prop where
  weight_nonneg : ∀ entry ∈ v.toList, ∃ r : ℝ, 0 ≤ r ∧ entry.2 = ofReal r
  norm_eq : v.norm = ofReal √v.squareSum

variable {v : WeightVector Exact} {term : String}

/-! ### Weights of terms -/

theorem mem_terms_iff : term ∈ v.terms ↔ ∃ weight, v.weight? term = some weight := by
  rw [terms, List.mem_toFinset, ← KeyedList.contains_iff_mem_keys, KeyedList.contains,
    Option.isSome_iff_exists]
  rfl

theorem weightOf_eq_zero_of_notMem (h : term ∉ v.terms) : v.weightOf term = 0 := by
  have hnone : v.weight? term = none := by
    rw [Option.eq_none_iff_forall_ne_some]
    exact fun weight hweight => h (mem_terms_iff.2 ⟨weight, hweight⟩)
  rw [weightOf, hnone]
  rfl

theorem weightOf_of_mem {entry : String × Exact} (h : entry ∈ v.toList) :
    v.weightOf entry.1 = entry.2.toReal := by
  have hweight : v.weight? entry.1 = some entry.2 := KeyedList.find?_of_mem_entries h
  rw [weightOf, hweight]
  rfl

/-- A sum over the terms, in the order of the list. -/
theorem sum_map_toList (v : WeightVector Exact) (f : String → ℝ) :
    (v.toList.map fun entry => f entry.1).sum = ∑ term ∈ v.terms, f term := by
  have hkeys : (v.toList.map fun entry => f entry.1) = v.weights.keys.map f := by
    rw [KeyedList.keys, List.map_map]
    rfl
  have hnodup : v.weights.keys.Nodup := v.weights.nodup_keys
  rw [hkeys, terms, List.sum_toFinset f hnodup]

theorem squareSum_eq_sum_toList (v : WeightVector Exact) :
    v.squareSum = (v.toList.map fun entry => entry.2.toReal ^ 2).sum := by
  rw [squareSum, ← sum_map_toList v fun term => v.weightOf term ^ 2]
  refine congrArg List.sum (List.map_congr_left fun entry hentry => ?_)
  rw [weightOf_of_mem hentry]

theorem squareSum_nonneg (v : WeightVector Exact) : 0 ≤ v.squareSum :=
  Finset.sum_nonneg fun _ _ => sq_nonneg _

namespace IsEuclidean

/-- A weight that is found is the real number it stands for. -/
theorem eq_ofReal_weightOf (hv : v.IsEuclidean) {weight : Exact}
    (h : v.weight? term = some weight) :
    weight = ofReal (v.weightOf term) ∧ 0 ≤ v.weightOf term := by
  have hentry : (term, weight) ∈ v.toList := KeyedList.find?_eq_some_iff.1 h
  obtain ⟨r, hr, rfl⟩ : ∃ r : ℝ, 0 ≤ r ∧ weight = ofReal r := hv.weight_nonneg _ hentry
  have hof : v.weightOf term = r := (weightOf_of_mem hentry).trans (toReal_ofReal r)
  rw [hof]
  exact ⟨rfl, hr⟩

theorem weightOf_nonneg (hv : v.IsEuclidean) (term : String) : 0 ≤ v.weightOf term := by
  by_cases hterm : term ∈ v.terms
  · obtain ⟨weight, hweight⟩ := mem_terms_iff.1 hterm
    exact (hv.eq_ofReal_weightOf hweight).2
  · exact (weightOf_eq_zero_of_notMem hterm).ge

/-- A weight is positive where the term is listed with a positive one. -/
theorem weightOf_pos_iff (hv : v.IsEuclidean) :
    0 < v.weightOf term ↔ ∃ weight, v.weight? term = some weight ∧ zero < weight := by
  constructor
  · intro hpos
    have hterm : term ∈ v.terms := by
      by_contra hterm
      rw [weightOf_eq_zero_of_notMem hterm] at hpos
      exact lt_irrefl 0 hpos
    obtain ⟨weight, hweight⟩ := mem_terms_iff.1 hterm
    refine ⟨weight, hweight, ?_⟩
    rwa [(hv.eq_ofReal_weightOf hweight).1, zero_eq, ofReal_lt]
  · rintro ⟨weight, hweight, hpos⟩
    rwa [(hv.eq_ofReal_weightOf hweight).1, zero_eq, ofReal_lt] at hpos

theorem hasOnlyZeros_iff (hv : v.IsEuclidean) :
    v.HasOnlyZeros ↔ ∀ term ∈ v.terms, v.weightOf term = 0 := by
  constructor
  · intro h term hterm
    obtain ⟨weight, hweight⟩ := mem_terms_iff.1 hterm
    have hzero : weight = zero := h _ (KeyedList.find?_eq_some_iff.1 hweight)
    rw [(hv.eq_ofReal_weightOf hweight).1, zero_eq, ofReal_inj] at hzero
    exact hzero
  · intro h entry hentry
    have hweight : v.weight? entry.1 = some entry.2 := KeyedList.find?_of_mem_entries hentry
    rw [(hv.eq_ofReal_weightOf hweight).1, h _ (mem_terms_iff.2 ⟨_, hweight⟩), zero_eq]

/-! ### The norm -/

theorem norm_mul_self (hv : v.IsEuclidean) : v.norm * v.norm = ofReal v.squareSum := by
  rw [hv.norm_eq, ofReal_mul, Real.mul_self_sqrt v.squareSum_nonneg]

theorem squareSum_eq_zero_iff (hv : v.IsEuclidean) : v.squareSum = 0 ↔ v.HasOnlyZeros := by
  rw [squareSum, Finset.sum_eq_zero_iff_of_nonneg fun _ _ => sq_nonneg _, hv.hasOnlyZeros_iff]
  simp only [sq_eq_zero_iff]

theorem isZero_iff (hv : v.IsEuclidean) : v.isZero = true ↔ v.HasOnlyZeros := by
  rw [isZero, hv.norm_eq, zero_eq, equals_ofReal, Real.sqrt_eq_zero v.squareSum_nonneg,
    hv.squareSum_eq_zero_iff]

end IsEuclidean

/-! ### Weights that are kept -/

theorem exists_sanitize_eq (weight : Exact) : ∃ r : ℝ, 0 ≤ r ∧ sanitize weight = ofReal r := by
  rcases sanitize_cases weight with hzero | ⟨hfinite, hpos⟩
  · exact ⟨0, le_rfl, hzero.trans zero_eq⟩
  · have hreal := eq_ofReal_toReal hfinite
    rw [hreal, zero_eq, ofReal_lt] at hpos
    exact ⟨_, hpos.le, hreal⟩

/-- A real number that is not negative is kept as it is. -/
theorem sanitize_ofReal {r : ℝ} (hr : 0 ≤ r) : sanitize (ofReal r) = ofReal r := by
  rw [sanitize, isFinite_ofReal, Bool.true_and]
  simp only [zero_eq, ofReal_lt, decide_eq_true_eq]
  rcases hr.eq_or_lt with rfl | hpos
  · rw [if_neg (lt_irrefl 0)]
  · rw [if_pos hpos]

theorem addSquares_ofReal {weights : List Exact} (h : ∀ weight ∈ weights, ∃ r, weight = ofReal r)
    (sum : ℝ) :
    addSquares (ofReal sum) weights =
      ofReal (sum + (weights.map fun weight => weight.toReal ^ 2).sum) := by
  induction weights generalizing sum with
  | nil => simp [addSquares]
  | cons weight rest ih =>
    obtain ⟨⟨r, rfl⟩, hrest⟩ := List.forall_mem_cons.1 h
    have hstep : addSquares (ofReal sum) (ofReal r :: rest) =
        addSquares (ofReal (sum + r * r)) rest := by
      simp [addSquares]
    rw [hstep, ih hrest, List.map_cons, List.sum_cons, toReal_ofReal, sq, add_assoc]

/-! ### The norm of given weights -/

/-- The sum of the squares of given weights, each as it is kept. -/
noncomputable def givenSquareSum (weights : List (String × Exact)) : ℝ :=
  (weights.map fun entry => (sanitize entry.2).toReal ^ 2).sum

theorem givenSquareSum_nonneg (weights : List (String × Exact)) : 0 ≤ givenSquareSum weights := by
  refine List.sum_nonneg fun square hsquare => ?_
  obtain ⟨entry, -, rfl⟩ := List.mem_map.1 hsquare
  exact sq_nonneg _

theorem givenSquareSum_eq_zero_iff {weights : List (String × Exact)} :
    givenSquareSum weights = 0 ↔ ∀ entry ∈ weights, sanitize entry.2 = zero := by
  induction weights with
  | nil => simp [givenSquareSum]
  | cons entry rest ih =>
    obtain ⟨r, -, hr⟩ := exists_sanitize_eq entry.2
    have hcons : givenSquareSum (entry :: rest) = r ^ 2 + givenSquareSum rest := by
      rw [givenSquareSum, List.map_cons, List.sum_cons, hr, toReal_ofReal, givenSquareSum]
    rw [hcons, add_eq_zero_iff_of_nonneg (sq_nonneg r) (givenSquareSum_nonneg rest),
      sq_eq_zero_iff, ih, List.forall_mem_cons, hr, zero_eq, ofReal_inj]

section

variable (weights : List (String × Exact))

/-- The norm is of all weights that were given, also of those that were replaced. -/
theorem norm_ofWeights : (ofWeights weights).norm = ofReal √(givenSquareSum weights) := by
  have hreal : ∀ weight ∈ weights.map fun entry => sanitize entry.2, ∃ r, weight = ofReal r := by
    intro weight hweight
    obtain ⟨entry, -, rfl⟩ := List.mem_map.1 hweight
    obtain ⟨r, -, hr⟩ := exists_sanitize_eq entry.2
    exact ⟨r, hr⟩
  have hnorm : (ofWeights weights).norm =
      sqrt (addSquares zero (weights.map fun entry => sanitize entry.2)) := by
    rw [ofWeights, List.map_map]
    rfl
  have hsquares : ((weights.map fun entry => sanitize entry.2).map
      fun weight => weight.toReal ^ 2).sum = givenSquareSum weights := by
    rw [List.map_map]
    rfl
  rw [hnorm, zero_eq, addSquares_ofReal hreal, zero_add, hsquares,
    sqrt_ofReal (givenSquareSum_nonneg weights)]

/-- A weight that was given is listed or was replaced. -/
theorem squareSum_ofWeights_add_replaced :
    (ofWeights weights).squareSum + givenSquareSum (KeyedList.replaced weights) =
      givenSquareSum weights := by
  have hreplaced := KeyedList.replaced_map sanitize weights
  have hsum := KeyedList.sum_entries_add_sum_replaced
    (fun entry : String × Exact => entry.2.toReal ^ 2)
    (weights.map fun entry => (entry.1, sanitize entry.2))
  rw [hreplaced, List.map_map, List.map_map] at hsum
  rw [squareSum_eq_sum_toList]
  exact hsum

theorem weight_nonneg_ofWeights :
    ∀ entry ∈ (ofWeights weights).toList, ∃ r : ℝ, 0 ≤ r ∧ entry.2 = ofReal r := by
  intro entry hentry
  have hkept : entry ∈ weights.map fun entry => (entry.1, sanitize entry.2) :=
    (KeyedList.latest_sublist _).subset ((KeyedList.perm_latest _).mem_iff.1 hentry)
  obtain ⟨source, -, rfl⟩ := List.mem_map.1 hkept
  exact exists_sanitize_eq source.2

end

/-- Where only zeros were replaced, the norm is that of the listed weights. -/
theorem isEuclidean_ofWeights {weights : List (String × Exact)}
    (h : ∀ entry ∈ KeyedList.replaced weights, sanitize entry.2 = zero) :
    (ofWeights weights).IsEuclidean := by
  refine ⟨weight_nonneg_ofWeights weights, ?_⟩
  rw [norm_ofWeights, ← squareSum_ofWeights_add_replaced, givenSquareSum_eq_zero_iff.2 h, add_zero]

theorem IsBuilt.isEuclidean (hv : v.IsBuilt) : v.IsEuclidean := by
  obtain ⟨weights, hnodup, rfl⟩ := hv
  refine isEuclidean_ofWeights fun entry hentry => ?_
  rw [KeyedList.replaced_eq_nil_iff.2 hnodup] at hentry
  cases hentry

end WeightVector

end NewsScoring
