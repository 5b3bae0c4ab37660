import Mathlib.Tactic.Positivity
import NewsScoring.Proofs.TfIdf.Norm

/-!
# Rarity without rounding

Without rounding, the rarity of a term in a universe is a real number that is not negative
(`idf_eq`).  What is added to the number of documents with the term is less than one document, so
that rarity is positive exactly for terms that some document of the universe lacks
(`rarity_pos_iff`).  Hence weights grow with the frequency of a term and shrink with the number of
documents that have it, and a vector is zero exactly if all its terms occur in the whole universe
(`TermBag.isZero_iff_of_weighted`).
-/

namespace NewsScoring

/-- The rarity of a term that occurs in `documents` of `documentCount` documents. -/
noncomputable def rarity (documentCount documents : ℕ) : ℝ :=
  max 0 (Real.log (documentCount / (1 / 1000000 + documents)))

open Exact Scalar

variable {documentCount documents documents' : ℕ}

/-! ### The rarity of a term -/

theorem idfEpsilon_eq : (idfEpsilon : Exact) = ofReal (1 / 1000000) := by
  rw [idfEpsilon, one_eq, ofNat_eq, ofReal_div (by norm_num)]
  norm_num

theorem smoothed_pos (documents : ℕ) : (0 : ℝ) < 1 / 1000000 + documents := by
  positivity

theorem idf_eq (documentCount documents : ℕ) :
    (idf documentCount documents : Exact) = ofReal (rarity documentCount documents) := by
  have hratio : (ofNat documentCount / (idfEpsilon + ofNat documents) : Exact) =
      ofReal (documentCount / (1 / 1000000 + documents)) := by
    rw [idfEpsilon_eq, ofNat_eq, ofNat_eq, ofReal_add, ofReal_div (smoothed_pos documents).ne']
  rw [idf, hratio, rarity]
  rcases documentCount.eq_zero_or_pos with rfl | hpos
  · -- In an empty universe the ratio is zero, whose logarithm is no real number.
    rw [Nat.cast_zero, zero_div, Real.log_zero, max_self, zero_eq, if_neg (not_ofReal_lt_log_zero 0)]
  · have hdiv : (0 : ℝ) < documentCount / (1 / 1000000 + documents) :=
      div_pos (Nat.cast_pos.2 hpos) (smoothed_pos documents)
    simp only [log_ofReal hdiv, zero_eq, ofReal_lt]
    split
    · next hlt => rw [max_eq_right hlt.le]
    · next hlt => rw [max_eq_left (not_lt.1 hlt)]

theorem rarity_nonneg (documentCount documents : ℕ) : 0 ≤ rarity documentCount documents :=
  le_max_left _ _

/-- The more documents have a term, the less rare it is. -/
theorem rarity_anti (h : documents ≤ documents') :
    rarity documentCount documents' ≤ rarity documentCount documents := by
  rcases documentCount.eq_zero_or_pos with rfl | hpos
  · simp [rarity]
  · have hcount : (0 : ℝ) < documentCount := Nat.cast_pos.2 hpos
    have hle : (documents : ℝ) ≤ documents' := Nat.cast_le.2 h
    refine max_le_max le_rfl (Real.log_le_log (div_pos hcount (smoothed_pos documents')) ?_)
    exact div_le_div_of_nonneg_left hcount.le (smoothed_pos documents) (by gcongr)

/-- A term is rare exactly if not all documents have it. -/
theorem rarity_pos_iff : 0 < rarity documentCount documents ↔ documents < documentCount := by
  have hsmoothed := smoothed_pos documents
  have hratio : (0 : ℝ) ≤ documentCount / (1 / 1000000 + documents) :=
    div_nonneg documentCount.cast_nonneg hsmoothed.le
  rw [rarity, lt_max_iff, or_iff_right (lt_irrefl 0), Real.log_pos_iff hratio, one_lt_div hsmoothed]
  constructor
  · intro h
    have hlt : (documents : ℝ) < documentCount := by linarith
    exact Nat.cast_lt.1 hlt
  · intro h
    -- One document more is more than what is added.
    have hle : (documents : ℝ) + 1 ≤ documentCount := by exact_mod_cast h
    linarith

namespace TermBag

variable {bag bag' : TermBag} {u u' : Universe} {v v' : WeightVector Exact} {term : String}

/-! ### The weights of counted terms -/

/-- The weight of a term is its frequency times its rarity. -/
theorem toList_of_weighted_eq_ok (h : bag.weighted u = .ok v) :
    v.toList = bag.toList.map fun entry =>
      (entry.1, ofReal (entry.2.frequency * rarity u.documentCount (u.documents entry.1))) := by
  rw [toList_eq_map_sanitize h]
  refine List.map_congr_left fun entry _ => ?_
  have hnonneg : 0 ≤ (entry.2.frequency : ℝ) * rarity u.documentCount (u.documents entry.1) :=
    mul_nonneg (Nat.cast_nonneg _) (rarity_nonneg _ _)
  rw [weightIn, idf_eq, ofNat_eq, ofReal_mul, WeightVector.sanitize_ofReal hnonneg]

theorem weight?_of_weighted_eq_ok (h : bag.weighted u = .ok v) (term : String) :
    v.weight? term = (bag.tally? term).map fun tally =>
      ofReal (tally.frequency * rarity u.documentCount (u.documents term)) := by
  refine Option.ext fun weight => ?_
  have hweight : v.weight? term = some weight ↔ (term, weight) ∈ v.toList :=
    KeyedList.find?_eq_some_iff
  rw [hweight, toList_of_weighted_eq_ok h, List.mem_map, Option.map_eq_some_iff]
  constructor
  · rintro ⟨entry, hentry, heq⟩
    cases heq
    exact ⟨entry.2, KeyedList.find?_of_mem_entries hentry, rfl⟩
  · rintro ⟨tally, htally, rfl⟩
    exact ⟨(term, tally), KeyedList.find?_eq_some_iff.1 htally, rfl⟩

theorem eq_ofReal_of_weighted (h : bag.weighted u = .ok v) {weight : Exact}
    (hweight : v.weight? term = some weight) :
    weight = ofReal (bag.frequency term * rarity u.documentCount (u.documents term)) := by
  rw [weight?_of_weighted_eq_ok h, Option.map_eq_some_iff] at hweight
  obtain ⟨tally, htally, rfl⟩ := hweight
  rw [frequency, TermBag.tally, htally, Option.getD_some]

theorem weightOf_of_weighted (h : bag.weighted u = .ok v) (term : String) :
    v.weightOf term = bag.frequency term * rarity u.documentCount (u.documents term) := by
  rw [WeightVector.weightOf, weight?_of_weighted_eq_ok h, frequency, tally]
  cases bag.tally? term with
  | none => simp [Tally.none]
  | some tally => simp

/-- A term that is more frequent weighs no less, and neither does one that fewer documents have. -/
theorem weight_mono (h : bag.weighted u = .ok v) (h' : bag'.weighted u' = .ok v')
    (hcount : u'.documentCount = u.documentCount)
    (hfrequency : bag.frequency term ≤ bag'.frequency term)
    (hdocuments : u'.documents term ≤ u.documents term) {weight weight' : Exact}
    (hweight : v.weight? term = some weight) (hweight' : v'.weight? term = some weight') :
    weight ≤ weight' := by
  rw [eq_ofReal_of_weighted h hweight, eq_ofReal_of_weighted h' hweight', ofReal_le, hcount]
  exact mul_le_mul (Nat.cast_le.2 hfrequency) (rarity_anti hdocuments) (rarity_nonneg _ _)
    (Nat.cast_nonneg _)

theorem weight_nonneg_and_pos_iff (h : bag.weighted u = .ok v) {weight : Exact}
    (hweight : v.weight? term = some weight) :
    zero ≤ weight ∧
      (zero < weight ↔ 0 < bag.frequency term ∧ u.documents term < u.documentCount) := by
  have hfrequency : (0 : ℝ) ≤ bag.frequency term := Nat.cast_nonneg _
  have hoccurs : (0 : ℝ) < bag.frequency term ↔ 0 < bag.frequency term := Nat.cast_pos
  have hrare : 0 < rarity u.documentCount (u.documents term) ↔
      u.documents term < u.documentCount := rarity_pos_iff
  rw [eq_ofReal_of_weighted h hweight, zero_eq, ofReal_le, ofReal_lt, ← hoccurs, ← hrare]
  refine ⟨mul_nonneg hfrequency (rarity_nonneg _ _), ?_⟩
  constructor
  · intro hpos
    exact ⟨pos_of_mul_pos_left hpos (rarity_nonneg _ _), pos_of_mul_pos_right hpos hfrequency⟩
  · exact fun hpos => mul_pos hpos.1 hpos.2

/-- A vector is zero exactly if each of its terms occurs in all documents of the universe. -/
theorem isZero_iff_of_weighted (h : bag.weighted u = .ok v) :
    v.isZero = true ↔
      ∀ term, 0 < bag.frequency term → u.documentCount ≤ u.documents term := by
  have hv : v.IsEuclidean := (isBuilt_of_weighted_eq_ok h).isEuclidean
  have hzero : ∀ term, v.weightOf term = 0 ↔
      (0 < bag.frequency term → u.documentCount ≤ u.documents term) := by
    intro term
    have hrarity : rarity u.documentCount (u.documents term) = 0 ↔
        u.documentCount ≤ u.documents term := by
      rw [← not_lt, ← rarity_pos_iff, not_lt]
      exact ⟨le_of_eq, fun hle => le_antisymm hle (rarity_nonneg _ _)⟩
    rw [weightOf_of_weighted h, mul_eq_zero, Nat.cast_eq_zero, hrarity, Nat.pos_iff_ne_zero,
      or_iff_not_imp_left]
  rw [hv.isZero_iff, hv.hasOnlyZeros_iff]
  constructor
  · intro hall term
    rw [← hzero]
    by_cases hterm : term ∈ v.terms
    · exact hall term hterm
    · exact WeightVector.weightOf_eq_zero_of_notMem hterm
  · exact fun hall term _ => (hzero term).2 (hall term)

end TermBag

end NewsScoring
