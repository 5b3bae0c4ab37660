import Mathlib.Algebra.Order.BigOperators.Ring.Finset
import NewsScoring.Proofs.TfIdf.Norm
import NewsScoring.Similarity

/-!
# The cosine without rounding

Without rounding, the sum of products that is computed over the terms of the smaller vector is the
sum over all common terms (`IsEuclidean.dot_eq`), in whatever order the terms are listed.  It is at
most the product of the norms (`IsEuclidean.dot_mul_self_le`, the Cauchy–Schwarz inequality), so a
cosine is between zero and one before it is clamped (`IsEuclidean.cosine_eq_ok`).
-/

namespace NewsScoring.WeightVector

open Exact Scalar

variable {a b : WeightVector Exact}

/-- The sum of the products of the weights of the common terms. -/
noncomputable def commonSum (a b : WeightVector Exact) : ℝ :=
  ∑ term ∈ a.terms ∩ b.terms, a.weightOf term * b.weightOf term

/-! ### Sums over common terms -/

theorem commonSum_comm (a b : WeightVector Exact) : commonSum a b = commonSum b a := by
  rw [commonSum, commonSum, Finset.inter_comm]
  exact Finset.sum_congr rfl fun term _ => mul_comm _ _

/-- Terms of one vector only add nothing. -/
theorem commonSum_eq_sum_terms (a b : WeightVector Exact) :
    commonSum a b = ∑ term ∈ a.terms, a.weightOf term * b.weightOf term := by
  refine Finset.sum_subset Finset.inter_subset_left fun term hterm hcommon => ?_
  have hother : term ∉ b.terms := fun h => hcommon (Finset.mem_inter.2 ⟨hterm, h⟩)
  rw [weightOf_eq_zero_of_notMem hother, mul_zero]

theorem commonSum_self (a : WeightVector Exact) : commonSum a a = a.squareSum := by
  rw [commonSum_eq_sum_terms]
  exact Finset.sum_congr rfl fun term _ => (sq _).symm

/-- The Cauchy–Schwarz inequality: terms of one vector only make its norm larger. -/
theorem commonSum_sq_le (a b : WeightVector Exact) :
    commonSum a b ^ 2 ≤ a.squareSum * b.squareSum := by
  have hmono : ∀ (v : WeightVector Exact) {common : Finset String}, common ⊆ v.terms →
      ∑ term ∈ common, v.weightOf term ^ 2 ≤ v.squareSum :=
    fun v _ hcommon => Finset.sum_le_sum_of_subset_of_nonneg hcommon fun _ _ _ => sq_nonneg _
  calc commonSum a b ^ 2
      ≤ (∑ term ∈ a.terms ∩ b.terms, a.weightOf term ^ 2) *
          ∑ term ∈ a.terms ∩ b.terms, b.weightOf term ^ 2 := Finset.sum_mul_sq_le_sq_mul_sq _ _ _
    _ ≤ a.squareSum * b.squareSum :=
        mul_le_mul (hmono a Finset.inter_subset_left) (hmono b Finset.inter_subset_right)
          (Finset.sum_nonneg fun _ _ => sq_nonneg _) a.squareSum_nonneg

namespace IsEuclidean

theorem commonSum_nonneg (ha : a.IsEuclidean) (hb : b.IsEuclidean) : 0 ≤ commonSum a b :=
  Finset.sum_nonneg fun term _ => mul_nonneg (ha.weightOf_nonneg term) (hb.weightOf_nonneg term)

/-- The sum is zero where no term has a positive weight in both vectors. -/
theorem commonSum_eq_zero_iff (ha : a.IsEuclidean) (hb : b.IsEuclidean) :
    commonSum a b = 0 ↔ ∀ term, ¬(0 < a.weightOf term ∧ 0 < b.weightOf term) := by
  rw [commonSum, Finset.sum_eq_zero_iff_of_nonneg fun term _ =>
    mul_nonneg (ha.weightOf_nonneg term) (hb.weightOf_nonneg term)]
  constructor
  · rintro h term ⟨hposA, hposB⟩
    have hterm : term ∈ a.terms ∩ b.terms := by
      by_contra hcommon
      rw [Finset.mem_inter, not_and_or] at hcommon
      rcases hcommon with hmem | hmem
      · exact hposA.ne' (weightOf_eq_zero_of_notMem hmem)
      · exact hposB.ne' (weightOf_eq_zero_of_notMem hmem)
    exact (mul_pos hposA hposB).ne' (h term hterm)
  · intro h term _
    rcases (ha.weightOf_nonneg term).eq_or_lt with hzero | hpos
    · rw [← hzero, zero_mul]
    · have hnot : ¬0 < b.weightOf term := fun hposB => h term ⟨hpos, hposB⟩
      rw [le_antisymm (not_lt.1 hnot) (hb.weightOf_nonneg term), mul_zero]

/-! ### The sum that is computed -/

/-- Going through the terms of one vector adds what each contributes to the sum. -/
theorem foldl_products (ha : a.IsEuclidean) (hb : b.IsEuclidean) {entries : List (String × Exact)}
    (hentries : entries ⊆ a.toList) (sum : ℝ) :
    (entries.filterMap fun (term, weight) => (b.weight? term).map (weight * ·)).foldl (· + ·)
        (ofReal sum) =
      ofReal (sum + (entries.map fun entry => a.weightOf entry.1 * b.weightOf entry.1).sum) := by
  induction entries generalizing sum with
  | nil => simp
  | cons entry rest ih =>
    obtain ⟨hentry, hrest⟩ := List.cons_subset.1 hentries
    have hweight : entry.2 = ofReal (a.weightOf entry.1) :=
      (ha.eq_ofReal_weightOf (KeyedList.find?_of_mem_entries hentry)).1
    rw [List.map_cons, List.sum_cons, ← add_assoc]
    cases hother : b.weight? entry.1 with
    | none =>
      -- A term that is not common is passed over.
      have hnot : entry.1 ∉ b.terms := fun hmem => by
        obtain ⟨weight, hsome⟩ := mem_terms_iff.1 hmem
        rw [hother] at hsome
        cases hsome
      rw [weightOf_eq_zero_of_notMem hnot, mul_zero, add_zero, ← ih hrest]
      simp [hother]
    | some weight =>
      rw [← ih hrest]
      simp [hother, hweight, (hb.eq_ofReal_weightOf hother).1]

theorem foldl_commonProducts (ha : a.IsEuclidean) (hb : b.IsEuclidean) :
    (commonProducts a b).foldl (· + ·) (-zero) = ofReal (commonSum a b) := by
  have hstart : -(zero : Exact) = ofReal 0 := by rw [zero_eq, neg_ofReal, neg_zero]
  rw [commonProducts, hstart, ha.foldl_products hb (List.Subset.refl _), zero_add,
    sum_map_toList a fun term => a.weightOf term * b.weightOf term, ← commonSum_eq_sum_terms]

/-- Whichever vector is gone through, the sum is the one over the common terms. -/
theorem dot_eq (ha : a.IsEuclidean) (hb : b.IsEuclidean) : a.dot b = ofReal (commonSum a b) := by
  unfold dot
  dsimp only
  split
  · exact ha.foldl_commonProducts hb
  · rw [hb.foldl_commonProducts ha, commonSum_comm]

theorem dot_mul_self_le (ha : a.IsEuclidean) (hb : b.IsEuclidean) :
    a.dot b * a.dot b ≤ a.norm * a.norm * (b.norm * b.norm) := by
  rw [ha.dot_eq hb, ha.norm_mul_self, hb.norm_mul_self, ofReal_mul, ofReal_mul, ofReal_le, ← sq]
  exact commonSum_sq_le a b

/-! ### The cosine -/

theorem cosine_eq_error_iff_hasOnlyZeros (ha : a.IsEuclidean) (hb : b.IsEuclidean)
    {cause : ScoringError} :
    a.cosine b = .error cause ↔ (a.HasOnlyZeros ∨ b.HasOnlyZeros) ∧ cause = .zeroVector := by
  rw [← ha.isZero_iff, ← hb.isZero_iff, ← Bool.or_eq_true, cosine]
  split
  · next hzero => simp [hzero, eq_comm]
  · next hzero => simp [hzero]

theorem sqrt_squareSum_pos (ha : a.IsEuclidean) (hzero : ¬a.HasOnlyZeros) : 0 < √a.squareSum := by
  have hne : a.squareSum ≠ 0 := fun h => hzero (ha.squareSum_eq_zero_iff.1 h)
  exact Real.sqrt_pos.2 (lt_of_le_of_ne a.squareSum_nonneg hne.symm)

section

variable (hzeroA : ¬a.HasOnlyZeros) (hzeroB : ¬b.HasOnlyZeros)

include hzeroA hzeroB

theorem quotient_eq (ha : a.IsEuclidean) (hb : b.IsEuclidean) :
    a.dot b / (a.norm * b.norm) = ofReal (commonSum a b / (√a.squareSum * √b.squareSum)) := by
  have hpos : 0 < √a.squareSum * √b.squareSum :=
    mul_pos (ha.sqrt_squareSum_pos hzeroA) (hb.sqrt_squareSum_pos hzeroB)
  rw [ha.dot_eq hb, ha.norm_eq, hb.norm_eq, ofReal_mul, ofReal_div hpos.ne']

/-- The quotient is between zero and one. -/
theorem quotient_mem_Icc (ha : a.IsEuclidean) (hb : b.IsEuclidean) :
    zero ≤ a.dot b / (a.norm * b.norm) ∧ a.dot b / (a.norm * b.norm) ≤ one := by
  have hpos : 0 < √a.squareSum * √b.squareSum :=
    mul_pos (ha.sqrt_squareSum_pos hzeroA) (hb.sqrt_squareSum_pos hzeroB)
  have hle : commonSum a b ≤ √a.squareSum * √b.squareSum := by
    rw [← Real.sqrt_mul a.squareSum_nonneg]
    exact Real.le_sqrt_of_sq_le (commonSum_sq_le a b)
  rw [ha.quotient_eq hzeroA hzeroB hb, zero_eq, one_eq, ofReal_le, ofReal_le]
  exact ⟨div_nonneg (ha.commonSum_nonneg hb) hpos.le, (div_le_one hpos).2 hle⟩

/-- The cosine is the quotient itself, which is not clamped. -/
theorem cosine_eq_quotient (ha : a.IsEuclidean) (hb : b.IsEuclidean) :
    a.cosine b = .ok (a.dot b / (a.norm * b.norm)) := by
  have hnonzero : ¬(a.isZero || b.isZero) = true := by
    rw [Bool.or_eq_true, ha.isZero_iff, hb.isZero_iff, not_or]
    exact ⟨hzeroA, hzeroB⟩
  have hbounds := ha.quotient_mem_Icc hzeroA hzeroB hb
  rw [zero_eq, one_eq] at hbounds
  rw [cosine, if_neg hnonzero, zero_eq, one_eq, clamp_eq_self hbounds.1 hbounds.2]

end

theorem cosine_self (ha : a.IsEuclidean) (hzero : ¬a.HasOnlyZeros) : a.cosine a = .ok one := by
  have hne : a.squareSum ≠ 0 := fun h => hzero (ha.squareSum_eq_zero_iff.1 h)
  rw [ha.cosine_eq_quotient hzero hzero ha, ha.quotient_eq hzero hzero ha, commonSum_self,
    Real.mul_self_sqrt a.squareSum_nonneg, div_self hne, one_eq]

theorem cosine_eq_zero_iff (ha : a.IsEuclidean) (hb : b.IsEuclidean) :
    a.cosine b = .ok zero ↔ (¬a.HasOnlyZeros ∧ ¬b.HasOnlyZeros) ∧
      ∀ term, ¬(0 < a.weightOf term ∧ 0 < b.weightOf term) := by
  by_cases hfails : a.HasOnlyZeros ∨ b.HasOnlyZeros
  · have herror : a.cosine b = .error .zeroVector :=
      (ha.cosine_eq_error_iff_hasOnlyZeros hb).2 ⟨hfails, rfl⟩
    rw [herror]
    tauto
  · rw [not_or] at hfails
    obtain ⟨hzeroA, hzeroB⟩ := hfails
    have hpos : √a.squareSum * √b.squareSum ≠ 0 :=
      (mul_pos (ha.sqrt_squareSum_pos hzeroA) (hb.sqrt_squareSum_pos hzeroB)).ne'
    rw [ha.cosine_eq_quotient hzeroA hzeroB hb, ha.quotient_eq hzeroA hzeroB hb, zero_eq,
      Except.ok.injEq, ofReal_inj, div_eq_zero_iff, or_iff_left hpos, ha.commonSum_eq_zero_iff hb]
    exact (and_iff_right ⟨hzeroA, hzeroB⟩).symm

end IsEuclidean

/-! ### A similarity -/

/-- Vectors that are made of weights of different terms, as those of counted terms are, have a
symmetric sum of common products, which is not negative and at most the product of the norms, and a
cosine that need not be clamped, unless one of them has no weight other than zero. -/
theorem cosine_isSimilarity (ha : a.IsBuilt) (hb : b.IsBuilt) :
    ((∀ term x, a.weight? term = some x → x = ofReal (a.weightOf term)) ∧
      (∀ term y, b.weight? term = some y → y = ofReal (b.weightOf term)) ∧
      a.dot b = ofReal (∑ term ∈ a.terms ∩ b.terms, a.weightOf term * b.weightOf term) ∧
      a.dot b = b.dot a) ∧
    (zero ≤ a.dot b ∧ a.dot b * a.dot b ≤ a.norm * a.norm * (b.norm * b.norm)) ∧
    (¬a.HasOnlyZeros → ¬b.HasOnlyZeros →
      (zero ≤ a.dot b / (a.norm * b.norm) ∧ a.dot b / (a.norm * b.norm) ≤ one) ∧
        a.cosine b = .ok (a.dot b / (a.norm * b.norm))) ∧
    (¬a.HasOnlyZeros → a.cosine a = .ok one) ∧
    (a.cosine b = .ok zero ↔ (¬a.HasOnlyZeros ∧ ¬b.HasOnlyZeros) ∧
      ∀ term, ¬∃ x y, a.weight? term = some x ∧ b.weight? term = some y ∧ zero < x ∧ zero < y) ∧
    (∀ cause, a.cosine b = .error cause ↔
      (a.HasOnlyZeros ∨ b.HasOnlyZeros) ∧ cause = .zeroVector) ∧
    ∀ (bag : TermBag) (u : Universe) (v : WeightVector Exact),
      bag.weighted u = .ok v → v.IsBuilt := by
  have hea : a.IsEuclidean := ha.isEuclidean
  have heb : b.IsEuclidean := hb.isEuclidean
  refine ⟨⟨?_, ?_, hea.dot_eq heb, ?_⟩, ⟨?_, hea.dot_mul_self_le heb⟩, fun hzeroA hzeroB => ?_,
    hea.cosine_self, ?_, fun cause => hea.cosine_eq_error_iff_hasOnlyZeros heb,
    fun bag u v => TermBag.isBuilt_of_weighted_eq_ok⟩
  · exact fun term x hx => (hea.eq_ofReal_weightOf hx).1
  · exact fun term y hy => (heb.eq_ofReal_weightOf hy).1
  · rw [hea.dot_eq heb, heb.dot_eq hea, commonSum_comm]
  · rw [hea.dot_eq heb, zero_eq, ofReal_le]
    exact hea.commonSum_nonneg heb
  · exact ⟨hea.quotient_mem_Icc hzeroA hzeroB heb, hea.cosine_eq_quotient hzeroA hzeroB heb⟩
  · rw [hea.cosine_eq_zero_iff heb]
    refine and_congr_right fun _ => forall_congr' fun term => not_congr ?_
    rw [hea.weightOf_pos_iff, heb.weightOf_pos_iff]
    tauto

/-- The weights of wheat and of one other grain. -/
noncomputable def grains (other : String) : WeightVector Exact :=
  ofWeights [("wheat", ofReal 3), (other, ofReal 4)]

section

variable {other : String} (hother : "wheat" ≠ other)

include hother

theorem isBuilt_grains : (grains other).IsBuilt :=
  ⟨_, by simpa using hother, rfl⟩

theorem toList_grains :
    (grains other).toList = [("wheat", ofReal 3), (other, ofReal 4)] := by
  rw [grains, toList_ofWeights (by simpa using hother)]
  simp [sanitize_ofReal]

theorem norm_grains : (grains other).norm = ofReal 5 := by
  have hsquares : (grains other).squareSum = 5 ^ 2 := by
    rw [squareSum_eq_sum_toList, toList_grains hother]
    norm_num
  rw [(isBuilt_grains hother).isEuclidean.norm_eq, hsquares, Real.sqrt_sq (by norm_num)]

theorem weightOf_grains_wheat : (grains other).weightOf "wheat" = 3 := by
  have hentry : ("wheat", ofReal 3) ∈ (grains other).toList := by simp [toList_grains hother]
  exact (weightOf_of_mem hentry).trans (toReal_ofReal 3)

theorem terms_grains : (grains other).terms = {"wheat", other} := by
  have hkeys : (grains other).weights.keys = ["wheat", other] :=
    congrArg (List.map Prod.fst) (toList_grains hother)
  simp [terms, hkeys]

theorem hasOnlyZeros_grains : ¬(grains other).HasOnlyZeros := by
  intro h
  have hentry : ("wheat", ofReal 3) ∈ (grains other).toList := by simp [toList_grains hother]
  have hzero : ofReal 3 = zero := h _ hentry
  simp [zero_eq] at hzero

end

/-- Two vectors of norm five that have wheat in common. -/
theorem cosine_isSimilarity_grains :
    ((grains "maize").IsBuilt ∧ (grains "rice").IsBuilt) ∧
      (grains "maize").dot (grains "rice") = ofReal 9 ∧
      (grains "maize").dot (grains "rice") = (grains "rice").dot (grains "maize") ∧
      (grains "maize").cosine (grains "rice") = .ok (ofReal (9 / 25)) ∧
      (grains "maize").cosine (grains "maize") = .ok one := by
  have hmaize : "wheat" ≠ "maize" := by decide
  have hrice : "wheat" ≠ "rice" := by decide
  obtain ⟨⟨-, -, hdot, hcomm⟩, -, hcosine, hself, -⟩ :=
    cosine_isSimilarity (isBuilt_grains hmaize) (isBuilt_grains hrice)
  have hcommon : (grains "maize").terms ∩ (grains "rice").terms = {"wheat"} := by
    rw [terms_grains hmaize, terms_grains hrice]
    decide
  rw [hcommon, Finset.sum_singleton, weightOf_grains_wheat hmaize,
    weightOf_grains_wheat hrice] at hdot
  have hnine : (grains "maize").dot (grains "rice") = ofReal 9 := by
    rw [hdot]
    norm_num
  refine ⟨⟨isBuilt_grains hmaize, isBuilt_grains hrice⟩, hnine, hcomm, ?_,
    hself (hasOnlyZeros_grains hmaize)⟩
  rw [(hcosine (hasOnlyZeros_grains hmaize) (hasOnlyZeros_grains hrice)).2, hnine,
    norm_grains hmaize, norm_grains hrice, ofReal_mul, ofReal_div (by norm_num)]
  norm_num

end NewsScoring.WeightVector
