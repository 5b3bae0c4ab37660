import NewsScoring.Proofs.KeyedList.Latest
import NewsScoring.Proofs.RankedList.Consistent
import NewsScoring.Weighing

/-!
# Keywords of weighted terms

Weights that are kept are zero or positive, so a vector that is not zero has a term of positive
weight (`WeightVector.exists_pos_of_isZero_eq_false`).  Asked for at least one term, it has a
heaviest one (`WeightVector.topTerms_ne_nil`).
-/

namespace NewsScoring

/-- What sums of squares of weights are computed with: zero stays zero under squares, sums and
roots, and finite numbers are comparable. -/
class WeightArithmetic (α : Type) [Scalar α] : Prop where
  zero_add_square : (Scalar.zero : α) + Scalar.zero * Scalar.zero = Scalar.zero
  sqrt_zero : Scalar.equals (Scalar.sqrt (Scalar.zero : α)) Scalar.zero = true
  le_self_of_isFinite : ∀ {x : α}, Scalar.isFinite x = true → x ≤ x

open FloatOrder in
instance (log : Float → Float) : @WeightArithmetic Float (.float log) :=
  letI := Scalar.float log
  { zero_add_square := by
      show Float.ofNat 0 + Float.ofNat 0 * Float.ofNat 0 = Float.ofNat 0
      decide +kernel
    sqrt_zero := by
      have hle : Float.sqrt (Float.ofNat 0) ≤ Float.ofNat 0 := by decide +kernel
      have hge : Float.ofNat 0 ≤ Float.sqrt (Float.ofNat 0) := by decide +kernel
      rw [Scalar.equals, Bool.and_eq_true, decide_eq_true_eq, decide_eq_true_eq]
      exact ⟨hle, hge⟩
    le_self_of_isFinite := le_self_of_isFinite }

namespace WeightVector

variable {α : Type} [Scalar α]

/-- Whether a vector was made of weights of different terms. -/
def IsBuilt (v : WeightVector α) : Prop :=
  ∃ weights, (weights.map Prod.fst).Nodup ∧ ofWeights weights = v

/-- A weight that is kept is zero, or positive and finite. -/
theorem sanitize_cases (weight : α) :
    sanitize weight = Scalar.zero ∨
      Scalar.isFinite (sanitize weight) = true ∧ Scalar.zero < sanitize weight := by
  unfold sanitize
  split
  · rename_i hkept
    rw [Bool.and_eq_true, decide_eq_true_eq] at hkept
    exact .inr hkept
  · exact .inl rfl

/-- Weights of different terms are kept in their order. -/
theorem toList_ofWeights {weights : List (String × α)} (hnodup : (weights.map Prod.fst).Nodup) :
    (ofWeights weights).toList = weights.map fun entry => (entry.1, sanitize entry.2) := by
  refine KeyedList.entries_ofList ?_
  rw [List.map_map]
  exact hnodup

/-- The norm is that of the listed weights. -/
theorem IsBuilt.norm_eq {v : WeightVector α} (h : v.IsBuilt) :
    v.norm = Scalar.sqrt (addSquares Scalar.zero (v.toList.map Prod.snd)) := by
  obtain ⟨weights, hnodup, rfl⟩ := h
  rw [toList_ofWeights hnodup]
  rfl

theorem addSquares_eq_zero [WeightArithmetic α] {weights : List α}
    (h : ∀ weight ∈ weights, weight = Scalar.zero) :
    addSquares Scalar.zero weights = Scalar.zero := by
  induction weights with
  | nil => rfl
  | cons weight rest ih =>
    obtain ⟨rfl, hrest⟩ := List.forall_mem_cons.1 h
    rw [addSquares, List.foldl_cons, WeightArithmetic.zero_add_square]
    exact ih hrest

/-- Of different terms with weights, a vector that is not zero has one whose weight is positive. -/
theorem exists_pos_of_isZero_eq_false [WeightArithmetic α] {weights : List (String × α)}
    (hnodup : (weights.map Prod.fst).Nodup) (hzero : (ofWeights weights).isZero = false) :
    ∃ entry ∈ (ofWeights weights).toList, entry.2 ≤ entry.2 ∧ Scalar.zero < entry.2 := by
  let kept := weights.map fun entry => (entry.1, sanitize entry.2)
  have hkept : (ofWeights weights).toList = kept := toList_ofWeights hnodup
  by_contra hnone
  -- Otherwise all weights are zero, and so is the norm.
  have hall : ∀ weight ∈ kept.map Prod.snd, weight = Scalar.zero := by
    intro weight hweight
    obtain ⟨entry, hentry, rfl⟩ := List.mem_map.1 hweight
    obtain ⟨source, -, rfl⟩ := List.mem_map.1 hentry
    rcases sanitize_cases source.2 with heq | ⟨hfinite, hpos⟩
    · exact heq
    · exact absurd ⟨_, hkept ▸ hentry, WeightArithmetic.le_self_of_isFinite hfinite, hpos⟩ hnone
  have hnorm : (ofWeights weights).norm = Scalar.sqrt Scalar.zero :=
    congrArg Scalar.sqrt (addSquares_eq_zero hall)
  rw [isZero, hnorm, WeightArithmetic.sqrt_zero] at hzero
  cases hzero

section

variable [ScoreOrder α] {vector : WeightVector α} {n : ℕ}

/-- The keywords are the first terms of positive weight, by descending weight. -/
theorem topTerms_eq (vector : WeightVector α) (n : ℕ) :
    vector.topTerms n = ((((vector.toList.filter fun entry => decide (Scalar.zero < entry.2)).filter
      fun entry => entry.2 ≤ entry.2).mergeSort fun a b => b.2 ≤ a.2).take n).map Prod.fst := by
  rw [topTerms, ← RankedList.map_fst_toList, RankedList.toList_addAll_empty]
  exact vector.weights.nodup_keys.sublist (List.filter_sublist.map _)

theorem topTerms_zero (vector : WeightVector α) : vector.topTerms 0 = [] := by
  rw [topTerms_eq, List.take_zero, List.map_nil]

/-- A vector with a positive weight has a heaviest term. -/
theorem topTerms_ne_nil
    (h : ∃ entry ∈ vector.toList, entry.2 ≤ entry.2 ∧ Scalar.zero < entry.2) (hn : 1 ≤ n) :
    vector.topTerms n ≠ [] := by
  obtain ⟨entry, hentry, hself, hpos⟩ := h
  have hlisted : entry ∈ (vector.toList.filter fun entry => decide (Scalar.zero < entry.2)).filter
      fun entry => entry.2 ≤ entry.2 := by
    simp [hentry, hself, hpos]
  rw [topTerms_eq, ne_eq, List.map_eq_nil_iff, List.take_eq_nil_iff, not_or]
  exact ⟨Nat.ne_of_gt hn, List.ne_nil_of_mem (List.mem_mergeSort.2 hlisted)⟩

end

end WeightVector

namespace TermBag

variable {α : Type} [Scalar α] {bag : TermBag} {u : Universe} {vector : WeightVector α}

/-- The weights of counted terms are those of different terms. -/
theorem isBuilt_of_weighted_eq_ok (h : bag.weighted u = .ok vector) : vector.IsBuilt := by
  have hfit : bag.documentCount ≤ u.documentCount := exists_weighted_eq_ok_iff.1 ⟨vector, h⟩
  rw [weighted, if_neg (Nat.not_lt.2 hfit), Except.ok.injEq] at h
  refine ⟨_, ?_, h⟩
  rw [List.map_map]
  exact bag.terms.nodup_keys

/-- The weights that are kept, in the order of the counts. -/
theorem toList_eq_map_sanitize (h : bag.weighted u = .ok vector) :
    vector.toList = bag.toList.map fun entry =>
      (entry.1, WeightVector.sanitize (weightIn u entry.1 entry.2)) := by
  have hfit : bag.documentCount ≤ u.documentCount := exists_weighted_eq_ok_iff.1 ⟨vector, h⟩
  rw [weighted, if_neg (Nat.not_lt.2 hfit), Except.ok.injEq] at h
  have hnodup : ((bag.toList.map fun entry =>
      (entry.1, (weightIn u entry.1 entry.2 : α))).map Prod.fst).Nodup := by
    rw [List.map_map]
    exact bag.terms.nodup_keys
  rw [← h, WeightVector.toList_ofWeights hnodup, List.map_map]
  rfl

/-- Counted terms whose weights are not all zero have keywords. -/
theorem topTerms_ne_nil_of_weighted [ScoreOrder α] [WeightArithmetic α]
    (h : bag.weighted u = .ok vector) (hzero : vector.isZero = false) {n : ℕ} (hn : 1 ≤ n) :
    vector.topTerms n ≠ [] := by
  obtain ⟨weights, hnodup, rfl⟩ := isBuilt_of_weighted_eq_ok h
  exact WeightVector.topTerms_ne_nil (WeightVector.exists_pos_of_isZero_eq_false hnodup hzero) hn

end TermBag

end NewsScoring
