import NewsScoring.Proofs.Distribution.Acceptance
import NewsScoring.Proofs.Scalar.Exact

/-!
# Checkpoints as points

Checkpoints that `ofCheckpoints` accepts have percentiles up to 100, each above the one before it,
and real values, none below the one before it (`isSorted_of_ofCheckpoints_eq_ok`).  The lemmas read
them as points, of which `position` and `height` are the coordinates.
-/

namespace NewsScoring.Distribution

/-- Whether percentiles ascend up to 100, and values are real and never descend. -/
structure IsSorted (d : Distribution Exact) : Prop where
  percentile_lt : d.checkpoints.Pairwise fun a b => a.percentile < b.percentile
  value_le : d.checkpoints.Pairwise fun a b => a.value.toReal ≤ b.value.toReal
  percentile_le : ∀ c ∈ d.checkpoints, c.percentile ≤ 100
  value_eq : ∀ c ∈ d.checkpoints, c.value = .ofReal c.value.toReal

theorem isSorted_of_ofCheckpoints_eq_ok {n : ℕ} {checkpoints : List (Checkpoint Exact)}
    {d : Distribution Exact} (h : ofCheckpoints n checkpoints = .ok d) : d.IsSorted := by
  obtain ⟨hwell, rfl⟩ := ofCheckpoints_eq_ok_iff_areWellFormed.1 h
  have hreal : ∀ c ∈ checkpoints, c.value = .ofReal c.value.toReal :=
    fun c hc => Exact.eq_ofReal_toReal (hwell.isFinite_value c hc)
  refine ⟨hwell.percentile_lt, ?_, hwell.percentile_le, hreal⟩
  refine hwell.value_le.imp_of_mem fun {a b} ha hb hab => ?_
  rwa [hreal a ha, hreal b hb, Exact.ofReal_le] at hab

/-! ### Points -/

theorem clampPercentile_ofReal {p : ℝ} (hzero : 0 ≤ p) (hhundred : p ≤ 100) :
    clampPercentile (.ofReal p) = Exact.ofReal p := by
  have hnumber : Scalar.isNaN (Exact.ofReal p) = false := by simp [Scalar.isNaN]
  rw [clampPercentile, hnumber, if_neg Bool.false_ne_true]
  exact Exact.clamp_eq_self (by simpa using hzero) (by simpa using hhundred)

open Exact in
/-- Whatever percentile is asked for, one between 0 and 100 is meant. -/
theorem exists_clampPercentile_eq (p : Exact) :
    ∃ r, clampPercentile p = ofReal r ∧ 0 ≤ r ∧ r ≤ 100 := by
  have hhundred : (Scalar.ofNat 100 : Exact) = ofReal 100 := by simp
  cases p with
  | nan =>
    have hnot : ¬(Exact.nan ≤ Exact.nan) := fun h => h
    refine ⟨0, ?_, le_rfl, by norm_num⟩
    rw [clampPercentile, if_pos (by simp [Scalar.isNaN, hnot]), zero_eq]
  | number y =>
    have hself : number y ≤ number y := le_refl y
    have hclamp : clampPercentile (number y) = number (max (0 : ℝ) (min (100 : ℝ) y)) := by
      rw [clampPercentile, if_neg (by simp [Scalar.isNaN, hself]), zero_eq, hhundred]
      exact clamp_number (by norm_num) y
    rw [hclamp]
    apply exists_eq_ofReal
    · exact le_max_left ((0 : ℝ) : EReal) _
    · exact max_le (EReal.coe_le_coe_iff.2 (by norm_num)) (min_le_left ((100 : ℝ) : EReal) _)

variable {d : Distribution Exact} {last : Checkpoint Exact} {i j : ℕ}

/-- The percentile of a checkpoint, given by its index; behind the last checkpoint, that of the
last. -/
noncomputable def position (d : Distribution Exact) (last : Checkpoint Exact) (i : ℕ) : ℝ :=
  (d.checkpointAt last i).percentile

/-- The value of a checkpoint, given by its index; behind the last checkpoint, that of the last. -/
noncomputable def height (d : Distribution Exact) (last : Checkpoint Exact) (i : ℕ) : ℝ :=
  (d.checkpointAt last i).value.toReal

theorem checkpointAt_of_lt (hi : i < d.checkpoints.length) :
    d.checkpointAt last i = d.checkpoints[i] := by
  rw [checkpointAt, List.getElem?_eq_getElem hi]
  rfl

theorem checkpointAt_zero {first : Checkpoint Exact} (hfirst : d.checkpoints.head? = some first) :
    d.checkpointAt last 0 = first := by
  rw [checkpointAt, ← List.head?_eq_getElem?, hfirst]
  rfl

theorem checkpointAt_length_sub_one (hlast : d.checkpoints.getLast? = some last) :
    d.checkpointAt last (d.checkpoints.length - 1) = last := by
  rw [checkpointAt, ← List.getLast?_eq_getElem?, hlast]
  rfl

theorem length_pos (hlast : d.checkpoints.getLast? = some last) : 0 < d.checkpoints.length :=
  List.length_pos_of_mem (List.mem_of_getLast? hlast)

theorem ofNat_percentile_first {first : Checkpoint Exact}
    (hfirst : d.checkpoints.head? = some first) :
    (Scalar.ofNat first.percentile : Exact) = .ofReal (d.position last 0) := by
  rw [position, checkpointAt_zero hfirst]
  rfl

theorem ofNat_percentile_last (hlast : d.checkpoints.getLast? = some last) :
    (Scalar.ofNat last.percentile : Exact) =
      .ofReal (d.position last (d.checkpoints.length - 1)) := by
  rw [position, checkpointAt_length_sub_one hlast]
  rfl

namespace IsSorted

theorem value_checkpointAt (h : d.IsSorted) (hi : i < d.checkpoints.length) :
    (d.checkpointAt last i).value = .ofReal (d.height last i) := by
  rw [height, checkpointAt_of_lt hi]
  exact h.value_eq _ (List.getElem_mem hi)

theorem position_le_hundred (h : d.IsSorted) (hi : i < d.checkpoints.length) :
    d.position last i ≤ 100 := by
  rw [position, checkpointAt_of_lt hi]
  exact_mod_cast h.percentile_le _ (List.getElem_mem hi)

theorem position_lt (h : d.IsSorted) (hij : i < j) (hj : j < d.checkpoints.length) :
    d.position last i < d.position last j := by
  rw [position, position, checkpointAt_of_lt (hij.trans hj), checkpointAt_of_lt hj]
  exact_mod_cast List.pairwise_iff_getElem.1 h.percentile_lt i j (hij.trans hj) hj hij

theorem position_le (h : d.IsSorted) (hij : i ≤ j) (hj : j < d.checkpoints.length) :
    d.position last i ≤ d.position last j := by
  rcases Nat.eq_or_lt_of_le hij with rfl | hij
  · exact le_rfl
  · exact (h.position_lt hij hj).le

/-- The distance between the percentiles of a checkpoint and the next. -/
theorem ofNat_percentile_sub (h : d.IsSorted) (hi : i + 1 < d.checkpoints.length) :
    (Scalar.ofNat ((d.checkpointAt last (i + 1)).percentile - (d.checkpointAt last i).percentile) :
      Exact) = .ofReal (d.position last (i + 1) - d.position last i) := by
  have hle : (d.checkpointAt last i).percentile ≤ (d.checkpointAt last (i + 1)).percentile := by
    have hlt : d.position last i < d.position last (i + 1) := h.position_lt (Nat.lt_succ_self i) hi
    exact Nat.cast_le.1 hlt.le
  rw [Exact.ofNat_eq, Nat.cast_sub hle]
  rfl

theorem height_le (h : d.IsSorted) (hij : i ≤ j) (hj : j < d.checkpoints.length) :
    d.height last i ≤ d.height last j := by
  rcases Nat.eq_or_lt_of_le hij with rfl | hij
  · exact le_rfl
  · rw [height, height, checkpointAt_of_lt (hij.trans hj), checkpointAt_of_lt hj]
    exact List.pairwise_iff_getElem.1 h.value_le i j (hij.trans hj) hj hij

end IsSorted

end NewsScoring.Distribution
