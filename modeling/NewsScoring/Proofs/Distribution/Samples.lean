import Mathlib.Algebra.Order.Floor.Semiring
import Mathlib.Data.List.GetD
import Mathlib.Tactic.Linarith
import NewsScoring.Distribution.Samples
import NewsScoring.Proofs.Bisect
import NewsScoring.Proofs.Distribution.Sorted

/-!
# The checkpoints of samples

Sorted samples are heights at the positions 0, 1, 2 and so on, and the value at a percentile is the
height of the line through them at the position of the percentile (`percentileOfSorted_ofReal`).
The line never descends (`between_mono`), so the checkpoints that samples are given would be
accepted if they had been stored (`ofCheckpoints_distribution`).
-/

namespace NewsScoring

namespace Samples

open Exact

/-! ### Samples in order -/

theorem sortsBefore_trans (x y z : Exact) (hxy : Scalar.sortsBefore x y = true)
    (hyz : Scalar.sortsBefore y z = true) : Scalar.sortsBefore x z = true := by
  cases x with
  | nan =>
    cases y with
    | nan => exact hyz
    | number y => cases hxy
  | number x =>
    cases z with
    | nan => rfl
    | number z =>
      cases y with
      | nan => cases hyz
      | number y => exact decide_eq_true ((of_decide_eq_true hxy).trans (of_decide_eq_true hyz))

theorem sortsBefore_total (x y : Exact) :
    (Scalar.sortsBefore x y || Scalar.sortsBefore y x) = true := by
  rw [Bool.or_eq_true]
  cases x with
  | nan =>
    cases y with
    | nan => exact .inl rfl
    | number y => exact .inr rfl
  | number x =>
    cases y with
    | nan => exact .inl rfl
    | number y => exact (le_total x y).imp decide_eq_true decide_eq_true

/-- The samples in ascending order, as real numbers. -/
noncomputable def heights (samples : Samples Exact) : List ℝ :=
  samples.sorted.map Exact.toReal

theorem isFinite_of_mem_sorted {α : Type} [Scalar α] {values : List α} {x : α}
    (h : x ∈ (ofList values).sorted) : Scalar.isFinite x = true := by
  rw [sorted, List.mem_mergeSort, ofList, List.mem_filter] at h
  exact h.2

theorem sorted_ofList (values : List Exact) :
    (ofList values).sorted = (ofList values).heights.map ofReal := by
  rw [heights, List.map_map]
  refine (List.map_id _).symm.trans (List.map_congr_left fun x hx => ?_)
  exact eq_ofReal_toReal (isFinite_of_mem_sorted hx)

theorem pairwise_heights (values : List Exact) : (ofList values).heights.Pairwise (· ≤ ·) := by
  have hsorted : (ofList values).sorted.Pairwise fun a b => Scalar.sortsBefore a b = true :=
    List.pairwise_mergeSort sortsBefore_trans sortsBefore_total _
  rw [sorted_ofList, List.pairwise_map] at hsorted
  exact hsorted.imp fun h => by simpa [Scalar.sortsBefore, ofReal] using h

/-! ### The line through heights -/

/-- The height at an index; behind the last height, the last one. -/
noncomputable def heightAt (heights : List ℝ) (i : ℕ) : ℝ :=
  heights.getD (min i (heights.length - 1)) 0

theorem heightAt_of_lt {heights : List ℝ} {i : ℕ} (hi : i < heights.length) :
    heightAt heights i = heights[i] := by
  have hmin : min i (heights.length - 1) = i := by omega
  rw [heightAt, hmin, List.getD_eq_getElem _ _ hi]

theorem heightAt_mono {heights : List ℝ} (h : heights.Pairwise (· ≤ ·)) :
    Monotone (heightAt heights) := by
  intro i j hij
  rcases heights.eq_nil_or_concat with rfl | hne
  · exact le_rfl
  · have hpos : 0 < heights.length := by
      obtain ⟨front, last, rfl⟩ := hne
      simp
    have hi : min i (heights.length - 1) < heights.length := by omega
    have hj : min j (heights.length - 1) < heights.length := by omega
    rw [heightAt, heightAt, List.getD_eq_getElem _ _ hi, List.getD_eq_getElem _ _ hj]
    rcases Nat.eq_or_lt_of_le (min_le_min_right (heights.length - 1) hij) with heq | hlt
    · exact (getElem_congr_idx heq).le
    · exact List.pairwise_iff_getElem.1 h _ _ hi hj hlt

/-- The height at a position on the line through a sequence of heights. -/
noncomputable def between (height : ℕ → ℝ) (t : ℝ) : ℝ :=
  height ⌊t⌋₊ + (t - ⌊t⌋₊) * (height (⌊t⌋₊ + 1) - height ⌊t⌋₊)

section

variable {height : ℕ → ℝ} {s t : ℝ}

theorem le_between (h : Monotone height) (ht : 0 ≤ t) : height ⌊t⌋₊ ≤ between height t := by
  have hrise : 0 ≤ height (⌊t⌋₊ + 1) - height ⌊t⌋₊ := sub_nonneg.2 (h (Nat.le_succ _))
  have hpart := mul_nonneg (sub_nonneg.2 (Nat.floor_le ht)) hrise
  rw [between]
  linarith

theorem between_le (h : Monotone height) (t : ℝ) : between height t ≤ height (⌊t⌋₊ + 1) := by
  have hrise : 0 ≤ height (⌊t⌋₊ + 1) - height ⌊t⌋₊ := sub_nonneg.2 (h (Nat.le_succ _))
  have hpart : t - ⌊t⌋₊ ≤ 1 := by
    have := Nat.lt_floor_add_one t
    linarith
  have hle := mul_le_mul_of_nonneg_right hpart hrise
  rw [between]
  linarith

/-- The line through heights that never descend does not descend. -/
theorem between_mono (h : Monotone height) (hs : 0 ≤ s) (hst : s ≤ t) :
    between height s ≤ between height t := by
  rcases Nat.eq_or_lt_of_le (Nat.floor_mono hst) with heq | hlt
  · -- Both positions lie between the same two heights.
    have hrise : 0 ≤ height (⌊t⌋₊ + 1) - height ⌊t⌋₊ := sub_nonneg.2 (h (Nat.le_succ _))
    have hpart := mul_le_mul_of_nonneg_right (sub_le_sub_right hst (⌊t⌋₊ : ℝ)) hrise
    rw [between, between, heq]
    linarith
  · calc between height s ≤ height (⌊s⌋₊ + 1) := between_le h s
      _ ≤ height ⌊t⌋₊ := h hlt
      _ ≤ between height t := le_between h (hs.trans hst)

end

/-! ### Values at percentiles -/

section

variable {heights : List ℝ} {t : ℝ}

theorem lowerIndex_ofReal (t : ℝ) : lowerIndex (ofReal t) = ⌊t⌋₊ := by
  show ⌊(ofReal t).toReal⌋₊ = _
  rw [toReal_ofReal]

theorem upperIndex_ofReal (t : ℝ) :
    upperIndex (ofReal t) = if (⌊t⌋₊ : ℝ) = t then ⌊t⌋₊ else ⌊t⌋₊ + 1 := by
  have hfloor : Scalar.floor (ofReal t) = ⌊t⌋₊ := lowerIndex_ofReal t
  rw [upperIndex, hfloor, ofNat_eq]
  simp only [equals_ofReal]

theorem position_ofReal {p : ℝ} (hp : 0 ≤ p) (hp' : p ≤ 100) (count : ℕ) :
    position count (ofReal p) = ofReal (p / 100 * (count - 1 : ℕ)) := by
  have hclamp : Distribution.clampPercentile (ofReal p) = ofReal p :=
    Distribution.clampPercentile_ofReal hp hp'
  rw [position, hclamp, ofNat_eq, ofNat_eq, ofReal_div (by norm_num), ofReal_mul]
  norm_num

/-- A position from the first element to the last has elements on both sides. -/
theorem indices_lt {count : ℕ} (hcount : 0 < count) (ht : 0 ≤ t) (hlast : t ≤ (count - 1 : ℕ)) :
    lowerIndex (ofReal t) < count ∧ upperIndex (ofReal t) < count := by
  have hfloor : ⌊t⌋₊ ≤ count - 1 := Nat.floor_le_of_le hlast
  rw [lowerIndex_ofReal, upperIndex_ofReal]
  constructor
  · omega
  · split
    · omega
    · rename_i hwhole
      -- The position is not whole, and so strictly before the last element.
      have hlt : (⌊t⌋₊ : ℝ) < (count - 1 : ℕ) := ((Nat.floor_le ht).lt_of_ne hwhole).trans_le hlast
      have := Nat.cast_lt.1 hlt
      omega

/-- Whatever percentile is asked for, its position has elements on both sides. -/
theorem indices_position_lt {count : ℕ} (hcount : 0 < count) (p : Exact) :
    lowerIndex (position count p) < count ∧ upperIndex (position count p) < count := by
  obtain ⟨r, hr, hzero, hle⟩ := Distribution.exists_clampPercentile_eq p
  have hposition : position count p = ofReal (r / 100 * (count - 1 : ℕ)) := by
    rw [← position_ofReal hzero hle, position, position, hr,
      Distribution.clampPercentile_ofReal hzero hle]
  have hshare : r / 100 ≤ 1 := by linarith
  rw [hposition]
  exact indices_lt hcount (by positivity) (mul_le_of_le_one_left (Nat.cast_nonneg _) hshare)

/-- The value at a percentile is the height of the line at its position. -/
theorem percentileOfSorted_ofReal {p : ℝ} (hp : 0 ≤ p) (hp' : p ≤ 100)
    (hlength : 0 < heights.length) :
    percentileOfSorted (heights.map ofReal) (ofReal p) =
      some (ofReal (between (heightAt heights) (p / 100 * (heights.length - 1 : ℕ)))) := by
  have hposition : position (heights.map ofReal).length (ofReal p) =
      ofReal (p / 100 * (heights.length - 1 : ℕ)) := by
    rw [position_ofReal hp hp', List.length_map]
  have hget : ∀ i < heights.length,
      (heights.map ofReal)[i]? = some (ofReal (heightAt heights i)) := by
    intro i hi
    rw [List.getElem?_map, List.getElem?_eq_getElem hi, heightAt_of_lt hi, Option.map_some]
  have hlast : p / 100 * (heights.length - 1 : ℕ) ≤ (heights.length - 1 : ℕ) :=
    mul_le_of_le_one_left (Nat.cast_nonneg _) (by linarith)
  have hfirst : 0 ≤ p / 100 * (heights.length - 1 : ℕ) := by positivity
  rw [percentileOfSorted, hposition]
  generalize p / 100 * ((heights.length - 1 : ℕ) : ℝ) = t at hlast hfirst
  obtain ⟨hlower, hupper⟩ := indices_lt hlength hfirst hlast
  rw [lowerIndex_ofReal] at hlower
  simp only [lowerIndex_ofReal, upperIndex_ofReal, hget ⌊t⌋₊ hlower, ofNat_eq]
  by_cases hwhole : (⌊t⌋₊ : ℝ) = t
  · have hbetween : between (heightAt heights) t = heightAt heights ⌊t⌋₊ := by
      rw [between, hwhole, sub_self, zero_mul, add_zero]
    simp [hwhole, hbetween, hget ⌊t⌋₊ hlower]
  · -- The position lies strictly between two samples.
    have hlt : ⌊t⌋₊ + 1 < heights.length := by
      rwa [upperIndex_ofReal, if_neg hwhole] at hupper
    simp [hwhole, hget _ hlt, Distribution.interpolate, between]

end

/-! ### Checkpoints -/

/-- The rank of a percentile among `count` samples, of which the least has the rank zero. -/
noncomputable def rank (count percentile : ℕ) : ℝ :=
  percentile / 100 * (count - 1 : ℕ)

theorem rank_nonneg (count percentile : ℕ) : 0 ≤ rank count percentile := by
  unfold rank
  positivity

theorem rank_le {count percentile : ℕ} (hpercentile : percentile ≤ 100) :
    rank count percentile ≤ (count - 1 : ℕ) := by
  have hshare : (percentile : ℝ) / 100 ≤ 1 := by
    rw [div_le_one (by norm_num)]
    exact_mod_cast hpercentile
  exact mul_le_of_le_one_left (Nat.cast_nonneg _) hshare

/-- The value at a whole percentile of samples with the given heights. -/
noncomputable def heightAtPercentile (heights : List ℝ) (percentile : ℕ) : ℝ :=
  between (heightAt heights) (percentile / 100 * (heights.length - 1 : ℕ))

theorem heightAtPercentile_mono {heights : List ℝ} (h : heights.Pairwise (· ≤ ·)) :
    Monotone (heightAtPercentile heights) := by
  intro i j hij
  have hle : (i : ℝ) / 100 ≤ j / 100 := by
    have := Nat.cast_le (α := ℝ).2 hij
    linarith
  exact between_mono (heightAt_mono h) (by positivity)
    (mul_le_mul_of_nonneg_right hle (Nat.cast_nonneg _))

/-- The number of samples up to a value. -/
noncomputable def countUpTo (heights : List ℝ) (value : ℝ) : ℕ :=
  bisect (fun sample => decide (sample ≤ ofReal value)) (heights.map ofReal)

/-- The samples up to a value come before all others. -/
theorem comesFirst_le {heights : List ℝ} (h : heights.Pairwise (· ≤ ·)) (value : ℝ) :
    ComesFirst (fun sample => decide (sample ≤ ofReal value)) (heights.map ofReal) := by
  apply comesFirst_of_pairwise
  apply List.pairwise_map.2
  apply h.imp
  intro a b hab hb
  rw [decide_eq_true_eq, ofReal_le] at hb ⊢
  exact hab.trans hb

theorem countUpTo_eq_countP {heights : List ℝ} (h : heights.Pairwise (· ≤ ·)) (value : ℝ) :
    countUpTo heights value = (heights.map ofReal).countP (· ≤ ofReal value) :=
  bisect_eq_countP (comesFirst_le h value)

theorem countUpTo_le_length {heights : List ℝ} (h : heights.Pairwise (· ≤ ·)) (value : ℝ) :
    countUpTo heights value ≤ heights.length := by
  rw [countUpTo_eq_countP h]
  exact List.countP_le_length.trans (List.length_map _).le

/-- The checkpoint at a whole percentile of samples with the given heights. -/
noncomputable def checkpointOf (heights : List ℝ) (percentile : ℕ) : Checkpoint Exact where
  percentile := percentile
  value := ofReal (heightAtPercentile heights percentile)
  count := countUpTo heights (heightAtPercentile heights percentile)

theorem checkpoint?_eq_some {heights : List ℝ} (hlength : 0 < heights.length) {percentile : ℕ}
    (hpercentile : percentile ≤ 100) :
    checkpoint? (heights.map ofReal) percentile = some (checkpointOf heights percentile) := by
  have hvalue : percentileOfSorted (heights.map ofReal) (ofReal percentile) =
      some (ofReal (heightAtPercentile heights percentile)) :=
    percentileOfSorted_ofReal (Nat.cast_nonneg percentile) (by exact_mod_cast hpercentile) hlength
  rw [checkpoint?, ofNat_eq, hvalue]
  rfl

/-- No samples have no checkpoints, and others have one at each percentile up to 100. -/
theorem checkpoints_distribution (values : List Exact) :
    (ofList values).distribution.checkpoints =
      if (ofList values).heights = [] then []
      else (List.range 101).map (checkpointOf (ofList values).heights) := by
  rw [distribution]
  dsimp only
  rw [sorted_ofList]
  split
  · rename_i hnil
    rw [hnil]
    exact List.filterMap_eq_nil_iff.2 fun _ _ => rfl
  · rename_i hne
    rw [← List.filterMap_eq_map (f := checkpointOf (ofList values).heights)]
    refine List.filterMap_congr fun percentile hmem => ?_
    exact checkpoint?_eq_some (List.length_pos_iff.2 hne)
      (Nat.le_of_lt_succ (List.mem_range.1 hmem))

theorem exists_of_mem_checkpoints {values : List Exact} {c : Checkpoint Exact}
    (h : c ∈ (ofList values).distribution.checkpoints) :
    ∃ percentile ≤ 100, checkpointOf (ofList values).heights percentile = c := by
  rw [checkpoints_distribution] at h
  split at h
  · cases h
  · obtain ⟨percentile, hmem, heq⟩ := List.mem_map.1 h
    exact ⟨percentile, Nat.le_of_lt_succ (List.mem_range.1 hmem), heq⟩

theorem sampleCount_distribution (values : List Exact) :
    (ofList values).distribution.sampleCount = (ofList values).heights.length := by
  rw [heights, List.length_map]
  rfl

/-- The checkpoints of samples would be accepted if they had been stored. -/
theorem ofCheckpoints_distribution (values : List Exact) :
    Distribution.ofCheckpoints (ofList values).distribution.sampleCount
      (ofList values).distribution.checkpoints = .ok (ofList values).distribution := by
  rw [Distribution.ofCheckpoints_eq_ok_iff, Distribution.orderDefect?_eq_none_iff]
  refine ⟨?_, fun c hc => ?_, rfl⟩
  · rw [checkpoints_distribution]
    split
    · exact .nil
    · refine List.Pairwise.isChain (List.pairwise_map.2 (List.pairwise_lt_range.imp ?_))
      intro a b hab
      refine ⟨hab, ?_⟩
      show ¬ofReal _ < ofReal _
      rw [ofReal_lt, not_lt]
      exact heightAtPercentile_mono (pairwise_heights values) hab.le
  · obtain ⟨percentile, hle, rfl⟩ := exists_of_mem_checkpoints hc
    exact Distribution.isSound_iff.2 ⟨hle, isFinite_ofReal⟩

end Samples

/-! ### Distributions that there are -/

/-- A distribution whose checkpoints were accepted, or that of samples. -/
inductive Distribution.IsObtainable : Distribution Exact → Prop where
  | ofCheckpoints {n : ℕ} {checkpoints : List (Checkpoint Exact)} {d : Distribution Exact}
    (h : Distribution.ofCheckpoints n checkpoints = .ok d) : IsObtainable d
  | samples (values : List Exact) : IsObtainable (Samples.ofList values).distribution

theorem Distribution.IsObtainable.isSorted {d : Distribution Exact} (h : d.IsObtainable) :
    d.IsSorted := by
  cases h with
  | ofCheckpoints h => exact isSorted_of_ofCheckpoints_eq_ok h
  | samples values =>
    exact isSorted_of_ofCheckpoints_eq_ok (Samples.ofCheckpoints_distribution values)

end NewsScoring
