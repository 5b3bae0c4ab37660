import NewsScoring.Proofs.Distribution.Samples

/-!
# Checkpoints as order statistics

The value at a whole percentile is an order statistic of the samples: at the rank that is the
percentile's share of all ranks, from the least sample at 0 to the greatest at 100.  Between two
ranks it lies between the samples of these ranks, so that it has enough samples at or below it, and
not too many strictly below.  What a distribution has to say of its samples is stated once
(`IsSummary`), of the samples in any order; the distribution of gathered samples says it
(`isSummary_foldl_add`), and does not depend on the order in which they came
(`distribution_congr_of_perm`).
-/

namespace NewsScoring

/-- An order of samples in which two different finite numbers never stand before each other. -/
class SampleOrder (α : Type) [Scalar α] : Prop where
  trans : ∀ x y z : α, Scalar.sortsBefore x y = true → Scalar.sortsBefore y z = true →
    Scalar.sortsBefore x z = true
  total : ∀ x y : α, (Scalar.sortsBefore x y || Scalar.sortsBefore y x) = true
  antisymm : ∀ {x y : α}, Scalar.isFinite x = true → Scalar.isFinite y = true →
    Scalar.sortsBefore x y = true → Scalar.sortsBefore y x = true → x = y

/-- Real numbers are in the order of their size. -/
instance : SampleOrder Exact where
  trans := Samples.sortsBefore_trans
  total := Samples.sortsBefore_total
  antisymm := by
    intro x y hx hy hxy hyx
    rw [Exact.eq_ofReal_toReal hx, Exact.eq_ofReal_toReal hy] at hxy hyx ⊢
    have hle : x.toReal ≤ y.toReal := by simpa [Scalar.sortsBefore, Exact.ofReal] using hxy
    have hge : y.toReal ≤ x.toReal := by simpa [Scalar.sortsBefore, Exact.ofReal] using hyx
    rw [le_antisymm hle hge]

theorem eq_of_toBits_eq {x y : Float} (h : x.toBits = y.toBits) : x = y := by
  obtain ⟨bits, _⟩ := x
  obtain ⟨bits', _⟩ := y
  obtain rfl : bits = bits' := h
  rfl

/-- Each floating-point number has a position of its own, the two zeros among them. -/
theorem floatPosition_injective : Function.Injective floatPosition := by
  intro x y h
  apply eq_of_toBits_eq
  apply UInt64.toNat_inj.1
  unfold floatPosition at h
  dsimp only at h
  split at h <;> split at h <;> omega

/-- Floating-point numbers are in the order of their positions. -/
instance (log : Float → Float) : @SampleOrder Float (.float log) :=
  letI := Scalar.float log
  { trans := by
      intro x y z hxy hyz
      have hxy' : floatPosition x ≤ floatPosition y := of_decide_eq_true hxy
      have hyz' : floatPosition y ≤ floatPosition z := of_decide_eq_true hyz
      exact decide_eq_true (hxy'.trans hyz')
    total := by
      intro x y
      rw [Bool.or_eq_true]
      exact (le_total (floatPosition x) (floatPosition y)).imp decide_eq_true decide_eq_true
    antisymm := by
      intro x y _ _ hxy hyx
      have hxy' : floatPosition x ≤ floatPosition y := of_decide_eq_true hxy
      have hyx' : floatPosition y ≤ floatPosition x := of_decide_eq_true hyx
      exact floatPosition_injective (le_antisymm hxy' hyx') }

namespace Samples

open Exact

/-! ### Samples in any order -/

section

variable {α : Type} [Scalar α] {values other : List α}

/-- Samples that are added one after the other are the finite ones. -/
theorem foldl_add (samples : Samples α) (values : List α) :
    values.foldl add samples = ⟨samples.values ++ values.filter Scalar.isFinite⟩ := by
  induction values generalizing samples with
  | nil => simp
  | cons value rest ih =>
    rw [List.foldl_cons, ih, add]
    by_cases hfinite : Scalar.isFinite value = true
    · simp [hfinite]
    · simp [hfinite]

theorem foldl_add_empty (values : List α) : values.foldl add empty = ofList values := by
  rw [foldl_add, empty, List.nil_append, ofList]

/-- Sorted samples do not show in which order they came. -/
theorem sorted_congr_of_perm [SampleOrder α] (h : values.Perm other) :
    (ofList values).sorted = (ofList other).sorted := by
  have hperm : (ofList values).sorted.Perm (ofList other).sorted :=
    (List.mergeSort_perm _ _).trans ((h.filter _).trans (List.mergeSort_perm _ _).symm)
  apply hperm.eq_of_pairwise
  · intro x y hx hy hxy hyx
    exact SampleOrder.antisymm (isFinite_of_mem_sorted hx) (isFinite_of_mem_sorted hy) hxy hyx
  · exact List.pairwise_mergeSort SampleOrder.trans SampleOrder.total _
  · exact List.pairwise_mergeSort SampleOrder.trans SampleOrder.total _

theorem distribution_congr_of_perm [SampleOrder α] (h : values.Perm other) :
    (values.foldl add empty).distribution = (other.foldl add empty).distribution := by
  rw [foldl_add_empty, foldl_add_empty, distribution, distribution, sorted_congr_of_perm h]

end

/-! ### What checkpoints say of samples -/

/-- What a distribution says of the samples that it is made of. -/
structure IsSummary (samples : List Exact) (d : Distribution Exact) : Prop where
  sampleCount_eq : d.sampleCount = samples.length
  /-- There is one checkpoint for each whole percentile, in order. -/
  percentiles_eq : d.checkpoints.map Checkpoint.percentile = List.range 101
  value_le : d.checkpoints.Pairwise fun a b => a.value ≤ b.value
  /-- The value at percentile 0 is the least sample. -/
  least : ∀ c ∈ d.checkpoints, c.percentile = 0 → c.value ∈ samples ∧ ∀ x ∈ samples, c.value ≤ x
  /-- The value at percentile 100 is the greatest sample. -/
  greatest : ∀ c ∈ d.checkpoints, c.percentile = 100 →
    c.value ∈ samples ∧ ∀ x ∈ samples, x ≤ c.value
  /-- There are at least as many samples up to a value as samples up to its rank. -/
  floor_rank_lt : ∀ c ∈ d.checkpoints,
    ⌊rank samples.length c.percentile⌋₊ + 1 ≤ samples.countP (· ≤ c.value)
  /-- There are at most as many samples strictly below a value as samples before its rank. -/
  le_ceil_rank : ∀ c ∈ d.checkpoints,
    samples.countP (· < c.value) ≤ ⌈rank samples.length c.percentile⌉₊
  count_eq : ∀ c ∈ d.checkpoints, c.count = samples.countP (· ≤ c.value)

/-- What a distribution says of samples does not depend on their order. -/
theorem IsSummary.of_perm {samples other : List Exact} {d : Distribution Exact}
    (h : IsSummary samples d) (hperm : samples.Perm other) : IsSummary other d where
  sampleCount_eq := by rw [h.sampleCount_eq, hperm.length_eq]
  percentiles_eq := h.percentiles_eq
  value_le := h.value_le
  least c hc hzero := by
    obtain ⟨hmem, hle⟩ := h.least c hc hzero
    exact ⟨hperm.mem_iff.1 hmem, fun x hx => hle x (hperm.mem_iff.2 hx)⟩
  greatest c hc hhundred := by
    obtain ⟨hmem, hle⟩ := h.greatest c hc hhundred
    exact ⟨hperm.mem_iff.1 hmem, fun x hx => hle x (hperm.mem_iff.2 hx)⟩
  floor_rank_lt c hc := by
    rw [← hperm.length_eq, ← hperm.countP_eq]
    exact h.floor_rank_lt c hc
  le_ceil_rank c hc := by
    rw [← hperm.length_eq, ← hperm.countP_eq]
    exact h.le_ceil_rank c hc
  count_eq c hc := by
    rw [← hperm.countP_eq]
    exact h.count_eq c hc

/-! ### Ranks of heights -/

section

variable {heights : List ℝ} {percentile i : ℕ} {v t : ℝ}

/-- A height at a position is at most that of the next whole position. -/
theorem between_le_ceil {height : ℕ → ℝ} (h : Monotone height) (ht : 0 ≤ t) :
    between height t ≤ height ⌈t⌉₊ := by
  rcases (Nat.floor_le ht).eq_or_lt with hwhole | hlt
  · have hceil : ⌈t⌉₊ = ⌊t⌋₊ := by
      conv_lhs => rw [← hwhole]
      exact Nat.ceil_natCast _
    rw [between, hceil, hwhole, sub_self, zero_mul, add_zero]
  · exact (between_le h t).trans (h (Nat.lt_ceil.2 hlt))

theorem ofReal_heightAt_mem (hi : i < heights.length) :
    ofReal (heightAt heights i) ∈ heights.map ofReal := by
  rw [heightAt_of_lt hi]
  exact List.mem_map_of_mem (List.getElem_mem hi)

theorem exists_heightAt_of_mem {x : Exact} (hx : x ∈ heights.map ofReal) :
    ∃ i < heights.length, x = ofReal (heightAt heights i) := by
  obtain ⟨height, hheight, rfl⟩ := List.mem_map.1 hx
  obtain ⟨i, hi, rfl⟩ := List.getElem_of_mem hheight
  exact ⟨i, hi, by rw [heightAt_of_lt hi]⟩

theorem holdsAt_map_ofReal {q : Exact → Bool} (hi : i < heights.length) :
    holdsAt q (heights.map ofReal) i = q (ofReal (heightAt heights i)) := by
  rw [holdsAt, List.getElem?_map, List.getElem?_eq_getElem hi, heightAt_of_lt hi]
  rfl

/-- The samples below a value come before all others. -/
theorem comesFirst_lt (h : heights.Pairwise (· ≤ ·)) (value : ℝ) :
    ComesFirst (fun sample => decide (sample < ofReal value)) (heights.map ofReal) := by
  apply comesFirst_of_pairwise
  apply List.pairwise_map.2
  apply h.imp
  intro a b hab hb
  rw [decide_eq_true_eq, ofReal_lt] at hb ⊢
  exact hab.trans_lt hb

/-- A value that is not below a height has all heights up to that at or below it. -/
theorem lt_countP_le (h : heights.Pairwise (· ≤ ·)) (hi : i < heights.length)
    (hv : heightAt heights i ≤ v) : i < (heights.map ofReal).countP (· ≤ ofReal v) := by
  rw [← holdsAt_iff_lt_countP (comesFirst_le h v), holdsAt_map_ofReal hi, decide_eq_true_eq,
    ofReal_le]
  exact hv

/-- A value that is not above a height has only heights before that strictly below it. -/
theorem countP_lt_le (h : heights.Pairwise (· ≤ ·)) (hv : v ≤ heightAt heights i) :
    (heights.map ofReal).countP (· < ofReal v) ≤ i := by
  by_contra hlt
  have hholds := (holdsAt_iff_lt_countP (comesFirst_lt h v) i).2 (Nat.lt_of_not_le hlt)
  have hi : i < heights.length := by
    have hcount := List.countP_le_length (p := (· < ofReal v)) (l := heights.map ofReal)
    rw [List.length_map] at hcount
    omega
  rw [holdsAt_map_ofReal hi, decide_eq_true_eq, ofReal_lt] at hholds
  exact absurd hv (not_le.2 hholds)

theorem heightAtPercentile_zero (heights : List ℝ) :
    heightAtPercentile heights 0 = heightAt heights 0 := by
  simp [heightAtPercentile, between]

theorem heightAtPercentile_hundred (heights : List ℝ) :
    heightAtPercentile heights 100 = heightAt heights (heights.length - 1) := by
  have hall : ((100 : ℕ) : ℝ) / 100 = 1 := by norm_num
  rw [heightAtPercentile, hall, one_mul, between, Nat.floor_natCast, sub_self, zero_mul, add_zero]

end

/-! ### The distribution of samples -/

/-- The distribution of samples that are sorted already. -/
theorem isSummary_of_heights {heights : List ℝ} (h : heights.Pairwise (· ≤ ·)) (hne : heights ≠ [])
    {d : Distribution Exact} (hcount : d.sampleCount = heights.length)
    (hcheckpoints : d.checkpoints = (List.range 101).map (checkpointOf heights)) :
    IsSummary (heights.map ofReal) d := by
  have hlength : 0 < heights.length := List.length_pos_iff.2 hne
  have hmono : Monotone (heightAt heights) := heightAt_mono h
  have hof : ∀ c ∈ d.checkpoints, ∃ percentile ≤ 100, c = checkpointOf heights percentile := by
    intro c hc
    rw [hcheckpoints] at hc
    obtain ⟨percentile, hrange, rfl⟩ := List.mem_map.1 hc
    exact ⟨percentile, Nat.le_of_lt_succ (List.mem_range.1 hrange), rfl⟩
  constructor
  case sampleCount_eq => rw [hcount, List.length_map]
  case percentiles_eq =>
    rw [hcheckpoints, List.map_map]
    exact List.map_id _
  case value_le =>
    rw [hcheckpoints, List.pairwise_map]
    apply List.pairwise_lt_range.imp
    intro a b hab
    show ofReal _ ≤ ofReal _
    rw [ofReal_le]
    exact heightAtPercentile_mono h hab.le
  case least =>
    intro c hc hzero
    have hvalue : c.value = ofReal (heightAt heights 0) := by
      obtain ⟨percentile, -, rfl⟩ := hof c hc
      obtain rfl : percentile = 0 := hzero
      exact congrArg ofReal (heightAtPercentile_zero heights)
    rw [hvalue]
    refine ⟨ofReal_heightAt_mem hlength, ?_⟩
    intro x hx
    obtain ⟨i, -, rfl⟩ := exists_heightAt_of_mem hx
    exact ofReal_le.2 (hmono (Nat.zero_le i))
  case greatest =>
    intro c hc hhundred
    have hvalue : c.value = ofReal (heightAt heights (heights.length - 1)) := by
      obtain ⟨percentile, -, rfl⟩ := hof c hc
      obtain rfl : percentile = 100 := hhundred
      exact congrArg ofReal (heightAtPercentile_hundred heights)
    rw [hvalue]
    refine ⟨ofReal_heightAt_mem (by omega), ?_⟩
    intro x hx
    obtain ⟨i, hi, rfl⟩ := exists_heightAt_of_mem hx
    exact ofReal_le.2 (hmono (by omega))
  case floor_rank_lt =>
    intro c hc
    obtain ⟨percentile, hpercentile, rfl⟩ := hof c hc
    have hfloor : ⌊rank heights.length percentile⌋₊ ≤ heights.length - 1 :=
      Nat.floor_le_of_le (rank_le hpercentile)
    have hlt : ⌊rank heights.length percentile⌋₊ < heights.length := by omega
    rw [List.length_map]
    exact lt_countP_le h hlt (le_between hmono (rank_nonneg _ _))
  case le_ceil_rank =>
    intro c hc
    obtain ⟨percentile, -, rfl⟩ := hof c hc
    rw [List.length_map]
    exact countP_lt_le h (between_le_ceil hmono (rank_nonneg _ _))
  case count_eq =>
    intro c hc
    obtain ⟨percentile, -, rfl⟩ := hof c hc
    exact countUpTo_eq_countP h _

/-- The distribution of gathered samples says of the finite ones what it has to. -/
theorem isSummary_foldl_add {values : List Exact} (h : values.filter Scalar.isFinite ≠ []) :
    IsSummary (values.filter Scalar.isFinite) (values.foldl add empty).distribution := by
  have hperm : (ofList values).sorted.Perm (values.filter Scalar.isFinite) :=
    List.mergeSort_perm _ _
  have hne : (ofList values).heights ≠ [] := by
    intro hnil
    apply h
    have hsorted : (ofList values).sorted = [] := by rw [sorted_ofList, hnil, List.map_nil]
    rw [hsorted] at hperm
    exact hperm.nil_eq.symm
  rw [foldl_add_empty]
  rw [sorted_ofList] at hperm
  apply IsSummary.of_perm _ hperm
  apply isSummary_of_heights (pairwise_heights values) hne (sampleCount_distribution values)
  rw [checkpoints_distribution, if_neg hne]

/-- Samples that are gathered one after the other, in exact arithmetic, have order statistics as
their checkpoints.  Neither there nor in floating-point arithmetic does it matter in which order the
samples come. -/
theorem isSummary_distribution_and_perm :
    (∀ values : List Exact, values.filter Scalar.isFinite ≠ [] →
      IsSummary (values.filter Scalar.isFinite) (values.foldl add empty).distribution) ∧
    (∀ values other : List Exact, values.Perm other →
      (values.foldl add empty).distribution = (other.foldl add empty).distribution) ∧
    ∀ values other : List Float, values.Perm other →
      (values.foldl add empty).distribution = (other.foldl add empty).distribution := by
  refine ⟨?_, ?_, ?_⟩
  · intro values hfinite
    exact isSummary_foldl_add hfinite
  · intro values other hperm
    exact distribution_congr_of_perm hperm
  · intro values other hperm
    exact distribution_congr_of_perm hperm

/-- Three samples, with an infinite number and NaN among them. -/
noncomputable def unsorted : List Exact :=
  [.ofReal 50, .nan, .ofReal (-1), .number ⊤, .ofReal 5]

open scoped Classical in
theorem filter_isFinite_unsorted :
    unsorted.filter Scalar.isFinite = [.ofReal 50, .ofReal (-1), .ofReal 5] := by
  have hnan : Scalar.isFinite Exact.nan = false := rfl
  have htop : Scalar.isFinite (Exact.number ⊤) = false := by
    show decide (¬IsInfinite ⊤) = false
    simp [IsInfinite]
  simp [unsorted, hnan, htop]

/-- The checkpoints of `unsorted` are the order statistics of the three finite numbers in it, and
two floating-point numbers have one distribution in both orders. -/
theorem isSummary_distribution_and_perm_unsorted :
    (unsorted.filter Scalar.isFinite ≠ [] ∧
      IsSummary [.ofReal 50, .ofReal (-1), .ofReal 5] (unsorted.foldl add empty).distribution) ∧
    (unsorted.foldl add empty).distribution = (unsorted.reverse.foldl add empty).distribution ∧
    (([-0.0, 0.0] : List Float).foldl add empty).distribution =
      (([0.0, -0.0] : List Float).foldl add empty).distribution := by
  obtain ⟨hsummary, hexact, hfloat⟩ := isSummary_distribution_and_perm
  have hne : unsorted.filter Scalar.isFinite ≠ [] := by
    rw [filter_isFinite_unsorted]
    exact List.cons_ne_nil _ _
  refine ⟨⟨hne, ?_⟩, ?_, ?_⟩
  · rw [← filter_isFinite_unsorted]
    exact hsummary unsorted hne
  · exact hexact _ _ (List.reverse_perm unsorted).symm
  · exact hfloat _ _ (.swap _ _ _)

end Samples

end NewsScoring
