import NewsScoring.Proofs.Distribution.Monotone
import NewsScoring.Proofs.Distribution.Samples
import NewsScoring.Proofs.Outcome

/-!
# Queries whose steps are guarded

The queries of a distribution look up checkpoints by index, subtract percentiles and divide by
differences, and say nothing of indices that are out of range, of percentiles in the wrong order or
of differences that are zero.  Here are the same queries with a guard before each of these steps,
which fails where the step has no answer (`Fault`).  On every distribution that is obtainable, for
every argument, no guard fails, and guarded queries answer what queries answer
(`guarded_eq_and_error_iff`).  So does the guarded value at a percentile of a list of samples.
-/

namespace NewsScoring

/-- A step that has no answer. -/
inductive Fault where
  /-- There is no element at an index. -/
  | indexOutOfRange (index size : ℕ)
  /-- A number is not above the one that is subtracted from it. -/
  | differenceNotPositive (number subtracted : ℕ)
  /-- A number is divided by zero. -/
  | zeroDivisor
  deriving DecidableEq, Repr

/-! ### Guarded steps -/

section

variable {β : Type} {xs : List β} {i j : ℕ}

/-- The element at an index that is in range. -/
def guardedElement (xs : List β) (i : ℕ) : Except Fault β :=
  match xs[i]? with
  | some x => .ok x
  | none => .error (.indexOutOfRange i xs.length)

/-- The element before an index; there is none before the first. -/
def guardedElementBefore (xs : List β) (i : ℕ) : Except Fault β :=
  match i with
  | 0 => .error (.indexOutOfRange 0 xs.length)
  | i + 1 => guardedElement xs i

/-- The difference to a smaller number. -/
def guardedDifference (i j : ℕ) : Except Fault ℕ :=
  if j < i then .ok (i - j) else .error (.differenceNotPositive i j)

/-- The quotient by a number that is not zero. -/
def guardedQuotient {α : Type} [Scalar α] (x y : α) : Except Fault α :=
  if Scalar.equals y Scalar.zero then .error .zeroDivisor else .ok (x / y)

theorem guardedElement_eq_ok (hi : i < xs.length) : guardedElement xs i = .ok xs[i] := by
  unfold guardedElement
  rw [List.getElem?_eq_getElem hi]

theorem guardedDifference_eq_ok (h : j < i) : guardedDifference i j = .ok (i - j) := by
  unfold guardedDifference
  rw [if_pos h]

theorem guardedQuotient_ofReal (x : Exact) {y : ℝ} (hy : y ≠ 0) :
    guardedQuotient x (.ofReal y) = .ok (x / .ofReal y) := by
  have hnonzero : ¬Scalar.equals (Exact.ofReal y) Scalar.zero = true := by
    show ¬Scalar.equals (Exact.ofReal y) (Exact.ofReal (0 : ℕ)) = true
    rw [Exact.equals_ofReal, Nat.cast_zero]
    exact hy
  unfold guardedQuotient
  rw [if_neg hnonzero]

end

/-! ### Guarded queries -/

section

variable {α : Type} [Scalar α]

open Scalar

namespace Distribution

/-- The value at a percentile of a distribution with the given last checkpoint. -/
def guardedValueBefore (d : Distribution α) (last : Checkpoint α) (p : α) : Except Fault α :=
  let i := d.percentileIndex p
  match d.checkpoints[i]? with
  | none => .ok last.value
  | some top =>
    if i == 0 || equals (ofNat top.percentile) p then .ok top.value
    else do
      let bottom ← guardedElementBefore d.checkpoints i
      let width ← guardedDifference top.percentile bottom.percentile
      let ratio ← guardedQuotient (p - ofNat bottom.percentile) (ofNat width)
      return interpolate bottom.value top.value ratio

/-- The value at a percentile. -/
def guardedValueAt (d : Distribution α) (p : α) : Except Fault (Except ScoringError α) :=
  match d.checkpoints.getLast? with
  | none => .ok (.error .emptyDistribution)
  | some last => .ok <$> d.guardedValueBefore last (clampPercentile p)

/-- The percentile at which a value strictly between the ends is reached. -/
def guardedPercentileBetween (d : Distribution α) (x : α) : Except Fault α := do
  let i := d.valueIndex x
  let top ← guardedElement d.checkpoints i
  if equals top.value x then return ofNat top.percentile
  else
    let bottom ← guardedElementBefore d.checkpoints i
    let ratio ← guardedQuotient (x - bottom.value) (top.value - bottom.value)
    let width ← guardedDifference top.percentile bottom.percentile
    return ofNat bottom.percentile + ratio * ofNat width

/-- The percentile at which a value is reached, of a distribution with the given ends. -/
def guardedPercentileOf (d : Distribution α) (first last : Checkpoint α) (x : α) :
    Except Fault α :=
  if isNaN x || decide (x ≤ first.value) then .ok (ofNat first.percentile)
  else if last.value ≤ x then
    (fun top => ofNat top.percentile) <$>
      guardedElement d.checkpoints (d.valueIndex last.value)
  else d.guardedPercentileBetween x

/-- The quantile at which a value is reached. -/
def guardedQuantileOf (d : Distribution α) (x : α) : Except Fault (Except ScoringError α) :=
  match d.checkpoints.head?, d.checkpoints.getLast? with
  | some first, some last => do
    let percentile ← d.guardedPercentileOf first last x
    .ok <$> guardedQuotient percentile (ofNat 100)
  | _, _ => .ok (.error .emptyDistribution)

end Distribution

/-- The value at a percentile of sorted samples. -/
def Samples.guardedPercentileOfSorted (sorted : List α) (p : α) : Except Fault (Option α) :=
  if sorted.isEmpty then .ok none
  else do
    let share ← guardedQuotient (Distribution.clampPercentile p) (ofNat 100)
    let position := share * ofNat (sorted.length - 1)
    let lower ← guardedElement sorted (lowerIndex position)
    if lowerIndex position == upperIndex position then return some lower
    else
      let upper ← guardedElement sorted (upperIndex position)
      return some (Distribution.interpolate lower upper (position - ofNat (lowerIndex position)))

end

/-! ### Distributions -/

namespace Distribution

open Exact

variable {d : Distribution Exact} {first last : Checkpoint Exact} {i : ℕ}

namespace IsSorted

theorem percentile_lt_succ (h : d.IsSorted) (hi : i + 1 < d.checkpoints.length) :
    d.checkpoints[i].percentile < d.checkpoints[i + 1].percentile :=
  List.pairwise_iff_getElem.1 h.percentile_lt i (i + 1) _ hi (Nat.lt_succ_self i)

/-- Between two neighbours, the steps to the value on the line through them have answers. -/
theorem guardedValueBefore_eq (h : d.IsSorted) (last : Checkpoint Exact) (p : ℝ) :
    d.guardedValueBefore last (ofReal p) = .ok (d.valueBefore last (ofReal p)) := by
  unfold guardedValueBefore valueBefore
  dsimp only
  generalize d.percentileIndex (ofReal p) = i
  rcases Nat.lt_or_ge i d.checkpoints.length with hi | hi
  · rw [if_neg (Nat.not_le.2 hi), checkpointAt_of_lt hi, List.getElem?_eq_getElem hi]
    dsimp only
    split
    · rfl
    · rename_i hguard
      cases i with
      | zero => simp at hguard
      | succ i =>
        have hlt := h.percentile_lt_succ hi
        have hwidth :
            ((d.checkpoints[i + 1].percentile - d.checkpoints[i].percentile : ℕ) : ℝ) ≠ 0 :=
          Nat.cast_ne_zero.2 (Nat.sub_ne_zero_of_lt hlt)
        rw [Nat.add_sub_cancel, checkpointAt_of_lt (Nat.lt_of_succ_lt hi)]
        unfold guardedElementBefore
        dsimp only
        rw [guardedElement_eq_ok (Nat.lt_of_succ_lt hi), ok_bind, guardedDifference_eq_ok hlt,
          ok_bind, ofNat_eq (_ - _), guardedQuotient_ofReal _ hwidth, ok_bind]
        rfl
  · rw [if_pos hi, List.getElem?_eq_none hi]

theorem guardedValueAt_eq (h : d.IsSorted) (p : Exact) :
    d.guardedValueAt p = .ok (d.valueAt p) := by
  obtain ⟨r, hr, -, -⟩ := exists_clampPercentile_eq p
  unfold guardedValueAt valueAt
  cases d.checkpoints.getLast? with
  | none => rfl
  | some last =>
    dsimp only
    rw [hr, h.guardedValueBefore_eq last r]
    rfl

/-- A value that lies strictly between the ends has a checkpoint at or above it, and one below that,
whose value is another one. -/
theorem guardedPercentileBetween_eq (h : d.IsSorted) (hlength : 0 < d.checkpoints.length) {t : ℝ}
    (hlow : d.height last 0 < t) (hhigh : t ≤ d.height last (d.checkpoints.length - 1)) :
    d.guardedPercentileBetween (ofReal t) = .ok (d.percentileBetween last (ofReal t)) := by
  obtain ⟨k, hk, hreached, hbefore⟩ := exists_first_reaching hlength hhigh
  have hindex : d.valueIndex (ofReal t) = k := h.valueIndex_eq hk hbefore hreached
  unfold guardedPercentileBetween percentileBetween
  dsimp only
  rw [hindex, guardedElement_eq_ok hk, ok_bind, checkpointAt_of_lt hk]
  split
  · rfl
  · cases k with
    | zero => exact absurd hlow (not_lt.2 hreached)
    | succ i =>
      have hi : i < d.checkpoints.length := Nat.lt_of_succ_lt hk
      have hrise : d.height last (i + 1) - d.height last i ≠ 0 :=
        (sub_pos.2 ((hbefore i (Nat.lt_succ_self i)).trans_le hreached)).ne'
      have hdivisor : d.checkpoints[i + 1].value - d.checkpoints[i].value =
          ofReal (d.height last (i + 1) - d.height last i) := by
        rw [← checkpointAt_of_lt hk, ← checkpointAt_of_lt hi, h.value_checkpointAt hk,
          h.value_checkpointAt hi, ofReal_sub]
      rw [Nat.add_sub_cancel, checkpointAt_of_lt hi]
      unfold guardedElementBefore
      dsimp only
      rw [guardedElement_eq_ok hi, ok_bind, hdivisor, guardedQuotient_ofReal _ hrise, ok_bind,
        guardedDifference_eq_ok (h.percentile_lt_succ hk), ok_bind]
      rfl

theorem guardedPercentileOf_eq (h : d.IsSorted) (hfirst : d.checkpoints.head? = some first)
    (hlast : d.checkpoints.getLast? = some last) (x : Exact) :
    d.guardedPercentileOf first last x = .ok (d.percentileOf first last x) := by
  have hlength : 0 < d.checkpoints.length := length_pos hlast
  have hfirstValue : first.value = ofReal (d.height last 0) := by
    rw [← h.value_checkpointAt hlength, checkpointAt_zero hfirst]
  have hlastValue : last.value = ofReal (d.height last (d.checkpoints.length - 1)) := by
    rw [← h.value_checkpointAt (by omega), checkpointAt_length_sub_one hlast]
  unfold guardedPercentileOf percentileOf
  split
  · rfl
  · rename_i hinside
    rw [Bool.or_eq_true, not_or, Bool.not_eq_true, decide_eq_true_eq] at hinside
    split
    · -- The last checkpoint has the value that is searched for, so that there is a first one.
      obtain ⟨k, hk, hreached, hbefore⟩ := exists_first_reaching hlength
        (le_refl (d.height last (d.checkpoints.length - 1)))
      have hindex : d.valueIndex last.value = k := by
        rw [hlastValue]
        exact h.valueIndex_eq hk hbefore hreached
      rw [hindex, guardedElement_eq_ok hk, checkpointAt_of_lt hk]
      rfl
    · rename_i hbelow
      rw [hfirstValue] at hinside
      rw [hlastValue] at hbelow
      obtain ⟨t, rfl, hlow, hhigh⟩ := exists_eq_ofReal_of_lt hinside.1 hinside.2 hbelow
      exact h.guardedPercentileBetween_eq hlength hlow hhigh.le

theorem guardedQuantileOf_eq (h : d.IsSorted) (x : Exact) :
    d.guardedQuantileOf x = .ok (d.quantileOf x) := by
  have hhundred : (Scalar.ofNat 100 : Exact) = ofReal 100 := by simp
  unfold guardedQuantileOf quantileOf
  cases hfirst : d.checkpoints.head? with
  | none => rfl
  | some first =>
    cases hlast : d.checkpoints.getLast? with
    | none => rfl
    | some last =>
      dsimp only
      rw [h.guardedPercentileOf_eq hfirst hlast, ok_bind, hhundred,
        guardedQuotient_ofReal _ (by norm_num)]
      rfl

end IsSorted

/-- A distribution has no values exactly if it has no checkpoints. -/
theorem valueAt_eq_error_iff {p : Exact} {cause : ScoringError} :
    d.valueAt p = .error cause ↔ d.checkpoints = [] ∧ cause = .emptyDistribution := by
  unfold valueAt
  cases hlast : d.checkpoints.getLast? with
  | none =>
    have hempty : d.checkpoints = [] := List.getLast?_eq_none_iff.1 hlast
    simp [hempty, eq_comm]
  | some last =>
    have hne : d.checkpoints ≠ [] := List.ne_nil_of_mem (List.mem_of_getLast? hlast)
    simp [hne]

/-- A distribution has no quantiles exactly if it has no checkpoints. -/
theorem quantileOf_eq_error_iff {x : Exact} {cause : ScoringError} :
    d.quantileOf x = .error cause ↔ d.checkpoints = [] ∧ cause = .emptyDistribution := by
  unfold quantileOf
  cases hfirst : d.checkpoints.head? with
  | none =>
    have hempty : d.checkpoints = [] := List.head?_eq_none_iff.1 hfirst
    simp [hempty, eq_comm]
  | some first =>
    have hne : d.checkpoints ≠ [] := List.ne_nil_of_mem (List.mem_of_mem_head? hfirst)
    simp [hne, List.getLast?_eq_some_getLast hne]

end Distribution

/-! ### Samples -/

namespace Samples

open Exact

theorem guardedPercentileOfSorted_eq (sorted : List Exact) (p : Exact) :
    guardedPercentileOfSorted sorted p = .ok (percentileOfSorted sorted p) := by
  have hhundred : (Scalar.ofNat 100 : Exact) = ofReal 100 := by simp
  unfold guardedPercentileOfSorted
  split
  · rename_i hempty
    rw [List.isEmpty_iff.1 hempty]
    rfl
  · rename_i hne
    have hlength : 0 < sorted.length := List.length_pos_iff.2 (by simpa using hne)
    have hposition :
        Distribution.clampPercentile p / ofReal 100 * Scalar.ofNat (sorted.length - 1) =
          position sorted.length p := by
      rw [position, hhundred]
    obtain ⟨hlower, hupper⟩ := indices_position_lt hlength p
    rw [hhundred, guardedQuotient_ofReal _ (by norm_num), ok_bind, hposition]
    unfold percentileOfSorted
    dsimp only
    rw [guardedElement_eq_ok hlower, ok_bind, guardedElement_eq_ok hupper,
      List.getElem?_eq_getElem hlower, List.getElem?_eq_getElem hupper]
    -- Both sides look up the same two elements, and interpolate only where they differ.
    by_cases hsame : lowerIndex (position sorted.length p) = upperIndex (position sorted.length p)
    · simp [hsame, pure, Except.pure]
    · simp [hsame, pure, Except.pure, ok_bind]

/-- Sorted samples have no value at a percentile exactly if there are none. -/
theorem percentileOfSorted_eq_none_iff {sorted : List Exact} {p : Exact} :
    percentileOfSorted sorted p = none ↔ sorted = [] := by
  unfold percentileOfSorted
  dsimp only
  constructor
  · intro hnone
    by_contra hne
    obtain ⟨hlower, hupper⟩ := indices_position_lt (List.length_pos_iff.2 hne) p
    rw [List.getElem?_eq_getElem hlower, List.getElem?_eq_getElem hupper] at hnone
    by_cases hsame : lowerIndex (position sorted.length p) = upperIndex (position sorted.length p)
    · simp [hsame] at hnone
    · simp [hsame] at hnone
  · rintro rfl
    rfl

end Samples

/-! ### All queries -/

namespace Distribution

/-- No query of an obtainable distribution takes a step that has no answer, whatever it is asked,
and the one error is that there are no checkpoints.  No value at a percentile takes such a step for
any list of samples. -/
theorem guarded_eq_and_error_iff :
    (∀ d : Distribution Exact, d.IsObtainable → ∀ x : Exact,
      d.guardedValueAt x = .ok (d.valueAt x) ∧ d.guardedQuantileOf x = .ok (d.quantileOf x) ∧
      ∀ cause,
        (d.valueAt x = .error cause ↔ d.checkpoints = [] ∧ cause = .emptyDistribution) ∧
        (d.quantileOf x = .error cause ↔ d.checkpoints = [] ∧ cause = .emptyDistribution)) ∧
    ∀ (sorted : List Exact) (p : Exact),
      Samples.guardedPercentileOfSorted sorted p = .ok (Samples.percentileOfSorted sorted p) ∧
      (Samples.percentileOfSorted sorted p = none ↔ sorted = []) := by
  constructor
  · intro d hd x
    have hsorted : d.IsSorted := hd.isSorted
    refine ⟨hsorted.guardedValueAt_eq x, hsorted.guardedQuantileOf_eq x, ?_⟩
    intro cause
    exact ⟨valueAt_eq_error_iff, quantileOf_eq_error_iff⟩
  · intro sorted p
    exact ⟨Samples.guardedPercentileOfSorted_eq sorted p, Samples.percentileOfSorted_eq_none_iff⟩

/-- Checkpoints that start above percentile 0 and end below percentile 100. -/
def innerCheckpoints : List (Checkpoint Exact) :=
  [⟨10, .ofReal 0, 1⟩, ⟨40, .ofReal 1, 2⟩]

theorem isObtainable_innerCheckpoints :
    (⟨2, innerCheckpoints⟩ : Distribution Exact).IsObtainable := by
  have hsound : ∀ c ∈ innerCheckpoints, isSound c = true := by
    simp [innerCheckpoints, isSound]
  have horder : orderDefect? innerCheckpoints = none := by
    simp [innerCheckpoints, orderDefect?, pairDefect?]
  exact .ofCheckpoints (ofCheckpoints_eq_ok_iff.2 ⟨horder, hsound, rfl⟩)

/-- Both NaN and a value between the checkpoints pass all guards. -/
theorem guarded_eq_and_error_iff_innerCheckpoints :
    (⟨2, innerCheckpoints⟩ : Distribution Exact).IsObtainable ∧
    guardedValueAt ⟨2, innerCheckpoints⟩ .nan = .ok (valueAt ⟨2, innerCheckpoints⟩ .nan) ∧
    guardedQuantileOf ⟨2, innerCheckpoints⟩ (.ofReal (1 / 2)) =
      .ok (quantileOf ⟨2, innerCheckpoints⟩ (.ofReal (1 / 2))) := by
  have hnan := guarded_eq_and_error_iff.1 _ isObtainable_innerCheckpoints .nan
  have hhalf := guarded_eq_and_error_iff.1 _ isObtainable_innerCheckpoints (.ofReal (1 / 2))
  exact ⟨isObtainable_innerCheckpoints, hnan.1, hhalf.2.1⟩

end Distribution

end NewsScoring
