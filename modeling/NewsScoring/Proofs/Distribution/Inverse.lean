import Mathlib.Tactic.FieldSimp
import Mathlib.Tactic.Linarith
import NewsScoring.Proofs.Bisect
import NewsScoring.Proofs.Distribution.Sorted

/-!
# Values and the least percentiles at which they are reached

Between two checkpoints the value at a percentile lies on the line through them (`line`), and the
percentile at which a value is reached lies on the same line (`back`).  As values never descend, a
percentile before that one has a smaller value (`IsSorted.isLeastAt_back`).  So the quantile of a
number is the least one at which its nearest value is reached (`quantileOf_isLeast`).
-/

namespace NewsScoring.Distribution

open Exact

variable {d : Distribution Exact} {last : Checkpoint Exact} {i k : ℕ} {p t : ℝ}

/-! ### Values at percentiles -/

/-- The point at `p` on the line through a checkpoint and the next. -/
noncomputable def line (d : Distribution Exact) (last : Checkpoint Exact) (i : ℕ) (p : ℝ) : ℝ :=
  d.height last i + (p - d.position last i) / (d.position last (i + 1) - d.position last i) *
    (d.height last (i + 1) - d.height last i)

/-- The index that is searched for, if what it is searched by never descends. -/
theorem bisect_checkpoints_eq {f : Checkpoint Exact → ℝ} {q : Checkpoint Exact → Bool}
    (hf : d.checkpoints.Pairwise fun a b => f a ≤ f b)
    (hq : ∀ c ∈ d.checkpoints, q c = true ↔ f c < t) (hi : i < d.checkpoints.length)
    (hbefore : ∀ j < i, f (d.checkpointAt last j) < t) (ht : t ≤ f (d.checkpointAt last i)) :
    bisect q d.checkpoints = i := by
  have hholds : ∀ j < d.checkpoints.length,
      holdsAt q d.checkpoints j = true ↔ f (d.checkpointAt last j) < t := by
    intro j hj
    rw [holdsAt_eq_true_iff, exists_prop_of_true hj, hq _ (List.getElem_mem hj),
      checkpointAt_of_lt hj]
  have hfirst : ComesFirst q d.checkpoints := by
    refine comesFirst_of_pairwise (hf.imp_of_mem fun {a b} ha hb hab hqb => ?_)
    rw [hq a ha]
    exact lt_of_le_of_lt hab ((hq b hb).1 hqb)
  refine bisect_eq hfirst (fun j hj => (hholds j (hj.trans hi)).2 (hbefore j hj)) ?_
  rw [← Bool.not_eq_true, hholds i hi]
  exact not_lt.2 ht

namespace IsSorted

/-- The first checkpoint whose percentile is at least `p`. -/
theorem percentileIndex_eq (h : d.IsSorted) (hi : i < d.checkpoints.length)
    (hbefore : ∀ j < i, d.position last j < p) (hp : p ≤ d.position last i) :
    d.percentileIndex (ofReal p) = i := by
  have hle : d.checkpoints.Pairwise fun a b => (a.percentile : ℝ) ≤ b.percentile :=
    h.percentile_lt.imp fun hab => by exact_mod_cast hab.le
  exact bisect_checkpoints_eq hle (fun c _ => by simp) hi hbefore hp

/-- The first checkpoint whose value is at least `t`. -/
theorem valueIndex_eq (h : d.IsSorted) (hi : i < d.checkpoints.length)
    (hbefore : ∀ j < i, d.height last j < t) (ht : t ≤ d.height last i) :
    d.valueIndex (ofReal t) = i := by
  refine bisect_checkpoints_eq h.value_le (fun c hc => ?_) hi hbefore ht
  rw [decide_eq_true_eq, h.value_eq c hc, ofReal_lt, toReal_ofReal]

/-- Up to the first checkpoint, the value is that of the first checkpoint. -/
theorem valueBefore_first (h : d.IsSorted) (hlength : 0 < d.checkpoints.length)
    (hp : p ≤ d.position last 0) : d.valueBefore last (ofReal p) = ofReal (d.height last 0) := by
  have hindex : d.percentileIndex (ofReal p) = 0 :=
    h.percentileIndex_eq hlength (fun j hj => absurd hj (Nat.not_lt_zero j)) hp
  simp only [valueBefore, hindex]
  rw [if_neg (Nat.not_le.2 hlength), if_pos (by simp), h.value_checkpointAt hlength]

/-- Behind a checkpoint, up to the next, values lie on a line. -/
theorem valueBefore_between (h : d.IsSorted) (hi : i + 1 < d.checkpoints.length)
    (hlow : d.position last i < p) (hhigh : p ≤ d.position last (i + 1)) :
    d.valueBefore last (ofReal p) = ofReal (d.line last i p) := by
  have hbefore : ∀ j < i + 1, d.position last j < p := by
    intro j hj
    exact lt_of_le_of_lt (h.position_le (Nat.le_of_lt_succ hj) (by omega)) hlow
  have hindex : d.percentileIndex (ofReal p) = i + 1 := h.percentileIndex_eq hi hbefore hhigh
  have hwidth : d.position last (i + 1) - d.position last i ≠ 0 :=
    sub_ne_zero.2 (h.position_lt (Nat.lt_succ_self i) hi).ne'
  simp only [valueBefore, hindex]
  rw [if_neg (Nat.not_le.2 hi)]
  split
  · next hequals =>
    -- The next checkpoint itself lies on the line.
    have hp : d.position last (i + 1) = p := by
      simpa [position] using hequals
    rw [h.value_checkpointAt hi, line, ← hp, div_self hwidth, one_mul, add_sub_cancel]
  · rw [Nat.add_sub_cancel, h.value_checkpointAt hi, h.value_checkpointAt (Nat.lt_of_succ_lt hi),
      interpolate, h.ofNat_percentile_sub hi, ofNat_eq, ← position, ofReal_sub, ofReal_div hwidth,
      ofReal_sub, ofReal_mul, ofReal_add, line]

/-- A value on the line behind a checkpoint is at most that of the next checkpoint. -/
theorem line_le_height (h : d.IsSorted) (hi : i + 1 < d.checkpoints.length)
    (hhigh : p ≤ d.position last (i + 1)) : d.line last i p ≤ d.height last (i + 1) := by
  have hwidth : 0 < d.position last (i + 1) - d.position last i :=
    sub_pos.2 (h.position_lt (Nat.lt_succ_self i) hi)
  have hrise : 0 ≤ d.height last (i + 1) - d.height last i :=
    sub_nonneg.2 (h.height_le (Nat.le_succ i) hi)
  have hratio : (p - d.position last i) / (d.position last (i + 1) - d.position last i) ≤ 1 :=
    (div_le_one hwidth).2 (by linarith)
  have hle := mul_le_mul_of_nonneg_right hratio hrise
  rw [line]
  linarith

/-- A line ascends if the next checkpoint has a greater value. -/
theorem line_lt_line (h : d.IsSorted) (hi : i + 1 < d.checkpoints.length)
    (hrise : d.height last i < d.height last (i + 1)) {q : ℝ} (hpq : p < q) :
    d.line last i p < d.line last i q := by
  have hwidth : 0 < d.position last (i + 1) - d.position last i :=
    sub_pos.2 (h.position_lt (Nat.lt_succ_self i) hi)
  have hratio : (p - d.position last i) / (d.position last (i + 1) - d.position last i) <
      (q - d.position last i) / (d.position last (i + 1) - d.position last i) :=
    div_lt_div_of_pos_right (by linarith) hwidth
  have hlt := mul_lt_mul_of_pos_right hratio (sub_pos.2 hrise)
  rw [line, line]
  linarith

/-- A percentile up to that of a checkpoint is that of the first checkpoint, or lies behind a
checkpoint before it and up to the next. -/
theorem exists_segment (hk : k < d.checkpoints.length) (hlow : d.position last 0 ≤ p)
    (hhigh : p ≤ d.position last k) :
    p = d.position last 0 ∨
      ∃ i < k, d.position last i < p ∧ p ≤ d.position last (i + 1) := by
  induction k with
  | zero => exact .inl (le_antisymm hhigh hlow)
  | succ k ih =>
    rcases le_or_gt p (d.position last k) with hle | hlt
    · rcases ih (Nat.lt_of_succ_lt hk) hle with hfirst | ⟨i, hi, hsegment⟩
      · exact .inl hfirst
      · exact .inr ⟨i, hi.trans (Nat.lt_succ_self k), hsegment⟩
    · exact .inr ⟨k, Nat.lt_succ_self k, hlt, hhigh⟩

end IsSorted

/-! ### Least percentiles -/

/-- Whether `q` is the least percentile, from that of the first checkpoint up to that of the last, at
which the value is `t`. -/
structure IsLeastAt (d : Distribution Exact) (last : Checkpoint Exact) (t q : ℝ) : Prop where
  first_le : d.position last 0 ≤ q
  le_last : q ≤ d.position last (d.checkpoints.length - 1)
  value_eq : d.valueBefore last (ofReal q) = ofReal t
  least : ∀ p, d.position last 0 ≤ p → p ≤ d.position last (d.checkpoints.length - 1) →
    d.valueBefore last (ofReal p) = ofReal t → q ≤ p

/-- The point at height `t` on the line through a checkpoint and the next. -/
noncomputable def back (d : Distribution Exact) (last : Checkpoint Exact) (i : ℕ) (t : ℝ) : ℝ :=
  d.position last i + (t - d.height last i) / (d.height last (i + 1) - d.height last i) *
    (d.position last (i + 1) - d.position last i)

namespace IsSorted

theorem isLeastAt_first (h : d.IsSorted) (hlength : 0 < d.checkpoints.length) :
    d.IsLeastAt last (d.height last 0) (d.position last 0) where
  first_le := le_rfl
  le_last := h.position_le (Nat.zero_le _) (by omega)
  value_eq := h.valueBefore_first hlength le_rfl
  least := fun _ hlow _ _ => hlow

/-- The values before a checkpoint are at most that of the checkpoint. -/
theorem valueBefore_le (h : d.IsSorted) (hk : k < d.checkpoints.length)
    (hlow : d.position last 0 ≤ p) (hhigh : p ≤ d.position last k) :
    ∃ v, d.valueBefore last (ofReal p) = ofReal v ∧ v ≤ d.height last k := by
  rcases exists_segment hk hlow hhigh with rfl | ⟨i, hi, hleft, hright⟩
  · exact ⟨_, h.valueBefore_first (by omega) le_rfl, h.height_le (Nat.zero_le k) hk⟩
  · have hnext : i + 1 < d.checkpoints.length := by omega
    exact ⟨_, h.valueBefore_between hnext hleft hright,
      (h.line_le_height hnext hright).trans (h.height_le hi hk)⟩

/-- A value between those of two neighbours is reached first on the line through them. -/
theorem isLeastAt_back (h : d.IsSorted) (hi : i + 1 < d.checkpoints.length)
    (hlow : d.height last i < t) (hhigh : t ≤ d.height last (i + 1)) :
    d.IsLeastAt last t (d.back last i t) := by
  have hrise : 0 < d.height last (i + 1) - d.height last i := sub_pos.2 (hlow.trans_le hhigh)
  have hwidth : 0 < d.position last (i + 1) - d.position last i :=
    sub_pos.2 (h.position_lt (Nat.lt_succ_self i) hi)
  have hratio : 0 < (t - d.height last i) / (d.height last (i + 1) - d.height last i) :=
    div_pos (sub_pos.2 hlow) hrise
  have hratio' : (t - d.height last i) / (d.height last (i + 1) - d.height last i) ≤ 1 :=
    (div_le_one hrise).2 (by linarith)
  have hleft : d.position last i < d.back last i t := by
    have := mul_pos hratio hwidth
    rw [back]
    linarith
  have hright : d.back last i t ≤ d.position last (i + 1) := by
    have := mul_le_mul_of_nonneg_right hratio' hwidth.le
    rw [back]
    linarith
  have hline : d.line last i (d.back last i t) = t := by
    rw [line, back]
    field_simp
    ring
  refine ⟨(h.position_le (Nat.zero_le i) (by omega)).trans hleft.le,
    hright.trans (h.position_le (by omega) (by omega)), ?_, fun p hfirst hlast hvalue => ?_⟩
  · rw [h.valueBefore_between hi hleft hright, hline]
  · by_contra hlt
    rw [not_le] at hlt
    rcases le_or_gt p (d.position last i) with hle | hgt
    · -- Up to the first of the two, values are too small.
      obtain ⟨v, hv, hle'⟩ := h.valueBefore_le (by omega) hfirst hle
      rw [hvalue, ofReal_inj] at hv
      linarith
    · -- Between the two, values ascend.
      rw [h.valueBefore_between hi hgt (hlt.le.trans hright), ofReal_inj] at hvalue
      have := h.line_lt_line hi (sub_pos.1 hrise) hlt
      linarith

/-- The value of a checkpoint is reached first there, if all values before it are less. -/
theorem isLeastAt_position (h : d.IsSorted) (hk : k < d.checkpoints.length)
    (hbefore : ∀ j < k, d.height last j < d.height last k) :
    d.IsLeastAt last (d.height last k) (d.position last k) := by
  cases k with
  | zero => exact h.isLeastAt_first hk
  | succ i =>
    have hlow := hbefore i (Nat.lt_succ_self i)
    have hback : d.back last i (d.height last (i + 1)) = d.position last (i + 1) := by
      rw [back, div_self (sub_ne_zero.2 hlow.ne'), one_mul, add_sub_cancel]
    rw [← hback]
    exact h.isLeastAt_back hk hlow le_rfl

/-! ### Percentiles of values -/

/-- The first checkpoint whose value is at least `t`. -/
theorem exists_first_reaching (hlength : 0 < d.checkpoints.length)
    (ht : t ≤ d.height last (d.checkpoints.length - 1)) :
    ∃ k < d.checkpoints.length, t ≤ d.height last k ∧ ∀ j < k, d.height last j < t := by
  classical
  have hexists : ∃ k, t ≤ d.height last k := ⟨_, ht⟩
  refine ⟨Nat.find hexists, ?_, Nat.find_spec hexists, fun j hj => not_le.1 (Nat.find_min hexists hj)⟩
  have := Nat.find_min' hexists ht
  omega

/-- The percentile of a value that lies strictly between the ends. -/
theorem isLeastAt_percentileBetween (h : d.IsSorted) (hlength : 0 < d.checkpoints.length)
    (hlow : d.height last 0 < t) (hhigh : t ≤ d.height last (d.checkpoints.length - 1)) :
    ∃ q, d.percentileBetween last (ofReal t) = ofReal q ∧ d.IsLeastAt last t q := by
  obtain ⟨k, hk, hreached, hbefore⟩ := exists_first_reaching hlength hhigh
  have hindex : d.valueIndex (ofReal t) = k := h.valueIndex_eq hk hbefore hreached
  cases k with
  | zero => exact absurd hlow (not_lt.2 hreached)
  | succ i =>
    have hleft : d.height last i < t := hbefore i (Nat.lt_succ_self i)
    have hrise : d.height last (i + 1) - d.height last i ≠ 0 :=
      (sub_pos.2 (hleft.trans_le hreached)).ne'
    simp only [percentileBetween, hindex]
    rw [h.value_checkpointAt hk]
    split
    · next hequals =>
      obtain rfl : d.height last (i + 1) = t := equals_ofReal.1 hequals
      exact ⟨_, rfl, h.isLeastAt_position hk hbefore⟩
    · refine ⟨d.back last i t, ?_, h.isLeastAt_back hk hleft hreached⟩
      rw [Nat.add_sub_cancel, h.value_checkpointAt (Nat.lt_of_succ_lt hk), h.ofNat_percentile_sub hk,
        ofNat_eq, ← position, ofReal_sub, ofReal_sub, ofReal_div hrise, ofReal_mul, ofReal_add, back]

end IsSorted

section

variable {first : Checkpoint Exact} {x : Exact}

/-- The percentile of a number is the least one at which its nearest value is reached. -/
theorem IsSorted.isLeastAt_percentileOf (h : d.IsSorted) (hfirst : d.checkpoints.head? = some first)
    (hlast : d.checkpoints.getLast? = some last) (hx : Scalar.isNaN x = false) :
    ∃ t q, Scalar.clamp first.value last.value x = ofReal t ∧
      d.percentileOf first last x = ofReal q ∧ d.IsLeastAt last t q := by
  have hlength : 0 < d.checkpoints.length := length_pos hlast
  have hlow : first.value = ofReal (d.height last 0) := by
    rw [← h.value_checkpointAt hlength, checkpointAt_zero hfirst]
  have hhigh : last.value = ofReal (d.height last (d.checkpoints.length - 1)) := by
    rw [← h.value_checkpointAt (by omega), checkpointAt_length_sub_one hlast]
  have hends : d.height last 0 ≤ d.height last (d.checkpoints.length - 1) :=
    h.height_le (Nat.zero_le _) (by omega)
  rw [percentileOf, hx, Bool.false_or, hlow, hhigh]
  by_cases hbelow : x ≤ ofReal (d.height last 0)
  · rw [if_pos (decide_eq_true hbelow), ofNat_percentile_first hfirst]
    exact ⟨_, _, clamp_of_le hends hbelow, rfl, h.isLeastAt_first hlength⟩
  · rw [if_neg (by simpa using hbelow)]
    by_cases habove : ofReal (d.height last (d.checkpoints.length - 1)) ≤ x
    · -- The last value may be that of several checkpoints, of which the first counts.
      obtain ⟨k, hk, hreached, hbefore⟩ := exists_first_reaching hlength le_rfl
      have htop : d.height last k = d.height last (d.checkpoints.length - 1) :=
        le_antisymm (h.height_le (by omega) (by omega)) hreached
      rw [if_pos habove, h.valueIndex_eq hk hbefore hreached, clamp_of_ge hends habove]
      refine ⟨_, _, rfl, rfl, ?_⟩
      rw [← htop] at hbefore ⊢
      exact h.isLeastAt_position hk hbefore
    · obtain ⟨t, rfl, hlt, hgt⟩ := exists_eq_ofReal_of_lt hx hbelow habove
      rw [if_neg habove, clamp_eq_self (by simpa using hlt.le) (by simpa using hgt.le)]
      obtain ⟨q, hq, hleast⟩ := h.isLeastAt_percentileBetween hlength hlt hgt.le
      exact ⟨t, q, rfl, hq, hleast⟩

/-- The value at a percentile from that of the first checkpoint up to that of the last. -/
theorem IsSorted.valueAt_ofReal (h : d.IsSorted) (hlast : d.checkpoints.getLast? = some last)
    (hlow : d.position last 0 ≤ p) (hhigh : p ≤ d.position last (d.checkpoints.length - 1)) :
    d.valueAt (ofReal p) = .ok (d.valueBefore last (ofReal p)) := by
  have hzero : 0 ≤ p := (Nat.cast_nonneg _).trans hlow
  have hhundred : p ≤ 100 :=
    hhigh.trans (h.position_le_hundred (Nat.sub_one_lt_of_lt (length_pos hlast)))
  rw [valueAt, hlast]
  simp only [clampPercentile_ofReal hzero hhundred]

/-- The percentiles from that of the first checkpoint up to that of the last at which a value is
reached. -/
def percentilesAt (d : Distribution Exact) (first last : Checkpoint Exact) (y : Exact) : Set Exact :=
  {p | Scalar.ofNat first.percentile ≤ p ∧ p ≤ Scalar.ofNat last.percentile ∧ d.valueAt p = .ok y}

/-- The quantile of a number is the least one at which its nearest value is reached; a number between
the first value and the last is reached itself. -/
theorem quantileOf_isLeast {n : ℕ} {checkpoints : List (Checkpoint Exact)}
    (hd : ofCheckpoints n checkpoints = .ok d) (hfirst : checkpoints.head? = some first)
    (hlast : checkpoints.getLast? = some last) (hx : Scalar.isNaN x = false) :
    ∃ q, d.quantileOf x = .ok q ∧
      Scalar.ofNat 100 * q ∈ d.percentilesAt first last (Scalar.clamp first.value last.value x) ∧
      (∀ p ∈ d.percentilesAt first last (Scalar.clamp first.value last.value x),
        Scalar.ofNat 100 * q ≤ p) ∧
      (first.value ≤ x → x ≤ last.value → d.valueAt (Scalar.ofNat 100 * q) = .ok x) := by
  have h : d.IsSorted := isSorted_of_ofCheckpoints_eq_ok hd
  obtain rfl : d.checkpoints = checkpoints := by
    rw [← (ofCheckpoints_eq_ok_iff.1 hd).2.2]
  obtain ⟨t, q, hclamp, hpercentile, hleast⟩ := h.isLeastAt_percentileOf hfirst hlast hx
  have hquantile : d.quantileOf x = .ok (ofReal (q / 100)) := by
    simp only [quantileOf, hfirst, hlast, hpercentile, ofNat_eq]
    rw [ofReal_div (by norm_num)]
    norm_num
  have hback : Scalar.ofNat 100 * ofReal (q / 100) = ofReal q := by
    rw [ofNat_eq, ofReal_mul, ofReal_inj]
    push_cast
    ring
  have hvalue : d.valueAt (ofReal q) = .ok (ofReal t) := by
    rw [h.valueAt_ofReal hlast hleast.first_le hleast.le_last, hleast.value_eq]
  refine ⟨ofReal (q / 100), hquantile, ?_⟩
  rw [hback, hclamp]
  refine ⟨⟨?_, ?_, hvalue⟩, fun p hp => ?_, fun hlow hhigh => ?_⟩
  · rw [ofNat_percentile_first hfirst, ofReal_le]
    exact hleast.first_le
  · rw [ofNat_percentile_last hlast, ofReal_le]
    exact hleast.le_last
  · obtain ⟨hlow, hhigh, hreached⟩ := hp
    rw [ofNat_percentile_first hfirst] at hlow
    rw [ofNat_percentile_last hlast] at hhigh
    -- Nothing but a real number lies between two percentiles.
    obtain ⟨r, rfl, hr, hr'⟩ := exists_eq_ofReal hlow hhigh
    rw [h.valueAt_ofReal hlast hr hr', Except.ok.injEq] at hreached
    rw [ofReal_le]
    exact hleast.least r hr hr' hreached
  · rw [h.value_eq first (List.mem_of_mem_head? hfirst)] at hlow hclamp
    rw [h.value_eq last (List.mem_of_getLast? hlast)] at hhigh hclamp
    rw [hvalue, ← hclamp, clamp_eq_self hlow hhigh]

end

/-- Three checkpoints, the first two of one value. -/
def flatCheckpoints : List (Checkpoint Exact) :=
  [⟨10, ofReal 0, 1⟩, ⟨20, ofReal 0, 2⟩, ⟨40, ofReal 1, 3⟩]

/-- Both the value of two checkpoints and a value between two checkpoints are reached. -/
theorem quantileOf_isLeast_flatCheckpoints :
    (∃ q, quantileOf ⟨3, flatCheckpoints⟩ (ofReal 0) = .ok q ∧
      valueAt ⟨3, flatCheckpoints⟩ (Scalar.ofNat 100 * q) = .ok (ofReal 0)) ∧
    ∃ q, quantileOf ⟨3, flatCheckpoints⟩ (ofReal (1 / 2)) = .ok q ∧
      valueAt ⟨3, flatCheckpoints⟩ (Scalar.ofNat 100 * q) = .ok (ofReal (1 / 2)) := by
  have haccepted : ofCheckpoints 3 flatCheckpoints = .ok ⟨3, flatCheckpoints⟩ := by
    refine ofCheckpoints_eq_ok_iff.2 ⟨?_, fun c hc => ?_, rfl⟩
    · simp [flatCheckpoints, orderDefect?, pairDefect?]
    · rw [flatCheckpoints, List.mem_cons, List.mem_cons, List.mem_singleton] at hc
      rcases hc with rfl | rfl | rfl <;> simp [isSound]
  have hfirst : flatCheckpoints.head? = some ⟨10, ofReal 0, 1⟩ := rfl
  have hlast : flatCheckpoints.getLast? = some ⟨40, ofReal 1, 3⟩ := rfl
  constructor
  · obtain ⟨q, hq, -, -, hvalue⟩ := quantileOf_isLeast haccepted hfirst hlast
      (by simp [Scalar.isNaN] : Scalar.isNaN (ofReal 0) = false)
    exact ⟨q, hq, hvalue (by simp) (by simp)⟩
  · obtain ⟨q, hq, -, -, hvalue⟩ := quantileOf_isLeast haccepted hfirst hlast
      (by simp [Scalar.isNaN] : Scalar.isNaN (ofReal (1 / 2)) = false)
    exact ⟨q, hq, hvalue (by simp) (by norm_num)⟩

end NewsScoring.Distribution
