import NewsScoring.Proofs.Distribution.Inverse

/-!
# Quantiles in order

Values never descend from one percentile to a later one (`IsSorted.valueBefore_mono`), so the least
percentiles at which they are reached never descend either (`IsLeastAt.le_of_le`).  Hence quantiles
are in the order of their numbers (`IsSorted.quantileOf_mono`), and all lie between zero and one
(`IsSorted.exists_quantileOf_eq`), that of NaN among them.
-/

namespace NewsScoring.Distribution

open Exact

variable {d : Distribution Exact} {last : Checkpoint Exact} {i : ℕ} {p q t u : ℝ}

/-! ### Values -/

namespace IsSorted

theorem line_mono (h : d.IsSorted) (hi : i + 1 < d.checkpoints.length) (hpq : p ≤ q) :
    d.line last i p ≤ d.line last i q := by
  have hwidth : 0 < d.position last (i + 1) - d.position last i :=
    sub_pos.2 (h.position_lt (Nat.lt_succ_self i) hi)
  have hrise : 0 ≤ d.height last (i + 1) - d.height last i :=
    sub_nonneg.2 (h.height_le (Nat.le_succ i) hi)
  have hratio : (p - d.position last i) / (d.position last (i + 1) - d.position last i) ≤
      (q - d.position last i) / (d.position last (i + 1) - d.position last i) :=
    div_le_div_of_nonneg_right (by linarith) hwidth.le
  have hle := mul_le_mul_of_nonneg_right hratio hrise
  rw [line, line]
  linarith

/-- From one percentile to a later one, values never descend. -/
theorem valueBefore_mono (h : d.IsSorted) (hlength : 0 < d.checkpoints.length)
    (hlow : d.position last 0 ≤ p) (hpq : p ≤ q)
    (hhigh : q ≤ d.position last (d.checkpoints.length - 1)) :
    ∃ v w, d.valueBefore last (ofReal p) = ofReal v ∧
      d.valueBefore last (ofReal q) = ofReal w ∧ v ≤ w := by
  rcases exists_segment (Nat.sub_one_lt_of_lt hlength) (hlow.trans hpq) hhigh with
    rfl | ⟨i, hi, hleft, hright⟩
  · obtain rfl : p = d.position last 0 := le_antisymm hpq hlow
    have hvalue := h.valueBefore_first hlength (le_refl (d.position last 0))
    exact ⟨_, _, hvalue, hvalue, le_rfl⟩
  · have hnext : i + 1 < d.checkpoints.length := by omega
    have hvalue := h.valueBefore_between hnext hleft hright
    rcases le_or_gt p (d.position last i) with hle | hgt
    · -- The line behind the checkpoint starts at its height.
      obtain ⟨v, hv, hheight⟩ := h.valueBefore_le (Nat.lt_of_succ_lt hnext) hlow hle
      have hstart : d.line last i (d.position last i) = d.height last i := by
        rw [line, sub_self, zero_div, zero_mul, add_zero]
      refine ⟨v, _, hv, hvalue, hheight.trans ?_⟩
      rw [← hstart]
      exact h.line_mono hnext hleft.le
    · exact ⟨_, _, h.valueBefore_between hnext hgt (hpq.trans hright), hvalue,
        h.line_mono hnext hpq⟩

end IsSorted

/-! ### Percentiles and quantiles -/

/-- The least percentiles at which values are reached are in the order of the values. -/
theorem IsLeastAt.le_of_le (h : d.IsSorted) (hlength : 0 < d.checkpoints.length)
    (hp : d.IsLeastAt last t p) (hq : d.IsLeastAt last u q) (htu : t ≤ u) : p ≤ q := by
  by_contra hlt
  obtain ⟨v, w, hv, hw, hvw⟩ :=
    h.valueBefore_mono hlength hq.first_le (not_le.1 hlt).le hp.le_last
  rw [hq.value_eq, ofReal_inj] at hv
  rw [hp.value_eq, ofReal_inj] at hw
  -- So the value at `q` is also `t`, and `p` is the least such percentile.
  have hvalue : d.valueBefore last (ofReal q) = ofReal t := by
    rw [hq.value_eq, ofReal_inj]
    linarith
  exact hlt (hp.least q hq.first_le hq.le_last hvalue)

section

variable {first : Checkpoint Exact} {x y : Exact}

theorem IsSorted.exists_percentileOf_eq (h : d.IsSorted)
    (hfirst : d.checkpoints.head? = some first) (hlast : d.checkpoints.getLast? = some last)
    (x : Exact) :
    ∃ q, d.percentileOf first last x = ofReal q ∧ d.position last 0 ≤ q ∧
      q ≤ d.position last (d.checkpoints.length - 1) := by
  have hlength : 0 < d.checkpoints.length := length_pos hlast
  cases hx : Scalar.isNaN x with
  | true =>
    refine ⟨d.position last 0, ?_, le_rfl, h.position_le (Nat.zero_le _) (by omega)⟩
    rw [percentileOf, hx, Bool.true_or, if_pos rfl, ofNat_percentile_first hfirst]
  | false =>
    obtain ⟨t, q, -, hq, hleast⟩ := h.isLeastAt_percentileOf hfirst hlast hx
    exact ⟨q, hq, hleast.first_le, hleast.le_last⟩

theorem quantileOf_eq (hfirst : d.checkpoints.head? = some first)
    (hlast : d.checkpoints.getLast? = some last) (hq : d.percentileOf first last x = ofReal q) :
    d.quantileOf x = .ok (ofReal (q / 100)) := by
  simp only [quantileOf, hfirst, hlast, hq, ofNat_eq]
  rw [ofReal_div (by norm_num)]
  norm_num

theorem exists_ends (h : d.isEmpty = false) :
    ∃ first last, d.checkpoints.head? = some first ∧ d.checkpoints.getLast? = some last := by
  obtain ⟨sampleCount, _ | ⟨first, rest⟩⟩ := d
  · cases h
  · exact ⟨first, _, rfl, List.getLast?_cons⟩

/-- Each number has a quantile, which lies between zero and one. -/
theorem IsSorted.exists_quantileOf_eq (h : d.IsSorted) (hd : d.isEmpty = false) (x : Exact) :
    ∃ r, d.quantileOf x = .ok (ofReal r) ∧ 0 ≤ r ∧ r ≤ 1 := by
  obtain ⟨first, last, hfirst, hlast⟩ := exists_ends hd
  obtain ⟨q, hq, hlow, hhigh⟩ := h.exists_percentileOf_eq hfirst hlast x
  have hzero : 0 ≤ q := (Nat.cast_nonneg _).trans hlow
  have hhundred : q ≤ 100 :=
    hhigh.trans (h.position_le_hundred (Nat.sub_one_lt_of_lt (length_pos hlast)))
  exact ⟨q / 100, quantileOf_eq hfirst hlast hq, by linarith, by linarith⟩

theorem IsSorted.first_le_last (h : d.IsSorted) (hfirst : d.checkpoints.head? = some first)
    (hlast : d.checkpoints.getLast? = some last) : first.value.toReal ≤ last.value.toReal := by
  have hlength : 0 < d.checkpoints.length := length_pos hlast
  have hends : d.height last 0 ≤ d.height last (d.checkpoints.length - 1) :=
    h.height_le (Nat.zero_le _) (by omega)
  rwa [height, height, checkpointAt_zero hfirst, checkpointAt_length_sub_one hlast] at hends

/-- Quantiles are in the order of their numbers. -/
theorem IsSorted.quantileOf_mono (h : d.IsSorted) (hxy : x ≤ y) {r s : Exact}
    (hr : d.quantileOf x = .ok r) (hs : d.quantileOf y = .ok s) : r ≤ s := by
  obtain ⟨hx, hy⟩ := isNaN_eq_false_of_le hxy
  cases hfirst : d.checkpoints.head? with
  | none => simp [quantileOf, hfirst] at hr
  | some first =>
    cases hlast : d.checkpoints.getLast? with
    | none => simp [quantileOf, hlast] at hr
    | some last =>
      obtain ⟨t, p, ht, hp, hleast⟩ := h.isLeastAt_percentileOf hfirst hlast hx
      obtain ⟨u, q, hu, hq, hleast'⟩ := h.isLeastAt_percentileOf hfirst hlast hy
      have htu : t ≤ u := by
        rw [← ofReal_le, ← ht, ← hu, h.value_eq first (List.mem_of_mem_head? hfirst),
          h.value_eq last (List.mem_of_getLast? hlast)]
        exact clamp_mono (h.first_le_last hfirst hlast) hxy
      have hpq := hleast.le_of_le h (length_pos hlast) hleast' htu
      rw [quantileOf_eq hfirst hlast hp, Except.ok.injEq] at hr
      rw [quantileOf_eq hfirst hlast hq, Except.ok.injEq] at hs
      rw [← hr, ← hs, ofReal_le]
      linarith

end

end NewsScoring.Distribution
