import Mathlib
import NewsScoring.Decimal.Shortest

/-!
# The shortest decimal rounds to the number

The numbers that round to a binary floating-point number lie between the middles of the gaps to its
neighbours (`Binary.Rounds`).  A decimal that is found on a grid is one of them
(`Binary.rounds_of_onGrid_eq_some`), and on the finest grid there is always one, since its step is
less than half the gap.  So the shortest decimal rounds to the number (`Binary.rounds_shortest`).
-/

namespace NewsScoring.Decimal

/-- The rational number of a decimal. -/
def toRat (x : Decimal) : ℚ :=
  x.digits * 10 ^ x.exponent

namespace Binary

/-- Whether a rational number rounds to a binary floating-point number: it lies less than half way
from there to the neighbours, or half way if the mantissa is even. -/
def Rounds (x : Binary) (r : ℚ) : Prop :=
  let low : ℚ := (x.mantissa - if x.narrowBelow then 1 / 4 else 1 / 2) * 2 ^ x.exponent
  let high : ℚ := (x.mantissa + 1 / 2) * 2 ^ x.exponent
  if x.mantissa % 2 = 0 then low ≤ r ∧ r ≤ high else low < r ∧ r < high

variable {x : Binary} {k : ℤ}

/-! ### Whole multiples of a common unit -/

theorem pow_toNat_eq {a : ℚ} (ha : a ≠ 0) (z : ℤ) : a ^ z.toNat = a ^ z * a ^ (-z).toNat := by
  rw [← zpow_natCast, ← zpow_natCast, ← zpow_add₀ ha]
  congr 1
  omega

/-- What clears a quarter of the last binary place and the step of a grid of negative powers. -/
def clearing (x : Binary) (k : ℤ) : ℚ :=
  2 ^ (2 - x.exponent).toNat * 10 ^ (-k).toNat

theorem clearing_pos (x : Binary) (k : ℤ) : 0 < clearing x k := by
  unfold clearing
  positivity

theorem cast_quarter (x : Binary) (k : ℤ) :
    (x.quarter k : ℚ) = 2 ^ (x.exponent - 2) * clearing x k := by
  have hpow := pow_toNat_eq (two_ne_zero : (2 : ℚ) ≠ 0) (x.exponent - 2)
  rw [neg_sub] at hpow
  rw [clearing, ← mul_assoc, ← hpow, quarter]
  push_cast [Nat.pow_eq]
  rfl

theorem cast_step (x : Binary) (k : ℤ) : (x.step k : ℚ) = 10 ^ k * clearing x k := by
  have hpow := pow_toNat_eq (by norm_num : (10 : ℚ) ≠ 0) k
  rw [clearing, mul_left_comm, ← hpow, mul_comm, step]
  push_cast [Nat.pow_eq]
  rfl

/-- Numbers of quarters and points of a grid are compared as in units. -/
theorem mul_quarter_lt_iff (x : Binary) (k : ℤ) (quarters n : ℕ) :
    quarters * x.quarter k < n * x.step k ↔
      (quarters : ℚ) * 2 ^ (x.exponent - 2) < n * 10 ^ k := by
  rw [← Nat.cast_lt (α := ℚ), Nat.cast_mul, Nat.cast_mul, cast_quarter, cast_step, ← mul_assoc,
    ← mul_assoc, mul_lt_mul_iff_left₀ (clearing_pos x k)]

theorem lt_mul_quarter_iff (x : Binary) (k : ℤ) (quarters n : ℕ) :
    n * x.step k < quarters * x.quarter k ↔
      (n : ℚ) * 10 ^ k < quarters * 2 ^ (x.exponent - 2) := by
  rw [← Nat.cast_lt (α := ℚ), Nat.cast_mul, Nat.cast_mul, cast_quarter, cast_step, ← mul_assoc,
    ← mul_assoc, mul_lt_mul_iff_left₀ (clearing_pos x k)]

/-! ### Points of a grid -/

theorem mul_zpow_exponent (a : ℚ) (e : ℤ) : a * 2 ^ e = 4 * a * 2 ^ (e - 2) := by
  rw [zpow_sub₀ two_ne_zero]
  norm_num
  ring

/-- The lower bound in quarters of the last binary place. -/
theorem cast_low_quarters (hmantissa : 0 < x.mantissa) :
    ((4 * x.mantissa - (if x.narrowBelow then 1 else 2) : ℕ) : ℚ) =
      4 * (x.mantissa - if x.narrowBelow then 1 / 4 else 1 / 2) := by
  cases x.narrowBelow
  · rw [if_neg Bool.false_ne_true, if_neg Bool.false_ne_true, Nat.cast_sub (by omega)]
    push_cast
    ring
  · rw [if_pos rfl, if_pos rfl, Nat.cast_sub (by omega)]
    push_cast
    ring

/-- A point of a grid is near the number exactly if it rounds to the number. -/
theorem isNear_iff_rounds (hmantissa : 0 < x.mantissa) (n : ℕ) :
    x.isNear k (n * x.step k) = true ↔ x.Rounds (n * 10 ^ k) := by
  have hlow := cast_low_quarters hmantissa
  have hhigh : (4 * x.mantissa + 2 : ℕ) = 4 * (x.mantissa + 1 / 2 : ℚ) := by
    push_cast
    ring
  rw [Rounds, isNear, mul_zpow_exponent (x.mantissa + 1 / 2), mul_zpow_exponent _ x.exponent,
    ← hlow, ← hhigh]
  -- Half way between two numbers belongs to the one with the even mantissa.
  by_cases heven : x.mantissa % 2 = 0
  · simp only [heven, beq_self_eq_true, if_true, Bool.and_eq_true, decide_eq_true_eq, ← not_lt,
      mul_quarter_lt_iff, lt_mul_quarter_iff]
  · simp only [heven, beq_iff_eq, if_false, Bool.and_eq_true, decide_eq_true_eq,
      mul_quarter_lt_iff, lt_mul_quarter_iff]

/-- A decimal that is found on a grid is a point of that grid other than zero, and rounds to the
number. -/
theorem rounds_of_onGrid_eq_some (hmantissa : 0 < x.mantissa) {d : Decimal}
    (h : onGrid x k = some d) : 0 < d.digits ∧ x.Rounds d.toRat := by
  unfold onGrid at h
  dsimp only at h
  split at h
  · rename_i hlower
    rw [Bool.and_eq_true, Bool.and_eq_true, decide_eq_true_eq] at hlower
    cases h
    exact ⟨hlower.1.1, (isNear_iff_rounds hmantissa _).1 hlower.1.2⟩
  · split at h
    · rename_i hupper
      cases h
      exact ⟨Nat.succ_pos _, (isNear_iff_rounds hmantissa _).1 hupper⟩
    · cases h

/-! ### The finest grid -/

theorem pow_le_quarter (x : Binary) (n : ℕ) : 10 ^ n ≤ x.quarter (-n) := by
  rw [quarter, neg_neg, Int.toNat_natCast]
  exact Nat.le_mul_of_pos_left _ (Nat.two_pow_pos _)

/-- On the finest grid, a step is less than two quarters of the last binary place. -/
theorem step_lt_two_mul_quarter (hexponent : -1074 ≤ x.exponent) :
    x.step (-324) < 2 * x.quarter (-324) := by
  have hstep (n : ℕ) (hn : (2 - x.exponent).toNat ≤ n) :
      (2 : ℕ) ^ (2 - x.exponent).toNat ≤ 2 ^ n :=
    Nat.pow_le_pow_right two_pos hn
  have hpow : (2 : ℕ) ^ 1076 < 2 * 10 ^ 324 := by decide +kernel
  calc x.step (-324) = 2 ^ (2 - x.exponent).toNat := Nat.one_mul _
    _ < 2 * 10 ^ 324 := (hstep 1076 (by omega)).trans_lt hpow
    _ ≤ 2 * x.quarter (-324) := Nat.mul_le_mul_left 2 (pow_le_quarter x 324)

/-- There, the upper neighbour of the number rounds to it. -/
theorem exists_onGrid_eq_some (hexponent : -1074 ≤ x.exponent) :
    ∃ d, onGrid x (-324) = some d := by
  have hstep := step_lt_two_mul_quarter hexponent
  have hlow : (4 * x.mantissa - (if x.narrowBelow then 1 else 2)) * x.quarter (-324) ≤
      4 * x.mantissa * x.quarter (-324) :=
    Nat.mul_le_mul_right _ (Nat.sub_le _ _)
  have hhigh : (4 * x.mantissa + 2) * x.quarter (-324) =
      4 * x.mantissa * x.quarter (-324) + 2 * x.quarter (-324) := Nat.add_mul _ _ _
  have hpos : 0 < x.step (-324) := Nat.mul_pos (Nat.pow_pos (by omega)) (Nat.two_pow_pos _)
  have hbelow := Nat.div_mul_le_self (4 * x.mantissa * x.quarter (-324)) (x.step (-324))
  have habove := Nat.lt_div_mul_add (a := 4 * x.mantissa * x.quarter (-324)) hpos
  -- It is less than a step above the number, and so less than half way to the next one.
  have hnear : x.isNear (-324)
      ((4 * x.mantissa * x.quarter (-324) / x.step (-324) + 1) * x.step (-324)) = true := by
    rw [Nat.succ_mul, isNear]
    split <;> rw [Bool.and_eq_true, decide_eq_true_eq, decide_eq_true_eq] <;> omega
  unfold onGrid
  dsimp only
  rw [hnear]
  split <;> simp

/-- The shortest decimal rounds to the number, if the number is one of the format. -/
theorem rounds_shortest (hmantissa : 0 < x.mantissa) (hexponent : -1074 ≤ x.exponent) :
    0 < (shortest x).digits ∧ x.Rounds (shortest x).toRat := by
  obtain ⟨d, hd⟩ : ∃ d, (List.range 634).findSome? (fun (i : ℕ) => onGrid x (309 - (i : ℤ))) =
      some d := by
    rw [← Option.isSome_iff_exists, List.findSome?_isSome_iff]
    obtain ⟨d, hd⟩ := exists_onGrid_eq_some hexponent
    refine ⟨633, List.mem_range.2 (by omega), ?_⟩
    show (onGrid x (-324)).isSome = true
    rw [hd]
    rfl
  obtain ⟨i, -, hi⟩ := List.exists_of_findSome?_eq_some hd
  rw [shortest, hd]
  exact rounds_of_onGrid_eq_some hmantissa hi

end Binary

end NewsScoring.Decimal
