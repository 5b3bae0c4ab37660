import Mathlib.Data.Prod.Lex
import NewsScoring.Scalar

/-!
# The order of scores

Scores that are not NaN are ordered like numbers: `≤` is transitive, and any two of them are
comparable (`ScoreOrder`).  For floating-point numbers this is shown by giving each of them a
position in a linear order, by its sign, its exponent and its mantissa (`position?`); infinities
stand at the ends, the two zeros at one place, and NaN nowhere.  Finite scores are not NaN, so that
they are compared by `<` like numbers, too (`FiniteOrder`).
-/

namespace NewsScoring

/-- A transitive comparison that is total among the scores that are at most themselves, and compares
no others. -/
class ScoreOrder (ν : Type) [LE ν] : Prop where
  le_trans : ∀ {x y z : ν}, x ≤ y → y ≤ z → x ≤ z
  le_self_of_le : ∀ {x y : ν}, x ≤ y → y ≤ y
  le_total : ∀ {x y : ν}, x ≤ x → y ≤ y → x ≤ y ∨ y ≤ x

namespace FloatOrder

open Float.Model

/-- The position of a floating-point number among the others, if it is not NaN. -/
def position? : UnpackedFloat → Option (ℤ ×ₗ ℤ ×ₗ ℤ)
  | .notANumber => none
  | .infinity .negative => some (toLex (-2, toLex (0, 0)))
  | .finite .negative mantissa exponent _ => some (toLex (-1, toLex (-exponent, -(mantissa : ℤ))))
  | .zero _ => some (toLex (0, toLex (0, 0)))
  | .finite .positive mantissa exponent _ => some (toLex (1, toLex (exponent, (mantissa : ℤ))))
  | .infinity .positive => some (toLex (2, toLex (0, 0)))

/-- A comparison of exponents and then mantissas. -/
theorem isLE_compare_then (e₁ e₂ : ℤ) (m₁ m₂ : ℕ) :
    ((compare e₁ e₂).then (compare m₁ m₂)).isLE = true ↔ e₁ < e₂ ∨ e₁ = e₂ ∧ m₁ ≤ m₂ := by
  rcases lt_trichotomy e₁ e₂ with h | h | h
  · simp [compare_lt_iff_lt.2 h, h]
  · simp [h, Nat.isLE_compare]
  · have hne : e₁ ≠ e₂ := ne_of_gt h
    simp [compare_gt_iff_gt.2 h, not_lt_of_gt h, hne]

theorem isLE_swap_compare_then (e₁ e₂ : ℤ) (m₁ m₂ : ℕ) :
    ((compare e₁ e₂).then (compare m₁ m₂)).swap.isLE = true ↔ e₂ < e₁ ∨ e₁ = e₂ ∧ m₂ ≤ m₁ := by
  rcases lt_trichotomy e₁ e₂ with h | h | h
  · have hne : e₁ ≠ e₂ := ne_of_lt h
    simp [compare_lt_iff_lt.2 h, not_lt_of_gt h, hne]
  · simp [h, Nat.isGE_compare]
  · simp [compare_gt_iff_gt.2 h, h]

/-- One number is at most another exactly if it stands no later. -/
theorem le_iff (a b : UnpackedFloat) :
    a.le b = true ↔ ∃ p q, position? a = some p ∧ position? b = some q ∧ p ≤ q := by
  rcases a with (_ | _) | _ | _ | ⟨_ | _, m₁, e₁, h₁⟩ <;>
    rcases b with (_ | _) | _ | _ | ⟨_ | _, m₂, e₂, h₂⟩ <;>
    dsimp only [UnpackedFloat.le, UnpackedFloat.compare, position?] <;>
    simp [Prod.Lex.toLex_le_toLex, isLE_compare_then, -Ordering.isLE_swap, isLE_swap_compare_then]
  -- What remains are the comparisons of infinities.
  all_goals decide

theorem float_le_iff (x y : Float) :
    x ≤ y ↔ ∃ p q, position? x.toModel.unpack = some p ∧ position? y.toModel.unpack = some q ∧
      p ≤ q := by
  rw [← le_iff]
  show (decide (x.toModel ≤ y.toModel)) = true ↔ _
  rw [decide_eq_true_iff]
  rfl

theorem compare_then_eq_lt (e₁ e₂ : ℤ) (m₁ m₂ : ℕ) :
    (compare e₁ e₂).then (compare m₁ m₂) = .lt ↔ e₁ < e₂ ∨ e₁ = e₂ ∧ m₁ < m₂ := by
  rw [Ordering.then_eq_lt, compare_lt_iff_lt, compare_lt_iff_lt, compare_eq_iff_eq]

theorem swap_compare_then_eq_lt (e₁ e₂ : ℤ) (m₁ m₂ : ℕ) :
    ((compare e₁ e₂).then (compare m₁ m₂)).swap = .lt ↔ e₂ < e₁ ∨ e₁ = e₂ ∧ m₂ < m₁ := by
  rw [Ordering.swap_eq_lt, Ordering.then_eq_gt, compare_gt_iff_gt, compare_gt_iff_gt,
    compare_eq_iff_eq]

/-- One number is less than another exactly if it stands earlier. -/
theorem lt_iff (a b : UnpackedFloat) :
    a.lt b = true ↔ ∃ p q, position? a = some p ∧ position? b = some q ∧ p < q := by
  rcases a with (_ | _) | _ | _ | ⟨_ | _, m₁, e₁, h₁⟩ <;>
    rcases b with (_ | _) | _ | _ | ⟨_ | _, m₂, e₂, h₂⟩ <;>
    dsimp only [UnpackedFloat.lt, UnpackedFloat.compare, position?] <;>
    simp [Prod.Lex.toLex_lt_toLex, compare_then_eq_lt, -Ordering.swap_eq_lt,
      swap_compare_then_eq_lt]
  decide

theorem float_lt_iff (x y : Float) :
    x < y ↔ ∃ p q, position? x.toModel.unpack = some p ∧ position? y.toModel.unpack = some q ∧
      p < q := by
  rw [← lt_iff]
  show (decide (x.toModel < y.toModel)) = true ↔ _
  rw [decide_eq_true_iff]
  rfl

/-- A number is positive exactly if it stands behind zero. -/
theorem float_pos_iff (x : Float) :
    Float.ofNat 0 < x ↔
      ∃ p, position? x.toModel.unpack = some p ∧ toLex (0, toLex (0, 0)) < p := by
  have hzero : position? (Float.ofNat 0).toModel.unpack = some (toLex (0, toLex (0, 0))) := rfl
  rw [float_lt_iff, hzero]
  simp only [Option.some.injEq, exists_and_left, exists_eq_left']

/-- A finite number is not NaN. -/
theorem le_self_of_isFinite {x : Float} (h : x.isFinite = true) : x ≤ x := by
  have hfinite : x.toModel.unpack.isFinite = true := h
  have hposition : position? x.toModel.unpack ≠ none := by
    cases hunpack : x.toModel.unpack with
    | notANumber =>
      rw [hunpack] at hfinite
      cases hfinite
    | infinity sign => cases sign <;> exact Option.some_ne_none _
    | zero sign => exact Option.some_ne_none _
    | finite sign mantissa exponent hpos => cases sign <;> exact Option.some_ne_none _
  obtain ⟨p, hp⟩ := Option.ne_none_iff_exists'.1 hposition
  exact (float_le_iff x x).2 ⟨p, p, hp, hp, le_rfl⟩

end FloatOrder

open FloatOrder in
instance : ScoreOrder Float where
  le_trans := by
    intro x y z hxy hyz
    rw [float_le_iff] at hxy hyz ⊢
    obtain ⟨p, q, hx, hy, hpq⟩ := hxy
    obtain ⟨q', r, hy', hz, hqr⟩ := hyz
    have hq : q = q' := Option.some.inj (hy.symm.trans hy')
    exact ⟨p, r, hx, hz, hpq.trans (hq ▸ hqr)⟩
  le_self_of_le := by
    intro x y hxy
    rw [float_le_iff] at hxy ⊢
    obtain ⟨p, q, -, hy, -⟩ := hxy
    exact ⟨q, q, hy, hy, le_refl q⟩
  le_total := by
    intro x y hx hy
    rw [float_le_iff] at hx hy
    obtain ⟨p, -, hp, -, -⟩ := hx
    obtain ⟨q, -, hq, -, -⟩ := hy
    rcases le_total p q with hpq | hqp
    · exact .inl ((float_le_iff x y).2 ⟨p, q, hp, hq, hpq⟩)
    · exact .inr ((float_le_iff y x).2 ⟨q, p, hq, hp, hqp⟩)

open FloatOrder in
/-- One number is less than another exactly if it is at most that one, but not the other way. -/
instance lawfulOrderLT_float : Std.LawfulOrderLT Float where
  lt_iff := by
    intro x y
    rw [float_lt_iff, float_le_iff, float_le_iff]
    constructor
    · rintro ⟨p, q, hp, hq, hlt⟩
      refine ⟨⟨p, q, hp, hq, hlt.le⟩, ?_⟩
      rintro ⟨q', p', hq', hp', hge⟩
      obtain rfl := Option.some.inj (hp.symm.trans hp')
      obtain rfl := Option.some.inj (hq.symm.trans hq')
      exact not_lt_of_ge hge hlt
    · rintro ⟨⟨p, q, hp, hq, hle⟩, hnot⟩
      exact ⟨p, q, hp, hq, lt_of_le_not_ge hle fun hge => hnot ⟨q, p, hq, hp, hge⟩⟩

/-- An order of scores in which finite ones are not NaN, and `<` is `≤` one way only. -/
class FiniteOrder (α : Type) [Scalar α] : Prop extends ScoreOrder α, Std.LawfulOrderLT α where
  le_self_of_isFinite : ∀ {x : α}, Scalar.isFinite x = true → x ≤ x

instance (log : Float → Float) : @FiniteOrder Float (.float log) :=
  letI := Scalar.float log
  { le_self_of_isFinite := FloatOrder.le_self_of_isFinite }

/-- Of two finite scores, one is at most the other exactly if the other is not below it. -/
theorem FiniteOrder.not_lt_iff_le {α : Type} [Scalar α] [FiniteOrder α] {x y : α}
    (hx : Scalar.isFinite x = true) (hy : Scalar.isFinite y = true) : ¬y < x ↔ x ≤ y := by
  rw [Std.LawfulOrderLT.lt_iff]
  constructor
  · intro hnot
    rcases ScoreOrder.le_total (le_self_of_isFinite hx) (le_self_of_isFinite hy) with hle | hge
    · exact hle
    · by_contra hle
      exact hnot ⟨hge, hle⟩
  · rintro hle ⟨-, hnot⟩
    exact hnot hle

end NewsScoring
