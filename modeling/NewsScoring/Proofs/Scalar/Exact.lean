import Mathlib.Analysis.Real.Sqrt
import Mathlib.Analysis.SpecialFunctions.Log.Basic
import Mathlib.Data.EReal.Inv
import NewsScoring.Proofs.Scalar.Order

/-!
# Exact numbers

`Exact` has the real numbers, two infinities and NaN, with the operations of floating-point numbers
carried out without rounding: what is undefined is NaN, and nothing overflows.  There is one zero
only, and a number other than zero divided by it is infinite by its own sign.
-/

namespace NewsScoring

/-- A number without rounding, or NaN. -/
inductive Exact where
  | nan
  | number (x : EReal)

namespace Exact

/-- A real number. -/
def ofReal (x : ℝ) : Exact :=
  number x

/-- The real number that is meant; zero for what is none. -/
noncomputable def toReal : Exact → ℝ
  | nan => 0
  | number x => x.toReal

/-- Whether an extended real number is infinite. -/
def IsInfinite (x : EReal) : Prop :=
  x = ⊤ ∨ x = ⊥

open scoped Classical in
noncomputable instance : Add Exact where
  add
    | number x, number y =>
      if (x = ⊤ ∧ y = ⊥) ∨ (x = ⊥ ∧ y = ⊤) then nan else number (x + y)
    | _, _ => nan

noncomputable instance : Neg Exact where
  neg
    | number x => number (-x)
    | nan => nan

noncomputable instance : Sub Exact where
  sub x y := x + -y

open scoped Classical in
noncomputable instance : Mul Exact where
  mul
    | number x, number y =>
      if (x = 0 ∧ IsInfinite y) ∨ (IsInfinite x ∧ y = 0) then nan else number (x * y)
    | _, _ => nan

open scoped Classical in
noncomputable instance : Div Exact where
  div
    | number x, number y =>
      if y = 0 then (if x = 0 then nan else number (if 0 < x then ⊤ else ⊥))
      else if IsInfinite x ∧ IsInfinite y then nan
      else number (x / y)
    | _, _ => nan

instance : LE Exact where
  le
    | number x, number y => x ≤ y
    | _, _ => False

instance : LT Exact where
  lt
    | number x, number y => x < y
    | _, _ => False

open scoped Classical in
noncomputable instance : Scalar Exact where
  decidableLe _ _ := inferInstance
  decidableLt _ _ := inferInstance
  ofNat n := ofReal n
  sqrt
    | number x => if x < 0 then nan else if x = ⊤ then number ⊤ else ofReal (Real.sqrt x.toReal)
    | nan => nan
  log
    | number x =>
      if x < 0 then nan
      else if x = 0 then number ⊥
      else if x = ⊤ then number ⊤
      else ofReal (Real.log x.toReal)
    | nan => nan
  floor x := ⌊x.toReal⌋₊
  isFinite
    | number x => ¬IsInfinite x
    | nan => false
  sortsBefore
    | number x, number y => x ≤ y
    | nan, number _ => false
    | _, nan => true

/-! ### Real numbers -/

variable {x y : ℝ}

@[simp]
theorem toReal_ofReal (x : ℝ) : (ofReal x).toReal = x :=
  EReal.toReal_coe x

@[simp]
theorem ofReal_inj : ofReal x = ofReal y ↔ x = y := by
  simp [ofReal]

@[simp]
theorem ofReal_le : ofReal x ≤ ofReal y ↔ x ≤ y :=
  EReal.coe_le_coe_iff

@[simp]
theorem ofReal_lt : ofReal x < ofReal y ↔ x < y :=
  EReal.coe_lt_coe_iff

@[simp]
theorem ofNat_eq (n : ℕ) : (Scalar.ofNat n : Exact) = ofReal n :=
  rfl

open scoped Classical in
@[simp]
theorem ofReal_add : ofReal x + ofReal y = ofReal (x + y) := by
  show (if _ then nan else number _) = _
  rw [if_neg (by simp)]
  rfl

@[simp]
theorem neg_ofReal : -ofReal x = ofReal (-x) :=
  rfl

@[simp]
theorem ofReal_sub : ofReal x - ofReal y = ofReal (x - y) := by
  show ofReal x + -ofReal y = _
  rw [neg_ofReal, ofReal_add, sub_eq_add_neg]

open scoped Classical in
@[simp]
theorem ofReal_mul : ofReal x * ofReal y = ofReal (x * y) := by
  show (if _ then nan else number _) = _
  rw [if_neg (by simp [IsInfinite])]
  rfl

open scoped Classical in
theorem ofReal_div (hy : y ≠ 0) : ofReal x / ofReal y = ofReal (x / y) := by
  show (if _ then _ else if _ then nan else number _) = _
  rw [if_neg (by simpa using hy), if_neg (by simp [IsInfinite]), ofReal, EReal.coe_div]

open scoped Classical in
theorem sqrt_ofReal (hx : 0 ≤ x) : Scalar.sqrt (ofReal x) = ofReal √x := by
  show (if _ then nan else if _ then number ⊤ else ofReal _) = _
  rw [if_neg (by simpa using hx), if_neg (by simp), EReal.toReal_coe]

open scoped Classical in
theorem log_ofReal (hx : 0 < x) : Scalar.log (ofReal x) = ofReal (Real.log x) := by
  show (if _ then nan else if _ then number ⊥ else if _ then number ⊤ else ofReal _) = _
  rw [if_neg (by simpa using hx.le), if_neg (by simpa using hx.ne'), if_neg (by simp),
    EReal.toReal_coe]

/-- The logarithm of zero is below all real numbers. -/
theorem not_ofReal_lt_log_zero (x : ℝ) : ¬ofReal x < Scalar.log (ofReal 0) := by
  have hlog : Scalar.log (ofReal 0) = number ⊥ := by
    show (if _ then nan else if _ then number ⊥ else _) = _
    rw [if_neg (by simp), if_pos EReal.coe_zero]
  rw [hlog]
  exact not_lt_bot (α := EReal)

theorem zero_eq : (Scalar.zero : Exact) = ofReal 0 := by
  simp [Scalar.zero]

theorem one_eq : (Scalar.one : Exact) = ofReal 1 := by
  simp [Scalar.one]

@[simp]
theorem equals_ofReal : Scalar.equals (ofReal x) (ofReal y) = true ↔ x = y := by
  rw [Scalar.equals, Bool.and_eq_true, decide_eq_true_eq, decide_eq_true_eq, ofReal_le, ofReal_le,
    le_antisymm_iff]

open scoped Classical in
@[simp]
theorem isFinite_ofReal : Scalar.isFinite (ofReal x) = true := by
  show decide (¬IsInfinite x) = true
  simp [IsInfinite]

open scoped Classical in
theorem eq_ofReal_toReal {x : Exact} (h : Scalar.isFinite x = true) : x = ofReal x.toReal := by
  cases x with
  | nan => cases h
  | number x =>
    have hfinite : ¬IsInfinite x := of_decide_eq_true h
    rw [IsInfinite, not_or] at hfinite
    rw [ofReal, toReal, EReal.coe_toReal hfinite.1 hfinite.2]

/-- A number between two real numbers is real. -/
theorem exists_eq_ofReal {a b : ℝ} {x : Exact} (ha : ofReal a ≤ x) (hb : x ≤ ofReal b) :
    ∃ r, x = ofReal r ∧ a ≤ r ∧ r ≤ b := by
  cases x with
  | nan => cases ha
  | number x =>
    have ha' : (a : EReal) ≤ x := ha
    have hb' : x ≤ (b : EReal) := hb
    lift x to ℝ using ⟨ne_top_of_le_ne_top (EReal.coe_ne_top b) hb',
      ne_bot_of_le_ne_bot (EReal.coe_ne_bot a) ha'⟩
    exact ⟨x, rfl, EReal.coe_le_coe_iff.1 ha', EReal.coe_le_coe_iff.1 hb'⟩

theorem exists_eq_number {x : Exact} (h : Scalar.isNaN x = false) : ∃ y, x = number y := by
  cases x with
  | nan =>
    have hle : (nan : Exact) ≤ nan := by simpa [Scalar.isNaN] using h
    cases hle
  | number y => exact ⟨y, rfl⟩

/-! ### Order -/

instance : ScoreOrder Exact where
  le_trans := by
    intro x y z hxy hyz
    cases x with
    | nan => cases hxy
    | number x =>
      cases z with
      | nan => cases y <;> contradiction
      | number z =>
        cases y with
        | nan => cases hyz
        | number y => exact le_trans (α := EReal) hxy hyz
  le_self_of_le := by
    intro x y hxy
    cases y with
    | nan => cases x <;> contradiction
    | number y => exact le_refl y
  le_total := by
    intro x y hx hy
    cases x with
    | nan => cases hx
    | number x =>
      cases y with
      | nan => cases hy
      | number y => exact le_total x y

instance : FiniteOrder Exact where
  lt_iff := by
    intro x y
    cases x with
    | nan => exact iff_of_false id fun h => h.1
    | number x =>
      cases y with
      | nan => exact iff_of_false id fun h => h.1
      | number y => exact lt_iff_le_not_ge (α := EReal)
  le_self_of_isFinite := by
    intro x hx
    rw [eq_ofReal_toReal hx, ofReal_le]

/-! ### Numbers between two bounds -/

section

variable {a b : ℝ} {x : Exact}

theorem clamp_eq_self (ha : ofReal a ≤ x) (hb : x ≤ ofReal b) :
    Scalar.clamp (ofReal a) (ofReal b) x = x := by
  obtain ⟨r, rfl, har, hrb⟩ := exists_eq_ofReal ha hb
  rw [Scalar.clamp, if_neg (by simpa using har), if_neg (by simpa using hrb)]

theorem clamp_of_le (hab : a ≤ b) (h : x ≤ ofReal a) :
    Scalar.clamp (ofReal a) (ofReal b) x = ofReal a := by
  cases x with
  | nan => cases h
  | number y =>
    have hya : y ≤ (a : EReal) := h
    rw [Scalar.clamp]
    by_cases hlt : number y < ofReal a
    · rw [if_pos hlt]
    · obtain rfl : y = a := le_antisymm hya (not_lt.1 hlt)
      have hnot : ¬ofReal b < number (a : EReal) := by
        rw [← ofReal, ofReal_lt]
        exact not_lt.2 hab
      rw [if_neg hlt, if_neg hnot]
      rfl

theorem clamp_of_ge (hab : a ≤ b) (h : ofReal b ≤ x) :
    Scalar.clamp (ofReal a) (ofReal b) x = ofReal b := by
  cases x with
  | nan => cases h
  | number y =>
    have hby : (b : EReal) ≤ y := h
    have hay : ¬number y < ofReal a :=
      not_lt.2 ((EReal.coe_le_coe_iff.2 hab).trans hby)
    rw [Scalar.clamp, if_neg hay]
    by_cases hlt : ofReal b < number y
    · rw [if_pos hlt]
    · obtain rfl : y = b := le_antisymm (not_lt.1 hlt) hby
      rw [if_neg hlt]
      rfl

/-- A number that is not NaN and lies strictly between two real numbers is real. -/
theorem exists_eq_ofReal_of_lt (hx : Scalar.isNaN x = false) (ha : ¬x ≤ ofReal a)
    (hb : ¬ofReal b ≤ x) :
    ∃ t, x = ofReal t ∧ a < t ∧ t < b := by
  obtain ⟨y, rfl⟩ := exists_eq_number hx
  have hay : (a : EReal) < y := not_le.1 ha
  have hyb : y < (b : EReal) := not_le.1 hb
  obtain ⟨t, ht, -, -⟩ := exists_eq_ofReal (show ofReal a ≤ number y from hay.le)
    (show number y ≤ ofReal b from hyb.le)
  rw [ht, ofReal_le, not_le] at ha hb
  exact ⟨t, ht, ha, hb⟩

end

open scoped Classical in
theorem clamp_number {a b : ℝ} (hab : a ≤ b) (y : EReal) :
    Scalar.clamp (ofReal a) (ofReal b) (number y) = number (max a (min b y)) := by
  have hab' : (a : EReal) ≤ b := EReal.coe_le_coe_iff.2 hab
  rw [Scalar.clamp]
  by_cases hlow : number y < ofReal a
  · have hlow' : y < a := hlow
    rw [if_pos hlow, min_eq_right (hlow'.le.trans hab'), max_eq_left hlow'.le]
    rfl
  · have hlow' : a ≤ y := not_lt.1 hlow
    rw [if_neg hlow]
    by_cases hhigh : ofReal b < number y
    · have hhigh' : b < y := hhigh
      rw [if_pos hhigh, min_eq_left hhigh'.le, max_eq_right hab']
      rfl
    · have hhigh' : y ≤ b := not_lt.1 hhigh
      rw [if_neg hhigh, min_eq_right hhigh', max_eq_right hlow']

/-- The nearest numbers between two bounds are in the order of the numbers. -/
theorem clamp_mono {a b : ℝ} (hab : a ≤ b) {x y : Exact} (hxy : x ≤ y) :
    Scalar.clamp (ofReal a) (ofReal b) x ≤ Scalar.clamp (ofReal a) (ofReal b) y := by
  cases x with
  | nan => cases hxy
  | number x =>
    cases y with
    | nan => cases hxy
    | number y =>
      have hxy' : x ≤ y := hxy
      rw [clamp_number hab, clamp_number hab]
      exact max_le_max le_rfl (min_le_min le_rfl hxy')

theorem isNaN_eq_false_of_le {x y : Exact} (h : x ≤ y) :
    Scalar.isNaN x = false ∧ Scalar.isNaN y = false := by
  cases x with
  | nan => cases h
  | number x =>
    cases y with
    | nan => cases h
    | number y =>
      have hx : number x ≤ number x := le_refl x
      have hy : number y ≤ number y := le_refl y
      simp [Scalar.isNaN, hx, hy]

end Exact

end NewsScoring
