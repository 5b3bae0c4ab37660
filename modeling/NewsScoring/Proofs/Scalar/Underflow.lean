import Mathlib
import NewsScoring.Proofs.Scalar.Order

/-!
# Positive numbers that do not vanish

Results of floating-point operations are rounded, and those that are too small are rounded to zero.
A lower bound for the exponents of two numbers is one for the exponent of their product, unless it
is below all exponents, of their sum, and of a root: the result has all the bits of a mantissa again
(`exceeds_roundWithAccuracy`), and is stored with them (`exceeds_unpack_pack`).  So numbers are
followed through a computation by how large they are (`IsLarge`), as long as they are not zero
(`IsZero`).
-/

namespace NewsScoring.FloatBound

open Float.Model UnpackedFloat

/-- Whether a number is positive with all the bits of a mantissa and an exponent of at least `n`, or
the positive infinity. -/
def Exceeds (n : ℤ) : UnpackedFloat → Prop
  | .infinity .positive => True
  | .finite .positive mantissa exponent _ => mantissa.log2 = 52 ∧ n ≤ exponent
  | _ => False

/-! ### Rounding -/

theorem mantissa_shiftRight (extended : ExtendedMantissa) (k : ℕ) :
    (extended >>> k).mantissa = extended.mantissa / 2 ^ k := by
  induction k with
  | zero => simp [HShiftRight.hShiftRight, Nat.repeat]
  | succ k ih =>
    show (extended >>> k).mantissa / 2 = _
    rw [ih, Nat.div_div_eq_div_mul, Nat.pow_succ]

theorem mantissa_le_roundedMantissa (extended : ExtendedMantissa) :
    extended.mantissa ≤ extended.roundedMantissa := by
  obtain ⟨mantissa, roundBit, stickyBit⟩ := extended
  cases roundBit <;> cases stickyBit <;>
    simp [ExtendedMantissa.roundedMantissa, ExtendedMantissa.accuracy, Accuracy.roundToNearestEven]

theorem mantissa_ofMantissaAndAccuracy (mantissa : ℕ) (accuracy : Accuracy) :
    (ExtendedMantissa.ofMantissaAndAccuracy mantissa accuracy).mantissa = mantissa := by
  rcases accuracy with _ | _ | _ | _ <;> rfl

/-- The exponent that a mantissa of at least 53 bits gets, where it is not too small. -/
theorem targetExponent_eq {mantissa : ℕ} {exponent : ℤ} (hbits : 52 ≤ mantissa.log2)
    (hexponent : -1022 ≤ mantissa.log2 + exponent) :
    Format.binary64.targetExponent (totalExponent mantissa exponent) =
      exponent + (mantissa.log2 - 52 : ℕ) := by
  simp only [Format.targetExponent, totalExponent, Format.mantissaBits, Format.minExponent]
  norm_num
  omega

theorem shiftToTargetExponent_eq {mantissa : ℕ} {exponent : ℤ} (accuracy : Accuracy)
    (hbits : 52 ≤ mantissa.log2) (hexponent : -1022 ≤ mantissa.log2 + exponent) :
    shiftToTargetExponent Format.binary64 mantissa exponent accuracy =
      (ExtendedMantissa.ofMantissaAndAccuracy mantissa accuracy >>> (mantissa.log2 - 52),
        exponent + (mantissa.log2 - 52 : ℕ)) := by
  have hshift : (exponent + (mantissa.log2 - 52 : ℕ) - exponent).toNat = mantissa.log2 - 52 := by
    omega
  rw [shiftToTargetExponent, targetExponent_eq hbits hexponent, shiftToExponent, hshift]

/-- The first 53 bits of a mantissa. -/
theorem div_two_pow_mem {mantissa : ℕ} (hbits : 52 ≤ mantissa.log2) :
    2 ^ 52 ≤ mantissa / 2 ^ (mantissa.log2 - 52) ∧
      mantissa / 2 ^ (mantissa.log2 - 52) < 2 ^ 53 := by
  have hne : mantissa ≠ 0 := by
    rintro rfl
    exact absurd hbits (by decide)
  have hpos : 0 < 2 ^ (mantissa.log2 - 52) := Nat.two_pow_pos _
  rw [Nat.le_div_iff_mul_le hpos, Nat.div_lt_iff_lt_mul hpos, ← Nat.pow_add, ← Nat.pow_add,
    show 52 + (mantissa.log2 - 52) = mantissa.log2 by omega,
    show 53 + (mantissa.log2 - 52) = mantissa.log2 + 1 by omega]
  exact ⟨Nat.log2_self_le hne, Nat.lt_log2_self⟩

variable {n : ℤ}

/-- A number with enough bits is rounded to one that has its exponent or the next. -/
theorem exceeds_roundWithAccuracy (hn : -1074 ≤ n) {mantissa : ℕ} {exponent : ℤ}
    (accuracy : Accuracy) (hbits : 52 ≤ mantissa.log2)
    (hexponent : n + 52 ≤ mantissa.log2 + exponent) :
    Exceeds n (roundWithAccuracy Format.binary64 .positive mantissa exponent accuracy) := by
  have hlow : -1022 ≤ mantissa.log2 + exponent := by omega
  have hfirst := shiftToTargetExponent_eq accuracy hbits hlow
  have hmantissa := mantissa_shiftRight
    (ExtendedMantissa.ofMantissaAndAccuracy mantissa accuracy) (mantissa.log2 - 52)
  rw [mantissa_ofMantissaAndAccuracy] at hmantissa
  generalize ExtendedMantissa.ofMantissaAndAccuracy mantissa accuracy >>> (mantissa.log2 - 52) =
    extended at hfirst hmantissa
  -- Rounding up may add a bit to the mantissa, which a second shift takes off.
  have hrounded : 2 ^ 52 ≤ extended.roundedMantissa := by
    refine Nat.le_trans ?_ (mantissa_le_roundedMantissa extended)
    rw [hmantissa]
    exact (div_two_pow_mem hbits).1
  have hne : extended.roundedMantissa ≠ 0 := by omega
  have hroundedBits : 52 ≤ extended.roundedMantissa.log2 := (Nat.le_log2 hne).2 hrounded
  have hsecond := shiftToTargetExponent_eq .exact hroundedBits
    (show -1022 ≤ extended.roundedMantissa.log2 + (exponent + (mantissa.log2 - 52 : ℕ)) by omega)
  have hfinal := div_two_pow_mem hroundedBits
  rw [roundWithAccuracy, hfirst]
  dsimp only
  rw [hsecond]
  dsimp only
  rw [mantissa_shiftRight, mantissa_ofMantissaAndAccuracy, dif_neg (by omega)]
  exact ⟨(Nat.log2_eq_iff (by omega)).2 hfinal, by omega⟩

theorem shiftLeft_pos {mantissa : ℕ} (hpos : 0 < mantissa) (k : ℕ) : 0 < mantissa <<< k := by
  rw [Nat.shiftLeft_eq]
  exact Nat.mul_pos hpos (Nat.two_pow_pos k)

theorem log2_add_le_log2_shiftLeft {mantissa : ℕ} (hpos : 0 < mantissa) (k : ℕ) :
    mantissa.log2 + k ≤ (mantissa <<< k).log2 := by
  rw [Nat.le_log2 (Nat.ne_of_gt (shiftLeft_pos hpos k)), Nat.shiftLeft_eq, Nat.pow_add]
  exact Nat.mul_le_mul_right _ (Nat.log2_self_le (Nat.ne_of_gt hpos))

theorem exceeds_round (hn : -1074 ≤ n) {mantissa : ℕ} {exponent : ℤ} (hpos : 0 < mantissa)
    (hexponent : n + 52 ≤ mantissa.log2 + exponent) :
    Exceeds n (round Format.binary64 .positive mantissa exponent) := by
  have htarget : Format.binary64.targetExponent (totalExponent mantissa exponent) =
      mantissa.log2 + exponent - 52 := by
    simp only [Format.targetExponent, totalExponent, Format.mantissaBits, Format.minExponent]
    norm_num
    omega
  have hbits := log2_add_le_log2_shiftLeft hpos
    (exponent - (mantissa.log2 + exponent - 52)).toNat
  rw [UnpackedFloat.round, htarget, decreaseExponent]
  exact exceeds_roundWithAccuracy hn .exact (by omega) (by omega)

theorem exceeds_normalize (hn : -1074 ≤ n) {mantissa : ℕ} {exponent : ℤ} (hpos : 0 < mantissa)
    (hexponent : n + 52 ≤ mantissa.log2 + exponent) (zeroSign : Sign) :
    Exceeds n (normalize Format.binary64 mantissa exponent zeroSign) := by
  have hcompare : compare (mantissa : ℤ) 0 = .gt := compare_gt_iff_gt.2 (Int.natCast_pos.2 hpos)
  rw [UnpackedFloat.normalize, hcompare]
  exact exceeds_round hn hpos hexponent

/-! ### Storing -/

theorem toNat_one_append (bits : BitVec 52) : (1#1 ++ bits).toNat = 2 ^ 52 + bits.toNat := by
  rw [BitVec.toNat_append, ← Nat.shiftLeft_add_eq_or_of_lt bits.isLt]
  simp [Nat.shiftLeft_eq]

theorem unpack_pack_infinity :
    (Float.Model.pack (.infinity .positive)).unpack = .infinity .positive :=
  rfl

/-- A number with all the bits of a mantissa is stored as it is, if its exponent is not too
large. -/
theorem unpack_pack_finite {mantissa : ℕ} {exponent : ℤ} (hpos : 0 < mantissa)
    (hbits : mantissa.log2 = 52) (hlow : -1074 ≤ exponent) (hhigh : exponent < 972) :
    (Float.Model.pack (.finite .positive mantissa exponent hpos)).unpack =
      .finite .positive mantissa exponent hpos := by
  obtain ⟨biased, hbiased⟩ : ∃ biased : ℕ, exponent + 1023 + 52 = biased :=
    ⟨_, (Int.toNat_of_nonneg (by omega)).symm⟩
  have hexponent : (BitVec.ofNat 11 biased).toNat = biased := by
    rw [BitVec.toNat_ofNat, Nat.mod_eq_of_lt (by omega)]
  have hzero : BitVec.ofNat 11 biased ≠ 0#11 := by
    rw [ne_eq, ← BitVec.toNat_inj, hexponent]
    exact fun h => absurd h (by show biased ≠ 0; omega)
  have hones : BitVec.ofNat 11 biased ≠ -1#11 := by
    rw [ne_eq, ← BitVec.toNat_inj, hexponent]
    exact fun h => absurd h (by show biased ≠ 2047; omega)
  have hmantissa : (1#1 ++ BitVec.ofNat 52 mantissa).toNat = mantissa := by
    obtain ⟨hge, hlt⟩ := (Nat.log2_eq_iff (Nat.ne_of_gt hpos)).1 hbits
    rw [toNat_one_append, BitVec.toNat_ofNat]
    omega
  have hpack : UnpackedFloat.pack Format.binary64 (.finite .positive mantissa exponent hpos) =
      packComponents Format.binary64 .positive (BitVec.ofNat 11 biased)
        (BitVec.ofNat 52 mantissa) := by
    show (if 2 ^ 11 ≤ (exponent + 1023 + 52).toNat + 1 then _
      else if mantissa.log2 + 1 = 53 then packComponents Format.binary64 .positive
        (BitVec.ofNat 11 (exponent + 1023 + 52).toNat) (BitVec.ofNat 52 mantissa) else _) = _
    rw [hbiased, Int.toNat_natCast, if_neg (by omega), if_pos (by omega)]
  show UnpackedFloat.unpack Format.binary64 (UnpackedFloat.pack Format.binary64 _) = _
  rw [hpack, UnpackedFloat.unpack]
  simp only [unpackMantissa_packComponents, unpackExponent_packComponents,
    unpackSign_packComponents, hones, hzero, hmantissa, hexponent, if_false]
  congr 1
  show (biased : ℤ) - (1023 + 52) = exponent
  omega

/-- A number is stored as it is, or as infinity if its exponent is too large. -/
theorem exceeds_unpack_pack (hn : -1074 ≤ n) {x : UnpackedFloat} (h : Exceeds n x) :
    Exceeds n (Float.Model.pack x).unpack := by
  rcases x with (_ | _) | _ | _ | ⟨_ | _, mantissa, exponent, hpos⟩
  case infinity.positive =>
    rw [unpack_pack_infinity]
    trivial
  case finite.positive =>
    obtain ⟨hbits, hexponent⟩ := h
    rcases lt_or_ge exponent 972 with hhigh | hlarge
    · rw [unpack_pack_finite hpos hbits (by omega) hhigh]
      exact ⟨hbits, hexponent⟩
    · have hpack : UnpackedFloat.pack Format.binary64 (.finite .positive mantissa exponent hpos) =
          UnpackedFloat.pack Format.binary64 (.infinity .positive) := by
        show (if 2 ^ 11 ≤ (exponent + 1023 + 52).toNat + 1 then packedInfinity _ .positive
          else _) = _
        rw [if_pos (by omega)]
        rfl
      have hstored : (Float.Model.pack (.finite .positive mantissa exponent hpos)).unpack =
          (Float.Model.pack (.infinity .positive)).unpack := by
        simp only [Float.Model.pack, hpack]
      rw [hstored, unpack_pack_infinity]
      trivial
  all_goals exact h.elim

/-! ### Arithmetic -/

variable {k : ℤ} {a b : UnpackedFloat}

theorem log2_mul_ge {m₁ m₂ : ℕ} (h₁ : m₁.log2 = 52) (h₂ : m₂.log2 = 52)
    (hpos₁ : 0 < m₁) (hpos₂ : 0 < m₂) : 104 ≤ (m₁ * m₂).log2 := by
  rw [Nat.le_log2 (Nat.ne_of_gt (Nat.mul_pos hpos₁ hpos₂)), show 104 = 52 + 52 from rfl,
    Nat.pow_add]
  exact Nat.mul_le_mul ((Nat.log2_eq_iff (Nat.ne_of_gt hpos₁)).1 h₁).1
    ((Nat.log2_eq_iff (Nat.ne_of_gt hpos₂)).1 h₂).1

theorem exceeds_mul (ha : Exceeds n a) (hb : Exceeds k b) (hlow : -1074 ≤ n + k + 52) :
    Exceeds (n + k + 52) (UnpackedFloat.mul Format.binary64 a b) := by
  rcases a with (_ | _) | _ | _ | ⟨_ | _, m₁, e₁, hpos₁⟩ <;>
    rcases b with (_ | _) | _ | _ | ⟨_ | _, m₂, e₂, hpos₂⟩
  case finite.positive.finite.positive =>
    obtain ⟨hbits₁, hexponent₁⟩ := ha
    obtain ⟨hbits₂, hexponent₂⟩ := hb
    have hbits := log2_mul_ge hbits₁ hbits₂ hpos₁ hpos₂
    exact exceeds_roundWithAccuracy hlow .exact (by omega) (by omega)
  all_goals first | exact ha.elim | exact hb.elim | trivial

theorem exceeds_add (ha : Exceeds n a) (hb : Exceeds n b) (hlow : -1074 ≤ n) :
    Exceeds n (UnpackedFloat.add Format.binary64 a b) := by
  rcases a with (_ | _) | _ | _ | ⟨_ | _, m₁, e₁, hpos₁⟩ <;>
    rcases b with (_ | _) | _ | _ | ⟨_ | _, m₂, e₂, hpos₂⟩
  case finite.positive.finite.positive =>
    obtain ⟨hbits₁, hexponent₁⟩ := ha
    let shifted₁ := m₁ <<< (e₁ - min e₁ e₂).toNat
    let shifted₂ := m₂ <<< (e₂ - min e₁ e₂).toNat
    have hshifted : m₁.log2 + (e₁ - min e₁ e₂).toNat ≤ shifted₁.log2 :=
      log2_add_le_log2_shiftLeft hpos₁ _
    have hpos : 0 < shifted₁ := shiftLeft_pos hpos₁ _
    have hsum : shifted₁.log2 ≤ (shifted₁ + shifted₂).log2 := by
      rw [Nat.le_log2 (Nat.ne_of_gt (Nat.add_pos_left hpos shifted₂))]
      exact Nat.le_trans (Nat.log2_self_le (Nat.ne_of_gt hpos)) (Nat.le_add_right _ _)
    exact exceeds_normalize hlow (Nat.add_pos_left hpos shifted₂) (by omega) .positive
  all_goals first | exact ha.elim | exact hb.elim | trivial

theorem log2_sqrt_ge {m : ℕ} (h : 104 ≤ m.log2) : 52 ≤ m.sqrt.log2 := by
  have hne : m ≠ 0 := by
    rintro rfl
    exact absurd h (by decide)
  have hroot : 2 ^ 52 ≤ m.sqrt := by
    rw [Nat.le_sqrt, ← Nat.pow_add]
    exact (Nat.le_log2 hne).1 h
  exact (Nat.le_log2 (by omega)).2 hroot

/-- The root of a number is at most as near to zero as that of the smallest one. -/
theorem exceeds_sqrt (ha : Exceeds n a) (hlow : -1074 ≤ n) :
    Exceeds (-563) (UnpackedFloat.sqrt Format.binary64 a) := by
  rcases a with (_ | _) | _ | _ | ⟨_ | _, m, e, hpos⟩
  case finite.positive =>
    obtain ⟨hbits, hexponent⟩ := ha
    have htarget : min (e.ediv 2) (Format.binary64.targetExponent
        ((totalExponent m e + 1).ediv 2)) = e / 2 - 26 := by
      show min (e / 2) (Format.binary64.targetExponent ((totalExponent m e + 1) / 2)) = _
      simp only [Format.targetExponent, totalExponent, Format.mantissaBits, Format.minExponent,
        hbits]
      norm_num
      omega
    -- The number is shifted to twice the bits before its root is taken.
    have hshifted := log2_add_le_log2_shiftLeft hpos (e - 2 * (e / 2 - 26)).toNat
    have hroot := log2_sqrt_ge (show 104 ≤ (m <<< (e - 2 * (e / 2 - 26)).toNat).log2 by omega)
    rw [UnpackedFloat.sqrt, sqrtCore, htarget]
    exact exceeds_roundWithAccuracy (by decide) _ hroot (by omega)
  all_goals first | exact ha.elim | trivial

/-! ### Numbers -/

variable {x y : Float}

/-- Whether a floating-point number is at least two to the power of `n + 52`. -/
def IsLarge (n : ℤ) (x : Float) : Prop :=
  Exceeds n x.toModel.unpack

/-- Whether a floating-point number is zero. -/
def IsZero (x : Float) : Prop :=
  ∃ sign, x.toModel.unpack = .zero sign

theorem isLarge_mul (hx : IsLarge n x) (hy : IsLarge k y) (hlow : -1074 ≤ n + k + 52) :
    IsLarge (n + k + 52) (x * y) :=
  exceeds_unpack_pack hlow (exceeds_mul hx hy hlow)

theorem isLarge_add (hx : IsLarge n x) (hy : IsLarge n y) (hlow : -1074 ≤ n) :
    IsLarge n (x + y) :=
  exceeds_unpack_pack hlow (exceeds_add hx hy hlow)

theorem isLarge_sqrt (hx : IsLarge n x) (hlow : -1074 ≤ n) : IsLarge (-563) x.sqrt :=
  exceeds_unpack_pack (by decide) (exceeds_sqrt hx hlow)

theorem isLarge_one : IsLarge (-52) (Float.ofBits 0x3FF0000000000000) := by
  have hone : (Float.ofBits 0x3FF0000000000000).toModel.unpack =
      .finite .positive (2 ^ 52) (-52) (by decide) := rfl
  rw [IsLarge, hone]
  exact ⟨Nat.log2_two_pow, by decide⟩

theorem isLarge_toFloat {count : UInt64} (hcount : 0 < count.toNat) :
    IsLarge (-52) count.toFloat := by
  refine exceeds_unpack_pack (by decide) (exceeds_normalize (by decide) hcount ?_ .positive)
  omega

/-- A natural number of more bits than a mantissa is rounded. -/
theorem exceeds_ofScientific {count : ℕ} (hbits : 53 ≤ count.log2) :
    Exceeds (-52) (UnpackedFloat.ofScientific Format.binary64 count 0) := by
  have hpos : 0 < count := Nat.pos_of_ne_zero (by rintro rfl; exact absurd hbits (by decide))
  have hshifted := log2_add_le_log2_shiftLeft hpos 53
  have hpower : 10 ^ Int.toNat 0 = 1 := rfl
  rw [UnpackedFloat.ofScientific, dif_neg (Nat.ne_of_gt hpos), if_neg (by decide),
    if_neg (by simp), if_pos le_rfl, UnpackedFloat.mul]
  refine exceeds_roundWithAccuracy (by decide) .exact ?_ ?_
  · rw [hpower, Nat.mul_one]
    exact Nat.le_trans (by omega) hshifted
  · rw [hpower, Nat.mul_one]
    show _ ≤ ((count <<< 53).log2 : ℤ) + (-53 + 0)
    omega

/-- A natural number that is not zero is at least one. -/
theorem isLarge_ofNat {count : ℕ} (hcount : 1 ≤ count) : IsLarge (-52) (Float.ofNat count) := by
  show IsLarge _ (Float.ofScientific count false 0)
  rw [Float.ofScientific]
  split
  · rename_i hsmall
    have htoNat : count.toUInt64.toNat = count := by
      show count % 2 ^ 64 = count
      omega
    exact isLarge_mul (isLarge_toFloat (htoNat.symm ▸ hcount)) isLarge_one (by decide)
  · rename_i hlarge
    have hbits : 53 ≤ count.log2 := (Nat.le_log2 (by omega)).2 (by omega)
    exact exceeds_unpack_pack (by decide) (exceeds_ofScientific hbits)

/-! ### Zero -/

open FloatOrder

theorem unpack_pack_zero (sign : Sign) :
    (Float.Model.pack (.zero sign)).unpack = .zero sign := by
  cases sign <;> rfl

theorem unpack_pack_notANumber : (Float.Model.pack .notANumber).unpack = .notANumber :=
  rfl

theorem isZero_ofNat_zero : IsZero (Float.ofNat 0) :=
  ⟨.positive, rfl⟩

theorem not_pos_of_isZero (h : IsZero x) : ¬Float.ofNat 0 < x := by
  obtain ⟨sign, hzero⟩ := h
  rw [float_pos_iff, hzero]
  rintro ⟨p, hp, hlt⟩
  obtain rfl := Option.some.inj hp
  exact lt_irrefl _ hlt

/-- A product with zero is zero, or NaN if the other number is infinite. -/
theorem mul_zero_cases (a : UnpackedFloat) (sign : Sign) :
    ((∃ sign', UnpackedFloat.mul Format.binary64 a (.zero sign) = .zero sign') ∨
      UnpackedFloat.mul Format.binary64 a (.zero sign) = .notANumber) ∧
    ((∃ sign', UnpackedFloat.mul Format.binary64 (.zero sign) a = .zero sign') ∨
      UnpackedFloat.mul Format.binary64 (.zero sign) a = .notANumber) := by
  cases a
  case notANumber => exact ⟨.inr rfl, .inr rfl⟩
  case infinity => exact ⟨.inr rfl, .inr rfl⟩
  case zero => exact ⟨.inl ⟨_, rfl⟩, .inl ⟨_, rfl⟩⟩
  case finite => exact ⟨.inl ⟨_, rfl⟩, .inl ⟨_, rfl⟩⟩

theorem not_pos_mul_of_isZero (h : IsZero x ∨ IsZero y) : ¬Float.ofNat 0 < x * y := by
  have hproduct : (x * y).toModel.unpack = (Float.Model.pack (UnpackedFloat.mul Format.binary64
    x.toModel.unpack y.toModel.unpack)).unpack := rfl
  have hcases : (∃ sign', UnpackedFloat.mul Format.binary64 x.toModel.unpack y.toModel.unpack =
      .zero sign') ∨
      UnpackedFloat.mul Format.binary64 x.toModel.unpack y.toModel.unpack = .notANumber := by
    rcases h with ⟨sign, hx⟩ | ⟨sign, hy⟩
    · rw [hx]
      exact (mul_zero_cases _ sign).2
    · rw [hy]
      exact (mul_zero_cases _ sign).1
  rcases hcases with ⟨sign, hzero⟩ | hnan
  · exact not_pos_of_isZero ⟨sign, by rw [hproduct, hzero, unpack_pack_zero]⟩
  · rw [float_pos_iff, hproduct, hnan, unpack_pack_notANumber]
    rintro ⟨p, hp, -⟩
    cases hp

theorem add_zero_of_exceeds {a : UnpackedFloat} (h : Exceeds n a) (sign : Sign) :
    UnpackedFloat.add Format.binary64 a (.zero sign) = a ∧
      UnpackedFloat.add Format.binary64 (.zero sign) a = a := by
  cases a
  case zero => exact h.elim
  all_goals exact ⟨rfl, rfl⟩

theorem isLarge_add_of_isZero_right (hx : IsLarge n x) (hy : IsZero y) (hlow : -1074 ≤ n) :
    IsLarge n (x + y) := by
  obtain ⟨sign, hy⟩ := hy
  refine exceeds_unpack_pack hlow ?_
  rw [hy, (add_zero_of_exceeds hx sign).1]
  exact hx

theorem isLarge_add_of_isZero_left (hx : IsZero x) (hy : IsLarge n y) (hlow : -1074 ≤ n) :
    IsLarge n (x + y) := by
  obtain ⟨sign, hx⟩ := hx
  refine exceeds_unpack_pack hlow ?_
  rw [hx, (add_zero_of_exceeds hy sign).2]
  exact hy

theorem isZero_add (hx : IsZero x) (hy : IsZero y) : IsZero (x + y) := by
  obtain ⟨sign, hx⟩ := hx
  obtain ⟨sign', hy⟩ := hy
  have hsum : (x + y).toModel.unpack = (Float.Model.pack (UnpackedFloat.add Format.binary64
        x.toModel.unpack y.toModel.unpack)).unpack := rfl
  rw [hx, hy] at hsum
  rcases sign with _ | _ <;> rcases sign' with _ | _ <;> exact ⟨_, hsum.trans (unpack_pack_zero _)⟩

theorem isZero_mul_self (hx : IsZero x) : IsZero (x * x) := by
  obtain ⟨sign, hx⟩ := hx
  have hproduct : (x * x).toModel.unpack = (Float.Model.pack (UnpackedFloat.mul Format.binary64
        x.toModel.unpack x.toModel.unpack)).unpack := rfl
  rw [hx] at hproduct
  exact ⟨_, hproduct.trans (unpack_pack_zero _)⟩

/-! ### Comparisons -/

theorem position?_of_exceeds {a : UnpackedFloat} (h : Exceeds n a) :
    ∃ p, position? a = some p ∧ toLex (0, toLex (0, 0)) < p := by
  rcases a with (_ | _) | _ | _ | ⟨_ | _, mantissa, exponent, hpos⟩
  case infinity.positive => exact ⟨_, rfl, by decide⟩
  case finite.positive => exact ⟨_, rfl, by simp [Prod.Lex.toLex_lt_toLex]⟩
  all_goals exact h.elim

theorem pos_of_isLarge (hx : IsLarge n x) : Float.ofNat 0 < x :=
  (float_pos_iff x).2 (position?_of_exceeds hx)

theorem not_le_zero_of_isLarge (hx : IsLarge n x) : ¬x ≤ Float.ofNat 0 :=
  (Std.lt_iff_le_and_not_ge.1 (pos_of_isLarge hx)).2

/-- The mantissa of a stored number has all its bits, unless the exponent is the lowest. -/
theorem log2_eq_of_unpack_eq {stored : Float.Model} {sign : Sign} {mantissa : ℕ} {exponent : ℤ}
    {hpos : 0 < mantissa} (h : stored.unpack = .finite sign mantissa exponent hpos) :
    mantissa.log2 = 52 ∨ exponent = -1074 := by
  have h' : UnpackedFloat.unpack Format.binary64 stored.toBits.toBitVec = _ := h
  rw [UnpackedFloat.unpack] at h'
  dsimp only at h'
  split at h'
  · split at h' <;> cases h'
  · split at h'
    · split at h'
      · cases h'
      · next hzero _ =>
        right
        injection h' with _ _ hexponent
        rw [← hexponent, hzero]
        rfl
    · left
      injection h' with _ hmantissa _
      have hlt : (@unpackMantissa Format.binary64 stored.toBits.toBitVec).toNat < 2 ^ 52 :=
        (@unpackMantissa Format.binary64 stored.toBits.toBitVec).isLt
      have happend := toNat_one_append (@unpackMantissa Format.binary64 stored.toBits.toBitVec)
      rw [← hmantissa, Nat.log2_eq_iff (Nat.ne_of_gt (hmantissa ▸ hpos))]
      constructor <;> omega

/-- A stored number that stands behind a positive one is positive, with at least its exponent. -/
theorem exceeds_of_le_position {stored : Float.Model} {p : ℤ ×ₗ ℤ ×ₗ ℤ} {mantissa : ℤ}
    (hn : -1074 < n) (hp : position? stored.unpack = some p)
    (hle : toLex (1, toLex (n, mantissa)) ≤ p) : Exceeds n stored.unpack := by
  rcases hunpack : stored.unpack with (_ | _) | _ | _ | ⟨_ | _, mantissa', exponent, hpos⟩ <;>
    rw [hunpack] at hp
  case infinity.positive => trivial
  case finite.positive =>
    obtain rfl := Option.some.inj hp
    have hexponent : n ≤ exponent := by
      simp only [Prod.Lex.toLex_le_toLex, lt_irrefl, true_and, false_or] at hle
      omega
    exact ⟨(log2_eq_of_unpack_eq hunpack).resolve_right (by omega), hexponent⟩
  -- All others stand at most where zero does.
  all_goals
    cases hp
    try simp [Prod.Lex.toLex_le_toLex] at hle

theorem isLarge_of_le (h : (1e-100 : Float) ≤ x) : IsLarge (-385) x := by
  have hleast : position? (1e-100 : Float).toModel.unpack =
      some (toLex (1, toLex (-385, 7880401239278896))) := by
    decide +kernel
  obtain ⟨p, q, hp, hq, hle⟩ := (float_le_iff _ _).1 h
  rw [hleast] at hp
  obtain rfl := Option.some.inj hp
  exact exceeds_of_le_position (by decide) hq hle

end NewsScoring.FloatBound
