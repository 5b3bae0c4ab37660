import NewsScoring.Decimal.Shortest
import NewsScoring.Proofs.Cbor.Float
import NewsScoring.Proofs.Scalar.Underflow

/-!
# The parts of a number

The sign, the mantissa and the exponent that `Binary.ofBits` reads off the bits of a floating-point
number are those of the number (`Decimal.ofBits_of_unpack_eq`).  Only a zero has no bit besides that
of its sign (`Decimal.magnitudeBits_of_unpack_eq`).
-/

namespace NewsScoring.Decimal

open Float.Model UnpackedFloat

/-- The bits of a number without its sign. -/
def magnitudeBits (x : Float) : ℕ :=
  x.toBits.toNat % 0x8000000000000000

/-- The sign of a number. -/
def signOf (x : Float) : Sign :=
  if x.toBits.toNat < 0x8000000000000000 then .positive else .negative

theorem ofBitVec_unpackSign (x : Float) :
    Sign.ofBitVec (@unpackSign Format.binary64 x.toBits.toBitVec) = signOf x := by
  have hsign : (@unpackSign Format.binary64 x.toBits.toBitVec).toNat =
      x.toBits.toNat / 0x8000000000000000 := by
    rw [unpackSign, BitVec.toNat_cast, BitVec.extractLsb_toNat, Nat.shiftRight_eq_div_pow]
    have hlt : x.toBits.toNat < 2 ^ 64 := x.toBits.toNat_lt
    show x.toBits.toNat / 2 ^ 63 % 2 = _
    omega
  have hzero : @unpackSign Format.binary64 x.toBits.toBitVec = 0#1 ↔
      x.toBits.toNat < 0x8000000000000000 := by
    rw [← BitVec.toNat_inj, hsign]
    show _ / _ = 0 ↔ _
    omega
  unfold Sign.ofBitVec signOf
  simp only [hzero]

theorem toNat_unpackExponent_toBits (x : Float) :
    (@unpackExponent Format.binary64 x.toBits.toBitVec).toNat =
      magnitudeBits x / 0x10000000000000 % 0x800 := by
  rw [Cbor.toNat_unpackExponent, magnitudeBits]
  show x.toBits.toNat / 0x10000000000000 % 0x800 = _
  omega

theorem toNat_unpackMantissa_toBits (x : Float) :
    (@unpackMantissa Format.binary64 x.toBits.toBitVec).toNat =
      magnitudeBits x % 0x10000000000000 := by
  rw [Cbor.toNat_unpackMantissa, magnitudeBits]
  show x.toBits.toNat % 0x10000000000000 = _
  omega

/-- A zero has no bits but that of its sign. -/
theorem magnitudeBits_of_unpack_eq {x : Float} {sign : Sign}
    (h : x.toModel.unpack = .zero sign) : signOf x = sign ∧ magnitudeBits x = 0 := by
  have hlt : magnitudeBits x < 0x8000000000000000 := Nat.mod_lt _ (by omega)
  have hexponent := toNat_unpackExponent_toBits x
  have hmantissa := toNat_unpackMantissa_toBits x
  have h' : UnpackedFloat.unpack Format.binary64 x.toBits.toBitVec = _ := h
  rw [UnpackedFloat.unpack] at h'
  dsimp only at h'
  rw [ofBitVec_unpackSign] at h'
  split at h'
  · -- The highest exponent field is that of infinities and NaN.
    split at h' <;> cases h'
  · split at h'
    · next hzero =>
      split at h'
      · next hfraction =>
        injection h' with hsign
        rw [hzero] at hexponent
        rw [hfraction] at hmantissa
        refine ⟨hsign, ?_⟩
        simp at hexponent hmantissa
        omega
      · cases h'
    · cases h'

/-- The parts of a number are those that its bits are unpacked to. -/
theorem ofBits_of_unpack_eq {x : Float} {sign : Sign} {mantissa : ℕ} {exponent : ℤ}
    {hpos : 0 < mantissa} (h : x.toModel.unpack = .finite sign mantissa exponent hpos) :
    signOf x = sign ∧ magnitudeBits x ≠ 0 ∧ -1074 ≤ exponent ∧
      Binary.ofBits (magnitudeBits x) =
        ⟨mantissa, exponent, decide (mantissa = 2 ^ 52 ∧ -1074 < exponent)⟩ := by
  have hexponent := toNat_unpackExponent_toBits x
  have hmantissa := toNat_unpackMantissa_toBits x
  have h' : UnpackedFloat.unpack Format.binary64 x.toBits.toBitVec = _ := h
  rw [UnpackedFloat.unpack] at h'
  dsimp only at h'
  rw [ofBitVec_unpackSign] at h'
  split at h'
  · split at h' <;> cases h'
  · split at h'
    · next hzero =>
      split at h'
      · cases h'
      · -- With an exponent field of zero, the mantissa has no leading one.
        injection h' with hsign hfraction hlow
        have hbiased : magnitudeBits x / 0x10000000000000 % 0x800 = 0 := by
          rw [← hexponent, hzero]
          rfl
        have hsubnormal : exponent = -1074 := by
          rw [← hlow, hzero]
          rfl
        rw [hmantissa] at hfraction
        refine ⟨hsign, ?_, by omega, ?_⟩
        · rintro hbits
          rw [hbits] at hfraction
          omega
        · simp only [Binary.ofBits, hbiased, hfraction, beq_self_eq_true, if_true, hsubnormal,
            lt_irrefl, and_false, decide_false]
    · next hzero =>
      injection h' with hsign hfraction hbias
      have hbiased : magnitudeBits x / 0x10000000000000 % 0x800 ≠ 0 := by
        rw [← hexponent]
        exact fun h => hzero (BitVec.toNat_inj.1 h)
      have hnormal : ((magnitudeBits x / 0x10000000000000 % 0x800 : ℕ) : ℤ) - 1075 = exponent := by
        rw [← hbias, hexponent]
        rfl
      rw [FloatBound.toNat_one_append, hmantissa] at hfraction
      refine ⟨hsign, ?_, by omega, ?_⟩
      · rintro hbits
        rw [hbits] at hbiased
        exact hbiased rfl
      · -- The gap below is narrower where the mantissa is a power of two, but for the lowest one.
        have hnarrow : (magnitudeBits x % 0x10000000000000 == 0 &&
            magnitudeBits x / 0x10000000000000 % 0x800 != 1) =
            decide (mantissa = 2 ^ 52 ∧ -1074 < exponent) := by
          rw [Bool.eq_iff_iff, Bool.and_eq_true, beq_iff_eq, bne_iff_ne, decide_eq_true_eq]
          omega
        have hzero' : (magnitudeBits x / 0x10000000000000 % 0x800 == 0) = false :=
          beq_false_of_ne hbiased
        unfold Binary.ofBits
        simp only [hzero', if_neg Bool.false_ne_true, hnarrow, hnormal, ← hfraction]
        rfl

end NewsScoring.Decimal
