import Mathlib
import NewsScoring.Proofs.Binary.Format
import NewsScoring.Proofs.Cbor.Head

/-!
# Floating-point numbers in their shortest formats

The shortest of the three formats that keeps a number does keep it: each floating-point number is
read back from the bits in which it is stored (`FloatCode.keeps_shortest`), infinities, both zeros
and the one NaN among them.
-/

namespace NewsScoring.Cbor

open Binary

/-! ### The bits of a number -/

section

open Float.Model Float.Model.UnpackedFloat

theorem ofBits_toBits (x : Float) : Float.ofBits x.toBits = x := by
  obtain ⟨bits, hvalid⟩ := x
  have hpack : UnpackedFloat.pack Format.binary64
      (UnpackedFloat.unpack Format.binary64 bits.toBitVec) = bits.toBitVec :=
    pack_unpack_of_valid hvalid
  show Float.ofModel (Float.Model.pack (UnpackedFloat.unpack Format.binary64 bits.toBitVec)) = _
  simp only [Float.Model.pack, hpack]

theorem toNat_unpackExponent (bits : UInt64) :
    (@unpackExponent Format.binary64 bits.toBitVec).toNat =
      (double.split bits.toNat).exponent := by
  rw [unpackExponent_def, BitVec.extractLsb'_toNat, Nat.shiftRight_eq_div_pow]
  rfl

theorem toNat_unpackMantissa (bits : UInt64) :
    (@unpackMantissa Format.binary64 bits.toBitVec).toNat =
      (double.split bits.toNat).fraction := by
  rw [unpackMantissa_def, BitVec.extractLsb'_toNat, Nat.shiftRight_zero]
  rfl

/-- The parts of a number of the double format. -/
theorem isIn_split_toBits (x : Float) : (double.split x.toBits.toNat).IsIn double where
  sign_lt := Nat.mod_lt _ Nat.two_pos
  exponent_lt := Nat.mod_lt _ (Nat.two_pow_pos _)
  fraction_lt := Nat.mod_lt _ (Nat.two_pow_pos _)
  eq_nan := by
    intro hexponent hfraction
    have hexponent' : @unpackExponent Format.binary64 x.toBits.toBitVec = -1#11 := by
      rw [← BitVec.toNat_inj, toNat_unpackExponent, hexponent]
      rfl
    have hfraction' : @unpackMantissa Format.binary64 x.toBits.toBitVec ≠ 0#52 := by
      rw [ne_eq, ← BitVec.toNat_inj, toNat_unpackMantissa]
      exact hfraction
    have hbits : x.toBits.toNat = (packedNaN Format.binary64).toNat :=
      congrArg BitVec.toNat (x.toModel.valid.eq_packedNaN hexponent' hfraction')
    rw [hbits]
    decide

end

/-! ### The shortest form -/

/-- The shortest form of a number is in a smaller format, of which it is widened to the number, or
it is the number itself. -/
theorem shortestForm_cases (x : Float) :
    (∃ small : Parts, small.IsIn half ∧ widen half small = double.split x.toBits.toNat ∧
      shortestForm x.toBits.toNat = (half, half.join small)) ∨
    (∃ small : Parts, small.IsIn single ∧ widen single small = double.split x.toBits.toNat ∧
      shortestForm x.toBits.toNat = (single, single.join small)) ∨
    shortestForm x.toBits.toNat = (double, x.toBits.toNat) := by
  have hparts := isIn_split_toBits x
  unfold shortestForm
  dsimp only
  cases hhalf : narrow? half (double.split x.toBits.toNat) with
  | some small =>
    exact .inl ⟨small, isIn_of_narrow?_eq_some isSmaller_half hparts hhalf,
      widen_of_narrow?_eq_some isSmaller_half hparts hhalf, rfl⟩
  | none =>
    cases hsingle : narrow? single (double.split x.toBits.toNat) with
    | some small =>
      exact .inr (.inl ⟨small, isIn_of_narrow?_eq_some isSmaller_single hparts hsingle,
        widen_of_narrow?_eq_some isSmaller_single hparts hsingle, rfl⟩)
    | none => exact .inr (.inr rfl)

theorem read_shortest_double (x : Float) :
    FloatCode.shortest.read double x.toBits.toNat = x := by
  show Float.ofBits (UInt64.ofNat x.toBits.toNat) = x
  rw [UInt64.ofNat_toNat, ofBits_toBits]

/-- A number is read from a smaller format if the parts there are widened to its own. -/
theorem read_shortest_join {format : Binary.Format} (hne : format ≠ double) {small : Parts}
    {x : Float} (hsmall : small.IsIn format)
    (hwiden : widen format small = double.split x.toBits.toNat) :
    FloatCode.shortest.read format (format.join small) = x := by
  have hbits : x.toBits.toNat < 2 * Nat.pow 2 (double.exponentBits + double.fractionBits) :=
    x.toBits.toNat_lt
  have hback : double.join (widen format (format.split (format.join small))) = x.toBits.toNat := by
    rw [Format.split_join hsmall, hwiden, Format.join_split hbits]
  show (if format = double then _ else _) = _
  rw [if_neg hne, hback]
  exact read_shortest_double x

theorem FloatCode.Keeps.of_write_eq {α : Type} {code : FloatCode α} {x : α} {format : Binary.Format}
    {bits : Nat} (hwrite : code.write x = (format, bits))
    (hform : format = half ∧ bits < 0x10000 ∨ format = single ∧ bits < 0x100000000 ∨
      format = double ∧ bits < 0x10000000000000000)
    (hread : code.read format bits = x) : code.Keeps x := by
  constructor
  · rw [hwrite]
    exact hform
  · rw [hwrite]
    exact hread

/-- Each floating-point number is read back from its shortest form. -/
theorem FloatCode.keeps_shortest (x : Float) : FloatCode.shortest.Keeps x := by
  rcases shortestForm_cases x with ⟨small, hsmall, hwiden, hform⟩ | ⟨small, hsmall, hwiden, hform⟩ |
    hform
  · exact .of_write_eq hform (.inl ⟨rfl, Format.join_lt hsmall⟩)
      (read_shortest_join (by decide) hsmall hwiden)
  · exact .of_write_eq hform (.inr (.inl ⟨rfl, Format.join_lt hsmall⟩))
      (read_shortest_join (by decide) hsmall hwiden)
  · exact .of_write_eq hform (.inr (.inr ⟨rfl, x.toBits.toNat_lt⟩)) (read_shortest_double x)

end NewsScoring.Cbor
