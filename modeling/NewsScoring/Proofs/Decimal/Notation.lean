import NewsScoring.Decimal.Notation
import NewsScoring.Proofs.Decimal.Bits
import NewsScoring.Proofs.Decimal.Shortest
import NewsScoring.Proofs.Json.Number

/-!
# Written numbers round to what was written

In a report, a floating-point number is set out in one of four ways: with the decimal point before,
behind or between its digits, or with an exponent.  Each is a number of JSON, with the value of the
digits (`Decimal.isMagnitude_positional`, `Decimal.isMagnitude_scientific`).  As the digits are
those of a decimal that rounds to the number, a reader gets the number back
(`Decimal.exists_isNumber_render`).
-/

namespace NewsScoring.Decimal

open Json

/-! ### Digits set out -/

section

variable {n : ℕ} {style : Style} {point : ℤ}

theorem areDigits_digitsOf (n : ℕ) : AreDigits (digitsOf n) :=
  areDigits_repr n

theorem head?_digitsOf (hpos : 0 < n) : (digitsOf n).head? ≠ some '0' := by
  rcases isWhole_repr n with hzero | ⟨-, hhead⟩
  · have hvalue := ofDigitChars_repr n
    rw [hzero] at hvalue
    exact absurd hvalue.symm hpos.ne'
  · exact hhead

/-- Zeros before the digits of a number do not change it. -/
theorem ofDigitChars_zeros_append (zeros n : ℕ) :
    Nat.ofDigitChars 10 (List.replicate zeros '0' ++ digitsOf n) 0 = n := by
  rw [Nat.ofDigitChars_append, Nat.ofDigitChars_replicate_zero, Nat.mul_zero]
  exact ofDigitChars_repr n

/-- Zeros behind the digits of a number move it by their length. -/
theorem ofDigitChars_append_zeros (zeros n : ℕ) :
    Nat.ofDigitChars 10 (digitsOf n ++ List.replicate zeros '0') 0 = 10 ^ zeros * n := by
  rw [Nat.ofDigitChars_append, Nat.ofDigitChars_replicate_zero]
  exact congrArg _ (ofDigitChars_repr n)

theorem areDigits_zeros_append (zeros n : ℕ) :
    AreDigits (List.replicate zeros '0' ++ digitsOf n) := by
  refine ⟨by simp [(areDigits_digitsOf n).ne_nil], fun c hc => ?_⟩
  rcases List.mem_append.1 hc with hzero | hdigit
  · rw [List.eq_of_mem_replicate hzero]
    rfl
  · exact (areDigits_digitsOf n).isDigit c hdigit

theorem areDigits_append_zeros (zeros n : ℕ) :
    AreDigits (digitsOf n ++ List.replicate zeros '0') := by
  refine ⟨by simp [(areDigits_digitsOf n).ne_nil], fun c hc => ?_⟩
  exact (areDigits_zeros_append zeros n).isDigit c (List.mem_append.2 (List.mem_append.1 hc).symm)

/-- A number whose decimal point is before its first digit. -/
theorem isMagnitude_small (hpoint : point ≤ 0) :
    IsMagnitude ('0' :: '.' :: (List.replicate (-point).toNat '0' ++ digitsOf n))
      (n * 10 ^ (point - (digitsOf n).length)) := by
  have hdigits := areDigits_zeros_append (-point).toNat n
  refine ⟨['0'], _, _, [], 0, by simp, .inl rfl, .present hdigits, .absent, ?_⟩
  have hvalue : Nat.ofDigitChars 10 (['0'] ++ (List.replicate (-point).toNat '0' ++ digitsOf n)) 0 =
      n := ofDigitChars_zeros_append (-point).toNat n
  have hlength : (0 : ℤ) - (List.replicate (-point).toNat '0' ++ digitsOf n).length =
      point - (digitsOf n).length := by
    rw [List.length_append, List.length_replicate]
    omega
  rw [hvalue, hlength]

theorem isFraction_zero : IsFraction ".0".toList ['0'] := by
  have hzero : IsFraction ('.' :: ['0']) ['0'] := .present ⟨by simp, by simp⟩
  exact hzero

/-- A number whose decimal point is behind its last digit. -/
theorem isMagnitude_whole (hpos : 0 < n) (hpoint : (digitsOf n).length ≤ point.toNat) :
    IsMagnitude
      (digitsOf n ++ List.replicate (point.toNat - (digitsOf n).length) '0' ++ ".0".toList)
      (n * 10 ^ (point - (digitsOf n).length)) := by
  have hlong := List.length_pos_of_ne_nil (areDigits_digitsOf n).ne_nil
  refine ⟨_, _, _, [], 0, (List.append_nil _).symm, .inr ⟨areDigits_append_zeros _ n, ?_⟩,
    isFraction_zero, .absent, ?_⟩
  · rw [List.head?_append_of_ne_nil _ (areDigits_digitsOf n).ne_nil]
    exact head?_digitsOf hpos
  · -- The zero of the fraction is one place more than the point is away, and is taken back.
    have hone : ['0'] = List.replicate 1 '0' := rfl
    have hzpow : point - (digitsOf n).length =
        ((point.toNat - (digitsOf n).length : ℕ) + 1 : ℕ) + (0 - (1 : ℕ) : ℤ) := by
      omega
    rw [hone, List.append_assoc, ← List.replicate_add, ofDigitChars_append_zeros,
      List.length_replicate, hzpow, zpow_add₀ (by norm_num), zpow_natCast]
    push_cast
    ring

/-- Digits cut in two after the first ones. -/
theorem ofDigitChars_take_append_drop (i n : ℕ) :
    Nat.ofDigitChars 10 ((digitsOf n).take i ++ (digitsOf n).drop i) 0 = n := by
  rw [List.take_append_drop]
  exact ofDigitChars_repr n

theorem isWhole_take (hpos : 0 < n) {i : ℕ} (hi : 0 < i) : IsWhole ((digitsOf n).take i) := by
  have hne := (areDigits_digitsOf n).ne_nil
  refine .inr ⟨⟨?_, fun c hc => (areDigits_digitsOf n).isDigit c (List.mem_of_mem_take hc)⟩, ?_⟩
  · rw [ne_eq, List.take_eq_nil_iff]
    exact not_or.2 ⟨hi.ne', hne⟩
  · rw [List.head?_take, if_neg hi.ne']
    exact head?_digitsOf hpos

theorem areDigits_drop {i : ℕ} (hi : i < (digitsOf n).length) :
    AreDigits ((digitsOf n).drop i) := by
  refine ⟨?_, fun c hc => (areDigits_digitsOf n).isDigit c (List.mem_of_mem_drop hc)⟩
  rw [ne_eq, List.drop_eq_nil_iff]
  omega

/-- A number whose decimal point is between its digits. -/
theorem isMagnitude_between (hpos : 0 < n) (hfirst : 0 < point)
    (hlast : point.toNat < (digitsOf n).length) :
    IsMagnitude ((digitsOf n).take point.toNat ++ '.' :: (digitsOf n).drop point.toNat)
      (n * 10 ^ (point - (digitsOf n).length)) := by
  refine ⟨_, _, _, [], 0, by rw [List.append_nil], isWhole_take hpos (by omega),
    .present (areDigits_drop hlast), .absent, ?_⟩
  have hlength : (0 : ℤ) - ((digitsOf n).drop point.toNat).length =
      point - (digitsOf n).length := by
    rw [List.length_drop]
    omega
  rw [ofDigitChars_take_append_drop, hlength]

theorem isMagnitude_positional (hpos : 0 < n) (hstyle : style.keepsPoint = true) (point : ℤ) :
    IsMagnitude (positional style (digitsOf n) point) (n * 10 ^ (point - (digitsOf n).length)) := by
  unfold positional
  rw [hstyle]
  dsimp only
  split
  · next hpoint => exact isMagnitude_small hpoint
  · next hpoint =>
    split
    · next hlong => exact isMagnitude_whole hpos hlong
    · next hlong => exact isMagnitude_between hpos (by omega) (by omega)

theorem isMagnitude_scientific (hpos : 0 < n) (point : ℤ) :
    IsMagnitude (scientific (digitsOf n) point) (n * 10 ^ (point - (digitsOf n).length)) := by
  have hlong := List.length_pos_of_ne_nil (areDigits_digitsOf n).ne_nil
  have hlength : (point - 1 : ℤ) - ((digitsOf n).drop 1).length =
      point - (digitsOf n).length := by
    rw [List.length_drop]
    omega
  have hfraction : IsFraction (if (digitsOf n).length ≤ 1 then [] else '.' :: (digitsOf n).drop 1)
      ((digitsOf n).drop 1) := by
    split
    · next hshort =>
      rw [List.drop_eq_nil_of_le hshort]
      exact .absent
    · next hlonger => exact .present (areDigits_drop (by omega))
  refine ⟨_, _, _, _, point - 1, rfl, isWhole_take hpos one_pos,
    hfraction, .present _, ?_⟩
  rw [ofDigitChars_take_append_drop, hlength]

end

open Float.Model UnpackedFloat

/-! ### Reading a number back -/

/-- A number with a sign before it. -/
def signed (sign : Sign) (r : ℚ) : ℚ :=
  match sign with
  | .positive => r
  | .negative => -r

/-- Whether a rational number rounds to a finite floating-point number, given by its parts. -/
inductive RoundsTo : ℚ → UnpackedFloat → Prop
  | zero (sign : Sign) : RoundsTo (signed sign 0) (.zero sign)
  | finite (sign : Sign) {r : ℚ} {mantissa : ℕ} {exponent : ℤ} (hpos : 0 < mantissa)
    (h : Binary.Rounds ⟨mantissa, exponent, decide (mantissa = 2 ^ 52 ∧ -1074 < exponent)⟩ r) :
    RoundsTo (signed sign r) (.finite sign mantissa exponent hpos)

/-- How a sign is written. -/
def signText : Sign → String
  | .positive => ""
  | .negative => "-"

theorem isNumber_signed (sign : Sign) {magnitude : String} {r : ℚ}
    (h : IsMagnitude magnitude.toList r) :
    IsNumber (signText sign ++ magnitude).toList (signed sign r) := by
  rw [String.toList_append]
  cases sign with
  | positive => exact .positive h
  | negative => exact .negative h

/-- The text of a finite number is that of its sign and that of its other bits. -/
theorem render_eq {x : Float} (hfinite : x.isFinite = true) : render json x =
    signText (signOf x) ++ if magnitudeBits x = 0 then "0.0"
      else String.ofList (renderPositive json (magnitudeBits x)) := by
  have hfinite' : x.toModel.unpack.isFinite = true := hfinite
  have hnan : x.isNaN = false := by
    show x.toModel.unpack.isNaN = false
    cases hunpack : x.toModel.unpack with
    | notANumber =>
      rw [hunpack] at hfinite'
      cases hfinite'
    | _ => rfl
  have hsign : signText (signOf x) = if x.toBits.toNat < 0x8000000000000000 then "" else "-" := by
    unfold signOf
    split <;> rfl
  unfold render
  rw [hnan, if_neg Bool.false_ne_true, hsign]
  simp only [hfinite, magnitudeBits, Bool.not_true, Bool.false_eq_true, if_false, beq_iff_eq]
  rfl

theorem isMagnitude_zero : IsMagnitude "0.0".toList 0 := by
  refine ⟨['0'], ".0".toList, ['0'], [], 0, rfl, .inl rfl, isFraction_zero, .absent, ?_⟩
  have hvalue : Nat.ofDigitChars 10 (['0'] ++ ['0']) 0 = 0 := by decide
  rw [hvalue, Nat.cast_zero, zero_mul]

/-- What is written for the parts of a number is a number that rounds to it. -/
theorem isMagnitude_renderPositive {bits : ℕ} (hmantissa : 0 < (Binary.ofBits bits).mantissa)
    (hexponent : -1074 ≤ (Binary.ofBits bits).exponent) :
    ∃ r, IsMagnitude (renderPositive json bits) r ∧ (Binary.ofBits bits).Rounds r := by
  obtain ⟨hdigits, hrounds⟩ := Binary.rounds_shortest hmantissa hexponent
  refine ⟨_, ?_, hrounds⟩
  unfold renderPositive
  generalize shortest (Binary.ofBits bits) = d at hdigits
  obtain ⟨point, hpoint⟩ : ∃ point, d.exponent = point - (digitsOf d.digits).length :=
    ⟨_, (add_sub_cancel_right d.exponent _).symm⟩
  dsimp only
  rw [toRat, hpoint, sub_add_cancel]
  split
  · exact isMagnitude_positional hdigits rfl point
  · exact isMagnitude_scientific hdigits point

/-- A finite number is written as a number that rounds to it. -/
theorem exists_isNumber_render {x : Float} (hfinite : x.isFinite = true) :
    ∃ r, IsNumber (render json x).toList r ∧ RoundsTo r x.toModel.unpack := by
  have hfinite' : x.toModel.unpack.isFinite = true := hfinite
  rw [render_eq hfinite]
  cases hunpack : x.toModel.unpack with
  | notANumber =>
    rw [hunpack] at hfinite'
    cases hfinite'
  | infinity sign =>
    rw [hunpack] at hfinite'
    cases hfinite'
  | zero sign =>
    obtain ⟨rfl, hbits⟩ := magnitudeBits_of_unpack_eq hunpack
    rw [if_pos hbits]
    exact ⟨_, isNumber_signed _ isMagnitude_zero, .zero _⟩
  | finite sign mantissa exponent hpos =>
    obtain ⟨rfl, hbits, hexponent, hparts⟩ := ofBits_of_unpack_eq hunpack
    rw [if_neg hbits]
    obtain ⟨r, hmagnitude, hrounds⟩ := isMagnitude_renderPositive
      (hparts ▸ hpos : 0 < (Binary.ofBits (magnitudeBits x)).mantissa) (hparts ▸ hexponent)
    rw [hparts] at hrounds
    exact ⟨_, isNumber_signed _ (by rwa [String.toList_ofList]), .finite _ hpos hrounds⟩

end NewsScoring.Decimal
