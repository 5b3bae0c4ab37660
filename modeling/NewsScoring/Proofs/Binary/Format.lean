import NewsScoring.Binary.Format

/-!
# Numbers in a smaller format

A number in a format is its parts put together (`Format.split_join`, `Format.join_split`).  A number
of the double format that has been put into a smaller one is the same number again when it is
widened (`widen_of_narrow?_eq_some`), also where it has no leading one in the smaller format.
-/

namespace NewsScoring.Binary

/-- Whether parts are those of a number in a format.  There is one NaN only. -/
structure Parts.IsIn (format : Format) (parts : Parts) : Prop where
  sign_lt : parts.sign < 2
  exponent_lt : parts.exponent < Nat.pow 2 format.exponentBits
  fraction_lt : parts.fraction < Nat.pow 2 format.fractionBits
  eq_nan : parts.exponent = format.top → parts.fraction ≠ 0 →
    parts.sign = 0 ∧ parts.fraction = Nat.pow 2 (format.fractionBits - 1)

namespace Format

/-! ### Parts and bits -/

variable {format : Format} {parts : Parts} {bits : Nat}

theorem pow_add_bits (format : Format) :
    Nat.pow 2 (format.exponentBits + format.fractionBits) =
      Nat.pow 2 format.fractionBits * Nat.pow 2 format.exponentBits := by
  rw [Nat.add_comm]
  exact Nat.pow_add 2 _ _

theorem split_join (h : parts.IsIn format) : format.split (format.join parts) = parts := by
  have hfraction := h.fraction_lt
  have hexponent := h.exponent_lt
  rw [split, join, pow_add_bits, ← Nat.div_div_eq_div_mul]
  have hpos : 0 < Nat.pow 2 format.fractionBits := Nat.two_pow_pos _
  have hpos' : 0 < Nat.pow 2 format.exponentBits := Nat.two_pow_pos _
  generalize Nat.pow 2 format.fractionBits = p at *
  generalize Nat.pow 2 format.exponentBits = q at *
  have hquotient : ((parts.sign * q + parts.exponent) * p + parts.fraction) / p =
      parts.sign * q + parts.exponent := by
    rw [Nat.mul_comm, Nat.mul_add_div hpos, Nat.div_eq_of_lt hfraction, Nat.add_zero]
  have hquotient' : (parts.sign * q + parts.exponent) / q = parts.sign := by
    rw [Nat.mul_comm, Nat.mul_add_div hpos', Nat.div_eq_of_lt hexponent, Nat.add_zero]
  rw [hquotient, hquotient', Nat.mod_eq_of_lt h.sign_lt, Nat.mul_add_mod_self_right,
    Nat.mul_add_mod_self_right, Nat.mod_eq_of_lt hexponent, Nat.mod_eq_of_lt hfraction]

theorem join_split (h : bits < 2 * Nat.pow 2 (format.exponentBits + format.fractionBits)) :
    format.join (format.split bits) = bits := by
  rw [split, join]
  rw [pow_add_bits] at h ⊢
  rw [← Nat.div_div_eq_div_mul]
  generalize Nat.pow 2 format.fractionBits = p at *
  generalize Nat.pow 2 format.exponentBits = q at *
  have hsign : bits / p / q < 2 := by
    rw [Nat.div_div_eq_div_mul]
    exact Nat.div_lt_of_lt_mul (by rwa [Nat.mul_comm])
  dsimp only
  rw [Nat.mod_eq_of_lt hsign, Nat.div_add_mod', Nat.div_add_mod']

theorem join_lt (h : parts.IsIn format) :
    format.join parts < 2 * Nat.pow 2 (format.exponentBits + format.fractionBits) := by
  have hfraction := h.fraction_lt
  have hexponent := h.exponent_lt
  have hsign : parts.sign ≤ 1 := Nat.le_of_lt_succ h.sign_lt
  rw [join, pow_add_bits]
  generalize Nat.pow 2 format.fractionBits = p at *
  generalize Nat.pow 2 format.exponentBits = q at *
  have hhigh : parts.sign * q + parts.exponent + 1 ≤ 2 * q := by
    have := Nat.mul_le_mul_right q hsign
    omega
  calc (parts.sign * q + parts.exponent) * p + parts.fraction
      < (parts.sign * q + parts.exponent) * p + p := Nat.add_lt_add_left hfraction _
    _ = (parts.sign * q + parts.exponent + 1) * p := (Nat.succ_mul _ _).symm
    _ ≤ 2 * q * p := Nat.mul_le_mul_right p hhigh
    _ = 2 * (p * q) := by rw [Nat.mul_assoc, Nat.mul_comm q p]

end Format

/-! ### Narrowing and widening -/

theorem shiftExactly?_eq_some_iff {n places quotient : Nat} :
    shiftExactly? n places = some quotient ↔ quotient * Nat.pow 2 places = n := by
  have hpos : 0 < Nat.pow 2 places := Nat.two_pow_pos places
  rw [shiftExactly?]
  generalize Nat.pow 2 places = p at *
  constructor
  · intro h
    split at h
    · rename_i hmod
      cases h
      exact Nat.div_mul_cancel (Nat.dvd_of_mod_eq_zero (beq_iff_eq.1 hmod))
    · cases h
  · rintro rfl
    rw [Nat.mul_mod_left, Nat.mul_div_cancel _ hpos]
    rfl

/-- The highest bit of a number of which a multiple by a power of two is known. -/
theorem log2_of_mul_pow {q places n : Nat} (hlow : Nat.pow 2 n ≤ q * Nat.pow 2 places)
    (hhigh : q * Nat.pow 2 places < Nat.pow 2 (n + 1)) : places ≤ n ∧ q.log2 = n - places := by
  have hpos : 0 < Nat.pow 2 places := Nat.two_pow_pos places
  have hq : q ≠ 0 := by
    rintro rfl
    rw [Nat.zero_mul] at hlow
    exact Nat.not_le.2 (Nat.two_pow_pos n) hlow
  have hplaces : places < n + 1 := by
    refine (Nat.pow_lt_pow_iff_right (Nat.lt_succ_self 1)).1 (Nat.lt_of_le_of_lt ?_ hhigh)
    exact Nat.le_mul_of_pos_left _ (Nat.pos_of_ne_zero hq)
  have hn : n - places + places = n := by omega
  have hn' : n - places + 1 + places = n + 1 := by omega
  refine ⟨Nat.le_of_lt_succ hplaces, (Nat.log2_eq_iff hq).2 ⟨?_, ?_⟩⟩
  · refine Nat.le_of_mul_le_mul_right ?_ hpos
    calc 2 ^ (n - places) * Nat.pow 2 places = 2 ^ (n - places + places) := (Nat.pow_add 2 _ _).symm
      _ = Nat.pow 2 n := by rw [hn]; rfl
      _ ≤ q * Nat.pow 2 places := hlow
  · refine Nat.lt_of_mul_lt_mul_right (a := Nat.pow 2 places) ?_
    calc q * Nat.pow 2 places < Nat.pow 2 (n + 1) := hhigh
      _ = 2 ^ (n - places + 1 + places) := by rw [hn']; rfl
      _ = 2 ^ (n - places + 1) * Nat.pow 2 places := Nat.pow_add 2 _ _

/-- Whether the double format has all numbers of a format, and more of them near zero. -/
structure Format.IsSmaller (format : Format) : Prop where
  fractionBits_pos : 0 < format.fractionBits
  fractionBits_le : format.fractionBits ≤ double.fractionBits
  bias_add_le : format.bias + format.fractionBits ≤ double.bias
  top_pos : 0 < format.top

theorem isSmaller_half : half.IsSmaller :=
  ⟨by decide, by decide, by decide, by decide⟩

theorem isSmaller_single : single.IsSmaller :=
  ⟨by decide, by decide, by decide, by decide⟩

variable {format : Format} {parts small : Parts}

/-- A part of the bits of a fraction, moved up by the bits that the double format has more. -/
theorem Format.IsSmaller.pow_mul_pow (hformat : format.IsSmaller) {bits : Nat}
    (hbits : bits ≤ format.fractionBits) :
    Nat.pow 2 (format.fractionBits - bits) *
        Nat.pow 2 (double.fractionBits - format.fractionBits) =
      Nat.pow 2 (double.fractionBits - bits) := by
  have hadd : double.fractionBits - bits =
      format.fractionBits - bits + (double.fractionBits - format.fractionBits) := by
    have := hformat.fractionBits_le
    omega
  rw [hadd]
  exact (Nat.pow_add 2 _ _).symm

/-- What narrowing gives: infinity or NaN, zero, a number with a leading one, or one that loses its
leading one. -/
theorem narrow?_cases (hformat : format.IsSmaller) (hparts : parts.IsIn double)
    (h : narrow? format parts = some small) :
    (parts.exponent = double.top ∧ ∃ fraction, small = ⟨parts.sign, format.top, fraction⟩ ∧
      fraction * Nat.pow 2 (double.fractionBits - format.fractionBits) = parts.fraction ∧
      (fraction ≠ 0 → parts.sign = 0 ∧ fraction = Nat.pow 2 (format.fractionBits - 1))) ∨
    (parts.exponent = 0 ∧ parts.fraction = 0 ∧ small = ⟨parts.sign, 0, 0⟩) ∨
    (∃ exponent fraction, small = ⟨parts.sign, exponent, fraction⟩ ∧ 0 < exponent ∧
      exponent < format.top ∧ parts.exponent + format.bias = exponent + double.bias ∧
      fraction * Nat.pow 2 (double.fractionBits - format.fractionBits) = parts.fraction) ∨
    (∃ fraction, small = ⟨parts.sign, 0, fraction⟩ ∧ 0 < parts.exponent ∧
      parts.exponent + format.bias ≤ double.bias ∧
      fraction * Nat.pow 2 (double.fractionBits - format.fractionBits + 1 +
        (double.bias - (parts.exponent + format.bias))) =
          Nat.pow 2 double.fractionBits + parts.fraction) := by
  unfold narrow? at h
  dsimp only at h
  split at h
  · rename_i htop
    have htop' : parts.exponent = double.top := beq_iff_eq.1 htop
    split at h
    · rename_i hzero
      cases h
      refine .inl ⟨htop', 0, rfl, ?_, fun hne => absurd rfl hne⟩
      rw [Nat.zero_mul, beq_iff_eq.1 hzero]
    · rename_i hnan
      obtain ⟨hsign, hfraction⟩ := hparts.eq_nan htop' fun hzero => hnan (beq_iff_eq.2 hzero)
      cases h
      refine .inl ⟨htop', _, by rw [hsign], ?_, fun _ => ⟨hsign, rfl⟩⟩
      rw [hformat.pow_mul_pow hformat.fractionBits_pos, hfraction]
  split at h
  · rename_i hexponent
    split at h
    · rename_i hzero
      cases h
      exact .inr (.inl ⟨beq_iff_eq.1 hexponent, beq_iff_eq.1 hzero, rfl⟩)
    · cases h
  rename_i hexponent
  split at h
  · rename_i hraised
    split at h
    · rename_i hlt
      obtain ⟨fraction, hfraction, rfl⟩ := Option.map_eq_some_iff.1 h
      rw [shiftExactly?_eq_some_iff] at hfraction
      exact .inr (.inr (.inl ⟨_, fraction, rfl, by omega, hlt, by omega, hfraction⟩))
    · cases h
  · rename_i hraised
    obtain ⟨fraction, hfraction, rfl⟩ := Option.map_eq_some_iff.1 h
    rw [shiftExactly?_eq_some_iff] at hfraction
    have hpos : 0 < parts.exponent := Nat.pos_of_ne_zero fun hzero => hexponent (beq_iff_eq.2 hzero)
    exact .inr (.inr (.inr ⟨fraction, rfl, hpos, Nat.le_of_not_lt hraised, hfraction⟩))

/-- A narrowed number without a leading one has its highest bit where the leading one went. -/
theorem log2_of_narrowed (hparts : parts.IsIn double) {places fraction : Nat}
    (hfraction : fraction * Nat.pow 2 places = Nat.pow 2 double.fractionBits + parts.fraction) :
    places ≤ double.fractionBits ∧ fraction.log2 = double.fractionBits - places ∧
      (fraction - Nat.pow 2 fraction.log2) * Nat.pow 2 (double.fractionBits - fraction.log2) =
        parts.fraction := by
  have hlow : Nat.pow 2 double.fractionBits ≤ fraction * Nat.pow 2 places := by
    rw [hfraction]
    exact Nat.le_add_right _ _
  have hhigh : fraction * Nat.pow 2 places < Nat.pow 2 (double.fractionBits + 1) := by
    have hlt := hparts.fraction_lt
    have hdouble : Nat.pow 2 (double.fractionBits + 1) = Nat.pow 2 double.fractionBits * 2 := rfl
    omega
  obtain ⟨hplaces, hlog⟩ := log2_of_mul_pow hlow hhigh
  have hpow : Nat.pow 2 (double.fractionBits - places) * Nat.pow 2 places =
      Nat.pow 2 double.fractionBits := by
    have hadd : double.fractionBits - places + places = double.fractionBits := by omega
    rw [← congrArg (Nat.pow 2) hadd]
    exact (Nat.pow_add 2 _ _).symm
  have hback : double.fractionBits - (double.fractionBits - places) = places := by omega
  refine ⟨hplaces, hlog, ?_⟩
  rw [hlog, hback, Nat.sub_mul, hpow, hfraction, Nat.add_sub_cancel_left]

/-- Widening undoes narrowing. -/
theorem widen_of_narrow?_eq_some (hformat : format.IsSmaller) (hparts : parts.IsIn double)
    (h : narrow? format parts = some small) : widen format small = parts := by
  have hbias := hformat.bias_add_le
  have hbits := hformat.fractionBits_le
  have htop := hformat.top_pos
  unfold widen
  rcases narrow?_cases hformat hparts h with
    ⟨hexponent, fraction, rfl, hfraction, -⟩ | ⟨hexponent, hzero, rfl⟩ |
      ⟨exponent, fraction, rfl, hpos, hlt, hexponent, hfraction⟩ |
      ⟨fraction, rfl, hpos, hle, hfraction⟩
  · dsimp only
    rw [if_pos (beq_self_eq_true _), hfraction, ← hexponent]
  · dsimp only
    rw [if_neg (by simpa using Nat.ne_of_lt htop), if_neg (by simp), if_pos (by simp)]
    cases parts
    cases hexponent
    cases hzero
    rfl
  · have hback : exponent + double.bias - format.bias = parts.exponent := by omega
    dsimp only
    rw [if_neg (by simpa using Nat.ne_of_lt hlt), if_pos (by simpa using Nat.ne_of_gt hpos),
      hfraction, hback]
  · obtain ⟨hplaces, hlog, hback⟩ := log2_of_narrowed hparts hfraction
    have hne : fraction ≠ 0 := by
      rintro rfl
      have hone : 0 < Nat.pow 2 double.fractionBits := Nat.two_pow_pos _
      omega
    have hexponent : fraction.log2 + 1 + double.bias - format.bias - format.fractionBits =
        parts.exponent := by
      omega
    dsimp only
    rw [if_neg (by simpa using Nat.ne_of_lt htop), if_neg (by simp), if_neg (by simpa using hne),
      hback, hexponent]

/-- A narrowed number is one of the smaller format. -/
theorem isIn_of_narrow?_eq_some (hformat : format.IsSmaller) (hparts : parts.IsIn double)
    (h : narrow? format parts = some small) : small.IsIn format := by
  have hbits := hformat.fractionBits_le
  have htop := hformat.top_pos
  have htop_lt : format.top < Nat.pow 2 format.exponentBits :=
    Nat.sub_lt (Nat.two_pow_pos _) Nat.one_pos
  have hfits : ∀ {fraction : Nat},
      fraction * Nat.pow 2 (double.fractionBits - format.fractionBits) = parts.fraction →
        fraction < Nat.pow 2 format.fractionBits := by
    intro fraction hfraction
    have hlt := hparts.fraction_lt
    have hpow : Nat.pow 2 format.fractionBits *
        Nat.pow 2 (double.fractionBits - format.fractionBits) = Nat.pow 2 double.fractionBits :=
      hformat.pow_mul_pow (Nat.zero_le _)
    rw [← hpow, ← hfraction] at hlt
    exact Nat.lt_of_mul_lt_mul_right hlt
  rcases narrow?_cases hformat hparts h with
    ⟨-, fraction, rfl, hfraction, hnan⟩ | ⟨-, -, rfl⟩ |
      ⟨exponent, fraction, rfl, -, hlt, -, hfraction⟩ | ⟨fraction, rfl, -, -, hfraction⟩
  · exact ⟨hparts.sign_lt, htop_lt, hfits hfraction, fun _ => hnan⟩
  · exact ⟨hparts.sign_lt, Nat.two_pow_pos _, Nat.two_pow_pos _, fun _ hne => absurd rfl hne⟩
  · exact ⟨hparts.sign_lt, Nat.lt_trans hlt htop_lt, hfits hfraction,
      fun heq => absurd heq (Nat.ne_of_lt hlt)⟩
  · obtain ⟨-, hlog, -⟩ := log2_of_narrowed hparts hfraction
    have hle : fraction.log2 + 1 ≤ format.fractionBits := by
      have := hformat.fractionBits_pos
      omega
    have hlt : fraction < Nat.pow 2 format.fractionBits :=
      Nat.lt_of_lt_of_le Nat.lt_log2_self (Nat.pow_le_pow_right Nat.two_pos hle)
    exact ⟨hparts.sign_lt, Nat.two_pow_pos _, hlt, fun heq => absurd heq (Nat.ne_of_lt htop)⟩

end NewsScoring.Binary
