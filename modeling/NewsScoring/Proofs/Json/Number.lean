import Mathlib.Algebra.Order.Field.Rat
import Mathlib.Data.Nat.Notation
import NewsScoring.Json.Token

/-!
# Numbers in JSON

A number is written as a whole part, which has no leading zero, with a fraction and an exponent that
may both be missing, and a minus sign before it if it is negative (`IsNumber`).  A reader takes such
a text for one token, unless what comes after it could be part of a number
(`IsNumber.token?_append`).
-/

namespace NewsScoring.Json

/-! ### The grammar of numbers -/

/-- Whether a text is a row of digits. -/
structure AreDigits (text : List Char) : Prop where
  ne_nil : text ≠ []
  isDigit : ∀ c ∈ text, c.isDigit = true

/-- Whether a text is the whole part of a number: one zero, or digits without a leading zero. -/
def IsWhole (text : List Char) : Prop :=
  text = ['0'] ∨ AreDigits text ∧ text.head? ≠ some '0'

/-- Whether a text is a fraction with the given digits, or no fraction. -/
inductive IsFraction : List Char → List Char → Prop
  | absent : IsFraction [] []
  | present {digits : List Char} (h : AreDigits digits) : IsFraction ('.' :: digits) digits

/-- Whether a text is an exponent, or no exponent, which is zero. -/
inductive IsExponent : List Char → ℤ → Prop
  | absent : IsExponent [] 0
  | present (exponent : ℤ) : IsExponent ('e' :: exponent.repr.toList) exponent

/-- Whether a text is a number without a sign, and has a value: its digits as one whole number,
moved by the exponent and by the length of the fraction. -/
def IsMagnitude (text : List Char) (value : ℚ) : Prop :=
  ∃ whole fractionText fraction exponentText exponent,
    text = whole ++ fractionText ++ exponentText ∧ IsWhole whole ∧
      IsFraction fractionText fraction ∧ IsExponent exponentText exponent ∧
      value = Nat.ofDigitChars 10 (whole ++ fraction) 0 * 10 ^ (exponent - fraction.length)

/-- Whether a text is a number, and has a value. -/
inductive IsNumber : List Char → ℚ → Prop
  | positive {text : List Char} {value : ℚ} (h : IsMagnitude text value) : IsNumber text value
  | negative {text : List Char} {value : ℚ} (h : IsMagnitude text value) :
    IsNumber ('-' :: text) (-value)

/-! ### Whole numbers -/

theorem areDigits_repr (n : ℕ) : AreDigits n.repr.toList := by
  rw [Nat.toList_repr]
  exact ⟨Nat.toDigits_ne_nil, fun c hc => Nat.isDigit_of_mem_toDigits (by omega) (by omega) hc⟩

theorem ofDigitChars_repr (n : ℕ) : Nat.ofDigitChars 10 n.repr.toList 0 = n := by
  rw [Nat.toList_repr]
  exact Nat.ofDigitChars_toDigits (by omega) (by omega)

/-- A natural number is written without a leading zero, by induction on its digits. -/
theorem isWhole_repr (n : ℕ) : IsWhole n.repr.toList := by
  induction n using Nat.strong_induction_on with
  | h n ih =>
    rcases Nat.lt_or_ge n 10 with hlt | hge
    · have hsmall : ∀ n < 10, n.repr.toList = ['0'] ∨ n.repr.toList.head? ≠ some '0' := by
        decide
      exact (hsmall n hlt).imp_right fun hhead => ⟨areDigits_repr n, hhead⟩
    · refine .inr ⟨areDigits_repr n, ?_⟩
      have hsplit : n.repr.toList = (n / 10).repr.toList ++ [(n % 10).digitChar] := by
        rw [Nat.toList_repr, Nat.toList_repr, Nat.toDigits_of_base_le (by omega) hge]
      obtain ⟨c, later, hfirst⟩ := List.exists_cons_of_ne_nil (areDigits_repr (n / 10)).ne_nil
      have hsame : n.repr.toList.head? = (n / 10).repr.toList.head? := by
        rw [hsplit, hfirst, List.cons_append, List.head?_cons, List.head?_cons]
      rw [hsame]
      rcases ih (n / 10) (by omega) with hzero | ⟨-, hhead⟩
      · have hvalue := ofDigitChars_repr (n / 10)
        rw [hzero] at hvalue
        have : n / 10 = 0 := hvalue.symm
        omega
      · exact hhead

theorem isNumber_repr (n : ℕ) : IsNumber n.repr.toList n := by
  refine .positive ⟨n.repr.toList, [], [], [], 0, by simp, isWhole_repr n, .absent, .absent, ?_⟩
  simp

/-! ### Numbers on one line -/

theorem AreDigits.newline_notMem {digits : List Char} (h : AreDigits digits) : '\n' ∉ digits :=
  fun hmem => absurd (h.isDigit _ hmem) (by decide)

theorem IsExponent.newline_notMem {text : List Char} {exponent : ℤ} (h : IsExponent text exponent) :
    '\n' ∉ text := by
  cases h with
  | absent => exact List.not_mem_nil
  | present =>
    rw [List.mem_cons, not_or]
    refine ⟨by decide, ?_⟩
    cases exponent with
    | ofNat n => exact (areDigits_repr n).newline_notMem
    | negSucc n =>
      have hdigits := (areDigits_repr (n + 1)).newline_notMem
      simpa [Int.repr] using hdigits

theorem IsMagnitude.newline_notMem {text : List Char} {value : ℚ} (h : IsMagnitude text value) :
    '\n' ∉ text := by
  obtain ⟨whole, fractionText, fraction, exponentText, exponent, rfl, hwhole, hfraction, hexponent,
    -⟩ := h
  simp only [List.mem_append, not_or]
  refine ⟨⟨?_, ?_⟩, hexponent.newline_notMem⟩
  · rcases hwhole with rfl | ⟨hdigits, -⟩
    · decide
    · exact hdigits.newline_notMem
  · cases hfraction with
    | absent => exact List.not_mem_nil
    | present hdigits =>
      rw [List.mem_cons, not_or]
      exact ⟨by decide, hdigits.newline_notMem⟩

/-- The text of a number has no line break. -/
theorem IsNumber.newline_notMem {text : List Char} {value : ℚ} (h : IsNumber text value) :
    '\n' ∉ text := by
  cases h with
  | positive hmagnitude => exact hmagnitude.newline_notMem
  | negative hmagnitude =>
    rw [List.mem_cons, not_or]
    exact ⟨by decide, hmagnitude.newline_notMem⟩

/-! ### Reading numbers -/

/-- Whether a text starts with no digit. -/
def StartsWithoutDigit (text : List Char) : Prop :=
  ∀ c, text.head? = some c → c.isDigit = false

/-- Whether a text is over or goes on with a mark. -/
def StartsWithMark (text : List Char) : Prop :=
  ∀ c, text.head? = some c → isMark c = true

theorem isDigit_of_isMark {c : Char} (h : isMark c = true) : c.isDigit = false := by
  simp only [isMark, Bool.or_eq_true, beq_iff_eq] at h
  rcases h with ((((rfl | rfl) | rfl) | rfl) | rfl) | rfl <;> decide

theorem AreDigits.afterDigits?_append {digits : List Char} (h : AreDigits digits) {rest : List Char}
    (hrest : StartsWithoutDigit rest) : afterDigits? (digits ++ rest) = some rest := by
  obtain ⟨c, later, rfl⟩ := List.exists_cons_of_ne_nil h.ne_nil
  have hdrop : rest.dropWhile Char.isDigit = rest := by
    cases rest with
    | nil => rfl
    | cons d rest => rw [List.dropWhile_cons, hrest d rfl, if_neg Bool.false_ne_true]
  rw [afterDigits?, List.dropWhile_append_of_pos h.isDigit, hdrop, if_pos]
  simp [h.isDigit c List.mem_cons_self]

theorem IsWhole.afterWhole?_append {whole : List Char} (h : IsWhole whole) {rest : List Char}
    (hrest : StartsWithoutDigit rest) : afterWhole? (whole ++ rest) = some rest := by
  rcases h with rfl | ⟨hdigits, hhead⟩
  · rfl
  · rw [afterWhole?]
    · exact hdigits.afterDigits?_append hrest
    · intro later hlater
      obtain ⟨c, digits, rfl⟩ := List.exists_cons_of_ne_nil hdigits.ne_nil
      exact hhead (by rw [(List.cons.inj hlater).1]; rfl)

theorem IsFraction.afterFraction?_append {text digits : List Char} (h : IsFraction text digits)
    {rest : List Char} (hrest : StartsWithoutDigit rest) (hpoint : rest.head? ≠ some '.') :
    afterFraction? (text ++ rest) = some rest := by
  cases h with
  | absent =>
    rw [List.nil_append, afterFraction?]
    rintro later rfl
    exact hpoint rfl
  | present hdigits => exact hdigits.afterDigits?_append hrest

theorem afterSign_repr (z : ℤ) (rest : List Char) :
    ∃ digits, AreDigits digits ∧ afterSign (z.repr.toList ++ rest) = digits ++ rest := by
  cases z with
  | negSucc n =>
    refine ⟨(n + 1).repr.toList, areDigits_repr _, ?_⟩
    rw [Int.repr, String.toList_append]
    rfl
  | ofNat n =>
    refine ⟨n.repr.toList, areDigits_repr n, ?_⟩
    show afterSign (n.repr.toList ++ rest) = _
    obtain ⟨c, digits, hdigits⟩ := List.exists_cons_of_ne_nil (areDigits_repr n).ne_nil
    have hc : c.isDigit = true := (areDigits_repr n).isDigit c (hdigits ▸ List.mem_cons_self)
    rw [hdigits, List.cons_append, afterSign]
    · rintro later h
      rw [(List.cons.inj h).1] at hc
      exact absurd hc (by decide)
    · rintro later h
      rw [(List.cons.inj h).1] at hc
      exact absurd hc (by decide)

theorem IsExponent.afterExponent?_append {text : List Char} {exponent : ℤ}
    (h : IsExponent text exponent) {rest : List Char} (hrest : StartsWithMark rest) :
    afterExponent? (text ++ rest) = some rest := by
  have hdigit : StartsWithoutDigit rest := fun c hc => isDigit_of_isMark (hrest c hc)
  cases h with
  | absent =>
    rw [List.nil_append, afterExponent?]
    · rintro later rfl
      exact absurd (hrest 'e' rfl) (by decide)
    · rintro later rfl
      exact absurd (hrest 'E' rfl) (by decide)
  | present exponent =>
    obtain ⟨digits, hdigits, hsign⟩ := afterSign_repr exponent rest
    show afterDigits? (afterSign (exponent.repr.toList ++ rest)) = some rest
    rw [hsign, hdigits.afterDigits?_append hdigit]

/-- A number is read up to its end. -/
theorem IsMagnitude.afterNumber?_append {text : List Char} {value : ℚ} (h : IsMagnitude text value)
    {rest : List Char} (hrest : StartsWithMark rest) :
    afterNumber? (text ++ rest) = some rest := by
  obtain ⟨whole, fractionText, fraction, exponentText, exponent, rfl, hwhole, hfraction, hexponent,
    -⟩ := h
  have hdigit : StartsWithoutDigit rest := fun c hc => isDigit_of_isMark (hrest c hc)
  -- What follows a part starts with the sign of a later part, or with a mark.
  have hexponentDigit : StartsWithoutDigit (exponentText ++ rest) := by
    cases hexponent with
    | absent => exact hdigit
    | present =>
      rintro c hc
      cases hc
      rfl
  have hexponentPoint : (exponentText ++ rest).head? ≠ some '.' := by
    cases hexponent with
    | absent =>
      intro hpoint
      exact absurd (hrest '.' hpoint) (by decide)
    | present => simp
  have hfractionDigit : StartsWithoutDigit (fractionText ++ (exponentText ++ rest)) := by
    cases hfraction with
    | absent => exact hexponentDigit
    | present =>
      rintro c hc
      cases hc
      rfl
  rw [List.append_assoc, List.append_assoc, afterNumber?, hwhole.afterWhole?_append hfractionDigit]
  show (afterFraction? _).bind afterExponent? = _
  rw [hfraction.afterFraction?_append hexponentDigit hexponentPoint]
  exact hexponent.afterExponent?_append hrest

theorem numberBefore_append (text rest : List Char) :
    numberBefore (text ++ rest) rest = (.number text, rest) := by
  simp [numberBefore]

theorem IsMagnitude.exists_cons {text : List Char} {value : ℚ} (h : IsMagnitude text value) :
    ∃ c later, text = c :: later ∧ c.isDigit = true := by
  obtain ⟨whole, fractionText, fraction, exponentText, exponent, rfl, hwhole, -⟩ := h
  rcases hwhole with rfl | ⟨hdigits, -⟩
  · exact ⟨'0', _, rfl, by decide⟩
  · obtain ⟨c, later, rfl⟩ := List.exists_cons_of_ne_nil hdigits.ne_nil
    exact ⟨c, _, rfl, hdigits.isDigit c List.mem_cons_self⟩

theorem IsNumber.ne_nil {text : List Char} {value : ℚ} (h : IsNumber text value) : text ≠ [] := by
  cases h with
  | negative => exact List.cons_ne_nil _ _
  | positive hmagnitude =>
    obtain ⟨c, later, rfl, -⟩ := hmagnitude.exists_cons
    exact List.cons_ne_nil _ _

/-- A number is one token, if a mark follows it or nothing. -/
theorem IsNumber.token?_append {text : List Char} {value : ℚ} (h : IsNumber text value)
    {rest : List Char} (hrest : StartsWithMark rest) :
    token? (text ++ rest) = some (.number text, rest) := by
  cases h with
  | negative hmagnitude =>
    rename_i text value
    show (afterNumber? (text ++ rest)).map (numberBefore ('-' :: text ++ rest)) = _
    rw [hmagnitude.afterNumber?_append hrest, Option.map_some, numberBefore_append]
  | positive hmagnitude =>
    have hafter := hmagnitude.afterNumber?_append hrest
    obtain ⟨c, later, rfl, hc⟩ := hmagnitude.exists_cons
    have hmark : isMark c = false := by
      rw [← Bool.not_eq_true]
      intro hmark
      rw [isDigit_of_isMark hmark] at hc
      exact absurd hc Bool.false_ne_true
    have hne : ∀ d : Char, d.isDigit = false → c ≠ d := by
      rintro d hd rfl
      rw [hc] at hd
      exact absurd hd.symm Bool.false_ne_true
    rw [List.cons_append, token?]
    · rw [hmark, if_neg Bool.false_ne_true, ← List.cons_append, hafter, Option.map_some,
        numberBefore_append]
    · exact fun _ h _ => hne 'n' rfl h
    · exact fun _ h _ => hne 't' rfl h
    · exact fun _ h _ => hne 'f' rfl h
    · exact hne '"' rfl
    · exact hne '-' rfl

end NewsScoring.Json
