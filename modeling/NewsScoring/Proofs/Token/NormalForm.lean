import Mathlib.Logic.Function.Iterate
import NewsScoring.Proofs.Token.Endings

/-!
# The form of tokens

A token is a part of its fragment in lower case, from the first character on that is a letter, a
number or one of `#`, `@`, `&`.  The rounds of stripping end (`exists_iterate_eq_stripEnding`), and
they and the stages after them only take something off the end, so that the token stays such a part
(`normalize_prefix_dropWhile`).  What makes it plausible as a word is then said of the token itself
(`isTokenOf_of_canonicalize_eq_some`).
-/

namespace NewsScoring.Token

open Unicode Text

variable {token text fragment : List Char}

/-! ### The rounds of stripping -/

/-- The rounds come to an end: each but the last takes something off, and no further round would. -/
theorem exists_iterate_eq_stripEnding (token : List Char) :
    ∃ n ≤ token.length, stripEndingOnce^[n] token = stripEnding token ∧
      (∀ k < n, (stripEndingOnce^[k + 1] token).length < (stripEndingOnce^[k] token).length) ∧
      stripEndingOnce (stripEnding token) = stripEnding token := by
  fun_induction stripEnding token with
  | case1 token hshorter ih =>
    obtain ⟨n, hn, heq, hrounds, hfixed⟩ := ih
    refine ⟨n + 1, by omega, by rw [Function.iterate_succ_apply, heq], fun k hk => ?_, hfixed⟩
    cases k with
    | zero => exact hshorter
    | succ k => exact hrounds k (Nat.lt_of_succ_lt_succ hk)
  | case2 token hsame =>
    exact ⟨0, Nat.zero_le _, rfl, fun k hk => absurd hk (Nat.not_lt_zero k),
      stripEndingOnce_eq_self hsame⟩

theorem stripEnding_prefix_self (token : List Char) : stripEnding token <+: token := by
  fun_induction stripEnding token with
  | case1 token _ ih => exact ih.trans (stripEndingOnce_prefix_self token)
  | case2 token _ => exact List.prefix_refl token

/-! ### The part of a fragment -/

theorem dropLate_prefix_self (text : List Char) : dropLate text <+: text := by
  obtain ⟨ending, htext, -⟩ := exists_dropLate_append_eq text
  exact ⟨ending, htext.symm⟩

/-- The word of a fragment stands at the start of what is left from its first character with which a
token can start on. -/
theorem normalize_prefix_dropWhile (fragment : List Char) :
    normalize fragment <+: (lowercase fragment).dropWhile (!canStart ·) :=
  (dropLate_prefix_self (bare fragment)).trans (stripEnding_prefix_self _)

theorem exists_lowercase_eq_append (fragment : List Char) :
    ∃ before after, lowercase fragment = before ++ normalize fragment ++ after ∧
      ∀ c ∈ before, canStart c = false := by
  obtain ⟨after, hafter⟩ := normalize_prefix_dropWhile fragment
  refine ⟨(lowercase fragment).takeWhile (!canStart ·), after, ?_, fun c hc => ?_⟩
  · rw [List.append_assoc, hafter, List.takeWhile_append_dropWhile]
  · simpa using List.mem_takeWhile_imp hc

theorem canStart_of_mem_head?_normalize {c : Char} (hc : c ∈ (normalize fragment).head?) :
    canStart c = true := by
  obtain ⟨ending, hending⟩ := normalize_prefix_dropWhile fragment
  have hhead : c ∈ ((lowercase fragment).dropWhile (!canStart ·)).head? := by
    rw [← hending, List.head?_append, Option.mem_def.1 hc]
    rfl
  simpa using eq_false_of_mem_head?_dropWhile hhead

theorem isApostrophe_of_mem_normalize {c : Char} (hc : c ∈ normalize fragment) :
    isApostrophe c = false :=
  isApostrophe_of_mem_dropLate hc

/-! ### Plausible words -/

theorem hasPart_iff {part : List Char} : hasPart part text = true ↔ part <:+: text := by
  induction text with
  | nil => rw [hasPart, List.isEmpty_iff, List.infix_nil]
  | cons c rest ih =>
    rw [hasPart, Bool.or_eq_true, ih, List.isPrefixOf_iff_prefix, List.infix_cons_iff]

/-- Whether a text starts with ASCII digits that a hyphen follows. -/
def IsNumbered (text : List Char) : Prop :=
  ∃ digits rest, text = digits ++ '-' :: rest ∧ digits ≠ [] ∧ ∀ c ∈ digits, c.isDigit = true

/-- The digits are all those at the start, since a hyphen is none. -/
theorem startsNumbered_iff : startsNumbered token = true ↔ IsNumbered token := by
  rw [startsNumbered, Bool.and_eq_true, Bool.not_eq_true', List.isEmpty_eq_false_iff,
    List.isPrefixOf_iff_prefix]
  constructor
  · rintro ⟨hdigits, rest, hrest⟩
    refine ⟨token.takeWhile Char.isDigit, rest, ?_, hdigits, fun c hc => List.mem_takeWhile_imp hc⟩
    rw [← List.singleton_append, hrest, List.takeWhile_append_dropWhile]
  · rintro ⟨digits, rest, rfl, hne, hdigits⟩
    have hhyphen : Char.isDigit '-' = false := rfl
    rw [List.takeWhile_append_of_pos hdigits, List.dropWhile_append_of_pos hdigits]
    simp [hhyphen, hne]

theorem isSigil_iff {c : Char} : isSigil c = true ↔ c ∈ ['#', '@', '&'] := by
  simp [isSigil, or_assoc]

theorem isApostrophe_iff {c : Char} : isApostrophe c = true ↔ c ∈ ['\'', '’'] := by
  simp [isApostrophe]

theorem canStart_eq_false_iff {c : Char} :
    canStart c = false ↔ isAlphanumeric c = false ∧ c ∉ ['#', '@', '&'] := by
  rw [canStart, Bool.or_eq_false_iff, ← isSigil_iff, Bool.not_eq_true]

theorem isPlausible_iff : isPlausible token = true ↔
    (minLength ≤ token.length ∧ token.length ≤ maxLength) ∧
      (∀ c ∈ token.head?, c ∉ ['#', '@', '&']) ∧ ¬"t.co/".toList <+: token ∧ '…' ∉ token ∧
      ¬"...".toList <:+: token ∧ ¬"://".toList <:+: token ∧
      (∃ c ∈ token, isAlphabetic c = true) ∧ ¬IsNumbered token := by
  have hhead : token.head?.any isSigil = false ↔ ∀ c ∈ token.head?, c ∉ ['#', '@', '&'] := by
    simp only [← isSigil_iff]
    cases token.head? <;> simp
  rw [← startsNumbered_iff, ← hasPart_iff, ← hasPart_iff, ← List.isPrefixOf_iff_prefix, ← hhead,
    ← List.any_eq_true, ← List.contains_iff_mem]
  simp only [isPlausible, Bool.and_eq_true, Bool.not_eq_true', Bool.not_eq_true,
    Bool.or_eq_false_iff, decide_eq_true_eq, and_assoc]

/-- What holds of the token that a fragment stands for. -/
structure IsTokenOf (fragment token : List Char) : Prop where
  /-- The token is a part of the fragment in lower case, with no letter, number or one of `#`, `@`,
  `&` in front of it. -/
  exists_around : ∃ before after, lowercase fragment = before ++ token ++ after ∧
    ∀ c ∈ before, isAlphanumeric c = false ∧ c ∉ ['#', '@', '&']
  isAlphanumeric_head : ∃ c ∈ token.head?, isAlphanumeric c = true
  notMem_apostrophes : ∀ c ∈ token, c ∉ ['\'', '’']
  exists_isAlphabetic : ∃ c ∈ token, isAlphabetic c = true
  length_between : 3 ≤ token.length ∧ token.length ≤ 64
  notMem_ellipsis : '…' ∉ token
  not_dots_infix : ¬"...".toList <:+: token
  not_scheme_infix : ¬"://".toList <:+: token
  not_link_prefix : ¬"t.co/".toList <+: token
  not_isNumbered : ¬IsNumbered token

theorem isTokenOf_of_canonicalize_eq_some (h : canonicalize fragment = some token) :
    IsTokenOf fragment token := by
  rw [canonicalize] at h
  split at h
  · next hplausible =>
    obtain rfl := Option.some.inj h
    obtain ⟨hlength, hsigil, hlink, hellipsis, hdots, hscheme, halphabetic, hnumbered⟩ :=
      isPlausible_iff.1 hplausible
    obtain ⟨before, after, hsplit, hbefore⟩ := exists_lowercase_eq_append fragment
    refine ⟨⟨before, after, hsplit, fun c hc => canStart_eq_false_iff.1 (hbefore c hc)⟩, ?_,
      fun c hc => ?_, halphabetic, hlength, hellipsis, hdots, hscheme, hlink, hnumbered⟩
    · -- The word starts with a character with which a token can start, and with none of the signs.
      have hpos : 0 < (normalize fragment).length := lt_of_lt_of_le (by decide) hlength.1
      obtain ⟨c, rest, hcons⟩ := List.exists_cons_of_length_pos hpos
      have hc : c ∈ (normalize fragment).head? := by rw [hcons]; rfl
      have hstart := canStart_of_mem_head?_normalize hc
      rw [canStart, Bool.or_eq_true, isSigil_iff] at hstart
      exact ⟨c, hc, hstart.resolve_right (hsigil c hc)⟩
    · rw [← isApostrophe_iff, Bool.not_eq_true]
      exact isApostrophe_of_mem_normalize hc
  · cases h

end NewsScoring.Token
