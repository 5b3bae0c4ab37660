import NewsScoring.Proofs.Text.Endings
import NewsScoring.Proofs.Text.Fragments
import NewsScoring.Proofs.Unicode.Caseless
import NewsScoring.Token.Canonical

/-!
# The ends of tokens

The rounds of stripping leave a text that ends in none of the trailing marks
(`not_endsInMark_stripEnding`), and marks behind a fragment make no difference
(`canonicalize_append_marks`).  But a full stop, an ending `-based` and what starts with an
apostrophe come off after the rounds, and marks in front of these stay.  So a token ends in a
trailing mark exactly if such a late ending stands directly behind a mark, as in `report).`
(`endsInMark_normalize_iff`, `endsUnmarked_iff`).
-/

namespace NewsScoring.Token

open Unicode Text

/-- Whether the last character of a token is one of the trailing marks. -/
def EndsInMark (token : List Char) : Prop :=
  ∃ c ∈ token.getLast?, c ∈ trailingMarks

instance (token : List Char) : Decidable (EndsInMark token) :=
  decidable_of_iff (token.getLast?.any trailingMarks.contains = true) <| by
    cases h : token.getLast? <;> simp [EndsInMark, h]

variable {token word ending marks fragment : List Char} {c : Char}

theorem EndsInMark.getLast?_ne (h : EndsInMark token) (hc : c ∉ trailingMarks) :
    token.getLast? ≠ some c := by
  obtain ⟨d, hd, hmark⟩ := h
  rw [Option.mem_def.1 hd]
  intro heq
  exact hc (Option.some.inj heq ▸ hmark)

/-! ### The rounds of stripping -/

theorem stripEndingOnce_prefix_self (token : List Char) : stripEndingOnce token <+: token :=
  ((stripSuffix_prefix_self _ _).trans (stripSuffix_prefix_self _ _)).trans
    (dropEndWhile_prefix_self _ _)

/-- A round that takes nothing off changes nothing. -/
theorem stripEndingOnce_eq_self (h : ¬(stripEndingOnce token).length < token.length) :
    stripEndingOnce token = token :=
  (stripEndingOnce_prefix_self token).eq_of_length_le (Nat.le_of_not_lt h)

/-- One more round before all others makes no difference. -/
theorem stripEnding_stripEndingOnce (token : List Char) :
    stripEnding (stripEndingOnce token) = stripEnding token := by
  by_cases h : (stripEndingOnce token).length < token.length
  · conv_rhs => rw [stripEnding, if_pos h]
  · rw [stripEndingOnce_eq_self h]

/-- After the last round, one more takes nothing off, by induction on the rounds. -/
theorem stripEndingOnce_stripEnding (token : List Char) :
    stripEndingOnce (stripEnding token) = stripEnding token := by
  fun_induction stripEnding token with
  | case1 token h ih => exact ih
  | case2 token h => exact stripEndingOnce_eq_self h

theorem not_endsInMark_stripEnding (token : List Char) : ¬EndsInMark (stripEnding token) := by
  have hround : stripEndingOnce (stripEnding token) <+:
      dropEndWhile trailingMarks.contains (stripEnding token) :=
    (stripSuffix_prefix_self _ _).trans (stripSuffix_prefix_self _ _)
  rw [stripEndingOnce_stripEnding] at hround
  have hself : dropEndWhile trailingMarks.contains (stripEnding token) = stripEnding token :=
    (dropEndWhile_prefix_self _ _).eq_of_length_le hround.length_le
  rintro ⟨c, hc, hmark⟩
  have hkept : trailingMarks.contains c = false := dropEndWhile_eq_self_iff.1 hself c hc
  rw [List.contains_iff_mem.2 hmark] at hkept
  cases hkept

theorem stripEnding_append_marks (hmarks : ∀ c ∈ marks, c ∈ trailingMarks) (token : List Char) :
    stripEnding (token ++ marks) = stripEnding token := by
  have honce : stripEndingOnce (token ++ marks) = stripEndingOnce token := by
    rw [stripEndingOnce, stripEndingOnce,
      dropEndWhile_append fun c hc => List.contains_iff_mem.2 (hmarks c hc)]
  rw [← stripEnding_stripEndingOnce, honce, stripEnding_stripEndingOnce]

/-! ### Late endings -/

/-- What the last stages leave of a text: it loses a full stop, then an ending `-based`, then all
from its first apostrophe on. -/
def dropLate (text : List Char) : List Char :=
  (stripSuffix "-based".toList (stripSuffix ['.'] text)).takeWhile (!isApostrophe ·)

/-- Whether a text is what the last stages take off. -/
def IsLateEnding (ending : List Char) : Prop :=
  ending ∈ [".".toList, "-based".toList, "-based.".toList] ∨
    ∃ c ∈ ending.head?, isApostrophe c = true

/-- Whether a late ending stands directly behind a trailing mark, with no apostrophe before it. -/
def HidesMark (text : List Char) : Prop :=
  ∃ word ending, text = word ++ ending ∧ EndsInMark word ∧
    (∀ c ∈ word, isApostrophe c = false) ∧ IsLateEnding ending

theorem isApostrophe_of_mem_dropLate {text : List Char} (hc : c ∈ dropLate text) :
    isApostrophe c = false := by
  simpa using List.mem_takeWhile_imp hc

/-- The last stages take off nothing or a late ending. -/
theorem exists_dropLate_append_eq (text : List Char) :
    ∃ ending, text = dropLate text ++ ending ∧ (ending = [] ∨ IsLateEnding ending) := by
  obtain ⟨stop, hstop, hstopEq⟩ := exists_stripSuffix_append_eq ['.'] text
  obtain ⟨based, hbased, hbasedEq⟩ :=
    exists_stripSuffix_append_eq "-based".toList (stripSuffix ['.'] text)
  let stem := stripSuffix "-based".toList (stripSuffix ['.'] text)
  have hstem : stem = dropLate text ++ stem.dropWhile (!isApostrophe ·) :=
    List.takeWhile_append_dropWhile.symm
  have htext : text = dropLate text ++ (stem.dropWhile (!isApostrophe ·) ++ (based ++ stop)) := by
    rw [← List.append_assoc, ← hstem, ← List.append_assoc, ← hbased, ← hstop]
  refine ⟨_, htext, ?_⟩
  cases hquote : stem.dropWhile (!isApostrophe ·) with
  | nil =>
    rw [List.nil_append]
    rcases hstopEq with rfl | rfl <;> rcases hbasedEq with rfl | rfl <;> simp [IsLateEnding]
  | cons c rest =>
    -- What is left starts with an apostrophe, whatever stands behind it.
    have hc : c ∈ (stem.dropWhile (!isApostrophe ·)).head? := by rw [hquote]; rfl
    exact .inr (.inr ⟨c, rfl, by simpa using eq_false_of_mem_head?_dropWhile hc⟩)

/-- A late ending behind a mark comes off as a whole. -/
theorem dropLate_append (hword : EndsInMark word) (hquote : ∀ c ∈ word, isApostrophe c = false)
    (hending : IsLateEnding ending) : dropLate (word ++ ending) = word := by
  have htake : word.takeWhile (!isApostrophe ·) = word :=
    List.takeWhile_eq_self_iff.2 fun c hc => by rw [hquote c hc]; rfl
  have hbased : stripSuffix "-based".toList word = word :=
    stripSuffix_of_getLast?_ne (by decide) (hword.getLast?_ne (by decide))
  rw [dropLate]
  rcases hending with hending | ⟨c, hc, hapostrophe⟩
  · simp only [List.mem_cons, List.not_mem_nil, or_false] at hending
    rcases hending with rfl | rfl | rfl
    · rw [show ".".toList = ['.'] from rfl, stripSuffix_append, hbased, htake]
    · have hstop : stripSuffix ['.'] (word ++ "-based".toList) = word ++ "-based".toList :=
        stripSuffix_of_getLast?_ne (by decide) (by simp)
      rw [hstop, stripSuffix_append, htake]
    · have hsplit : word ++ "-based.".toList = word ++ "-based".toList ++ ['.'] := by simp
      rw [hsplit, stripSuffix_append, stripSuffix_append, htake]
  · obtain ⟨rest, rfl⟩ := List.head?_eq_some_iff.1 hc
    have hstop : c ∉ ['.'] := by
      intro hmem
      rw [List.mem_singleton.1 hmem] at hapostrophe
      cases hapostrophe
    have hbasedMem : c ∉ "-based".toList := by
      intro hmem
      have hnone : "-based".toList.all (!isApostrophe ·) = true := by decide
      have hc : (!isApostrophe c) = true := List.all_eq_true.1 hnone c hmem
      rw [hapostrophe] at hc
      cases hc
    obtain ⟨rest₁, h₁⟩ := exists_stripSuffix_append_cons_eq hstop word rest
    obtain ⟨rest₂, h₂⟩ := exists_stripSuffix_append_cons_eq hbasedMem word rest₁
    rw [h₁, h₂, List.takeWhile_append, htake]
    simp [hapostrophe]

/-! ### The ends of tokens -/

/-- A fragment in lower case from its first character with which a token can start on, without the
punctuation and the possessives at its end. -/
def bare (fragment : List Char) : List Char :=
  stripEnding ((lowercase fragment).dropWhile (!canStart ·))

theorem normalize_eq (fragment : List Char) : normalize fragment = dropLate (bare fragment) :=
  rfl

theorem endsInMark_normalize_iff :
    EndsInMark (normalize fragment) ↔ HidesMark (bare fragment) := by
  rw [normalize_eq]
  constructor
  · intro h
    obtain ⟨ending, hbare, hnil | hlate⟩ := exists_dropLate_append_eq (bare fragment)
    · -- Then nothing came off after the rounds of stripping, which leave no mark at the end.
      rw [hnil, List.append_nil] at hbare
      rw [← hbare] at h
      exact absurd h (not_endsInMark_stripEnding _)
    · exact ⟨_, ending, hbare, h, fun c hc => isApostrophe_of_mem_dropLate hc, hlate⟩
  · rintro ⟨word, ending, hbare, hword, hquote, hending⟩
    rwa [hbare, dropLate_append hword hquote hending]

theorem isCaseless_of_mem_trailingMarks (hc : c ∈ trailingMarks) : IsCaseless c := by
  have hall : trailingMarks.all (IsCaseless ·) = true := by decide +kernel
  exact of_decide_eq_true (List.all_eq_true.1 hall c hc)

theorem canStart_eq_false_of_mem_trailingMarks (hc : c ∈ trailingMarks) : canStart c = false := by
  have hall : trailingMarks.all (!canStart ·) = true := by decide +kernel
  simpa using List.all_eq_true.1 hall c hc

theorem bare_append_marks (hmarks : ∀ c ∈ marks, c ∈ trailingMarks) (fragment : List Char) :
    bare (fragment ++ marks) = bare fragment := by
  have hcaseless : ∀ c ∈ marks, IsCaseless c := fun c hc =>
    isCaseless_of_mem_trailingMarks (hmarks c hc)
  have hnone : marks.dropWhile (!canStart ·) = [] :=
    List.dropWhile_eq_nil_iff.2 fun c hc => by
      rw [canStart_eq_false_of_mem_trailingMarks (hmarks c hc)]
      rfl
  rw [bare, bare, lowercase_append hcaseless, List.dropWhile_append, hnone]
  split
  · next hempty => rw [List.isEmpty_iff.1 hempty]
  · exact stripEnding_append_marks hmarks _

/-- Marks behind a fragment do not change the token that it stands for. -/
theorem canonicalize_append_marks (hmarks : ∀ c ∈ marks, c ∈ trailingMarks)
    (fragment : List Char) : canonicalize (fragment ++ marks) = canonicalize fragment := by
  rw [canonicalize, canonicalize, normalize_eq, normalize_eq, bare_append_marks hmarks]

/-- Whether the token that a fragment stands for, if any, ends in no trailing mark. -/
def EndsUnmarked (fragment : List Char) : Prop :=
  ∀ token, canonicalize fragment = some token → ¬EndsInMark token

/-- The token of a fragment ends in no trailing mark exactly if there is none, or no late ending
stands directly behind a mark in what the rounds of stripping leave.  Marks at the very end of a
fragment never change its token. -/
theorem endsUnmarked_iff (fragment : List Char) :
    (EndsUnmarked fragment ↔ canonicalize fragment = none ∨ ¬HidesMark (bare fragment)) ∧
    ∀ marks, (∀ c ∈ marks, c ∈ trailingMarks) →
      canonicalize (fragment ++ marks) = canonicalize fragment := by
  refine ⟨?_, fun marks hmarks => canonicalize_append_marks hmarks fragment⟩
  rw [← endsInMark_normalize_iff, EndsUnmarked, canonicalize]
  split <;> simp

/-- Marks in any order behind a word in quotes do not change its token. -/
theorem endsUnmarked_iff_robots :
    (∀ c ∈ "!”)-,".toList, c ∈ trailingMarks) ∧
      canonicalize ("“Robots".toList ++ "!”)-,".toList) = some "robots".toList := by
  have hall : "!”)-,".toList.all trailingMarks.contains = true := by decide
  have hmarks : ∀ c ∈ "!”)-,".toList, c ∈ trailingMarks :=
    fun c hc => List.contains_iff_mem.1 (List.all_eq_true.1 hall c hc)
  refine ⟨hmarks, ?_⟩
  rw [(endsUnmarked_iff _).2 _ hmarks]
  decide +kernel

/-- A closing bracket in front of the full stop of a sentence stays at the end of the token, which
is then another one than that of the word alone. -/
theorem not_endsUnmarked_report :
    ¬EndsUnmarked "report).".toList ∧
      canonicalize "report).".toList = some "report)".toList ∧
      canonicalize "report".toList = some "report".toList := by
  have htoken : canonicalize "report).".toList = some "report)".toList := by decide +kernel
  exact ⟨fun h => h _ htoken (by decide), htoken, by decide +kernel⟩

end NewsScoring.Token
