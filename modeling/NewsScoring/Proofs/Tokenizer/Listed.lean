import NewsScoring.Proofs.Token.NormalForm
import NewsScoring.Proofs.Tokenizer.ExtraWords
import NewsScoring.Proofs.Tokenizer.WholeText
import NewsScoring.Proofs.Unicode.WhiteSpace

/-!
# Listed stopwords

The tokens of a text depend on its lower-case form only (`tokensWithout_eq_of_lowercase_eq`).  So a
word without white space inside is dropped in every letter case exactly if it stands for no token or
for one that is listed (`isDropped_iff`).  Words are listed in lower case, but with what the stages
after lower case take off.  A listed word in the form of tokens is dropped, and so are all English
stopwords; a listed contraction is not, unless its token is listed as well (`dropsListed_iff`).
-/

namespace NewsScoring

namespace Text

open Unicode

variable {blank : List Char}

theorem nonBlankParts_append_blank (hblank : IsBlank blank) (text : List Char) :
    nonBlankParts (text ++ blank) = nonBlankParts text := by
  have hhead : ∀ c ∈ blank.head?, isWhiteSpace c = true :=
    fun c hc => hblank c (List.mem_of_mem_head? hc)
  rw [nonBlankParts_append text hhead, nonBlankParts_of_blank hblank, List.append_nil]

theorem exists_blank_append_trim (text : List Char) :
    ∃ before after, text = before ++ (trim text ++ after) ∧ IsBlank before ∧ IsBlank after := by
  refine ⟨text.takeWhile isWhiteSpace, (trimStart text).rtakeWhile isWhiteSpace, ?_,
    fun c hc => List.mem_takeWhile_imp hc, fun c hc => List.mem_rtakeWhile_imp hc⟩
  have hend : trim text ++ (trimStart text).rtakeWhile isWhiteSpace = trimStart text :=
    List.rdropWhile_append_rtakeWhile
  rw [hend]
  exact List.takeWhile_append_dropWhile.symm

theorem trim_eq_self {text : List Char} (htext : ∀ c ∈ text, isWhiteSpace c = false) :
    trim text = text := by
  have hstart : trimStart text = text := by
    cases text with
    | nil => rfl
    | cons c rest => exact trimStart_cons (htext c List.mem_cons_self) rest
  rw [trim, hstart]
  exact dropEndWhile_eq_self_iff.2 fun c hc => htext c (List.mem_of_getLast? hc)

theorem nonBlankParts_trim (text : List Char) : nonBlankParts (trim text) = nonBlankParts text := by
  obtain ⟨before, after, htext, hbefore, hafter⟩ := exists_blank_append_trim text
  conv_rhs => rw [htext, nonBlankParts_blank_append hbefore, nonBlankParts_append_blank hafter]

end Text

namespace Token

open Unicode Text

variable {fragment text : List Char}

/-- Whether the stages after lower case take nothing off a text: a token can start with its first
character, it ends in no trailing mark, full stop or `-based`, and it has no apostrophe. -/
structure IsPlain (text : List Char) : Prop where
  canStart_head : ∀ c ∈ text.head?, canStart c = true
  not_endsInMark : ¬EndsInMark text
  not_stop_suffix : ¬['.'] <:+ text
  not_based_suffix : ¬"-based".toList <:+ text
  isApostrophe_eq_false : ∀ c ∈ text, isApostrophe c = false

theorem IsPlain.dropWhile_eq_self (h : IsPlain text) : text.dropWhile (!canStart ·) = text := by
  cases text with
  | nil => rfl
  | cons c rest => exact List.dropWhile_cons_of_neg (by simp [h.canStart_head c rfl])

theorem IsPlain.stripSuffix_eq_self {suffix : List Char} {c : Char} (h : IsPlain text)
    (hc : c ∈ suffix) (hapostrophe : isApostrophe c = true) : stripSuffix suffix text = text := by
  refine stripSuffix_of_not_suffix fun hsuffix => ?_
  have hnone := h.isApostrophe_eq_false c (hsuffix.subset hc)
  rw [hapostrophe] at hnone
  cases hnone

theorem IsPlain.stripEnding_eq_self (h : IsPlain text) : stripEnding text = text := by
  have hmarks : dropEndWhile trailingMarks.contains text = text :=
    dropEndWhile_eq_self_iff.2 fun c hc => by
      by_contra hmark
      exact h.not_endsInMark ⟨c, hc, List.contains_iff_mem.1 (by simpa using hmark)⟩
  have honce : stripEndingOnce text = text := by
    rw [stripEndingOnce, hmarks, h.stripSuffix_eq_self List.mem_cons_self (by decide),
      h.stripSuffix_eq_self List.mem_cons_self (by decide)]
  rw [stripEnding, honce, if_neg (lt_irrefl _)]

theorem normalize_eq_lowercase (h : IsPlain (lowercase fragment)) :
    normalize fragment = lowercase fragment := by
  have htake : (lowercase fragment).takeWhile (!isApostrophe ·) = lowercase fragment :=
    List.takeWhile_eq_self_iff.2 fun c hc => by rw [h.isApostrophe_eq_false c hc]; rfl
  rw [normalize_eq, bare, h.dropWhile_eq_self, h.stripEnding_eq_self, dropLate,
    stripSuffix_of_not_suffix h.not_stop_suffix, stripSuffix_of_not_suffix h.not_based_suffix,
    htake]

theorem isLower_spec {c : Char} (hc : c.isLower = true) :
    canStart c = true ∧ isWhiteSpace c = false ∧ lowercaseChar c = [c] ∧ c ≠ 'Σ' := by
  have hall : ∀ n ∈ List.range' 97 26, canStart (Char.ofNat n) = true ∧
      isWhiteSpace (Char.ofNat n) = false ∧ lowercaseChar (Char.ofNat n) = [Char.ofNat n] ∧
      Char.ofNat n ≠ 'Σ' := by
    decide +kernel
  have hcode : c.toNat ∈ List.range' 97 26 := by
    have hbounds : (decide (97 ≤ c.toNat) && decide (c.toNat ≤ 122)) = true := hc
    rw [Bool.and_eq_true, decide_eq_true_eq, decide_eq_true_eq] at hbounds
    exact List.mem_range'_1.2 ⟨hbounds.1, Nat.lt_succ_of_le hbounds.2⟩
  have hletter := hall _ hcode
  rwa [Char.ofNat_toNat] at hletter

theorem isPlain_of_isLower (h : ∀ c ∈ text, c.isLower = true) : IsPlain text where
  canStart_head c hc := (isLower_spec (h c (List.mem_of_mem_head? hc))).1
  not_endsInMark := by
    have hmarks : trailingMarks.all (!Char.isLower ·) = true := by decide
    rintro ⟨c, hc, hmark⟩
    have hlower := List.all_eq_true.1 hmarks c hmark
    rw [h c (List.mem_of_getLast? hc)] at hlower
    cases hlower
  not_stop_suffix hsuffix := absurd (h '.' (hsuffix.subset List.mem_cons_self)) (by decide)
  not_based_suffix hsuffix := absurd (h '-' (hsuffix.subset List.mem_cons_self)) (by decide)
  isApostrophe_eq_false c hc := by
    have hquotes : ['\'', '’'].all (!Char.isLower ·) = true := by decide
    by_contra hquote
    rw [Bool.not_eq_false, isApostrophe_iff] at hquote
    have hlower := List.all_eq_true.1 hquotes c hquote
    rw [h c hc] at hlower
    cases hlower

theorem map_normalize_eq_of_map_lowercase_eq {a b : List (List Char)}
    (h : a.map lowercase = b.map lowercase) : a.map normalize = b.map normalize := by
  have hstages : normalize = (fun lower => dropLate (stripEnding (lower.dropWhile (!canStart ·)))) ∘
      lowercase := rfl
  rw [hstages, ← List.map_map, h, List.map_map]

end Token

namespace Tokenizer

open Text Token Unicode

variable {word a b : String} {words : List String}

/-- Texts with the same lower-case form have the same tokens. -/
theorem tokensWithout_eq_of_lowercase_eq (tokenizer : Tokenizer) (extra : List String)
    (h : lowercase a.toList = lowercase b.toList) :
    tokenizer.tokensWithout extra a = tokenizer.tokensWithout extra b := by
  have hparts : (nonBlankParts a.toList).map lowercase =
      (nonBlankParts b.toList).map lowercase := by
    rw [← nonBlankParts_lowercase, ← nonBlankParts_lowercase, h]
  rw [tokensWithout_eq, tokensWithout_eq, map_normalize_eq_of_map_lowercase_eq hparts]

/-- Whether a text has no white space but at its ends. -/
def IsOneWord (text : String) : Prop :=
  ∀ c ∈ trim text.toList, isWhiteSpace c = false

instance (text : String) : Decidable (IsOneWord text) :=
  List.decidableBAll (isWhiteSpace · = false) (trim text.toList)

/-- A word has the token that it stands for, if any, unless that is left out. -/
theorem tokens_eq_of_isOneWord (tokenizer : Tokenizer) (hword : IsOneWord word) :
    tokenizer.tokens word =
      ((canonicalize (trim word.toList)).toList.map String.ofList).filter (tokenizer.keeps []) := by
  have hparts : (nonBlankParts word.toList).filterMap canonicalize =
      (canonicalize (trim word.toList)).toList := by
    rw [← nonBlankParts_trim]
    rcases eq_or_ne (trim word.toList) [] with hnil | hne
    · rw [hnil]
      decide +kernel
    · rw [nonBlankParts_word hne hword]
      cases h : canonicalize (trim word.toList) <;> simp [h]
  rw [tokens, tokensWithout, fragments_eq_nonBlankParts, hparts]

/-- Whether the tokenizer with the given stopwords drops a word in every letter case. -/
def IsDropped (words : List String) (word : String) : Prop :=
  ∀ text : String, lowercase text.toList = lowercase word.toList →
    tokens ⟨.ofList words⟩ text = []

/-- Whether the tokenizer with the given stopwords drops each of them that is a single word. -/
def DropsListed (words : List String) : Prop :=
  ∀ word ∈ words, IsOneWord word → IsDropped words word

theorem isDropped_iff_tokens_eq_nil :
    IsDropped words word ↔ tokens ⟨.ofList words⟩ word = [] := by
  refine ⟨fun h => h word rfl, fun h text htext => ?_⟩
  exact (tokensWithout_eq_of_lowercase_eq _ [] htext).trans h

theorem keeps_eq_false_iff {token : String} (htoken : token ≠ "") :
    keeps ⟨.ofList words⟩ [] token = false ↔
      ∃ listed ∈ words, Stopwords.normalize listed = token := by
  rw [keeps, Bool.not_eq_false', List.contains_nil, Bool.or_false, Stopwords.contains_ofList_iff,
    and_iff_left htoken]

/-- Whether the token that a word stands for, if any, is listed. -/
def HasListedToken (words : List String) (word : String) : Prop :=
  ∀ token, canonicalize (trim word.toList) = some token →
    ∃ listed ∈ words, Stopwords.normalize listed = String.ofList token

theorem isDropped_iff (hword : IsOneWord word) :
    IsDropped words word ↔ HasListedToken words word := by
  rw [isDropped_iff_tokens_eq_nil, tokens_eq_of_isOneWord _ hword, HasListedToken]
  cases htoken : canonicalize (trim word.toList) with
  | none => simp
  | some token =>
    have hlength := (isTokenOf_of_canonicalize_eq_some htoken).length_between.1
    have hne : String.ofList token ≠ "" := by
      intro hempty
      rw [← String.toList_eq_nil_iff, String.toList_ofList] at hempty
      rw [hempty] at hlength
      exact absurd hlength (by decide)
    rw [Option.toList_some, List.map_singleton, List.filter_eq_nil_iff, List.forall_mem_singleton,
      Bool.not_eq_true, keeps_eq_false_iff hne]
    simp

theorem hasListedToken_of_isPlain (hmem : word ∈ words)
    (hplain : IsPlain (lowercase (trim word.toList))) : HasListedToken words word := by
  refine fun token htoken => ⟨word, hmem, ?_⟩
  rw [canonicalize, normalize_eq_lowercase hplain] at htoken
  split at htoken
  · rw [Stopwords.normalize, Option.some.inj htoken]
  · cases htoken

/-- A list drops its words exactly if it has the token of each that stands for one.  This is so of
the words in the form of tokens, but not of all that a list may hold. -/
theorem dropsListed_iff (words : List String) :
    (DropsListed words ↔ ∀ word ∈ words, IsOneWord word → HasListedToken words word) ∧
    (∀ word, IsOneWord word → (IsDropped words word ↔ HasListedToken words word)) ∧
    ∀ word ∈ words, IsOneWord word → IsPlain (lowercase (trim word.toList)) →
      IsDropped words word := by
  refine ⟨forall₂_congr fun word _ => forall_congr' fun hword => isDropped_iff hword,
    fun word hword => isDropped_iff hword, fun word hmem hword hplain => ?_⟩
  exact (isDropped_iff hword).2 (hasListedToken_of_isPlain hmem hplain)

/-- A contraction is dropped if what comes before its apostrophe is listed. -/
theorem dropsListed_iff_contraction :
    (IsOneWord "Don’t" ∧ HasListedToken ["Don’t", "don"] "Don’t") ∧
      IsDropped ["Don’t", "don"] "Don’t" := by
  have hword : IsOneWord "Don’t" := by decide +kernel
  have htoken : canonicalize (trim "Don’t".toList) = some "don".toList := by decide +kernel
  have hlisted : Stopwords.normalize "don" = String.ofList "don".toList := by decide +kernel
  have hcovered : HasListedToken ["Don’t", "don"] "Don’t" := by
    intro token h
    obtain rfl := Option.some.inj (htoken.symm.trans h)
    exact ⟨"don", List.mem_cons_of_mem _ List.mem_cons_self, hlisted⟩
  exact ⟨⟨hword, hcovered⟩, ((dropsListed_iff _).2.1 "Don’t" hword).2 hcovered⟩

/-- A contraction that is listed by itself stays in the text, cut off at its apostrophe. -/
theorem not_dropsListed_contraction :
    ¬DropsListed ["don't"] ∧ tokens ⟨.ofList ["don't"]⟩ "don't" = ["don"] := by
  have htokens : tokens ⟨.ofList ["don't"]⟩ "don't" = ["don"] := by decide +kernel
  refine ⟨fun h => ?_, htokens⟩
  have hnone := h "don't" List.mem_cons_self (by decide +kernel) "don't" rfl
  rw [htokens] at hnone
  cases hnone

/-- The bundled words, which are made of small letters, are all dropped. -/
theorem dropsListed_englishWords : DropsListed Stopwords.englishWords := by
  have hall : (Stopwords.englishWords.all fun word => word.toList.all Char.isLower) = true := by
    decide +kernel
  intro word hmem hword
  have hletters := List.all_eq_true.1 (List.all_eq_true.1 hall word hmem)
  have htrim : trim word.toList = word.toList :=
    trim_eq_self fun c hc => (isLower_spec (hletters c hc)).2.1
  have hlower : lowercase word.toList = word.toList :=
    lowercaseAfter_eq_self (fun c hc => (isLower_spec (hletters c hc)).2.2) []
  refine (isDropped_iff hword).2 (hasListedToken_of_isPlain hmem ?_)
  rw [htrim, hlower]
  exact isPlain_of_isLower hletters

end Tokenizer

end NewsScoring
