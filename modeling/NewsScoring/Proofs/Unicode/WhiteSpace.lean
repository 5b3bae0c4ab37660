import NewsScoring.Proofs.Text.Fragments
import NewsScoring.Proofs.Unicode.Caseless

/-!
# White space in lower case

White space has no case, no other character becomes white space in lower case, and the form of a
capital sigma does not depend on what lies beyond white space.  So the parts of a text between white
space are mapped to lower case each on its own (`nonBlankParts_lowercase`).
-/

namespace NewsScoring.Unicode

open Text

variable {c d : Char} {text rest before : List Char}

/-! ### Single characters -/

/-- The code points of white space. -/
def whiteSpaceCodes : List Nat := [
  0x9, 0xA, 0xB, 0xC, 0xD, 0x20, 0x85, 0xA0, 0x1680, 0x2000, 0x2001, 0x2002, 0x2003, 0x2004, 0x2005,
  0x2006, 0x2007, 0x2008, 0x2009, 0x200A, 0x2028, 0x2029, 0x202F, 0x205F, 0x3000]

theorem toNat_mem_whiteSpaceCodes (hc : isWhiteSpace c = true) : c.toNat ∈ whiteSpaceCodes := by
  simp only [isWhiteSpace] at hc
  simp only [whiteSpaceCodes, List.mem_cons, List.not_mem_nil, or_false]
  split at hc
  · simp only [Bool.or_eq_true, Bool.and_eq_true, decide_eq_true_eq, beq_iff_eq] at hc
    omega
  · simp only [Bool.or_eq_true, Bool.and_eq_true, decide_eq_true_eq, beq_iff_eq] at hc
    omega

theorem isCaseless_of_isWhiteSpace (hc : isWhiteSpace c = true) :
    IsCaseless c ∧ caseIgnorableTable.contains c = false := by
  have hall : ∀ n ∈ whiteSpaceCodes, IsCaseless (Char.ofNat n) ∧
      caseIgnorableTable.contains (Char.ofNat n) = false := by
    decide +kernel
  have hcode := hall _ (toNat_mem_whiteSpaceCodes hc)
  rwa [Char.ofNat_toNat] at hcode

theorem isWhiteSpace_toLower (hc : c.toNat < 128) : isWhiteSpace c.toLower = isWhiteSpace c := by
  have hall : ∀ n < 128, isWhiteSpace (Char.ofNat n).toLower = isWhiteSpace (Char.ofNat n) := by
    decide +kernel
  have hcode := hall _ hc
  rwa [Char.ofNat_toNat] at hcode

theorem isWhiteSpace_image {run : CaseRun} (hrun : run ∈ lowercaseRuns) {n : Nat}
    (hn : run.holds n = true) : isWhiteSpace (run.image n) = false := by
  have hall : ∀ run ∈ lowercaseRuns, ∀ n ∈ List.range' run.first (run.last + 1 - run.first),
      isWhiteSpace (run.image n) = false := by
    decide +kernel
  simp only [CaseRun.holds, Bool.and_eq_true, decide_eq_true_eq] at hn
  refine hall run hrun n (List.mem_range'_1.2 ?_)
  omega

/-- A character that is not white space becomes none. -/
theorem isWhiteSpace_of_mem_lowercaseChar (hc : isWhiteSpace c = false)
    (hd : d ∈ lowercaseChar c) : isWhiteSpace d = false := by
  rw [lowercaseChar] at hd
  split at hd
  · next hascii =>
    rw [List.mem_singleton.1 hd, isWhiteSpace_toLower hascii, hc]
  · split at hd
    · have hall : ['i', Char.ofNat 0x307].all (!isWhiteSpace ·) = true := by decide
      simpa using List.all_eq_true.1 hall d hd
    · split at hd
      · next run hfind =>
        have hholds : run.holds c.toNat = true := by simpa using List.find?_some hfind
        rw [List.mem_singleton.1 hd]
        exact isWhiteSpace_image (List.mem_of_find?_eq_some hfind) hholds
      · rwa [List.mem_singleton.1 hd]

theorem lowercaseChar_ne_nil (c : Char) : lowercaseChar c ≠ [] := by
  unfold lowercaseChar
  split
  · exact List.cons_ne_nil _ _
  · split
    · exact List.cons_ne_nil _ _
    · split <;> exact List.cons_ne_nil _ _

/-! ### Texts -/

theorem startsCased_cons_eq_false (hc : isWhiteSpace c = true) (rest : List Char) :
    startsCased (c :: rest) = false := by
  obtain ⟨⟨hcased, -⟩, hignorable⟩ := isCaseless_of_isWhiteSpace hc
  rw [startsCased, List.dropWhile_cons_of_neg (by rw [hignorable]; exact Bool.false_ne_true)]
  exact hcased

/-- What lies beyond characters without case in front of a text makes no difference to it. -/
theorem lowercaseAfter_before_append {beyond : List Char} (h : startsCased beyond = false)
    (before text : List Char) :
    lowercaseAfter (before ++ beyond) text = lowercaseAfter before text := by
  induction text generalizing before with
  | nil => rfl
  | cons c rest ih =>
    have hsigma : isFinalSigma (before ++ beyond) rest = isFinalSigma before rest := by
      rw [isFinalSigma, isFinalSigma, startsCased_append h]
    rw [lowercaseAfter, lowercaseAfter, hsigma, ← List.cons_append, ih]

theorem lowercaseAfter_cons (hc : isWhiteSpace c = true) (before rest : List Char) :
    lowercaseAfter before (c :: rest) = c :: lowercase rest := by
  obtain ⟨⟨-, hlower, hsigma⟩, -⟩ := isCaseless_of_isWhiteSpace hc
  have hrest : lowercaseAfter (c :: before) rest = lowercase rest :=
    lowercaseAfter_before_append (startsCased_cons_eq_false hc before) [] rest
  rw [lowercaseAfter, hrest, hlower]
  simp [hsigma]

/-- By induction on the text, where the characters in front of it grow. -/
theorem lowercaseAfter_append_cons (hc : isWhiteSpace c = true) (before text rest : List Char) :
    lowercaseAfter before (text ++ c :: rest) =
      lowercaseAfter before text ++ c :: lowercase rest := by
  induction text generalizing before with
  | nil => exact lowercaseAfter_cons hc before rest
  | cons d text ih =>
    have hsigma : isFinalSigma before (text ++ c :: rest) = isFinalSigma before text := by
      rw [isFinalSigma, isFinalSigma, startsCased_append (startsCased_cons_eq_false hc rest)]
    rw [List.cons_append, lowercaseAfter, lowercaseAfter, ih, hsigma, List.append_assoc]

/-- Texts with white space between them are mapped each on its own. -/
theorem lowercase_append_cons (hc : isWhiteSpace c = true) (text rest : List Char) :
    lowercase (text ++ c :: rest) = lowercase text ++ c :: lowercase rest :=
  lowercaseAfter_append_cons hc [] text rest

theorem isWhiteSpace_of_mem_lowercaseAfter (htext : ∀ c ∈ text, isWhiteSpace c = false)
    (before : List Char) : ∀ d ∈ lowercaseAfter before text, isWhiteSpace d = false := by
  induction text generalizing before with
  | nil => exact fun d hd => absurd hd List.not_mem_nil
  | cons c rest ih =>
    obtain ⟨hc, hrest⟩ := List.forall_mem_cons.1 htext
    intro d hd
    rw [lowercaseAfter] at hd
    rcases List.mem_append.1 hd with hd | hd
    · split at hd
      · have hsigmas : isWhiteSpace 'ς' = false ∧ isWhiteSpace 'σ' = false := by decide
        rw [List.mem_singleton.1 hd]
        split
        · exact hsigmas.1
        · exact hsigmas.2
      · exact isWhiteSpace_of_mem_lowercaseChar hc hd
    · exact ih hrest _ d hd

theorem lowercase_ne_nil (htext : text ≠ []) : lowercase text ≠ [] := by
  obtain ⟨c, rest, rfl⟩ := List.exists_cons_of_ne_nil htext
  rw [lowercase, lowercaseAfter]
  intro hnil
  obtain ⟨himage, -⟩ := List.append_eq_nil_iff.1 hnil
  split at himage
  · exact List.cons_ne_nil _ _ himage
  · exact lowercaseChar_ne_nil c himage

/-- By induction on the length: a text without white space is one part, and any other falls into two
shorter ones. -/
theorem nonBlankParts_lowercase (text : List Char) :
    nonBlankParts (lowercase text) = (nonBlankParts text).map lowercase := by
  induction hlength : text.length using Nat.strong_induction_on generalizing text with
  | h n ih =>
    subst hlength
    by_cases hblank : ∃ c ∈ text, isWhiteSpace c = true
    · obtain ⟨c, hmem, hc⟩ := hblank
      obtain ⟨before, after, rfl⟩ := List.append_of_mem hmem
      rw [List.length_append, List.length_cons] at ih
      rw [lowercase_append_cons hc, nonBlankParts_append_cons hc, nonBlankParts_append_cons hc,
        ih before.length (by omega) before rfl, ih after.length (by omega) after rfl,
        List.map_append]
    · have hword : ∀ c ∈ text, isWhiteSpace c = false := by simpa using hblank
      rcases eq_or_ne text [] with rfl | hne
      · rfl
      · rw [nonBlankParts_word hne hword, nonBlankParts_word (lowercase_ne_nil hne)
          (isWhiteSpace_of_mem_lowercaseAfter hword [])]
        rfl

end NewsScoring.Unicode
