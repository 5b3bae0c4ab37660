import Mathlib.Data.List.TakeWhile
import NewsScoring.Unicode.Lowercase

/-!
# Characters without case

The lower-case form of a text depends on what comes after it, since a capital sigma has a final form
at the end of a word.  Characters without case (`IsCaseless`), such as punctuation, do not change
the form of what stands in front of them, and stay as they are (`lowercase_append`).
-/

namespace NewsScoring.Unicode

/-- Whether a character is not cased and its own lower-case form, wherever it stands. -/
def IsCaseless (c : Char) : Prop :=
  casedTable.contains c = false ∧ lowercaseChar c = [c] ∧ c ≠ 'Σ'

instance (c : Char) : Decidable (IsCaseless c) :=
  inferInstanceAs (Decidable (_ ∧ _ ∧ _))

variable {ending : List Char}

theorem startsCased_eq_false (h : ∀ c ∈ ending, IsCaseless c) : startsCased ending = false := by
  rw [startsCased]
  split
  · rfl
  · next c rest hbehind =>
    have hmem : c ∈ ending.dropWhile caseIgnorableTable.contains := hbehind ▸ List.mem_cons_self
    exact (h c ((List.dropWhile_sublist _).subset hmem)).1

/-- Whether a text starts with a cased character is not changed by what follows it and does not. -/
theorem startsCased_append (h : startsCased ending = false) (text : List Char) :
    startsCased (text ++ ending) = startsCased text := by
  cases hbehind : text.dropWhile caseIgnorableTable.contains with
  | nil =>
    -- All of the text is passed over, so that its end decides.
    have hall : ∀ c ∈ text, caseIgnorableTable.contains c = true := by
      rwa [List.dropWhile_eq_nil_iff] at hbehind
    have htext : startsCased text = false := by rw [startsCased, hbehind]
    rw [htext, ← h, startsCased, startsCased, List.dropWhile_append_of_pos hall]
  | cons c rest =>
    rw [startsCased, startsCased, List.dropWhile_append, hbehind]
    rfl

theorem lowercaseAfter_eq_self (h : ∀ c ∈ ending, lowercaseChar c = [c] ∧ c ≠ 'Σ')
    (before : List Char) : lowercaseAfter before ending = ending := by
  induction ending generalizing before with
  | nil => rfl
  | cons c rest ih =>
    obtain ⟨⟨hlower, hsigma⟩, hrest⟩ := List.forall_mem_cons.1 h
    simp [lowercaseAfter, hsigma, hlower, ih hrest]

/-- By induction on the text, where the characters in front of it grow. -/
theorem lowercaseAfter_append (h : ∀ c ∈ ending, IsCaseless c) (before text : List Char) :
    lowercaseAfter before (text ++ ending) = lowercaseAfter before text ++ ending := by
  induction text generalizing before with
  | nil => exact lowercaseAfter_eq_self (fun c hc => (h c hc).2) before
  | cons c rest ih =>
    have hsigma : isFinalSigma before (rest ++ ending) = isFinalSigma before rest := by
      rw [isFinalSigma, isFinalSigma, startsCased_append (startsCased_eq_false h)]
    rw [List.cons_append, lowercaseAfter, lowercaseAfter, ih, hsigma, List.append_assoc]

/-- Characters without case at the end of a text stay there, and the rest is mapped as without
them. -/
theorem lowercase_append (h : ∀ c ∈ ending, IsCaseless c) (text : List Char) :
    lowercase (text ++ ending) = lowercase text ++ ending :=
  lowercaseAfter_append h [] text

end NewsScoring.Unicode
