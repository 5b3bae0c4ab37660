import NewsScoring.Corpus

/-!
# What is counted

One more document adds to the tally of each term how often it occurs in the document, and one
document if it does at all (`TermBag.tally_addDocument`).  The corpus counts alike, although it does
so in its own way (`Corpus.addTokens_eq_countTokens`), and merging another corpus adds up the
tallies (`Corpus.tally_merge`).
-/

namespace NewsScoring

/-- The tally of a term among terms; that of a term that is not listed is zero. -/
def tallyOf (terms : KeyedList String Tally) (term : String) : Tally :=
  (terms.find? term).getD Tally.none

/-- The tally of the occurrences that two tallies count. -/
def Tally.plus (a b : Tally) : Tally :=
  ⟨a.frequency + b.frequency, a.documents + b.documents⟩

theorem tallyOf_put (terms : KeyedList String Tally) (key : String) (tally : Tally)
    (term : String) :
    tallyOf (terms.put key tally) term = if term = key then tally else tallyOf terms term := by
  rw [tallyOf, KeyedList.find?_put]
  split <;> rfl

namespace TermBag

/-! ### The tokens of a document -/

/-- The tokens of a document are counted each time, and the first time as a document.  The tokens in
`seen` were counted before. -/
theorem tallyOf_countTokens (terms : KeyedList String Tally) (seen tokens : List String)
    (term : String) :
    tallyOf (countTokens terms seen tokens) term =
      (tallyOf terms term).plus
        ⟨tokens.count term, if term ∈ tokens ∧ term ∉ seen then 1 else 0⟩ := by
  induction tokens generalizing terms seen with
  | nil =>
    rw [countTokens, List.count_nil, if_neg fun h => List.not_mem_nil h.1]
    rfl
  | cons token rest ih =>
    rw [countTokens, ih, tallyOf_put, List.count_cons]
    by_cases hterm : term = token
    · subst hterm
      -- The document counts for a term at the first token of the term, which is not in `seen`.
      by_cases hseen : term ∈ seen
      · simp [Tally.plus, Tally.count, tallyOf, hseen]
        omega
      · simp [Tally.plus, Tally.count, tallyOf, hseen]
        omega
    · have hcount : (token == term) = false := beq_eq_false_iff_ne.2 fun h => hterm h.symm
      simp [hterm, hcount]

theorem tally_addDocument (bag : TermBag) (tokens : List String) (term : String) :
    (bag.addDocument tokens).tally term =
      (bag.tally term).plus ⟨tokens.count term, if term ∈ tokens then 1 else 0⟩ := by
  have hcount := tallyOf_countTokens bag.terms [] tokens term
  simp only [List.not_mem_nil, not_false_eq_true, and_true] at hcount
  exact hcount

end TermBag

namespace Corpus

/-- The counts gathered so far, with the terms in the order in which they came in. -/
def gathered (corpus : Corpus) : TermBag :=
  ⟨corpus.documentCount, corpus.terms⟩

/-! ### Adding documents -/

/-- A term that is new is counted as one occurrence in one document, which is the tally that
counting it for the first time gives. -/
theorem addOccurrence_eq_put {terms : KeyedList String Tally} {term : String} {isFirst : Bool}
    (hnew : terms.find? term = none → isFirst = true) :
    addOccurrence terms term isFirst = terms.put term ((tallyOf terms term).count isFirst) := by
  rw [addOccurrence, tallyOf]
  cases hfind : terms.find? term with
  | some tally => rfl
  | none =>
    rw [hnew hfind]
    rfl

/-- A corpus counts the tokens of a document as counts do. -/
theorem addTokens_eq_countTokens {terms : KeyedList String Tally} {seen : List String}
    (tokens : List String) (hseen : ∀ token ∈ seen, terms.find? token ≠ none) :
    addTokens terms seen tokens = TermBag.countTokens terms seen tokens := by
  -- The invariant is that the tokens which came before are listed.
  induction tokens generalizing terms seen with
  | nil => rfl
  | cons token rest ih =>
    have hnew : terms.find? token = none → (!seen.contains token) = true := by
      intro hfind
      rw [Bool.not_eq_true', ← Bool.not_eq_true, List.contains_iff_mem]
      exact fun hmem => hseen token hmem hfind
    rw [addTokens, addOccurrence_eq_put hnew, TermBag.countTokens]
    refine ih fun other hother => ?_
    rw [KeyedList.find?_put]
    split
    · exact Option.some_ne_none _
    · rename_i hne
      rcases List.mem_cons.1 hother with heq | hmem
      · exact absurd heq hne
      · exact hseen other hmem

theorem gathered_add (corpus : Corpus) (tokens : List String) :
    (corpus.add tokens).gathered = corpus.gathered.addDocument tokens := by
  have htokens : addTokens corpus.terms [] tokens = TermBag.countTokens corpus.terms [] tokens :=
    addTokens_eq_countTokens tokens fun token hmem => absurd hmem List.not_mem_nil
  rw [gathered, add, htokens]
  rfl

/-! ### Merging -/

theorem tallyOf_addTally (terms : KeyedList String Tally) (key : String) (tally : Tally)
    (term : String) :
    tallyOf (addTally terms key tally) term =
      if term = key then (tallyOf terms key).plus tally else tallyOf terms term := by
  rw [addTally]
  cases hfind : terms.find? key with
  | some own =>
    have hown : tallyOf terms key = own := by rw [tallyOf, hfind, Option.getD_some]
    rw [tallyOf_put, hown]
    rfl
  | none =>
    have hown : tallyOf terms key = Tally.none := by rw [tallyOf, hfind, Option.getD_none]
    rw [tallyOf_put, hown]
    simp [Tally.plus, Tally.none]

/-- Tallies are added up over the entries, in which no term is listed twice. -/
theorem tallyOf_foldl_addTally {entries : List (String × Tally)}
    (hnodup : (entries.map Prod.fst).Nodup) (terms : KeyedList String Tally) (term : String) :
    tallyOf (entries.foldl (fun terms entry => addTally terms entry.1 entry.2) terms) term =
      (tallyOf terms term).plus (tallyOf ⟨entries, hnodup⟩ term) := by
  induction entries generalizing terms with
  | nil => rfl
  | cons entry rest ih =>
    obtain ⟨key, tally⟩ := entry
    obtain ⟨hkey, hrest⟩ := List.nodup_cons.1 hnodup
    have hcons : tallyOf ⟨(key, tally) :: rest, hnodup⟩ term =
        if term = key then tally else tallyOf ⟨rest, hrest⟩ term := by
      by_cases hterm : term = key
      · subst hterm
        simp [tallyOf, KeyedList.find?]
      · simp [tallyOf, KeyedList.find?, hterm, Ne.symm hterm]
    rw [List.foldl_cons, ih hrest, tallyOf_addTally, hcons]
    by_cases hterm : term = key
    · subst hterm
      have hnone : (⟨rest, hrest⟩ : KeyedList String Tally).find? term = none := by
        rw [Option.eq_none_iff_forall_ne_some]
        intro value hfind
        exact hkey (List.mem_map.2 ⟨_, KeyedList.find?_eq_some_iff.1 hfind, rfl⟩)
      rw [if_pos rfl, if_pos rfl]
      simp [tallyOf, hnone, Tally.plus, Tally.none]
    · rw [if_neg hterm, if_neg hterm]

theorem tally_merge (corpus other : Corpus) (term : String) :
    (corpus.merge other).gathered.tally term =
      (corpus.gathered.tally term).plus (other.gathered.tally term) :=
  tallyOf_foldl_addTally other.terms.nodup_keys corpus.terms term

theorem tally_freeze (corpus : Corpus) (term : String) :
    corpus.freeze.tally term = corpus.gathered.tally term :=
  congrArg (Option.getD · Tally.none) (KeyedList.find?_sortedBy corpus.terms termLe term)

end Corpus

end NewsScoring
