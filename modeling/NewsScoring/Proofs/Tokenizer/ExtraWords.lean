import NewsScoring.Proofs.TermBag.FirstOccurrence

/-!
# Words that are left out

Extra words are left out of the tokens before these are counted, which leaves out exactly the terms
that they are (`TermBag.toList_ofTokenLists_filter`), and nothing else changes.  A tokenizer with
the extra words among its stopwords has the same tokens, if each word is written in the form in
which stopwords are listed (`Tokenizer.keeps_ofList_append`).
-/

namespace NewsScoring

/-- A word is listed if it is the trimmed form in lower case of one that was given, and not empty. -/
theorem Stopwords.contains_ofList_iff {words : List String} {token : String} :
    (ofList words).contains token = true ↔
      (∃ word ∈ words, normalize word = token) ∧ token ≠ "" := by
  rw [contains, ofList, List.contains_iff_mem, List.mem_eraseDups, List.mem_filter, List.mem_map]
  simp

namespace TermBag

/-- Leaving tokens out of documents leaves their terms out of the counts, and keeps the tallies and
the order of all others. -/
theorem toList_ofTokenLists_filter (p : String → Bool) (documents : List (List String)) :
    (ofTokenLists (documents.map (List.filter p))).toList =
      (ofTokenLists documents).toList.filter fun entry => p entry.1 := by
  rw [toList_ofTokenLists, toList_ofTokenLists, ← List.filter_flatten, eraseDups_filter,
    List.filter_map]
  refine List.map_congr_left fun term hterm => ?_
  have hkept : p term = true := (List.mem_filter.1 hterm).2
  have hmem : ∀ tokens : List String, term ∈ tokens.filter p ↔ term ∈ tokens := by
    intro tokens
    rw [List.mem_filter, and_iff_left hkept]
  rw [List.count_filter hkept, List.countP_map]
  simp only [Function.comp_def, hmem]

end TermBag

namespace Tokenizer

/-! ### Tokens that are left out -/

theorem tokensWithout_eq_filter (tokenizer : Tokenizer) (extra : List String) (text : String) :
    tokenizer.tokensWithout extra text = (tokenizer.tokens text).filter (· ∉ extra) := by
  rw [tokens, tokensWithout, tokensWithout, List.filter_filter]
  refine List.filter_congr fun token _ => ?_
  simp [keeps, Bool.and_comm]

theorem documentTokens_eq_filter (tokenizer : Tokenizer) (extra : List String)
    (document : Document) :
    tokenizer.documentTokens document extra =
      (tokenizer.documentTokens document).filter (· ∉ extra) := by
  have hempty : tokenizer.tokensWithout [] = tokenizer.tokens := rfl
  rw [documentTokens, documentTokens, hempty, List.filter_flatMap]
  exact List.flatMap_congr fun text _ => tokenizer.tokensWithout_eq_filter extra text

/-! ### Stopwords that are left out -/

variable {extra : List String}

/-- Among the stopwords, words in their listed form keep out the tokens that they keep out as extra
words. -/
theorem keeps_ofList_append
    (hextra : ∀ word ∈ extra, Stopwords.normalize word = word ∧ word ≠ "") (words : List String) :
    keeps ⟨.ofList (words ++ extra)⟩ [] = keeps ⟨.ofList words⟩ extra := by
  have hcontains : ∀ token, (Stopwords.ofList (words ++ extra)).contains token = true ↔
      (Stopwords.ofList words).contains token = true ∨ token ∈ extra := by
    intro token
    rw [Stopwords.contains_ofList_iff, Stopwords.contains_ofList_iff]
    constructor
    · rintro ⟨⟨word, hword, rfl⟩, hne⟩
      rcases List.mem_append.1 hword with hword | hword
      · exact .inl ⟨⟨word, hword, rfl⟩, hne⟩
      · rw [(hextra word hword).1]
        exact .inr hword
    · rintro (⟨⟨word, hword, rfl⟩, hne⟩ | hmem)
      · exact ⟨⟨word, List.mem_append_left _ hword, rfl⟩, hne⟩
      · exact ⟨⟨token, List.mem_append_right _ hmem, (hextra token hmem).1⟩, (hextra token hmem).2⟩
  funext token
  rw [keeps, keeps, List.contains_nil, Bool.or_false, Bool.eq_iff_iff, Bool.not_eq_true',
    Bool.not_eq_true', ← Bool.not_eq_true, ← Bool.not_eq_true, hcontains, Bool.or_eq_true,
    List.contains_iff_mem]

theorem documentTokens_ofList_append
    (hextra : ∀ word ∈ extra, Stopwords.normalize word = word ∧ word ≠ "") (words : List String)
    (document : Document) :
    documentTokens ⟨.ofList (words ++ extra)⟩ document =
      documentTokens ⟨.ofList words⟩ document extra := by
  have htokens : tokensWithout ⟨.ofList (words ++ extra)⟩ [] =
      tokensWithout ⟨.ofList words⟩ extra := by
    funext text
    rw [tokensWithout, tokensWithout, keeps_ofList_append hextra]
  rw [documentTokens, documentTokens, htokens]

/-! ### Counts without words -/

/-- Extra words are erased from the counts of documents, in which nothing else changes; and if they
are written as stopwords are listed, they might as well be stopwords. -/
theorem bagOfDocuments_erases (documents : List Document) (extra : List String) :
    (∀ tokenizer : Tokenizer,
      (tokenizer.bagOfDocuments documents extra).documentCount =
        (tokenizer.bagOfDocuments documents).documentCount ∧
      (tokenizer.bagOfDocuments documents extra).toList =
        (tokenizer.bagOfDocuments documents).toList.filter fun entry => entry.1 ∉ extra) ∧
    ((∀ word ∈ extra, Stopwords.normalize word = word ∧ word ≠ "") → ∀ words,
      bagOfDocuments ⟨.ofList (words ++ extra)⟩ documents =
        bagOfDocuments ⟨.ofList words⟩ documents extra) := by
  refine ⟨fun tokenizer => ?_, fun hextra words => ?_⟩
  · have hfilter : documents.map (tokenizer.documentTokens · extra) =
        (documents.map (tokenizer.documentTokens ·)).map (List.filter (· ∉ extra)) := by
      rw [List.map_map]
      exact List.map_congr_left fun document _ => tokenizer.documentTokens_eq_filter extra document
    constructor
    · rw [bagOfDocuments, bagOfDocuments, (TermBag.isCountOf_ofTokenLists _).documentCount_eq,
        (TermBag.isCountOf_ofTokenLists _).documentCount_eq]
      simp
    · rw [bagOfDocuments, hfilter]
      exact TermBag.toList_ofTokenLists_filter _ _
  · rw [bagOfDocuments, bagOfDocuments]
    simp only [documentTokens_ofList_append hextra]

/-- Two articles on capital. -/
def capitalNews : List Document :=
  [{ title := "Venture capital funding" }, { title := "Capital markets rally" }]

/-- Of the articles on capital, the word itself is left out as an extra word or as a stopword. -/
theorem bagOfDocuments_erases_capital :
    bagOfDocuments ⟨.ofList ["the", "capital"]⟩ capitalNews =
      bagOfDocuments ⟨.ofList ["the"]⟩ capitalNews ["capital"] ∧
    (bagOfDocuments ⟨.ofList ["the"]⟩ capitalNews ["capital"]).documentCount = 2 ∧
    (bagOfDocuments ⟨.ofList ["the"]⟩ capitalNews ["capital"]).toList =
      [("venture", ⟨1, 1⟩), ("funding", ⟨1, 1⟩), ("markets", ⟨1, 1⟩), ("rally", ⟨1, 1⟩)] := by
  have hextra : ∀ word ∈ ["capital"], Stopwords.normalize word = word ∧ word ≠ "" := by
    decide +kernel
  have hall : (bagOfDocuments ⟨.ofList ["the"]⟩ capitalNews).toList =
      [("venture", ⟨1, 1⟩), ("capital", ⟨2, 2⟩), ("funding", ⟨1, 1⟩), ("markets", ⟨1, 1⟩),
        ("rally", ⟨1, 1⟩)] := by
    decide +kernel
  obtain ⟨hcount, hlist⟩ := (bagOfDocuments_erases capitalNews ["capital"]).1 ⟨.ofList ["the"]⟩
  refine ⟨(bagOfDocuments_erases capitalNews ["capital"]).2 hextra ["the"], hcount, ?_⟩
  rw [hlist, hall]
  decide

end Tokenizer

end NewsScoring
