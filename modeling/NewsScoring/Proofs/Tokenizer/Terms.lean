import NewsScoring.Proofs.Corpus.Inflow
import NewsScoring.Proofs.Scalar.Exact
import NewsScoring.Proofs.TermBag.FirstOccurrence
import NewsScoring.Proofs.Token.NormalForm
import NewsScoring.TfIdf

/-!
# The terms of counted texts

Whatever a tokenizer counts, it counts tokens of the texts that it reads, and no stopwords.  This
holds of texts and documents that are counted at once and of those that are gathered in corpora and
merged (`Counts`), and so also of the weighted terms, which are the counted ones.
-/

namespace NewsScoring

namespace Workshop

variable {held : Multiset (String × List String)} {p : List String → Prop}

theorem forall_mem_follow (hheld : ∀ document ∈ held, p document.2) {step : Step}
    (hadd : ∀ name tokens, step = .add name tokens → p tokens) :
    ∀ document ∈ follow held step, p document.2 := by
  cases step with
  | add name tokens =>
    exact Multiset.forall_mem_cons.2 ⟨hadd name tokens rfl, hheld⟩
  | merge name other =>
    intro document hdocument
    obtain ⟨before, hbefore, rfl⟩ := Multiset.mem_map.1 hdocument
    exact hheld before hbefore

/-- The documents that the steps move around are those that they add. -/
theorem forall_mem_foldl_follow {steps : List Step} (hheld : ∀ document ∈ held, p document.2)
    (hadd : ∀ name tokens, .add name tokens ∈ steps → p tokens) :
    ∀ document ∈ steps.foldl follow held, p document.2 := by
  induction steps generalizing held with
  | nil => exact hheld
  | cons step rest ih =>
    refine ih (forall_mem_follow hheld fun name tokens heq => ?_) fun name tokens hmem => ?_
    · exact hadd name tokens (heq ▸ List.mem_cons_self)
    · exact hadd name tokens (List.mem_cons_of_mem step hmem)

/-- The texts that a call gives to a tokenizer. -/
def Call.texts : Call → List String
  | addTokens _ _ => []
  | addText _ _ text => [text]
  | addDocument _ _ document _ => Tokenizer.documentTexts document
  | merge _ _ => []

/-- Whether a call adds nothing but what a given tokenizer makes of texts. -/
def Call.Uses (tokenizer : Tokenizer) : Call → Prop
  | addTokens _ _ => False
  | addText _ own _ => own = tokenizer
  | addDocument _ own _ _ => own = tokenizer
  | merge _ _ => True

end Workshop

namespace Tokenizer

open Workshop

variable {tokenizer : Tokenizer} {extra texts : List String} {text term : String}
  {document : Document} {bag : TermBag}

/-- What holds of the terms of texts. -/
structure IsTermOf (tokenizer : Tokenizer) (texts : List String) (term : String) : Prop where
  exists_isTokenOf : ∃ text ∈ texts, ∃ fragment ∈ fragments text,
    Token.IsTokenOf fragment term.toList
  contains_stopwords : tokenizer.stopwords.contains term = false

/-! ### Texts and documents -/

theorem isTermOf_of_mem_tokensWithout (htext : text ∈ texts)
    (h : term ∈ tokenizer.tokensWithout extra text) : tokenizer.IsTermOf texts term := by
  rw [tokensWithout, List.mem_filter, keeps, Bool.not_eq_true', Bool.or_eq_false_iff] at h
  obtain ⟨hterm, hstopword, -⟩ := h
  obtain ⟨token, htoken, rfl⟩ := List.mem_map.1 hterm
  obtain ⟨fragment, hfragment, hcanonical⟩ := List.mem_filterMap.1 htoken
  refine ⟨⟨text, htext, fragment, hfragment, ?_⟩, hstopword⟩
  rw [String.toList_ofList]
  exact Token.isTokenOf_of_canonicalize_eq_some hcanonical

theorem isTermOf_of_mem_documentTokens (htexts : documentTexts document ⊆ texts)
    (h : term ∈ tokenizer.documentTokens document extra) : tokenizer.IsTermOf texts term := by
  obtain ⟨text, htext, hterm⟩ := List.mem_flatMap.1 h
  exact isTermOf_of_mem_tokensWithout (htexts htext) hterm

/-! ### Corpora -/

theorem isTermOf_of_mem_inflow {calls : List Call} {name : String} {tokens : List String}
    (hcalls : ∀ call ∈ calls, call.Uses tokenizer) (htokens : tokens ∈ inflow calls name)
    (hterm : term ∈ tokens) : tokenizer.IsTermOf (calls.flatMap Call.texts) term := by
  obtain ⟨document, hdocument, rfl⟩ := Multiset.mem_map.1 htokens
  have hadded : ∀ name tokens, .add name tokens ∈ calls.map Call.step →
      ∀ term ∈ tokens, tokenizer.IsTermOf (calls.flatMap Call.texts) term := by
    intro name tokens hmem term hterm
    obtain ⟨call, hcall, hstep⟩ := List.mem_map.1 hmem
    have htexts : call.texts ⊆ calls.flatMap Call.texts :=
      fun text htext => List.mem_flatMap.2 ⟨call, hcall, htext⟩
    have huses := hcalls call hcall
    cases call with
    | addTokens => exact huses.elim
    | addText =>
      cases huses
      cases hstep
      exact isTermOf_of_mem_tokensWithout (htexts List.mem_cons_self) hterm
    | addDocument =>
      cases huses
      cases hstep
      exact isTermOf_of_mem_documentTokens htexts hterm
    | merge => cases hstep
  have hnone : ∀ document ∈ (0 : Multiset (String × List String)),
      ∀ term ∈ document.2, tokenizer.IsTermOf (calls.flatMap Call.texts) term :=
    fun document hdocument => absurd hdocument (Multiset.notMem_zero document)
  exact forall_mem_foldl_follow hnone hadded document (Multiset.mem_filter.1 hdocument).1 term hterm

/-! ### Counts -/

/-- Whether counts are what a tokenizer makes of texts: of texts or documents that are counted at
once, or of those that are gathered in corpora, with any merges between them. -/
inductive Counts (tokenizer : Tokenizer) : List String → TermBag → Prop
  | texts (texts : List String) : Counts tokenizer texts (tokenizer.bagOfTexts texts)
  | document (document : Document) :
      Counts tokenizer (documentTexts document) (tokenizer.bag document)
  | documents (documents : List Document) (extra : List String) :
      Counts tokenizer (documents.flatMap documentTexts) (tokenizer.bagOfDocuments documents extra)
  | corpus {calls : List Call} (name : String) (hcalls : ∀ call ∈ calls, call.Uses tokenizer) :
      Counts tokenizer (calls.flatMap Call.texts) ((runCalls calls).get name).freeze

theorem mem_keys_ofTokenLists {documents : List (List String)} :
    term ∈ (TermBag.ofTokenLists documents).terms.keys ↔ ∃ tokens ∈ documents, term ∈ tokens := by
  rw [TermBag.keys_ofTokenLists, List.mem_eraseDups, List.mem_flatten]

theorem Counts.isTermOf (h : tokenizer.Counts texts bag) (hterm : term ∈ bag.terms.keys) :
    tokenizer.IsTermOf texts term := by
  cases h with
  | texts =>
    obtain ⟨tokens, htokens, hmem⟩ := mem_keys_ofTokenLists.1 hterm
    obtain ⟨text, htext, rfl⟩ := List.mem_map.1 htokens
    exact isTermOf_of_mem_tokensWithout htext hmem
  | document =>
    obtain ⟨tokens, htokens, hmem⟩ := mem_keys_ofTokenLists.1 hterm
    rw [List.mem_singleton.1 htokens] at hmem
    exact isTermOf_of_mem_documentTokens (List.Subset.refl _) hmem
  | documents documents =>
    obtain ⟨tokens, htokens, hmem⟩ := mem_keys_ofTokenLists.1 hterm
    obtain ⟨document, hdocument, rfl⟩ := List.mem_map.1 htokens
    have htexts : documentTexts document ⊆ documents.flatMap documentTexts :=
      fun text htext => List.mem_flatMap.2 ⟨document, hdocument, htext⟩
    exact isTermOf_of_mem_documentTokens htexts hmem
  | @corpus calls name hcalls =>
    have hcounts := Corpus.isCountOf_freeze (isCountOf_get_runCalls calls name)
    obtain ⟨tokens, htokens, hmem⟩ := hcounts.mem_keys_iff.1 hterm
    exact isTermOf_of_mem_inflow hcalls htokens hmem

/-- The rounds of stripping end for every fragment, and the token that it stands for, if any, is a
plausible part of it.  So every counted term of texts is such a token of one of the texts and no
stopword, and the weighted terms are the counted ones. -/
theorem isTermOf_of_counts :
    (∀ fragment : List Char,
      (let start := (Unicode.lowercase fragment).dropWhile (!Token.canStart ·)
        ∃ n ≤ start.length, Token.stripEndingOnce^[n] start = Token.bare fragment ∧
          (∀ k < n, (Token.stripEndingOnce^[k + 1] start).length <
            (Token.stripEndingOnce^[k] start).length) ∧
          Token.stripEndingOnce (Token.bare fragment) = Token.bare fragment) ∧
      ∀ token, Token.canonicalize fragment = some token → Token.IsTokenOf fragment token) ∧
    ∀ (tokenizer : Tokenizer) (texts : List String) (bag : TermBag), tokenizer.Counts texts bag →
      (∀ term ∈ bag.terms.keys, tokenizer.IsTermOf texts term) ∧
      ∀ (α : Type) [Scalar α] (u : Universe) (vector : WeightVector α),
        bag.weighted u = .ok vector →
        ∀ term ∈ vector.weights.keys, tokenizer.IsTermOf texts term := by
  refine ⟨fun fragment => ⟨Token.exists_iterate_eq_stripEnding _,
    fun token h => Token.isTokenOf_of_canonicalize_eq_some h⟩,
    fun tokenizer texts bag hcounts => ⟨fun term hterm => hcounts.isTermOf hterm, ?_⟩⟩
  intro α _ u vector hweighted term hterm
  rw [TermBag.keys_of_weighted_eq_ok hweighted] at hterm
  exact hcounts.isTermOf hterm

/-- Of three words, one is a stopword and one loses its quotes and its possessive. -/
theorem isTermOf_of_counts_startup :
    let tokenizer : Tokenizer := ⟨.ofList ["the"]⟩
    let bag := tokenizer.bagOfTexts ["The “Startup’s” robots"]
    (Token.canonicalize "“Startup’s”".toList = some "startup".toList ∧
      Token.IsTokenOf "“Startup’s”".toList "startup".toList) ∧
    (tokenizer.Counts ["The “Startup’s” robots"] bag ∧ bag.terms.keys = ["startup", "robots"] ∧
      tokenizer.IsTermOf ["The “Startup’s” robots"] "startup") ∧
    ∃ vector : WeightVector Exact, bag.weighted ⟨0, bag⟩ = .ok vector ∧
      "robots" ∈ vector.weights.keys ∧ tokenizer.IsTermOf ["The “Startup’s” robots"] "robots" := by
  intro tokenizer bag
  have htoken : Token.canonicalize "“Startup’s”".toList = some "startup".toList := by decide +kernel
  have hcounts : tokenizer.Counts ["The “Startup’s” robots"] bag := .texts _
  have hkeys : bag.terms.keys = ["startup", "robots"] := by decide +kernel
  have hstartup : "startup" ∈ bag.terms.keys := hkeys ▸ List.mem_cons_self
  have hrobots : "robots" ∈ bag.terms.keys := hkeys ▸ List.mem_cons_of_mem _ List.mem_cons_self
  obtain ⟨vector, hweighted⟩ : ∃ vector : WeightVector Exact, bag.weighted ⟨0, bag⟩ = .ok vector :=
    TermBag.exists_weighted_eq_ok_iff.2 (Nat.le_refl bag.documentCount)
  have hlisted : "robots" ∈ vector.weights.keys := by
    rwa [TermBag.keys_of_weighted_eq_ok hweighted]
  exact ⟨⟨htoken, (isTermOf_of_counts.1 _).2 _ htoken⟩,
    ⟨hcounts, hkeys, (isTermOf_of_counts.2 _ _ _ hcounts).1 _ hstartup⟩, vector, hweighted, hlisted,
    (isTermOf_of_counts.2 _ _ _ hcounts).2 _ _ _ hweighted _ hlisted⟩

end Tokenizer

end NewsScoring
