import NewsScoring.Proofs.Similarity
import NewsScoring.Proofs.TermBag.FirstOccurrence
import NewsScoring.Proofs.TfIdf.Rarity
import NewsScoring.Proofs.Weighing.Plain

/-!
# Documents that cannot be compared

Terms that occur in all documents of a universe have no weight.  A document that has no other terms,
or none at all, has a vector that is zero (`Weighing.isZero_document_plain_iff`), and so it cannot be
compared with any document (`Weighing.similarity_plain_eq_zeroVector_iff`).
-/

namespace NewsScoring

/-- Whether a term occurs in all documents of a universe. -/
def Universe.HasEverywhere (u : Universe) (term : String) : Prop :=
  u.documents term = u.documentCount

/-- Whether all tokens of a document occur in all documents of a universe. -/
def Tokenizer.FindsOnlyUbiquitous (tokenizer : Tokenizer) (u : Universe) (document : Document) :
    Prop :=
  ∀ token ∈ tokenizer.documentTokens document, u.HasEverywhere token

variable {u : Universe} {tokenizer : Tokenizer} {document : Document}

/-- In a universe that was counted, a term occurs everywhere if each document has it. -/
theorem Universe.hasEverywhere_iff_of_bag_eq {documents : List (List String)}
    (hbag : u.bag = .ofTokenLists documents) {term : String} :
    u.HasEverywhere term ↔ ∀ tokens ∈ documents, term ∈ tokens := by
  have hcounts := TermBag.countsExactly_ofTokenLists documents
  rw [HasEverywhere, Universe.documents, documentCount, hbag, hcounts.documents_eq,
    hcounts.documentCount_eq, List.countP_eq_length]
  simp only [decide_eq_true_eq]

theorem Tokenizer.frequency_bag_pos_iff {term : String} :
    0 < (tokenizer.bag document).frequency term ↔ term ∈ tokenizer.documentTokens document := by
  rw [bag, (TermBag.countsExactly_ofTokenLists _).frequency_eq, List.flatten_singleton,
    List.count_pos_iff]

namespace Weighing

/-! ### Documents -/

theorem isZero_document_plain_iff (hu : u.bag.IsConsistent) {v : WeightVector Exact}
    (hv : (plain tokenizer u).document document = .ok v) :
    v.isZero = true ↔ tokenizer.FindsOnlyUbiquitous u document := by
  have hiff := TermBag.isZero_iff_of_weighted hv
  simp only [Tokenizer.frequency_bag_pos_iff] at hiff
  rw [hiff]
  -- No term occurs in more documents than there are.
  exact forall₂_congr fun token _ =>
    ⟨fun hle => le_antisymm (hu.documents_le_documentCount token) hle, fun heq => heq.ge⟩

theorem similarity_plain_eq_zeroVector_iff (hu : u.bag.IsConsistent)
    (hcount : 1 ≤ u.documentCount) (a b : Document) :
    (plain tokenizer u : Weighing _ Exact).similarity a b = .error .zeroVector ↔
      tokenizer.FindsOnlyUbiquitous u a ∨ tokenizer.FindsOnlyUbiquitous u b := by
  obtain ⟨va, hva⟩ : ∃ va, (plain tokenizer u : Weighing _ Exact).document a = .ok va :=
    exists_document_plain_eq_ok_iff.2 hcount
  obtain ⟨vb, hvb⟩ : ∃ vb, (plain tokenizer u : Weighing _ Exact).document b = .ok vb :=
    exists_document_plain_eq_ok_iff.2 hcount
  have hcosine : (plain tokenizer u : Weighing _ Exact).similarity a b = va.cosine vb := by
    rw [similarity, hva, hvb]
    exact ofExcept_eq_self (va.cosine vb)
  have hea : va.IsEuclidean := (TermBag.isBuilt_of_weighted_eq_ok hva).isEuclidean
  have heb : vb.IsEuclidean := (TermBag.isBuilt_of_weighted_eq_ok hvb).isEuclidean
  rw [hcosine, hea.cosine_eq_error_iff_hasOnlyZeros heb, and_iff_left rfl, ← hea.isZero_iff,
    ← heb.isZero_iff, isZero_document_plain_iff hu hva, isZero_document_plain_iff hu hvb]

end Weighing

/-! ### Weights in a universe -/

open Scalar Weighing

/-- Weights in a universe are not negative.  A term that is more frequent weighs no less, one that
more documents of the universe have weighs no more, and a weight is positive exactly for a term that
occurs and that some document of the universe lacks.  So a document has a vector that is zero, and no
similarity to any other, exactly if each of its tokens occurs in the whole universe. -/
theorem Universe.weights_mono_and_isZero_iff {u : Universe} (hu : u.bag.IsObtainable) :
    (∀ bag : TermBag, bag.documentCount ≤ u.documentCount →
      ∃ v : WeightVector Exact, bag.weighted u = .ok v ∧ v.weights.keys = bag.terms.keys ∧
        ∀ term weight, v.weight? term = some weight → zero ≤ weight ∧
          (zero < weight ↔ 0 < bag.frequency term ∧ u.documents term < u.documentCount)) ∧
    (∀ (bag bag' : TermBag) (v v' : WeightVector Exact) term weight weight',
      bag.weighted u = .ok v → bag'.weighted u = .ok v' →
      v.weight? term = some weight → v'.weight? term = some weight' →
      bag.frequency term ≤ bag'.frequency term → weight ≤ weight') ∧
    (∀ (bag : TermBag) (u' : Universe) (v v' : WeightVector Exact) term weight weight',
      bag.weighted u = .ok v → bag.weighted u' = .ok v' → u'.documentCount = u.documentCount →
      v.weight? term = some weight → v'.weight? term = some weight' →
      u.documents term ≤ u'.documents term → weight' ≤ weight) ∧
    (1 ≤ u.documentCount → ∀ tokenizer : Tokenizer,
      (∀ document, ∃ v : WeightVector Exact, (plain tokenizer u).document document = .ok v ∧
        (v.isZero = true ↔ tokenizer.FindsOnlyUbiquitous u document)) ∧
      ∀ a b, (plain tokenizer u : Weighing _ Exact).similarity a b = .error .zeroVector ↔
        tokenizer.FindsOnlyUbiquitous u a ∨ tokenizer.FindsOnlyUbiquitous u b) := by
  have hconsistent : u.bag.IsConsistent := hu.isConsistent
  refine ⟨fun bag hfit => ?_, fun bag bag' v v' term weight weight' h h' hw hw' hfrequency => ?_,
    fun bag u' v v' term weight weight' h h' hcount hw hw' hdocuments => ?_,
    fun hcount tokenizer => ⟨fun document => ?_, fun a b => ?_⟩⟩
  · obtain ⟨v, hv⟩ : ∃ v : WeightVector Exact, bag.weighted u = .ok v :=
      TermBag.exists_weighted_eq_ok_iff.2 hfit
    exact ⟨v, hv, TermBag.keys_of_weighted_eq_ok hv,
      fun term weight => TermBag.weight_nonneg_and_pos_iff hv⟩
  · exact TermBag.weight_mono h h' rfl hfrequency le_rfl hw hw'
  · exact TermBag.weight_mono h' h hcount.symm le_rfl hdocuments hw' hw
  · obtain ⟨v, hv⟩ : ∃ v : WeightVector Exact, (plain tokenizer u).document document = .ok v :=
      exists_document_plain_eq_ok_iff.2 hcount
    exact ⟨v, hv, isZero_document_plain_iff hconsistent hv⟩
  · exact similarity_plain_eq_zeroVector_iff hconsistent hcount a b

/-- A universe of two documents on wheat, one of them on the harvest. -/
def wheatFields : Universe :=
  ⟨0, .ofTokenLists [["wheat", "harvest"], ["wheat"]]⟩

/-- The harvest weighs more the more often it is mentioned.  An article on wheat alone has no
similarity to one on the harvest, which has one to itself. -/
theorem Universe.weights_mono_and_isZero_iff_wheatFields :
    wheatFields.bag.IsObtainable ∧
    (∃ (once twice : WeightVector Exact) (weight weight' : Exact),
      (TermBag.ofTokenLists [["harvest"]]).weighted wheatFields = .ok once ∧
      (TermBag.ofTokenLists [["harvest", "harvest"]]).weighted wheatFields = .ok twice ∧
      once.weight? "harvest" = some weight ∧ twice.weight? "harvest" = some weight' ∧
      zero < weight ∧ weight ≤ weight') ∧
    (plain ⟨⟨[]⟩⟩ wheatFields : Weighing _ Exact).similarity { title := "Wheat" }
      { title := "Wheat harvest" } = .error .zeroVector ∧
    (plain ⟨⟨[]⟩⟩ wheatFields : Weighing _ Exact).similarity { title := "Wheat harvest" }
      { title := "Wheat harvest" } ≠ .error .zeroVector := by
  have hobtainable : wheatFields.bag.IsObtainable := .ofTokenLists _
  obtain ⟨hweights, hmono, -, hdocuments⟩ := weights_mono_and_isZero_iff hobtainable
  refine ⟨hobtainable, ?_, ?_⟩
  · obtain ⟨once, honce, hkeys, hpos⟩ := hweights (.ofTokenLists [["harvest"]]) (by decide)
    obtain ⟨twice, htwice, hkeys', -⟩ := hweights (.ofTokenLists [["harvest", "harvest"]]) (by decide)
    obtain ⟨weight, hweight⟩ : ∃ weight, once.weight? "harvest" = some weight :=
      WeightVector.mem_terms_iff.1 (by rw [WeightVector.terms, hkeys]; decide)
    obtain ⟨weight', hweight'⟩ : ∃ weight, twice.weight? "harvest" = some weight :=
      WeightVector.mem_terms_iff.1 (by rw [WeightVector.terms, hkeys']; decide)
    exact ⟨once, twice, weight, weight', honce, htwice, hweight, hweight',
      (hpos _ _ hweight).2.2 (by decide),
      hmono _ _ _ _ _ _ _ honce htwice hweight hweight' (by decide)⟩
  · have hwheat : Tokenizer.documentTokens ⟨⟨[]⟩⟩ { title := "Wheat" } = ["wheat"] := by
      decide +kernel
    have hharvest : Tokenizer.documentTokens ⟨⟨[]⟩⟩ { title := "Wheat harvest" } =
        ["wheat", "harvest"] := by
      decide +kernel
    have heverywhere : wheatFields.HasEverywhere "wheat" := by
      rw [hasEverywhere_iff_of_bag_eq rfl]
      decide
    have hmissing : ¬wheatFields.HasEverywhere "harvest" := by
      rw [hasEverywhere_iff_of_bag_eq rfl]
      decide
    have hsimilarity := (hdocuments (by decide) ⟨⟨[]⟩⟩).2
    refine ⟨(hsimilarity _ _).2 (.inl ?_), fun hzero => hmissing ?_⟩
    · intro token htoken
      rw [hwheat, List.mem_singleton] at htoken
      rwa [htoken]
    · refine or_self_iff.1 ((hsimilarity _ _).1 hzero) "harvest" ?_
      rw [hharvest]
      decide

end NewsScoring
