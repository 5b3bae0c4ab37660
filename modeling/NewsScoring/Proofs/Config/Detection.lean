import NewsScoring.Config
import NewsScoring.Proofs.Duplicates.Search
import NewsScoring.Proofs.TfIdf.Keywords

/-!
# Configurations that find duplicates

A search by keywords finds the first candidate of a supplier, if it counts, exactly with a
configuration that asks for at least one keyword and at least one candidate
(`Config.findWith_finds_iff`).  Configurations that ask for none are accepted, although nothing is
ever found with them (`Config.not_findsFirst_of_accepted`).
-/

namespace NewsScoring

namespace Duplicates

variable {α : Type} [Scalar α] {w : Weighing (Except ScoringError) α}
  {settings : DuplicateSettings α} {subject candidate : Document} {weights : WeightVector α}
  {ε : Type} {supplier : Supplier (Except ScoringError) ε}

/-! ### A search by keywords -/

/-- Without keywords no supplier is asked. -/
theorem findWith_of_topTerms_eq_nil (hweights : w.document subject = .ok weights)
    (hkeywords : weights.topTerms settings.keywordCount = []) :
    findWith w settings supplier subject = .error .zeroVector := by
  simp only [findWith, hweights, bind, Except.bind, hkeywords]
  rfl

/-- With keywords, the duplicates are those among the first candidates. -/
theorem findWith_of_topTerms_ne_nil (hweights : w.document subject = .ok weights)
    (hkeywords : weights.topTerms settings.keywordCount ≠ []) {candidates : List Document}
    (hsupplier : supplier (weights.topTerms settings.keywordCount) settings.candidateLimit =
      .ok (.ok candidates)) :
    findWith w settings supplier subject =
      .ok <$> findDuplicates w settings subject (candidates.take settings.candidateLimit) := by
  have hisEmpty : (weights.topTerms settings.keywordCount).isEmpty = false := by
    rwa [Bool.eq_false_iff, ne_eq, List.isEmpty_iff]
  simp only [findWith, hweights, bind, Except.bind, hisEmpty, hsupplier]
  cases findDuplicates w settings subject (candidates.take settings.candidateLimit) <;> rfl

/-- A search by keywords finds the first candidate of the supplier, which counts, exactly if it asks
for at least one keyword and at least one candidate. -/
theorem finds_first_iff [ScoreOrder α] [WeightArithmetic α] {tokenizer : Tokenizer} {u : Universe}
    (hweights : (Weighing.plain tokenizer u).document subject = .ok weights)
    (hzero : weights.isZero = false) {rest : List Document}
    (hsupplier : supplier (weights.topTerms settings.keywordCount) settings.candidateLimit =
      .ok (.ok (candidate :: rest))) {similarity : α}
    (hqualifies : Qualifies (.plain tokenizer u) settings subject weights candidate similarity) :
    (∃ relations, findWith (.plain tokenizer u) settings supplier subject = .ok (.ok relations) ∧
      candidate.id ∈ relations.map DuplicateRelation.otherId) ↔
        1 ≤ settings.keywordCount ∧ 1 ≤ settings.candidateLimit := by
  rcases Nat.eq_zero_or_pos settings.keywordCount with hnone | hsome
  · have hkeywords : weights.topTerms settings.keywordCount = [] := by
      rw [hnone, WeightVector.topTerms_zero]
    rw [findWith_of_topTerms_eq_nil hweights hkeywords, hnone]
    simp
  · have hkeywords : weights.topTerms settings.keywordCount ≠ [] :=
      TermBag.topTerms_ne_nil_of_weighted hweights hzero hsome
    obtain ⟨relations, hrelations, hmem⟩ := exists_findDuplicates_eq_ok settings hweights hzero
      (Weighing.derives_plain_of_eq_ok hweights
        ((candidate :: rest).take settings.candidateLimit))
    have hanswer : findWith (.plain tokenizer u) settings supplier subject = .ok (.ok relations) :=
      (findWith_of_topTerms_ne_nil hweights hkeywords hsupplier).trans
        (congrArg (Functor.map Except.ok) hrelations)
    simp only [hanswer, Except.ok.injEq, exists_eq_left', hmem]
    constructor
    · rintro ⟨other, hother, -⟩
      refine ⟨hsome, Nat.pos_of_ne_zero fun hlimit => ?_⟩
      rw [hlimit, List.take_zero] at hother
      exact List.not_mem_nil hother
    · rintro ⟨-, hlimit⟩
      obtain ⟨limit, hlimit⟩ := Nat.exists_eq_add_of_le' hlimit
      rw [hlimit]
      exact ⟨candidate, List.mem_cons_self, rfl, similarity, hqualifies⟩

end Duplicates

namespace Config

open Duplicates

variable {α : Type} [Scalar α]

/-- The configuration with other numbers of keywords and candidates to ask for. -/
def asking (config : Config α) (keywordCount candidateLimit : ℕ) : Config α :=
  { config with duplicates := { config.duplicates with keywordCount, candidateLimit } }

/-- Whether a search by keywords finds the first candidate of a supplier if it counts. -/
def FindsFirst (config : Config α) : Prop :=
  ∀ {ε : Type} (tokenizer : Tokenizer) (u : Universe) (subject candidate : Document)
    (weights : WeightVector α) (similarity : α) (supplier : Supplier (Except ScoringError) ε),
    (Weighing.plain tokenizer u).document subject = .ok weights → weights.isZero = false →
    (∀ keywords limit, ∃ rest, supplier keywords limit = .ok (.ok (candidate :: rest))) →
    Qualifies (.plain tokenizer u) config.duplicates subject weights candidate similarity →
      ∃ relations, findWith (.plain tokenizer u) config.duplicates supplier subject =
        .ok (.ok relations) ∧ candidate.id ∈ relations.map DuplicateRelation.otherId

variable [ScoreOrder α] [WeightArithmetic α] {config : Config α} {tokenizer : Tokenizer}
  {u : Universe} {subject candidate : Document} {weights : WeightVector α} {similarity : α}
  {ε : Type} {supplier : Supplier (Except ScoringError) ε} {rest : List Document}

/-- Whatever numbers of keywords and candidates an accepted configuration asks for, it stays
accepted, but a search finds the first candidate, which counts, exactly if both are at least one. -/
theorem findWith_finds_iff (haccepted : config.defect? = none) (keywordCount candidateLimit : ℕ)
    (hweights : (Weighing.plain tokenizer u).document subject = .ok weights)
    (hzero : weights.isZero = false)
    (hsupplier : supplier (weights.topTerms keywordCount) candidateLimit =
      .ok (.ok (candidate :: rest)))
    (hqualifies : Qualifies (.plain tokenizer u) config.duplicates subject weights candidate
      similarity) :
    (config.asking keywordCount candidateLimit).defect? = none ∧
      ((∃ relations, findWith (.plain tokenizer u)
          (config.asking keywordCount candidateLimit).duplicates supplier subject =
            .ok (.ok relations) ∧ candidate.id ∈ relations.map DuplicateRelation.otherId) ↔
        1 ≤ keywordCount ∧ 1 ≤ candidateLimit) := by
  -- The numbers that are asked for matter neither for acceptance nor for which candidates count.
  exact ⟨haccepted, finds_first_iff hweights hzero hsupplier ⟨hqualifies.id_ne,
    hqualifies.lt_window, hqualifies.exists_weights, hqualifies.threshold_le⟩⟩

/-! ### An article on wheat -/

/-- Another article of the text and the time of the one on wheat. -/
def wheatAgain : Document := { wheat with id := "b" }

/-- The other article on wheat counts as a duplicate of the first. -/
theorem exists_qualifies_wheat :
    letI := Scalar.float fun _ => 13.815510557964274
    letI w : Weighing (Except ScoringError) Float := .plain ⟨⟨[]⟩⟩ ⟨0, 1, .empty⟩
    ∃ weights similarity, w.document wheat = .ok weights ∧ weights.isZero = false ∧
      Qualifies w (standard : Config Float).duplicates wheat weights wheatAgain similarity := by
  let : Scalar Float := .float fun _ => 13.815510557964274
  let w : Weighing (Except ScoringError) Float := .plain ⟨⟨[]⟩⟩ ⟨0, 1, .empty⟩
  obtain ⟨weights, hweights⟩ : ∃ weights, w.document wheat = .ok weights :=
    Weighing.exists_document_plain_eq_ok_iff.2 (Nat.le_refl 1)
  have hagain : w.document wheatAgain = .ok weights := hweights
  have hfacts : ((w.document wheat).map fun weights => (weights.isZero,
      (weights.cosine weights).map fun similarity =>
        decide ((standard : Config Float).duplicates.threshold ≤ similarity))) =
          .ok (false, .ok true) := by
    decide +kernel
  rw [hweights] at hfacts
  obtain ⟨hzero, hthreshold⟩ := Prod.mk.inj (Except.ok.inj hfacts)
  obtain ⟨similarity, hsimilarity⟩ := WeightVector.exists_cosine_eq_ok hzero hzero
  rw [hsimilarity] at hthreshold
  exact ⟨weights, similarity, hweights, hzero, by decide, by decide +kernel,
    ⟨weights, hagain, hzero, hsimilarity⟩, of_decide_eq_true (Except.ok.inj hthreshold)⟩

/-- With the standard configuration the other article is found. -/
theorem findWith_finds_iff_wheat :
    letI := Scalar.float fun _ => 13.815510557964274
    letI w : Weighing (Except ScoringError) Float := .plain ⟨⟨[]⟩⟩ ⟨0, 1, .empty⟩
    (standard : Config Float).defect? = none ∧
      ∃ relations : List (DuplicateRelation Float),
        findWith w (standard.asking 10 50).duplicates (fun _ _ => .ok (.ok [wheatAgain]) :
          Supplier (Except ScoringError) Unit) wheat = .ok (.ok relations) ∧
        wheatAgain.id ∈ relations.map DuplicateRelation.otherId := by
  let : Scalar Float := .float fun _ => 13.815510557964274
  obtain ⟨weights, similarity, hweights, hzero, hqualifies⟩ := exists_qualifies_wheat
  have haccepted : (standard : Config Float).defect? = none := by decide +kernel
  exact ⟨haccepted, (findWith_finds_iff haccepted 10 50 hweights hzero rfl hqualifies).2.2
    ⟨by decide, by decide⟩⟩

/-- Neither configuration that asks for no keywords, or for no candidates, finds the other article,
although both are accepted. -/
theorem not_findsFirst_of_accepted :
    letI := Scalar.float fun _ => 13.815510557964274
    (((standard : Config Float).asking 0 50).defect? = none ∧
      ¬((standard : Config Float).asking 0 50).FindsFirst) ∧
    ((standard : Config Float).asking 10 0).defect? = none ∧
      ¬((standard : Config Float).asking 10 0).FindsFirst := by
  let : Scalar Float := .float fun _ => 13.815510557964274
  obtain ⟨weights, similarity, hweights, hzero, hid, hwindow, hvectors, hthreshold⟩ :=
    exists_qualifies_wheat
  let supplier : Supplier (Except ScoringError) Unit := fun _ _ => .ok (.ok [wheatAgain])
  have hnot : ∀ keywordCount candidateLimit, ¬(1 ≤ keywordCount ∧ 1 ≤ candidateLimit) →
      ¬((standard : Config Float).asking keywordCount candidateLimit).FindsFirst := by
    intro keywordCount candidateLimit hnone hfinds
    have hqualifies : Qualifies (.plain ⟨⟨[]⟩⟩ ⟨0, 1, .empty⟩)
        ((standard : Config Float).asking keywordCount candidateLimit).duplicates wheat weights
        wheatAgain similarity :=
      ⟨hid, hwindow, hvectors, hthreshold⟩
    have hfound := hfinds _ _ wheat wheatAgain weights similarity supplier hweights hzero
      (fun _ _ => ⟨[], rfl⟩) hqualifies
    exact hnone ((finds_first_iff hweights hzero rfl hqualifies).1 hfound)
  exact ⟨⟨by decide +kernel, hnot 0 50 (by decide)⟩, by decide +kernel, hnot 10 0 (by decide)⟩

end Config

end NewsScoring
