import NewsScoring.Proofs.Engine.Classification
import NewsScoring.Proofs.Vectorizer.Transparency

/-!
# Engines that have classified other articles

An engine that was just built and one that has classified other articles since differ in what the
vectorizer remembers.  What it remembers are the vectors of those articles
(`Engine.IsLaterThan`), so that each article is classified as by the engine that was just built, if
articles with one text have one vector (`Engine.IsLaterThan.classify`).
-/

namespace NewsScoring

namespace Vectorizer

variable {α : Type} [Scalar α] {disk : Disk} {tokenizer : Tokenizer} {source : UniverseSource}
  {documents : Set Document}

/-- To see the universe of counted terms keeps a vectorizer faithful. -/
theorem IsFaithful.load {vectorizer : Vectorizer α}
    (h : IsFaithful disk tokenizer source documents vectorizer) :
    IsFaithful disk tokenizer source documents
      { vectorizer with source := (vectorizer.source.get disk).2 } :=
  ⟨h.tokenizer_eq, (get_get vectorizer.source disk).trans h.get_eq, h.isSound⟩

/-- Where documents of one text have one answer, faithful vectorizers have settled on it. -/
theorem settles_isFaithful
    (htexts : ∀ a ∈ documents, ∀ b ∈ documents, a.text = b.text →
      (uncachedAnswer disk tokenizer source a : Except ScoringError (WeightVector α)) =
        uncachedAnswer disk tokenizer source b)
    {document : Document} (hmem : document ∈ documents) :
    Settles (α := α) (IsFaithful disk tokenizer source documents) disk document
      (source.get disk).1 (uncachedAnswer disk tokenizer source document) where
  document vectorizer h :=
    ⟨(vectorizer.answer disk document).2, Prod.ext (h.answer_eq_uncached htexts hmem) rfl,
      h.answer hmem⟩
  bag bag vectorizer h := by
    refine ⟨_, ?_, h.load⟩
    rw [run_bag, h.get_eq]

end Vectorizer

namespace Engine

variable [Scalar Float] {disk : Disk} {documents : Set Document} {built later : Engine}

/-- Whether an engine differs from one before it in nothing but what its vectorizer remembers, and
remembers nothing but the vectors of documents of a set. -/
structure IsLaterThan (disk : Disk) (documents : Set Document) (built later : Engine) : Prop where
  config_eq : later.config = built.config
  registry_eq : later.registry = built.registry
  isFaithful : Vectorizer.IsFaithful disk built.vectorizer.tokenizer built.vectorizer.source
    documents later.vectorizer

theorem isLaterThan_of_build {parts : EngineParts} {files : Disk}
    (h : parts.build files = .ok built) (disk : Disk) (documents : Set Document) :
    IsLaterThan disk documents built built := by
  obtain ⟨tokenizer, registry, -, -, rfl⟩ := EngineParts.build_eq_ok_iff.1 h
  exact ⟨rfl, rfl, Vectorizer.isFaithful_empty _ _⟩

/-- The vector of a document for an engine that was just built is the uncached one. -/
theorem documentVector_eq_uncachedAnswer {parts : EngineParts} {files : Disk}
    (h : parts.build files = .ok built) (disk : Disk) (document : Document) :
    (built.documentVector disk document).1 = Vectorizer.uncachedAnswer disk
      built.vectorizer.tokenizer built.vectorizer.source document := by
  rw [documentVector_of_build h, Vectorizer.uncachedAnswer_eq]

/-- Whether documents of a set with one text have one vector for an engine. -/
def TellsApart (engine : Engine) (disk : Disk) (documents : Set Document) : Prop :=
  ∀ a ∈ documents, ∀ b ∈ documents, a.text = b.text →
    (engine.documentVector disk a).1 = (engine.documentVector disk b).1

/-- A later engine classifies a document as an engine does that was just built, and is still later
than that after it. -/
theorem IsLaterThan.classify {parts : EngineParts} {files : Disk}
    (h : IsLaterThan disk documents built later) (hbuild : parts.build files = .ok built)
    (hapart : built.TellsApart disk documents) {document : Document} (hmem : document ∈ documents) :
    (later.classify disk document).1 = (built.classify disk document).1 ∧
      IsLaterThan disk documents built (later.classify disk document).2 := by
  simp only [TellsApart, documentVector_eq_uncachedAnswer hbuild] at hapart
  have hsettles := (Vectorizer.settles_isFaithful hapart hmem).classify built.registry
    built.config.topPerCategory
  -- Both engines start from a faithful vectorizer.
  obtain ⟨after, hrun, hafter⟩ := hsettles later.vectorizer h.isFaithful
  obtain ⟨_, hbuiltRun, -⟩ := hsettles built.vectorizer
    (isLaterThan_of_build hbuild disk documents).isFaithful
  rw [Engine.classify, Engine.classify, perform, perform, h.registry_eq, h.config_eq, hrun,
    hbuiltRun]
  exact ⟨rfl, rfl, rfl, hafter⟩

/-- Documents without separators are told apart. -/
theorem tellsApart_of_isSeparated {parts : EngineParts} {files : Disk}
    (hbuild : parts.build files = .ok built)
    (h : ∀ document ∈ documents, document.IsSeparated) : built.TellsApart disk documents := by
  intro a ha b hb htext
  have htokens := built.vectorizer.tokenizer.documentTokens_eq_of_text_eq (h a ha) (h b hb) htext []
  rw [documentVector_of_build hbuild, documentVector_of_build hbuild, Tokenizer.bag, Tokenizer.bag,
    htokens]

end Engine

end NewsScoring
