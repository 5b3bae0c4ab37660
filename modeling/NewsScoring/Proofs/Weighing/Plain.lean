import NewsScoring.Weighing

/-!
# Weighing anew each time

Where vectors are computed anew each time (`Weighing.plain`), a universe has a vector for every
document or for none (`exists_document_plain_eq_ok_iff`), and any two vectors that are not zero have
a cosine (`exists_cosine_eq_ok`).
-/

namespace NewsScoring

variable {α : Type} [Scalar α]

@[simp]
theorem ofExcept_eq_self {β : Type} (outcome : Except ScoringError β) :
    (MonadExcept.ofExcept outcome : Except ScoringError β) = outcome := by
  cases outcome <;> rfl

namespace Weighing

/-- Whether each of the given documents has a vector. -/
def Derives (w : Weighing (Except ScoringError) α) (documents : List Document) : Prop :=
  ∀ document ∈ documents, ∃ vector, w.document document = .ok vector

omit [Scalar α] in
theorem Derives.subset {w : Weighing (Except ScoringError) α} {documents fewer : List Document}
    (h : w.Derives documents) (hsubset : fewer ⊆ documents) : w.Derives fewer :=
  fun document hmem => h document (hsubset hmem)

variable {tokenizer : Tokenizer} {u : Universe}

/-- A document has a vector in every universe that is not empty. -/
theorem exists_document_plain_eq_ok_iff {document : Document} :
    (∃ vector : WeightVector α, (plain tokenizer u).document document = .ok vector) ↔
      1 ≤ u.documentCount := by
  rw [← Tokenizer.documentCount_bag tokenizer document]
  exact TermBag.exists_weighted_eq_ok_iff

theorem derives_plain_of_eq_ok {document : Document} {vector : WeightVector α}
    (h : (plain tokenizer u).document document = .ok vector) (documents : List Document) :
    (plain tokenizer u : Weighing _ α).Derives documents :=
  fun _ _ => exists_document_plain_eq_ok_iff.2 (exists_document_plain_eq_ok_iff.1 ⟨vector, h⟩)

end Weighing

namespace WeightVector

variable {a b : WeightVector α}

theorem exists_cosine_eq_ok (ha : a.isZero = false) (hb : b.isZero = false) :
    ∃ similarity, a.cosine b = .ok similarity := by
  simp [cosine, ha, hb]

end WeightVector

end NewsScoring
