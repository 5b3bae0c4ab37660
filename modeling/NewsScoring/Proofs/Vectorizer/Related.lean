import Mathlib.Data.Nat.Notation
import NewsScoring.Duplicates
import NewsScoring.Proofs.Vectorizer.Scoring
import NewsScoring.Registry

/-!
# Computations with two vectorizers

All that is computed from weights is made of the weights of documents and of counted terms.  So if
two ways of weighing have equal outcomes from related vectorizers, and leave related vectorizers
(`Weighing.Related`), the same is true of similarities, scores (`Feature.related_score`),
classifications (`Registry.related_classify`) and searches for duplicates
(`Duplicates.related_findDuplicates` and the theorems beside it), whatever the relation is.
-/

namespace NewsScoring

/-! ### Related computations -/

namespace Scoring

variable {α β γ : Type} {rel : Vectorizer α → Vectorizer α → Prop}

/-- Whether two computations have equal outcomes from related vectorizers, and leave related
vectorizers. -/
def Related (rel : Vectorizer α → Vectorizer α → Prop) (left right : Scoring α β) : Prop :=
  ∀ v v', rel v v' → (left.run.run v).1 = (right.run.run v').1 ∧
    rel (left.run.run v).2 (right.run.run v').2

theorem related_ofExcept (outcome : Except ScoringError β) :
    Related rel (MonadExcept.ofExcept outcome) (MonadExcept.ofExcept outcome) := by
  intro v v' h
  rw [run_ofExcept, run_ofExcept]
  exact ⟨rfl, h⟩

theorem related_pure (value : β) : Related rel (pure value) (pure value) :=
  related_ofExcept (.ok value)

theorem related_throw (cause : ScoringError) :
    Related rel (throw cause : Scoring α β) (throw cause) :=
  related_ofExcept (.error cause)

theorem Related.bind {left right : Scoring α β} {leftNext rightNext : β → Scoring α γ}
    (hfirst : Related rel left right)
    (hnext : ∀ value, Related rel (leftNext value) (rightNext value)) :
    Related rel (left >>= leftNext) (right >>= rightNext) := by
  intro v v' h
  obtain ⟨houtcome, hlater⟩ := hfirst v v' h
  rw [run_bind, run_bind]
  generalize left.run.run v = first at *
  generalize right.run.run v' = first' at *
  obtain ⟨outcome, later⟩ := first
  obtain ⟨outcome', later'⟩ := first'
  obtain rfl : outcome = outcome' := houtcome
  cases outcome with
  | error cause => exact ⟨rfl, hlater⟩
  | ok value => exact hnext value later later' hlater

theorem Related.map {left right : Scoring α β} (h : Related rel left right) (f : β → γ) :
    Related rel (f <$> left) (f <$> right) := by
  rw [map_eq_pure_bind, map_eq_pure_bind]
  exact h.bind fun value => related_pure _

/-- Computations that both go on unless they fail for the same reason. -/
theorem Related.guard {p : Prop} [Decidable p] {cause : ScoringError}
    {left right : PUnit → Scoring α β} (h : ∀ x, Related rel (left x) (right x)) :
    Related rel (if p then throw cause >>= left else left ⟨⟩)
      (if p then throw cause >>= right else right ⟨⟩) := by
  split
  · exact (related_throw cause).bind h
  · exact h ⟨⟩

/-- Computations one after the other, by induction on their list. -/
theorem related_mapM {left right : β → Scoring α γ} (h : ∀ x, Related rel (left x) (right x))
    (l : List β) : Related rel (l.mapM left) (l.mapM right) := by
  induction l with
  | nil => exact related_pure []
  | cons x rest ih =>
    rw [List.mapM_cons, List.mapM_cons]
    exact (h x).bind fun value => ih.bind fun values => related_pure _

/-- Computations that each start from the value of the one before. -/
theorem related_foldlM {left right : γ → β → Scoring α γ}
    (h : ∀ start x, Related rel (left start x) (right start x)) (l : List β) (start : γ) :
    Related rel (l.foldlM left start) (l.foldlM right start) := by
  induction l generalizing start with
  | nil => exact related_pure start
  | cons x rest ih =>
    rw [List.foldlM_cons, List.foldlM_cons]
    exact (h start x).bind fun value => ih value

end Scoring

/-! ### Related ways of weighing -/

variable {α : Type} {rel : Vectorizer α → Vectorizer α → Prop}

/-- Whether two ways of weighing have equal outcomes from related vectorizers, and leave related
vectorizers. -/
structure Weighing.Related (rel : Vectorizer α → Vectorizer α → Prop)
    (w w' : Weighing (Scoring α) α) : Prop where
  document : ∀ document, Scoring.Related rel (w.document document) (w'.document document)
  bag : ∀ bag, Scoring.Related rel (w.bag bag) (w'.bag bag)

section

open Scoring

variable [Scalar α] {w w' : Weighing (Scoring α) α} (h : w.Related rel w')
include h

theorem Weighing.Related.similarity (a b : Document) :
    Scoring.Related rel (w.similarity a b) (w'.similarity a b) :=
  (h.document a).bind fun _ => (h.document b).bind fun _ => related_ofExcept _

theorem Feature.related_score (feature : Feature α) (document : Document) :
    Scoring.Related rel (feature.score w document) (feature.score w' document) := by
  cases feature with
  | heuristic feature => exact related_pure _
  | vector feature =>
    refine Scoring.Related.bind ?_ fun raw => related_ofExcept _
    exact (h.document document).bind fun _ => (h.bag feature.seed).bind fun _ => related_ofExcept _

theorem Registry.related_classify (registry : Registry α) (top : ℕ) (document : Document) :
    Scoring.Related rel (registry.classify w top document) (registry.classify w' top document) :=
  (related_mapM (fun feature => (Feature.related_score h feature document).bind fun _ =>
    related_pure _) registry.all).bind fun _ => related_pure _

namespace Duplicates

variable (settings : DuplicateSettings α)

theorem related_similarityOf? (subject : Document) (weights : WeightVector α)
    (candidate : Document) :
    Scoring.Related rel (similarityOf? w settings subject weights candidate)
      (similarityOf? w' settings subject weights candidate) := by
  unfold similarityOf?
  dsimp only
  split
  · exact related_pure _
  · refine (h.document candidate).bind fun other => ?_
    split
    · exact related_pure _
    · exact (related_ofExcept _).bind fun _ => related_pure _

theorem related_findDuplicates (subject : Document) (candidates : List Document) :
    Scoring.Related rel (findDuplicates w settings subject candidates)
      (findDuplicates w' settings subject candidates) := by
  refine (h.document subject).bind fun weights => Related.guard fun _ => ?_
  refine (related_mapM (fun candidate => ?_) candidates).bind fun _ => related_pure _
  exact (related_similarityOf? h settings subject weights candidate).bind fun _ => related_pure _

/-- A supplier does not ask for weights. -/
theorem related_findWith {ε : Type} (supplier : List String → ℕ → Except ε (List Document))
    (subject : Document) :
    Scoring.Related rel
      (findWith w settings (fun keywords limit => pure (supplier keywords limit)) subject)
      (findWith w' settings (fun keywords limit => pure (supplier keywords limit)) subject) := by
  refine (h.document subject).bind fun weights => ?_
  refine Related.guard fun _ => (related_pure _).bind fun supplied => ?_
  cases supplied with
  | error cause => exact related_pure _
  | ok candidates =>
    exact (related_findDuplicates h settings subject _).bind fun _ => related_pure _

theorem related_keep (kept : List (Kept α)) (document : Document) :
    Scoring.Related rel (keep w settings kept document) (keep w' settings kept document) := by
  refine (h.document document).bind fun weights => ?_
  split
  · exact related_pure _
  · exact (related_ofExcept _).bind fun _ => related_pure _

theorem related_withoutDuplicates (documents : List Document) :
    Scoring.Related rel (withoutDuplicates w settings documents)
      (withoutDuplicates w' settings documents) :=
  (related_foldlM (related_keep h settings) documents []).bind fun _ => related_pure _

end Duplicates

end

end NewsScoring
