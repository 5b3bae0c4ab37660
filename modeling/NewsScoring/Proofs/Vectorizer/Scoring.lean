import NewsScoring.Proofs.DocumentMemo.Soundness
import NewsScoring.Vectorizer

/-!
# Computations with a vectorizer

A computation with a vectorizer takes the vectorizer as it is, and has an outcome and the vectorizer
after it.  The lemmas say what comes of the steps that computations are made of, and what comes of
asking for the vector of a document (`answer_eq`) and of counted terms (`run_bag`).  As long as a
vectorizer answers about a document in one way (`Settles`), a computation that asks about that
document only has an outcome that does not depend on what else is remembered (`Yields`).
-/

namespace NewsScoring

namespace Scoring

variable {α β γ : Type}

@[simp]
theorem run_ofExcept (outcome : Except ScoringError β) (vectorizer : Vectorizer α) :
    (MonadExcept.ofExcept outcome : Scoring α β).run.run vectorizer = (outcome, vectorizer) := by
  cases outcome <;> rfl

/-- What comes after a step starts from the vectorizer after the step, unless the step fails. -/
theorem run_bind (first : Scoring α β) (next : β → Scoring α γ) (vectorizer : Vectorizer α) :
    (first >>= next).run.run vectorizer =
      match first.run.run vectorizer with
      | (.ok value, later) => (next value).run.run later
      | (.error cause, later) => (.error cause, later) := by
  simp only [bind, ExceptT.run, ExceptT.bind, ExceptT.mk, StateT.run, StateT.bind]
  cases h : first vectorizer with
  | mk outcome later => cases outcome <;> rfl

/-! ### Computations with one outcome -/

variable {holds : Vectorizer α → Prop}

/-- Whether a computation has one outcome in all states in which something holds, and keeps it
true. -/
def Yields (holds : Vectorizer α → Prop) (computation : Scoring α β)
    (outcome : Except ScoringError β) : Prop :=
  ∀ vectorizer, holds vectorizer →
    ∃ later, computation.run.run vectorizer = (outcome, later) ∧ holds later

theorem yields_pure (value : β) : Yields holds (pure value) (pure value) :=
  fun vectorizer h => ⟨vectorizer, rfl, h⟩

theorem yields_ofExcept (outcome : Except ScoringError β) :
    Yields holds (MonadExcept.ofExcept outcome) (MonadExcept.ofExcept outcome) := by
  intro vectorizer h
  refine ⟨vectorizer, ?_, h⟩
  rw [run_ofExcept]
  cases outcome <;> rfl

theorem Yields.bind {first : Scoring α β} {next : β → Scoring α γ}
    {outcome : Except ScoringError β} {nextOutcome : β → Except ScoringError γ}
    (hfirst : Yields holds first outcome)
    (hnext : ∀ value, Yields holds (next value) (nextOutcome value)) :
    Yields holds (first >>= next) (outcome >>= nextOutcome) := by
  intro vectorizer h
  obtain ⟨later, hrun, hlater⟩ := hfirst vectorizer h
  rw [run_bind, hrun]
  cases outcome with
  | error cause => exact ⟨later, rfl, hlater⟩
  | ok value => exact hnext value later hlater

/-- Computations one after the other, by induction on their list. -/
theorem yields_mapM {computation : β → Scoring α γ} {outcome : β → Except ScoringError γ}
    (h : ∀ x, Yields holds (computation x) (outcome x)) (l : List β) :
    Yields holds (l.mapM computation) (l.mapM outcome) := by
  induction l with
  | nil => exact yields_pure []
  | cons x rest ih =>
    rw [List.mapM_cons, List.mapM_cons]
    exact (h x).bind fun value => ih.bind fun values => yields_pure _

end Scoring

namespace Vectorizer

variable {α : Type} [Scalar α]

/-- The answer about a document, and the vectorizer after it. -/
def answer (disk : Disk) (vectorizer : Vectorizer α) (document : Document) :
    Except ScoringError (WeightVector α) × Vectorizer α :=
  ((weighing disk).document document).run.run vectorizer

/-- A universe that was asked for is the same when it is asked for again. -/
theorem get_get (source : UniverseSource) (disk : Disk) :
    ((source.get disk).2.get disk).1 = (source.get disk).1 := by
  cases source with
  | mk path outcome => cases outcome <;> rfl

/-- An answer is the error of the universe, or else what the memo has or computes. -/
theorem answer_eq (disk : Disk) (vectorizer : Vectorizer α) (document : Document) :
    vectorizer.answer disk document =
      match (vectorizer.source.get disk).1 with
      | .error cause => (.error cause, { vectorizer with source := (vectorizer.source.get disk).2 })
      | .ok u =>
        let fetched := vectorizer.memo.fetch document fun _ =>
          (vectorizer.tokenizer.bag document).weighted u
        (fetched.1, ⟨vectorizer.tokenizer, (vectorizer.source.get disk).2, fetched.2⟩) := by
  unfold answer weighing loadUniverse fetch
  simp only [bind, ExceptT.run, ExceptT.bind, ExceptT.mk, StateT.run, StateT.bind]
  cases (vectorizer.source.get disk).1 <;> rfl

/-- The weights of counted terms are those in the universe. -/
theorem run_bag (disk : Disk) (vectorizer : Vectorizer α) (bag : TermBag) :
    ((weighing disk).bag bag).run.run vectorizer =
      ((vectorizer.source.get disk).1.bind fun u => bag.weighted u,
        { vectorizer with source := (vectorizer.source.get disk).2 }) := by
  simp only [weighing, Scoring.run_bind]
  simp only [loadUniverse, ExceptT.run, StateT.run]
  cases (vectorizer.source.get disk).1 with
  | error cause => rfl
  | ok u => exact Scoring.run_ofExcept _ _

/-! ### Vectorizers with one answer about a document -/

/-- Whether something that holds of vectorizers settles the universe that they see and their answer
about a document, for as long as they are asked about that document and about counted terms. -/
structure Settles (holds : Vectorizer α → Prop) (disk : Disk) (document : Document)
    (background : Except ScoringError Universe) (answer : Except ScoringError (WeightVector α)) :
    Prop where
  document : Scoring.Yields holds ((weighing disk).document document) answer
  bag : ∀ bag : TermBag,
    Scoring.Yields holds ((weighing disk).bag bag) (background.bind fun u => bag.weighted u)

/-- What holds of a vectorizer that sees a universe and has an answer about a document. -/
structure Answers (disk : Disk) (document : Document) (background : Except ScoringError Universe)
    (answer : Except ScoringError (WeightVector α)) (vectorizer : Vectorizer α) : Prop where
  get_eq : (vectorizer.source.get disk).1 = background
  answer_eq : (vectorizer.answer disk document).1 = answer

variable {disk : Disk} {document : Document} {background : Except ScoringError Universe}
  {answer : Except ScoringError (WeightVector α)}

theorem source_answer (disk : Disk) (vectorizer : Vectorizer α) (document : Document) :
    (vectorizer.answer disk document).2.source = (vectorizer.source.get disk).2 := by
  rw [answer_eq]
  cases (vectorizer.source.get disk).1 <;> rfl

/-- An answer that was given is given again. -/
theorem answer_answer (disk : Disk) (vectorizer : Vectorizer α) (document : Document) :
    ((vectorizer.answer disk document).2.answer disk document).1 =
      (vectorizer.answer disk document).1 := by
  have hget := get_get vectorizer.source disk
  simp only [answer_eq disk vectorizer]
  cases hu : (vectorizer.source.get disk).1 with
  | error cause =>
    rw [hu] at hget
    rw [answer_eq]
    simp only [hget]
  | ok u =>
    rw [hu] at hget
    rw [answer_eq]
    simp only [hget]
    -- The memo may have changed, but only so that the same call has the same outcome.
    exact DocumentMemo.fetch_fetch _ _ _

/-- The answer is the same after the universe was read. -/
theorem answer_load (disk : Disk) (vectorizer : Vectorizer α) (document : Document) :
    ({ vectorizer with source := (vectorizer.source.get disk).2 }.answer disk document).1 =
      (vectorizer.answer disk document).1 := by
  rw [answer_eq, answer_eq]
  simp only [get_get]
  cases (vectorizer.source.get disk).1 <;> rfl

theorem settles_answers :
    Settles (Answers disk document background answer) disk document background answer where
  document vectorizer h := by
    refine ⟨(vectorizer.answer disk document).2, Prod.ext h.answer_eq rfl, ?_,
      (answer_answer disk vectorizer document).trans h.answer_eq⟩
    rw [source_answer, get_get, h.get_eq]
  bag bag vectorizer h := by
    refine ⟨{ vectorizer with source := (vectorizer.source.get disk).2 }, ?_,
      (get_get vectorizer.source disk).trans h.get_eq,
      (answer_load disk vectorizer document).trans h.answer_eq⟩
    rw [run_bag, h.get_eq]

end Vectorizer

end NewsScoring
