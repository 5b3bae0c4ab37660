import NewsScoring.Proofs.Vectorizer.Related

/-!
# When a vectorizer asks for its universe

A computation with a vectorizer reads the file of the universe at most once, as what was read is
kept.  So its outcome depends on the files only through the universe that it gets
(`related_weighing`), and a universe that was read stays (`related_weighing_self`).  What needs
weights asks for the universe before anything else (`StartsByLoading`): from then on it goes on as
if the universe had been there, and fails if there is none.
-/

namespace NewsScoring.Vectorizer

variable {α β γ : Type} {disk disk' : Disk}

/-! ### Vectorizers that get the same universe -/

/-- Whether two vectorizers, each with files of its own, have the same tokenizer, remember the same
vectors and get the same universe. -/
structure AgreeOnUniverse (disk disk' : Disk) (v v' : Vectorizer α) : Prop where
  tokenizer_eq : v.tokenizer = v'.tokenizer
  memo_eq : v.memo = v'.memo
  get_eq : (v.source.get disk).1 = (v'.source.get disk').1

theorem related_loadUniverse :
    Scoring.Related (AgreeOnUniverse (α := α) disk disk') (loadUniverse disk)
      (loadUniverse disk') := by
  rintro v v' ⟨htokenizer, hmemo, hget⟩
  refine ⟨hget, htokenizer, hmemo, ?_⟩
  exact (get_get v.source disk).trans (hget.trans (get_get v'.source disk').symm)

section

variable [Scalar α]

theorem related_fetch (u : Universe) (document : Document) :
    Scoring.Related (AgreeOnUniverse (α := α) disk disk') (fetch u document)
      (fetch u document) := by
  rintro ⟨tokenizer, source, memo⟩ ⟨_, source', _⟩ ⟨rfl, rfl, hget⟩
  exact ⟨rfl, rfl, rfl, hget⟩

/-- The files matter to weights only by the universe that is got from them. -/
theorem related_weighing :
    (weighing disk).Related (AgreeOnUniverse (α := α) disk disk') (weighing disk') where
  document document := related_loadUniverse.bind fun u => related_fetch u document
  bag _ := related_loadUniverse.bind fun _ => Scoring.related_ofExcept _

end

/-! ### A universe that was read -/

/-- What was kept of a universe is kept when it is asked for again. -/
theorem source_get_get (source : UniverseSource) (disk : Disk) :
    ((source.get disk).2.get disk).2 = (source.get disk).2 := by
  cases source with
  | mk path outcome => cases outcome <;> rfl

/-- Whether two vectorizers are one, whose universe has the given source. -/
def HasSource (source : UniverseSource) (v v' : Vectorizer α) : Prop :=
  v = v' ∧ v.source = source

/-- A universe that was read is not read again, whatever else happens. -/
theorem related_weighing_self [Scalar α] {source : UniverseSource}
    (hsource : (source.get disk).2 = source) :
    (weighing disk).Related (HasSource (α := α) source) (weighing disk) := by
  have hload : Scoring.Related (HasSource (α := α) source) (loadUniverse disk)
      (loadUniverse disk) := by
    rintro v _ ⟨rfl, rfl⟩
    exact ⟨rfl, rfl, hsource⟩
  refine ⟨fun document => hload.bind fun u => ?_, fun bag => hload.bind fun u =>
    Scoring.related_ofExcept _⟩
  rintro v _ ⟨rfl, hv⟩
  exact ⟨rfl, rfl, hv⟩

/-! ### Computations that need the universe -/

/-- Whether a computation asks for the universe before anything else. -/
def StartsByLoading (disk : Disk) (computation : Scoring α β) : Prop :=
  ∃ next : Universe → Scoring α β, computation = loadUniverse disk >>= next

namespace StartsByLoading

variable {computation : Scoring α β}

theorem bind (h : StartsByLoading disk computation) (next : β → Scoring α γ) :
    StartsByLoading disk (computation >>= next) := by
  obtain ⟨first, rfl⟩ := h
  exact ⟨_, bind_assoc _ _ _⟩

theorem map (h : StartsByLoading disk computation) (f : β → γ) :
    StartsByLoading disk (f <$> computation) := by
  rw [map_eq_pure_bind]
  exact h.bind _

/-- Computations one after the other start by loading if the first that does anything does. -/
theorem mapM {f : β → Scoring α γ} {l : List β}
    (hcases : ∀ x ∈ l, (∃ value, f x = pure value) ∨ StartsByLoading disk (f x))
    (hexists : ∃ x ∈ l, StartsByLoading disk (f x)) : StartsByLoading disk (l.mapM f) := by
  induction l with
  | nil => simp at hexists
  | cons x rest ih =>
    rw [List.forall_mem_cons] at hcases
    rw [List.mapM_cons]
    by_cases hx : StartsByLoading disk (f x)
    · exact hx.bind _
    · obtain ⟨value, hvalue⟩ := hcases.1.resolve_right hx
      rw [hvalue, pure_bind]
      have hrest : ∃ y ∈ rest, StartsByLoading disk (f y) := by
        simpa [hx] using hexists
      exact (ih hcases.2 hrest).bind _

/-- Such a computation goes on from the universe as it was read. -/
theorem run_eq (h : StartsByLoading disk computation) (v : Vectorizer α) :
    computation.run.run v =
      computation.run.run { v with source := (v.source.get disk).2 } := by
  obtain ⟨next, rfl⟩ := h
  rw [Scoring.run_bind, Scoring.run_bind]
  simp only [loadUniverse, ExceptT.run, StateT.run, get_get, source_get_get]

/-- Without a universe it fails. -/
theorem run_eq_error (h : StartsByLoading disk computation) {v : Vectorizer α}
    {cause : ScoringError} (hget : (v.source.get disk).1 = .error cause) :
    (computation.run.run v).1 = .error cause := by
  obtain ⟨next, rfl⟩ := h
  rw [Scoring.run_bind]
  simp only [loadUniverse, ExceptT.run, StateT.run, hget]

/-- After it, the universe is as it was read. -/
theorem source_run (h : StartsByLoading disk computation)
    (hrelated : ∀ source : UniverseSource, (source.get disk).2 = source →
      Scoring.Related (HasSource source) computation computation) (v : Vectorizer α) :
    (computation.run.run v).2.source = (v.source.get disk).2 := by
  rw [h.run_eq]
  exact (hrelated _ (source_get_get v.source disk) _ _ ⟨rfl, rfl⟩).2.2

end StartsByLoading

section

variable [Scalar α]

theorem startsByLoading_document (document : Document) :
    StartsByLoading (α := α) disk ((weighing disk).document document) :=
  ⟨_, rfl⟩

theorem startsByLoading_similarity (a b : Document) :
    StartsByLoading (α := α) disk ((weighing disk).similarity a b) :=
  (startsByLoading_document a).bind _

theorem startsByLoading_score (feature : VectorFeature α) (document : Document) :
    StartsByLoading disk (feature.score (weighing disk) document) :=
  ((startsByLoading_document document).bind _).bind _

/-- A registry with a seed needs the universe, even if features with rules come first. -/
theorem startsByLoading_classify {registry : Registry α} {feature : VectorFeature α}
    (hmem : .vector feature ∈ registry.all) (top : ℕ) (document : Document) :
    StartsByLoading disk (registry.classify (weighing disk) top document) := by
  refine StartsByLoading.bind (.mapM (fun feature _ => ?_)
    ⟨_, hmem, (startsByLoading_score feature document).bind _⟩) _
  cases feature with
  | heuristic feature => exact .inl ⟨_, pure_bind _ _⟩
  | vector feature => exact .inr ((startsByLoading_score feature document).bind _)

variable (settings : DuplicateSettings α)

theorem startsByLoading_findDuplicates (subject : Document) (candidates : List Document) :
    StartsByLoading disk (Duplicates.findDuplicates (weighing disk) settings subject candidates) :=
  (startsByLoading_document subject).bind _

theorem startsByLoading_findWith {ε : Type} (supplier : Duplicates.Supplier (Scoring α) ε)
    (subject : Document) :
    StartsByLoading disk (Duplicates.findWith (weighing disk) settings supplier subject) :=
  (startsByLoading_document subject).bind _

theorem startsByLoading_withoutDuplicates {documents : List Document} (h : documents ≠ []) :
    StartsByLoading disk (Duplicates.withoutDuplicates (weighing disk) settings documents) := by
  obtain ⟨document, rest, rfl⟩ := List.exists_cons_of_ne_nil h
  refine StartsByLoading.bind ?_ _
  rw [List.foldlM_cons]
  exact ((startsByLoading_document document).bind _).bind _

end

end NewsScoring.Vectorizer
