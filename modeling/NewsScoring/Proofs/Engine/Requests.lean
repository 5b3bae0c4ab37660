import NewsScoring.Engine
import NewsScoring.Proofs.Vectorizer.Loading

/-!
# Requests to an engine

What an engine can be asked for is a `Request`.  A request that needs the vector of a document has
the universe read (`source_ask`) and fails without one (`ask_eq_error`); one that needs none is
answered by the features and settings alone (`exists_ask_eq`).  Engines that differ only in where
they get their universe from answer alike if they get the same one (`Alike.ask`).
-/

namespace NewsScoring.Engine

/-! ### Requests -/

/-- What an engine can be asked for. -/
inductive Request where
  | score (document : Document) (id : FeatureId)
  | classify (document : Document)
  | documentVector (document : Document)
  | similarity (a b : Document)
  | findDuplicates (subject : Document) (candidates : List Document)
  /-- The duplicates among what is supplied for keywords, up to a number of articles. -/
  | findWith (supplier : List String → ℕ → Except String (List Document)) (subject : Document)
  | withoutDuplicates (documents : List Document)

/-- What an engine replies. -/
inductive Reply where
  | score (value : Float)
  | classification (scores : Classification Float)
  | vector (weights : WeightVector Float)
  | similarity (value : Float)
  | duplicates (relations : List (DuplicateRelation Float))
  /-- The duplicates among what was supplied, or why nothing was supplied. -/
  | supplied (relations : Except String (List (DuplicateRelation Float)))
  | documents (kept : List Document)

/-- Whether a request needs the vector of a document: all do but scores for unknown features and for
features with rules, classifications for such features alone, and a search among no articles. -/
def Request.NeedsVector (registry : Registry Float) : Request → Prop
  | score _ id => ∃ feature, registry.feature? id = some (.vector feature)
  | classify _ => ∃ feature, .vector feature ∈ registry.all
  | documentVector _ => True
  | similarity _ _ => True
  | findDuplicates _ _ => True
  | findWith _ _ => True
  | withoutDuplicates documents => documents ≠ []

variable [Scalar Float]

/-- What comes of a request, and the engine after it. -/
def ask (engine : Engine) (disk : Disk) : Request → Except ScoringError Reply × Engine
  | .score document featureId => (engine.score disk document featureId).map (.map .score) id
  | .classify document => (engine.classify disk document).map (.map .classification) id
  | .documentVector document => (engine.documentVector disk document).map (.map .vector) id
  | .similarity a b => (engine.similarity disk a b).map (.map .similarity) id
  | .findDuplicates subject candidates =>
    (engine.findDuplicates disk subject candidates).map (.map .duplicates) id
  | .findWith supplier subject =>
    (engine.findWith disk (fun keywords limit => pure (supplier keywords limit)) subject).map
      (.map .supplied) id
  | .withoutDuplicates documents =>
    (engine.withoutDuplicates disk documents).map (.map .documents) id

/-! ### Requests as computations with a vectorizer -/

namespace Request

/-- The computation that answers a request. -/
def computation (config : Config Float) (registry : Registry Float)
    (w : Weighing (Scoring Float) Float) : Request → Scoring Float Reply
  | score document id =>
    match registry.feature? id with
    | none => throw (.unknownFeature id)
    | some feature => .score <$> feature.score w document
  | classify document => .classification <$> registry.classify w config.topPerCategory document
  | documentVector document => .vector <$> w.document document
  | similarity a b => .similarity <$> w.similarity a b
  | findDuplicates subject candidates =>
    .duplicates <$> Duplicates.findDuplicates w config.duplicates subject candidates
  | findWith supplier subject =>
    .supplied <$> Duplicates.findWith w config.duplicates
      (fun keywords limit => pure (supplier keywords limit)) subject
  | withoutDuplicates documents =>
    .documents <$> Duplicates.withoutDuplicates w config.duplicates documents

variable {config : Config Float} {registry : Registry Float}

theorem related_computation {rel : Vectorizer Float → Vectorizer Float → Prop}
    {w w' : Weighing (Scoring Float) Float} (h : w.Related rel w') (request : Request) :
    Scoring.Related rel (request.computation config registry w)
      (request.computation config registry w') := by
  cases request with
  | score document id =>
    dsimp only [computation]
    cases registry.feature? id with
    | none => exact Scoring.related_throw _
    | some feature => exact (Feature.related_score h feature document).map _
  | classify document => exact (Registry.related_classify h registry _ document).map _
  | documentVector document => exact (h.document document).map _
  | similarity a b => exact (h.similarity a b).map _
  | findDuplicates subject candidates =>
    exact (Duplicates.related_findDuplicates h _ subject candidates).map _
  | findWith supplier subject => exact (Duplicates.related_findWith h _ supplier subject).map _
  | withoutDuplicates documents =>
    exact (Duplicates.related_withoutDuplicates h _ documents).map _

theorem startsByLoading_computation {request : Request} (h : request.NeedsVector registry)
    (config : Config Float) (disk : Disk) :
    Vectorizer.StartsByLoading disk
      (request.computation config registry (Vectorizer.weighing disk)) := by
  cases request with
  | score document id =>
    obtain ⟨feature, hfeature⟩ := h
    simp only [computation, hfeature]
    exact (Vectorizer.startsByLoading_score feature document).map _
  | classify document =>
    obtain ⟨feature, hmem⟩ := h
    exact (Vectorizer.startsByLoading_classify hmem _ document).map _
  | documentVector document => exact (Vectorizer.startsByLoading_document document).map _
  | similarity a b => exact (Vectorizer.startsByLoading_similarity a b).map _
  | findDuplicates subject candidates =>
    exact (Vectorizer.startsByLoading_findDuplicates _ subject candidates).map _
  | findWith supplier subject => exact (Vectorizer.startsByLoading_findWith _ _ subject).map _
  | withoutDuplicates documents =>
    exact (Vectorizer.startsByLoading_withoutDuplicates _ h).map _

/-- Features with rules have the same scores whatever weights are, by induction on the features. -/
theorem exists_scores_eq (document : Document) (features : List (Feature Float))
    (h : ∀ feature, .vector feature ∉ features) :
    ∃ scores, ∀ w : Weighing (Scoring Float) Float,
      features.mapM (Registry.scoreFeature w document) = pure scores := by
  induction features with
  | nil => exact ⟨[], fun w => rfl⟩
  | cons feature rest ih =>
    obtain ⟨scores, hscores⟩ := ih fun other hmem => h other (List.mem_cons_of_mem _ hmem)
    cases feature with
    | vector feature => exact absurd List.mem_cons_self (h feature)
    | heuristic feature =>
      refine ⟨⟨feature.id, .manualHeuristic, feature.score document⟩ :: scores, fun w => ?_⟩
      rw [List.mapM_cons, hscores]
      rfl

/-- Without vectors there is nothing to read, and no universe to be missed. -/
theorem exists_computation_eq {request : Request} (h : ¬request.NeedsVector registry)
    (config : Config Float) :
    ∃ outcome : Except ScoringError Reply,
      (∀ w, request.computation config registry w = MonadExcept.ofExcept outcome) ∧
      ∀ path reason, outcome ≠ .error (.universeUnavailable path reason) := by
  cases request with
  | score document id =>
    cases hfeature : registry.feature? id with
    | none =>
      refine ⟨.error (.unknownFeature id), fun w => ?_, by simp⟩
      simp only [computation, hfeature]
      rfl
    | some feature =>
      cases feature with
      | vector feature => exact absurd ⟨feature, hfeature⟩ h
      | heuristic feature =>
        refine ⟨.ok (.score (feature.score document)), fun w => ?_, by simp⟩
        simp only [computation, hfeature]
        rfl
  | classify document =>
    obtain ⟨scores, hscores⟩ := exists_scores_eq document registry.all
      fun feature hmem => h ⟨feature, hmem⟩
    refine ⟨.ok (.classification
      (Category.all.flatMap (Registry.best config.topPerCategory scores))), fun w => ?_, by simp⟩
    simp only [computation, Registry.classify, hscores, pure_bind, map_pure]
    rfl
  | documentVector document => exact absurd trivial h
  | similarity a b => exact absurd trivial h
  | findDuplicates subject candidates => exact absurd trivial h
  | findWith supplier subject => exact absurd trivial h
  | withoutDuplicates documents =>
    obtain rfl : documents = [] := Classical.not_not.1 h
    exact ⟨.ok (.documents []), fun w => rfl, by simp⟩

end Request

/-! ### Requests to an engine -/

omit [Scalar Float] in
theorem perform_map {β γ : Type} (engine : Engine) (f : β → γ) (computation : Scoring Float β) :
    engine.perform (f <$> computation) = (engine.perform computation).map (.map f) id := by
  rw [map_eq_pure_bind, perform, perform, Scoring.run_bind]
  cases computation.run.run engine.vectorizer with
  | mk outcome later => cases outcome <;> rfl

theorem ask_eq_perform (engine : Engine) (disk : Disk) (request : Request) :
    engine.ask disk request = engine.perform
      (request.computation engine.config engine.registry (Vectorizer.weighing disk)) := by
  cases request with
  | score document id =>
    simp only [ask, score, Request.computation]
    cases engine.registry.feature? id with
    | none => rfl
    | some feature => exact (perform_map engine _ _).symm
  | _ =>
    rw [Request.computation, perform_map]
    rfl

/-- A request that needs no vector leaves an engine as it is.  What it is answered depends on the
features and settings alone, and is never that there is no universe. -/
theorem exists_ask_eq {registry : Registry Float} {request : Request}
    (h : ¬request.NeedsVector registry) (config : Config Float) :
    ∃ outcome, (∀ (engine : Engine) (disk : Disk), engine.config = config →
        engine.registry = registry → engine.ask disk request = (outcome, engine)) ∧
      ∀ path reason, outcome ≠ .error (.universeUnavailable path reason) := by
  obtain ⟨outcome, hcomputation, hne⟩ := Request.exists_computation_eq h config
  refine ⟨outcome, ?_, hne⟩
  rintro engine disk rfl rfl
  rw [ask_eq_perform, hcomputation, perform, Scoring.run_ofExcept]

/-- A request that needs a vector fails without a universe. -/
theorem ask_eq_error {engine : Engine} {disk : Disk} {request : Request}
    (h : request.NeedsVector engine.registry) {cause : ScoringError}
    (hget : (engine.vectorizer.source.get disk).1 = .error cause) :
    (engine.ask disk request).1 = .error cause := by
  rw [ask_eq_perform]
  exact (Request.startsByLoading_computation h engine.config disk).run_eq_error hget

/-- Such a request has the universe read. -/
theorem source_ask {engine : Engine} {request : Request}
    (h : request.NeedsVector engine.registry) (disk : Disk) :
    (engine.ask disk request).2.vectorizer.source = (engine.vectorizer.source.get disk).2 := by
  rw [ask_eq_perform]
  exact (Request.startsByLoading_computation h engine.config disk).source_run
    (fun _ hsource =>
      Request.related_computation (Vectorizer.related_weighing_self hsource) request)
    engine.vectorizer

/-- Whether two engines differ in nothing but their universes. -/
structure Alike (engine engine' : Engine) : Prop where
  config_eq : engine.config = engine'.config
  registry_eq : engine.registry = engine'.registry
  tokenizer_eq : engine.vectorizer.tokenizer = engine'.vectorizer.tokenizer
  memo_eq : engine.vectorizer.memo = engine'.vectorizer.memo

/-- Such engines answer alike, and stay alike, if they get the same universe where it is needed. -/
theorem Alike.ask {engine engine' : Engine} (h : Alike engine engine') {disk disk' : Disk}
    {request : Request} (hget : request.NeedsVector engine.registry →
      (engine.vectorizer.source.get disk).1 = (engine'.vectorizer.source.get disk').1) :
    (engine.ask disk request).1 = (engine'.ask disk' request).1 ∧
      Alike (engine.ask disk request).2 (engine'.ask disk' request).2 := by
  by_cases hneeds : request.NeedsVector engine.registry
  · rw [ask_eq_perform, ask_eq_perform, ← h.config_eq, ← h.registry_eq]
    have hrelated : Scoring.Related (Vectorizer.AgreeOnUniverse disk disk')
        (request.computation engine.config engine.registry (Vectorizer.weighing disk))
        (request.computation engine.config engine.registry (Vectorizer.weighing disk')) :=
      Request.related_computation Vectorizer.related_weighing request
    obtain ⟨houtcome, hlater⟩ := hrelated engine.vectorizer engine'.vectorizer
      ⟨h.tokenizer_eq, h.memo_eq, hget hneeds⟩
    exact ⟨houtcome, h.config_eq, h.registry_eq, hlater.tokenizer_eq, hlater.memo_eq⟩
  · obtain ⟨outcome, hask, -⟩ := exists_ask_eq hneeds engine.config
    rw [hask engine disk rfl rfl, hask engine' disk' h.config_eq.symm h.registry_eq.symm]
    exact ⟨rfl, h⟩

end NewsScoring.Engine
