import NewsScoring.Proofs.Engine.Building
import NewsScoring.Proofs.Registry.Classification

/-!
# When an engine classifies

An engine scores an article for all its features or for none: if one feature has no score, the
article is not classified.  What is loaded with a feature is a distribution that is not empty, which
has a quantile for every similarity, and a seed, which may still have no similarity to an article.
An article whose vector is not zero is classified exactly if each seed has no more documents than
the universe and a vector that is not zero (`Engine.classifies_iff_comparable`).  A seed of two
documents can be loaded beside a universe of one (`Engine.not_classifiesAll`).
-/

namespace NewsScoring

/-! ### Classification with a vectorizer -/

namespace Vectorizer

variable {α : Type} [Scalar α] {holds : Vectorizer α → Prop} {disk : Disk} {document : Document}
  {background : Except ScoringError Universe} {answer : Except ScoringError (WeightVector α)}

/-- Weighing with one answer about documents, and with one universe for counted terms. -/
def known (background : Except ScoringError Universe)
    (answer : Except ScoringError (WeightVector α)) : Weighing (Except ScoringError) α where
  document _ := answer
  bag bag := background.bind fun u => bag.weighted u

theorem Settles.score (h : Settles holds disk document background answer) (feature : Feature α) :
    Scoring.Yields holds (feature.score (weighing disk) document)
      (feature.score (known background answer) document) := by
  cases feature with
  | heuristic feature => exact Scoring.yields_pure _
  | vector feature =>
    refine Scoring.Yields.bind (Scoring.Yields.bind h.document fun weights => ?_) fun raw =>
      Scoring.yields_ofExcept _
    exact (h.bag feature.seed).bind fun seed => Scoring.yields_ofExcept _

/-- An article with a settled answer is classified as by a weighing that has no state. -/
theorem Settles.classify (h : Settles holds disk document background answer)
    (registry : Registry α) (top : ℕ) :
    Scoring.Yields holds (registry.classify (weighing disk) top document)
      (registry.classify (known background answer) top document) :=
  (Scoring.yields_mapM (fun feature => (h.score feature).bind fun _ => Scoring.yields_pure _)
    registry.all).bind fun _ => Scoring.yields_pure _

end Vectorizer

/-! ### Scores for a known vector -/

section

variable {α : Type} [Scalar α] {u : Universe} {document : Document} {vector : WeightVector α}
  {feature : VectorFeature α}

theorem Distribution.exists_quantileOf_eq_ok {distribution : Distribution α}
    (h : distribution.isEmpty = false) (x : α) :
    ∃ quantile, distribution.quantileOf x = .ok quantile := by
  obtain ⟨sampleCount, _ | ⟨first, rest⟩⟩ := distribution
  · cases h
  · rw [quantileOf, List.getLast?_cons]
    exact ⟨_, rfl⟩

/-- A vector that is not zero has a cosine with all others that are not. -/
theorem WeightVector.cosine_eq_error_iff (hvector : vector.isZero = false)
    {seed : WeightVector α} {cause : ScoringError} :
    vector.cosine seed = .error cause ↔ seed.isZero = true ∧ .zeroVector = cause := by
  cases hseed : seed.isZero <;> simp [cosine, hvector, hseed]

namespace VectorFeature

/-- The score of a feature by its steps: the vector of the seed, the cosine, and its quantile. -/
theorem score_known_eq :
    feature.score (Vectorizer.known (.ok u) (.ok vector)) document =
      (feature.seed.weighted u).bind fun seed =>
        (vector.cosine seed).bind feature.distribution.quantileOf := by
  simp only [score, rawSimilarity, Vectorizer.known, bind, Except.bind, MonadExcept.ofExcept]
  cases (feature.seed.weighted u : Except ScoringError (WeightVector α)) with
  | error cause => rfl
  | ok seed =>
    cases hcosine : vector.cosine seed with
    | error cause =>
      simp only [hcosine]
      rfl
    | ok raw =>
      simp only [hcosine, pure, Except.pure]
      cases feature.distribution.quantileOf raw <;> rfl

/-- Whether a feature has no score for articles, for a cause that lies in its seed: the seed has
more documents than the universe, or its vector is zero. -/
def Fails (feature : VectorFeature α) (u : Universe) (cause : ScoringError) : Prop :=
  (u.documentCount < feature.seed.documentCount ∧
      .universeTooSmall feature.seed.documentCount u.documentCount = cause) ∨
    ∃ seed : WeightVector α, feature.seed.weighted u = .ok seed ∧ seed.isZero = true ∧
      .zeroVector = cause

/-- A feature has no score for an article whose vector is not zero only for its seed. -/
theorem score_known_eq_error_iff (hvector : vector.isZero = false)
    (hdistribution : feature.distribution.isEmpty = false) {cause : ScoringError} :
    feature.score (Vectorizer.known (.ok u) (.ok vector)) document = .error cause ↔
      feature.Fails u cause := by
  have hfits : (u.documentCount < feature.seed.documentCount ∧
      .universeTooSmall feature.seed.documentCount u.documentCount = cause) ↔
        (feature.seed.weighted u : Except ScoringError (WeightVector α)) = .error cause :=
    TermBag.weighted_eq_error_iff.symm
  rw [Fails, hfits, score_known_eq]
  cases hseed : (feature.seed.weighted u : Except ScoringError (WeightVector α)) with
  | error cause' => simp [Except.bind]
  | ok seed =>
    -- A distribution that is not empty has a quantile for every cosine.
    have hquantile : ((vector.cosine seed).bind feature.distribution.quantileOf = .error cause) ↔
        vector.cosine seed = .error cause := by
      cases hcosine : vector.cosine seed with
      | error cause' => simp [Except.bind]
      | ok raw =>
        obtain ⟨quantile, hquantile⟩ := Distribution.exists_quantileOf_eq_ok hdistribution raw
        simp [Except.bind, hquantile]
    show (vector.cosine seed).bind feature.distribution.quantileOf = .error cause ↔ _
    rw [hquantile, WeightVector.cosine_eq_error_iff hvector]
    simp

/-- Whether the seed of a feature can be compared with articles in a universe: it has no more
documents than the universe, and its vector is not zero. -/
def IsComparable (feature : VectorFeature α) (u : Universe) : Prop :=
  feature.seed.documentCount ≤ u.documentCount ∧
    ∀ seed : WeightVector α, feature.seed.weighted u = .ok seed → seed.isZero = false

theorem exists_score_known_eq_ok_iff (hvector : vector.isZero = false)
    (hdistribution : feature.distribution.isEmpty = false) :
    (∃ value, feature.score (Vectorizer.known (.ok u) (.ok vector)) document = .ok value) ↔
      feature.IsComparable u := by
  constructor
  · rintro ⟨value, hvalue⟩
    have hfails : ∀ cause,
        feature.score (Vectorizer.known (.ok u) (.ok vector)) document ≠ .error cause := by
      intro cause
      rw [hvalue]
      simp
    constructor
    · by_contra hlt
      exact hfails _ ((score_known_eq_error_iff hvector hdistribution).2
        (.inl ⟨Nat.lt_of_not_le hlt, rfl⟩))
    · intro seed hseed
      rw [← Bool.not_eq_true]
      intro hzero
      exact hfails _ ((score_known_eq_error_iff hvector hdistribution).2
        (.inr ⟨seed, hseed, hzero, rfl⟩))
  · rintro ⟨hcount, hzero⟩
    cases hscore : feature.score (Vectorizer.known (.ok u) (.ok vector)) document with
    | ok value => exact ⟨value, rfl⟩
    | error cause =>
      rcases (score_known_eq_error_iff hvector hdistribution).1 hscore with
        ⟨hlt, -⟩ | ⟨seed, hseed, hseedZero, -⟩
      · omega
      · rw [hzero seed hseed] at hseedZero
        cases hseedZero

end VectorFeature

variable {registry : Registry α} {top : ℕ}

/-- An article whose vector is not zero is classified exactly if it can be compared with all
seeds. -/
theorem Registry.exists_classify_known_eq_ok_iff (hvector : vector.isZero = false)
    (hdistribution : ∀ feature, .vector feature ∈ registry.all →
      feature.distribution.isEmpty = false) :
    (∃ classification, registry.classify (Vectorizer.known (.ok u) (.ok vector)) top document =
        .ok classification) ↔
      ∀ feature, .vector feature ∈ registry.all → feature.IsComparable u := by
  rw [exists_classify_eq_ok_iff]
  constructor
  · intro hscores feature hmem
    exact (VectorFeature.exists_score_known_eq_ok_iff hvector (hdistribution feature hmem)).1
      (hscores _ hmem)
  · intro hcomparable feature hmem
    cases feature with
    | heuristic feature => exact ⟨_, rfl⟩
    | vector feature =>
      exact (VectorFeature.exists_score_known_eq_ok_iff hvector (hdistribution feature hmem)).2
        (hcomparable feature hmem)

/-- If such an article is not classified, the error is that of a seed with which it cannot be
compared. -/
theorem Registry.classify_known_eq_error (hvector : vector.isZero = false)
    (hdistribution : ∀ feature, .vector feature ∈ registry.all →
      feature.distribution.isEmpty = false) {cause : ScoringError}
    (h : registry.classify (Vectorizer.known (.ok u) (.ok vector)) top document = .error cause) :
    ∃ feature, .vector feature ∈ registry.all ∧ feature.Fails u cause := by
  obtain ⟨feature, hmem, hscore⟩ := exists_of_classify_eq_error h
  cases feature with
  | heuristic feature => cases hscore
  | vector feature =>
    exact ⟨feature, hmem,
      (VectorFeature.score_known_eq_error_iff hvector (hdistribution feature hmem)).1 hscore⟩

end

/-! ### Engines -/

namespace Engine

section

variable [Scalar Float] {engine : Engine} {disk : Disk} {u : Universe} {document : Document}
  {vector : WeightVector Float}

/-- An engine classifies an article as a weighing does that has no state, but its universe and its
answer about the article. -/
theorem classify_eq_known (engine : Engine) (disk : Disk) (document : Document) :
    (engine.classify disk document).1 =
      engine.registry.classify (Vectorizer.known (engine.vectorizer.source.get disk).1
        (engine.documentVector disk document).1) engine.config.topPerCategory document := by
  have hanswers : Vectorizer.Answers disk document (engine.vectorizer.source.get disk).1
      (engine.documentVector disk document).1 engine.vectorizer := ⟨rfl, rfl⟩
  obtain ⟨later, hrun, -⟩ := Vectorizer.settles_answers.classify engine.registry
    engine.config.topPerCategory engine.vectorizer hanswers
  rw [classify, perform, hrun]

/-- Whether an engine classifies an article exactly if each seed can be compared with articles in a
universe, and fails for no other cause than such a seed. -/
structure IsDecidedBySeeds (engine : Engine) (disk : Disk) (u : Universe) (document : Document) :
    Prop where
  exists_ok_iff : (∃ classification, (engine.classify disk document).1 = .ok classification) ↔
    ∀ feature, .vector feature ∈ engine.registry.all → feature.IsComparable u
  exists_of_error : ∀ cause, (engine.classify disk document).1 = .error cause →
    ∃ feature, .vector feature ∈ engine.registry.all ∧ feature.Fails u cause

theorem isDecidedBySeeds_of_documentVector
    (hdistribution : ∀ feature, .vector feature ∈ engine.registry.all →
      feature.distribution.isEmpty = false)
    (hu : (engine.vectorizer.source.get disk).1 = .ok u)
    (hvector : (engine.documentVector disk document).1 = .ok vector)
    (hzero : vector.isZero = false) : IsDecidedBySeeds engine disk u document := by
  have hclassify := classify_eq_known engine disk document
  rw [hu, hvector] at hclassify
  constructor
  · rw [hclassify]
    exact Registry.exists_classify_known_eq_ok_iff hzero hdistribution
  · rw [hclassify]
    exact fun cause => Registry.classify_known_eq_error hzero hdistribution

/-- An engine with a registry that was loaded for a catalogue classifies an article whose vector is
not zero exactly if it can compare the article with all seeds: if each seed has no more documents
than the universe and a vector that is not zero.  Otherwise the error is that of such a seed, and
never that of a distribution.  For an engine that was just built, the vector is that of the article
itself; later, when the memo and the disk may have changed, it is the one that the engine answers
with. -/
theorem classifies_iff_comparable {parts : EngineParts} {disk₀ : Disk} {built : Engine}
    (hregistry : parts.registry = none) (hbuild : parts.build disk₀ = .ok built) :
    (∀ disk u document (vector : WeightVector Float),
      (built.vectorizer.source.get disk).1 = .ok u →
      (built.vectorizer.tokenizer.bag document).weighted u = .ok vector →
      vector.isZero = false → IsDecidedBySeeds built disk u document) ∧
    ∀ (later : Engine) disk u document (vector : WeightVector Float),
      later.registry = built.registry →
      (later.vectorizer.source.get disk).1 = .ok u →
      (later.documentVector disk document).1 = .ok vector →
      vector.isZero = false → IsDecidedBySeeds later disk u document := by
  have hdistribution : ∀ feature, .vector feature ∈ built.registry.all →
      feature.distribution.isEmpty = false := by
    obtain ⟨catalogue, hwarmUp⟩ := EngineParts.exists_registry_eq_warmUp hregistry hbuild
    rw [hwarmUp]
    exact fun feature => Registry.isEmpty_distribution_warmUp
  constructor
  · intro disk u document vector hu hvector hzero
    refine isDecidedBySeeds_of_documentVector hdistribution hu ?_ hzero
    rw [documentVector_of_build hbuild, hu]
    exact hvector
  · intro later disk u document vector hlater hu hvector hzero
    rw [← hlater] at hdistribution
    exact isDecidedBySeeds_of_documentVector hdistribution hu hvector hzero

end

/-! ### A seed of more documents than the universe -/

/-- Whether each engine that was built classifies each article whose vector is not zero, if
logarithms are those of `log`. -/
def ClassifiesAll (log : Float → Float) : Prop :=
  letI := Scalar.float log
  ∀ (parts : EngineParts) (disk : Disk) (engine : Engine) (u : Universe) (document : Document)
    (vector : WeightVector Float), parts.registry = none → parts.build disk = .ok engine →
    (engine.vectorizer.source.get disk).1 = .ok u →
    (engine.documentVector disk document).1 = .ok vector → vector.isZero = false →
    ∃ classification, (engine.classify disk document).1 = .ok classification

/-- A feature with a seed of two documents. -/
def farming : VectorFeature Float where
  id := 1
  category := .industry
  title := "Farming"
  seed := ⟨2, .ofList [("wheat", ⟨3, 2⟩)]⟩
  distribution := ⟨1, [⟨0, 0, 1⟩]⟩

/-- The artifacts of `farming`, and a universe of one document. -/
def farmingDisk : Disk := fun path =>
  if path = "artifacts/industry/1/feature.vector" then .ok (Artifact.ofBag farming.seed)
  else if path = "artifacts/industry/1/feature.distribution" then
    .ok (Artifact.ofDistribution farming.distribution)
  else if path = "artifacts/universe.vector" then .ok (Artifact.ofBag ⟨1, .empty⟩)
  else .error .missing

/-- A catalogue of `farming` alone, with a tokenizer that stops no words. -/
def farmingParts : EngineParts where
  tokenizer := some ⟨⟨[]⟩⟩
  catalogue := some ⟨1, [⟨1, .industry, "Farming", none⟩], List.nodup_singleton _⟩

/-- The engine of `farmingParts`. -/
def farmingEngine : Engine where
  config := .standard
  vectorizer := ⟨⟨⟨[]⟩⟩, .ofPath "artifacts/universe.vector", .empty 1000⟩
  registry := ⟨1, .ofList [(1, .vector farming)], []⟩

theorem build_farmingParts : farmingParts.build farmingDisk = .ok farmingEngine := by
  rfl

theorem get_farmingEngine :
    (farmingEngine.vectorizer.source.get farmingDisk).1 = .ok ⟨0, 1, .empty⟩ := by
  rfl

/-- The rarity of a term that does not occur in a universe of one document. -/
theorem idf_one_zero {log : Float → Float} (hlog : log 1000000 = 13.815510557964274) :
    letI := Scalar.float log
    (idf 1 0 : Float) = 13.815510557964274 := by
  have hratio : Float.ofNat 1 / (Float.ofNat 1 / Float.ofNat 1000000 + Float.ofNat 0) =
      1000000 := by decide +kernel
  have hpositive : Float.ofNat 0 < 13.815510557964274 := by decide +kernel
  show (if Float.ofNat 0 < log (Float.ofNat 1 / (Float.ofNat 1 / Float.ofNat 1000000 +
      Float.ofNat 0)) then log (Float.ofNat 1 / (Float.ofNat 1 / Float.ofNat 1000000 +
      Float.ofNat 0)) else Float.ofNat 0) = _
  rw [hratio, hlog, if_pos hpositive]

/-- What mentions wheat once has a vector that is not zero. -/
theorem exists_weighted_eq_ok {log : Float → Float} (hlog : log 1000000 = 13.815510557964274)
    {bag : TermBag} (hcount : bag.documentCount = 1) (hbag : bag.toList = [("wheat", ⟨1, 1⟩)]) :
    letI := Scalar.float log
    ∃ vector : WeightVector Float, bag.weighted ⟨0, 1, .empty⟩ = .ok vector ∧
      vector.isZero = false := by
  let : Scalar Float := .float log
  have hweight : (TermBag.weightIn ⟨0, 1, .empty⟩ "wheat" ⟨1, 1⟩ : Float) =
      Float.ofNat 1 * 13.815510557964274 := by
    show Float.ofNat 1 * idf 1 0 = _
    rw [idf_one_zero hlog]
  refine ⟨.ofWeights [("wheat", Float.ofNat 1 * 13.815510557964274)], ?_, ?_⟩
  · rw [TermBag.weighted, if_neg (by simp [Universe.documentCount, hcount]), hbag]
    simp only [List.map_cons, List.map_nil, hweight]
  · -- The logarithm has no part in this.
    show (@WeightVector.isZero Float (.float id) (@WeightVector.ofWeights Float (.float id) _)) =
      false
    decide +kernel

theorem toList_bag_wheat :
    (Tokenizer.bag ⟨⟨[]⟩⟩ { title := "Wheat" }).toList = [("wheat", ⟨1, 1⟩)] := by
  decide +kernel

theorem all_farmingEngine : farmingEngine.registry.all = [.vector farming] := by
  rfl

/-- Whatever the logarithm is elsewhere, if that of a million is right, an article is refused for
the seed of two documents in a universe of one. -/
theorem not_classifiesAll :
    ¬ ∃ log : Float → Float, log 1000000 = 13.815510557964274 ∧ ClassifiesAll log := by
  rintro ⟨log, hlog, hclassifies⟩
  let : Scalar Float := .float log
  obtain ⟨vector, hweighted, hzero⟩ := exists_weighted_eq_ok hlog rfl toList_bag_wheat
  have hvector :
      (farmingEngine.documentVector farmingDisk { title := "Wheat" }).1 = .ok vector := by
    rw [documentVector_of_build build_farmingParts, get_farmingEngine]
    exact hweighted
  have hclassified := hclassifies farmingParts farmingDisk farmingEngine _ _ vector rfl
    build_farmingParts get_farmingEngine hvector hzero
  have hmem : .vector farming ∈ farmingEngine.registry.all := by
    rw [all_farmingEngine]
    exact List.mem_singleton_self _
  have hdistribution : ∀ feature, .vector feature ∈ farmingEngine.registry.all →
      feature.distribution.isEmpty = false := by
    intro feature hfeature
    rw [all_farmingEngine, List.mem_singleton] at hfeature
    cases hfeature
    rfl
  have hcomparable := (isDecidedBySeeds_of_documentVector hdistribution get_farmingEngine hvector
    hzero).exists_ok_iff.1 hclassified farming hmem
  exact absurd hcomparable.1 (by decide)

/-- A feature with a seed of one document. -/
def gleaning : VectorFeature Float :=
  { farming with seed := ⟨1, .ofList [("wheat", ⟨1, 1⟩)]⟩ }

/-- The artifacts of `gleaning`, and a universe of one document. -/
def gleaningDisk : Disk := fun path =>
  if path = "artifacts/industry/1/feature.vector" then .ok (Artifact.ofBag gleaning.seed)
  else farmingDisk path

/-- The engine of `farmingParts` with the seed of `gleaning`. -/
def gleaningEngine : Engine :=
  { farmingEngine with registry := ⟨1, .ofList [(1, .vector gleaning)], []⟩ }

theorem build_gleaningDisk : farmingParts.build gleaningDisk = .ok gleaningEngine := by
  rfl

theorem all_gleaningEngine : gleaningEngine.registry.all = [.vector gleaning] := by
  rfl

/-- In a universe of one document, the seed of `farming` cannot be compared with an article on
wheat, and the seed of `gleaning` can. -/
theorem classifies_iff_comparable_farming :
    letI := Scalar.float fun _ => 13.815510557964274
    (¬ ∃ classification,
      (farmingEngine.classify farmingDisk { title := "Wheat" }).1 = .ok classification) ∧
    ∃ classification,
      (gleaningEngine.classify gleaningDisk { title := "Wheat" }).1 = .ok classification := by
  let : Scalar Float := .float fun _ => 13.815510557964274
  obtain ⟨vector, hvector, hzero⟩ :=
    @exists_weighted_eq_ok (fun _ => 13.815510557964274) rfl _ rfl toList_bag_wheat
  have hregistry : farmingParts.registry = none := rfl
  constructor
  · intro hclassified
    have hcomparable := ((classifies_iff_comparable hregistry build_farmingParts).1 farmingDisk _ _
      vector get_farmingEngine hvector hzero).exists_ok_iff.1 hclassified farming
    rw [all_farmingEngine] at hcomparable
    exact absurd (hcomparable (List.mem_singleton_self _)).1 (by decide)
  · have hget : (gleaningEngine.vectorizer.source.get gleaningDisk).1 = .ok ⟨0, 1, .empty⟩ := rfl
    refine ((classifies_iff_comparable hregistry build_gleaningDisk).1 gleaningDisk _ _ vector hget
      hvector hzero).exists_ok_iff.2 fun feature hfeature => ?_
    rw [all_gleaningEngine, List.mem_singleton] at hfeature
    cases hfeature
    obtain ⟨seed, hseed, hseedZero⟩ :=
      @exists_weighted_eq_ok (fun _ => 13.815510557964274) rfl gleaning.seed rfl rfl
    refine ⟨Nat.le_refl 1, fun other hother => ?_⟩
    rw [hseed] at hother
    cases hother
    exact hseedZero

end Engine

end NewsScoring
