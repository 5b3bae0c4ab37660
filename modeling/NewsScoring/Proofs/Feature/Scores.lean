import NewsScoring.Proofs.Distribution.Monotone
import NewsScoring.Proofs.Distribution.Samples
import NewsScoring.Proofs.Feature.Loading
import NewsScoring.Proofs.Scalar.Order
import NewsScoring.Proofs.Vectorizer.Scoring

/-!
# What scores are

A score is a number between zero and one, however a feature was made.  The score of a feature by
rules is zero or the score of one of its rules, which were checked when the feature was made
(`HeuristicFeature.isFraction_score`).  The score of a feature by comparison is the quantile of a
similarity, and ranks articles as their similarities do (`Feature.isFraction_score_and_mono`).
-/

namespace NewsScoring

open Scalar

/-! ### Fractions -/

section

variable {α : Type} [Scalar α]

theorem isNaN_of_isFraction [ScoreOrder α] {x : α} (h : isFraction x = true) : isNaN x = false := by
  rw [isFraction, Bool.and_eq_true, decide_eq_true_eq, decide_eq_true_eq] at h
  simp [isNaN, ScoreOrder.le_self_of_le h.1]

theorem isFraction_max {x y : α} (hx : isFraction x = true) (hy : isFraction y = true) :
    isFraction (Scalar.max x y) = true := by
  rw [Scalar.max]
  split
  · exact hy
  · exact hx

theorem isFraction_foldl_max {start : α} {values : List α} (hstart : isFraction start = true)
    (h : ∀ x ∈ values, isFraction x = true) :
    isFraction (values.foldl Scalar.max start) = true := by
  induction values generalizing start with
  | nil => exact hstart
  | cons x rest ih =>
    rw [List.forall_mem_cons] at h
    exact ih (isFraction_max hstart h.1) h.2

/-! ### Features by rules -/

namespace HeuristicFeature

variable {language : PatternSyntax} {id : FeatureId}

/-- The rules that are ready for use have fractions as their scores. -/
theorem isFraction_of_forall₂_isReady {rules : List (Rule α)} {ready : List (ReadyRule α)}
    (h : List.Forall₂ (IsReady language) rules ready) :
    ∀ rule ∈ ready, isFraction rule.score = true := by
  induction h with
  | nil => simp
  | cons hready _ ih =>
    rw [List.forall_mem_cons, hready.score_eq]
    exact ⟨hready.isFraction_score, ih⟩

theorem isFraction_bestMatch (hzero : isFraction (zero : α) = true) {ready : List (ReadyRule α)}
    (h : ∀ rule ∈ ready, isFraction rule.score = true) (text : List Char) :
    isFraction (bestMatch ready text) = true := by
  refine isFraction_foldl_max hzero fun x hx => ?_
  obtain ⟨rule, hrule, rfl⟩ := List.mem_map.1 hx
  exact h rule (List.mem_of_mem_filter hrule)

/-- The score of a feature that was made is a fraction, as zero is one. -/
theorem isFraction_score (hzero : isFraction (zero : α) = true) {category : Category}
    {title : String} {rules : HeuristicRules α} {feature : HeuristicFeature α}
    (h : ofRules language id category title rules = .ok feature) (document : Document) :
    isFraction (feature.score document) = true := by
  obtain ⟨-, -, -, -, hmade⟩ := ofRules_eq_ok_iff.1 h
  rw [score, scoreText]
  split
  · exact hzero
  · exact isFraction_max
      (isFraction_bestMatch hzero (isFraction_of_forall₂_isReady hmade.title) _)
      (isFraction_bestMatch hzero (isFraction_of_forall₂_isReady hmade.body) _)

end HeuristicFeature

end

/-! ### Features by comparison -/

namespace VectorFeature

variable {α : Type} [Scalar α] {feature : VectorFeature α} {w : Weighing (Scoring α) α}
  {document : Document} {vectorizer later : Vectorizer α} {x s : α}

/-- A score is the quantile of a similarity. -/
theorem run_score_eq_ok_iff :
    (feature.score w document).run.run vectorizer = (.ok s, later) ↔
      ∃ x, (feature.rawSimilarity w document).run.run vectorizer = (.ok x, later) ∧
        feature.distribution.quantileOf x = .ok s := by
  rw [score, Scoring.run_bind]
  cases hraw : (feature.rawSimilarity w document).run.run vectorizer with
  | mk outcome state =>
    cases outcome with
    | error cause =>
      constructor
      · intro h
        cases (Prod.mk.inj h).1
      · rintro ⟨x, h, -⟩
        cases (Prod.mk.inj h).1
    | ok x =>
      dsimp only
      rw [Scoring.run_ofExcept]
      constructor
      · intro h
        obtain ⟨hquantile, rfl⟩ := Prod.mk.inj h
        exact ⟨x, rfl, hquantile⟩
      · rintro ⟨_, h, hquantile⟩
        obtain ⟨hx, rfl⟩ := Prod.mk.inj h
        rw [Except.ok.inj hx, hquantile]

end VectorFeature

/-! ### Features -/

/-- A feature that was made of its parts. -/
inductive Feature.IsMade : Feature Exact → Prop where
  | vector {id : FeatureId} {category : Category} {title : String} {seed : TermBag}
    {distribution : Distribution Exact} {feature : VectorFeature Exact}
    (hdistribution : distribution.IsObtainable)
    (h : VectorFeature.ofParts id category title seed distribution = .ok feature) :
    IsMade (.vector feature)
  | heuristic {language : PatternSyntax} {id : FeatureId} {category : Category} {title : String}
    {rules : HeuristicRules Exact} {feature : HeuristicFeature Exact}
    (h : HeuristicFeature.ofRules language id category title rules = .ok feature) :
    IsMade (.heuristic feature)

theorem isFraction_ofReal {r : ℝ} (hzero : 0 ≤ r) (hone : r ≤ 1) :
    isFraction (Exact.ofReal r) = true := by
  simp [isFraction, zero, one, hzero, hone]

namespace VectorFeature

variable {feature : VectorFeature Exact}

theorem isSorted_of_isMade (h : (Feature.vector feature).IsMade) :
    feature.distribution.IsSorted ∧ feature.distribution.isEmpty = false := by
  cases h with
  | vector hdistribution hparts =>
    obtain ⟨-, hempty, rfl⟩ := ofParts_eq_ok_iff.1 hparts
    exact ⟨hdistribution.isSorted, hempty⟩

/-- Each similarity has a score, which is a fraction. -/
theorem exists_quantileOf_of_isMade (h : (Feature.vector feature).IsMade) (x : Exact) :
    ∃ s, feature.distribution.quantileOf x = .ok s ∧ isFraction s = true := by
  obtain ⟨hsorted, hempty⟩ := isSorted_of_isMade h
  obtain ⟨r, hr, hzero, hone⟩ := hsorted.exists_quantileOf_eq hempty x
  exact ⟨_, hr, isFraction_ofReal hzero hone⟩

end VectorFeature

theorem Feature.isFraction_of_run_score {feature : Feature Exact} (h : feature.IsMade)
    {w : Weighing (Scoring Exact) Exact} {document : Document} {vectorizer later : Vectorizer Exact}
    {s : Exact} (hs : (feature.score w document).run.run vectorizer = (.ok s, later)) :
    isFraction s = true := by
  cases h with
  | vector hdistribution hparts =>
    obtain ⟨x, -, hx⟩ := VectorFeature.run_score_eq_ok_iff.1 hs
    obtain ⟨s', hs', hfraction⟩ :=
      VectorFeature.exists_quantileOf_of_isMade (.vector hdistribution hparts) x
    obtain rfl := Except.ok.inj (hs'.symm.trans hx)
    exact hfraction
  | heuristic hrules =>
    obtain ⟨hs, -⟩ := Prod.mk.inj hs
    obtain rfl := Except.ok.inj hs
    have hzero : isFraction (zero : Exact) = true := isFraction_ofReal (by simp) (by simp)
    exact HeuristicFeature.isFraction_score hzero hrules document

/-- Scores are fractions, of features by rules also in floating-point arithmetic, and the scores of
a feature by comparison are in the order of the similarities. -/
theorem Feature.isFraction_score_and_mono :
    (∀ feature : Feature Exact, feature.IsMade →
      ∀ (w : Weighing (Scoring Exact) Exact) (document : Document)
        (vectorizer later : Vectorizer Exact) (s : Exact),
        (feature.score w document).run.run vectorizer = (.ok s, later) →
          isFraction s = true ∧ isNaN s = false) ∧
    (∀ (language : PatternSyntax) (id : FeatureId) (category : Category) (title : String)
      (rules : HeuristicRules Float) (feature : HeuristicFeature Float),
      HeuristicFeature.ofRules language id category title rules = .ok feature →
        ∀ document, isFraction (feature.score document) = true ∧
          isNaN (feature.score document) = false) ∧
    ∀ feature : VectorFeature Exact, (vector feature).IsMade →
      (∀ raw, ∃ s, feature.distribution.quantileOf raw = .ok s ∧ isFraction s = true) ∧
      ∀ (w w' : Weighing (Scoring Exact) Exact) (document document' : Document)
        (vectorizer vectorizer' later later' : Vectorizer Exact) (x y : Exact),
        (feature.rawSimilarity w document).run.run vectorizer = (.ok x, later) →
        (feature.rawSimilarity w' document').run.run vectorizer' = (.ok y, later') → x ≤ y →
          ∃ s t, (feature.score w document).run.run vectorizer = (.ok s, later) ∧
            (feature.score w' document').run.run vectorizer' = (.ok t, later') ∧ s ≤ t := by
  refine ⟨fun feature h w document vectorizer later s hs => ?_,
    fun language id category title rules feature h document => ?_, fun feature h => ?_⟩
  · have hfraction := isFraction_of_run_score h hs
    exact ⟨hfraction, isNaN_of_isFraction hfraction⟩
  · have hzero : isFraction (zero : Float) = true := by decide +kernel
    have hfraction := HeuristicFeature.isFraction_score hzero h document
    exact ⟨hfraction, isNaN_of_isFraction hfraction⟩
  · refine ⟨VectorFeature.exists_quantileOf_of_isMade h, ?_⟩
    intro w w' document document' vectorizer vectorizer' later later' x y hx hy hxy
    obtain ⟨s, hs, -⟩ := VectorFeature.exists_quantileOf_of_isMade h x
    obtain ⟨t, ht, -⟩ := VectorFeature.exists_quantileOf_of_isMade h y
    exact ⟨s, t, VectorFeature.run_score_eq_ok_iff.2 ⟨x, hx, hs⟩,
      VectorFeature.run_score_eq_ok_iff.2 ⟨y, hy, ht⟩,
      (VectorFeature.isSorted_of_isMade h).1.quantileOf_mono hxy hs ht⟩

/-! ### Two similarities -/

namespace Feature

/-- A vector of norm one with the weights of two terms. -/
noncomputable def cereals (wheat maize : ℝ) : WeightVector Exact :=
  ⟨.ofList [("wheat", .ofReal wheat), ("maize", .ofReal maize)], .ofReal 1⟩

/-- Weighs all documents alike, and counted terms as wheat. -/
noncomputable def constantWeighing (wheat maize : ℝ) : Weighing (Scoring Exact) Exact where
  document _ := pure (cereals wheat maize)
  bag _ := pure (cereals 1 0)

theorem cosine_cereals {wheat maize : ℝ} (hzero : 0 ≤ wheat) (hone : wheat ≤ 1) :
    (cereals wheat maize).cosine (cereals 1 0) = .ok (.ofReal wheat) := by
  have hnonzero : (cereals 1 0).isZero = false ∧ (cereals wheat maize).isZero = false := by
    simp [WeightVector.isZero, cereals, equals, zero]
  have hdot : (cereals wheat maize).dot (cereals 1 0) = .ofReal wheat := by
    show ([Exact.ofReal wheat * .ofReal 1, .ofReal maize * .ofReal 0].foldl (· + ·) (-zero)) = _
    simp [zero]
  have hnorms : (cereals wheat maize).norm * (cereals 1 0).norm = .ofReal 1 := by
    simp [cereals]
  rw [WeightVector.cosine, hnonzero.1, hnonzero.2, hdot, hnorms, Exact.ofReal_div one_ne_zero,
    div_one]
  have hclamp : clamp (zero : Exact) one (.ofReal wheat) = .ofReal wheat :=
    Exact.clamp_eq_self (by simpa using hzero) (by simpa using hone)
  rw [hclamp]
  rfl

/-- A feature with wheat as its seed, whose scores are the similarities themselves. -/
noncomputable def wheat : VectorFeature Exact :=
  ⟨1, .industry, "wheat", .empty, ⟨2, [⟨0, .ofReal 0, 1⟩, ⟨100, .ofReal 1, 2⟩]⟩⟩

theorem isMade_wheat : (Feature.vector Feature.wheat).IsMade := by
  have haccepted : Distribution.ofCheckpoints 2 [⟨0, .ofReal 0, 1⟩, ⟨100, .ofReal 1, 2⟩] =
      .ok Feature.wheat.distribution := by
    refine Distribution.ofCheckpoints_eq_ok_iff.2 ⟨?_, ?_, rfl⟩
    · simp [Distribution.orderDefect?, Distribution.pairDefect?]
    · simp [Distribution.isSound]
  have hparts : VectorFeature.ofParts 1 .industry "wheat" .empty Feature.wheat.distribution =
      .ok Feature.wheat := rfl
  exact .vector (.ofCheckpoints haccepted) hparts

theorem run_rawSimilarity_wheat (wheat maize : ℝ) (hzero : 0 ≤ wheat) (hone : wheat ≤ 1)
    (vectorizer : Vectorizer Exact) :
    (Feature.wheat.rawSimilarity (constantWeighing wheat maize) {}).run.run vectorizer =
      (.ok (.ofReal wheat), vectorizer) := by
  rw [VectorFeature.rawSimilarity]
  show (MonadExcept.ofExcept ((cereals wheat maize).cosine (cereals 1 0)) :
    Scoring Exact Exact).run.run vectorizer = _
  rw [Scoring.run_ofExcept, cosine_cereals hzero hone]

/-- A vectorizer that has not been asked yet. -/
noncomputable def idle : Vectorizer Exact :=
  ⟨⟨⟨[]⟩⟩, .ofPath "universe.vector", .empty 0⟩

/-- A rule of the score one half gives a fraction, and of the similarities three fifths and one the
second has the higher score. -/
theorem isFraction_score_and_mono_wheat :
    (∃ feature : HeuristicFeature Float,
      HeuristicFeature.ofRules (fun _ => some fun _ => true) 2 .manualHeuristic "rules"
        { title := [⟨"wheat", 0.5⟩] } = .ok feature ∧ isFraction (feature.score {}) = true) ∧
    ∃ s t,
      (Feature.wheat.score (constantWeighing (3 / 5) (4 / 5)) {}).run.run idle = (.ok s, idle) ∧
      (Feature.wheat.score (constantWeighing 1 0) {}).run.run idle = (.ok t, idle) ∧
      s ≤ t ∧ isFraction s = true ∧ isFraction t = true := by
  constructor
  · have hmade : HeuristicFeature.ofRules (fun _ => some fun _ => true) 2 .manualHeuristic "rules"
        { title := [⟨"wheat", 0.5⟩] } =
          .ok ⟨2, "rules", [⟨fun _ => true, (0.5 : Float)⟩], [], [], []⟩ := by
      rfl
    exact ⟨_, hmade, (isFraction_score_and_mono.2.1 _ _ _ _ _ _ hmade {}).1⟩
  · have hx := run_rawSimilarity_wheat (3 / 5) (4 / 5) (by norm_num) (by norm_num) idle
    have hy := run_rawSimilarity_wheat 1 0 (by norm_num) (by norm_num) idle
    obtain ⟨s, t, hs, ht, hst⟩ := (isFraction_score_and_mono.2.2 _ isMade_wheat).2
      _ _ _ _ _ _ _ _ _ _ hx hy (by rw [Exact.ofReal_le]; norm_num)
    exact ⟨s, t, hs, ht, hst,
      (isFraction_score_and_mono.1 _ isMade_wheat _ _ _ _ _ hs).1,
      (isFraction_score_and_mono.1 _ isMade_wheat _ _ _ _ _ ht).1⟩

end Feature

end NewsScoring
