import Mathlib.Data.List.Nodup
import NewsScoring.Proofs.Outcome
import NewsScoring.Proofs.RankedList.Top
import NewsScoring.Proofs.Registry.Built

/-!
# What a classification has

If all features of a registry have scores for an article, the classification has for each category
the features of the highest scores, with these scores; the first feature that has none gives its
error (`classify_eq`).
-/

namespace NewsScoring.Registry

variable {registry : Registry Float}

/-! ### The best of a category -/

/-- The features of a category by descending score, those of equal scores in the order of the
registry.  A feature whose score is NaN has no place. -/
def ranking (registry : Registry Float) (score : Feature Float → Float) (category : Category) :
    List (Feature Float) :=
  ((registry.inCategory category).filter fun feature => score feature ≤ score feature).mergeSort
    fun a b => score b ≤ score a

/-- The best of a category are the first features of its ranking. -/
theorem best_eq (hnodup : (registry.all.map Feature.id).Nodup) (top : ℕ)
    (score : Feature Float → Float) (category : Category) :
    best top (registry.all.map fun feature => ⟨feature.id, feature.category, score feature⟩)
        category =
      ((registry.ranking score category).take top).map fun feature =>
        ⟨feature.id, category, score feature⟩ := by
  let offer : Feature Float → FeatureId × Float := fun feature => (feature.id, score feature)
  have hoffers : ((registry.all.map fun feature => (⟨feature.id, feature.category,
      score feature⟩ : FeatureScore Float)).filter (·.category == category)).map
        (fun entry => (entry.id, entry.score)) = (registry.inCategory category).map offer := by
    rw [List.filter_map, List.map_map]
    rfl
  have hids : (((registry.inCategory category).map offer).map Prod.fst).Nodup := by
    rw [List.map_map]
    exact hnodup.sublist (List.filter_sublist.map _)
  have hranking : (((registry.inCategory category).map offer).filter fun offer =>
      offer.2 ≤ offer.2).mergeSort (fun a b => b.2 ≤ a.2) =
        (registry.ranking score category).map offer := by
    rw [ranking, List.filter_map,
      List.map_mergeSort (s := fun a b : FeatureId × Float => b.2 ≤ a.2) fun _ _ _ _ => rfl]
    rfl
  rw [best, hoffers, RankedList.toList_addAll_empty top hids, hranking, ← List.map_take,
    List.map_map]
  rfl

/-! ### Classifications -/

section

variable {α : Type} [Scalar α] {registry : Registry α} {w : Weighing (Except ScoringError) α}
  {top : ℕ} {document : Document}

/-- There is a classification exactly if all features have scores. -/
theorem exists_classify_eq_ok_iff :
    (∃ classification, registry.classify w top document = .ok classification) ↔
      ∀ feature ∈ registry.all, ∃ value, feature.score w document = .ok value := by
  have hscore : ∀ feature : Feature α, (∃ value, feature.score w document = .ok value) ↔
      ∃ value, scoreFeature w document feature = .ok value := by
    intro feature
    rw [scoreFeature]
    cases feature.score w document <;> simp [bind, Except.bind, pure, Except.pure]
  simp only [hscore, ← exists_mapM_eq_ok_iff, classify]
  cases registry.all.mapM (scoreFeature w document) <;> simp [bind, Except.bind, pure, Except.pure]

/-- The error of a classification is that of a feature. -/
theorem exists_of_classify_eq_error {cause : ScoringError}
    (h : registry.classify w top document = .error cause) :
    ∃ feature ∈ registry.all, feature.score w document = .error cause := by
  have hscores : registry.all.mapM (scoreFeature w document) = .error cause := by
    rw [classify] at h
    cases hscores : registry.all.mapM (scoreFeature w document) with
    | error cause' =>
      rw [hscores] at h
      exact h
    | ok scores =>
      rw [hscores] at h
      cases h
  obtain ⟨feature, hmem, hfeature⟩ := exists_of_mapM_eq_error hscores
  refine ⟨feature, hmem, ?_⟩
  rw [scoreFeature] at hfeature
  cases hscore : feature.score w document with
  | error cause' =>
    rw [hscore] at hfeature
    cases hfeature
    rfl
  | ok value =>
    rw [hscore] at hfeature
    cases hfeature

end

theorem mem_ranking {score : Feature Float → Float} {category : Category}
    {feature : Feature Float} :
    feature ∈ registry.ranking score category ↔
      feature ∈ registry.all ∧ feature.category = category ∧ score feature ≤ score feature := by
  simp only [ranking, inCategory, List.mem_mergeSort, List.mem_filter, beq_iff_eq,
    decide_eq_true_eq, and_assoc]

/-- The first features of each category, with their scores: those of industries, then those of
intents, then those with rules. -/
def topScores (registry : Registry Float) (score : Feature Float → Float) (top : ℕ) :
    Classification Float :=
  [.industry, .intent, .manualHeuristic].flatMap fun category =>
    ((registry.ranking score category).take top).map fun feature =>
      ⟨feature.id, category, score feature⟩

theorem mem_topScores {score : Feature Float → Float} {top : ℕ} {entry : FeatureScore Float}
    (h : entry ∈ registry.topScores score top) :
    ∃ feature ∈ registry.all, ⟨feature.id, feature.category, score feature⟩ = entry := by
  obtain ⟨category, -, hentry⟩ := List.mem_flatMap.1 h
  obtain ⟨feature, hfeature, rfl⟩ := List.mem_map.1 hentry
  obtain ⟨hmem, rfl, -⟩ := mem_ranking.1 (List.mem_of_mem_take hfeature)
  exact ⟨feature, hmem, rfl⟩

/-- The first features of one category or several are different. -/
theorem nodup_ids_topScores (hnodup : (registry.all.map Feature.id).Nodup)
    (score : Feature Float → Float) (top : ℕ) :
    ((registry.topScores score top).map FeatureScore.id).Nodup := by
  have hmap : ∀ category, (((registry.ranking score category).take top).map fun feature =>
      (⟨feature.id, category, score feature⟩ : FeatureScore Float)).map FeatureScore.id =
        ((registry.ranking score category).take top).map Feature.id := by
    intro category
    rw [List.map_map]
    rfl
  rw [topScores, List.map_flatMap]
  simp only [hmap]
  refine List.nodup_flatMap.2 ⟨fun category _ => ?_, ?_⟩
  · have hranking : ((registry.ranking score category).map Feature.id).Nodup := by
      rw [ranking, ((List.mergeSort_perm _ _).map Feature.id).nodup_iff]
      exact hnodup.sublist ((List.filter_sublist.trans List.filter_sublist).map _)
    exact hranking.sublist ((List.take_sublist _ _).map _)
  · have hdisjoint : ∀ c c' : Category, c ≠ c' →
        (((registry.ranking score c).take top).map Feature.id).Disjoint
          (((registry.ranking score c').take top).map Feature.id) := by
      intro c c' hne id hid hid'
      -- A feature in two rankings would have two categories.
      obtain ⟨feature, hfeature, rfl⟩ := List.mem_map.1 hid
      obtain ⟨other, hother, heq⟩ := List.mem_map.1 hid'
      obtain ⟨hmem, hcategory, -⟩ := mem_ranking.1 (List.mem_of_mem_take hfeature)
      obtain ⟨hmem', hcategory', -⟩ := mem_ranking.1 (List.mem_of_mem_take hother)
      have hsame : other = feature := List.inj_on_of_nodup_map hnodup hmem' hmem heq
      exact hne (hcategory.symm.trans (hsame ▸ hcategory'))
    exact List.Pairwise.imp (hdisjoint _ _)
      (by decide : [Category.industry, .intent, .manualHeuristic].Pairwise (· ≠ ·))

/-- The classification of an article by the scores of the features.  If each feature has a score,
it has for each category the features of the highest scores, highest first and those of equal
scores in the order of the registry; no feature is listed twice, and each has its own score.
Otherwise the classification is the error of the first feature that has none. -/
theorem classify_eq (hbuilt : registry.IsBuilt) (w : Weighing (Except ScoringError) Float)
    (top : ℕ) (document : Document) :
    (∀ score : Feature Float → Float,
      (∀ feature ∈ registry.all, feature.score w document = .ok (score feature)) →
      registry.classify w top document = .ok (registry.topScores score top) ∧
        ((registry.topScores score top).map FeatureScore.id).Nodup ∧
        (∀ entry ∈ registry.topScores score top, ∃ feature,
          registry.feature? entry.id = some feature ∧ feature.category = entry.category ∧
            feature.score w document = .ok entry.score) ∧
        ((∀ feature ∈ registry.all, Scalar.isNaN (score feature) = false) →
          ∀ category, registry.ranking score category =
            (registry.inCategory category).mergeSort fun a b => score b ≤ score a)) ∧
    (∀ before feature after cause, registry.all = before ++ feature :: after →
      (∀ earlier ∈ before, ∃ value, earlier.score w document = .ok value) →
      feature.score w document = .error cause →
      registry.classify w top document = .error cause) := by
  refine ⟨fun score hscore => ⟨?_, nodup_ids_topScores hbuilt.nodup_ids score top,
    fun entry hentry => ?_, fun hnumbers category => ?_⟩,
    fun before feature after cause hall hbefore hfeature => ?_⟩
  · -- All features have scores, of which the best of each category are kept.
    have hscores : registry.all.mapM (scoreFeature w document) =
        .ok (registry.all.map fun feature => ⟨feature.id, feature.category, score feature⟩) := by
      refine mapM_eq_ok fun feature hmem => ?_
      rw [scoreFeature, hscore feature hmem]
      rfl
    rw [classify, hscores]
    show Except.ok ([Category.industry, .intent, .manualHeuristic].flatMap (best top _)) = _
    rw [topScores, funext (best_eq hbuilt.nodup_ids top score)]
  · obtain ⟨feature, hmem, rfl⟩ := mem_topScores hentry
    exact ⟨feature, hbuilt.feature?_id hmem, rfl, hscore feature hmem⟩
  · rw [ranking, List.filter_eq_self.2]
    intro feature hmem
    simpa [Scalar.isNaN] using hnumbers feature (List.mem_filter.1 hmem).1
  · -- The scores end at the first feature that fails.
    have hfails : registry.all.mapM (scoreFeature w document) = .error cause := by
      rw [hall]
      refine mapM_eq_error (fun earlier hmem => ?_) ?_
      · obtain ⟨value, hvalue⟩ := hbefore earlier hmem
        exact ⟨⟨earlier.id, earlier.category, value⟩, by rw [scoreFeature, hvalue]; rfl⟩
      · rw [scoreFeature, hfeature]
        rfl
    rw [classify, hfails]
    rfl

/-- A feature by rules that gives each article the same score. -/
def flat (id : FeatureId) (score : Float) : Feature Float :=
  .heuristic ⟨id, "", [⟨fun _ => true, score⟩], [], [], []⟩

/-- A feature for which the similarity of an article to the seed is the highest there was. -/
def peak (id : FeatureId) (category : Category) : Feature Float :=
  .vector ⟨id, category, "", ⟨1, .empty⟩, ⟨2, [⟨0, 0, 1⟩, ⟨100, 1, 1⟩]⟩⟩

/-- Features of all categories, in another order than that of reports. -/
def mixed : List (Feature Float) :=
  [flat 1 0.5, peak 2 .intent, flat 3 0.5, flat 4 0.75, peak 5 .industry]

/-- The scores of the features of `mixed`. -/
def mixedScore (feature : Feature Float) : Float :=
  if feature.id = 4 then 0.75 else if feature.category = .manualHeuristic then 0.5 else 1

/-- Weighing that gives articles and seeds one vector. -/
def uniform : Weighing (Except ScoringError) Float where
  document _ := .ok ⟨.ofList [("wheat", 1)], 1⟩
  bag _ := .ok ⟨.ofList [("wheat", 1)], 1⟩

/-- Of the three features with rules two are listed, of the two with one score the first; a feature
with a seed of more documents than the universe has is an error. -/
theorem classify_eq_halves :
    (classify (.ofFeatures mixed) uniform 2 { title := "Robots" } =
        .ok (topScores (.ofFeatures mixed) mixedScore 2) ∧
      topScores (.ofFeatures mixed) mixedScore 2 =
        [⟨5, .industry, 1⟩, ⟨2, .intent, 1⟩, ⟨4, .manualHeuristic, 0.75⟩,
          ⟨1, .manualHeuristic, 0.5⟩]) ∧
    classify (.ofFeatures [flat 1 0.5, .vector ⟨3, .industry, "", ⟨2, .empty⟩, .empty⟩])
        (Weighing.plain .english ⟨0, ⟨1, .empty⟩⟩) 1 { title := "Robots" } =
      .error (.universeTooSmall 2 1) := by
  constructor
  · have hscores : ∀ feature ∈ all (.ofFeatures mixed),
        feature.score uniform { title := "Robots" } = .ok (mixedScore feature) := by
      decide +kernel
    have hclassify := ((classify_eq (.ofFeatures mixed) uniform 2 { title := "Robots" }).1
      mixedScore hscores).1
    refine ⟨hclassify, ?_⟩
    have hrun : classify (.ofFeatures mixed) uniform 2 { title := "Robots" } =
        .ok [⟨5, .industry, 1⟩, ⟨2, .intent, 1⟩, ⟨4, .manualHeuristic, 0.75⟩,
          ⟨1, .manualHeuristic, 0.5⟩] := by
      decide +kernel
    exact Except.ok.inj (hclassify.symm.trans hrun)
  · refine (classify_eq (.ofFeatures [flat 1 0.5,
      .vector ⟨3, .industry, "", ⟨2, .empty⟩, .empty⟩]) _ 1 _).2 [flat 1 0.5] _ [] _ rfl ?_ rfl
    intro earlier hmem
    rw [List.mem_singleton.1 hmem]
    exact ⟨0.5, rfl⟩

end NewsScoring.Registry
