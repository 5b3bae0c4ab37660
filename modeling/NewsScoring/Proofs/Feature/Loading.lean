import NewsScoring.Feature
import NewsScoring.Proofs.Artifact.Reading
import NewsScoring.Proofs.Feature.Rules

/-!
# What a loaded feature is

A feature that was loaded has number, category and title of its catalogue entry
(`Feature.describes_of_load`).  A feature with a seed has seed and distribution from its artifacts,
and its distribution is not empty (`VectorFeature.load_eq_ok_iff`).  Nothing else on the disk
matters (`Feature.load_congr`).
-/

namespace NewsScoring

theorem VectorFeature.ofParts_eq_ok_iff {α : Type} {id : FeatureId} {category : Category}
    {title : String} {seed : TermBag} {distribution : Distribution α} {feature : VectorFeature α} :
    ofParts id category title seed distribution = .ok feature ↔
      category.isVectorBacked = true ∧ distribution.isEmpty = false ∧
        ⟨id, category, title, seed, distribution⟩ = feature := by
  cases hcategory : category.isVectorBacked <;> cases hempty : distribution.isEmpty <;>
    simp [ofParts, hcategory, hempty]

variable {disk : Disk} {layout : ArtifactLayout} {entry : CatalogueEntry Float}

/-- A feature with a seed is loaded if its category has seeds, both artifacts can be read, and the
distribution is not empty. -/
theorem VectorFeature.load_eq_ok_iff {feature : VectorFeature Float} :
    load disk layout entry = .ok feature ↔
      entry.category.isVectorBacked = true ∧ ∃ seed distribution,
        Artifact.readBag disk (layout.vectorPath entry.category entry.id) = .ok seed ∧
        Artifact.readDistribution disk (layout.distributionPath entry.category entry.id) =
          .ok distribution ∧
        distribution.isEmpty = false ∧
        ⟨entry.id, entry.category, entry.title, seed, distribution⟩ = feature := by
  unfold load
  cases hcategory : entry.category.isVectorBacked with
  | false => simp [bind, Except.bind, throw, throwThe, MonadExceptOf.throw]
  | true =>
    simp only [Bool.not_true, Bool.false_eq_true, if_false, bind_eq_ok_iff, mapError_eq_ok_iff,
      ofParts_eq_ok_iff, hcategory, true_and, exists_and_left]

/-- A feature made of rules has the number and the title that it is made with, and its category has
rules. -/
theorem HeuristicFeature.describes_of_ofRules {α : Type} [Scalar α] {language : PatternSyntax}
    {id : FeatureId} {category : Category} {title : String} {rules : HeuristicRules α}
    {feature : HeuristicFeature α} (h : ofRules language id category title rules = .ok feature) :
    feature.id = id ∧ category = .manualHeuristic ∧ feature.title = title := by
  obtain ⟨hcategory, -, hid, htitle, -⟩ := ofRules_eq_ok_iff.1 h
  exact ⟨hid, hcategory, htitle⟩

/-- A feature is loaded from its artifacts, or made of the rules of its entry. -/
theorem Feature.load_cases {feature : Feature Float} (h : load disk layout entry = .ok feature) :
    (∃ loaded, VectorFeature.load disk layout entry = .ok loaded ∧ feature = vector loaded) ∨
      ∃ rules made, HeuristicFeature.ofRules .regular entry.id entry.category entry.title rules =
        .ok made ∧ feature = heuristic made := by
  unfold load at h
  split at h
  · cases hload : VectorFeature.load disk layout entry with
    | error cause =>
      rw [hload] at h
      cases h
    | ok loaded =>
      rw [hload] at h
      cases h
      exact .inl ⟨loaded, rfl, rfl⟩
  · split at h
    · cases h
    · next rules _ =>
      cases hmade : HeuristicFeature.ofRules .regular entry.id entry.category entry.title rules with
      | error cause =>
        rw [hmade] at h
        cases h
      | ok made =>
        rw [hmade] at h
        cases h
        exact .inr ⟨rules, made, hmade, rfl⟩

/-- Whether a feature is the one that a catalogue entry is about. -/
structure CatalogueEntry.Describes {α : Type} (entry : CatalogueEntry α) (feature : Feature α) :
    Prop where
  id_eq : feature.id = entry.id
  category_eq : feature.category = entry.category
  title_eq : feature.title = entry.title

/-- A loaded feature is the one that its entry is about. -/
theorem Feature.describes_of_load {feature : Feature Float}
    (h : load disk layout entry = .ok feature) : entry.Describes feature := by
  rcases load_cases h with ⟨loaded, hload, rfl⟩ | ⟨rules, made, hmade, rfl⟩
  · obtain ⟨-, -, -, -, -, -, rfl⟩ := VectorFeature.load_eq_ok_iff.1 hload
    exact ⟨rfl, rfl, rfl⟩
  · obtain ⟨hid, hcategory, htitle⟩ := HeuristicFeature.describes_of_ofRules hmade
    exact ⟨hid, hcategory.symm, htitle⟩

/-! ### Two disks -/

variable {disk' : Disk}

/-- A feature is loaded alike from two disks on which both of its artifacts are the same. -/
theorem Feature.load_congr
    (hvector : ∀ content, disk (layout.vectorPath entry.category entry.id) = .ok content ↔
      disk' (layout.vectorPath entry.category entry.id) = .ok content)
    (hdistribution : ∀ content,
      disk (layout.distributionPath entry.category entry.id) = .ok content ↔
        disk' (layout.distributionPath entry.category entry.id) = .ok content)
    {feature : Feature Float} :
    load disk layout entry = .ok feature ↔ load disk' layout entry = .ok feature := by
  unfold load
  split
  · have hload : ∀ loaded, VectorFeature.load disk layout entry = .ok loaded ↔
        VectorFeature.load disk' layout entry = .ok loaded := by
      intro loaded
      simp only [VectorFeature.load_eq_ok_iff, Artifact.readBag_congr hvector,
        Artifact.readDistribution_congr hdistribution]
    simp only [map_eq_ok_iff, hload]
  · rfl

end NewsScoring
