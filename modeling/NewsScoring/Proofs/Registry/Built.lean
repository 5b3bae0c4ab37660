import NewsScoring.Proofs.Feature.Loading
import NewsScoring.Registry

/-!
# Registries that were built

A registry is made of given features, or of those that could be loaded for a catalogue.  Each of its
features stands under its own number (`IsBuilt.id_eq`), and where it was loaded, it is what was
loaded for an entry of that number (`isLoaded_warmUp`).
-/

namespace NewsScoring.Registry

/-- A registry made of given features, or loaded for a catalogue. -/
inductive IsBuilt : Registry Float → Prop where
  | ofFeatures (features : List (Feature Float)) : IsBuilt (.ofFeatures features)
  | warmUp (disk : Disk) (layout : ArtifactLayout) (catalogue : Catalogue Float) :
    IsBuilt (.warmUp disk layout catalogue)

/-- Whether a listed feature was loaded for a catalogue entry of its number. -/
def IsLoaded (disk : Disk) (layout : ArtifactLayout) (listed : FeatureId × Feature Float) : Prop :=
  ∃ entry : CatalogueEntry Float, entry.id = listed.1 ∧
    Feature.load disk layout entry = .ok listed.2

variable {disk : Disk} {layout : ArtifactLayout} {registry : Registry Float}

/-- One entry of a catalogue adds a loaded feature or none. -/
theorem isLoaded_addEntry
    (h : ∀ listed ∈ registry.features.entries, IsLoaded disk layout listed)
    (entry : CatalogueEntry Float) :
    ∀ listed ∈ (addEntry disk layout registry entry).features.entries,
      IsLoaded disk layout listed := by
  unfold addEntry
  split
  · next feature hload =>
    intro listed hlisted
    rcases KeyedList.eq_or_mem_of_mem_putEntry hlisted with rfl | hlisted
    · exact ⟨entry, rfl, hload⟩
    · exact h listed hlisted
  · exact h

/-- The features of a catalogue were loaded, by induction on the entries. -/
theorem isLoaded_warmUp (catalogue : Catalogue Float) :
    ∀ listed ∈ (warmUp disk layout catalogue).features.entries, IsLoaded disk layout listed := by
  unfold warmUp
  have hentries : ∀ (entries : List (CatalogueEntry Float)) (registry : Registry Float),
      (∀ listed ∈ registry.features.entries, IsLoaded disk layout listed) →
      ∀ listed ∈ (entries.foldl (addEntry disk layout) registry).features.entries,
        IsLoaded disk layout listed := by
    intro entries
    induction entries with
    | nil => exact fun _ h => h
    | cons entry rest ih => exact fun _ h => ih _ (isLoaded_addEntry h entry)
  refine hentries catalogue.entries _ ?_
  intro listed hlisted
  cases hlisted

/-- Features that are put under their numbers stand there. -/
theorem id_eq_ofFeatures (features : List (Feature Float)) :
    ∀ listed ∈ (ofFeatures features).features.entries, listed.2.id = listed.1 := by
  unfold ofFeatures KeyedList.ofList
  have hput : ∀ (features : List (Feature Float)) (l : KeyedList FeatureId (Feature Float)),
      (∀ listed ∈ l.entries, listed.2.id = listed.1) →
      ∀ listed ∈ ((features.map fun feature => (feature.id, feature)).foldl
        (fun l entry => l.put entry.1 entry.2) l).entries, listed.2.id = listed.1 := by
    intro features
    induction features with
    | nil => exact fun _ h => h
    | cons feature rest ih =>
      refine fun l h => ih _ fun listed hlisted => ?_
      rcases KeyedList.eq_or_mem_of_mem_putEntry hlisted with rfl | hlisted
      · rfl
      · exact h listed hlisted
  refine hput features _ ?_
  intro listed hlisted
  cases hlisted

/-- Each feature of a registry that was built stands under its own number. -/
theorem IsBuilt.id_eq (h : registry.IsBuilt) :
    ∀ listed ∈ registry.features.entries, listed.2.id = listed.1 := by
  cases h with
  | ofFeatures features => exact id_eq_ofFeatures features
  | warmUp disk layout catalogue =>
    intro listed hlisted
    obtain ⟨entry, hid, hload⟩ := isLoaded_warmUp catalogue listed hlisted
    exact (Feature.describes_of_load hload).id_eq.trans hid

theorem IsBuilt.map_id_all (h : registry.IsBuilt) :
    registry.all.map Feature.id = registry.features.keys := by
  rw [all, KeyedList.values, List.map_map]
  exact List.map_congr_left fun listed hlisted => h.id_eq listed hlisted

theorem IsBuilt.nodup_ids (h : registry.IsBuilt) : (registry.all.map Feature.id).Nodup := by
  rw [h.map_id_all]
  exact registry.features.nodup_keys

theorem IsBuilt.feature?_id (h : registry.IsBuilt) {feature : Feature Float}
    (hmem : feature ∈ registry.all) : registry.feature? feature.id = some feature := by
  obtain ⟨listed, hlisted, rfl⟩ := List.mem_map.1 hmem
  rw [h.id_eq listed hlisted]
  exact KeyedList.find?_of_mem_entries hlisted

/-- A loaded feature with a seed has a distribution that is not empty. -/
theorem isEmpty_distribution_warmUp {catalogue : Catalogue Float} {feature : VectorFeature Float}
    (h : .vector feature ∈ (warmUp disk layout catalogue).all) :
    feature.distribution.isEmpty = false := by
  obtain ⟨listed, hlisted, heq⟩ := List.mem_map.1 h
  obtain ⟨entry, -, hload⟩ := isLoaded_warmUp catalogue listed hlisted
  rcases Feature.load_cases hload with ⟨loaded, hloaded, heq'⟩ | ⟨rules, made, -, heq'⟩
  · obtain rfl : feature = loaded := Feature.vector.inj (heq.symm.trans heq')
    obtain ⟨-, seed, distribution, -, -, hempty, rfl⟩ := VectorFeature.load_eq_ok_iff.1 hloaded
    exact hempty
  · cases heq.symm.trans heq'

end NewsScoring.Registry
