import Mathlib.Data.List.Nodup
import NewsScoring.Proofs.Artifact.Places
import NewsScoring.Proofs.KeyedList.Latest
import NewsScoring.Proofs.Registry.Built

/-!
# Registries of a catalogue

The features of a catalogue that can be loaded make up its registry, in their order, and the others
are omitted (`entries_warmUp`, `omitted_warmUp`), whatever the disk holds.  Whether and as what a
feature is loaded depends on the files in its own directory only: where two disks differ in the
directory of one feature, the registries agree on all others (`warmUp_covers_and_isolates`).
-/

namespace NewsScoring.Registry

/-! ### Loaded and omitted features -/

section

variable (disk : Disk) (layout : ArtifactLayout)

/-- Whether the feature of a catalogue entry can be loaded. -/
def isLoadable (entry : CatalogueEntry Float) : Bool :=
  (Feature.load disk layout entry).isOk

/-- The feature of a catalogue entry under its number, if it can be loaded. -/
def listed? (entry : CatalogueEntry Float) : Option (FeatureId × Feature Float) :=
  match Feature.load disk layout entry with
  | .ok feature => some (entry.id, feature)
  | .error _ => none

end

variable {disk : Disk} {layout : ArtifactLayout} {catalogue : Catalogue Float} {id : FeatureId}

theorem listed?_eq_some_iff {entry : CatalogueEntry Float} {feature : Feature Float} :
    listed? disk layout entry = some (id, feature) ↔
      entry.id = id ∧ Feature.load disk layout entry = .ok feature := by
  rw [listed?]
  cases Feature.load disk layout entry <;> simp

theorem isLoadable_eq_true_iff {entry : CatalogueEntry Float} :
    isLoadable disk layout entry = true ↔
      ∃ feature, Feature.load disk layout entry = .ok feature :=
  isOk_eq_true_iff

theorem map_fst_filterMap_listed? (entries : List (CatalogueEntry Float)) :
    (entries.filterMap (listed? disk layout)).map Prod.fst =
      (entries.filter (isLoadable disk layout)).map CatalogueEntry.id := by
  induction entries with
  | nil => rfl
  | cons entry rest ih =>
    rw [List.filterMap_cons, List.filter_cons, listed?, isLoadable]
    cases Feature.load disk layout entry with
    | error cause => exact ih
    | ok feature => exact congrArg (entry.id :: ·) ih

/-- The registry lists the loaded features one behind the other, because no number is listed
twice. -/
theorem entries_foldl_addEntry {entries : List (CatalogueEntry Float)}
    (hnodup : (entries.map CatalogueEntry.id).Nodup) (version : Nat) :
    (entries.foldl (addEntry disk layout) ⟨version, .empty, []⟩).features.entries =
      entries.filterMap (listed? disk layout) := by
  induction entries using List.reverseRecOn with
  | nil => rfl
  | append_singleton entries entry ih =>
    rw [List.map_append, List.nodup_append] at hnodup
    have hbefore := ih hnodup.1
    -- No number comes twice, so the feature does not replace one that is listed.
    have hnew : entry.id ∉ (entries.filterMap (listed? disk layout)).map Prod.fst := by
      rw [map_fst_filterMap_listed?]
      intro hmem
      exact hnodup.2.2 _ ((List.filter_sublist.map _).subset hmem) _ List.mem_cons_self rfl
    rw [List.foldl_append, List.foldl_cons, List.foldl_nil, List.filterMap_append,
      List.filterMap_cons, List.filterMap_nil, addEntry, listed?]
    cases Feature.load disk layout entry with
    | error cause => rw [List.append_nil, hbefore]
    | ok feature =>
      show KeyedList.putEntry entry.id feature _ = _
      rw [hbefore, KeyedList.putEntry_of_notMem hnew]

theorem entries_warmUp : (warmUp disk layout catalogue).features.entries =
    catalogue.entries.filterMap (listed? disk layout) :=
  entries_foldl_addEntry catalogue.nodup_ids catalogue.version

theorem keys_warmUp : (warmUp disk layout catalogue).features.keys =
    (catalogue.entries.filter (isLoadable disk layout)).map CatalogueEntry.id := by
  rw [KeyedList.keys, entries_warmUp, map_fst_filterMap_listed?]

theorem omitted_foldl_addEntry (entries : List (CatalogueEntry Float)) (registry : Registry Float) :
    (entries.foldl (addEntry disk layout) registry).omitted = registry.omitted ++
      (entries.filter (!isLoadable disk layout ·)).map CatalogueEntry.id := by
  induction entries generalizing registry with
  | nil => exact (List.append_nil _).symm
  | cons entry rest ih =>
    rw [List.foldl_cons, ih, addEntry, List.filter_cons, isLoadable]
    cases Feature.load disk layout entry with
    | error cause => exact List.append_assoc ..
    | ok feature => rfl

theorem omitted_warmUp : (warmUp disk layout catalogue).omitted =
    (catalogue.entries.filter (!isLoadable disk layout ·)).map CatalogueEntry.id :=
  omitted_foldl_addEntry catalogue.entries _

theorem feature?_warmUp_eq_some_iff {feature : Feature Float} :
    (warmUp disk layout catalogue).feature? id = some feature ↔
      ∃ entry ∈ catalogue.entries, entry.id = id ∧
        Feature.load disk layout entry = .ok feature := by
  rw [feature?, KeyedList.find?_eq_some_iff, entries_warmUp, List.mem_filterMap]
  simp only [listed?_eq_some_iff]

theorem mem_omitted_warmUp_iff :
    id ∈ (warmUp disk layout catalogue).omitted ↔
      ∃ entry ∈ catalogue.entries, entry.id = id ∧
        ¬∃ feature, Feature.load disk layout entry = .ok feature := by
  rw [omitted_warmUp, List.mem_map]
  constructor
  · rintro ⟨entry, hmem, rfl⟩
    rw [List.mem_filter, Bool.not_eq_true', ← Bool.not_eq_true, isLoadable_eq_true_iff] at hmem
    exact ⟨entry, hmem.1, rfl, hmem.2⟩
  · rintro ⟨entry, hmem, rfl, hload⟩
    refine ⟨entry, ?_, rfl⟩
    rw [List.mem_filter, Bool.not_eq_true', ← Bool.not_eq_true, isLoadable_eq_true_iff]
    exact ⟨hmem, hload⟩

/-! ### Registry and catalogue -/

/-- Whether a registry has each feature of a catalogue either loaded or omitted, in the order of the
catalogue, and what it has for a number is the feature that the entry of that number is about. -/
structure Covers {α : Type} (registry : Registry α) (catalogue : Catalogue α) : Prop where
  loaded_sublist : (registry.all.map Feature.id).Sublist (catalogue.entries.map CatalogueEntry.id)
  omitted_sublist : registry.omitted.Sublist (catalogue.entries.map CatalogueEntry.id)
  disjoint : (registry.all.map Feature.id).Disjoint registry.omitted
  perm : (registry.all.map Feature.id ++ registry.omitted).Perm
    (catalogue.entries.map CatalogueEntry.id)
  describes : ∀ entry ∈ catalogue.entries, entry.id ∈ registry.all.map Feature.id →
    ∃ feature, registry.feature? entry.id = some feature ∧ entry.Describes feature

/-- What a registry has for the number of an entry is what was loaded for this entry, because no
other entry has the number. -/
theorem feature?_id_warmUp_eq_some_iff {entry : CatalogueEntry Float}
    (hentry : entry ∈ catalogue.entries) {feature : Feature Float} :
    (warmUp disk layout catalogue).feature? entry.id = some feature ↔
      Feature.load disk layout entry = .ok feature := by
  rw [feature?_warmUp_eq_some_iff]
  constructor
  · rintro ⟨other, hother, hid, hload⟩
    rwa [← List.inj_on_of_nodup_map catalogue.nodup_ids hother hentry hid]
  · exact fun hload => ⟨entry, hentry, rfl, hload⟩

theorem covers_warmUp : (warmUp disk layout catalogue).Covers catalogue := by
  have hloaded : (warmUp disk layout catalogue).all.map Feature.id =
      (catalogue.entries.filter (isLoadable disk layout)).map CatalogueEntry.id := by
    rw [(IsBuilt.warmUp disk layout catalogue).map_id_all, keys_warmUp]
  have hperm : ((warmUp disk layout catalogue).all.map Feature.id ++
      (warmUp disk layout catalogue).omitted).Perm (catalogue.entries.map CatalogueEntry.id) := by
    rw [hloaded, omitted_warmUp, ← List.map_append]
    exact (List.filter_append_perm (isLoadable disk layout) catalogue.entries).map _
  refine ⟨?_, ?_, ?_, hperm, ?_⟩
  · rw [hloaded]
    exact List.filter_sublist.map _
  · rw [omitted_warmUp]
    exact List.filter_sublist.map _
  · exact List.disjoint_of_nodup_append (hperm.nodup_iff.2 catalogue.nodup_ids)
  · intro entry hentry hid
    rw [(IsBuilt.warmUp disk layout catalogue).map_id_all, ← KeyedList.contains_iff_mem_keys,
      KeyedList.contains, Option.isSome_iff_exists] at hid
    obtain ⟨feature, hfeature⟩ := hid
    exact ⟨feature, hfeature,
      Feature.describes_of_load ((feature?_id_warmUp_eq_some_iff hentry).1 hfeature)⟩

/-! ### Two disks -/

/-- Whether two registries have the same feature of a number, or both omit it, or neither. -/
structure AgreeOn {α : Type} (registry registry' : Registry α) (id : FeatureId) : Prop where
  feature?_eq : registry.feature? id = registry'.feature? id
  mem_omitted_iff : id ∈ registry.omitted ↔ id ∈ registry'.omitted

variable {disk' : Disk}

theorem agreeOn_warmUp
    (hload : ∀ entry ∈ catalogue.entries, entry.id = id → ∀ feature,
      Feature.load disk layout entry = .ok feature ↔
        Feature.load disk' layout entry = .ok feature) :
    (warmUp disk layout catalogue).AgreeOn (warmUp disk' layout catalogue) id := by
  constructor
  · refine Option.ext fun feature => ?_
    rw [feature?_warmUp_eq_some_iff, feature?_warmUp_eq_some_iff]
    refine exists_congr fun entry => and_congr_right fun hmem => and_congr_right fun hid => ?_
    exact hload entry hmem hid feature
  · rw [mem_omitted_warmUp_iff, mem_omitted_warmUp_iff]
    refine exists_congr fun entry => and_congr_right fun hmem => and_congr_right fun hid => ?_
    exact not_congr (exists_congr (hload entry hmem hid))

theorem isName_vector : Path.IsName "feature.vector" :=
  ⟨by decide, by decide, by decide⟩

theorem isName_distribution : Path.IsName "feature.distribution" :=
  ⟨by decide, by decide, by decide⟩

/-- Disks that agree outside of the directory of one feature have registries that agree on all
others. -/
theorem agreeOn_of_agreeOutside {start : List String} {category : Category} {other : FeatureId}
    (hdisks : Disk.AgreeOutside start (Path.place start (layout.featureDirectory category id))
      layout.root disk disk')
    (hother : other ≠ id) :
    (warmUp disk layout catalogue).AgreeOn (warmUp disk' layout catalogue) other := by
  refine agreeOn_warmUp fun entry _ hid feature => ?_
  have hfeature : ¬(entry.category = category ∧ entry.id = id) := by
    rintro ⟨-, hsame⟩
    exact hother (hid.symm.trans hsame)
  exact Feature.load_congr (layout.content_iff_of_agreeOutside hdisks hfeature isName_vector)
    (layout.content_iff_of_agreeOutside hdisks hfeature isName_distribution)

/-- The registry of a catalogue covers it, whatever the disk holds, and has the features that can be
loaded.  If two disks agree outside of the directory of a feature, the registries agree on every
other feature.  The same holds of two trees that differ in the directory of a feature only; should
the root lead through that directory, they have to have the same directories. -/
theorem warmUp_covers_and_isolates (layout : ArtifactLayout) (catalogue : Catalogue Float) :
    (∀ disk, (warmUp disk layout catalogue).Covers catalogue ∧
      ∀ entry ∈ catalogue.entries, ∀ feature,
        (warmUp disk layout catalogue).feature? entry.id = some feature ↔
          Feature.load disk layout entry = .ok feature) ∧
    (∀ start category id (disk disk' : Disk),
      Disk.AgreeOutside start (Path.place start (layout.featureDirectory category id)) layout.root
        disk disk' →
      ∀ other, other ≠ id →
        (warmUp disk layout catalogue).AgreeOn (warmUp disk' layout catalogue) other) ∧
    ∀ category id (tree tree' : FileTree),
      (∀ point, ¬Path.place [] (layout.featureDirectory category id) <+: point →
        tree.lookup point = tree'.lookup point) →
      (Path.Crosses [] (Path.place [] (layout.featureDirectory category id)) layout.root →
        ∀ point, tree.lookup point = some .directory ↔ tree'.lookup point = some .directory) →
      ∀ other, other ≠ id →
        (warmUp tree.disk layout catalogue).AgreeOn (warmUp tree'.disk layout catalogue) other := by
  refine ⟨fun disk => ⟨covers_warmUp, fun entry hentry feature => ?_⟩, ?_, ?_⟩
  · exact feature?_id_warmUp_eq_some_iff hentry
  · intro start category id disk disk' hdisks other hother
    exact agreeOn_of_agreeOutside hdisks hother
  · intro category id tree tree' houtside hdirectories other hother
    exact agreeOn_of_agreeOutside (FileTree.agreeOutside houtside hdirectories) hother

/-- Two features that need artifacts. -/
def cereals : Catalogue Float where
  version := 1
  entries := [⟨1, .industry, "Wheat", none⟩, ⟨2, .industry, "Corn", none⟩]
  nodup_ids := by decide

/-- The second feature with its artifacts. -/
def corn : VectorFeature Float where
  id := 2
  category := .industry
  title := "Corn"
  seed := ⟨1, .ofList [("corn", ⟨2, 1⟩)]⟩
  distribution := ⟨1, [⟨0, 0, 1⟩]⟩

/-- A tree with the artifacts of the second feature, and one of the first that is not compressed. -/
def cerealTree : FileTree :=
  ⟨KeyedList.ofList [(["a"], .directory), (["a", "industry"], .directory),
    (["a", "industry", "1"], .directory), (["a", "industry", "1", "feature.vector"], .plain []),
    (["a", "industry", "2"], .directory),
    (["a", "industry", "2", "feature.vector"], Artifact.ofBag corn.seed),
    (["a", "industry", "2", "feature.distribution"],
      Artifact.ofDistribution corn.distribution)]⟩

/-- The tree without the artifact of the first feature. -/
def erasedTree : FileTree :=
  ⟨cerealTree.entries.erase ["a", "industry", "1", "feature.vector"]⟩

/-- With an artifact of the first feature that cannot be read and without one, the second feature is
loaded. -/
theorem warmUp_covers_and_isolates_cereals :
    (∀ point, ¬Path.place [] (ArtifactLayout.featureDirectory ⟨"a"⟩ .industry 1) <+: point →
      cerealTree.lookup point = erasedTree.lookup point) ∧
    ¬Path.Crosses [] (Path.place [] (ArtifactLayout.featureDirectory ⟨"a"⟩ .industry 1)) "a" ∧
    (warmUp cerealTree.disk ⟨"a"⟩ cereals).Covers cereals ∧
    (warmUp cerealTree.disk ⟨"a"⟩ cereals).feature? 2 = some (.vector corn) ∧
    (warmUp erasedTree.disk ⟨"a"⟩ cereals).feature? 2 = some (.vector corn) ∧
    (warmUp cerealTree.disk ⟨"a"⟩ cereals).AgreeOn
      (warmUp erasedTree.disk ⟨"a"⟩ cereals) 2 := by
  have houtside : ∀ point,
      ¬Path.place [] (ArtifactLayout.featureDirectory ⟨"a"⟩ .industry 1) <+: point →
      cerealTree.lookup point = erasedTree.lookup point := by
    intro point hpoint
    have hne : point ≠ ["a", "industry", "1", "feature.vector"] := by
      rintro rfl
      exact hpoint (by decide)
    rw [erasedTree, FileTree.lookup, FileTree.lookup, KeyedList.find?_erase, if_neg hne]
  have hroot : ¬Path.Crosses []
      (Path.place [] (ArtifactLayout.featureDirectory ⟨"a"⟩ .industry 1)) "a" := by
    decide
  have hcorn : (⟨2, .industry, "Corn", none⟩ : CatalogueEntry Float) ∈ cereals.entries := by
    simp [cereals]
  have hloaded : Feature.load cerealTree.disk ⟨"a"⟩ ⟨2, .industry, "Corn", none⟩ =
      .ok (.vector corn) := by rfl
  have hloaded' : Feature.load erasedTree.disk ⟨"a"⟩ ⟨2, .industry, "Corn", none⟩ =
      .ok (.vector corn) := by rfl
  obtain ⟨hcovers, -, htrees⟩ := warmUp_covers_and_isolates ⟨"a"⟩ cereals
  exact ⟨houtside, hroot, (hcovers _).1, ((hcovers _).2 _ hcorn _).2 hloaded,
    ((hcovers _).2 _ hcorn _).2 hloaded',
    htrees .industry 1 _ _ houtside (fun h => absurd h hroot) 2 (by decide)⟩

end NewsScoring.Registry
