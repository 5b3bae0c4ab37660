import NewsScoring.Artifact.Layout
import NewsScoring.Proofs.FileTree.Agreement

/-!
# Directories of features

Each feature has a directory of its own: the files of one feature do not lie in the directory of
another, nor are they reached through it, unless the root already leads through it.  What lies in
the directory of one feature therefore does not matter to another (`content_iff_of_agreeOutside`).
-/

namespace NewsScoring

open NewsScoring.Path

theorem Category.isName_name (category : Category) : IsName category.name := by
  cases category <;> exact ⟨by decide, by decide, by decide⟩

theorem Category.name_injective {category other : Category} (h : category.name = other.name) :
    category = other := by
  cases category <;> cases other <;> first | rfl | exact absurd h (by decide)

theorem repr_injective {m n : Nat} (h : m.repr = n.repr) : m = n := by
  have hdigits : Nat.toDigits 10 m = Nat.toDigits 10 n := by
    rw [← Nat.toList_repr, h, Nat.toList_repr]
  rw [← Nat.ofDigitChars_ten_toDigits (n := m), hdigits, Nat.ofDigitChars_ten_toDigits]

namespace ArtifactLayout

variable {layout : ArtifactLayout} {start : List String} {category other : Category}
  {id otherId : FeatureId} {name : String}

theorem place_featureDirectory :
    place start (layout.featureDirectory category id) =
      place start layout.root ++ [category.name, id.repr] := by
  rw [featureDirectory, place_join start _ (isName_repr id),
    place_join start _ category.isName_name, List.append_assoc]
  rfl

/-- A place below the root lies in the directory of a feature only if category and number are its
first two parts. -/
theorem featureDirectory_prefix_append_iff {below : List String} :
    place start (layout.featureDirectory category id) <+: place start layout.root ++ below ↔
      [category.name, id.repr] <+: below := by
  rw [place_featureDirectory]
  exact List.prefix_append_right_inj _

theorem not_prefix_otherFeature (h : ¬(other = category ∧ otherId = id)) (below : List String) :
    ¬[category.name, id.repr] <+: other.name :: otherId.repr :: below := by
  rw [List.cons_prefix_cons, List.cons_prefix_cons]
  rintro ⟨hcategory, hid, -⟩
  exact h ⟨(Category.name_injective hcategory).symm, (repr_injective hid).symm⟩

/-- A file of another feature is the same on two disks that agree outside of the directory of the
feature. -/
theorem content_iff_of_agreeOutside {disk disk' : Disk}
    (hdisks : Disk.AgreeOutside start (place start (layout.featureDirectory category id))
      layout.root disk disk')
    (hother : ¬(other = category ∧ otherId = id)) (hname : IsName name) (content : Content) :
    disk (join (layout.featureDirectory other otherId) name) = .ok content ↔
      disk' (join (layout.featureDirectory other otherId) name) = .ok content := by
  have hdirectory : place start (layout.featureDirectory other otherId) =
      place start layout.root ++ [other.name, otherId.repr] := place_featureDirectory
  refine hdisks _ ?_ ?_ content
  · rw [place_join start _ hname, hdirectory, List.append_assoc, featureDirectory_prefix_append_iff]
    exact not_prefix_otherFeature hother [name]
  · rintro ⟨point, hpoint, hprefix⟩
    rw [mem_visited_join start _ hname, hdirectory, featureDirectory,
      mem_visited_join start _ (isName_repr otherId), mem_visited_join start _ other.isName_name,
      place_join start _ other.isName_name, List.append_assoc, List.append_assoc] at hpoint
    -- The way leads over the root, the directory of the category and that of the feature.
    rcases hpoint with ((hroot | rfl) | rfl) | rfl
    · exact ⟨point, hroot, hprefix⟩
    · have hlength := (featureDirectory_prefix_append_iff.1 hprefix).length_le
      rw [List.length_cons, List.length_singleton, List.length_singleton] at hlength
      omega
    · exact absurd (featureDirectory_prefix_append_iff.1 hprefix)
        (not_prefix_otherFeature hother [])
    · exact absurd (featureDirectory_prefix_append_iff.1 hprefix)
        (not_prefix_otherFeature hother [name])

end ArtifactLayout

end NewsScoring
