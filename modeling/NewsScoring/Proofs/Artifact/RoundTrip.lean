import NewsScoring.Artifact.Layout
import NewsScoring.Proofs.Artifact.Reading
import NewsScoring.Proofs.Cbor.Record
import NewsScoring.Proofs.FileTree.Write
import NewsScoring.Proofs.TermBag.Consistency

/-!
# Reading back counted terms

Counts that are written to an artifact are read back: the item that is written fits into bytes
(`TermBag.fits_toItem`), its parts are those of the counts (`TermBag.parts?_toItem`), and they are
accepted because counts are consistent however they came about (`Artifact.readBag_writeArtifact`).
-/

namespace NewsScoring

open Cbor

namespace TermBag

variable {α : Type} {code : FloatCode α} {bag : TermBag}

/-! ### Counts as an item -/

/-- Whether the counters of counts, and the lengths of the list and of the terms, have 64 bits. -/
structure Fits (bag : TermBag) : Prop where
  documentCount_lt : bag.documentCount < 0x10000000000000000
  length_lt : bag.toList.length < 0x10000000000000000
  term_lt : ∀ part ∈ bag.toList, (Bytes.ofText part.1).length < 0x10000000000000000
  frequency_lt : ∀ part ∈ bag.toList, part.2.frequency < 0x10000000000000000
  documents_lt : ∀ part ∈ bag.toList, part.2.documents < 0x10000000000000000

theorem fits_partItem {part : String × Tally} {depth : Nat}
    (hterm : (Bytes.ofText part.1).length < 0x10000000000000000)
    (hfrequency : part.2.frequency < 0x10000000000000000)
    (hdocuments : part.2.documents < 0x10000000000000000) :
    (partItem part : Item α).Fits code (depth + 1) := by
  refine Item.fits_ofFields (by simp) ?_ ?_
  · simp only [List.forall_mem_cons]
    exact ⟨by decide, by decide, by decide, fun _ h => absurd h List.not_mem_nil⟩
  · simp only [List.forall_mem_cons]
    exact ⟨.text hterm, .unsigned hfrequency, .unsigned hdocuments,
      fun _ h => absurd h List.not_mem_nil⟩

theorem fits_toItem (h : bag.Fits) {depth : Nat} :
    (bag.toItem : Item α).Fits code (depth + 3) := by
  refine Item.fits_ofFields (by simp) ?_ ?_
  · simp only [List.forall_mem_cons]
    exact ⟨by decide, by decide, fun _ h => absurd h List.not_mem_nil⟩
  · simp only [List.forall_mem_cons]
    refine ⟨.unsigned h.documentCount_lt, .list ?_ ?_, fun _ h => absurd h List.not_mem_nil⟩
    · rw [List.length_map]
      exact h.length_lt
    · intro item hitem
      obtain ⟨part, hpart, rfl⟩ := List.mem_map.1 hitem
      exact fits_partItem (h.term_lt part hpart) (h.frequency_lt part hpart)
        (h.documents_lt part hpart)

theorem part?_partItem (part : String × Tally) : part? (partItem part : Item α) = some part := by
  have hnames : ["word", "frequency", "document_occurrences"].Nodup := by decide
  have hfields : (partItem part : Item α).fields? _ = some _ := Item.fields?_ofFields hnames
    [.text part.1, .unsigned part.2.frequency, .unsigned part.2.documents] rfl
  rw [part?, hfields]
  rfl

theorem parts?_toItem (bag : TermBag) :
    parts? (bag.toItem : Item α) = some (bag.documentCount, bag.toList) := by
  have hnames : ["document_count", "words"].Nodup := by decide
  have hfields : (bag.toItem : Item α).fields? _ = some _ := Item.fields?_ofFields hnames
    [.unsigned bag.documentCount, .list (bag.toList.map partItem)] rfl
  have hparts : (bag.toList.map (partItem : _ → Item α)).mapM part? = some bag.toList := by
    rw [List.mapM_map]
    have hmap := mapM_eq_pure fun part (_ : part ∈ bag.toList) => part?_partItem (α := α) part
    rwa [List.map_id'] at hmap
  rw [parts?, hfields]
  show ((bag.toList.map partItem).mapM part?).bind
    (fun parts => some (bag.documentCount, parts)) = _
  rw [hparts, Option.bind_some]

end TermBag

namespace Artifact

variable {bag : TermBag}

/-! ### Artifacts -/

theorem readBag_ofBag (hbag : bag.IsObtainable) (hfits : bag.Fits) {disk : Disk} {path : String}
    (hdisk : disk path = .ok (ofBag bag)) : readBag disk path = .ok bag := by
  have hitem : item? (ofBag bag) = some bag.toItem :=
    Item.ofBytes?_toBytes (TermBag.fits_toItem hfits)
  have hraw : (item? (ofBag bag)).bind TermBag.parts? = some (bag.documentCount, bag.toList) := by
    rw [hitem, Option.bind_some, TermBag.parts?_toItem]
  exact readBag_eq_ok_iff_isConsistent.2 ⟨⟨ofBag bag, hdisk, hraw⟩, hbag.isConsistent⟩

/-- Counts are read back from any disk that has their artifact, among them the disk of a tree that
the artifact was written to. -/
theorem readBag_writeArtifact (hbag : bag.IsObtainable) (hfits : bag.Fits) (path : String) :
    (∀ disk : Disk, disk path = .ok (ofBag bag) → readBag disk path = .ok bag) ∧
      ∀ tree tree' : FileTree, ArtifactLayout.writeArtifact tree path (ofBag bag) = .ok tree' →
        readBag tree'.disk path = .ok bag := by
  refine ⟨fun disk hdisk => readBag_ofBag hbag hfits hdisk, ?_⟩
  intro tree tree' hwrite
  refine readBag_ofBag hbag hfits ?_
  unfold ArtifactLayout.writeArtifact at hwrite
  split at hwrite
  · rename_i written hwritten
    cases hwrite
    exact FileTree.disk_write hwritten
  · cases hwrite

/-- Two documents with three terms, which are not in the order of the alphabet. -/
def wheatBag : TermBag :=
  .ofTokenLists [["wheat", "corn", "wheat"], ["barley", "corn"]]

/-- The counts of two short documents are read back from a file in a tree without files, with the
terms in their order. -/
theorem readBag_writeArtifact_wheat :
    wheatBag.IsObtainable ∧ wheatBag.Fits ∧
    wheatBag.toList = [("wheat", ⟨2, 1⟩), ("corn", ⟨2, 2⟩), ("barley", ⟨1, 1⟩)] ∧
    ∃ tree', ArtifactLayout.writeArtifact FileTree.empty "a" (ofBag wheatBag) = .ok tree' ∧
      readBag tree'.disk "a" = .ok wheatBag := by
  have hbag : wheatBag.IsObtainable := .ofTokenLists _
  have hfits : wheatBag.Fits := ⟨by decide, by decide, by decide, by decide, by decide⟩
  refine ⟨hbag, hfits, by decide, _, rfl, ?_⟩
  exact (readBag_writeArtifact hbag hfits "a").2 FileTree.empty _ rfl

end Artifact

end NewsScoring
