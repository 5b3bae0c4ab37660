import NewsScoring.Artifact
import NewsScoring.Proofs.Distribution.Acceptance
import NewsScoring.Proofs.Outcome
import NewsScoring.Proofs.TermBag.Consistency

/-!
# What is read from an artifact

Counted terms are read from an artifact if it is a compressed file, its item has parts of counted
terms, and these are consistent (`readBag_eq_ok_iff_isConsistent`); in the same way a distribution
is read if its checkpoints are well-formed (`readDistribution_eq_ok_iff_areWellFormed`).  What is
read depends on the contents of the one file (`readBag_congr`, `readDistribution_congr`).
-/

namespace NewsScoring.Artifact

variable {disk disk' : Disk} {path : String}

theorem read_eq_ok_iff {β : Type} {ofItem? : Cbor.Item Float → Option β} {value : β} :
    read disk path ofItem? = .ok value ↔
      ∃ content, disk path = .ok content ∧ (item? content).bind ofItem? = some value := by
  unfold read
  split
  · rename_i hmissing
    rw [hmissing]
    constructor
    · rintro ⟨⟩
    · rintro ⟨_, ⟨⟩, -⟩
  · rename_i hunreachable
    rw [hunreachable]
    constructor
    · rintro ⟨⟩
    · rintro ⟨_, ⟨⟩, -⟩
  · rename_i content hcontent
    simp only [hcontent, Except.ok.injEq, exists_eq_left']
    cases (item? content).bind ofItem? <;> simp

theorem readBag_eq_ok_iff {bag : TermBag} :
    readBag disk path = .ok bag ↔
      ∃ raw, (∃ content, disk path = .ok content ∧
        (item? content).bind TermBag.parts? = some raw) ∧
          TermBag.ofParts raw.1 raw.2 = .ok bag := by
  rw [readBag, bind_eq_ok_iff]
  simp only [read_eq_ok_iff]
  refine exists_congr fun raw => and_congr_right fun _ => ?_
  cases TermBag.ofParts raw.1 raw.2 <;>
    simp [pure, Except.pure, throw, throwThe, MonadExceptOf.throw]

theorem readDistribution_eq_ok_iff {distribution : Distribution Float} :
    readDistribution disk path = .ok distribution ↔
      ∃ raw, (∃ content, disk path = .ok content ∧
        (item? content).bind Distribution.parts? = some raw) ∧
          Distribution.ofCheckpoints raw.1 raw.2 = .ok distribution := by
  rw [readDistribution, bind_eq_ok_iff]
  simp only [read_eq_ok_iff]
  refine exists_congr fun raw => and_congr_right fun _ => ?_
  cases Distribution.ofCheckpoints raw.1 raw.2 <;>
    simp [pure, Except.pure, throw, throwThe, MonadExceptOf.throw]

/-- Counts are read exactly if their parts are in the file and they are consistent. -/
theorem readBag_eq_ok_iff_isConsistent {bag : TermBag} :
    readBag disk path = .ok bag ↔
      (∃ content, disk path = .ok content ∧
        (item? content).bind TermBag.parts? = some (bag.documentCount, bag.toList)) ∧
          bag.IsConsistent := by
  rw [readBag_eq_ok_iff]
  simp only [TermBag.ofParts_eq_ok_iff]
  constructor
  · rintro ⟨⟨_, _⟩, hfile, hconsistent, rfl, rfl⟩
    exact ⟨hfile, hconsistent⟩
  · rintro ⟨hfile, hconsistent⟩
    exact ⟨_, hfile, hconsistent, rfl, rfl⟩

/-- A distribution is read exactly if its parts are in the file and its checkpoints are
well-formed. -/
theorem readDistribution_eq_ok_iff_areWellFormed {distribution : Distribution Float} :
    readDistribution disk path = .ok distribution ↔
      (∃ content, disk path = .ok content ∧ (item? content).bind Distribution.parts? =
        some (distribution.sampleCount, distribution.checkpoints)) ∧
          Distribution.AreWellFormed distribution.checkpoints := by
  rw [readDistribution_eq_ok_iff]
  simp only [Distribution.ofCheckpoints_eq_ok_iff_areWellFormed]
  constructor
  · rintro ⟨⟨_, _⟩, hfile, hwell, rfl⟩
    exact ⟨hfile, hwell⟩
  · rintro ⟨hfile, hwell⟩
    exact ⟨_, hfile, hwell, rfl⟩

theorem readBag_congr (h : ∀ content, disk path = .ok content ↔ disk' path = .ok content)
    {bag : TermBag} : readBag disk path = .ok bag ↔ readBag disk' path = .ok bag := by
  simp only [readBag_eq_ok_iff, h]

theorem readDistribution_congr (h : ∀ content, disk path = .ok content ↔ disk' path = .ok content)
    {distribution : Distribution Float} :
    readDistribution disk path = .ok distribution ↔
      readDistribution disk' path = .ok distribution := by
  simp only [readDistribution_eq_ok_iff, h]

end NewsScoring.Artifact
