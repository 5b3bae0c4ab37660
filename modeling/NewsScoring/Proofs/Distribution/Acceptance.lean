import Mathlib.Data.List.Chain
import NewsScoring.Distribution
import NewsScoring.Proofs.Scalar.Order

/-!
# Accepted checkpoints

Stored checkpoints are accepted if no neighbours are out of order and each of them is sound by
itself (`ofCheckpoints_eq_ok_iff`).  Neighbours are compared by `<`, which fails on NaN; but sound
checkpoints have finite values, and among these the order is transitive.  So all checkpoints are in
order, not just neighbours (`AreWellFormed`), exactly if they are accepted, and a refusal names a
defect that they have (`HasDefect`).
-/

namespace NewsScoring.Distribution

open Scalar

variable {α : Type} [Scalar α] {n : ℕ} {checkpoints : List (Checkpoint α)} {d : Distribution α}
  {a b : Checkpoint α}

/-- Whether percentiles ascend up to 100, and values are finite and never descend. -/
structure AreWellFormed (checkpoints : List (Checkpoint α)) : Prop where
  percentile_lt : checkpoints.Pairwise fun a b => a.percentile < b.percentile
  percentile_le : ∀ c ∈ checkpoints, c.percentile ≤ 100
  value_le : checkpoints.Pairwise fun a b => a.value ≤ b.value
  isFinite_value : ∀ c ∈ checkpoints, isFinite c.value = true

/-- The defects of checkpoints: the percentiles or the values of two neighbours are out of order, or
a checkpoint lies above percentile 100 or has a value that is not finite. -/
inductive HasDefect (checkpoints : List (Checkpoint α)) : Defect α → Prop where
  | percentileOrder {a b : Checkpoint α} (hpair : [a, b] <:+: checkpoints)
    (h : b.percentile ≤ a.percentile) :
    HasDefect checkpoints (.percentileOrder a.percentile b.percentile)
  | valueOrder {a b : Checkpoint α} (hpair : [a, b] <:+: checkpoints) (h : b.value < a.value) :
    HasDefect checkpoints (.valueOrder a b)
  | badCheckpoint {c : Checkpoint α} (hmem : c ∈ checkpoints)
    (h : 100 < c.percentile ∨ isFinite c.value = false) : HasDefect checkpoints (.badCheckpoint c)

/-! ### Acceptance -/

theorem isSound_iff {c : Checkpoint α} :
    isSound c = true ↔ c.percentile ≤ 100 ∧ isFinite c.value = true := by
  rw [isSound, Bool.and_eq_true, decide_eq_true_eq]

theorem ofCheckpoints_eq_ok_iff :
    ofCheckpoints n checkpoints = .ok d ↔
      orderDefect? checkpoints = none ∧ (∀ c ∈ checkpoints, isSound c = true) ∧
        ⟨n, checkpoints⟩ = d := by
  have hdefect : defect? checkpoints = none ↔
      orderDefect? checkpoints = none ∧ ∀ c ∈ checkpoints, isSound c = true := by
    simp [defect?, Option.or_eq_none_iff]
  rw [← and_assoc, ← hdefect, ofCheckpoints]
  cases defect? checkpoints <;> simp

theorem pairDefect?_eq_none_iff :
    pairDefect? a b = none ↔ a.percentile < b.percentile ∧ ¬b.value < a.value := by
  unfold pairDefect?
  split
  · rename_i hpercentile
    simp [Nat.not_lt.2 hpercentile]
  · rename_i hpercentile
    simp [Nat.lt_of_not_le hpercentile]

/-- No pair of neighbours has a defect where all neighbours are in order. -/
theorem orderDefect?_eq_none_iff :
    orderDefect? checkpoints = none ↔
      checkpoints.IsChain fun a b => a.percentile < b.percentile ∧ ¬b.value < a.value := by
  induction checkpoints with
  | nil => exact ⟨fun _ => .nil, fun _ => rfl⟩
  | cons a rest ih =>
    cases rest with
    | nil => exact ⟨fun _ => .singleton a, fun _ => rfl⟩
    | cons b rest =>
      rw [orderDefect?, Option.or_eq_none_iff, pairDefect?_eq_none_iff, ih, List.isChain_cons_cons]

/-! ### Defects -/

theorem hasDefect_of_pairDefect? {defect : Defect α} (h : pairDefect? a b = some defect)
    (hpair : [a, b] <:+: checkpoints) : HasDefect checkpoints defect := by
  unfold pairDefect? at h
  split at h
  · rename_i hpercentile
    cases h
    exact .percentileOrder hpair hpercentile
  · split at h
    · rename_i hvalue
      cases h
      exact .valueOrder hpair hvalue
    · cases h

theorem hasDefect_of_orderDefect? {checkpoints part : List (Checkpoint α)} {defect : Defect α}
    (h : orderDefect? part = some defect) (hpart : part <:+ checkpoints) :
    HasDefect checkpoints defect := by
  -- The induction is on the checkpoints that are still to be looked at, the last ones of all.
  induction part with
  | nil => cases h
  | cons a rest ih =>
    cases rest with
    | nil => cases h
    | cons b rest =>
      have hpair : [a, b] <:+: checkpoints :=
        List.IsInfix.trans ⟨[], rest, rfl⟩ hpart.isInfix
      rw [orderDefect?, Option.or_eq_some_iff] at h
      rcases h with h | ⟨-, h⟩
      · exact hasDefect_of_pairDefect? h hpair
      · exact ih h ((List.suffix_cons a _).trans hpart)

/-- Checkpoints are refused for a defect that they have. -/
theorem hasDefect_of_ofCheckpoints_eq_error {defect : Defect α}
    (h : ofCheckpoints n checkpoints = .error defect) : HasDefect checkpoints defect := by
  unfold ofCheckpoints at h
  split at h
  · rename_i found hfound
    cases h
    rw [defect?, Option.or_eq_some_iff] at hfound
    rcases hfound with horder | ⟨-, hbad⟩
    · exact hasDefect_of_orderDefect? horder List.suffix_rfl
    · obtain ⟨c, hc, rfl⟩ := Option.map_eq_some_iff.1 hbad
      refine .badCheckpoint (List.mem_of_find?_eq_some hc) ?_
      have hunsound : ¬isSound c = true := by simpa using List.find?_some hc
      rw [isSound_iff, not_and_or, Nat.not_le, Bool.not_eq_true] at hunsound
      exact hunsound
  · cases h

/-! ### The order of all checkpoints -/

section

variable [FiniteOrder α]

/-- Checkpoints are well-formed if neighbours are in order and each is sound. -/
theorem areWellFormed_iff :
    AreWellFormed checkpoints ↔
      orderDefect? checkpoints = none ∧ ∀ c ∈ checkpoints, isSound c = true := by
  rw [orderDefect?_eq_none_iff]
  constructor
  · intro h
    refine ⟨?_, fun c hc => isSound_iff.2 ⟨h.percentile_le c hc, h.isFinite_value c hc⟩⟩
    refine ((h.percentile_lt.and h.value_le).imp_of_mem ?_).isChain
    intro a b ha hb hab
    refine ⟨hab.1, ?_⟩
    rw [FiniteOrder.not_lt_iff_le (h.isFinite_value a ha) (h.isFinite_value b hb)]
    exact hab.2
  · rintro ⟨hchain, hsound⟩
    have hfinite : ∀ c ∈ checkpoints, isFinite c.value = true :=
      fun c hc => (isSound_iff.1 (hsound c hc)).2
    have hpairwise : checkpoints.Pairwise fun a b =>
        a.percentile < b.percentile ∧ a.value ≤ b.value := by
      -- Neighbours are in order, and this order is transitive.
      have : IsTrans (Checkpoint α) fun a b => a.percentile < b.percentile ∧ a.value ≤ b.value :=
        ⟨fun a b c hab hbc => ⟨hab.1.trans hbc.1, ScoreOrder.le_trans hab.2 hbc.2⟩⟩
      refine List.isChain_iff_pairwise.1 (hchain.imp_of_mem_imp fun a b ha hb hab => ?_)
      exact ⟨hab.1, (FiniteOrder.not_lt_iff_le (hfinite a ha) (hfinite b hb)).1 hab.2⟩
    exact ⟨hpairwise.imp fun h => h.1, fun c hc => (isSound_iff.1 (hsound c hc)).1,
      hpairwise.imp fun h => h.2, hfinite⟩

/-- Checkpoints are accepted, and kept as they are, if they are well-formed. -/
theorem ofCheckpoints_eq_ok_iff_areWellFormed :
    ofCheckpoints n checkpoints = .ok d ↔ AreWellFormed checkpoints ∧ ⟨n, checkpoints⟩ = d := by
  rw [areWellFormed_iff, ofCheckpoints_eq_ok_iff, and_assoc]

end

/-- Stored checkpoints with floating-point values, whatever they are, are accepted exactly if the
percentiles ascend up to 100 and the values are finite and never descend.  What is accepted is kept
as it is, and what is refused has the defect that is named. -/
theorem ofCheckpoints_accepts_wellFormed (n : ℕ) (checkpoints : List (Checkpoint Float)) :
    ((∃ d, ofCheckpoints n checkpoints = .ok d) ↔ AreWellFormed checkpoints) ∧
    (∀ d, ofCheckpoints n checkpoints = .ok d →
      d.sampleCount = n ∧ d.checkpoints = checkpoints) ∧
    ∀ defect, ofCheckpoints n checkpoints = .error defect → HasDefect checkpoints defect := by
  have haccepted : ∀ d, ofCheckpoints n checkpoints = .ok d ↔
      AreWellFormed checkpoints ∧ ⟨n, checkpoints⟩ = d :=
    fun d => ofCheckpoints_eq_ok_iff_areWellFormed
  refine ⟨?_, ?_, fun defect => hasDefect_of_ofCheckpoints_eq_error⟩
  · simp only [haccepted, exists_and_left, exists_eq', and_true]
  · intro d hd
    obtain ⟨-, rfl⟩ := (haccepted d).1 hd
    exact ⟨rfl, rfl⟩

/-- Both zeros are in order, whichever comes first. -/
def evenCheckpoints : List (Checkpoint Float) :=
  [⟨0, 0.0, 1⟩, ⟨50, -0.0, 2⟩, ⟨100, 0.25, 3⟩]

/-- NaN stands between two values that are out of order, and is neither above nor below them. -/
def hidingCheckpoints : List (Checkpoint Float) :=
  [⟨0, 0.5, 1⟩, ⟨50, 0.0 / 0.0, 2⟩, ⟨100, 0.25, 3⟩]

theorem areWellFormed_evenCheckpoints : AreWellFormed evenCheckpoints :=
  ⟨by decide +kernel, by decide +kernel, by decide +kernel, by decide +kernel⟩

/-- Checkpoints with both zeros are accepted; those in which NaN hides the order of the values are
refused for it. -/
theorem ofCheckpoints_accepts_wellFormed_evenCheckpoints :
    (∃ d, ofCheckpoints 3 evenCheckpoints = .ok d ∧
      d.sampleCount = 3 ∧ d.checkpoints = evenCheckpoints) ∧
    ofCheckpoints 3 hidingCheckpoints = .error (.badCheckpoint ⟨50, 0.0 / 0.0, 2⟩) ∧
    HasDefect hidingCheckpoints (.badCheckpoint ⟨50, 0.0 / 0.0, 2⟩) := by
  obtain ⟨d, hd⟩ :=
    (ofCheckpoints_accepts_wellFormed 3 evenCheckpoints).1.2 areWellFormed_evenCheckpoints
  have hrefused : ofCheckpoints 3 hidingCheckpoints =
      .error (.badCheckpoint ⟨50, 0.0 / 0.0, 2⟩) := rfl
  refine ⟨⟨d, hd, ?_⟩, hrefused, ?_⟩
  · exact (ofCheckpoints_accepts_wellFormed 3 evenCheckpoints).2.1 d hd
  · exact (ofCheckpoints_accepts_wellFormed 3 hidingCheckpoints).2.2 _ hrefused

end NewsScoring.Distribution
