import NewsScoring.Proofs.TermBag.FirstOccurrence
import NewsScoring.Proofs.TfIdf.Keywords

/-!
# The heaviest terms

The keywords of a vector are its heaviest terms of positive weight (`IsHeaviest`): as many as are
asked for, or all of them, by descending weight, where terms of one weight stand in the order of
their first occurrence (`isHeaviest_topTerms`).
-/

namespace NewsScoring

namespace WeightVector

variable {α : Type} [Scalar α]

/-- The terms of positive weight, with their weights. -/
def positive (vector : WeightVector α) : List (String × α) :=
  vector.toList.filter fun entry => decide (Scalar.zero < entry.2)

/-- Whether the first of two terms is heavier, or of the same weight and earlier among the
tokens. -/
def Outranks (vector : WeightVector α) (tokens : List String) (a b : String) : Prop :=
  ∃ x y, (a, x) ∈ vector.positive ∧ (b, y) ∈ vector.positive ∧ y ≤ x ∧
    (x ≤ y → tokens.idxOf a < tokens.idxOf b)

/-- Whether terms are the heaviest of positive weight, `n` of them if there are as many. -/
structure IsHeaviest (vector : WeightVector α) (tokens : List String) (n : ℕ)
    (keywords : List String) : Prop where
  length_eq : keywords.length = min n vector.positive.length
  nodup : keywords.Nodup
  subset_positive : keywords ⊆ vector.positive.map Prod.fst
  /-- They stand by descending weight, and those of one weight in the order of the tokens. -/
  pairwise : keywords.Pairwise (vector.Outranks tokens)
  /-- All other terms of positive weight come behind them. -/
  outranks : ∀ term ∈ keywords, ∀ other ∈ vector.positive.map Prod.fst, other ∉ keywords →
    vector.Outranks tokens term other

variable {vector : WeightVector α} {tokens : List String} {n : ℕ}

theorem mem_positive_iff {entry : String × α} :
    entry ∈ vector.positive ↔ entry ∈ vector.toList ∧ Scalar.zero < entry.2 := by
  rw [positive, List.mem_filter, decide_eq_true_eq]

theorem nodup_map_fst_positive (vector : WeightVector α) : (vector.positive.map Prod.fst).Nodup :=
  vector.weights.nodup_keys.sublist (List.filter_sublist.map Prod.fst)

/-- There are keywords if one is asked for and a weight is positive. -/
theorem IsHeaviest.eq_nil_iff {keywords : List String} (h : vector.IsHeaviest tokens n keywords)
    (hn : 1 ≤ n) : keywords = [] ↔ vector.positive = [] := by
  rw [← List.length_eq_zero_iff, ← List.length_eq_zero_iff, h.length_eq]
  omega

/-- A positive weight of a vector that was made of weights is not NaN. -/
theorem IsBuilt.le_self_of_mem_positive [WeightArithmetic α] [ScoreOrder α] (h : vector.IsBuilt) :
    ∀ entry ∈ vector.positive, entry.2 ≤ entry.2 := by
  intro entry hentry
  obtain ⟨weights, hnodup, rfl⟩ := h
  obtain ⟨hlisted, -⟩ := mem_positive_iff.1 hentry
  rw [toList_ofWeights hnodup] at hlisted
  obtain ⟨source, -, rfl⟩ := List.mem_map.1 hlisted
  rcases sanitize_cases source.2 with hzero | ⟨hfinite, -⟩
  · rw [hzero]
    have hequals := WeightArithmetic.sqrt_zero (α := α)
    rw [Scalar.equals, Bool.and_eq_true, decide_eq_true_eq] at hequals
    exact ScoreOrder.le_self_of_le hequals.1
  · exact WeightArithmetic.le_self_of_isFinite hfinite

open RankedList in
/-- The keywords are the first of the ranked terms of positive weight. -/
theorem topTerms_eq_take_rankAll [ScoreOrder α] (h : ∀ entry ∈ vector.positive, entry.2 ≤ entry.2)
    (n : ℕ) : vector.topTerms n = ((rankAll vector.positive).take n).map Prod.snd := by
  have hall : (vector.positive.filter fun entry => entry.2 ≤ entry.2) = vector.positive :=
    List.filter_eq_self.2 fun entry hentry => decide_eq_true (h entry hentry)
  have hranked := topTerms_eq vector n
  rw [← positive, hall, ← map_rankAll h, ← List.map_take, List.map_map] at hranked
  exact hranked

open RankedList in
/-- Ranked terms outrank those after them. -/
theorem pairwise_outranks_rankAll [ScoreOrder α] (h : ∀ entry ∈ vector.positive, entry.2 ≤ entry.2)
    (horder : vector.weights.keys.Pairwise fun a b => tokens.idxOf a < tokens.idxOf b) :
    ((rankAll vector.positive).map Prod.snd).Pairwise (vector.Outranks tokens) := by
  have hpositive : vector.positive.Pairwise fun a b => tokens.idxOf a.1 < tokens.idxOf b.1 :=
    (List.pairwise_map.1 horder).sublist List.filter_sublist
  rw [List.pairwise_map]
  refine (pairwise_rankAll h).imp_of_mem fun {a b} ha hb hprecedes => ?_
  have hgetA := mem_rankAll.1 ha
  have hgetB := mem_rankAll.1 hb
  have hmemA := List.mem_of_getElem? hgetA
  have hmemB := List.mem_of_getElem? hgetB
  obtain ⟨hle, hsequence⟩ := (Rank.precedes_iff (h _ hmemA) (h _ hmemB)).1 hprecedes
  refine ⟨a.1.score, b.1.score, hmemA, hmemB, hle, fun hback => ?_⟩
  -- Of one weight, the term that was offered first stands first in the vector.
  obtain ⟨hltA, heqA⟩ := List.getElem?_eq_some_iff.1 hgetA
  obtain ⟨hltB, heqB⟩ := List.getElem?_eq_some_iff.1 hgetB
  have hbefore := List.pairwise_iff_getElem.1 hpositive _ _ hltA hltB (hsequence hback)
  rwa [heqA, heqB] at hbefore

open RankedList in
/-- The keywords of a vector whose terms stand in the order of tokens are its heaviest terms. -/
theorem isHeaviest_topTerms [ScoreOrder α] [WeightArithmetic α] (hv : vector.IsBuilt)
    (horder : vector.weights.keys.Pairwise fun a b => tokens.idxOf a < tokens.idxOf b) (n : ℕ) :
    vector.IsHeaviest tokens n (vector.topTerms n) := by
  have hself := hv.le_self_of_mem_positive
  have hperm := map_snd_rankAll_perm vector.positive
  have hranked := pairwise_outranks_rankAll hself horder
  have hkeywords := topTerms_eq_take_rankAll hself n
  rw [List.map_take] at hkeywords
  have hsplit := List.take_append_drop n ((rankAll vector.positive).map Prod.snd)
  rw [hkeywords]
  refine ⟨?_, ?_, ?_, ?_, ?_⟩
  · rw [List.length_take, List.length_map, length_rankAll]
  · exact (hperm.nodup_iff.2 vector.nodup_map_fst_positive).sublist (List.take_sublist _ _)
  · exact fun term hterm => hperm.mem_iff.1 (List.mem_of_mem_take hterm)
  · exact hranked.sublist (List.take_sublist _ _)
  · intro term hterm other hother hnot
    rw [← hsplit] at hranked
    have hdrop : other ∈ ((rankAll vector.positive).map Prod.snd).drop n := by
      have hmem := hperm.mem_iff.2 hother
      rw [← hsplit] at hmem
      exact (List.mem_append.1 hmem).resolve_left hnot
    exact (List.pairwise_append.1 hranked).2.2 term hterm other hdrop

end WeightVector

end NewsScoring
