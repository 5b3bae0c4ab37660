import NewsScoring.Proofs.RankedList.Consistent

/-!
# What a ranked list shows of itself

A ranked list is read in three ways: as the list of its items with their scores, as the list of its
items, and by the score of one item, for which the index is asked.  On a consistent list the three
agree (`IsConsistent.score?_eq`).  So a list to which different items were offered shows the best of
them (`best`) in each of the three ways (`addAll_shows_best`).
-/

namespace NewsScoring.RankedList

variable {κ ν : Type} [LE ν] [DecidableLE ν]

/-- The `n` best of the offers: those that are not NaN by descending score, offers of equal scores
in the order in which they were made, up to the first `n`. -/
def best (n : ℕ) (offers : List (κ × ν)) : List (κ × ν) :=
  ((offers.filter fun offer => offer.2 ≤ offer.2).mergeSort fun a b => b.2 ≤ a.2).take n

variable [DecidableEq κ] {list : RankedList κ ν}

/-- The score that the index of a consistent list has for an item is the one with which the item is
listed. -/
theorem IsConsistent.score?_eq (h : list.IsConsistent) (item : κ) :
    list.score? item = (list.toList.find? (·.1 = item)).map Prod.snd := by
  have hnodup : (list.toList.map Prod.fst).Nodup := map_fst_toList list ▸ h.nodup_keys
  cases hfind : list.index.find? item with
  | some rank =>
    have hmem : (item, rank.score) ∈ list.toList :=
      List.mem_map.2 ⟨(rank, item), h.find?_eq_some_iff.1 hfind, rfl⟩
    rw [score?, hfind, KeyedList.find?_eq_some_of_mem hnodup hmem]
    rfl
  | none =>
    have habsent : ∀ entry ∈ list.toList, ¬entry.1 = item := by
      rintro entry hmem rfl
      obtain ⟨⟨rank, other⟩, hlisted, rfl⟩ := List.mem_map.1 hmem
      rw [h.find?_eq_some_iff.2 hlisted] at hfind
      cases hfind
    rw [score?, hfind, List.find?_eq_none.2 (by simpa using habsent)]
    rfl

variable [ScoreOrder ν]

/-- A list of capacity `n` to which different items were offered, with any scores, shows the `n`
best of the offers: as its items with their scores, as its items, and by the score of each item. -/
theorem addAll_shows_best (n : ℕ) {offers : List (κ × ν)} (h : (offers.map Prod.fst).Nodup) :
    ((empty n : RankedList κ ν).addAll offers).toList = best n offers ∧
    ((empty n : RankedList κ ν).addAll offers).keys = (best n offers).map Prod.fst ∧
    ∀ item, ((empty n : RankedList κ ν).addAll offers).score? item =
      ((best n offers).find? (·.1 = item)).map Prod.snd := by
  have hlist : ((empty n : RankedList κ ν).addAll offers).toList = best n offers :=
    toList_addAll_empty n h
  have hconsistent : ((empty n : RankedList κ ν).addAll offers).IsConsistent :=
    (isConsistent_empty n).addAll offers
  refine ⟨hlist, ?_, fun item => ?_⟩
  · rw [← map_fst_toList, hlist]
  · rw [hconsistent.score?_eq, hlist]

/-- Offers of cereals, two of them with one score and one with NaN. -/
def cereals : List (String × Float) :=
  [("wheat", 0.5), ("rice", 0.0 / 0.0), ("corn", 0.5), ("rye", 0.75)]

/-- The best two of `cereals` are the one with the highest score and the earlier of the two that
follow it. -/
theorem addAll_shows_best_cereals :
    (cereals.map Prod.fst).Nodup ∧ best 2 cereals = [("rye", 0.75), ("wheat", 0.5)] ∧
    ((empty 2 : RankedList String Float).addAll cereals).score? "corn" = none := by
  have hnodup : (cereals.map Prod.fst).Nodup := by decide
  obtain ⟨hlist, -, hscore⟩ := addAll_shows_best 2 hnodup
  have hbest : best 2 cereals = [("rye", 0.75), ("wheat", 0.5)] := hlist.symm
  refine ⟨hnodup, hbest, ?_⟩
  rw [hscore, hbest]
  rfl

end NewsScoring.RankedList
