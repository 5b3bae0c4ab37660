import NewsScoring.Proofs.RankedList.Consistent

/-!
# The two containers of a ranked list

A ranked list holds its items by rank and, in its index, by item.  After any run of offers the index
is the list of ranked items turned around (`IsConsistent.entries_perm`).  A listed item keeps the
number under which it came in, whatever scores it gets later; an item that lost its place and comes in
again gets a new number (`CameIn`).  Both hold together with the order of the items
(`isWellRanked_addAll`).
-/

namespace NewsScoring.RankedList

variable {κ ν : Type} [LE ν] [DecidableLE ν] [DecidableEq κ] {list : RankedList κ ν} {item : κ}
  {score : ν}

/-! ### The index and the ranked items -/

/-- The entries of the index are those of the ranked items, turned around. -/
theorem IsConsistent.entries_perm (h : list.IsConsistent) :
    list.index.entries.Perm (list.ranked.map Prod.swap) := by
  have hentries : list.index.entries.Nodup := list.index.nodup_keys.of_map
  have hranked : (list.ranked.map Prod.swap).Nodup :=
    h.isRanking.nodup_sequences.of_map.map Prod.swap_injective
  rw [List.perm_ext_iff_of_nodup hentries hranked]
  rintro ⟨item, rank⟩
  rw [← KeyedList.find?_eq_some_iff, h.find?_eq_some_iff, List.mem_map]
  constructor
  · intro hmem
    exact ⟨(rank, item), hmem, rfl⟩
  · rintro ⟨entry, hmem, hswap⟩
    obtain rfl : entry = (rank, item) := Prod.swap_injective hswap
    exact hmem

/-- The index gives an item the score with which it is listed. -/
theorem IsConsistent.score?_eq_some_iff (h : list.IsConsistent) :
    list.score? item = some score ↔ (item, score) ∈ list.toList := by
  rw [score?, Option.map_eq_some_iff, toList, List.mem_map]
  constructor
  · rintro ⟨rank, hfind, rfl⟩
    exact ⟨(rank, item), h.find?_eq_some_iff.1 hfind, rfl⟩
  · rintro ⟨entry, hmem, hentry⟩
    obtain ⟨rfl, rfl⟩ := Prod.mk.inj hentry
    exact ⟨entry.1, h.find?_eq_some_iff.2 hmem, rfl⟩

/-! ### When items came in -/

/-- An item that is listed after an offer was listed before it under the same number, or has come in
with the offer, under the number of the items before it. -/
theorem IsConsistent.mem_ranked_add (h : list.IsConsistent) {entry : Rank ν × κ}
    (hentry : entry ∈ (list.add item score).2.ranked) :
    (∃ previous, (⟨previous, entry.1.sequence⟩, entry.2) ∈ list.ranked) ∨
      entry.2 = item ∧ item ∉ list.keys ∧ entry.1.sequence = list.arrivals := by
  have hnew (hfind : list.index.find? item = none) : item ∉ list.keys := by
    rw [h.mem_keys_iff, hfind]
    simp
  rcases add_cases list item score with
    ⟨-, hadd⟩ | ⟨-, rank, hfind, hadd⟩ | ⟨-, hfind, ⟨-, hadd⟩ | ⟨-, hadd⟩ | ⟨-, -, hadd⟩⟩ <;>
    rw [hadd] at hentry
  · exact .inl ⟨entry.1.score, hentry⟩
  · rcases mem_insertRanked.1 hentry with rfl | hkept
    · exact .inl ⟨rank.score, h.find?_eq_some_iff.1 hfind⟩
    · exact .inl ⟨entry.1.score, (removeRanked_sublist rank list.ranked).subset hkept⟩
  · exact .inl ⟨entry.1.score, hentry⟩
  · rcases mem_insertRanked.1 hentry with rfl | hkept
    · exact .inr ⟨rfl, hnew hfind, rfl⟩
    · exact .inl ⟨entry.1.score, hkept⟩
  · rcases mem_insertRanked.1 hentry with rfl | hkept
    · exact .inr ⟨rfl, hnew hfind, rfl⟩
    · exact .inl ⟨entry.1.score, List.dropLast_subset _ hkept⟩

/-- Whether a list of capacity `n` has an item under a number since the item came in: some offer found
it not listed and as many items come in before it as the number says, and it has been listed after
that offer and each later one. -/
inductive CameIn (n : ℕ) : List (κ × ν) → κ → ℕ → Prop where
  | enter {offers : List (κ × ν)} {item : κ} {score : ν}
    (hbefore : item ∉ ((empty n : RankedList κ ν).addAll offers).keys)
    (hafter : item ∈ ((empty n : RankedList κ ν).addAll (offers ++ [(item, score)])).keys) :
    CameIn n (offers ++ [(item, score)]) item ((empty n : RankedList κ ν).addAll offers).arrivals
  | stay {offers : List (κ × ν)} {offer : κ × ν} {item : κ} {sequence : ℕ}
    (h : CameIn n offers item sequence)
    (hafter : item ∈ ((empty n : RankedList κ ν).addAll (offers ++ [offer])).keys) :
    CameIn n (offers ++ [offer]) item sequence

variable [ScoreOrder ν]

/-- Each item is listed under the number under which it came in, by induction on the offers. -/
theorem cameIn_of_mem_ranked {n : ℕ} {offers : List (κ × ν)} {entry : Rank ν × κ}
    (hentry : entry ∈ ((empty n : RankedList κ ν).addAll offers).ranked) :
    CameIn n offers entry.2 entry.1.sequence := by
  induction offers using List.reverseRecOn generalizing entry with
  | nil => cases hentry
  | append_singleton offers offer ih =>
    have hconsistent : ((empty n : RankedList κ ν).addAll offers).IsConsistent :=
      (isConsistent_empty n).addAll offers
    have hlisted : entry.2 ∈ ((empty n : RankedList κ ν).addAll (offers ++ [offer])).keys :=
      List.mem_map_of_mem hentry
    rw [addAll_concat] at hentry
    rcases hconsistent.mem_ranked_add hentry with
      ⟨previous, hprevious⟩ | ⟨hitem, hnew, hsequence⟩
    · have hsince := ih hprevious
      exact hsince.stay hlisted
    · obtain ⟨item, score⟩ := offer
      rw [hitem] at hlisted
      rw [hitem, hsequence]
      exact .enter hnew hlisted

/-! ### After any run of offers -/

/-- What a run of offers makes of a list of capacity `n`. -/
structure IsWellRanked (n : ℕ) (offers : List (κ × ν)) (list : RankedList κ ν) : Prop where
  /-- The index has exactly the ranked items, each under its rank. -/
  find?_eq_some_iff : ∀ item rank,
    list.index.find? item = some rank ↔ (rank, item) ∈ list.ranked
  eq_of_ties : ∀ a ∈ list.ranked, ∀ b ∈ list.ranked, a.1.ties b.1 = true → a = b
  length_ranked_le : list.ranked.length ≤ n
  size_index : list.index.size = list.ranked.length
  /-- No score is NaN. -/
  le_self : ∀ entry ∈ list.ranked, entry.1.score ≤ entry.1.score
  nodup_sequences : (list.ranked.map fun entry => entry.1.sequence).Nodup
  sequence_lt : ∀ entry ∈ list.ranked, entry.1.sequence < list.arrivals
  nodup_keys : list.keys.Nodup
  /-- An item has the same score in both containers. -/
  score?_eq_some_iff : ∀ item score,
    list.score? item = some score ↔ (item, score) ∈ list.toList
  /-- Items stand by descending score, those of equal scores by their numbers. -/
  pairwise_score : list.ranked.Pairwise fun a b => b.1.score ≤ a.1.score ∧
    (a.1.score ≤ b.1.score → a.1.sequence < b.1.sequence)
  /-- The number of an item is the one under which it came in. -/
  cameIn : ∀ entry ∈ list.ranked, CameIn n offers entry.2 entry.1.sequence

/-- After any run of offers, the index and the ranked items of a list are inverse to each other and
no more than the list has room for, no score is NaN, and no two items came in under one number. -/
theorem isWellRanked_addAll (n : ℕ) (offers : List (κ × ν)) :
    IsWellRanked n offers ((empty n).addAll offers) := by
  have h : ((empty n : RankedList κ ν).addAll offers).IsConsistent :=
    (isConsistent_empty n).addAll offers
  have hcapacity : ((empty n : RankedList κ ν).addAll offers).capacity = n :=
    capacity_addAll _ offers
  have hlength := h.entries_perm.length_eq
  rw [List.length_map] at hlength
  exact {
    find?_eq_some_iff := fun item rank => h.find?_eq_some_iff
    eq_of_ties := fun a ha b hb hties => (h.isRanking.ties_iff ha hb).1 hties
    length_ranked_le := h.length_le.trans_eq hcapacity
    size_index := hlength
    le_self := h.isRanking.le_self
    nodup_sequences := h.isRanking.nodup_sequences
    sequence_lt := h.isRanking.sequence_lt
    nodup_keys := h.nodup_keys
    score?_eq_some_iff := fun item score => h.score?_eq_some_iff
    pairwise_score := h.isRanking.pairwise_score
    cameIn := fun entry hentry => cameIn_of_mem_ranked hentry }

/-- Offers of cereals: wheat loses its place to corn and takes that of rice when it comes in again,
an offer with NaN is passed over, and the score of corn falls. -/
def sowing : List (String × Float) :=
  [("wheat", 0.25), ("rice", 0.5), ("corn", 0.75), ("rice", 0.0 / 0.0), ("wheat", 0.625),
    ("corn", 0.5)]

/-- After `sowing`, wheat is listed under the number under which it came in the second time. -/
theorem isWellRanked_addAll_sowing :
    ((empty 2 : RankedList String Float).addAll sowing).toList = [("wheat", 0.625), ("corn", 0.5)] ∧
    ((empty 2 : RankedList String Float).addAll sowing).score? "wheat" = some 0.625 ∧
    CameIn 2 sowing "wheat" 3 := by
  have h := isWellRanked_addAll 2 sowing
  have hlist : ((empty 2 : RankedList String Float).addAll sowing).toList =
      [("wheat", 0.625), ("corn", 0.5)] := by
    decide +kernel
  have hranked : ((empty 2 : RankedList String Float).addAll sowing).ranked =
      [(⟨0.625, 3⟩, "wheat"), (⟨0.5, 2⟩, "corn")] := by
    rfl
  have hentry : (⟨0.625, 3⟩, "wheat") ∈
      ((empty 2 : RankedList String Float).addAll sowing).ranked := by
    rw [hranked]
    exact List.mem_cons_self
  refine ⟨hlist, ?_, h.cameIn _ hentry⟩
  rw [h.score?_eq_some_iff, hlist]
  exact List.mem_cons_self

end NewsScoring.RankedList
