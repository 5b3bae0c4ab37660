import NewsScoring.Proofs.KeyedList.Latest
import NewsScoring.Proofs.RankedList.Consistent

/-!
# Ranked lists with room for all offers

A list of at least as many places as offers never drops an item.  It has each offered item with its
latest score, by descending score, and items of equal scores in the order in which they were offered
first: the items as a `KeyedList` of the offers has them, numbered in its order (`Lists`).
-/

namespace NewsScoring.RankedList

variable {κ ν : Type} [LE ν] [DecidableLE ν] [DecidableEq κ] [ScoreOrder ν]
  {l : KeyedList κ ν} {list : RankedList κ ν}

/-- Whether a list has the items of `l` with their scores, each with its place in `l` as its
number. -/
structure Lists (l : KeyedList κ ν) (list : RankedList κ ν) : Prop where
  isConsistent : list.IsConsistent
  arrivals_eq : list.arrivals = l.size
  mem_ranked : ∀ {entry}, entry ∈ list.ranked ↔
    l.entries[entry.1.sequence]? = some (entry.2, entry.1.score)

omit [ScoreOrder ν] in
theorem lists_empty (capacity : ℕ) : Lists .empty (empty capacity : RankedList κ ν) where
  isConsistent := isConsistent_empty capacity
  arrivals_eq := rfl
  mem_ranked := by simp [empty, KeyedList.empty]

/-- An offer puts an item into the list as it is put into `l`: a new one at the end, a listed one
where it stands. -/
theorem Lists.add (h : list.Lists l) {item : κ} {score : ν} (hscore : score ≤ score)
    (hroom : l.size < list.capacity) : Lists (l.put item score) (list.add item score).2 := by
  have hconsistent := h.isConsistent.add item score
  have hlength : list.ranked.length < list.capacity := by
    have hle := h.isConsistent.isRanking.length_le
    rw [h.arrivals_eq] at hle
    omega
  rcases add_cases list item score with
    ⟨hnot, -⟩ | ⟨-, rank, hfind, hadd⟩ | ⟨-, hfind, ⟨hadmits, -⟩ | ⟨-, hadd⟩ | ⟨-, hfull, -⟩⟩
  · exact absurd hscore hnot
  · -- The item is listed, and stands in `l` at its number.
    have hmem : (rank, item) ∈ list.ranked := h.isConsistent.find?_eq_some_iff.1 hfind
    have hget : l.entries[rank.sequence]? = some (item, rank.score) := h.mem_ranked.1 hmem
    have hkey : item ∈ l.keys := List.mem_map.2 ⟨_, List.mem_of_getElem? hget, rfl⟩
    refine ⟨hconsistent, ?_, fun {entry} => ?_⟩
    · rw [hadd, KeyedList.size_put, if_pos hkey, ← h.arrivals_eq]
      rfl
    · rw [hadd]
      show entry ∈ insertRanked _ item (removeRanked rank list.ranked) ↔
        (KeyedList.putEntry item score l.entries)[entry.1.sequence]? = _
      rw [mem_insertRanked, h.isConsistent.isRanking.mem_removeRanked hmem,
        KeyedList.getElem?_putEntry l.nodup_keys hget]
      obtain ⟨⟨other, sequence⟩, key⟩ := entry
      by_cases hsequence : sequence = rank.sequence
      · simp [hsequence, and_comm, eq_comm]
      · rw [if_neg hsequence, h.mem_ranked]
        simp [hsequence]
  · rw [admits, if_pos hlength] at hadmits
    cases hadmits
  · -- The item is new, and comes in at the end of `l`.
    have hkey : item ∉ l.keys := by
      intro hmem
      obtain ⟨⟨key, old⟩, hentry, rfl⟩ := List.mem_map.1 hmem
      obtain ⟨sequence, hget⟩ := List.mem_iff_getElem?.1 hentry
      have hlisted : (⟨old, sequence⟩, key) ∈ list.ranked := h.mem_ranked.2 hget
      rw [h.isConsistent.find?_eq_some_iff.2 hlisted] at hfind
      cases hfind
    refine ⟨hconsistent, ?_, fun {entry} => ?_⟩
    · rw [hadd, KeyedList.size_put, if_neg hkey, ← h.arrivals_eq]
      rfl
    · rw [hadd]
      show entry ∈ insertRanked _ item list.ranked ↔
        (KeyedList.putEntry item score l.entries)[entry.1.sequence]? = _
      rw [mem_insertRanked, h.mem_ranked, KeyedList.putEntry_of_notMem hkey, h.arrivals_eq]
      obtain ⟨⟨other, sequence⟩, key⟩ := entry
      rw [KeyedList.getElem?_concat_eq_some_iff, Prod.mk.injEq, Prod.mk.injEq, Rank.mk.injEq]
      show (other = score ∧ sequence = l.entries.length) ∧ key = item ∨ _ ↔ _
      tauto
  · exact absurd hlength hfull

theorem Lists.addAll (h : list.Lists l) {offers : List (κ × ν)}
    (hoffers : ∀ offer ∈ offers, offer.2 ≤ offer.2)
    (hroom : l.size + offers.length ≤ list.capacity) :
    Lists (offers.foldl (fun l offer => l.put offer.1 offer.2) l) (list.addAll offers) := by
  -- The list has room as long as the items of `l` and the offers still to come fit in.
  induction offers generalizing l list with
  | nil => exact h
  | cons offer rest ih =>
    rw [List.length_cons] at hroom
    have hadd : Lists (l.put offer.1 offer.2) (list.add offer.1 offer.2).2 :=
      h.add (hoffers offer List.mem_cons_self) (by omega)
    refine ih hadd (fun other hother => hoffers other (List.mem_cons_of_mem _ hother)) ?_
    show (l.put offer.1 offer.2).size + rest.length ≤ _
    rw [capacity_add, KeyedList.size_put]
    split <;> omega

/-! ### The items of a list with room -/

variable {offers : List (κ × ν)} {capacity : ℕ}

theorem lists_addAll_empty (hoffers : ∀ offer ∈ offers, offer.2 ≤ offer.2)
    (hroom : offers.length ≤ capacity) :
    Lists (KeyedList.ofList offers) ((empty capacity : RankedList κ ν).addAll offers) :=
  (lists_empty capacity).addAll hoffers
    (by simpa [KeyedList.size, KeyedList.empty, empty] using hroom)

omit [ScoreOrder ν] in
theorem Lists.mem_toList (h : list.Lists l) {item : κ} {score : ν} :
    (item, score) ∈ list.toList ↔ l.find? item = some score := by
  rw [KeyedList.find?_eq_some_iff]
  constructor
  · intro hmem
    obtain ⟨entry, hentry, heq⟩ := List.mem_map.1 hmem
    rw [← heq]
    exact List.mem_of_getElem? (h.mem_ranked.1 hentry)
  · intro hmem
    obtain ⟨sequence, hget⟩ := List.mem_iff_getElem?.1 hmem
    exact List.mem_map.2 ⟨(⟨score, sequence⟩, item), h.mem_ranked.2 hget, rfl⟩

omit [ScoreOrder ν] in
theorem Lists.mem_map_fst_toList (h : list.Lists l) {item : κ} :
    item ∈ list.toList.map Prod.fst ↔ item ∈ l.keys := by
  rw [KeyedList.keys, List.mem_map, List.mem_map]
  constructor
  · rintro ⟨⟨key, score⟩, hmem, rfl⟩
    exact ⟨(key, score), KeyedList.find?_eq_some_iff.1 (h.mem_toList.1 hmem), rfl⟩
  · rintro ⟨⟨key, score⟩, hmem, rfl⟩
    exact ⟨(key, score), h.mem_toList.2 (KeyedList.find?_eq_some_iff.2 hmem), rfl⟩

/-- Of two listed items, the first has no lower score, and of two of one score the first was offered
before all offers of the second. -/
theorem pairwise_toList (hoffers : ∀ offer ∈ offers, offer.2 ≤ offer.2)
    (hroom : offers.length ≤ capacity) :
    ((empty capacity : RankedList κ ν).addAll offers).toList.Pairwise fun a b =>
      b.2 ≤ a.2 ∧ (a.2 ≤ b.2 → ∃ before score after,
        offers = before ++ (a.1, score) :: after ∧ b.1 ∉ before.map Prod.fst) := by
  have hlists := lists_addAll_empty hoffers hroom
  rw [toList, List.pairwise_map]
  apply hlists.isConsistent.isRanking.pairwise_score.imp_of_mem
  rintro a b ha hb ⟨hle, hsequence⟩
  refine ⟨hle, fun htie => KeyedList.exists_entry_before (hsequence htie) ?_ ?_⟩
  · rw [KeyedList.keys, List.getElem?_map, hlists.mem_ranked.1 ha]
    rfl
  · rw [KeyedList.keys, List.getElem?_map, hlists.mem_ranked.1 hb]
    rfl

end NewsScoring.RankedList
