import Mathlib.Data.List.Dedup
import NewsScoring.Proofs.KeyedList.Latest
import NewsScoring.Proofs.RankedList.Consistent

/-!
# Items that are offered again, never for less

An item may be offered again, whether it is still listed, was rejected, or lost its place to another
item in between.  As long as no item is offered for less than at its offer before (`IsRising`), a
list of capacity `n` has the `n` best of all items by their latest scores
(`addAll_lists_latest_best`): an item that is left out has no higher score than any that is listed.

What carries the proof is that an item is left out of a full list only (`IsTopBy`).  A listed item
that gets a higher score stays above all that are left out.  With a lower score it could fall below
one of them, which the list does not know any more.
-/

namespace NewsScoring.RankedList

variable {κ ν : Type} [LE ν] [DecidableLE ν] [DecidableEq κ]

/-- The score of an item at its latest offer. -/
def latest? (offers : List (κ × ν)) (item : κ) : Option ν :=
  (KeyedList.ofList offers).find? item

/-- A run of offers, none of them with NaN, in which no item is offered for less than at its offer
before. -/
inductive IsRising : List (κ × ν) → Prop where
  | nil : IsRising []
  | concat {offers : List (κ × ν)} {item : κ} {score : ν} (h : IsRising offers)
    (hscore : score ≤ score)
    (hprevious : ∀ previous ∈ latest? offers item, previous ≤ score) :
    IsRising (offers ++ [(item, score)])

/-! ### Latest scores -/

section

variable {offers : List (κ × ν)} {item other : κ} {score : ν}

omit [LE ν] [DecidableLE ν] in
theorem latest?_concat :
    latest? (offers ++ [(item, score)]) other =
      if other = item then some score else latest? offers other := by
  unfold latest?
  rw [KeyedList.ofList_concat, KeyedList.find?_put]

omit [LE ν] [DecidableLE ν] in
theorem exists_latest?_eq_some_iff :
    (∃ score, latest? offers item = some score) ↔ item ∈ offers.map Prod.fst := by
  unfold latest?
  rw [← KeyedList.mem_keys_ofList, ← KeyedList.contains_iff_mem_keys, KeyedList.contains,
    Option.isSome_iff_exists]

end

/-! ### The lowest item -/

section

variable [ScoreOrder ν] {list : RankedList κ ν} {rank : Rank ν} {lowest : Rank ν × κ}

omit [DecidableEq κ] in
/-- No item of a ranking has a lower score than the last. -/
theorem IsRanking.lowest_le {arrivals : ℕ} {ranked : List (Rank ν × κ)}
    (h : IsRanking arrivals ranked) (hlast : ranked.getLast? = some lowest) :
    ∀ entry ∈ ranked, lowest.1.score ≤ entry.1.score := by
  intro entry hentry
  have hlowest : lowest ∈ ranked := List.mem_of_getLast? hlast
  obtain ⟨before, rfl⟩ := List.getLast?_eq_some_iff.1 hlast
  rcases List.mem_append.1 hentry with hbefore | hsame
  · have hprecedes : entry.1.precedes lowest.1 = true :=
      (List.pairwise_append.1 h.pairwise).2.2 entry hbefore lowest (List.mem_singleton_self _)
    exact ((Rank.precedes_iff (h.le_self _ hentry) (h.le_self _ hlowest)).1 hprecedes).1
  · rw [List.mem_singleton.1 hsame]
    exact h.le_self _ hlowest

/-- A list that rejects an item is full, and the item has no higher score than any that is
listed. -/
theorem IsConsistent.of_admits_eq_false (h : list.IsConsistent) (hscore : rank.score ≤ rank.score)
    (hsequence : ∀ entry ∈ list.ranked, entry.1.sequence ≠ rank.sequence)
    (hadmits : list.admits rank = false) :
    list.ranked.length = list.capacity ∧ ∀ entry ∈ list.ranked, rank.score ≤ entry.1.score := by
  have hle := h.length_le
  unfold admits at hadmits
  split at hadmits
  · cases hadmits
  · rename_i hfull
    refine ⟨by omega, ?_⟩
    cases hlast : list.ranked.getLast? with
    | none =>
      have hempty : list.ranked = [] := List.getLast?_eq_none_iff.1 hlast
      simp [hempty]
    | some lowest =>
      have hmem : lowest ∈ list.ranked := List.mem_of_getLast? hlast
      have hpos : 0 < list.ranked.length := List.length_pos_of_mem hmem
      have hcapacity : decide (0 < list.capacity) = true := decide_eq_true (by omega)
      simp only [hlast, hcapacity, Bool.true_and] at hadmits
      -- The last item precedes the rejected one, and so has no lower score.
      have hself : lowest.1.score ≤ lowest.1.score := h.isRanking.le_self lowest hmem
      have hprecedes : lowest.1.precedes rank = true := by
        apply (Rank.precedes_or_precedes hself hscore (hsequence lowest hmem)).resolve_right
        rw [hadmits]
        exact Bool.false_ne_true
      have hlow : rank.score ≤ lowest.1.score :=
        ((Rank.precedes_iff hself hscore).1 hprecedes).1
      intro entry hentry
      exact ScoreOrder.le_trans hlow (h.isRanking.lowest_le hlast entry hentry)

/-- A full list that admits an item has a last one, and the item has no lower score than that. -/
theorem IsConsistent.exists_lowest_of_admits (h : list.IsConsistent)
    (hscore : rank.score ≤ rank.score) (hadmits : list.admits rank = true)
    (hfull : ¬list.ranked.length < list.capacity) :
    ∃ lowest, list.ranked.getLast? = some lowest ∧ lowest.1.score ≤ rank.score := by
  unfold admits at hadmits
  rw [if_neg hfull] at hadmits
  cases hlast : list.ranked.getLast? with
  | none =>
    rw [hlast] at hadmits
    cases hadmits
  | some lowest =>
    simp only [hlast, Bool.and_eq_true] at hadmits
    have hself : lowest.1.score ≤ lowest.1.score :=
      h.isRanking.le_self lowest (List.mem_of_getLast? hlast)
    exact ⟨lowest, rfl, ((Rank.precedes_iff hscore hself).1 hadmits.2).1⟩

end

/-! ### The best items by their latest scores -/

/-- What holds of a list to which rising offers were made: its items have their latest scores, and
an item is left out only while the list is full, and only if no listed item has a lower score. -/
structure IsTopBy (offers : List (κ × ν)) (list : RankedList κ ν) : Prop where
  isConsistent : list.IsConsistent
  latest?_eq : ∀ entry ∈ list.ranked, latest? offers entry.2 = some entry.1.score
  left_out : ∀ {item score}, latest? offers item = some score → list.index.find? item = none →
    list.ranked.length = list.capacity ∧ ∀ entry ∈ list.ranked, score ≤ entry.1.score

theorem isTopBy_empty (n : ℕ) : IsTopBy [] (empty n : RankedList κ ν) where
  isConsistent := isConsistent_empty n
  latest?_eq := by simp [empty]
  left_out := by simp [latest?, KeyedList.ofList]

namespace IsTopBy

variable {offers : List (κ × ν)} {list rest : RankedList κ ν} {item : κ} {score : ν} {rank : Rank ν}

/-- An item that is not listed is none of those that are. -/
theorem ne_of_find?_eq_none (h : IsTopBy offers list) (hfind : list.index.find? item = none)
    {entry : Rank ν × κ} (hentry : entry ∈ list.ranked) : entry.2 ≠ item := by
  rintro rfl
  rw [h.isConsistent.find?_eq_some_iff.2 hentry] at hfind
  cases hfind

/-- The items other than the one that is offered keep their latest scores. -/
theorem latest?_concat_eq (h : IsTopBy offers list) {entry : Rank ν × κ}
    (hentry : entry ∈ list.ranked) (hne : entry.2 ≠ item) :
    latest? (offers ++ [(item, score)]) entry.2 = some entry.1.score := by
  rw [latest?_concat, if_neg hne]
  exact h.latest?_eq entry hentry

/-- Where an item is placed among some of the items of a list, what has to be known is that the
items that are left out then are left out of a full list, and are not above any item in it. -/
theorem of_place (h : IsTopBy offers list) (hconsistent : (rest.place item rank).IsConsistent)
    (hrest : ∀ entry ∈ rest.ranked, entry ∈ list.ranked ∧ entry.2 ≠ item)
    (hleft : ∀ {other latest}, latest? offers other = some latest →
      rest.index.find? other = none → rest.ranked.length + 1 = rest.capacity ∧
        (∀ entry ∈ rest.ranked, latest ≤ entry.1.score) ∧ latest ≤ rank.score) :
    IsTopBy (offers ++ [(item, rank.score)]) (rest.place item rank) := by
  refine ⟨hconsistent, ?_, ?_⟩
  · intro entry hentry
    rcases mem_insertRanked.1 hentry with rfl | hentry
    · rw [latest?_concat, if_pos rfl]
    · obtain ⟨hlisted, hne⟩ := hrest entry hentry
      exact h.latest?_concat_eq hlisted hne
  · intro other latest hlatest hnone
    have hput : (rest.index.put item rank).find? other = none := hnone
    rw [KeyedList.find?_put] at hput
    split at hput
    · cases hput
    · rename_i hne
      rw [latest?_concat, if_neg hne] at hlatest
      obtain ⟨hlength, hlow, hlow'⟩ := hleft hlatest hput
      constructor
      · show (insertRanked rank item rest.ranked).length = rest.capacity
        rw [(insertRanked_perm rank item rest.ranked).length_eq]
        exact hlength
      · intro entry hentry
        rcases mem_insertRanked.1 hentry with rfl | hentry
        · exact hlow'
        · exact hlow entry hentry

/-- A new item comes in where there is room, and no item is left out then. -/
theorem enter (h : IsTopBy offers list) (hfind : list.index.find? item = none)
    (hroom : list.ranked.length < list.capacity)
    (hconsistent : (list.arrived.place item rank).IsConsistent) :
    IsTopBy (offers ++ [(item, rank.score)]) (list.arrived.place item rank) := by
  apply h.of_place hconsistent
  · intro entry hentry
    exact ⟨hentry, h.ne_of_find?_eq_none hfind hentry⟩
  · intro other latest hlatest hnone
    have hfull := (h.left_out hlatest hnone).1
    omega

/-- There are as many items as were offered, up to the capacity. -/
theorem length_eq (h : IsTopBy offers list) :
    list.ranked.length = min list.capacity (offers.map Prod.fst).dedup.length := by
  have hle := h.isConsistent.length_le
  have hoffered : list.keys ⊆ (offers.map Prod.fst).dedup := by
    intro key hkey
    obtain ⟨entry, hentry, rfl⟩ := List.mem_map.1 hkey
    rw [List.mem_dedup, ← exists_latest?_eq_some_iff]
    exact ⟨_, h.latest?_eq entry hentry⟩
  have hlength : list.keys.length = list.ranked.length := List.length_map _
  have hsubset := (h.isConsistent.nodup_keys.subperm hoffered).length_le
  rcases Nat.eq_or_lt_of_le hle with hfull | hroom
  · omega
  · -- In a list with room no offered item is left out.
    have hall : (offers.map Prod.fst).dedup ⊆ list.keys := by
      intro key hkey
      rw [List.mem_dedup, ← exists_latest?_eq_some_iff] at hkey
      obtain ⟨latest, hlatest⟩ := hkey
      cases hfind : list.index.find? key with
      | none =>
        have hfull := (h.left_out hlatest hfind).1
        omega
      | some rank => exact h.isConsistent.mem_keys_iff.2 ⟨rank, hfind⟩
    have hsuperset := ((List.nodup_dedup _).subperm hall).length_le
    omega

variable [ScoreOrder ν]

/-- A new item is rejected by a full list. -/
theorem reject (h : IsTopBy offers list) (hscore : score ≤ score)
    (hfind : list.index.find? item = none)
    (hadmits : list.admits ⟨score, list.arrivals⟩ = false) :
    IsTopBy (offers ++ [(item, score)]) list.arrived := by
  have hsequence : ∀ entry ∈ list.ranked, entry.1.sequence ≠ list.arrivals := by
    intro entry hentry
    exact Nat.ne_of_lt (h.isConsistent.isRanking.sequence_lt entry hentry)
  refine ⟨h.isConsistent.arrived, ?_, ?_⟩
  · intro entry hentry
    exact h.latest?_concat_eq hentry (h.ne_of_find?_eq_none hfind hentry)
  · intro other latest hlatest hnone
    rw [latest?_concat] at hlatest
    split at hlatest
    · obtain rfl : score = latest := Option.some.inj hlatest
      exact h.isConsistent.of_admits_eq_false hscore hsequence hadmits
    · exact h.left_out hlatest hnone

/-- A new item takes the place of the last one, which is left out from then on. -/
theorem replace (h : IsTopBy offers list) (hscore : rank.score ≤ rank.score)
    (hfind : list.index.find? item = none) (hadmits : list.admits rank = true)
    (hfull : ¬list.ranked.length < list.capacity)
    (hconsistent : (list.arrived.dropLast.place item rank).IsConsistent) :
    IsTopBy (offers ++ [(item, rank.score)]) (list.arrived.dropLast.place item rank) := by
  obtain ⟨lowest, hlast, hrank⟩ := h.isConsistent.exists_lowest_of_admits hscore hadmits hfull
  have hmem : lowest ∈ list.ranked := List.mem_of_getLast? hlast
  have hlowest := h.isConsistent.isRanking.lowest_le hlast
  have hsubset : ∀ entry ∈ list.ranked.dropLast, entry ∈ list.ranked :=
    fun entry hentry => List.dropLast_subset _ hentry
  apply h.of_place hconsistent
  · intro entry hentry
    have hlisted := hsubset entry hentry
    exact ⟨hlisted, h.ne_of_find?_eq_none hfind hlisted⟩
  · intro other latest hlatest hnone
    -- The item is the one that has just lost its place, or was left out before.
    have hlow : latest ≤ lowest.1.score := by
      have herase : list.dropLast.index.find? other = none := hnone
      unfold RankedList.dropLast at herase
      simp only [hlast, KeyedList.find?_erase] at herase
      by_cases hother : other = lowest.2
      · rw [hother, h.latest?_eq lowest hmem] at hlatest
        rw [← Option.some.inj hlatest]
        exact h.isConsistent.isRanking.le_self lowest hmem
      · rw [if_neg hother] at herase
        exact (h.left_out hlatest herase).2 lowest hmem
    refine ⟨?_, ?_, ScoreOrder.le_trans hlow hrank⟩
    · show list.ranked.dropLast.length + 1 = list.capacity
      have hpos : 0 < list.ranked.length := List.length_pos_of_mem hmem
      have hle := h.isConsistent.length_le
      rw [List.length_dropLast]
      omega
    · intro entry hentry
      exact ScoreOrder.le_trans hlow (hlowest entry (hsubset entry hentry))

/-- A listed item gets a score that is not lower. -/
theorem rescore (h : IsTopBy offers list) (hscore : score ≤ score)
    (hprevious : ∀ previous ∈ latest? offers item, previous ≤ score)
    (hfind : list.index.find? item = some rank) :
    IsTopBy (offers ++ [(item, score)])
      ({ list with ranked := removeRanked rank list.ranked }.place item
        ⟨score, rank.sequence⟩) := by
  have hmem : (rank, item) ∈ list.ranked := h.isConsistent.find?_eq_some_iff.1 hfind
  have hremoved : ∀ entry, entry ∈ removeRanked rank list.ranked ↔
      entry ∈ list.ranked ∧ entry.1.sequence ≠ rank.sequence :=
    fun entry => h.isConsistent.isRanking.mem_removeRanked hmem
  refine h.of_place (h.isConsistent.rescore hfind hscore) ?_ ?_
  · intro entry hentry
    obtain ⟨hlisted, hsequence⟩ := (hremoved entry).1 hentry
    refine ⟨hlisted, fun heq => hsequence ?_⟩
    rw [h.isConsistent.eq_of_item_eq hlisted hmem heq]
  · intro other latest hlatest hnone
    obtain ⟨hfull, hlow⟩ := h.left_out hlatest hnone
    refine ⟨?_, ?_, ?_⟩
    · show (removeRanked rank list.ranked).length + 1 = list.capacity
      have hpos : 0 < list.ranked.length := List.length_pos_of_mem hmem
      have hlength : (removeRanked rank list.ranked).length = list.ranked.length - 1 :=
        List.length_eraseP_of_mem hmem ((h.isConsistent.isRanking.ties_iff hmem hmem).2 rfl)
      omega
    · intro entry hentry
      exact hlow entry ((hremoved entry).1 hentry).1
    · -- The item was not below what is left out, and has not fallen since.
      have hrank : rank.score ≤ score := hprevious _ (h.latest?_eq _ hmem)
      exact ScoreOrder.le_trans (hlow _ hmem) hrank

/-- One more offer, of an item that is not offered for less than before. -/
theorem add (h : IsTopBy offers list) (hscore : score ≤ score)
    (hprevious : ∀ previous ∈ latest? offers item, previous ≤ score) :
    IsTopBy (offers ++ [(item, score)]) (list.add item score).2 := by
  have hconsistent := h.isConsistent.add item score
  rcases add_cases list item score with
    ⟨hnot, -⟩ | ⟨-, rank, hfind, hadd⟩ |
    ⟨-, hfind, ⟨hadmits, hadd⟩ | ⟨hroom, hadd⟩ | ⟨hadmits, hfull, hadd⟩⟩
  · exact absurd hscore hnot
  all_goals rw [hadd] at hconsistent ⊢
  · exact h.rescore hscore hprevious hfind
  · exact h.reject hscore hfind hadmits
  · exact h.enter hfind hroom hconsistent
  · exact h.replace hscore hfind hadmits hfull hconsistent

end IsTopBy

/-! ### Runs of rising offers -/

variable [ScoreOrder ν] {offers : List (κ × ν)}

/-- A list has the best items by their latest scores after each of the offers of a rising run. -/
theorem isTopBy_addAll (n : ℕ) (h : IsRising offers) :
    IsTopBy offers ((empty n : RankedList κ ν).addAll offers) := by
  induction h with
  | nil => exact isTopBy_empty n
  | concat _ hscore hprevious ih =>
    rw [addAll_concat]
    exact ih.add hscore hprevious

/-- After a run of rising offers, a list of capacity `n` has `n` different items, or all if there
are fewer.  Each has its latest score, and the latest score of an item that is left out is at most
each score in the list. -/
theorem addAll_lists_latest_best (n : ℕ) (h : IsRising offers) :
    let list := (empty n : RankedList κ ν).addAll offers
    list.size = min n (offers.map Prod.fst).dedup.length ∧
    list.keys.Nodup ∧
    (∀ entry ∈ list.toList, latest? offers entry.1 = some entry.2) ∧
    ∀ item ∈ offers.map Prod.fst, item ∉ list.keys →
      ∃ score, latest? offers item = some score ∧ ∀ entry ∈ list.toList, score ≤ entry.2 := by
  intro list
  have htop : IsTopBy offers list := isTopBy_addAll n h
  have hcapacity : list.capacity = n := capacity_addAll _ offers
  refine ⟨?_, htop.isConsistent.nodup_keys, ?_, ?_⟩
  · show list.ranked.length = _
    rw [htop.length_eq, hcapacity]
  · intro entry hentry
    obtain ⟨listed, hlisted, rfl⟩ := List.mem_map.1 hentry
    exact htop.latest?_eq listed hlisted
  · intro item hoffered houtside
    obtain ⟨score, hscore⟩ := exists_latest?_eq_some_iff.2 hoffered
    have hnone : list.index.find? item = none := by
      cases hfind : list.index.find? item with
      | none => rfl
      | some rank =>
        have hlisted := htop.isConsistent.find?_eq_some_iff.1 hfind
        exact absurd (List.mem_map.2 ⟨(rank, item), hlisted, rfl⟩) houtside
    refine ⟨score, hscore, ?_⟩
    intro entry hentry
    obtain ⟨listed, hlisted, rfl⟩ := List.mem_map.1 hentry
    exact (htop.left_out hscore hnone).2 listed hlisted

/-- Offers of cereals, of which wheat loses its place, is rejected once, and comes in again. -/
def harvest : List (String × Float) :=
  [("wheat", 0.25), ("rice", 0.5), ("corn", 0.75), ("wheat", 0.5), ("wheat", 0.625), ("corn", 1.0)]

theorem isRising_harvest : IsRising harvest := by
  have hwheat : IsRising [("wheat", (0.25 : Float))] :=
    .concat .nil (by decide +kernel) (by decide +kernel)
  have hrice : IsRising (harvest.take 2) :=
    hwheat.concat (by decide +kernel) (by decide +kernel)
  have hcorn : IsRising (harvest.take 3) :=
    hrice.concat (by decide +kernel) (by decide +kernel)
  have hrejected : IsRising (harvest.take 4) :=
    hcorn.concat (by decide +kernel) (by decide +kernel)
  have hagain : IsRising (harvest.take 5) :=
    hrejected.concat (by decide +kernel) (by decide +kernel)
  exact hagain.concat (by decide +kernel) (by decide +kernel)

/-- Of `harvest`, two cereals are listed, and rice is left out, with a score below both. -/
theorem addAll_lists_latest_best_harvest :
    IsRising harvest ∧ ((empty 2 : RankedList String Float).addAll harvest).size = 2 ∧
    ∃ score, latest? harvest "rice" = some score ∧
      ∀ entry ∈ ((empty 2 : RankedList String Float).addAll harvest).toList, score ≤ entry.2 := by
  obtain ⟨hsize, -, -, hleft⟩ := addAll_lists_latest_best 2 isRising_harvest
  refine ⟨isRising_harvest, hsize, ?_⟩
  exact hleft "rice" (by decide) (by decide +kernel)

end NewsScoring.RankedList
