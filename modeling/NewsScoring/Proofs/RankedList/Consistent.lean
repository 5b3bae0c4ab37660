import Mathlib.Data.List.Induction
import Mathlib.Data.List.Nodup
import Mathlib.Data.List.Perm.Subperm
import NewsScoring.Proofs.RankedList.Top

/-!
# What holds of every ranked list

A list that comes from the empty one by offers is consistent (`IsConsistent`): its items stand by
rank, no two of them came in at one time, none has NaN, there are at most as many as its capacity,
and the index has each item under the rank at which it stands, and no other item.  What an offer can
do is said once (`add_cases`); one offer keeps a list consistent (`IsConsistent.add`), and so do all
of a run (`IsConsistent.addAll`).
-/

namespace NewsScoring.RankedList

variable {κ ν : Type} [LE ν] [DecidableLE ν]

/-! ### Rankings -/

section Ranking

/-- What holds of ranked items of which `arrivals` have come in: they stand by rank, none has NaN,
and each came in at a time of its own. -/
structure IsRanking (arrivals : ℕ) (ranked : List (Rank ν × κ)) : Prop where
  pairwise : ranked.Pairwise fun a b => a.1.precedes b.1 = true
  le_self : ∀ entry ∈ ranked, entry.1.score ≤ entry.1.score
  nodup_sequences : (ranked.map fun entry => entry.1.sequence).Nodup
  sequence_lt : ∀ entry ∈ ranked, entry.1.sequence < arrivals

variable {arrivals : ℕ} {ranked : List (Rank ν × κ)} {rank : Rank ν} {item : κ}

theorem isRanking_nil : IsRanking arrivals ([] : List (Rank ν × κ)) :=
  ⟨.nil, by simp, List.nodup_nil, by simp⟩

theorem IsRanking.sublist (h : IsRanking arrivals ranked) {fewer : List (Rank ν × κ)}
    (hfewer : fewer.Sublist ranked) : IsRanking arrivals fewer where
  pairwise := h.pairwise.sublist hfewer
  le_self entry hmem := h.le_self entry (hfewer.subset hmem)
  nodup_sequences := h.nodup_sequences.sublist (hfewer.map _)
  sequence_lt entry hmem := h.sequence_lt entry (hfewer.subset hmem)

theorem IsRanking.succ (h : IsRanking arrivals ranked) : IsRanking (arrivals + 1) ranked :=
  { h with sequence_lt := fun entry hmem => Nat.lt_succ_of_lt (h.sequence_lt entry hmem) }

/-- No more items are ranked than came in. -/
theorem IsRanking.length_le (h : IsRanking arrivals ranked) : ranked.length ≤ arrivals := by
  have hsubset : (ranked.map fun entry => entry.1.sequence) ⊆ List.range arrivals := by
    intro sequence hmem
    obtain ⟨entry, hentry, rfl⟩ := List.mem_map.1 hmem
    exact List.mem_range.2 (h.sequence_lt entry hentry)
  have hle := (h.nodup_sequences.subperm hsubset).length_le
  rwa [List.length_map, List.length_range] at hle

theorem mem_insertRanked {entry : Rank ν × κ} :
    entry ∈ insertRanked rank item ranked ↔ entry = (rank, item) ∨ entry ∈ ranked := by
  rw [(insertRanked_perm rank item ranked).mem_iff, List.mem_cons]

/-- An item that came in at another time than all others can be ranked among them. -/
theorem IsRanking.insertRanked [ScoreOrder ν] (h : IsRanking arrivals ranked) (item : κ)
    (hscore : rank.score ≤ rank.score) (hlt : rank.sequence < arrivals)
    (hnew : ∀ entry ∈ ranked, entry.1.sequence ≠ rank.sequence) :
    IsRanking arrivals (insertRanked rank item ranked) where
  pairwise := pairwise_insertRanked item hscore
    (fun entry hmem => ⟨h.le_self entry hmem, hnew entry hmem⟩) h.pairwise
  le_self entry hmem := by
    rcases mem_insertRanked.1 hmem with rfl | hmem
    · exact hscore
    · exact h.le_self entry hmem
  nodup_sequences := by
    rw [((insertRanked_perm rank item ranked).map _).nodup_iff, List.map_cons, List.nodup_cons]
    refine ⟨?_, h.nodup_sequences⟩
    intro hmem
    obtain ⟨entry, hentry, heq⟩ := List.mem_map.1 hmem
    exact hnew entry hentry heq
  sequence_lt entry hmem := by
    rcases mem_insertRanked.1 hmem with rfl | hmem
    · exact hlt
    · exact h.sequence_lt entry hmem

theorem IsRanking.eq_of_sequence_eq (h : IsRanking arrivals ranked) {a b : Rank ν × κ}
    (ha : a ∈ ranked) (hb : b ∈ ranked) (heq : a.1.sequence = b.1.sequence) : a = b :=
  List.inj_on_of_nodup_map h.nodup_sequences ha hb heq

/-- Of two items of a ranking, the first has no lower score, and came in first if the scores are
equal. -/
theorem IsRanking.pairwise_score [ScoreOrder ν] (h : IsRanking arrivals ranked) :
    ranked.Pairwise fun a b => b.1.score ≤ a.1.score ∧
      (a.1.score ≤ b.1.score → a.1.sequence < b.1.sequence) := by
  apply h.pairwise.imp_of_mem
  intro a b ha hb hprecedes
  exact (Rank.precedes_iff (h.le_self a ha) (h.le_self b hb)).1 hprecedes

/-- Of the items of a ranking, one alone ties with a given rank of the ranking: the one that has
it. -/
theorem IsRanking.ties_iff [ScoreOrder ν] (h : IsRanking arrivals ranked) {a b : Rank ν × κ}
    (ha : a ∈ ranked) (hb : b ∈ ranked) : a.1.ties b.1 = true ↔ a = b := by
  have hle := h.le_self a ha
  have hle' := h.le_self b hb
  rw [Rank.ties, Bool.and_eq_true, Bool.not_eq_true', Bool.not_eq_true']
  constructor
  · rintro ⟨hab, hba⟩
    by_contra hne
    have hsequence : a.1.sequence ≠ b.1.sequence := fun heq => hne (h.eq_of_sequence_eq ha hb heq)
    rcases Rank.precedes_or_precedes hle hle' hsequence with hprecedes | hprecedes
    · exact Bool.false_ne_true (hab.symm.trans hprecedes)
    · exact Bool.false_ne_true (hba.symm.trans hprecedes)
  · rintro rfl
    have hself : a.1.precedes a.1 = false := by
      rw [Bool.eq_false_iff, ne_eq, Rank.precedes_iff hle hle]
      exact fun hprecedes => Nat.lt_irrefl _ (hprecedes.2 hle)
    exact ⟨hself, hself⟩

/-- Without the item of a rank, a ranking has all its other items. -/
theorem IsRanking.mem_removeRanked [ScoreOrder ν] (h : IsRanking arrivals ranked)
    (hitem : (rank, item) ∈ ranked) {entry : Rank ν × κ} :
    entry ∈ removeRanked rank ranked ↔ entry ∈ ranked ∧ entry.1.sequence ≠ rank.sequence := by
  obtain ⟨found, before, after, -, hfound, hsplit, herase⟩ :=
    List.exists_of_eraseP (p := (·.1.ties rank)) hitem ((h.ties_iff hitem hitem).2 rfl)
  have hmem : found ∈ ranked := hsplit ▸ List.mem_append_right _ List.mem_cons_self
  obtain rfl : found = (rank, item) := (h.ties_iff hmem hitem).1 hfound
  have hnodup := h.nodup_sequences
  rw [hsplit, List.map_append, List.map_cons, List.nodup_middle, List.nodup_cons,
    ← List.map_append] at hnodup
  rw [removeRanked, herase, hsplit]
  constructor
  · intro hentry
    refine ⟨?_, fun heq => hnodup.1 (heq ▸ List.mem_map_of_mem hentry)⟩
    rcases List.mem_append.1 hentry with hentry | hentry
    · exact List.mem_append_left _ hentry
    · exact List.mem_append_right _ (List.mem_cons_of_mem _ hentry)
  · rintro ⟨hentry, hne⟩
    rcases List.mem_append.1 hentry with hentry | hentry
    · exact List.mem_append_left _ hentry
    · rcases List.mem_cons.1 hentry with rfl | hentry
      · exact absurd rfl hne
      · exact List.mem_append_right _ hentry

theorem removeRanked_sublist (rank : Rank ν) (ranked : List (Rank ν × κ)) :
    (removeRanked rank ranked).Sublist ranked :=
  List.eraseP_sublist

end Ranking

/-! ### Consistent lists -/

variable [DecidableEq κ] {list : RankedList κ ν} {item : κ} {score : ν}

omit [LE ν] [DecidableLE ν] [DecidableEq κ] in
theorem map_fst_toList (list : RankedList κ ν) : list.toList.map Prod.fst = list.keys := by
  rw [toList, List.map_map]
  rfl

/-- What holds of a list that comes from the empty one by offers. -/
structure IsConsistent (list : RankedList κ ν) : Prop where
  isRanking : IsRanking list.arrivals list.ranked
  /-- The index has the items that are listed, each under its rank. -/
  find?_eq_some_iff : ∀ {item rank}, list.index.find? item = some rank ↔ (rank, item) ∈ list.ranked
  length_le : list.ranked.length ≤ list.capacity

theorem isConsistent_empty (capacity : ℕ) :
    IsConsistent (empty capacity : RankedList κ ν) where
  isRanking := isRanking_nil
  find?_eq_some_iff := by simp [empty]
  length_le := Nat.zero_le _

/-- An item stands at one place of a consistent list. -/
theorem IsConsistent.eq_of_item_eq (h : list.IsConsistent) {a b : Rank ν × κ}
    (ha : a ∈ list.ranked) (hb : b ∈ list.ranked) (heq : a.2 = b.2) : a = b := by
  have hfind : list.index.find? a.2 = some a.1 := h.find?_eq_some_iff.2 ha
  have hfind' : list.index.find? b.2 = some b.1 := h.find?_eq_some_iff.2 hb
  rw [heq, hfind'] at hfind
  exact Prod.ext (Option.some.inj hfind).symm heq

/-- The listed items are those that the index has. -/
theorem IsConsistent.mem_keys_iff (h : list.IsConsistent) :
    item ∈ list.keys ↔ ∃ rank, list.index.find? item = some rank := by
  rw [keys, List.mem_map]
  constructor
  · rintro ⟨entry, hentry, rfl⟩
    exact ⟨entry.1, h.find?_eq_some_iff.2 hentry⟩
  · rintro ⟨rank, hfind⟩
    exact ⟨(rank, item), h.find?_eq_some_iff.1 hfind, rfl⟩

theorem IsConsistent.nodup_keys (h : list.IsConsistent) : list.keys.Nodup :=
  List.Nodup.map_on (fun _ ha _ hb heq => h.eq_of_item_eq ha hb heq)
    h.isRanking.nodup_sequences.of_map

/-- Whether a list is consistent does not depend on the order of its index. -/
theorem IsConsistent.congr_index (h : list.IsConsistent) {index : KeyedList κ (Rank ν)}
    (hindex : ∀ item, index.find? item = list.index.find? item) :
    IsConsistent { list with index } where
  isRanking := h.isRanking
  find?_eq_some_iff := by
    intro item rank
    rw [hindex]
    exact h.find?_eq_some_iff
  length_le := h.length_le

/-! ### What an offer can do -/

/-- The list of which one more item has come in. -/
def arrived (list : RankedList κ ν) : RankedList κ ν :=
  { list with arrivals := list.arrivals + 1 }

/-- What an offer can do: an offer of NaN does nothing; a listed item gets its new score; a new item
is rejected, or it is placed, in a full list for the last item. -/
theorem add_cases (list : RankedList κ ν) (item : κ) (score : ν) :
    (¬score ≤ score ∧ list.add item score = (false, list)) ∨
    (score ≤ score ∧ ∃ previous, list.index.find? item = some previous ∧
      list.add item score =
        (true, { list with ranked := removeRanked previous list.ranked }.place item
          ⟨score, previous.sequence⟩)) ∨
    (score ≤ score ∧ list.index.find? item = none ∧
      ((list.admits ⟨score, list.arrivals⟩ = false ∧ list.add item score = (false, list.arrived)) ∨
      (list.ranked.length < list.capacity ∧
        list.add item score = (true, list.arrived.place item ⟨score, list.arrivals⟩)) ∨
      (list.admits ⟨score, list.arrivals⟩ = true ∧ ¬list.ranked.length < list.capacity ∧
        list.add item score =
          (true, list.arrived.dropLast.place item ⟨score, list.arrivals⟩)))) := by
  by_cases hscore : score ≤ score
  · cases hfind : list.index.find? item with
    | some previous => exact .inr (.inl ⟨hscore, previous, rfl, by simp [add, hscore, hfind]⟩)
    | none =>
      refine .inr (.inr ⟨hscore, rfl, ?_⟩)
      simp only [add, hscore, not_true_eq_false, if_false, hfind]
      by_cases hroom : list.ranked.length < list.capacity
      · have hadmits : list.admits ⟨score, list.arrivals⟩ = true := by simp [admits, hroom]
        exact .inr (.inl ⟨hroom, by simp [hadmits, hroom, arrived]⟩)
      · cases hadmits : list.admits ⟨score, list.arrivals⟩ with
        | false => exact .inl ⟨rfl, by simp [arrived]⟩
        | true => exact .inr (.inr ⟨rfl, hroom, by simp [hroom, arrived]⟩)
  · exact .inl ⟨hscore, by simp [add, hscore]⟩

@[simp]
theorem capacity_add (list : RankedList κ ν) (item : κ) (score : ν) :
    (list.add item score).2.capacity = list.capacity := by
  rcases add_cases list item score with
    ⟨-, hadd⟩ | ⟨-, rank, -, hadd⟩ | ⟨-, -, ⟨-, hadd⟩ | ⟨-, hadd⟩ | ⟨-, -, hadd⟩⟩ <;>
    rw [hadd] <;> rfl

theorem addAll_concat (list : RankedList κ ν) (offers : List (κ × ν)) (offer : κ × ν) :
    list.addAll (offers ++ [offer]) = ((list.addAll offers).add offer.1 offer.2).2 := by
  unfold addAll
  rw [List.foldl_append]
  rfl

theorem capacity_addAll (list : RankedList κ ν) (offers : List (κ × ν)) :
    (list.addAll offers).capacity = list.capacity := by
  induction offers using List.reverseRecOn with
  | nil => rfl
  | append_singleton offers offer ih => rw [addAll_concat, capacity_add, ih]

theorem IsConsistent.arrived (h : list.IsConsistent) : list.arrived.IsConsistent where
  isRanking := h.isRanking.succ
  find?_eq_some_iff := h.find?_eq_some_iff
  length_le := h.length_le

/-- The list without an item that stands at a rank. -/
def withdraw (list : RankedList κ ν) (item : κ) (rank : Rank ν) : RankedList κ ν :=
  { list with
    ranked := removeRanked rank list.ranked
    index := list.index.erase item }

theorem mem_dropLast {β : Type} {l : List β} {last x : β} (hnodup : l.Nodup)
    (hlast : l.getLast? = some last) : x ∈ l.dropLast ↔ x ∈ l ∧ x ≠ last := by
  obtain ⟨before, rfl⟩ := List.getLast?_eq_some_iff.1 hlast
  rw [List.nodup_append] at hnodup
  rw [List.dropLast_concat, List.mem_append, List.mem_singleton]
  constructor
  · intro hmem
    exact ⟨.inl hmem, hnodup.2.2 x hmem last (List.mem_singleton_self _)⟩
  · rintro ⟨hmem | heq, hne⟩
    · exact hmem
    · exact absurd heq hne

theorem IsConsistent.dropLast (h : list.IsConsistent) : list.dropLast.IsConsistent where
  isRanking := h.isRanking.sublist (List.dropLast_sublist _)
  find?_eq_some_iff {item rank} := by
    unfold RankedList.dropLast
    cases hlast : list.ranked.getLast? with
    | none =>
      have hempty : list.ranked = [] := List.getLast?_eq_none_iff.1 hlast
      have hfind : list.index.find? item = some rank ↔ (rank, item) ∈ list.ranked :=
        h.find?_eq_some_iff
      simpa [hempty] using hfind
    | some last =>
      have hmem : last ∈ list.ranked := List.mem_of_getLast? hlast
      show (list.index.erase last.2).find? item = some rank ↔ (rank, item) ∈ list.ranked.dropLast
      -- The item of the last place stands nowhere else, so that no other entry leaves the index.
      rw [KeyedList.find?_erase, mem_dropLast h.isRanking.nodup_sequences.of_map hlast,
        ← h.find?_eq_some_iff]
      by_cases hitem : item = last.2
      · rw [if_pos hitem]
        refine ⟨fun hnone => absurd hnone (by simp), fun hfind => absurd ?_ hfind.2⟩
        exact h.eq_of_item_eq (h.find?_eq_some_iff.1 hfind.1) hmem hitem
      · rw [if_neg hitem]
        exact ⟨fun hfind => ⟨hfind, fun heq => hitem (congrArg Prod.snd heq)⟩, fun hfind => hfind.1⟩
  length_le := by
    have hlength : list.ranked.dropLast.length = list.ranked.length - 1 := List.length_dropLast
    have hle := h.length_le
    show list.ranked.dropLast.length ≤ list.capacity
    omega

section

variable [ScoreOrder ν] {rank : Rank ν}

theorem IsConsistent.withdraw (h : list.IsConsistent) (hfind : list.index.find? item = some rank) :
    (list.withdraw item rank).IsConsistent where
  isRanking := h.isRanking.sublist (removeRanked_sublist rank list.ranked)
  find?_eq_some_iff {other otherRank} := by
    have hmem : (rank, item) ∈ list.ranked := h.find?_eq_some_iff.1 hfind
    show (list.index.erase item).find? other = _ ↔ _ ∈ removeRanked rank list.ranked
    rw [KeyedList.find?_erase, h.isRanking.mem_removeRanked hmem, ← h.find?_eq_some_iff]
    by_cases hother : other = item
    · subst hother
      rw [if_pos rfl, hfind]
      refine ⟨fun hnone => absurd hnone (by simp), ?_⟩
      rintro ⟨heq, hne⟩
      exact absurd (congrArg Rank.sequence (Option.some.inj heq)).symm hne
    · rw [if_neg hother]
      refine ⟨fun hsome => ⟨hsome, fun heq => hother ?_⟩, fun hsome => hsome.1⟩
      exact congrArg Prod.snd
        (h.isRanking.eq_of_sequence_eq (h.find?_eq_some_iff.1 hsome) hmem heq)
  length_le := ((removeRanked_sublist rank list.ranked).length_le).trans h.length_le

/-- A new item that came in at a time of its own can be placed where there is room. -/
theorem IsConsistent.place (h : list.IsConsistent) (hscore : rank.score ≤ rank.score)
    (hlt : rank.sequence < list.arrivals)
    (hnew : ∀ entry ∈ list.ranked, entry.1.sequence ≠ rank.sequence)
    (hroom : list.ranked.length < list.capacity) (hfind : list.index.find? item = none) :
    (list.place item rank).IsConsistent where
  isRanking := h.isRanking.insertRanked item hscore hlt hnew
  find?_eq_some_iff {other otherRank} := by
    show (list.index.put item rank).find? other = _ ↔ _ ∈ RankedList.insertRanked rank item _
    rw [KeyedList.find?_put, mem_insertRanked, Prod.mk.injEq, ← h.find?_eq_some_iff]
    by_cases hother : other = item
    · subst hother
      rw [if_pos rfl, hfind]
      simp [eq_comm]
    · simp [hother]
  length_le := by
    show (RankedList.insertRanked rank item list.ranked).length ≤ list.capacity
    rw [(insertRanked_perm rank item list.ranked).length_eq]
    exact hroom

/-- A listed item can get another score at the number under which it came in. -/
theorem IsConsistent.rescore (h : list.IsConsistent) (hfind : list.index.find? item = some rank)
    (hscore : score ≤ score) :
    ({ list with ranked := removeRanked rank list.ranked }.place item
      ⟨score, rank.sequence⟩).IsConsistent := by
  have hmem : (rank, item) ∈ list.ranked := h.find?_eq_some_iff.1 hfind
  -- A new score is a withdrawal and a new place, up to the order of the index.
  have hplaced : ((list.withdraw item rank).place item ⟨score, rank.sequence⟩).IsConsistent := by
    refine (h.withdraw hfind).place hscore (h.isRanking.sequence_lt _ hmem) (fun entry hentry => ?_)
      ?_ (by simp [RankedList.withdraw])
    · exact ((h.isRanking.mem_removeRanked hmem).1 hentry).2
    · have hlength : (removeRanked rank list.ranked).length = list.ranked.length - 1 :=
        List.length_eraseP_of_mem hmem ((h.isRanking.ties_iff hmem hmem).2 rfl)
      have hpos : 0 < list.ranked.length := List.length_pos_of_mem hmem
      have hle := h.length_le
      show (removeRanked rank list.ranked).length < list.capacity
      omega
  refine hplaced.congr_index fun other => ?_
  show (list.index.put item _).find? other = ((list.index.erase item).put item _).find? other
  rw [KeyedList.find?_put, KeyedList.find?_put, KeyedList.find?_erase]
  split <;> rfl

/-- One offer, of a new item or of a listed one, keeps a list consistent. -/
theorem IsConsistent.add (h : list.IsConsistent) (item : κ) (score : ν) :
    (list.add item score).2.IsConsistent := by
  have hnew : ∀ entry ∈ list.ranked, entry.1.sequence ≠ list.arrivals :=
    fun entry hmem => Nat.ne_of_lt (h.isRanking.sequence_lt entry hmem)
  rcases add_cases list item score with
    ⟨-, hadd⟩ | ⟨hscore, rank, hfind, hadd⟩ |
    ⟨hscore, hfind, ⟨-, hadd⟩ | ⟨hroom, hadd⟩ | ⟨hadmits, hfull, hadd⟩⟩ <;> rw [hadd]
  · exact h
  · exact h.rescore hfind hscore
  · exact h.arrived
  · exact h.arrived.place hscore (Nat.lt_succ_self _) hnew hroom hfind
  · -- A full list that admits an item has a last one, which makes room.
    have hpos : 0 < list.ranked.length := by
      rw [List.length_pos_iff]
      intro hempty
      rw [hempty] at hfull
      simp [admits, hempty] at hadmits
      exact hfull hadmits
    refine h.arrived.dropLast.place hscore (Nat.lt_succ_self _) (fun entry hmem => ?_) ?_
      (find?_index_dropLast hfind)
    · exact hnew entry (List.dropLast_subset _ hmem)
    · have hlength : list.ranked.dropLast.length = list.ranked.length - 1 := List.length_dropLast
      have hle := h.length_le
      show list.ranked.dropLast.length < list.capacity
      omega

/-- A list to which any offers were made is consistent, by induction on the offers. -/
theorem IsConsistent.addAll (h : list.IsConsistent) (offers : List (κ × ν)) :
    (list.addAll offers).IsConsistent := by
  induction offers generalizing list with
  | nil => exact h
  | cons offer rest ih => exact ih (h.add offer.1 offer.2)

end

end NewsScoring.RankedList
