import Mathlib.Data.List.Induction
import NewsScoring.Proofs.Scalar.Order
import NewsScoring.RankedList

/-!
# A ranked list has the best of what was offered

Of items that are offered once each, a `RankedList` of capacity `n` has the first `n` of the items
sorted by descending score, items of equal scores in the order in which they were offered
(`toList_addAll_empty`).  The proof follows a list without bound (`rankAll`) along the offers: the
list of capacity `n` always has the first `n` of its items (`IsTopOf`).
-/

namespace NewsScoring

variable {κ ν : Type} [LE ν] [DecidableLE ν]

/-! ### Ranks -/

namespace Rank

variable [ScoreOrder ν] {a b c : Rank ν}

/-- Of two ranks, the first precedes by a score that is not lower, and by its arrival if neither is
lower. -/
theorem precedes_iff (ha : a.score ≤ a.score) (hb : b.score ≤ b.score) :
    a.precedes b = true ↔
      b.score ≤ a.score ∧ (a.score ≤ b.score → a.sequence < b.sequence) := by
  by_cases h : a.score ≤ b.score
  · simp [precedes, h]
  · have hba : b.score ≤ a.score := (ScoreOrder.le_total ha hb).resolve_left h
    simp [precedes, h, hba]

theorem precedes_trans (ha : a.score ≤ a.score) (hb : b.score ≤ b.score) (hc : c.score ≤ c.score)
    (hab : a.precedes b = true) (hbc : b.precedes c = true) : a.precedes c = true := by
  obtain ⟨hba, hsab⟩ := (precedes_iff ha hb).1 hab
  obtain ⟨hcb, hsbc⟩ := (precedes_iff hb hc).1 hbc
  refine (precedes_iff ha hc).2 ⟨ScoreOrder.le_trans hcb hba, fun hac => ?_⟩
  have hab' := hsab (ScoreOrder.le_trans hac hcb)
  have hbc' := hsbc (ScoreOrder.le_trans hba hac)
  omega

theorem precedes_asymm (ha : a.score ≤ a.score) (hb : b.score ≤ b.score)
    (hab : a.precedes b = true) : b.precedes a = false := by
  rw [Bool.eq_false_iff]
  intro hba
  obtain ⟨hle, hlt⟩ := (precedes_iff ha hb).1 hab
  obtain ⟨hle', hlt'⟩ := (precedes_iff hb ha).1 hba
  have := hlt hle'
  have := hlt' hle
  omega

/-- One of two ranks of different arrivals precedes the other. -/
theorem precedes_or_precedes (ha : a.score ≤ a.score) (hb : b.score ≤ b.score)
    (h : a.sequence ≠ b.sequence) : a.precedes b = true ∨ b.precedes a = true := by
  rw [precedes_iff ha hb, precedes_iff hb ha]
  rcases ScoreOrder.le_total ha hb with hab | hba
  · by_cases hba : b.score ≤ a.score
    · rcases Nat.lt_or_gt_of_ne h with hlt | hgt
      · exact .inl ⟨hba, fun _ => hlt⟩
      · exact .inr ⟨hab, fun _ => hgt⟩
    · exact .inr ⟨hab, fun hba' => absurd hba' hba⟩
  · by_cases hab : a.score ≤ b.score
    · rcases Nat.lt_or_gt_of_ne h with hlt | hgt
      · exact .inl ⟨hba, fun _ => hlt⟩
      · exact .inr ⟨hab, fun _ => hgt⟩
    · exact .inl ⟨hba, fun hab' => absurd hab' hab⟩

end Rank

namespace RankedList

/-! ### Insertion -/

theorem insertRanked_perm (rank : Rank ν) (item : κ) (ranked : List (Rank ν × κ)) :
    (insertRanked rank item ranked).Perm ((rank, item) :: ranked) := by
  induction ranked with
  | nil => exact .refl _
  | cons entry rest ih =>
    rw [insertRanked]
    split
    · exact (ih.cons entry).trans (.swap _ _ _)
    · exact .refl _

/-- An item that follows the first `n` items comes after them. -/
theorem take_insertRanked_of_precedes {rank : Rank ν} {ranked : List (Rank ν × κ)} {n : ℕ}
    (item : κ) (hn : n ≤ ranked.length)
    (h : ∀ entry ∈ ranked.take n, entry.1.precedes rank = true) :
    (insertRanked rank item ranked).take n = ranked.take n := by
  induction n generalizing ranked with
  | zero => rfl
  | succ n ih =>
    cases ranked with
    | nil => simp at hn
    | cons entry rest =>
      have hentry : entry.1.precedes rank = true := h entry (by simp)
      have hrest : ∀ e ∈ rest.take n, e.1.precedes rank = true :=
        fun e he => h e (List.mem_cons_of_mem _ he)
      rw [insertRanked, if_pos hentry, List.take_succ_cons, List.take_succ_cons,
        ih (by simpa using hn) hrest]

/-- An item that does not follow the item at place `n` comes before it. -/
theorem take_succ_insertRanked {rank : Rank ν} {ranked : List (Rank ν × κ)} {n : ℕ} (item : κ)
    (h : ∀ entry, ranked[n]? = some entry → entry.1.precedes rank = false) :
    (insertRanked rank item ranked).take (n + 1) = insertRanked rank item (ranked.take n) := by
  induction ranked generalizing n with
  | nil => simp [insertRanked]
  | cons entry rest ih =>
    cases n with
    | zero =>
      have hentry : entry.1.precedes rank = false := h entry rfl
      simp [insertRanked, hentry]
    | succ n =>
      rw [List.take_succ_cons, insertRanked, insertRanked]
      split
      · rw [List.take_succ_cons, ih h]
      · rw [List.take_succ_cons, List.take_succ_cons]

/-- An item keeps the order of ranked items, if it stands before or after each of them. -/
theorem pairwise_insertRanked [ScoreOrder ν] {rank : Rank ν} {ranked : List (Rank ν × κ)}
    (item : κ) (hrank : rank.score ≤ rank.score)
    (hranked : ∀ entry ∈ ranked, entry.1.score ≤ entry.1.score ∧
      entry.1.sequence ≠ rank.sequence)
    (h : ranked.Pairwise fun a b => a.1.precedes b.1 = true) :
    (insertRanked rank item ranked).Pairwise fun a b => a.1.precedes b.1 = true := by
  induction ranked with
  | nil => simp [insertRanked]
  | cons entry rest ih =>
    obtain ⟨hfirst, hpairwise⟩ := List.pairwise_cons.1 h
    obtain ⟨hentry, hne⟩ := hranked entry List.mem_cons_self
    have hrest : ∀ e ∈ rest, e.1.score ≤ e.1.score ∧ e.1.sequence ≠ rank.sequence :=
      fun e he => hranked e (List.mem_cons_of_mem _ he)
    rw [insertRanked]
    split
    · next hprecedes =>
      refine List.pairwise_cons.2 ⟨fun e he => ?_, ih hrest hpairwise⟩
      rcases List.mem_cons.1 ((insertRanked_perm rank item rest).mem_iff.1 he) with rfl | he
      · exact hprecedes
      · exact hfirst e he
    · next hprecedes =>
      -- The item stands before `entry`, and so before all that `entry` precedes.
      have hbefore : rank.precedes entry.1 = true :=
        (Rank.precedes_or_precedes hrank hentry hne.symm).resolve_right hprecedes
      refine List.pairwise_cons.2 ⟨fun e he => ?_, h⟩
      rcases List.mem_cons.1 he with rfl | he
      · exact hbefore
      · exact Rank.precedes_trans hrank hentry (hrest e he).1 hbefore (hfirst e he)

/-! ### Lists without bound -/

/-- All offered items by rank. -/
def rankAll (offers : List (κ × ν)) : List (Rank ν × κ) :=
  offers.zipIdx.foldl (fun ranked (offer, sequence) =>
    insertRanked ⟨offer.2, sequence⟩ offer.1 ranked) []

theorem rankAll_concat (offers : List (κ × ν)) (offer : κ × ν) :
    rankAll (offers ++ [offer]) =
      insertRanked ⟨offer.2, offers.length⟩ offer.1 (rankAll offers) := by
  simp [rankAll, List.zipIdx_append]

theorem rankAll_perm (offers : List (κ × ν)) :
    (rankAll offers).Perm
      (offers.zipIdx.map fun (offer, sequence) => (⟨offer.2, sequence⟩, offer.1)) := by
  induction offers using List.reverseRecOn with
  | nil => exact .refl _
  | append_singleton offers offer ih =>
    rw [rankAll_concat, List.zipIdx_append, List.map_append]
    refine (insertRanked_perm _ _ _).trans ((ih.cons _).trans ?_)
    simpa using (List.perm_append_singleton _ _).symm

/-- A ranked item was offered with its score, as the offer of its number. -/
theorem mem_rankAll {offers : List (κ × ν)} {entry : Rank ν × κ} :
    entry ∈ rankAll offers ↔
      offers[entry.1.sequence]? = some (entry.2, entry.1.score) := by
  obtain ⟨⟨score, sequence⟩, item⟩ := entry
  rw [(rankAll_perm offers).mem_iff]
  simp [List.mem_zipIdx_iff_getElem?]

theorem length_rankAll (offers : List (κ × ν)) : (rankAll offers).length = offers.length := by
  simpa using (rankAll_perm offers).length_eq

theorem map_snd_rankAll_perm (offers : List (κ × ν)) :
    ((rankAll offers).map Prod.snd).Perm (offers.map Prod.fst) := by
  have hitems : offers.map Prod.fst = (offers.zipIdx.map fun (offer, sequence) =>
      ((⟨offer.2, sequence⟩ : Rank ν), offer.1)).map Prod.snd := by
    conv_lhs => rw [← List.zipIdx_map_fst 0 offers, List.map_map]
    rw [List.map_map]
    rfl
  rw [hitems]
  exact (rankAll_perm offers).map Prod.snd

variable {offers : List (κ × ν)}

/-- Each item of `rankAll` precedes those after it. -/
theorem pairwise_rankAll [ScoreOrder ν] (h : ∀ offer ∈ offers, offer.2 ≤ offer.2) :
    (rankAll offers).Pairwise fun a b => a.1.precedes b.1 = true := by
  induction offers using List.reverseRecOn with
  | nil => exact .nil
  | append_singleton offers offer ih =>
    have hoffers : ∀ o ∈ offers, o.2 ≤ o.2 := fun o ho => h o (List.mem_append_left _ ho)
    rw [rankAll_concat]
    refine pairwise_insertRanked _ (h offer (by simp)) (fun entry hentry => ?_) (ih hoffers)
    have hget := mem_rankAll.1 hentry
    obtain ⟨hlt, -⟩ := List.getElem?_eq_some_iff.1 hget
    exact ⟨hoffers _ (List.mem_of_getElem? hget), Nat.ne_of_lt hlt⟩

theorem zipIdxLE_iff {β : Type} {le : β → β → Bool} {a b : β × ℕ} :
    List.zipIdxLE le a b = true ↔ le a.1 b.1 = true ∧ (le b.1 a.1 = true → a.2 ≤ b.2) := by
  by_cases hab : le a.1 b.1 = true <;> by_cases hba : le b.1 a.1 = true <;>
    simp [List.zipIdxLE, hab, hba]

/-- A list of elements that are all comparable is sorted by `mergeSort`. -/
theorem pairwise_mergeSort_of_mem {β : Type} {le : β → β → Bool} {l : List β}
    (htrans : ∀ a b c, le a b = true → le b c = true → le a c = true)
    (htotal : ∀ a ∈ l, ∀ b ∈ l, (le a b || le b a) = true) :
    (l.mergeSort le).Pairwise fun a b => le a b = true := by
  let leOn : {a // a ∈ l} → {a // a ∈ l} → Bool := fun a b => le a.1 b.1
  have hsorted : (l.attach.mergeSort leOn).Pairwise fun a b => leOn a b = true :=
    List.pairwise_mergeSort (fun a b c => htrans a.1 b.1 c.1)
      (fun a b => htotal a.1 a.2 b.1 b.2) l.attach
  have hmap : (l.attach.mergeSort leOn).map Subtype.val = l.mergeSort le := by
    rw [List.map_mergeSort (s := le) (fun _ _ _ _ => rfl), List.attach_map_subtype_val]
  rw [← hmap, List.pairwise_map]
  exact hsorted

/-- Whether the score of an offer is not below that of another. -/
def notBelow (a b : κ × ν) : Bool :=
  b.2 ≤ a.2

/-- A ranked item as an offer with its number. -/
def numbered (entry : Rank ν × κ) : (κ × ν) × ℕ :=
  ((entry.2, entry.1.score), entry.1.sequence)

/-- Numbered offers can be sorted by score and then by number. -/
theorem pairwise_mergeSort_zipIdx [ScoreOrder ν] (h : ∀ offer ∈ offers, offer.2 ≤ offer.2) :
    (offers.zipIdx.mergeSort (List.zipIdxLE notBelow)).Pairwise
      fun a b => List.zipIdxLE notBelow a b = true := by
  have htrans : ∀ a b c : κ × ν, notBelow a b = true → notBelow b c = true →
      notBelow a c = true := by
    intro a b c hab hbc
    rw [notBelow, decide_eq_true_eq] at hab hbc ⊢
    exact ScoreOrder.le_trans hbc hab
  refine pairwise_mergeSort_of_mem (List.zipIdxLE_trans htrans) fun a ha b hb => ?_
  have hvalid : ∀ c ∈ offers.zipIdx, c.1.2 ≤ c.1.2 :=
    fun c hc => h c.1 (List.fst_mem_of_mem_zipIdx hc)
  have htotal : notBelow a.1 b.1 = true ∨ notBelow b.1 a.1 = true := by
    simpa [notBelow] using ScoreOrder.le_total (hvalid b hb) (hvalid a ha)
  rw [Bool.or_eq_true, zipIdxLE_iff, zipIdxLE_iff]
  rcases Nat.le_total a.2 b.2 with hle | hle <;> tauto

/-- Ranked items stand in the same order. -/
theorem pairwise_numbered [ScoreOrder ν] (h : ∀ offer ∈ offers, offer.2 ≤ offer.2) :
    ((rankAll offers).map numbered).Pairwise fun a b => List.zipIdxLE notBelow a b = true := by
  rw [List.pairwise_map]
  refine (pairwise_rankAll h).imp_of_mem fun ha hb hprecedes => ?_
  have hscore := (Rank.precedes_iff (h _ (List.mem_of_getElem? (mem_rankAll.1 ha)))
    (h _ (List.mem_of_getElem? (mem_rankAll.1 hb)))).1 hprecedes
  refine zipIdxLE_iff.2 ⟨decide_eq_true hscore.1, fun hle => ?_⟩
  exact Nat.le_of_lt (hscore.2 (of_decide_eq_true hle))

/-- All offered items by rank are the offers sorted by descending score, where offers of equal
scores keep their order. -/
theorem map_rankAll [ScoreOrder ν] (h : ∀ offer ∈ offers, offer.2 ≤ offer.2) :
    (rankAll offers).map (fun entry => (entry.2, entry.1.score)) =
      offers.mergeSort fun a b => b.2 ≤ a.2 := by
  have hperm : ((rankAll offers).map numbered).Perm
      (offers.zipIdx.mergeSort (List.zipIdxLE notBelow)) := by
    refine .trans ?_ (List.mergeSort_perm _ _).symm
    simpa [Function.comp_def, numbered] using (rankAll_perm offers).map numbered
  have hoffers : ∀ c ∈ offers.zipIdx.mergeSort (List.zipIdxLE notBelow),
      offers[c.2]? = some c.1 :=
    fun c hc => List.mem_zipIdx_iff_getElem?.1 (List.mem_mergeSort.1 hc)
  have hsame : (rankAll offers).map numbered =
      offers.zipIdx.mergeSort (List.zipIdxLE notBelow) := by
    refine hperm.eq_of_pairwise (fun a b ha hb hab hba => ?_) (pairwise_numbered h)
      (pairwise_mergeSort_zipIdx h)
    -- Two offers that stand before each other have the same number, and so are the same.
    rw [zipIdxLE_iff] at hab hba
    have hnumber : a.2 = b.2 := Nat.le_antisymm (hab.2 hba.1) (hba.2 hab.1)
    have ha' := hoffers a (hperm.mem_iff.1 ha)
    have hb' := hoffers b hb
    rw [hnumber] at ha'
    exact Prod.ext (Option.some.inj (ha'.symm.trans hb')) hnumber
  show _ = offers.mergeSort notBelow
  rw [← List.mergeSort_zipIdx, ← hsame, List.map_map]
  rfl

/-! ### The first items of a list without bound -/

/-- Where there are less than `n` items, one more comes among the first `n`. -/
theorem take_rankAll_concat_of_lt {n : ℕ} (offer : κ × ν) (h : offers.length < n) :
    (rankAll (offers ++ [offer])).take n =
      insertRanked ⟨offer.2, offers.length⟩ offer.1 ((rankAll offers).take n) := by
  have hall : (rankAll offers).length ≤ n := by rw [length_rankAll]; omega
  have hmore : (rankAll (offers ++ [offer])).length ≤ n := by
    rw [length_rankAll, List.length_append, List.length_singleton]
    omega
  rw [List.take_of_length_le hmore, List.take_of_length_le hall, rankAll_concat]

section

variable [ScoreOrder ν] {m : ℕ} {offer : κ × ν} {lowest : Rank ν × κ}

/-- An item that precedes the last of the first items takes its place. -/
theorem take_rankAll_concat_of_precedes (hoffers : ∀ offer ∈ offers, offer.2 ≤ offer.2)
    (hoffer : offer.2 ≤ offer.2) (hlowest : (rankAll offers)[m]? = some lowest)
    (h : (⟨offer.2, offers.length⟩ : Rank ν).precedes lowest.1 = true) :
    (rankAll (offers ++ [offer])).take (m + 1) =
      insertRanked ⟨offer.2, offers.length⟩ offer.1 ((rankAll offers).take m) := by
  rw [rankAll_concat]
  refine take_succ_insertRanked offer.1 fun entry hentry => ?_
  obtain rfl : lowest = entry := Option.some.inj (hlowest.symm.trans hentry)
  have hvalid : lowest.1.score ≤ lowest.1.score :=
    hoffers _ (List.mem_of_getElem? (mem_rankAll.1 (List.mem_of_getElem? hlowest)))
  exact Rank.precedes_asymm hoffer hvalid h

/-- An item that does not precede the last of the first items leaves them as they are. -/
theorem take_rankAll_concat_of_not_precedes (hoffers : ∀ offer ∈ offers, offer.2 ≤ offer.2)
    (hoffer : offer.2 ≤ offer.2) (hlowest : (rankAll offers)[m]? = some lowest)
    (h : (⟨offer.2, offers.length⟩ : Rank ν).precedes lowest.1 = false) :
    (rankAll (offers ++ [offer])).take (m + 1) = (rankAll offers).take (m + 1) := by
  have hentry : ∀ entry ∈ rankAll offers, entry.1.score ≤ entry.1.score ∧
      entry.1.sequence < offers.length := by
    intro entry hmem
    obtain ⟨hlt, -⟩ := List.getElem?_eq_some_iff.1 (mem_rankAll.1 hmem)
    exact ⟨hoffers _ (List.mem_of_getElem? (mem_rankAll.1 hmem)), hlt⟩
  obtain ⟨hm, hget⟩ := List.getElem?_eq_some_iff.1 hlowest
  have hlowestMem : lowest ∈ rankAll offers := List.mem_of_getElem? hlowest
  have hlast : lowest.1.precedes ⟨offer.2, offers.length⟩ = true := by
    refine (Rank.precedes_or_precedes (hentry lowest hlowestMem).1 hoffer ?_).resolve_right
      (by rw [h]; exact Bool.false_ne_true)
    exact Nat.ne_of_lt (hentry lowest hlowestMem).2
  rw [rankAll_concat]
  -- The first items precede the last of them, or are it, and it precedes the new one.
  refine take_insertRanked_of_precedes offer.1 hm fun entry hmem => ?_
  obtain ⟨i, hi, rfl⟩ := List.mem_take_iff_getElem.1 hmem
  have hi' : i < (rankAll offers).length := by omega
  rcases Nat.lt_or_ge i m with hlt | hge
  · have hbefore : ((rankAll offers)[i]).1.precedes lowest.1 = true :=
      hget ▸ List.pairwise_iff_getElem.1 (pairwise_rankAll hoffers) i m hi' hm hlt
    exact Rank.precedes_trans (hentry _ (List.getElem_mem hi')).1 (hentry lowest hlowestMem).1
      hoffer hbefore hlast
  · obtain rfl : i = m := by omega
    rw [hget]
    exact hlast

end

/-! ### Lists of bounded capacity -/

variable [DecidableEq κ] {n : ℕ} {list : RankedList κ ν}

/-- What holds of a list of capacity `n` to which different items were offered, none of them with
NaN: it has the first `n` of all the items. -/
structure IsTopOf (n : ℕ) (offers : List (κ × ν)) (list : RankedList κ ν) : Prop where
  capacity_eq : list.capacity = n
  arrivals_eq : list.arrivals = offers.length
  ranked_eq : list.ranked = (rankAll offers).take n
  find?_eq_none : ∀ item ∉ offers.map Prod.fst, list.index.find? item = none

theorem isTopOf_empty (n : ℕ) : IsTopOf n [] (empty n : RankedList κ ν) :=
  ⟨rfl, rfl, List.take_nil.symm, fun _ _ => rfl⟩

theorem IsTopOf.length_eq (h : IsTopOf n offers list) :
    list.ranked.length = min n offers.length := by
  rw [h.ranked_eq, List.length_take, length_rankAll]

/-- A score that is NaN is no offer. -/
theorem add_of_not_le {item : κ} {score : ν} (h : ¬score ≤ score) :
    (list.add item score).2 = list := by
  simp [add, h]

/-- A new item is rejected, or is placed, in a full list for the last item. -/
theorem add_of_find?_eq_none {item : κ} {score : ν} (h : score ≤ score)
    (hfind : list.index.find? item = none) :
    (list.add item score).2 =
      let arrived := { list with arrivals := list.arrivals + 1 }
      if list.admits ⟨score, list.arrivals⟩ then
        (if list.ranked.length < list.capacity then arrived else arrived.dropLast).place item
          ⟨score, list.arrivals⟩
      else arrived := by
  simp only [add, h, not_true_eq_false, if_false, hfind]
  split <;> rename_i hadmits
  · simp_all
  · simp_all
    split <;> rfl

theorem find?_index_place {item other : κ} {rank : Rank ν} (h : list.index.find? other = none)
    (hne : other ≠ item) : (list.place item rank).index.find? other = none := by
  simp [place, hne, h]

omit [LE ν] [DecidableLE ν] in
theorem find?_index_dropLast {item : κ} (h : list.index.find? item = none) :
    list.dropLast.index.find? item = none := by
  unfold dropLast
  cases list.ranked.getLast? with
  | none => exact h
  | some lowest => simp [h]

/-- Of a full list, the last item is the one at the end of the first `n`. -/
theorem IsTopOf.getLast? {m : ℕ} (h : IsTopOf (m + 1) offers list)
    (hfull : ¬list.ranked.length < list.capacity) :
    ∃ lowest, (rankAll offers)[m]? = some lowest ∧ list.ranked.getLast? = some lowest := by
  rw [h.length_eq, h.capacity_eq] at hfull
  have hm : m < (rankAll offers).length := by rw [length_rankAll]; omega
  refine ⟨(rankAll offers)[m], List.getElem?_eq_getElem hm, ?_⟩
  rw [h.ranked_eq, List.getLast?_eq_getElem?, List.length_take, Nat.min_eq_left (by omega),
    Nat.add_sub_cancel, List.getElem?_take_of_lt (Nat.lt_succ_self m), List.getElem?_eq_getElem hm]

/-- What a list has to be after one more offer. -/
theorem IsTopOf.concat (h : IsTopOf n offers list) {item : κ} {score : ν} {later : RankedList κ ν}
    (hcapacity : later.capacity = list.capacity) (harrivals : later.arrivals = list.arrivals + 1)
    (hranked : later.ranked = (rankAll (offers ++ [(item, score)])).take n)
    (hindex : ∀ other, other ≠ item → list.index.find? other = none →
      later.index.find? other = none) : IsTopOf n (offers ++ [(item, score)]) later := by
  refine ⟨hcapacity.trans h.capacity_eq, ?_, hranked, fun other hother => ?_⟩
  · rw [harrivals, h.arrivals_eq, List.length_append, List.length_singleton]
  · rw [List.map_append, List.mem_append, not_or] at hother
    exact hindex other (by simpa using hother.2) (h.find?_eq_none other hother.1)

/-- One more offer, of a new item, keeps the first `n` items. -/
theorem IsTopOf.add [ScoreOrder ν] (h : IsTopOf n offers list)
    (hoffers : ∀ offer ∈ offers, offer.2 ≤ offer.2) {item : κ} {score : ν}
    (hscore : score ≤ score) (hitem : item ∉ offers.map Prod.fst) :
    IsTopOf n (offers ++ [(item, score)]) (list.add item score).2 := by
  rw [add_of_find?_eq_none hscore (h.find?_eq_none item hitem)]
  by_cases hroom : list.ranked.length < list.capacity
  · -- There is room, and all offers so far are listed.
    have hlt : offers.length < n := by
      have := h.length_eq
      have := h.capacity_eq
      omega
    simp only [admits, hroom, if_true]
    refine h.concat rfl rfl ?_ fun other hne hnone => find?_index_place hnone hne
    rw [take_rankAll_concat_of_lt _ hlt, ← h.ranked_eq, ← h.arrivals_eq]
    rfl
  · have hcapacity := h.capacity_eq
    cases n with
    | zero =>
      have hnone : list.ranked = [] := h.ranked_eq
      have hreject : list.admits ⟨score, list.arrivals⟩ = false := by
        simp [admits, hnone, hcapacity]
      rw [hreject]
      exact h.concat rfl rfl hnone fun other _ hnone => hnone
    | succ m =>
      -- The list is full, and the item has to precede the lowest.
      obtain ⟨lowest, hlowest, hlast⟩ := h.getLast? hroom
      have hpositive : 0 < list.capacity := by omega
      simp only [admits, hroom, hlast, hpositive, if_false, decide_true, Bool.true_and]
      by_cases hprecedes : (⟨score, list.arrivals⟩ : Rank ν).precedes lowest.1 = true
      · have hm : m + 1 ≤ (rankAll offers).length := (List.getElem?_eq_some_iff.1 hlowest).1
        have hdrop : list.ranked.dropLast = (rankAll offers).take m := by
          rw [h.ranked_eq, List.dropLast_eq_take, List.length_take, Nat.min_eq_left hm,
            Nat.add_sub_cancel, List.take_take, Nat.min_eq_left (Nat.le_succ m)]
        rw [if_pos hprecedes]
        refine h.concat rfl rfl ?_ fun other hne hnone =>
          find?_index_place (find?_index_dropLast hnone) hne
        rw [h.arrivals_eq] at hprecedes
        rw [take_rankAll_concat_of_precedes hoffers hscore hlowest hprecedes, ← hdrop,
          ← h.arrivals_eq]
        rfl
      · rw [if_neg hprecedes]
        refine h.concat rfl rfl ?_ fun other _ hnone => hnone
        rw [h.arrivals_eq] at hprecedes
        rw [take_rankAll_concat_of_not_precedes hoffers hscore hlowest
          (Bool.eq_false_iff.2 hprecedes)]
        exact h.ranked_eq

/-- Offers of different items, from the first `n` of the ones before them on. -/
theorem IsTopOf.addAll [ScoreOrder ν] (h : IsTopOf n offers list)
    (hoffers : ∀ offer ∈ offers, offer.2 ≤ offer.2) {more : List (κ × ν)}
    (hnodup : ((offers ++ more).map Prod.fst).Nodup) :
    IsTopOf n (offers ++ more.filter fun offer => offer.2 ≤ offer.2) (list.addAll more) := by
  induction more generalizing offers list with
  | nil => simpa [RankedList.addAll] using h
  | cons offer rest ih =>
    rw [RankedList.addAll, List.foldl_cons, ← RankedList.addAll]
    by_cases hoffer : offer.2 ≤ offer.2
    · have hnew : offer.1 ∉ offers.map Prod.fst := by
        rw [List.map_append, List.nodup_append] at hnodup
        exact fun hmem => hnodup.2.2 _ hmem _ (by simp) rfl
      have hnext := ih (h.add hoffers hoffer hnew) (by simpa [or_imp, forall_and, hoffer] using hoffers)
        (by simpa using hnodup)
      simpa [hoffer] using hnext
    · -- An offer with NaN changes neither the list nor the offers that count.
      have hrest : ((offers ++ rest).map Prod.fst).Nodup :=
        hnodup.sublist (((List.sublist_cons_self offer rest).append_left offers).map Prod.fst)
      rw [add_of_not_le hoffer, List.filter_cons_of_neg (by simpa using hoffer)]
      exact ih h hoffers hrest

/-- Of items that are offered once each, a list of capacity `n` has the first `n` by descending
score, those of equal scores in the order of the offers.  Offers with NaN do not count. -/
theorem toList_addAll_empty [ScoreOrder ν] {offers : List (κ × ν)} (n : ℕ)
    (h : (offers.map Prod.fst).Nodup) :
    ((empty n : RankedList κ ν).addAll offers).toList =
      ((offers.filter fun offer => offer.2 ≤ offer.2).mergeSort fun a b => b.2 ≤ a.2).take n := by
  have htop : IsTopOf n ([] ++ offers.filter fun offer => offer.2 ≤ offer.2)
      ((empty n).addAll offers) :=
    (isTopOf_empty n).addAll (by simp) h
  rw [toList, htop.ranked_eq, List.nil_append, ← map_rankAll, List.map_take]
  intro offer hoffer
  simpa using (List.mem_filter.1 hoffer).2

end RankedList

end NewsScoring
