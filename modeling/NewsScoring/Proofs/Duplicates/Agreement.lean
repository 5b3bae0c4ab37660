import NewsScoring.Proofs.Duplicates.Search
import NewsScoring.Proofs.Duplicates.Selection

/-!
# Two ways to decide on an article

Going through articles, `withoutDuplicates` drops one that repeats an article it has kept.  The same
is found out by a search among the kept articles: an article is dropped exactly if `findDuplicates`
lists a duplicate among the articles that are kept before it, and is kept exactly if the search
lists none or fails because the article has no weights (`withoutDuplicates_drops_iff_found`).  This
needs different identifiers, since a search passes over the candidates of the article's own one.
-/

namespace NewsScoring.Duplicates

/-! ### The decision on one element -/

section

variable {β : Type} {repeats : β → β → Bool} {before after : List β} {x : β}

/-- The kept elements are those kept up to an element, and some of those that come behind it. -/
theorem exists_sublist_firsts_middle_eq (repeats : β → β → Bool) (before : List β) (x : β)
    (after : List β) :
    ∃ rest, rest.Sublist after ∧ firsts repeats (before ++ x :: after) =
      addFirst repeats (firsts repeats before) x ++ rest := by
  rw [firsts_append, List.foldl_cons]
  exact exists_sublist_foldl_addFirst_eq _ after

theorem firsts_sublist (l : List β) : (firsts repeats l).Sublist l :=
  (isGreedy_firsts l).sublist

/-- An element is kept exactly if it repeats none of those that are kept before it. -/
theorem mem_firsts_middle_iff (hnodup : (before ++ x :: after).Nodup) :
    x ∈ firsts repeats (before ++ x :: after) ↔
      (firsts repeats before).any (repeats x) = false := by
  obtain ⟨-, hafter, hdisjoint⟩ := List.nodup_append.1 hnodup
  have hnotAfter : x ∉ after := (List.nodup_cons.1 hafter).1
  have hnotBefore : x ∉ firsts repeats before := fun hmem =>
    hdisjoint x ((firsts_sublist before).subset hmem) x List.mem_cons_self rfl
  obtain ⟨rest, hrest, heq⟩ := exists_sublist_firsts_middle_eq repeats before x after
  have hnotRest : x ∉ rest := fun hmem => hnotAfter (hrest.subset hmem)
  rw [heq, addFirst]
  split
  · rename_i hrepeats
    simp [hnotBefore, hnotRest, hrepeats]
  · rename_i hnone
    simp [hnone]

/-- Of the kept elements, those that stand before an element are those kept of the list before
it. -/
theorem filter_firsts_middle [DecidableEq β] (hnodup : (before ++ x :: after).Nodup) :
    (firsts repeats (before ++ x :: after)).filter (· ∈ before) = firsts repeats before := by
  obtain ⟨-, -, hdisjoint⟩ := List.nodup_append.1 hnodup
  obtain ⟨rest, hrest, heq⟩ := exists_sublist_firsts_middle_eq repeats before x after
  have hbefore : (firsts repeats before).filter (· ∈ before) = firsts repeats before :=
    List.filter_eq_self.2 fun y hy => decide_eq_true ((firsts_sublist before).subset hy)
  have hx : x ∉ before := fun hmem => hdisjoint x hmem x List.mem_cons_self rfl
  have hbehind : rest.filter (· ∈ before) = [] := by
    refine List.filter_eq_nil_iff.2 fun y hy hmem => ?_
    exact hdisjoint y (of_decide_eq_true hmem) y (List.mem_cons_of_mem x (hrest.subset hy)) rfl
  rw [heq, addFirst, List.filter_append, hbehind, List.append_nil]
  split
  · exact hbefore
  · rw [List.filter_append, hbefore]
    simp [hx]

end

/-! ### The decision by a search -/

variable {α : Type} [Scalar α] {w : Weighing (Except ScoringError) α}
  {settings : DuplicateSettings α} {document other : Document} {weights : WeightVector α}
  {kept documents : List Document}

/-- An article repeats one of another identifier exactly if that one counts as its duplicate. -/
theorem repeats_iff_exists_qualifies (hweights : w.document document = .ok weights)
    (hzero : weights.isZero = false) (hid : other.id ≠ document.id) :
    repeats w settings document other = true ↔
      ∃ similarity, Qualifies w settings document weights other similarity := by
  rw [repeats_eq_true_iff]
  constructor
  · rintro ⟨weights', otherWeights, similarity, hweights', hother, -, hotherZero, hcosine,
      hduplicate⟩
    obtain rfl : weights = weights' := Except.ok.inj (hweights.symm.trans hweights')
    rw [DuplicateSettings.isDuplicate, Bool.and_eq_true, decide_eq_true_eq] at hduplicate
    exact ⟨similarity, (qualifies_iff hother).2
      ⟨⟨hid, hduplicate.1⟩, hotherZero, hcosine, hduplicate.2⟩⟩
  · rintro ⟨similarity, hqualifies⟩
    obtain ⟨otherWeights, hother, hotherZero, hcosine⟩ := hqualifies.exists_weights
    obtain ⟨⟨-, hwindow⟩, -, -, hthreshold⟩ := (qualifies_iff hother).1 hqualifies
    refine ⟨weights, otherWeights, similarity, hweights, hother, hzero, hotherZero, hcosine, ?_⟩
    rw [DuplicateSettings.isDuplicate, hwindow, Bool.true_and]
    exact decide_eq_true hthreshold

/-- A search for an article without weights fails. -/
theorem findDuplicates_of_isZero (hweights : w.document document = .ok weights)
    (hzero : weights.isZero = true) (candidates : List Document) :
    findDuplicates w settings document candidates = .error .zeroVector := by
  rw [findDuplicates, hweights, ok_bind, if_pos hzero]
  rfl

/-- A search among articles of other identifiers finds out whether one of them is repeated. -/
theorem exists_findDuplicates_eq_ok_ne_nil_iff [ScoreOrder α]
    (hweights : w.document document = .ok weights) (hzero : weights.isZero = false)
    (hkept : w.Derives kept) (hids : ∀ other ∈ kept, other.id ≠ document.id) :
    ∃ relations, findDuplicates w settings document kept = .ok relations ∧
      (relations ≠ [] ↔ kept.any (repeats w settings document) = true) := by
  obtain ⟨relations, hrelations, hmem⟩ := exists_findDuplicates_eq_ok settings hweights hzero hkept
  refine ⟨relations, hrelations, ?_⟩
  rw [List.any_eq_true]
  constructor
  · intro hne
    obtain ⟨relation, hrelation⟩ := List.exists_mem_of_ne_nil relations hne
    obtain ⟨other, hother, -, hqualifies⟩ :=
      (hmem relation.otherId).1 (List.mem_map_of_mem hrelation)
    exact ⟨other, hother,
      (repeats_iff_exists_qualifies hweights hzero (hids other hother)).2 hqualifies⟩
  · rintro ⟨other, hother, hrepeats⟩ hnil
    have hqualifies :=
      (repeats_iff_exists_qualifies hweights hzero (hids other hother)).1 hrepeats
    have hlisted := (hmem other.id).2 ⟨other, hother, rfl, hqualifies⟩
    rw [hnil] at hlisted
    exact List.not_mem_nil hlisted

/-- Of articles of different identifiers, those are dropped for which a search among the articles
that are kept before them lists a duplicate, and those are kept for which it lists none or fails
because all their weights are zero. -/
theorem withoutDuplicates_drops_iff_found [ScoreOrder α] (h : w.Derives documents)
    (hids : (documents.map Document.id).Nodup) (settings : DuplicateSettings α) :
    ∃ result, withoutDuplicates w settings documents = .ok result ∧
      ∀ before document after, documents = before ++ document :: after →
        (document ∉ result ↔ ∃ relations,
          findDuplicates w settings document (result.filter (· ∈ before)) = .ok relations ∧
            relations ≠ []) ∧
        (document ∈ result ↔
          findDuplicates w settings document (result.filter (· ∈ before)) = .ok [] ∨
          findDuplicates w settings document (result.filter (· ∈ before)) = .error .zeroVector ∧
            ∃ weights, w.document document = .ok weights ∧ weights.isZero = true) := by
  refine ⟨_, withoutDuplicates_eq_ok h, ?_⟩
  rintro before document after rfl
  rw [filter_firsts_middle hids.of_map, mem_firsts_middle_iff hids.of_map]
  have hsubset : firsts (repeats w settings) before ⊆ before := (firsts_sublist before).subset
  have hkept : w.Derives (firsts (repeats w settings) before) :=
    h.subset fun other hmem => List.mem_append_left _ (hsubset hmem)
  have hothers : ∀ other ∈ firsts (repeats w settings) before, other.id ≠ document.id := by
    intro other hmem
    rw [List.map_append] at hids
    exact (List.nodup_append.1 hids).2.2 _ (List.mem_map_of_mem (hsubset hmem)) _
      (List.mem_map_of_mem List.mem_cons_self)
  obtain ⟨weights, hweights⟩ := h document (by simp)
  cases hzero : weights.isZero with
  | true =>
    -- An article without weights repeats none, and there is nothing to search for.
    simp [findDuplicates_of_isZero hweights hzero, any_repeats_of_isZero hweights hzero, hweights,
      hzero]
  | false =>
    obtain ⟨relations, hrelations, hfound⟩ :=
      exists_findDuplicates_eq_ok_ne_nil_iff hweights hzero hkept hothers
    rw [hrelations, ← Bool.not_eq_true, ← hfound]
    simp [hweights]

/-- Of the articles on wheat, the second is dropped, and a search for it among the articles kept
before it lists a duplicate; the third has no weights and is kept. -/
theorem withoutDuplicates_drops_iff_found_wheatNews :
    letI := Scalar.float fun _ => 13.815510557964274
    letI w : Weighing (Except ScoringError) Float := .plain ⟨⟨[]⟩⟩ ⟨0, 1, .empty⟩
    (w.Derives wheatNews ∧ (wheatNews.map Document.id).Nodup) ∧
      ∃ result, withoutDuplicates w .standard wheatNews = .ok result ∧
        (∃ relations, findDuplicates w .standard { id := "b", title := "Wheat" }
            (result.filter (· ∈ [{ id := "a", title := "Wheat" }])) = .ok relations ∧
          relations ≠ []) ∧
        (findDuplicates w .standard { id := "c" } (result.filter (· ∈ wheatNews.take 2)) = .ok [] ∨
          findDuplicates w .standard { id := "c" } (result.filter (· ∈ wheatNews.take 2)) =
              .error .zeroVector ∧
            ∃ weights, w.document { id := "c" } = .ok weights ∧ weights.isZero = true) := by
  let : Scalar Float := .float fun _ => 13.815510557964274
  let w : Weighing (Except ScoringError) Float := .plain ⟨⟨[]⟩⟩ ⟨0, 1, .empty⟩
  have hderives : w.Derives wheatNews :=
    fun _ _ => Weighing.exists_document_plain_eq_ok_iff.2 (Nat.le_refl 1)
  have hids : (wheatNews.map Document.id).Nodup := by decide
  obtain ⟨result, hresult, hagree⟩ := withoutDuplicates_drops_iff_found hderives hids .standard
  have hkept : withoutDuplicates w .standard wheatNews =
      .ok [{ id := "a", title := "Wheat" }, { id := "c" }] := by
    decide +kernel
  obtain rfl : result = [{ id := "a", title := "Wheat" }, { id := "c" }] :=
    Except.ok.inj (hresult.symm.trans hkept)
  exact ⟨⟨hderives, hids⟩, _, hresult, (hagree [_] _ [_] rfl).1.1 (by decide),
    (hagree (wheatNews.take 2) _ [] rfl).2.1 (by decide)⟩

end NewsScoring.Duplicates
