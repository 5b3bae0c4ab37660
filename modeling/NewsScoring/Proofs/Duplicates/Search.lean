import NewsScoring.Duplicates
import NewsScoring.Proofs.Outcome
import NewsScoring.Proofs.RankedList.Roomy
import NewsScoring.Proofs.Weighing.Plain

/-!
# What a search for duplicates finds

The candidates that count for an article are those of another identifier, published within the
window, whose vector is not zero and similar enough (`Qualifies`).  If the vector of the article is
not zero, the search succeeds whatever the candidates are.  It lists each identifier of a candidate
that counts once, with the similarity of the last one of that identifier, by descending similarity;
of identifiers with one similarity, the one that a candidate had first comes first
(`findDuplicates_lists_qualifying`).
-/

namespace NewsScoring.Duplicates

variable {α : Type} [Scalar α]

/-! ### Candidates that count -/

section

variable (w : Weighing (Except ScoringError) α) (settings : DuplicateSettings α)
  (subject : Document) (weights : WeightVector α)

/-- Whether a candidate counts as a duplicate of a subject of the given weights, with the given
similarity to it. -/
structure Qualifies (candidate : Document) (similarity : α) : Prop where
  id_ne : candidate.id ≠ subject.id
  lt_window : (candidate.publishedAt.nanosecondsSince subject.publishedAt).natAbs <
    settings.windowNanoseconds
  exists_weights : ∃ other, w.document candidate = .ok other ∧ other.isZero = false ∧
    weights.cosine other = .ok similarity
  threshold_le : settings.threshold ≤ similarity

/-- Whether the last candidate of an identifier that counts has the given similarity. -/
def IsLatest (candidates : List Document) (id : String) (similarity : α) : Prop :=
  ∃ before candidate after, candidates = before ++ candidate :: after ∧ candidate.id = id ∧
    Qualifies w settings subject weights candidate similarity ∧
    ∀ later ∈ after, later.id = id → ∀ s, ¬Qualifies w settings subject weights later s

/-- Whether a candidate of the first identifier counts before any one of the second does. -/
def ComesFirst (candidates : List Document) (first second : String) : Prop :=
  ∃ before candidate after, candidates = before ++ candidate :: after ∧ candidate.id = first ∧
    (∃ s, Qualifies w settings subject weights candidate s) ∧
    ∀ earlier ∈ before, earlier.id = second →
      ∀ s, ¬Qualifies w settings subject weights earlier s

/-- The offer that a candidate makes to the list of duplicates. -/
def offer? (candidate : Document) : Option (String × α) :=
  match similarityOf? w settings subject weights candidate with
  | .ok similarity => similarity.map (candidate.id, ·)
  | .error _ => none

end

variable {w : Weighing (Except ScoringError) α} {settings : DuplicateSettings α}
  {subject : Document} {weights : WeightVector α} {candidate : Document}

theorem qualifies_iff {other : WeightVector α} (hother : w.document candidate = .ok other)
    {similarity : α} :
    Qualifies w settings subject weights candidate similarity ↔
      (candidate.id ≠ subject.id ∧ settings.inWindow
        (candidate.publishedAt.nanosecondsSince subject.publishedAt) = true) ∧
      other.isZero = false ∧ weights.cosine other = .ok similarity ∧
      settings.threshold ≤ similarity := by
  rw [DuplicateSettings.inWindow, decide_eq_true_eq]
  constructor
  · rintro ⟨hid, hwindow, ⟨vector, hvector, hzero, hcosine⟩, hthreshold⟩
    obtain rfl : other = vector := Except.ok.inj (hother.symm.trans hvector)
    exact ⟨⟨hid, hwindow⟩, hzero, hcosine, hthreshold⟩
  · rintro ⟨⟨hid, hwindow⟩, hzero, hcosine, hthreshold⟩
    exact ⟨hid, hwindow, ⟨other, hother, hzero, hcosine⟩, hthreshold⟩

/-- What comes of looking at a candidate that has a vector: its similarity if it counts, and else
nothing. -/
theorem exists_similarityOf?_eq_ok (hzero : weights.isZero = false) {other : WeightVector α}
    (hother : w.document candidate = .ok other) :
    ∃ result, similarityOf? w settings subject weights candidate = .ok result ∧
      ∀ similarity, result = some similarity ↔
        Qualifies w settings subject weights candidate similarity := by
  simp only [qualifies_iff hother]
  unfold similarityOf?
  by_cases hskip : (candidate.id == subject.id || !settings.inWindow
      (candidate.publishedAt.nanosecondsSince subject.publishedAt)) = true
  · -- The article itself, or one outside of the window, is skipped without a look at its vector.
    refine ⟨none, by rw [if_pos hskip]; rfl, fun similarity => ⟨by simp, fun h => ?_⟩⟩
    rw [beq_eq_false_iff_ne.2 h.1.1, h.1.2] at hskip
    cases hskip
  · rw [if_neg hskip, hother]
    rw [Bool.or_eq_true, not_or, beq_iff_eq, Bool.not_eq_true', Bool.not_eq_false] at hskip
    cases hotherZero : other.isZero with
    | true => exact ⟨none, by simp [bind, Except.bind, hotherZero]; rfl, by simp⟩
    | false =>
      obtain ⟨similarity, hcosine⟩ := WeightVector.exists_cosine_eq_ok hzero hotherZero
      refine ⟨if settings.threshold ≤ similarity then some similarity else none, ?_,
        fun similarity' => ?_⟩
      · simp [bind, Except.bind, hotherZero, hcosine, DuplicateSettings.isDuplicate, hskip.2]
        rfl
      · rw [hcosine, Except.ok.injEq]
        by_cases hthreshold : settings.threshold ≤ similarity
        · rw [if_pos hthreshold, Option.some.injEq]
          refine ⟨?_, fun h => h.2.2.1⟩
          rintro rfl
          exact ⟨hskip, rfl, rfl, hthreshold⟩
        · rw [if_neg hthreshold]
          refine ⟨by simp, ?_⟩
          rintro ⟨-, -, rfl, hthreshold'⟩
          exact absurd hthreshold' hthreshold

theorem offer?_eq_some_iff (hzero : weights.isZero = false)
    (hderived : ∃ vector, w.document candidate = .ok vector) {id : String} {similarity : α} :
    offer? w settings subject weights candidate = some (id, similarity) ↔
      candidate.id = id ∧ Qualifies w settings subject weights candidate similarity := by
  obtain ⟨other, hother⟩ := hderived
  obtain ⟨result, hresult, hqualifies⟩ := exists_similarityOf?_eq_ok hzero hother
  rw [offer?, hresult, ← hqualifies]
  cases result <;> simp

/-! ### The ranked offers -/

variable {candidates : List Document}

/-- An article whose vector is not zero has as its duplicates the ranked offers of the
candidates. -/
theorem findDuplicates_eq_ok (hweights : w.document subject = .ok weights)
    (hzero : weights.isZero = false) (hderived : w.Derives candidates) :
    findDuplicates w settings subject candidates =
      .ok (((RankedList.empty candidates.length).addAll
        (candidates.filterMap (offer? w settings subject weights))).toList.map
          fun (otherId, similarity) => ⟨otherId, similarity⟩) := by
  have hoffers : (candidates.mapM fun candidate => do
      let similarity ← similarityOf? w settings subject weights candidate
      return similarity.map (candidate.id, ·)) =
        .ok (candidates.map (offer? w settings subject weights)) := by
    refine mapM_eq_ok fun candidate hmem => ?_
    obtain ⟨other, hother⟩ := hderived candidate hmem
    obtain ⟨result, hresult, -⟩ := exists_similarityOf?_eq_ok hzero hother
    rw [offer?, hresult]
    rfl
  have hlisted : (candidates.map (offer? w settings subject weights)).filterMap id =
      candidates.filterMap (offer? w settings subject weights) := by
    rw [List.filterMap_map]
    rfl
  rw [← hlisted, findDuplicates, hweights]
  simp only [bind, Except.bind, hzero] at hoffers ⊢
  rw [if_neg Bool.false_ne_true]
  simp only [hoffers]
  rfl

/-! ### Offers and candidates -/

/-- A result between others comes from an element between those of the others. -/
theorem exists_of_filterMap_eq_append_cons {γ δ : Type} {f : γ → Option δ} {l : List γ}
    {before after : List δ} {x : δ} (h : l.filterMap f = before ++ x :: after) :
    ∃ front y back, l = front ++ y :: back ∧ front.filterMap f = before ∧ f y = some x ∧
      back.filterMap f = after := by
  obtain ⟨front, rest, rfl, hfront, hrest⟩ := List.filterMap_eq_append_iff.1 h
  obtain ⟨skipped, y, back, rfl, hskipped, hy, hback⟩ := List.filterMap_eq_cons_iff.1 hrest
  refine ⟨front ++ skipped, y, back, by rw [List.append_assoc], ?_, hy, hback⟩
  rw [List.filterMap_append, hfront, List.filterMap_eq_nil_iff.2 hskipped, List.append_nil]

/-- An identifier is not offered exactly if no candidate of it counts. -/
theorem notMem_offers_iff (hzero : weights.isZero = false) (hderived : w.Derives candidates)
    {id : String} :
    id ∉ (candidates.filterMap (offer? w settings subject weights)).map Prod.fst ↔
      ∀ candidate ∈ candidates, candidate.id = id →
        ∀ s, ¬Qualifies w settings subject weights candidate s := by
  constructor
  · intro hmem candidate hcandidate hid s hqualifies
    have hoffer := (offer?_eq_some_iff hzero (hderived candidate hcandidate)).2 ⟨hid, hqualifies⟩
    exact hmem (List.mem_map.2 ⟨_, List.mem_filterMap.2 ⟨candidate, hcandidate, hoffer⟩, rfl⟩)
  · intro hnone hmem
    obtain ⟨⟨key, s⟩, hoffered, rfl⟩ := List.mem_map.1 hmem
    obtain ⟨candidate, hcandidate, hoffer⟩ := List.mem_filterMap.1 hoffered
    obtain ⟨hid, hqualifies⟩ := (offer?_eq_some_iff hzero (hderived candidate hcandidate)).1 hoffer
    exact hnone candidate hcandidate hid s hqualifies

/-- The latest offer of an identifier is that of its last candidate that counts. -/
theorem find?_offers_eq_some_iff (hzero : weights.isZero = false) (hderived : w.Derives candidates)
    {id : String} {similarity : α} :
    (KeyedList.ofList (candidates.filterMap (offer? w settings subject weights))).find? id =
        some similarity ↔
      IsLatest w settings subject weights candidates id similarity := by
  rw [KeyedList.find?_ofList_eq_some_iff]
  constructor
  · rintro ⟨before, after, hsplit, hlast⟩
    obtain ⟨front, candidate, back, rfl, -, hoffer, rfl⟩ :=
      exists_of_filterMap_eq_append_cons hsplit
    have hback : w.Derives back := hderived.subset (by simp)
    obtain ⟨hid, hqualifies⟩ := (offer?_eq_some_iff hzero (hderived candidate (by simp))).1 hoffer
    exact ⟨front, candidate, back, rfl, hid, hqualifies, (notMem_offers_iff hzero hback).1 hlast⟩
  · rintro ⟨front, candidate, back, rfl, hid, hqualifies, hlast⟩
    have hback : w.Derives back := hderived.subset (by simp)
    have hoffer := (offer?_eq_some_iff hzero (hderived candidate (by simp))).2 ⟨hid, hqualifies⟩
    refine ⟨front.filterMap (offer? w settings subject weights), _, ?_,
      (notMem_offers_iff hzero hback).2 hlast⟩
    rw [List.filterMap_append, List.filterMap_cons_some hoffer]

/-- An identifier that is offered before another has a candidate that counts before all those of the
other. -/
theorem comesFirst_of_offers (hzero : weights.isZero = false) (hderived : w.Derives candidates)
    {first second : String} {before after : List (String × α)} {similarity : α}
    (hsplit : candidates.filterMap (offer? w settings subject weights) =
      before ++ (first, similarity) :: after)
    (hbefore : second ∉ before.map Prod.fst) :
    ComesFirst w settings subject weights candidates first second := by
  obtain ⟨front, candidate, back, rfl, rfl, hoffer, -⟩ := exists_of_filterMap_eq_append_cons hsplit
  have hfront : w.Derives front := hderived.subset (by simp)
  obtain ⟨hid, hqualifies⟩ := (offer?_eq_some_iff hzero (hderived candidate (by simp))).1 hoffer
  exact ⟨front, candidate, back, rfl, hid, ⟨similarity, hqualifies⟩,
    (notMem_offers_iff hzero hfront).1 hbefore⟩

/-! ### What is found -/

/-- The identifiers of the duplicates are those of the candidates that count. -/
theorem exists_findDuplicates_eq_ok [ScoreOrder α] (settings : DuplicateSettings α)
    (hweights : w.document subject = .ok weights) (hzero : weights.isZero = false)
    (hderived : w.Derives candidates) :
    ∃ relations, findDuplicates w settings subject candidates = .ok relations ∧
      ∀ id, id ∈ relations.map DuplicateRelation.otherId ↔
        ∃ candidate ∈ candidates, candidate.id = id ∧
          ∃ similarity, Qualifies w settings subject weights candidate similarity := by
  refine ⟨_, findDuplicates_eq_ok hweights hzero hderived, fun id => ?_⟩
  let offers := candidates.filterMap (offer? w settings subject weights)
  -- An offered similarity has reached the threshold, so it is not NaN and is listed.
  have hoffers : ∀ offer ∈ offers, offer.2 ≤ offer.2 := by
    intro offer hmem
    obtain ⟨candidate, hcandidate, hoffer⟩ := List.mem_filterMap.1 hmem
    have hqualifies := (offer?_eq_some_iff hzero (hderived candidate hcandidate)).1 hoffer
    exact ScoreOrder.le_self_of_le hqualifies.2.threshold_le
  have hlisted : id ∈ ((RankedList.empty candidates.length).addAll offers).toList.map Prod.fst ↔
      id ∈ offers.map Prod.fst :=
    (RankedList.lists_addAll_empty hoffers (List.length_filterMap_le _ _)).mem_map_fst_toList.trans
      KeyedList.mem_keys_ofList
  have hoffered : id ∈ offers.map Prod.fst ↔ ∃ candidate ∈ candidates, candidate.id = id ∧
      ∃ similarity, Qualifies w settings subject weights candidate similarity := by
    rw [← not_iff_not, notMem_offers_iff hzero hderived]
    simp only [not_exists, not_and]
  rw [List.map_map]
  exact hlisted.trans hoffered

/-- A search for an article whose vector is not zero succeeds.  It lists each identifier of a
candidate that counts once, with the similarity of the last such candidate, by descending
similarity; of identifiers with one similarity, the one that comes first among the candidates that
count comes first. -/
theorem findDuplicates_lists_qualifying [ScoreOrder α] {tokenizer : Tokenizer} {u : Universe}
    (hweights : (Weighing.plain tokenizer u).document subject = .ok weights)
    (hzero : weights.isZero = false) (settings : DuplicateSettings α)
    (candidates : List Document) :
    ∃ relations : List (DuplicateRelation α),
      findDuplicates (.plain tokenizer u) settings subject candidates = .ok relations ∧
      (relations.map DuplicateRelation.otherId).Nodup ∧
      (∀ id similarity, ⟨id, similarity⟩ ∈ relations ↔
        IsLatest (.plain tokenizer u) settings subject weights candidates id similarity) ∧
      relations.Pairwise fun a b => b.similarity ≤ a.similarity ∧
        (a.similarity ≤ b.similarity →
          ComesFirst (.plain tokenizer u) settings subject weights candidates a.otherId
            b.otherId) := by
  have hderived := Weighing.derives_plain_of_eq_ok hweights candidates
  let offers := candidates.filterMap (offer? (.plain tokenizer u) settings subject weights)
  -- An offered similarity has reached the threshold, so it is not NaN and is listed.
  have hoffers : ∀ offer ∈ offers, offer.2 ≤ offer.2 := by
    intro offer hmem
    obtain ⟨candidate, hcandidate, hoffer⟩ := List.mem_filterMap.1 hmem
    have hqualifies := (offer?_eq_some_iff hzero (hderived candidate hcandidate)).1 hoffer
    exact ScoreOrder.le_self_of_le hqualifies.2.threshold_le
  have hroom : offers.length ≤ candidates.length := List.length_filterMap_le _ _
  have hlists := RankedList.lists_addAll_empty hoffers hroom
  refine ⟨_, findDuplicates_eq_ok hweights hzero hderived, ?_, fun id similarity => ?_, ?_⟩
  · rw [List.map_map]
    have hnodup := hlists.isConsistent.nodup_keys
    rwa [← RankedList.map_fst_toList] at hnodup
  · rw [← find?_offers_eq_some_iff hzero hderived, ← hlists.mem_toList]
    constructor
    · intro hmem
      obtain ⟨entry, hentry, heq⟩ := List.mem_map.1 hmem
      cases heq
      exact hentry
    · exact fun hmem => List.mem_map.2 ⟨(id, similarity), hmem, rfl⟩
  · rw [List.pairwise_map]
    refine (RankedList.pairwise_toList hoffers hroom).imp ?_
    rintro a b ⟨hle, htie⟩
    refine ⟨hle, fun hle' => ?_⟩
    obtain ⟨before, similarity, after, hsplit, hbefore⟩ := htie hle'
    exact comesFirst_of_offers hzero hderived hsplit hbefore

/-- An article on wheat. -/
def wheat : Document := { id := "a", title := "Wheat" }

/-- Candidates for the article on wheat: two of one identifier, the article itself, one outside of
the window, and one without terms. -/
def wheatCandidates : List Document :=
  [{ wheat with id := "b" }, wheat, { wheat with id := "b", title := "Wheat wheat" },
    { wheat with id := "c", publishedAt := ⟨1, 0, 0⟩ }, { id := "d" }]

/-- The search for duplicates of the article on wheat lists one identifier, and the last candidate
of that identifier that counts has the similarity that is listed. -/
theorem findDuplicates_lists_qualifying_wheat :
    letI := Scalar.float fun _ => 13.815510557964274
    letI w : Weighing (Except ScoringError) Float := .plain ⟨⟨[]⟩⟩ ⟨0, 1, .empty⟩
    ∃ weights, w.document wheat = .ok weights ∧ weights.isZero = false ∧
      findDuplicates w .standard wheat wheatCandidates = .ok [⟨"b", 1⟩] ∧
      ∀ id similarity, ⟨id, similarity⟩ ∈ [DuplicateRelation.mk "b" (1 : Float)] ↔
        IsLatest w .standard wheat weights wheatCandidates id similarity := by
  let : Scalar Float := .float fun _ => 13.815510557964274
  obtain ⟨weights, hweights⟩ : ∃ weights : WeightVector Float,
      (Weighing.plain ⟨⟨[]⟩⟩ ⟨0, 1, .empty⟩).document wheat = .ok weights :=
    Weighing.exists_document_plain_eq_ok_iff.2 (Nat.le_refl 1)
  have hzero : weights.isZero = false := by
    have hall : (((Weighing.plain ⟨⟨[]⟩⟩ ⟨0, 1, .empty⟩ :
        Weighing _ Float).document wheat).map WeightVector.isZero) = .ok false := by
      decide +kernel
    rw [hweights] at hall
    exact Except.ok.inj hall
  have hfound : findDuplicates (.plain ⟨⟨[]⟩⟩ ⟨0, 1, .empty⟩) .standard wheat wheatCandidates =
      .ok [⟨"b", (1 : Float)⟩] := by
    decide +kernel
  obtain ⟨relations, hrelations, -, hlatest, -⟩ :=
    findDuplicates_lists_qualifying hweights hzero .standard wheatCandidates
  obtain rfl := Except.ok.inj (hfound.symm.trans hrelations)
  exact ⟨weights, hweights, hzero, hfound, hlatest⟩

end NewsScoring.Duplicates
