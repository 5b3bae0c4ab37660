import Mathlib.Data.List.Induction
import NewsScoring.Duplicates
import NewsScoring.Proofs.Outcome
import NewsScoring.Proofs.Weighing.Plain

/-!
# The first article of each story

`withoutDuplicates` goes through a list of articles once and keeps those that do not repeat one it
has kept before (`firsts`).  Which articles repeat which is not transitive, so that it matters that
an article is compared with the kept ones only: one that is dropped repeats an article that is kept
and comes before it (`IsGreedy`).  From this follow that a list of kept articles is kept as it is,
and that what is kept of a list does not depend on what comes after it
(`withoutDuplicates_isGreedy`).
-/

namespace NewsScoring.Duplicates

/-! ### Elements that repeat none before them -/

section

variable {β : Type} (repeats : β → β → Bool)

/-- The kept elements after one more has been looked at. -/
def addFirst (kept : List β) (x : β) : List β :=
  if kept.any (repeats x) then kept else kept ++ [x]

/-- The elements of a list that repeat no kept one before them. -/
def firsts (l : List β) : List β :=
  l.foldl (addFirst repeats) []

/-- Whether there is an element at a position and it is kept. -/
def isFirst (l : List β) (i : Nat) : Bool :=
  match l[i]? with
  | some x => !(firsts repeats (l.take i)).any (repeats x)
  | none => false

/-- Whether a list has those elements of another that are at the given positions, and these are
chosen such that no element repeats one before it, and an element that is left out repeats a chosen
one before it. -/
structure IsGreedy (l kept : List β) (isKept : Nat → Bool) : Prop where
  eq_chosen : kept = (l.zipIdx.filter fun (_, i) => isKept i).map Prod.fst
  pairwise : kept.Pairwise fun earlier later => repeats later earlier = false
  exists_repeated : ∀ j x, l[j]? = some x → isKept j = false →
    ∃ i < j, ∃ y, l[i]? = some y ∧ isKept i = true ∧ repeats x y = true

end

section

variable {β : Type} {repeats : β → β → Bool} {l kept : List β} {x : β}

theorem firsts_append (more : List β) :
    firsts repeats (l ++ more) = more.foldl (addFirst repeats) (firsts repeats l) :=
  List.foldl_append

theorem firsts_concat : firsts repeats (l ++ [x]) = addFirst repeats (firsts repeats l) x :=
  firsts_append [x]

/-- What is kept is kept for good, and only elements that are looked at come behind it. -/
theorem exists_sublist_foldl_addFirst_eq (kept more : List β) :
    ∃ rest, rest.Sublist more ∧ more.foldl (addFirst repeats) kept = kept ++ rest := by
  induction more generalizing kept with
  | nil => exact ⟨[], .slnil, by rw [List.foldl_nil, List.append_nil]⟩
  | cons x more ih =>
    obtain ⟨rest, hsublist, hrest⟩ := ih (addFirst repeats kept x)
    rw [List.foldl_cons, hrest, addFirst]
    split
    · exact ⟨rest, hsublist.cons x, rfl⟩
    · exact ⟨x :: rest, hsublist.cons_cons x, by rw [List.append_assoc, List.singleton_append]⟩

theorem exists_foldl_addFirst_eq (kept more : List β) :
    ∃ rest, more.foldl (addFirst repeats) kept = kept ++ rest :=
  (exists_sublist_foldl_addFirst_eq kept more).imp fun _ h => h.2

theorem pairwise_firsts (l : List β) :
    (firsts repeats l).Pairwise fun earlier later => repeats later earlier = false := by
  induction l using List.reverseRecOn with
  | nil => exact List.Pairwise.nil
  | append_singleton l x ih =>
    rw [firsts_concat, addFirst]
    split
    · exact ih
    · rename_i hnone
      refine List.pairwise_append.2 ⟨ih, List.pairwise_singleton _ _, fun y hy z hz => ?_⟩
      obtain rfl := List.mem_singleton.1 hz
      rw [List.any_eq_true, not_exists] at hnone
      exact Bool.eq_false_iff.2 fun hrepeats => hnone y ⟨hy, hrepeats⟩

theorem firsts_eq_self (h : l.Pairwise fun earlier later => repeats later earlier = false) :
    firsts repeats l = l := by
  induction l using List.reverseRecOn with
  | nil => rfl
  | append_singleton l x ih =>
    -- The elements before the last one are all kept, so it is compared with all of them.
    obtain ⟨hl, -, hx⟩ := List.pairwise_append.1 h
    have hnone : l.any (repeats x) = false := by
      rw [List.any_eq_false]
      intro y hy
      rw [hx y hy x List.mem_cons_self]
      exact Bool.false_ne_true
    rw [firsts_concat, ih hl, addFirst, hnone]
    rfl

/-! ### Their positions -/

/-- Whether an element is kept depends on the list up to it only. -/
theorem isFirst_take {i j : Nat} (h : i < j) :
    isFirst repeats (l.take j) i = isFirst repeats l i := by
  rw [isFirst, isFirst, List.getElem?_take_of_lt h, List.take_take,
    Nat.min_eq_left (Nat.le_of_lt h)]

theorem isFirst_append {i : Nat} (h : i < l.length) (more : List β) :
    isFirst repeats (l ++ more) i = isFirst repeats l i := by
  rw [← isFirst_take h, List.take_left]

theorem isFirst_length : isFirst repeats (l ++ [x]) l.length =
    !(firsts repeats l).any (repeats x) := by
  rw [isFirst, List.getElem?_concat_length, List.take_left]

theorem firsts_eq_chosen (l : List β) :
    firsts repeats l = (l.zipIdx.filter fun (_, i) => isFirst repeats l i).map Prod.fst := by
  induction l using List.reverseRecOn with
  | nil => rfl
  | append_singleton l x ih =>
    -- What comes behind an element does not matter to it, so the last one alone is new.
    have hbefore : (l.zipIdx.filter fun (_, i) => isFirst repeats (l ++ [x]) i) =
        l.zipIdx.filter fun (_, i) => isFirst repeats l i := by
      refine List.filter_congr fun ⟨y, i⟩ hmem => ?_
      exact isFirst_append (List.snd_lt_of_mem_zipIdx hmem) [x]
    rw [firsts_concat, addFirst, List.zipIdx_append, List.filter_append, hbefore, List.map_append,
      ← ih, Nat.zero_add, List.zipIdx_singleton, List.filter_cons, List.filter_nil]
    simp only [isFirst_length]
    split
    · rename_i hrepeats
      simp [hrepeats]
    · rename_i hnone
      simp [hnone]

theorem mem_firsts_iff :
    x ∈ firsts repeats l ↔ ∃ i, l[i]? = some x ∧ isFirst repeats l i = true := by
  rw [firsts_eq_chosen, List.mem_map]
  constructor
  · rintro ⟨⟨y, i⟩, hmem, rfl⟩
    rw [List.mem_filter, List.mem_zipIdx_iff_getElem?] at hmem
    exact ⟨i, hmem⟩
  · rintro ⟨i, hmem⟩
    refine ⟨(x, i), ?_, rfl⟩
    rw [List.mem_filter, List.mem_zipIdx_iff_getElem?]
    exact hmem

/-- An element that is not kept repeats a kept one before it. -/
theorem exists_repeats_of_isFirst_eq_false {j : Nat} (hj : l[j]? = some x)
    (h : isFirst repeats l j = false) :
    ∃ i < j, ∃ y, l[i]? = some y ∧ isFirst repeats l i = true ∧ repeats x y = true := by
  rw [isFirst, hj] at h
  simp only [Bool.not_eq_false'] at h
  obtain ⟨y, hy, hrepeats⟩ := List.any_eq_true.1 h
  obtain ⟨i, hi, hfirst⟩ := mem_firsts_iff.1 hy
  -- It was chosen among the elements before position `j`, and there it stays chosen.
  have hlt : i < j := by
    have hlength := (List.getElem?_eq_some_iff.1 hi).1
    rw [List.length_take] at hlength
    omega
  rw [List.getElem?_take_of_lt hlt] at hi
  rw [isFirst_take hlt] at hfirst
  exact ⟨i, hlt, y, hi, hfirst, hrepeats⟩

theorem isGreedy_firsts (l : List β) :
    IsGreedy repeats l (firsts repeats l) (isFirst repeats l) where
  eq_chosen := firsts_eq_chosen l
  pairwise := pairwise_firsts l
  exists_repeated _ _ := exists_repeats_of_isFirst_eq_false

-- Neighbours repeat each other here, but the third element does not repeat the first.
example : firsts (fun a b : Nat => a == b + 1) [1, 2, 3] = [1, 3] := by decide

theorem IsGreedy.sublist {isKept : Nat → Bool} (h : IsGreedy repeats l kept isKept) :
    kept.Sublist l := by
  have hsublist := (List.filter_sublist (p := fun (_, i) => isKept i) (l := l.zipIdx)).map Prod.fst
  rwa [← h.eq_chosen, List.zipIdx_map_fst] at hsublist

end

/-! ### Articles that tell a story again -/

variable {α : Type} [Scalar α]

section

variable (w : Weighing (Except ScoringError) α) (settings : DuplicateSettings α)

/-- Whether two articles have vectors that are not zero and are duplicates by the similarity of
these and their times. -/
def repeats (document other : Document) : Bool :=
  match w.document document, w.document other with
  | .ok weights, .ok otherWeights =>
    match weights.cosine otherWeights with
    | .ok similarity => !weights.isZero && !otherWeights.isZero && settings.isDuplicate similarity
        (other.publishedAt.nanosecondsSince document.publishedAt)
    | .error _ => false
  | _, _ => false

/-- The record of a kept article. -/
def record (document : Document) : Kept α :=
  match w.document document with
  | .ok weights => ⟨document, if weights.isZero then none else some weights⟩
  | .error _ => ⟨document, none⟩

end

variable {w : Weighing (Except ScoringError) α} {settings : DuplicateSettings α}
  {document other : Document} {weights : WeightVector α} {kept : List Document}

theorem repeats_eq_true_iff : repeats w settings document other = true ↔
    ∃ weights otherWeights similarity, w.document document = .ok weights ∧
      w.document other = .ok otherWeights ∧ weights.isZero = false ∧ otherWeights.isZero = false ∧
      weights.cosine otherWeights = .ok similarity ∧ settings.isDuplicate similarity
        (other.publishedAt.nanosecondsSince document.publishedAt) = true := by
  constructor
  · intro h
    unfold repeats at h
    split at h
    · rename_i weights otherWeights hweights hother
      split at h
      · rename_i similarity hsimilarity
        simp only [Bool.and_eq_true, Bool.not_eq_true'] at h
        exact ⟨weights, otherWeights, similarity, hweights, hother, h.1.1, h.1.2, hsimilarity, h.2⟩
      · cases h
    · cases h
  · rintro ⟨weights, otherWeights, similarity, hweights, hother, hzero, hotherZero, hsimilarity,
      hduplicate⟩
    simp [repeats, hweights, hother, hsimilarity, hzero, hotherZero, hduplicate]

theorem repeats_eq_false_of_isZero (hweights : w.document document = .ok weights)
    (hzero : weights.isZero = true) (other : Document) :
    repeats w settings document other = false := by
  rw [← Bool.not_eq_true, repeats_eq_true_iff]
  rintro ⟨weights', -, -, hweights', -, hzero', -⟩
  rw [hweights] at hweights'
  cases hweights'
  rw [hzero] at hzero'
  cases hzero'

theorem any_repeats_of_isZero (hweights : w.document document = .ok weights)
    (hzero : weights.isZero = true) (kept : List Document) :
    kept.any (repeats w settings document) = false := by
  refine List.any_eq_false.2 fun other _ => ?_
  rw [repeats_eq_false_of_isZero hweights hzero other]
  exact Bool.false_ne_true

theorem document_record (document : Document) : (record w document).document = document := by
  rw [record]
  split <;> rfl

/-- The loop over the kept articles finds out whether one of them is repeated. -/
theorem repeatsAny_map_record (hweights : w.document document = .ok weights)
    (hzero : weights.isZero = false) (hkept : w.Derives kept) :
    repeatsAny settings document weights (kept.map (record w)) =
      .ok (kept.any (repeats w settings document)) := by
  induction kept with
  | nil => rfl
  | cons other rest ih =>
    obtain ⟨otherWeights, hother⟩ := hkept other List.mem_cons_self
    have hrest := ih (hkept.subset (List.subset_cons_self other rest))
    have hrecord : record w other =
        ⟨other, if otherWeights.isZero then none else some otherWeights⟩ := by
      rw [record, hother]
    rw [List.map_cons, hrecord, List.any_cons]
    -- A kept article without weights is passed over; with weights, it ends the loop if repeated.
    cases hotherZero : otherWeights.isZero with
    | true =>
      have hfalse : repeats w settings document other = false := by
        simp [repeats, hweights, hother, hotherZero]
        split <;> rfl
      rw [if_pos rfl, repeatsAny, hrest, hfalse, Bool.false_or]
    | false =>
      obtain ⟨similarity, hsimilarity⟩ := WeightVector.exists_cosine_eq_ok hzero hotherZero
      have hrepeats : repeats w settings document other = settings.isDuplicate similarity
          (other.publishedAt.nanosecondsSince document.publishedAt) := by
        simp [repeats, hweights, hother, hsimilarity, hzero, hotherZero]
      rw [if_neg Bool.false_ne_true, repeatsAny, hsimilarity, hrepeats, ok_bind, hrest]
      dsimp only
      split
      · rename_i hduplicate
        rw [hduplicate, Bool.true_or]
        rfl
      · rename_i hdistinct
        rw [Bool.eq_false_iff.2 hdistinct, Bool.false_or]

theorem keep_map_record (hkept : w.Derives kept)
    (hdocument : ∃ vector, w.document document = .ok vector) :
    keep w settings (kept.map (record w)) document =
      .ok ((addFirst (repeats w settings) kept document).map (record w)) := by
  obtain ⟨weights, hweights⟩ := hdocument
  have hrecord : record w document =
      ⟨document, if weights.isZero then none else some weights⟩ := by
    rw [record, hweights]
  rw [keep, hweights, addFirst]
  simp only [bind, Except.bind]
  cases hzero : weights.isZero with
  | true =>
    -- An article without weights is kept unseen, and repeats none anyway.
    rw [if_pos rfl, any_repeats_of_isZero hweights hzero kept, if_neg Bool.false_ne_true,
      List.map_append, List.map_singleton, hrecord, hzero]
    rfl
  | false =>
    rw [if_neg Bool.false_ne_true, ofExcept_eq_self, repeatsAny_map_record hweights hzero hkept]
    cases kept.any (repeats w settings document) with
    | true => rfl
    | false =>
      rw [if_neg Bool.false_ne_true, List.map_append, List.map_singleton, hrecord, hzero]
      rfl

theorem derives_addFirst (hkept : w.Derives kept)
    (hdocument : ∃ vector, w.document document = .ok vector) :
    w.Derives (addFirst (repeats w settings) kept document) := by
  rw [addFirst]
  split
  · exact hkept
  · intro other hmem
    rcases List.mem_append.1 hmem with hmem | hmem
    · exact hkept other hmem
    · rwa [List.mem_singleton.1 hmem]

/-- The loop over the articles, from those that are kept before it on. -/
theorem foldlM_keep_map_record {documents : List Document} (hkept : w.Derives kept)
    (hdocuments : w.Derives documents) :
    documents.foldlM (keep w settings) (kept.map (record w)) =
      .ok ((documents.foldl (addFirst (repeats w settings)) kept).map (record w)) := by
  induction documents generalizing kept with
  | nil => rfl
  | cons document rest ih =>
    have hdocument := hdocuments document List.mem_cons_self
    rw [List.foldlM_cons, keep_map_record hkept hdocument, List.foldl_cons]
    exact ih (derives_addFirst hkept hdocument)
      (hdocuments.subset (List.subset_cons_self document rest))

theorem withoutDuplicates_eq_ok {documents : List Document} (h : w.Derives documents) :
    withoutDuplicates w settings documents = .ok (firsts (repeats w settings) documents) := by
  have hrun : documents.foldlM (keep w settings) ([].map (record w)) =
      .ok ((documents.foldl (addFirst (repeats w settings)) []).map (record w)) :=
    foldlM_keep_map_record (fun _ hmem => absurd hmem List.not_mem_nil) h
  rw [List.map_nil] at hrun
  have hdocuments : Kept.document ∘ record w = id := funext document_record
  rw [withoutDuplicates, hrun]
  show Except.ok ((List.map (record w) _).map Kept.document) = _
  rw [List.map_map, hdocuments, List.map_id, firsts]

/-- Of a list of articles that have vectors, those are kept that repeat no kept one before them,
among them all whose vector is zero.  A list of kept articles is kept as it is, and what is kept of
a list is what is kept first of a longer one. -/
theorem withoutDuplicates_isGreedy {documents : List Document} (h : w.Derives documents)
    (settings : DuplicateSettings α) :
    ∃ kept isKept, withoutDuplicates w settings documents = .ok kept ∧
      kept.Sublist documents ∧ IsGreedy (repeats w settings) documents kept isKept ∧
      (∀ (i : Nat) (document : Document) (weights : WeightVector α),
        documents[i]? = some document → w.document document = .ok weights →
          weights.isZero = true → isKept i = true) ∧
      withoutDuplicates w settings kept = .ok kept ∧
      ∀ more, w.Derives more →
        ∃ rest, withoutDuplicates w settings (documents ++ more) = .ok (kept ++ rest) := by
  have hgreedy : IsGreedy (repeats w settings) documents _ _ := isGreedy_firsts documents
  refine ⟨firsts (repeats w settings) documents, isFirst (repeats w settings) documents,
    withoutDuplicates_eq_ok h, hgreedy.sublist, hgreedy, ?_, ?_, ?_⟩
  · intro i document weights hi hweights hzero
    rw [← Bool.not_eq_false]
    intro hdropped
    obtain ⟨-, -, other, -, -, hrepeats⟩ := hgreedy.exists_repeated i document hi hdropped
    rw [repeats_eq_false_of_isZero hweights hzero] at hrepeats
    cases hrepeats
  · rw [withoutDuplicates_eq_ok (h.subset hgreedy.sublist.subset), firsts_eq_self hgreedy.pairwise]
  · intro more hmore
    rw [withoutDuplicates_eq_ok (List.forall_mem_append.2 ⟨h, hmore⟩), firsts_append]
    obtain ⟨rest, hrest⟩ := exists_foldl_addFirst_eq (firsts (repeats w settings) documents) more
    exact ⟨rest, congrArg Except.ok hrest⟩

/-- Articles of which two tell one story and one has no terms. -/
def wheatNews : List Document :=
  [{ id := "a", title := "Wheat" }, { id := "b", title := "Wheat" }, { id := "c" }]

/-- The articles have vectors in a universe of one document.  The second is dropped, as it repeats
the first, and the third is kept. -/
theorem withoutDuplicates_isGreedy_wheatNews :
    letI := Scalar.float fun _ => 13.815510557964274
    letI w : Weighing (Except ScoringError) Float := .plain ⟨⟨[]⟩⟩ ⟨0, 1, .empty⟩
    w.Derives wheatNews ∧
      withoutDuplicates w .standard wheatNews =
        .ok [{ id := "a", title := "Wheat" }, { id := "c" }] ∧
      ∃ isKept, IsGreedy (repeats w .standard) wheatNews
          [{ id := "a", title := "Wheat" }, { id := "c" }] isKept ∧
        ∀ more, w.Derives more → ∃ rest, withoutDuplicates w .standard (wheatNews ++ more) =
          .ok ([{ id := "a", title := "Wheat" }, { id := "c" }] ++ rest) := by
  let : Scalar Float := .float fun _ => 13.815510557964274
  have hderives : (Weighing.plain ⟨⟨[]⟩⟩ ⟨0, 1, .empty⟩ :
      Weighing (Except ScoringError) Float).Derives wheatNews :=
    fun _ _ => Weighing.exists_document_plain_eq_ok_iff.2 (Nat.le_refl 1)
  have hkept : withoutDuplicates (Weighing.plain ⟨⟨[]⟩⟩ ⟨0, 1, .empty⟩ :
      Weighing (Except ScoringError) Float) .standard wheatNews =
        .ok [{ id := "a", title := "Wheat" }, { id := "c" }] := by
    decide +kernel
  obtain ⟨kept, isKept, hok, -, hgreedy, -, -, hmore⟩ :=
    withoutDuplicates_isGreedy hderives .standard
  obtain rfl := Except.ok.inj (hkept.symm.trans hok)
  exact ⟨hderives, hkept, isKept, hgreedy, hmore⟩

end NewsScoring.Duplicates
