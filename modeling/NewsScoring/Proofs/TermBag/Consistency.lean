import NewsScoring.Corpus.Workshop
import NewsScoring.Proofs.KeyedList.Latest
import NewsScoring.Proofs.Outcome
import NewsScoring.Proofs.TermBag.Tallies

/-!
# Counts that documents could have given

In counts of documents, no term occurs in more documents than it occurs times, nor in more than
there are (`TermBag.IsConsistent`).  This holds of counts however they come about: by counting, by
freezing a corpus that was gathered from documents and other corpora, or by taking stored parts
(`TermBag.IsObtainable.isConsistent`).  Stored parts are accepted exactly if they are consistent and
no term is listed twice, and then they make up the counts (`TermBag.ofParts_eq_ok_iff`).
-/

namespace NewsScoring

/-- Whether no term occurs in more documents than it occurs times, or than there are. -/
structure TermBag.IsConsistent (bag : TermBag) : Prop where
  documents_le_frequency : ∀ term, bag.documents term ≤ bag.frequency term
  documents_le_documentCount : ∀ term, bag.documents term ≤ bag.documentCount

/-- A corpus to which documents were added and corpora of this kind were merged. -/
inductive Corpus.IsGathered : Corpus → Prop where
  | empty : IsGathered .empty
  | add {corpus : Corpus} (h : IsGathered corpus) (tokens : List String) :
    IsGathered (corpus.add tokens)
  | merge {corpus other : Corpus} (h : IsGathered corpus) (hother : IsGathered other) :
    IsGathered (corpus.merge other)

/-- Counts of documents, of a corpus, or of stored parts. -/
inductive TermBag.IsObtainable : TermBag → Prop where
  | ofTokenLists (documents : List (List String)) : IsObtainable (.ofTokenLists documents)
  | freeze {corpus : Corpus} (h : corpus.IsGathered) : IsObtainable corpus.freeze
  | ofParts {documentCount : Nat} {parts : List (String × Tally)} {bag : TermBag}
    (h : TermBag.ofParts documentCount parts = .ok bag) : IsObtainable bag

namespace Workshop

theorem get_set (workshop : Workshop) (name : String) (corpus : Corpus) (other : String) :
    (workshop.set name corpus).get other = if other = name then corpus else workshop.get other := by
  rw [get, set, KeyedList.find?_put]
  split <;> rfl

theorem get_snd_take (workshop : Workshop) (name other : String) :
    (workshop.take name).2.get other = if other = name then .empty else workshop.get other := by
  rw [get, take, KeyedList.find?_erase]
  split <;> rfl

theorem isGathered_get_step {workshop : Workshop} (h : ∀ name, (workshop.get name).IsGathered)
    (step : Step) (name : String) : ((workshop.step step).get name).IsGathered := by
  cases step with
  | add added tokens =>
    rw [Workshop.step, get_set]
    split
    · exact (h added).add tokens
    · exact h name
  | merge into other =>
    have hrest : ∀ name, ((workshop.take other).2.get name).IsGathered := by
      intro name
      rw [get_snd_take]
      split
      · exact .empty
      · exact h name
    rw [Workshop.step, get_set]
    split
    · exact (hrest into).merge (h other)
    · exact hrest name

theorem isGathered_get_run (steps : List Step) (name : String) :
    ((empty.run steps).get name).IsGathered := by
  -- The induction is on the steps, from any workshop of gathered corpora on.
  have hrun : ∀ workshop : Workshop, (∀ name, (workshop.get name).IsGathered) →
      ((workshop.run steps).get name).IsGathered := by
    induction steps with
    | nil => exact fun workshop h => h name
    | cons step rest ih => exact fun workshop h => ih _ (isGathered_get_step h step)
  exact hrun empty fun _ => .empty

end Workshop

namespace TermBag

variable {bag : TermBag}

/-! ### Counting -/

theorem isConsistent_empty : empty.IsConsistent :=
  ⟨fun _ => Nat.le_refl 0, fun _ => Nat.le_refl 0⟩

theorem IsConsistent.addDocument (h : bag.IsConsistent) (tokens : List String) :
    (bag.addDocument tokens).IsConsistent := by
  constructor
  · intro term
    have hle := h.documents_le_frequency term
    have hcount : (if term ∈ tokens then 1 else 0) ≤ tokens.count term := by
      split
      · rename_i hmem
        exact List.count_pos_iff.2 hmem
      · exact Nat.zero_le _
    rw [documents, frequency, tally_addDocument]
    exact Nat.add_le_add hle hcount
  · intro term
    have hle := h.documents_le_documentCount term
    have hone : (if term ∈ tokens then 1 else 0) ≤ 1 := by
      split <;> omega
    rw [documents, tally_addDocument]
    exact Nat.add_le_add hle hone

theorem isConsistent_ofTokenLists (documents : List (List String)) :
    (ofTokenLists documents).IsConsistent := by
  rw [ofTokenLists]
  -- The induction is on the documents, from any consistent counts on.
  generalize hstart : empty = start
  have hconsistent : start.IsConsistent := hstart ▸ isConsistent_empty
  clear hstart
  induction documents generalizing start with
  | nil => exact hconsistent
  | cons tokens rest ih => exact ih _ (hconsistent.addDocument tokens)

/-! ### Corpora -/

theorem isConsistent_gathered {corpus : Corpus} (h : corpus.IsGathered) :
    corpus.gathered.IsConsistent := by
  induction h with
  | empty => exact isConsistent_empty
  | add _ tokens ih =>
    rw [Corpus.gathered_add]
    exact ih.addDocument tokens
  | @merge corpus other _ _ ih ihother =>
    constructor
    · intro term
      rw [documents, frequency, Corpus.tally_merge]
      exact Nat.add_le_add (ih.documents_le_frequency term) (ihother.documents_le_frequency term)
    · intro term
      rw [documents, Corpus.tally_merge]
      exact Nat.add_le_add (ih.documents_le_documentCount term)
        (ihother.documents_le_documentCount term)

theorem isConsistent_freeze {corpus : Corpus} (h : corpus.IsGathered) :
    corpus.freeze.IsConsistent := by
  constructor
  · intro term
    rw [documents, frequency, Corpus.tally_freeze]
    exact (isConsistent_gathered h).documents_le_frequency term
  · intro term
    rw [documents, Corpus.tally_freeze]
    exact (isConsistent_gathered h).documents_le_documentCount term

/-! ### Stored parts -/

theorem isConsistent_iff : bag.IsConsistent ↔ ∀ part ∈ bag.toList,
    part.2.documents ≤ part.2.frequency ∧ part.2.documents ≤ bag.documentCount := by
  constructor
  · rintro ⟨hfrequency, hcount⟩ ⟨term, tally⟩ hmem
    have htally : bag.tally term = tally := by
      rw [TermBag.tally, tally?, KeyedList.find?_eq_some_iff.2 hmem, Option.getD_some]
    rw [← htally]
    exact ⟨hfrequency term, hcount term⟩
  · intro hparts
    have htally : ∀ term, (bag.tally term).documents ≤ (bag.tally term).frequency ∧
        (bag.tally term).documents ≤ bag.documentCount := by
      intro term
      rw [TermBag.tally]
      cases htally : bag.tally? term with
      | none => exact ⟨Nat.le_refl 0, Nat.zero_le _⟩
      | some tally => exact hparts (term, tally) (KeyedList.find?_eq_some_iff.1 htally)
    exact ⟨fun term => (htally term).1, fun term => (htally term).2⟩

/-- A part is accepted if it is consistent and its term is new, and then it is listed last. -/
theorem addPart_eq_ok_iff {documentCount : Nat} {terms next : KeyedList String Tally}
    {term : String} {tally : Tally} :
    addPart documentCount terms term tally = .ok next ↔
      (tally.documents ≤ tally.frequency ∧ tally.documents ≤ documentCount) ∧
        next.entries = terms.entries ++ [(term, tally)] := by
  have hput : term ∉ terms.keys →
      (terms.put term tally).entries = terms.entries ++ [(term, tally)] :=
    KeyedList.putEntry_of_notMem
  unfold addPart
  constructor
  · intro h
    split at h
    · cases h
    split at h
    · cases h
    split at h
    · cases h
    · rename_i hfrequency hcount hcontains
      cases h
      rw [KeyedList.contains_iff_mem_keys] at hcontains
      exact ⟨⟨by omega, by omega⟩, hput hcontains⟩
  · rintro ⟨⟨hfrequency, hcount⟩, hentries⟩
    -- The next list has no term twice, so that the term is not listed before.
    have hnew : term ∉ terms.keys := by
      have hnodup := next.nodup_keys
      rw [hentries, List.map_append, List.nodup_append] at hnodup
      exact fun hmem => hnodup.2.2 term hmem term List.mem_cons_self rfl
    rw [if_neg (by omega), if_neg (by omega), if_neg (mt KeyedList.contains_iff_mem_keys.1 hnew),
      KeyedList.eq_of_entries_eq (hentries.trans (hput hnew).symm)]

theorem foldlM_addPart_eq_ok_iff {documentCount : Nat} {parts : List (String × Tally)}
    {terms result : KeyedList String Tally} :
    parts.foldlM (fun terms part => addPart documentCount terms part.1 part.2) terms = .ok result ↔
      (∀ part ∈ parts, part.2.documents ≤ part.2.frequency ∧ part.2.documents ≤ documentCount) ∧
        result.entries = terms.entries ++ parts := by
  induction parts generalizing terms with
  | nil =>
    rw [List.append_nil]
    constructor
    · rintro ⟨⟩
      exact ⟨fun part hmem => absurd hmem List.not_mem_nil, rfl⟩
    · rintro ⟨-, hentries⟩
      rw [KeyedList.eq_of_entries_eq hentries]
      rfl
  | cons part rest ih =>
    rw [List.foldlM_cons, bind_eq_ok_iff, List.forall_mem_cons]
    simp only [addPart_eq_ok_iff, ih]
    constructor
    · rintro ⟨next, ⟨hpart, hnext⟩, hrest, hresult⟩
      rw [hnext, List.append_assoc] at hresult
      exact ⟨⟨hpart, hrest⟩, hresult⟩
    · rintro ⟨⟨hpart, hrest⟩, hresult⟩
      -- The terms in between are the first ones of the result, so none of them is listed twice.
      have hnodup : ((terms.entries ++ [part]).map Prod.fst).Nodup := by
        have hall := result.nodup_keys
        rw [hresult, ← List.singleton_append, ← List.append_assoc, List.map_append] at hall
        exact (List.nodup_append.1 hall).1
      refine ⟨⟨terms.entries ++ [part], hnodup⟩, ⟨hpart, rfl⟩, hrest, ?_⟩
      rw [hresult, List.append_assoc]
      rfl

/-- Stored parts are accepted exactly if they make up consistent counts. -/
theorem ofParts_eq_ok_iff {documentCount : Nat} {parts : List (String × Tally)} :
    ofParts documentCount parts = .ok bag ↔
      bag.IsConsistent ∧ bag.documentCount = documentCount ∧ bag.toList = parts := by
  rw [ofParts, bind_eq_ok_iff, isConsistent_iff]
  simp only [foldlM_addPart_eq_ok_iff]
  constructor
  · rintro ⟨terms, ⟨hparts, hentries⟩, hbag⟩
    cases hbag
    have hlist : toList ⟨documentCount, terms⟩ = parts := hentries
    rw [hlist]
    exact ⟨hparts, rfl, rfl⟩
  · rintro ⟨hparts, rfl, rfl⟩
    exact ⟨bag.terms, ⟨hparts, rfl⟩, rfl⟩

/-- Counts are consistent however they come about. -/
theorem IsObtainable.isConsistent (h : bag.IsObtainable) : bag.IsConsistent := by
  cases h with
  | ofTokenLists documents => exact isConsistent_ofTokenLists documents
  | freeze h => exact isConsistent_freeze h
  | ofParts h => exact (ofParts_eq_ok_iff.1 h).1

end TermBag

end NewsScoring
