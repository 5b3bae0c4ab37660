import Mathlib.Algebra.BigOperators.Group.Multiset.Basic
import NewsScoring.Proofs.TermBag.Tallies

/-!
# Counts as functions of documents

What is counted depends on the documents and not on their order: a bag `IsCountOf` a multiset of
documents, given by their tokens, if its tallies are the sums over them and it lists the terms that
occur.  Documents that are counted one by one have such a bag (`isCountOf_ofTokenLists`), and bags
of the same documents agree, in whatever order they list the terms (`IsCountOf.agrees`).
-/

namespace NewsScoring

/-- How often a term occurs in documents, and in how many of them. -/
def tallyIn (documents : Multiset (List String)) (term : String) : Tally where
  frequency := (documents.map (List.count term)).sum
  documents := documents.countP (term ∈ ·)

theorem tallyIn_cons (tokens : List String) (documents : Multiset (List String)) (term : String) :
    tallyIn (tokens ::ₘ documents) term =
      (tallyIn documents term).plus ⟨tokens.count term, if term ∈ tokens then 1 else 0⟩ := by
  simp [tallyIn, Tally.plus, Multiset.countP_cons, add_comm]

theorem tallyIn_add (documents more : Multiset (List String)) (term : String) :
    tallyIn (documents + more) term = (tallyIn documents term).plus (tallyIn more term) := by
  simp [tallyIn, Tally.plus]

/-- A term has occurrences exactly if it occurs in a document. -/
theorem frequency_tallyIn_pos_iff {documents : Multiset (List String)} {term : String} :
    0 < (tallyIn documents term).frequency ↔ ∃ tokens ∈ documents, term ∈ tokens := by
  induction documents using Multiset.induction_on with
  | empty => simp [tallyIn]
  | cons tokens documents ih =>
    have hcount : 0 < tokens.count term ↔ term ∈ tokens := List.count_pos_iff
    rw [tallyIn_cons, Tally.plus, Nat.add_pos_iff_pos_or_pos, ih, hcount]
    simp [or_comm]

namespace TermBag

/-- Whether all terms that are listed occur. -/
def AllOccur (terms : KeyedList String Tally) : Prop :=
  ∀ term tally, terms.find? term = some tally → 0 < tally.frequency

/-- Whether a bag has the counts of some documents and lists the terms that occur in them. -/
structure IsCountOf (bag : TermBag) (documents : Multiset (List String)) : Prop where
  documentCount_eq : bag.documentCount = documents.card
  tally_eq : ∀ term, bag.tally term = tallyIn documents term
  allOccur : AllOccur bag.terms

variable {bag bag' : TermBag} {documents : Multiset (List String)}
  {terms : KeyedList String Tally}

/-! ### Counting -/

theorem isCountOf_empty : empty.IsCountOf 0 where
  documentCount_eq := rfl
  tally_eq _ := rfl
  allOccur _ _ h := by cases h

theorem AllOccur.put (h : AllOccur terms) {tally : Tally} (htally : 0 < tally.frequency)
    (term : String) : AllOccur (terms.put term tally) := by
  intro term' tally' hfind
  rw [KeyedList.find?_put] at hfind
  split at hfind
  · cases hfind
    exact htally
  · exact h term' tally' hfind

theorem AllOccur.countTokens (h : AllOccur terms) (seen tokens : List String) :
    AllOccur (countTokens terms seen tokens) := by
  induction tokens generalizing terms seen with
  | nil => exact h
  | cons token rest ih => exact ih (h.put (Nat.succ_pos _) token) _

theorem IsCountOf.addDocument (h : bag.IsCountOf documents) (tokens : List String) :
    (bag.addDocument tokens).IsCountOf (tokens ::ₘ documents) where
  documentCount_eq := by
    rw [Multiset.card_cons, ← h.documentCount_eq]
    rfl
  tally_eq term := by rw [tally_addDocument, tallyIn_cons, h.tally_eq]
  allOccur := h.allOccur.countTokens [] tokens

theorem IsCountOf.foldl_addDocument {before : Multiset (List String)} (h : bag.IsCountOf before)
    (documents : List (List String)) :
    (documents.foldl TermBag.addDocument bag).IsCountOf (before + documents) := by
  induction documents generalizing bag before with
  | nil => rwa [List.foldl_nil, Multiset.coe_nil, add_zero]
  | cons tokens rest ih =>
    rw [List.foldl_cons, ← Multiset.cons_coe, Multiset.add_cons, ← Multiset.cons_add]
    exact ih (h.addDocument tokens)

theorem isCountOf_ofTokenLists (documents : List (List String)) :
    (ofTokenLists documents).IsCountOf documents := by
  have h := isCountOf_empty.foldl_addDocument documents
  rwa [zero_add] at h

/-! ### Bags of the same documents -/

/-- What is listed under a term follows from its tally. -/
theorem IsCountOf.tally?_eq (h : bag.IsCountOf documents) (term : String) :
    bag.tally? term =
      if (tallyIn documents term).frequency = 0 then none else some (tallyIn documents term) := by
  have htally := h.tally_eq term
  rw [tally] at htally
  cases hfind : bag.tally? term with
  | none =>
    rw [hfind] at htally
    rw [if_pos (htally ▸ rfl)]
  | some tally =>
    have hpos := h.allOccur term tally hfind
    rw [hfind, Option.getD_some] at htally
    rw [← htally, if_neg hpos.ne']

theorem IsCountOf.mem_keys_iff (h : bag.IsCountOf documents) {term : String} :
    term ∈ bag.terms.keys ↔ ∃ tokens ∈ documents, term ∈ tokens := by
  rw [← frequency_tallyIn_pos_iff, ← KeyedList.contains_iff_mem_keys, KeyedList.contains]
  show (bag.tally? term).isSome = true ↔ _
  rw [h.tally?_eq]
  split <;> simp_all [Nat.pos_iff_ne_zero]

/-- Bags of the same documents list the same terms with the same tallies. -/
theorem IsCountOf.perm (h : bag.IsCountOf documents) (h' : bag'.IsCountOf documents) :
    bag.toList.Perm bag'.toList := by
  refine (List.perm_ext_iff_of_nodup bag.terms.nodup_keys.of_map bag'.terms.nodup_keys.of_map).2 ?_
  rintro ⟨term, tally⟩
  rw [← KeyedList.find?_eq_some_iff, ← KeyedList.find?_eq_some_iff]
  show bag.tally? term = some tally ↔ bag'.tally? term = some tally
  rw [h.tally?_eq, h'.tally?_eq]

/-- Bags of the same documents agree, in whatever order they list the terms. -/
theorem IsCountOf.agrees (h : bag.IsCountOf documents) (h' : bag'.IsCountOf documents) :
    bag.agrees bag' = true := by
  have hcount : bag.documentCount = bag'.documentCount :=
    h.documentCount_eq.trans h'.documentCount_eq.symm
  have hsize : bag.terms.size = bag'.terms.size := (h.perm h').length_eq
  rw [TermBag.agrees, hcount, hsize, beq_self_eq_true, beq_self_eq_true, Bool.true_and,
    Bool.true_and, List.all_eq_true]
  rintro ⟨term, tally⟩ hmem
  rw [beq_iff_eq]
  exact KeyedList.find?_of_mem_entries ((h.perm h').mem_iff.1 hmem)

end TermBag

end NewsScoring
