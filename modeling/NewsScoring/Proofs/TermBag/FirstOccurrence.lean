import Mathlib.Data.List.Induction
import NewsScoring.Proofs.TermBag.Consistency
import NewsScoring.Proofs.TermBag.Counts
import NewsScoring.Tokenizer.Counting

/-!
# The order of counted terms

Counted terms are listed in the order in which they occur first: as the tokens of all documents, one
document after the other, without repetitions (`TermBag.keys_ofTokenLists`).  With the tallies this
says all there is to say of counts (`TermBag.toList_ofTokenLists`), so that texts and documents are
counted exactly, whatever their tokens are (`Tokenizer.countsExactly_bags`).
-/

namespace NewsScoring

/-! ### Lists without repetitions -/

section

variable {α : Type} [DecidableEq α]

/-- An element at the end comes in where it is new. -/
theorem eraseDups_concat (l : List α) (x : α) :
    (l ++ [x]).eraseDups = if x ∈ l then l.eraseDups else l.eraseDups ++ [x] := by
  rw [List.eraseDups_append]
  by_cases h : x ∈ l
  · simp [List.removeAll, h]
  · simp [List.removeAll, h, List.eraseDups_cons]

theorem eraseDups_filter (p : α → Bool) (l : List α) :
    (l.filter p).eraseDups = l.eraseDups.filter p := by
  induction l using List.reverseRecOn with
  | nil => rfl
  | append_singleton l x ih =>
    rw [List.filter_append, eraseDups_concat]
    by_cases hp : p x = true
    · rw [List.filter_cons_of_pos hp, List.filter_nil, eraseDups_concat, ih]
      by_cases hx : x ∈ l
      · rw [if_pos hx, if_pos (List.mem_filter.2 ⟨hx, hp⟩)]
      · rw [if_neg hx, if_neg fun h => hx (List.mem_filter.1 h).1, List.filter_append,
          List.filter_cons_of_pos hp, List.filter_nil]
    · rw [List.filter_cons_of_neg hp, List.filter_nil, List.append_nil, ih]
      split
      · rfl
      · rw [List.filter_append, List.filter_cons_of_neg hp, List.filter_nil, List.append_nil]

/-- Without repetitions, elements stand in the order of their first places. -/
theorem pairwise_idxOf_eraseDups (l : List α) :
    l.eraseDups.Pairwise fun a b => l.idxOf a < l.idxOf b := by
  induction l using List.reverseRecOn with
  | nil => exact List.Pairwise.nil
  | append_singleton l x ih =>
    have hold : ∀ {a}, a ∈ l.eraseDups → (l ++ [x]).idxOf a = l.idxOf a := fun h =>
      List.idxOf_append_of_mem (List.mem_eraseDups.1 h)
    have hkept : l.eraseDups.Pairwise fun a b => (l ++ [x]).idxOf a < (l ++ [x]).idxOf b := by
      refine ih.imp_of_mem fun ha hb hab => ?_
      rwa [hold ha, hold hb]
    rw [eraseDups_concat]
    split
    · exact hkept
    · next hx =>
      -- The new element stands behind all others.
      refine List.pairwise_append.2 ⟨hkept, List.pairwise_singleton _ _, fun a ha b hb => ?_⟩
      rw [List.mem_singleton.1 hb, hold ha, List.idxOf_append_of_notMem hx]
      have hlt := List.idxOf_lt_length_of_mem (List.mem_eraseDups.1 ha)
      omega

end

namespace TermBag

/-- Whether counts are those of documents, given by their tokens, in the order of the tokens. -/
structure CountsExactly (bag : TermBag) (documents : List (List String)) : Prop where
  documentCount_eq : bag.documentCount = documents.length
  /-- Each occurrence counts. -/
  frequency_eq : ∀ term, bag.frequency term = documents.flatten.count term
  /-- Each document with an occurrence counts once. -/
  documents_eq : ∀ term, bag.documents term = documents.countP (term ∈ ·)
  mem_keys_iff : ∀ term, term ∈ bag.terms.keys ↔ term ∈ documents.flatten
  /-- No term is listed twice. -/
  nodup_keys : bag.terms.keys.Nodup
  /-- A term is listed before those that occur later for the first time. -/
  pairwise_idxOf : bag.terms.keys.Pairwise fun a b =>
    documents.flatten.idxOf a < documents.flatten.idxOf b
  documents_mem_Icc : ∀ term ∈ bag.terms.keys,
    1 ≤ bag.documents term ∧ bag.documents term ≤ min (bag.frequency term) bag.documentCount

variable {bag : TermBag} {documents : List (List String)} {earlier : List String}

/-! ### The order of the terms -/

/-- A document adds the terms that are new, in the order of its tokens. -/
theorem keys_countTokens {terms : KeyedList String Tally} (h : terms.keys = earlier.eraseDups)
    (seen tokens : List String) :
    (countTokens terms seen tokens).keys = (earlier ++ tokens).eraseDups := by
  -- The invariant is that the terms are the tokens counted so far, each at its first place.
  induction tokens generalizing terms seen earlier with
  | nil =>
    rw [List.append_nil]
    exact h
  | cons token rest ih =>
    have hput : ∀ tally, (terms.put token tally).keys = (earlier ++ [token]).eraseDups := by
      intro tally
      rw [KeyedList.keys_put, h, eraseDups_concat]
      simp only [List.mem_eraseDups]
    rw [countTokens, ih (hput _), List.append_assoc, List.singleton_append]

theorem keys_foldl_addDocument (h : bag.terms.keys = earlier.eraseDups)
    (documents : List (List String)) :
    (documents.foldl addDocument bag).terms.keys = (earlier ++ documents.flatten).eraseDups := by
  induction documents generalizing bag earlier with
  | nil =>
    rw [List.flatten_nil, List.append_nil]
    exact h
  | cons tokens rest ih =>
    have hadd : (bag.addDocument tokens).terms.keys = (earlier ++ tokens).eraseDups :=
      keys_countTokens h [] tokens
    rw [List.foldl_cons, ih hadd, List.flatten_cons, List.append_assoc]

theorem keys_ofTokenLists (documents : List (List String)) :
    (ofTokenLists documents).terms.keys = documents.flatten.eraseDups := by
  have hempty : empty.terms.keys = ([] : List String).eraseDups := rfl
  exact keys_foldl_addDocument hempty documents

/-! ### Counts of documents -/

theorem tally_ofTokenLists (documents : List (List String)) (term : String) :
    (ofTokenLists documents).tally term =
      ⟨documents.flatten.count term, documents.countP (term ∈ ·)⟩ := by
  rw [(isCountOf_ofTokenLists documents).tally_eq, tallyIn, List.count_flatten, Multiset.map_coe,
    Multiset.sum_coe, Multiset.coe_countP]

theorem toList_eq_map_keys (bag : TermBag) :
    bag.toList = bag.terms.keys.map fun term => (term, bag.tally term) := by
  have hentry : ∀ entry ∈ bag.toList, (entry.1, bag.tally entry.1) = entry := by
    intro entry hentry
    rw [tally, tally?, KeyedList.find?_of_mem_entries hentry, Option.getD_some]
  calc bag.toList
      = bag.toList.map id := (List.map_id _).symm
    _ = bag.toList.map fun entry => (entry.1, bag.tally entry.1) :=
        List.map_congr_left fun entry h => (hentry entry h).symm
    _ = bag.terms.keys.map fun term => (term, bag.tally term) := by
        rw [KeyedList.keys, List.map_map]
        rfl

/-- The counts of documents, written down from their tokens. -/
theorem toList_ofTokenLists (documents : List (List String)) :
    (ofTokenLists documents).toList = documents.flatten.eraseDups.map fun term =>
      (term, ⟨documents.flatten.count term, documents.countP (term ∈ ·)⟩) := by
  rw [toList_eq_map_keys, keys_ofTokenLists]
  simp only [tally_ofTokenLists]

theorem countsExactly_ofTokenLists (documents : List (List String)) :
    (ofTokenLists documents).CountsExactly documents where
  documentCount_eq := (isCountOf_ofTokenLists documents).documentCount_eq
  frequency_eq term := by rw [frequency, tally_ofTokenLists]
  documents_eq term := by rw [TermBag.documents, tally_ofTokenLists]
  mem_keys_iff term := by rw [keys_ofTokenLists, List.mem_eraseDups]
  nodup_keys := (ofTokenLists documents).terms.nodup_keys
  pairwise_idxOf := by
    rw [keys_ofTokenLists]
    exact pairwise_idxOf_eraseDups documents.flatten
  documents_mem_Icc term hterm := by
    rw [keys_ofTokenLists, List.mem_eraseDups] at hterm
    obtain ⟨tokens, htokens, hmem⟩ := List.mem_flatten.1 hterm
    have hconsistent := isConsistent_ofTokenLists documents
    refine ⟨?_, le_min (hconsistent.documents_le_frequency term)
      (hconsistent.documents_le_documentCount term)⟩
    rw [TermBag.documents, tally_ofTokenLists]
    exact List.countP_pos_iff.2 ⟨tokens, htokens, decide_eq_true hmem⟩

example : (ofTokenLists [["wheat", "harvest", "wheat"], ["harvest"]]).toList =
    [("wheat", ⟨2, 1⟩), ("harvest", ⟨2, 2⟩)] := by
  decide

end TermBag

namespace Tokenizer

/-- Texts and documents are counted exactly, whatever the tokenizer makes of them; each counts as a
document, also one without tokens. -/
theorem countsExactly_bags (tokenizer : Tokenizer) :
    (∀ texts, (tokenizer.bagOfTexts texts).CountsExactly (texts.map tokenizer.tokens)) ∧
    (∀ document, (tokenizer.bag document).CountsExactly [tokenizer.documentTokens document]) ∧
    ∀ documents extra, (tokenizer.bagOfDocuments documents extra).CountsExactly
      (documents.map fun document => tokenizer.documentTokens document extra) :=
  ⟨fun _ => TermBag.countsExactly_ofTokenLists _, fun _ => TermBag.countsExactly_ofTokenLists _,
    fun _ _ => TermBag.countsExactly_ofTokenLists _⟩

end Tokenizer

end NewsScoring
