import NewsScoring.Bytes
import NewsScoring.Corpus.Workshop
import NewsScoring.Proofs.TermBag.Consistency
import NewsScoring.Proofs.TermBag.Counts
import NewsScoring.Tokenizer

/-!
# What flows into a corpus

Documents that are added to a corpus move on when it is merged into another.  `follow` keeps track
of the corpus that holds each of them, and `inflow` gathers those that end up in one corpus.  After
any calls each corpus has the counts of its inflow (`isCountOf_get_runCalls`), and freezing it lists
the terms in the order of their bytes, so that the result depends on nothing but the inflow.
-/

namespace NewsScoring

namespace Corpus

/-! ### Adding and merging -/

variable {corpus other : Corpus} {documents more : Multiset (List String)}

theorem isCountOf_gathered_empty : empty.gathered.IsCountOf 0 :=
  TermBag.isCountOf_empty

theorem isCountOf_gathered_add (h : corpus.gathered.IsCountOf documents) (tokens : List String) :
    (corpus.add tokens).gathered.IsCountOf (tokens ::ₘ documents) := by
  rw [gathered_add]
  exact h.addDocument tokens

theorem allOccur_addTally {terms : KeyedList String Tally} (h : TermBag.AllOccur terms)
    {added : Tally} (hadded : 0 < added.frequency) (term : String) :
    TermBag.AllOccur (addTally terms term added) := by
  unfold addTally
  split
  · exact h.put (Nat.add_pos_right _ hadded) term
  · exact h.put hadded term

/-- Terms that occur are added to terms that occur. -/
theorem allOccur_foldl_addTally {entries : List (String × Tally)} {terms : KeyedList String Tally}
    (h : TermBag.AllOccur terms) (hentries : ∀ entry ∈ entries, 0 < entry.2.frequency) :
    TermBag.AllOccur
      (entries.foldl (fun terms entry => addTally terms entry.1 entry.2) terms) := by
  induction entries generalizing terms with
  | nil => exact h
  | cons entry rest ih =>
    obtain ⟨hentry, hrest⟩ := List.forall_mem_cons.1 hentries
    exact ih (allOccur_addTally h hentry entry.1) hrest

theorem isCountOf_gathered_merge (h : corpus.gathered.IsCountOf documents)
    (hother : other.gathered.IsCountOf more) :
    (corpus.merge other).gathered.IsCountOf (documents + more) where
  documentCount_eq := by
    rw [Multiset.card_add, ← h.documentCount_eq, ← hother.documentCount_eq]
    rfl
  tally_eq term := by rw [tally_merge, tallyIn_add, h.tally_eq, hother.tally_eq]
  allOccur := by
    refine allOccur_foldl_addTally h.allOccur fun entry hentry => ?_
    exact hother.allOccur _ _ (KeyedList.find?_of_mem_entries hentry)

/-! ### Freezing -/

theorem isCountOf_freeze (h : corpus.gathered.IsCountOf documents) :
    corpus.freeze.IsCountOf documents where
  documentCount_eq := h.documentCount_eq
  tally_eq term := by rw [tally_freeze, h.tally_eq]
  allOccur term tally hfind :=
    h.allOccur term tally ((KeyedList.find?_sortedBy corpus.terms termLe term).symm.trans hfind)

theorem toList_loop_eq (bytes : ByteArray) (i : ℕ) (before : List UInt8) :
    ByteArray.toList.loop bytes i before = before.reverse ++ bytes.data.toList.drop i := by
  fun_induction ByteArray.toList.loop bytes i before with
  | case1 i before hi ih =>
    have hlength : i < bytes.data.toList.length := hi
    rw [ih, List.drop_eq_getElem_cons hlength, List.reverse_cons, List.append_assoc]
    simp [ByteArray.get!, hi]
  | case2 i before hi =>
    have hlength : bytes.data.toList.length ≤ i := Nat.le_of_not_lt hi
    rw [List.drop_eq_nil_of_le hlength, List.append_nil]

theorem termBytes_eq_ofText (term : String) : termBytes term = Bytes.ofText term := by
  rw [termBytes, ByteArray.toList, toList_loop_eq]
  rfl

/-- Terms are told apart by their bytes. -/
theorem eq_of_termBytes_eq {a b : String} (h : termBytes a = termBytes b) : a = b := by
  rw [termBytes_eq_ofText, termBytes_eq_ofText] at h
  exact Option.some.inj ((Bytes.text?_ofText a).symm.trans (h ▸ Bytes.text?_ofText b))

theorem termLe_iff {a b : String} : termLe a b = true ↔ termBytes a ≤ termBytes b := by
  rw [termLe, Bool.not_eq_true', decide_eq_false_iff_not, List.not_lt]

/-- A frozen corpus lists its terms in strictly ascending order of their bytes. -/
theorem pairwise_entries_freeze (corpus : Corpus) :
    corpus.freeze.terms.entries.Pairwise fun a b => termBytes a.1 < termBytes b.1 := by
  have hsorted : corpus.freeze.terms.entries.Pairwise fun a b => termLe a.1 b.1 = true := by
    refine List.pairwise_mergeSort (fun a b c hab hbc => ?_) (fun a b => ?_) corpus.terms.entries
    · exact termLe_iff.2 (List.le_trans (termLe_iff.1 hab) (termLe_iff.1 hbc))
    · rw [Bool.or_eq_true, termLe_iff, termLe_iff]
      exact List.le_total _ _
  have hnodup : corpus.freeze.terms.entries.Pairwise fun a b => a.1 ≠ b.1 :=
    List.pairwise_map.1 corpus.freeze.terms.nodup_keys
  refine (hsorted.and hnodup).imp ?_
  rintro a b ⟨hle, hne⟩
  by_contra hlt
  exact hne (eq_of_termBytes_eq (List.le_antisymm (termLe_iff.1 hle) (List.not_lt.1 hlt)))

/-- Frozen corpora with the same documents are equal. -/
theorem freeze_eq_freeze (h : corpus.gathered.IsCountOf documents)
    (hother : other.gathered.IsCountOf documents) : corpus.freeze = other.freeze := by
  have hcount : corpus.freeze.documentCount = other.freeze.documentCount :=
    h.documentCount_eq.trans hother.documentCount_eq.symm
  have hentries : corpus.freeze.terms.entries = other.freeze.terms.entries := by
    refine List.Perm.eq_of_pairwise (fun a b _ _ hab hba => ?_) (pairwise_entries_freeze corpus)
      (pairwise_entries_freeze other) ((isCountOf_freeze h).perm (isCountOf_freeze hother))
    exact absurd hba (List.lt_asymm hab)
  exact congrArg₂ TermBag.mk hcount (KeyedList.eq_of_entries_eq hentries)

end Corpus

namespace Workshop

/-! ### Calls -/

/-- What a caller can do with corpora. -/
inductive Call where
  | addTokens (name : String) (tokens : List String)
  | addText (name : String) (tokenizer : Tokenizer) (text : String)
  | addDocument (name : String) (tokenizer : Tokenizer) (document : Document) (extra : List String)
  | merge (name other : String)

/-- The step that a call takes. -/
def Call.step : Call → Step
  | addTokens name tokens => .add name tokens
  | addText name tokenizer text => .add name (tokenizer.tokens text)
  | addDocument name tokenizer document extra => .add name (tokenizer.documentTokens document extra)
  | merge name other => .merge name other

/-- The workshop after calls. -/
def runCalls (calls : List Call) : Workshop :=
  empty.run (calls.map Call.step)

/-! ### Inflow -/

/-- Where documents are after a step, each with the corpus that holds it. -/
def follow (held : Multiset (String × List String)) : Step → Multiset (String × List String)
  | .add name tokens => (name, tokens) ::ₘ held
  | .merge name other => held.map fun (holder, tokens) =>
    (if holder = other then name else holder, tokens)

/-- The documents that a corpus holds. -/
def heldBy (name : String) (held : Multiset (String × List String)) : Multiset (List String) :=
  (held.filter (·.1 = name)).map Prod.snd

/-- The documents that flow into a corpus by some calls, directly or through merges. -/
def inflow (calls : List Call) (name : String) : Multiset (List String) :=
  heldBy name ((calls.map Call.step).foldl follow 0)

variable {held : Multiset (String × List String)}

theorem heldBy_cons (name holder : String) (tokens : List String) :
    heldBy name ((holder, tokens) ::ₘ held) =
      if name = holder then tokens ::ₘ heldBy name held else heldBy name held := by
  rw [heldBy, Multiset.filter_cons]
  by_cases h : name = holder
  · simp [heldBy, h]
  · simp [heldBy, h, Ne.symm h]

/-- A merge empties the corpus that is taken away before it fills the other. -/
theorem heldBy_follow_merge (into other name : String) :
    heldBy name (follow held (.merge into other)) =
      if name = into then
        (if into = other then 0 else heldBy into held) + heldBy other held
      else if name = other then 0 else heldBy name held := by
  induction held using Multiset.induction_on with
  | empty => simp [follow, heldBy]
  | cons document held ih =>
    obtain ⟨holder, tokens⟩ := document
    rw [follow] at ih ⊢
    -- The document moves if the corpus that holds it is taken away.
    rw [Multiset.map_cons, heldBy_cons, ih, heldBy_cons, heldBy_cons, heldBy_cons]
    grind [Multiset.add_cons, Multiset.cons_add]

variable {workshop : Workshop}

/-- A step keeps the counts of all corpora those of the documents that they hold. -/
theorem isCountOf_get_step (h : ∀ name, (workshop.get name).gathered.IsCountOf (heldBy name held))
    (step : Step) (name : String) :
    ((workshop.step step).get name).gathered.IsCountOf (heldBy name (follow held step)) := by
  cases step with
  | add into tokens =>
    rw [Workshop.step, get_set, follow, heldBy_cons]
    split
    · rename_i heq
      rw [heq]
      exact Corpus.isCountOf_gathered_add (h into) tokens
    · exact h name
  | merge into other =>
    have hrest : ∀ name, ((workshop.take other).2.get name).gathered.IsCountOf
        (if name = other then 0 else heldBy name held) := by
      intro name
      rw [get_snd_take]
      split
      · exact Corpus.isCountOf_gathered_empty
      · exact h name
    rw [Workshop.step, get_set, heldBy_follow_merge]
    split
    · exact Corpus.isCountOf_gathered_merge (hrest into) (h other)
    · exact hrest name

theorem isCountOf_get_runCalls (calls : List Call) (name : String) :
    ((runCalls calls).get name).gathered.IsCountOf (inflow calls name) := by
  have hrun : ∀ (steps : List Step) (workshop : Workshop) (held : Multiset (String × List String)),
      (∀ name, (workshop.get name).gathered.IsCountOf (heldBy name held)) →
        ((workshop.run steps).get name).gathered.IsCountOf
          (heldBy name (steps.foldl follow held)) := by
    intro steps
    induction steps with
    | nil => exact fun workshop held h => h name
    | cons step rest ih => exact fun workshop held h => ih _ _ (isCountOf_get_step h step)
  exact hrun _ empty 0 fun _ => Corpus.isCountOf_gathered_empty

/-- What a frozen corpus counts depends on its inflow only: these are the counts of the same
documents in any order, with the terms in ascending order of their bytes. -/
theorem freeze_get_runCalls (calls : List Call) (name : String) :
    let bag := ((runCalls calls).get name).freeze
    (bag.documentCount = (inflow calls name).card ∧
      (∀ term, bag.frequency term = ((inflow calls name).map (List.count term)).sum) ∧
      (∀ term, bag.documents term = (inflow calls name).countP (term ∈ ·)) ∧
      (∀ term, term ∈ bag.terms.keys ↔ ∃ tokens ∈ inflow calls name, term ∈ tokens) ∧
      bag.terms.keys.Pairwise fun a b => Corpus.termBytes a < Corpus.termBytes b) ∧
    (∀ documents : List (List String), documents = inflow calls name →
      bag.agrees (.ofTokenLists documents) = true ∧
        (TermBag.ofTokenLists documents).agrees bag = true) ∧
    ∀ (calls' : List Call) (name' : String), inflow calls' name' = inflow calls name →
      ((runCalls calls').get name').freeze = bag := by
  intro bag
  have hgathered := isCountOf_get_runCalls calls name
  have hbag : bag.IsCountOf (inflow calls name) := Corpus.isCountOf_freeze hgathered
  refine ⟨⟨hbag.documentCount_eq, fun term => ?_, fun term => ?_, fun term => hbag.mem_keys_iff,
    List.pairwise_map.2 (Corpus.pairwise_entries_freeze _)⟩, fun documents hdocuments => ?_,
    fun calls' name' hinflow => ?_⟩
  · rw [TermBag.frequency, hbag.tally_eq]
    rfl
  · rw [TermBag.documents, hbag.tally_eq]
    rfl
  · have hsequential := TermBag.isCountOf_ofTokenLists documents
    rw [hdocuments] at hsequential
    exact ⟨hbag.agrees hsequential, hsequential.agrees hbag⟩
  · have hgathered' := isCountOf_get_runCalls calls' name'
    rw [hinflow] at hgathered'
    exact Corpus.freeze_eq_freeze hgathered' hgathered

/-- Two corpora that are merged agree with the counts of their documents in the other order. -/
theorem freeze_get_runCalls_robots :
    (([["robots", "welding"], ["robots", "robots"]] : List (List String)) : Multiset _) =
      inflow [.addTokens "a" ["robots", "robots"], .addTokens "b" ["robots", "welding"],
        .merge "a" "b"] "a" ∧
    ((runCalls [.addTokens "a" ["robots", "robots"], .addTokens "b" ["robots", "welding"],
      .merge "a" "b"]).get "a").freeze.agrees
        (.ofTokenLists [["robots", "welding"], ["robots", "robots"]]) = true := by
  have hinflow : (([["robots", "welding"], ["robots", "robots"]] : List (List String)) :
      Multiset _) = inflow [.addTokens "a" ["robots", "robots"],
        .addTokens "b" ["robots", "welding"], .merge "a" "b"] "a" := by
    decide
  exact ⟨hinflow, ((freeze_get_runCalls _ "a").2.1 _ hinflow).1⟩

end Workshop

end NewsScoring
