import Mathlib.Data.List.Nodup
import NewsScoring.Proofs.TermBag.Consistency
import NewsScoring.TermBag.Inspection

/-!
# Accepted parts

Stored parts are taken one after the other, and each is compared with the number of documents and
with the terms of the parts before it (`Breaks`).  They are accepted exactly if they are consistent
as a whole (`AreConsistent`), and then the counts have these parts and no others (`Holds`).  A
refusal is about the first part that breaks a rule, and the message names its term (`IsAbout`).
-/

namespace NewsScoring.TermBag

/-- Whether no term is listed twice, and none occurs in more documents than it occurs times, or than
there are. -/
structure AreConsistent (documentCount : ℕ) (parts : List (String × Tally)) : Prop where
  nodup_terms : (parts.map Prod.fst).Nodup
  documents_le_frequency : ∀ part ∈ parts, part.2.documents ≤ part.2.frequency
  documents_le_documentCount : ∀ part ∈ parts, part.2.documents ≤ documentCount

/-- Whether counts have the given parts, in their order, and no others. -/
structure Holds (bag : TermBag) (documentCount : ℕ) (parts : List (String × Tally)) : Prop where
  documentCount_eq : bag.documentCount = documentCount
  toList_eq : bag.toList = parts
  tally?_of_mem : ∀ part ∈ parts, bag.tally? part.1 = some part.2
  tally?_of_notMem : ∀ term ∉ parts.map Prod.fst, bag.tally? term = none
  frequency_of_notMem : ∀ term ∉ parts.map Prod.fst, bag.frequency term = 0
  documents_of_notMem : ∀ term ∉ parts.map Prod.fst, bag.documents term = 0

/-- Whether a part breaks a rule after parts with the given terms. -/
def Breaks (documentCount : ℕ) (terms : List String) (part : String × Tally) : Prop :=
  part.2.frequency < part.2.documents ∨ documentCount < part.2.documents ∨ part.1 ∈ terms

/-- Whether no part breaks a rule after those before it. -/
def NoneBreaks (documentCount : ℕ) (parts : List (String × Tally)) : Prop :=
  ∀ before part after, parts = before ++ part :: after →
    ¬Breaks documentCount (before.map Prod.fst) part

/-- The defect of a part after parts with the given terms.  Of several rules that are broken, the
one about how often the term occurs counts first, and the one about other parts last. -/
inductive HasDefect (documentCount : ℕ) (terms : List String) : String × Tally → Defect → Prop where
  | rarerThanDocuments {term : String} {tally : Tally} (h : tally.frequency < tally.documents) :
    HasDefect documentCount terms (term, tally) (.rarerThanDocuments term tally)
  | moreThanAllDocuments {term : String} {tally : Tally}
    (hfrequency : tally.documents ≤ tally.frequency) (h : documentCount < tally.documents) :
    HasDefect documentCount terms (term, tally)
      (.moreThanAllDocuments term tally.documents documentCount)
  | repeated {term : String} {tally : Tally} (hfrequency : tally.documents ≤ tally.frequency)
    (hcount : tally.documents ≤ documentCount) (h : term ∈ terms) :
    HasDefect documentCount terms (term, tally) (.repeated term)

/-- The term that a defect is about. -/
def Defect.term : Defect → String
  | .rarerThanDocuments term _ => term
  | .moreThanAllDocuments term _ _ => term
  | .repeated term => term

/-- Whether a defect is about a part behind others: none of these breaks a rule, the part does, and
the message starts with its term. -/
structure Defect.IsAbout (defect : Defect) (documentCount : ℕ) (before : List (String × Tally))
    (part : String × Tally) : Prop where
  noneBreaks : NoneBreaks documentCount before
  breaks : Breaks documentCount (before.map Prod.fst) part
  hasDefect : HasDefect documentCount (before.map Prod.fst) part defect
  term_eq : defect.term = part.1
  message_eq : ∃ rest, defect.message = "term " ++ Text.quote part.1 ++ rest

variable {documentCount : ℕ} {parts before after : List (String × Tally)} {part : String × Tally}
  {terms : List String} {defect : Defect} {bag : TermBag}

/-! ### Parts one after the other -/

theorem noneBreaks_concat_iff :
    NoneBreaks documentCount (parts ++ [part]) ↔
      NoneBreaks documentCount parts ∧ ¬Breaks documentCount (parts.map Prod.fst) part := by
  constructor
  · intro h
    refine ⟨fun before earlier after hparts => ?_, h parts part [] rfl⟩
    refine h before earlier (after ++ [part]) ?_
    rw [hparts, List.append_assoc, List.cons_append]
  · rintro ⟨hparts, hpart⟩ before earlier after heq
    rcases List.eq_nil_or_concat after with rfl | ⟨after, last, rfl⟩
    · obtain ⟨rfl, hlast⟩ := List.append_inj' heq rfl
      cases hlast
      exact hpart
    · rw [List.concat_eq_append, ← List.cons_append, ← List.append_assoc] at heq
      exact hparts before earlier after (List.append_inj' heq rfl).1

theorem areConsistent_concat_iff :
    AreConsistent documentCount (parts ++ [part]) ↔
      AreConsistent documentCount parts ∧ ¬Breaks documentCount (parts.map Prod.fst) part := by
  have hnodup : ((parts ++ [part]).map Prod.fst).Nodup ↔
      (parts.map Prod.fst).Nodup ∧ part.1 ∉ parts.map Prod.fst := by
    rw [List.map_append, List.map_singleton, ← List.concat_eq_append, List.nodup_concat, and_comm]
  have hall : ∀ {p : String × Tally → Prop},
      (∀ x ∈ parts ++ [part], p x) ↔ (∀ x ∈ parts, p x) ∧ p part := by
    intro p
    rw [List.forall_mem_append, List.forall_mem_singleton]
  rw [Breaks, not_or, not_or, Nat.not_lt, Nat.not_lt]
  constructor
  · rintro ⟨hterms, hfrequency, hcount⟩
    obtain ⟨hparts, hnew⟩ := hnodup.1 hterms
    obtain ⟨hfrequency, hpartFrequency⟩ := hall.1 hfrequency
    obtain ⟨hcount, hpartCount⟩ := hall.1 hcount
    exact ⟨⟨hparts, hfrequency, hcount⟩, hpartFrequency, hpartCount, hnew⟩
  · rintro ⟨⟨hparts, hfrequency, hcount⟩, hpartFrequency, hpartCount, hnew⟩
    exact ⟨hnodup.2 ⟨hparts, hnew⟩, hall.2 ⟨hfrequency, hpartFrequency⟩,
      hall.2 ⟨hcount, hpartCount⟩⟩

/-- Parts are consistent if none breaks a rule after those before it. -/
theorem areConsistent_iff_noneBreaks :
    AreConsistent documentCount parts ↔ NoneBreaks documentCount parts := by
  induction parts using List.reverseRecOn with
  | nil =>
    refine iff_of_true ⟨List.nodup_nil, by simp, by simp⟩ fun before part after hparts => ?_
    exact absurd hparts.symm (by simp)
  | append_singleton parts part ih =>
    rw [areConsistent_concat_iff, noneBreaks_concat_iff, ih]

/-! ### Acceptance -/

/-- Of parts that are listed, only the tallies can be wrong. -/
theorem areConsistent_entries_iff {listed : KeyedList String Tally} :
    AreConsistent documentCount listed.entries ↔ ∀ part ∈ listed.entries,
      part.2.documents ≤ part.2.frequency ∧ part.2.documents ≤ documentCount := by
  constructor
  · intro h part hpart
    exact ⟨h.documents_le_frequency part hpart, h.documents_le_documentCount part hpart⟩
  · intro h
    exact ⟨listed.nodup_keys, fun part hpart => (h part hpart).1,
      fun part hpart => (h part hpart).2⟩

theorem exists_ofParts_eq_ok_iff :
    (∃ bag, ofParts documentCount parts = .ok bag) ↔ AreConsistent documentCount parts := by
  simp only [ofParts_eq_ok_iff, isConsistent_iff]
  constructor
  · rintro ⟨bag, hparts, rfl, rfl⟩
    exact areConsistent_entries_iff.2 hparts
  · intro h
    exact ⟨⟨documentCount, ⟨parts, h.nodup_terms⟩⟩, areConsistent_entries_iff.1 h, rfl, rfl⟩

theorem holds_of_ofParts_eq_ok (h : ofParts documentCount parts = .ok bag) :
    bag.Holds documentCount parts := by
  obtain ⟨-, rfl, rfl⟩ := ofParts_eq_ok_iff.1 h
  have hnone : ∀ term ∉ bag.toList.map Prod.fst, bag.tally? term = none := by
    intro term hterm
    rw [tally?, ← Option.not_isSome_iff_eq_none]
    exact mt KeyedList.contains_iff_mem_keys.1 hterm
  refine ⟨rfl, rfl, fun part hpart => KeyedList.find?_of_mem_entries hpart, hnone, ?_, ?_⟩
  · intro term hterm
    rw [frequency, tally, hnone term hterm]
    rfl
  · intro term hterm
    rw [documents, tally, hnone term hterm]
    rfl

/-! ### Refusal -/

theorem HasDefect.breaks (h : HasDefect documentCount terms part defect) :
    Breaks documentCount terms part := by
  cases h with
  | rarerThanDocuments h => exact .inl h
  | moreThanAllDocuments _ h => exact .inr (.inl h)
  | repeated _ _ h => exact .inr (.inr h)

theorem HasDefect.term_eq (h : HasDefect documentCount terms part defect) :
    defect.term = part.1 := by
  cases h <;> rfl

/-- Each message starts with the term that the defect is about. -/
theorem Defect.exists_message_eq (defect : Defect) :
    ∃ rest, defect.message = "term " ++ Text.quote defect.term ++ rest := by
  cases defect <;> simp only [message, Defect.term, String.append_assoc] <;> exact ⟨_, rfl⟩

theorem addPart_eq_error_iff {listed : KeyedList String Tally} :
    addPart documentCount listed part.1 part.2 = .error defect ↔
      HasDefect documentCount listed.keys part defect := by
  obtain ⟨term, tally⟩ := part
  unfold addPart
  constructor
  · intro h
    split at h
    · rename_i hrarer
      cases h
      exact .rarerThanDocuments hrarer
    rename_i hfrequency
    split at h
    · rename_i hmore
      cases h
      exact .moreThanAllDocuments (Nat.not_lt.1 hfrequency) hmore
    rename_i hcount
    split at h
    · rename_i hcontains
      cases h
      exact .repeated (Nat.not_lt.1 hfrequency) (Nat.not_lt.1 hcount)
        (KeyedList.contains_iff_mem_keys.1 hcontains)
    · cases h
  · intro h
    cases h with
    | rarerThanDocuments hrarer => rw [if_pos hrarer]
    | moreThanAllDocuments hfrequency hmore =>
      rw [if_neg (Nat.not_lt.2 hfrequency), if_pos hmore]
    | repeated hfrequency hcount hmem =>
      rw [if_neg (Nat.not_lt.2 hfrequency), if_neg (Nat.not_lt.2 hcount),
        if_pos (KeyedList.contains_iff_mem_keys.2 hmem)]

theorem ofParts_eq_error_iff :
    ofParts documentCount parts = .error defect ↔
      ∃ before part after, parts = before ++ part :: after ∧
        AreConsistent documentCount before ∧
        HasDefect documentCount (before.map Prod.fst) part defect := by
  have hsteps : ofParts documentCount parts = .error defect ↔
      parts.foldlM (fun terms part => addPart documentCount terms part.1 part.2)
        KeyedList.empty = .error defect := by
    rw [ofParts, bind_eq_error_iff]
    simp [pure, Except.pure]
  rw [hsteps, foldlM_eq_error_iff]
  constructor
  · rintro ⟨before, part, after, hparts, listed, hbefore, hpart⟩
    obtain ⟨hconsistent, hentries⟩ := foldlM_addPart_eq_ok_iff.1 hbefore
    obtain rfl : listed.entries = before := hentries
    exact ⟨listed.entries, part, after, hparts, areConsistent_entries_iff.2 hconsistent,
      addPart_eq_error_iff.1 hpart⟩
  · rintro ⟨before, part, after, hparts, hbefore, hpart⟩
    -- The parts before it are consistent, so that they are listed when its turn comes.
    let listed : KeyedList String Tally := ⟨before, hbefore.nodup_terms⟩
    have hlisted : AreConsistent documentCount listed.entries := hbefore
    exact ⟨before, part, after, hparts, listed,
      foldlM_addPart_eq_ok_iff.2 ⟨areConsistent_entries_iff.1 hlisted, rfl⟩,
      addPart_eq_error_iff.2 hpart⟩

theorem isAbout_iff :
    defect.IsAbout documentCount before part ↔
      AreConsistent documentCount before ∧
        HasDefect documentCount (before.map Prod.fst) part defect := by
  rw [areConsistent_iff_noneBreaks]
  constructor
  · intro h
    exact ⟨h.noneBreaks, h.hasDefect⟩
  · rintro ⟨hbefore, hdefect⟩
    refine ⟨hbefore, hdefect.breaks, hdefect, hdefect.term_eq, ?_⟩
    rw [← hdefect.term_eq]
    exact defect.exists_message_eq

/-- Stored parts, whatever they are, are accepted exactly if they are consistent.  What is accepted
are these parts and no others, and a refusal is about the first part that breaks a rule after those
before it. -/
theorem ofParts_accepts_consistent (documentCount : ℕ) (parts : List (String × Tally)) :
    ((∃ bag, ofParts documentCount parts = .ok bag) ↔ AreConsistent documentCount parts) ∧
    (∀ bag, ofParts documentCount parts = .ok bag → bag.Holds documentCount parts) ∧
    ∀ defect, ofParts documentCount parts = .error defect ↔
      ∃ before part after, parts = before ++ part :: after ∧
        defect.IsAbout documentCount before part := by
  refine ⟨exists_ofParts_eq_ok_iff, fun bag => holds_of_ofParts_eq_ok, fun defect => ?_⟩
  simp only [ofParts_eq_error_iff, isAbout_iff]

/-- The parts of two cereals. -/
def cerealParts : List (String × Tally) :=
  [("wheat", ⟨2, 1⟩), ("rice", ⟨3, 2⟩)]

/-- The parts of two cereals are accepted for two documents.  With three more parts, each of which
breaks a rule, the first of these is named. -/
theorem ofParts_accepts_consistent_cerealParts :
    (∃ bag, ofParts 2 cerealParts = .ok bag ∧ bag.Holds 2 cerealParts) ∧
    (Defect.repeated "wheat").IsAbout 2 cerealParts ("wheat", ⟨1, 1⟩) ∧
    ofParts 2 (cerealParts ++ [("wheat", ⟨1, 1⟩), ("corn", ⟨1, 2⟩), ("oats", ⟨3, 3⟩)]) =
      .error (.repeated "wheat") := by
  have hconsistent : AreConsistent 2 cerealParts :=
    ⟨by decide, by decide, by decide⟩
  have hdefect : HasDefect 2 (cerealParts.map Prod.fst) ("wheat", ⟨1, 1⟩) (.repeated "wheat") :=
    .repeated (by decide) (by decide) (by decide)
  have habout := isAbout_iff.2 ⟨hconsistent, hdefect⟩
  obtain ⟨bag, hbag⟩ := (ofParts_accepts_consistent 2 cerealParts).1.2 hconsistent
  refine ⟨⟨bag, hbag, (ofParts_accepts_consistent 2 cerealParts).2.1 bag hbag⟩, habout, ?_⟩
  exact ((ofParts_accepts_consistent 2 _).2.2 _).2 ⟨cerealParts, _, _, rfl, habout⟩

end NewsScoring.TermBag
