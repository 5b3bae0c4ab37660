import NewsScoring.Proofs.Document.Separators
import NewsScoring.Proofs.DocumentMemo.Soundness
import NewsScoring.Proofs.Vectorizer.Scoring

/-!
# The answers of a vectorizer that remembers

A vectorizer is asked about documents one after the other, while its memo may lose entries at any
time (`answers`).  Its memo is transparent for a set of documents if each document of the set always
gets the answer of a vectorizer that remembers nothing (`MemoIsTransparent`).  It is so exactly if
no two documents of the set have one text and two answers (`memoIsTransparent_iff`), and always if
the documents are free of separators.  A paragraph with a separator inside has the text of two
paragraphs, and the vector of the one is taken for that of the other
(`not_memoIsTransparent_joined_paragraphs`).
-/

namespace NewsScoring.Vectorizer

variable {α : Type} [Scalar α]

/-! ### Runs -/

/-- What happens to a vectorizer: it is asked about a document, or its memo loses the entry under a
fingerprint or all entries. -/
inductive Event where
  | ask (document : Document)
  | evict (key : UInt64)
  | clear

/-- The documents that are asked about in a run, each with its answer. -/
def answers (disk : Disk) (vectorizer : Vectorizer α) :
    List Event → List (Document × Except ScoringError (WeightVector α))
  | [] => []
  | .ask document :: rest =>
    (document, (vectorizer.answer disk document).1) ::
      answers disk (vectorizer.answer disk document).2 rest
  | .evict key :: rest => answers disk { vectorizer with memo := vectorizer.memo.evict key } rest
  | .clear :: rest => answers disk { vectorizer with memo := vectorizer.memo.clear } rest

/-- The answer of a vectorizer that remembers nothing. -/
def uncachedAnswer (disk : Disk) (tokenizer : Tokenizer) (source : UniverseSource)
    (document : Document) : Except ScoringError (WeightVector α) :=
  (answer disk ⟨tokenizer, source, .empty 0⟩ document).1

/-- Whether in each run of a vectorizer over documents of a set, whatever the capacity and the
fingerprints of its memo, each document gets the answer of a vectorizer that remembers nothing. -/
def MemoIsTransparent (α : Type) [Scalar α] (disk : Disk) (tokenizer : Tokenizer)
    (source : UniverseSource) (documents : Set Document) : Prop :=
  ∀ (capacity : ℕ) (fingerprint : Fingerprint) (events : List Event),
    (∀ document, .ask document ∈ events → document ∈ documents) →
    ∀ asked ∈ answers disk (⟨tokenizer, source, .empty capacity fingerprint⟩ : Vectorizer α) events,
      asked.2 = uncachedAnswer disk tokenizer source asked.1

/-! ### Uncached answers -/

theorem uncachedAnswer_eq (disk : Disk) (tokenizer : Tokenizer) (source : UniverseSource)
    (document : Document) :
    (uncachedAnswer disk tokenizer source document : Except ScoringError (WeightVector α)) =
      (source.get disk).1.bind fun u => (tokenizer.bag document).weighted u := by
  rw [uncachedAnswer, answer_eq]
  cases (source.get disk).1 with
  | error cause => rfl
  | ok u => exact DocumentMemo.fetch_of_capacity_eq_zero rfl document _

/-- Each document counts as one, so that one of them is refused as too many only if all are. -/
theorem weighted_bag_error {tokenizer : Tokenizer} {u : Universe} {a : Document}
    {cause : ScoringError}
    (h : ((tokenizer.bag a).weighted u : Except ScoringError (WeightVector α)) = .error cause)
    (b : Document) :
    ((tokenizer.bag b).weighted u : Except ScoringError (WeightVector α)) = .error cause := by
  rw [TermBag.weighted_eq_error_iff, Tokenizer.documentCount_bag] at h ⊢
  exact h

/-- Either all documents have the same error, or none has one. -/
theorem uncachedAnswer_error {disk : Disk} {tokenizer : Tokenizer} {source : UniverseSource}
    {a : Document} {cause : ScoringError}
    (h : (uncachedAnswer disk tokenizer source a : Except ScoringError (WeightVector α)) =
      .error cause) (b : Document) :
    (uncachedAnswer disk tokenizer source b : Except ScoringError (WeightVector α)) =
      .error cause := by
  rw [uncachedAnswer_eq] at h ⊢
  cases hu : (source.get disk).1 with
  | error cause' =>
    rw [hu] at h
    exact h
  | ok u =>
    rw [hu] at h
    exact weighted_bag_error h b

/-- In a universe of a document or more, each document has a vector, and the terms of the vector are
those of the document. -/
theorem exists_uncachedAnswer_eq_ok {disk : Disk} {source : UniverseSource} {u : Universe}
    (hu : (source.get disk).1 = .ok u) (hcount : 1 ≤ u.documentCount) (tokenizer : Tokenizer)
    (document : Document) :
    ∃ vector : WeightVector α, uncachedAnswer disk tokenizer source document = .ok vector ∧
      vector.weights.keys = (tokenizer.bag document).terms.keys := by
  obtain ⟨vector, hvector⟩ : ∃ vector : WeightVector α,
      (tokenizer.bag document).weighted u = .ok vector :=
    TermBag.exists_weighted_eq_ok_iff.2 hcount
  refine ⟨vector, ?_, TermBag.keys_of_weighted_eq_ok hvector⟩
  rw [uncachedAnswer_eq, hu]
  exact hvector

/-! ### Runs over documents whose texts tell their answers -/

section Run

variable {disk : Disk} {tokenizer : Tokenizer} {source : UniverseSource}
  {documents : Set Document}

/-- What holds of a vectorizer throughout a run: it has its tokenizer and its universe, and what its
memo holds for a text is the uncached answer about a document of the set with that text. -/
structure IsFaithful (disk : Disk) (tokenizer : Tokenizer) (source : UniverseSource)
    (documents : Set Document) (vectorizer : Vectorizer α) : Prop where
  tokenizer_eq : vectorizer.tokenizer = tokenizer
  get_eq : (vectorizer.source.get disk).1 = (source.get disk).1
  isSound : vectorizer.memo.IsSound fun text value =>
    ∃ document ∈ documents, document.text = text ∧
      uncachedAnswer disk tokenizer source document = .ok value

theorem isFaithful_empty (capacity : ℕ) (fingerprint : Fingerprint) :
    IsFaithful disk tokenizer source documents
      (⟨tokenizer, source, .empty capacity fingerprint⟩ : Vectorizer α) :=
  ⟨rfl, rfl, DocumentMemo.isSound_empty capacity fingerprint _⟩

/-- An answer about a document of the set keeps a vectorizer faithful. -/
theorem IsFaithful.answer {vectorizer : Vectorizer α}
    (h : IsFaithful disk tokenizer source documents vectorizer) {document : Document}
    (hmem : document ∈ documents) :
    IsFaithful disk tokenizer source documents (vectorizer.answer disk document).2 := by
  have hget : (((vectorizer.source.get disk).2).get disk).1 = (source.get disk).1 :=
    (get_get vectorizer.source disk).trans h.get_eq
  rw [answer_eq]
  cases hu : (vectorizer.source.get disk).1 with
  | error cause => exact ⟨h.tokenizer_eq, hget, h.isSound⟩
  | ok u =>
    refine ⟨h.tokenizer_eq, hget, h.isSound.fetch fun value hvalue => ⟨document, hmem, rfl, ?_⟩⟩
    rw [uncachedAnswer_eq, ← h.get_eq, hu, ← h.tokenizer_eq]
    exact hvalue

/-- Where documents of one text have one answer, a faithful vectorizer gives that answer. -/
theorem IsFaithful.answer_eq_uncached {vectorizer : Vectorizer α}
    (h : IsFaithful disk tokenizer source documents vectorizer)
    (htexts : ∀ a ∈ documents, ∀ b ∈ documents, a.text = b.text →
      (uncachedAnswer disk tokenizer source a : Except ScoringError (WeightVector α)) =
        uncachedAnswer disk tokenizer source b)
    {document : Document} (hmem : document ∈ documents) :
    (vectorizer.answer disk document).1 = uncachedAnswer disk tokenizer source document := by
  have huncached : (uncachedAnswer disk tokenizer source document :
      Except ScoringError (WeightVector α)) = (vectorizer.source.get disk).1.bind fun u =>
        (vectorizer.tokenizer.bag document).weighted u := by
    rw [uncachedAnswer_eq, h.get_eq, h.tokenizer_eq]
  rw [answer_eq]
  cases hu : (vectorizer.source.get disk).1 with
  | error cause => rw [huncached, hu]; rfl
  | ok u =>
    rw [hu] at huncached
    rcases vectorizer.memo.fetch_cases document fun _ =>
        (vectorizer.tokenizer.bag document).weighted u with
      ⟨value, hfind, hfetch⟩ | ⟨value, -, hcompute, hfetch⟩ | ⟨cause, -, hcompute, hfetch⟩
    · -- What the memo holds for the text is the answer about a document with that text.
      obtain ⟨other, hother, htext, hvalue⟩ := h.isSound _ _ hfind
      simp only [hfetch]
      rw [← hvalue, htexts other hother document hmem htext]
    · simp only [hfetch]
      exact hcompute.symm.trans huncached.symm
    · simp only [hfetch]
      exact hcompute.symm.trans huncached.symm

/-- The answers of a run, by induction on what happens in it. -/
theorem IsFaithful.answers_eq_uncached {vectorizer : Vectorizer α}
    (h : IsFaithful disk tokenizer source documents vectorizer)
    (htexts : ∀ a ∈ documents, ∀ b ∈ documents, a.text = b.text →
      (uncachedAnswer disk tokenizer source a : Except ScoringError (WeightVector α)) =
        uncachedAnswer disk tokenizer source b)
    {events : List Event} (hevents : ∀ document, .ask document ∈ events → document ∈ documents) :
    ∀ asked ∈ answers disk vectorizer events,
      asked.2 = uncachedAnswer disk tokenizer source asked.1 := by
  induction events generalizing vectorizer with
  | nil => simp [answers]
  | cons event rest ih =>
    have hrest : ∀ document, .ask document ∈ rest → document ∈ documents :=
      fun document hmem => hevents document (List.mem_cons_of_mem _ hmem)
    cases event with
    | ask document =>
      -- The first answer is the uncached one, and the rest starts from a faithful vectorizer.
      have hmem : document ∈ documents := hevents document List.mem_cons_self
      intro asked hasked
      rcases List.mem_cons.1 hasked with rfl | hasked
      · exact h.answer_eq_uncached htexts hmem
      · exact ih (h.answer hmem) hrest asked hasked
    | evict key => exact ih ⟨h.tokenizer_eq, h.get_eq, h.isSound.evict key⟩ hrest
    | clear => exact ih ⟨h.tokenizer_eq, h.get_eq, DocumentMemo.IsSound.clear _⟩ hrest

theorem memoIsTransparent_of_texts
    (htexts : ∀ a ∈ documents, ∀ b ∈ documents, a.text = b.text →
      (uncachedAnswer disk tokenizer source a : Except ScoringError (WeightVector α)) =
        uncachedAnswer disk tokenizer source b) :
    MemoIsTransparent α disk tokenizer source documents :=
  fun capacity fingerprint _ hevents =>
    (isFaithful_empty capacity fingerprint).answers_eq_uncached htexts hevents

/-- A run that asks about two documents of a set asks about documents of the set. -/
theorem mem_of_ask_mem_pair {a b : Document} (ha : a ∈ documents) (hb : b ∈ documents)
    (document : Document) (h : .ask document ∈ [Event.ask a, .ask b]) : document ∈ documents := by
  simp only [List.mem_cons, Event.ask.injEq, List.not_mem_nil, or_false] at h
  rcases h with rfl | rfl
  · exact ha
  · exact hb

/-- Of two documents with one text, the second gets the vector of the first. -/
theorem snd_answers_pair {capacity : ℕ} (hcapacity : capacity ≠ 0) (fingerprint : Fingerprint)
    {a b : Document} (htext : b.text = a.text) {vector : WeightVector α}
    (ha : uncachedAnswer disk tokenizer source a = .ok vector) :
    answers disk (⟨tokenizer, source, .empty capacity fingerprint⟩ : Vectorizer α)
      [.ask a, .ask b] = [(a, .ok vector), (b, .ok vector)] := by
  rw [uncachedAnswer_eq] at ha
  cases hu : (source.get disk).1 with
  | error cause =>
    rw [hu] at ha
    exact absurd ha (by simp [Except.bind])
  | ok u =>
    rw [hu] at ha
    have hlater : ((source.get disk).2.get disk).1 = .ok u := (get_get source disk).trans hu
    have hfirst : ((DocumentMemo.empty capacity fingerprint).fetch a fun _ =>
        (tokenizer.bag a).weighted u).1 = .ok vector :=
      (DocumentMemo.fetch_of_find?_eq_none (DocumentMemo.find?_empty _ _ _) _).trans ha
    have henabled : (DocumentMemo.empty capacity fingerprint :
        DocumentMemo (WeightVector α)).isEnabled = true := by
      simpa [DocumentMemo.isEnabled, DocumentMemo.empty] using hcapacity
    have hheld := DocumentMemo.find?_fetch henabled hfirst
    simp only [answers, answer_eq, hu, hlater, hfirst]
    rw [DocumentMemo.fetch_of_find? (htext ▸ hheld)]

end Run

/-! ### When the memo is transparent -/

/-- The memo is transparent for a set of documents exactly if documents of the set that have one
text have one answer.  It is transparent for all documents that are free of separators. -/
theorem memoIsTransparent_iff (disk : Disk) (tokenizer : Tokenizer) (source : UniverseSource)
    (documents : Set Document) :
    (MemoIsTransparent α disk tokenizer source documents ↔
      ∀ a ∈ documents, ∀ b ∈ documents, a.text = b.text →
        (uncachedAnswer disk tokenizer source a : Except ScoringError (WeightVector α)) =
          uncachedAnswer disk tokenizer source b) ∧
    ((∀ document ∈ documents, document.IsSeparated) →
      MemoIsTransparent α disk tokenizer source documents) := by
  refine ⟨⟨fun htransparent a ha b hb htext => ?_, memoIsTransparent_of_texts⟩,
    fun hseparated => memoIsTransparent_of_texts fun a ha b hb htext => ?_⟩
  · cases hanswer : (uncachedAnswer disk tokenizer source a :
        Except ScoringError (WeightVector α)) with
    | error cause => exact (uncachedAnswer_error hanswer b).symm
    | ok vector =>
      -- In a run that asks about both, the second gets the answer of the first.
      have hpair := snd_answers_pair Nat.one_ne_zero .standard htext.symm hanswer
      exact htransparent 1 .standard _ (mem_of_ask_mem_pair ha hb) (b, .ok vector)
        (by simp [hpair])
  · have htokens := tokenizer.documentTokens_eq_of_text_eq (hseparated a ha) (hseparated b hb)
      htext []
    rw [uncachedAnswer_eq, uncachedAnswer_eq, Tokenizer.bag, Tokenizer.bag, htokens]

/-- The memo is transparent for two documents without separators. -/
theorem memoIsTransparent_iff_separated_pair :
    (∀ document ∈ ({{ paragraphs := ["robots", "factory"] }, { paragraphs := ["robots factory"] }} :
      Set Document), document.IsSeparated) ∧
    MemoIsTransparent Float (fun _ => .error .missing) .english (.ofUniverse ⟨0, ⟨1, .empty⟩⟩)
      {{ paragraphs := ["robots", "factory"] }, { paragraphs := ["robots factory"] }} := by
  have hseparated : ∀ document ∈ ({{ paragraphs := ["robots", "factory"] },
      { paragraphs := ["robots factory"] }} : Set Document), document.IsSeparated := by
    rintro document (rfl | rfl) <;>
      exact ⟨by decide +kernel, by decide +kernel, by decide +kernel, by decide +kernel⟩
  exact ⟨hseparated, (memoIsTransparent_iff _ _ _ _).2 hseparated⟩

/-- A paragraph with a separator inside has the text of two paragraphs.  The two paragraphs, asked
about after it, get its vector, the only term of which has the separator inside. -/
theorem not_memoIsTransparent_joined_paragraphs :
    ¬ MemoIsTransparent Float (fun _ => .error .missing) ⟨⟨[]⟩⟩ (.ofUniverse ⟨0, ⟨1, .empty⟩⟩)
      {{ paragraphs := ["robots\x1efactory"] }, { paragraphs := ["robots", "factory"] }} := by
  intro htransparent
  have hloaded : ((UniverseSource.ofUniverse ⟨0, ⟨1, .empty⟩⟩).get
      fun _ => .error .missing).1 = .ok ⟨0, ⟨1, .empty⟩⟩ := rfl
  obtain ⟨joined, hjoined, hjoinedKeys⟩ : ∃ vector : WeightVector Float, _ ∧ _ :=
    exists_uncachedAnswer_eq_ok hloaded (Nat.le_refl 1) ⟨⟨[]⟩⟩ { paragraphs := ["robots\x1efactory"] }
  obtain ⟨split, hsplit, hsplitKeys⟩ : ∃ vector : WeightVector Float, _ ∧ _ :=
    exists_uncachedAnswer_eq_ok hloaded (Nat.le_refl 1) ⟨⟨[]⟩⟩ { paragraphs := ["robots", "factory"] }
  have htext : ({ paragraphs := ["robots", "factory"] } : Document).text =
      ({ paragraphs := ["robots\x1efactory"] } : Document).text := by decide +kernel
  have hpair := snd_answers_pair Nat.one_ne_zero .standard htext hjoined
  have hsame := htransparent 1 .standard _ (mem_of_ask_mem_pair (.inl rfl) (.inr rfl)) _
    (hpair ▸ List.mem_cons_of_mem _ List.mem_cons_self)
  -- A transparent memo would give both documents one vector, but their terms differ.
  have hvector : joined = split := Except.ok.inj (hsame.trans hsplit)
  have hkeys : (Tokenizer.bag ⟨⟨[]⟩⟩ { paragraphs := ["robots\x1efactory"] }).terms.keys =
      (Tokenizer.bag ⟨⟨[]⟩⟩ { paragraphs := ["robots", "factory"] }).terms.keys := by
    rw [← hjoinedKeys, ← hsplitKeys, hvector]
  exact absurd hkeys (by decide +kernel)

end NewsScoring.Vectorizer
