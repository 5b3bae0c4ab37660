import NewsScoring.Proofs.Duplicates.Search
import NewsScoring.Proofs.TfIdf.FloatNorm

/-!
# What a supplier of candidates is asked

A search by keywords is followed through what it asks: a supplier notes each question before it
answers (`noting`).  An article without a term of positive weight is searched for in vain, and
nothing is asked; for any other a supplier is asked once, for the heaviest terms, and its answer
decides the outcome (`AsksOnce`).  That the second search, among the candidates, never fails rests
on the norms of floating-point weights (`asksOnce_plain`).
-/

namespace NewsScoring.Duplicates

/-- What a supplier is asked: articles for keywords, up to a number. -/
structure Question where
  keywords : List String
  limit : ℕ

/-- Computations that may fail, with the questions that have been asked so far. -/
abbrev Asking := ExceptT ScoringError (StateM (List Question))

/-- A supplier that notes its questions.  What it answers may depend on those before. -/
def noting {ε : Type} (answer : List Question → Question → Except ε (List Document)) :
    Supplier Asking ε :=
  fun keywords limit => do
    let asked ← get
    set (asked ++ [⟨keywords, limit⟩])
    return answer asked ⟨keywords, limit⟩

variable {β γ : Type}

/-- An outcome for which nothing is asked. -/
def settle (outcome : Except ScoringError β) : Asking β :=
  ExceptT.mk (pure outcome)

@[simp]
theorem settle_pure (value : β) : settle (pure value) = pure value :=
  rfl

@[simp]
theorem settle_throw (cause : ScoringError) : (settle (throw cause) : Asking β) = throw cause :=
  rfl

@[simp]
theorem settle_map (change : β → γ) (step : Except ScoringError β) :
    settle (change <$> step) = change <$> settle step := by
  cases step <;> rfl

@[simp]
theorem settle_bind (first : Except ScoringError β) (next : β → Except ScoringError γ) :
    settle (first >>= next) = settle first >>= fun value => settle (next value) := by
  cases first <;> rfl

@[simp]
theorem settle_ite (p : Prop) [Decidable p] (a b : Except ScoringError β) :
    settle (if p then a else b) = if p then settle a else settle b :=
  apply_ite settle p a b

@[simp]
theorem settle_mapM (f : β → Except ScoringError γ) (l : List β) :
    settle (l.mapM f) = l.mapM fun x => settle (f x) := by
  induction l with
  | nil => rfl
  | cons x rest ih => simp [List.mapM_cons, ih]

@[simp]
theorem ofExcept_eq_settle (outcome : Except ScoringError β) :
    (MonadExcept.ofExcept outcome : Asking β) = settle outcome := by
  cases outcome <;> rfl

/-! ### Searches that ask nothing -/

variable {α : Type} [Scalar α] (w : Weighing (Except ScoringError) α)
  (settings : DuplicateSettings α) (subject : Document)

omit [Scalar α] in
@[simp]
theorem document_lift (document : Document) :
    (w.lift settle).document document = settle (w.document document) :=
  rfl

@[simp]
theorem similarityOf?_lift (weights : WeightVector α) (candidate : Document) :
    similarityOf? (w.lift settle) settings subject weights candidate =
      settle (similarityOf? w settings subject weights candidate) := by
  simp [similarityOf?]

theorem findDuplicates_lift (candidates : List Document) :
    findDuplicates (w.lift settle) settings subject candidates =
      settle (findDuplicates w settings subject candidates) := by
  simp [findDuplicates]

/-! ### Searches by keywords -/

variable {ε : Type} (answer : List Question → Question → Except ε (List Document))
  (asked : List Question)

/-- The outcome of a search by keywords, and the questions that have been asked after it. -/
def search : Except ScoringError (Except ε (List (DuplicateRelation α))) × List Question :=
  (findWith (w.lift settle) settings (noting answer) subject).run.run asked

/-- The outcome of a search whose question has been answered. -/
def settleAnswer : Except ε (List Document) →
    Except ScoringError (Except ε (List (DuplicateRelation α)))
  | .error cause => .ok (.error cause)
  | .ok candidates =>
    .ok <$> findDuplicates w settings subject (candidates.take settings.candidateLimit)

variable {w settings subject} {weights : WeightVector α}

/-- Nothing is asked without keywords, and one question with them. -/
theorem search_eq (hweights : w.document subject = .ok weights) :
    search w settings subject answer asked =
      let question : Question :=
        ⟨weights.topTerms settings.keywordCount, settings.candidateLimit⟩
      if question.keywords.isEmpty then (.error .zeroVector, asked)
      else (settleAnswer w settings subject (answer asked question), asked ++ [question]) := by
  let question : Question := ⟨weights.topTerms settings.keywordCount, settings.candidateLimit⟩
  -- The search, with all that is derived on the way settled at once.
  have hsearch : findWith (w.lift settle) settings (noting answer) subject =
      if question.keywords.isEmpty then throw .zeroVector
      else noting answer question.keywords question.limit >>= fun reply =>
        settle (settleAnswer w settings subject reply) := by
    simp only [findWith, document_lift, hweights, findDuplicates_lift]
    show (if question.keywords.isEmpty then _ else _ : Asking _) = _
    refine congrArg (ite _ _) (congrArg (bind _) (funext fun reply => ?_))
    cases reply with
    | error cause => rfl
    | ok candidates => rw [settleAnswer, settle_map, ← bind_pure_comp]
  rw [search, hsearch]
  show _ = if question.keywords.isEmpty then _ else _
  split <;> rfl

/-! ### What is asked -/

/-- Whether an article is searched for by a single question, for its heaviest terms, unless none of
its terms has a positive weight. -/
structure AsksOnce (w : Weighing (Except ScoringError) α) (settings : DuplicateSettings α)
    (subject : Document) (answer : List Question → Question → Except ε (List Document))
    (asked : List Question) (weights : WeightVector α) (tokens : List String) : Prop where
  /-- Nothing is asked for an article that has no keywords. -/
  of_eq_nil : weights.positive = [] → search w settings subject answer asked =
    (.error .zeroVector, asked)
  exists_question : weights.positive ≠ [] → ∃ question : Question,
    weights.IsHeaviest tokens settings.keywordCount question.keywords ∧
    question.limit = settings.candidateLimit ∧
    (search w settings subject answer asked).2 = asked ++ [question] ∧
    (∀ cause, answer asked question = .error cause →
      (search w settings subject answer asked).1 = .ok (.error cause)) ∧
    ∀ candidates, answer asked question = .ok candidates → ∃ relations,
      findDuplicates w settings subject (candidates.take settings.candidateLimit) =
        .ok relations ∧
      (search w settings subject answer asked).1 = .ok (.ok relations)

/-- An article whose vector is not zero where it has a positive weight is searched for by a single
question. -/
theorem asksOnce_of_isZero_eq_false [ScoreOrder α] [WeightArithmetic α] {tokenizer : Tokenizer}
    {u : Universe} (hcount : 1 ≤ settings.keywordCount)
    (hweights : (Weighing.plain tokenizer u).document subject = .ok weights)
    (hzero : weights.positive ≠ [] → weights.isZero = false) :
    AsksOnce (.plain tokenizer u) settings subject answer asked weights
      (tokenizer.documentTokens subject) := by
  let tokens := tokenizer.documentTokens subject
  have horder : weights.weights.keys.Pairwise fun a b => tokens.idxOf a < tokens.idxOf b := by
    have hcounts := (TermBag.countsExactly_ofTokenLists [tokens]).pairwise_idxOf
    rw [List.flatten_singleton] at hcounts
    rw [TermBag.keys_of_weighted_eq_ok hweights]
    exact hcounts
  have hheaviest := WeightVector.isHeaviest_topTerms (TermBag.isBuilt_of_weighted_eq_ok hweights)
    horder settings.keywordCount
  have hkeywords :
      (weights.topTerms settings.keywordCount).isEmpty = true ↔ weights.positive = [] := by
    rw [List.isEmpty_iff, hheaviest.eq_nil_iff hcount]
  constructor
  · intro hnone
    rw [search_eq answer asked hweights, if_pos (hkeywords.2 hnone)]
  · intro hsome
    rw [search_eq answer asked hweights, if_neg (mt hkeywords.1 hsome)]
    refine ⟨_, hheaviest, rfl, rfl, ?_, ?_⟩
    · intro cause hanswer
      dsimp only
      rw [hanswer]
      rfl
    · intro candidates hanswer
      obtain ⟨relations, hrelations, -⟩ := exists_findDuplicates_eq_ok settings hweights
        (hzero hsome) (Weighing.derives_plain_of_eq_ok hweights
          (candidates.take settings.candidateLimit))
      refine ⟨relations, hrelations, ?_⟩
      dsimp only
      rw [hanswer, settleAnswer, hrelations]
      rfl

/-- An article is searched for by a single question, for its heaviest terms, unless none of its
terms has a positive weight. -/
theorem asksOnce_plain {log : Float → Float} (hlog : HasNoTinyLogarithm log) :
    letI := Scalar.float log
    ∀ {tokenizer : Tokenizer} {u : Universe} {settings : DuplicateSettings Float}
      {subject : Document} {weights : WeightVector Float},
      1 ≤ settings.keywordCount →
      (Weighing.plain tokenizer u).document subject = .ok weights →
      AsksOnce (.plain tokenizer u) settings subject answer asked weights
        (tokenizer.documentTokens subject) := by
  let : Scalar Float := .float log
  intro tokenizer u settings subject weights hcount hweights
  refine asksOnce_of_isZero_eq_false answer asked hcount hweights fun hsome => ?_
  obtain ⟨entry, hentry⟩ := List.exists_mem_of_ne_nil _ hsome
  exact TermBag.isZero_eq_false_of_mem_positive hlog hweights entry hentry

/-- The article on wheat is searched for by a single question. -/
theorem asksOnce_plain_wheat :
    letI := Scalar.float fun _ => 13.815510557964274
    HasNoTinyLogarithm (fun _ => 13.815510557964274) ∧
    1 ≤ (DuplicateSettings.standard : DuplicateSettings Float).keywordCount ∧
    ∃ weights : WeightVector Float,
      (Weighing.plain ⟨⟨[]⟩⟩ ⟨0, 1, .empty⟩).document wheat = .ok weights ∧
      AsksOnce (.plain ⟨⟨[]⟩⟩ ⟨0, 1, .empty⟩) .standard wheat
        (fun _ _ => (.ok [{ wheat with id := "b" }] : Except Unit (List Document))) [] weights
        ["wheat"] := by
  let : Scalar Float := .float fun _ => 13.815510557964274
  have hlarge : (1e-100 : Float) ≤ 13.815510557964274 := by decide +kernel
  have hlog : HasNoTinyLogarithm (fun _ => 13.815510557964274) := fun _ _ => hlarge
  obtain ⟨weights, hweights⟩ : ∃ weights : WeightVector Float,
      (Weighing.plain ⟨⟨[]⟩⟩ ⟨0, 1, .empty⟩).document wheat = .ok weights :=
    Weighing.exists_document_plain_eq_ok_iff.2 (Nat.le_refl 1)
  have htokens : Tokenizer.documentTokens ⟨⟨[]⟩⟩ wheat = ["wheat"] := by decide +kernel
  refine ⟨hlog, by decide, weights, hweights, ?_⟩
  rw [← htokens]
  exact asksOnce_plain _ _ hlog (by decide) hweights

end NewsScoring.Duplicates
