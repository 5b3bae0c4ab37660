import NewsScoring.Proofs.RankedList.Entries

/-!
# What an offer is answered

The answer to an offer tells whether the item is listed afterwards, with one exception: an offer of
NaN is always declined, also one of an item that is listed and stays so (`answersMembership_iff`).
-/

namespace NewsScoring.RankedList

variable {κ ν : Type} [LE ν] [DecidableLE ν] [DecidableEq κ] {list : RankedList κ ν}
  {item : κ} {score : ν}

/-- Whether the answer to an offer is that the item is listed, exactly if it has a score
afterwards. -/
def AnswersMembership (list : RankedList κ ν) (item : κ) (score : ν) : Prop :=
  (list.add item score).1 = true ↔ ∃ listed, (list.add item score).2.score? item = some listed

@[simp]
theorem score?_place (list : RankedList κ ν) (item : κ) (rank : Rank ν) :
    (list.place item rank).score? item = some rank.score := by
  simp [score?, place]

omit [LE ν] [DecidableLE ν] in
theorem score?_of_find?_eq_none (h : list.index.find? item = none) : list.score? item = none := by
  rw [score?, h]
  rfl

/-- The listed items are those that have a score. -/
theorem IsConsistent.mem_keys_iff_score? (h : list.IsConsistent) :
    item ∈ list.keys ↔ ∃ listed, list.score? item = some listed := by
  rw [h.mem_keys_iff, score?]
  simp

/-- An offer that is not NaN is answered rightly. -/
theorem answersMembership_of_le (h : score ≤ score) : list.AnswersMembership item score := by
  unfold AnswersMembership
  rcases add_cases list item score with
    ⟨hnot, -⟩ | ⟨-, rank, -, hadd⟩ | ⟨-, hfind, ⟨-, hadd⟩ | ⟨-, hadd⟩ | ⟨-, -, hadd⟩⟩
  · exact absurd h hnot
  · rw [hadd, score?_place]
    simp
  · have hnone : list.arrived.score? item = none := score?_of_find?_eq_none hfind
    rw [hadd, hnone]
    simp
  · rw [hadd, score?_place]
    simp
  · rw [hadd, score?_place]
    simp

/-- After any run of offers, the answer to an offer tells whether the item is listed afterwards
exactly if the score is not NaN or the item was not listed before.  An item is listed exactly if it
has a score, and an offer of NaN changes nothing and is declined. -/
theorem answersMembership_iff [ScoreOrder ν] (n : ℕ) (offers : List (κ × ν)) (item : κ)
    (score : ν) :
    let list := (empty n : RankedList κ ν).addAll offers
    let later := (list.add item score).2
    (list.AnswersMembership item score ↔ score ≤ score ∨ item ∉ list.keys) ∧
    (item ∈ later.keys ↔ ∃ listed, later.score? item = some listed) ∧
    (¬score ≤ score → list.add item score = (false, list)) := by
  intro list later
  have hlist : list.IsConsistent := (isConsistent_empty n).addAll offers
  have hlater : later.IsConsistent := hlist.add item score
  have hdeclined : ¬score ≤ score → list.add item score = (false, list) := by
    intro hnot
    simp [add, hnot]
  refine ⟨?_, hlater.mem_keys_iff_score?, hdeclined⟩
  by_cases hscore : score ≤ score
  · exact iff_of_true (answersMembership_of_le hscore) (.inl hscore)
  · -- The answer is no, which is right if the item is not listed.
    rw [AnswersMembership, hdeclined hscore, ← hlist.mem_keys_iff_score?]
    simp [hscore]

/-- Wheat is listed after `sowing` and rice is not; an offer of wheat is answered rightly if it is
not NaN, and an offer of rice in any case. -/
theorem answersMembership_iff_sowing :
    let list := (empty 2 : RankedList String Float).addAll sowing
    (list.AnswersMembership "wheat" 0.125 ∧ (list.add "wheat" 0.125).1 = true) ∧
    list.AnswersMembership "rice" 0.5 ∧ (list.add "rice" 0.5).1 = false ∧
    list.AnswersMembership "rice" (0.0 / 0.0) := by
  intro list
  refine ⟨⟨?_, by decide +kernel⟩, ?_, by decide +kernel, ?_⟩
  · exact (answersMembership_iff 2 sowing "wheat" 0.125).1.2 (.inl (by decide +kernel))
  · exact (answersMembership_iff 2 sowing "rice" 0.5).1.2 (.inl (by decide +kernel))
  · exact (answersMembership_iff 2 sowing "rice" (0.0 / 0.0)).1.2 (.inr (by decide +kernel))

/-- An item that is listed is offered with NaN: it stays listed, and the answer is that it is not. -/
theorem not_answersMembership_nan :
    ¬((empty 3 : RankedList String Float).addAll [("wheat", 0.5)]).AnswersMembership "wheat"
      (0.0 / 0.0) := by
  intro hanswers
  have hlisted : ∃ listed, (((empty 3 : RankedList String Float).addAll [("wheat", 0.5)]).add
      "wheat" (0.0 / 0.0)).2.score? "wheat" = some listed :=
    ⟨0.5, by decide +kernel⟩
  have hdeclined : (((empty 3 : RankedList String Float).addAll [("wheat", 0.5)]).add
      "wheat" (0.0 / 0.0)).1 = false := by
    decide +kernel
  rw [hanswers.2 hlisted] at hdeclined
  cases hdeclined

end NewsScoring.RankedList
