import Mathlib.Data.List.Induction
import NewsScoring.TfIdf.Memo

/-!
# What counts remember of their weights

Counts are asked for their weights in one universe after the other (`answers`).  What a call can do
is said once (`weighted_cases`): it finds the weights, or makes a vector, or fails and changes
nothing.  A run keeps the counts in one of two states (`Remembers`): either no call has succeeded,
and nothing is remembered, or the vector of the first call that succeeded is, under the number zero.
So the weights are always those in the universe that was asked about, and two answers are the same
object exactly if both are about the universe of the first success (`answers_ofBag`).
-/

namespace NewsScoring

variable {α : Type} [Scalar α]

namespace TermBag

/-- The first of several universes in which counts have weights. -/
def firstWeighed? (α : Type) [Scalar α] (bag : TermBag) (universes : List Universe) :
    Option Universe :=
  universes.find? fun u => (bag.weighted u : Except ScoringError (WeightVector α)).isOk

variable {bag : TermBag} {universes : List Universe} {u first : Universe}

theorem firstWeighed?_concat (bag : TermBag) (universes : List Universe) (u : Universe) :
    bag.firstWeighed? α (universes ++ [u]) =
      (bag.firstWeighed? α universes).or
        (if (bag.weighted u : Except ScoringError (WeightVector α)).isOk then some u else none) := by
  rw [firstWeighed?, List.find?_append, List.find?_singleton]
  rfl

theorem firstWeighed?_append_of_eq_some (h : bag.firstWeighed? α universes = some first)
    (more : List Universe) : bag.firstWeighed? α (universes ++ more) = some first := by
  rw [firstWeighed?, List.find?_append, ← firstWeighed?, h, Option.some_or]

theorem firstWeighed?_concat_of_ok {vector : WeightVector α}
    (h : bag.firstWeighed? α universes = none) (hvector : bag.weighted u = .ok vector) :
    bag.firstWeighed? α (universes ++ [u]) = some u := by
  rw [firstWeighed?_concat, h, hvector]
  rfl

theorem firstWeighed?_concat_of_error {cause : ScoringError}
    (h : (bag.weighted u : Except ScoringError (WeightVector α)) = .error cause) :
    bag.firstWeighed? α (universes ++ [u]) = bag.firstWeighed? α universes := by
  rw [firstWeighed?_concat, h]
  exact Option.or_none

end TermBag

namespace MemoizedBag

/-! ### Runs -/

/-- What is answered when counts are asked about universes one after the other. -/
def answers (bag : MemoizedBag α) : List Universe → List (Except ScoringError (Numbered α))
  | [] => []
  | u :: rest => (bag.weighted u).1 :: answers (bag.weighted u).2 rest

/-- The counts after they have been asked about universes one after the other. -/
def after (bag : MemoizedBag α) (universes : List Universe) : MemoizedBag α :=
  universes.foldl (fun bag u => (bag.weighted u).2) bag

theorem after_append (bag : MemoizedBag α) (universes more : List Universe) :
    bag.after (universes ++ more) = (bag.after universes).after more :=
  List.foldl_append

theorem after_concat (bag : MemoizedBag α) (universes : List Universe) (u : Universe) :
    bag.after (universes ++ [u]) = ((bag.after universes).weighted u).2 :=
  bag.after_append universes [u]

/-- The answer at a place of a run is that of the counts after the calls before it. -/
theorem getElem?_answers (bag : MemoizedBag α) (universes : List Universe) (i : ℕ) :
    (bag.answers universes)[i]? =
      universes[i]?.map fun u => ((bag.after (universes.take i)).weighted u).1 := by
  induction universes generalizing bag i with
  | nil => rfl
  | cons u rest ih =>
    cases i with
    | zero => rfl
    | succ i => exact ih (bag.weighted u).2 i

/-! ### One call -/

/-- A call finds the weights that are remembered for its universe; or, if there are none, it makes a
vector, or fails and leaves the counts as they are. -/
theorem weighted_cases (bag : MemoizedBag α) (u : Universe) :
    (∃ vector, bag.memo = some (u.id, vector) ∧ bag.weighted u = (.ok vector, bag)) ∨
    (∀ vector, bag.memo ≠ some (u.id, vector)) ∧
      ((∃ vector : WeightVector α, bag.bag.weighted u = .ok vector ∧
        bag.weighted u = (.ok ⟨bag.made, vector⟩, bag.remember u ⟨bag.made, vector⟩)) ∨
      (∃ cause, (bag.bag.weighted u : Except ScoringError (WeightVector α)) = .error cause ∧
        bag.weighted u = (.error cause, bag))) := by
  cases hfilter : bag.memo.filter (·.1 == u.id) with
  | some entry =>
    obtain ⟨hmemo, hid⟩ := Option.filter_eq_some_iff.1 hfilter
    have hentry : entry = (u.id, entry.2) := Prod.ext (by simpa using hid) rfl
    exact .inl ⟨entry.2, hentry ▸ hmemo, by simp only [weighted, hfilter]⟩
  | none =>
    refine .inr ⟨fun vector hmemo => ?_, ?_⟩
    · simp [hmemo] at hfilter
    · cases hweighted : (bag.bag.weighted u : Except ScoringError (WeightVector α)) with
      | ok vector => exact .inl ⟨vector, rfl, by simp only [weighted, hfilter, hweighted]⟩
      | error cause => exact .inr ⟨cause, rfl, by simp only [weighted, hfilter, hweighted]⟩

theorem weighted_of_error {bag : MemoizedBag α} {u : Universe} {cause : ScoringError}
    (h : (bag.weighted u).1 = .error cause) : (bag.weighted u).2 = bag := by
  rcases bag.weighted_cases u with
    ⟨vector, -, hcall⟩ | ⟨-, ⟨vector, -, hcall⟩ | ⟨cause', -, hcall⟩⟩
  · rw [hcall]
  · rw [hcall] at h
    cases h
  · rw [hcall]

/-- The number of vectors made so far does not go down. -/
theorem made_le_after (bag : MemoizedBag α) (universes : List Universe) :
    bag.made ≤ (bag.after universes).made := by
  induction universes using List.reverseRecOn with
  | nil => exact Nat.le_refl _
  | append_singleton universes u ih =>
    rw [after_concat]
    refine Nat.le_trans ih ?_
    rcases (bag.after universes).weighted_cases u with
      ⟨vector, -, hcall⟩ | ⟨-, ⟨vector, -, hcall⟩ | ⟨cause, -, hcall⟩⟩
    · exact Nat.le_of_eq (congrArg (·.2.made) hcall.symm)
    · rw [hcall]
      exact Nat.le_succ _
    · exact Nat.le_of_eq (congrArg (·.2.made) hcall.symm)

/-! ### What is remembered -/

/-- What is remembered after a run: nothing while no call has succeeded, and then the first vector
that was made, for its universe. -/
def Remembers (bag : TermBag) (universes : List Universe) (state : MemoizedBag α) : Prop :=
  (bag.firstWeighed? α universes = none ∧ state = ofBag bag) ∨
  ∃ first vector made, bag.firstWeighed? α universes = some first ∧
    bag.weighted first = .ok vector ∧ state = ⟨bag, some (first.id, ⟨0, vector⟩), made + 1⟩

theorem remembers_nil (bag : TermBag) : Remembers bag [] (ofBag bag : MemoizedBag α) :=
  .inl ⟨rfl, rfl⟩

section

variable {bag : TermBag} {universes : List Universe} {state : MemoizedBag α} {u : Universe}

/-- What a call can do to counts after a run, if different universes have different identifiers: it
is the first that succeeds, or one about the universe of the first, or another one that succeeds, or
it fails. -/
theorem Remembers.weighted_cases (h : Remembers bag universes state)
    (hids : ∀ v ∈ universes, v.id = u.id → v = u) :
    (∃ vector, bag.firstWeighed? α universes = none ∧ bag.weighted u = .ok vector ∧
      state.weighted u = (.ok ⟨0, vector⟩, ⟨bag, some (u.id, ⟨0, vector⟩), 1⟩)) ∨
    (∃ vector, bag.firstWeighed? α universes = some u ∧ 0 < state.made ∧
      bag.weighted u = .ok vector ∧ state.weighted u = (.ok ⟨0, vector⟩, state)) ∨
    (∃ first vector, bag.firstWeighed? α universes = some first ∧ first ≠ u ∧ 0 < state.made ∧
      bag.weighted u = .ok vector ∧
      state.weighted u = (.ok ⟨state.made, vector⟩, { state with made := state.made + 1 })) ∨
    ∃ cause, (bag.weighted u : Except ScoringError (WeightVector α)) = .error cause ∧
      state.weighted u = (.error cause, state) := by
  rcases h with ⟨hnone, rfl⟩ | ⟨first, vector, made, hfirst, hvector, rfl⟩
  · rcases MemoizedBag.weighted_cases (ofBag bag : MemoizedBag α) u with
      ⟨found, hmemo, -⟩ | ⟨-, ⟨found, hfound, hcall⟩ | ⟨cause, hcause, hcall⟩⟩
    · cases hmemo
    · exact .inl ⟨found, hnone, hfound, hcall⟩
    · exact .inr (.inr (.inr ⟨cause, hcause, hcall⟩))
  · rcases MemoizedBag.weighted_cases
        (⟨bag, some (first.id, ⟨0, vector⟩), made + 1⟩ : MemoizedBag α) u with
      ⟨found, hmemo, hcall⟩ | ⟨hother, ⟨found, hfound, hcall⟩ | ⟨cause, hcause, hcall⟩⟩
    · -- What is remembered has the identifier of the universe, and so is of it.
      rw [Option.some.injEq, Prod.mk.injEq] at hmemo
      obtain ⟨hid, rfl⟩ := hmemo
      obtain rfl : first = u := hids first (List.mem_of_find?_eq_some hfirst) hid
      exact .inr (.inl ⟨vector, hfirst, Nat.succ_pos made, hvector, hcall⟩)
    · have hne : first ≠ u := by
        rintro rfl
        exact hother _ rfl
      exact .inr (.inr (.inl ⟨first, found, hfirst, hne, Nat.succ_pos made, hfound, hcall⟩))
    · exact .inr (.inr (.inr ⟨cause, hcause, hcall⟩))

/-- A call keeps it right what is remembered. -/
theorem Remembers.weighted (h : Remembers bag universes state)
    (hids : ∀ v ∈ universes, v.id = u.id → v = u) :
    Remembers bag (universes ++ [u]) (state.weighted u).2 := by
  rcases h.weighted_cases hids with
    ⟨vector, hnone, hvector, hcall⟩ | ⟨vector, hsome, -, -, hcall⟩ |
    ⟨first, vector, hsome, -, -, -, hcall⟩ | ⟨cause, hcause, hcall⟩ <;> rw [hcall]
  · exact .inr ⟨u, vector, 0, TermBag.firstWeighed?_concat_of_ok hnone hvector, hvector, rfl⟩
  · rw [Remembers, TermBag.firstWeighed?_append_of_eq_some hsome, ← hsome]
    exact h
  · rcases h with ⟨hnone, -⟩ | ⟨_, stored, made, hstored, hweighted, rfl⟩
    · rw [hnone] at hsome
      cases hsome
    · exact .inr ⟨_, stored, made + 1, TermBag.firstWeighed?_append_of_eq_some hstored _,
        hweighted, rfl⟩
  · rw [Remembers, TermBag.firstWeighed?_concat_of_error hcause]
    exact h

/-- The answer to a call has the weights of its universe. -/
theorem Remembers.map_vector (h : Remembers bag universes state)
    (hids : ∀ v ∈ universes, v.id = u.id → v = u) :
    (state.weighted u).1.map Numbered.vector = bag.weighted u := by
  rcases h.weighted_cases hids with
    ⟨vector, -, hvector, hcall⟩ | ⟨vector, -, -, hvector, hcall⟩ |
    ⟨first, vector, -, -, -, hvector, hcall⟩ | ⟨cause, hcause, hcall⟩
  · rw [hcall, hvector]
    rfl
  · rw [hcall, hvector]
    rfl
  · rw [hcall, hvector]
    rfl
  · rw [hcall, hcause]
    rfl

/-- The answer to a call has the number zero exactly if its universe is the first with weights, and
otherwise the number of vectors made before. -/
theorem Remembers.serial_eq (h : Remembers bag universes state)
    (hids : ∀ v ∈ universes, v.id = u.id → v = u) {answer : Numbered α}
    (hanswer : (state.weighted u).1 = .ok answer) :
    (∃ first, bag.firstWeighed? α (universes ++ [u]) = some first ∧
      (answer.serial = 0 ↔ first = u)) ∧
    (answer.serial = 0 ∨ answer.serial = state.made) ∧
    answer.serial < (state.weighted u).2.made := by
  rcases h.weighted_cases hids with
    ⟨vector, hnone, hvector, hcall⟩ | ⟨vector, hsome, hmade, -, hcall⟩ |
    ⟨first, vector, hsome, hne, hmade, hvector, hcall⟩ | ⟨cause, hcause, hcall⟩ <;>
    rw [hcall] at hanswer ⊢
  · obtain rfl := Except.ok.inj hanswer
    exact ⟨⟨u, TermBag.firstWeighed?_concat_of_ok hnone hvector, by simp⟩, .inl rfl, Nat.one_pos⟩
  · obtain rfl := Except.ok.inj hanswer
    exact ⟨⟨u, TermBag.firstWeighed?_append_of_eq_some hsome _, by simp⟩, .inl rfl, hmade⟩
  · obtain rfl := Except.ok.inj hanswer
    refine ⟨⟨first, TermBag.firstWeighed?_append_of_eq_some hsome _, ?_⟩, .inr rfl,
      Nat.lt_succ_self _⟩
    exact ⟨fun hzero => absurd hzero (Nat.ne_of_gt hmade), fun heq => absurd heq hne⟩
  · cases hanswer

/-- What is remembered after a run, by induction from its end. -/
theorem remembers_after (hids : ∀ u ∈ universes, ∀ v ∈ universes, u.id = v.id → u = v) :
    Remembers bag universes ((ofBag bag : MemoizedBag α).after universes) := by
  induction universes using List.reverseRecOn with
  | nil => exact remembers_nil bag
  | append_singleton universes u ih =>
    rw [after_concat]
    refine (ih fun v hv w hw => ?_).weighted fun v hv => ?_
    · exact hids v (List.mem_append_left _ hv) w (List.mem_append_left _ hw)
    · exact hids v (List.mem_append_left _ hv) u (by simp)

end

/-! ### The answers of a run -/

section

variable {bag : TermBag} {universes : List Universe}
  (hids : ∀ u ∈ universes, ∀ v ∈ universes, u.id = v.id → u = v)

include hids

/-- The call at a place of a run is made to counts that remember the calls before it. -/
theorem exists_call_of_getElem?_answers {i : ℕ} {answer : Except ScoringError (Numbered α)}
    (h : ((ofBag bag : MemoizedBag α).answers universes)[i]? = some answer) :
    ∃ u state, universes[i]? = some u ∧ universes.take (i + 1) = universes.take i ++ [u] ∧
      state = (ofBag bag : MemoizedBag α).after (universes.take i) ∧
      Remembers bag (universes.take i) state ∧ (∀ v ∈ universes.take i, v.id = u.id → v = u) ∧
      (state.weighted u).1 = answer := by
  rw [getElem?_answers] at h
  obtain ⟨u, hu, hanswer⟩ := Option.map_eq_some_iff.1 h
  have hmem : u ∈ universes := List.mem_of_getElem? hu
  refine ⟨u, _, hu, ?_, rfl, remembers_after fun v hv w hw => ?_, fun v hv => ?_, hanswer⟩
  · rw [List.take_add_one, hu]
    rfl
  · exact hids v (List.mem_of_mem_take hv) w (List.mem_of_mem_take hw)
  · exact hids v (List.mem_of_mem_take hv) u hmem

/-- Each answer of a run has the weights of its universe. -/
theorem map_vector_answers :
    ((ofBag bag : MemoizedBag α).answers universes).map (Except.map Numbered.vector) =
      universes.map bag.weighted := by
  refine List.ext_getElem? fun i => ?_
  rw [List.getElem?_map, List.getElem?_map]
  cases h : ((ofBag bag : MemoizedBag α).answers universes)[i]? with
  | none =>
    rw [getElem?_answers, Option.map_eq_none_iff] at h
    rw [h]
    rfl
  | some answer =>
    obtain ⟨u, state, hu, -, -, hremembers, hbefore, rfl⟩ := exists_call_of_getElem?_answers hids h
    rw [hu]
    exact congrArg some (hremembers.map_vector hbefore)

/-- A run has a first universe with weights if one of its calls succeeds, and the answer of that
call has the number zero exactly if its universe is the first. -/
theorem exists_first_of_getElem?_answers {i : ℕ} {answer : Numbered α}
    (h : ((ofBag bag : MemoizedBag α).answers universes)[i]? = some (.ok answer)) :
    ∃ first, bag.firstWeighed? α universes = some first ∧
      (answer.serial = 0 ↔ universes[i]? = some first) := by
  obtain ⟨u, state, hu, htake, -, hremembers, hbefore, hanswer⟩ :=
    exists_call_of_getElem?_answers hids h
  obtain ⟨⟨first, hfirst, hzero⟩, -, -⟩ := hremembers.serial_eq hbefore hanswer
  refine ⟨first, ?_, ?_⟩
  · rw [← htake] at hfirst
    rw [← List.take_append_drop (i + 1) universes]
    exact TermBag.firstWeighed?_append_of_eq_some hfirst _
  · rw [hzero, hu, Option.some.injEq, eq_comm]

/-- Two answers of a run have one number only if it is zero: every other number is that of the
vectors made before, the earlier answer among them. -/
theorem serial_eq_zero_of_eq {i j : ℕ} (hij : i < j) {a b : Numbered α}
    (ha : ((ofBag bag : MemoizedBag α).answers universes)[i]? = some (.ok a))
    (hb : ((ofBag bag : MemoizedBag α).answers universes)[j]? = some (.ok b))
    (heq : a.serial = b.serial) : b.serial = 0 := by
  obtain ⟨u, state, -, htake, rfl, hremembers, hbefore, hanswer⟩ :=
    exists_call_of_getElem?_answers hids ha
  obtain ⟨v, later, -, -, rfl, hremembersLater, hbeforeLater, hanswerLater⟩ :=
    exists_call_of_getElem?_answers hids hb
  obtain ⟨-, -, hlt⟩ := hremembers.serial_eq hbefore hanswer
  obtain ⟨-, hnumber, -⟩ := hremembersLater.serial_eq hbeforeLater hanswerLater
  refine hnumber.resolve_right fun hmade => ?_
  -- The later call comes after the earlier one, and so after its vector was made.
  obtain ⟨between, hbetween⟩ : universes.take (i + 1) <+: universes.take j :=
    List.take_prefix_take_left hij
  have hle : ((ofBag bag : MemoizedBag α).after (universes.take (i + 1))).made ≤
      ((ofBag bag : MemoizedBag α).after (universes.take j)).made := by
    rw [← hbetween, after_append]
    exact made_le_after _ between
  rw [htake, after_concat] at hle
  omega

end

/-- Counts that are asked for their weights in universes with identifiers of their own always have
the weights in the universe asked about, or the error that there is for it.  Two calls that succeed
are answered with one object exactly if both are about the universe of the first call that succeeds.
A call that fails changes nothing, and what is remembered in the end is for the universe of the
first success. -/
theorem answers_ofBag (bag : TermBag) {universes : List Universe}
    (hids : ∀ u ∈ universes, ∀ v ∈ universes, u.id = v.id → u = v) :
    ((ofBag bag : MemoizedBag α).answers universes).map (Except.map Numbered.vector) =
      universes.map bag.weighted ∧
    (∀ (i j : ℕ) (a b : Numbered α), i ≠ j →
      ((ofBag bag).answers universes)[i]? = some (.ok a) →
      ((ofBag bag).answers universes)[j]? = some (.ok b) →
      (a.serial = b.serial ↔ ∃ first, bag.firstWeighed? α universes = some first ∧
        universes[i]? = some first ∧ universes[j]? = some first)) ∧
    (∀ u cause, (((ofBag bag : MemoizedBag α).after universes).weighted u).1 = .error cause →
      (((ofBag bag : MemoizedBag α).after universes).weighted u).2 =
        (ofBag bag : MemoizedBag α).after universes) ∧
    ((ofBag bag : MemoizedBag α).after universes).memo.map Prod.fst =
      (bag.firstWeighed? α universes).map Universe.id := by
  refine ⟨map_vector_answers hids, fun i j a b hij ha hb => ?_,
    fun u cause h => weighted_of_error h, ?_⟩
  · obtain ⟨first, hfirst, hazero⟩ := exists_first_of_getElem?_answers hids ha
    obtain ⟨first', hfirst', hbzero⟩ := exists_first_of_getElem?_answers hids hb
    obtain rfl : first = first' := Option.some.inj (hfirst.symm.trans hfirst')
    constructor
    · intro heq
      have hzero : b.serial = 0 := by
        rcases Nat.lt_or_gt_of_ne hij with hlt | hgt
        · exact serial_eq_zero_of_eq hids hlt ha hb heq
        · exact heq ▸ serial_eq_zero_of_eq hids hgt hb ha heq.symm
      exact ⟨first, hfirst, hazero.1 (heq.trans hzero), hbzero.1 hzero⟩
    · rintro ⟨other, hother, hi, hj⟩
      obtain rfl : first = other := Option.some.inj (hfirst.symm.trans hother)
      rw [hazero.2 hi, hbzero.2 hj]
  · have hremembers : Remembers bag universes ((ofBag bag : MemoizedBag α).after universes) :=
      remembers_after hids
    rcases hremembers with ⟨hnone, hstate⟩ | ⟨first, vector, made, hfirst, -, hstate⟩
    · rw [hstate, hnone]
      rfl
    · rw [hstate, hfirst]
      rfl

/-- The counts of a text on wheat. -/
def wheat : TermBag :=
  ⟨1, .ofList [("wheat", ⟨1, 1⟩)]⟩

/-- Universes of no document, of one and of two. -/
def fields : Fin 3 → Universe
  | 0 => ⟨1, ⟨0, .empty⟩⟩
  | 1 => ⟨2, ⟨1, .ofList [("wheat", ⟨1, 1⟩)]⟩⟩
  | 2 => ⟨3, ⟨2, .ofList [("wheat", ⟨1, 1⟩), ("corn", ⟨1, 1⟩)]⟩⟩

/-- `wheat` has no weights in the first of the three `fields`.  Asked about the second one twice,
and about the third one in between, it has one object for the second one and another for the third.
-/
theorem answers_ofBag_wheat :
    (∀ u ∈ [fields 0, fields 1, fields 2, fields 1], ∀ v ∈ [fields 0, fields 1, fields 2, fields 1],
      u.id = v.id → u = v) ∧
    ∃ a b c : Numbered Float,
      ((ofBag wheat).answers [fields 0, fields 1, fields 2, fields 1]) =
        [.error (.universeTooSmall 1 0), .ok a, .ok b, .ok c] ∧
      a.serial = c.serial ∧ a.serial ≠ b.serial := by
  have hids : ∀ u ∈ [fields 0, fields 1, fields 2, fields 1],
      ∀ v ∈ [fields 0, fields 1, fields 2, fields 1], u.id = v.id → u = v := by
    simp [fields]
  obtain ⟨-, hserial, -⟩ := answers_ofBag (α := Float) wheat hids
  refine ⟨hids, _, _, _, rfl, ?_, ?_⟩
  · exact (hserial 1 3 _ _ (by decide) rfl rfl).2 ⟨fields 1, rfl, rfl, rfl⟩
  · intro heq
    obtain ⟨first, -, hsecond, hthird⟩ := (hserial 1 2 _ _ (by decide) rfl rfl).1 heq
    have hsame : fields 1 = fields 2 := Option.some.inj (hsecond.trans hthird.symm)
    exact absurd (congrArg Universe.id hsame) (by decide)

end MemoizedBag

end NewsScoring
