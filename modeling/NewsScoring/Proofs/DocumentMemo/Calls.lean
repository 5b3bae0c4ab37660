import Mathlib.Data.List.Induction
import NewsScoring.Proofs.DocumentMemo.Soundness

/-!
# The calls of a memo

A memo is called for one document after the other, and may lose entries in between (`run`).  A call
either hits or computes.  If it hits (`Hits`), it is answered with a value that is held, and its
computation is not run; if it computes (`Computes`), its computation is run once, and the call is
answered with the outcome.  That a computation is run once or not at all can be seen where it has
effects: `fetchM` is `fetch` for a computation in a monad.  What a run holds was computed in it for
a document of the same text, whatever fingerprints texts have (`isSound_run`), and so each hit is
the outcome of an earlier call (`fetch_hits_or_computes`).
-/

namespace NewsScoring.DocumentMemo

variable {β ε : Type}

/-! ### Computations with effects -/

/-- The memo after a call for a document that had to be computed. -/
def settle (memo : DocumentMemo β) (document : Document) (outcome : Except ε β) : DocumentMemo β :=
  let missed := { memo with misses := memo.misses + 1 }
  match outcome with
  | .ok value => missed.keep document.text value
  | .error _ => missed

/-- The call of `fetch` with a computation in a monad, where it has the effects of each time it is
run. -/
def fetchM {m : Type → Type} [Monad m] (memo : DocumentMemo β) (document : Document)
    (compute : m (Except ε β)) : m (Except ε β × DocumentMemo β) :=
  match memo.find? document.text with
  | some value => pure (.ok value, { memo with hits := memo.hits + 1 })
  | none => do
    let outcome ← compute
    return (outcome, memo.settle document outcome)

/-- Without effects, `fetchM` is `fetch`. -/
theorem fetchM_pure {m : Type → Type} [Monad m] [LawfulMonad m] (memo : DocumentMemo β)
    (document : Document) (compute : Unit → Except ε β) :
    memo.fetchM document (pure (compute ()) : m (Except ε β)) =
      pure (memo.fetch document compute) := by
  rw [fetchM, fetch]
  cases memo.find? document.text with
  | some value => rfl
  | none => cases compute () <;> simp [settle]

/-! ### Hits and computations -/

/-- Whether a call for a document is answered with a value without its computation being run; only
the count of hits changes. -/
structure Hits (memo : DocumentMemo β) (document : Document) (value : β) : Prop where
  fetch_eq : ∀ {ε : Type} (compute : Unit → Except ε β),
    memo.fetch document compute = (.ok value, { memo with hits := memo.hits + 1 })
  fetchM_eq : ∀ {ε : Type} {m : Type → Type} [Monad m] (compute : m (Except ε β)),
    memo.fetchM document compute = pure (.ok value, { memo with hits := memo.hits + 1 })

/-- Whether a call for a document runs its computation once and is answered with the outcome. -/
structure Computes (memo : DocumentMemo β) (document : Document) : Prop where
  fetch_eq : ∀ {ε : Type} (compute : Unit → Except ε β),
    memo.fetch document compute = (compute (), memo.settle document (compute ()))
  fetchM_eq : ∀ {ε : Type} {m : Type → Type} [Monad m] (compute : m (Except ε β)),
    memo.fetchM document compute = do
      let outcome ← compute
      return (outcome, memo.settle document outcome)

theorem hits_of_find? {memo : DocumentMemo β} {document : Document} {value : β}
    (h : memo.find? document.text = some value) : memo.Hits document value where
  fetch_eq compute := by simp only [fetch, h]
  fetchM_eq compute := by simp only [fetchM, h]

theorem computes_of_find? {memo : DocumentMemo β} {document : Document}
    (h : memo.find? document.text = none) : memo.Computes document where
  fetch_eq compute := by
    simp only [fetch, h, settle]
    cases compute () <;> rfl
  fetchM_eq compute := by simp only [fetchM, h]

/-- A call hits if a value is held for its document, and computes otherwise. -/
theorem hits_or_computes (memo : DocumentMemo β) (document : Document) :
    (∃ value, memo.find? document.text = some value ∧ memo.Hits document value) ∨
      memo.Computes document := by
  cases h : memo.find? document.text with
  | some value => exact .inl ⟨value, rfl, hits_of_find? h⟩
  | none => exact .inr (computes_of_find? h)

section

variable (memo : DocumentMemo β) (document : Document) (outcome : Except ε β)

@[simp]
theorem hits_settle : (memo.settle document outcome).hits = memo.hits := by
  cases outcome with
  | error cause => rfl
  | ok value =>
    rw [settle, keep]
    split <;> rfl

@[simp]
theorem misses_settle : (memo.settle document outcome).misses = memo.misses + 1 := by
  cases outcome with
  | error cause => rfl
  | ok value =>
    rw [settle, keep]
    split <;> rfl

@[simp]
theorem capacity_settle : (memo.settle document outcome).capacity = memo.capacity := by
  cases outcome with
  | error cause => rfl
  | ok value =>
    rw [settle, keep]
    split <;> rfl

end

/-- What is held after a computation was held before, or is its value. -/
theorem IsSound.settle {memo : DocumentMemo β} {valid : String → β → Prop} (h : memo.IsSound valid)
    {document : Document} {outcome : Except ε β}
    (houtcome : ∀ value, outcome = .ok value → valid document.text value) :
    (memo.settle document outcome).IsSound valid := by
  have hcounted : { memo with misses := memo.misses + 1 }.IsSound valid := h
  cases outcome with
  | error cause => exact hcounted
  | ok value => exact hcounted.keep (houtcome value rfl)

/-! ### Runs -/

/-- What happens to a memo: it is called for a document whose computation, if it is run, has a given
outcome, or it loses the entry under a fingerprint or all entries. -/
inductive Event (ε β : Type) where
  | call (document : Document) (outcome : Except ε β)
  | evict (key : UInt64)
  | clear

/-- Whether an event is a call. -/
def Event.isCall : Event ε β → Bool
  | call _ _ => true
  | evict _ => false
  | clear => false

/-- The memo after an event. -/
def step (memo : DocumentMemo β) : Event ε β → DocumentMemo β
  | .call document outcome => (memo.fetch document fun _ => outcome).2
  | .evict key => memo.evict key
  | .clear => memo.clear

/-- The memo after several events. -/
def run (memo : DocumentMemo β) (events : List (Event ε β)) : DocumentMemo β :=
  events.foldl step memo

theorem run_concat (memo : DocumentMemo β) (events : List (Event ε β)) (event : Event ε β) :
    memo.run (events ++ [event]) = (memo.run events).step event := by
  rw [run, List.foldl_append]
  rfl

/-! ### What an event keeps -/

theorem capacity_step (memo : DocumentMemo β) (event : Event ε β) :
    (memo.step event).capacity = memo.capacity := by
  cases event with
  | call document outcome =>
    rw [step]
    rcases memo.hits_or_computes document with ⟨value, -, hhits⟩ | hcomputes
    · rw [hhits.fetch_eq]
    · rw [hcomputes.fetch_eq, capacity_settle]
  | evict key => rfl
  | clear => rfl

/-- A call counts as a hit or as a miss, and no other event counts. -/
theorem hits_add_misses_step (memo : DocumentMemo β) (event : Event ε β) :
    (memo.step event).hits + (memo.step event).misses =
      memo.hits + memo.misses + if event.isCall then 1 else 0 := by
  cases event with
  | call document outcome =>
    rw [step, Event.isCall, if_pos rfl]
    rcases memo.hits_or_computes document with ⟨value, -, hhits⟩ | hcomputes
    · rw [hhits.fetch_eq]
      exact Nat.add_right_comm _ _ _
    · rw [hcomputes.fetch_eq, hits_settle, misses_settle, Nat.add_assoc]
  | evict key => rfl
  | clear => rfl

/-! ### What a run keeps -/

/-- Whether a value was computed for a text in a run: by a call that ran its computation, for a
document of that text. -/
def ComputedIn (memo : DocumentMemo β) (events : List (Event ε β)) (text : String) (value : β) :
    Prop :=
  ∃ before document after, events = before ++ .call document (.ok value) :: after ∧
    document.text = text ∧ (memo.run before).Computes document

theorem ComputedIn.concat {memo : DocumentMemo β} {events : List (Event ε β)} {text : String}
    {value : β} (h : ComputedIn memo events text value) (event : Event ε β) :
    ComputedIn memo (events ++ [event]) text value := by
  obtain ⟨before, document, after, rfl, htext, hcomputes⟩ := h
  exact ⟨before, document, after ++ [event], by simp, htext, hcomputes⟩

theorem IsSound.mono {memo : DocumentMemo β} {valid wider : String → β → Prop}
    (h : memo.IsSound valid) (hwider : ∀ text value, valid text value → wider text value) :
    memo.IsSound wider :=
  fun text value hfound => hwider text value (h text value hfound)

section

variable (capacity : ℕ) (fingerprint : Fingerprint)

/-- What is held after a run was computed in it for the text it is held for, by induction from the
end of the run. -/
theorem isSound_run (events : List (Event ε β)) :
    ((empty capacity fingerprint).run events).IsSound
      (ComputedIn (empty capacity fingerprint) events) := by
  induction events using List.reverseRecOn with
  | nil => exact isSound_empty capacity fingerprint _
  | append_singleton events event ih =>
    have hsound := ih.mono fun text value hcomputed => hcomputed.concat event
    rw [run_concat]
    cases event with
    | call document outcome =>
      rw [step]
      rcases ((empty capacity fingerprint).run events).hits_or_computes document with
        ⟨value, -, hhits⟩ | hcomputes
      · rw [hhits.fetch_eq]
        exact hsound
      · rw [hcomputes.fetch_eq]
        refine hsound.settle fun value houtcome => ?_
        subst houtcome
        exact ⟨events, document, [], rfl, rfl, hcomputes⟩
    | evict key => exact hsound.evict key
    | clear => exact IsSound.clear _

theorem hits_add_misses_run (events : List (Event ε β)) :
    ((empty capacity fingerprint : DocumentMemo β).run events).hits +
      ((empty capacity fingerprint : DocumentMemo β).run events).misses =
        events.countP Event.isCall := by
  induction events using List.reverseRecOn with
  | nil => rfl
  | append_singleton events event ih =>
    rw [run_concat, hits_add_misses_step, ih, List.countP_append, List.countP_singleton]

theorem capacity_run (events : List (Event ε β)) :
    ((empty capacity fingerprint : DocumentMemo β).run events).capacity = capacity := by
  induction events using List.reverseRecOn with
  | nil => rfl
  | append_singleton events event ih => rw [run_concat, capacity_step, ih]

end

/-- Whatever fingerprints texts have, and whatever a memo was called for and has lost, the next call
either hits, with a value that an earlier call computed for a document of the same text, or runs its
own computation once and is answered with the outcome.  An error leaves the entries as they are,
hits and misses are together as many as the calls, and without capacity no call hits. -/
theorem fetch_hits_or_computes (capacity : ℕ) (fingerprint : Fingerprint)
    (events : List (Event ε β)) (document : Document) :
    let memo := (empty capacity fingerprint : DocumentMemo β).run events
    ((∃ value, ComputedIn (empty capacity fingerprint) events document.text value ∧
        memo.Hits document value) ∨ memo.Computes document) ∧
    (∀ cause : ε, (memo.fetch document fun _ => .error cause).2.entries = memo.entries) ∧
    memo.hits + memo.misses = events.countP Event.isCall ∧
    (capacity = 0 → memo.Computes document) := by
  intro memo
  have hcases := memo.hits_or_computes document
  refine ⟨?_, fun cause => ?_, hits_add_misses_run capacity fingerprint events, fun hcapacity => ?_⟩
  · rcases hcases with ⟨value, hfind, hhits⟩ | hcomputes
    · exact .inl ⟨value, isSound_run capacity fingerprint events _ _ hfind, hhits⟩
    · exact .inr hcomputes
  · rcases hcases with ⟨value, -, hhits⟩ | hcomputes
    · rw [hhits.fetch_eq]
    · rw [hcomputes.fetch_eq]
      rfl
  · have hmemo : memo.capacity = 0 := (capacity_run capacity fingerprint events).trans hcapacity
    exact computes_of_find? (by simp [find?, isEnabled, hmemo])

/-- Of two texts with one fingerprint, the second is not taken for the first: its value is computed,
and takes the place of the other. -/
example :
    let events : List (Event Unit ℕ) :=
      [.call { title := "Wheat" } (.ok 1), .call { title := "Corn" } (.ok 2)]
    let memo := (empty 1 fun _ => 0).run events
    memo.misses = 2 ∧ (memo.fetch { title := "Corn" } fun _ => .error ()).1 = .ok 2 ∧
      (memo.fetch { title := "Wheat" } fun _ => .error ()).1 = .error () := by
  decide +kernel

end NewsScoring.DocumentMemo
