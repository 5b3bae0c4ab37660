import NewsScoring.DocumentMemo

/-!
# What a memo holds

A memo is sound for a relation between texts and values if every value it holds for a text is one
that the relation has for it (`IsSound`).  Each operation keeps a memo sound, whatever fingerprints
texts have: `keep` because its value is one of its text, the others because they add nothing.  A
call of `fetch` has one of three outcomes (`fetch_cases`), and the same call after it has the same
outcome again (`fetch_fetch`).
-/

namespace NewsScoring.DocumentMemo

variable {β ε : Type}

/-- Whether every value that is held for a text is one that `valid` has for that text. -/
def IsSound (memo : DocumentMemo β) (valid : String → β → Prop) : Prop :=
  ∀ text value, memo.find? text = some value → valid text value

/-! ### What is held after each operation -/

@[simp]
theorem find?_empty (capacity : Nat) (fingerprint : Fingerprint) (text : String) :
    (empty capacity fingerprint : DocumentMemo β).find? text = none := by
  unfold find?
  split <;> simp [empty]

/-- A value is held for the text it is kept for, and takes the place of what has the same
fingerprint. -/
theorem find?_keep (memo : DocumentMemo β) (text : String) (value : β) (other : String) :
    (memo.keep text value).find? other =
      if memo.isEnabled = true ∧ memo.fingerprint other = memo.fingerprint text then
        if text = other then some value else none
      else memo.find? other := by
  by_cases henabled : memo.isEnabled = true
  · have hcapacity : (memo.capacity != 0) = true := henabled
    by_cases hprint : memo.fingerprint other = memo.fingerprint text
    · by_cases htext : text = other <;>
        simp [find?, keep, isEnabled, hcapacity, hprint, htext, Option.filter]
    · simp [find?, keep, isEnabled, hcapacity, hprint]
  · simp [find?, keep, henabled]

theorem find?_keep_self {memo : DocumentMemo β} (h : memo.isEnabled = true) (text : String)
    (value : β) : (memo.keep text value).find? text = some value := by
  rw [find?_keep, if_pos ⟨h, rfl⟩, if_pos rfl]

/-- What is held without an entry was held with it. -/
theorem find?_of_find?_evict {memo : DocumentMemo β} {key : UInt64} {text : String} {value : β}
    (h : (memo.evict key).find? text = some value) : memo.find? text = some value := by
  unfold find? at h ⊢
  split at h
  · next henabled =>
    rw [if_pos (show memo.isEnabled = true from henabled)]
    by_cases hkey : memo.fingerprint text = key
    · simp [evict, hkey] at h
    · simpa [evict, hkey] using h
  · exact absurd h (by simp)

@[simp]
theorem find?_clear (memo : DocumentMemo β) (text : String) : memo.clear.find? text = none := by
  unfold find?
  split <;> simp [clear]

/-! ### One call -/

/-- A call finds a value, or computes one and keeps it, or fails with the computation. -/
theorem fetch_cases (memo : DocumentMemo β) (document : Document)
    (compute : Unit → Except ε β) :
    (∃ value, memo.find? document.text = some value ∧
      memo.fetch document compute = (.ok value, { memo with hits := memo.hits + 1 })) ∨
    (∃ value, memo.find? document.text = none ∧ compute () = .ok value ∧
      memo.fetch document compute =
        (.ok value, { memo with misses := memo.misses + 1 }.keep document.text value)) ∨
    (∃ cause, memo.find? document.text = none ∧ compute () = .error cause ∧
      memo.fetch document compute = (.error cause, { memo with misses := memo.misses + 1 })) := by
  cases hfind : memo.find? document.text with
  | some value => exact Or.inl ⟨value, rfl, by simp only [fetch, hfind]⟩
  | none =>
    cases hcompute : compute () with
    | ok value => exact Or.inr (Or.inl ⟨value, rfl, rfl, by simp only [fetch, hfind, hcompute]⟩)
    | error cause => exact Or.inr (Or.inr ⟨cause, rfl, rfl, by simp only [fetch, hfind, hcompute]⟩)

theorem fetch_of_find?_eq_none {memo : DocumentMemo β} {document : Document}
    (h : memo.find? document.text = none) (compute : Unit → Except ε β) :
    (memo.fetch document compute).1 = compute () := by
  rcases memo.fetch_cases document compute with
    ⟨value, hsome, -⟩ | ⟨value, -, hcompute, hfetch⟩ | ⟨cause, -, hcompute, hfetch⟩
  · exact absurd hsome (by simp [h])
  · rw [hfetch, hcompute]
  · rw [hfetch, hcompute]

/-- A memo without capacity leaves each call to its computation. -/
theorem fetch_of_capacity_eq_zero {memo : DocumentMemo β} (h : memo.capacity = 0)
    (document : Document) (compute : Unit → Except ε β) :
    (memo.fetch document compute).1 = compute () :=
  fetch_of_find?_eq_none (by simp [find?, isEnabled, h]) compute

theorem fetch_of_find? {memo : DocumentMemo β} {document : Document} {value : β}
    (h : memo.find? document.text = some value) (compute : Unit → Except ε β) :
    (memo.fetch document compute).1 = .ok value := by
  simp only [fetch, h]

/-- A memo with capacity holds the value of the last call. -/
theorem find?_fetch {memo : DocumentMemo β} (henabled : memo.isEnabled = true)
    {document : Document} {compute : Unit → Except ε β} {value : β}
    (h : (memo.fetch document compute).1 = .ok value) :
    (memo.fetch document compute).2.find? document.text = some value := by
  rcases memo.fetch_cases document compute with
    ⟨found, hfind, hfetch⟩ | ⟨found, -, -, hfetch⟩ | ⟨cause, -, -, hfetch⟩
  · rw [hfetch] at h ⊢
    obtain rfl := Except.ok.inj h
    exact hfind
  · rw [hfetch] at h ⊢
    obtain rfl := Except.ok.inj h
    have hcounted : { memo with misses := memo.misses + 1 }.isEnabled = true := henabled
    exact find?_keep_self hcounted _ _
  · rw [hfetch] at h
    exact absurd h (by simp)

/-- After a call, the same call has the same outcome again. -/
theorem fetch_fetch (memo : DocumentMemo β) (document : Document)
    (compute : Unit → Except ε β) :
    ((memo.fetch document compute).2.fetch document compute).1 =
      (memo.fetch document compute).1 := by
  cases houtcome : (memo.fetch document compute).1 with
  | error cause =>
    rcases memo.fetch_cases document compute with
      ⟨found, -, hfetch⟩ | ⟨found, -, -, hfetch⟩ | ⟨cause', hnone, hcompute, hfetch⟩
    · cases (congrArg Prod.fst hfetch).symm.trans houtcome
    · cases (congrArg Prod.fst hfetch).symm.trans houtcome
    · -- An error is not kept, and is computed again.
      have hlater : (memo.fetch document compute).2.find? document.text = none := by
        rw [hfetch]
        exact hnone
      rw [fetch_of_find?_eq_none hlater, hcompute, ← houtcome, hfetch]
  | ok value =>
    by_cases henabled : memo.isEnabled = true
    · exact fetch_of_find? (find?_fetch henabled houtcome) compute
    · have hcapacity : memo.capacity = 0 := by simpa [isEnabled] using henabled
      have hlater : (memo.fetch document compute).2.capacity = 0 := by
        rcases memo.fetch_cases document compute with
          ⟨found, -, hfetch⟩ | ⟨found, -, -, hfetch⟩ | ⟨cause, -, -, hfetch⟩ <;>
          simp [hfetch, keep, isEnabled, hcapacity]
      rw [fetch_of_capacity_eq_zero hlater, ← houtcome, fetch_of_capacity_eq_zero hcapacity]

/-! ### Soundness -/

theorem isSound_empty (capacity : Nat) (fingerprint : Fingerprint) (valid : String → β → Prop) :
    (empty capacity fingerprint).IsSound valid := by
  intro text value h
  exact absurd h (by simp)

theorem IsSound.keep {memo : DocumentMemo β} {valid : String → β → Prop} (h : memo.IsSound valid)
    {text : String} {value : β} (hvalue : valid text value) :
    (memo.keep text value).IsSound valid := by
  intro other found hfound
  rw [find?_keep] at hfound
  split at hfound
  · split at hfound
    · next htext =>
      obtain rfl := Option.some.inj hfound
      exact htext ▸ hvalue
    · exact absurd hfound (by simp)
  · exact h other found hfound

theorem IsSound.evict {memo : DocumentMemo β} {valid : String → β → Prop} (h : memo.IsSound valid)
    (key : UInt64) : (memo.evict key).IsSound valid :=
  fun text value hfound => h text value (find?_of_find?_evict hfound)

theorem IsSound.clear {memo : DocumentMemo β} (valid : String → β → Prop) :
    memo.clear.IsSound valid := by
  intro text value h
  exact absurd h (by simp)

/-- A sound memo stays sound in a call, if what the call computes is a value of the text. -/
theorem IsSound.fetch {memo : DocumentMemo β} {valid : String → β → Prop} (h : memo.IsSound valid)
    {document : Document} {compute : Unit → Except ε β}
    (hcompute : ∀ value, compute () = .ok value → valid document.text value) :
    (memo.fetch document compute).2.IsSound valid := by
  rcases memo.fetch_cases document compute with
    ⟨value, -, hfetch⟩ | ⟨value, -, hvalue, hfetch⟩ | ⟨cause, -, -, hfetch⟩
  · rw [hfetch]
    exact h
  · rw [hfetch]
    have hcounted : { memo with misses := memo.misses + 1 }.IsSound valid := h
    exact hcounted.keep (hcompute value hvalue)
  · rw [hfetch]
    exact h

end NewsScoring.DocumentMemo
