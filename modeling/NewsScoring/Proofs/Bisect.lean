import Mathlib.Order.Basic
import NewsScoring.Bisect

/-!
# What searching by halves finds

If the elements that satisfy `p` come first, `bisect p xs` is the number of them
(`bisect_eq_countP`): the elements before that index satisfy `p`, and no others do
(`holdsAt_iff_lt_bisect`).
-/

namespace NewsScoring

variable {β : Type} {p : β → Bool} {xs : List β}

/-- Whether the elements that satisfy `p` come before all others. -/
def ComesFirst (p : β → Bool) (xs : List β) : Prop :=
  ∀ i j, i ≤ j → holdsAt p xs j = true → holdsAt p xs i = true

theorem holdsAt_eq_true_iff {i : ℕ} :
    holdsAt p xs i = true ↔ ∃ h : i < xs.length, p xs[i] = true := by
  rw [holdsAt]
  by_cases h : i < xs.length
  · simp [h]
  · simp [h]

/-- Where each element of a list that satisfies `p` follows only such elements, those come first. -/
theorem comesFirst_of_pairwise (h : xs.Pairwise fun a b => p b = true → p a = true) :
    ComesFirst p xs := by
  intro i j hij hj
  rw [holdsAt_eq_true_iff] at hj ⊢
  obtain ⟨hlt, hp⟩ := hj
  refine ⟨Nat.lt_of_le_of_lt hij hlt, ?_⟩
  rcases Nat.eq_or_lt_of_le hij with rfl | hij
  · exact hp
  · exact List.pairwise_iff_getElem.1 h i j _ hlt hij hp

/-- The index that is found lies in the range, satisfies `p` unless it is the first, and no index of
the range behind it satisfies `p`. -/
theorem bisectFrom_spec (hfirst : ComesFirst p xs) (base size : ℕ) :
    (bisectFrom p xs base size = base ∨ holdsAt p xs (bisectFrom p xs base size) = true) ∧
      ∀ i, bisectFrom p xs base size < i → i < base + size → holdsAt p xs i = false := by
  induction size using Nat.strongRecOn generalizing base with
  | ind size ih =>
    rw [bisectFrom]
    dsimp only
    split
    · refine ⟨.inl rfl, fun i hi hi' => ?_⟩
      omega
    · have hhalf : size - size / 2 < size := by omega
      by_cases hmiddle : holdsAt p xs (base + size / 2) = true
      · -- The search goes on from the middle, which satisfies `p` even if nothing behind it does.
        obtain ⟨hfound, hbehind⟩ := ih _ hhalf (base + size / 2)
        rw [if_pos hmiddle]
        refine ⟨.inr ?_, fun i hi hi' => hbehind i hi (by omega)⟩
        rcases hfound with hfound | hfound
        · rw [hfound]
          exact hmiddle
        · exact hfound
      · obtain ⟨hfound, hbehind⟩ := ih _ hhalf base
        rw [if_neg hmiddle]
        refine ⟨hfound, fun i hi hi' => ?_⟩
        rcases Nat.lt_or_ge i (base + (size - size / 2)) with hlt | hge
        · exact hbehind i hi hlt
        · -- The middle does not satisfy `p`, and nothing behind it does.
          rw [← Bool.not_eq_true]
          exact fun h => hmiddle (hfirst _ _ (by omega) h)

/-- The elements that satisfy `p` are those before the index that is found. -/
theorem holdsAt_iff_lt_bisect (hfirst : ComesFirst p xs) (i : ℕ) :
    holdsAt p xs i = true ↔ i < bisect p xs := by
  obtain ⟨hfound, hbehind⟩ := bisectFrom_spec hfirst 0 xs.length
  rw [bisect]
  generalize bisectFrom p xs 0 xs.length = found at hfound hbehind
  cases hholds : holdsAt p xs found with
  | true =>
    simp only [if_true]
    constructor
    · intro hi
      by_contra hlt
      have hlength : i < xs.length := (holdsAt_eq_true_iff.1 hi).1
      rw [hbehind i (by omega) (by omega)] at hi
      cases hi
    · intro hi
      exact hfirst i found (by omega) hholds
  | false =>
    obtain rfl : found = 0 := hfound.resolve_right (by rw [hholds]; exact Bool.false_ne_true)
    simp only [Bool.false_eq_true, if_false, Nat.not_lt_zero, iff_false]
    intro hi
    rw [hfirst 0 i (Nat.zero_le i) hi] at hholds
    cases hholds

/-- The index at which `p` first fails is the one that is found. -/
theorem bisect_eq {i : ℕ} (hfirst : ComesFirst p xs)
    (hbefore : ∀ j < i, holdsAt p xs j = true) (hi : holdsAt p xs i = false) : bisect p xs = i := by
  have hle : i ≤ bisect p xs := by
    by_contra hlt
    have hholds := hbefore (bisect p xs) (by omega)
    rw [holdsAt_iff_lt_bisect hfirst] at hholds
    omega
  have hge : ¬i < bisect p xs := by
    rw [← holdsAt_iff_lt_bisect hfirst, hi]
    exact Bool.false_ne_true
  omega

theorem bisect_le_length (hfirst : ComesFirst p xs) : bisect p xs ≤ xs.length := by
  by_contra hlt
  have hholds : holdsAt p xs xs.length = true :=
    (holdsAt_iff_lt_bisect hfirst xs.length).2 (Nat.lt_of_not_le hlt)
  obtain ⟨hlength, -⟩ := holdsAt_eq_true_iff.1 hholds
  exact Nat.lt_irrefl _ hlength

/-- The index that is found is the number of the elements that satisfy `p`. -/
theorem bisect_eq_countP (hfirst : ComesFirst p xs) : bisect p xs = xs.countP p := by
  have hle := bisect_le_length hfirst
  have hbefore : (xs.take (bisect p xs)).countP p = (xs.take (bisect p xs)).length := by
    apply List.countP_eq_length.2
    intro x hx
    obtain ⟨i, hi, rfl⟩ := List.mem_take_iff_getElem.1 hx
    have hholds : holdsAt p xs i = true := (holdsAt_iff_lt_bisect hfirst i).2 (by omega)
    exact (holdsAt_eq_true_iff.1 hholds).2
  have hbehind : (xs.drop (bisect p xs)).countP p = 0 := by
    apply List.countP_eq_zero.2
    intro x hx hp
    obtain ⟨i, hi, rfl⟩ := List.mem_drop_iff_getElem.1 hx
    have hholds : holdsAt p xs (bisect p xs + i) = true :=
      holdsAt_eq_true_iff.2 ⟨Nat.add_comm i _ ▸ hi, hp⟩
    have hlt := (holdsAt_iff_lt_bisect hfirst _).1 hholds
    omega
  have hcount : (xs.take (bisect p xs) ++ xs.drop (bisect p xs)).countP p = bisect p xs := by
    rw [List.countP_append, hbefore, hbehind, List.length_take, Nat.min_eq_left hle, Nat.add_zero]
  rw [List.take_append_drop] at hcount
  exact hcount.symm

/-- The elements that satisfy `p` are the first ones, as many as there are. -/
theorem holdsAt_iff_lt_countP (hfirst : ComesFirst p xs) (i : ℕ) :
    holdsAt p xs i = true ↔ i < xs.countP p := by
  rw [holdsAt_iff_lt_bisect hfirst, bisect_eq_countP hfirst]

end NewsScoring
