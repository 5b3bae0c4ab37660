import Mathlib.Data.List.Forall2

/-!
# Outcomes of several steps

A computation that may fail has a value or an error (`Except`).  Two steps one after the other
succeed if both do (`bind_eq_ok_iff`).  The outcome of a list of steps is the list of their values,
or the error of the first that fails, also where each step takes up where those before it led
(`foldlM_eq_error_iff`).  Where all that can be wrong with steps is listed in the order in which
they meet it, the outcome is the first of the list (`StopsAtFirst`).
-/

namespace NewsScoring

/-! ### Two steps -/

theorem ok_bind {ε β γ : Type} (value : β) (next : β → Except ε γ) :
    Except.ok value >>= next = next value :=
  rfl

theorem exists_of_bind_eq_ok {ε β γ : Type} {first : Except ε β} {next : β → Except ε γ}
    {result : γ} (h : first >>= next = .ok result) :
    ∃ value, first = .ok value ∧ next value = .ok result := by
  cases first with
  | error cause => cases h
  | ok value => exact ⟨value, rfl, h⟩

/-- Two steps one after the other succeed if both do. -/
theorem bind_eq_ok_iff {ε β γ : Type} {first : Except ε β} {next : β → Except ε γ} {result : γ} :
    first >>= next = .ok result ↔ ∃ value, first = .ok value ∧ next value = .ok result := by
  refine ⟨exists_of_bind_eq_ok, ?_⟩
  rintro ⟨value, rfl, h⟩
  exact h

/-- They fail if the first does, or the second does with the value of the first. -/
theorem bind_eq_error_iff {ε β γ : Type} {first : Except ε β} {next : β → Except ε γ} {cause : ε} :
    first >>= next = .error cause ↔
      first = .error cause ∨ ∃ value, first = .ok value ∧ next value = .error cause := by
  cases first with
  | error cause' => simp [bind, Except.bind]
  | ok value => simp [ok_bind]

theorem map_eq_ok_iff {ε β γ : Type} {change : β → γ} {step : Except ε β} {result : γ} :
    change <$> step = .ok result ↔ ∃ value, step = .ok value ∧ change value = result := by
  rw [map_eq_pure_bind, bind_eq_ok_iff]
  simp only [pure, Except.pure, Except.ok.injEq]

theorem mapError_eq_ok_iff {ε δ β : Type} {rename : ε → δ} {step : Except ε β} {value : β} :
    step.mapError rename = .ok value ↔ step = .ok value := by
  cases step with
  | error cause =>
    constructor
    · intro h
      cases h
    · intro h
      cases h
  | ok other =>
    show Except.ok other = .ok value ↔ _
    simp

theorem isOk_eq_true_iff {ε β : Type} {step : Except ε β} :
    step.isOk = true ↔ ∃ value, step = .ok value := by
  cases step <;> simp [Except.isOk, Except.toBool]

/-! ### The steps of a list -/

/-- If each step of a list has a value and does nothing else, so has the list. -/
theorem mapM_eq_pure {m : Type → Type} [Monad m] [LawfulMonad m] {β γ : Type} {f : β → m γ}
    {g : β → γ} {l : List β} (h : ∀ x ∈ l, f x = pure (g x)) : l.mapM f = pure (l.map g) := by
  induction l with
  | nil => rfl
  | cons x rest ih =>
    rw [List.forall_mem_cons] at h
    rw [List.mapM_cons, h.1, ih h.2, pure_bind, pure_bind, List.map_cons]

section

variable {ε β γ : Type} {f : β → Except ε γ}

theorem mapM_eq_ok {g : β → γ} {l : List β} (h : ∀ x ∈ l, f x = .ok (g x)) :
    l.mapM f = .ok (l.map g) :=
  mapM_eq_pure h

/-- The first error of a list is its outcome. -/
theorem mapM_eq_error {before after : List β} {x : β} {cause : ε}
    (hbefore : ∀ y ∈ before, ∃ value, f y = .ok value) (hx : f x = .error cause) :
    (before ++ x :: after).mapM f = .error cause := by
  induction before with
  | nil =>
    rw [List.nil_append, List.mapM_cons, hx]
    rfl
  | cons y rest ih =>
    obtain ⟨value, hvalue⟩ := hbefore y List.mem_cons_self
    rw [List.cons_append, List.mapM_cons, hvalue,
      ih fun z hz => hbefore z (List.mem_cons_of_mem _ hz)]
    rfl

/-- A list has an outcome exactly if all its elements have one. -/
theorem exists_mapM_eq_ok_iff {l : List β} :
    (∃ results, l.mapM f = .ok results) ↔ ∀ x ∈ l, ∃ value, f x = .ok value := by
  induction l with
  | nil => simp [pure, Except.pure]
  | cons x rest ih =>
    rw [List.forall_mem_cons, ← ih, List.mapM_cons]
    cases f x with
    | error cause => simp [bind, Except.bind]
    | ok value => cases rest.mapM f <;> simp [bind, Except.bind, pure, Except.pure]

/-- The values of a list are those of its elements, one by one. -/
theorem mapM_eq_ok_iff {l : List β} {results : List γ} :
    l.mapM f = .ok results ↔ List.Forall₂ (fun x value => f x = .ok value) l results := by
  induction l generalizing results with
  | nil => simp [pure, Except.pure, eq_comm]
  | cons x rest ih =>
    simp only [List.mapM_cons, bind_eq_ok_iff, ih, List.forall₂_cons_left_iff, pure, Except.pure,
      Except.ok.injEq]
    constructor
    · rintro ⟨value, hvalue, values, hvalues, rfl⟩
      exact ⟨value, values, hvalue, hvalues, rfl⟩
    · rintro ⟨value, values, hvalue, hvalues, rfl⟩
      exact ⟨value, hvalue, values, hvalues, rfl⟩

theorem exists_of_mapM_eq_error {l : List β} {cause : ε} (h : l.mapM f = .error cause) :
    ∃ x ∈ l, f x = .error cause := by
  induction l with
  | nil => cases h
  | cons x rest ih =>
    rw [List.mapM_cons] at h
    cases hx : f x with
    | error cause' =>
      rw [hx] at h
      cases h
      exact ⟨x, List.mem_cons_self, hx⟩
    | ok value =>
      cases hrest : rest.mapM f with
      | error cause' =>
        rw [hx, hrest] at h
        cases h
        obtain ⟨y, hy, hfy⟩ := ih hrest
        exact ⟨y, List.mem_cons_of_mem _ hy, hfy⟩
      | ok values =>
        rw [hx, hrest] at h
        cases h

end

/-- Steps that each take up where those before them led fail as the first of them that fails. -/
theorem foldlM_eq_error_iff {ε β σ : Type} {f : σ → β → Except ε σ} {l : List β} {state : σ}
    {cause : ε} :
    l.foldlM f state = .error cause ↔ ∃ before x after, l = before ++ x :: after ∧
      ∃ reached, before.foldlM f state = .ok reached ∧ f reached x = .error cause := by
  induction l generalizing state with
  | nil => simp [pure, Except.pure]
  | cons y rest ih =>
    simp only [List.foldlM_cons, bind_eq_error_iff, ih]
    constructor
    · rintro (hy | ⟨next, hy, before, x, after, rfl, reached, hbefore, hx⟩)
      · exact ⟨[], y, rest, rfl, state, rfl, hy⟩
      · refine ⟨y :: before, x, after, rfl, reached, ?_, hx⟩
        rwa [List.foldlM_cons, hy, ok_bind]
    · rintro ⟨before, x, after, hl, reached, hbefore, hx⟩
      cases before with
      | nil =>
        obtain ⟨rfl, rfl⟩ := List.cons.inj hl
        cases hbefore
        exact .inl hx
      | cons first before =>
        obtain ⟨rfl, rfl⟩ := List.cons.inj hl
        obtain ⟨next, hnext, hbefore'⟩ := exists_of_bind_eq_ok hbefore
        exact .inr ⟨next, hnext, before, x, after, rfl, reached, hbefore', hx⟩

/-! ### The first fault -/

/-- Whether a step has the first of some faults as its error, and a value if there are none. -/
def StopsAtFirst {ε β : Type} (step : Except ε β) : List ε → Prop
  | [] => ∃ value, step = .ok value
  | cause :: _ => step = .error cause

namespace StopsAtFirst

variable {ε β γ : Type} {step : Except ε β} {next : β → Except ε γ} {faults later : List ε}

theorem eq_error_iff (h : StopsAtFirst step faults) {cause : ε} :
    step = .error cause ↔ faults.head? = some cause := by
  cases faults with
  | nil =>
    obtain ⟨value, rfl⟩ := h
    simp
  | cons fault rest =>
    have hstep : step = .error fault := h
    rw [hstep, List.head?_cons, Except.error.injEq, Option.some.injEq]

theorem exists_eq_ok_iff (h : StopsAtFirst step faults) :
    (∃ value, step = .ok value) ↔ faults = [] := by
  cases faults with
  | nil => exact iff_of_true h rfl
  | cons fault rest =>
    have hstep : step = .error fault := h
    simp [hstep]

/-- The faults of two steps one after the other are those of the first and then those of the
second. -/
theorem bind (h : StopsAtFirst step faults)
    (hnext : ∀ value, step = .ok value → StopsAtFirst (next value) later) :
    StopsAtFirst (step >>= next) (faults ++ later) := by
  cases faults with
  | nil =>
    obtain ⟨value, hvalue⟩ := h
    have hlater := hnext value hvalue
    rw [hvalue]
    exact hlater
  | cons fault rest =>
    have hstep : step = .error fault := h
    rw [hstep]
    rfl

/-- The faults of the steps of a list are those of its elements, in order. -/
theorem mapM {f : β → Except ε γ} {faultsOf : β → List ε} {l : List β}
    (h : ∀ x ∈ l, StopsAtFirst (f x) (faultsOf x)) :
    StopsAtFirst (l.mapM f) (l.flatMap faultsOf) := by
  induction l with
  | nil => exact ⟨[], rfl⟩
  | cons x rest ih =>
    rw [List.forall_mem_cons] at h
    rw [List.mapM_cons, List.flatMap_cons]
    apply h.1.bind
    intro value _
    have hrest : StopsAtFirst (rest.mapM f >>= fun values => pure (value :: values))
        (rest.flatMap faultsOf ++ []) :=
      (ih h.2).bind fun values _ => ⟨value :: values, rfl⟩
    rwa [List.append_nil] at hrest

end StopsAtFirst

end NewsScoring
