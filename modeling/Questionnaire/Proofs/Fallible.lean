import Questionnaire.Failure
import Mathlib.Data.List.Forall2

/-!
This module contains the theory of steps that can fail: when a chain of steps succeeds, and how it
fails.
-/

namespace Questionnaire

section Bind

variable {ε α β : Type}

theorem bind_eq_ok_iff {step : Except ε α} {next : α → Except ε β} {result : β} :
    step >>= next = .ok result ↔ ∃ value, step = .ok value ∧ next value = .ok result := by
  cases step with
  | error failure =>
    constructor
    · intro h
      cases h
    · rintro ⟨value, h, -⟩
      cases h
  | ok value =>
    constructor
    · intro h
      exact ⟨value, rfl, h⟩
    · rintro ⟨value', h, hnext⟩
      cases h
      exact hnext

@[simp]
theorem ok_bind (value : α) (next : α → Except ε β) :
    (Except.ok value : Except ε α) >>= next = next value :=
  rfl

theorem exists_eq_ok_of_any {step : Except ε α} {p : α → Bool} (h : step.toOption.any p = true) :
    ∃ value, step = .ok value ∧ p value = true := by
  cases step with
  | error failure => cases h
  | ok value => exact ⟨value, rfl, h⟩

def failure? : Except ε α → Option ε
  | .ok _ => none
  | .error failure => some failure

theorem failure?_eq_some_iff {step : Except ε α} {failure : ε} :
    failure? step = some failure ↔ step = .error failure := by
  cases step <;> simp [failure?]

end Bind

section Run

variable {ε σ α β : Type} {step : EStateM ε σ α} {next : α → EStateM ε σ β} {state final : σ}

theorem run_bind_eq_ok_iff {result : β} :
    (step >>= next).run state = .ok result final ↔
      ∃ value between, step.run state = .ok value between ∧
        (next value).run between = .ok result final := by
  rw [EStateM.run_bind]
  cases step.run state <;> simp

theorem run_bind_eq_error_iff {failure : ε} :
    (step >>= next).run state = .error failure final ↔
      step.run state = .error failure final ∨
        ∃ value between, step.run state = .ok value between ∧
          (next value).run between = .error failure final := by
  rw [EStateM.run_bind]
  cases step.run state <;> simp

end Run

section Placing

variable {α : Type} {place : Place} {step : Except Failure α} {value : α}

@[simp]
theorem placing_eq_ok_iff : placing place step = .ok value ↔ step = .ok value := by
  cases step <;> simp [placing]

@[simp]
theorem orPlacing_eq_ok_iff : orPlacing place step = .ok value ↔ step = .ok value := by
  cases step <;> simp [orPlacing]

end Placing

def FailsOnly {α : Type} (p : Failure → Prop) (step : Except Failure α) : Prop :=
  ∀ failure, step = .error failure → p failure

section FailsOnly

variable {α β : Type} {p q : Failure → Prop} {step : Except Failure α} {place : Place}

theorem failsOnly_ok (value : α) : FailsOnly p (.ok value : Except Failure α) := by
  intro failure h
  cases h

theorem failsOnly_error {failure : Failure} (h : p failure) :
    FailsOnly p (.error failure : Except Failure α) := by
  intro failure' h'
  cases h'
  exact h

theorem FailsOnly.mono (h : FailsOnly p step) (himp : ∀ failure, p failure → q failure) :
    FailsOnly q step := by
  intro failure hfailure
  exact himp failure (h failure hfailure)

theorem FailsOnly.bind {next : α → Except Failure β} (h : FailsOnly p step)
    (hnext : ∀ value, step = .ok value → FailsOnly p (next value)) :
    FailsOnly p (step >>= next) := by
  cases step with
  | error failure => exact failsOnly_error (h failure rfl)
  | ok value => exact hnext value rfl

theorem failsOnly_placing (place : Place) (step : Except Failure α) :
    FailsOnly (·.place = some place) (placing place step) := by
  cases step with
  | error failure => exact failsOnly_error rfl
  | ok value => exact failsOnly_ok value

theorem FailsOnly.orPlacing (h : FailsOnly (·.place = none) step) (place : Place) :
    FailsOnly (·.place = some place) (orPlacing place step) := by
  cases step with
  | error failure =>
    apply failsOnly_error
    have hnone := h failure rfl
    unfold Failure.orPlaced
    dsimp only at hnone ⊢
    rw [hnone]
    rfl
  | ok value => exact failsOnly_ok value

end FailsOnly

section Fold

variable {α β : Type} {p : β → Prop} {items : List α} {start : β}

theorem foldlM_invariant_of_mem {ε : Type} {step : β → α → Except ε β} {result : β}
    (hstep : ∀ state, ∀ item ∈ items, ∀ state', p state → step state item = .ok state' → p state')
    (hstart : p start) (h : items.foldlM step start = .ok result) : p result := by
  induction items generalizing start with
  | nil =>
    cases h
    exact hstart
  | cons item items ih =>
    rw [List.foldlM_cons] at h
    obtain ⟨next, hnext, h⟩ := bind_eq_ok_iff.1 h
    have htail := fun state item hitem => hstep state item (List.mem_cons_of_mem _ hitem)
    exact ih htail (hstep start item List.mem_cons_self next hstart hnext) h

theorem failsOnly_foldlM {step : β → α → Except Failure β} {q : Failure → Prop}
    (hstep : ∀ state, ∀ item ∈ items, ∀ state', p state → step state item = .ok state' → p state')
    (hfails : ∀ state, ∀ item ∈ items, p state → FailsOnly q (step state item))
    (hstart : p start) : FailsOnly q (items.foldlM step start) := by
  induction items generalizing start with
  | nil => exact failsOnly_ok start
  | cons item items ih =>
    rw [List.foldlM_cons]
    apply (hfails start item List.mem_cons_self hstart).bind
    intro next hnext
    apply ih
    · exact fun state item hitem => hstep state item (List.mem_cons_of_mem _ hitem)
    · exact fun state item hitem => hfails state item (List.mem_cons_of_mem _ hitem)
    · exact hstep start item List.mem_cons_self next hstart hnext

theorem exists_foldlM_of_forall₂ {ε α' β' : Type} {r : α → α' → Prop} {v : β → β' → Prop}
    {step : β → α → Except ε β} {step' : β' → α' → Except ε β'} {items' : List α'} {start' : β'}
    {result : β}
    (hstep : ∀ state state' item item' next, r item item' → v state state' →
      step state item = .ok next → ∃ next', step' state' item' = .ok next' ∧ v next next')
    (hitems : items.Forall₂ r items') (hstart : v start start')
    (h : items.foldlM step start = .ok result) :
    ∃ result', items'.foldlM step' start' = .ok result' ∧ v result result' := by
  induction hitems generalizing start start' with
  | nil =>
    cases h
    exact ⟨start', rfl, hstart⟩
  | cons hitem hitems ih =>
    rw [List.foldlM_cons] at h ⊢
    obtain ⟨next, hnext, h⟩ := bind_eq_ok_iff.1 h
    obtain ⟨next', hnext', hrel⟩ := hstep _ _ _ _ _ hitem hstart hnext
    rw [hnext', ok_bind]
    exact ih hrel h

theorem foldlM_eq_ok_iff {ε : Type} {step : β → α → Except ε β} {admits : α → Prop}
    {put : β → α → β} {result : β}
    (hstep : ∀ state item next, step state item = .ok next ↔ admits item ∧ next = put state item) :
    items.foldlM step start = .ok result ↔
      (∀ item ∈ items, admits item) ∧ result = items.foldl put start := by
  induction items generalizing start with
  | nil =>
    constructor
    · intro h
      cases h
      exact ⟨by simp, rfl⟩
    · rintro ⟨-, rfl⟩
      rfl
  | cons item items ih =>
    rw [List.foldlM_cons, bind_eq_ok_iff, List.forall_mem_cons, List.foldl_cons]
    simp only [hstep, ih]
    constructor
    · rintro ⟨next, ⟨hitem, rfl⟩, hitems, hresult⟩
      exact ⟨⟨hitem, hitems⟩, hresult⟩
    · rintro ⟨⟨hitem, hitems⟩, hresult⟩
      exact ⟨_, ⟨hitem, rfl⟩, hitems, hresult⟩

theorem foldlM_eq_filter {ε : Type} {step step' : β → α → Except ε β} {p : α → Bool}
    (hkeep : ∀ state item, p item = true → step state item = step' state item)
    (hskip : ∀ state item, p item = false → step state item = .ok state) :
    items.foldlM step start = (items.filter p).foldlM step' start := by
  induction items generalizing start with
  | nil => rfl
  | cons item items ih =>
    rw [List.foldlM_cons, List.filter_cons]
    cases hitem : p item with
    | true =>
      rw [if_pos rfl, List.foldlM_cons, hkeep start item hitem]
      simp only [ih]
    | false =>
      rw [if_neg Bool.false_ne_true, hskip start item hitem, ok_bind]
      exact ih

end Fold

end Questionnaire
