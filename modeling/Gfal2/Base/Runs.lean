import Mathlib.Logic.Function.Basic

/-! Runs of a labelled transition system given by a partial step function. A run may be restricted
to steps that meet a condition on the action and the state before it; an invariant that those steps
preserve holds in every state such a run reaches. -/

namespace Base

variable {A S : Type*}

/-- The actions taken in order from the first state to the last, each one enabled and each one
meeting `allowed` in the state it is taken in. -/
inductive Run (step : A → S → Option S) (allowed : A → S → Prop) : S → List A → S → Prop where
  | nil (state : S) : Run step allowed state [] state
  | cons {action : A} {actions : List A} {first second last : S} (hallowed : allowed action first)
      (hstep : step action first = some second) (hrest : Run step allowed second actions last) :
      Run step allowed first (action :: actions) last

namespace Run

variable {step : A → S → Option S} {allowed : A → S → Prop} {first middle last : S}
  {actions actions' : List A}

theorem append (hleft : Run step allowed first actions middle) (hright : Run step allowed middle actions' last) :
    Run step allowed first (actions ++ actions') last := by
  induction hleft with
  | nil state => exact hright
  | cons hallowed hstep _ ih => exact .cons hallowed hstep (ih hright)

/-- What every allowed step preserves, every run preserves. -/
theorem invariant (inv : S → Prop) (hpreserve : ∀ action state state', allowed action state → inv state →
      step action state = some state' → inv state')
    (hrun : Run step allowed first actions last) (hfirst : inv first) : inv last := by
  induction hrun with
  | nil state => exact hfirst
  | cons hallowed hstep _ ih => exact ih (hpreserve _ _ _ hallowed hfirst hstep)

/-- What holds of the first state and of no actions, and goes from the actions taken so far to one more, holds of every run
and of the state it reaches. -/
theorem history (holds : List A → S → Prop) (hstep : ∀ past action state state', allowed action state → holds past state →
      step action state = some state' → holds (past ++ [action]) state')
    (hrun : Run step allowed first actions last) (hfirst : holds [] first) : holds actions last := by
  suffices h : ∀ past, holds past first → holds (past ++ actions) last from h [] hfirst
  clear hfirst
  induction hrun with
  | nil state =>
      intro past hpast
      rw [List.append_nil]
      exact hpast
  | @cons action _ _ _ _ hallowed htaken _ ih =>
      intro past hpast
      rw [List.append_cons]
      apply ih
      exact hstep past action _ _ hallowed hpast htaken

/-- If every allowed step is matched by the specification's update of a related state, the last state of
a run is related to the one the specification reaches by the same actions. -/
theorem simulation {T : Type*} {rel : S → T → Prop} {spec : A → T → T}
    (hmatch : ∀ action state state' specState, allowed action state → rel state specState →
      step action state = some state' → rel state' (spec action specState))
    (hrun : Run step allowed first actions last) {specFirst : T} (hfirst : rel first specFirst) :
    rel last (actions.foldl (fun specState action => spec action specState) specFirst) := by
  induction hrun generalizing specFirst with
  | nil state => exact hfirst
  | cons hallowed hstep _ ih => exact ih (hmatch _ _ _ _ hallowed hfirst hstep)

/-- A run of a restricted system is a run of any system that restricts it less. -/
theorem mono {allowed' : A → S → Prop} (himp : ∀ action state, allowed action state → allowed' action state)
    (hrun : Run step allowed first actions last) : Run step allowed' first actions last := by
  induction hrun with
  | nil state => exact .nil state
  | cons hallowed hstep _ ih => exact .cons (himp _ _ hallowed) hstep ih

/-- Two conditions on the steps that agree where an invariant holds restrict the runs alike. -/
theorem iff_of_invariant {allowed' : A → S → Prop} (inv : S → Prop)
    (hsame : ∀ action state, inv state → (allowed action state ↔ allowed' action state))
    (hpreserve : ∀ action state state', allowed action state → inv state →
      step action state = some state' → inv state') (hfirst : inv first) :
    Run step allowed first actions last ↔ Run step allowed' first actions last := by
  constructor
  · intro hrun
    induction hrun with
    | nil state => exact .nil state
    | cons hallowed hstep _ ih =>
        exact .cons ((hsame _ _ hfirst).mp hallowed) hstep (ih (hpreserve _ _ _ hallowed hfirst hstep))
  · intro hrun
    induction hrun with
    | nil state => exact .nil state
    | cons hallowed hstep _ ih =>
        have hallowed' := (hsame _ _ hfirst).mpr hallowed
        exact .cons hallowed' hstep (ih (hpreserve _ _ _ hallowed' hfirst hstep))

end Run

/-! ### Records beside a run -/

section Ghost

variable {G : Type*} (step : A → S → Option S) (record : A → S → G → G)

/-- A step together with the update of a record that no step reads. -/
def ghostStep : A → S × G → Option (S × G) := fun action state =>
  (step action state.1).map fun next => (next, record action state.1 state.2)

/-- A record beside a run changes nothing about the run. -/
theorem run_ghost_iff {allowed : A → S → Prop} {actions : List A} {first last : S} {ghost : G} :
    (∃ ghost', Run (ghostStep step record) (fun action state => allowed action state.1) (first, ghost) actions
      (last, ghost')) ↔ Run step allowed first actions last := by
  induction actions generalizing first ghost with
  | nil =>
      constructor
      · rintro ⟨ghost', hrun⟩
        cases hrun
        exact .nil _
      · intro hrun
        cases hrun
        exact ⟨ghost, .nil _⟩
  | cons action actions ih =>
      constructor
      · rintro ⟨ghost', hrun⟩
        cases hrun with
        | cons hallowed hstep hrest =>
            obtain ⟨second, hsecond, rfl⟩ := Option.map_eq_some_iff.mp hstep
            exact .cons hallowed hsecond (ih.mp ⟨ghost', hrest⟩)
      · intro hrun
        cases hrun with
        | cons hallowed hstep hrest =>
            obtain ⟨ghost', hrest'⟩ := ih.mpr hrest
            exact ⟨ghost', .cons hallowed (Option.map_eq_some_iff.mpr ⟨_, hstep, rfl⟩) hrest'⟩

end Ghost

/-- Execute a list of actions, stopping where one is not enabled. -/
def runAll (step : A → S → Option S) : List A → S → Option S
  | [], state => some state
  | action :: actions, state => (step action state).bind (runAll step actions)

theorem Run.runAll_eq {step : A → S → Option S} {allowed : A → S → Prop} {actions : List A} {first last : S}
    (hrun : Run step allowed first actions last) : runAll step actions first = some last := by
  induction hrun with
  | nil state => rfl
  | cons _ hstep _ ih => rw [runAll, hstep, Option.bind_some, ih]

/-- Actions that are enabled in every state can be taken in any order. -/
theorem exists_run {step : A → S → Option S} {allowed : A → Prop}
    (henabled : ∀ action state, allowed action → ∃ state', step action state = some state')
    {actions : List A} (hactions : ∀ action ∈ actions, allowed action) (first : S) :
    ∃ last, Run step (fun action _ => allowed action) first actions last := by
  induction actions generalizing first with
  | nil => exact ⟨first, .nil first⟩
  | cons action actions ih =>
      obtain ⟨hhead, htail⟩ := List.forall_mem_cons.mp hactions
      obtain ⟨second, hstep⟩ := henabled action first hhead
      obtain ⟨last, hrest⟩ := ih htail second
      exact ⟨last, .cons hhead hstep hrest⟩

theorem run_of_runAll {step : A → S → Option S} {actions : List A} {first last : S}
    (h : runAll step actions first = some last) : Run step (fun _ _ => True) first actions last := by
  induction actions generalizing first with
  | nil =>
      cases h
      exact .nil last
  | cons action actions ih =>
      obtain ⟨second, hstep, hrest⟩ := Option.bind_eq_some_iff.mp h
      exact .cons trivial hstep (ih hrest)

/-- A run whose steps meet a decidable condition is found by executing them under it. -/
theorem run_of_runAll_where {step : A → S → Option S} {allowed : A → S → Prop} [∀ action state, Decidable (allowed action state)]
    {actions : List A} {first last : S}
    (h : runAll (fun action state => if allowed action state then step action state else none) actions first = some last) :
    Run step allowed first actions last := by
  induction actions generalizing first with
  | nil =>
      cases h
      exact .nil last
  | cons action actions ih =>
      obtain ⟨second, hstep, hrest⟩ := Option.bind_eq_some_iff.mp h
      dsimp only at hstep
      by_cases hallowed : allowed action first
      · rw [if_pos hallowed] at hstep
        exact .cons hallowed hstep (ih hrest)
      · rw [if_neg hallowed] at hstep
        cases hstep

/-! ### Along a sequence of calls -/

/-- Each call of a sequence has a property in the state it is made in, as far as the calls before it return. -/
def Along {E : Type*} (step : A → S → Except E S) (property : A → S → Prop) : List A → S → Prop
  | [], _ => True
  | action :: actions, state => property action state ∧ ∀ state', step action state = .ok state' → Along step property actions state'

/-- Two properties that agree where an invariant holds hold along the same sequences. -/
theorem along_iff {E : Type*} {step : A → S → Except E S} {property property' : A → S → Prop} {inv : S → Prop}
    (hsame : ∀ action state, inv state → (property action state ↔ property' action state))
    (hpreserve : ∀ action state state', inv state → step action state = .ok state' → inv state')
    {actions : List A} {state : S} (hstate : inv state) :
    Along step property actions state ↔ Along step property' actions state := by
  induction actions generalizing state with
  | nil => exact Iff.rfl
  | cons action actions ih =>
      rw [Along, Along]
      exact and_congr (hsame action state hstate) (forall₂_congr fun state' hstep => ih (hpreserve action state state' hstate hstep))

end Base
