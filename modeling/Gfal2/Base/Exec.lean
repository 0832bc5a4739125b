import Mathlib.Logic.Function.Basic

/-! Sequential computations over one state that either return a value or stop at a fault, with
the rules by which an outcome of a composed computation is taken apart. A fault has no state: the
program it models does not continue from there. -/

namespace Base

/-- A computation over states `S`: a value and the next state, or a fault. -/
def Exec (S E α : Type) : Type := S → Except E (α × S)

namespace Exec

variable {S E α β : Type}

/-- Run the first computation and the next one on its outcome. -/
protected def bind (first : Exec S E α) (next : α → Exec S E β) : Exec S E β := fun state =>
  match first state with
  | .error reason => .error reason
  | .ok (value, state') => next value state'

instance : Monad (Exec S E) where
  pure value := fun state => .ok (value, state)
  bind := Exec.bind

/-- Stop here. -/
def fault (reason : E) : Exec S E α := fun _ => .error reason

/-- Read the state. -/
def get : Exec S E S := fun state => .ok (state, state)

/-- Replace the state by its image. -/
def modify (f : S → S) : Exec S E Unit := fun state => .ok ((), f state)

@[simp] theorem pure_apply (value : α) (state : S) : (pure value : Exec S E α) state = .ok (value, state) := rfl

@[simp] theorem fault_apply (reason : E) (state : S) : (fault reason : Exec S E α) state = .error reason := rfl

@[simp] theorem get_apply (state : S) : (get : Exec S E S) state = .ok (state, state) := rfl

@[simp] theorem modify_apply (f : S → S) (state : S) : (modify f : Exec S E Unit) state = .ok ((), f state) := rfl

variable {next : α → Exec S E β} {state : S} {first : Exec S E α}

theorem bind_of_ok {state' : S} {value : α}
    (h : first state = .ok (value, state')) : (first >>= next) state = next value state' := by
  change Exec.bind first next state = _
  rw [Exec.bind, h]

theorem bind_of_error {reason : E} (h : first state = .error reason) : (first >>= next) state = .error reason := by
  change Exec.bind first next state = _
  rw [Exec.bind, h]

@[simp] theorem pure_bind_apply (value : α) (next : α → Exec S E β) (state : S) :
    ((pure value : Exec S E α) >>= next) state = next value state := rfl

/-- Two computations agree from a state if what they go on with does. -/
theorem bind_congr_of_ok {next' : α → Exec S E β}
    (h : ∀ value state', first state = .ok (value, state') → next value state' = next' value state') :
    (first >>= next) state = (first >>= next') state := by
  cases hfirst : first state with
  | error reason => rw [bind_of_error hfirst, bind_of_error hfirst]
  | ok answer => rw [bind_of_ok hfirst, bind_of_ok hfirst, h _ _ hfirst]

@[simp] theorem get_bind_apply (next : S → Exec S E β) (state : S) :
    ((get : Exec S E S) >>= next) state = next state state := rfl

@[simp] theorem modify_bind_apply (f : S → S) (next : Unit → Exec S E β) (state : S) :
    ((modify f : Exec S E Unit) >>= next) state = next () (f state) := rfl

theorem id_map_eq (computation : Exec S E α) : id <$> computation = computation := by
  funext state
  change Exec.bind computation _ state = _
  rw [Exec.bind]
  cases computation state <;> rfl

theorem bind_bind {γ : Type} (first : Exec S E α) (next : α → Exec S E β) (last : β → Exec S E γ) :
    first >>= next >>= last = first >>= fun value => next value >>= last := by
  funext state
  change Exec.bind (Exec.bind first next) last state = Exec.bind first _ state
  simp only [Exec.bind]
  cases first state <;> rfl

instance : LawfulMonad (Exec S E) := LawfulMonad.mk' _ id_map_eq (fun _ _ => rfl) bind_bind

theorem ok_inj {value value' : α} {state' : S} (h : (.ok (value, state) : Except E (α × S)) = .ok (value', state')) :
    value = value' ∧ state = state' :=
  Prod.mk.inj (Except.ok.inj h)

/-- A composed computation returns exactly when both of its parts do. -/
theorem bind_eq_ok {state'' : S} {result : β} : (first >>= next) state = .ok (result, state'') ↔
      ∃ value state', first state = .ok (value, state') ∧ next value state' = .ok (result, state'') := by
  cases h : first state with
  | error reason =>
      rw [bind_of_error h]
      simp
  | ok pair =>
      obtain ⟨value, state'⟩ := pair
      rw [bind_of_ok h]
      constructor
      · exact fun heq => ⟨value, state', rfl, heq⟩
      · rintro ⟨value', state'', hpair, heq⟩
        cases hpair
        exact heq

/-- Every outcome of the computation from `state` satisfies `post`. -/
def Ensures (computation : Exec S E α) (state : S) (post : α → S → Prop) : Prop :=
  ∀ value state', computation state = .ok (value, state') → post value state'

variable {post : α → S → Prop}

theorem Ensures.pure {value : α} (h : post value state) : Ensures (Pure.pure value : Exec S E α) state post := by
  intro value' state' heq
  rw [pure_apply] at heq
  cases heq
  exact h

theorem Ensures.bind {middle : α → S → Prop} {post : β → S → Prop} (hfirst : Ensures first state middle)
    (hnext : ∀ value state', middle value state' → Ensures (next value) state' post) :
    Ensures (first >>= next) state post := by
  intro result state'' heq
  obtain ⟨value, state', hvalue, hresult⟩ := bind_eq_ok.mp heq
  exact hnext value state' (hfirst value state' hvalue) result state'' hresult

variable {computation : Exec S E α}

theorem Ensures.mono {post' : α → S → Prop}
    (h : Ensures computation state post) (himp : ∀ value state', post value state' → post' value state') :
    Ensures computation state post' :=
  fun value state' heq => himp value state' (h value state' heq)

theorem Ensures.and {post' : α → S → Prop} (h : Ensures computation state post) (h' : Ensures computation state post') :
    Ensures computation state fun value state' => post value state' ∧ post' value state' :=
  fun value state' heq => ⟨h value state' heq, h' value state' heq⟩

theorem Ensures.fault (reason : E) : Ensures (Exec.fault reason : Exec S E α) state post := by
  intro value state' heq
  cases heq

theorem Ensures.modify {f : S → S} {post : Unit → S → Prop} (h : post () (f state)) :
    Ensures (Exec.modify f : Exec S E Unit) state post := by
  intro value state' heq
  cases heq
  exact h

variable {left right : Exec S E α}

theorem Ensures.ite {p : Prop} [Decidable p] (hleft : p → Ensures left state post) (hright : ¬p → Ensures right state post) :
    Ensures (if p then left else right) state post := by
  split
  case isTrue h => exact hleft h
  case isFalse h => exact hright h

/-- The computation has an outcome from `state`. -/
def Completes (computation : Exec S E α) (state : S) : Prop :=
  ∃ value state', computation state = .ok (value, state')

@[simp] theorem completes_pure (value : α) (state : S) : Completes (Pure.pure value : Exec S E α) state :=
  ⟨value, state, rfl⟩

@[simp] theorem not_completes_fault (reason : E) (state : S) : ¬Completes (Exec.fault reason : Exec S E α) state := by
  intro ⟨value, state', h⟩
  cases h

theorem completes_bind_iff : Completes (first >>= next) state ↔
      ∃ value state', first state = .ok (value, state') ∧ Completes (next value) state' := by
  constructor
  · intro ⟨result, state'', h⟩
    obtain ⟨value, state', hfirst, hnext⟩ := bind_eq_ok.mp h
    exact ⟨value, state', hfirst, result, state'', hnext⟩
  · intro ⟨value, state', hfirst, result, state'', hnext⟩
    exact ⟨result, state'', bind_eq_ok.mpr ⟨value, state', hfirst, hnext⟩⟩

/-- What has an outcome has one that satisfies what every outcome does. -/
theorem Completes.ensures (h : Completes computation state)
    (hpost : Ensures computation state post) : ∃ value state', computation state = .ok (value, state') ∧ post value state' := by
  obtain ⟨value, state', heq⟩ := h
  exact ⟨value, state', heq, hpost value state' heq⟩

/-- Every outcome of the computation satisfies the invariant if its start does. -/
def Preserves (inv : S → Prop) (computation : Exec S E α) : Prop :=
  ∀ state, inv state → Ensures computation state fun _ state' => inv state'

section Preserves

variable {inv : S → Prop}

theorem Preserves.pure (value : α) : Preserves inv (Pure.pure value : Exec S E α) :=
  fun _ h => Ensures.pure h

theorem Preserves.bind (hfirst : Preserves inv first)
    (hnext : ∀ value, Preserves inv (next value)) : Preserves inv (first >>= next) :=
  fun state h => (hfirst state h).bind fun value state' h' => hnext value state' h'

theorem Preserves.fault (reason : E) : Preserves inv (Exec.fault reason : Exec S E α) :=
  fun _ _ => Ensures.fault reason

theorem Preserves.get : Preserves inv (Exec.get : Exec S E S) := by
  intro state h value state' heq
  cases heq
  exact h

theorem Preserves.modify {f : S → S} (h : ∀ state, inv state → inv (f state)) :
    Preserves inv (Exec.modify f : Exec S E Unit) :=
  fun state hstate => Ensures.modify (h state hstate)

theorem Preserves.ite {p : Prop} [Decidable p] (hleft : Preserves inv left) (hright : Preserves inv right) :
    Preserves inv (if p then left else right) := by
  split
  · exact hleft
  · exact hright

end Preserves

/-- The computation leaves the observed part of the state as it was. -/
def Keeps {γ : Type} (observe : S → γ) (computation : Exec S E α) : Prop :=
  ∀ kept, Preserves (fun state => observe state = kept) computation

section Keeps

variable {γ : Type} {observe : S → γ}

theorem Keeps.pure (value : α) : Keeps observe (Pure.pure value : Exec S E α) :=
  fun _ => Preserves.pure value

theorem Keeps.bind (hfirst : Keeps observe first)
    (hnext : ∀ value, Keeps observe (next value)) : Keeps observe (first >>= next) :=
  fun kept => (hfirst kept).bind fun value => hnext value kept

theorem Keeps.fault (reason : E) : Keeps observe (Exec.fault reason : Exec S E α) :=
  fun _ => Preserves.fault reason

theorem Keeps.get : Keeps observe (Exec.get : Exec S E S) := fun _ => Preserves.get

theorem Keeps.modify {f : S → S} (h : ∀ state, observe (f state) = observe state) :
    Keeps observe (Exec.modify f : Exec S E Unit) :=
  fun _ => Preserves.modify fun state hstate => (h state).trans hstate

theorem Keeps.ite {p : Prop} [Decidable p] (hleft : Keeps observe left)
    (hright : Keeps observe right) : Keeps observe (if p then left else right) :=
  fun kept => (hleft kept).ite (hright kept)

/-- What a computation keeps is the same in the state it returns. -/
theorem Keeps.eq (h : Keeps observe computation) {state' : S} {value : α}
    (heq : computation state = .ok (value, state')) : observe state' = observe state :=
  h (observe state) state rfl value state' heq

end Keeps

/-- Every state the computation returns in is related to the one it started in. -/
def Within (related : S → S → Prop) (computation : Exec S E α) : Prop :=
  ∀ state, Ensures computation state fun _ state' => related state state'

section Within

variable {related : S → S → Prop}

theorem Within.pure (hrefl : ∀ state, related state state) (value : α) : Within related (Pure.pure value : Exec S E α) :=
  fun state => Ensures.pure (hrefl state)

theorem Within.fault (reason : E) : Within related (Exec.fault reason : Exec S E α) :=
  fun _ => Ensures.fault reason

theorem Within.get (hrefl : ∀ state, related state state) : Within related (Exec.get : Exec S E S) := by
  intro state value state' h
  cases h
  exact hrefl state

theorem Within.modify {f : S → S} (h : ∀ state, related state (f state)) : Within related (Exec.modify f : Exec S E Unit) :=
  fun state => Ensures.modify (h state)

theorem Within.bind (htrans : ∀ a b c : S, related a b → related b c → related a c)
    (hfirst : Within related first) (hnext : ∀ value, Within related (next value)) :
    Within related (first >>= next) :=
  fun state => (hfirst state).bind fun value state' h => (hnext value state').mono fun _ state'' h' =>
    htrans state state' state'' h h'

theorem Within.ite {p : Prop} [Decidable p] (hleft : p → Within related left)
    (hright : ¬p → Within related right) : Within related (if p then left else right) :=
  fun state => Ensures.ite (fun h => hleft h state) fun h => hright h state

/-- An invariant is a relation that carries it from one state to the next. -/
theorem preserves_iff_within {inv : S → Prop} :
    Preserves inv computation ↔ Within (fun state state' => inv state → inv state') computation :=
  ⟨fun h state value state' hrun hinv => h state hinv value state' hrun,
    fun h state hinv value state' hrun => h state value state' hrun hinv⟩

end Within

end Exec

end Base
