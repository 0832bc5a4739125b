import Gfal2.Base.Exec

/-! Computations that may throw. An exception ends a computation in the state in which it is thrown, and what
catches it goes on from there; a fault ends it for good. -/

namespace Base

/-- A computation over states `S` that returns a value or throws an `X`, unless it stops at a fault. -/
abbrev Throwing (S E X α : Type) : Type := ExceptT X (Exec S E) α

namespace Throwing

variable {S E X α β : Type} {handler : X → Throwing S E X α} {state state' : S} {next : α → Throwing S E X β}
  {body first : Throwing S E X α}

@[simp] theorem run_pure (value : α) (state : S) : (pure value : Throwing S E X α).run state = .ok (.ok value, state) := rfl

@[simp] theorem run_throw (e : X) (state : S) : (throw e : Throwing S E X α).run state = .ok (.error e, state) := rfl

theorem run_lift_of_ok {computation : Exec S E α} {value : α} (h : computation state = .ok (value, state')) :
    (liftM computation : Throwing S E X α).run state = .ok (.ok value, state') := by
  change (computation >>= fun value => (pure (Except.ok value) : Exec S E (Except X α))) state = _
  rw [Exec.bind_of_ok h]
  rfl

theorem run_bind_of_ok {value : α}
    (h : first.run state = .ok (.ok value, state')) : (first >>= next).run state = (next value).run state' := by
  rw [ExceptT.run_bind, Exec.bind_of_ok h]

theorem run_bind_of_throw {e : X}
    (h : first.run state = .ok (.error e, state')) : (first >>= next).run state = .ok (.error e, state') := by
  rw [ExceptT.run_bind, Exec.bind_of_ok h]
  rfl

theorem run_tryCatch (body : Throwing S E X α) (handler : X → Throwing S E X α) :
    (tryCatch body handler).run = body.run >>= fun
      | .ok value => pure (.ok value)
      | .error e => (handler e).run := by
  change ExceptT.tryCatch body handler = _
  unfold ExceptT.tryCatch ExceptT.mk
  congr 1

theorem run_catch_of_ok {value : α} (h : body.run state = .ok (.ok value, state')) :
    (tryCatch body handler).run state = .ok (.ok value, state') := by
  rw [run_tryCatch, Exec.bind_of_ok h]
  rfl

theorem run_catch_of_throw {e : X} (h : body.run state = .ok (.error e, state')) :
    (tryCatch body handler).run state = (handler e).run state' := by
  rw [run_tryCatch, Exec.bind_of_ok h]

/-- A composed computation ends as its first part does if that throws, and as its second part otherwise. -/
theorem run_bind_eq_ok {state'' : S} {outcome : Except X β} (h : (first >>= next).run state = .ok (outcome, state'')) :
    (∃ e, first.run state = .ok (.error e, state'') ∧ outcome = .error e) ∨
      ∃ value state', first.run state = .ok (.ok value, state') ∧ (next value).run state' = .ok (outcome, state'') := by
  rw [ExceptT.run_bind] at h
  obtain ⟨ended, state', hfirst, hnext⟩ := Exec.bind_eq_ok.mp h
  cases ended with
  | error e =>
      cases hnext
      exact .inl ⟨e, hfirst, rfl⟩
  | ok value => exact .inr ⟨value, state', hfirst, hnext⟩

theorem run_catch_eq_ok {state'' : S} {outcome : Except X α} (h : (tryCatch body handler).run state = .ok (outcome, state'')) :
    (∃ value, body.run state = .ok (.ok value, state'') ∧ outcome = .ok value) ∨
      ∃ e state', body.run state = .ok (.error e, state') ∧ (handler e).run state' = .ok (outcome, state'') := by
  rw [run_tryCatch] at h
  obtain ⟨ended, state', hbody, hnext⟩ := Exec.bind_eq_ok.mp h
  cases ended with
  | error e => exact .inr ⟨e, state', hbody, hnext⟩
  | ok value =>
      cases hnext
      exact .inl ⟨value, hbody, rfl⟩

/-! ### What holds between the state a computation starts in and the one it ends in, thrown or not -/

section Within

variable {related : S → S → Prop}

theorem within_pure (hrefl : ∀ state, related state state) (value : α) :
    Exec.Within related (pure value : Throwing S E X α).run :=
  Exec.Within.pure hrefl _

theorem within_throw (hrefl : ∀ state, related state state) (e : X) : Exec.Within related (throw e : Throwing S E X α).run :=
  Exec.Within.pure hrefl _

section Lifted

variable (htrans : ∀ a b c : S, related a b → related b c → related a c)
include htrans

theorem within_lift (hrefl : ∀ state, related state state) {computation : Exec S E α} (h : Exec.Within related computation) :
    Exec.Within related (liftM computation : Throwing S E X α).run :=
  h.bind htrans fun _ => Exec.Within.pure hrefl _

theorem within_bind (hfirst : Exec.Within related first.run)
    (hnext : ∀ value, Exec.Within related (next value).run) : Exec.Within related (first >>= next).run := by
  intro state outcome state'' h
  rcases run_bind_eq_ok h with ⟨e, hthrown, -⟩ | ⟨value, state', hvalue, hrest⟩
  · exact hfirst state _ _ hthrown
  · exact htrans _ _ _ (hfirst state _ _ hvalue) (hnext value _ _ _ hrest)

theorem within_tryCatch (hbody : Exec.Within related body.run)
    (hhandler : ∀ e, Exec.Within related (handler e).run) : Exec.Within related (tryCatch body handler).run := by
  intro state outcome state'' h
  rcases run_catch_eq_ok h with ⟨value, hvalue, -⟩ | ⟨e, state', hthrown, hrest⟩
  · exact hbody state _ _ hvalue
  · exact htrans _ _ _ (hbody state _ _ hthrown) (hhandler e _ _ _ hrest)

end Lifted

theorem within_ite {p : Prop} [Decidable p] {left right : Throwing S E X α} (hleft : p → Exec.Within related left.run)
    (hright : ¬p → Exec.Within related right.run) : Exec.Within related (if p then left else right).run := by
  split
  case isTrue h => exact hleft h
  case isFalse h => exact hright h

end Within

end Throwing

end Base
