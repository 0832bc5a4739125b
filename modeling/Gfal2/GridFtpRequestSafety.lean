import Gfal2.GridFtpRequests

/-! What the waits of a GridFTP request end with in every interleaving of its parties. A wait that returns has seen a callback finish
an operation and no party leave an error, and no call of `gfal2_cancel` has reached the request; every other end has its
cause among the steps taken. -/

namespace Gfal2

open Base

/-- The step leaves an error in the request. -/
def RequestAction.writes : RequestAction → Bool
  | .callbackEnter error => error.isSome
  | .ownWrite | .hookWrite | .timerWrite => true
  | _ => false

namespace GridFtpRequestState

/-- One of the steps taken from the first state on has left the error in the request. -/
def Caused (first : GridFtpRequestState) (actions : List RequestAction) (error : GError) : Prop :=
  ∃ before action after s, actions = before ++ action :: after ∧ Run requestStep (fun _ _ => True) first before s ∧
    s.Enabled action ∧ action.writes = true ∧ (s.effect action).error = some error

/-- A callback has set `done`, and no stream has reset it since. -/
def Finished (actions : List RequestAction) : Prop :=
  ∃ before readsOn after, actions = before ++ .callbackLeave true readsOn :: after ∧ ∀ accepted, .launch true accepted ∉ after

/-- What the steps taken so far tell of the state. -/
structure RequestHistory (first : GridFtpRequestState) (past : List RequestAction) (s : GridFtpRequestState) : Prop where
  ran : Run requestStep (fun _ _ => True) first past s
  silent : s.pc ≠ .destroyed → (s.error = none ↔ ∀ action ∈ past, action.writes = false)
  caused : s.pc ≠ .destroyed → ∀ error, s.error = some error → Caused first past error
  reached : ∀ owes, .hookAbort owes ∈ past → s.inHook = true ∨ s.error ≠ none
  hooked : s.inHook = true → s.pc.hasHook = true
  finished : s.done = true → Finished past
  left : s.pc = .left false ∨ s.pc = .removed false → s.done = true

section Histories

variable {past : List RequestAction} {first s : GridFtpRequestState} {action : RequestAction} {error : GError}

theorem Caused.append (h : Caused first past error) (action : RequestAction) : Caused first (past ++ [action]) error := by
  obtain ⟨before, writing, after, s, rfl, hrun, henabled, hwrites, herror⟩ := h
  exact ⟨before, writing, after ++ [action], s, by simp, hrun, henabled, hwrites, herror⟩

theorem Finished.append (h : Finished past) (haction : ∀ accepted, action ≠ .launch true accepted) :
    Finished (past ++ [action]) := by
  obtain ⟨before, readsOn, after, rfl, hafter⟩ := h
  refine ⟨before, readsOn, after ++ [action], by simp, ?_⟩
  intro accepted hmem
  rcases List.mem_append.mp hmem with hmem | hmem
  · exact hafter accepted hmem
  · exact haction accepted (List.mem_singleton.mp hmem).symm

theorem finished_callback (past : List RequestAction) (readsOn : Bool) : Finished (past ++ [.callbackLeave true readsOn]) :=
  ⟨past, readsOn, [], rfl, by simp⟩

/-- A step that leaves no error keeps the one there is. -/
theorem error_of_silent (haction : action.writes = false) (hpc : (s.effect action).pc ≠ .destroyed) :
    (s.effect action).error = s.error := by
  cases action with
  | callbackEnter error =>
      cases error with
      | none => rfl
      | some error => cases haction
  | ownWrite | hookWrite | timerWrite => cases haction
  | destroy owes =>
      refine absurd ?_ hpc
      simp only [effect]
      split <;> rfl
  | _ => rfl

theorem error_of_writes (haction : action.writes = true) : ∃ error, (s.effect action).error = some error := by
  cases action with
  | callbackEnter error =>
      cases error with
      | none => cases haction
      | some error => exact ⟨_, rfl⟩
  | ownWrite | hookWrite | timerWrite => exact ⟨_, rfl⟩
  | _ => cases haction

/-- An error is never taken away. -/
theorem error_isSome_step (h : s.error ≠ none) : (s.effect action).error ≠ none := by
  cases action with
  | callbackEnter error =>
      cases error with
      | none => exact h
      | some error => exact Option.some_ne_none _
  | ownWrite | hookWrite | timerWrite => exact Option.some_ne_none _
  | destroy owes =>
      simp only [effect]
      split
      · exact h
      · exact Option.some_ne_none _
  | _ => exact h

theorem pc_ne_destroyed_before (henabled : s.Enabled action) (hpc : (s.effect action).pc ≠ .destroyed) :
    s.pc ≠ .destroyed := by
  intro hdestroyed
  apply hpc
  cases action <;> simp_all [Enabled, effect, WaitPc.isOutside, WaitPc.hasHook,
    abort]

/-- Only the removal of the hook ends its registration. -/
theorem hasHook_step (hhook : s.pc.hasHook = true) (henabled : s.Enabled action)
    (haction : ∀ timedOut, action ≠ .removeHook timedOut) : (s.effect action).pc.hasHook = true := by
  have houtside : s.pc.isOutside ≠ true := by
    intro houtside
    cases hpc : s.pc <;> simp_all [WaitPc.hasHook, WaitPc.isOutside]
  have hat {pc : WaitPc} (hpc : pc.hasHook = false) : s.pc ≠ pc := by
    rintro rfl
    rw [hpc] at hhook
    cases hhook
  cases action with
  | launch resetsDone accepted | enter scope => exact absurd henabled houtside
  | destroy owes => exact absurd henabled.1 houtside
  | registerHook => rfl
  | test again =>
      cases again with
      | false =>
          simp only [effect, tested]
          split <;> rfl
      | true => exact absurd henabled.1 (hat rfl)
  | wake again =>
      cases again with
      | false => rfl
      | true => exact absurd henabled (hat rfl)
  | expire again =>
      cases again with
      | false => rfl
      | true => exact absurd henabled.1 (hat rfl)
  | removeHook timedOut => exact absurd rfl (haction timedOut)
  | check | ownWrite => exact absurd henabled (hat rfl)
  | ownAbort owes => exact absurd henabled.1 (hat rfl)
  | _ => exact hhook

theorem inHook_effect (habort : ∀ owes, action ≠ .hookAbort owes) (hwrite : action ≠ .hookWrite) :
    (s.effect action).inHook = s.inHook := by
  cases action with
  | hookAbort owes => exact absurd rfl (habort owes)
  | hookWrite => exact absurd rfl hwrite
  | destroy owes =>
      simp only [effect]
      split <;> rfl
  | _ => rfl

/-- The hook stays registered while `gfal2_cancel` is in it, since its removal waits for the mutex of the context. -/
theorem hooked_step (h : s.inHook = true → s.pc.hasHook = true) (henabled : s.Enabled action)
    (hhook : (s.effect action).inHook = true) : (s.effect action).pc.hasHook = true := by
  by_cases habort : ∃ owes, action = .hookAbort owes
  · obtain ⟨owes, rfl⟩ := habort
    exact henabled.1
  · by_cases hwrite : action = .hookWrite
    · subst hwrite
      cases hhook
    · rw [inHook_effect (not_exists.mp habort) hwrite] at hhook
      refine hasHook_step (h hhook) henabled ?_
      rintro timedOut rfl
      rw [henabled.2] at hhook
      cases hhook

theorem reached_step (h : s.inHook = true ∨ s.error ≠ none) :
    (s.effect action).inHook = true ∨ (s.effect action).error ≠ none := by
  rcases h with h | h
  · by_cases hwrite : action = .hookWrite
    · subst hwrite
      exact .inr (Option.some_ne_none _)
    · by_cases habort : ∃ owes, action = .hookAbort owes
      · obtain ⟨owes, rfl⟩ := habort
        exact .inl rfl
      · rw [inHook_effect (not_exists.mp habort) hwrite]
        exact .inl h
  · exact .inr (error_isSome_step h)

/-- The operation is done after a step if a callback sets this, or it was before. -/
theorem done_before (hdone : (s.effect action).done = true) :
    (∃ readsOn, action = .callbackLeave true readsOn) ∨ s.done = true ∧ ∀ accepted, action ≠ .launch true accepted := by
  cases action with
  | callbackLeave finished readsOn =>
      cases finished with
      | true => exact .inl ⟨readsOn, rfl⟩
      | false =>
          rw [effect, Bool.or_false] at hdone
          exact .inr ⟨hdone, by simp⟩
  | launch resetsDone accepted =>
      simp only [effect, Bool.and_eq_true, Bool.not_eq_true'] at hdone
      exact .inr ⟨hdone.1, by simp [hdone.2]⟩
  | destroy owes =>
      simp only [effect] at hdone
      split at hdone
      · exact .inr ⟨hdone, by simp⟩
      · exact .inr ⟨hdone, by simp⟩
  | _ => exact .inr ⟨hdone, by simp⟩

theorem finished_step (h : s.done = true → Finished past) (hdone : (s.effect action).done = true) : Finished (past ++ [action]) := by
  rcases done_before hdone with ⟨readsOn, rfl⟩ | ⟨hbefore, haction⟩
  · exact finished_callback past readsOn
  · exact (h hbefore).append haction

/-- Past the first loop of `callback_cond_wait` without a timeout the operation is done. -/
theorem left_step (h : s.pc = .left false ∨ s.pc = .removed false → s.done = true) (henabled : s.Enabled action)
    (hpc : (s.effect action).pc = .left false ∨ (s.effect action).pc = .removed false) : (s.effect action).done = true := by
  cases action with
  | test again =>
      simp only [effect, tested] at hpc ⊢
      by_cases hdone : s.done = true
      · exact hdone
      · simp [hdone] at hpc
  | expire again => cases again <;> simp [effect, expired] at hpc
  | removeHook timedOut =>
      simp only [effect, reduceCtorEq, WaitPc.removed.injEq, false_or] at hpc
      subst hpc
      exact h (.inl henabled.1)
  | launch resetsDone accepted =>
      simp only [effect] at hpc
      cases accepted with
      | true => simp at hpc
      | false =>
          have houtside : s.pc.isOutside = true := henabled
          rw [if_neg Bool.false_ne_true] at hpc
          rcases hpc with hpc | hpc
          · rw [hpc] at houtside
            cases houtside
          · rw [hpc] at houtside
            cases houtside
  | destroy owes =>
      simp only [effect] at hpc
      split at hpc <;> simp at hpc
  | enter scope | registerHook | wake again | check | ownAbort owes | ownWrite => simp [effect] at hpc
  | callbackLeave finished readsOn =>
      rw [effect, h hpc, Bool.true_or]
  | _ => exact h hpc

theorem RequestHistory.step (h : RequestHistory first past s) (henabled : s.Enabled action) :
    RequestHistory first (past ++ [action]) (s.effect action) where
  ran := h.ran.append (.cons trivial (requestStep_eq_some.mpr ⟨henabled, rfl⟩) (.nil _))
  silent hpc := by
    have hbefore := h.silent (pc_ne_destroyed_before henabled hpc)
    cases haction : action.writes with
    | false =>
        rw [error_of_silent haction hpc, hbefore]
        simp [or_imp, forall_and, haction]
    | true =>
        obtain ⟨error, herror⟩ := error_of_writes (s := s) haction
        rw [herror]
        simp only [reduceCtorEq, false_iff]
        intro hall
        rw [hall action (List.mem_append_right _ (List.mem_singleton_self action))] at haction
        cases haction
  caused hpc error herror := by
    cases haction : action.writes with
    | false =>
        rw [error_of_silent haction hpc] at herror
        exact (h.caused (pc_ne_destroyed_before henabled hpc) error herror).append action
    | true => exact ⟨past, action, [], s, rfl, h.ran, henabled, haction, herror⟩
  reached owes hmem := by
    rcases List.mem_append.mp hmem with hmem | hmem
    · exact reached_step (h.reached owes hmem)
    · rw [← List.mem_singleton.mp hmem]
      exact .inl rfl
  hooked := hooked_step h.hooked henabled
  finished := finished_step h.finished
  left := left_step h.left henabled

theorem requestHistory_new (requestType : GridFtpRequestType) : RequestHistory (.new requestType) [] (.new requestType) where
  ran := .nil _
  silent _ := by simp [new]
  caused _ error herror := by cases herror
  reached owes hmem := by cases hmem
  hooked hhook := by cases hhook
  finished hdone := by cases hdone
  left hpc := by simp [new] at hpc

theorem requestHistory_of_run {allowed : RequestAction → GridFtpRequestState → Prop} {requestType : GridFtpRequestType}
    {actions : List RequestAction} {last : GridFtpRequestState} (hrun : Run requestStep allowed (.new requestType) actions last) :
    RequestHistory (.new requestType) actions last := by
  apply request_history hrun ?_ (requestHistory_new requestType)
  intro past action s hpast henabled _
  exact hpast.step henabled

end Histories

/-- How a wait ends that no timeout ends, after the steps taken since the construction of its request. -/
structure WaitEnds (requestType : GridFtpRequestType) (actions : List RequestAction) (scope : GQuark) (result : Except GError Unit) :
    Prop where
  /-- A callback has finished an operation of the request, whatever the wait ends with. -/
  finished : Finished actions
  returns : result = .ok () ↔ ∀ action ∈ actions, action.writes = false
  /-- No call of `gfal2_cancel` has reached the request of a wait that returns. -/
  uncanceled : result = .ok () → ∀ owes, .hookAbort owes ∉ actions
  throws : ∀ error, result = .error error → ∃ cause, Caused (.new requestType) actions cause ∧ error = waitError scope cause

theorem waitResult_eq_ok_iff (scope : GQuark) (error : Option GError) : waitResult scope error = .ok () ↔ error = none := by
  cases error with
  | none => simp [waitResult]
  | some error => simp [waitResult]

/-- In every interleaving of the thread that waits, the callbacks, the calls of `gfal2_cancel` and the timer, the wait ends with
what the parties have left in the request. -/
theorem wait_ends (requestType : GridFtpRequestType) (actions : List RequestAction) (s last : GridFtpRequestState)
    (hrun : Run requestStep (fun _ _ => True) (.new requestType) actions s) (hcheck : requestStep .check s = some last) :
    ∃ result, last.pc = .outside (some result) ∧ WaitEnds requestType actions s.scope result := by
  have h := requestHistory_of_run hrun
  obtain ⟨hpc, rfl⟩ := requestStep_eq_some.mp hcheck
  have hpc : s.pc = .removed false := hpc
  have halive : s.pc ≠ .destroyed := by simp [hpc]
  refine ⟨waitResult s.scope s.error, rfl, ?_⟩
  constructor
  · exact h.finished (h.left (.inr hpc))
  · rw [waitResult_eq_ok_iff]
    exact h.silent halive
  · intro hok owes hmem
    rw [waitResult_eq_ok_iff] at hok
    -- The hook is removed, so no call of `gfal2_cancel` is in it any more.
    rcases h.reached owes hmem with hhook | herror
    · have hregistered := h.hooked hhook
      rw [hpc] at hregistered
      cases hregistered
    · exact herror hok
  · intro error herror
    cases hleft : s.error with
    | none => simp [hleft, waitResult] at herror
    | some cause =>
        rw [hleft, waitResult, Except.error.injEq] at herror
        exact ⟨cause, h.caused halive cause hleft, herror.symm⟩

/-- A call of `gfal2_cancel` that the callback of Globus overtakes. -/
def canceledWait : List RequestAction :=
  [.launch false true, .enter (lit "GridFTPModule::unlink"), .registerHook, .test false, .hookAbort false, .callbackEnter none,
    .callbackLeave true false, .wake false, .test false, .hookWrite, .removeHook false]

theorem wait_ends_canceled :
    ∃ s last, Run requestStep (fun _ _ => True) (.new .ftp) canceledWait s ∧ requestStep .check s = some last ∧
      ∃ result, last.pc = .outside (some result) ∧ WaitEnds .ftp canceledWait s.scope result := by
  obtain ⟨s, hs⟩ : ∃ s, runAll requestStep canceledWait (.new .ftp) = some s := ⟨_, rfl⟩
  obtain ⟨last, hlast⟩ : ∃ last, requestStep .check s = some last := by
    cases hs
    exact ⟨_, rfl⟩
  exact ⟨s, last, run_of_runAll hs, hlast, wait_ends .ftp canceledWait s last (run_of_runAll hs) hlast⟩

end GridFtpRequestState

end Gfal2
