import Gfal2.GridFtpRequestSafety

/-! A GridFTP request that has failed. It is used once more for the retry of a copy without UDT, which fails again at once with the
first error, while the operation of the retry is under way. -/

namespace Gfal2

open Base

/-- Where the thread of a request can be that has failed before. -/
def WaitPc.stale : WaitPc → Bool
  | .outside none | .outside (some (.error _)) | .entered | .testing false | .left false | .removed false | .destroyed => true
  | _ => false

namespace GridFtpRequestState

section Retry

structure Stale (s : GridFtpRequestState) : Prop where
  done : s.done = true
  failed : s.error ≠ none
  pc : s.pc.stale = true

variable {s : GridFtpRequestState} {action : RequestAction}

/-- Only the launch of an operation takes back that the one before is done. -/
theorem done_kept (hlaunch : ∀ resetsDone accepted, action ≠ .launch resetsDone accepted) (hdone : s.done = true) :
    (s.effect action).done = true := by
  cases action with
  | launch resetsDone accepted => exact absurd rfl (hlaunch resetsDone accepted)
  | callbackLeave finished readsOn => rw [effect, hdone, Bool.true_or]
  | destroy owes => rw [effect, if_pos hdone, hdone]
  | _ => exact hdone

theorem Stale.pc_step (h : Stale s) (henabled : s.Enabled action) : (s.effect action).pc.stale = true := by
  have hnot {pc : WaitPc} (hpc : pc.stale = false) : s.pc ≠ pc := by
    intro hat
    have hstale := h.pc
    rw [hat, hpc] at hstale
    cases hstale
  cases action with
  | launch resetsDone accepted =>
      cases accepted with
      | true => rfl
      | false => exact h.pc
  | enter scope | registerHook => rfl
  | test again =>
      cases again with
      | false =>
          have hleft : s.tested false = .left false := if_pos h.done
          simp only [effect, hleft]
          rfl
      | true => exact absurd henabled.1 (hnot rfl)
  | wake again | ownWrite => exact absurd henabled (hnot rfl)
  | expire again | ownAbort owes => exact absurd henabled.1 (hnot rfl)
  | removeHook timedOut =>
      cases timedOut with
      | false => rfl
      | true => exact absurd henabled.1 (hnot rfl)
  | check =>
      cases herror : s.error with
      | none => exact absurd herror h.failed
      | some error =>
          simp only [effect, herror]
          rfl
  | destroy owes =>
      simp only [effect]
      split <;> rfl
  | _ => exact h.pc

theorem Stale.step (h : Stale s) (henabled : s.Enabled action) (hallowed : Unreset action s) : Stale (s.effect action) where
  done := by
    cases action with
    | launch resetsDone accepted =>
        have hreset : resetsDone = false := hallowed
        rw [hreset, effect, h.done]
        rfl
    | _ => exact done_kept (by simp) h.done
  failed := error_isSome_step h.failed
  pc := h.pc_step henabled

theorem Stale.of_run {actions : List RequestAction} {last : GridFtpRequestState} (h : Stale s)
    (hrun : Run requestStep Unreset s actions last) : Stale last := by
  apply request_invariant hrun ?_ h
  intro action s hstale henabled hallowed
  exact hstale.step henabled hallowed

/-- The steps of a retry from its launch to the destruction of the request. -/
def retry (scope : GQuark) : List RequestAction :=
  [.launch false true, .enter scope, .registerHook, .test false, .removeHook false, .check, .destroy false]

theorem Stale.run_retry (h : Stale s) (houtside : s.pc.isOutside = true) (hcalled : s.inCallback = false) (hhook : s.inHook = false)
    (htimer : s.handler.pc = .off) (scope : GQuark) :
    ∃ last, Run requestStep Unreset s (retry scope) last ∧ last.pc = .destroyed ∧ last.owed = s.owed + 1 := by
  obtain ⟨hdone, hfailed, hpc⟩ := h
  obtain ⟨requestType, error, done, scope', pc, owed, inCallback, inHook, ⟨timerPc, timeoutValue, timeoutTime, sourceSize⟩, now⟩ := s
  subst hdone hcalled hhook htimer
  cases pc with
  | outside result => exact ⟨_, run_of_runAll_where rfl, rfl, rfl⟩
  | _ => cases houtside

/-- A retry waits for nothing and throws, and the thread can go on to destroy the request with the operation of the retry under way. -/
structure RetryFails (s : GridFtpRequestState) : Prop where
  throws : ∀ actions last, Run requestStep Unreset s actions last →
    last.pc ≠ .outside (some (.ok ())) ∧ ∀ again, last.pc ≠ .sleeping again
  abandons : ∀ actions middle scope, Run requestStep Unreset s actions middle → middle.pc.isOutside = true →
    middle.inCallback = false → middle.handler.pc = .off →
      ∃ last, Run requestStep Unreset middle (retry scope) last ∧ last.pc = .destroyed ∧ last.owed = middle.owed + 1

/-- Once a copy has failed otherwise than by its timeout, its request serves no retry. -/
theorem retry_fails (actions : List RequestAction) (s first : GridFtpRequestState) (error : GError)
    (hrun : Run requestStep Unreset (.new .gass) actions s) (hcheck : requestStep .check s = some first)
    (hfailed : first.pc = .outside (some (.error error))) : RetryFails first := by
  have hfirst : Run requestStep Unreset (.new .gass) (actions ++ [.check]) first := hrun.append (.cons trivial hcheck (.nil first))
  have hstale : Stale first := by
    obtain ⟨hpc, rfl⟩ := requestStep_eq_some.mp hcheck
    refine ⟨(requestHistory_of_run hrun).left (.inr hpc), ?_, ?_⟩
    · intro hnone
      have hnone : s.error = none := hnone
      simp [effect, hnone, waitResult] at hfailed
    · rw [hfailed]
      rfl
  constructor
  · intro rest last hrest
    have hlast := (hstale.of_run hrest).pc
    constructor
    · intro hok
      rw [hok] at hlast
      cases hlast
    · intro again hsleeps
      rw [hsleeps] at hlast
      cases hlast
  · intro rest middle scope hrest houtside hcalled htimer
    have hhook : middle.inHook = false := by
      by_contra hhook
      have hregistered := (requestHistory_of_run (hfirst.append hrest)).hooked (Bool.eq_true_of_not_eq_false hhook)
      cases hpc : middle.pc <;> simp_all [WaitPc.isOutside, WaitPc.hasHook]
    exact (hstale.of_run hrest).run_retry houtside hcalled hhook htimer scope

/-- The copy that a server without the UDT driver refuses. -/
def refusedCopy : List RequestAction :=
  [.launch false true, .enter (lit "GridFTPFileCopyModule::FileCopy"), .registerHook, .test false,
    .callbackEnter (some (ECOMM, lit "udt driver not whitelisted")), .callbackLeave true false, .wake false, .test false,
    .removeHook false]

theorem retry_fails_without_udt :
    ∃ s first, Run requestStep Unreset (.new .gass) refusedCopy s ∧ requestStep .check s = some first ∧ RetryFails first := by
  obtain ⟨s, hs⟩ : ∃ s, runAll (fun action s => if Unreset action s then requestStep action s else none) refusedCopy (.new .gass) =
      some s := ⟨_, rfl⟩
  have hrun := run_of_runAll_where hs
  cases hs
  exact ⟨_, _, hrun, rfl, retry_fails _ _ _ _ hrun rfl rfl⟩

end Retry

end GridFtpRequestState

end Gfal2
