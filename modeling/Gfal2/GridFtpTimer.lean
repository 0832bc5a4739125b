import Gfal2.GridFtpRequests

/-! The timer of a GridFTP copy in every interleaving of markers, clock and timer. It expires exactly when as much time as its value
says has gone by since it was started or a marker with throughput came. Markers without throughput do not put it off, not even where
the source has been sent as a whole: the copy tells it no size. -/

namespace Gfal2

open Base

namespace GridFtpRequestState

/-- The step starts the timer or puts it off. -/
def Arms (s : GridFtpRequestState) : RequestAction → Prop
  | .startTimer timeoutValue => 0 < timeoutValue
  | .marker _ moves => s.handler.pc = .sleeping ∧ moves = true
  | _ => False

/-- The time that goes by. -/
def elapsed : List RequestAction → Nat
  | [] => 0
  | .tick seconds :: actions => seconds + elapsed actions
  | _ :: actions => elapsed actions

/-- What holds of the timer of a copy. -/
structure TimerSet (s : GridFtpRequestState) : Prop where
  now : 0 ≤ s.now
  unsized : s.handler.sourceSize = 0
  set : s.handler.pc ≠ .off → 0 < s.handler.timeoutValue ∧ 0 < s.handler.timeoutTime

variable {s s' : GridFtpRequestState} {action : RequestAction}

/-- A marker of a copy counts by its throughput alone. -/
theorem TimerSet.marker_eq (h : TimerSet s) (hon : s.handler.pc ≠ .off) (totalBytes : Nat) (moves : Bool) :
    s.handler.marker s.now totalBytes moves =
      if moves then { s.handler with timeoutTime := s.now + s.handler.timeoutValue } else s.handler := by
  obtain ⟨hvalue, htime⟩ := h.set hon
  cases moves with
  | true => simp [CallbackHandler.marker, hvalue, htime]
  | false => simp [CallbackHandler.marker, h.unsized]

theorem destroy_timer (s : GridFtpRequestState) (owes : Bool) :
    (s.effect (.destroy owes)).handler = s.handler ∧ (s.effect (.destroy owes)).now = s.now := by
  simp only [effect]
  split <;> exact ⟨rfl, rfl⟩

theorem TimerSet.step (h : TimerSet s) (henabled : s.Enabled action) : TimerSet (s.effect action) := by
  have hnow := h.now
  cases action with
  | startTimer timeoutValue =>
      simp only [effect, gridftpDoCopyHandler, CallbackHandler.new]
      split
      · refine ⟨hnow, rfl, ?_⟩
        intro _
        constructor <;> simp only [] <;> omega
      · exact ⟨hnow, rfl, fun hoff => absurd rfl hoff⟩
  | marker totalBytes moves =>
      have hon : s.handler.pc ≠ .off := henabled
      obtain ⟨hvalue, htime⟩ := h.set hon
      rw [effect, h.marker_eq hon]
      cases moves with
      | true =>
          refine ⟨hnow, h.unsized, ?_⟩
          intro _
          exact ⟨hvalue, by simp only [if_true]; omega⟩
      | false => exact h
  | tick seconds => exact ⟨by simp only [effect]; omega, h.unsized, h.set⟩
  | timerTest =>
      have hsleeping : s.handler.pc = .sleeping := henabled
      have hset := h.set (by simp [hsleeping])
      simp only [effect, CallbackHandler.test]
      split
      · exact h
      · exact ⟨hnow, h.unsized, fun _ => hset⟩
  | timerAbort owes =>
      have hexpired : s.handler.pc = .expired := henabled.1
      exact ⟨hnow, h.unsized, fun _ => h.set (by simp [hexpired])⟩
  | timerWrite =>
      have haborted : s.handler.pc = .aborted := henabled
      exact ⟨hnow, h.unsized, fun _ => h.set (by simp [haborted])⟩
  | stopTimer => exact ⟨hnow, rfl, fun hoff => absurd rfl hoff⟩
  | destroy owes =>
      obtain ⟨hhandler, htime⟩ := destroy_timer s owes
      exact ⟨by rw [htime]; exact hnow, by rw [hhandler]; exact h.unsized, by rw [hhandler]; exact h.set⟩
  | _ => exact ⟨h.now, h.unsized, h.set⟩

theorem timerSet_of_run {requestType : GridFtpRequestType} {actions : List RequestAction} {last : GridFtpRequestState}
    (hrun : Run requestStep (fun _ _ => True) (.new requestType) actions last) : TimerSet last := by
  have hnew : TimerSet (.new requestType) := ⟨Int.le_refl 0, rfl, fun hoff => absurd rfl hoff⟩
  apply request_invariant hrun ?_ hnew
  intro action s hset henabled _
  exact hset.step henabled

/-- A step that arms the timer sets it to its value from now on. -/
theorem TimerSet.armed (h : TimerSet s) (henabled : s.Enabled action) (harms : Arms s action) :
    (s.effect action).handler.timeoutTime = (s.effect action).now + (s.effect action).handler.timeoutValue := by
  cases action with
  | startTimer timeoutValue =>
      have hpositive : 0 < timeoutValue := harms
      simp only [effect, gridftpDoCopyHandler, CallbackHandler.new, if_pos hpositive]
  | marker totalBytes moves =>
      obtain ⟨_, rfl⟩ := harms
      simp only [effect, h.marker_eq henabled, if_true]
  | _ => exact absurd harms id

/-- What stands still since the timer was armed in a state. -/
structure Standstill (armed : GridFtpRequestState) (past : List RequestAction) (s : GridFtpRequestState) : Prop where
  set : TimerSet s
  time : s.handler.timeoutTime = armed.handler.timeoutTime
  now : s.now = armed.now + elapsed past

theorem elapsed_append (past : List RequestAction) (action : RequestAction) :
    elapsed (past ++ [action]) = elapsed past + elapsed [action] := by
  induction past with
  | nil => simp [elapsed]
  | cons first past ih =>
      cases first with
      | tick seconds =>
          simp only [List.cons_append, elapsed, ih]
          omega
      | _ => exact ih

theorem Standstill.step {armed : GridFtpRequestState} {past : List RequestAction} (h : Standstill armed past s)
    (henabled : s.Enabled action) (hstanding : Standing action s) : Standstill armed (past ++ [action]) (s.effect action) := by
  have hset := h.set.step henabled
  have htime := h.time
  have hnow := h.now
  refine ⟨hset, ?_, ?_⟩
  · cases action with
    | startTimer timeoutValue => exact absurd hstanding id
    | stopTimer => exact absurd hstanding id
    | marker totalBytes moves =>
        have hmoves : moves = false := hstanding
        rw [effect, h.set.marker_eq henabled, hmoves]
        exact htime
    | timerTest =>
        simp only [effect, CallbackHandler.test]
        split <;> exact htime
    | destroy owes => rw [(destroy_timer s owes).1, htime]
    | _ => exact htime
  · rw [elapsed_append]
    cases action with
    | tick seconds =>
        simp only [effect, elapsed]
        omega
    | destroy owes =>
        rw [(destroy_timer s owes).2]
        exact hnow
    | _ => exact hnow

theorem test_expired_iff {handler : CallbackHandler} (hpc : handler.pc = .sleeping) (now : Int) :
    (handler.test now).pc = .expired ↔ handler.timeoutTime ≤ now := by
  unfold CallbackHandler.test
  split
  · simp [hpc]
    omega
  · simp
    omega

/-- After the last step that armed it, the timer of a copy expires exactly when its value has gone by, however many bytes the
markers say are transferred. -/
theorem timer_expires_iff (requestType : GridFtpRequestType) (past actions : List RequestAction) (arming : RequestAction)
    (s armed last after : GridFtpRequestState) (hpast : Run requestStep (fun _ _ => True) (.new requestType) past s) (harms : Arms s arming) (harmed : requestStep arming s = some armed)
    (hrun : Run requestStep Standing armed actions last) (htest : requestStep .timerTest last = some after) :
    after.handler.pc = .expired ↔ armed.handler.timeoutValue ≤ elapsed actions := by
  obtain ⟨henabled, rfl⟩ := requestStep_eq_some.mp harmed
  obtain ⟨hsleeping, rfl⟩ := requestStep_eq_some.mp htest
  have hset := timerSet_of_run hpast
  have hfirst : Standstill (s.effect arming) [] (s.effect arming) := ⟨hset.step henabled, rfl, by simp [elapsed]⟩
  have h : Standstill (s.effect arming) actions last := by
    apply request_history hrun ?_ hfirst
    intro past action state hpast henabled hstanding
    exact hpast.step henabled hstanding
  have htime := h.time.trans (hset.armed henabled harms)
  calc
    (last.effect .timerTest).handler.pc = .expired ↔ last.handler.timeoutTime ≤ last.now := test_expired_iff hsleeping last.now
    _ ↔ (s.effect arming).handler.timeoutValue ≤ elapsed actions := by
      rw [htime, h.now]
      exact Int.add_le_add_iff_left _

/-- A copy whose bytes are all sent while the destination computes a checksum. -/
theorem timer_expires_during_checksum :
    ∃ s armed last after, Run requestStep (fun _ _ => True) (.new .gass) [.startTimer 180, .launch false true, .tick 60] s ∧
      requestStep (.marker 1000 true) s = some armed ∧
      Run requestStep Standing armed [.tick 100, .marker 1000 false, .tick 100] last ∧
      requestStep .timerTest last = some after ∧ after.handler.pc = .expired := by
  have hpast : ∃ s, runAll requestStep [.startTimer 180, .launch false true, .tick 60] (.new .gass) = some s ∧ Arms s (.marker 1000 true) := ⟨_, rfl, rfl, rfl⟩
  obtain ⟨s, hs, harms⟩ := hpast
  have hlast : ∃ armed last after, requestStep (.marker 1000 true) s = some armed ∧
      runAll (fun action s => if Standing action s then requestStep action s else none)
        [.tick 100, .marker 1000 false, .tick 100] armed = some last ∧
      requestStep .timerTest last = some after ∧ armed.handler.timeoutValue = 180 := by
    cases hs
    exact ⟨_, _, _, rfl, rfl, rfl, rfl⟩
  obtain ⟨armed, last, after, harmed, hrun, htest, hvalue⟩ := hlast
  have hpast := run_of_runAll hs
  have hrun := run_of_runAll_where hrun
  refine ⟨s, armed, last, after, hpast, harmed, hrun, htest, ?_⟩
  apply (timer_expires_iff .gass _ _ (.marker 1000 true) s armed last after hpast harms harmed hrun htest).mpr
  rw [hvalue]
  decide

end GridFtpRequestState

end Gfal2
