import Gfal2.Base.Runs
import Gfal2.Error

/-! A request of the GridFTP plugin from its construction to its destruction. The thread that waits for it, the callbacks of Globus,
the calls of `gfal2_cancel` and the timer of a copy take their steps in any interleaving. The condition variable may wake the thread
for no reason, and its timeout may expire at any time. -/

namespace Gfal2

open Base

inductive GridFtpRequestType where
  | gass
  | ftp
  deriving DecidableEq

/-- Where the thread of a request is. -/
inductive WaitPc where
  /-- Not in `wait`, with the end of the wait there has been since the last operation was launched. -/
  | outside (result : Option (Except GError Unit))
  /-- In `wait`, the hook not registered yet. -/
  | entered
  /-- At the test of the loop in `callback_cond_wait`, which is called a second time after a timeout. -/
  | testing (again : Bool)
  /-- On the condition variable. -/
  | sleeping (again : Bool)
  /-- Out of the first loop, with `wait_ret = ETIMEDOUT` or not. -/
  | left (timedOut : Bool)
  /-- The hook is removed. -/
  | removed (timedOut : Bool)
  /-- The expired operation is aborted, its error not yet written. -/
  | aborted
  | destroyed
  deriving DecidableEq

/-- The hook of the request is registered. -/
def WaitPc.hasHook : WaitPc → Bool
  | .testing false | .sleeping false | .left _ => true
  | _ => false

def WaitPc.isOutside : WaitPc → Bool
  | .outside _ => true
  | _ => false

inductive TimerPc where
  | off
  | sleeping
  | expired
  | aborted
  | ended
  deriving DecidableEq

/-- The timer of a copy that its performance markers arm again. -/
structure CallbackHandler where
  pc : TimerPc := .off
  timeoutValue : Int := 0
  timeoutTime : Int := 0
  sourceSize : Nat := 0

/-- The fields of `GridFTPRequestState`, and where the parties are. `owed` counts the callbacks that Globus still has to make;
`inCallback` says that one has the mutex of the request, `inHook` that `gfal2_cancel` is in the hook of the request. -/
structure GridFtpRequestState where
  requestType : GridFtpRequestType
  error : Option GError := none
  done : Bool := false
  scope : GQuark := []
  pc : WaitPc := .outside none
  owed : Nat := 0
  inCallback : Bool := false
  inHook : Bool := false
  handler : CallbackHandler := {}
  now : Int := 0

/-- One step of one party. Where a step aborts an operation, `owes` says that Globus will make a callback for this; it is given one
to make by a GASS copy only. -/
inductive RequestAction where
  /-- An operation is registered, by a stream that resets `done` or without this, and accepted or not. -/
  | launch (resetsDone accepted : Bool)
  /-- `wait` is called. -/
  | enter (scope : GQuark)
  | registerHook
  | test (again : Bool)
  | wake (again : Bool)
  | expire (again : Bool)
  | removeHook (timedOut : Bool)
  | check
  | ownAbort (owes : Bool)
  | ownWrite
  | destroy (owes : Bool)
  /-- A callback takes the mutex, with the error it is given. -/
  | callbackEnter (error : Option (Int × CString))
  /-- It releases the mutex, with or without `done`; in place of it, a stream is read on. -/
  | callbackLeave (finished readsOn : Bool)
  | hookAbort (owes : Bool)
  | hookWrite
  | startTimer (timeoutValue : Int)
  /-- `gsiftp_3rd_callback` -/
  | marker (totalBytes : Nat) (moves : Bool)
  | tick (seconds : Nat)
  | timerTest
  | timerAbort (owes : Bool)
  | timerWrite
  | stopTimer
  deriving DecidableEq

abbrev globusDoneScope : GQuark := lit "GridFTPModule::Done"

/-- What `gridftp_cancel` leaves as the error. -/
def canceledError : GError := ⟨gfalCancelQuark, ECANCELED, lit "Operation canceled from gfal2_cancel"⟩

/-- What the timer leaves as the error. -/
def performanceError (timeoutValue : Int) : GError :=
  ⟨lit "GridFTPFileCopyModule::FileCopy", ETIMEDOUT,
    lit "Transfer canceled because the gsiftp performance marker timeout of " ++ (toString timeoutValue).toList ++
      lit " seconds has been exceeded, or all performance markers during that period indicated zero bytes transferred"⟩

/-- What the destructor leaves as the error of a request that is not done. -/
def destructorError : GError :=
  ⟨lit "GridFTPModule::RequestState", ECANCELED, lit "GridFTPRequestState destructor called before the operation finished!"⟩

def callbackError (error : Int × CString) : GError := ⟨globusDoneScope, error.1, error.2.take 2047⟩

/-- What `wait` throws of an error: a quark is never 0. -/
def waitError (scope : GQuark) (error : GError) : GError := ⟨scope, error.code, error.message⟩

def waitTimeout (scope : GQuark) : GError := ⟨scope, ETIMEDOUT, lit "Operation timed out"⟩

/-- How `wait` ends that has not expired. -/
def waitResult (scope : GQuark) : Option GError → Except GError Unit
  | none => .ok ()
  | some error => .error (waitError scope error)

namespace CallbackHandler

/-- A new handler; there is no timer thread without a positive timeout. -/
def new (now timeoutValue : Int) (sourceSize : Nat) : CallbackHandler :=
  if 0 < timeoutValue then ⟨.sleeping, timeoutValue, now + timeoutValue, sourceSize⟩ else ⟨.off, timeoutValue, 0, sourceSize⟩

/-- `gsiftp_3rd_callback` as far as the timer goes; `moves` says that the throughput is not 0. -/
def marker (handler : CallbackHandler) (now : Int) (totalBytes : Nat) (moves : Bool) : CallbackHandler :=
  if 0 < handler.timeoutTime then
    if moves || 0 < handler.sourceSize && handler.sourceSize ≤ totalBytes then
      if 0 < handler.timeoutValue then { handler with timeoutTime := now + handler.timeoutValue } else handler
    else handler
  else handler

/-- One test of the loop in `func_timer`. -/
def test (handler : CallbackHandler) (now : Int) : CallbackHandler :=
  if now < handler.timeoutTime then handler else { handler with pc := .expired }

end CallbackHandler

/-- The handler of `gridftp_do_copy`, to which it tells 0 as the size of the source. -/
def gridftpDoCopyHandler (now timeoutValue : Int) : CallbackHandler := .new now timeoutValue 0

namespace GridFtpRequestState

def new (requestType : GridFtpRequestType) : GridFtpRequestState := { requestType := requestType }

def abort (s : GridFtpRequestState) (owes : Bool) : GridFtpRequestState := { s with owed := s.owed + owes.toNat }

/-- Only a GASS copy gives Globus a callback to make for an abort. -/
def MayOwe (s : GridFtpRequestState) (owes : Bool) : Prop := owes = true → s.requestType = .gass

instance decidableMayOwe (s : GridFtpRequestState) (owes : Bool) : Decidable (s.MayOwe owes) :=
  inferInstanceAs (Decidable (owes = true → s.requestType = .gass))

/-- The party of the step is where the step starts, and nobody else has the mutex it takes. -/
def Enabled (s : GridFtpRequestState) : RequestAction → Prop
  | .launch _ _ | .enter _ => s.pc.isOutside = true
  | .registerHook => s.pc = .entered ∧ s.inHook = false
  | .test again => s.pc = .testing again ∧ s.inCallback = false
  | .wake again => s.pc = .sleeping again
  | .expire again => s.pc = .sleeping again ∧ s.inCallback = false
  | .removeHook timedOut => s.pc = .left timedOut ∧ s.inHook = false
  | .check => s.pc = .removed false
  | .ownAbort owes => s.pc = .removed true ∧ s.MayOwe owes
  | .ownWrite => s.pc = .aborted
  | .destroy owes => s.pc.isOutside = true ∧ s.handler.pc = .off ∧ s.MayOwe owes
  | .callbackEnter _ => 0 < s.owed ∧ s.inCallback = false
  | .callbackLeave _ _ => s.inCallback = true
  | .hookAbort owes => s.pc.hasHook = true ∧ s.inHook = false ∧ s.MayOwe owes
  | .hookWrite => s.inHook = true
  | .startTimer _ => s.pc.isOutside = true ∧ s.handler.pc = .off
  | .marker _ _ => s.handler.pc ≠ .off
  | .tick _ => True
  | .timerTest => s.handler.pc = .sleeping
  | .timerAbort owes => s.handler.pc = .expired ∧ s.MayOwe owes
  | .timerWrite => s.handler.pc = .aborted
  | .stopTimer => s.pc.isOutside = true ∧ (s.handler.pc = .sleeping ∨ s.handler.pc = .ended)

instance decidableEnabled (s : GridFtpRequestState) (action : RequestAction) : Decidable (s.Enabled action) := by
  cases action <;> unfold Enabled <;> infer_instance

/-- Where the thread is after the test of a loop of `callback_cond_wait`. -/
def tested (s : GridFtpRequestState) (again : Bool) : WaitPc :=
  if s.done then if again then .outside (some (.error (waitTimeout s.scope))) else .left false else .sleeping again

/-- Where the thread is after the timeout of a loop of `callback_cond_wait`. -/
def expired (s : GridFtpRequestState) (again : Bool) : WaitPc :=
  if again then .outside (some (.error (waitTimeout s.scope))) else .left true

def effect (s : GridFtpRequestState) : RequestAction → GridFtpRequestState
  | .launch resetsDone accepted =>
      { s with
        done := s.done && !resetsDone
        owed := s.owed + accepted.toNat
        pc := if accepted then .outside none else s.pc }
  | .enter scope => { s with pc := .entered, scope := scope }
  | .registerHook => { s with pc := .testing false }
  | .test again => { s with pc := s.tested again }
  | .wake again => { s with pc := .testing again }
  | .expire again => { s with pc := s.expired again }
  | .removeHook timedOut => { s with pc := .removed timedOut }
  | .check => { s with pc := .outside (some (waitResult s.scope s.error)) }
  | .ownAbort owes => { s.abort owes with pc := .aborted }
  | .ownWrite => { s with error := some canceledError, pc := .testing true }
  | .destroy owes => if s.done then { s with pc := .destroyed } else { s.abort owes with error := some destructorError, pc := .destroyed }
  | .callbackEnter error => { s with error := (error.map callbackError).or s.error, inCallback := true }
  | .callbackLeave finished readsOn =>
      { s with
        done := s.done || finished
        owed := s.owed - 1 + (!finished && readsOn).toNat
        inCallback := false }
  | .hookAbort owes => { s.abort owes with inHook := true }
  | .hookWrite => { s with error := some canceledError, inHook := false }
  | .startTimer timeoutValue => { s with handler := gridftpDoCopyHandler s.now timeoutValue }
  | .marker totalBytes moves => { s with handler := s.handler.marker s.now totalBytes moves }
  | .tick seconds => { s with now := s.now + seconds }
  | .timerTest => { s with handler := s.handler.test s.now }
  | .timerAbort owes => { s.abort owes with handler := { s.handler with pc := .aborted } }
  | .timerWrite => { s with error := some (performanceError s.handler.timeoutValue), handler := { s.handler with pc := .ended } }
  | .stopTimer => { s with handler := {} }

end GridFtpRequestState

def requestStep (action : RequestAction) (s : GridFtpRequestState) : Option GridFtpRequestState :=
  if s.Enabled action then some (s.effect action) else none

theorem requestStep_eq_some {action : RequestAction} {s s' : GridFtpRequestState} :
    requestStep action s = some s' ↔ s.Enabled action ∧ s.effect action = s' := by
  unfold requestStep
  split <;> simp_all

/-! ### Conditions on runs -/

namespace GridFtpRequestState

/-- No launch resets `done`: the request of a copy, which no stream is. -/
def Unreset : RequestAction → GridFtpRequestState → Prop
  | .launch resetsDone _, _ => resetsDone = false
  | _, _ => True

instance decidableUnreset (action : RequestAction) (s : GridFtpRequestState) : Decidable (Unreset action s) := by
  cases action with
  | launch resetsDone accepted => exact inferInstanceAs (Decidable (resetsDone = false))
  | _ => exact isTrue trivial

/-- The markers that come have no throughput, and the timer is neither started nor stopped. -/
def Standing : RequestAction → GridFtpRequestState → Prop
  | .startTimer _, _ | .stopTimer, _ => False
  | .marker _ moves, _ => moves = false
  | _, _ => True

instance decidableStanding (action : RequestAction) (s : GridFtpRequestState) : Decidable (Standing action s) := by
  cases action with
  | startTimer timeoutValue => exact isFalse id
  | stopTimer => exact isFalse id
  | marker totalBytes moves => exact inferInstanceAs (Decidable (moves = false))
  | _ => exact isTrue trivial

end GridFtpRequestState

section Runs

variable {allowed : RequestAction → GridFtpRequestState → Prop} {first last : GridFtpRequestState} {actions : List RequestAction}

/-- What the effect of every allowed step keeps holds all along a run. -/
theorem request_invariant {inv : GridFtpRequestState → Prop} (hrun : Run requestStep allowed first actions last)
    (hkeep : ∀ action s, inv s → s.Enabled action → allowed action s → inv (s.effect action)) (hfirst : inv first) : inv last := by
  apply hrun.invariant inv ?_ hfirst
  intro action s s' hallowed hinv hstep
  obtain ⟨henabled, rfl⟩ := requestStep_eq_some.mp hstep
  exact hkeep action s hinv henabled hallowed

/-- The same for what is told of the steps taken so far and the state. -/
theorem request_history {holds : List RequestAction → GridFtpRequestState → Prop} (hrun : Run requestStep allowed first actions last)
    (hkeep : ∀ past action s, holds past s → s.Enabled action → allowed action s → holds (past ++ [action]) (s.effect action))
    (hfirst : holds [] first) : holds actions last := by
  apply Run.history holds ?_ hrun hfirst
  intro past action s s' hallowed hpast hstep
  obtain ⟨henabled, rfl⟩ := requestStep_eq_some.mp hstep
  exact hkeep past action s hpast henabled hallowed

end Runs

end Gfal2
