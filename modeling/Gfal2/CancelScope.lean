import Gfal2.Base.Runs
import Mathlib.Algebra.BigOperators.Group.Finset.Basic
import Mathlib.Algebra.Order.BigOperators.Group.Finset
import Mathlib.Data.Fintype.BigOperators

/-! Cancellation across threads. Scoped operations and calls of `gfal2_cancel` take their steps in any
interleaving; each access to the flag or to the count of operations is a step of its own, and the guard of
`gfal2_cancel` reads the flag before the mutex is taken. The count is that of the operations in scope in
every run. The flag stays set while a call waits as long as no call sets it while another has set it
and not reset it yet. -/

namespace Gfal2

open Base

/-- Where a thread is in `gfal2_cancel`. -/
inductive CancelPc where
  /-- Outside. -/
  | idle
  /-- Past the guard against recursive calls. -/
  | guarded
  /-- Holding the mutex. -/
  | locked
  /-- Holding the number of running operations. -/
  | counted
  /-- The flag is set, the hooks are being invoked. -/
  | flagged
  /-- The hooks have returned. -/
  | hooked
  /-- The mutex is released, the call waits for the running operations. -/
  | waiting
  /-- No operation was seen running. -/
  | observed
  deriving DecidableEq

def CancelPc.holdsMutex : CancelPc → Bool
  | .locked | .counted | .flagged | .hooked => true
  | .idle | .guarded | .waiting | .observed => false

/-- The call has set the flag and has not seen the count at zero yet. -/
def CancelPc.announces : CancelPc → Bool
  | .flagged | .hooked | .waiting => true
  | .idle | .guarded | .locked | .counted | .observed => false

/-- The call has set the flag and has not reset it yet. -/
def CancelPc.hasFlag (pc : CancelPc) : Bool := pc.announces || pc = .observed

/-- What follows in the call, the call being over after `observed`. -/
def CancelPc.next : CancelPc → CancelPc
  | .idle => .guarded
  | .guarded => .locked
  | .locked => .counted
  | .counted => .flagged
  | .flagged => .hooked
  | .hooked => .waiting
  | .waiting => .observed
  | .observed => .idle

/-- A thread: the operations it has in scope, whether it is between the check and the increment of another,
what its last check of the flag said, where it is in `gfal2_cancel`, and the count it will return. -/
structure ThreadState where
  scopes : Nat := 0
  starting : Bool := false
  sawCancel : Bool := false
  pc : CancelPc := .idle
  nCancel : Int := 0

/-- The fields of the context that the threads share, and the threads. -/
structure CancelState (T : Type) where
  cancel : Bool := false
  runningOps : Int := 0
  muxCancel : Option T := none
  threads : T → ThreadState := fun _ => {}

/-- One access of a thread to the shared fields. -/
inductive CancelAction (T : Type) where
  | checkFlag (t : T)
  | increment (t : T)
  | poll (t : T)
  | endScope (t : T)
  | guard (t : T)
  | lock (t : T)
  | count (t : T)
  | setFlag (t : T)
  | invokeHooks (t : T)
  | unlock (t : T)
  | observe (t : T)
  | reset (t : T)

section Model

variable {T : Type} [DecidableEq T]

def CancelState.withThread (s : CancelState T) (t : T) (thread : ThreadState) : CancelState T :=
  { s with threads := Function.update s.threads t thread }

/-- The step of a call of `gfal2_cancel` from one place to the next, with what it does to the shared fields. -/
def CancelState.advance (s : CancelState T) (t : T) (before : CancelPc)
    (effect : CancelState T → CancelState T) : Option (CancelState T) :=
  if (s.threads t).pc = before then
    some (effect (s.withThread t { s.threads t with pc := before.next }))
  else none

def cancelStep : CancelAction T → CancelState T → Option (CancelState T)
  -- `gfal2_start_scope_cancel`
  | .checkFlag t, s =>
      if (s.threads t).pc = .idle ∧ (s.threads t).starting = false then
        if s.cancel then some (s.withThread t { s.threads t with sawCancel := true })
        else some (s.withThread t { s.threads t with starting := true, sawCancel := false })
      else none
  | .increment t, s =>
      if (s.threads t).pc = .idle ∧ (s.threads t).starting = true then
        some { s.withThread t { s.threads t with starting := false, scopes := (s.threads t).scopes + 1 } with
          runningOps := s.runningOps + 1 }
      else none
  -- `gfal2_is_canceled`, in the scope of an operation
  | .poll t, s =>
      if (s.threads t).pc = .idle ∧ 0 < (s.threads t).scopes then
        some (s.withThread t { s.threads t with sawCancel := s.cancel })
      else none
  -- `gfal2_end_scope_cancel`
  | .endScope t, s =>
      if (s.threads t).pc = .idle ∧ 0 < (s.threads t).scopes then
        some { s.withThread t { s.threads t with scopes := (s.threads t).scopes - 1 } with
          runningOps := s.runningOps - 1 }
      else none
  -- `gfal2_cancel`, access by access
  | .guard t, s =>
      if (s.threads t).pc = .idle ∧ (s.threads t).starting = false then
        if s.cancel then some s else s.advance t .idle id
      else none
  | .lock t, s => if s.muxCancel = none then s.advance t .guarded ({ · with muxCancel := some t }) else none
  | .count t, s =>
      if (s.threads t).pc = .locked then
        some (s.withThread t { s.threads t with pc := .counted, nCancel := s.runningOps })
      else none
  | .setFlag t, s => s.advance t .counted ({ · with cancel := true })
  | .invokeHooks t, s => s.advance t .flagged id
  | .unlock t, s => s.advance t .hooked ({ · with muxCancel := none })
  | .observe t, s =>
      if (s.threads t).pc = .waiting ∧ s.runningOps > 0 then some s else s.advance t .waiting id
  | .reset t, s => s.advance t .observed ({ · with cancel := false })

/-- Every call that has set the flag and not seen the count at zero finds the flag set. -/
def CancelState.Announced (s : CancelState T) : Prop :=
  ∀ t, (s.threads t).pc.announces = true → s.cancel = true

/-- No call sets the flag while another has set it and not reset it yet. -/
def SetsAlone : CancelAction T → CancelState T → Prop
  | .setFlag _, s => ∀ u, (s.threads u).pc.hasFlag = false
  | _, _ => True

end Model

section Steps

variable {T : Type} [DecidableEq T] {s s' : CancelState T} {action : CancelAction T} {t u : T}

@[simp] theorem CancelState.withThread_cancel (thread : ThreadState) : (s.withThread t thread).cancel = s.cancel := rfl

@[simp] theorem CancelState.withThread_runningOps (thread : ThreadState) :
    (s.withThread t thread).runningOps = s.runningOps := rfl

@[simp] theorem CancelState.withThread_muxCancel (thread : ThreadState) :
    (s.withThread t thread).muxCancel = s.muxCancel := rfl

@[simp] theorem CancelState.withThread_threads (thread : ThreadState) :
    (s.withThread t thread).threads = Function.update s.threads t thread := rfl

/-- A step by which no call of `gfal2_cancel` makes progress: it is part of an operation of the thread, or it
changes nothing. -/
structure ScopeMoves (s : CancelState T) (t : T) (s' : CancelState T) : Prop where
  pc : (s'.threads t).pc = (s.threads t).pc
  others : ∀ u, u ≠ t → s'.threads u = s.threads u
  runningOps : s'.runningOps - s.runningOps = ((s'.threads t).scopes : Int) - (s.threads t).scopes
  cancel : s'.cancel = s.cancel
  muxCancel : s'.muxCancel = s.muxCancel

/-- A step by which the thread's call of `gfal2_cancel` makes progress. -/
structure CallMoves (action : CancelAction T) (s : CancelState T) (t : T) (s' : CancelState T) : Prop where
  pc : (s'.threads t).pc = (s.threads t).pc.next
  others : ∀ u, u ≠ t → s'.threads u = s.threads u
  scopes : (s'.threads t).scopes = (s.threads t).scopes
  runningOps : s'.runningOps = s.runningOps
  free : (s.threads t).pc = .guarded → s.muxCancel = none
  setFlag : (s.threads t).pc = .counted → action = .setFlag t
  cancel : s'.cancel =
    if (s.threads t).pc = .counted then true else if (s.threads t).pc = .observed then false else s.cancel
  muxCancel : s'.muxCancel =
    if (s.threads t).pc = .guarded then some t else if (s.threads t).pc = .hooked then none else s.muxCancel

omit [DecidableEq T] in
theorem scopeMoves_refl (s : CancelState T) (t : T) : ScopeMoves s t s :=
  ⟨rfl, fun _ _ => rfl, by omega, rfl, rfl⟩

theorem scopeMoves_withThread {thread : ThreadState} {runningOps : Int} (hpc : thread.pc = (s.threads t).pc)
    (hops : runningOps - s.runningOps = (thread.scopes : Int) - (s.threads t).scopes) :
    ScopeMoves s t { s.withThread t thread with runningOps := runningOps } := by
  refine ⟨?_, ?_, ?_, rfl, rfl⟩
  · simpa using hpc
  · intro u hu
    simp [hu]
  · simpa using hops

theorem advance_eq_some {before : CancelPc} {effect : CancelState T → CancelState T} : s.advance t before effect = some s' ↔
      (s.threads t).pc = before ∧ effect (s.withThread t { s.threads t with pc := before.next }) = s' := by
  simp [CancelState.advance]

/-- What a step can do. -/
theorem cancelStep_cases (hstep : cancelStep action s = some s') : ∃ t, ScopeMoves s t s' ∨ CallMoves action s t s' := by
  cases action with
  | checkFlag t =>
      refine ⟨t, .inl ?_⟩
      simp only [cancelStep] at hstep
      split at hstep
      · split at hstep
        · cases hstep
          exact scopeMoves_withThread rfl (by simp)
        · cases hstep
          exact scopeMoves_withThread rfl (by simp)
      · cases hstep
  | increment t =>
      refine ⟨t, .inl ?_⟩
      simp only [cancelStep] at hstep
      split at hstep
      · cases hstep
        exact scopeMoves_withThread rfl (by simp only; omega)
      · cases hstep
  | poll t =>
      refine ⟨t, .inl ?_⟩
      simp only [cancelStep] at hstep
      split at hstep
      · cases hstep
        exact scopeMoves_withThread rfl (by simp)
      · cases hstep
  | endScope t =>
      refine ⟨t, .inl ?_⟩
      simp only [cancelStep] at hstep
      split at hstep
      next hscope =>
        cases hstep
        exact scopeMoves_withThread rfl (by simp only; omega)
      · cases hstep
  | guard t =>
      simp only [cancelStep] at hstep
      split at hstep
      · split at hstep
        · cases hstep
          exact ⟨t, .inl (scopeMoves_refl s t)⟩
        · obtain ⟨hpc, rfl⟩ := advance_eq_some.mp hstep
          exact ⟨t, .inr (by constructor <;> simp +contextual [hpc])⟩
      · cases hstep
  | lock t =>
      simp only [cancelStep] at hstep
      split at hstep
      next hfree =>
        obtain ⟨hpc, rfl⟩ := advance_eq_some.mp hstep
        exact ⟨t, .inr (by constructor <;> simp +contextual [hpc, hfree])⟩
      · cases hstep
  | count t =>
      simp only [cancelStep] at hstep
      split at hstep
      next hpc =>
        cases hstep
        exact ⟨t, .inr (by constructor <;> simp +contextual [hpc, CancelPc.next])⟩
      · cases hstep
  | setFlag t | invokeHooks t | unlock t | reset t =>
      simp only [cancelStep, advance_eq_some] at hstep
      obtain ⟨hpc, rfl⟩ := hstep
      exact ⟨t, .inr (by constructor <;> simp +contextual [hpc])⟩
  | observe t =>
      simp only [cancelStep] at hstep
      split at hstep
      · cases hstep
        exact ⟨t, .inl (scopeMoves_refl s t)⟩
      · obtain ⟨hpc, rfl⟩ := advance_eq_some.mp hstep
        exact ⟨t, .inr (by constructor <;> simp +contextual [hpc])⟩

/-- The mutex is held by the call that is between locking and unlocking it. -/
def CancelState.Exclusive (s : CancelState T) : Prop :=
  ∀ t, (s.threads t).pc.holdsMutex = true → s.muxCancel = some t

/-- One call at a time has set the flag without resetting it, and the flag is set then. -/
structure CancelState.FlagOwned (s : CancelState T) : Prop where
  unique : ∀ t u, (s.threads t).pc.hasFlag = true → (s.threads u).pc.hasFlag = true → t = u
  isSet : ∀ t, (s.threads t).pc.hasFlag = true → s.cancel = true

theorem exclusive_step (hinv : s.Exclusive) (hstep : cancelStep action s = some s') : s'.Exclusive := by
  obtain ⟨t, hmoves | hmoves⟩ := cancelStep_cases hstep
  · intro u hu
    rw [hmoves.muxCancel]
    by_cases hut : u = t
    · subst hut
      exact hinv u (hmoves.pc ▸ hu)
    · exact hinv u (hmoves.others u hut ▸ hu)
  · intro u hu
    by_cases hut : u = t
    · subst hut
      have hown := hinv u
      rw [hmoves.pc] at hu
      rw [hmoves.muxCancel]
      cases hpc : (s.threads u).pc <;> simp_all [CancelPc.next, CancelPc.holdsMutex]
    · -- the mutex is another's: the thread neither takes it nor has it to give back
      have hother : s.muxCancel = some u := hinv u (hmoves.others u hut ▸ hu)
      have hnotMine : (s.threads t).pc.holdsMutex = false := by
        by_contra hmine
        exact hut (Option.some.inj (hother.symm.trans (hinv t (by simpa using hmine))))
      rw [hmoves.muxCancel, if_neg, if_neg, hother]
      · intro hpc
        simp [hpc, CancelPc.holdsMutex] at hnotMine
      · intro hpc
        exact absurd (hmoves.free hpc) (by simp [hother])

/-- A call has the flag after a step of another or its own if it had it before and did not reset it, or set it. -/
theorem hasFlag_before (hmoves : CallMoves action s t s') (hflag : (s'.threads u).pc.hasFlag = true) :
    (u = t ∧ (s.threads t).pc = .counted) ∨
      ((s.threads u).pc.hasFlag = true ∧ (u = t → (s.threads t).pc ≠ .observed)) := by
  by_cases hut : u = t
  · subst hut
    rw [hmoves.pc] at hflag
    cases hpc : (s.threads u).pc <;> simp_all [CancelPc.next, CancelPc.hasFlag, CancelPc.announces]
  · rw [hmoves.others u hut] at hflag
    exact .inr ⟨hflag, fun h => absurd h hut⟩

theorem flagOwned_step (hallowed : SetsAlone action s) (hinv : s.FlagOwned)
    (hstep : cancelStep action s = some s') : s'.FlagOwned := by
  obtain ⟨t, hmoves | hmoves⟩ := cancelStep_cases hstep
  · have hpc : ∀ u, (s'.threads u).pc = (s.threads u).pc := by
      intro u
      by_cases hut : u = t
      · rw [hut, hmoves.pc]
      · rw [hmoves.others u hut]
    constructor
    · intro u v hu hv
      exact hinv.unique u v (hpc u ▸ hu) (hpc v ▸ hv)
    · intro u hu
      rw [hmoves.cancel]
      exact hinv.isSet u (hpc u ▸ hu)
  · by_cases hcounted : (s.threads t).pc = .counted
    · -- the call sets the flag, and no other has it
      have hnone : ∀ u, (s.threads u).pc.hasFlag = false := by
        rw [hmoves.setFlag hcounted] at hallowed
        exact hallowed
      have honly : ∀ u, (s'.threads u).pc.hasFlag = true → u = t := by
        intro u hu
        rcases hasFlag_before hmoves hu with ⟨hut, _⟩ | ⟨hbefore, _⟩
        · exact hut
        · simp [hnone u] at hbefore
      constructor
      · intro u v hu hv
        exact (honly u hu).trans (honly v hv).symm
      · intro u _
        rw [hmoves.cancel, if_pos hcounted]
    · have hbefore : ∀ u, (s'.threads u).pc.hasFlag = true →
          (s.threads u).pc.hasFlag = true ∧ (u = t → (s.threads t).pc ≠ .observed) := by
        intro u hu
        exact (hasFlag_before hmoves hu).resolve_left fun h => hcounted h.2
      constructor
      · intro u v hu hv
        exact hinv.unique u v (hbefore u hu).1 (hbefore v hv).1
      · intro u hu
        obtain ⟨hflag, hnotReset⟩ := hbefore u hu
        rw [hmoves.cancel, if_neg hcounted, if_neg]
        · exact hinv.isSet u hflag
        · -- a call about to reset the flag would be the one that has it
          intro hobserved
          have hut : u = t := hinv.unique u t hflag (by simp [hobserved, CancelPc.hasFlag])
          exact hnotReset hut hobserved

omit [DecidableEq T] in
theorem announced_of_flagOwned (hinv : s.FlagOwned) : s.Announced := by
  intro t ht
  exact hinv.isSet t (by simp [CancelPc.hasFlag, ht])

theorem poll_sees (hannounced : s.Announced) (ht : (s.threads t).pc.announces = true)
    (hstep : cancelStep (.poll u) s = some s') : (s'.threads u).sawCancel = true := by
  simp only [cancelStep] at hstep
  split at hstep
  · cases hstep
    simpa using hannounced t ht
  · cases hstep

end Steps

section Counting

variable {T : Type} [DecidableEq T] [Fintype T] {s s' : CancelState T} {action : CancelAction T} {t u : T}

/-- The operations in scope, over all threads. -/
def CancelState.operations (s : CancelState T) : Int := ∑ t, ((s.threads t).scopes : Int)

/-- A thread waits in `gfal2_cancel` for operations of others only. -/
def CancelState.NoSelfWait (s : CancelState T) : Prop :=
  ∀ t, (s.threads t).pc ≠ .idle → (s.threads t).scopes = 0

omit [DecidableEq T] in
theorem operations_nonneg (s : CancelState T) : 0 ≤ s.operations :=
  Finset.sum_nonneg fun _ _ => Int.natCast_nonneg _

omit [DecidableEq T] in
theorem operations_sub (hothers : ∀ u, u ≠ t → s'.threads u = s.threads u) :
    s'.operations - s.operations = ((s'.threads t).scopes : Int) - (s.threads t).scopes := by
  unfold CancelState.operations
  rw [← Finset.sum_sub_distrib]
  apply Fintype.sum_eq_single t
  intro u hu
  simp [hothers u hu]

theorem runningOps_step (hcount : s.runningOps = s.operations) (hstep : cancelStep action s = some s') :
    s'.runningOps = s'.operations := by
  obtain ⟨t, hmoves | hmoves⟩ := cancelStep_cases hstep
  · have hsub := operations_sub hmoves.others
    have hops := hmoves.runningOps
    omega
  · have hsub := operations_sub hmoves.others
    rw [hmoves.scopes] at hsub
    rw [hmoves.runningOps]
    omega

/-- The operations in scope can all come to their end before any call goes on. -/
theorem exists_endScopes (hcount : s.runningOps = s.operations) (hwait : s.NoSelfWait) :
    ∃ actions s', Run cancelStep (fun _ _ => True) s actions s' ∧ s'.runningOps = 0 ∧
      ∀ u, (s'.threads u).pc = (s.threads u).pc := by
  induction hn : s.runningOps.toNat generalizing s with
  | zero =>
      have hnonneg := operations_nonneg s
      exact ⟨[], s, .nil s, by omega, fun _ => rfl⟩
  | succ n ih =>
      have hne : ∑ t, ((s.threads t).scopes : Int) ≠ 0 := by
        change s.operations ≠ 0
        omega
      obtain ⟨t, _, ht⟩ := Finset.exists_ne_zero_of_sum_ne_zero hne
      have hscope : 0 < (s.threads t).scopes := by omega
      have hidle : (s.threads t).pc = .idle := by
        by_contra hpc
        exact ht (by simp [hwait t hpc])
      let ended : CancelState T :=
        { s.withThread t { s.threads t with scopes := (s.threads t).scopes - 1 } with
          runningOps := s.runningOps - 1 }
      have hstep : cancelStep (.endScope t) s = some ended := by simp [cancelStep, hidle, hscope, ended]
      have hpc : ∀ u, (ended.threads u).pc = (s.threads u).pc := by
        intro u
        by_cases hut : u = t
        · simp [ended, hut]
        · simp [ended, hut]
      have hendedWait : ended.NoSelfWait := by
        intro u hu
        rw [hpc u] at hu
        have hut : u ≠ t := fun h => hu (h ▸ hidle)
        simpa [ended, hut] using hwait u hu
      obtain ⟨actions, s', hrun, hzero, hpcs⟩ := ih (runningOps_step hcount hstep) hendedWait
        (by simp only [ended]; omega)
      exact ⟨.endScope t :: actions, s', .cons trivial hstep hrun, hzero, fun u => (hpcs u).trans (hpc u)⟩

omit [Fintype T] in
theorem exists_reset_of_observed (hpc : (s.threads u).pc = .observed) :
    ∃ s', cancelStep (.reset u) s = some s' ∧ s'.cancel = false ∧
      ∀ v, v ≠ u → (s'.threads v).pc = (s.threads v).pc := by
  refine ⟨{ s.withThread u { s.threads u with pc := .idle } with cancel := false }, ?_, rfl, ?_⟩
  · simp [cancelStep, CancelState.advance, hpc, CancelPc.next]
  · intro v hv
    simp [hv]

/-- A call that waits can come to reset the flag before any other call goes on. -/
theorem exists_reset (hcount : s.runningOps = s.operations) (hwait : s.NoSelfWait)
    (hpc : (s.threads u).pc = .waiting ∨ (s.threads u).pc = .observed) :
    ∃ actions s', Run cancelStep (fun _ _ => True) s actions s' ∧ s'.cancel = false ∧
      ∀ v, v ≠ u → (s'.threads v).pc = (s.threads v).pc := by
  obtain ⟨actions, drained, hdrain, hzero, hpcs⟩ := exists_endScopes hcount hwait
  rcases hpc with hwaiting | hobserved
  · let observed := drained.withThread u { drained.threads u with pc := .observed }
    have hobserve : cancelStep (.observe u) drained = some observed := by
      simp [cancelStep, CancelState.advance, hpcs u, hwaiting, hzero, CancelPc.next, observed]
    obtain ⟨s', hstep, hflag, hothers⟩ := exists_reset_of_observed (s := observed) (u := u) (by simp [observed])
    refine ⟨actions ++ [.observe u, .reset u], s',
      hdrain.append (.cons trivial hobserve (.cons trivial hstep (.nil s'))), hflag, ?_⟩
    intro v hv
    rw [hothers v hv, ← hpcs v]
    simp [observed, hv]
  · obtain ⟨s', hstep, hflag, hothers⟩ := exists_reset_of_observed ((hpcs u).trans hobserved)
    exact ⟨actions ++ [.reset u], s', hdrain.append (.cons trivial hstep (.nil s')), hflag,
      fun v hv => (hothers v hv).trans (hpcs v)⟩

/-- Once a call sets the flag while another is about to reset it, it can find the flag reset while it waits. -/
theorem exists_not_announced (hcount : s.runningOps = s.operations) (hwait : s.NoSelfWait) (hexcl : s.Exclusive)
    (hstep : cancelStep (.setFlag t) s = some s') (hflag : (s.threads u).pc.hasFlag = true) :
    ∃ actions s'', Run cancelStep (fun _ _ => True) s' actions s'' ∧ ¬s''.Announced := by
  have hcount' := runningOps_step hcount hstep
  simp only [cancelStep, advance_eq_some] at hstep
  obtain ⟨hcounted, rfl⟩ := hstep
  have hut : u ≠ t := by
    rintro rfl
    simp [hcounted, CancelPc.hasFlag, CancelPc.announces] at hflag
  have hreleased : (s.threads u).pc.holdsMutex = false := by
    by_contra hholds
    have hmine := hexcl t (by simp [hcounted, CancelPc.holdsMutex])
    exact hut (Option.some.inj ((hexcl u (by simpa using hholds)).symm.trans hmine))
  have hpc : (s.threads u).pc = .waiting ∨ (s.threads u).pc = .observed := by
    cases hpc : (s.threads u).pc <;> simp_all [CancelPc.hasFlag, CancelPc.announces, CancelPc.holdsMutex]
  have hwait' : ({ s.withThread t { s.threads t with pc := CancelPc.counted.next } with cancel := true } :
      CancelState T).NoSelfWait := by
    intro v hv
    by_cases hvt : v = t
    · simpa [hvt] using hwait t (by simp [hcounted])
    · simpa [hvt] using hwait v (by simpa [hvt] using hv)
  obtain ⟨actions, s'', hrun, hunset, hothers⟩ := exists_reset (u := u) hcount' hwait' (by simpa [hut] using hpc)
  refine ⟨actions, s'', hrun, ?_⟩
  intro hannounced
  have ht := hannounced t (by simp [hothers t (Ne.symm hut), CancelPc.next, CancelPc.announces])
  simp [hunset] at ht

/-- The operations that look at the flag while the thread's call waits for them see it set. -/
def CancelState.Heard (s : CancelState T) : Prop :=
  ∀ t u s', (s.threads t).pc.announces = true → cancelStep (.poll u) s = some s' →
    (s'.threads u).sawCancel = true

variable {actions : List (CancelAction T)}

theorem runningOps_eq_operations (hrun : Run cancelStep (fun _ _ => True) {} actions s) : s.runningOps = s.operations :=
  hrun.invariant (fun s => s.runningOps = s.operations) (fun _ _ _ _ => runningOps_step)
    (by simp [CancelState.operations])

omit [Fintype T] in
theorem exclusive_of_run (hrun : Run cancelStep (fun _ _ => True) {} actions s) : s.Exclusive :=
  hrun.invariant CancelState.Exclusive (fun _ _ _ _ => exclusive_step)
    (by simp [CancelState.Exclusive, CancelPc.holdsMutex])

omit [Fintype T] in
theorem flagOwned_of_run (hrun : Run cancelStep SetsAlone {} actions s) : s.FlagOwned :=
  hrun.invariant CancelState.FlagOwned (fun _ _ _ => flagOwned_step)
    ⟨by simp [CancelPc.hasFlag, CancelPc.announces], by simp [CancelPc.hasFlag, CancelPc.announces]⟩

end Counting

/-- The count of running operations is right in every run. The flag stays set from where a call sets it to
where it sees the count at zero, and the operations that look at it meanwhile see it, in every run in which
no call sets the flag while another has set it and not reset it yet; a call that does so can go on to find
the flag reset while it waits. -/
theorem cancel_heard_when_setsAlone (T : Type) [DecidableEq T] [Fintype T] :
    (∀ actions (s : CancelState T), Run cancelStep (fun _ _ => True) {} actions s →
      s.runningOps = s.operations ∧ 0 ≤ s.runningOps) ∧
    (∀ actions (s : CancelState T), Run cancelStep SetsAlone {} actions s → s.Announced ∧ s.Heard) ∧
    (∀ actions (s s' : CancelState T) t, Run cancelStep (fun _ _ => True) {} actions s → s.NoSelfWait →
      cancelStep (.setFlag t) s = some s' → ¬SetsAlone (.setFlag t) s →
      ∃ actions' s'', Run cancelStep (fun _ _ => True) s' actions' s'' ∧ ¬s''.Announced) := by
  refine ⟨?_, ?_, ?_⟩
  · intro actions s hrun
    have hcount := runningOps_eq_operations hrun
    have hnonneg := operations_nonneg s
    exact ⟨hcount, by omega⟩
  · intro actions s hrun
    have hannounced := announced_of_flagOwned (flagOwned_of_run hrun)
    exact ⟨hannounced, fun _ _ _ => poll_sees hannounced⟩
  · intro actions s s' t hrun hwait hstep hoverlap
    obtain ⟨u, hu⟩ := not_forall.mp hoverlap
    exact exists_not_announced (runningOps_eq_operations hrun) hwait (exclusive_of_run hrun) hstep
      (by simpa using hu)

/-- Two calls pass the guard; the second sets the flag after the first has seen the count at zero and before
the first resets it. -/
def overlappingCancels : List (CancelAction (Fin 3)) :=
  [.guard 0, .guard 1, .checkFlag 2, .lock 0, .count 0, .setFlag 0, .invokeHooks 0, .unlock 0, .observe 0,
    .increment 2, .lock 1, .count 1, .setFlag 1, .invokeHooks 1, .unlock 1, .reset 0]

/-- The operation of the third thread, in scope when the second call sets the flag, does not see it. -/
theorem overlapping_cancels_unheard : ¬∀ actions (s : CancelState (Fin 3)), Run cancelStep (fun _ _ => True) {} actions s →
      s.Announced ∧ s.Heard := by
  intro h
  obtain ⟨s, hrun, hannounces, s', hpoll, hunseen⟩ : ∃ s, Run cancelStep (fun _ _ => True) {} overlappingCancels s ∧
      (s.threads 1).pc.announces = true ∧ ∃ s', cancelStep (.poll 2) s = some s' ∧ (s'.threads 2).sawCancel = false :=
    ⟨_, run_of_runAll rfl, rfl, _, rfl, rfl⟩
  have hheard := (h overlappingCancels s hrun).2 1 2 s' hannounces hpoll
  simp [hunseen] at hheard

end Gfal2
