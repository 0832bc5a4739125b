import Gfal2.StreamedCopy
import Mathlib.Data.List.Induction
import Mathlib.Algebra.BigOperators.Group.List.Lemmas

/-! The reports of a streamed copy on its way. The counters behind them take in what each read returned before it is
known whether the write took it: a report is true as long as every chunk was written in full. A failed read counts
as -1, and a report in the same pass is one byte short, or far too high if nothing was counted since the last one. The
rates are never divided by zero, since a report is only made more than five seconds after the last. -/

namespace Gfal2

open Base

/-! ### The passes of the loop -/

deriving instance DecidableEq for PerfData

/-- A pass: how many bytes were read or that the read failed, how many the destination took, and the counters that were
reported at its end, if any. -/
structure StreamPass where
  offered : Nat
  failed : Bool
  taken : Nat
  report : Option PerfData
  deriving DecidableEq

def StreamPass.returned (pass : StreamPass) : Int := if pass.failed then -1 else pass.offered

/-- What the callback is told. -/
def PerfData.status (perf : PerfData) : GfaltTransferStatus where
  averageBaudrate := perf.done / toSizeT (perf.now - perf.start)
  instantBaudrate := perf.doneSinceLastUpdate / toSizeT (perf.now - perf.lastUpdate)
  transferTime := perf.now - perf.start
  bytesTransfered := perf.done

/-- The passes of `streamLoop`, observed from outside. -/
def streamPasses (fSrc fDst : Option GfalFileHandle) (buffersize : Nat) (timeout : Int) :
    Nat → PerfData → Gfal StreamWorld (Option GError × List StreamPass)
  | 0, _ => Exec.fault .outOfFuel
  | fuel + 1, perf => do
      let before ← Exec.get
      let moved ← moveChunk fSrc fDst buffersize
      let after ← Exec.get
      let perf :=
        { perf with
          done := toSizeT (perf.done + moved.1)
          doneSinceLastUpdate := toSizeT (perf.doneSinceLastUpdate + moved.1) }
      let watched ← watchTransfer timeout perf moved.2
      let watchedContext ← Exec.get
      let pass :=
        { offered := moved.1.toNat
          failed := moved.1 < 0
          taken := after.world.accepted.length - before.world.accepted.length
          report := if after.reports.length < watchedContext.reports.length then some { perf with now := watched.2.now }
            else none }
      if moved.1 > 0 ∧ watched.1 = none then
        let rest ← streamPasses fSrc fDst buffersize timeout fuel watched.2
        return (rest.1, pass :: rest.2)
      else
        return (watched.1, [pass])

/-- The passes of `copyOpened`. -/
def openedPasses (fuel : Nat) (params : GfaltParams) (fSrc fDst : Option GfalFileHandle) (buffersize : Nat) :
    Gfal StreamWorld (List StreamPass) := do
  let start ← timeNow
  let traced ← streamPasses fSrc fDst buffersize (copyDeadline start params) fuel
    { start := start, lastUpdate := start, now := start }
  return traced.2

/-- The passes of `copyFiles`. -/
def filesPasses (fuel : Nat) (params : GfaltParams) (src dst : CString) (direct : Bool) (buffersize : Nat) :
    Gfal StreamWorld (List StreamPass) := do
  let fSrc ← gfalPluginOpenG src (srcOpenFlags direct) 0
  match fSrc.err with
  | some _ => return []
  | none =>
      let fDst ← gfalPluginOpenG dst (dstOpenFlags direct) 0o755
      match fDst.err with
      | some _ => return []
      | none => openedPasses fuel params fSrc.val fDst.val buffersize

/-- The passes of `streamedCopy`. -/
def copyPasses (fuel : Nat) (params : GfaltParams) (src dst : CString) : Gfal StreamWorld (List StreamPass) := do
  pluginTriggerEvent localCopyDomain .none (lit "TRANSFER:ENTER") (src ++ lit " => " ++ dst)
  pluginTriggerEvent localCopyDomain .none (lit "TRANSFER:TYPE") (lit "streamed")
  let context ← Exec.get
  let buffersize := copyBuffersize context.config
  if posixMemalign context.readings.memory (copyBufferAlignment context.config) buffersize ≠ 0 then
    return []
  else
    filesPasses fuel params src dst ((context.config.optBoolean (lit "CORE") (lit "COPY_DIRECT_IO")).getD false) buffersize

/-- Observing the passes changes nothing. -/
theorem streamLoop_of_passes {fSrc fDst : Option GfalFileHandle} {buffersize : Nat} {timeout : Int} {fuel : Nat} {perf : PerfData}
    {context context' : Gfal2Context StreamWorld} {traced : Option GError × List StreamPass}
    (h : streamPasses fSrc fDst buffersize timeout fuel perf context = .ok (traced, context')) :
    streamLoop fSrc fDst buffersize timeout fuel perf context = .ok (traced.1, context') := by
  induction fuel generalizing perf context traced with
  | zero => cases h
  | succ fuel ih =>
      rw [streamPasses, Exec.get_bind_apply] at h
      obtain ⟨moved, context₁, hmove, h⟩ := Exec.bind_eq_ok.mp h
      rw [Exec.get_bind_apply] at h
      obtain ⟨watched, context₂, hwatch, h⟩ := Exec.bind_eq_ok.mp h
      rw [Exec.get_bind_apply] at h
      dsimp only at h
      rw [streamLoop, Exec.bind_of_ok hmove, Exec.bind_of_ok hwatch]
      by_cases hmore : moved.1 > 0 ∧ watched.1 = none
      · rw [if_pos hmore] at h ⊢
        obtain ⟨rest, context₃, hrest, h⟩ := Exec.bind_eq_ok.mp h
        cases h
        have hloop := ih hrest
        exact hloop
      · rw [if_neg hmore] at h ⊢
        cases h
        rfl

/-! ### True reports -/

def reports (passes : List StreamPass) : List PerfData := passes.filterMap (·.report)

def offeredBytes (passes : List StreamPass) : Nat := (passes.map (·.offered)).sum

/-- What the destination has accepted. -/
def takenBytes (passes : List StreamPass) : Nat := (passes.map (·.taken)).sum

/-- Every report is of what the destination has accepted by then, no total is below one before it, the counts between
reports add up to the total, and no rate is divided by zero. -/
structure TrueReports (passes : List StreamPass) : Prop where
  exact : ∀ before pass perf, before ++ [pass] <+: passes → pass.report = some perf →
    perf.done = takenBytes (before ++ [pass])
  monotone : (reports passes).Pairwise fun first second => first.done ≤ second.done
  sums : ∀ before pass perf, before ++ [pass] <+: passes → pass.report = some perf →
    ((reports (before ++ [pass])).map (·.doneSinceLastUpdate)).sum = perf.done
  divides : ∀ perf ∈ reports passes, perf.now - perf.start ≠ 0 ∧ perf.now - perf.lastUpdate ≠ 0

/-- At each report the destination has taken all that was read, or all but one byte if it comes with a failed read. -/
def WritesInStep (passes : List StreamPass) : Prop :=
  ∀ before pass, before ++ [pass] <+: passes → pass.report.isSome →
    offeredBytes (before ++ [pass]) < 2 ^ 64 ∧
      takenBytes (before ++ [pass]) + (if pass.failed then 1 else 0) = offeredBytes (before ++ [pass])

/-- The counters after some passes. -/
def doneAfter (passes : List StreamPass) : Nat := passes.foldl (fun done pass => toSizeT (done + pass.returned)) 0

def doneSinceAfter (passes : List StreamPass) : Nat :=
  passes.foldl (fun done pass => if pass.report.isSome then 0 else toSizeT (done + pass.returned)) 0

/-- What the loop makes sure of: a failed read ends it, the destination takes no more than it is offered, and the reports
are of the counters. -/
structure PassLog (passes : List StreamPass) : Prop where
  unfailed : ∀ before pass, before ++ [pass] <+: passes → ∀ earlier ∈ before, earlier.failed = false
  nothing : ∀ pass ∈ passes, pass.failed = true → pass.offered = 0
  bounded : ∀ pass ∈ passes, pass.taken ≤ pass.offered
  done : ∀ before pass perf, before ++ [pass] <+: passes → pass.report = some perf →
    perf.done = doneAfter (before ++ [pass])
  doneSince : ∀ before pass perf, before ++ [pass] <+: passes → pass.report = some perf →
    perf.doneSinceLastUpdate = toSizeT (doneSinceAfter before + pass.returned)
  timed : ∀ perf ∈ reports passes, perf.start ≤ perf.lastUpdate ∧ perf.lastUpdate < perf.now

section
variable {before passes : List StreamPass} {pass : StreamPass} {perf : PerfData}

theorem offeredBytes_append (passes : List StreamPass) (pass : StreamPass) :
    offeredBytes (passes ++ [pass]) = offeredBytes passes + pass.offered := by
  rw [offeredBytes, List.map_append, List.sum_append, List.map_singleton, List.sum_singleton]
  rfl

theorem takenBytes_append (passes : List StreamPass) (pass : StreamPass) :
    takenBytes (passes ++ [pass]) = takenBytes passes + pass.taken := by
  rw [takenBytes, List.map_append, List.sum_append, List.map_singleton, List.sum_singleton]
  rfl

theorem doneAfter_append (passes : List StreamPass) (pass : StreamPass) :
    doneAfter (passes ++ [pass]) = toSizeT (doneAfter passes + pass.returned) := by
  rw [doneAfter, List.foldl_append]
  rfl

theorem doneSinceAfter_append (passes : List StreamPass) (pass : StreamPass) : doneSinceAfter (passes ++ [pass]) =
      if pass.report.isSome then 0 else toSizeT (doneSinceAfter passes + pass.returned) := by
  rw [doneSinceAfter, List.foldl_append]
  rfl

theorem reports_append_of_some (h : pass.report = some perf) : reports (passes ++ [pass]) = reports passes ++ [perf] := by
  rw [reports, List.filterMap_append, List.filterMap_cons_some h]
  rfl

theorem reports_append_of_none (h : pass.report = none) : reports (passes ++ [pass]) = reports passes := by
  rw [reports, List.filterMap_append, List.filterMap_cons_none h]
  exact List.append_nil _

/-- The log of the passes so far. -/
theorem PassLog.earlier (h : PassLog passes) (hbefore : before <+: passes) : PassLog before where
  unfailed first pass hfirst := h.unfailed first pass (hfirst.trans hbefore)
  nothing pass hmem := h.nothing pass (hbefore.subset hmem)
  bounded pass hmem := h.bounded pass (hbefore.subset hmem)
  done first pass perf hfirst := h.done first pass perf (hfirst.trans hbefore)
  doneSince first pass perf hfirst := h.doneSince first pass perf (hfirst.trans hbefore)
  timed perf hmem := h.timed perf ((hbefore.filterMap _).subset hmem)

theorem PassLog.takenBytes_le (h : PassLog passes) : takenBytes passes ≤ offeredBytes passes := by
  induction passes using List.reverseRecOn with
  | nil => rfl
  | append_singleton passes pass ih =>
      rw [takenBytes_append, offeredBytes_append]
      exact Nat.add_le_add (ih (h.earlier (List.prefix_append _ _))) (h.bounded pass (by simp))

theorem toSizeT_add (a b : Int) : toSizeT (toSizeT a + b) = toSizeT (a + b) := by
  unfold toSizeT
  omega

theorem toSizeT_of_lt {n : Nat} (h : n < 2 ^ 64) : toSizeT n = n := by
  unfold toSizeT
  omega

/-- The total counts what was read, modulo 2^64. -/
theorem doneAfter_eq (hunfailed : ∀ pass ∈ passes, pass.failed = false) : doneAfter passes = toSizeT (offeredBytes passes) := by
  induction passes using List.reverseRecOn with
  | nil => rfl
  | append_singleton passes pass ih =>
      have hpass : pass.failed = false := hunfailed pass (by simp)
      rw [doneAfter_append, ih fun earlier hmem => hunfailed earlier (List.mem_append_left _ hmem), toSizeT_add,
        StreamPass.returned, hpass, offeredBytes_append]
      rfl

/-- What was reported and what was counted since make up what was read. -/
theorem doneSince_sum (h : PassLog passes) (hunfailed : ∀ pass ∈ passes, pass.failed = false)
    (hlt : offeredBytes passes < 2 ^ 64) :
    ((reports passes).map (·.doneSinceLastUpdate)).sum + doneSinceAfter passes = offeredBytes passes := by
  induction passes using List.reverseRecOn with
  | nil => rfl
  | append_singleton passes pass ih =>
      have hpass : pass.failed = false := hunfailed pass (by simp)
      have hsum := ih (h.earlier (List.prefix_append _ _))
        (fun earlier hmem => hunfailed earlier (List.mem_append_left _ hmem)) (by rw [offeredBytes_append] at hlt; omega)
      rw [offeredBytes_append] at hlt ⊢
      have hcount : toSizeT (doneSinceAfter passes + pass.returned) = doneSinceAfter passes + pass.offered := by
        rw [StreamPass.returned, hpass]
        exact toSizeT_of_lt (n := doneSinceAfter passes + pass.offered) (by omega)
      cases hreport : pass.report with
      | none =>
          rw [reports_append_of_none hreport, doneSinceAfter_append, hreport, hcount]
          show _ + (doneSinceAfter passes + pass.offered) = _
          omega
      | some perf =>
          rw [reports_append_of_some hreport, doneSinceAfter_append, hreport, List.map_append, List.sum_append]
          show _ + ([perf.doneSinceLastUpdate].sum) + 0 = _
          rw [List.sum_singleton, h.doneSince passes pass perf List.prefix_rfl hreport, hcount]
          omega

theorem takenBytes_mono (hbefore : before <+: passes) : takenBytes before ≤ takenBytes passes := by
  obtain ⟨later, rfl⟩ := hbefore
  rw [takenBytes, takenBytes, List.map_append, List.sum_append]
  exact Nat.le_add_right _ _

theorem offeredBytes_mono (hbefore : before <+: passes) : offeredBytes before ≤ offeredBytes passes := by
  obtain ⟨later, rfl⟩ := hbefore
  rw [offeredBytes, offeredBytes, List.map_append, List.sum_append]
  exact Nat.le_add_right _ _

theorem exists_pass_of_report (h : perf ∈ reports passes) :
    ∃ before pass, before ++ [pass] <+: passes ∧ pass.report = some perf := by
  obtain ⟨pass, hmem, hreport⟩ := List.mem_filterMap.mp h
  obtain ⟨before, later, rfl⟩ := List.append_of_mem hmem
  exact ⟨before, pass, ⟨later, by rw [List.append_assoc, List.singleton_append]⟩, hreport⟩

theorem WritesInStep.earlier (h : WritesInStep passes) (hbefore : before <+: passes) : WritesInStep before :=
  fun first pass hfirst => h first pass (hfirst.trans hbefore)

/-- What was reported since the start is no more than the destination has. -/
theorem reported_le_taken (h : PassLog passes) (hunfailed : ∀ pass ∈ passes, pass.failed = false)
    (hstep : WritesInStep passes) : ((reports passes).map (·.doneSinceLastUpdate)).sum ≤ takenBytes passes := by
  induction passes using List.reverseRecOn with
  | nil => exact le_rfl
  | append_singleton passes pass ih =>
      cases hreport : pass.report with
      | none =>
          rw [reports_append_of_none hreport]
          exact (ih (h.earlier (List.prefix_append _ _))
            (fun earlier hmem => hunfailed earlier (List.mem_append_left _ hmem))
            (hstep.earlier (List.prefix_append _ _))).trans (takenBytes_mono (List.prefix_append _ _))
      | some perf =>
          obtain ⟨hlt, htaken⟩ := hstep passes pass List.prefix_rfl (by rw [hreport]; rfl)
          have hsum := doneSince_sum h hunfailed hlt
          rw [hunfailed pass (by simp)] at htaken
          have hleft : takenBytes (passes ++ [pass]) = offeredBytes (passes ++ [pass]) := htaken
          omega

/-- A report is of what was read, less one if the read of its pass failed. -/
theorem PassLog.done_eq (h : PassLog passes) (hpass : before ++ [pass] <+: passes) (hreport : pass.report = some perf) :
    perf.done = toSizeT (offeredBytes (before ++ [pass]) - if pass.failed then 1 else 0) := by
  rw [h.done before pass perf hpass hreport, doneAfter_append, doneAfter_eq (h.unfailed before pass hpass), toSizeT_add,
    StreamPass.returned, offeredBytes_append]
  cases hfailed : pass.failed with
  | false =>
      congr 1
  | true =>
      rw [h.nothing pass (hpass.subset (by simp)) hfailed]
      rfl

theorem trueReports_of_inStep (h : PassLog passes) (hstep : WritesInStep passes) : TrueReports passes := by
  have hexact : ∀ before pass perf, before ++ [pass] <+: passes → pass.report = some perf →
      perf.done = takenBytes (before ++ [pass]) := by
    intro before pass perf hpass hreport
    obtain ⟨hlt, htaken⟩ := hstep before pass hpass (by rw [hreport]; rfl)
    rw [h.done_eq hpass hreport, ← htaken]
    have hshort : takenBytes (before ++ [pass]) < 2 ^ 64 := by omega
    have hcount : ((takenBytes (before ++ [pass]) + (if pass.failed then 1 else 0) : Nat) : Int) -
        (if pass.failed then 1 else 0) = takenBytes (before ++ [pass]) := by split <;> omega
    rw [hcount]
    exact toSizeT_of_lt hshort
  refine ⟨hexact, ?_, ?_, ?_⟩
  · induction passes using List.reverseRecOn with
    | nil => exact List.Pairwise.nil
    | append_singleton passes pass ih =>
        have hpasses : passes <+: passes ++ [pass] := List.prefix_append _ _
        have hrest := ih (h.earlier hpasses) (hstep.earlier hpasses) fun before pass perf hpass =>
          hexact before pass perf (hpass.trans hpasses)
        cases hreport : pass.report with
        | none =>
            rw [reports_append_of_none hreport]
            exact hrest
        | some perf =>
            rw [reports_append_of_some hreport]
            refine List.pairwise_append.mpr ⟨hrest, List.pairwise_singleton _ _, ?_⟩
            intro earlier hmem last hlast
            obtain ⟨first, told, hfirst, htold⟩ := exists_pass_of_report hmem
            rw [List.mem_singleton.mp hlast, hexact first told earlier (hfirst.trans hpasses) htold,
              hexact passes pass perf List.prefix_rfl hreport]
            exact takenBytes_mono (hfirst.trans hpasses)
  · intro before pass perf hpass hreport
    obtain ⟨hlt, htaken⟩ := hstep before pass hpass (by rw [hreport]; rfl)
    have hbefore : before <+: passes := (List.prefix_append _ _).trans hpass
    have hunfailed := h.unfailed before pass hpass
    have hdone := hexact before pass perf hpass hreport
    have hsum := doneSince_sum (h.earlier hbefore) hunfailed ((offeredBytes_mono (List.prefix_append _ _)).trans_lt hlt)
    have hreported := reported_le_taken (h.earlier hbefore) hunfailed (hstep.earlier hbefore)
    have htakenLe := h.bounded pass (hpass.subset (by simp))
    rw [reports_append_of_some hreport, List.map_append, List.sum_append, List.map_singleton, List.sum_singleton,
      h.doneSince before pass perf hpass hreport, hdone]
    rw [offeredBytes_append] at hlt htaken
    rw [takenBytes_append] at htaken ⊢
    cases hfailed : pass.failed with
    | false =>
        have hcount : toSizeT (doneSinceAfter before + pass.returned) = doneSinceAfter before + pass.offered := by
          rw [StreamPass.returned, hfailed]
          exact toSizeT_of_lt (n := doneSinceAfter before + pass.offered) (by omega)
        rw [hfailed] at htaken
        have hall : takenBytes before + pass.taken = offeredBytes before + pass.offered := htaken
        omega
    | true =>
        have hzero := h.nothing pass (hpass.subset (by simp)) hfailed
        rw [hfailed] at htaken
        have hall : takenBytes before + pass.taken + 1 = offeredBytes before + pass.offered := htaken
        -- something was read since the last report, and the count does not wrap
        have hcount : toSizeT (doneSinceAfter before + pass.returned) = doneSinceAfter before - 1 := by
          rw [StreamPass.returned, hfailed]
          unfold toSizeT
          show (((doneSinceAfter before : Int) + -1) % 2 ^ 64).toNat = _
          omega
        omega
  · intro perf hmem
    obtain ⟨hstart, hlate⟩ := h.timed perf hmem
    omega

theorem inStep_of_trueReports (h : PassLog passes) (hlt : offeredBytes passes < 2 ^ 64) (htrue : TrueReports passes) :
    WritesInStep passes := by
  intro before pass hpass hsome
  obtain ⟨perf, hreport⟩ := Option.isSome_iff_exists.mp hsome
  have hoffered := (offeredBytes_mono hpass).trans_lt hlt
  have htaken := (h.earlier hpass).takenBytes_le
  have hdone := h.done_eq hpass hreport
  rw [htrue.exact before pass perf hpass hreport] at hdone
  refine ⟨hoffered, ?_⟩
  unfold toSizeT at hdone
  cases hfailed : pass.failed with
  | false =>
      rw [hfailed] at hdone
      have hcount : takenBytes (before ++ [pass]) = ((offeredBytes (before ++ [pass]) - 0 : Int) % 2 ^ 64).toNat := hdone
      show takenBytes (before ++ [pass]) + 0 = _
      omega
  | true =>
      rw [hfailed] at hdone
      have hcount : takenBytes (before ++ [pass]) = ((offeredBytes (before ++ [pass]) - 1 : Int) % 2 ^ 64).toNat := hdone
      show takenBytes (before ++ [pass]) + 1 = _
      omega

end

/-! ### The run of a copy -/

section
variable {answers : StreamAnswers} {opts : GfalPluginOpts StreamWorld} {src dst : CString} {fSrc fDst : GfalFileHandle}
  {source dest : Slot} {context : Gfal2Context StreamWorld} {seen : List StreamPass}

/-- What a call of an end leaves as it is, and how far it gets. -/
structure MovedBytes (context context' : Gfal2Context StreamWorld) (read taken : Nat) : Prop where
  pluginOpt : context'.pluginOpt = context.pluginOpt
  reports : context'.reports = context.reports
  accepted : context'.world.accepted.length ≤ context.world.accepted.length + taken
  rest : context'.world.rest.length + read ≤ context.world.rest.length

theorem write_counts (context : Gfal2Context StreamWorld) (ends : CopyEnds answers opts src dst fSrc fDst source dest)
    (hopts : context.pluginOpt = opts)
    {buff : List UInt8} (hbuff : buff ≠ []) :
    ∃ written context', gfalPluginWriteG (some fDst) buff context = .ok (written, context') ∧
      MovedBytes context context' 0 buff.length := by
  cases hanswer : answers.write context.world.writes with
  | error e => exact ⟨_, _, ends.write_of_error hopts hbuff hanswer, rfl, rfl, Nat.le_add_right _ _, le_rfl⟩
  | ok count =>
      obtain ⟨written, hrun⟩ := ends.write_of_ok hopts hbuff (by rw [hanswer]; rfl)
      refine ⟨_, _, hrun, rfl, rfl, ?_, le_rfl⟩
      show (context.world.accepted ++ buff.take _).length ≤ _
      rw [List.length_append, List.length_take]
      omega

/-- A move reads so many of the bytes that are left, of which the destination takes at most as many. -/
theorem moveChunk_counts (ends : CopyEnds answers opts src dst fSrc fDst source dest) (hopts : context.pluginOpt = opts)
    {size : Nat} (hlimit : size < 2 ^ 31) :
    ∃ moved context', moveChunk (some fSrc) (some fDst) size context = .ok (moved, context') ∧ -1 ≤ moved.1 ∧
      MovedBytes context context' moved.1.toNat moved.1.toNat := by
  obtain hzero | hsize := Nat.eq_zero_or_pos size
  · subst hzero
    exact ⟨(-1, some (invalidArgs (lit "gfal_plugin_readG"))), context, rfl, le_rfl, rfl, rfl, le_rfl, le_rfl⟩
  · cases hread : answers.read context.world.reads with
    | error e =>
        have hmove : moveChunk (some fSrc) (some fDst) size context = .ok ((-1, some e),
            context.afterCall source .readG { context.world with reads := context.world.reads + 1 }) := by
          rw [moveChunk, Exec.bind_of_ok (ends.read_of_error hopts hsize hread)]
          rfl
        exact ⟨_, _, hmove, le_rfl, rfl, rfl, le_rfl, le_rfl⟩
    | ok count =>
        have hrun := ends.read_of_ok hopts hsize hlimit (by rw [hread]; rfl)
        obtain ⟨chunk, hchunk⟩ : ∃ c, context.world.rest.take (answers.readSize size context.world.reads) = c := ⟨_, rfl⟩
        have hleft : (context.world.rest.drop (answers.readSize size context.world.reads)).length + chunk.length ≤
            context.world.rest.length := by
          rw [← hchunk, List.length_drop, List.length_take]
          omega
        rw [hchunk] at hrun
        rw [moveChunk, Exec.bind_of_ok hrun]
        by_cases hempty : chunk = []
        · subst hempty
          exact ⟨_, _, rfl, by show (-1 : Int) ≤ 0; omega, rfl, rfl, le_rfl, hleft⟩
        · have hpos := List.length_pos_of_ne_nil hempty
          rw [if_pos (show (chunk.length : Int) > 0 by omega)]
          obtain ⟨written, context', hwrite, hcounted⟩ := write_counts (context.afterCall source .readG
            { context.world with
              rest := context.world.rest.drop (answers.readSize size context.world.reads)
              reads := context.world.reads + 1 }) ends hopts hempty
          rw [Int.toNat_natCast, List.take_length, Exec.bind_of_ok hwrite]
          refine ⟨_, context', rfl, by show (-1 : Int) ≤ chunk.length; omega, hcounted.pluginOpt, hcounted.reports,
            hcounted.accepted, ?_⟩
          exact (Nat.add_le_add_right hcounted.rest chunk.length).trans hleft

/-- The end of a pass reports the counters and starts the next count, or leaves them as they are. -/
theorem watchTransfer_reports (timeout : Int) (perf : PerfData) (nestedError : Option GError)
    (context : Gfal2Context StreamWorld) :
    ∃ watched context', watchTransfer timeout perf nestedError context = .ok (watched, context') ∧
      context'.pluginOpt = context.pluginOpt ∧ context'.world = context.world ∧
      ((context'.reports = context.reports ∧ watched.2 = { perf with now := watched.2.now }) ∨
        (context'.reports = context.reports ++ [{ perf with now := watched.2.now }.status] ∧
          perf.lastUpdate + 5 < watched.2.now ∧
          watched.2 = { perf with now := watched.2.now, doneSinceLastUpdate := 0, lastUpdate := watched.2.now })) := by
  unfold watchTransfer
  rw [Exec.bind_of_ok (gfal2IsCanceled_apply context)]
  cases hcancel : context.readings.cancel context.cancelReads with
  | true => exact ⟨_, _, rfl, rfl, rfl, .inl ⟨rfl, rfl⟩⟩
  | false =>
      have htime : timeNow context.afterCancelRead = .ok (context.readings.time context.timeReads,
          { context.afterCancelRead with timeReads := context.timeReads + 1 }) := rfl
      rw [if_neg Bool.false_ne_true, Exec.bind_of_ok htime]
      dsimp only
      split
      · exact ⟨_, _, rfl, rfl, rfl, .inl ⟨rfl, rfl⟩⟩
      · split
        · exact ⟨_, _, rfl, rfl, rfl, .inr ⟨rfl, by dsimp only; omega, rfl⟩⟩
        · exact ⟨_, _, rfl, rfl, rfl, .inl ⟨rfl, rfl⟩⟩

/-- What holds of every pass of a log and of the pass behind it holds of every pass up to that. -/
theorem forall_snoc {P : List StreamPass → StreamPass → Prop} {pass : StreamPass}
    (hseen : ∀ before earlier, before ++ [earlier] <+: seen → P before earlier) (hpass : P seen pass) :
    ∀ before earlier, before ++ [earlier] <+: seen ++ [pass] → P before earlier := by
  intro before earlier hbefore
  obtain heq | hshort := List.prefix_concat_iff.mp hbefore
  · obtain ⟨rfl, hlast⟩ := List.append_inj' heq rfl
    rw [List.singleton_inj.mp hlast]
    exact hpass
  · exact hseen before earlier hshort

theorem WritesInStep.snoc {pass : StreamPass} (h : WritesInStep seen)
    (hpass : pass.report.isSome → offeredBytes (seen ++ [pass]) < 2 ^ 64 ∧
      takenBytes (seen ++ [pass]) + (if pass.failed then 1 else 0) = offeredBytes (seen ++ [pass])) :
    WritesInStep (seen ++ [pass]) :=
  forall_snoc h hpass

/-- The log goes on with a pass, as long as no read has failed. -/
theorem PassLog.snoc {pass : StreamPass} (h : PassLog seen)
    (hunfailed : ∀ earlier ∈ seen, earlier.failed = false) (hnothing : pass.failed = true → pass.offered = 0)
    (hbounded : pass.taken ≤ pass.offered)
    (hreport : ∀ perf, pass.report = some perf → perf.done = doneAfter (seen ++ [pass]) ∧
      perf.doneSinceLastUpdate = toSizeT (doneSinceAfter seen + pass.returned) ∧
      perf.start ≤ perf.lastUpdate ∧ perf.lastUpdate < perf.now) : PassLog (seen ++ [pass]) where
  unfailed := forall_snoc h.unfailed hunfailed
  nothing earlier hmem := by
    obtain hmem | hmem := List.mem_append.mp hmem
    · exact h.nothing earlier hmem
    · rw [List.mem_singleton.mp hmem]
      exact hnothing
  bounded earlier hmem := by
    obtain hmem | hmem := List.mem_append.mp hmem
    · exact h.bounded earlier hmem
    · rw [List.mem_singleton.mp hmem]
      exact hbounded
  done before earlier perf hbefore := by
    refine forall_snoc (P := fun before pass => pass.report = some perf → perf.done = doneAfter (before ++ [pass]))
      (fun before pass hbefore => h.done before pass perf hbefore) (fun htold => (hreport perf htold).1) before earlier hbefore
  doneSince before earlier perf hbefore := by
    refine forall_snoc (P := fun before pass => pass.report = some perf →
      perf.doneSinceLastUpdate = toSizeT (doneSinceAfter before + pass.returned))
      (fun before pass hbefore => h.doneSince before pass perf hbefore) (fun htold => (hreport perf htold).2.1) before earlier
      hbefore
  timed perf hmem := by
    cases htold : pass.report with
    | none =>
        rw [reports_append_of_none htold] at hmem
        exact h.timed perf hmem
    | some last =>
        rw [reports_append_of_some htold] at hmem
        obtain hmem | hmem := List.mem_append.mp hmem
        · exact h.timed perf hmem
        · rw [List.mem_singleton.mp hmem]
          exact (hreport last htold).2.2

theorem reports_cons (pass : StreamPass) (passes : List StreamPass) :
    reports (pass :: passes) = pass.report.toList ++ reports passes := by
  rw [reports, List.filterMap_cons]
  cases pass.report <;> rfl

/-- The passes of the loop, behind those already seen. -/
theorem streamPasses_spec (ends : CopyEnds answers opts src dst fSrc fDst source dest) {size : Nat} (hlimit : size < 2 ^ 31)
    (timeout : Int) (fuel : Nat) (perf : PerfData) (context : Gfal2Context StreamWorld) (hopts : context.pluginOpt = opts)
    (hfuel : context.world.rest.length < fuel) (hlog : PassLog seen)
    (hunfailed : ∀ pass ∈ seen, pass.failed = false) (hdone : perf.done = doneAfter seen)
    (hsince : perf.doneSinceLastUpdate = doneSinceAfter seen) (hstart : perf.start ≤ perf.lastUpdate) :
    ∃ traced context', streamPasses (some fSrc) (some fDst) size timeout fuel perf context = .ok (traced, context') ∧
      context'.pluginOpt = opts ∧ PassLog (seen ++ traced.2) ∧ context'.reports = context.reports ++ (reports traced.2).map (·.status) ∧
      offeredBytes traced.2 ≤ context.world.rest.length := by
  induction fuel generalizing perf context seen with
  | zero => exact absurd hfuel (Nat.not_lt_zero _)
  | succ fuel ih =>
      obtain ⟨moved, context₁, hmove, hleast, hcounted⟩ := moveChunk_counts ends hopts hlimit
      obtain ⟨watched, context₂, hwatch, hopts₂, hworld₂, hreported⟩ := watchTransfer_reports timeout
        { perf with
          done := toSizeT (perf.done + moved.1)
          doneSinceLastUpdate := toSizeT (perf.doneSinceLastUpdate + moved.1) } moved.2 context₁
      rw [streamPasses, Exec.get_bind_apply, Exec.bind_of_ok hmove, Exec.get_bind_apply, Exec.bind_of_ok hwatch,
        Exec.get_bind_apply]
      obtain ⟨pass, hpass⟩ : ∃ pass : StreamPass, pass =
        { offered := moved.1.toNat
          failed := moved.1 < 0
          taken := context₁.world.accepted.length - context.world.accepted.length
          report := if context₁.reports.length < context₂.reports.length then some
              { perf with
                done := toSizeT (perf.done + moved.1)
                doneSinceLastUpdate := toSizeT (perf.doneSinceLastUpdate + moved.1)
                now := watched.2.now }
            else none } := ⟨_, rfl⟩
      have hoffered : pass.offered = moved.1.toNat := by rw [hpass]
      have hfailed : pass.failed = decide (moved.1 < 0) := by rw [hpass]
      have htaken : pass.taken ≤ pass.offered := by
        have haccepted := hcounted.accepted
        rw [hpass]
        show context₁.world.accepted.length - context.world.accepted.length ≤ moved.1.toNat
        omega
      have hreturned : pass.returned = moved.1 := by
        rw [StreamPass.returned, hfailed, hoffered]
        by_cases hneg : moved.1 < 0
        · rw [if_pos (decide_eq_true hneg)]
          omega
        · rw [if_neg (by rw [decide_eq_false hneg]; decide)]
          omega
      have hcount : toSizeT (perf.done + moved.1) = doneAfter (seen ++ [pass]) := by
        rw [doneAfter_append, hreturned, hdone]
      have hnothing : pass.failed = true → pass.offered = 0 := by
        intro h
        have hneg : moved.1 < 0 := of_decide_eq_true (hfailed.symm.trans h)
        omega
      -- the counters that the next pass starts from, and what was reported
      obtain ⟨hlog', hreports, hdone', hsince', hstart'⟩ : PassLog (seen ++ [pass]) ∧
          context₂.reports = context.reports ++ pass.report.toList.map (·.status) ∧
          watched.2.done = doneAfter (seen ++ [pass]) ∧ watched.2.doneSinceLastUpdate = doneSinceAfter (seen ++ [pass]) ∧
          watched.2.start ≤ watched.2.lastUpdate := by
        obtain ⟨hsame, hkept⟩ | ⟨htold, hlate, hreset⟩ := hreported
        · have hnone : pass.report = none := by
            rw [hpass]
            exact if_neg (by rw [hsame]; exact lt_irrefl _)
          refine ⟨hlog.snoc hunfailed hnothing htaken fun _ h => ?_, ?_, ?_, ?_, ?_⟩
          · rw [hnone] at h
            cases h
          · rw [hnone, hsame, hcounted.reports]
            exact (List.append_nil _).symm
          · rw [hkept]
            exact hcount
          · rw [hkept, doneSinceAfter_append, hnone, hreturned, ← hsince]
            rfl
          · rw [hkept]
            exact hstart
        · have hsome : pass.report = some
              { perf with
                done := toSizeT (perf.done + moved.1)
                doneSinceLastUpdate := toSizeT (perf.doneSinceLastUpdate + moved.1)
                now := watched.2.now } := by
            rw [hpass]
            exact if_pos (by rw [htold, List.length_append, List.length_singleton]; omega)
          have hlater : perf.lastUpdate < watched.2.now := by
            have : perf.lastUpdate + 5 < watched.2.now := hlate
            omega
          refine ⟨hlog.snoc hunfailed hnothing htaken fun told h => ?_, ?_, ?_, ?_, ?_⟩
          · rw [← Option.some.inj (hsome.symm.trans h), hreturned, ← hsince]
            exact ⟨hcount, rfl, hstart, hlater⟩
          · rw [hsome, htold, hcounted.reports]
            rfl
          · rw [hreset]
            exact hcount
          · rw [hreset, doneSinceAfter_append, hsome]
            rfl
          · rw [hreset]
            exact hstart.trans hlater.le
      by_cases hmore : moved.1 > 0 ∧ watched.1 = none
      · have hgoes : pass.failed = false := by
          rw [hfailed]
          exact decide_eq_false (by omega)
        have hrest := hcounted.rest
        obtain ⟨traced, context', hrun, hopts', hlogged, htold, hleft⟩ := ih watched.2 context₂
          (hopts₂.trans (hcounted.pluginOpt.trans hopts)) (by rw [hworld₂]; omega) hlog'
          (fun earlier hmem => by
            obtain hmem | hmem := List.mem_append.mp hmem
            · exact hunfailed earlier hmem
            · rw [List.mem_singleton.mp hmem]
              exact hgoes) hdone' hsince' hstart'
        rw [if_pos hmore, Exec.bind_of_ok hrun]
        refine ⟨(traced.1, pass :: traced.2), context', by rw [hpass]; rfl, hopts', ?_, ?_, ?_⟩
        · rw [List.append_assoc] at hlogged
          exact hlogged
        · rw [htold, hreports, reports_cons, List.map_append, List.append_assoc]
        · rw [hworld₂] at hleft
          show pass.offered + offeredBytes traced.2 ≤ _
          omega
      · rw [if_neg hmore]
        refine ⟨(watched.1, [pass]), context₂, by rw [hpass]; rfl,
          hopts₂.trans (hcounted.pluginOpt.trans hopts), hlog', ?_, ?_⟩
        · rw [hreports, reports_cons]
          exact congrArg _ (congrArg _ (List.append_nil _).symm)
        · have hrest := hcounted.rest
          show pass.offered + 0 ≤ _
          omega

/-- What is left and what is reported when a copy is observed. -/
structure Observed (passes : List StreamPass) (context context' : Gfal2Context StreamWorld) : Prop where
  log : PassLog passes
  reports : context'.reports = context.reports ++ (reports passes).map (·.status)
  offered : offeredBytes passes ≤ context.world.rest.length

theorem passLog_nil : PassLog [] where
  unfailed before pass h := absurd (List.prefix_nil.mp h) (by simp)
  nothing pass h := by cases h
  bounded pass h := by cases h
  done before pass perf h := absurd (List.prefix_nil.mp h) (by simp)
  doneSince before pass perf h := absurd (List.prefix_nil.mp h) (by simp)
  timed perf h := by cases h

theorem observed_nil {context' : Gfal2Context StreamWorld} (h : context'.reports = context.reports) :
    Observed [] context context' :=
  ⟨passLog_nil, by rw [h]; exact (List.append_nil _).symm, Nat.zero_le _⟩

theorem copyOpened_observed (ends : CopyEnds answers opts src dst fSrc fDst source dest) (params : GfaltParams) {size : Nat}
    (hlimit : size < 2 ^ 31) {fuel : Nat} (hopts : context.pluginOpt = opts) (hfuel : context.world.rest.length < fuel) :
    ∃ ret context' passes context'',
      copyOpened fuel params src dst (some fSrc) (some fDst) size context = .ok (ret, context') ∧
      openedPasses fuel params (some fSrc) (some fDst) size context = .ok (passes, context'') ∧
      Observed passes context context' := by
  have hstart : timeNow context = .ok (context.readings.time context.timeReads,
      { context with timeReads := context.timeReads + 1 }) := rfl
  obtain ⟨traced, context₁, hrun, hopts₁, hlog, hreports, hoffered⟩ := streamPasses_spec ends hlimit
    (copyDeadline (context.readings.time context.timeReads) params) fuel
    { start := context.readings.time context.timeReads
      lastUpdate := context.readings.time context.timeReads
      now := context.readings.time context.timeReads }
    { context with timeReads := context.timeReads + 1 } hopts hfuel passLog_nil (fun pass h => by cases h) rfl rfl le_rfl
  have hpasses : openedPasses fuel params (some fSrc) (some fDst) size context = .ok (traced.2, context₁) := by
    rw [openedPasses, Exec.bind_of_ok hstart, Exec.bind_of_ok hrun]
    rfl
  have hdest := ends.closeDest_run hopts₁ traced.1
  have hsource := ends.closeSource_run
    (show (context₁.afterCall dest .closeG context₁.world).pluginOpt = opts from hopts₁) (traced.1.or answers.closeDest)
  rw [copyOpened, Exec.bind_of_ok hstart, Exec.bind_of_ok (streamLoop_of_passes hrun), Exec.bind_of_ok hdest,
    Exec.bind_of_ok hsource]
  split
  · exact ⟨_, _, traced.2, context₁, rfl, hpasses, hlog, hreports, hoffered⟩
  · exact ⟨_, _, traced.2, context₁, rfl, hpasses, hlog, hreports, hoffered⟩

theorem copyFiles_observed (ends : CopyEnds answers opts src dst fSrc fDst source dest) (params : GfaltParams) (direct : Bool)
    {size : Nat} (hlimit : size < 2 ^ 31) {fuel : Nat} (hopts : context.pluginOpt = opts)
    (hfuel : context.world.rest.length < fuel) :
    ∃ ret context' passes context'', copyFiles fuel params src dst direct size context = .ok (ret, context') ∧
      filesPasses fuel params src dst direct size context = .ok (passes, context'') ∧ Observed passes context context' := by
  have hsource := ends.openSource_run hopts direct
  have hdest := ends.openDest_run
    (show (context.afterCall source .openG context.world).pluginOpt = opts from hopts) direct
  rw [copyFiles, filesPasses, Exec.bind_of_ok hsource, Exec.bind_of_ok hsource]
  cases hopenSource : answers.openSource with
  | some e => exact ⟨_, _, [], _, rfl, rfl, observed_nil rfl⟩
  | none =>
      dsimp only [streamOpen]
      rw [Exec.bind_of_ok hdest, Exec.bind_of_ok hdest]
      cases hopenDest : answers.openDest with
      | some e =>
          have hclose := ends.closeSource_run (show ((context.afterCall source .openG context.world).afterCall
            dest .openG context.world).pluginOpt = opts from hopts) none
          obtain ⟨closed, context₁, hclosed, hafter⟩ := Exec.bind_eq_ok.mp hclose
          have hcontext := (Exec.ok_inj hafter).2
          dsimp only [streamOpen]
          exact ⟨_, context₁, [], _, Exec.bind_of_ok hclosed, rfl, observed_nil (by rw [hcontext]; rfl)⟩
      | none =>
          obtain ⟨ret, context', passes, context'', hrun, hpasses, hobserved⟩ := copyOpened_observed ends params hlimit
            (show ((context.afterCall source .openG context.world).afterCall dest .openG
              context.world).pluginOpt = opts from hopts) hfuel
          exact ⟨ret, context', passes, context'', hrun, hpasses, hobserved.log, hobserved.reports, hobserved.offered⟩

theorem streamedCopy_observed (ends : CopyEnds answers context.pluginOpt src dst fSrc fDst source dest) (params : GfaltParams)
    {fuel : Nat} (hfuel : context.world.rest.length < fuel) :
    ∃ ret context' passes context'', streamedCopy fuel params src dst context = .ok (ret, context') ∧
      copyPasses fuel params src dst context = .ok (passes, context'') ∧ Observed passes context context' := by
  obtain ⟨events, hcopy, hpasses⟩ : ∃ events, streamedCopy fuel params src dst context = (do
      let context ← Exec.get
      let buffersize := copyBuffersize context.config
      let errno := posixMemalign context.readings.memory (copyBufferAlignment context.config) buffersize
      if errno ≠ 0 then
        return ⟨-1, some ⟨localCopyDomain, errno, lit "Failed to allocate aligned buffer"⟩⟩
      else
        let direct := (context.config.optBoolean (lit "CORE") (lit "COPY_DIRECT_IO")).getD false
        copyFiles fuel params src dst direct buffersize : Gfal StreamWorld (Ret Int)) { context with events := events } ∧
      copyPasses fuel params src dst context = (do
        let context ← Exec.get
        let buffersize := copyBuffersize context.config
        if posixMemalign context.readings.memory (copyBufferAlignment context.config) buffersize ≠ 0 then
          return []
        else
          filesPasses fuel params src dst ((context.config.optBoolean (lit "CORE") (lit "COPY_DIRECT_IO")).getD false)
            buffersize : Gfal StreamWorld (List StreamPass)) { context with events := events } := ⟨_, rfl, rfl⟩
  rw [hcopy, hpasses, Exec.get_bind_apply, Exec.get_bind_apply]
  dsimp only
  by_cases hmemory : posixMemalign context.readings.memory (copyBufferAlignment context.config)
      (copyBuffersize context.config) = 0
  · rw [if_neg (by rw [hmemory]; decide), if_neg (by rw [hmemory]; decide)]
    obtain ⟨ret, context', passes, context'', hrun, htraced, hobserved⟩ := @copyFiles_observed answers _ src dst fSrc fDst source
      dest { context with events := events } ends params
      ((context.config.optBoolean (lit "CORE") (lit "COPY_DIRECT_IO")).getD false) _ (copyBuffersize_lt hmemory) _ rfl hfuel
    exact ⟨ret, context', passes, context'', hrun, htraced, hobserved.log, hobserved.reports, hobserved.offered⟩
  · rw [if_pos hmemory, if_pos hmemory]
    exact ⟨_, _, [], _, rfl, rfl, observed_nil rfl⟩

/-- The copy ends, and the reports it made are true. -/
def ReportsTruly (fuel : Nat) (params : GfaltParams) (src dst : CString) (context : Gfal2Context StreamWorld) : Prop :=
  ∃ ret context' passes context'', streamedCopy fuel params src dst context = .ok (ret, context') ∧
    copyPasses fuel params src dst context = .ok (passes, context'') ∧
    context'.reports = context.reports ++ (reports passes).map (·.status) ∧ TrueReports passes

/-- The destination keeps in step with the source in the passes of the copy. -/
def CopiesInStep (fuel : Nat) (params : GfaltParams) (src dst : CString) (context : Gfal2Context StreamWorld) : Prop :=
  ∀ passes context'', copyPasses fuel params src dst context = .ok (passes, context'') → WritesInStep passes

end

/-- The reports of a copy are true if at each the destination has taken all that was read, less than 2^64 bytes, or all but
one byte where the report comes with a failed read; and of a source of less than 2^64 bytes they are true only then. -/
theorem progress_reports_true_iff {answers : StreamAnswers} {src dst : CString} {fSrc fDst : GfalFileHandle}
    {source dest : Slot} {context : Gfal2Context StreamWorld}
    (ends : CopyEnds answers context.pluginOpt src dst fSrc fDst source dest) (params : GfaltParams) {fuel : Nat}
    (hfuel : context.world.rest.length < fuel) :
    (CopiesInStep fuel params src dst context → ReportsTruly fuel params src dst context) ∧
      (context.world.rest.length < 2 ^ 64 → ReportsTruly fuel params src dst context →
        CopiesInStep fuel params src dst context) := by
  obtain ⟨ret, context', passes, context'', hrun, hpasses, hobserved⟩ := streamedCopy_observed ends params hfuel
  constructor
  · intro hstep
    exact ⟨ret, context', passes, context'', hrun, hpasses, hobserved.reports,
      trueReports_of_inStep hobserved.log (hstep passes context'' hpasses)⟩
  · rintro hlength ⟨-, -, passes', context₂, -, hpasses', -, htrue⟩ passes₁ context₁ hpasses₁
    obtain ⟨rfl, -⟩ := Exec.ok_inj (hpasses.symm.trans hpasses')
    obtain ⟨rfl, -⟩ := Exec.ok_inj (hpasses.symm.trans hpasses₁)
    exact inStep_of_trueReports hobserved.log (hobserved.offered.trans_lt hlength) htrue

/-- The same ends under a clock that takes six seconds from one reading to the next. -/
def clockedContext (answers : StreamAnswers) : Gfal2Context StreamWorld :=
  { pipeContext answers with readings := { time := fun i => 6 * i } }

/-- The pass of the chunk, and the one that finds the end of the source. -/
def steadyPass : StreamPass :=
  ⟨3, false, 3, some { start := 0, lastUpdate := 0, now := 6, done := 3, doneSinceLastUpdate := 3 }⟩

def steadyEnd : StreamPass := ⟨0, false, 0, some { start := 0, lastUpdate := 6, now := 12, done := 3 }⟩

theorem copyEnds_clocked (answers : StreamAnswers) : CopyEnds answers (clockedContext answers).pluginOpt (lit "in") (lit "out")
    ⟨lit "pipe", 0, none⟩ ⟨lit "pipe", 1, none⟩ 0 0 :=
  copyEnds_pipe answers

theorem copyPasses_steady : (copyPasses 4 {} (lit "in") (lit "out") (clockedContext (steadyAnswers 3))).map Prod.fst =
    .ok [steadyPass, steadyEnd] := by
  decide +kernel

/-- Two reports, one after the chunk and one at the end. -/
theorem progress_reports_true_steady : ReportsTruly 4 {} (lit "in") (lit "out") (clockedContext (steadyAnswers 3)) := by
  have hfuel : (clockedContext (steadyAnswers 3)).world.rest.length < 4 := by decide
  refine (progress_reports_true_iff (copyEnds_clocked (steadyAnswers 3)) {} hfuel).1 ?_
  intro passes context'' hpasses
  have hrun := copyPasses_steady
  rw [hpasses] at hrun
  obtain rfl : passes = [steadyPass, steadyEnd] := Except.ok.inj hrun
  show WritesInStep (([] ++ [steadyPass]) ++ [steadyEnd])
  have hnil : WritesInStep [] := fun before pass h => absurd (List.prefix_nil.mp h) (by simp)
  exact (hnil.snoc (by decide +kernel)).snoc (by decide +kernel)

/-- A source that cannot be read. -/
def brokenAnswers : StreamAnswers where
  read _ := .error ⟨lit "pipe", EIO, lit "Input/output error"⟩
  write _ := .ok 4

/-- The counters of a copy whose first read failed. -/
def brokenReport : PerfData where
  start := 0
  lastUpdate := 0
  now := 6
  done := 2 ^ 64 - 1
  doneSinceLastUpdate := 2 ^ 64 - 1

theorem copyPasses_broken : (copyPasses 4 {} (lit "in") (lit "out") (clockedContext brokenAnswers)).map Prod.fst =
    .ok [⟨0, true, 0, some brokenReport⟩] := by
  decide +kernel

/-- A first read that fails after six seconds is reported as 2^64 - 1 bytes transferred. -/
theorem failed_read_reported_as_bytes : ¬∀ (answers : StreamAnswers) (src dst : CString) (fSrc fDst : GfalFileHandle)
    (source dest : Slot) (context : Gfal2Context StreamWorld) (params : GfaltParams) (fuel : Nat),
    CopyEnds answers context.pluginOpt src dst fSrc fDst source dest → context.world.rest.length < fuel →
    (∀ i j, i ≤ j → context.readings.time i ≤ context.readings.time j) → ReportsTruly fuel params src dst context := by
  intro hall
  have hclock : ∀ i j, i ≤ j →
      (clockedContext brokenAnswers).readings.time i ≤ (clockedContext brokenAnswers).readings.time j := by
    intro i j hij
    show 6 * (i : Int) ≤ 6 * j
    omega
  obtain ⟨ret, context', passes, context'', -, hpasses, -, htrue⟩ := hall brokenAnswers (lit "in") (lit "out") ⟨lit "pipe", 0, none⟩
    ⟨lit "pipe", 1, none⟩ 0 0 (clockedContext brokenAnswers) {} 4 (copyEnds_clocked brokenAnswers) (by decide) hclock
  have hrun := copyPasses_broken
  rw [hpasses] at hrun
  obtain rfl : passes = [⟨0, true, 0, some brokenReport⟩] := Except.ok.inj hrun
  have hexact : brokenReport.done = takenBytes [⟨0, true, 0, some brokenReport⟩] :=
    htrue.exact [] _ brokenReport List.prefix_rfl rfl
  exact absurd hexact (by decide +kernel)

end Gfal2
