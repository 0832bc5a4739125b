import Gfal2.LocalCopy
import Gfal2.Base.Pieces

/-! A streamed copy between a source that returns at each read as many of the next bytes as it likes, and a
destination that takes at each write as many of the bytes offered as it likes. The copy returns 0 exactly
if nothing fails or interrupts it, and then the destination has the bytes of the source exactly if it took
every chunk in full: a short write is not noticed. -/

namespace Gfal2

open Base

/-! ### The two ends -/

/-- How the plugins at the two ends answer: each call of `readG` and of `writeG`, in its turn, fails or moves
so many bytes. -/
structure StreamAnswers where
  read : Nat → Except GError Nat
  write : Nat → Except GError Nat
  openSource : Option GError := none
  openDest : Option GError := none
  closeSource : Option GError := none
  closeDest : Option GError := none

/-- What is left to read, what was accepted, and how many calls there were. -/
structure StreamWorld where
  rest : List UInt8
  accepted : List UInt8 := []
  reads : Nat := 0
  writes : Nat := 0
  deriving DecidableEq

def succeeds : Except GError Nat → Bool
  | .ok _ => true
  | .error _ => false

/-- The bytes a read moves into a buffer of the given size, if there are as many left. -/
def StreamAnswers.readSize (answers : StreamAnswers) (size i : Nat) : Nat :=
  match answers.read i with
  | .ok count => min (max count 1) size
  | .error _ => size

/-- The bytes a write takes, if as many are offered. -/
def StreamAnswers.writeSize (answers : StreamAnswers) (i : Nat) : Nat :=
  match answers.write i with
  | .ok count => max count 1
  | .error _ => 0

def streamOpen (failure : Option GError) (fh : GfalFileHandle) :
    Callback StreamWorld (Ret (Option GfalFileHandle)) := fun world =>
  (match failure with
    | some e => ⟨none, some e⟩
    | none => ⟨some fh, none⟩, world)

def streamRead (answers : StreamAnswers) (size : Nat) : Callback StreamWorld (Ret (Int × List UInt8)) :=
  fun world =>
    match answers.read world.reads with
    | .error e => (⟨(-1, []), some e⟩, { world with reads := world.reads + 1 })
    | .ok count =>
        let chunk := world.rest.take (min (max count 1) size)
        (⟨(chunk.length, chunk), none⟩,
          { world with rest := world.rest.drop (min (max count 1) size), reads := world.reads + 1 })

def streamWrite (answers : StreamAnswers) (buff : List UInt8) : Callback StreamWorld (Ret Int) := fun world =>
  match answers.write world.writes with
  | .error e => (⟨-1, some e⟩, { world with writes := world.writes + 1 })
  | .ok count =>
      let written := buff.take (max count 1)
      (⟨written.length, none⟩,
        { world with accepted := world.accepted ++ written, writes := world.writes + 1 })

def streamClose (failure : Option GError) : Callback StreamWorld (Ret Int) := fun world =>
  (match failure with
    | some e => ⟨-1, some e⟩
    | none => ⟨0, none⟩, world)

/-- Plugins between which the copy runs: each end is found for its URL and for its handle, and answers so. -/
structure CopyEnds (answers : StreamAnswers) (opts : GfalPluginOpts StreamWorld) (src dst : CString)
    (fSrc fDst : GfalFileHandle) (source dest : Slot) : Prop where
  find_source : ∀ context, context.pluginOpt = opts →
    gfalFindPlugin src .open context = .ok (⟨some source, none⟩, context)
  find_dest : ∀ context, context.pluginOpt = opts →
    gfalFindPlugin dst .open context = .ok (⟨some dest, none⟩, context)
  map_source : ∀ context, context.pluginOpt = opts →
    gfalPluginMapFileHandle fSrc context = .ok (⟨some source, none⟩, context)
  map_dest : ∀ context, context.pluginOpt = opts →
    gfalPluginMapFileHandle fDst context = .ok (⟨some dest, none⟩, context)
  open_source : ∃ call, (opts.pluginList source).openG = some call ∧
    ∀ direct, call src (srcOpenFlags direct) 0 = streamOpen answers.openSource fSrc
  open_dest : ∃ call, (opts.pluginList dest).openG = some call ∧
    ∀ direct, call dst (dstOpenFlags direct) 0o755 = streamOpen answers.openDest fDst
  read_source : ∃ call, (opts.pluginList source).readG = some call ∧
    ∀ size, call fSrc size = streamRead answers size
  write_dest : ∃ call, (opts.pluginList dest).writeG = some call ∧
    ∀ buff, call fDst buff = streamWrite answers buff
  close_source : ∃ call, (opts.pluginList source).closeG = some call ∧
    call fSrc = streamClose answers.closeSource
  close_dest : ∃ call, (opts.pluginList dest).closeG = some call ∧ call fDst = streamClose answers.closeDest

def Gfal2Context.afterCall {σ : Type} (context : Gfal2Context σ) (slot : Slot) (which : PluginCallback)
    (world : σ) : Gfal2Context σ :=
  { context with world := world, calls := context.calls ++ [(slot, which)] }

section Dispatch

variable {σ α : Type} {context : Gfal2Context σ} {slot : Slot} (which : PluginCallback) (failure : α)
  (callback : GfalPluginInterface σ → Option (Callback σ (Ret α))) {call : Callback σ (Ret α)}

theorem dispatchUrl_of_find {url : CString} {mode : PluginMode}
    (hfind : gfalFindPlugin url mode context = .ok (⟨some slot, none⟩, context))
    (hcall : callback (context.pluginOpt.pluginList slot) = some call) :
    dispatchUrl mode which url failure callback context =
      .ok ((call context.world).1, context.afterCall slot which (call context.world).2) := by
  rw [dispatchUrl, Exec.bind_of_ok hfind]
  dsimp only
  rw [Exec.bind_of_ok (rfl : pluginAt slot context = _), hcall]
  rfl

theorem dispatchHandle_of_map {fh : GfalFileHandle}
    (hmap : gfalPluginMapFileHandle fh context = .ok (⟨some slot, none⟩, context))
    (hcall : callback (context.pluginOpt.pluginList slot) = some call) :
    dispatchHandle which fh failure callback context =
      .ok ((call context.world).1, context.afterCall slot which (call context.world).2) := by
  rw [dispatchHandle, Exec.bind_of_ok hmap]
  dsimp only
  rw [Exec.bind_of_ok (rfl : pluginAt slot context = _), hcall]
  rfl

end Dispatch

section Ends

variable {answers : StreamAnswers} {opts : GfalPluginOpts StreamWorld} {src dst : CString}
  {fSrc fDst : GfalFileHandle} {source dest : Slot} {context : Gfal2Context StreamWorld}

/-- Two contexts that differ in the world, and in the calls that brought it there. -/
structure SameButWorld (a b : Gfal2Context StreamWorld) : Prop where
  pluginOpt : a.pluginOpt = b.pluginOpt
  readings : a.readings = b.readings
  cancelReads : a.cancelReads = b.cancelReads
  timeReads : a.timeReads = b.timeReads

theorem readSize_pos (answers : StreamAnswers) {size : Nat} (hsize : 0 < size) (i : Nat) : 0 < answers.readSize size i := by
  unfold StreamAnswers.readSize
  split <;> omega

section Running

variable (ends : CopyEnds answers opts src dst fSrc fDst source dest) (hopts : context.pluginOpt = opts)
include ends hopts

theorem CopyEnds.openSource_run (direct : Bool) : gfalPluginOpenG src (srcOpenFlags direct) 0 context =
      .ok ((streamOpen answers.openSource fSrc context.world).1,
        context.afterCall source .openG context.world) := by
  obtain ⟨call, hcall, hanswer⟩ := ends.open_source
  have hrun := dispatchUrl_of_find .openG none (fun p => p.openG.map (· src (srcOpenFlags direct) 0))
    (ends.find_source context hopts) (by rw [hopts, hcall, Option.map_some])
  rw [hanswer] at hrun
  exact hrun

theorem CopyEnds.openDest_run (direct : Bool) : gfalPluginOpenG dst (dstOpenFlags direct) 0o755 context =
      .ok ((streamOpen answers.openDest fDst context.world).1, context.afterCall dest .openG context.world) := by
  obtain ⟨call, hcall, hanswer⟩ := ends.open_dest
  have hrun := dispatchUrl_of_find .openG none (fun p => p.openG.map (· dst (dstOpenFlags direct) 0o755))
    (ends.find_dest context hopts) (by rw [hopts, hcall, Option.map_some])
  rw [hanswer] at hrun
  exact hrun

theorem CopyEnds.closeSource_run (nestedError : Option GError) : closeNested (some fSrc) nestedError context =
      .ok (nestedError.or answers.closeSource, context.afterCall source .closeG context.world) := by
  obtain ⟨call, hcall, hanswer⟩ := ends.close_source
  have hrun := dispatchHandle_of_map .closeG (-1) (fun p => p.closeG.map (· fSrc))
    (ends.map_source context hopts) (by rw [hopts, hcall, Option.map_some])
  rw [hanswer] at hrun
  rw [closeNested, Exec.bind_of_ok (show gfalPluginCloseG (some fSrc) context = _ from hrun), Exec.pure_apply]
  cases answers.closeSource <;> rfl

theorem CopyEnds.closeDest_run (nestedError : Option GError) : closeNested (some fDst) nestedError context =
      .ok (nestedError.or answers.closeDest, context.afterCall dest .closeG context.world) := by
  obtain ⟨call, hcall, hanswer⟩ := ends.close_dest
  have hrun := dispatchHandle_of_map .closeG (-1) (fun p => p.closeG.map (· fDst))
    (ends.map_dest context hopts) (by rw [hopts, hcall, Option.map_some])
  rw [hanswer] at hrun
  rw [closeNested, Exec.bind_of_ok (show gfalPluginCloseG (some fDst) context = _ from hrun), Exec.pure_apply]
  cases answers.closeDest <;> rfl

theorem CopyEnds.read_run {size : Nat} (hsize : 0 < size) : gfalPluginReadG (some fSrc) size context =
      .ok (⟨(toInt32 (streamRead answers size context.world).1.val.1,
          (streamRead answers size context.world).1.val.2), (streamRead answers size context.world).1.err⟩,
        context.afterCall source .readG (streamRead answers size context.world).2) := by
  obtain ⟨call, hcall, hanswer⟩ := ends.read_source
  have hrun := dispatchHandle_of_map .readG (-1, []) (fun p => p.readG.map (· fSrc size))
    (ends.map_source context hopts) (by rw [hopts, hcall, Option.map_some])
  rw [hanswer] at hrun
  unfold gfalPluginReadG
  dsimp only
  rw [if_neg (by omega)]
  exact Exec.bind_of_ok hrun

theorem CopyEnds.write_run {buff : List UInt8} (hbuff : buff ≠ []) : gfalPluginWriteG (some fDst) buff context =
      .ok (⟨toInt32 (streamWrite answers buff context.world).1.val, (streamWrite answers buff context.world).1.err⟩,
        context.afterCall dest .writeG (streamWrite answers buff context.world).2) := by
  obtain ⟨call, hcall, hanswer⟩ := ends.write_dest
  have hrun := dispatchHandle_of_map .writeG (-1) (fun p => p.writeG.map (· fDst buff))
    (ends.map_dest context hopts) (by rw [hopts, hcall, Option.map_some])
  rw [hanswer] at hrun
  unfold gfalPluginWriteG
  dsimp only
  rw [if_neg hbuff]
  exact Exec.bind_of_ok hrun

/-! ### One pass -/

theorem CopyEnds.read_of_error {size : Nat} (hsize : 0 < size) {e : GError}
    (hanswer : answers.read context.world.reads = .error e) :
    gfalPluginReadG (some fSrc) size context = .ok (⟨(-1, []), some e⟩,
      context.afterCall source .readG { context.world with reads := context.world.reads + 1 }) := by
  have hread := ends.read_run hopts hsize
  simp only [streamRead, hanswer, toInt32_neg_one] at hread
  exact hread

theorem CopyEnds.read_of_ok {size : Nat} (hsize : 0 < size) (hlimit : size < 2 ^ 31)
    (hanswer : succeeds (answers.read context.world.reads) = true) :
    gfalPluginReadG (some fSrc) size context =
      .ok (⟨((context.world.rest.take (answers.readSize size context.world.reads)).length,
          context.world.rest.take (answers.readSize size context.world.reads)), none⟩,
        context.afterCall source .readG
          { context.world with
            rest := context.world.rest.drop (answers.readSize size context.world.reads)
            reads := context.world.reads + 1 }) := by
  have hread := ends.read_run hopts hsize
  cases hcount : answers.read context.world.reads with
  | error e =>
      rw [hcount] at hanswer
      cases hanswer
  | ok count =>
      have hfits : (context.world.rest.take (min (max count 1) size)).length < 2 ^ 31 := by
        rw [List.length_take]
        omega
      simp only [streamRead, hcount, toInt32_of_lt hfits] at hread
      rw [StreamAnswers.readSize, hcount]
      exact hread

theorem CopyEnds.write_of_ok {buff : List UInt8} (hbuff : buff ≠ [])
    (hanswer : succeeds (answers.write context.world.writes) = true) :
    ∃ count, gfalPluginWriteG (some fDst) buff context = .ok (⟨count, none⟩,
      context.afterCall dest .writeG
        { context.world with
          accepted := context.world.accepted ++ buff.take (answers.writeSize context.world.writes)
          writes := context.world.writes + 1 }) := by
  have hwrite := ends.write_run hopts hbuff
  cases hcount : answers.write context.world.writes with
  | error e =>
      rw [hcount] at hanswer
      cases hanswer
  | ok count =>
      simp only [streamWrite, hcount] at hwrite
      rw [StreamAnswers.writeSize, hcount]
      exact ⟨_, hwrite⟩

theorem CopyEnds.write_of_error {buff : List UInt8} (hbuff : buff ≠ []) {e : GError}
    (hanswer : answers.write context.world.writes = .error e) :
    gfalPluginWriteG (some fDst) buff context = .ok (⟨-1, some e⟩,
      context.afterCall dest .writeG { context.world with writes := context.world.writes + 1 }) := by
  have hwrite := ends.write_run hopts hbuff
  simp only [streamWrite, hanswer, toInt32_neg_one] at hwrite
  exact hwrite

/-- A failing read ends the pass with its error. -/
theorem moveChunk_of_error {size : Nat} (hsize : 0 < size) {e : GError}
    (hanswer : answers.read context.world.reads = .error e) :
    ∃ context', moveChunk (some fSrc) (some fDst) size context = .ok ((-1, some e), context') ∧
      SameButWorld context' context := by
  refine ⟨context.afterCall source .readG { context.world with reads := context.world.reads + 1 }, ?_,
    ⟨rfl, rfl, rfl, rfl⟩⟩
  rw [moveChunk, Exec.bind_of_ok (ends.read_of_error hopts hsize hanswer)]
  rfl

/-- A read at the end of the source returns nothing. -/
theorem moveChunk_at_end {size : Nat} (hsize : 0 < size) (hlimit : size < 2 ^ 31)
    (hanswer : succeeds (answers.read context.world.reads) = true) (hrest : context.world.rest = []) :
    ∃ context', moveChunk (some fSrc) (some fDst) size context = .ok ((0, none), context') ∧
      SameButWorld context' context ∧ context'.world.accepted = context.world.accepted := by
  have hread := ends.read_of_ok hopts hsize hlimit hanswer
  rw [hrest, List.take_nil, List.drop_nil] at hread
  refine ⟨context.afterCall source .readG { context.world with rest := [], reads := context.world.reads + 1 },
    ?_, ⟨rfl, rfl, rfl, rfl⟩, rfl⟩
  unfold moveChunk
  rw [Exec.bind_of_ok hread]
  rfl

/-- A read before the end is followed by the write of what it returned. -/
theorem moveChunk_of_ok {size : Nat} (hsize : 0 < size) (hlimit : size < 2 ^ 31)
    (hanswer : succeeds (answers.read context.world.reads) = true) (hrest : context.world.rest ≠ []) :
    ∃ moved context', moveChunk (some fSrc) (some fDst) size context = .ok (moved, context') ∧
      SameButWorld context' context ∧ moved.1 > 0 ∧
      (moved.2 = none ↔ succeeds (answers.write context.world.writes) = true) ∧
      (moved.2 = none → context'.world =
        { rest := context.world.rest.drop (answers.readSize size context.world.reads)
          accepted := context.world.accepted ++
            (context.world.rest.take (answers.readSize size context.world.reads)).take
              (answers.writeSize context.world.writes)
          reads := context.world.reads + 1
          writes := context.world.writes + 1 }) := by
  have hread := ends.read_of_ok hopts hsize hlimit hanswer
  obtain ⟨chunk, hchunk⟩ : ∃ c, context.world.rest.take (answers.readSize size context.world.reads) = c := ⟨_, rfl⟩
  rw [hchunk] at hread ⊢
  have hpos : 0 < chunk.length := by
    have hrestPos := List.length_pos_of_ne_nil hrest
    have hsizePos := readSize_pos answers hsize context.world.reads
    rw [← hchunk, List.length_take]
    omega
  obtain ⟨middle, hmiddle⟩ : ∃ c, context.afterCall source .readG
      { context.world with
        rest := context.world.rest.drop (answers.readSize size context.world.reads)
        reads := context.world.reads + 1 } = c := ⟨_, rfl⟩
  have hworld : middle.world =
      { context.world with
        rest := context.world.rest.drop (answers.readSize size context.world.reads)
        reads := context.world.reads + 1 } := by
    rw [← hmiddle]
    rfl
  have hsame : SameButWorld middle context := by
    rw [← hmiddle]
    exact ⟨rfl, rfl, rfl, rfl⟩
  have hopts' : middle.pluginOpt = opts := hsame.pluginOpt.trans hopts
  have hwrites : middle.world.writes = context.world.writes := by rw [hworld]
  rw [hmiddle] at hread
  have hmove : moveChunk (some fSrc) (some fDst) size context =
      (do
        let written ← gfalPluginWriteG (some fDst) chunk
        return ((chunk.length : Int), written.err)) middle := by
    unfold moveChunk
    rw [Exec.bind_of_ok hread]
    dsimp only
    rw [if_pos (by omega), Int.toNat_natCast, List.take_length]
    rfl
  have hne := List.ne_nil_of_length_pos hpos
  have hpos' : (chunk.length : Int) > 0 := by omega
  rw [hmove]
  cases hwritten : answers.write context.world.writes with
  | error e =>
      rw [Exec.bind_of_ok (ends.write_of_error hopts' hne (hwrites ▸ hwritten))]
      refine ⟨_, _, rfl, ⟨hsame.1, hsame.2, hsame.3, hsame.4⟩, hpos', ?_, ?_⟩
      · exact iff_of_false (by rintro ⟨⟩) (by rintro ⟨⟩)
      · rintro ⟨⟩
  | ok count =>
      have hsucceeds : succeeds (answers.write middle.world.writes) = true := by
        rw [hwrites, hwritten]
        rfl
      obtain ⟨taken, hwrite⟩ := ends.write_of_ok hopts' hne hsucceeds
      rw [Exec.bind_of_ok hwrite]
      refine ⟨_, _, rfl, ⟨hsame.1, hsame.2, hsame.3, hsame.4⟩, hpos', iff_of_true rfl rfl, fun _ => ?_⟩
      rw [hworld]
      rfl

end Running

/-- The end of a pass keeps an error there was, and sets one if the copy is cancelled or out of time. -/
theorem watchTransfer_spec (timeout : Int) (perf : PerfData) (nestedError : Option GError)
    (context : Gfal2Context StreamWorld) :
    ∃ watched context', watchTransfer timeout perf nestedError context = .ok (watched, context') ∧
      context'.pluginOpt = context.pluginOpt ∧ context'.readings = context.readings ∧
      context'.world = context.world ∧ context'.cancelReads = context.cancelReads + 1 ∧
      (watched.1 = none ↔ nestedError = none ∧ context.readings.cancel context.cancelReads = false ∧
        context.readings.time context.timeReads < timeout) ∧
      (watched.1 = none → context'.timeReads = context.timeReads + 1) := by
  unfold watchTransfer
  rw [Exec.bind_of_ok (gfal2IsCanceled_apply context)]
  cases hcancel : context.readings.cancel context.cancelReads with
  | true =>
      refine ⟨_, _, rfl, rfl, rfl, rfl, rfl, iff_of_false ?_ (by rintro ⟨-, ⟨⟩, -⟩), ?_⟩
      · cases nestedError <;> rintro ⟨⟩
      · cases nestedError <;> rintro ⟨⟩
  | false =>
      have htime : timeNow context.afterCancelRead = .ok (context.readings.time context.timeReads,
          { context.afterCancelRead with timeReads := context.timeReads + 1 }) := rfl
      rw [if_neg Bool.false_ne_true, Exec.bind_of_ok htime]
      dsimp only
      by_cases hlate : context.readings.time context.timeReads ≥ timeout
      · rw [if_pos hlate]
        refine ⟨_, _, rfl, rfl, rfl, rfl, rfl, iff_of_false ?_ (fun h => by omega), ?_⟩
        · cases nestedError <;> rintro ⟨⟩
        · cases nestedError <;> rintro ⟨⟩
      · rw [if_neg hlate]
        have hnested : nestedError = none ↔ nestedError = none ∧ false = false ∧
            context.readings.time context.timeReads < timeout :=
          ⟨fun h => ⟨h, rfl, by omega⟩, fun h => h.1⟩
        split
        · exact ⟨_, _, rfl, rfl, rfl, rfl, rfl, hnested, fun _ => rfl⟩
        · exact ⟨_, _, rfl, rfl, rfl, rfl, rfl, hnested, fun _ => rfl⟩

/-! ### The loop -/

/-- From these numbers of calls and readings on, `count` chunks and the end of the source are read without a
failure of the ends, a cancellation or a time-out. -/
structure Undisturbed (answers : StreamAnswers) (readings : Readings) (timeout : Int)
    (reads writes cancelReads timeReads count : Nat) : Prop where
  read : ∀ i < count + 1, succeeds (answers.read (reads + i)) = true
  write : ∀ i < count, succeeds (answers.write (writes + i)) = true
  clear : ∀ i < count + 1, readings.cancel (cancelReads + i) = false
  inTime : ∀ i < count + 1, readings.time (timeReads + i) < timeout

theorem forall_lt_succ_from (p : Nat → Prop) (start count : Nat) :
    (∀ i < count + 1, p (start + i)) ↔ p start ∧ ∀ i < count, p (start + 1 + i) := by
  refine Nat.forall_lt_succ_left.trans (and_congr Iff.rfl ?_)
  refine forall_congr' fun i => imp_congr_right fun _ => ?_
  rw [show start + (i + 1) = start + 1 + i by omega]

theorem undisturbed_zero {readings : Readings} {timeout : Int} {reads writes cancelReads timeReads : Nat} :
    Undisturbed answers readings timeout reads writes cancelReads timeReads 0 ↔
      succeeds (answers.read reads) = true ∧ readings.cancel cancelReads = false ∧
        readings.time timeReads < timeout := by
  constructor
  · exact fun h => ⟨h.read 0 Nat.one_pos, h.clear 0 Nat.one_pos, h.inTime 0 Nat.one_pos⟩
  · rintro ⟨hread, hclear, htime⟩
    have hzero : ∀ i, i < 0 + 1 → i = 0 := fun i hi => by omega
    refine ⟨fun i hi => ?_, fun i hi => absurd hi (Nat.not_lt_zero i), fun i hi => ?_, fun i hi => ?_⟩
    · rw [hzero i hi]
      exact hread
    · rw [hzero i hi]
      exact hclear
    · rw [hzero i hi]
      exact htime

theorem undisturbed_succ {readings : Readings} {timeout : Int} {reads writes cancelReads timeReads count : Nat} :
    Undisturbed answers readings timeout reads writes cancelReads timeReads (count + 1) ↔
      (succeeds (answers.read reads) = true ∧ succeeds (answers.write writes) = true ∧
        readings.cancel cancelReads = false ∧ readings.time timeReads < timeout) ∧
      Undisturbed answers readings timeout (reads + 1) (writes + 1) (cancelReads + 1) (timeReads + 1) count := by
  have hread := forall_lt_succ_from (fun i => succeeds (answers.read i) = true) reads (count + 1)
  have hwrite := forall_lt_succ_from (fun i => succeeds (answers.write i) = true) writes count
  have hclear := forall_lt_succ_from (fun i => readings.cancel i = false) cancelReads (count + 1)
  have htime := forall_lt_succ_from (fun i => readings.time i < timeout) timeReads (count + 1)
  constructor
  · intro h
    obtain ⟨hread, hreads⟩ := hread.mp h.read
    obtain ⟨hwrite, hwrites⟩ := hwrite.mp h.write
    obtain ⟨hclear, hclears⟩ := hclear.mp h.clear
    obtain ⟨htime, htimes⟩ := htime.mp h.inTime
    exact ⟨⟨hread, hwrite, hclear, htime⟩, hreads, hwrites, hclears, htimes⟩
  · rintro ⟨⟨hread₀, hwrite₀, hclear₀, htime₀⟩, h⟩
    exact ⟨hread.mpr ⟨hread₀, h.read⟩, hwrite.mpr ⟨hwrite₀, h.write⟩, hclear.mpr ⟨hclear₀, h.clear⟩,
      htime.mpr ⟨htime₀, h.inTime⟩⟩

/-- The chunks in which the source will be read. -/
def chunks (answers : StreamAnswers) (size : Nat) (world : StreamWorld) : List (List UInt8) :=
  pieces (answers.readSize size) world.reads world.rest

theorem chunks_at_end {size : Nat} {world : StreamWorld} (hrest : world.rest = []) : chunks answers size world = [] := by
  rw [chunks, hrest, pieces_nil]

/-- A pass from what it moved to where it decides. -/
theorem streamLoop_pass {size : Nat} (timeout : Int) (fuel : Nat) (perf : PerfData)
    {context₁ : Gfal2Context StreamWorld} {moved : Int × Option GError}
    (hmove : moveChunk (some fSrc) (some fDst) size context = .ok (moved, context₁))
    (hsame : SameButWorld context₁ context) :
    ∃ (watched : Option GError × PerfData) (context₂ : Gfal2Context StreamWorld),
      streamLoop (some fSrc) (some fDst) size timeout (fuel + 1) perf context =
        (if moved.1 > 0 ∧ watched.1 = none then
          streamLoop (some fSrc) (some fDst) size timeout fuel watched.2
        else return watched.1 : Gfal StreamWorld (Option GError)) context₂ ∧
      context₂.pluginOpt = context.pluginOpt ∧ context₂.readings = context.readings ∧
      context₂.world = context₁.world ∧ context₂.cancelReads = context.cancelReads + 1 ∧
      (watched.1 = none ↔ moved.2 = none ∧ context.readings.cancel context.cancelReads = false ∧
        context.readings.time context.timeReads < timeout) ∧
      (watched.1 = none → context₂.timeReads = context.timeReads + 1) := by
  obtain ⟨watched, context₂, hwatch, hopts, hreadings, hworld, hcancel, hnested, htime⟩ :=
    watchTransfer_spec timeout
      { perf with
        done := toSizeT (perf.done + moved.1)
        doneSinceLastUpdate := toSizeT (perf.doneSinceLastUpdate + moved.1) } moved.2 context₁
  rw [hsame.readings, hsame.cancelReads, hsame.timeReads] at hnested
  refine ⟨watched, context₂, ?_, hopts.trans hsame.pluginOpt, hreadings.trans hsame.readings, hworld,
    hsame.cancelReads ▸ hcancel, hnested, hsame.timeReads ▸ htime⟩
  rw [streamLoop, Exec.bind_of_ok hmove, Exec.bind_of_ok hwatch]

/-- The loop ends; without an error exactly if it was undisturbed, and then the destination has of each
chunk what it took. -/
theorem streamLoop_spec (ends : CopyEnds answers opts src dst fSrc fDst source dest)
    {size : Nat} (hsize : 0 < size) (hlimit : size < 2 ^ 31) (timeout : Int) (fuel : Nat) (perf : PerfData)
    (context : Gfal2Context StreamWorld) (hopts : context.pluginOpt = opts)
    (hfuel : context.world.rest.length < fuel) :
    ∃ nested context', streamLoop (some fSrc) (some fDst) size timeout fuel perf context = .ok (nested, context') ∧
      context'.pluginOpt = opts ∧
      (nested = none ↔ Undisturbed answers context.readings timeout context.world.reads context.world.writes
        context.cancelReads context.timeReads (chunks answers size context.world).length) ∧
      (nested = none → context'.world.accepted = context.world.accepted ++
        taken answers.writeSize context.world.writes (chunks answers size context.world)) := by
  induction fuel generalizing perf context with
  | zero => exact absurd hfuel (Nat.not_lt_zero _)
  | succ fuel ih =>
      cases hread : answers.read context.world.reads with
      | error e =>
          obtain ⟨context₁, hmove, hsame⟩ := moveChunk_of_error ends hopts hsize hread
          obtain ⟨watched, context₂, hloop, hopts₂, -, -, -, hnested, -⟩ :=
            streamLoop_pass timeout fuel perf hmove hsame
          rw [hloop, if_neg (by rintro ⟨h, -⟩; cases h)]
          have hsome : watched.1 ≠ none := fun h => by cases (hnested.mp h).1
          refine ⟨watched.1, context₂, rfl, hopts₂.trans hopts, iff_of_false hsome fun h => ?_,
            fun h => absurd h hsome⟩
          have hok := h.read 0 (Nat.succ_pos _)
          rw [Nat.add_zero, hread] at hok
          cases hok
      | ok count =>
          have hok : succeeds (answers.read context.world.reads) = true := by
            rw [hread]
            rfl
          by_cases hrest : context.world.rest = []
          · -- the read that finds the end of the source
            obtain ⟨context₁, hmove, hsame, haccepted⟩ := moveChunk_at_end ends hopts hsize hlimit hok hrest
            obtain ⟨watched, context₂, hloop, hopts₂, -, hworld, -, hnested, -⟩ :=
              streamLoop_pass timeout fuel perf hmove hsame
            rw [hloop, if_neg (by rintro ⟨h, -⟩; exact absurd h (lt_irrefl 0))]
            rw [chunks_at_end hrest, List.length_nil, undisturbed_zero]
            refine ⟨watched.1, context₂, rfl, hopts₂.trans hopts, ?_, fun _ => ?_⟩
            · rw [hnested]
              exact ⟨fun h => ⟨hok, h.2⟩, fun h => ⟨rfl, h.2⟩⟩
            · rw [hworld, haccepted, taken, List.append_nil]
          · obtain ⟨moved, context₁, hmove, hsame, hpos, hwritten, hworld₁⟩ :=
              moveChunk_of_ok ends hopts hsize hlimit hok hrest
            obtain ⟨watched, context₂, hloop, hopts₂, hreadings, hworld, hcancel, hnested, htime⟩ :=
              streamLoop_pass timeout fuel perf hmove hsame
            have hsizePos := readSize_pos answers hsize context.world.reads
            have hchunks : chunks answers size context.world =
                context.world.rest.take (answers.readSize size context.world.reads) ::
                  pieces (answers.readSize size) (context.world.reads + 1)
                    (context.world.rest.drop (answers.readSize size context.world.reads)) :=
              pieces_of_ne_nil hrest hsizePos
            rw [hchunks, List.length_cons, undisturbed_succ]
            have hgoes : watched.1 = none ↔ succeeds (answers.read context.world.reads) = true ∧
                succeeds (answers.write context.world.writes) = true ∧
                context.readings.cancel context.cancelReads = false ∧
                context.readings.time context.timeReads < timeout := by
              rw [hnested, hwritten]
              exact ⟨fun h => ⟨hok, h⟩, fun h => h.2⟩
            by_cases hnone : watched.1 = none
            · have hnext := hworld.trans (hworld₁ (hnested.mp hnone).1)
              rw [hloop, if_pos ⟨hpos, hnone⟩]
              obtain ⟨nested, context', hrun, hopts', hend, haccepted⟩ :=
                ih watched.2 context₂ (hopts₂.trans hopts) (by
                  rw [hnext, List.length_drop]
                  have := List.length_pos_of_ne_nil hrest
                  omega)
              rw [chunks, hreadings, hcancel, htime hnone, hnext] at hend
              rw [chunks, hnext] at haccepted
              refine ⟨nested, context', hrun, hopts', hend.trans ?_, fun h => ?_⟩
              · exact (and_iff_right (hgoes.mp hnone)).symm
              · rw [haccepted h, taken, List.append_assoc]
            · rw [hloop, if_neg fun h => hnone h.2]
              refine ⟨watched.1, context₂, rfl, hopts₂.trans hopts, iff_of_false hnone fun h => ?_,
                fun h => absurd h hnone⟩
              exact hnone (hgoes.mpr h.1)

/-- With an empty buffer the first read is refused. -/
theorem streamLoop_empty_buffer (timeout : Int) (fuel : Nat) (perf : PerfData) (context : Gfal2Context StreamWorld) :
    ∃ nested context', streamLoop (some fSrc) (some fDst) 0 timeout (fuel + 1) perf context =
      .ok (nested, context') ∧ context'.pluginOpt = context.pluginOpt ∧ nested ≠ none := by
  have hmove : moveChunk (some fSrc) (some fDst) 0 context =
      .ok ((-1, some (invalidArgs (lit "gfal_plugin_readG"))), context) := rfl
  obtain ⟨watched, context', hloop, hopts, -, -, -, hnested, -⟩ :=
    streamLoop_pass timeout fuel perf hmove ⟨rfl, rfl, rfl, rfl⟩
  rw [hloop, if_neg (by rintro ⟨h, -⟩; cases h)]
  exact ⟨watched.1, context', rfl, hopts, fun h => by cases (hnested.mp h).1⟩

/-! ### The whole copy -/

/-- The part of the conditions for a return of 0 that concerns the open files. -/
structure OpenedCompletes (answers : StreamAnswers) (params : GfaltParams) (size : Nat)
    (context : Gfal2Context StreamWorld) : Prop where
  nonempty : 0 < size
  undisturbed : Undisturbed answers context.readings (copyDeadline (context.readings.time context.timeReads) params)
    context.world.reads context.world.writes context.cancelReads (context.timeReads + 1)
    (chunks answers size context.world).length
  closeSource : answers.closeSource = none
  closeDest : answers.closeDest = none

theorem copyOpened_spec (ends : CopyEnds answers opts src dst fSrc fDst source dest) (params : GfaltParams)
    {size : Nat} (hlimit : size < 2 ^ 31) {fuel : Nat} (hopts : context.pluginOpt = opts)
    (hfuel : context.world.rest.length < fuel) :
    ∃ ret context', copyOpened fuel params src dst (some fSrc) (some fDst) size context = .ok (ret, context') ∧
      (ret.val = 0 ↔ OpenedCompletes answers params size context) ∧
      (ret.val = 0 → context'.world.accepted = context.world.accepted ++
        taken answers.writeSize context.world.writes (chunks answers size context.world)) := by
  have hstart : timeNow context = .ok (context.readings.time context.timeReads,
      { context with timeReads := context.timeReads + 1 }) := rfl
  obtain ⟨nested, context₁, hloop, hopts₁, hnested, haccepted⟩ : ∃ nested context₁,
      streamLoop (some fSrc) (some fDst) size (copyDeadline (context.readings.time context.timeReads) params) fuel
        { start := context.readings.time context.timeReads
          lastUpdate := context.readings.time context.timeReads
          now := context.readings.time context.timeReads }
        { context with timeReads := context.timeReads + 1 } = .ok (nested, context₁) ∧
      context₁.pluginOpt = opts ∧
      (nested = none ↔ 0 < size ∧ Undisturbed answers context.readings
        (copyDeadline (context.readings.time context.timeReads) params) context.world.reads context.world.writes
        context.cancelReads (context.timeReads + 1) (chunks answers size context.world).length) ∧
      (nested = none → context₁.world.accepted = context.world.accepted ++
        taken answers.writeSize context.world.writes (chunks answers size context.world)) := by
    by_cases hsize : 0 < size
    · obtain ⟨nested, context₁, hrun, hopts₁, hnested, haccepted⟩ := streamLoop_spec ends hsize hlimit
        (copyDeadline (context.readings.time context.timeReads) params) fuel
        { start := context.readings.time context.timeReads
          lastUpdate := context.readings.time context.timeReads
          now := context.readings.time context.timeReads }
        { context with timeReads := context.timeReads + 1 } hopts hfuel
      exact ⟨nested, context₁, hrun, hopts₁, hnested.trans (and_iff_right hsize).symm, haccepted⟩
    · obtain ⟨fuel, rfl⟩ : ∃ n, fuel = n + 1 := ⟨fuel - 1, by omega⟩
      obtain rfl : size = 0 := by omega
      obtain ⟨nested, context₁, hrun, hopts₁, hsome⟩ := streamLoop_empty_buffer
        (copyDeadline (context.readings.time context.timeReads) params) fuel
        { start := context.readings.time context.timeReads
          lastUpdate := context.readings.time context.timeReads
          now := context.readings.time context.timeReads }
        { context with timeReads := context.timeReads + 1 }
      exact ⟨nested, context₁, hrun, hopts₁.trans hopts, iff_of_false hsome fun h => hsize h.1,
        fun h => absurd h hsome⟩
  have hdest := ends.closeDest_run hopts₁ nested
  have hsource := ends.closeSource_run
    (show (context₁.afterCall dest .closeG context₁.world).pluginOpt = opts from hopts₁)
    (nested.or answers.closeDest)
  rw [copyOpened, Exec.bind_of_ok hstart, Exec.bind_of_ok hloop, Exec.bind_of_ok hdest, Exec.bind_of_ok hsource]
  have hcompletes : OpenedCompletes answers params size context ↔
      (nested.or answers.closeDest).or answers.closeSource = none := by
    rw [Option.or_eq_none_iff, Option.or_eq_none_iff, hnested]
    exact ⟨fun h => ⟨⟨⟨h.nonempty, h.undisturbed⟩, h.closeDest⟩, h.closeSource⟩,
      fun h => ⟨h.1.1.1, h.1.1.2, h.2, h.1.2⟩⟩
  rw [hcompletes]
  cases hend : (nested.or answers.closeDest).or answers.closeSource with
  | none =>
      rw [Option.or_eq_none_iff, Option.or_eq_none_iff] at hend
      exact ⟨_, _, rfl, iff_of_true rfl rfl, fun _ => haccepted hend.1.1⟩
  | some e => exact ⟨_, _, rfl, iff_of_false (by rintro ⟨⟩) (by rintro ⟨⟩), by rintro ⟨⟩⟩

theorem copyFiles_spec (ends : CopyEnds answers opts src dst fSrc fDst source dest) (params : GfaltParams)
    (direct : Bool) {size : Nat} (hlimit : size < 2 ^ 31) {fuel : Nat} (hopts : context.pluginOpt = opts)
    (hfuel : context.world.rest.length < fuel) :
    ∃ ret context', copyFiles fuel params src dst direct size context = .ok (ret, context') ∧
      (ret.val = 0 ↔ answers.openSource = none ∧ answers.openDest = none ∧
        OpenedCompletes answers params size context) ∧
      (ret.val = 0 → context'.world.accepted = context.world.accepted ++
        taken answers.writeSize context.world.writes (chunks answers size context.world)) := by
  have hsource := ends.openSource_run hopts direct
  have hdest := ends.openDest_run
    (show (context.afterCall source .openG context.world).pluginOpt = opts from hopts) direct
  rw [copyFiles, Exec.bind_of_ok hsource]
  cases hopenSource : answers.openSource with
  | some e => exact ⟨_, _, rfl, iff_of_false (by rintro ⟨⟩) (by rintro ⟨⟨⟩, -⟩), by rintro ⟨⟩⟩
  | none =>
      dsimp only [streamOpen]
      rw [Exec.bind_of_ok hdest]
      cases hopenDest : answers.openDest with
      | some e =>
          have hclose := ends.closeSource_run (show ((context.afterCall source .openG context.world).afterCall
            dest .openG context.world).pluginOpt = opts from hopts) none
          obtain ⟨closed, context₁, hclosed, -⟩ := Exec.bind_eq_ok.mp hclose
          dsimp only [streamOpen]
          exact ⟨_, context₁, Exec.bind_of_ok hclosed, iff_of_false (by rintro ⟨⟩) (by rintro ⟨-, ⟨⟩, -⟩),
            by rintro ⟨⟩⟩
      | none =>
          obtain ⟨ret, context', hrun, hzero, haccepted⟩ := copyOpened_spec ends params hlimit
            (show ((context.afterCall source .openG context.world).afterCall dest .openG
              context.world).pluginOpt = opts from hopts) hfuel
          refine ⟨ret, context', hrun, hzero.trans ?_, haccepted⟩
          exact ⟨fun h => ⟨rfl, rfl, h.1, h.2, h.3, h.4⟩, fun h => ⟨h.2.2.1, h.2.2.2, h.2.2.3, h.2.2.4⟩⟩

/-- A buffer that can be allocated is smaller than an `int` counts. -/
theorem copyBuffersize_lt {config : Config} {memory alignment : Nat}
    (h : posixMemalign memory alignment (copyBuffersize config) = 0) : copyBuffersize config < 2 ^ 31 := by
  have hgint : ∀ n : Int, -2 ^ 31 ≤ n → n < 2 ^ 31 → toSizeT n < 2 ^ 63 → toSizeT n < 2 ^ 31 := by
    intro n hlower hupper hsize
    unfold toSizeT at *
    omega
  have hsigned : copyBuffersize config < 2 ^ 63 := by
    unfold posixMemalign at h
    by_contra hlarge
    rw [if_pos (show copyBuffersize config > memory ∨ copyBuffersize config ≥ 2 ^ 63 by omega)] at h
    split at h <;> cases h
  have hdefault : -2 ^ 31 ≤ (4194304 : Int) ∧ (4194304 : Int) < 2 ^ 31 := by decide
  obtain ⟨hlower, hupper⟩ :=
    gfal2GetOptIntegerWithDefault_range config (lit "CORE") (lit "COPY_BUFFERSIZE") hdefault
  exact hgint _ hlower hupper hsigned

/-- The copy comes to its end: the buffer is allocated and not empty, no call of either end fails, the copy is
not cancelled and stays in time. -/
structure Completes (answers : StreamAnswers) (params : GfaltParams) (context : Gfal2Context StreamWorld) :
    Prop where
  allocated : posixMemalign context.readings.memory (copyBufferAlignment context.config)
    (copyBuffersize context.config) = 0
  openSource : answers.openSource = none
  openDest : answers.openDest = none
  opened : OpenedCompletes answers params (copyBuffersize context.config) context

/-- The copy returns 0 exactly if it completes, and then the destination has of each chunk what it took. -/
theorem streamedCopy_spec (ends : CopyEnds answers context.pluginOpt src dst fSrc fDst source dest)
    (params : GfaltParams) {fuel : Nat} (hfuel : context.world.rest.length < fuel) :
    ∃ ret context', streamedCopy fuel params src dst context = .ok (ret, context') ∧
      (ret.val = 0 ↔ Completes answers params context) ∧
      (ret.val = 0 → context'.world.accepted = context.world.accepted ++
        taken answers.writeSize context.world.writes
          (chunks answers (copyBuffersize context.config) context.world)) := by
  obtain ⟨told, htold⟩ := streamedCopy_told fuel params src dst context
  rw [htold]
  by_cases hmemory : posixMemalign context.readings.memory (copyBufferAlignment context.config)
      (copyBuffersize context.config) = 0
  · rw [if_pos hmemory]
    obtain ⟨ret, context', hrun, hzero, haccepted⟩ := @copyFiles_spec answers _ src dst fSrc fDst source dest
      { context with events := told } ends params _ _ (copyBuffersize_lt hmemory) _ rfl hfuel
    refine ⟨ret, context', hrun, hzero.trans ?_, haccepted⟩
    constructor
    · rintro ⟨hsource, hdest, hopened⟩
      exact ⟨hmemory, hsource, hdest, hopened.1, hopened.2, hopened.3, hopened.4⟩
    · rintro ⟨-, hsource, hdest, hopened⟩
      exact ⟨hsource, hdest, hopened.1, hopened.2, hopened.3, hopened.4⟩
  · rw [if_neg hmemory]
    exact ⟨_, _, rfl, iff_of_false (by rintro ⟨⟩) fun h => hmemory h.allocated, by rintro ⟨⟩⟩

/-- What a streamed copy is for: it ends, and with 0 only if the destination accepted just the bytes of the
source. -/
def StreamedCopyFaithful (params : GfaltParams) (src dst : CString) (context : Gfal2Context StreamWorld) : Prop :=
  ∀ fuel > context.world.rest.length, ∃ ret context', streamedCopy fuel params src dst context = .ok (ret, context') ∧
    (ret.val = 0 → context'.world.accepted = context.world.accepted ++ context.world.rest)

/-- The destination takes each chunk of the source in full. -/
def WritesInFull (answers : StreamAnswers) (context : Gfal2Context StreamWorld) : Prop :=
  ∀ i (h : i < (chunks answers (copyBuffersize context.config) context.world).length),
    (chunks answers (copyBuffersize context.config) context.world)[i].length ≤
      answers.writeSize (context.world.writes + i)

theorem taken_chunks_iff : taken answers.writeSize context.world.writes
      (chunks answers (copyBuffersize context.config) context.world) = context.world.rest ↔
    WritesInFull answers context := by
  have hall := taken_eq_flatten_iff answers.writeSize context.world.writes
    (chunks answers (copyBuffersize context.config) context.world)
  rw [show (chunks answers (copyBuffersize context.config) context.world).flatten = context.world.rest from
    flatten_pieces _ _ _] at hall
  exact hall

theorem not_streamedCopyFaithful (ends : CopyEnds answers context.pluginOpt src dst fSrc fDst source dest)
    {params : GfaltParams} (hcompletes : Completes answers params context) (hshort : ¬WritesInFull answers context) :
    ¬StreamedCopyFaithful params src dst context := by
  intro hfaithful
  obtain ⟨ret, context', hrun, hzero, haccepted⟩ := streamedCopy_spec ends params (Nat.lt_succ_self _)
  obtain ⟨ret', context'', hrun', hall⟩ := hfaithful _ (Nat.lt_succ_self _)
  rw [hrun] at hrun'
  cases hrun'
  have hval := hzero.mpr hcompletes
  rw [← taken_chunks_iff] at hshort
  exact hshort (List.append_cancel_left ((haccepted hval).symm.trans (hall hval)))

end Ends

/-- A streamed copy is faithful exactly if it does not complete, or its writes are never short. -/
theorem streamedCopy_faithful_iff {answers : StreamAnswers} {src dst : CString} {fSrc fDst : GfalFileHandle}
    {source dest : Slot} (params : GfaltParams) (context : Gfal2Context StreamWorld)
    (ends : CopyEnds answers context.pluginOpt src dst fSrc fDst source dest) :
    StreamedCopyFaithful params src dst context ↔ (Completes answers params context → WritesInFull answers context) := by
  constructor
  · intro hfaithful hcompletes
    by_contra hshort
    exact not_streamedCopyFaithful ends hcompletes hshort hfaithful
  · intro hfull fuel hfuel
    obtain ⟨ret, context', hrun, hzero, haccepted⟩ := streamedCopy_spec ends params hfuel
    refine ⟨ret, context', hrun, fun hval => ?_⟩
    rw [haccepted hval, taken_chunks_iff.mpr (hfull (hzero.mp hval))]

/-- A plugin that serves both ends. -/
def pipePlugin (answers : StreamAnswers) : GfalPluginInterface StreamWorld where
  getName := some (lit "pipe")
  checkPluginUrl := some fun _ _ _ => ⟨true, none⟩
  openG := some fun url _ _ =>
    if url = lit "in" then streamOpen answers.openSource ⟨lit "pipe", 0, none⟩
    else streamOpen answers.openDest ⟨lit "pipe", 1, none⟩
  readG := some fun _ size => streamRead answers size
  writeG := some fun _ buff => streamWrite answers buff
  closeG := some fun fh =>
    if fh.fdesc = 0 then streamClose answers.closeSource else streamClose answers.closeDest

def pipeContext (answers : StreamAnswers) : Gfal2Context StreamWorld where
  pluginOpt := { pluginList := fun _ => pipePlugin answers, sortedPlugin := [0], pluginNumber := 1 }
  world := { rest := [1, 2, 3] }

theorem copyEnds_pipe (answers : StreamAnswers) : CopyEnds answers (pipeContext answers).pluginOpt (lit "in")
    (lit "out") ⟨lit "pipe", 0, none⟩ ⟨lit "pipe", 1, none⟩ 0 0 where
  find_source := by
    rintro ⟨opts⟩ rfl
    rfl
  find_dest := by
    rintro ⟨opts⟩ rfl
    rfl
  map_source := by
    rintro ⟨opts⟩ rfl
    rfl
  map_dest := by
    rintro ⟨opts⟩ rfl
    rfl
  open_source := ⟨_, rfl, fun _ => rfl⟩
  open_dest := ⟨_, rfl, fun _ => rfl⟩
  read_source := ⟨_, rfl, fun _ => rfl⟩
  write_dest := ⟨_, rfl, fun _ => rfl⟩
  close_source := ⟨_, rfl, rfl⟩
  close_dest := ⟨_, rfl, rfl⟩

/-- Ends that read four bytes at a time and take `count` of those offered. -/
def steadyAnswers (count : Nat) : StreamAnswers where
  read := fun _ => .ok 4
  write := fun _ => .ok count

theorem completes_steady (count : Nat) : Completes (steadyAnswers count) {} (pipeContext (steadyAnswers count)) where
  allocated := by
    show posixMemalign (2 ^ 32) 512 4194304 = 0
    decide
  openSource := rfl
  openDest := rfl
  opened := by
    have hnonempty : 0 < copyBuffersize {} := by decide
    have htime : (0 : Int) < 0 + (3600 : Nat) := by decide
    exact ⟨hnonempty, ⟨fun _ _ => rfl, fun _ _ => rfl, fun _ _ => rfl, fun _ _ => htime⟩, rfl, rfl⟩

theorem chunks_steady (count : Nat) :
    chunks (steadyAnswers count) (copyBuffersize (pipeContext (steadyAnswers count)).config)
      (pipeContext (steadyAnswers count)).world = [[1, 2, 3]] := by
  have hsize : 0 < (steadyAnswers count).readSize (copyBuffersize {}) 0 := readSize_pos _ (by decide) 0
  exact (pieces_of_ne_nil (List.cons_ne_nil 1 [2, 3]) hsize).trans (congrArg _ (pieces_nil _ _))

theorem streamedCopy_faithful_iff_steady :
    StreamedCopyFaithful {} (lit "in") (lit "out") (pipeContext (steadyAnswers 3)) := by
  refine (streamedCopy_faithful_iff {} (pipeContext (steadyAnswers 3)) (copyEnds_pipe (steadyAnswers 3))).mpr
    fun _ => ?_
  unfold WritesInFull
  rw [chunks_steady]
  decide

/-- A destination that takes one byte of each write. -/
theorem streamedCopy_loses_bytes : ¬StreamedCopyFaithful {} (lit "in") (lit "out") (pipeContext (steadyAnswers 1)) := by
  refine not_streamedCopyFaithful (copyEnds_pipe (steadyAnswers 1)) (completes_steady 1) fun hfull => ?_
  unfold WritesInFull at hfull
  rw [chunks_steady] at hfull
  exact absurd (hfull 0 (by decide)) (by decide)

end Gfal2
