import Gfal2.FileIo
import Gfal2.DescriptorCalls

/-! Results of 64 bits on their way up. What a system call or a plugin returns for a file reaches the application as it
is exactly if it fits into 32 bits: the dispatchers of `read`, `write` and `lseek` keep it in an `int`, and so do the
file plugin, the SRM plugin, `gfal2_pwrite` and the POSIX wrapper. Only `pread` on a local file has no `int` on its way.
A positional write through SRM is a seek and a write, so that its offset has to fit as well. -/

namespace Gfal2

open Base

variable {σ : Type}

/-- The callbacks of a plugin on open files. -/
structure IoCallbacks (σ : Type) where
  lseekG : GfalFileHandle → Int → Int → Callback σ (Ret Int)
  readG : GfalFileHandle → Nat → Callback σ (Ret (Int × List UInt8))
  writeG : GfalFileHandle → List UInt8 → Callback σ (Ret Int)
  preadG : Option (GfalFileHandle → Nat → Int → Callback σ (Ret (Int × List UInt8)))

/-- A call fails with a negative result and an error, and a seek to an offset gets there or returns -1. -/
structure IoCallbacks.Honest (io : IoCallbacks σ) : Prop where
  lseek : ∀ fh offset whence world,
    (io.lseekG fh offset whence world).1.err.isSome ↔ (io.lseekG fh offset whence world).1.val < 0
  sought : ∀ fh offset world, (io.lseekG fh offset 0 world).1.val = -1 ∨
    0 ≤ offset ∧ (io.lseekG fh offset 0 world).1.val = offset
  read : ∀ fh size world, (io.readG fh size world).1.err.isSome ↔ (io.readG fh size world).1.val.1 < 0
  write : ∀ fh buff world, (io.writeG fh buff world).1.err.isSome ↔ (io.writeG fh buff world).1.val < 0
  pread : ∀ call ∈ io.preadG, ∀ fh size offset world,
    (call fh size offset world).1.err.isSome ↔ (call fh size offset world).1.val.1 < 0

/-- An open file: a local one, or a handle of the SRM plugin on a file of another plugin. -/
inductive OpenFile (σ : Type) where
  | onDisk (slot : Slot) (os : SystemCalls σ)
  | behindSrm (srm : SrmModule) (slot : Slot) (io : IoCallbacks σ)

/-- The value of an `int`. -/
def Narrow (r : Int) : Prop := -2 ^ 31 ≤ r ∧ r < 2 ^ 31

/-- What a positional call returns that is made of a seek and a read or write. -/
def positionalResult (sought moved : Int) : Int := if sought < 0 then sought else moved

namespace IoCallbacks

variable (io : IoCallbacks σ) (fh : GfalFileHandle) (world : σ)

/-- What a plugin returns for a call. One without `pread` is asked to seek and to read, and every one to seek and to
write for a `pwrite`. -/
def result : IoCall → Int
  | .lseek offset whence => (io.lseekG fh offset whence world).1.val
  | .read size => (io.readG fh size world).1.val.1
  | .write buff => (io.writeG fh buff world).1.val
  | .pread size offset =>
      match io.preadG with
      | some call => (call fh size offset world).1.val.1
      | none =>
          positionalResult (io.lseekG fh offset 0 world).1.val
            (io.readG fh size (io.lseekG fh offset 0 world).2).1.val.1
  | .pwrite buff offset =>
      positionalResult (io.lseekG fh offset 0 world).1.val (io.writeG fh buff (io.lseekG fh offset 0 world).2).1.val

/-- The calls whose result comes through. A seek to -1 that fails passes for one that got there, and one that gets
beyond 32 bits for one that got elsewhere. -/
def Fits (call : IoCall) : Prop :=
  Narrow (io.result fh world call) ∧
  match call with
  | .pread size offset =>
      io.preadG = none → offset = -1 → toInt32 (io.readG fh size (io.lseekG fh offset 0 world).2).1.val.1 = -1
  | .pwrite buff offset =>
      (offset = -1 → toInt32 (io.writeG fh buff (io.lseekG fh offset 0 world).2).1.val = -1) ∧
        (2 ^ 31 ≤ offset → io.result fh world call = -1)
  | _ => True

end IoCallbacks

def SystemCalls.result (os : SystemCalls σ) (fd : Nat) (world : σ) : IoCall → Int
  | .lseek offset whence => (os.lseek fd offset whence world).1.1
  | .read size => (os.read fd size world).1.1.1
  | .write buff => (os.write fd buff world).1.1
  | .pread size offset => (os.pread fd size offset world).1.1.1
  | .pwrite buff offset => (os.pwrite fd buff offset world).1.1

namespace OpenFile

/-- The way the library looks the callbacks up. -/
def ioMap : OpenFile σ → IoMap σ
  | .onDisk .. => mapPluginIo
  | .behindSrm srm .. => mapSrmIo srm

/-- What the system or the plugin returns for a call on a handle. -/
def result (fh : GfalFileHandle) (world : σ) : OpenFile σ → IoCall → Int
  | .onDisk _ os => os.result fh.fdesc world
  | .behindSrm srm _ io => io.result (srm.internalHandle fh.fdesc) world

/-- The calls whose result comes through: those with a result of 32 bits, and `pread` on a local file. -/
def Fits (fh : GfalFileHandle) (world : σ) : OpenFile σ → IoCall → Prop
  | .onDisk .., .pread .. => True
  | .onDisk _ os, call => Narrow (os.result fh.fdesc world call)
  | .behindSrm srm _ io, call => io.Fits (srm.internalHandle fh.fdesc) world call

/-- The handle is found to belong to the plugin in the slot, whatever else the context holds. -/
def Belongs (opts : GfalPluginOpts σ) (fh : GfalFileHandle) (slot : Slot) : Prop :=
  ∀ context, context.pluginOpt = opts → gfalPluginMapFileHandle fh context = .ok (⟨some slot, none⟩, context)

/-- The plugins serve the handle as that file. -/
def Serves (opts : GfalPluginOpts σ) (fh : GfalFileHandle) : OpenFile σ → Prop
  | .onDisk slot os => Belongs opts fh slot ∧ ServesFiles os (opts.pluginList slot)
  | .behindSrm srm slot io =>
      Belongs opts fh srm.slot ∧ Belongs opts (srm.internalHandle fh.fdesc) slot ∧ io.Honest ∧
        (opts.pluginList slot).lseekG = some io.lseekG ∧ (opts.pluginList slot).readG = some io.readG ∧
          (opts.pluginList slot).writeG = some io.writeG ∧ (opts.pluginList slot).preadG = io.preadG

end OpenFile

/-- The descriptor is open, and no operation is cancelled. -/
structure Opened (context : Gfal2Context σ) (fd : Int) (fh : GfalFileHandle) : Prop where
  positive : 0 < fd
  bound : context.fdescs.lookup fd = some fh
  clear : context.readings.cancel context.cancelReads = false

/-- The call is passed on: a read or write has something to do, also the write that SRM makes of a `pwrite`. -/
def OpenFile.Asks : OpenFile σ → IoCall → Prop
  | _, .read size => size ≠ 0
  | _, .write buff => buff ≠ []
  | .behindSrm .., .pwrite buff _ => buff ≠ []
  | _, _ => True

/-- The library itself, or its POSIX wrapper. -/
inductive IoLayer where
  | gfal2 | posix

def IoLayer.run (map : IoMap σ) (fd : Int) (call : IoCall) : IoLayer → Gfal σ (Ret (Int × List UInt8))
  | .gfal2 => call.gfal2 map fd
  | .posix => call.posix map fd

/-- A result that came through. -/
def Survives (ret : Ret (Int × List UInt8)) (r : Int) : Prop := ret.val.1 = r ∧ (ret.err.isSome ↔ r < 0)

/-! ### One layer after the other -/

theorem toInt32_eq_self_iff {r : Int} : toInt32 r = r ↔ Narrow r := by
  rw [toInt32, Narrow]
  constructor
  · intro h
    have hle := Int.le_bmod (x := r) (m := 2 ^ 32) (by decide)
    have hlt := Int.bmod_lt (x := r) (m := 2 ^ 32) (by decide)
    omega
  · rintro ⟨hle, hlt⟩
    exact Int.bmod_eq_of_le (by omega) (by omega)

theorem narrow_toInt32 (r : Int) : Narrow (toInt32 r) := by
  have hle := Int.le_bmod (x := r) (m := 2 ^ 32) (by decide)
  have hlt := Int.bmod_lt (x := r) (m := 2 ^ 32) (by decide)
  rw [toInt32, Narrow]
  omega

@[simp] theorem toInt32_toInt32 (r : Int) : toInt32 (toInt32 r) = toInt32 r := toInt32_eq_self_iff.mpr (narrow_toInt32 r)

theorem toInt32_thrice (r : Int) : toInt32 (toInt32 (toInt32 r)) = toInt32 r := by
  rw [toInt32_toInt32, toInt32_toInt32]

/-- A result cut to 32 bits comes through if nothing is cut off, whether the failure was seen before the cut or after
it. -/
theorem survives_narrowed {ret : Ret (Int × List UInt8)} {r : Int} (hval : ret.val.1 = toInt32 r)
    (herr : (ret.err.isSome ↔ r < 0) ∨ (ret.err.isSome ↔ toInt32 r < 0)) : Survives ret r ↔ Narrow r := by
  rw [Survives, hval, ← toInt32_eq_self_iff]
  refine and_iff_left_of_imp fun heq => ?_
  rw [heq] at herr
  exact herr.elim id id

/-- What calls on open files leave as it is. -/
structure Kept (context' context : Gfal2Context σ) : Prop where
  pluginOpt : context'.pluginOpt = context.pluginOpt
  fdescs : context'.fdescs = context.fdescs
  readings : context'.readings = context.readings

theorem Kept.trans {first second third : Gfal2Context σ} (h : Kept third second) (h' : Kept second first) :
    Kept third first :=
  ⟨h.pluginOpt.trans h'.pluginOpt, h.fdescs.trans h'.fdescs, h.readings.trans h'.readings⟩

/-- The computation returns that and leaves the world so. -/
def RunsTo {α : Type} (computation : Gfal σ α) (context : Gfal2Context σ) (answer : α) (world : σ) : Prop :=
  ∃ context', computation context = .ok (answer, context') ∧ context'.world = world ∧ Kept context' context

section
variable {α β : Type} {context : Gfal2Context σ} {world : σ} {opts : GfalPluginOpts σ} {fh : GfalFileHandle}
  {slot : Slot} {io : HandleIo σ} {map : IoMap σ} {fd offset whence value : Int} {size : Nat} {buff bytes : List UInt8}
  {e : Option GError} {failure : α}

theorem RunsTo.bind {computation : Gfal σ α} {next : α → Gfal σ β} {answer : α} {result : β} {middle : σ}
    (h : RunsTo computation context answer middle)
    (hnext : ∀ context', context'.world = middle → Kept context' context →
      RunsTo (next answer) context' result world) : RunsTo (computation >>= next) context result world := by
  obtain ⟨context', hrun, hworld, hkept⟩ := h
  obtain ⟨context'', hrun', hworld', hkept'⟩ := hnext context' hworld hkept
  exact ⟨context'', by rw [Exec.bind_of_ok hrun, hrun'], hworld', hkept'.trans hkept⟩

theorem runsTo_pure (answer : α) : RunsTo (pure answer) context answer context.world := ⟨context, rfl, rfl, rfl, rfl, rfl⟩

theorem RunsTo.then_pure {computation : Gfal σ α} {answer : α} (h : RunsTo computation context answer world)
    (f : α → β) : RunsTo (do let found ← computation; return f found) context (f answer) world := by
  refine h.bind fun context' hworld _ => ?_
  rw [← hworld]
  exact runsTo_pure (f answer)

theorem runsTo_callPlugin (slot : Slot) (which : PluginCallback) (call : Callback σ α) :
    RunsTo (callPlugin slot which (some call)) context (call context.world).1 (call context.world).2 :=
  ⟨_, rfl, rfl, rfl, rfl, rfl⟩

theorem RunsTo.narrowed {result : Gfal σ (Ret Int)} {ret : Ret Int} (h : RunsTo result context ret world) :
    RunsTo (narrowed result) context ⟨toInt32 ret.val, ret.err⟩ world :=
  h.then_pure fun answer => (⟨toInt32 answer.val, answer.err⟩ : Ret Int)

theorem RunsTo.narrowedRead {result : Gfal σ (Ret (Int × List UInt8))} {ret : Ret (Int × List UInt8)}
    (h : RunsTo result context ret world) :
    RunsTo (narrowedRead result) context ⟨(toInt32 ret.val.1, ret.val.2), ret.err⟩ world :=
  h.then_pure fun answer => (⟨(toInt32 answer.val.1, answer.val.2), answer.err⟩ : Ret (Int × List UInt8))

theorem RunsTo.withoutBytes {result : Gfal σ (Ret Int)} (h : RunsTo result context ⟨value, e⟩ world) :
    RunsTo (withoutBytes result) context ⟨(value, []), e⟩ world :=
  h.then_pure fun answer => (⟨(answer.val, []), answer.err⟩ : Ret (Int × List UInt8))

/-- A scope that is not cancelled returns what its body does. -/
theorem RunsTo.scope {body : Gfal σ (Ret α)} {ret : Ret α} (hopened : Opened context fd fh)
    (h : RunsTo body context.inScope ret world) : RunsTo (scopeCancel failure body) context ret world := by
  obtain ⟨context', hrun, hworld, hkept⟩ := h
  exact ⟨context'.afterScope, scopeCancel_of_body hopened.clear hrun, hworld, hkept.pluginOpt, hkept.fdescs, hkept.readings⟩

/-- The handle leads to those callbacks, whatever else the context holds. -/
def Leads (opts : GfalPluginOpts σ) (map : IoMap σ) (fh : GfalFileHandle) (io : HandleIo σ) : Prop :=
  ∀ context, context.pluginOpt = opts → map fh context = .ok (⟨some io, none⟩, context)

theorem Leads.onIo (h : Leads opts map fh io) (hopts : context.pluginOpt = opts)
    {use : HandleIo σ → Gfal σ (Ret α)} : onIo map fh failure use context = use io context := by
  rw [Gfal2.onIo, Exec.bind_of_ok (h context hopts)]

theorem leads_plugin (h : OpenFile.Belongs opts fh slot) :
    Leads opts mapPluginIo fh (pluginIo slot (opts.pluginList slot) fh) := by
  intro context hopts
  rw [mapPluginIo, Exec.bind_of_ok (h context hopts)]
  show (pluginAt slot >>= _) context = _
  rw [Exec.bind_of_ok (show pluginAt slot context = .ok (opts.pluginList slot, context) by rw [← hopts]; rfl)]
  rfl

theorem leads_srm {srm : SrmModule} (h : OpenFile.Belongs opts fh srm.slot) :
    Leads opts (mapSrmIo srm) fh (gfalSrmIo (srm.internalHandle fh.fdesc)) := by
  intro context hopts
  rw [mapSrmIo, Exec.bind_of_ok (h context hopts)]
  show (if srm.slot = srm.slot then _ else _ : Gfal σ _) context = _
  rw [if_pos rfl]
  rfl

theorem Leads.runsTo {ret : Ret α} {use : HandleIo σ → Gfal σ (Ret α)} (h : Leads opts map fh io)
    (hopts : context.pluginOpt = opts) (huse : RunsTo (use io) context ret world) :
    RunsTo (Gfal2.onIo map fh failure use) context ret world := by
  rw [RunsTo, h.onIo hopts]
  exact huse

theorem Opened.runsTo {ret : Ret α} {use : GfalFileHandle → Gfal σ (Ret α)} (h : Opened context fd fh)
    (huse : RunsTo (use fh) context.inScope ret world) :
    RunsTo (onDescriptor fd failure use) context.inScope ret world := by
  have hbound : context.inScope.fdescs.lookup fd = some fh := h.bound
  rw [RunsTo, onDescriptor_of_bound h.positive.ne' hbound]
  exact huse

end

/-! ### The calls of either layer -/

section
variable {context : Gfal2Context σ} {world : σ} {opts : GfalPluginOpts σ} {fh : GfalFileHandle} {io : HandleIo σ}
  {map : IoMap σ} {fd offset whence value : Int} {size : Nat} {buff bytes : List UInt8} {e : Option GError}
  {moved : Ret Int} {ret : Ret (Int × List UInt8)}

section Dispatched

variable (hmap : Leads opts map fh io) (hopts : context.pluginOpt = opts)
include hmap hopts

theorem runsTo_dispatchLseekG (h : RunsTo (io.lseekG offset whence) context moved world) :
    RunsTo (dispatchLseekG map fh offset whence) context ⟨toInt32 moved.val, moved.err⟩ world :=
  RunsTo.narrowed (hmap.runsTo hopts h)

theorem runsTo_dispatchReadG (hsize : size ≠ 0) (h : RunsTo (io.readG size) context ret world) :
    RunsTo (dispatchReadG map fh size) context ⟨(toInt32 ret.val.1, ret.val.2), ret.err⟩ world := by
  rw [dispatchReadG, if_neg hsize]
  exact RunsTo.narrowedRead (hmap.runsTo hopts h)

theorem runsTo_dispatchWriteG (hbuff : buff ≠ []) (h : RunsTo (io.writeG buff) context moved world) :
    RunsTo (dispatchWriteG map fh buff) context ⟨toInt32 moved.val, moved.err⟩ world := by
  rw [dispatchWriteG, if_neg hbuff]
  exact RunsTo.narrowed (hmap.runsTo hopts h)

theorem runsTo_dispatchPreadG
    (h : RunsTo (io.pread size offset) context ret world) : RunsTo (dispatchPreadG map fh size offset) context ret world :=
  Leads.runsTo hmap hopts h

theorem runsTo_dispatchPwriteG (h : RunsTo (io.pwrite buff offset) context moved world) :
    RunsTo (dispatchPwriteG map fh buff offset) context moved world :=
  Leads.runsTo hmap hopts h

end Dispatched

/-- The POSIX wrapper keeps what is an `int` already. -/
theorem IoLayer.runsTo (layer : IoLayer) (call : IoCall)
    (h : RunsTo (call.gfal2 map fd) context ⟨(toInt32 value, bytes), e⟩ world) :
    RunsTo (layer.run map fd call) context ⟨(toInt32 value, bytes), e⟩ world := by
  have hnarrowed : RunsTo (narrowedRead (call.gfal2 map fd)) context ⟨(toInt32 value, bytes), e⟩ world := by
    have hcut := h.narrowedRead
    rw [toInt32_toInt32] at hcut
    exact hcut
  cases layer with
  | gfal2 => exact h
  | posix =>
      cases call with
      | lseek => exact hnarrowed
      | read => exact hnarrowed
      | write => exact hnarrowed
      | pread => exact h
      | pwrite => exact h

variable (layer : IoLayer) (hopened : Opened context fd fh) (hmap : Leads opts map fh io) (hopts : context.pluginOpt = opts)
include hopened hmap hopts

theorem runsTo_lseek (h : RunsTo (io.lseekG offset whence) context.inScope moved world) :
    RunsTo (layer.run map fd (.lseek offset whence)) context ⟨(toInt32 moved.val, []), moved.err⟩ world := by
  apply layer.runsTo
  refine RunsTo.withoutBytes ?_
  rw [gfal2Lseek, if_neg (by have := hopened.positive; omega)]
  exact RunsTo.scope hopened (hopened.runsTo (runsTo_dispatchLseekG hmap hopts h))

theorem runsTo_read (hsize : size ≠ 0) (h : RunsTo (io.readG size) context.inScope ret world) :
    RunsTo (layer.run map fd (.read size)) context ⟨(toInt32 ret.val.1, ret.val.2), ret.err⟩ world := by
  apply layer.runsTo
  show RunsTo (gfal2ReadIo map fd size) _ _ _
  rw [gfal2ReadIo, onFile, if_neg (by have := hopened.positive; omega)]
  exact RunsTo.scope hopened (hopened.runsTo (runsTo_dispatchReadG hmap hopts hsize h))

theorem runsTo_write (hbuff : buff ≠ []) (h : RunsTo (io.writeG buff) context.inScope moved world) :
    RunsTo (layer.run map fd (.write buff)) context ⟨(toInt32 moved.val, []), moved.err⟩ world := by
  apply layer.runsTo
  refine RunsTo.withoutBytes ?_
  rw [gfal2WriteIo, onFile, if_neg (by have := hopened.positive; omega)]
  exact RunsTo.scope hopened (hopened.runsTo (runsTo_dispatchWriteG hmap hopts hbuff h))

/-- Neither layer keeps the result of `pread` in an `int`. -/
theorem runsTo_pread (h : RunsTo (io.pread size offset) context.inScope ret world) :
    RunsTo (layer.run map fd (.pread size offset)) context ret world := by
  have hgfal : RunsTo (gfal2Pread map fd size offset) context ret world := by
    rw [gfal2Pread, onFile, if_neg (by have := hopened.positive; omega)]
    exact RunsTo.scope hopened (hopened.runsTo (runsTo_dispatchPreadG hmap hopts h))
  cases layer with
  | gfal2 => exact hgfal
  | posix => exact hgfal

theorem runsTo_pwrite (h : RunsTo (io.pwrite buff offset) context.inScope moved world) :
    RunsTo (layer.run map fd (.pwrite buff offset)) context ⟨(toInt32 moved.val, []), moved.err⟩ world := by
  apply layer.runsTo
  refine RunsTo.withoutBytes ?_
  rw [gfal2Pwrite, if_neg (by have := hopened.positive; omega)]
  exact RunsTo.scope hopened (hopened.runsTo (RunsTo.narrowed (runsTo_dispatchPwriteG hmap hopts h)))

end

/-! ### What the callbacks return -/

section
variable {context : Gfal2Context σ} {fh : GfalFileHandle} {plugin : GfalPluginInterface σ} {slot : Slot}

theorem runsTo_lseekG {call : GfalFileHandle → Int → Int → Callback σ (Ret Int)} (h : plugin.lseekG = some call)
    (offset whence : Int) : RunsTo ((pluginIo slot plugin fh).lseekG offset whence) context
      (call fh offset whence context.world).1 (call fh offset whence context.world).2 := by
  show RunsTo (callPlugin slot .lseekG (plugin.lseekG.map (· fh offset whence))) _ _ _
  rw [h]
  exact runsTo_callPlugin slot .lseekG _

theorem runsTo_readG {call : GfalFileHandle → Nat → Callback σ (Ret (Int × List UInt8))} (h : plugin.readG = some call)
    (size : Nat) : RunsTo ((pluginIo slot plugin fh).readG size) context
      (call fh size context.world).1 (call fh size context.world).2 := by
  show RunsTo (callPlugin slot .readG (plugin.readG.map (· fh size))) _ _ _
  rw [h]
  exact runsTo_callPlugin slot .readG _

theorem runsTo_writeG {call : GfalFileHandle → List UInt8 → Callback σ (Ret Int)} (h : plugin.writeG = some call)
    (buff : List UInt8) : RunsTo ((pluginIo slot plugin fh).writeG buff) context
      (call fh buff context.world).1 (call fh buff context.world).2 := by
  show RunsTo (callPlugin slot .writeG (plugin.writeG.map (· fh buff))) _ _ _
  rw [h]
  exact runsTo_callPlugin slot .writeG _

theorem runsTo_preadG {call : GfalFileHandle → Nat → Int → Callback σ (Ret (Int × List UInt8))}
    (h : plugin.preadG = some call) (size : Nat) (offset : Int) :
    RunsTo ((pluginIo slot plugin fh).pread size offset) context
      (call fh size offset context.world).1 (call fh size offset context.world).2 := by
  rw [HandleIo.pread, pluginIo, h]
  exact runsTo_callPlugin slot .preadG _

theorem runsTo_pwriteG {call : GfalFileHandle → List UInt8 → Int → Callback σ (Ret Int)}
    (h : plugin.pwriteG = some call) (buff : List UInt8) (offset : Int) :
    RunsTo ((pluginIo slot plugin fh).pwrite buff offset) context
      (call fh buff offset context.world).1 (call fh buff offset context.world).2 := by
  rw [HandleIo.pwrite, pluginIo, h]
  exact runsTo_callPlugin slot .pwriteG _

end

theorem error_isSome_iff (os : SystemCalls σ) (ret errno : Int) :
    (gfalPluginFileReportError os ret errno).isSome ↔ ret < 0 := by
  rw [gfalPluginFileReportError]
  split <;> simp_all

/-! ### Local files -/

/-- A call on a local file returns what the system returned, cut to 32 bits unless the call is `pread`. -/
theorem onDisk_runsTo {context : Gfal2Context σ} {opts : GfalPluginOpts σ} {fh : GfalFileHandle} {fd : Int} {slot : Slot}
    {os : SystemCalls σ} (layer : IoLayer) (call : IoCall) (hasks : (OpenFile.onDisk slot os).Asks call) (hopened : Opened context fd fh)
    (hopts : context.pluginOpt = opts) (hserves : (OpenFile.onDisk slot os).Serves opts fh) :
    ∃ ret world, RunsTo (layer.run mapPluginIo fd call) context ret world ∧
      (Survives ret (os.result fh.fdesc context.world call) ↔ (OpenFile.onDisk slot os).Fits fh context.world call) := by
  obtain ⟨hbelongs, hcalls⟩ := hserves
  have hlead := leads_plugin hbelongs
  cases call with
  | lseek offset whence =>
      exact ⟨_, _, runsTo_lseek layer hopened hlead hopts (runsTo_lseekG hcalls.lseekG offset whence),
        survives_narrowed (toInt32_toInt32 _) (.inr (error_isSome_iff os _ _))⟩
  | read size =>
      exact ⟨_, _, runsTo_read layer hopened hlead hopts hasks (runsTo_readG hcalls.readG size),
        survives_narrowed (toInt32_toInt32 _) (.inr (error_isSome_iff os _ _))⟩
  | write buff =>
      exact ⟨_, _, runsTo_write layer hopened hlead hopts hasks (runsTo_writeG hcalls.writeG buff),
        survives_narrowed (toInt32_toInt32 _) (.inr (error_isSome_iff os _ _))⟩
  | pread size offset =>
      exact ⟨_, _, runsTo_pread layer hopened hlead hopts (runsTo_preadG hcalls.preadG size offset),
        iff_of_true ⟨rfl, error_isSome_iff os _ _⟩ trivial⟩
  | pwrite buff offset =>
      exact ⟨_, _, runsTo_pwrite layer hopened hlead hopts (runsTo_pwriteG hcalls.pwriteG buff offset),
        survives_narrowed rfl (.inl (error_isSome_iff os _ _))⟩

/-! ### Files behind SRM -/

/-- What a simulated positional call returns, given what the seek and the read or write return. -/
def simulated {α : Type} (offset : Int) (failed : Int → α) (sought : Ret Int) (moved : Ret α) : Ret α :=
  if sought.val = offset then ⟨moved.val, sought.err.or moved.err⟩
  else if sought.err.isSome then ⟨failed sought.val, sought.err⟩
  else ⟨failed (-1), some unknownLseekReturn⟩

theorem runsTo_simulateAt {α : Type} {context : Gfal2Context σ} {middle world : σ} {io : HandleIo σ} {offset : Int}
    {failed : Int → α} {use : Gfal σ (Ret α)} {sought : Ret Int} {moved : Ret α}
    (hsought : RunsTo (io.lseekG offset 0) context sought middle)
    (huse : ∀ context', context'.world = middle → Kept context' context → RunsTo use context' moved world) :
    RunsTo (simulateAt io offset failed use) context (simulated offset failed sought moved)
      (if sought.val = offset then world else middle) := by
  rw [simulated]
  refine hsought.bind fun context' hworld hkept => ?_
  by_cases hval : sought.val = offset
  · rw [if_pos hval, if_pos hval, if_pos hval]
    exact (huse context' hworld hkept).then_pure fun answer => (⟨answer.val, sought.err.or answer.err⟩ : Ret α)
  · rw [if_neg hval, if_neg hval, if_neg hval]
    split
    · exact hworld ▸ runsTo_pure _
    · exact hworld ▸ runsTo_pure _

/-- A seek to an offset fails with -1, or gets there without an error. -/
theorem IoCallbacks.Honest.seek_cases {io : IoCallbacks σ} (h : io.Honest) (fh : GfalFileHandle) (offset : Int) (world : σ) :
    (∃ e, (io.lseekG fh offset 0 world).1 = ⟨-1, some e⟩) ∨ (0 ≤ offset ∧ (io.lseekG fh offset 0 world).1 = ⟨offset, none⟩) := by
  have herr := h.lseek fh offset 0 world
  have hsought := h.sought fh offset world
  cases hanswer : (io.lseekG fh offset 0 world).1 with
  | mk val err =>
      rw [hanswer] at herr hsought
      cases err with
      | some e =>
          have hneg : val < 0 := herr.mp rfl
          obtain hval | ⟨hle, hval⟩ := hsought
          · exact .inl ⟨e, by rw [show val = -1 from hval]⟩
          · exact absurd (show val = offset from hval) (by omega)
      | none =>
          have hpos : ¬val < 0 := fun hneg => by cases herr.mpr hneg
          obtain hval | ⟨hle, hval⟩ := hsought
          · exact absurd (show val = -1 from hval) (by omega)
          · exact .inr ⟨hle, by rw [show val = offset from hval]⟩

/-- The count of a simulated read is that of a simulated call without bytes. -/
theorem simulated_count (offset : Int) (sought : Ret Int) (moved : Ret (Int × List UInt8)) :
    (simulated offset (fun ret => (ret, [])) sought moved).val.1 = (simulated offset id sought ⟨moved.val.1, moved.err⟩).val ∧
      (simulated offset (fun ret => (ret, [])) sought moved).err = (simulated offset id sought ⟨moved.val.1, moved.err⟩).err := by
  rw [simulated, simulated]
  split
  · exact ⟨rfl, rfl⟩
  · split
    · exact ⟨rfl, rfl⟩
    · exact ⟨rfl, rfl⟩

section
variable {offset : Int} {sought moved : Ret Int} {bytes : List UInt8}

/-- A simulated call that is handed on without a cut of the seek. -/
theorem survives_simulated (hsought : (∃ e, sought = ⟨-1, some e⟩) ∨ (0 ≤ offset ∧ sought = ⟨offset, none⟩))
    (hmoved : moved.err.isSome ↔ moved.val < 0) :
    Survives ⟨(toInt32 (simulated offset id sought moved).val, bytes), (simulated offset id sought moved).err⟩
        (positionalResult sought.val moved.val) ↔
      Narrow (positionalResult sought.val moved.val) ∧ (offset = -1 → toInt32 moved.val = -1) := by
  obtain ⟨e, rfl⟩ | ⟨hle, rfl⟩ := hsought
  · have hnarrow : Narrow (positionalResult (-1) moved.val) := by rw [positionalResult, Narrow, if_pos (by omega)]; omega
    rw [and_iff_right hnarrow, simulated]
    show Survives _ (-1) ↔ _
    by_cases hoffset : offset = -1
    · rw [if_pos hoffset.symm]
      exact ⟨fun h _ => h.1, fun h => ⟨h hoffset, iff_of_true rfl (by decide)⟩⟩
    · rw [if_neg fun heq => hoffset heq.symm, if_pos (by rfl)]
      exact iff_of_true ⟨toInt32_neg_one, iff_of_true rfl (by decide)⟩ fun h => absurd h hoffset
  · have hpos : ¬(⟨offset, none⟩ : Ret Int).val < 0 := not_lt_of_ge hle
    rw [and_iff_left fun h => absurd h (by omega), simulated, if_pos rfl, positionalResult, if_neg hpos]
    exact survives_narrowed rfl (.inl (by rw [Option.none_or]; exact hmoved))

/-- A simulated call that sees the seek and the move cut: a seek whose result was cut to another offset is an error of
its own, and nothing is moved. -/
theorem survives_simulated_cut (hsought : (∃ e, sought = ⟨-1, some e⟩) ∨ (0 ≤ offset ∧ sought = ⟨offset, none⟩))
    (hmoved : moved.err.isSome ↔ moved.val < 0) :
    Survives ⟨(toInt32 (simulated offset id ⟨toInt32 sought.val, sought.err⟩ ⟨toInt32 moved.val, moved.err⟩).val, bytes),
        (simulated offset id ⟨toInt32 sought.val, sought.err⟩ ⟨toInt32 moved.val, moved.err⟩).err⟩
        (positionalResult sought.val moved.val) ↔
      Narrow (positionalResult sought.val moved.val) ∧ (offset = -1 → toInt32 moved.val = -1) ∧
        (2 ^ 31 ≤ offset → positionalResult sought.val moved.val = -1) := by
  by_cases hfits : toInt32 sought.val = sought.val
  · -- the seek as it is: only the count of the move is cut before the simulation sees it
    have hcount : toInt32 (simulated offset id sought ⟨toInt32 moved.val, moved.err⟩).val =
        toInt32 (simulated offset id sought moved).val := by
      rw [simulated, simulated]
      split
      · exact toInt32_toInt32 _
      · rfl
    have herr : (simulated offset id sought ⟨toInt32 moved.val, moved.err⟩).err = (simulated offset id sought moved).err := by
      rw [simulated, simulated]
      split
      · rfl
      · rfl
    have hsame : Survives ⟨(toInt32 (simulated offset id sought moved).val, bytes), (simulated offset id sought moved).err⟩ _ ↔ _ :=
      survives_simulated hsought hmoved
    rw [hfits, hcount, herr, hsame, and_congr_right_iff]
    intro _
    refine (and_iff_left fun hlarge => ?_).symm
    obtain ⟨e, rfl⟩ | ⟨hle, rfl⟩ := hsought
    · rfl
    · have hnarrow : Narrow offset := toInt32_eq_self_iff.mp hfits
      rw [Narrow] at hnarrow
      omega
  · obtain ⟨e, rfl⟩ | ⟨hle, rfl⟩ := hsought
    · exact absurd toInt32_neg_one hfits
    · have hnarrow : ¬Narrow offset := fun h => hfits (toInt32_eq_self_iff.mpr h)
      have hlarge : 2 ^ 31 ≤ offset := by
        rw [Narrow] at hnarrow
        omega
      have hpos : ¬(⟨offset, none⟩ : Ret Int).val < 0 := not_lt_of_ge hle
      rw [simulated, if_neg hfits, if_neg (by simp), positionalResult, if_neg hpos]
      show toInt32 (-1) = moved.val ∧ (true = true ↔ moved.val < 0) ↔ _
      rw [toInt32_neg_one]
      constructor
      · exact fun h => ⟨by rw [← h.1, Narrow]; omega, fun hm => absurd hm (by omega), fun _ => h.1.symm⟩
      · exact fun h => ⟨(h.2.2 hlarge).symm, iff_of_true rfl (by have := h.2.2 hlarge; omega)⟩

end

section
variable {context : Gfal2Context σ} {fh : GfalFileHandle} {plugin : GfalPluginInterface σ} {slot : Slot}
  {lseek : GfalFileHandle → Int → Int → Callback σ (Ret Int)}

/-- A `pread` of a plugin without one. -/
theorem runsTo_pread_simulated {read : GfalFileHandle → Nat → Callback σ (Ret (Int × List UInt8))}
    (hlseek : plugin.lseekG = some lseek) (hread : plugin.readG = some read) (hpread : plugin.preadG = none)
    (size : Nat) (offset : Int) :
    RunsTo ((pluginIo slot plugin fh).pread size offset) context
      (simulated offset (fun ret => (ret, [])) (lseek fh offset 0 context.world).1
        (read fh size (lseek fh offset 0 context.world).2).1)
      (if (lseek fh offset 0 context.world).1.val = offset then (read fh size (lseek fh offset 0 context.world).2).2
      else (lseek fh offset 0 context.world).2) := by
  have hnone : (pluginIo slot plugin fh).preadG = none := by rw [pluginIo, hpread, Option.map_none]
  rw [HandleIo.pread, hnone]
  exact runsTo_simulateAt (runsTo_lseekG hlseek offset 0) fun context' hworld _ => hworld ▸ runsTo_readG hread size

/-- A `pwrite` of a plugin without one. -/
theorem runsTo_pwrite_simulated {write : GfalFileHandle → List UInt8 → Callback σ (Ret Int)}
    (hlseek : plugin.lseekG = some lseek) (hwrite : plugin.writeG = some write) (hpwrite : plugin.pwriteG = none)
    (buff : List UInt8) (offset : Int) :
    RunsTo ((pluginIo slot plugin fh).pwrite buff offset) context
      (simulated offset id (lseek fh offset 0 context.world).1 (write fh buff (lseek fh offset 0 context.world).2).1)
      (if (lseek fh offset 0 context.world).1.val = offset then (write fh buff (lseek fh offset 0 context.world).2).2
      else (lseek fh offset 0 context.world).2) := by
  have hnone : (pluginIo slot plugin fh).pwriteG = none := by rw [pluginIo, hpwrite, Option.map_none]
  rw [HandleIo.pwrite, hnone]
  exact runsTo_simulateAt (runsTo_lseekG hlseek offset 0) fun context' hworld _ => hworld ▸ runsTo_writeG hwrite buff

end

/-- A `pwrite` of the SRM plugin. -/
theorem runsTo_pwrite_srm {context : Gfal2Context σ} {opts : GfalPluginOpts σ} {inner : GfalFileHandle} {slot : Slot}
    {io : IoCallbacks σ} {buff : List UInt8} (hinner : Leads opts mapPluginIo inner (pluginIo slot (opts.pluginList slot) inner))
    (hopts : context.pluginOpt = opts) (hlseek : (opts.pluginList slot).lseekG = some io.lseekG)
    (hwrite : (opts.pluginList slot).writeG = some io.writeG) (hbuff : buff ≠ []) (offset : Int) :
    ∃ world, RunsTo ((gfalSrmIo inner).pwrite buff offset) context
      (simulated offset id
        ⟨toInt32 (io.lseekG inner offset 0 context.world).1.val, (io.lseekG inner offset 0 context.world).1.err⟩
        ⟨toInt32 (io.writeG inner buff (io.lseekG inner offset 0 context.world).2).1.val,
          (io.writeG inner buff (io.lseekG inner offset 0 context.world).2).1.err⟩) world := by
  have hsought : RunsTo ((gfalSrmIo inner).lseekG offset 0) context _ _ :=
    RunsTo.narrowed (runsTo_dispatchLseekG hinner hopts (runsTo_lseekG hlseek offset 0))
  rw [toInt32_toInt32] at hsought
  have hmoved : ∀ context', context'.world = (io.lseekG inner offset 0 context.world).2 →
      Kept context' context → RunsTo ((gfalSrmIo inner).writeG buff) context'
        ⟨toInt32 (io.writeG inner buff (io.lseekG inner offset 0 context.world).2).1.val,
          (io.writeG inner buff (io.lseekG inner offset 0 context.world).2).1.err⟩
        (io.writeG inner buff (io.lseekG inner offset 0 context.world).2).2 := by
    intro context' hworld hkept
    have h : RunsTo ((gfalSrmIo inner).writeG buff) context' _ _ :=
      RunsTo.narrowed (runsTo_dispatchWriteG hinner (hkept.pluginOpt.trans hopts) hbuff (runsTo_writeG hwrite buff))
    rw [toInt32_toInt32, hworld] at h
    exact h
  exact ⟨_, runsTo_simulateAt hsought hmoved⟩

/-- A call behind SRM returns what the plugin returned, cut to 32 bits. -/
theorem behindSrm_runsTo {context : Gfal2Context σ} {opts : GfalPluginOpts σ} {fh : GfalFileHandle} {fd : Int}
    {srm : SrmModule} {slot : Slot} {io : IoCallbacks σ} (layer : IoLayer) (call : IoCall)
    (hasks : (OpenFile.behindSrm srm slot io).Asks call) (hopened : Opened context fd fh) (hopts : context.pluginOpt = opts)
    (hserves : (OpenFile.behindSrm srm slot io).Serves opts fh) :
    ∃ ret world, RunsTo (layer.run (mapSrmIo srm) fd call) context ret world ∧
      (Survives ret (io.result (srm.internalHandle fh.fdesc) context.world call) ↔
        io.Fits (srm.internalHandle fh.fdesc) context.world call) := by
  obtain ⟨hsrm, hbelongs, honest, hlseek, hread, hwrite, hpread⟩ := hserves
  have hlead := leads_srm hsrm
  have hinner := leads_plugin hbelongs
  have hopts' : context.inScope.pluginOpt = opts := hopts
  generalize hhandle : srm.internalHandle fh.fdesc = inner at *
  cases call with
  | lseek offset whence =>
      have h := (runsTo_dispatchLseekG hinner hopts' (runsTo_lseekG hlseek offset whence)).narrowed
      refine ⟨_, _, runsTo_lseek layer hopened hlead hopts h, ?_⟩
      show Survives _ (io.lseekG inner offset whence context.world).1.val ↔ Narrow _ ∧ True
      rw [and_true]
      exact survives_narrowed (toInt32_thrice _) (.inl (honest.lseek _ _ _ _))
  | read size =>
      have h := (runsTo_dispatchReadG hinner hopts' hasks (runsTo_readG hread size)).narrowedRead
      refine ⟨_, _, runsTo_read layer hopened hlead hopts hasks h, ?_⟩
      show Survives _ (io.readG inner size context.world).1.val.1 ↔ Narrow _ ∧ True
      rw [and_true]
      exact survives_narrowed (toInt32_thrice _) (.inl (honest.read _ _ _))
  | write buff =>
      have h := (runsTo_dispatchWriteG hinner hopts' hasks (runsTo_writeG hwrite buff)).narrowed
      refine ⟨_, _, runsTo_write layer hopened hlead hopts hasks h, ?_⟩
      show Survives _ (io.writeG inner buff context.world).1.val ↔ Narrow _ ∧ True
      rw [and_true]
      exact survives_narrowed (toInt32_thrice _) (.inl (honest.write _ _ _))
  | pread size offset =>
      cases hnative : io.preadG with
      | some call =>
          have h := (runsTo_dispatchPreadG hinner hopts' (runsTo_preadG (hpread.trans hnative) size offset)).narrowedRead
          refine ⟨_, _, runsTo_pread layer hopened hlead hopts h, ?_⟩
          have hresult : io.result inner context.world (.pread size offset) = (call inner size offset context.world).1.val.1 := by
            rw [IoCallbacks.result, hnative]
          rw [IoCallbacks.Fits, hresult, hnative]
          show _ ↔ Narrow _ ∧ (some call = none → _)
          rw [and_iff_left nofun]
          exact survives_narrowed rfl (.inl (honest.pread call hnative _ _ _ _))
      | none =>
          have hsimulated : RunsTo ((pluginIo slot (opts.pluginList slot) inner).pread size offset) context.inScope _ _ :=
            runsTo_pread_simulated hlseek hread (hpread.trans hnative) size offset
          have h := (runsTo_dispatchPreadG hinner hopts' hsimulated).narrowedRead
          refine ⟨_, _, runsTo_pread layer hopened hlead hopts h, ?_⟩
          obtain ⟨hcount, herr⟩ := simulated_count offset (io.lseekG inner offset 0 context.inScope.world).1
            (io.readG inner size (io.lseekG inner offset 0 context.inScope.world).2).1
          rw [hcount, herr, IoCallbacks.Fits, IoCallbacks.result, hnative]
          show _ ↔ _ ∧ (none = none → _)
          rw [imp_iff_right rfl]
          exact survives_simulated (honest.seek_cases inner offset context.world) (honest.read inner size _)
  | pwrite buff offset =>
      obtain ⟨world, h⟩ := runsTo_pwrite_srm hinner hopts' hlseek hwrite hasks offset
      exact ⟨_, _, runsTo_pwrite layer hopened hlead hopts h,
        survives_simulated_cut (honest.seek_cases inner offset context.world) (honest.write inner buff _)⟩

/-- The result of a call on an open file comes through as it is, through either layer, if and only if it has 32 bits or
is that of `pread` on a local file; behind SRM the calls that are made of a seek need an offset that a seek can report
in 32 bits and that is not the -1 of its failure. -/
theorem io_result_survives_iff (file : OpenFile σ) (layer : IoLayer) (call : IoCall) {context : Gfal2Context σ} {fd : Int}
    {fh : GfalFileHandle} (hasks : file.Asks call) (hopened : Opened context fd fh)
    (hserves : file.Serves context.pluginOpt fh) :
    ∃ ret context', layer.run file.ioMap fd call context = .ok (ret, context') ∧
      (Survives ret (file.result fh context.world call) ↔ file.Fits fh context.world call) := by
  cases file with
  | onDisk slot os =>
      obtain ⟨ret, world, ⟨context', hrun, -⟩, hiff⟩ := onDisk_runsTo layer call hasks hopened rfl hserves
      exact ⟨ret, context', hrun, hiff⟩
  | behindSrm srm slot io =>
      obtain ⟨ret, world, ⟨context', hrun, -⟩, hiff⟩ := behindSrm_runsTo layer call hasks hopened rfl hserves
      exact ⟨ret, context', hrun, hiff⟩

/-- A system on which every seek gets to its offset and every read finds five bytes. -/
def plainSystem : SystemCalls Unit where
  close _ world := ((0, 0), world)
  lseek _ offset _ world := ((offset, 0), world)
  read _ _ world := (((5, 0), [1, 2, 3, 4, 5]), world)
  write _ buff world := ((buff.length, 0), world)
  pread _ _ _ world := (((5, 0), [1, 2, 3, 4, 5]), world)
  pwrite _ buff _ world := ((buff.length, 0), world)
  strerror _ := []

def plainFilePlugin : GfalPluginInterface Unit where
  getName := some (lit "file_plugin")
  closeG := some (gfalPluginFileClose plainSystem)
  lseekG := some (gfalPluginFileLseek plainSystem)
  readG := some (gfalPluginFileRead plainSystem)
  writeG := some (gfalPluginFileWrite plainSystem)
  preadG := some (gfalPluginFilePread plainSystem)
  pwriteG := some (gfalPluginFilePwrite plainSystem)

def plainHandle : GfalFileHandle := ⟨lit "file_plugin", 7, none⟩

def plainOpts : GfalPluginOpts Unit := { pluginList := fun _ => plainFilePlugin, sortedPlugin := [0], pluginNumber := 1 }

/-- A context with one open file. -/
def plainContext : Gfal2Context Unit where
  pluginOpt := plainOpts
  fdescs := AList.insert 1 plainHandle ∅
  world := ()

theorem opened_plainContext : Opened plainContext 1 plainHandle := ⟨by decide, by decide, rfl⟩

theorem serves_plainContext : (OpenFile.onDisk 0 plainSystem).Serves plainContext.pluginOpt plainHandle := by
  refine ⟨fun context hopts => ?_, rfl, rfl, rfl, rfl, rfl, rfl⟩
  obtain ⟨opts⟩ := context
  cases (show opts = plainOpts from hopts)
  rfl

theorem io_result_survives_read : ∃ ret context',
    IoLayer.posix.run mapPluginIo 1 (.read 8) plainContext = .ok (ret, context') ∧ Survives ret 5 := by
  obtain ⟨ret, context', hrun, hiff⟩ := io_result_survives_iff (.onDisk 0 plainSystem) .posix (.read 8)
    (Nat.succ_ne_zero 7)
    opened_plainContext serves_plainContext
  exact ⟨ret, context', hrun, hiff.mpr ⟨by decide, by decide⟩⟩

/-- A seek to 2 GiB that succeeds comes up as a failure. -/
theorem seek_beyond_int_fails : ¬∀ (file : OpenFile Unit) (layer : IoLayer) (call : IoCall) (context : Gfal2Context Unit)
    (fd : Int) (fh : GfalFileHandle), file.Asks call → Opened context fd fh → file.Serves context.pluginOpt fh →
    -2 ^ 63 ≤ file.result fh context.world call → file.result fh context.world call < 2 ^ 63 →
    ∃ ret context', layer.run file.ioMap fd call context = .ok (ret, context') ∧
      Survives ret (file.result fh context.world call) := by
  intro hall
  obtain ⟨ret, context', hrun, hval, -⟩ := hall (.onDisk 0 plainSystem) .gfal2 (.lseek (2 ^ 31) 0) plainContext 1 plainHandle
    trivial opened_plainContext serves_plainContext (by decide) (by decide)
  cases hrun
  revert hval
  decide

end Gfal2
