import Gfal2.TransferParams
import Gfal2.Base.Exec
import Mathlib.Data.List.AList

/-! The interface a plugin registers and the context its callbacks are reached through. A callback
acts on the outside world `σ`, of which nothing is assumed here. Buffers that a callback fills are
passed in and handed back. What other threads and the machine decide (the cancel flag, the clock) is
read from the numbered readings of the context. -/

namespace Gfal2

open Base

/-- `plugin_mode`: the operation a plugin is asked to accept a URL for. -/
inductive PluginMode where
  | all | access | chmod | rename | symlink | stat | lstat | mkdir | rmdir | opendir | open
  | resolveGuid | getxattr | setxattr | listxattr | readlink | unlink | checksum | mkdirRec
  | bringOnline | archive | qosCheckClasses | checkFileQos | checkQosAvailableTransitions
  | checkTargetQos | changeObjectQos | token
  deriving DecidableEq

inductive GfalUrl2Check where
  | fileCopy | bulkCopy
  deriving DecidableEq

/-- The callbacks a context calls, as they stand in its record of calls. -/
inductive PluginCallback where
  | accessG | chmodG | renameG | symlinkG | statG | lstatG | readlinkG | opendirG | readdirG | closedirG
  | mkdirpG | rmdirG | openG | readG | writeG | closeG | unlinkG | getxattrG | listxattrG | setxattrG
  | checksumCalcG | copyFile | copyBulk | copyEnterHook | bringOnlineList | bringOnlineListV2
  | bringOnlinePollList | releaseFileList | unlinkListG | archivePollList | lseekG | preadG | pwriteG | readdirppG
  deriving DecidableEq

/-- The part of `struct stat` the library reads: the type of the file. -/
inductive FileType where
  | regular | directory | symlink | fifo | character | block | socket
  deriving DecidableEq

/-- `struct dirent`, as far as plugins fill it. -/
structure Dirent where
  dName : CString
  dType : FileType
  deriving DecidableEq

/-- `struct _gfal_file_handle`: the module that opened it, what the module knows it by, and the path if it tells. -/
structure GfalFileHandle where
  moduleName : CString
  fdesc : Nat
  path : Option CString
  deriving DecidableEq

/-- The array of per-file errors of a list call. -/
abbrev ErrorList := List (Option GError)

/-- A call into a plugin: what it hands back, and what it makes of the world. -/
abbrev Callback (σ α : Type) := σ → α × σ

/-- `struct _gfal_plugin_interface`. A callback a plugin does not provide is a null pointer; the
default values are those of the zeroed structure. A check reads the world and leaves it as it is. -/
structure GfalPluginInterface (σ : Type) where
  priority : Int := 0
  getName : Option CString := none
  checkPluginUrl : Option (σ → CString → PluginMode → Ret Bool) := none
  accessG : Option (CString → Int → Callback σ (Ret Int)) := none
  chmodG : Option (CString → Nat → Callback σ (Ret Int)) := none
  renameG : Option (CString → CString → Callback σ (Ret Int)) := none
  symlinkG : Option (CString → CString → Callback σ (Ret Int)) := none
  statG : Option (CString → FileType → Callback σ (Ret (Int × FileType))) := none
  lstatG : Option (CString → FileType → Callback σ (Ret (Int × FileType))) := none
  readlinkG : Option (CString → CString → Nat → Callback σ (Ret (Int × CString))) := none
  opendirG : Option (CString → Callback σ (Ret (Option GfalFileHandle))) := none
  readdirG : Option (GfalFileHandle → Callback σ (Ret (Option CString))) := none
  readdirppG : Option (GfalFileHandle → FileType → Callback σ (Ret (Option CString × FileType))) := none
  closedirG : Option (GfalFileHandle → Callback σ (Ret Int)) := none
  mkdirpG : Option (CString → Nat → Bool → Callback σ (Ret Int)) := none
  rmdirG : Option (CString → Callback σ (Ret Int)) := none
  openG : Option (CString → Nat → Nat → Callback σ (Ret (Option GfalFileHandle))) := none
  readG : Option (GfalFileHandle → Nat → Callback σ (Ret (Int × List UInt8))) := none
  writeG : Option (GfalFileHandle → List UInt8 → Callback σ (Ret Int)) := none
  closeG : Option (GfalFileHandle → Callback σ (Ret Int)) := none
  unlinkG : Option (CString → Callback σ (Ret Int)) := none
  getxattrG : Option (CString → CString → Option CString → Nat →
    Callback σ (Ret (Int × Option CString))) := none
  listxattrG : Option (CString → Option CString → Nat →
    Callback σ (Ret (Int × Option CString))) := none
  setxattrG : Option (CString → CString → CString → Nat → Int → Callback σ (Ret Int)) := none
  checksumCalcG : Option (CString → CString → CString → Nat → Int → Nat →
    Callback σ (Ret (Int × CString))) := none
  checkPluginUrlTransfer : Option (σ → CString → CString → GfalUrl2Check → Bool) := none
  copyFile : Option (GfaltParams → CString → CString → Callback σ (Ret Int)) := none
  copyEnterHook : Option (GfaltParams → Callback σ (Ret Int)) := none
  bringOnlineList : Option (List CString → Int → Int → Nat → Bool → ErrorList →
    Callback σ (Int × CString × ErrorList)) := none
  bringOnlineListV2 : Option (List CString → List CString → Int → Int → Nat → Bool → ErrorList →
    Callback σ (Int × CString × ErrorList)) := none
  bringOnlinePollList : Option (List CString → CString → ErrorList → Callback σ (Int × ErrorList)) := none
  releaseFileList : Option (List CString → CString → ErrorList → Callback σ (Int × ErrorList)) := none
  unlinkListG : Option (List CString → ErrorList → Callback σ (Int × ErrorList)) := none
  archivePollList : Option (List CString → ErrorList → Callback σ (Int × ErrorList)) := none
  lseekG : Option (GfalFileHandle → Int → Int → Callback σ (Ret Int)) := none
  preadG : Option (GfalFileHandle → Nat → Int → Callback σ (Ret (Int × List UInt8))) := none
  pwriteG : Option (GfalFileHandle → List UInt8 → Int → Callback σ (Ret Int)) := none

abbrev maxPluginList : Nat := 15

instance maxPluginListNeZero : NeZero maxPluginList := ⟨by decide⟩

/-- A slot of the plugin array, as the sorted list points to it. -/
abbrev Slot := Fin maxPluginList

/-- `struct _gfal_plugin_opts`. -/
structure GfalPluginOpts (σ : Type) where
  pluginList : Slot → GfalPluginInterface σ := fun _ => {}
  sortedPlugin : List Slot := []
  pluginNumber : Int := 0

/-- A shared library as `dlopen`, `dlsym` and the entry point it exports answer. -/
inductive Library (σ : Type) where
  | unopenable
  | withoutSymbol
  | plugin (entryPoint : Callback σ (Ret (GfalPluginInterface σ)))

structure PluginFile (σ : Type) where
  name : CString
  library : Library σ

/-- The plugin directory, or the error opening it. -/
structure PluginDir (σ : Type) where
  path : CString := []
  files : Except GError (List (PluginFile σ)) := .ok []

/-- The values of the configuration file, read as strings, integers and booleans. -/
structure Config where
  optString : CString → CString → Option CString := fun _ _ => none
  optInteger : CString → CString → Option Int := fun _ _ => none
  optBoolean : CString → CString → Option Bool := fun _ _ => none

instance randMaxNeZero : NeZero (2 ^ 31) := ⟨by decide⟩

/-- What the machine and other threads answer to each reading of the cancel flag, of the clock and of the
random numbers (up to `RAND_MAX`), and the memory that can be allocated. -/
structure Readings where
  cancel : Nat → Bool := fun _ => false
  time : Nat → Int := fun _ => 0
  rand : Nat → Fin (2 ^ 31) := fun _ => 0
  memory : Nat := 2 ^ 32

/-- `struct gfal_handle_`, with the world its plugins act on, the numbers of readings taken, the table of
file and directory descriptors (the container of `fdescs`), and the
records of the callbacks that were called and of what was told to the listeners of a transfer. -/
structure Gfal2Context (σ : Type) where
  pluginOpt : GfalPluginOpts σ := {}
  pluginDir : PluginDir σ := {}
  config : Config := {}
  readings : Readings := {}
  cancelReads : Nat := 0
  timeReads : Nat := 0
  randReads : Nat := 0
  fdescs : AList (fun _ : Int => GfalFileHandle) := ∅
  runningOps : Int := 0
  world : σ
  calls : List (Slot × PluginCallback) := []
  events : List GfaltEvent := []
  reports : List GfaltTransferStatus := []

/-- A computation of the library in a context. -/
abbrev Gfal (σ α : Type) := Exec (Gfal2Context σ) Fault α

section Primitives

variable {σ α : Type}

def callPlugin (slot : Slot) (which : PluginCallback) (callback : Option (Callback σ α)) : Gfal σ α :=
  match callback with
  | none => Exec.fault .nullCallback
  | some call => fun context =>
      let answer := call context.world
      .ok (answer.1, { context with world := answer.2, calls := context.calls ++ [(slot, which)] })

/-- The interface in a slot, as it stands in the context. -/
def pluginAt (slot : Slot) : Gfal σ (GfalPluginInterface σ) := fun context =>
  .ok (context.pluginOpt.pluginList slot, context)

def gfal2IsCanceled : Gfal σ Bool := fun context =>
  .ok (context.readings.cancel context.cancelReads, { context with cancelReads := context.cancelReads + 1 })

/-- `time(NULL)`. -/
def timeNow : Gfal σ Int := fun context =>
  .ok (context.readings.time context.timeReads, { context with timeReads := context.timeReads + 1 })

def canceledByUser : GError :=
  ⟨gfalCancelQuark, ECANCELED, lit "[gfal2_cancel] operation canceled by user"⟩

/-- `gfal2_start_scope_cancel`: no scope is entered once the flag is seen set. -/
def gfal2StartScopeCancel : Gfal σ (Ret Int) := do
  if ← gfal2IsCanceled then
    return ⟨-1, some canceledByUser⟩
  Exec.modify fun context => { context with runningOps := context.runningOps + 1 }
  return ⟨0, none⟩

def gfal2EndScopeCancel : Gfal σ Unit :=
  Exec.modify fun context => { context with runningOps := context.runningOps - 1 }

/-- The pair of `GFAL2_BEGIN_SCOPE_CANCEL` and `GFAL2_END_SCOPE_CANCEL` around a body; the opening
returns from the function with the given value and the error of the cancelled scope. -/
def scopeCancel (retErrValue : α) (body : Gfal σ (Ret α)) : Gfal σ (Ret α) := do
  let started ← gfal2StartScopeCancel
  if started.val < 0 then
    return ⟨retErrValue, started.err⟩
  let result ← body
  gfal2EndScopeCancel
  return result

def Gfal2Context.afterCancelRead (context : Gfal2Context σ) : Gfal2Context σ :=
  { context with cancelReads := context.cancelReads + 1 }

def Gfal2Context.inScope (context : Gfal2Context σ) : Gfal2Context σ :=
  { context with cancelReads := context.cancelReads + 1, runningOps := context.runningOps + 1 }

def Gfal2Context.afterScope (context : Gfal2Context σ) : Gfal2Context σ :=
  { context with runningOps := context.runningOps - 1 }

theorem gfal2IsCanceled_apply (context : Gfal2Context σ) :
    gfal2IsCanceled context = .ok (context.readings.cancel context.cancelReads, context.afterCancelRead) := rfl

variable {context : Gfal2Context σ}

theorem gfal2StartScopeCancel_of_cancelled (h : context.readings.cancel context.cancelReads = true) :
    gfal2StartScopeCancel context = .ok (⟨-1, some canceledByUser⟩, context.afterCancelRead) := by
  rw [gfal2StartScopeCancel, Exec.bind_of_ok (gfal2IsCanceled_apply context), h]
  rfl

theorem gfal2StartScopeCancel_of_clear (h : context.readings.cancel context.cancelReads = false) :
    gfal2StartScopeCancel context = .ok (⟨0, none⟩, context.inScope) := by
  rw [gfal2StartScopeCancel, Exec.bind_of_ok (gfal2IsCanceled_apply context), h]
  rfl

variable {retErrValue : α} {body : Gfal σ (Ret α)}

theorem scopeCancel_of_cancelled (h : context.readings.cancel context.cancelReads = true) :
    scopeCancel retErrValue body context = .ok (⟨retErrValue, some canceledByUser⟩, context.afterCancelRead) := by
  rw [scopeCancel, Exec.bind_of_ok (gfal2StartScopeCancel_of_cancelled h)]
  rfl

theorem scopeCancel_of_clear (h : context.readings.cancel context.cancelReads = false) : scopeCancel retErrValue body context =
      (do let result ← body; gfal2EndScopeCancel; return result) context.inScope := by
  rw [scopeCancel, Exec.bind_of_ok (gfal2StartScopeCancel_of_clear h)]
  rfl

theorem scopeCancel_of_body {context' : Gfal2Context σ} {result : Ret α} (h : context.readings.cancel context.cancelReads = false)
    (hbody : body context.inScope = .ok (result, context')) :
    scopeCancel retErrValue body context = .ok (result, context'.afterScope) := by
  rw [scopeCancel_of_clear h, Exec.bind_of_ok hbody]
  rfl

/-- A scope is taken apart into the reading of the flag and its body. -/
theorem scopeCancel_eq_ok {context' : Gfal2Context σ} {ret : Ret α}
    (h : scopeCancel retErrValue body context = .ok (ret, context')) :
    (context.readings.cancel context.cancelReads = true ∧ ret = ⟨retErrValue, some canceledByUser⟩ ∧
      context' = context.afterCancelRead) ∨
    (context.readings.cancel context.cancelReads = false ∧ ∃ middle, body context.inScope = .ok (ret, middle) ∧
      context' = middle.afterScope) := by
  cases hflag : context.readings.cancel context.cancelReads with
  | true =>
      rw [scopeCancel_of_cancelled hflag] at h
      cases h
      exact .inl ⟨rfl, rfl, rfl⟩
  | false =>
      rw [scopeCancel_of_clear hflag] at h
      obtain ⟨result, middle, hbody, hrest⟩ := Exec.bind_eq_ok.mp h
      cases hrest
      exact .inr ⟨rfl, middle, hbody, rfl⟩

/-- What the reading of the flag and the count of operations have no part in, a scope keeps if its body does. -/
theorem preserves_scopeCancel {inv : Gfal2Context σ → Prop} (hread : Exec.Preserves inv gfal2IsCanceled)
    (hscope : ∀ context n, inv context → inv { context with runningOps := n }) (hbody : Exec.Preserves inv body) :
    Exec.Preserves inv (scopeCancel retErrValue body) := by
  intro context h ret context' heq
  have hafter : inv context.afterCancelRead := hread context h _ _ (gfal2IsCanceled_apply context)
  obtain ⟨-, -, rfl⟩ | ⟨-, middle, hrun, rfl⟩ := scopeCancel_eq_ok heq
  · exact hafter
  · exact hscope middle _ (hbody context.inScope (hscope context.afterCancelRead _ hafter) ret middle hrun)

end Primitives

end Gfal2
