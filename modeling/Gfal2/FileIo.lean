import Gfal2.FileDescriptors

/-! Reads, writes and seeks on an open file, from the POSIX wrapper down to the callbacks of the file plugin, and of
the SRM plugin, whose handles hold the handle of another plugin. A plugin without `pread` or `pwrite` has them
simulated by a seek and a read or write. Each function hands its result on through the type of its own variable: what
is an `int` there is cut to 32 bits. -/

namespace Gfal2

open Base

variable {σ α : Type}

abbrev EOVERFLOW : Int := 75

/-! ### Dispatchers -/

/-- What the callbacks of a plugin do on one handle; `pread` and `pwrite` may be missing. -/
structure HandleIo (σ : Type) where
  lseekG : Int → Int → Gfal σ (Ret Int)
  readG : Nat → Gfal σ (Ret (Int × List UInt8))
  writeG : List UInt8 → Gfal σ (Ret Int)
  preadG : Option (Nat → Int → Gfal σ (Ret (Int × List UInt8)))
  pwriteG : Option (List UInt8 → Int → Gfal σ (Ret Int))

/-- The callbacks of the plugin in a slot, on a handle of its own. -/
def pluginIo (slot : Slot) (plugin : GfalPluginInterface σ) (fh : GfalFileHandle) : HandleIo σ where
  lseekG offset whence := callPlugin slot .lseekG (plugin.lseekG.map (· fh offset whence))
  readG size := callPlugin slot .readG (plugin.readG.map (· fh size))
  writeG buff := callPlugin slot .writeG (plugin.writeG.map (· fh buff))
  preadG := plugin.preadG.map fun call size offset => callPlugin slot .preadG (some (call fh size offset))
  pwriteG := plugin.pwriteG.map fun call buff offset => callPlugin slot .pwriteG (some (call fh buff offset))

/-- A result kept in an `int`. -/
def narrowed (result : Gfal σ (Ret Int)) : Gfal σ (Ret Int) := do
  let answer ← result
  return ⟨toInt32 answer.val, answer.err⟩

/-- A count kept in an `int`, beside the bytes read. -/
def narrowedRead (result : Gfal σ (Ret (Int × List UInt8))) : Gfal σ (Ret (Int × List UInt8)) := do
  let answer ← result
  return ⟨(toInt32 answer.val.1, answer.val.2), answer.err⟩

def unknownLseekReturn : GError := ⟨gfal2GetPluginsQuark, EOVERFLOW, lit "Unknown return from plugin_lseek call"⟩

/-- The body of `gfal_plugin_simulate_preadG` and `gfal_plugin_simulate_pwriteG`: use the handle where a seek got to.
An error that is set already stays when the use of the handle fails as well. -/
def simulateAt (io : HandleIo σ) (offset : Int) (failed : Int → α) (use : Gfal σ (Ret α)) : Gfal σ (Ret α) := do
  let sought ← io.lseekG offset 0
  if sought.val = offset then
    let answer ← use
    return ⟨answer.val, sought.err.or answer.err⟩
  else if sought.err.isSome then
    return ⟨failed sought.val, sought.err⟩
  else
    return ⟨failed (-1), some unknownLseekReturn⟩

/-- A read at an offset, simulated if the plugin has none. -/
def HandleIo.pread (io : HandleIo σ) (size : Nat) (offset : Int) : Gfal σ (Ret (Int × List UInt8)) :=
  match io.preadG with
  | some call => call size offset
  | none => simulateAt io offset (fun ret => (ret, [])) (io.readG size)

/-- A write at an offset, simulated if the plugin has none. -/
def HandleIo.pwrite (io : HandleIo σ) (buff : List UInt8) (offset : Int) : Gfal σ (Ret Int) :=
  match io.pwriteG with
  | some call => call buff offset
  | none => simulateAt io offset id (io.writeG buff)

/-- The callbacks that go with a handle, or the error looking them up. -/
abbrev IoMap (σ : Type) := GfalFileHandle → Gfal σ (Ret (Option (HandleIo σ)))

/-- `gfal_plugin_map_file_handle`, and the callbacks of the plugin found. -/
def mapPluginIo : IoMap σ := fun fh => do
  let mapped ← gfalPluginMapFileHandle fh
  match mapped.val with
  | some slot =>
      let plugin ← pluginAt slot
      return ⟨some (pluginIo slot plugin fh), none⟩
  | none => return ⟨none, mapped.err⟩

section
variable (map : IoMap σ)

def onIo (fh : GfalFileHandle) (failure : α) (use : HandleIo σ → Gfal σ (Ret α)) : Gfal σ (Ret α) := do
  let mapped ← map fh
  match mapped.val with
  | some io => use io
  | none => return ⟨failure, mapped.err⟩

/-- `gfal_plugin_lseekG`. -/
def dispatchLseekG (fh : GfalFileHandle) (offset whence : Int) : Gfal σ (Ret Int) :=
  narrowed (onIo map fh (-1) fun io => io.lseekG offset whence)

/-- `gfal_plugin_readG`. -/
def dispatchReadG (fh : GfalFileHandle) (size : Nat) : Gfal σ (Ret (Int × List UInt8)) :=
  if size = 0 then return ⟨(-1, []), some (invalidArgs (lit "gfal_plugin_readG"))⟩
  else narrowedRead (onIo map fh (-1, []) fun io => io.readG size)

/-- `gfal_plugin_writeG`. -/
def dispatchWriteG (fh : GfalFileHandle) (buff : List UInt8) : Gfal σ (Ret Int) :=
  if buff = [] then return ⟨-1, some (invalidArgs (lit "gfal_plugin_writeG"))⟩
  else narrowed (onIo map fh (-1) fun io => io.writeG buff)

/-- `gfal_plugin_preadG`. -/
def dispatchPreadG (fh : GfalFileHandle) (size : Nat) (offset : Int) : Gfal σ (Ret (Int × List UInt8)) :=
  onIo map fh (-1, []) fun io => io.pread size offset

/-- `gfal_plugin_pwriteG`. -/
def dispatchPwriteG (fh : GfalFileHandle) (buff : List UInt8) (offset : Int) : Gfal σ (Ret Int) :=
  onIo map fh (-1) fun io => io.pwrite buff offset

end

/-- The dispatchers of one callback are those of the interface. -/
theorem dispatchHandle_eq_onIo (which : PluginCallback) {fh : GfalFileHandle} {failure : α}
    {callback : GfalPluginInterface σ → Option (Callback σ (Ret α))} {use : HandleIo σ → Gfal σ (Ret α)}
    (huse : ∀ slot plugin, use (pluginIo slot plugin fh) = callPlugin slot which (callback plugin)) :
    dispatchHandle which fh failure callback = onIo mapPluginIo fh failure use := by
  rw [dispatchHandle, onIo, mapPluginIo, bind_assoc]
  congr
  funext mapped
  cases mapped.val with
  | none => rfl
  | some slot =>
      funext context
      exact congrArg (· context) (huse slot (context.pluginOpt.pluginList slot)).symm

/-! ### Handles of the SRM plugin -/

/-- The callbacks of the SRM plugin on a handle that holds another: the dispatchers on that one, each result in an
`int`. There is no `pwrite` among them. -/
def gfalSrmIo (internalHandle : GfalFileHandle) : HandleIo σ where
  lseekG offset whence := narrowed (dispatchLseekG mapPluginIo internalHandle offset whence)
  readG size := narrowedRead (dispatchReadG mapPluginIo internalHandle size)
  writeG buff := narrowed (dispatchWriteG mapPluginIo internalHandle buff)
  preadG := some fun size offset => narrowedRead (dispatchPreadG mapPluginIo internalHandle size offset)
  pwriteG := none

/-- The slot of the SRM plugin, and the handle that each of its handles holds. -/
structure SrmModule where
  slot : Slot
  internalHandle : Nat → GfalFileHandle

/-- `gfal_plugin_map_file_handle` where one of the plugins is SRM. -/
def mapSrmIo (srm : SrmModule) : IoMap σ := fun fh => do
  let mapped ← gfalPluginMapFileHandle fh
  match mapped.val with
  | some slot =>
      if slot = srm.slot then
        return ⟨some (gfalSrmIo (srm.internalHandle fh.fdesc)), none⟩
      else
        let plugin ← pluginAt slot
        return ⟨some (pluginIo slot plugin fh), none⟩
  | none => return ⟨none, mapped.err⟩

/-! ### The calls of the library -/

/-- A call on an open file, apart from closing it. -/
inductive IoCall where
  | lseek (offset whence : Int)
  | read (size : Nat)
  | write (buff : List UInt8)
  | pread (size : Nat) (offset : Int)
  | pwrite (buff : List UInt8) (offset : Int)

def withoutBytes (result : Gfal σ (Ret Int)) : Gfal σ (Ret (Int × List UInt8)) := do
  let answer ← result
  return ⟨(answer.val, []), answer.err⟩

def incorrectDescriptor : GError := ⟨gfal2GetCoreQuark, EBADF, lit "Incorrect file descriptor"⟩

section
variable (map : IoMap σ) (fd : Int)

def gfal2Lseek (offset whence : Int) : Gfal σ (Ret Int) :=
  scopeCancel (-1) (if fd ≤ 0 then return ⟨-1, some incorrectDescriptor⟩
    else onDescriptor fd (-1) fun fh => dispatchLseekG map fh offset whence)

/-- `gfal2_read` on any handle. -/
def gfal2ReadIo (size : Nat) : Gfal σ (Ret (Int × List UInt8)) :=
  scopeCancel (-1, []) (onFile fd (-1, []) fun fh => dispatchReadG map fh size)

/-- `gfal2_write` on any handle. -/
def gfal2WriteIo (buff : List UInt8) : Gfal σ (Ret Int) :=
  scopeCancel (-1) (onFile fd (-1) fun fh => dispatchWriteG map fh buff)

def gfal2Pread (size : Nat) (offset : Int) : Gfal σ (Ret (Int × List UInt8)) :=
  scopeCancel (-1, []) (onFile fd (-1, []) fun fh => dispatchPreadG map fh size offset)

/-- `gfal2_pwrite`, whose result is an `int`. -/
def gfal2Pwrite (buff : List UInt8) (offset : Int) : Gfal σ (Ret Int) :=
  scopeCancel (-1) (if fd ≤ 0 then return ⟨-1, some incorrectDescriptor⟩
    else onDescriptor fd (-1) fun fh => narrowed (dispatchPwriteG map fh buff offset))

/-- A read through the interface is one on any handle, of whichever plugin. -/
theorem gfal2Read_eq (fd : Int) (size : Nat) : (gfal2Read fd size : Gfal σ _) = gfal2ReadIo mapPluginIo fd size := by
  rw [gfal2Read, gfal2ReadIo]
  refine congrArg _ (congrArg _ (funext fun fh => ?_))
  rw [gfalPluginReadG, dispatchReadG, ← dispatchHandle_eq_onIo .readG fun _ _ => rfl]
  rfl

/-- A write likewise. -/
theorem gfal2Write_eq (fd : Int) (buff : List UInt8) : (gfal2Write fd buff : Gfal σ _) = gfal2WriteIo mapPluginIo fd buff := by
  rw [gfal2Write, gfal2WriteIo]
  refine congrArg _ (congrArg _ (funext fun fh => ?_))
  rw [gfalPluginWriteG, dispatchWriteG, ← dispatchHandle_eq_onIo .writeG fun _ _ => rfl]
  rfl

/-- The call as an application makes it. -/
def IoCall.gfal2 : IoCall → Gfal σ (Ret (Int × List UInt8))
  | .lseek offset whence => withoutBytes (gfal2Lseek map fd offset whence)
  | .read size => gfal2ReadIo map fd size
  | .write buff => withoutBytes (gfal2WriteIo map fd buff)
  | .pread size offset => gfal2Pread map fd size offset
  | .pwrite buff offset => withoutBytes (gfal2Pwrite map fd buff offset)

/-- The call through `gfal_posix`: `gfal_lseek`, `gfal_read` and `gfal_write` keep the result in an `int`. The error is
the one registered for the thread. -/
def IoCall.posix : IoCall → Gfal σ (Ret (Int × List UInt8))
  | .lseek offset whence => narrowedRead (IoCall.gfal2 map fd (.lseek offset whence))
  | .read size => narrowedRead (IoCall.gfal2 map fd (.read size))
  | .write buff => narrowedRead (IoCall.gfal2 map fd (.write buff))
  | .pread size offset => IoCall.gfal2 map fd (.pread size offset)
  | .pwrite buff offset => IoCall.gfal2 map fd (.pwrite buff offset)

end

/-! ### Callbacks of the file plugin -/

/-- The system calls on open files: result, `errno` and what was read. -/
structure SystemCalls (σ : Type) where
  close : Nat → Callback σ (Int × Int)
  lseek : Nat → Int → Int → Callback σ (Int × Int)
  read : Nat → Nat → Callback σ ((Int × Int) × List UInt8)
  write : Nat → List UInt8 → Callback σ (Int × Int)
  pread : Nat → Nat → Int → Callback σ ((Int × Int) × List UInt8)
  pwrite : Nat → List UInt8 → Int → Callback σ (Int × Int)
  strerror : Int → CString

abbrev gfal2GetPluginFileQuark : GQuark := lit "GFAL2::PLUGINS::FILE"

section
variable (os : SystemCalls σ)

/-- `gfal_plugin_file_report_error`, for a negative result. -/
def gfalPluginFileReportError (ret errno : Int) : Option GError :=
  if ret < 0 then
    some (gfal2SetError gfal2GetPluginFileQuark errno (lit "errno reported by local system call " ++ os.strerror errno))
  else none

/-- `gfal_plugin_file_lseek`: the result is kept in an `int`. -/
def gfalPluginFileLseek (fh : GfalFileHandle) (offset whence : Int) : Callback σ (Ret Int) := fun world =>
  let answer := os.lseek fh.fdesc offset whence world
  let ret := toInt32 answer.1.1
  (⟨ret, gfalPluginFileReportError os ret answer.1.2⟩, answer.2)

/-- `gfal_plugin_file_read`: the result is kept in an `int`. -/
def gfalPluginFileRead (fh : GfalFileHandle) (size : Nat) : Callback σ (Ret (Int × List UInt8)) := fun world =>
  let answer := os.read fh.fdesc size world
  let ret := toInt32 answer.1.1.1
  (⟨(ret, answer.1.2), gfalPluginFileReportError os ret answer.1.1.2⟩, answer.2)

/-- `gfal_plugin_file_write`: the result is kept in an `int`. -/
def gfalPluginFileWrite (fh : GfalFileHandle) (buff : List UInt8) : Callback σ (Ret Int) := fun world =>
  let answer := os.write fh.fdesc buff world
  let ret := toInt32 answer.1.1
  (⟨ret, gfalPluginFileReportError os ret answer.1.2⟩, answer.2)

def gfalPluginFilePread (fh : GfalFileHandle) (size : Nat) (offset : Int) : Callback σ (Ret (Int × List UInt8)) :=
  fun world =>
    let answer := os.pread fh.fdesc size offset world
    (⟨(answer.1.1.1, answer.1.2), gfalPluginFileReportError os answer.1.1.1 answer.1.1.2⟩, answer.2)

def gfalPluginFilePwrite (fh : GfalFileHandle) (buff : List UInt8) (offset : Int) : Callback σ (Ret Int) := fun world =>
  let answer := os.pwrite fh.fdesc buff offset world
  (⟨answer.1.1, gfalPluginFileReportError os answer.1.1 answer.1.2⟩, answer.2)

/-- `gfal_plugin_file_close`, which fails with any result but 0. -/
def gfalPluginFileClose (fh : GfalFileHandle) : Callback σ (Ret Int) := fun world =>
  let answer := os.close fh.fdesc world
  (⟨answer.1.1, if answer.1.1 ≠ 0 then
      some (gfal2SetError gfal2GetPluginFileQuark answer.1.2
        (lit "errno reported by local system call " ++ os.strerror answer.1.2))
    else none⟩, answer.2)

end

/-- The file plugin, as far as open files go. -/
structure ServesFiles (os : SystemCalls σ) (plugin : GfalPluginInterface σ) : Prop where
  closeG : plugin.closeG = some (gfalPluginFileClose os)
  lseekG : plugin.lseekG = some (gfalPluginFileLseek os)
  readG : plugin.readG = some (gfalPluginFileRead os)
  writeG : plugin.writeG = some (gfalPluginFileWrite os)
  preadG : plugin.preadG = some (gfalPluginFilePread os)
  pwriteG : plugin.pwriteG = some (gfalPluginFilePwrite os)

end Gfal2
