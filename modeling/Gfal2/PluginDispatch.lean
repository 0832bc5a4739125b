import Gfal2.PluginRegistry

/-! The dispatchers. An operation on a URL goes to the plugin that the registry chooses for the URL and
the operation's mode, an operation on an open handle to the plugin whose name the handle carries. The
dispatchers of one URL, of two URLs and of a handle are each one definition here, and every operation
is that definition at its own mode, callback and failure value. -/

namespace Gfal2

open Base

variable {σ α : Type}

/-- The body the dispatchers of one URL share: without a plugin, the failure value and the error of the
search. -/
def dispatchUrl (mode : PluginMode) (which : PluginCallback) (url : CString) (failure : α)
    (callback : GfalPluginInterface σ → Option (Callback σ (Ret α))) : Gfal σ (Ret α) := do
  let found ← gfalFindPlugin url mode
  match found.val with
  | some slot =>
      let plugin ← pluginAt slot
      callPlugin slot which (callback plugin)
  | none => return ⟨failure, found.err⟩

/-- The body of the two dispatchers of a pair of URLs. When two different plugins are chosen, it returns
the failure value without an error. -/
def dispatchPair (mode : PluginMode) (which : PluginCallback) (oldUrl newUrl : CString)
    (callback : GfalPluginInterface σ → Option (Callback σ (Ret Int))) : Gfal σ (Ret Int) := do
  let source ← gfalFindPlugin oldUrl mode
  match source.val with
  | none => return ⟨-1, source.err⟩
  | some sourceSlot =>
      let target ← gfalFindPlugin newUrl mode
      if target.val = some sourceSlot then
        let plugin ← pluginAt sourceSlot
        callPlugin sourceSlot which (callback plugin)
      else
        return ⟨-1, target.err⟩

def gfalPluginsAccessG (path : CString) (mode : Int) : Gfal σ (Ret Int) :=
  dispatchUrl .access .accessG path (-1) fun p => p.accessG.map (· path mode)

def gfalPluginStatG (path : CString) (st : FileType) : Gfal σ (Ret (Int × FileType)) :=
  dispatchUrl .stat .statG path (-1, st) fun p => p.statG.map (· path st)

def gfalPluginLstatG (path : CString) (st : FileType) : Gfal σ (Ret (Int × FileType)) :=
  dispatchUrl .lstat .lstatG path (-1, st) fun p => p.lstatG.map (· path st)

def gfalPluginReadlinkG (path buff : CString) (buffsiz : Nat) : Gfal σ (Ret (Int × CString)) :=
  dispatchUrl .readlink .readlinkG path (-1, buff) fun p => p.readlinkG.map (· path buff buffsiz)

def gfalPluginChmodG (path : CString) (mode : Nat) : Gfal σ (Ret Int) :=
  dispatchUrl .chmod .chmodG path (-1) fun p => p.chmodG.map (· path mode)

def gfalPluginRenameG (oldpath newpath : CString) : Gfal σ (Ret Int) :=
  dispatchPair .rename .renameG oldpath newpath fun p => p.renameG.map (· oldpath newpath)

def gfalPluginSymlinkG (oldpath newpath : CString) : Gfal σ (Ret Int) :=
  dispatchPair .symlink .symlinkG oldpath newpath fun p => p.symlinkG.map (· oldpath newpath)

/-- With the flag for missing parents, a directory that is already there counts as made. -/
def gfalPluginMkdirp (path : CString) (mode : Nat) (pflag : Bool) : Gfal σ (Ret Int) := do
  let made ← dispatchUrl .mkdir .mkdirpG path (-1) fun p => p.mkdirpG.map (· path mode pflag)
  if pflag ∧ made.val < 0 then
    match made.err with
    | none => Exec.fault .nullDereference
    | some e => return if e.code = EEXIST then ⟨0, none⟩ else made
  else
    return made

def gfalPluginRmdirG (path : CString) : Gfal σ (Ret Int) :=
  dispatchUrl .rmdir .rmdirG path (-1) fun p => p.rmdirG.map (· path)

def gfalPluginUnlinkG (path : CString) : Gfal σ (Ret Int) :=
  dispatchUrl .unlink .unlinkG path (-1) fun p => p.unlinkG.map (· path)

def gfalPluginOpendirG (name : CString) : Gfal σ (Ret (Option GfalFileHandle)) :=
  dispatchUrl .opendir .opendirG name none fun p => p.opendirG.map (· name)

def gfalPluginOpenG (path : CString) (flag mode : Nat) : Gfal σ (Ret (Option GfalFileHandle)) :=
  dispatchUrl .open .openG path none fun p => p.openG.map (· path flag mode)

def gfalPluginListxattrG (path : CString) (list : Option CString) (size : Nat) :
    Gfal σ (Ret (Int × Option CString)) :=
  dispatchUrl .listxattr .listxattrG path (-1, list) fun p => p.listxattrG.map (· path list size)

def gfalPluginSetxattrG (path name value : CString) (size : Nat) (flags : Int) : Gfal σ (Ret Int) :=
  dispatchUrl .setxattr .setxattrG path (-1) fun p => p.setxattrG.map (· path name value size flags)

abbrev gfalAdlerChksumLen : Nat := 8

/-- The checksum text as `gfal2_checksum` leaves it in the buffer: an Adler-32 text shorter than eight
characters is padded on the left when the option is on and the buffer has room. -/
def formatAdler32 (config : Config) (checkType checksumBuffer : CString) (bufferLength : Nat) : CString :=
  if (config.optBoolean (lit "CORE") (lit "FORMAT_ADLER32_CHECKSUM")).getD true ∧
      strncasecmp checkType (lit "adler32") checkType.length = 0 ∧
      checksumBuffer.length < gfalAdlerChksumLen ∧ gfalAdlerChksumLen < bufferLength then
    List.replicate (gfalAdlerChksumLen - checksumBuffer.length) '0' ++ checksumBuffer
  else
    checksumBuffer

def gfal2Checksum (url checkType : CString) (startOffset : Int) (dataLength : Nat)
    (checksumBuffer : Option CString) (bufferLength : Nat) : Gfal σ (Ret (Int × Option CString)) := do
  match checksumBuffer with
  | none => return ⟨(-1, none), some ⟨gfal2GetCoreQuark, EFAULT, lit "Invalid parameters to gfal2_checksum"⟩⟩
  | some buffer =>
      if bufferLength = 0 then
        return ⟨(-1, some buffer),
          some ⟨gfal2GetCoreQuark, EFAULT, lit "Invalid parameters to gfal2_checksum"⟩⟩
      let started ← gfal2StartScopeCancel
      if started.val < 0 then
        return ⟨(-1, some buffer), started.err⟩
      let answer ← dispatchUrl .checksum .checksumCalcG url (-1, buffer) fun p =>
        p.checksumCalcG.map (· url checkType buffer bufferLength startOffset dataLength)
      gfal2EndScopeCancel
      let context ← Exec.get
      return ⟨(answer.val.1, some (formatAdler32 context.config checkType answer.val.2 bufferLength)), answer.err⟩

/-- `GFAL_XATTR_CHKSUM_VALUE` and the dot after it, before the name of a checksum type. -/
abbrev checksumAttrStart : CString := lit "user.checksum."

/-- The attribute as the plugin answers it. -/
def getxattrOfPlugin (path name : CString) (buff : Option CString) (size : Nat) :
    Gfal σ (Ret (Int × Option CString)) :=
  dispatchUrl .getxattr .getxattrG path (-1, buff) fun p => p.getxattrG.map (· path name buff size)

/-- A checksum attribute that the plugin does not answer is computed by `gfal2_checksum`. -/
def gfalPluginGetxattrG (path name : CString) (buff : Option CString) (size : Nat) :
    Gfal σ (Ret (Int × Option CString)) := do
  let answer ← getxattrOfPlugin path name buff size
  if answer.val.1 < 0 ∧ answer.err.isSome ∧ checksumAttrStart.isPrefixOf name then
    gfal2Checksum path (name.drop checksumAttrStart.length) 0 0 answer.val.2 size
  else
    return answer

/-! ### Operations on handles -/

/-- The loop of `gfal_plugin_map_file_handle` over the plugins from an index on, in the order of their
registration. -/
def gfalMapLoop (moduleName : CString) : Nat → Int → Gfal σ (Ret (Option Slot))
  | 0, _ => return ⟨none, some ⟨gfal2GetPluginsQuark, EBADF,
      lit "No gfal_module with the handle name : " ++ moduleName⟩⟩
  | remaining + 1, i => do
      let slot ← slotOf i
      let plugin ← pluginAt slot
      match plugin.getName with
      | none => Exec.fault .nullCallback
      | some name =>
          if strncmp name moduleName 1024 = 0 then
            return ⟨some slot, none⟩
          gfalMapLoop moduleName remaining (i + 1)

def gfalPluginMapFileHandle (fh : GfalFileHandle) : Gfal σ (Ret (Option Slot)) := do
  let plugins ← gfalPluginsInstance
  if plugins.val > 0 then
    gfalMapLoop fh.moduleName plugins.val.toNat 0
  else
    return ⟨none, plugins.err.or (some ⟨gfal2GetPluginsQuark, EINVAL, lit "No gfal_module loaded"⟩)⟩

/-- The body the dispatchers of a handle share. -/
def dispatchHandle (which : PluginCallback) (fh : GfalFileHandle) (failure : α)
    (callback : GfalPluginInterface σ → Option (Callback σ (Ret α))) : Gfal σ (Ret α) := do
  let mapped ← gfalPluginMapFileHandle fh
  match mapped.val with
  | some slot =>
      let plugin ← pluginAt slot
      callPlugin slot which (callback plugin)
  | none => return ⟨failure, mapped.err⟩

/-- The conversion of a count to `int`. -/
def toInt32 (n : Int) : Int := Int.bmod n (2 ^ 32)

theorem toInt32_neg_one : toInt32 (-1) = -1 := by decide

theorem toInt32_of_lt {n : Nat} (h : n < 2 ^ 31) : toInt32 n = n := by
  unfold toInt32
  rw [Int.bmod_eq_of_le] <;> omega

def invalidArgs (function : CString) : GError :=
  ⟨gfal2GetCoreQuark, EINVAL, lit "[" ++ function ++ lit "] Invalid args "⟩

/-- The body the two closing dispatchers share. -/
def closeHandle (which : PluginCallback) (function : CString) (fh : Option GfalFileHandle)
    (callback : GfalPluginInterface σ → Option (GfalFileHandle → Callback σ (Ret Int))) : Gfal σ (Ret Int) :=
  match fh with
  | none => return ⟨-1, some (invalidArgs function)⟩
  | some fh => dispatchHandle which fh (-1) fun p => (callback p).map (· fh)

def gfalPluginClosedirG (fh : Option GfalFileHandle) : Gfal σ (Ret Int) :=
  closeHandle .closedirG (lit "gfal_plugin_closedirG") fh fun p => p.closedirG

def gfalPluginCloseG (fh : Option GfalFileHandle) : Gfal σ (Ret Int) :=
  closeHandle .closeG (lit "gfal_plugin_closeG") fh fun p => p.closeG

/-- The bytes read come back with their count. -/
def gfalPluginReadG (fh : Option GfalFileHandle) (size : Nat) : Gfal σ (Ret (Int × List UInt8)) := do
  match fh with
  | none => return ⟨(-1, []), some (invalidArgs (lit "gfal_plugin_readG"))⟩
  | some fh =>
      if size = 0 then
        return ⟨(-1, []), some (invalidArgs (lit "gfal_plugin_readG"))⟩
      let answer ← dispatchHandle .readG fh (-1, []) fun p => p.readG.map (· fh size)
      return ⟨(toInt32 answer.val.1, answer.val.2), answer.err⟩

def gfalPluginWriteG (fh : Option GfalFileHandle) (buff : List UInt8) : Gfal σ (Ret Int) := do
  match fh with
  | none => return ⟨-1, some (invalidArgs (lit "gfal_plugin_writeG"))⟩
  | some fh =>
      if buff = [] then
        return ⟨-1, some (invalidArgs (lit "gfal_plugin_writeG"))⟩
      let answer ← dispatchHandle .writeG fh (-1) fun p => p.writeG.map (· fh buff)
      return ⟨toInt32 answer.val, answer.err⟩

end Gfal2
