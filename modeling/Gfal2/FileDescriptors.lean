import Gfal2.PluginDispatch
import Gfal2.Base.PosixRegex

/-! The descriptors of open files and directories. One table of the context binds both kinds to the
handles their plugins returned; its keys are random numbers drawn again until one is new. A directory
pointer is the integer it was made of, sign-extended. -/

namespace Gfal2

open Base

variable {σ α : Type}

abbrev gMaxInt : Nat := 2 ^ 31 - 1

/-- `rand()`. -/
def rand : Gfal σ Int := fun context =>
  .ok ((context.readings.rand context.randReads).val, { context with randReads := context.randReads + 1 })

/-- The loop of the key generator: draw again while the number is zero or a key. -/
def drawKey : Nat → Int → Gfal σ Int
  | 0, _ => Exec.fault .outOfFuel
  | fuel + 1, ret => do
      let context ← Exec.get
      if ret = 0 ∨ (context.fdescs.lookup ret).isSome then
        let next ← rand
        drawKey fuel next
      else
        return ret

def gfalFileKeyGeneratorG (fuel : Nat) : Gfal σ (Ret Int) := do
  let ret ← rand
  let context ← Exec.get
  if context.fdescs.entries.length > gMaxInt / 2 then
    return ⟨0, some (gfal2SetError gfal2GetPluginsQuark EMFILE (lit "Too many files open"))⟩
  else
    let key ← drawKey fuel ret
    return ⟨key, none⟩

/-- `gfal_add_new_file_desc`, and the two stores of a handle that are a call of it. -/
def gfalAddNewFileDesc (fuel : Nat) (pfile : GfalFileHandle) : Gfal σ (Ret Int) := do
  let key ← gfalFileKeyGeneratorG fuel
  if key.val ≠ 0 then
    Exec.modify fun context => { context with fdescs := context.fdescs.insert key.val pfile }
  return key

def badFileDescriptor : GError := gfal2SetError gfal2GetPluginsQuark EBADF (lit "bad file descriptor")

def gfalRemoveFileDesc (key : Int) : Gfal σ (Ret Bool) := do
  let context ← Exec.get
  Exec.modify fun context => { context with fdescs := context.fdescs.erase key }
  if (context.fdescs.lookup key).isSome then
    return ⟨true, none⟩
  else
    return ⟨false, some badFileDescriptor⟩

def gfalFileHandleBind (fd : Int) : Gfal σ (Ret (Option GfalFileHandle)) := do
  if fd = 0 then
    return ⟨none, some ⟨gfal2GetCoreQuark, EINVAL, lit "invalid dir descriptor"⟩⟩
  let context ← Exec.get
  match context.fdescs.lookup fd with
  | some fh => return ⟨some fh, none⟩
  | none => return ⟨none, some badFileDescriptor⟩

/-- What opening a file and opening a directory do with the answer of the plugin. -/
def storeOpened (fuel : Nat) (failure : Int) (opened : Gfal σ (Ret (Option GfalFileHandle))) : Gfal σ (Ret Int) := do
  let answer ← opened
  match answer.val with
  | none => return ⟨failure, answer.err⟩
  | some fh =>
      let key ← gfalAddNewFileDesc fuel fh
      return ⟨key.val, answer.err.or key.err⟩

/-- Pass the handle that the descriptor is bound to on to a dispatcher. -/
def onDescriptor (key : Int) (failure : α) (use : GfalFileHandle → Gfal σ (Ret α)) : Gfal σ (Ret α) := do
  let bound ← gfalFileHandleBind key
  match bound.val with
  | none => return ⟨failure, bound.err⟩
  | some fh => use fh

/-- What closing a file and closing a directory do with the handle: the descriptor goes if the plugin
succeeds. -/
def closeBound (key : Int) (close : Gfal σ (Ret Int)) : Gfal σ (Ret Int) := do
  let ret ← close
  if ret.val = 0 then
    let removed ← gfalRemoveFileDesc key
    return ⟨if removed.val then 0 else -1, ret.err.or removed.err⟩
  else
    return ret

def gfal2Open2 (fuel : Nat) (uri : Option CString) (flag mode : Nat) : Gfal σ (Ret Int) :=
  scopeCancel (-1) (storeOpened fuel (-1)
    (match uri with
    | none => return ⟨none, some ⟨gfal2GetCoreQuark, EFAULT, lit "name is empty"⟩⟩
    | some uri => gfalPluginOpenG uri flag mode))

/-- `gfal2_open`: `S_IRWXU | S_IRGRP | S_IROTH`. -/
def gfal2Open (fuel : Nat) (uri : Option CString) (flag : Nat) : Gfal σ (Ret Int) :=
  gfal2Open2 fuel uri flag 0o744

/-- `gfal2_creat`: `O_WRONLY | O_CREAT | O_TRUNC`. -/
def gfal2Creat (fuel : Nat) (filename : Option CString) (mode : Nat) : Gfal σ (Ret Int) :=
  gfal2Open2 fuel filename 0o1101 mode

def gfal2Opendir (fuel : Nat) (name : Option CString) : Gfal σ (Ret Int) :=
  scopeCancel 0 (storeOpened fuel 0
    (match name with
    | none => return ⟨none, some ⟨gfal2GetCoreQuark, EFAULT, lit "uri  or/and handle are NULL"⟩⟩
    | some name => gfalPluginOpendirG name))

def incorrectFileDescriptor : GError :=
  ⟨gfal2GetCoreQuark, EBADF, lit "Incorrect file descriptor or incorrect handle"⟩

def nullDirectory : GError :=
  ⟨gfal2GetCoreQuark, EFAULT, lit "file descriptor or/and handle are NULL"⟩

/-- The guard of the operations on files. -/
def onFile (fd : Int) (failure : α) (use : GfalFileHandle → Gfal σ (Ret α)) : Gfal σ (Ret α) :=
  if fd ≤ 0 then return ⟨failure, some incorrectFileDescriptor⟩ else onDescriptor fd failure use

/-- The guard of the operations on directories, with `GPOINTER_TO_INT`. -/
def onDirectory (dir : Int) (failure : α) (use : GfalFileHandle → Gfal σ (Ret α)) : Gfal σ (Ret α) :=
  if dir = 0 then return ⟨failure, some nullDirectory⟩ else onDescriptor (toInt32 dir) failure use

def gfal2Read (fd : Int) (size : Nat) : Gfal σ (Ret (Int × List UInt8)) :=
  scopeCancel (-1, []) (onFile fd (-1, []) fun fh => gfalPluginReadG (some fh) size)

def gfal2Write (fd : Int) (buff : List UInt8) : Gfal σ (Ret Int) :=
  scopeCancel (-1) (onFile fd (-1) fun fh => gfalPluginWriteG (some fh) buff)

def gfal2Close (fd : Int) : Gfal σ (Ret Int) :=
  onFile fd (-1) fun fh => closeBound fd (gfalPluginCloseG (some fh))

def gfalPluginReaddirG (fh : GfalFileHandle) : Gfal σ (Ret (Option CString)) :=
  dispatchHandle .readdirG fh none fun p => p.readdirG.map (· fh)

def gfal2Readdir (dir : Int) : Gfal σ (Ret (Option CString)) :=
  scopeCancel none (onDirectory dir none gfalPluginReaddirG)

/-- `(\w+://[^/]*/)`. -/
def rootRegex : Regex Char :=
  .group 1 (.seq (.plus (.cls fun c => c = '_' || c.isAlphanum)) (.seq (.chr ':') (.seq (.chr '/') (.seq (.chr '/')
    (.seq (.star (.cls (· ≠ '/'))) (.chr '/'))))))

def gfalRwGetRootLength (surl : CString) : Nat :=
  match rootRegex.search 0 surl with
  | some matched => ((matched 0).rmEo - (matched 0).rmSo).toNat
  | none => 0

/-- `gfal_feature_is_supported` for the one callback that may be missing here. -/
def readdirppNotSupported (fh : GfalFileHandle) : GError :=
  ⟨gfal2GetPluginsQuark, EPROTONOSUPPORT, lit "[gfal_plugin_readdirppG] Protocol not supported or path/url invalid: " ++
    fh.path.getD (lit "(null)")⟩

def gfalPluginReaddirppG (fh : GfalFileHandle) (st : FileType) : Gfal σ (Ret (Option CString × FileType)) := do
  let mapped ← gfalPluginMapFileHandle fh
  match mapped.val with
  | none => return ⟨(none, st), mapped.err⟩
  | some slot =>
      let plugin ← pluginAt slot
      match plugin.readdirppG with
      | some call => callPlugin slot .readdirppG (some (call fh st))
      | none => return ⟨(none, st), some (readdirppNotSupported fh)⟩

def entryUrl (path dName : CString) : CString :=
  if dName.head? = some '/' then path.take (gfalRwGetRootLength path) ++ dName else path ++ lit "/" ++ dName

/-- `gfal_rw_gfalfilehandle_readdirpp`, with its simulation by an entry and a `gfal2_stat` of it. -/
def gfalRwGfalfilehandleReaddirpp (fh : GfalFileHandle) (st : FileType) : Gfal σ (Ret (Option CString × FileType)) := do
  let answer ← gfalPluginReaddirppG fh st
  match fh.path with
  | some path =>
      if answer.err.map GError.code = some EPROTONOSUPPORT then
        let entry ← gfalPluginReaddirG fh
        match entry.val, entry.err with
        | some dName, none =>
            let stat ← scopeCancel (-1, answer.val.2) (gfalPluginStatG (entryUrl path dName) answer.val.2)
            return ⟨(if stat.val.1 < 0 then none else some dName, stat.val.2), stat.err⟩
        | dName, err => return ⟨(dName, answer.val.2), err⟩
      else
        return answer
  | none => return answer

def gfal2Readdirpp (dir : Int) (st : FileType) : Gfal σ (Ret (Option CString × FileType)) :=
  scopeCancel (none, st) (onDirectory dir (none, st) fun fh => gfalRwGfalfilehandleReaddirpp fh st)

/-- `gfal2_flush`, which looks at nothing. -/
def gfal2Flush (_fd : Int) : Gfal σ (Ret Int) := return ⟨0, none⟩

def gfal2Closedir (dir : Int) : Gfal σ (Ret Int) :=
  onDirectory dir (-1) fun fh => closeBound (toInt32 dir) (gfalPluginClosedirG (some fh))

end Gfal2
