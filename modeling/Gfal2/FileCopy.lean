import Gfal2.LocalCopy

/-! Copies of one file and of many: a plugin that takes the pair of URLs makes the copy, else the library
itself. Without a plugin for the whole list, a bulk copy goes through its files one by one, and rewrites the
checksum part of the one object of parameters before each. -/

namespace Gfal2

open Base

variable {σ : Type}

abbrev scopeCopyDomain : GQuark := lit "GFAL2:CORE:COPY"

def findCopyPlugin (operation : GfalUrl2Check) (src dst : CString) : Gfal σ (Option Slot) := do
  let context ← Exec.get
  return context.pluginOpt.sortedPlugin.find? fun slot =>
    match (context.pluginOpt.pluginList slot).checkPluginUrlTransfer with
    | some check => check context.world src dst operation
    | none => false

/-- The loop of `trigger_listener_plugins`. An error of a hook is logged and dropped. -/
def triggerListeners (params : GfaltParams) : List Slot → Gfal σ Unit
  | [] => return ()
  | slot :: rest => do
      let plugin ← pluginAt slot
      match plugin.copyEnterHook with
      | some _ =>
          let _hooked ← callPlugin slot .copyEnterHook (plugin.copyEnterHook.map (· params))
          triggerListeners params rest
      | none => triggerListeners params rest

def triggerListenerPlugins (params : GfaltParams) : Gfal σ Unit := do
  let context ← Exec.get
  triggerListeners params context.pluginOpt.sortedPlugin

/-- `g_markup_escape_text` on one character. -/
def gMarkupEscapeChar (c : Char) : CString :=
  if c = '&' then lit "&amp;"
  else if c = '<' then lit "&lt;"
  else if c = '>' then lit "&gt;"
  else if c = '\'' then lit "&#39;"
  else if c = '"' then lit "&quot;"
  else if (0x1 ≤ c.toNat ∧ c.toNat ≤ 0x8) ∨ (0xb ≤ c.toNat ∧ c.toNat ≤ 0xc) ∨ (0xe ≤ c.toNat ∧ c.toNat ≤ 0x1f) ∨
      (0x7f ≤ c.toNat ∧ c.toNat ≤ 0x84) ∨ (0x86 ≤ c.toNat ∧ c.toNat ≤ 0x9f) then
    lit "&#x" ++ Nat.toDigits 16 c.toNat ++ lit ";"
  else [c]

def gMarkupEscapeText (text : CString) : CString := text.flatMap gMarkupEscapeChar

/-- The events of the items of a list. -/
def notifyItems : List (CString × CString) → Gfal σ Unit
  | [] => return ()
  | (src, dst) :: rest => do
      pluginTriggerEvent scopeCopyDomain .none (lit "LIST:ITEM")
        (gMarkupEscapeText src ++ lit " => " ++ gMarkupEscapeText dst)
      notifyItems rest

def notifyCopyList (pairs : List (CString × CString)) : Gfal σ Unit := do
  pluginTriggerEvent scopeCopyDomain .none (lit "LIST:ENTER") []
  notifyItems pairs
  pluginTriggerEvent scopeCopyDomain .none (lit "LIST:EXIT") []

/-- The copy by the library itself, if the parameters permit it. -/
def copyWithoutPlugin (fuel : Nat) (params : GfaltParams) (src dst : CString) : Gfal σ (Ret Int) :=
  if params.localTransfers then
    performLocalCopy fuel params src dst
  else
    return ⟨-1, some (gfal2SetError scopeCopyDomain EPROTONOSUPPORT (lit "No plugin supports a transfer from " ++
      src ++ lit " to " ++ dst ++ lit ", and local streaming is disabled"))⟩

def performCopy (fuel : Nat) (params : GfaltParams) (src dst : CString) : Gfal σ (Ret Int) := do
  triggerListenerPlugins params
  notifyCopyList [(src, dst)]
  let found ← findCopyPlugin .fileCopy src dst
  match found with
  | none => copyWithoutPlugin fuel params src dst
  | some slot =>
      let plugin ← pluginAt slot
      callPlugin slot .copyFile (plugin.copyFile.map (· params src dst))

/-! ### Many files -/

/-- The size `set_checksum` gives to `g_strlcpy` for the type before a colon at this index. -/
def chktypeSize (colon : Nat) : Nat := if colon < 64 then colon else 64

/-- The type before a colon at the given index of the checksum, as `g_strlcpy` leaves it in the array
`chktype`. It copies one character less than its size; with size 0 it copies nothing and the array stays
as it was, uninitialised. -/
def chktypeBefore (uninitialised checksum : CString) (colon : Nat) : CString :=
  if chktypeSize colon = 0 then uninitialised else checksum.take (chktypeSize colon - 1)

/-- `set_checksum`, with what the uninitialised array happens to hold. -/
def setChecksum (uninitialised : CString) (params : GfaltParams) (checksum : Option CString) :
    Ret Int × GfaltParams :=
  match checksum with
  | none => gfaltSetChecksum params params.checksum.mode none none
  | some checksum =>
      match strchr checksum ':' with
      | none => gfaltSetChecksum params params.checksum.mode none (some checksum)
      | some colon => gfaltSetChecksum params params.checksum.mode (some (chktypeBefore uninitialised checksum colon))
          (some (checksum.drop (colon + 1)))

/-- One place of the arrays of a bulk copy. A null array of checksums is one of null pointers. -/
structure BulkFile where
  src : CString
  dst : CString
  checksum : Option CString := none

/-- What became of one file: the last value returned for it, its place in the array of errors, and, for the
record, the checksum settings under which `perform_copy` was called for it, if it was. -/
structure FileOutcome where
  subret : Int
  error : Option GError
  settings : Option ChecksumSettings
  deriving DecidableEq

/-- The loop of `bulk_fallback`, from the file numbered `i` on. The first parameter is what the uninitialised
array holds at each file. -/
def bulkLoop (fuel : Nat) (uninitialised : Nat → CString) : Nat → GfaltParams → List BulkFile →
    Gfal σ (Int × List FileOutcome)
  | _, _, [] => return (0, [])
  | i, params, file :: rest => do
      let set := setChecksum (uninitialised i) params file.checksum
      if set.1.val < 0 then
        let others ← bulkLoop fuel uninitialised (i + 1) set.2 rest
        return (others.1 - 1, ⟨set.1.val, set.1.err, none⟩ :: others.2)
      else
        let copied ← performCopy fuel set.2 file.src file.dst
        let others ← bulkLoop fuel uninitialised (i + 1) set.2 rest
        return (if copied.val < 0 then others.1 - 1 else others.1,
          ⟨copied.val, copied.err, some set.2.checksum⟩ :: others.2)

def bulkFallback (fuel : Nat) (uninitialised : Nat → CString) (params : GfaltParams) (files : List BulkFile) :
    Gfal σ (Int × List FileOutcome) :=
  bulkLoop fuel uninitialised 0 params files

end Gfal2
