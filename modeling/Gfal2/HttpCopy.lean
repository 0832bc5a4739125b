import Gfal2.FileDescriptors
import Gfal2.HttpCopyMode
import Gfal2.LocalCopyChecksums

/-! `gfal_http_copy`. What Davix does with a URL is a parameter. The modes are tried one after the other; which
copy functions ran is recorded beside the variables of the loop, and which checksums were obtained beside the
results of the checks. -/

namespace Gfal2

open Base

variable {σ : Type}

abbrev httpPluginDomain : GQuark := lit "http_plugin"

/-! ### Davix -/

/-- `Davix::StatusCode::Code`, as far as it has an error number of its own. -/
inductive DavixStatus where
  | webDavPropertiesParsingError | uriParsingError | sessionCreationError | nameResolutionFailure
  | connectionProblem | operationNonSupported | redirectionNeeded | connectionTimeout | operationTimeout
  | permissionRefused | isADirectory | isNotADirectory | invalidFileHandle | authentificationError
  | loginPasswordError | credentialNotFound | credDecryptionError | sslError | delegationError
  | fileNotFound | fileExist | canceled | other
  deriving DecidableEq

def davix2errno : DavixStatus → Int
  | .webDavPropertiesParsingError | .uriParsingError => EIO
  | .sessionCreationError => EPERM
  | .nameResolutionFailure => EHOSTUNREACH
  | .connectionProblem => EHOSTDOWN
  | .operationNonSupported | .redirectionNeeded => ENOSYS
  | .connectionTimeout | .operationTimeout => ETIMEDOUT
  | .permissionRefused => EPERM
  | .isADirectory => EISDIR
  | .isNotADirectory => ENOTDIR
  | .invalidFileHandle => EBADF
  | .authentificationError | .loginPasswordError | .credentialNotFound | .credDecryptionError
  | .sslError | .delegationError => EACCES
  | .fileNotFound => ENOENT
  | .fileExist => EEXIST
  | .canceled => ECANCELED
  | .other => EIO

/-- `Davix::DavixError`, with its message escaped. -/
structure DavixError where
  status : DavixStatus
  message : CString

def davix2gliberr (daverr : DavixError) : GError :=
  gfal2SetError httpPluginDomain (davix2errno daverr.status) daverr.message

/-- Where a third-party copy was sent to, empty where nothing changed. -/
structure HttpTransferHosts where
  sourceHost : CString := []
  destHost : CString := []

/-- The exception of a streamed upload: the error of the reads from the source if there was one, and else
Davix's own. -/
structure StreamError where
  code : Int
  message : CString
  fromSource : Bool

/-- Davix with the requests the plugin makes of it. -/
structure Davix (σ : Type) where
  uri : CString → Option DavixUri
  stat : CString → Callback σ (Option DavixError)
  unlink : CString → Callback σ (Option DavixError)
  copy : CopyMode → GfaltParams → CString → CString → Callback σ (Except DavixError HttpTransferHosts)
  put : GfaltParams → CString → Int → Callback σ (Option StreamError)
  releaseFile : CString → Callback σ Int

def requestDavix {α : Type} (request : Callback σ α) : Gfal σ α := fun context =>
  .ok ((request context.world).1, { context with world := (request context.world).2 })

/-! ### The operations of the plugin that a copy uses -/

/-- `strip_3rd_from_url` into a buffer of the given size. -/
def strip3rdFromUrl (urlFull : CString) (urlSize : Nat) : CString :=
  match strchr urlFull ':', strchr urlFull '+' with
  | some colon, some plus =>
      if plus > colon then urlFull.take (urlSize - 1)
      else (urlFull.take plus ++ urlFull.drop colon).take (urlSize - 1)
  | _, _ => urlFull.take (urlSize - 1)

def gfaltPropagatePrefixedError (e : GError) (side : CString) (note : Option CString) : GError :=
  match note with
  | some note => propagatePrefixedErrorExtended e ((side ++ lit " " ++ note ++ lit " ").take 511)
  | none => propagatePrefixedErrorExtended e ((side ++ lit " ").take 511)

variable (davix : Davix σ)

/-- `gfal_http_access` for `F_OK`, to which every mode bit agrees. -/
def gfalHttpAccess (url : CString) : Gfal σ (Ret Int) := do
  let daverr ← requestDavix (davix.stat (strip3rdFromUrl url gfalUrlMaxLen))
  match daverr with
  | some daverr => return ⟨-1, some (davix2gliberr daverr)⟩
  | none => return ⟨0, none⟩

def gfalHttpUnlinkG (url : CString) : Gfal σ (Ret Int) := do
  let daverr ← requestDavix (davix.unlink (strip3rdFromUrl url gfalUrlMaxLen))
  match daverr with
  | some daverr => return ⟨-1, some (davix2gliberr daverr)⟩
  | none => return ⟨0, none⟩

def gfalHttpExists (url : CString) : Gfal σ (Ret Int) := do
  let access ← gfalHttpAccess davix url
  if access.val = 0 then
    return ⟨1, none⟩
  else
    match access.err with
    | none => Exec.fault .nullDereference
    | some e =>
        return if e.code = ENOENT then ⟨0, none⟩ else ⟨-1, some (gfaltPropagatePrefixedError e [] (some []))⟩

/-- An error on the way to the destination, under its note. -/
def ofDestination (note : CString) (err : Option GError) : Option GError :=
  err.map fun e => gfaltPropagatePrefixedError e (lit "DESTINATION") (some note)

def gfalHttpCopyOverwrite (params : GfaltParams) (dst : CString) : Gfal σ (Ret Int) := do
  let existing ← gfalHttpExists davix dst
  if existing.val > 0 then
    if ¬params.replaceExisting then
      return ⟨-1, some (gfaltSetError httpPluginDomain EEXIST (lit "DESTINATION") (lit "EXISTS")
        (lit "The destination file exists and overwrite is not enabled"))⟩
    let removed ← gfalHttpUnlinkG davix dst
    if removed.err.isSome then
      return ⟨-1, ofDestination (lit "OVERWRITE") removed.err⟩
    pluginTriggerEvent httpPluginDomain .destination (lit "OVERWRITE") (lit "Deleted " ++ dst)
    return ⟨0, none⟩
  else if existing.val < 0 then
    return ⟨-1, ofDestination (lit "OVERWRITE") existing.err⟩
  else
    return ⟨0, none⟩

def gfalHttpCopyMakeParent (params : GfaltParams) (dst : CString) : Gfal σ (Ret Int) := do
  if ¬params.parentDirCreate then
    return ⟨0, none⟩
  match getParent dst with
  | none =>
      return ⟨-1, some (gfaltSetError httpPluginDomain EINVAL (lit "DESTINATION") (lit "MAKE_PARENT")
        (lit "Could not get the parent directory of " ++ dst))⟩
  | some parent =>
      let existing ← gfalHttpExists davix parent
      if existing.val < 0 then
        return ⟨-1, ofDestination (lit "MAKE_PARENT") existing.err⟩
      else if existing.val = 1 then
        return ⟨0, none⟩
      else
        let made ← gfal2MkdirRec (some parent) 0o755
        return if made.err.isSome then ⟨-1, ofDestination (lit "MAKE_PARENT") made.err⟩ else ⟨0, none⟩

/-- `gfal_http_copy_cleanup` after a copy that failed with the given error. -/
def gfalHttpCopyCleanup (dst : CString) (err : GError) : Gfal σ Unit := do
  if err.code ≠ EEXIST then
    let removed ← gfalHttpUnlinkG davix dst
    let status :=
      match removed.err with
      | some e => if e.code ≠ ENOENT then e.code else 0
      | none => 0
    pluginTriggerEvent httpPluginDomain .destination (lit "CLEANUP") (lit (toString status))
  else
    -- "The transfer failed because the file exists. Do not clean!"
    return ()

/-! ### The operation timeout -/

def getOperationTimeout (config : Config) : Int :=
  let globalTimeout := gfal2GetOptIntegerWithDefault config (lit "CORE") (lit "NAMESPACE_TIMEOUT") 300
  gfal2GetOptIntegerWithDefault config httpPluginGroup (lit "OPERATION_TIMEOUT") globalTimeout

def setOperationTimeout (timeout : Int) : Gfal σ Unit := Exec.modify fun context =>
  { context with config := gfal2SetOptInteger context.config httpPluginGroup (lit "OPERATION_TIMEOUT") timeout }

/-! ### The copy functions -/

def gfalHttpThirdPartyCopy (params : GfaltParams) (src dst : CString) (mode : CopyMode) :
    Gfal σ (Ret Int × HttpTransferHosts) := do
  if mode = .push ∨ mode = .pull then
    let answer ← requestDavix (davix.copy mode params src dst)
    match answer with
    | .error daverr => return (⟨-1, some (davix2gliberr daverr)⟩, {})
    | .ok transferHosts => return (⟨0, none⟩, transferHosts)
  else
    return (⟨-1, some (gfal2SetError httpPluginDomain EIO (lit "gfal_http_third_party_copy invalid copy mode"))⟩, {})

/-- The source of a streamed copy is opened under the timeout of the transfer, if it is an HTTP source. -/
def openStreamSource (fuel : Nat) (params : GfaltParams) (src : CString) : Gfal σ (Ret Int) := do
  if isHttpScheme src then
    let context ← Exec.get
    let previousTimeout := getOperationTimeout context.config
    setOperationTimeout (toInt32 params.timeout.toNat)
    let sourceFd ← gfal2Open fuel (some src) 0
    setOperationTimeout previousTimeout
    return sourceFd
  else
    gfal2Open fuel (some src) 0

/-- The part of `gfal_http_streamed_copy` from the open source on. -/
def putStream (params : GfaltParams) (dst : CString) (sourceFd : Int) : Gfal σ (Ret Int) := do
  let thrown ← requestDavix (davix.put params dst sourceFd)
  let _closed ← gfal2Close sourceFd
  match thrown with
  | some e =>
      let side := if e.fromSource then lit "source" else lit "destination"
      return ⟨-1, some (gfal2SetError httpPluginDomain e.code (e.message ++ lit " (" ++ side ++ lit ")"))⟩
  | none => return ⟨0, none⟩

def gfalHttpStreamedCopy (fuel : Nat) (params : GfaltParams) (src dst : CString) : Gfal σ (Ret Int) := do
  let srcStat ← gfal2Stat src
  if srcStat.val.1 ≠ 0 then
    return ⟨-1, srcStat.err⟩
  let sourceFd ← openStreamSource fuel params src
  if sourceFd.val < 0 then
    return ⟨-1, sourceFd.err⟩
  putStream davix params dst sourceFd.val

/-! ### The loop over the modes -/

/-- A copy function that ran, with what it returned. -/
structure CopyAttempt where
  mode : CopyMode
  result : Ret Int

/-- The variables of the loop, and the copy functions that ran in it. -/
structure CopyProgress where
  ret : Int := 0
  nestedError : Option GError := none
  attemptedMode : List CString := []
  transferHosts : HttpTransferHosts := {}
  attempts : List CopyAttempt := []

/-- The variables after a copy function returned. -/
def CopyProgress.after (p : CopyProgress) (attempt : CopyAttempt) : CopyProgress :=
  { p with ret := attempt.result.val, nestedError := attempt.result.err, attempts := p.attempts ++ [attempt] }

def streamedDisabled : GError :=
  gfal2SetError httpPluginDomain EINVAL
    (lit "STREAMED DISABLED Only streamed copy possible but streaming is disabled")

/-- The end of a pass, and whether the loop is left at it. -/
def finishPass (params : GfaltParams) (dst : CString) (p : CopyProgress) : Gfal σ (CopyProgress × Bool) := do
  if p.ret = 0 then
    return (p, true)
  else
    match p.nestedError with
    | none => Exec.fault .nullDereference
    | some e =>
        if params.transferCleanup then
          gfalHttpCopyCleanup davix dst e
        return (p, false)

def copyPass (fuel : Nat) (params : GfaltParams) (src dst : CString) (copyMode : HttpCopyMode) (p : CopyProgress) :
    Gfal σ (CopyProgress × Bool) := do
  pluginTriggerEvent httpPluginDomain .none (lit "TRANSFER:TYPE") copyMode.str
  let p := { p with nestedError := none }
  if copyMode.copyMode = .stream then
    if copyMode.streamingEnabled then
      let copied ← gfalHttpStreamedCopy davix fuel params src dst
      finishPass davix params dst (p.after ⟨.stream, copied⟩)
    else if copyMode.streamingOnly then
      return ({ p with nestedError := some streamedDisabled, ret := -1 }, true)
    else
      finishPass davix params dst p
  else
    let copied ← gfalHttpThirdPartyCopy davix params src dst copyMode.copyMode
    finishPass davix params dst ({ p with transferHosts := copied.2 }.after ⟨copyMode.copyMode, copied.1⟩)

def HttpCopyMode.remaining (m : HttpCopyMode) : Nat :=
  match m.copyMode with
  | .pull => 3
  | .push => 2
  | .stream => 1
  | .none => 0

theorem HttpCopyMode.remaining_next {m : HttpCopyMode} (h : m.next.atEnd = false) : m.next.remaining < m.remaining := by
  obtain ⟨mode, only, enabled⟩ := m
  cases mode <;> cases enabled <;> revert h <;> decide +revert

/-- The loop of `gfal_http_copy`. -/
def copyLoop (fuel : Nat) (params : GfaltParams) (src dst : CString) (copyMode : HttpCopyMode) (p : CopyProgress) :
    Gfal σ CopyProgress := do
  let (p, left) ← copyPass davix fuel params src dst copyMode p
  if left then
    return p
  else
    let p := { p with attemptedMode := p.attemptedMode ++ [copyMode.str] }
    let context ← Exec.get
    if _hnext : copyMode.next.atEnd = false then
      if isHttp3rdcopyFallbackEnabled davix.uri context.config src dst then
        match p.nestedError with
        | none => Exec.fault .nullDereference
        | some e =>
            if gfalHttpCopyShouldFallback e.code then
              copyLoop fuel params src dst copyMode.next p
            else
              return p
      else
        return p
    else
      return p
termination_by copyMode.remaining
decreasing_by exact HttpCopyMode.remaining_next _hnext

/-! ### Checksums -/

/-- The checksum of the source, when the mode asks for it, and its comparison with the one the user gave. A
source that does not support the type counts as one without a checksum. -/
def httpCheckSource (mode : ChecksumMode) (src checksumType userChecksum : CString) : Gfal σ (Ret CString × Seen) := do
  if ¬mode.hasSource then
    return (⟨[], none⟩, {})
  pluginTriggerEvent httpPluginDomain .source (lit "CHECKSUM:ENTER") []
  let answer ← gfal2Checksum src checksumType 0 0 (some []) 1024
  match answer.err with
  | some e =>
      if e.code = ENOSYS ∨ e.code = ENOTSUP then
        pluginTriggerEvent httpPluginDomain .source (lit "CHECKSUM:EXIT") []
        return (⟨[], none⟩, {})
      else
        return (⟨[], some (gfaltPropagatePrefixedError e (lit "SOURCE") (some (lit "CHECKSUM")))⟩, {})
  | none =>
      let srcChecksum := answer.val.2.getD []
      if userChecksum ≠ [] ∧ gfalCompareChecksums srcChecksum userChecksum 1024 ≠ 0 then
        return (⟨srcChecksum, some (gfaltSetError httpPluginDomain EIO (lit "SOURCE") (lit "CHECKSUM MISMATCH")
          (lit "Source and user-defined " ++ checksumType ++ lit " do not match (" ++ srcChecksum ++ lit " != " ++
            userChecksum ++ lit ")"))⟩, { source := some srcChecksum, mismatch := true })
      else
        pluginTriggerEvent httpPluginDomain .source (lit "CHECKSUM:EXIT") []
        return (⟨srcChecksum, none⟩, { source := some srcChecksum })

/-- What the checksum of the destination is compared with: the one of the source, or else the user's. -/
def comparedChecksum (srcChecksum userChecksum : CString) : Option CString :=
  if srcChecksum ≠ [] then some srcChecksum
  else if userChecksum ≠ [] then some userChecksum
  else none

/-- The checksum of the destination, when the mode asks for it. Its buffer is not initialised. -/
def httpCheckDestination (dstBuffer : CString) (mode : ChecksumMode) (dst checksumType userChecksum srcChecksum : CString)
    (seen : Seen) : Gfal σ (Ret Int × Seen) := do
  if ¬mode.hasTarget then
    return (⟨0, none⟩, seen)
  pluginTriggerEvent httpPluginDomain .destination (lit "CHECKSUM:ENTER") []
  let answer ← gfal2Checksum dst checksumType 0 0 (some dstBuffer) 1024
  match answer.err with
  | some e => return (⟨-1, ofDestination (lit "CHECKSUM") (some e)⟩, seen)
  | none =>
      let dstChecksum := answer.val.2.getD []
      let whose := if srcChecksum ≠ [] then lit "Source" else lit "User-defined"
      match comparedChecksum srcChecksum userChecksum with
      | some compared =>
          if gfalCompareChecksums compared dstChecksum 1024 ≠ 0 then
            return (⟨-1, some (gfaltSetError httpPluginDomain EIO (lit "DESTINATION") (lit "CHECKSUM MISMATCH")
              (whose ++ lit " and destination " ++ checksumType ++ lit " do not match (" ++ compared ++ lit " != " ++
                dstChecksum ++ lit ")"))⟩, { seen with destination := some dstChecksum, mismatch := true })
          pluginTriggerEvent httpPluginDomain .destination (lit "CHECKSUM:EXIT") []
          return (⟨0, none⟩, { seen with destination := some dstChecksum })
      | none =>
          pluginTriggerEvent httpPluginDomain .destination (lit "CHECKSUM:EXIT") []
          return (⟨0, none⟩, { seen with destination := some dstChecksum })

/-! ### The whole copy -/

/-- Destination and parent are looked after unless the copy is strict. -/
def httpPrepareDestination (params : GfaltParams) (dst : CString) : Gfal σ (Ret Int) := do
  if params.strictMode then
    return ⟨0, none⟩
  let overwritten ← gfalHttpCopyOverwrite davix params dst
  if overwritten.val ≠ 0 then
    return ⟨-1, overwritten.err⟩
  let made ← gfalHttpCopyMakeParent davix params dst
  return if made.val ≠ 0 then ⟨-1, made.err⟩ else ⟨0, none⟩

def tryModes (fuel : Nat) (params : GfaltParams) (srcFull dstFull src dst : CString) : Gfal σ CopyProgress := do
  let context ← Exec.get
  let chosen := constructCopyMode davix.uri context.config src dst
  Exec.modify fun context => { context with config := chosen.2 }
  pluginTriggerEvent httpPluginDomain .none (lit "TRANSFER:ENTER") (srcFull ++ lit " => " ++ dstFull)
  copyLoop davix fuel params src dst chosen.1 {}

def inBrackets (host : CString) : CString := if host = [] then [] else lit " (" ++ host ++ lit ")"

/-- The text in front of the error of the last attempt. -/
def copyFailed (attemptedMode : List CString) : CString :=
  if attemptedMode = [] then []
  else lit "ERROR: Copy failed (" ++ (lit ", ").intercalate attemptedMode ++ lit "). Last attempt: "

/-- What is told and returned after the loop. -/
def finishTransfer (src dst : CString) (p : CopyProgress) : Gfal σ (Ret Int) := do
  if p.ret = 0 then
    pluginTriggerEvent httpPluginDomain .none (lit "TRANSFER:EXIT")
      (src ++ inBrackets p.transferHosts.sourceHost ++ lit " => " ++ dst ++ inBrackets p.transferHosts.destHost)
    return ⟨0, none⟩
  else
    match p.nestedError with
    | none => Exec.fault .nullDereference
    | some e =>
        let e := { e with message := copyFailed p.attemptedMode ++ e.message }
        pluginTriggerEvent httpPluginDomain .none (lit "TRANSFER:EXIT") e.message
        return ⟨-1, some (gfaltPropagatePrefixedError e (lit "TRANSFER") none)⟩

/-- The source is evicted where that is asked for, which has no part in the result. -/
def evictSource (params : GfaltParams) (src : CString) : Gfal σ Unit := do
  if params.evict then
    let ret ← requestDavix (davix.releaseFile src)
    pluginTriggerEvent httpPluginDomain .source (lit "EVICT") (lit (toString ret))

/-- The record of a copy: the copy functions that ran and the checksums that were obtained. -/
structure HttpCopyRecord where
  attempts : List CopyAttempt := []
  checksums : Seen := {}

/-- `gfal_http_copy` on URLs without `+3rd`, and beside its result its record. -/
def httpCopyStripped (dstBuffer : CString) (fuel : Nat) (params : GfaltParams) (srcFull dstFull src dst : CString) :
    Gfal σ (Ret Int × HttpCopyRecord) := do
  pluginTriggerEvent httpPluginDomain .none (lit "PREPARE:ENTER") (srcFull ++ lit " => " ++ dstFull)
  let (mode, checksumType, userChecksum) := copySettings params
  let (source, seen) ← httpCheckSource mode src checksumType userChecksum
  if source.err.isSome then
    return (⟨-1, source.err⟩, { checksums := seen })
  let prepared ← httpPrepareDestination davix params dst
  if prepared.val ≠ 0 then
    return (prepared, { checksums := seen })
  pluginTriggerEvent httpPluginDomain .none (lit "PREPARE:EXIT") (srcFull ++ lit " => " ++ dstFull)
  let p ← tryModes davix fuel params srcFull dstFull src dst
  let transferred ← finishTransfer src dst p
  if transferred.val ≠ 0 then
    return (transferred, ⟨p.attempts, seen⟩)
  let (checked, seen) ← httpCheckDestination dstBuffer mode dst checksumType userChecksum source.val seen
  if checked.val ≠ 0 then
    return (checked, ⟨p.attempts, seen⟩)
  evictSource davix params src
  return (⟨0, none⟩, ⟨p.attempts, seen⟩)

/-- `gfal_http_copy`, and beside its result its record. -/
def gfalHttpCopyRecorded (dstBuffer : CString) (fuel : Nat) (params : GfaltParams) (srcFull dstFull : CString) :
    Gfal σ (Ret Int × HttpCopyRecord) :=
  httpCopyStripped davix dstBuffer fuel params srcFull dstFull (strip3rdFromUrl srcFull gfalUrlMaxLen)
    (strip3rdFromUrl dstFull gfalUrlMaxLen)

def gfalHttpCopy (dstBuffer : CString) (fuel : Nat) (params : GfaltParams) (srcFull dstFull : CString) :
    Gfal σ (Ret Int) := do
  let recorded ← gfalHttpCopyRecorded davix dstBuffer fuel params srcFull dstFull
  return recorded.1

end Gfal2
