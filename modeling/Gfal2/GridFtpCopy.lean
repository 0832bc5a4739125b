import Gfal2.Requests
import Gfal2.Uri
import Gfal2.HttpCopyMode

/-! The copy of one file by the GridFTP plugin. The servers, the name service and the calls of the library that
the plugin makes for a copy answer requests; what they answer is any value and any exception. -/

namespace Gfal2

open Base

/-- What the code of the plugin throws: `Gfal::CoreException`, its subclass `Gfal::TransferException`, another
`std::exception`, or something else. -/
inductive CppException where
  | core (e : GError)
  | transfer (e : GError) (side note : CString)
  | std (what : CString)
  | unknown
  deriving DecidableEq

/-- The error of what `catch (Gfal::CoreException &)` catches. -/
def CppException.asCore : CppException → Option GError
  | .core e => some e
  | .transfer e _ _ => some e
  | .std _ => none
  | .unknown => none

inductive GridFtpRequest where
  | stat (url : CString)
  | unlink (url : CString)
  | checksum (url type : CString)
  | mkdirRec (url : CString) (mode : Nat)
  | session (url : CString)
  | transfer (src dst : CString) (udt : Bool)
  deriving DecidableEq

abbrev GridFtpHistory := List GridFtpRequest

abbrev GridFtpWorld := Services Unit GridFtpRequest

/-- The servers and the name service, the error that the second transfer of a request is refused with, the one that GLib
reports for a value that is not in the configuration, and what joining returns where it stores behind its array. -/
structure GridFtpServers where
  stat : CString → GridFtpHistory → Except CppException FileType
  unlink : CString → GridFtpHistory → Except CppException Unit
  checksum : CString → CString → GridFtpHistory → Except CppException CString
  mkdirRec : CString → Nat → GridFtpHistory → Option GError
  session : CString → GridFtpHistory → Except CppException Unit
  transfer : CString → CString → Bool → GridFtpHistory → Except CppException Unit
  registerAgain : CString → CString → GridFtpHistory → Option GError := fun _ _ _ => none
  resolveDnsToHostname : Option CString → Option CString
  lookupHost : Option CString → Bool → CString
  missingValue : GError
  overrun : Gfal2Uri → CString := fun _ => []

/-- The code of the plugin. -/
abbrev GridFtp (α : Type) : Type := Throwing (Gfal2Context GridFtpWorld) Fault CppException α

abbrev gridFtpGroup : CString := lit "GRIDFTP PLUGIN"
abbrev scopeFilecopy : GQuark := lit "GridFTPFileCopyModule::FileCopy"
abbrev domainGsiftp : GQuark := lit "GSIFTP"
abbrev gfalErrmsgLen : Nat := 2048

/-- Throw what the request is answered with, if that is an exception. -/
def gridFtpRequest {α : Type} (request : GridFtpRequest) (answer : GridFtpHistory → Except CppException α) : GridFtp α :=
  ExceptT.mk (makeRequest request answer)

/-- `plugin_trigger_event` among code that throws. -/
def triggerEvent (domain : GQuark) (side : GfalEventSide) (stage description : CString) : GridFtp Unit :=
  liftM (pluginTriggerEvent domain side stage description : Gfal GridFtpWorld Unit)

/-- The value is read without regard to whether it is there. -/
def Config.gridFtpSwitch (config : Config) (key : CString) : Bool :=
  gfal2GetOptBooleanWithDefault config gridFtpGroup key false

variable (servers : GridFtpServers)

def resolveDnsHelper (uri : CString) : Option CString :=
  match gfal2ParseUri uri with
  | ⟨some parsed, none⟩ =>
      (servers.resolveDnsToHostname parsed.host).map fun resolved =>
        let uri := { parsed with host := some resolved }
        (gfal2JoinUri uri).getD (servers.overrun uri)
  | _ => none

/-- The URL a copy goes on with when names of hosts are to be resolved. -/
def resolvedUrl (config : Config) (url : CString) : CString :=
  if gfal2GetOptBooleanWithDefault config (lit "CORE") (lit "RESOLVE_DNS") false then
    match resolveDnsHelper servers url with
    | some resolved => resolved.take 2047
    | none => url
  else url

def returnHostAndPort (uri : CString) (useIpv6 : Bool) : GridFtp CString :=
  match gfal2ParseUri uri with
  | ⟨_, some e⟩ => throw (.core e)
  | ⟨none, none⟩ => liftM (Exec.fault .nullDereference : Gfal GridFtpWorld CString)
  | ⟨some parsed, none⟩ => return servers.lookupHost parsed.host useIpv6 ++ ':' :: Nat.toDigits 10 parsed.port

/-! ### The destination -/

/-- `GridFTPModule::exists`. -/
def gridFtpExists (path : CString) : GridFtp Bool :=
  tryCatch (do
    let _ ← gridFtpRequest (.stat path) (servers.stat path)
    return true) fun e =>
    match e.asCore with
    | some err => if err.code ≠ ENOENT then throw e else return false
    | none => throw e

def destinationExists (url : CString) : CppException :=
  .transfer ⟨scopeFilecopy, EEXIST, (lit " Destination already exist " ++ url ++ lit ", Cancel").take (gfalErrmsgLen - 1)⟩
    (lit "DESTINATION") (lit "EXISTS")

/-- `gridftp_filecopy_delete_existing`: whether something was deleted. -/
def gridftpFilecopyDeleteExisting (params : GfaltParams) (url : CString) : GridFtp Bool := do
  if ← gridFtpExists servers url then
    if params.replaceExisting then
      gridFtpRequest (.unlink url) (servers.unlink url)
      triggerEvent domainGsiftp .destination (lit "OVERWRITE") (lit "Deleted " ++ url)
      return true
    else
      throw (destinationExists url)
  else
    return false

/-- The buffer without the slashes at its end, of which the first character is none. A URL as long as the buffer is
cut, and is not stripped: the search starts behind its last character. -/
def strippedBuffer (url : CString) : CString :=
  let buffer := url.take (gfalUrlMaxLen - 1)
  if url.length = gfalUrlMaxLen then buffer else buffer.take 1 ++ (buffer.drop 1).rdropWhile (· == '/')

/-- What stands before the last slash, which the first character is not taken for. -/
def parentInBuffer (url : CString) : Option CString :=
  match strrchr (strippedBuffer url) '/' with
  | some slash => if slash = 0 then none else some ((strippedBuffer url).take slash)
  | none => none

def parentIsNoDirectory : CppException :=
  .transfer ⟨scopeFilecopy, ENOTDIR, lit "The parent of the destination file exists, but it is not a directory"⟩
    (lit "DESTINATION") []

def invalidParent (url : CString) : CppException :=
  .transfer ⟨scopeFilecopy, EINVAL, lit "Impossible to create directory " ++ strippedBuffer url ++ lit " : invalid path"⟩
    (lit "DESTINATION") []

/-- `gridftp_create_parent_copy`. The search starts where a URL longer than the buffer would have ended. -/
def gridftpCreateParentCopy (params : GfaltParams) (url : CString) : GridFtp Unit := do
  if params.parentDirCreate then
    if url.length > gfalUrlMaxLen then
      liftM (Exec.fault .outOfRange : Gfal GridFtpWorld Unit)
    match parentInBuffer url with
    | none => throw (invalidParent url)
    | some parent =>
        let there ← tryCatch (do
          let type ← gridFtpRequest (.stat parent) (servers.stat parent)
          if type ≠ .directory then
            throw parentIsNoDirectory
          return true) fun e =>
          match e.asCore with
          | some err => if err.code ≠ ENOENT then throw e else return false
          | none => throw e
        if ¬there then
          match ← (makeRequest (.mkdirRec parent 0o755) (servers.mkdirRec parent 0o755) : Gfal GridFtpWorld (Option GError)) with
          | some e => throw (.core e)
          | none => return ()

/-! ### The transfer -/

def gridftpDoCopy (src dst : CString) (udt : Bool) : GridFtp Unit :=
  gridFtpRequest (.transfer src dst udt) (servers.transfer src dst udt)

def gridftpFilecopyCopyFileInternal (params : GfaltParams) (src dst : CString) : GridFtp Unit := do
  if ¬params.strictMode then
    if ¬(← gridftpFilecopyDeleteExisting servers params dst) then
      gridftpCreateParentCopy servers params dst
  gridFtpRequest (.session src) (servers.session src)
  let context ← (Exec.get : Gfal GridFtpWorld _)
  let enableUdt := context.config.gridFtpSwitch (lit "ENABLE_UDT")
  if enableUdt then
    triggerEvent domainGsiftp .none (lit "UDT:ENABLE") (lit "Trying UDT")
  tryCatch (gridftpDoCopy servers src dst enableUdt) fun e =>
    match e.asCore with
    | some err =>
        if strstr err.message (lit "udt driver not whitelisted") then do
          triggerEvent domainGsiftp .none (lit "UDT:DISABLE")
            (lit "UDT failed. Falling back to default mode: " ++ err.message)
          -- the request is done already, so that the wait for its second transfer ends with the first error
          gridFtpRequest (.transfer src dst false) fun history =>
            .error (((servers.registerAgain src dst history).map .core).getD e)
        else throw e
    | none => throw e

/-- `GridFTPModule::autoCleanFileCopy`: clear the destination if an error occurs in the transfer. -/
def autoCleanFileCopy (code : Int) (dst : CString) : GridFtp Unit :=
  if code ≠ EEXIST then tryCatch (gridFtpRequest (.unlink dst) (servers.unlink dst)) fun _ => return ()
  else return ()

def transferHandler (dst : CString) : CppException → GridFtp Unit
  | .transfer e side note => throw (.transfer e side note)
  | .core e => do
      autoCleanFileCopy servers e.code dst
      throw (.transfer e (lit "TRANSFER") [])
  | .std what => do
      autoCleanFileCopy servers EIO dst
      throw (.transfer ⟨domainGsiftp, EIO, what⟩ (lit "TRANSFER") (lit "UNEXPECTED"))
  | .unknown => do
      autoCleanFileCopy servers EIO dst
      throw .unknown

/-! ### The copy -/

/-- The variables of a copy when its transfer starts. -/
structure PreparedCopy where
  src : CString
  dst : CString
  checksumMode : ChecksumMode
  checksumType : CString
  checksumUserDefined : CString
  checksumSrc : CString

def checksumMismatch (text : CString) : CppException :=
  .transfer ⟨scopeFilecopy, EIO, text⟩ (lit "TRANSFER") (lit "CHECKSUM MISMATCH")

/-- The user's checksum, if there is one, must be that of the source. -/
def compareSource (userDefined checksumSrc : CString) : GridFtp Unit :=
  if userDefined ≠ [] ∧ gfalCompareChecksums userDefined checksumSrc gfalUrlMaxLen ≠ 0 then
    throw (checksumMismatch (lit "USER_DEFINE and SRC checksums are different. " ++ userDefined ++ lit " != " ++ checksumSrc))
  else return ()

/-- The source checksum with its events, when the mode asks for it, and its comparison with the one the user gave. -/
def gridFtpCheckSource (mode : ChecksumMode) (src checksumType userDefined : CString) : GridFtp CString :=
  if mode.hasSource then do
    triggerEvent domainGsiftp .source (lit "CHECKSUM:ENTER") checksumType
    let checksumSrc ← gridFtpRequest (.checksum src checksumType) (servers.checksum src checksumType)
    triggerEvent domainGsiftp .source (lit "CHECKSUM:EXIT") (checksumType ++ '=' :: checksumSrc)
    compareSource userDefined checksumSrc
    return checksumSrc
  else return []

/-- The event at the start and the end of the transfer. -/
def triggerTransfer (stage src dst : CString) (useIpv6 : Bool) : GridFtp Unit := do
  let srcHost ← returnHostAndPort servers src useIpv6
  let dstHost ← returnHostAndPort servers dst useIpv6
  triggerEvent domainGsiftp .none stage
    (('(' :: srcHost) ++ lit ") " ++ src ++ lit " => (" ++ dstHost ++ lit ") " ++ dst)

/-- The mode of the checks, the type of the checksums and the one the user gave. -/
def copyChecksum (config : Config) (params : GfaltParams) : Except CppException (ChecksumMode × CString × CString) :=
  let (mode, type, userDefined) :=
    if params.strictMode then (ChecksumMode.none, [], []) else gfaltGetChecksum params gfalUrlMaxLen gfalUrlMaxLen
  let mode := if config.gridFtpSwitch (lit "SKIP_SOURCE_CHECKSUM") then mode.withoutSource else mode
  if mode ≠ .none ∧ userDefined = [] ∧ type = [] then
    match config.optString gridFtpGroup (lit "COPY_CHECKSUM_TYPE") with
    | none => .error (.core servers.missingValue)
    | some defaultType => .ok (mode, defaultType.take (gfalUrlMaxLen - 1), userDefined)
  else .ok (mode, type, userDefined)

/-- `GridFTPModule::filecopy` up to the transfer. -/
def prepareFilecopy (params : GfaltParams) (src dst : CString) : GridFtp PreparedCopy := do
  let context ← (Exec.get : Gfal GridFtpWorld _)
  let src := resolvedUrl servers context.config src
  let dst := resolvedUrl servers context.config dst
  match copyChecksum servers context.config params with
  | .error e => throw e
  | .ok (mode, type, userDefined) =>
      let checksumSrc ← gridFtpCheckSource servers mode src type userDefined
      triggerTransfer servers (lit "TRANSFER:ENTER") src dst (context.config.gridFtpSwitch (lit "IPV6"))
      triggerEvent domainGsiftp .none (lit "TRANSFER:TYPE") (lit "3rd push")
      return ⟨src, dst, mode, type, userDefined, checksumSrc⟩

/-- The destination checksum with its events, and its comparison with the one of the source or of the user. -/
def gridFtpCheckDestination (p : PreparedCopy) : GridFtp Unit := do
  triggerEvent domainGsiftp .destination (lit "CHECKSUM:ENTER") p.checksumType
  let checksumDst ← gridFtpRequest (.checksum p.dst p.checksumType) (servers.checksum p.dst p.checksumType)
  triggerEvent domainGsiftp .destination (lit "CHECKSUM:EXIT") p.checksumType
  if p.checksumMode.hasSource then
    if gfalCompareChecksums p.checksumSrc checksumDst gfalUrlMaxLen ≠ 0 then
      throw (checksumMismatch (lit "SRC and DST checksum are different. Source: " ++ p.checksumSrc ++
        lit " Destination: " ++ checksumDst))
  else if gfalCompareChecksums p.checksumUserDefined checksumDst gfalUrlMaxLen ≠ 0 then
    throw (checksumMismatch (lit "USER_DEFINE and DST checksums are different. " ++ p.checksumUserDefined ++
      lit " != " ++ checksumDst))

/-- `GridFTPModule::filecopy` from the end of the transfer on. -/
def finishFilecopy (p : PreparedCopy) : GridFtp Unit := do
  let context ← (Exec.get : Gfal GridFtpWorld _)
  triggerTransfer servers (lit "TRANSFER:EXIT") p.src p.dst (context.config.gridFtpSwitch (lit "IPV6"))
  if p.checksumMode.hasTarget then
    gridFtpCheckDestination servers p

/-- `GridFTPModule::filecopy`. -/
def gridFtpFilecopy (params : GfaltParams) (src dst : CString) : GridFtp Unit := do
  let p ← prepareFilecopy servers params src dst
  tryCatch (gridftpFilecopyCopyFileInternal servers params p.src p.dst) (transferHandler servers p.dst)
  finishFilecopy servers p

end Gfal2
