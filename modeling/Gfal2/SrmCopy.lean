import Gfal2.SrmTurls

/-! The copy of one file by the SRM plugin: `srm_plugin_filecopy`. Its steps end in one clean-up, which goes by the
error, by the tokens that were handed out, and by whether the transfer was finished. -/

namespace Gfal2

open Base

abbrev srmDomain : GQuark := lit "SRM"

/-- `gfal_surl_checker`: `^srm://([:alnum:]|-|/|.|_)+$`, in any case of the letters. -/
def gfalSurlChecker (surl : CString) : Bool :=
  surl.length < 2048 && gfalPrefixSrm.isPrefixOf (surl.map Char.toLower) && (surl.drop 6).length > 0

/-- `plugin_trigger_event` among code that ends where an error is set. -/
def srmEvent (domain : GQuark) (side : GfalEventSide) (stage description : CString) : SrmThrowing Unit :=
  liftM (pluginTriggerEvent domain side stage description : Srm Unit)

variable (servers : SrmServers)

/-! ### Calls of the library -/

/-- `gfal2_stat`, for the size of a file. -/
def gfal2StatSize (url : CString) : SrmThrowing Int :=
  inCancelScope (if gfalSurlChecker url then do
      let buf ← gfalSrmStatG servers url
      return buf.stSize
    else askLibrary (.stat url) (servers.stat url))

/-- `gfal2_getxattr` of the status. -/
def gfal2GetxattrStatus (url : CString) : SrmThrowing CString :=
  inCancelScope (if gfalSurlChecker url then gfalSrmStatusGetxattrG servers url 1024
    else askLibrary (.getxattr url (lit "user.status")) (servers.getxattr url (lit "user.status")))

/-- `gfal2_unlink`. -/
def gfal2UnlinkUrl (url : CString) : Srm (Ret Int) :=
  scopeCancel (-1) (if gfalSurlChecker url then gfalSrmUnlinkG servers url else do
    match ← makeRequest (.unlink url) (servers.unlink url) with
    | some e => return ⟨-1, some e⟩
    | none => return ⟨0, none⟩)

/-! ### The destination -/

def srmPluginDeleteExistingCopy (params : GfaltParams) (surl : CString) : SrmThrowing Unit := do
  if params.replaceExisting then
    match ← (gfalSrmUnlinkG servers surl : Srm _) with
    | ⟨0, _⟩ => srmEvent srmDomain .destination (lit "OVERWRITE") (lit "Deleted " ++ surl)
    | ⟨_, some e⟩ => if e.code ≠ ENOENT ∧ e.code ≠ EINVAL then throw e
    | ⟨_, none⟩ => (Exec.fault .nullDereference : Srm _)

/-- What stands before the last slash behind `srm://`, or nothing if there is none. -/
def srmParent (surl : CString) : Option CString :=
  let stripped := surl.rdropWhile (· == '/')
  match strrchr stripped '/' with
  | some p => if 6 < p then some (stripped.take p) else none
  | none => none

def srmPluginCreateParentCopy (params : GfaltParams) (surl : CString) : SrmThrowing Unit := do
  if params.parentDirCreate then
    match srmParent surl with
    | some parent => gfalSrmMkdirRecG servers parent
    | none => throw (gfal2SetError srmQuark EINVAL (lit "Invalid srm url " ++ surl))

/-- Throw with a side and a note before the message. -/
def withNote {α : Type} (side note : CString) (body : SrmThrowing α) : SrmThrowing α :=
  tryCatch body fun e => throw (gfaltPropagatePrefixedError e side (some note))

def srmPluginPrepareDestPut (params : GfaltParams) (surl : CString) : SrmThrowing Unit := do
  withNote (lit "DESTINATION") (lit "OVERWRITE") (srmPluginDeleteExistingCopy servers params surl)
  withNote (lit "DESTINATION") (lit "MAKE_PARENT") (srmPluginCreateParentCopy servers params surl)

/-! ### The TURLs -/

/-- `srm_resolve_get_turl`: the TURL and the token. -/
def srmResolveGetTurl (surl otherSurl : CString) : SrmThrowing (CString × CString) :=
  if srmCheckUrl surl then do
    let (turl, token) ← withNote (lit "SOURCE") (lit "SRM_GET_TURL") (gfalSrmGetRd3Turl servers surl otherSurl)
    srmEvent srmQuark .source (lit "SRM:GET") (lit "Got TURL " ++ surl ++ lit " => " ++ turl)
    return (turl, token)
  else return (surl.take 2047, [])

/-- `srm_resolve_put_turl`: the TURL and the token. -/
def srmResolvePutTurl (params : GfaltParams) (surl otherSurl : CString) (fileSize : Int) : SrmThrowing (CString × CString) :=
  if srmCheckUrl surl then do
    srmPluginPrepareDestPut servers params surl
    let (turl, token) ← withNote (lit "DESTINATION") (lit "SRM_PUT_TURL") (gfalSrmPutRd3Turl servers surl otherSurl fileSize)
    srmEvent srmQuark .destination (lit "SRM:PUT") (lit "Got TURL " ++ surl ++ lit " => " ++ turl)
    return (turl, token)
  else return (surl.take 2047, [])

/-- The size of the source, or 0 if it cannot be told. -/
def sourceSize (source : CString) : SrmThrowing Int := tryCatch (gfal2StatSize servers source) fun _ => return 0

def sourceNotOnline (text : CString) : GError := gfaltSetError srmQuark EINVAL (lit "SOURCE") (lit "SRM_GET_TURL") text

def checkSourceOnline (source : CString) : SrmThrowing Unit := do
  let context ← (Exec.get : Srm _)
  if gfal2GetOptBooleanWithDefault context.config srmConfigGroup (lit "COPY_FAIL_NEARLINE") false ∧ srmCheckUrl source then
    let status ← gfal2GetxattrStatus servers source
    if status = [] then throw (sourceNotOnline (lit "Error while checking if the source file is ONLINE"))
    if status = lit "NEARLINE" then throw (sourceNotOnline (lit "The source file is not ONLINE"))

/-! ### Checksums -/

/-- What is asked of the checksums of a copy. -/
structure SrmChecksumConfig where
  mode : ChecksumMode
  algorithm : CString
  user : CString

/-- `srm_get_checksum_config`: an algorithm is needed in any mode. -/
def srmGetChecksumConfig (config : Config) (params : GfaltParams) : Except GError SrmChecksumConfig :=
  let (mode, algorithm, user) := gfaltGetChecksum params 64 2048
  let allowEmptySource := gfal2GetOptBooleanWithDefault config srmConfigGroup (lit "ALLOW_EMPTY_SOURCE_CHECKSUM") false
  let mode := if allowEmptySource then mode.withoutSource else mode
  if algorithm = [] then
    match config.optString srmConfigGroup (lit "COPY_CHECKSUM_TYPE") with
    | some configured => .ok ⟨mode, configured.take 63, user⟩
    | none => .error servers.missingValue
  else .ok ⟨mode, algorithm, user⟩

def srmChecksumMismatch (side text : CString) : GError := gfaltSetError srmQuark EIO side (lit "CHECKSUM MISMATCH") text

/-- A body between two events, which are told in any case. -/
def betweenEvents {α : Type} (side : GfalEventSide) (body : SrmThrowing α) : SrmThrowing α := ExceptT.mk do
  pluginTriggerEvent srmDomain side (lit "CHECKSUM:ENTER") []
  let answer ← body.run
  pluginTriggerEvent srmDomain side (lit "CHECKSUM:EXIT") []
  return answer

def srmValidateSourceChecksum (cfg : SrmChecksumConfig) (src : CString) : SrmThrowing CString :=
  betweenEvents .source do
    let source ← withNote (lit "SOURCE") (lit "CHECKSUM")
      (gfalSrmChecksumGFallback servers src cfg.algorithm 2048 true cfg.mode.hasSource)
    if cfg.mode.hasSource ∧ cfg.user ≠ [] ∧ gfalCompareChecksums source cfg.user 2048 ≠ 0 then
      throw (srmChecksumMismatch (lit "SOURCE")
        (lit "User defined checksum and source checksum do not match " ++ cfg.user ++ lit " != " ++ source))
    return source

def srmValidateDestinationChecksum (cfg : SrmChecksumConfig) (dst source : CString) : SrmThrowing Unit :=
  betweenEvents .destination do
    let destination ← withNote (lit "DESTINATION") (lit "CHECKSUM")
      (gfalSrmChecksumGFallback servers dst cfg.algorithm 2048 true true)
    if destination = [] then
      throw (gfaltSetError srmQuark EINVAL (lit "DESTINATION") (lit "CHECKSUM") (lit "Empty destination checksum"))
    if source ≠ [] ∧ gfalCompareChecksums source destination 2048 ≠ 0 then
      throw (srmChecksumMismatch (lit "TRANSFER")
        (lit "Source and destination checksums do not match " ++ source ++ lit " != " ++ destination))
    if cfg.user ≠ [] ∧ gfalCompareChecksums cfg.user destination 2048 ≠ 0 then
      throw (srmChecksumMismatch (lit "TRANSFER")
        (lit "User defined checksum and destination checksums do not match " ++ cfg.user ++ lit " != " ++ destination))

/-! ### The transfer -/

/-- The parameters of the transfer between the TURLs. -/
def turlParams (params : GfaltParams) (destination : CString) : GfaltParams :=
  let params := { params with checksum := ⟨.none, params.checksum.type, none⟩ }
  if srmCheckUrl destination then { params with replaceExisting := false, strictMode := true } else params

def srmDoTransfer (params : GfaltParams) (destination tokenDestination turlSource turlDestination : CString) :
    SrmThrowing Unit := do
  let paramsTurl := turlParams params destination
  inCancelScope (copyFile paramsTurl)
  srmEvent srmDomain .destination (lit "CLOSE:ENTER") destination
  let done ← (closeDestination : Srm _)
  srmEvent srmDomain .destination (lit "CLOSE:EXIT") destination
  match done with
  | some e => throw e
  | none => return ()
where
  copyFile (paramsTurl : GfaltParams) : SrmThrowing Unit := ExceptT.mk do
    let failed ← exchange (servers.copyFile turlSource turlDestination paramsTurl) (.copyFile turlSource turlDestination paramsTurl)
    return outcomeOf failed
  closeDestination : Srm (Option GError) :=
    if srmCheckUrl destination then do
      match ← (withNote (lit "DESTINATION") (lit "SRM_PUTDONE") (gfalSrmPutdone servers destination (some tokenDestination))).run with
      | .ok () => return none
      | .error e => return some e
    else return none

/-! ### The clean-up -/

/-- `srm_force_unlink`, of which nothing is said but to the log. -/
def srmForceUnlink (surl : CString) : Srm Unit := do
  let _ ← gfalSrmUnlinkG servers surl
  return ()

/-- The destination is removed, and what came of it told. -/
def cleanDestination (surl : CString) : Srm Unit := do
  let status ← status (← gfal2UnlinkUrl servers surl)
  pluginTriggerEvent srmDomain .destination (lit "CLEANUP") (showInt status)
where
  status : Ret Int → Srm Int
    | ⟨0, _⟩ => return 0
    | ⟨_, some e⟩ => return if e.code ≠ ENOENT then e.code else 0
    | ⟨_, none⟩ => Exec.fault .nullDereference

/-- `srm_rollback_put` after an error. -/
def srmRollbackPut (e : GError) (surl token : CString) (transferFinished : Bool) : Srm Unit :=
  if e.code ≠ EEXIST ∧ (transferFinished = true ∨ ¬srmCheckUrl surl) then cleanDestination servers surl
  else if ¬transferFinished ∧ token ≠ [] then do
    let _ ← (srmAbortRequestPlugin servers surl token).run
    srmForceUnlink servers surl
  else return ()

def srmReleaseGet (surl token : CString) : Srm Unit := do
  let _ ← gfalSrmv2ReleaseFileG servers surl (some token)
  return ()

/-! ### The copy -/

/-- What the clean-up of a copy finds. -/
structure CopyEnd where
  tokenSource : CString := []
  tokenDestination : CString := []
  transferFinished : Bool := false
  error : Option GError := none

def srmCleanupCopy (source destination : CString) (done : CopyEnd) : Srm Unit := do
  rollback done.error
  if done.tokenSource ≠ [] then
    srmReleaseGet servers source done.tokenSource
where
  rollback : Option GError → Srm Unit
    | some e => srmRollbackPut servers e destination done.tokenDestination done.transferFinished
    | none => return ()

def castorGridftpSessionHack (src dst : CString) : Srm Unit := do
  let srcIsCastor ← isCastorEndpoint servers src
  let dstIsCastor ← isCastorEndpoint servers dst
  if srcIsCastor ≠ 0 ∨ dstIsCastor ≠ 0 then
    disableSessionReuse
where
  disableSessionReuse : Srm Unit := Exec.modify fun context =>
    let config := gfal2SetOptBoolean context.config (lit "GRIDFTP PLUGIN") (lit "SESSION_REUSE") false
    { context with config := gfal2SetOptBoolean config (lit "GRIDFTP PLUGIN") (lit "STAT_ON_OPEN") false }

def gfalSrmCheckCancel : SrmThrowing Unit := do
  if ← (gfal2IsCanceled : Srm _) then
    throw (gfal2SetError srmQuark ECANCELED (lit "SRM operation canceled"))

/-- The end of the copy from the TURLs on. -/
def copyBetweenTurls (params : GfaltParams) (cfg : SrmChecksumConfig) (dest checksumSource turlSource tokenSource turlDestination
    tokenDestination : CString) : Srm CopyEnd := do
  match ← (transfer params dest turlSource turlDestination tokenDestination).run with
  | .error e => return ⟨tokenSource, tokenDestination, false, some e⟩
  | .ok () =>
      match ← (checkTarget cfg dest checksumSource).run with
      | .error e => return ⟨tokenSource, tokenDestination, true, some e⟩
      | .ok () => return ⟨tokenSource, tokenDestination, true, none⟩
where
  transfer (params : GfaltParams) (dest turlSource turlDestination tokenDestination : CString) : SrmThrowing Unit := do
    srmEvent srmDomain .none (lit "PREPARE:EXIT") []
    gfalSrmCheckCancel
    srmDoTransfer servers params dest tokenDestination turlSource turlDestination
  checkTarget (cfg : SrmChecksumConfig) (dest checksumSource : CString) : SrmThrowing Unit :=
    if cfg.mode.hasTarget then srmValidateDestinationChecksum servers cfg dest checksumSource else return ()

/-- The end of the copy from its sources on: `srm_resolve_turls`, and what follows. -/
def copyResolved (params : GfaltParams) (cfg : SrmChecksumConfig) (source dest checksumSource : CString) : Srm CopyEnd := do
  match ← (resolveSource source dest).run with
  | .error e => return { error := some e }
  | .ok (size, turlSource, tokenSource) =>
      match ← (srmResolvePutTurl servers params dest source size).run with
      | .error e => return { tokenSource := tokenSource, error := some e }
      | .ok (turlDestination, tokenDestination) =>
          copyBetweenTurls servers params cfg dest checksumSource turlSource tokenSource turlDestination tokenDestination
where
  resolveSource (source dest : CString) : SrmThrowing (Int × CString × CString) := do
    let size ← sourceSize servers source
    checkSourceOnline servers source
    let (turlSource, tokenSource) ← srmResolveGetTurl servers source dest
    return (size, turlSource, tokenSource)

/-- The end of the copy from its checksums on. -/
def copyChecked (params : GfaltParams) (source dest : CString) : Srm CopyEnd := do
  let context ← Exec.get
  match srmGetChecksumConfig servers context.config params with
  | .error e => return { error := some e }
  | .ok cfg =>
      match ← (sourceChecksum cfg source).run with
      | .error e => return { error := some e }
      | .ok checksumSource => copyResolved servers params cfg source dest checksumSource
where
  sourceChecksum (cfg : SrmChecksumConfig) (source : CString) : SrmThrowing CString :=
    if cfg.mode ≠ .none then srmValidateSourceChecksum servers cfg source else return []

def srmPluginFilecopy (params : GfaltParams) (source dest : CString) : Srm (Ret Int) := do
  castorGridftpSessionHack servers source dest
  pluginTriggerEvent srmDomain .none (lit "PREPARE:ENTER") []
  let done ← copyChecked servers params source dest
  if params.transferCleanup then
    srmCleanupCopy servers source dest done
  return ⟨if done.error.isSome then -1 else 0, done.error⟩

end Gfal2
