import Gfal2.SrmNamespace
import Gfal2.HttpCopy

/-! The requests of the SRM plugin for transport URLs, and how they are finished. A service that grants a request
hands out a token for it. -/

namespace Gfal2

open Base

abbrev srmConfigGroup : CString := lit "SRM PLUGIN"

inductive SrmReqType where
  | get | put
  deriving DecidableEq

structure GfalSrmResult where
  turl : CString
  errStr : CString
  errCode : Int
  reqtoken : Option CString
  deriving DecidableEq

/-- `gfal_srm_convert_filestatuses_to_srm_result` for one file. -/
def convertFilestatus (status : PinFileStatus) (reqtoken : Option CString) : GfalSrmResult :=
  ⟨(status.turl.getD []).take 2047, (status.explanation.getD []).take 2047, status.status, reqtoken⟩

/-- `validate_turls` for one result: the protocol must be one that was asked for. -/
def validateTurls (protocols : List CString) (result : GfalSrmResult) : Option GError :=
  if result.turl.head? = some '/' then some (gfal2SetError srmQuark EBADMSG (lit "A turl can not start with /"))
  else if result.errCode ≠ 0 then none
  else if protocols.any fun protocol => (protocol ++ [':']).isPrefixOf result.turl then none
  else some (gfal2SetError srmQuark EBADMSG
    (lit "The SRM endpoint returned a protocol that wasn't requested: " ++ result.turl))

/-- `reorder_rd3_sup_protocols`: the protocol of the other URL changes places with the first one. -/
def reorderRd3SupProtocols (supProtocols : List CString) (otherSurl : CString) : List CString :=
  let compareSurl := if (lit "davs").isPrefixOf otherSurl then lit "https" ++ otherSurl.drop 4 else otherSurl
  match supProtocols, supProtocols.findIdx? fun protocol => (protocol ++ [':']).isPrefixOf compareSurl with
  | first :: _, some j => (supProtocols.set 0 (supProtocols.getD j first)).set j first
  | _, _ => supProtocols

variable (servers : SrmServers)

/-- `gfal_srm_getTURLS_srmv2_internal` and `gfal_srm_putTURLS_srmv2_internal`. -/
def turlsSrmv2Internal (purpose : SrmPurpose) (easy : GfalSrmEasy) (reqType : SrmReqType) (protocols : List CString) (size : Int) :
    SrmThrowing GfalSrmResult := do
  let answer ← prepare purpose easy reqType protocols size
  match answer.statuses with
  | status :: _ => return convertFilestatus status answer.token
  | [] => (Exec.fault .nullDereference : Srm _)
where
  prepare (purpose : SrmPurpose) (easy : GfalSrmEasy) (reqType : SrmReqType) (protocols : List CString) (size : Int) :
      SrmThrowing PinAnswer :=
    match reqType with
    | .get => ExceptT.mk (easy.call (servers.prepareToGet easy.path protocols) (.prepareToGet purpose easy.path protocols))
    | .put => ExceptT.mk (easy.call (servers.prepareToPut easy.path protocols size) (.prepareToPut easy.path protocols size))

/-- `gfal_srm_mTURLS_internal`. A result that is not valid is dropped, and its token with it. -/
def gfalSrmMTurlsInternal (purpose : SrmPurpose) (reqType : SrmReqType) (protocols : List CString) (size : Int) (surl : CString) :
    SrmThrowing GfalSrmResult := do
  let result ← withEasyContext servers surl (fun easy => turlsSrmv2Internal servers purpose easy reqType protocols size) purpose
  match validateTurls protocols result with
  | some e => throw e
  | none => return result

/-- `gfal_srm_getTURLS_plugin` and `gfal_srm_putTURLS_plugin`: the TURL and the token. -/
def turlsPlugin (reqType : SrmReqType) (surl : CString) (buffLen : Nat) : SrmThrowing (CString × Option CString) := do
  let resu ← gfalSrmMTurlsInternal servers .access reqType servers.turlProtocols 0 surl
  if resu.errCode = 0 then return (resu.turl.take (buffLen - 1), resu.reqtoken)
  else throw (gfal2SetError srmQuark resu.errCode (lit "error on the turl request : " ++ resu.errStr ++ [' ']))

def gfalSrmGetTurlsPlugin (surl : CString) (buffLen : Nat) : SrmThrowing (CString × Option CString) :=
  turlsPlugin servers .get surl buffLen

def gfalSrmPutTurlsPlugin (surl : CString) (buffLen : Nat) : SrmThrowing (CString × Option CString) :=
  turlsPlugin servers .put surl buffLen

/-- The error of a request for the TURL of a third party copy. -/
def rd3TurlError (resu : GfalSrmResult) : GError :=
  gfal2SetError srmQuark resu.errCode (lit "error on the turl " ++ resu.turl ++ lit " request : " ++ resu.errStr ++ [' '])

/-- `gfal_srm_getTURL_checksum`, which keeps no token. -/
def gfalSrmGetTurlChecksum (surl : CString) : SrmThrowing CString := do
  let resu ← gfalSrmMTurlsInternal servers .checksum .get servers.thirdPartyProtocols 0 surl
  if resu.errCode = 0 then return resu.turl else throw (rd3TurlError resu)

/-- `gfal_srm_get_rd3_turl` and `gfal_srm_put_rd3_turl`: the TURL and the token. -/
def rd3Turl (reqType : SrmReqType) (size : Int) (surl otherSurl : CString) : SrmThrowing (CString × CString) := do
  let resu ← gfalSrmMTurlsInternal servers .access reqType (reorderRd3SupProtocols servers.thirdPartyProtocols otherSurl) size surl
  if resu.errCode = 0 then return (resu.turl, (resu.reqtoken.getD []).take 2047) else throw (rd3TurlError resu)

def gfalSrmGetRd3Turl (surl otherSurl : CString) : SrmThrowing (CString × CString) := rd3Turl servers .get 0 surl otherSurl

def gfalSrmPutRd3Turl (surl otherSurl : CString) (size : Int) : SrmThrowing (CString × CString) :=
  rd3Turl servers .put size surl otherSurl

/-! ### The end of a request -/

def convertFilestatusesToGError (statuses : List SrmFileStatus) : Option GError :=
  if statuses = [] then some ⟨gfal2GetCoreQuark, EINVAL, lit "[gfal_srm_convert_filestatuses_to_GError] args invalids"⟩
  else (statuses.find? fun status => status.status ≠ 0).map fun status => gfal2SetError srmQuark status.status
    (lit "Error on the surl " ++ status.surl ++ lit " while putdone : " ++ printed status.explanation)

def gfalSrmPutdone (surl : CString) (token : Option CString) : SrmThrowing Unit :=
  withEasyContext servers surl (fun easy => do
    let statuses ← (ExceptT.mk (easy.call (servers.putDone easy.path token) (.putDone easy.path token)) : SrmThrowing _)
    match convertFilestatusesToGError statuses with
    | some e => throw e
    | none => return ()) .putDone

def srmAbortRequestPlugin (surl reqtoken : CString) : SrmThrowing Unit :=
  withEasyContext servers surl (fun easy => easy.tell (.abortRequest reqtoken) (servers.abortRequest reqtoken)) .abort

/-! ### Extended attributes -/

/-- `backend_type` among what a service says of itself. -/
def backendType (extra : List (CString × CString)) : Option CString :=
  (extra.find? fun entry => entry.1 = lit "backend_type").map Prod.snd

/-- `gfal_srm_get_endpoint_type_xattrG`, which releases its context only at its end. -/
def gfalSrmGetEndpointTypeXattrG (path : CString) (buffLen : Nat) : SrmThrowing CString := ExceptT.mk do
  match ← srmEasyContext servers path .storageType with
  | ⟨none, err⟩ => return .error (err.getD servers.missingValue)
  | ⟨some easy, _⟩ => do
      match ← easy.call servers.xping fun _ => .xping with
      | .error e => return .error (gfal2SetError srmQuark e.code (lit "Could not get the storage type"))
      | .ok extra => do
          srmEasyContextRelease
          return .ok (((backendType extra).getD []).take (buffLen - 1))

/-- `gfal_srm_geturl_getxattrG` with a buffer. -/
def gfalSrmGeturlGetxattrG (path : CString) (buffLen : Nat) : SrmThrowing CString := do
  let context ← (Exec.get : Srm _)
  if gfal2GetOptBooleanWithDefault context.config srmConfigGroup (lit "XATTR_FAIL_NEARLINE") false then
    let status ← gfalSrmStatusGetxattrG servers path 1024
    if status = lit "NEARLINE" then
      throw (gfal2SetError srmQuark EINVAL (lit "The source file is not ONLINE"))
  let (turl, _) ← gfalSrmGetTurlsPlugin servers path buffLen
  return turl

/-- `gfal_srm_space_getxattrG`, with what the service knows of its spaces as one answer. -/
def gfalSrmSpaceGetxattrG (path name : CString) : Srm (Ret Int) := do
  let unknown := gfal2SetError srmQuark ENODATA (lit "Unknown space token attribute " ++ name)
  match name.drop 10 with
  | [] => property []
  | '.' :: subprop => property subprop
  | _ => return ⟨-1, some unknown⟩
where
  property (subprop : CString) : Srm (Ret Int) := do
    let made ← srmEasyContext servers path
    let answer ← askSpace made subprop
    srmEasyContextRelease
    return answer
  askSpace (made : Ret (Option GfalSrmEasy)) (subprop : CString) : Srm (Ret Int) :=
    match made with
    | ⟨some easy, _⟩ => easy.call (servers.spaceProperty subprop) fun _ => .spaceProperty subprop
    | ⟨none, err⟩ => return ⟨0, err⟩

/-- The value of a call that fills a buffer: the length of the text in it. -/
def lengthOf (text : SrmThrowing CString) : Srm (Ret Int) := do
  match ← text.run with
  | .ok value => return ⟨value.length, none⟩
  | .error e => return ⟨-1, some e⟩

def gfalSrmGetxattrG (path name : CString) (buffLen : Nat) : Srm (Ret Int) :=
  if name = lit "user.replicas" then
    if buffLen = 0 then return ⟨2048, none⟩ else lengthOf (gfalSrmGeturlGetxattrG servers path buffLen)
  else if name = lit "user.status" then lengthOf (gfalSrmStatusGetxattrG servers path buffLen)
  else if name = lit "srm.type" then lengthOf (gfalSrmGetEndpointTypeXattrG servers path buffLen)
  else if (lit "spacetoken").isPrefixOf name then gfalSrmSpaceGetxattrG servers path name
  else return ⟨-1, some (gfal2SetError srmQuark ENODATA (lit "not an existing extended attribute"))⟩

/-- `is_castor_endpoint`: -1 where it cannot be told. -/
def isCastorEndpoint (surl : CString) : Srm Int :=
  if ¬srmCheckUrl surl then return 0
  else do
    match ← srmEasyContext servers surl .ping with
    | ⟨none, _⟩ => return -1
    | ⟨some easy, _⟩ => do
        let answer ← easy.call servers.xping fun _ => .xping
        srmEasyContextRelease
        return match answer with
          | .error _ => -1
          | .ok extra => if (backendType extra).any fun type => type.map Char.toUpper = lit "CASTOR" then 1 else 0

/-! ### Checksums -/

/-- `gfal_srm_cheksumG_internal`: the checksum and its type. -/
def gfalSrmCheksumGInternal (surl : CString) (bufferLength : Nat) : SrmThrowing (CString × CString) :=
  withEasyContext servers surl fun easy => do
    if easy.srmContext = none then
      throw ⟨gfal2GetCoreQuark, EINVAL,
        lit "[gfal_checksumG_srmv2_internal] Invalid input parameters : endpoint, surl, checksum, checksum_type"⟩
    let entry ← easy.ask (.ls easy.path) (servers.ls easy.path)
    if entry.status ≠ 0 then
      throw (srmIfceError entry.status entry.explanation)
    match entry.checksum with
    | some (value, type) => return (value.take (bufferLength - 1), type.take 2047)
    | none => return ([], [])

/-- A call of the library between the points where it can be cancelled. -/
def inCancelScope {α : Type} (body : SrmThrowing α) : SrmThrowing α := ExceptT.mk do
  match ← gfal2StartScopeCancel with
  | ⟨_, some e⟩ => return .error e
  | ⟨_, none⟩ => do
      let answer ← body.run
      gfal2EndScopeCancel
      return answer

/-- The checksum of what a URL, or the TURL of an SRM URL, stands for. -/
def checksumOfTurl (url checkType : CString) (bufferLength : Nat) : SrmThrowing CString := do
  let resTurl ← if srmCheckUrl url then gfalSrmGetTurlChecksum servers url else pure url
  let checksum ← inCancelScope (askLibrary (.checksum resTurl checkType) (servers.checksum resTurl checkType))
  return checksum.take (bufferLength - 1)

/-- What the service itself knows: the checksum with its type, nothing, or an error. -/
def srmChecksum (url : CString) (bufferLength : Nat) (wholeFile : Bool) : Srm (Except GError (Option (CString × CString))) := do
  if srmCheckUrl url ∧ wholeFile = true then
    let answer ← (gfalSrmCheksumGInternal servers url bufferLength).run
    return answer.map some
  else return .ok none

/-- `gfal_srm_checksumG_fallback`. Without the fallback there is no error, and no checksum of another type. -/
def gfalSrmChecksumGFallback (url checkType : CString) (bufferLength : Nat) (wholeFile turlFallback : Bool) :
    SrmThrowing CString :=
  ExceptT.mk do
    match ← srmChecksum servers url bufferLength wholeFile with
    | .ok (some (checksum, type)) =>
        if strncasecmp checkType type 2048 = 0 then return .ok checksum else withoutSrm
    | .ok none => withoutSrm
    | .error e => return if turlFallback then .error e else .ok []
where
  withoutSrm : Srm (Except GError CString) :=
    if turlFallback then (checksumOfTurl servers url checkType bufferLength).run else return .ok []

end Gfal2
