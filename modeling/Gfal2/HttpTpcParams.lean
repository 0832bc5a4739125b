import Gfal2.Base.Exec
import Gfal2.HttpTokens
import Gfal2.PluginInterface

/-! The parameters of a third-party copy request of the HTTP plugin, as far as they carry credentials: the client certificate and the
headers. The credentials of both endpoints are put into the same parameters, those of the source first. -/

namespace Gfal2

open Base Exec

/-- The parts of a `Davix::Uri` that the credentials depend on. -/
structure TpcUri extends TokenUri where
  protocol : CString
  valid : Bool
  queryParamExists : CString → Bool

/-- `Davix::RequestParams`: the certificate with its key, and the headers. -/
structure RequestParams where
  clientCert : Option (CString × CString) := none
  headers : List (CString × CString) := []
  deriving DecidableEq

def RequestParams.addHeader (params : RequestParams) (name value : CString) : RequestParams :=
  { params with headers := params.headers ++ [(name, value)] }

/-- The credentials of the context, and the access rights of the tokens that were retrieved. -/
structure HttpCreds where
  mapping : CredMapping := []
  tokenMap : TokenAccessMap := fun _ => none

/-- What the plugin reads beside the credentials: the configuration with its lists, the information on the client, which certificates can
be loaded, and the tokens that storage elements issue. -/
structure HttpSettings where
  config : Config := {}
  optStringList : CString → CString → Option (List CString) := fun _ _ => none
  clientInfo : Option CString := none
  loads : CString × CString → Bool
  issuedToken : TpcUri → RequestParams → Bool → Nat → Option CString

/-- The code that reads and stores credentials. -/
abbrev HttpTpc (α : Type) : Type := Exec HttpCreds Fault α

variable (settings : HttpSettings)

def delegationRequired (uri : TpcUri) : Bool := (lit "https").isPrefixOf uri.protocol || (lit "davs").isPrefixOf uri.protocol

def allowsBearerTokenRetrieve (uri : TpcUri) (operation : HttpOp) : Bool :=
  ((lit "https").isPrefixOf uri.protocol || (lit "davs").isPrefixOf uri.protocol) && operation ≠ .tape

def needsTransferHeader (operation : HttpOp) : Bool := operation = .readPasv || operation = .writePasv

def isS3SignedURL (url : TpcUri) : Bool :=
  (url.queryParamExists (lit "AWSAccessKeyId") && url.queryParamExists (lit "Signature")) ||
    (url.queryParamExists (lit "X-Amz-Credential") && url.queryParamExists (lit "X-Amz-Signature"))

/-- The group of a storage element in the configuration. -/
def seGroup (uri : TpcUri) : CString :=
  let prot := if uri.protocol.getLast? = some 's' then uri.protocol.dropLast else uri.protocol
  (prot ++ lit ":" ++ uri.host).map Char.toUpper

def getSeCustomHeadersList (uri : TpcUri) : List CString :=
  if uri.valid then
    ((settings.optStringList (seGroup uri) (lit "HEADERS")).or (settings.optStringList (lit "HTTP PLUGIN") (lit "HEADERS"))).getD []
  else []

def getRetrieveBearerTokenConfig (uri : TpcUri) : Bool :=
  let custom := if uri.valid then settings.config.optBoolean (seGroup uri) (lit "RETRIEVE_BEARER_TOKEN") else none
  (custom.or (settings.config.optBoolean (lit "HTTP PLUGIN") (lit "RETRIEVE_BEARER_TOKEN"))).getD false

/-- `g_ascii_isspace`. -/
def isAsciiSpace (c : Char) : Bool := c = ' ' || ('\t' ≤ c && c ≤ '\r' && c ≠ '\x0b')

def strip (text : CString) : CString := ((text.dropWhile isAsciiSpace).reverse.dropWhile isAsciiSpace).reverse

/-- A header of the configuration. Without a colon its value is a null pointer, and with nothing at all it is not in the array. -/
def parseHeader (text : CString) : Except Fault (CString × CString) :=
  match strchr text ':' with
  | some i => .ok (strip (text.take i), strip (text.drop (i + 1)))
  | none => .error (if text = [] then .arrayBounds else .nullString)

def parseHeaders : List CString → Except Fault (List (CString × CString))
  | [] => .ok []
  | text :: texts =>
      match parseHeader text with
      | .error reason => .error reason
      | .ok header => (parseHeaders texts).map (header :: ·)

/-- The headers of `get_params_internal`. -/
def getParamsInternal (params : RequestParams) (uri : TpcUri) : HttpTpc RequestParams :=
  match parseHeaders (getSeCustomHeadersList settings uri) with
  | .error reason => Exec.fault reason
  | .ok custom =>
      return { params with headers := params.headers ++ (settings.clientInfo.map (lit "ClientInfo", ·)).toList ++ custom }

def gfalHttpGetX509CertPair (mapping : CredMapping) (uri : TpcUri) : Option (CString × CString) :=
  let cert := (gfal2CredGet mapping settings.config.optString (lit "X509_CERT") uri.string).value
  let key := (gfal2CredGet mapping settings.config.optString (lit "X509_KEY") uri.string).value
  cert.map fun cert => (cert, key.getD cert)

/-- `get_certificate`. A pair that cannot be loaded leaves what is there. -/
def getCertificate (params : RequestParams) (uri : TpcUri) : HttpTpc RequestParams := do
  let creds ← Exec.get
  match gfalHttpGetX509CertPair settings creds.mapping uri with
  | none => return params
  | some pair => if settings.loads pair then return { params with clientCert := some pair } else return params

def retrieveAndStoreSeToken (uri : TpcUri) (operation : HttpOp) (validity : Nat) : HttpTpc (Option CString) := do
  if ¬getRetrieveBearerTokenConfig settings uri ∨ ¬allowsBearerTokenRetrieve uri operation then
    return none
  else
    let params ← getParamsInternal settings {} uri
    let params ← getCertificate settings params uri
    match settings.issuedToken uri params (writeFlagFromOperation operation) validity with
    | none => return none
    | some token => do
        Exec.modify fun creds =>
          { mapping := storeNode creds.mapping (credNode uri.string ⟨bearer, some token⟩)
            tokenMap := Function.update creds.tokenMap token (some (writeFlagFromOperation operation)) }
        return some token

/-- `find_se_token` in the credentials of the context. -/
def findStoredToken (uri : TpcUri) (operation : HttpOp) : HttpTpc (Option CString) := do
  let creds ← Exec.get
  match findSeToken creds.tokenMap uri.toTokenUri operation creds.mapping settings.config.optString with
  | .error reason => Exec.fault reason
  | .ok token => return token

/-- The token of `get_token`: one that is stored, else one that the storage element issues. -/
def seToken (uri : TpcUri) (operation : HttpOp) (validity : Nat) : HttpTpc (Option CString) := do
  if isS3SignedURL uri then
    return none
  else
    match ← findStoredToken settings uri operation with
    | some token => return some token
    | none => retrieveAndStoreSeToken settings uri operation validity

abbrev authorizationHeader : CString := lit "Authorization"
abbrev transferHeader : CString := lit "TransferHeaderAuthorization"
abbrev credentialHeader : CString := lit "Credential"

def bearerText (token : CString) : CString := lit "Bearer " ++ token

/-- `get_token`. Where there is no token, keys of clouds are set, which are neither a certificate nor a header. -/
def getToken (params : RequestParams) (uri : TpcUri) (operation : HttpOp) (validity : Nat) : HttpTpc RequestParams := do
  match ← seToken settings uri operation validity with
  | none => return params
  | some token =>
      if needsTransferHeader operation then
        return (params.addHeader transferHeader (bearerText token)).addHeader credentialHeader (lit "none")
      else return params.addHeader authorizationHeader (bearerText token)

/-- The token of the configuration, if there is one that is not empty. -/
def configToken : Option CString := (settings.config.optString bearer (lit "TOKEN")).filter (· ≠ [])

def getRevaCredentials (params : RequestParams) (operation : HttpOp) : RequestParams :=
  match configToken settings with
  | none => params
  | some token =>
      if needsTransferHeader operation then params.addHeader transferHeader (bearerText token)
      else params.addHeader authorizationHeader (bearerText token)

/-- Whether the protocol is one of a cloud whose credentials are keys. -/
def isKeyedCloud (uri : TpcUri) : Bool :=
  (lit "s3").isPrefixOf uri.protocol || (lit "gcloud").isPrefixOf uri.protocol || (lit "swift").isPrefixOf uri.protocol

def getCredentials (params : RequestParams) (uri : TpcUri) (operation : HttpOp) (tokenValidity : Nat) : HttpTpc RequestParams := do
  let params ← getCertificate settings params uri
  if isKeyedCloud uri then return params
  else if (lit "cs3").isPrefixOf uri.protocol then return getRevaCredentials settings params operation
  else getToken settings params uri operation tokenValidity

/-- `strcasecmp` for equality. -/
def sameHeader (name other : CString) : Bool := name.map Char.toLower = other.map Char.toLower

/-- The end of `get_tpc_params`: how the active endpoint is to manage credentials. -/
def setCredentialHeader (doDelegation : Bool) (params : RequestParams) : RequestParams :=
  if doDelegation then
    if params.headers.any fun header => sameHeader header.1 credentialHeader then params
    else params.addHeader credentialHeader (lit "gridsite")
  else (params.addHeader credentialHeader (lit "none")).addHeader (lit "X-No-Delegate") (lit "true")

/-- `get_tpc_params`, for the timeout of the transfer. -/
def getTpcParams (srcUri dstUri : TpcUri) (timeout : Nat) (pushMode : Bool) : HttpTpc RequestParams := do
  let tokenTimeout := 2 * timeout % 2 ^ 32 / 60 + 10
  if pushMode then
    let params ← getParamsInternal settings {} srcUri
    let params ← getCredentials settings params srcUri .read tokenTimeout
    let params ← getCredentials settings params dstUri .writePasv tokenTimeout
    return setCredentialHeader (delegationRequired dstUri) params
  else
    let params ← getParamsInternal settings {} dstUri
    let params ← getCredentials settings params srcUri .readPasv tokenTimeout
    let params ← getCredentials settings params dstUri .write tokenTimeout
    return setCredentialHeader (delegationRequired srcUri) params

end Gfal2
