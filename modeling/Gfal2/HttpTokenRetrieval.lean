import Gfal2.Base.Throwing
import Gfal2.HttpQos
import Gfal2.HttpTpcParams

/-! The retrieval of the tokens that storage elements issue. The retrievers of a chain are tried one after the other: each asks its
issuer for an endpoint and posts a request to it. What a server answers may depend on all that was exchanged before. -/

namespace Gfal2

open Base

/-- A `Davix::Uri`. -/
structure SeUri extends TpcUri where
  port : Nat
  path : CString

/-- Davix with the texts it makes of URLs. -/
structure TokenDavix where
  uri : CString → SeUri
  setProtocol : SeUri → CString → SeUri
  queryParamEscape : CString → CString

inductive TokenRequest where
  | get (url : CString)
  | post (url : CString) (headers : List (CString × CString)) (body : CString)

/-- How a request ends: without a status, or with one, the size that is announced, and the body or what goes wrong with it. -/
inductive TokenAnswer where
  | failed (daverr : DavixError)
  | answered (code size : Int) (body : Except DavixError CString)

def TokenAnswer.status : TokenAnswer → Option Int
  | failed _ => none
  | answered code _ _ => some code

structure TokenExchange where
  request : TokenRequest
  answer : TokenAnswer

/-- What is answered to a request after other exchanges. -/
abbrev TokenServer : Type := List TokenExchange → TokenRequest → TokenAnswer

/-- Davix executes a request. -/
def sendRequest (server : TokenServer) (request : TokenRequest) : Exec (List TokenExchange) Fault TokenAnswer := fun exchanges =>
  .ok (server exchanges request, exchanges ++ [⟨request, server exchanges request⟩])

/-- Code that may throw a `Gfal::CoreException`. -/
abbrev Retrieval (α : Type) : Type := Throwing (List TokenExchange) Fault GError α

/-- A `Gfal::CoreException`. -/
def coreException (code : Int) (message : CString) : GError := ⟨httpPluginDomain, code, message⟩

/-- `gfal_http_token_t`. -/
structure HttpToken where
  token : CString
  validity : Nat
  writeAccess : Bool

inductive RetrieverKind where
  | sciTokens
  | macaroon
  deriving DecidableEq

/-- A `SciTokensRetriever` or a `MacaroonRetriever`. -/
structure TokenRetriever where
  kind : RetrieverKind
  issuer : CString

def formatProtocol (davix : TokenDavix) (url : SeUri) : Except GError SeUri :=
  if ¬url.valid then throw (coreException EINVAL (lit "Failed to parse url \x27" ++ url.string ++ lit "\x27"))
  else
    let url := if url.protocol = lit "davs" then davix.setProtocol url (lit "https") else url
    if url.protocol ≠ lit "https" then throw (coreException EINVAL (lit "Token request must be done over HTTPs"))
    else return url

def seStorage (uri : SeUri) : CString :=
  uri.protocol ++ lit "://" ++ uri.host ++ (if uri.port ≠ 0 then lit ":" ++ lit (toString uri.port) else [])

def metadataEndpoint (url : SeUri) : CString :=
  seStorage url ++ lit "/.well-known/oauth-authorization-server" ++ (if url.path ≠ lit "/" then url.path else [])

/-- The text that a document has under a key. -/
def extractKey (jsonC : JsonC) (document : Json) (key : CString) : Except GError CString :=
  match document.member key with
  | none => throw (coreException EINVAL (lit "Response did not include \x27" ++ key ++ lit "\x27 key"))
  | some item =>
      match jsonObjectGetString jsonC item with
      | none => throw (coreException EINVAL (lit "Key \x27" ++ key ++ lit "\x27 was not a string"))
      | some value =>
          if value = [] then throw (coreException EINVAL (lit "Extracted value for key \x27" ++ key ++ lit "\x27 is empty"))
          else return value

def parseJsonResponse (jsonC : JsonC) (response key : CString) : Except GError CString :=
  if response = [] then throw (coreException EINVAL (lit "Response with no data"))
  else
    match jsonC.tokenerParse (response.takeWhile (· ≠ nul)) with
    | .null => throw (coreException EINVAL (lit "Response was not valid JSON"))
    | document => extractKey jsonC document key

/-! ### The requests -/

abbrev responseMaxSize : Nat := 1024 * 1024

/-- An answer to `TokenRetriever::perform_request`. For a status other than 200 the error to report is a null pointer. -/
def readTokenResponse (description : CString) : TokenAnswer → Retrieval CString
  | .failed daverr | .answered _ _ (.error daverr) =>
      throw (coreException (davix2errno daverr.status) (description ++ lit " request failed: " ++ daverr.message))
  | .answered code _ (.ok body) =>
      if code ≠ 200 then liftM (Exec.fault .nullDereference : Exec (List TokenExchange) Fault CString)
      else return body.takeWhile (· ≠ nul)

def oversized (description : CString) (size : Int) : GError :=
  coreException EINVAL (description ++ lit " response exceeds maximum size: " ++ lit (toString size) ++ lit " bytes (max size = " ++
    lit (toString responseMaxSize) ++ lit ")")

/-- An answer to `MacaroonRetriever::perform_request`, which reads a segment of the body before it looks at the status. -/
def readMacaroonResponse (description : CString) : TokenAnswer → Retrieval CString
  | .failed daverr =>
      throw (coreException (davix2errno daverr.status) (description ++ lit " request failed: " ++ daverr.message))
  | .answered code size body =>
      if size ≥ responseMaxSize then throw (oversized description size)
      else
        match body with
        | .error daverr =>
            throw (coreException (davix2errno daverr.status)
              (lit "Reading body of " ++ description ++ lit " request failed: " ++ daverr.message))
        | .ok body =>
            let segment := body.take responseMaxSize
            if segment.length ≥ responseMaxSize then throw (oversized description segment.length)
            else if code ≠ 200 then liftM (Exec.fault .nullDereference : Exec (List TokenExchange) Fault CString)
            else return segment

def macaroonRequestContent (validity : Nat) (activities : List CString) : CString :=
  lit "\x7b\"caveats\": [\"activity:" ++ [','].intercalate activities ++ lit "\"], \"validity\": \"PT" ++
    lit (toString validity) ++ lit "M\"\x7d"

/-- `MacaroonRetriever::oauth_request_content`. The validity in seconds is an unsigned number. -/
def oauthRequestContent (davix : TokenDavix) (path : CString) (validity : Nat) (activities : List CString) : CString :=
  lit "grant_type=client_credentials&expire_in=" ++ lit (toString (validity * 60 % 2 ^ 32)) ++ lit "&scopes=" ++
    davix.queryParamEscape ([' '].intercalate (activities.map fun activity => activity ++ lit ":" ++ path))

/-- `MacaroonRetriever::_activities`. -/
def activitiesOf (writeAccess : Bool) (activities : List CString) : List CString :=
  if activities ≠ [] then activities
  else
    [lit "LIST", lit "DOWNLOAD"] ++ if writeAccess then [lit "MANAGE", lit "UPLOAD", lit "DELETE"] else []

def macaroonContentType : CString × CString := (lit "Content-Type", lit "application/macaroon-request")

def formContentType : CString × CString := (lit "Content-Type", lit "application/x-www-form-urlencoded")

def acceptJson : CString × CString := (lit "Accept", lit "application/json")

namespace TokenRetriever

/-- Whether there is a second place to look for the endpoint of an issuer. -/
def discoveryFallback (retriever : TokenRetriever) : Bool := retriever.kind = .macaroon

/-- `validate_endpoint`: the endpoint to post to. -/
def validateEndpoint (retriever : TokenRetriever) (endpoint : CString) (url : SeUri) : Option CString :=
  match retriever.kind with
  | .sciTokens => if endpoint = [] then none else some endpoint
  | .macaroon => if endpoint = [] then some url.string else some endpoint

/-- Whether a request for a macaroon is one for an OAuth token, after an endpoint was found. -/
def isOauth (retriever : TokenRetriever) (endpoint : CString) : Bool := retriever.kind = .macaroon && endpoint ≠ []

def tokenKey (retriever : TokenRetriever) (endpoint : CString) : CString :=
  match retriever.kind with
  | .sciTokens => lit "access_token"
  | .macaroon => if retriever.isOauth endpoint then lit "access_token" else lit "macaroon"

/-- `prepare_request`: the headers and the body. -/
def prepareRequest (retriever : TokenRetriever) (davix : TokenDavix) (endpoint path : CString) (writeAccess : Bool) (validity : Nat)
    (activities : List CString) : List (CString × CString) × CString :=
  match retriever.kind with
  | .sciTokens => ([acceptJson, formContentType], lit "grant_type=client_credentials")
  | .macaroon =>
      if retriever.isOauth endpoint then
        ([formContentType, acceptJson], oauthRequestContent davix path validity (activitiesOf writeAccess activities))
      else ([macaroonContentType], macaroonRequestContent validity (activitiesOf writeAccess activities))

/-- What is posted after an endpoint was found, or none was. -/
def postRequest (retriever : TokenRetriever) (davix : TokenDavix) (url : SeUri) (endpoint : CString) (writeAccess : Bool)
    (validity : Nat) (activities : List CString) : Option TokenRequest :=
  (retriever.validateEndpoint endpoint url).map fun target =>
    let prepared := retriever.prepareRequest davix endpoint url.path writeAccess validity activities
    .post target prepared.1 prepared.2

/-- What `perform_request` makes of an answer. -/
def readAnswer (retriever : TokenRetriever) (description : CString) (isOauth : Bool) (answer : TokenAnswer) : Retrieval CString :=
  match retriever.kind with
  | .sciTokens => readTokenResponse (if description = [] then lit "SciTokens" else description) answer
  | .macaroon => readMacaroonResponse (if isOauth then lit "Token" else lit "Macaroon") answer

variable (davix : TokenDavix) (jsonC : JsonC) (server : TokenServer) (retriever : TokenRetriever)

def performRequest (description : CString) (isOauth : Bool) (request : TokenRequest) : Retrieval CString := do
  let answer ← liftM (sendRequest server request)
  retriever.readAnswer description isOauth answer

def endpointDiscovery (metadataUrl : CString) : Retrieval CString := do
  let response ← retriever.performRequest server (lit "Token endpoint discovery") false (.get metadataUrl)
  parseJsonResponse jsonC response (lit "token_endpoint")

/-- The configuration of an OpenID issuer. -/
def openidConfiguration : CString :=
  (if retriever.issuer.getLast? ≠ some '/' then retriever.issuer ++ lit "/" else retriever.issuer) ++
    lit ".well-known/openid-configuration"

def getTokenEndpoint : Retrieval CString := do
  let url ← formatProtocol davix (davix.uri retriever.issuer)
  let endpoint ← retriever.endpointDiscovery jsonC server (metadataEndpoint url)
  if endpoint ≠ [] ∨ ¬retriever.discoveryFallback then return endpoint
  else retriever.endpointDiscovery jsonC server retriever.openidConfiguration

/-- The endpoint of the issuer, empty where none is found. -/
def discoverEndpoint : Retrieval CString :=
  tryCatch (if retriever.issuer ≠ [] then retriever.getTokenEndpoint davix jsonC server else return []) fun _ => return []

def retrieveToken (uri : SeUri) (writeAccess : Bool) (validity : Nat) (activities : List CString) : Retrieval HttpToken := do
  let url ← formatProtocol davix uri
  let endpoint ← retriever.discoverEndpoint davix jsonC server
  match retriever.postRequest davix url endpoint writeAccess validity activities with
  | none => throw (coreException EINVAL (lit "Invalid or empty token issuer endpoint"))
  | some request =>
      let response ← retriever.performRequest server [] (retriever.isOauth endpoint) request
      let stoken ← parseJsonResponse jsonC response (retriever.tokenKey endpoint)
      return ⟨stoken, validity, writeAccess⟩

end TokenRetriever

section Chains

variable (davix : TokenDavix) (jsonC : JsonC) (server : TokenServer)

/-- The loop over a chain: the token of the first retriever that does not throw, and the message of the last that does. -/
def tryRetrievers (uri : SeUri) (writeAccess : Bool) (validity : Nat) (activities : List CString) :
    List TokenRetriever → CString → Exec (List TokenExchange) Fault (Option HttpToken × CString)
  | [], lastEmsg => return (none, lastEmsg)
  | retriever :: next, lastEmsg => do
      match ← (retriever.retrieveToken davix jsonC server uri writeAccess validity activities).run with
      | .ok token => return (some token, lastEmsg)
      | .error e => tryRetrievers uri writeAccess validity activities next e.message

def issuerChain (issuer : Option CString) : List TokenRetriever :=
  match issuer with
  | none | some [] => [⟨.macaroon, []⟩]
  | some issuer => [⟨.sciTokens, issuer⟩, ⟨.macaroon, issuer⟩]

/-- `gfal_http_token_retrieve`. An array of activities that is a null pointer is one without any. -/
def gfalHttpTokenRetrieve (url : CString) (issuer : Option CString) (writeAccess : Bool) (validity : Nat) (activities : List CString)
    (buff : Buffer) : Exec (List TokenExchange) Fault CdmiRet := do
  let found ← tryRetrievers davix jsonC server (davix.uri url) writeAccess validity activities (issuerChain issuer) []
  let token := (found.1.map (·.token)).getD []
  if token = [] then
    return ⟨-1, buff, some (gfal2SetError httpPluginDomain ENODATA
      (lit "Could not retrieve token for " ++ url ++ lit " [last failed attempt: " ++ found.2 ++ lit "]"))⟩
  else
    match answerInto buff token with
    | .ok returned => return returned
    | .error fault => Exec.fault fault

/-- The credentials of the context, and the exchanges for a token. -/
structure TokenSession where
  creds : HttpCreds
  exchanges : List TokenExchange := []

/-- Code that exchanges requests and does not look at the credentials. -/
def onExchanges {α : Type} (retrieval : Exec (List TokenExchange) Fault α) : Exec TokenSession Fault α := fun session =>
  (retrieval session.exchanges).map fun (value, exchanges) => (value, { session with exchanges })

def storageChain (uri : SeUri) : List TokenRetriever := [⟨.macaroon, []⟩, ⟨.macaroon, seStorage uri⟩]

/-- A token is stored for a URL, with the access it was asked for. -/
def HttpCreds.storeToken (creds : HttpCreds) (uri : SeUri) (writeAccess : Bool) (token : CString) : HttpCreds where
  mapping := storeNode creds.mapping (credNode uri.string ⟨bearer, some token⟩)
  tokenMap := Function.update creds.tokenMap token (some writeAccess)

def asksForToken (settings : HttpSettings) (uri : SeUri) (operation : HttpOp) : Bool :=
  getRetrieveBearerTokenConfig settings uri.toTpcUri && allowsBearerTokenRetrieve uri.toTpcUri operation

def TokenSession.retrieveAndStoreSeToken (settings : HttpSettings) (uri : SeUri) (operation : HttpOp) (validity : Nat) :
    Exec TokenSession Fault (Option CString) :=
  if ¬asksForToken settings uri operation then return none
  else do
    let found ← onExchanges
      (tryRetrievers davix jsonC server uri (writeFlagFromOperation operation) validity [] (storageChain uri) [])
    match found.1 with
    | none => return none
    | some token => do
        Exec.modify fun session =>
          { session with creds := session.creds.storeToken uri (writeFlagFromOperation operation) token.token }
        return some token.token

end Chains

end Gfal2
