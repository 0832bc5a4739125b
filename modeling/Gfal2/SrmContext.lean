import Gfal2.SrmUrl
import Gfal2.CredMapping
import Gfal2.PluginInterface
import Gfal2.HttpCopyMode
import Gfal2.Base.Runs

/-! The context of srm-ifce that the SRM plugin keeps between its operations: how it is made for an endpoint and the
credentials of a URL, when it is used again, and whose credentials it then carries. -/

namespace Gfal2

open Base

abbrev srmQuark : GQuark := lit "GFAL2::PLUGINS::SRM"

/-- `enum gfal_srm_proto`. -/
inductive GfalSrmProto where
  | srm | srmv2 | errorUnknown
  deriving DecidableEq

/-- `srm_context_t`: the endpoint it was created for and the credentials it was given. -/
structure SrmContext where
  endpoint : CString
  ucert : Option CString := none
  ukey : Option CString := none
  deriving DecidableEq

/-- `GStaticRecMutex`, as the thread that uses it counts its holds. -/
structure RecMutex where
  count : Nat := 0
  misused : Bool := false
  deriving DecidableEq

/-- `g_static_rec_mutex_lock`. -/
def RecMutex.lock (mutex : RecMutex) : RecMutex := { mutex with count := mutex.count + 1 }

/-- `g_static_rec_mutex_unlock`. What a mutex that is not held does is not specified. -/
def RecMutex.unlock (mutex : RecMutex) : RecMutex :=
  if mutex.count = 0 then { mutex with misused := true } else { mutex with count := mutex.count - 1 }

/-- `gfal_srmv2_opt`, with the credential mapping and the configuration of its `handle`. -/
structure SrmOpts where
  credMapping : CredMapping := []
  config : Config := {}
  srmProtoType : GfalSrmProto := .srmv2
  srmContextMutex : RecMutex := {}
  srmContext : Option SrmContext := none
  x509Ucert : CString := []
  x509Ukey : CString := []
  endpoint : CString := []

/-- What a request for a context meets: the types and endpoints the BDII knows for a host, and whether srm-ifce makes
a context. -/
structure ContextAnswers where
  bdii : Option CString → Except GError (List (CString × CString)) := fun _ => .error ⟨srmQuark, ENOENT, []⟩
  created : Bool := true

section Endpoint

/-- The expression `rex_full`, up to the end of what it matches. -/
def rexFull : Regex Char :=
  let name : Regex Char := .plus (.group 1 (.alt (.cls fun c => (lit ":alnum").contains c)
    (.alt (.chr '-') (.alt (.chr '/') (.alt (.cls fun _ => true) (.chr '_'))))))
  .seq (.cls fun c => c = 's' ∨ c = 'S') (.seq (.cls fun c => c = 'r' ∨ c = 'R') (.seq (.cls fun c => c = 'm' ∨ c = 'M')
    (.seq (.chr ':') (.seq (.chr '/') (.seq (.chr '/') (.seq name (.seq (.chr ':') (.seq (.plus (.cls Char.isDigit))
      (.seq (.chr '/') (.seq (.opt name) (.seq (.cls fun c => c = 's' ∨ c = 'S')
        (.seq (.cls fun c => c = 'f' ∨ c = 'F') (.seq (.cls fun c => c = 'n' ∨ c = 'N') (.chr '='))))))))))))))

/-- `gfal_check_fullendpoint_in_surlG`. -/
def gfalCheckFullendpointInSurl (surl : CString) : Bool := surl.inits.any rexFull.accepts

/-- `gfal_get_fullendpointG`. -/
def gfalGetFullendpoint (surl : CString) (sBuff : Nat) : Except GError CString :=
  match surl.tails.findIdx? ((lit "?SFN=").isPrefixOf ·) with
  | none => .error ⟨gfal2GetCoreQuark, EINVAL, lit "[gfal_get_fullendpoint] full surl must contain ?SFN= and a valid prefix, fatal error"⟩
  | some sfn =>
      if sBuff > sfn - 6 + 8 then .ok (lit "httpg://" ++ (surl.take sfn).drop 6)
      else .error (gfal2SetError srmQuark 105 (lit "buffer too small"))

/-- `gfal_srm_guess_service_endpoint`. A host that is not there is printed as `(null)`. -/
def gfalSrmGuessServiceEndpoint (surl : CString) (sBuff : Nat) : Except GError CString :=
  match gfal2ParseUri surl with
  | ⟨some parsed, none⟩ =>
      let host := parsed.host.getD (lit "(null)")
      let port := if parsed.port = 0 then [] else ':' :: showInt (Int.bmod parsed.port (2 ^ 32))
      .ok ((lit "httpg://" ++ host ++ port ++ lit "/srm/managerv2").take (sBuff - 1))
  | ⟨_, err⟩ => .error (err.getD ⟨srmQuark, EINVAL, []⟩)

def gfalConvertProtoFromBdii (seType : CString) : GfalSrmProto :=
  if seType = lit "srm_v1" then .srm else if seType = lit "srm_v2" then .srmv2 else .errorUnknown

/-- The inner loop: the cursors over the types and the endpoints go on from where they are, up to an entry of the
preferred protocol. -/
def walkEntries (preferred : GfalSrmProto) :
    List (CString × CString) → Option CString × List (CString × CString)
  | [] => (none, [])
  | entry :: rest =>
      if preferred = gfalConvertProtoFromBdii entry.1 then (some entry.2, entry :: rest) else walkEntries preferred rest

/-- The outer loop over the preferences, which ends at `PROTO_ERROR_UNKNOWN`. -/
def walkPreferences : List GfalSrmProto → List (CString × CString) → Option (CString × GfalSrmProto)
  | [], _ => none
  | preferred :: preferences, entries =>
      if preferred = .errorUnknown then none
      else
        match walkEntries preferred entries with
        | (some endpoint, _) => some (endpoint, preferred)
        | (none, rest) => walkPreferences preferences rest

/-- `gfal_proto_list_prefG`. -/
def gfalProtoListPref : List GfalSrmProto := [.srmv2, .srm, .errorUnknown]

/-- `gfal_select_best_protocol_and_endpointG`: the endpoint, as it fits the buffer, and its protocol. -/
def selectBestProtocolAndEndpoint (srmProtoType : GfalSrmProto) (entries : List (CString × CString)) (sBuff : Nat) :
    Except GError (CString × GfalSrmProto) :=
  if sBuff = 0 then .error ⟨gfal2GetCoreQuark, EINVAL, lit "[gfal_select_best_protocol_and_endpoint] Invalid value"⟩
  else
    match walkPreferences (srmProtoType :: gfalProtoListPref) entries with
    | some (endpoint, protocol) => .ok (endpoint.take (sBuff - 1), protocol)
    | none =>
        .error (gfal2SetError srmQuark EINVAL (lit "cannot obtain a valid protocol from the bdii response, fatal error"))

/-- `gfal_get_endpoint_and_setype_from_bdiiG`; whatever is no success is left to the default path. -/
def gfalGetEndpointFromBdii (opts : SrmOpts) (answers : ContextAnswers) (surl : CString) : Option CString :=
  match gfal2ParseUri surl with
  | ⟨some parsed, _⟩ =>
      match answers.bdii parsed.host with
      | .ok found => (selectBestProtocolAndEndpoint opts.srmProtoType found 2048).toOption.map Prod.fst
      | .error _ => none
  | ⟨none, _⟩ => none

/-- `gfal_srm_determine_endpoint`: the endpoint and the version of its protocol, which is always the default one. -/
def gfalSrmDetermineEndpoint (opts : SrmOpts) (answers : ContextAnswers) (surl : CString) : Except GError CString :=
  if gfalCheckFullendpointInSurl surl then gfalGetFullendpoint surl 2048
  else if ¬gfal2GetOptBooleanWithDefault opts.config (lit "BDII") (lit "ENABLED") true then
    gfalSrmGuessServiceEndpoint surl 2048
  else
    match gfalGetEndpointFromBdii opts answers surl with
    | some endpoint => .ok endpoint
    | none => gfalSrmGuessServiceEndpoint surl 2048

end Endpoint

/-! ### The context -/

/-- The credentials `gfal2_cred_get` yields for a URL, and the base URL of the key. -/
structure SrmCredentials where
  ucert : Option CString
  ukey : Option CString
  baseurl : CString
  deriving DecidableEq

def srmCredentials (opts : SrmOpts) (surl : CString) : SrmCredentials :=
  let ucert := gfal2CredGet opts.credMapping opts.config.optString (lit "X509_CERT") surl
  let ukey := gfal2CredGet opts.credMapping opts.config.optString (lit "X509_KEY") surl
  ⟨ucert.value, ukey.value, ukey.baseurl⟩

/-- Whether a value agrees with the string that is remembered for it. -/
def sameRemembered (remembered : CString) : Option CString → Bool
  | some value => remembered = value
  | none => remembered = []

def isSameContext (opts : SrmOpts) (endpoint : CString) (ucert ukey : Option CString) : Bool :=
  opts.endpoint = endpoint && sameRemembered opts.x509Ucert ucert && sameRemembered opts.x509Ukey ukey

/-- `gfal_srm_ifce_context_setup`: a key without a certificate is not used. -/
def gfalSrmIfceContextSetup (endpoint : CString) (ucert ukey : Option CString) : SrmContext :=
  match ucert with
  | some cert => ⟨endpoint, some cert, ukey⟩
  | none => { endpoint := endpoint }

/-- `gfal_srm_easy_t`. -/
structure GfalSrmEasy where
  path : CString
  srmContext : Option SrmContext
  deriving DecidableEq

def remember (remembered : CString) : Option CString → CString
  | some value => value.take 2047
  | none => remembered

/-- `gfal_srm_ifce_easy_context`. Where srm-ifce makes no context there is an error and yet a result, and the mutex is
given back. -/
def gfalSrmIfceEasyContext (opts : SrmOpts) (answers : ContextAnswers) (surl : CString) :
    Ret (Option GfalSrmEasy) × SrmOpts :=
  match gfalSrmDetermineEndpoint opts answers surl with
  | .error e => (⟨none, some e⟩, opts)
  | .ok fullEndpoint =>
      let creds := srmCredentials opts surl
      let baseurl := if creds.baseurl = [] then fullEndpoint else creds.baseurl
      let opts := { opts with srmContextMutex := opts.srmContextMutex.lock }
      let kept := opts.srmContext.filter fun _ => isSameContext opts baseurl creds.ucert creds.ukey
      let unsupported := fun (message : CString) =>
        (⟨none, some (gfal2SetError srmQuark EPROTONOSUPPORT message)⟩, { opts with srmContext := none })
      let handOut := fun (context : SrmContext) =>
        (⟨some ⟨gfal2SrmGetDecodedPath surl, some context⟩, none⟩,
          { opts with
            srmContext := some context
            endpoint := fullEndpoint.take 2047
            x509Ucert := remember opts.x509Ucert creds.ucert
            x509Ukey := remember opts.x509Ukey creds.ukey })
      match kept, opts.srmProtoType with
      | some context, _ => handOut context
      | none, .srmv2 =>
          if answers.created then handOut (gfalSrmIfceContextSetup fullEndpoint creds.ucert creds.ukey)
          else
            (⟨some ⟨gfal2SrmGetDecodedPath surl, none⟩,
                some (gfal2SetError srmQuark EINVAL (lit "Impossible to create srm context"))⟩,
              { opts with srmContext := none, srmContextMutex := opts.srmContextMutex.unlock })
      | none, .srm => unsupported (lit "SRM v1 is not supported, failure")
      | none, .errorUnknown => unsupported (lit "Unknown version of the protocol SRM, failure")

/-- `gfal_srm_ifce_easy_context_release`, which unlocks whatever it is called with. -/
def gfalSrmIfceEasyContextRelease (opts : SrmOpts) : SrmOpts :=
  { opts with srmContextMutex := opts.srmContextMutex.unlock }

end Gfal2
