import Gfal2.LocalCopy

/-! The modes of an HTTP copy, where the first of them comes from and which one follows a failed one. The
choice reads the configuration under the name of each storage and under the name of the plugin, and it
may write it: it hands back the configuration it leaves. -/

namespace Gfal2

open Base

/-! ### Options -/

/-- One option under new readings, the others as they were. -/
def Config.store (config : Config) (groupName key value : CString) (integer : Option Int) (boolean : Option Bool) :
    Config where
  optString g k := if g = groupName ∧ k = key then some value else config.optString g k
  optInteger g k := if g = groupName ∧ k = key then integer else config.optInteger g k
  optBoolean g k := if g = groupName ∧ k = key then boolean else config.optBoolean g k

section Store

variable (config : Config) (groupName key value g k : CString) (integer : Option Int) (boolean : Option Bool)

@[simp] theorem Config.optString_store : (config.store groupName key value integer boolean).optString g k =
    if g = groupName ∧ k = key then some value else config.optString g k := rfl

@[simp] theorem Config.optInteger_store : (config.store groupName key value integer boolean).optInteger g k =
    if g = groupName ∧ k = key then integer else config.optInteger g k := rfl

@[simp] theorem Config.optBoolean_store : (config.store groupName key value integer boolean).optBoolean g k =
    if g = groupName ∧ k = key then boolean else config.optBoolean g k := rfl

end Store

def gfal2SetOptBoolean (config : Config) (groupName key : CString) (value : Bool) : Config :=
  config.store groupName key (if value then lit "true" else lit "false") none (some value)

/-- `gfal2_set_opt_integer`; the integers 0 and 1 are read as booleans too. -/
def gfal2SetOptInteger (config : Config) (groupName key : CString) (value : Int) : Config :=
  config.store groupName key (lit (toString value)) (some value)
    (if value = 0 then some false else if value = 1 then some true else none)

def gfal2GetOptBooleanWithDefault (config : Config) (groupName key : CString) (defaultValue : Bool) : Bool :=
  (config.optBoolean groupName key).getD defaultValue

def gfal2GetOptStringWithDefault (config : Config) (groupName key defaultValue : CString) : CString :=
  (config.optString groupName key).getD defaultValue

abbrev httpPluginGroup : CString := lit "HTTP PLUGIN"

/-- The parts of a `Davix::Uri` that is well formed. -/
structure DavixUri where
  protocol : CString
  host : CString

section Options

variable (uri : CString → Option DavixUri) (config : Config)

/-- The protocol without its final `s`. -/
def insecureProtocol (protocol : CString) : CString :=
  if protocol.getLast? = some 's' then protocol.dropLast else protocol

/-- `construct_config_group_from_url`, the empty string for a URL that is not well formed. -/
def constructConfigGroupFromUrl (surl : CString) : CString :=
  match uri surl with
  | none => []
  | some parts => (insecureProtocol parts.protocol ++ lit ":" ++ parts.host).map Char.toUpper

/-- `get_se_custom_opt_boolean`: -1 where there is no value. -/
def getSeCustomOptBoolean (surl key : CString) : Int :=
  let groupName := constructConfigGroupFromUrl uri surl
  if groupName = [] then -1
  else
    match config.optBoolean groupName key with
    | none => -1
    | some value => if value then 1 else 0

def getSeCustomOptString (surl key : CString) : Option CString :=
  let groupName := constructConfigGroupFromUrl uri surl
  if groupName = [] then none else config.optString groupName key

/-- The body of the three switches of a pair of URLs. As soon as one of the storages has a value, the
plugin's own is not read, and a storage without a value does not object. -/
def httpSwitch (key src dst : CString) : Bool :=
  let srcValue := getSeCustomOptBoolean uri config src key
  let dstValue := getSeCustomOptBoolean uri config dst key
  if srcValue > -1 ∨ dstValue > -1 then srcValue ≠ 0 ∧ dstValue ≠ 0
  else gfal2GetOptBooleanWithDefault config httpPluginGroup key true

def isHttp3rdcopyEnabled (src dst : CString) : Bool := httpSwitch uri config (lit "ENABLE_REMOTE_COPY") src dst

def isHttpStreamingEnabled (src dst : CString) : Bool := httpSwitch uri config (lit "ENABLE_STREAM_COPY") src dst

def isHttp3rdcopyFallbackEnabled (src dst : CString) : Bool :=
  httpSwitch uri config (lit "ENABLE_FALLBACK_TPC_COPY") src dst

end Options

/-- The schemes of `is_http_scheme`, each up to its colon. -/
def httpSchemes : List CString :=
  [lit "http:", lit "https:", lit "dav:", lit "davs:", lit "s3:", lit "s3s:", lit "gcloud:", lit "gclouds:",
    lit "swift:", lit "swifts:", lit "cs3:", lit "cs3s:"]

def isHttpScheme (url : CString) : Bool :=
  match strchr url ':' with
  | none => false
  | some colon => httpSchemes.any fun scheme => strncmp url scheme (colon + 1) = 0

/-! ### The modes -/

inductive CopyMode where
  | pull | push | stream | none
  deriving DecidableEq

def copyModeToStr : CopyMode → CString
  | .pull => lit "3rd pull"
  | .push => lit "3rd push"
  | .stream => lit "streamed"
  | .none => lit "None"

def copyModeFromStr : Option CString → CopyMode
  | .none => .none
  | .some copyModeStr =>
      if copyModeStr = lit "3rd pull" then .pull
      else if copyModeStr = lit "3rd push" then .push
      else if copyModeStr = lit "streamed" then .stream
      else .none

/-- `extract_query_parameter` into a buffer of the given size: the first argument that begins with the key
and has a value. -/
def extractQueryParameter (url key : CString) (valSize : Nat) : CString :=
  match strchr url '?' with
  | none => []
  | some mark =>
      let value := ((url.drop (mark + 1)).splitOn '&').findSome? fun arg =>
        if strncmp arg key key.length = 0 then (strchr arg '=').map fun p => arg.drop (p + 1) else none
      (value.getD []).take (valSize - 1)

def copyModeFromQueryArguments (surl : CString) : CopyMode :=
  let buffer := extractQueryParameter surl (lit "copy_mode") 64
  if buffer = lit "pull" then .pull
  else if buffer = lit "push" then .push
  else .none

/-- `class HttpCopyMode`. -/
structure HttpCopyMode where
  copyMode : CopyMode
  streamingOnly : Bool
  streamingEnabled : Bool
  deriving DecidableEq

def HttpCopyMode.next (m : HttpCopyMode) : HttpCopyMode :=
  if m.copyMode = .pull then { m with copyMode := .push }
  else if m.copyMode = .push ∧ m.streamingEnabled then { m with copyMode := .stream }
  else { m with copyMode := .none }

/-- `HttpCopyMode::end`. -/
def HttpCopyMode.atEnd (m : HttpCopyMode) : Bool := m.copyMode = .none

def HttpCopyMode.str (m : HttpCopyMode) : CString := copyModeToStr m.copyMode

/-- The mode that the arguments of the source or else of the destination ask for. -/
def queryCopyMode (src dst : CString) : CopyMode :=
  let copyMode := copyModeFromQueryArguments src
  if copyMode = .none then copyModeFromQueryArguments dst else copyMode

/-- What a mode from the arguments writes: no fallback. -/
def storeQueryOptions (config : Config) : Config :=
  gfal2SetOptBoolean (gfal2SetOptBoolean config httpPluginGroup (lit "ENABLE_REMOTE_COPY") true)
    httpPluginGroup (lit "ENABLE_FALLBACK_TPC_COPY") false

/-- The mode that the source or else the destination is configured for. -/
def seCopyMode (uri : CString → Option DavixUri) (config : Config) (src dst : CString) : CopyMode :=
  let copyMode := copyModeFromStr (getSeCustomOptString uri config src (lit "DEFAULT_COPY_MODE"))
  if copyMode = .none then copyModeFromStr (getSeCustomOptString uri config dst (lit "DEFAULT_COPY_MODE"))
  else copyMode

/-- The mode that the plugin is configured for; an invalid one counts as the default. -/
def pluginCopyMode (config : Config) : CopyMode :=
  let copyMode := copyModeFromStr
    (some (gfal2GetOptStringWithDefault config httpPluginGroup (lit "DEFAULT_COPY_MODE") (lit "3rd pull")))
  if copyMode = .none then .pull else copyMode

def constructCopyMode (uri : CString → Option DavixUri) (config : Config) (src dst : CString) :
    HttpCopyMode × Config :=
  -- a source that is not HTTP, or no third-party copies: straight to streaming
  if ¬isHttpScheme src ∨ ¬isHttp3rdcopyEnabled uri config src dst then
    (⟨.stream, true, true⟩, config)
  else
    let streamingEnabled := isHttpStreamingEnabled uri config src dst
    let copyMode := queryCopyMode src dst
    if copyMode ≠ .none then
      (⟨copyMode, copyMode = .stream, streamingEnabled⟩, storeQueryOptions config)
    else
      let copyMode := seCopyMode uri config src dst
      if copyMode ≠ .none then
        (⟨copyMode, copyMode = .stream, streamingEnabled⟩, config)
      else
        let copyMode := pluginCopyMode config
        (⟨copyMode, copyMode = .stream, streamingEnabled⟩, config)

def gfalHttpCopyShouldFallback (errorCode : Int) : Bool :=
  ¬(errorCode = ECANCELED ∨ errorCode = EPERM ∨ errorCode = ENOENT ∨ errorCode = EACCES)

end Gfal2
