import Gfal2.Base.Json
import Gfal2.HttpCopy

/-! The Tape REST API of the HTTP plugin: the endpoint of a storage, the requests to stage files, and the polls
of a staging and of an archiving. What Davix does with a URL and what json-c makes of a text are parameters. A
null `json_object` is the document `null`. -/

namespace Gfal2

open Base

variable {σ : Type}

/-- The parts of a `Davix::Uri` that is well formed and names its port. -/
structure DavixAddress extends DavixUri where
  port : Nat

/-- What a request that was executed came back with. -/
structure HttpAnswer where
  code : Int
  content : CString

/-- Davix with the requests the plugin makes of a tape endpoint, and the path of a URL. -/
structure TapeDavix (σ : Type) where
  uri : CString → Option DavixAddress
  path : CString → CString
  get : CString → Callback σ (Except DavixError HttpAnswer)
  post : CString → CString → Callback σ (Except DavixError HttpAnswer)

structure TapeEndpointInfo where
  sitename : CString
  uri : CString
  version : CString

/-- The tape endpoints that were found before, with the world the requests act on. -/
structure TapeState (σ : Type) where
  tapeEndpointMap : CString → Option TapeEndpointInfo := fun _ => none
  world : σ

abbrev Tape (σ α : Type) := Exec (TapeState σ) Fault α

def requestTape {α : Type} (request : Callback σ α) : Tape σ α := fun state =>
  .ok ((request state.world).1, { state with world := (request state.world).2 })

/-! ### json-c -/

/-- `json_tokener_parse`, and the text of a document that is neither a string nor a truth value. -/
structure JsonC where
  tokenerParse : CString → Json
  toJsonString : Json → CString

/-- `json_object_get_string`, null on a null document. -/
def jsonObjectGetString (jsonC : JsonC) : Json → Option CString
  | .null => none
  | .string value => some (value.takeWhile (· ≠ '\x00'))
  | .bool true => some (lit "true")
  | .bool false => some (lit "false")
  | document => some (jsonC.toJsonString document)

/-- A `std::string` made of what `json_object_get_string` returns. -/
def stdStringOf {S : Type} (jsonC : JsonC) (document : Json) : Exec S Fault CString :=
  match jsonObjectGetString jsonC document with
  | some text => pure text
  | none => Exec.fault .nullString

/-- The items `json_object_array_length` and `json_object_array_get_idx` go through. -/
def jsonArrayItems {S : Type} : Json → Exec S Fault (List Json)
  | .array items => pure items
  | _ => Exec.fault .assertion

/-! ### The bodies of requests -/

/-- `gfal2_path_collapse_slashes`, with the characters that were inserted so far, the last of them first. -/
def collapseOnto : CString → CString → CString
  | stack, [] => stack.reverse
  | stack, c :: rest =>
      if c ≠ '/' then collapseOnto (c :: stack) rest
      else if stack.head? ≠ some '/' then collapseOnto (c :: stack) rest
      else collapseOnto stack rest

def gfal2PathCollapseSlashes (path : CString) : CString := collapseOnto [] path

variable (davix : TapeDavix σ) (jsonC : JsonC)

def listFilesBody (urls : List CString) : CString :=
  lit "\x7b\"paths\": [" ++
    (lit ", ").intercalate (urls.map fun url => lit "\"" ++ gfal2PathCollapseSlashes (davix.path url) ++ lit "\"") ++
    lit "]\x7d"

/-- The entry of a file in the body of a request to stage it. An absent metadata is the empty one. -/
def stageRequestEntry (url metadata : CString) : CString :=
  lit "\x7b\"path\": " ++ lit "\"" ++ gfal2PathCollapseSlashes (davix.path url) ++ lit "\"" ++
    (if metadata ≠ [] then lit ", \"targetedMetadata\": " ++ metadata else []) ++ lit "\x7d"

def stageRequestBody (urls metadata : List CString) : CString :=
  lit "\x7b\"files\": [" ++ (lit ", ").intercalate (List.zipWith (stageRequestEntry davix) urls metadata) ++ lit "]\x7d"

/-- `metadata_format_checker`: the first metadata that is no document is an error. -/
def metadataFormatChecker : List CString → Ret Int
  | [] => ⟨0, none⟩
  | metadata :: rest =>
      match jsonC.tokenerParse metadata with
      | .null =>
          if metadata ≠ [] then
            ⟨-1, some (gfal2SetError httpPluginDomain EINVAL (lit "Invalid metadata format: " ++ metadata))⟩
          else metadataFormatChecker rest
      | _ => metadataFormatChecker rest

/-! ### The endpoint of a storage -/

/-- The error of a request to the tape REST API. -/
def tapeError (code : Int) (text : CString) : GError :=
  gfal2SetError httpPluginDomain code (lit "[Tape REST API] " ++ text)

/-- A request that must come back with the given status. The message of any other status is taken from the
error of a request that had none. -/
def expectStatus (request : Callback σ (Except DavixError HttpAnswer)) (status : Int) (failed : CString) :
    Tape σ (Ret CString) := do
  match ← requestTape request with
  | .error reqerr => return ⟨[], some (tapeError (davix2errno reqerr.status) (failed ++ lit ": " ++ reqerr.message))⟩
  | .ok answer => if answer.code ≠ status then Exec.fault .nullDereference else return ⟨answer.content, none⟩

/-- `atoi`. -/
def atoi (text : CString) : Int :=
  toInt32 (min ((text.takeWhile Char.isDigit).foldl (fun value c => 10 * value + (c.toNat - '0'.toNat)) 0) (2 ^ 63 - 1))

/-- The number of a version such as `v1`, or -1. -/
def parseVersion (version : CString) : Int :=
  let version := version.map Char.toLower
  let version := if version.head? = some 'v' then version.drop 1 else version
  if version.head?.any (fun c => ¬c.isDigit) then -1 else atoi version

/-- The endpoint that was chosen so far. -/
structure TapeEndpointChoice where
  maxVersion : Int := 0
  uri : CString := []
  version : CString := []

def considerEndpoint {S : Type} (endpoint : Json) (choice : TapeEndpointChoice) : Exec S Fault TapeEndpointChoice := do
  match endpoint.member (lit "version") with
  | none => return choice
  | some versionObj =>
      let version ← stdStringOf jsonC versionObj
      match endpoint.member (lit "uri") with
      | none => return choice
      | some uriObj =>
          if parseVersion version ≥ choice.maxVersion ∧ parseVersion version ≤ 1 then
            let uri ← stdStringOf jsonC uriObj
            return ⟨parseVersion version, uri, version⟩
          else
            return choice

def considerEndpoints {S : Type} : List Json → TapeEndpointChoice → Exec S Fault TapeEndpointChoice
  | [], choice => return choice
  | endpoint :: rest, choice => do
      let choice ← considerEndpoint jsonC endpoint choice
      considerEndpoints rest choice

/-- The part of `retrieve_and_store_tape_endpoint` from the answer on. -/
def readTapeEndpoint {S : Type} (response : Json) : Exec S Fault (Except GError TapeEndpointInfo) := do
  if response matches .null then
    return .error (tapeError ENOMSG (lit "Malformed served response from /.well-known/wlcg-tape-rest-api"))
  match response.member (lit "sitename") with
  | none => return .error (tapeError ENOMSG (lit "No sitename in response from /.well-known/wlcg-tape-rest-api"))
  | some sitenameObj =>
      let sitename ← stdStringOf jsonC sitenameObj
      match response.member (lit "endpoints") with
      | none => return .error (tapeError ENOMSG (lit "No endpoints in response from /.well-known/wlcg-tape-rest-api"))
      | some endpoints =>
          let items ← jsonArrayItems endpoints
          let choice ← considerEndpoints jsonC items {}
          if choice.uri = [] then
            return .error (tapeError ENOMSG (lit "Failed to find v0 or v1 metadata endpoint in response" ++
              lit " from /.well-known/wlcg-tape-rest-api"))
          return .ok ⟨sitename, choice.uri, choice.version⟩

def retrieveAndStoreTapeEndpoint (endpoint : CString) : Tape σ (Except GError TapeEndpointInfo) := do
  let answer ← expectStatus (davix.get (endpoint ++ lit "/.well-known/wlcg-tape-rest-api")) 200
    (lit "Failed to query /.well-known/wlcg-tape-rest-api")
  match answer.err with
  | some e => return .error e
  | none =>
      match ← readTapeEndpoint jsonC (jsonC.tokenerParse answer.val) with
      | .error e => return .error e
      | .ok info =>
          Exec.modify fun state => { state with tapeEndpointMap := Function.update state.tapeEndpointMap endpoint info }
          return .ok info

/-- The storage a URL belongs to. -/
def storageEndpoint (address : DavixAddress) : CString :=
  address.protocol ++ lit "://" ++ address.host ++
    (if address.port ≠ 0 then lit ":" ++ lit (toString address.port) else [])

/-- The URI of an endpoint with a method put after it, which starts with a slash. -/
def tapeMethodUri (uri method : CString) : CString :=
  if uri.getLast? = some '/' then uri.dropLast ++ method else uri ++ method

/-- `gfal_http_discover_tape_endpoint`. A URL that is not well formed is an error, and a string made of a null
pointer is returned with it. -/
def gfalHttpDiscoverTapeEndpoint (url method : CString) : Tape σ (Ret CString) := do
  match davix.uri url with
  | none => Exec.fault .nullString
  | some address =>
      let state ← Exec.get
      match state.tapeEndpointMap (storageEndpoint address) with
      | some info => return ⟨tapeMethodUri info.uri method, none⟩
      | none =>
          match ← retrieveAndStoreTapeEndpoint davix jsonC (storageEndpoint address) with
          | .error e => return ⟨[], some e⟩
          | .ok info => return ⟨tapeMethodUri info.uri method, none⟩

/-! ### Staging -/

/-- `copyErrors`, with the value that is returned after it. -/
def copyErrors (urls : List CString) (tmpErr : GError) : Int × ErrorList := (-1, urls.map fun _ => some tmpErr)

/-- What is made of the answer to a request to stage files, with the buffer of the token and its size. -/
def readStageAnswer {S : Type} (urls : List CString) (token : CString) (tsize : Nat) (response : Json) :
    Exec S Fault (Int × CString × ErrorList) := do
  let refuse (text : CString) : Int × CString × ErrorList :=
    ((copyErrors urls (tapeError ENOMSG text)).1, token, (copyErrors urls (tapeError ENOMSG text)).2)
  if response matches .null then
    return refuse (lit "Malformed served response")
  match response.member (lit "requestId") with
  | none => return refuse (lit "requestID attribute missing")
  | some id =>
      let reqid ← stdStringOf jsonC id
      return (0, reqid.take (tsize - 1), urls.map fun _ => none)

/-- `gfal_http_bring_online_list_v2`, on arrays of the same length. -/
def gfalHttpBringOnlineListV2 (urls metadata : List CString) (token : CString) (tsize : Nat) :
    Tape σ (Int × CString × ErrorList) := do
  let refuse (e : GError) : Int × CString × ErrorList := ((copyErrors urls e).1, token, (copyErrors urls e).2)
  if urls = [] then
    return (-1, token, [])
  match (metadataFormatChecker jsonC metadata).err with
  | some e => return refuse e
  | none =>
      let endpoint ← gfalHttpDiscoverTapeEndpoint davix jsonC (urls.headD []) (lit "/stage")
      match endpoint.err with
      | some e => return refuse e
      | none =>
          let answer ← expectStatus (davix.post endpoint.val (stageRequestBody davix urls metadata)) 201
            (lit "Stage call failed")
          match answer.err with
          | some e => return refuse e
          | none =>
              if answer.val = [] then
                return refuse (tapeError ENOMSG (lit "Response with no data"))
              readStageAnswer jsonC urls token tsize (jsonC.tokenerParse answer.val)

/-! ### Polls -/

def itemPath (item : Json) : CString := ((item.member (lit "path")).bind (jsonObjectGetString jsonC)).getD []

/-- Whether an item is about a path; repeated slashes do not count. -/
def IsAbout (surl : CString) (item : Json) : Prop :=
  itemPath jsonC item ≠ [] ∧ gfal2PathCollapseSlashes (itemPath jsonC item) = gfal2PathCollapseSlashes surl

instance (surl : CString) (item : Json) : Decidable (IsAbout jsonC surl item) := inferInstanceAs (Decidable (_ ∧ _))

def pollingGetItemByPath {S : Type} (response : Json) (surl : CString) : Exec S Fault Json := do
  let items ← jsonArrayItems response
  return (items.find? fun item => IsAbout jsonC surl item).getD .null

/-- The two counters of a poll. -/
structure PollCounts where
  done : Int := 0
  error : Int := 0

/-- What a poll of a file makes of the counters, and the error it leaves for the file. -/
abbrev FilePoll (S : Type) := CString → Json → PollCounts → Exec S Fault (PollCounts × Option GError)

def missingItem (path : CString) : GError := tapeError ENOMSG (lit "Missing response item for path=" ++ path)

def pollStagingState (path state : CString) (counts : PollCounts) : PollCounts × Option GError :=
  if state = lit "COMPLETED" then ({ counts with done := counts.done + 1 }, none)
  else if state = lit "STARTED" ∨ state = lit "SUBMITTED" then
    (counts, some (tapeError EAGAIN (lit "File " ++ path ++ lit " is not yet on disk")))
  else if state = lit "CANCELED" then
    ({ counts with error := counts.error + 1 },
      some (tapeError ECANCELED (lit "Staging operation cancelled. File=" ++ path)))
  else if state = lit "FAILED" then
    ({ counts with error := counts.error + 1 },
      some (tapeError ENOENT (lit "Staging operation failed for file=" ++ path)))
  else
    ({ counts with error := counts.error + 1 },
      some (tapeError ENOENT (lit "Unrecognized staging status. File=" ++ path ++ lit " status=" ++ state)))

/-- A file in the loop of `gfal_http_bring_online_poll_list`. -/
def pollStagedFile {S : Type} : FilePoll S := fun path file counts => do
  let failed : PollCounts := { counts with error := counts.error + 1 }
  if file matches .null then
    return (failed, some (missingItem path))
  match file.member (lit "error") with
  | some fileErrorText =>
      let text ← stdStringOf jsonC fileErrorText
      return (failed, some (tapeError ENOMSG text))
  | none =>
      match file.member (lit "onDisk") with
      | some fileOnDisk =>
          let disk ← stdStringOf jsonC fileOnDisk
          if disk.map Char.toLower = lit "true" then
            return ({ counts with done := counts.done + 1 }, none)
          else
            return (counts, some (tapeError EAGAIN (lit "File " ++ path ++ lit " is not yet on disk")))
      | none =>
          match file.member (lit "state") with
          | none => return (failed, some (tapeError ENOMSG (lit "State and onDisk attributes missing")))
          | some fileState =>
              let state ← stdStringOf jsonC fileState
              return pollStagingState path state counts

/-- `file_locality_t`. -/
structure FileLocality where
  onDisk : Bool := false
  onTape : Bool := false

/-- What a text of a locality stands for. -/
def readLocality (path text : CString) : FileLocality × Option GError :=
  let reported (code : Int) : FileLocality × Option GError :=
    ({}, some (tapeError code (lit "File locality reported as " ++ text ++ lit " (path=" ++ path ++ lit ")")))
  if text = lit "TAPE" then ({ onTape := true }, none)
  else if text = lit "DISK" then ({ onDisk := true }, none)
  else if text = lit "DISK_AND_TAPE" then ({ onDisk := true, onTape := true }, none)
  else if text = lit "LOST" then reported ENOENT
  else if text = lit "NONE" then reported EPERM
  else if text = lit "UNAVAILABLE" then reported EAGAIN
  else ({}, some (tapeError ENOMSG (lit "File locality reported as \"" ++ text ++ lit "\" (path=" ++ path ++ lit ")")))

def getFileLocality {S : Type} (file : Json) (path : CString) (bypassArchiveError : Bool) :
    Exec S Fault (FileLocality × Option GError) := do
  if file matches .null then
    return ({}, some (missingItem path))
  match file.member (lit "error"), bypassArchiveError with
  | some fileErrorText, false =>
      let text := (jsonObjectGetString jsonC fileErrorText).getD (lit "error field is null")
      return ({}, some (tapeError ENOMSG text))
  | _, _ =>
      match file.member (lit "locality") with
      | none => return ({}, some (tapeError ENOMSG (lit "Locality attribute missing")))
      | some fileLocality =>
          let text ← stdStringOf jsonC fileLocality
          return readLocality path text

/-- A file in the loop of `gfal_http_archive_poll_list`. -/
def pollArchivedFile {S : Type} : FilePoll S := fun path file counts => do
  let (locality, err) ← getFileLocality jsonC file path false
  match err with
  | some e => return ({ counts with error := counts.error + 1 }, some e)
  | none =>
      if locality.onTape then
        return ({ counts with done := counts.done + 1 }, none)
      else
        return (counts, some (tapeError EAGAIN (lit "File " ++ path ++ lit " is not yet archived")))

/-- The loop over the files, of which each leaves its error. -/
def pollFiles {S : Type} (poll : FilePoll S) (response : Json) :
    List CString → PollCounts → Exec S Fault (PollCounts × ErrorList)
  | [], counts => return (counts, [])
  | url :: rest, counts => do
      let file ← pollingGetItemByPath jsonC response (davix.path url)
      let (counts, error) ← poll (davix.path url) file counts
      let (counts, errors) ← pollFiles poll response rest counts
      return (counts, error :: errors)

/-- The value a poll returns. -/
def pollResult (nbfiles : Nat) (counts : PollCounts) : Int :=
  if counts.done = nbfiles then 1
  else if counts.error = nbfiles then -1
  else if counts.done + counts.error = nbfiles then 2
  else 0

/-- The files of a response are polled, and the value is what the counters amount to. -/
def pollResponse {S : Type} (poll : FilePoll S) (response : Json) (urls : List CString) :
    Exec S Fault (Int × ErrorList) := do
  let (counts, errors) ← pollFiles davix jsonC poll response urls {}
  return (pollResult urls.length counts, errors)

/-- The part of `gfal_http_bring_online_poll_list` from the response on. -/
def readStagePoll {S : Type} (urls : List CString) (token : CString) (response : Json) :
    Exec S Fault (Int × ErrorList) := do
  let refuse (text : CString) : Int × ErrorList := copyErrors urls (tapeError ENOMSG text)
  if response matches .null then
    return refuse (lit "Malformed served response")
  let reqid ← match response.member (lit "id") with
    | some id => stdStringOf jsonC id
    | none => pure []
  if reqid = [] then
    return refuse (lit "Request ID missing from polling response (expected id=" ++ token ++ lit ")")
  if reqid ≠ token then
    return refuse (lit "Request ID mismatch. Expected id=" ++ token ++ lit " but received id=" ++ reqid)
  match response.member (lit "files") with
  | none => return refuse (lit "Files attribute missing from server poll response")
  | some files => pollResponse davix jsonC (pollStagedFile jsonC) files urls

/-- `gfal_http_bring_online_poll_list`. A null token is the empty one. -/
def gfalHttpBringOnlinePollList (urls : List CString) (token : CString) : Tape σ (Int × ErrorList) := do
  if urls = [] then
    return (-1, [])
  if token = [] then
    return copyErrors urls (gfal2SetError httpPluginDomain EINVAL (lit "The request ID was not provided"))
  let endpoint ← gfalHttpDiscoverTapeEndpoint davix jsonC (urls.headD []) (lit "/stage/" ++ token)
  match endpoint.err with
  | some e => return copyErrors urls e
  | none =>
      let answer ← expectStatus (davix.get endpoint.val) 200 (lit "Stage pooling call failed")
      match answer.err with
      | some e => return copyErrors urls e
      | none =>
          if answer.val = [] then
            return copyErrors urls (tapeError ENOMSG (lit "Response with no data"))
          readStagePoll davix jsonC urls token (jsonC.tokenerParse answer.val)

def getArchiveinfo (urls : List CString) : Tape σ (Ret CString) := do
  let endpoint ← gfalHttpDiscoverTapeEndpoint davix jsonC (urls.headD []) (lit "/archiveinfo")
  match endpoint.err with
  | some e => return ⟨[], some e⟩
  | none =>
      let answer ← expectStatus (davix.post endpoint.val (listFilesBody davix urls)) 200
        (lit "Archive polling call failed")
      match answer.err with
      | some e => return ⟨[], some e⟩
      | none =>
          return if answer.val = [] then ⟨[], some (tapeError ENOMSG (lit "Response with no data"))⟩ else answer

/-- The part of `gfal_http_archive_poll_list` from the response on. -/
def readArchivePoll {S : Type} (urls : List CString) (response : Json) : Exec S Fault (Int × ErrorList) := do
  if response matches .null then
    return copyErrors urls (tapeError ENOMSG (lit "Malformed server response"))
  pollResponse davix jsonC (pollArchivedFile jsonC) response urls

def gfalHttpArchivePollList (urls : List CString) : Tape σ (Int × ErrorList) := do
  if urls = [] then
    return (-1, [])
  let content ← getArchiveinfo davix jsonC urls
  match content.err with
  | some e => return copyErrors urls e
  | none => readArchivePoll davix jsonC urls (jsonC.tokenerParse content.val)

end Gfal2
