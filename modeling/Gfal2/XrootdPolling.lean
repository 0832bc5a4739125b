import Gfal2.TapePolling
import Gfal2.Xrootd

/-! The polls of the XRootD plugin, of files that are brought online and of files that are archived. Each response of an answer is
looked at in its place, and the error it comes to is left in the same place for the file of the request. -/

namespace Gfal2

open Base Exec

/-- `XrdCl::FileSystem::Query` for a prepare request at an endpoint. -/
structure XrdQueries extends XrdUrls where
  queryPrepare : CString → CString → Except XrdStatus CString

def gfal2XrootdPollSetError (code : Int) (reason text : CString) : GError :=
  gfal2SetError xrootdDomain code ((shortText text ++ lit " (reason: " ++ reason ++ lit ")").take 511)

def xrootdError (code : Int) (text : CString) : GError := gfal2SetError xrootdDomain code text

/-- What a response comes to. -/
inductive XrootdVerdict where
  | done
  | failed (e : GError)
  | waiting (e : GError)
  deriving DecidableEq

namespace XrootdVerdict

def error : XrootdVerdict → Option GError
  | done => none
  | failed e => some e
  | waiting e => some e

/-- What is counted. -/
def status : XrootdVerdict → FileStatus
  | done => .done
  | failed _ => .failed
  | waiting _ => .inProgress

end XrootdVerdict

section Responses

variable (jsonC : JsonC)

def presentMember (document : Json) (key : CString) : Option Json :=
  (document.member key).filter fun value => ¬(value matches .null)

def textMember (document : Json) (key : CString) : CString :=
  ((presentMember document key).bind (jsonObjectGetString jsonC)).getD []

/-- `json_obj_to_bool` of a member. -/
def boolMember (document : Json) (key : CString) : Bool := (textMember jsonC document key).map Char.toLower = lit "true"

/-- A response up to its path: what it comes to, or its error text and the collapsed path. -/
def readPath {S : Type} (paths : List CString) (jsonresp : CString) (response : Json) :
    Exec S Fault (Except XrootdVerdict (CString × CString)) := do
  if response matches .null then
    return .error (.failed (xrootdError ENOMSG (lit "Failed to parse responses JSON from server: " ++ jsonresp)))
  match presentMember response (lit "error_text") with
  | none => return .error (.failed (xrootdError ENOMSG (lit "Error attribute missing.")))
  | some _ =>
      let errorText := textMember jsonC response (lit "error_text")
      let path ← collapseSlashes (textMember jsonC response (lit "path"))
      if path = [] ∨ path ∉ paths then
        return .error (.failed (gfal2XrootdPollSetError ENOMSG errorText (lit "Wrong path: " ++ path)))
      else
        return .ok (errorText, path)

/-- The rest of a response of `gfal_xrootd_bring_online_poll_list`. -/
def stagedVerdict (token : CString) (response : Json) (errorText path : CString) : XrootdVerdict :=
  let refuse (code : Int) (text : CString) : XrootdVerdict := .failed (gfal2XrootdPollSetError code errorText text)
  if ¬boolMember jsonC response (lit "path_exists") ∧ ¬boolMember jsonC response (lit "exists") then
    refuse ENOENT (lit "File does not exist: " ++ path)
  else if boolMember jsonC response (lit "online") then .done
  else if ¬boolMember jsonC response (lit "requested") then refuse ENOMSG (lit "File is not being brought online: " ++ path)
  else if ¬boolMember jsonC response (lit "has_reqid") then
    refuse ENOMSG (lit "File (" ++ path ++ lit ") is not included in the bring online request: " ++ token)
  else if textMember jsonC response (lit "req_time") = [] then refuse ENOMSG (lit "Bring-online timestamp missing.")
  else if errorText ≠ [] then .failed (xrootdError ENOMSG errorText)
  else .waiting (xrootdError EAGAIN (lit "File (" ++ path ++ lit ") is not yet online."))

/-- The rest of a response of `gfal_xrootd_archive_poll_list`. -/
def archivedVerdict (response : Json) (errorText path : CString) : XrootdVerdict :=
  if ¬boolMember jsonC response (lit "path_exists") then
    .failed (gfal2XrootdPollSetError ENOENT errorText (lit "File does not exist: " ++ path))
  else if boolMember jsonC response (lit "on_tape") then .done
  else if errorText ≠ [] then .failed (xrootdError ENOMSG errorText)
  else .waiting (xrootdError EAGAIN (lit "File " ++ path ++ lit " is not yet archived"))

def readResponse {S : Type} (rest : Json → CString → CString → XrootdVerdict) (paths : List CString) (jsonresp : CString)
    (response : Json) : Exec S Fault XrootdVerdict := do
  match ← readPath jsonC paths jsonresp response with
  | .error verdict => return verdict
  | .ok (errorText, path) => return rest response errorText path

/-- The loop over the responses, of which each leaves its error in its place. -/
def readResponses {S : Type} (rest : Json → CString → CString → XrootdVerdict) (paths : List CString) (jsonresp : CString) :
    List Json → PollCounts → Exec S Fault (PollCounts × ErrorList)
  | [], counts => return (counts, [])
  | response :: responses, counts => do
      let verdict ← readResponse jsonC rest paths jsonresp response
      let (counts, errors) ← readResponses rest paths jsonresp responses (counts.add verdict.status)
      return (counts, verdict.error :: errors)

def answerResponses {S : Type} (answer : Json) : Exec S Fault (List Json) :=
  match presentMember answer (lit "responses") with
  | some responses => jsonArrayItems responses
  | none => pure []

/-- A poll from the answer on, under the id of its request. -/
def readAnswer {S : Type} (rest : Json → CString → CString → XrootdVerdict) (mismatchText id : CString) (paths : List CString)
    (jsonresp : CString) : Exec S Fault (Int × ErrorList) := do
  let refuse (text : CString) : Int × ErrorList := (-1, paths.map fun _ => some (xrootdError ENOMSG text))
  let answer := jsonC.tokenerParse jsonresp
  if answer matches .null then
    return refuse (lit "Response from server is an invalid JSON: " ++ jsonresp)
  let reqid := textMember jsonC answer (lit "request_id")
  if reqid = [] ∨ reqid ≠ id then
    return refuse (lit "Request ID mismatch.")
  let responses ← answerResponses answer
  if responses.length ≠ paths.length then
    return refuse mismatchText
  let (counts, errors) ← readResponses jsonC rest paths jsonresp responses {}
  return (pollResult paths.length counts, errors)

end Responses

section Polls

variable {S : Type} (xrd : XrdQueries) (jsonC : JsonC) (context : XrootdContext)

def collapsedPaths : List CString → Exec S Fault (List CString)
  | [] => pure []
  | url :: urls => do
      let path ← collapseSlashes (xrd.path (prepareUrl context url))
      let paths ← collapsedPaths urls
      return path :: paths

/-- A poll of files under an id, which is sent with their paths. -/
def pollUnder (rest : Json → CString → CString → XrootdVerdict) (mismatchText id : CString) (urls : List CString) :
    Exec S Fault (Int × ErrorList) := do
  if urls = [] then
    return (1, [])
  let paths ← collapsedPaths xrd context urls
  match xrd.queryPrepare (xrd.endpoint (prepareUrl context (urls.headD []))) ((lit "\n").intercalate (id :: paths)) with
  | .error status => return (-1, urls.map fun _ => some (xrootdError status.errno status.text))
  | .ok jsonresp => readAnswer jsonC rest mismatchText id paths jsonresp

def gfalXrootdBringOnlinePollList (urls : List CString) (token : CString) : Exec S Fault (Int × ErrorList) :=
  pollUnder xrd jsonC context (stagedVerdict jsonC token) (lit "Number of files in the request does not match!") token urls

/-- `gfal_xrootd_archive_poll_list`, with the id that is drawn for it. -/
def gfalXrootdArchivePollList (urls : List CString) (uuid : CString) : Exec S Fault (Int × ErrorList) :=
  pollUnder xrd jsonC context (archivedVerdict jsonC) (lit "Number of files in the request doest not match!") uuid urls

end Polls

/-! ### What a poll should say -/

inductive XrootdPoll where
  | bringOnline (token : CString)
  | archive (uuid : CString)

namespace XrootdPoll

/-- The id a poll is sent with. -/
def id : XrootdPoll → CString
  | bringOnline token => token
  | archive uuid => uuid

/-- How a poll reads a response for a file of its request. -/
def rest (jsonC : JsonC) : XrootdPoll → Json → CString → CString → XrootdVerdict
  | bringOnline token => stagedVerdict jsonC token
  | archive _ => archivedVerdict jsonC

def run {S : Type} (xrd : XrdQueries) (jsonC : JsonC) (context : XrootdContext) (urls : List CString) :
    XrootdPoll → Exec S Fault (Int × ErrorList)
  | bringOnline token => gfalXrootdBringOnlinePollList xrd jsonC context urls token
  | archive uuid => gfalXrootdArchivePollList xrd jsonC context urls uuid

end XrootdPoll

/-- A text whose slashes are collapsed. -/
def collapsed : CString → CString
  | [] => []
  | c :: rest => collapseStored [c] rest

def filePath (xrd : XrdQueries) (context : XrootdContext) (url : CString) : CString := collapsed (xrd.path (prepareUrl context url))

def responsePath (jsonC : JsonC) (response : Json) : CString := collapsed (textMember jsonC response (lit "path"))

/-- The path of a response is empty where it is read. -/
def PathMissing (jsonC : JsonC) (response : Json) : Prop :=
  (presentMember response (lit "error_text")).isSome = true ∧ textMember jsonC response (lit "path") = []

instance (jsonC : JsonC) (response : Json) : Decidable (PathMissing jsonC response) := inferInstanceAs (Decidable (_ ∧ _))

/-- What a response says of the files with these paths, if its own path is there. -/
def verdictOf (jsonC : JsonC) (rest : Json → CString → CString → XrootdVerdict) (paths : List CString) (jsonresp : CString)
    (response : Json) : XrootdVerdict :=
  if response matches .null then
    .failed (xrootdError ENOMSG (lit "Failed to parse responses JSON from server: " ++ jsonresp))
  else if presentMember response (lit "error_text") = none then .failed (xrootdError ENOMSG (lit "Error attribute missing."))
  else
    let errorText := textMember jsonC response (lit "error_text")
    let path := responsePath jsonC response
    if path = [] ∨ path ∉ paths then .failed (gfal2XrootdPollSetError ENOMSG errorText (lit "Wrong path: " ++ path))
    else rest response errorText path

/-- json-c where every answer reads as another document. -/
def JsonC.answering (jsonC : JsonC) (document : Json) : JsonC := { jsonC with tokenerParse := fun _ => document }

namespace XrootdPoll

def answer (poll : XrootdPoll) (xrd : XrdQueries) (context : XrootdContext) (urls : List CString) : Except XrdStatus CString :=
  xrd.queryPrepare (xrd.endpoint (prepareUrl context (urls.headD []))) ((lit "\n").intercalate (poll.id :: urls.map (filePath xrd context)))

/-- A document that is an answer to the poll, with its responses. -/
structure Answers (poll : XrootdPoll) (jsonC : JsonC) (document : Json) (responses : List Json) : Prop where
  id : textMember jsonC document (lit "request_id") = poll.id
  named : poll.id ≠ []
  responses : presentMember document (lit "responses") = some (.array responses)

variable (poll : XrootdPoll) (xrd : XrdQueries) (jsonC : JsonC) (context : XrootdContext) (urls : List CString)

/-- The error a response comes to. -/
def errorOf (jsonresp : CString) (response : Json) : Option GError :=
  (verdictOf jsonC (poll.rest jsonC) (urls.map (filePath xrd context)) jsonresp response).error

/-- The error of a file is that of a response with its path, or is there since there is none. -/
def Told (jsonresp : CString) (responses : List Json) (url : CString) (error : Option GError) : Prop :=
  (∃ response ∈ responses, responsePath jsonC response = filePath xrd context url ∧ poll.errorOf xrd jsonC context urls jsonresp response = error) ∨
    (∀ response ∈ responses, responsePath jsonC response ≠ filePath xrd context url) ∧ error.isSome = true

/-- A poll comes to an end; and if there is an answer, its value says how far the files are together, the error of each file is that
of the response with its path, and the responses may stand in any order. -/
def Attributes : Prop :=
  ∃ ret errors, poll.run xrd jsonC context urls () = .ok ((ret, errors), ()) ∧ (urls = [] → ret = 1) ∧
    ∀ jsonresp, urls ≠ [] → poll.answer xrd context urls = .ok jsonresp → (∃ statuses, PollSound statuses ret errors) ∧
      ∀ responses, poll.Answers jsonC (jsonC.tokenerParse jsonresp) responses →
        List.Forall₂ (poll.Told xrd jsonC context urls jsonresp responses) urls errors ∧
        ∀ document responses', poll.Answers jsonC document responses' → responses.Perm responses' →
          poll.run xrd (jsonC.answering document) context urls () = .ok ((ret, errors), ())

/-- No response lacks the path that is read of it, all say the same, and if they say that files are done there is one for each file. -/
structure ClearResponses (jsonresp : CString) (responses : List Json) : Prop where
  present : ∀ response ∈ responses, ¬PathMissing jsonC response
  same : ∀ response ∈ responses, ∀ other ∈ responses,
    poll.errorOf xrd jsonC context urls jsonresp response = poll.errorOf xrd jsonC context urls jsonresp other
  done : ∀ response ∈ responses, poll.errorOf xrd jsonC context urls jsonresp response = none →
    ∀ url ∈ urls, ∃ other ∈ responses, responsePath jsonC other = filePath xrd context url

/-- The text of an answer of another length. -/
def mismatchText : XrootdPoll → CString
  | bringOnline _ => lit "Number of files in the request does not match!"
  | archive _ => lit "Number of files in the request doest not match!"

/-- The file of a poll that is refused for its number of responses has no response, or one that comes to just this refusal. -/
def ClearRefusal (jsonresp : CString) (responses : List Json) (url : CString) : Prop :=
  (∃ response ∈ responses, responsePath jsonC response = filePath xrd context url ∧
    poll.errorOf xrd jsonC context urls jsonresp response = some (xrootdError ENOMSG poll.mismatchText)) ∨
  ∀ response ∈ responses, responsePath jsonC response ≠ filePath xrd context url

/-- No file lacks its path, and the responses under the id of the poll are an array that is clear. -/
def Clear : Prop :=
  urls = [] ∨ (∀ url ∈ urls, xrd.path (prepareUrl context url) ≠ []) ∧
    ∀ jsonresp, poll.answer xrd context urls = .ok jsonresp →
      textMember jsonC (jsonC.tokenerParse jsonresp) (lit "request_id") = poll.id → poll.id ≠ [] →
      ∀ found, presentMember (jsonC.tokenerParse jsonresp) (lit "responses") = some found → ∃ responses, found = .array responses ∧
        (responses.length = urls.length → poll.ClearResponses xrd jsonC context urls jsonresp responses) ∧
        (responses.length ≠ urls.length → ∀ url ∈ urls, poll.ClearRefusal xrd jsonC context urls jsonresp responses url)

end XrootdPoll

variable {responses : List Json}

section Runs

variable {S : Type} {jsonC : JsonC} {rest : Json → CString → CString → XrootdVerdict} {paths : List CString} {jsonresp : CString}

theorem collapseSlashes_eq {path : CString} (h : path ≠ []) : (collapseSlashes path : Exec S Fault CString) = pure (collapsed path) := by
  cases path with
  | nil => exact absurd rfl h
  | cons c rest => rfl

/-- The error of a failed file does not say that it is in progress. -/
def XrootdVerdict.Agrees (verdict : XrootdVerdict) : Prop := verdict.status.Agrees verdict.error

theorem XrootdVerdict.agrees_done : XrootdVerdict.done.Agrees := rfl

theorem XrootdVerdict.agrees_failed {e : GError} (h : e.code ≠ EAGAIN) : (XrootdVerdict.failed e).Agrees := ⟨e, rfl, h⟩

theorem XrootdVerdict.agrees_ite {p : Prop} [Decidable p] {left right : XrootdVerdict} (hleft : left.Agrees) (hright : right.Agrees) :
    (if p then left else right).Agrees := by
  split
  · exact hleft
  · exact hright

open XrootdVerdict in
theorem stagedVerdict_agrees (token : CString) (response : Json) (errorText path : CString) :
    (stagedVerdict jsonC token response errorText path).Agrees := by
  have hmissing : ENOENT ≠ EAGAIN := by decide
  have hmessage : ENOMSG ≠ EAGAIN := by decide
  apply agrees_ite (agrees_failed hmissing)
  apply agrees_ite agrees_done
  apply agrees_ite (agrees_failed hmessage)
  apply agrees_ite (agrees_failed hmessage)
  apply agrees_ite (agrees_failed hmessage)
  apply agrees_ite (agrees_failed hmessage)
  exact ⟨_, rfl, rfl⟩

open XrootdVerdict in
theorem archivedVerdict_agrees (response : Json) (errorText path : CString) :
    (archivedVerdict jsonC response errorText path).Agrees := by
  have hmissing : ENOENT ≠ EAGAIN := by decide
  have hmessage : ENOMSG ≠ EAGAIN := by decide
  apply agrees_ite (agrees_failed hmissing)
  apply agrees_ite agrees_done
  apply agrees_ite (agrees_failed hmessage)
  exact ⟨_, rfl, rfl⟩

theorem XrootdPoll.rest_agrees (poll : XrootdPoll) (response : Json) (errorText path : CString) :
    (poll.rest jsonC response errorText path).Agrees := by
  cases poll with
  | bringOnline token => exact stagedVerdict_agrees token response errorText path
  | archive uuid => exact archivedVerdict_agrees response errorText path

open XrootdVerdict in
theorem verdictOf_agrees (poll : XrootdPoll) (response : Json) : (verdictOf jsonC (poll.rest jsonC) paths jsonresp response).Agrees := by
  have hmessage : ENOMSG ≠ EAGAIN := by decide
  apply agrees_ite (agrees_failed hmessage)
  apply agrees_ite (agrees_failed hmessage)
  apply agrees_ite (agrees_failed hmessage)
  exact poll.rest_agrees _ _ _

/-- A response is read to its end, or the path it is about is missing. -/
theorem readResponse_eq (response : Json) : (readResponse jsonC rest paths jsonresp response : Exec S Fault XrootdVerdict) =
    if PathMissing jsonC response then Exec.fault .outOfRange else pure (verdictOf jsonC rest paths jsonresp response) := by
  unfold readResponse readPath verdictOf
  by_cases hnull : (response matches .null) = true
  · have habsent : presentMember response (lit "error_text") = none := by
      cases response with
      | null => rfl
      | _ => cases hnull
    rw [if_pos hnull, if_pos hnull, if_neg fun h : PathMissing jsonC response => by simp [PathMissing, habsent] at h]
    rfl
  · rw [if_neg hnull, if_neg hnull]
    cases htext : presentMember response (lit "error_text") with
    | none =>
        rw [if_neg fun h : PathMissing jsonC response => by simp [PathMissing, htext] at h]
        rfl
    | some text =>
        by_cases hpath : textMember jsonC response (lit "path") = []
        · have hmissing : PathMissing jsonC response := ⟨htext ▸ rfl, hpath⟩
          rw [if_pos hmissing, hpath]
          rfl
        · rw [if_neg fun h : PathMissing jsonC response => hpath h.2, if_neg (by simp)]
          simp only [collapseSlashes_eq hpath, pure_bind]
          rw [responsePath]
          split
          · rfl
          · rfl

theorem readResponses_of_missing (h : ∃ response ∈ responses, PathMissing jsonC response) (counts : PollCounts) :
    (readResponses jsonC rest paths jsonresp responses counts : Exec S Fault _) = Exec.fault .outOfRange := by
  induction responses generalizing counts with
  | nil => simp at h
  | cons response responses ih =>
      rw [readResponses, readResponse_eq]
      by_cases hhead : PathMissing jsonC response
      · rw [if_pos hhead]
        rfl
      · rw [if_neg hhead, pure_bind, ih]
        · rfl
        · obtain ⟨missing, hmem, hmissing⟩ := h
          rcases List.mem_cons.mp hmem with rfl | hmem
          · exact absurd hmissing hhead
          · exact ⟨missing, hmem, hmissing⟩

/-- The loop counts the responses as they are read, and leaves their errors. -/
theorem readResponses_eq (h : ∀ response ∈ responses, ¬PathMissing jsonC response) (counts : PollCounts) :
    (readResponses jsonC rest paths jsonresp responses counts : Exec S Fault _) =
      pure (⟨counts.done + (countStatuses (responses.map fun response => (verdictOf jsonC rest paths jsonresp response).status)).done,
        counts.error + (countStatuses (responses.map fun response => (verdictOf jsonC rest paths jsonresp response).status)).error⟩,
        responses.map fun response => (verdictOf jsonC rest paths jsonresp response).error) := by
  induction responses generalizing counts with
  | nil => simp [readResponses, countStatuses]
  | cons response responses ih =>
      obtain ⟨hhead, htail⟩ := List.forall_mem_cons.mp h
      rw [readResponses, readResponse_eq, if_neg hhead, pure_bind, ih htail, pure_bind]
      simp only [List.map_cons, countStatuses_cons]

end Runs

section Polled

variable {xrd : XrdQueries} {jsonC : JsonC} {context : XrootdContext} {urls : List CString} {poll : XrootdPoll} {jsonresp : CString}
  {S : Type} {document : Json}

theorem collapsedPaths_eq (h : ∀ url ∈ urls, xrd.path (prepareUrl context url) ≠ []) :
    (collapsedPaths xrd context urls : Exec S Fault _) = pure (urls.map (filePath xrd context)) := by
  induction urls with
  | nil => rfl
  | cons url urls ih =>
      obtain ⟨hhead, htail⟩ := List.forall_mem_cons.mp h
      rw [collapsedPaths, collapseSlashes_eq hhead, pure_bind, ih htail, pure_bind]
      rfl

theorem collapsedPaths_of_missing (h : ∃ url ∈ urls, xrd.path (prepareUrl context url) = []) :
    (collapsedPaths xrd context urls : Exec S Fault _) = Exec.fault .outOfRange := by
  induction urls with
  | nil => simp at h
  | cons url urls ih =>
      rw [collapsedPaths]
      by_cases hhead : xrd.path (prepareUrl context url) = []
      · rw [hhead]
        rfl
      · rw [collapseSlashes_eq hhead, pure_bind, ih]
        · rfl
        · obtain ⟨missing, hmem, hmissing⟩ := h
          rcases List.mem_cons.mp hmem with rfl | hmem
          · exact absurd hmissing hhead
          · exact ⟨missing, hmem, hmissing⟩

theorem XrootdPoll.run_eq (poll : XrootdPoll) (jsonC : JsonC) (hne : urls ≠ [])
    (h : ∀ url ∈ urls, xrd.path (prepareUrl context url) ≠ []) :
    (poll.run xrd jsonC context urls : Exec S Fault _) = match poll.answer xrd context urls with
      | .error status => pure (-1, urls.map fun _ => some (xrootdError status.errno status.text))
      | .ok jsonresp => readAnswer jsonC (poll.rest jsonC) poll.mismatchText poll.id (urls.map (filePath xrd context)) jsonresp := by
  have hrun : (poll.run xrd jsonC context urls : Exec S Fault _) =
      pollUnder xrd jsonC context (poll.rest jsonC) poll.mismatchText poll.id urls := by
    cases poll with
    | bringOnline token => rfl
    | archive uuid => rfl
  rw [hrun, pollUnder, if_neg hne, collapsedPaths_eq h, pure_bind]
  rfl

theorem XrootdPoll.run_of_missing (poll : XrootdPoll) (jsonC : JsonC) (hne : urls ≠ [])
    (h : ∃ url ∈ urls, xrd.path (prepareUrl context url) = []) :
    (poll.run xrd jsonC context urls : Exec S Fault _) = Exec.fault .outOfRange := by
  have hrun : (poll.run xrd jsonC context urls : Exec S Fault _) =
      pollUnder xrd jsonC context (poll.rest jsonC) poll.mismatchText poll.id urls := by
    cases poll with
    | bringOnline token => rfl
    | archive uuid => rfl
  rw [hrun, pollUnder, if_neg hne, collapsedPaths_of_missing h]
  rfl

/-- An answer with as many responses as there are files is read. -/
theorem readAnswer_eq {paths : List CString} {text : CString}
    (h : poll.Answers jsonC (jsonC.tokenerParse jsonresp) responses) (hlength : responses.length = paths.length) :
    (readAnswer jsonC (poll.rest jsonC) text poll.id paths jsonresp : Exec S Fault _) = (do
      let (counts, errors) ← readResponses jsonC (poll.rest jsonC) paths jsonresp responses {}
      return (pollResult paths.length counts, errors)) := by
  have hnull : ¬(jsonC.tokenerParse jsonresp matches .null) = true := by
    intro hnull
    have hresponses := h.responses
    cases hdocument : jsonC.tokenerParse jsonresp with
    | null =>
        rw [hdocument] at hresponses
        cases hresponses
    | _ =>
        rw [hdocument] at hnull
        cases hnull
  have hid : ¬(textMember jsonC (jsonC.tokenerParse jsonresp) (lit "request_id") = [] ∨
      textMember jsonC (jsonC.tokenerParse jsonresp) (lit "request_id") ≠ poll.id) := by
    rw [h.id]
    simpa using h.named
  rw [readAnswer]
  dsimp only
  rw [if_neg hnull, if_neg hid, answerResponses, h.responses]
  simp only [jsonArrayItems, pure_bind]
  rw [if_neg (not_not_intro hlength)]

/-- An answer under another id is refused, and so is one with another number of responses; one whose responses are no array
is a failed assertion. -/
theorem readAnswer_cases (poll : XrootdPoll) (jsonC : JsonC) {paths : List CString} (hne : paths ≠ []) (text jsonresp : CString) :
    (∃ reason, (readAnswer jsonC (poll.rest jsonC) text poll.id paths jsonresp : Exec S Fault _) =
      pure (-1, paths.map fun _ => some (xrootdError ENOMSG reason)) ∧
      (textMember jsonC (jsonC.tokenerParse jsonresp) (lit "request_id") = poll.id → poll.id ≠ [] →
        ∀ found, presentMember (jsonC.tokenerParse jsonresp) (lit "responses") = some found →
          ∃ responses, found = .array responses ∧ responses.length ≠ paths.length ∧ reason = text)) ∨
    (∃ found, textMember jsonC (jsonC.tokenerParse jsonresp) (lit "request_id") = poll.id ∧ poll.id ≠ [] ∧
      presentMember (jsonC.tokenerParse jsonresp) (lit "responses") = some found ∧ (∀ responses, found ≠ .array responses) ∧
      (readAnswer jsonC (poll.rest jsonC) text poll.id paths jsonresp : Exec S Fault _) = Exec.fault .assertion) ∨
    ∃ responses, poll.Answers jsonC (jsonC.tokenerParse jsonresp) responses ∧ responses.length = paths.length := by
  rw [readAnswer]
  dsimp only
  by_cases hnull : (jsonC.tokenerParse jsonresp matches .null) = true
  · refine .inl ⟨_, if_pos hnull, fun _ _ found hfound => ?_⟩
    cases hdocument : jsonC.tokenerParse jsonresp with
    | null =>
        rw [hdocument] at hfound
        cases hfound
    | _ =>
        rw [hdocument] at hnull
        cases hnull
  rw [if_neg hnull]
  by_cases hid : textMember jsonC (jsonC.tokenerParse jsonresp) (lit "request_id") = [] ∨
      textMember jsonC (jsonC.tokenerParse jsonresp) (lit "request_id") ≠ poll.id
  · refine .inl ⟨_, if_pos hid, fun hsame hnamed => ?_⟩
    rw [hsame] at hid
    exact absurd hid (by simpa using hnamed)
  rw [if_neg hid]
  obtain ⟨hnamed, hsame⟩ := not_or.mp hid
  have hsame := not_not.mp hsame
  rw [hsame] at hnamed
  cases hfound : presentMember (jsonC.tokenerParse jsonresp) (lit "responses") with
  | none =>
      refine .inl ⟨text, ?_, fun _ _ found h => by cases h⟩
      · have hlength : ([] : List Json).length ≠ paths.length := fun h => hne (List.length_eq_zero_iff.mp h.symm)
        rw [answerResponses, hfound]
        simp only [pure_bind]
        rw [if_pos hlength]
  | some found =>
      by_cases harray : ∃ responses, found = .array responses
      · obtain ⟨responses, rfl⟩ := harray
        by_cases hlength : responses.length = paths.length
        · exact .inr (.inr ⟨responses, ⟨hsame, hnamed, hfound⟩, hlength⟩)
        · refine .inl ⟨text, ?_, fun _ _ other h => ⟨responses, (Option.some.inj h).symm, hlength, rfl⟩⟩
          rw [answerResponses, hfound]
          simp only [jsonArrayItems, pure_bind]
          rw [if_pos hlength]
      · refine .inr (.inl ⟨found, hsame, hnamed, rfl, fun responses h => harray ⟨responses, h⟩, ?_⟩)
        rw [answerResponses, hfound]
        cases found with
        | array responses => exact absurd ⟨responses, rfl⟩ harray
        | _ => rfl

/-- What is read of a document does not depend on how texts are read. -/
theorem textMember_answering (jsonC : JsonC) (document answer : Json) (key : CString) :
    textMember (jsonC.answering document) answer key = textMember jsonC answer key := by
  have hstring : jsonObjectGetString (jsonC.answering document) = jsonObjectGetString jsonC := by
    funext value
    cases value with
    | bool value => cases value <;> rfl
    | _ => rfl
  rw [textMember, textMember, hstring]

theorem verdictOf_answering (poll : XrootdPoll) (jsonC : JsonC) (document : Json) :
    verdictOf (jsonC.answering document) (poll.rest (jsonC.answering document)) = verdictOf jsonC (poll.rest jsonC) := by
  have hbool : ∀ answer key, boolMember (jsonC.answering document) answer key = boolMember jsonC answer key := by
    intro answer key
    rw [boolMember, boolMember, textMember_answering]
  have hrest : poll.rest (jsonC.answering document) = poll.rest jsonC := by
    funext response errorText path
    cases poll with
    | bringOnline token => simp only [XrootdPoll.rest, stagedVerdict, hbool, textMember_answering]
    | archive uuid => simp only [XrootdPoll.rest, archivedVerdict, hbool]
  funext paths jsonresp response
  simp only [verdictOf, responsePath, hrest, textMember_answering]
  rfl

/-- What is told of the elements of a list in any order is the same of all of them. -/
theorem eq_of_map_perm {α β : Type} {f : α → β} {l : List α} (h : ∀ l', l.Perm l' → l'.map f = l.map f) :
    ∀ x ∈ l, ∀ y ∈ l, f x = f y := by
  have hhead : ∀ x ∈ l, (l.map f).head? = some (f x) := by
    intro x hx
    obtain ⟨before, after, rfl⟩ := List.append_of_mem hx
    rw [← h (x :: (before ++ after)) List.perm_middle]
    rfl
  intro x hx y hy
  exact Option.some.inj ((hhead x hx).symm.trans (hhead y hy))

theorem forall₂_of_forall {α β : Type} {R : α → β → Prop} {l : List α} {l' : List β} (hlength : l.length = l'.length)
    (h : ∀ x ∈ l, ∀ y ∈ l', R x y) : List.Forall₂ R l l' := by
  refine List.forall₂_iff_zip.mpr ⟨hlength, fun hmem => ?_⟩
  exact h _ (List.of_mem_zip hmem).1 _ (List.of_mem_zip hmem).2

/-- Under an answer that is read a poll comes to the counts and the errors of its responses. -/
theorem run_of_answers (hne : urls ≠ []) (hpaths : ∀ url ∈ urls, xrd.path (prepareUrl context url) ≠ [])
    (hanswer : poll.answer xrd context urls = .ok jsonresp) (h : poll.Answers jsonC (jsonC.tokenerParse jsonresp) responses)
    (hlength : responses.length = urls.length) : (poll.run xrd jsonC context urls : Exec Unit Fault _) =
      if ∃ response ∈ responses, PathMissing jsonC response then Exec.fault .outOfRange
      else pure (pollResult urls.length (countStatuses (responses.map fun response =>
        (verdictOf jsonC (poll.rest jsonC) (urls.map (filePath xrd context)) jsonresp response).status)),
          responses.map (poll.errorOf xrd jsonC context urls jsonresp)) := by
  have hlength' : responses.length = (urls.map (filePath xrd context)).length := by rw [List.length_map, hlength]
  rw [XrootdPoll.run_eq poll jsonC hne hpaths, hanswer]
  dsimp only
  rw [readAnswer_eq h hlength', List.length_map]
  by_cases hmissing : ∃ response ∈ responses, PathMissing jsonC response
  · rw [if_pos hmissing, readResponses_of_missing hmissing]
    rfl
  · rw [if_neg hmissing, readResponses_eq (fun response hmem h => hmissing ⟨response, hmem, h⟩), pure_bind]
    have hcounts : ∀ counts : PollCounts, (⟨({} : PollCounts).done + counts.done, ({} : PollCounts).error + counts.error⟩ : PollCounts) =
        counts := by
      intro counts
      obtain ⟨done, error⟩ := counts
      simp
    dsimp only
    rw [hcounts]
    rfl

/-- An answer with another number of responses is refused. -/
theorem run_of_mismatch (hne : urls ≠ []) (hpaths : ∀ url ∈ urls, xrd.path (prepareUrl context url) ≠ [])
    (hanswer : poll.answer xrd context urls = .ok jsonresp) (h : poll.Answers jsonC (jsonC.tokenerParse jsonresp) responses)
    (hlength : responses.length ≠ urls.length) :
    (poll.run xrd jsonC context urls : Exec Unit Fault _) = pure (-1, urls.map fun _ => some (xrootdError ENOMSG poll.mismatchText)) := by
  have hlist : urls.map (filePath xrd context) ≠ [] := by simpa using hne
  rw [XrootdPoll.run_eq poll jsonC hne hpaths, hanswer]
  dsimp only
  rcases readAnswer_cases (S := Unit) poll jsonC hlist poll.mismatchText jsonresp with
    ⟨reason, hrefused, hreason⟩ | ⟨found, -, -, hfound, hother, -⟩ | ⟨others, hothers, hsame⟩
  · obtain ⟨-, -, -, rfl⟩ := hreason h.id h.named _ h.responses
    rw [hrefused, List.map_map]
    rfl
  · cases hfound.symm.trans h.responses
    exact absurd rfl (hother responses)
  · cases hothers.responses.symm.trans h.responses
    exact absurd (hsame.trans (List.length_map _)) hlength

/-- A document that is an answer is one where every answer reads as it. -/
theorem answers_answering (h : poll.Answers jsonC document responses) :
    poll.Answers (jsonC.answering document) ((jsonC.answering document).tokenerParse jsonresp) responses :=
  ⟨(textMember_answering jsonC document document (lit "request_id")).trans h.id, h.named, h.responses⟩

/-- The same with another document for the answer. -/
theorem run_answering (hne : urls ≠ [])
    (hpaths : ∀ url ∈ urls, xrd.path (prepareUrl context url) ≠ []) (hanswer : poll.answer xrd context urls = .ok jsonresp)
    (h : poll.Answers jsonC document responses) (hlength : responses.length = urls.length) :
    (poll.run xrd (jsonC.answering document) context urls : Exec Unit Fault _) =
      if ∃ response ∈ responses, PathMissing jsonC response then Exec.fault .outOfRange
      else pure (pollResult urls.length (countStatuses (responses.map fun response =>
        (verdictOf jsonC (poll.rest jsonC) (urls.map (filePath xrd context)) jsonresp response).status)),
          responses.map (poll.errorOf xrd jsonC context urls jsonresp)) := by
  rw [run_of_answers hne hpaths hanswer (answers_answering h) hlength, verdictOf_answering]
  have herror : poll.errorOf xrd (jsonC.answering document) context urls jsonresp = poll.errorOf xrd jsonC context urls jsonresp := by
    funext response
    rw [XrootdPoll.errorOf, XrootdPoll.errorOf, verdictOf_answering]
  have hmissing : (∃ response ∈ responses, PathMissing (jsonC.answering document) response) ↔
      ∃ response ∈ responses, PathMissing jsonC response := by
    simp only [PathMissing, textMember_answering]
  rw [herror]
  exact if_congr hmissing rfl rfl

/-- The statuses of the responses agree with their errors, and the value tells them. -/
theorem pollSound_of_answers (poll : XrootdPoll) (jsonC : JsonC) (paths : List CString) (jsonresp : CString)
    (hne : responses ≠ []) : PollSound (responses.map fun response => (verdictOf jsonC (poll.rest jsonC) paths jsonresp response).status)
      (pollResult responses.length (countStatuses (responses.map fun response =>
        (verdictOf jsonC (poll.rest jsonC) paths jsonresp response).status)))
      (responses.map fun response => (verdictOf jsonC (poll.rest jsonC) paths jsonresp response).error) := by
  have hvalue : PollValue (responses.map fun response => (verdictOf jsonC (poll.rest jsonC) paths jsonresp response).status) _ :=
    pollResult_countStatuses (by simpa using hne)
  rw [List.length_map] at hvalue
  refine ⟨hvalue, ?_⟩
  rw [List.forall₂_map_left_iff, List.forall₂_map_right_iff, List.forall₂_same]
  exact fun response _ => verdictOf_agrees poll response

/-- An answer that is refused has failed for all files. -/
theorem pollSound_refused (hne : urls ≠ []) (e : GError) (hcode : e.code ≠ EAGAIN) :
    PollSound (urls.map fun _ => .failed) (-1) (urls.map fun _ => some e) := by
  refine ⟨⟨?_, ?_, ?_, ?_⟩, ?_⟩
  · refine iff_of_false (by decide) fun hall => ?_
    obtain ⟨url, hurl⟩ := List.exists_mem_of_ne_nil urls hne
    exact FileStatus.noConfusion (hall .failed (List.mem_map_of_mem hurl))
  · exact iff_of_true rfl fun s hs => by simpa using (List.mem_map.mp hs).choose_spec.2.symm
  · exact iff_of_false (by decide) fun hmem => by simp at hmem
  · exact iff_of_false (by decide) fun hmem => by simp at hmem
  · rw [List.forall₂_map_left_iff, List.forall₂_map_right_iff, List.forall₂_same]
    exact fun _ _ => ⟨e, rfl, hcode⟩

/-- The documents with these responses in any order are answers to the same poll. -/
theorem exists_answer (h : poll.Answers jsonC document responses) (responses' : List Json) :
    ∃ document', poll.Answers jsonC document' responses' := by
  have hid := h.id
  rw [textMember] at hid
  cases hfound : presentMember document (lit "request_id") with
  | none =>
      rw [hfound] at hid
      exact absurd hid.symm h.named
  | some found =>
      have hpresent : (some found).filter (fun value => ¬(value matches .null)) = some found := by
        have hfilter := hfound
        rw [presentMember, Option.filter_eq_some_iff] at hfilter
        exact Option.filter_eq_some_iff.mpr ⟨rfl, hfilter.2⟩
      refine ⟨.object [(lit "request_id", found), (lit "responses", .array responses')], ?_, h.named, rfl⟩
      rw [← hid, hfound]
      change ((Option.filter _ (some found)).bind _).getD [] = _
      rw [hpresent]

namespace XrootdPoll

theorem clear_of_attributes (h : poll.Attributes xrd jsonC context urls) : poll.Clear xrd jsonC context urls := by
  by_cases hne : urls = []
  · exact .inl hne
  obtain ⟨ret, errors, hrun, -, hsound⟩ := h
  have hpaths : ∀ url ∈ urls, xrd.path (prepareUrl context url) ≠ [] := by
    intro url hurl hmissing
    rw [run_of_missing poll jsonC hne ⟨url, hurl, hmissing⟩] at hrun
    cases hrun
  refine .inr ⟨hpaths, fun jsonresp hanswer hid hnamed found hfound => ?_⟩
  have harray : ∃ responses, found = .array responses := by
    have hread := run_eq (S := Unit) poll jsonC hne hpaths
    rw [hanswer] at hread
    have hlist : urls.map (filePath xrd context) ≠ [] := by simpa using hne
    cases found with
    | array responses => exact ⟨responses, rfl⟩
    | _ =>
        rcases readAnswer_cases (S := Unit) poll jsonC hlist poll.mismatchText jsonresp with
          ⟨_, -, hlength⟩ | ⟨other, -, -, -, -, hfault⟩ | ⟨responses, hanswers, -⟩
        · obtain ⟨responses, heq, -⟩ := hlength hid hnamed _ hfound
          exact ⟨responses, heq⟩
        · rw [hread] at hrun
          dsimp only at hrun
          rw [hfault] at hrun
          cases hrun
        · cases hfound.symm.trans hanswers.responses
  obtain ⟨responses, rfl⟩ := harray
  have hanswers : poll.Answers jsonC (jsonC.tokenerParse jsonresp) responses := ⟨hid, hnamed, hfound⟩
  obtain ⟨htold, hperm⟩ := (hsound jsonresp hne hanswer).2 responses hanswers
  refine ⟨responses, rfl, fun hlength => ?_, fun hlength url hurl => ?_⟩
  case refine_2 =>
    rw [run_of_mismatch hne hpaths hanswer hanswers hlength] at hrun
    cases hrun
    rw [List.forall₂_map_right_iff, List.forall₂_same] at htold
    exact (htold url hurl).imp_right And.left
  have hcomes := run_of_answers hne hpaths hanswer hanswers hlength
  have hpresent : ¬∃ response ∈ responses, PathMissing jsonC response := by
    intro hmissing
    rw [hcomes, if_pos hmissing] at hrun
    cases hrun
  rw [hcomes, if_neg hpresent] at hrun
  cases hrun
  have hsame : ∀ x ∈ responses, ∀ y ∈ responses,
      poll.errorOf xrd jsonC context urls jsonresp x = poll.errorOf xrd jsonC context urls jsonresp y := by
    refine eq_of_map_perm fun responses' hresponses' => ?_
    obtain ⟨document, hdocument⟩ := exists_answer hanswers responses'
    have hrun' := hperm document responses' hdocument hresponses'
    have hpresent' : ¬∃ response ∈ responses', PathMissing jsonC response := by
      rintro ⟨response, hmem, hmissing⟩
      exact hpresent ⟨response, hresponses'.mem_iff.mpr hmem, hmissing⟩
    rw [run_answering hne hpaths hanswer hdocument (hresponses'.length_eq.symm.trans hlength), if_neg hpresent'] at hrun'
    exact (Prod.mk.inj (ok_inj hrun').1).2
  refine ⟨fun response hmem hmissing => hpresent ⟨response, hmem, hmissing⟩, hsame, fun response hmem hnone url hurl => ?_⟩
  obtain ⟨hlengths, hzip⟩ := List.forall₂_iff_get.mp htold
  obtain ⟨i, rfl⟩ := List.mem_iff_get.mp hurl
  have hi : i.val < responses.length := by rw [hlength]; exact i.isLt
  have hi' : i.val < (responses.map (poll.errorOf xrd jsonC context urls jsonresp)).length := by rwa [List.length_map]
  rcases hzip i.val i.isLt hi' with ⟨other, hother, hpath, -⟩ | ⟨-, hsome⟩
  · exact ⟨other, hother, hpath⟩
  · -- no response has the path of the file, but its error is that of all responses, and they have none
    rw [List.get_eq_getElem, List.getElem_map, hsame _ (List.getElem_mem hi) response hmem, hnone] at hsome
    cases hsome

/-- A poll that is clear comes to an end that tells each file of its response. -/
theorem attributes_of_clear (h : poll.Clear xrd jsonC context urls) : poll.Attributes xrd jsonC context urls := by
  rcases h with rfl | ⟨hpaths, hclear⟩
  · refine ⟨1, [], ?_, fun _ => rfl, fun _ hne => absurd rfl hne⟩
    cases poll with
    | bringOnline token => rfl
    | archive uuid => rfl
  by_cases hne : urls = []
  · subst hne
    refine ⟨1, [], ?_, fun _ => rfl, fun _ hne => absurd rfl hne⟩
    cases poll with
    | bringOnline token => rfl
    | archive uuid => rfl
  have hread := run_eq (S := Unit) poll jsonC hne hpaths
  cases hanswer : poll.answer xrd context urls with
  | error status =>
      rw [hanswer] at hread
      exact ⟨_, _, congrFun hread (), fun hnil => absurd hnil hne, fun _ _ h => by cases hanswer.symm.trans h⟩
  | ok jsonresp =>
      rw [hanswer] at hread
      have hlist : urls.map (filePath xrd context) ≠ [] := by simpa using hne
      rcases readAnswer_cases (S := Unit) poll jsonC hlist poll.mismatchText jsonresp with
        ⟨reason, hrefused, hlength⟩ | ⟨found, hid, hnamed, hfound, hother, -⟩ | ⟨responses, hanswers, hlength⟩
      · refine ⟨_, _, congrFun (hread.trans hrefused) (), fun hnil => absurd hnil hne, fun other _ h => ?_⟩
        obtain rfl := Except.ok.inj (hanswer.symm.trans h)
        rw [List.map_map]
        refine ⟨⟨_, pollSound_refused hne _ (by decide : ENOMSG ≠ EAGAIN)⟩, fun responses hanswers => ?_⟩
        obtain ⟨others, heq, hother, rfl⟩ := hlength hanswers.id hanswers.named _ hanswers.responses
        cases heq
        rw [List.length_map] at hother
        obtain ⟨cleared, heq, -, hcleared⟩ := hclear jsonresp hanswer hanswers.id hanswers.named _ hanswers.responses
        cases heq
        refine ⟨?_, fun document responses' hanswers' hperm => ?_⟩
        · rw [List.forall₂_map_right_iff, List.forall₂_same]
          exact fun url hurl => (hcleared hother url hurl).imp_right fun hnone => ⟨hnone, rfl⟩
        · rw [run_of_mismatch hne hpaths hanswer (answers_answering hanswers') (by rwa [← hperm.length_eq])]
          rfl
      · obtain ⟨responses, heq, -⟩ := hclear jsonresp hanswer hid hnamed found hfound
        exact absurd heq (hother responses)
      · rw [List.length_map] at hlength
        obtain ⟨others, heq, hresponses, -⟩ := hclear jsonresp hanswer hanswers.id hanswers.named _ hanswers.responses
        cases heq
        have hresponses := hresponses hlength
        have hsome : responses ≠ [] := fun hnil => hne (List.length_eq_zero_iff.mp (by rw [← hlength, hnil]; rfl))
        have hpresent : ¬∃ response ∈ responses, PathMissing jsonC response := fun ⟨response, hmem, h⟩ => hresponses.present response hmem h
        have hrun := run_of_answers hne hpaths hanswer hanswers hlength
        rw [if_neg hpresent] at hrun
        refine ⟨_, _, congrFun hrun (), fun hnil => absurd hnil hne, fun other _ h => ?_⟩
        obtain rfl := Except.ok.inj (hanswer.symm.trans h)
        refine ⟨⟨_, hlength ▸ pollSound_of_answers poll jsonC _ jsonresp hsome⟩, fun others hanswers' => ?_⟩
        cases hanswers.responses.symm.trans hanswers'.responses
        refine ⟨forall₂_of_forall (by rw [List.length_map, hlength]) fun url hurl error herror => ?_, fun document responses' h hperm => ?_⟩
        · obtain ⟨response, hmem, rfl⟩ := List.mem_map.mp herror
          by_cases htold : ∃ other ∈ responses, responsePath jsonC other = filePath xrd context url
          · obtain ⟨other, hother, hpath⟩ := htold
            exact .inl ⟨other, hother, hpath, hresponses.same other hother response hmem⟩
          · refine .inr ⟨fun other hother hpath => htold ⟨other, hother, hpath⟩, ?_⟩
            rw [Option.isSome_iff_ne_none]
            exact fun hnone => htold (hresponses.done response hmem hnone url hurl)
        · have hpresent' : ¬∃ response ∈ responses', PathMissing jsonC response := by
            rintro ⟨response, hmem, hmissing⟩
            exact hpresent ⟨response, hperm.mem_iff.mpr hmem, hmissing⟩
          have hcounts : ∀ status : Json → FileStatus, countStatuses (responses'.map status) = countStatuses (responses.map status) := by
            intro status
            rw [countStatuses, countStatuses, (hperm.map status).count_eq, (hperm.map status).count_eq]
          have herrors : responses'.map (poll.errorOf xrd jsonC context urls jsonresp) =
              responses.map (poll.errorOf xrd jsonC context urls jsonresp) := by
            obtain ⟨first, hfirst⟩ := List.exists_mem_of_ne_nil responses hsome
            rw [List.map_congr_left fun other hother => hresponses.same other (hperm.mem_iff.mpr hother) first hfirst,
              List.map_congr_left fun other hother => hresponses.same other hother first hfirst, List.map_const', List.map_const',
              hperm.length_eq]
          rw [run_answering hne hpaths hanswer h (hperm.length_eq.symm.trans hlength), if_neg hpresent', hcounts, herrors]
          rfl

end XrootdPoll

/-- A poll tells each file of its response, in whatever order the responses stand, just when it is clear. -/
theorem XrootdPoll.attributes_iff_clear (poll : XrootdPoll) (xrd : XrdQueries) (jsonC : JsonC) (context : XrootdContext)
    (urls : List CString) : poll.Attributes xrd jsonC context urls ↔ poll.Clear xrd jsonC context urls :=
  ⟨clear_of_attributes, attributes_of_clear⟩

end Polled

/-! ### A poll that is answered in another order -/

/-- The answer to a poll of two files that exist, in the order of their responses. -/
def stagedAnswer (responses : List Json) : Json :=
  .object [(lit "request_id", .string (lit "token")), (lit "responses", .array responses)]

/-- A response for a file that is there, and online or not. -/
def stagedResponse (path : CString) (online : Bool) : Json :=
  .object [(lit "path", .string path), (lit "error_text", .string []), (lit "path_exists", .bool true), (lit "online", .bool online),
    (lit "requested", .bool false)]

/-- XRootD that takes what follows the host for the path. -/
def answeringXrootd : XrdQueries where
  path url := (url.drop (lit "root://h/").length)
  pathWithParams url := url
  endpoint url := url
  queryPrepare _ _ := .ok (lit "answer")

/-- json-c that reads every answer as the document. -/
def readingJson (document : Json) : JsonC := ⟨fun _ => document, fun _ => []⟩

/-- An answer in another order leaves the errors with the other files, and one without the path of its file is read past the end of
an empty text. -/
theorem responses_told_by_place : ¬(XrootdPoll.bringOnline (lit "token")).Attributes answeringXrootd
      (readingJson (stagedAnswer [stagedResponse (lit "/b") true, stagedResponse (lit "/a") false])) {} [lit "root://h//a", lit "root://h//b"] ∧
    ¬(XrootdPoll.bringOnline (lit "token")).Attributes answeringXrootd
      (readingJson (stagedAnswer [.object [(lit "error_text", .string [])]])) {} [lit "root://h//a"] := by
  constructor
  · intro h
    rcases XrootdPoll.clear_of_attributes h with hnil | ⟨-, hclear⟩
    · cases hnil
    obtain ⟨responses, heq, hresponses, -⟩ := hclear _ rfl (by decide +kernel) (by decide) _ rfl
    cases heq
    have hsame := (hresponses rfl).same _ List.mem_cons_self _ (List.mem_cons_of_mem _ List.mem_cons_self)
    revert hsame
    decide +kernel
  · intro h
    rcases XrootdPoll.clear_of_attributes h with hnil | ⟨-, hclear⟩
    · cases hnil
    obtain ⟨responses, heq, hresponses, -⟩ := hclear _ rfl (by decide +kernel) (by decide) _ rfl
    cases heq
    exact (hresponses rfl).present _ List.mem_cons_self (by decide +kernel)

end Gfal2
