import Gfal2.TapeRestApi
import Mathlib.Data.List.Count
import Mathlib.Data.List.Perm.Basic

/-! What the polls of the Tape REST API report of a response that is well formed. Each file has a status, and
the value and the errors of a poll are compared with the statuses of all of its files. The loop counts a file
that is reported as unavailable among the errors, though its error says that it is still in progress. -/

namespace Gfal2

open Base Exec

/-! ### Statuses -/

/-- How far a file is. -/
inductive FileStatus where
  | done | inProgress | failed
  deriving DecidableEq

def FileStatus.Agrees : FileStatus → Option GError → Prop
  | .done, error => error = none
  | .inProgress, error => ∃ e, error = some e ∧ e.code = EAGAIN
  | .failed, error => ∃ e, error = some e ∧ e.code ≠ EAGAIN

/-- The value of a poll says how far its files are together. -/
structure PollValue (statuses : List FileStatus) (ret : Int) : Prop where
  done : ret = 1 ↔ ∀ s ∈ statuses, s = .done
  failed : ret = -1 ↔ ∀ s ∈ statuses, s = .failed
  terminal : ret = 2 ↔ .inProgress ∉ statuses ∧ .done ∈ statuses ∧ .failed ∈ statuses
  inProgress : ret = 0 ↔ .inProgress ∈ statuses

/-- The value says it of all files, and the errors of each. -/
structure PollSound (statuses : List FileStatus) (ret : Int) (errors : ErrorList) : Prop
    extends PollValue statuses ret where
  errors : List.Forall₂ FileStatus.Agrees statuses errors

/-- The counters of a loop over files with these statuses. -/
def countStatuses (statuses : List FileStatus) : PollCounts :=
  ⟨statuses.count .done, statuses.count .failed⟩

theorem count_statuses (statuses : List FileStatus) :
    statuses.count .done + statuses.count .failed + statuses.count .inProgress = statuses.length := by
  induction statuses with
  | nil => rfl
  | cons s rest ih => cases s <;> simp <;> omega

theorem count_eq_length_iff (s : FileStatus) (statuses : List FileStatus) :
    statuses.count s = statuses.length ↔ ∀ t ∈ statuses, t = s := by
  rw [List.count_eq_length]
  exact forall₂_congr fun _ _ => eq_comm

/-- The value of a poll tells the statuses that were counted. -/
theorem pollResult_countStatuses {statuses : List FileStatus} (hne : statuses ≠ []) :
    PollValue statuses (pollResult statuses.length (countStatuses statuses)) := by
  have hsum := count_statuses statuses
  have hpos : 0 < statuses.length := List.length_pos_iff.mpr hne
  have hdone := count_eq_length_iff .done statuses
  have hfailed := count_eq_length_iff .failed statuses
  have hmem : ∀ s, s ∈ statuses ↔ 0 < statuses.count s := fun s => List.count_pos_iff.symm
  have hvalue : pollResult statuses.length (countStatuses statuses) =
      if statuses.count .done = statuses.length then 1
      else if statuses.count .failed = statuses.length then -1
      else if statuses.count .inProgress = 0 then 2
      else 0 := by
    unfold pollResult countStatuses
    dsimp only
    omega
  rw [hvalue]
  constructor
  · rw [← hdone]
    omega
  · rw [← hfailed]
    omega
  · rw [hmem, hmem, hmem]
    omega
  · rw [hmem]
    omega

/-- A poll that returns 0 is right while a file is in progress. -/
theorem pollValue_zero {statuses : List FileStatus} (h : .inProgress ∈ statuses) : PollValue statuses 0 where
  done := iff_of_false (by decide) fun hall => FileStatus.noConfusion (hall _ h)
  failed := iff_of_false (by decide) fun hall => FileStatus.noConfusion (hall _ h)
  terminal := iff_of_false (by decide) fun hnot => hnot.1 h
  inProgress := iff_of_true rfl h

/-! ### Responses that are well formed -/

def memberText (jsonC : JsonC) (item : Json) (key : CString) : Option CString :=
  (item.member key).bind (jsonObjectGetString jsonC)

def StringMember (item : Json) (key : CString) : Prop := ∀ value, item.member key = some value → ∃ text, value = .string text

theorem StringMember.of_none {item : Json} {key : CString} (h : item.member key = none) : StringMember item key := by
  intro value hvalue
  rw [h] at hvalue
  cases hvalue

theorem StringMember.of_string {item : Json} {key text : CString} (h : item.member key = some (.string text)) :
    StringMember item key :=
  fun _ hvalue => ⟨text, Option.some.inj (hvalue.symm.trans h)⟩

/-- An item of a response to a poll of a staging. -/
structure WellFormedStaged (item : Json) : Prop where
  error : StringMember item (lit "error")
  onDisk : ∀ value, item.member (lit "onDisk") = some value → ∃ b, value = .bool b
  state : StringMember item (lit "state")

/-- An item of a response to a poll of an archiving. -/
structure WellFormedArchived (item : Json) : Prop where
  error : StringMember item (lit "error")
  locality : StringMember item (lit "locality")

def stagingStatus (state : CString) : FileStatus :=
  if state = lit "COMPLETED" then .done
  else if state = lit "STARTED" ∨ state = lit "SUBMITTED" then .inProgress
  else .failed

def stagedStatus (jsonC : JsonC) : Option Json → FileStatus
  | none => .failed
  | some item =>
      if (item.member (lit "error")).isSome then .failed
      else
        match item.member (lit "onDisk") with
        | some (.bool onDisk) => if onDisk then .done else .inProgress
        | _ => ((memberText jsonC item (lit "state")).map stagingStatus).getD .failed

/-- The status a locality stands for, where a file that is unavailable may be available later. -/
def localityStatus (text : CString) : FileStatus :=
  if text = lit "TAPE" ∨ text = lit "DISK_AND_TAPE" then .done
  else if text = lit "DISK" ∨ text = lit "UNAVAILABLE" then .inProgress
  else .failed

/-- The status of a file that is archived, by its item and what its locality stands for. -/
def archivedBy (read : CString → FileStatus) (jsonC : JsonC) : Option Json → FileStatus
  | none => .failed
  | some item =>
      if (item.member (lit "error")).isSome then .failed
      else ((memberText jsonC item (lit "locality")).map read).getD .failed

def archivedStatus : JsonC → Option Json → FileStatus := archivedBy localityStatus

def localityCount (text : CString) : FileStatus :=
  if text = lit "UNAVAILABLE" then .failed else localityStatus text

/-- The item is reported with a locality, and without an error. -/
def Located (jsonC : JsonC) (text : CString) : Option Json → Prop
  | none => False
  | some item => item.member (lit "error") = none ∧ memberText jsonC item (lit "locality") = some text

section Items

variable {σ : Type} (davix : TapeDavix σ) (jsonC : JsonC)

/-- The item of a response that is about the path of a URL. -/
def reported (items : List Json) (url : CString) : Option Json :=
  items.find? fun item => IsAbout jsonC (davix.path url) item

def ReportedOnce (items : List Json) (urls : List CString) : Prop :=
  ∀ url ∈ urls, (items.filter fun item => IsAbout jsonC (davix.path url) item).length ≤ 1

/-- The order of the items does not matter where one of them is looked for. -/
theorem reported_perm {items items' : List Json} {urls : List CString} (h : items.Perm items')
    (honce : ReportedOnce davix jsonC items urls) {url : CString} (hurl : url ∈ urls) :
    reported davix jsonC items url = reported davix jsonC items' url := by
  unfold reported
  rw [← List.head?_filter, ← List.head?_filter]
  have hperm := h.filter fun item => IsAbout jsonC (davix.path url) item
  cases hfiltered : items.filter fun item => IsAbout jsonC (davix.path url) item with
  | nil =>
      rw [hfiltered] at hperm
      rw [List.nil_perm.mp hperm]
  | cons item rest =>
      have hlength := honce url hurl
      rw [hfiltered, List.length_cons] at hlength
      obtain rfl : rest = [] := List.length_eq_zero_iff.mp (by omega)
      rw [hfiltered] at hperm
      rw [List.singleton_perm.mp hperm]

end Items

/-! ### The loop -/

section Loop

variable {S σ : Type} (davix : TapeDavix σ) (jsonC : JsonC)

/-- The counters after one more file. -/
def PollCounts.add (counts : PollCounts) : FileStatus → PollCounts
  | .done => { counts with done := counts.done + 1 }
  | .failed => { counts with error := counts.error + 1 }
  | .inProgress => counts

/-- The poll of a file counts it as one status, and leaves an error that agrees with another. -/
def PollsAs (poll : FilePoll S) (counted status : FileStatus) (path : CString) (file : Json) : Prop :=
  ∃ error, status.Agrees error ∧ ∀ counts state, poll path file counts state = .ok ((counts.add counted, error), state)

theorem countStatuses_cons (s : FileStatus) (rest : List FileStatus) (counts : PollCounts) :
    (⟨counts.done + (countStatuses (s :: rest)).done, counts.error + (countStatuses (s :: rest)).error⟩ : PollCounts) =
      ⟨(counts.add s).done + (countStatuses rest).done, (counts.add s).error + (countStatuses rest).error⟩ := by
  cases s <;> simp [countStatuses, PollCounts.add] <;> omega

/-- The loop counts the files as their polls do, and leaves their errors. -/
theorem pollFiles_spec {poll : FilePoll S} {items : List Json} {counted status : Option Json → FileStatus}
    (urls : List CString)
    (hpoll : ∀ url ∈ urls, PollsAs poll (counted (reported davix jsonC items url)) (status (reported davix jsonC items url))
      (davix.path url) ((reported davix jsonC items url).getD .null)) :
    ∃ errors, List.Forall₂ FileStatus.Agrees (urls.map fun url => status (reported davix jsonC items url)) errors ∧
      ∀ counts state, pollFiles davix jsonC poll (.array items) urls counts state =
        .ok ((⟨counts.done + (countStatuses (urls.map fun url => counted (reported davix jsonC items url))).done,
          counts.error + (countStatuses (urls.map fun url => counted (reported davix jsonC items url))).error⟩, errors),
          state) := by
  induction urls with
  | nil => exact ⟨[], List.Forall₂.nil, fun counts state => by simp [pollFiles, countStatuses]⟩
  | cons url rest ih =>
      obtain ⟨errors, hagree, hrest⟩ := ih fun other hother => hpoll other (List.mem_cons_of_mem _ hother)
      obtain ⟨error, hone, hrun⟩ := hpoll url List.mem_cons_self
      refine ⟨error :: errors, List.Forall₂.cons hone hagree, fun counts state => ?_⟩
      rw [pollFiles, pollingGetItemByPath]
      change (poll _ _ _ >>= _ : Exec S Fault _) _ = _
      refine (bind_of_ok (hrun counts state)).trans ?_
      refine (bind_of_ok (hrest _ state)).trans ?_
      rw [List.map_cons, countStatuses_cons]
      rfl

/-- What a response is polled to depends on the items of its files alone. -/
theorem pollFiles_congr {poll : FilePoll S} {items items' : List Json} {urls : List CString}
    (h : ∀ url ∈ urls, reported davix jsonC items url = reported davix jsonC items' url) (counts : PollCounts) :
    pollFiles davix jsonC poll (.array items) urls counts = pollFiles davix jsonC poll (.array items') urls counts := by
  induction urls generalizing counts with
  | nil => rfl
  | cons url rest ih =>
      have hhead := h url List.mem_cons_self
      unfold reported at hhead
      rw [pollFiles, pollFiles, pollingGetItemByPath, pollingGetItemByPath]
      simp only [jsonArrayItems, pure_bind, hhead]
      simp only [ih fun other hother => h other (List.mem_cons_of_mem _ hother)]

end Loop

/-! ### The files of the loop -/

section Files

variable {S : Type} (jsonC : JsonC) (path : CString)

/-- An error that does not say that the file is in progress. -/
theorem failed_agrees {code : Int} (text : CString) (h : code ≠ EAGAIN) :
    FileStatus.failed.Agrees (some (tapeError code text)) := ⟨_, rfl, h⟩

theorem inProgress_agrees (text : CString) : FileStatus.inProgress.Agrees (some (tapeError EAGAIN text)) := ⟨_, rfl, rfl⟩

theorem stagingState_agrees (state : CString) : ∃ error, (stagingStatus state).Agrees error ∧
    ∀ counts, pollStagingState path state counts = (counts.add (stagingStatus state), error) := by
  unfold stagingStatus pollStagingState
  split_ifs
  · exact ⟨none, rfl, fun _ => rfl⟩
  · exact ⟨_, inProgress_agrees _, fun _ => rfl⟩
  · exact ⟨_, failed_agrees _ (by decide), fun _ => rfl⟩
  · exact ⟨_, failed_agrees _ (by decide), fun _ => rfl⟩
  · exact ⟨_, failed_agrees _ (by decide), fun _ => rfl⟩

/-- A file without an item is counted as failed. -/
theorem pollsAs_staged_none : PollsAs (S := S) (pollStagedFile jsonC) .failed .failed path .null :=
  ⟨_, failed_agrees _ (by decide), fun _ _ => rfl⟩

theorem pollsAs_staged {members : List (CString × Json)} (hformed : WellFormedStaged (.object members)) :
    PollsAs (S := S) (pollStagedFile jsonC) (stagedStatus jsonC (some (.object members)))
      (stagedStatus jsonC (some (.object members))) path (.object members) := by
  unfold PollsAs stagedStatus pollStagedFile
  dsimp only
  cases herror : (Json.object members).member (lit "error") with
  | some value =>
      obtain ⟨text, rfl⟩ := hformed.error value herror
      exact ⟨_, failed_agrees _ (by decide), fun _ _ => rfl⟩
  | none =>
      cases hdisk : (Json.object members).member (lit "onDisk") with
      | some value =>
          obtain ⟨onDisk, rfl⟩ := hformed.onDisk value hdisk
          cases onDisk with
          | true => exact ⟨none, rfl, fun _ _ => rfl⟩
          | false => exact ⟨_, inProgress_agrees _, fun _ _ => rfl⟩
      | none =>
          unfold memberText
          cases hstate : (Json.object members).member (lit "state") with
          | none => exact ⟨_, failed_agrees _ (by decide), fun _ _ => rfl⟩
          | some value =>
              obtain ⟨text, rfl⟩ := hformed.state value hstate
              obtain ⟨error, hagree, hpoll⟩ := stagingState_agrees path (text.takeWhile (· ≠ '\x00'))
              refine ⟨error, hagree, fun counts state => ?_⟩
              exact congrArg (fun answer => Except.ok (answer, state)) (hpoll counts)

theorem pollsAs_archived_none : PollsAs (S := S) (pollArchivedFile jsonC) .failed .failed path .null :=
  ⟨_, failed_agrees _ (by decide), fun _ _ => rfl⟩

/-- What is made of a locality that was read. -/
theorem locality_agrees (text : CString) : ∃ error, (localityStatus text).Agrees error ∧ ∀ (counts : PollCounts) (state : S),
      (match (readLocality path text).2 with
        | some e => pure ({ counts with error := counts.error + 1 }, some e)
        | none =>
            if (readLocality path text).1.onTape then pure ({ counts with done := counts.done + 1 }, none)
            else pure (counts, some (tapeError EAGAIN (lit "File " ++ path ++ lit " is not yet archived"))) :
        Exec S Fault (PollCounts × Option GError)) state = .ok ((counts.add (localityCount text), error), state) := by
  by_cases hknown : text = lit "TAPE" ∨ text = lit "DISK" ∨ text = lit "DISK_AND_TAPE" ∨ text = lit "LOST" ∨
      text = lit "NONE" ∨ text = lit "UNAVAILABLE"
  · rcases hknown with rfl | rfl | rfl | rfl | rfl | rfl
    · exact ⟨none, rfl, fun _ _ => rfl⟩
    · exact ⟨_, inProgress_agrees _, fun _ _ => rfl⟩
    · exact ⟨none, rfl, fun _ _ => rfl⟩
    · exact ⟨_, failed_agrees _ (by decide), fun _ _ => rfl⟩
    · exact ⟨_, failed_agrees _ (by decide), fun _ _ => rfl⟩
    · exact ⟨_, inProgress_agrees _, fun _ _ => rfl⟩
  · simp only [not_or] at hknown
    obtain ⟨htape, hdisk, hboth, hlost, hnone, hunavailable⟩ := hknown
    have hstatus : localityStatus text = .failed := by
      rw [localityStatus, if_neg (not_or.mpr ⟨htape, hboth⟩), if_neg (not_or.mpr ⟨hdisk, hunavailable⟩)]
    have hread : readLocality path text = ({}, some (tapeError ENOMSG
        (lit "File locality reported as \"" ++ text ++ lit "\" (path=" ++ path ++ lit ")"))) := by
      rw [readLocality, if_neg htape, if_neg hdisk, if_neg hboth, if_neg hlost, if_neg hnone, if_neg hunavailable]
    rw [localityCount, if_neg hunavailable, hstatus, hread]
    exact ⟨_, failed_agrees _ (by decide), fun _ _ => rfl⟩

theorem pollsAs_archived {members : List (CString × Json)} (hformed : WellFormedArchived (.object members)) :
    PollsAs (S := S) (pollArchivedFile jsonC) (archivedBy localityCount jsonC (some (.object members)))
      (archivedStatus jsonC (some (.object members))) path (.object members) := by
  unfold PollsAs archivedStatus archivedBy pollArchivedFile getFileLocality memberText
  dsimp only
  cases herror : (Json.object members).member (lit "error") with
  | some value =>
      obtain ⟨text, rfl⟩ := hformed.error value herror
      exact ⟨_, failed_agrees _ (by decide), fun _ _ => rfl⟩
  | none =>
      cases hlocality : (Json.object members).member (lit "locality") with
      | none => exact ⟨_, failed_agrees _ (by decide), fun _ _ => rfl⟩
      | some value =>
          obtain ⟨text, rfl⟩ := hformed.locality value hlocality
          exact locality_agrees path (text.takeWhile (· ≠ '\x00'))

end Files

/-! ### The polls -/

section Polls

variable {σ : Type} (davix : TapeDavix σ) (jsonC : JsonC)

/-- The storage of the first URL has a tape endpoint, and it answers the poll of a staging with these items. -/
def StageAnswered (urls : List CString) (token : CString) (items : List Json) (state : TapeState σ) : Prop :=
  token ≠ [] ∧ ∃ endpoint found content after id,
    gfalHttpDiscoverTapeEndpoint davix jsonC (urls.headD []) (lit "/stage/" ++ token) state =
      .ok (⟨endpoint, none⟩, found) ∧
    davix.get endpoint found.world = (.ok ⟨200, content⟩, after) ∧ content ≠ [] ∧
    (jsonC.tokenerParse content).member (lit "id") = some id ∧ jsonObjectGetString jsonC id = some token ∧
    (jsonC.tokenerParse content).member (lit "files") = some (.array items)

/-- The storage of the first URL has a tape endpoint, and it answers the poll of an archiving with these items. -/
def ArchiveAnswered (urls : List CString) (items : List Json) (state : TapeState σ) : Prop :=
  ∃ endpoint found content after,
    gfalHttpDiscoverTapeEndpoint davix jsonC (urls.headD []) (lit "/archiveinfo") state =
      .ok (⟨endpoint, none⟩, found) ∧
    davix.post endpoint (listFilesBody davix urls) found.world = (.ok ⟨200, content⟩, after) ∧ content ≠ [] ∧
    jsonC.tokenerParse content = .array items

/-- A poll has one result for all orders of the items it is answered with, which says how far the files are. -/
def SoundPolls (answered : List Json → TapeState σ → Prop) (poll : Tape σ (Int × ErrorList))
    (statuses : List FileStatus) (items : List Json) : Prop :=
  ∃ ret errors, PollSound statuses ret errors ∧ ∀ items', items.Perm items' → ∀ state, answered items' state →
    ∃ state', poll state = .ok ((ret, errors), state')

variable {urls : List CString} {items : List Json} {state : TapeState σ}

/-- An answered request hands back its content. -/
theorem expectStatus_of_answer {request : Callback σ (Except DavixError HttpAnswer)} {status : Int} (failed : CString)
    {content : CString} {after : σ}
    (h : request state.world = (.ok ⟨status, content⟩, after)) :
    expectStatus request status failed state = .ok (⟨content, none⟩, { state with world := after }) := by
  have hrequest : requestTape request state = .ok (.ok ⟨status, content⟩, { state with world := after }) := by
    rw [requestTape, h]
  refine (bind_of_ok hrequest).trans ?_
  dsimp only
  rw [if_neg (not_not.mpr rfl)]
  rfl

theorem exists_object_of_member {document value : Json} {key : CString} (h : document.member key = some value) :
    ∃ members, document = .object members := by
  cases document with
  | object members => exact ⟨members, rfl⟩
  | _ => cases h

/-- A response under the token is polled. -/
theorem readStagePoll_of_members {S : Type} {token : CString} {response id : Json} (htoken : token ≠ [])
    (hid : response.member (lit "id") = some id) (htext : jsonObjectGetString jsonC id = some token)
    (hfiles : response.member (lit "files") = some (.array items)) :
    readStagePoll (S := S) davix jsonC urls token response =
      pollResponse davix jsonC (pollStagedFile jsonC) (.array items) urls := by
  obtain ⟨members, rfl⟩ := exists_object_of_member hid
  unfold readStagePoll stdStringOf
  dsimp only
  rw [hid, hfiles]
  dsimp only
  rw [htext]
  dsimp only
  funext state
  change (if token = [] then _ else _ : Exec S Fault _) state = _
  rw [if_neg htoken, if_neg (not_not.mpr rfl)]

theorem stagePoll_answered {token : CString} (hurls : urls ≠ [])
    (h : StageAnswered davix jsonC urls token items state) : ∃ answered,
    gfalHttpBringOnlinePollList davix jsonC urls token state =
      pollResponse davix jsonC (pollStagedFile jsonC) (.array items) urls answered := by
  obtain ⟨htoken, endpoint, found, content, after, id, hendpoint, hanswer, hcontent, hid, htext, hfiles⟩ := h
  refine ⟨{ found with world := after }, ?_⟩
  rw [gfalHttpBringOnlinePollList, if_neg hurls, if_neg htoken]
  refine (bind_of_ok hendpoint).trans ?_
  change (expectStatus _ _ _ >>= _ : Tape σ _) _ = _
  refine (bind_of_ok (expectStatus_of_answer _ hanswer)).trans ?_
  dsimp only
  rw [if_neg hcontent, readStagePoll_of_members davix jsonC htoken hid htext hfiles]

theorem archivePoll_answered (hurls : urls ≠ []) (h : ArchiveAnswered davix jsonC urls items state) : ∃ answered,
    gfalHttpArchivePollList davix jsonC urls state =
      pollResponse davix jsonC (pollArchivedFile jsonC) (.array items) urls answered := by
  obtain ⟨endpoint, found, content, after, hendpoint, hanswer, hcontent, hitems⟩ := h
  have harchive : getArchiveinfo davix jsonC urls state = .ok (⟨content, none⟩, { found with world := after }) := by
    rw [getArchiveinfo]
    refine (bind_of_ok hendpoint).trans ?_
    change (expectStatus _ _ _ >>= _ : Tape σ _) _ = _
    refine (bind_of_ok (expectStatus_of_answer _ hanswer)).trans ?_
    dsimp only
    rw [if_neg hcontent]
    rfl
  refine ⟨{ found with world := after }, ?_⟩
  rw [gfalHttpArchivePollList, if_neg hurls]
  refine (bind_of_ok harchive).trans ?_
  dsimp only
  rw [hitems]
  rfl

/-- The result of a poll that was answered, the same for all orders of the items. -/
theorem pollResponse_spec {poll : FilePoll (TapeState σ)} {counted status : Option Json → FileStatus}
    (honce : ReportedOnce davix jsonC items urls)
    (hpoll : ∀ url ∈ urls, PollsAs poll (counted (reported davix jsonC items url)) (status (reported davix jsonC items url))
      (davix.path url) ((reported davix jsonC items url).getD .null)) :
    ∃ errors, List.Forall₂ FileStatus.Agrees (urls.map fun url => status (reported davix jsonC items url)) errors ∧
      ∀ items', items.Perm items' → ∀ state, pollResponse davix jsonC poll (.array items') urls state =
        .ok ((pollResult urls.length
          (countStatuses (urls.map fun url => counted (reported davix jsonC items url))), errors), state) := by
  obtain ⟨errors, hagree, hrun⟩ := pollFiles_spec davix jsonC urls hpoll
  refine ⟨errors, hagree, fun items' hperm state => ?_⟩
  have hsame : pollFiles davix jsonC poll (.array items') urls {} = pollFiles davix jsonC poll (.array items) urls {} :=
    pollFiles_congr davix jsonC (fun url hurl => (reported_perm davix jsonC hperm honce hurl).symm) {}
  rw [pollResponse, hsame]
  refine (bind_of_ok (hrun {} state)).trans ?_
  simp only [Int.zero_add]
  rfl

/-- Without a file nothing is polled, and the call is refused. -/
theorem not_soundPolls_nil {answered : List Json → TapeState σ → Prop} {poll : Tape σ (Int × ErrorList)}
    (hanswered : answered items state) (h : ∀ state, poll state = .ok ((-1, []), state)) :
    ¬SoundPolls answered poll [] items := by
  rintro ⟨ret, errors, hsound, hrun⟩
  obtain ⟨state', hpoll⟩ := hrun items (List.Perm.refl _) state hanswered
  rw [h] at hpoll
  cases hpoll
  exact absurd (hsound.done.mpr (by simp)) (by decide)

/-- The item of a file is one of the response. -/
theorem reported_cases (url : CString) : reported davix jsonC items url = none ∨
    ∃ members, .object members ∈ items ∧ reported davix jsonC items url = some (.object members) := by
  cases hreported : reported davix jsonC items url with
  | none => exact .inl rfl
  | some item =>
      have habout : IsAbout jsonC (davix.path url) item := by simpa using List.find?_some hreported
      have hmember : ∃ value, item.member (lit "path") = some value := by
        cases hpath : item.member (lit "path") with
        | some value => exact ⟨value, rfl⟩
        | none => exact absurd (by rw [itemPath, hpath]; rfl) habout.1
      obtain ⟨value, hvalue⟩ := hmember
      obtain ⟨members, rfl⟩ := exists_object_of_member hvalue
      exact .inr ⟨members, List.mem_of_find?_eq_some hreported, rfl⟩

/-- A poll of a staging is sound for any files. -/
theorem stagePolls_sound_iff {token : CString}
    (hformed : ∀ item ∈ items, WellFormedStaged item) (honce : ReportedOnce davix jsonC items urls)
    (hanswered : StageAnswered davix jsonC urls token items state) :
    SoundPolls (StageAnswered davix jsonC urls token) (gfalHttpBringOnlinePollList davix jsonC urls token)
      (urls.map fun url => stagedStatus jsonC (reported davix jsonC items url)) items ↔ urls ≠ [] := by
  refine ⟨fun hsound hnil => ?_, fun hurls => ?_⟩
  · subst hnil
    exact not_soundPolls_nil hanswered (fun _ => rfl) hsound
  · have hpoll : ∀ url ∈ urls, PollsAs (S := TapeState σ) (pollStagedFile jsonC)
        (stagedStatus jsonC (reported davix jsonC items url)) (stagedStatus jsonC (reported davix jsonC items url))
        (davix.path url) ((reported davix jsonC items url).getD .null) := by
      intro url _
      rcases reported_cases davix jsonC url with hnone | ⟨members, hmem, hsome⟩
      · rw [hnone]
        exact pollsAs_staged_none jsonC _
      · rw [hsome]
        exact pollsAs_staged jsonC _ (hformed _ hmem)
    obtain ⟨errors, hagree, hrun⟩ := pollResponse_spec davix jsonC honce hpoll
    refine ⟨_, errors, ⟨pollResult_countStatuses (by simpa using hurls), hagree⟩, fun items' hperm state hstate => ?_⟩
    obtain ⟨answered, hpolled⟩ := stagePoll_answered davix jsonC hurls hstate
    rw [hpolled, hrun items' hperm, List.length_map]
    exact ⟨_, rfl⟩

/-! ### Files that are unavailable -/

theorem archivedStatus_of_located {file : Option Json} {text : CString} (h : Located jsonC text file)
    (read : CString → FileStatus) : archivedBy read jsonC file = read text := by
  cases file with
  | none => exact absurd h id
  | some item =>
      obtain ⟨herror, htext⟩ := h
      simp [archivedBy, herror, htext]

/-- A file that is not reported as unavailable is counted under its status. -/
theorem archivedBy_count {file : Option Json} (h : ¬Located jsonC (lit "UNAVAILABLE") file) :
    archivedBy localityCount jsonC file = archivedStatus jsonC file := by
  cases file with
  | none => rfl
  | some item =>
      unfold archivedStatus archivedBy
      cases herror : item.member (lit "error") with
      | some value => simp [herror]
      | none =>
          cases htext : memberText jsonC item (lit "locality") with
          | none => simp [htext]
          | some text =>
              have hother : text ≠ lit "UNAVAILABLE" := fun heq => h ⟨herror, heq ▸ htext⟩
              simp [herror, htext, localityCount, hother]

/-- The loop counts a file as in progress where it is on disk only. -/
theorem archivedBy_count_inProgress {file : Option Json} (h : archivedBy localityCount jsonC file = .inProgress) :
    Located jsonC (lit "DISK") file := by
  cases file with
  | none => cases h
  | some item =>
      unfold archivedBy at h
      dsimp only at h
      cases herror : item.member (lit "error") with
      | some value =>
          rw [herror] at h
          cases h
      | none =>
          cases htext : memberText jsonC item (lit "locality") with
          | none =>
              rw [herror, htext] at h
              cases h
          | some text =>
              rw [herror, htext] at h
              simp only [Option.isSome_none, Bool.false_eq_true, if_false, Option.map_some, Option.getD_some] at h
              unfold localityCount localityStatus at h
              split_ifs at h with hunavailable htape hdisk
              exact ⟨herror, by rw [htext, hdisk.resolve_right hunavailable]⟩

/-- A poll of an archiving is sound where no file is unavailable, or where it returns 0 for another one. -/
theorem archivePolls_sound_iff (hformed : ∀ item ∈ items, WellFormedArchived item)
    (honce : ReportedOnce davix jsonC items urls) (hanswered : ArchiveAnswered davix jsonC urls items state) :
    SoundPolls (ArchiveAnswered davix jsonC urls) (gfalHttpArchivePollList davix jsonC urls)
      (urls.map fun url => archivedStatus jsonC (reported davix jsonC items url)) items ↔
    urls ≠ [] ∧ ((∀ url ∈ urls, ¬Located jsonC (lit "UNAVAILABLE") (reported davix jsonC items url)) ∨
      ∃ url ∈ urls, Located jsonC (lit "DISK") (reported davix jsonC items url)) := by
  have hpoll : ∀ url ∈ urls, PollsAs (S := TapeState σ) (pollArchivedFile jsonC)
      (archivedBy localityCount jsonC (reported davix jsonC items url)) (archivedStatus jsonC (reported davix jsonC items url))
      (davix.path url) ((reported davix jsonC items url).getD .null) := by
    intro url _
    rcases reported_cases davix jsonC url with hnone | ⟨members, hmem, hsome⟩
    · rw [hnone]
      exact pollsAs_archived_none jsonC _
    · rw [hsome]
      exact pollsAs_archived jsonC _ (hformed _ hmem)
  obtain ⟨errors, hagree, hrun⟩ := pollResponse_spec davix jsonC honce hpoll
  have hruns : ∀ items', items.Perm items' → ∀ state, urls ≠ [] → ArchiveAnswered davix jsonC urls items' state →
      ∃ state', gfalHttpArchivePollList davix jsonC urls state = .ok ((pollResult urls.length (countStatuses
        (urls.map fun url => archivedBy localityCount jsonC (reported davix jsonC items url))), errors), state') := by
    intro items' hperm state hurls hstate
    obtain ⟨answered, hpolled⟩ := archivePoll_answered davix jsonC hurls hstate
    rw [hpolled, hrun items' hperm]
    exact ⟨_, rfl⟩
  have hcounted : (urls.map fun url => archivedBy localityCount jsonC (reported davix jsonC items url)) ≠ [] →
      PollValue (urls.map fun url => archivedBy localityCount jsonC (reported davix jsonC items url))
        (pollResult urls.length (countStatuses
          (urls.map fun url => archivedBy localityCount jsonC (reported davix jsonC items url)))) := by
    intro hne
    have hvalue := pollResult_countStatuses hne
    rwa [List.length_map] at hvalue
  have hlocated : ∀ text, localityStatus text = .inProgress →
      (∃ url ∈ urls, Located jsonC text (reported davix jsonC items url)) →
      .inProgress ∈ urls.map fun url => archivedStatus jsonC (reported davix jsonC items url) := by
    intro text htext ⟨url, hurl, hat⟩
    exact List.mem_map.mpr ⟨url, hurl, (archivedStatus_of_located jsonC hat localityStatus).trans htext⟩
  constructor
  · intro hsound
    have hurls : urls ≠ [] := by
      intro hnil
      subst hnil
      exact not_soundPolls_nil hanswered (fun _ => rfl) hsound
    refine ⟨hurls, ?_⟩
    by_contra hneither
    obtain ⟨hunavailable, hdisk⟩ := not_or.mp hneither
    obtain ⟨ret, reported, hvalue, hall⟩ := hsound
    obtain ⟨finish, hone⟩ := hall items (List.Perm.refl _) state hanswered
    obtain ⟨finish', htwo⟩ := hruns items (List.Perm.refl _) state hurls hanswered
    rw [hone] at htwo
    cases htwo
    -- the value 0 was counted for a file that is on disk only
    have hzero := hvalue.inProgress.mpr (hlocated (lit "UNAVAILABLE") (by decide) (by simpa using hunavailable))
    obtain ⟨url, hurl, hcount⟩ := List.mem_map.mp ((hcounted (by simpa using hurls)).inProgress.mp hzero)
    exact hdisk ⟨url, hurl, archivedBy_count_inProgress jsonC hcount⟩
  · intro ⟨hurls, hcase⟩
    refine ⟨_, errors, ⟨?_, hagree⟩, fun items' hperm state => hruns items' hperm state hurls⟩
    rcases hcase with havailable | hdisk
    · have hsame : (urls.map fun url => archivedBy localityCount jsonC (reported davix jsonC items url)) =
          urls.map fun url => archivedStatus jsonC (reported davix jsonC items url) :=
        List.map_congr_left fun url hurl => archivedBy_count jsonC (havailable url hurl)
      rw [← hsame]
      exact hcounted (by simpa using hurls)
    · have hzero := (hcounted (by simpa using hurls)).inProgress.mpr (by
        obtain ⟨url, hurl, hat⟩ := hdisk
        exact List.mem_map.mpr ⟨url, hurl, archivedStatus_of_located jsonC hat localityCount⟩)
      rw [hzero]
      exact pollValue_zero (hlocated (lit "DISK") (by decide) hdisk)

end Polls

/-- The polls of the tape REST API say how far the files are of any response that is well formed, but for one to
an archiving in which a file is unavailable and none is on disk only. -/
theorem tape_polls_sound_iff {σ : Type} (davix : TapeDavix σ) (jsonC : JsonC) (urls : List CString) (items : List Json)
    (state : TapeState σ) (honce : ReportedOnce davix jsonC items urls) :
    (∀ token, (∀ item ∈ items, WellFormedStaged item) → StageAnswered davix jsonC urls token items state →
      (SoundPolls (StageAnswered davix jsonC urls token) (gfalHttpBringOnlinePollList davix jsonC urls token)
        (urls.map fun url => stagedStatus jsonC (reported davix jsonC items url)) items ↔ urls ≠ [])) ∧
    ((∀ item ∈ items, WellFormedArchived item) → ArchiveAnswered davix jsonC urls items state →
      (SoundPolls (ArchiveAnswered davix jsonC urls) (gfalHttpArchivePollList davix jsonC urls)
        (urls.map fun url => archivedStatus jsonC (reported davix jsonC items url)) items ↔
      urls ≠ [] ∧ ((∀ url ∈ urls, ¬Located jsonC (lit "UNAVAILABLE") (reported davix jsonC items url)) ∨
        ∃ url ∈ urls, Located jsonC (lit "DISK") (reported davix jsonC items url)))) :=
  ⟨fun _ hformed hanswered => stagePolls_sound_iff davix jsonC hformed honce hanswered,
    fun hformed hanswered => archivePolls_sound_iff davix jsonC hformed honce hanswered⟩

/-! ### A file that is unavailable -/

/-- A storage whose tape endpoint is known and which answers every request alike. -/
def answeringTape (code : Int) (content : CString) : TapeDavix Unit where
  uri _ := some ⟨⟨lit "https", lit "h"⟩, 0⟩
  path _ := lit "/f"
  get _ world := (.ok ⟨code, content⟩, world)
  post _ _ world := (.ok ⟨code, content⟩, world)

/-- What json-c makes of one text. -/
def tokenerOf (content : CString) (document : Json) : JsonC where
  tokenerParse text := if text = content then document else .null
  toJsonString _ := []

def knownEndpoint : TapeState Unit := { tapeEndpointMap := fun _ => some ⟨lit "s", lit "https://h/tape", lit "v1"⟩, world := () }

/-- The item of one file with its locality. -/
def locatedItem (locality : CString) : Json :=
  .object [(lit "path", .string (lit "/f")), (lit "locality", .string locality)]

def locatedText (locality : CString) : CString :=
  lit "[\x7b\"path\": \"/f\", \"locality\": \"" ++ locality ++ lit "\"\x7d]"

def locatedTape (locality : CString) : TapeDavix Unit := answeringTape 200 (locatedText locality)

def locatedJson (locality : CString) : JsonC := tokenerOf (locatedText locality) (.array [locatedItem locality])

theorem wellFormed_locatedItem (locality : CString) : ∀ item ∈ [locatedItem locality], WellFormedArchived item := by
  intro item hitem
  rw [List.mem_singleton.mp hitem]
  exact ⟨.of_none rfl, .of_string rfl⟩

theorem locatedItem_answered (locality : CString) : ArchiveAnswered (locatedTape locality) (locatedJson locality)
    [lit "https://h/f"] [locatedItem locality] knownEndpoint :=
  ⟨lit "https://h/tape/archiveinfo", knownEndpoint, locatedText locality, (), rfl, rfl, List.cons_ne_nil _ _, if_pos rfl⟩

theorem locatedItem_once (davix : TapeDavix Unit) (jsonC : JsonC) (locality : CString) (urls : List CString) :
    ReportedOnce davix jsonC [locatedItem locality] urls :=
  fun _ _ => List.length_filter_le _ _

/-- A storage that has files under their own paths. -/
def pathsTape (content : CString) : TapeDavix Unit :=
  { answeringTape 200 content with path := fun url => url.drop 9 }

/-- A file of which the storage tells one thing. -/
def toldItem (path : CString) (key : CString) (value : Json) : Json := .object [(lit "path", .string path), (key, value)]

def polledFiles : List CString := [lit "https://h/f", lit "https://h/g"]

def stagedItems : List Json :=
  [toldItem (lit "/g") (lit "onDisk") (.bool true), toldItem (lit "/f") (lit "state") (.string (lit "STARTED"))]

def archivedItems : List Json :=
  [toldItem (lit "/g") (lit "locality") (.string (lit "UNAVAILABLE")), toldItem (lit "/f") (lit "locality") (.string (lit "DISK"))]

/-- Two files of which one is done or unavailable and the other in progress are polled soundly, in whatever order they are reported. -/
theorem two_files_polled_soundly :
    let staging := tokenerOf (lit "staged") (.object [(lit "id", .string (lit "t")), (lit "files", .array stagedItems)])
    let archiving := tokenerOf (lit "archived") (.array archivedItems)
    SoundPolls (StageAnswered (pathsTape (lit "staged")) staging polledFiles (lit "t"))
      (gfalHttpBringOnlinePollList (pathsTape (lit "staged")) staging polledFiles (lit "t")) [.inProgress, .done] stagedItems ∧
    SoundPolls (ArchiveAnswered (pathsTape (lit "archived")) archiving polledFiles)
      (gfalHttpArchivePollList (pathsTape (lit "archived")) archiving polledFiles) [.inProgress, .inProgress] archivedItems := by
  intro staging archiving
  have hstaged : ∀ item ∈ stagedItems, WellFormedStaged item := by
    simp only [stagedItems, List.forall_mem_cons]
    exact ⟨⟨.of_none rfl, fun value h => ⟨true, (Option.some.inj h).symm⟩, .of_none rfl⟩,
      ⟨.of_none rfl, nofun, .of_string rfl⟩, nofun⟩
  have harchived : ∀ item ∈ archivedItems, WellFormedArchived item := by
    simp only [archivedItems, List.forall_mem_cons]
    exact ⟨⟨.of_none rfl, .of_string rfl⟩, ⟨.of_none rfl, .of_string rfl⟩, nofun⟩
  constructor
  · have honce : ReportedOnce (pathsTape (lit "staged")) staging stagedItems polledFiles := by
      unfold ReportedOnce
      decide
    exact ((tape_polls_sound_iff _ staging polledFiles stagedItems knownEndpoint honce).1 (lit "t") hstaged
      ⟨by decide, _, knownEndpoint, lit "staged", (), .string (lit "t"), rfl, rfl, by decide, rfl, rfl, rfl⟩).mpr (by decide)
  · have honce : ReportedOnce (pathsTape (lit "archived")) archiving archivedItems polledFiles := by
      unfold ReportedOnce
      decide
    refine ((tape_polls_sound_iff _ archiving polledFiles archivedItems knownEndpoint honce).2 harchived
      ⟨_, knownEndpoint, lit "archived", (), rfl, rfl, by decide, rfl⟩).mpr ⟨by decide, .inr ?_⟩
    exact ⟨lit "https://h/f", by decide, rfl, rfl⟩

/-- A file that is unavailable is left with the error of a file in progress, and counted as failed. -/
theorem unavailable_file_polled_as_failed :
    ¬∀ (davix : TapeDavix Unit) (jsonC : JsonC) (urls : List CString) (items : List Json) (state : TapeState Unit),
      urls ≠ [] → (∀ item ∈ items, WellFormedArchived item) → ReportedOnce davix jsonC items urls →
      ArchiveAnswered davix jsonC urls items state →
      ∃ statuses, SoundPolls (ArchiveAnswered davix jsonC urls) (gfalHttpArchivePollList davix jsonC urls) statuses items := by
  intro h
  obtain ⟨statuses, ret, errors, hsound, hall⟩ := h (locatedTape (lit "UNAVAILABLE")) (locatedJson (lit "UNAVAILABLE"))
    [lit "https://h/f"] [locatedItem (lit "UNAVAILABLE")] knownEndpoint (by decide) (wellFormed_locatedItem _)
    (locatedItem_once _ _ _ _) (locatedItem_answered _)
  obtain ⟨state', hrun⟩ := hall _ (List.Perm.refl _) knownEndpoint (locatedItem_answered _)
  obtain ⟨answered, hpolled⟩ := archivePoll_answered (locatedTape (lit "UNAVAILABLE")) (locatedJson (lit "UNAVAILABLE"))
    (List.cons_ne_nil (lit "https://h/f") []) (locatedItem_answered (lit "UNAVAILABLE"))
  have hpoll : ∃ e, pollResponse (locatedTape (lit "UNAVAILABLE")) (locatedJson (lit "UNAVAILABLE"))
      (pollArchivedFile (locatedJson (lit "UNAVAILABLE"))) (.array [locatedItem (lit "UNAVAILABLE")])
      [lit "https://h/f"] answered = .ok ((-1, [some e]), answered) ∧ e.code = EAGAIN := ⟨_, rfl, rfl⟩
  obtain ⟨e, hpoll, hcode⟩ := hpoll
  rw [hpolled, hpoll] at hrun
  cases hrun
  -- all files are said to have failed, and the only one is in progress
  have hfailed := hsound.failed.mp rfl
  obtain ⟨status, rest, hagree, -, rfl⟩ := List.forall₂_cons_right_iff.mp hsound.errors
  rw [hfailed status List.mem_cons_self] at hagree
  obtain ⟨other, heq, hne⟩ := hagree
  exact hne (Option.some.inj heq ▸ hcode)

end Gfal2
