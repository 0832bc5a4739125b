import Gfal2.TapePolling

/-! What the calls to a tape endpoint make of an arbitrary answer. A member that is null is found, and the string
made of it is made of a null pointer; an answer with an unexpected status has no error whose message could be
taken. The answers for which a call comes to its end are described by what they hold. -/

namespace Gfal2

open Base Exec

section Json

variable {S α : Type} (jsonC : JsonC) {document : Json}

theorem jsonObjectGetString_eq_none : jsonObjectGetString jsonC document = none ↔ document = .null := by
  cases document with
  | bool b => cases b <;> simp [jsonObjectGetString]
  | _ => simp [jsonObjectGetString]

/-- A string is made of every document but the null one. -/
theorem stdStringOf_apply (h : document ≠ .null) : ∃ text,
    jsonObjectGetString jsonC document = some text ∧ ∀ state : S, stdStringOf jsonC document state = .ok (text, state) := by
  cases htext : jsonObjectGetString jsonC document with
  | none => exact absurd ((jsonObjectGetString_eq_none jsonC).mp htext) h
  | some text =>
      refine ⟨text, rfl, fun state => ?_⟩
      rw [stdStringOf, htext]
      rfl

/-- What goes on with the string of a document. -/
theorem completes_stdStringOf_bind {next : CString → Exec S Fault α} {state : S} {p : Prop}
    (h : ∀ text, jsonObjectGetString jsonC document = some text → (Exec.Completes (next text) state ↔ p)) :
    Exec.Completes (stdStringOf jsonC document >>= next) state ↔ document ≠ .null ∧ p := by
  by_cases hnull : document = .null
  · subst hnull
    exact iff_of_false (by simp [stdStringOf, jsonObjectGetString, completes_bind_iff]) (by simp)
  · obtain ⟨text, htext, hrun⟩ := stdStringOf_apply (S := S) jsonC hnull
    unfold Exec.Completes
    rw [bind_of_ok (hrun state)]
    exact (h text htext).trans (by simp [hnull])

theorem completes_jsonArrayItems_bind {next : List Json → Exec S Fault α} {state : S} :
    Exec.Completes (jsonArrayItems document >>= next) state ↔
      ∃ items, document = .array items ∧ Exec.Completes (next items) state := by
  cases document <;> simp [jsonArrayItems, completes_bind_iff]

end Json

/-! ### The discovery of an endpoint -/

section Discovery

variable {S σ : Type} (davix : TapeDavix σ) (jsonC : JsonC)

/-- The number of the version under which an endpoint is offered with a URI, if it is at least the newest so far
and not above 1. -/
def offeredVersion (newest : Int) (endpoint : Json) : Option Int :=
  ((memberText jsonC endpoint (lit "version")).map parseVersion).filter fun version =>
    (endpoint.member (lit "uri")).isSome ∧ newest ≤ version ∧ version ≤ 1

/-- No version is null, and no URI of an endpoint that is taken. -/
def SafeEndpoints : Int → List Json → Prop
  | _, [] => True
  | newest, endpoint :: rest =>
      endpoint.member (lit "version") ≠ some .null ∧
      ((offeredVersion jsonC newest endpoint).isSome → endpoint.member (lit "uri") ≠ some .null) ∧
      SafeEndpoints ((offeredVersion jsonC newest endpoint).getD newest) rest

/-- The answer to a discovery: the site has a name, and the endpoints are a list of safe ones. -/
def SafeConfig (response : Json) : Prop :=
  ∀ sitename, response.member (lit "sitename") = some sitename → sitename ≠ .null ∧
    ∀ endpoints, response.member (lit "endpoints") = some endpoints →
      ∃ items, endpoints = .array items ∧ SafeEndpoints jsonC 0 items

/-- One endpoint of the list. -/
theorem considerEndpoint_spec (endpoint : Json) (choice : TapeEndpointChoice) (state : S) :
    (endpoint.member (lit "version") ≠ some .null ∧
      ((offeredVersion jsonC choice.maxVersion endpoint).isSome → endpoint.member (lit "uri") ≠ some .null)) ∧
      (∃ choice', considerEndpoint jsonC endpoint choice state = .ok (choice', state) ∧
        choice'.maxVersion = (offeredVersion jsonC choice.maxVersion endpoint).getD choice.maxVersion) ∨
    ¬(endpoint.member (lit "version") ≠ some .null ∧
      ((offeredVersion jsonC choice.maxVersion endpoint).isSome → endpoint.member (lit "uri") ≠ some .null)) ∧
      ¬Exec.Completes (considerEndpoint jsonC endpoint choice) state := by
  unfold considerEndpoint offeredVersion memberText
  cases hversion : endpoint.member (lit "version") with
  | none => exact .inl ⟨⟨by simp, by simp⟩, choice, rfl, by simp⟩
  | some version =>
      by_cases hnull : version = .null
      · subst hnull
        refine .inr ⟨by simp, fun ⟨chosen, after, h⟩ => ?_⟩
        cases h
      · obtain ⟨text, htext, hrun⟩ := stdStringOf_apply (S := S) jsonC hnull
        dsimp only
        rw [bind_of_ok (hrun state)]
        cases huri : endpoint.member (lit "uri") with
        | none => exact .inl ⟨⟨by simpa using hnull, by simp⟩, choice, rfl, by simp⟩
        | some uri =>
            dsimp only
            by_cases htaken : parseVersion text ≥ choice.maxVersion ∧ parseVersion text ≤ 1
            · have hoffered : ((((some version).bind (jsonObjectGetString jsonC)).map parseVersion).filter fun version =>
                  ((some uri : Option Json)).isSome ∧ choice.maxVersion ≤ version ∧ version ≤ 1) =
                  some (parseVersion text) := by simp [htext, htaken.1, htaken.2]
              rw [if_pos htaken, hoffered]
              by_cases hnone : uri = .null
              · subst hnone
                refine .inr ⟨by simp, fun ⟨chosen, after, h⟩ => ?_⟩
                rw [bind_of_ok (hrun state), if_pos htaken] at h
                cases h
              · obtain ⟨uriText, -, hread⟩ := stdStringOf_apply (S := S) jsonC hnone
                refine .inl ⟨⟨by simpa using hnull, fun _ => by simpa using hnone⟩, ⟨parseVersion text, uriText, text⟩, ?_, rfl⟩
                exact (bind_of_ok (hread state)).trans rfl
            · have hoffered : ((((some version).bind (jsonObjectGetString jsonC)).map parseVersion).filter fun version =>
                  ((some uri : Option Json)).isSome ∧ choice.maxVersion ≤ version ∧ version ≤ 1) = none := by
                simpa [htext] using htaken
              rw [if_neg htaken, hoffered]
              exact .inl ⟨⟨by simpa using hnull, by simp⟩, choice, rfl, rfl⟩

/-- The endpoints are gone through where they are safe. -/
theorem completes_considerEndpoints_iff (endpoints : List Json) (choice : TapeEndpointChoice) (state : S) :
    Exec.Completes (considerEndpoints jsonC endpoints choice) state ↔ SafeEndpoints jsonC choice.maxVersion endpoints := by
  induction endpoints generalizing choice with
  | nil => simp [considerEndpoints, SafeEndpoints]
  | cons endpoint rest ih =>
      rw [considerEndpoints, completes_bind_iff, SafeEndpoints, ← and_assoc]
      rcases considerEndpoint_spec jsonC endpoint choice state with ⟨hsafe, choice', hrun, hnewest⟩ | ⟨hother, hstuck⟩
      · rw [← hnewest, ← ih choice']
        constructor
        · intro ⟨chosen, after, hchosen, hrest⟩
          rw [hrun] at hchosen
          cases hchosen
          exact ⟨hsafe, hrest⟩
        · exact fun h => ⟨choice', state, hrun, h.2⟩
      · exact iff_of_false (fun ⟨chosen, after, hchosen, _⟩ => hstuck ⟨chosen, after, hchosen⟩) fun h => hother h.1

theorem completes_readTapeEndpoint_iff (response : Json) (state : S) :
    Exec.Completes (readTapeEndpoint jsonC response) state ↔ SafeConfig jsonC response := by
  unfold SafeConfig
  cases hsitename : response.member (lit "sitename") with
  | none =>
      refine iff_of_true ?_ (by simp)
      unfold readTapeEndpoint
      rw [hsitename]
      cases response <;> exact completes_pure _ _
  | some sitename =>
      obtain ⟨members, rfl⟩ := exists_object_of_member hsitename
      unfold readTapeEndpoint
      rw [hsitename]
      change Exec.Completes (stdStringOf jsonC sitename >>= _) state ↔ _
      simp only [Option.some.injEq, forall_eq']
      apply completes_stdStringOf_bind
      intro text _
      cases hendpoints : (Json.object members).member (lit "endpoints") with
      | none => exact iff_of_true (completes_pure _ _) (by simp)
      | some endpoints =>
          simp only [Option.some.injEq, forall_eq']
          rw [completes_jsonArrayItems_bind]
          refine exists_congr fun items => and_congr_right fun _ => ?_
          rw [← completes_considerEndpoints_iff jsonC items {} state, completes_bind_iff]
          constructor
          · exact fun ⟨choice, after, hchoice, _⟩ => ⟨choice, after, hchoice⟩
          · intro ⟨choice, after, hchoice⟩
            refine ⟨choice, after, hchoice, ?_⟩
            split
            · exact completes_pure _ _
            · exact completes_pure _ _

/-- A request that comes back with another status than the expected one has no error to take a message from. -/
theorem completes_expectStatus_bind {α : Type} {request : Callback σ (Except DavixError HttpAnswer)} {status : Int}
    (failed : CString) {next : Ret CString → Tape σ α} {state : TapeState σ}
    (herror : ∀ e after, Exec.Completes (next ⟨[], some e⟩) after) :
    Exec.Completes (expectStatus request status failed >>= next) state ↔
      ∀ answer, (request state.world).1 = .ok answer → answer.code = status ∧
        Exec.Completes (next ⟨answer.content, none⟩) { state with world := (request state.world).2 } := by
  rw [completes_bind_iff, expectStatus]
  cases hanswer : (request state.world).1 with
  | error reqerr =>
      have hrequest : requestTape request state = .ok (.error reqerr, { state with world := (request state.world).2 }) := by
        rw [requestTape, hanswer]
      rw [bind_of_ok hrequest]
      exact iff_of_true ⟨_, _, rfl, herror _ _⟩ (by simp)
  | ok answer =>
      have hrequest : requestTape request state = .ok (.ok answer, { state with world := (request state.world).2 }) := by
        rw [requestTape, hanswer]
      rw [bind_of_ok hrequest]
      simp only [Except.ok.injEq, forall_eq']
      by_cases hcode : answer.code = status
      · rw [if_neg (not_not.mpr hcode)]
        constructor
        · rintro ⟨value, after, hreturn, hnext⟩
          cases hreturn
          exact ⟨hcode, hnext⟩
        · exact fun h => ⟨_, _, rfl, h.2⟩
      · rw [if_pos hcode]
        refine iff_of_false ?_ fun h => hcode h.1
        rintro ⟨value, after, hfault, -⟩
        cases hfault

/-- The first URL is well formed, and if no tape endpoint of its storage is known, the answer to the question for
one is safe. -/
def SafeDiscovery (url : CString) (state : TapeState σ) : Prop :=
  ∃ address, davix.uri url = some address ∧ (state.tapeEndpointMap (storageEndpoint address) = none →
    ∀ answer, (davix.get (storageEndpoint address ++ lit "/.well-known/wlcg-tape-rest-api") state.world).1 = .ok answer →
      answer.code = 200 ∧ SafeConfig jsonC (jsonC.tokenerParse answer.content))

theorem completes_retrieve_iff (endpoint : CString) (state : TapeState σ) :
    Exec.Completes (retrieveAndStoreTapeEndpoint davix jsonC endpoint) state ↔
      ∀ answer, (davix.get (endpoint ++ lit "/.well-known/wlcg-tape-rest-api") state.world).1 = .ok answer →
        answer.code = 200 ∧ SafeConfig jsonC (jsonC.tokenerParse answer.content) := by
  rw [retrieveAndStoreTapeEndpoint]
  refine (completes_expectStatus_bind _ ?_).trans ?_
  · exact fun e after => completes_pure _ _
  refine forall₂_congr fun answer _ => and_congr_right fun _ => ?_
  dsimp only
  rw [← completes_readTapeEndpoint_iff jsonC _ { state with world := (davix.get (endpoint ++ _) state.world).2 },
    completes_bind_iff]
  constructor
  · exact fun ⟨read, after, hread, _⟩ => ⟨read, after, hread⟩
  · intro ⟨read, after, hread⟩
    refine ⟨read, after, hread, ?_⟩
    cases read with
    | error e => exact completes_pure _ _
    | ok info => exact ⟨_, _, rfl⟩

theorem completes_discover_iff (url method : CString) (state : TapeState σ) :
    Exec.Completes (gfalHttpDiscoverTapeEndpoint davix jsonC url method) state ↔ SafeDiscovery davix jsonC url state := by
  unfold SafeDiscovery gfalHttpDiscoverTapeEndpoint
  cases huri : davix.uri url with
  | none => simp
  | some address =>
      simp only [Option.some.injEq, exists_eq_left']
      rw [← completes_retrieve_iff]
      unfold Exec.Completes
      rw [get_bind_apply]
      cases hknown : state.tapeEndpointMap (storageEndpoint address) with
      | some info => exact iff_of_true ⟨_, _, rfl⟩ (by simp)
      | none =>
          simp only [forall_const]
          change Exec.Completes (retrieveAndStoreTapeEndpoint davix jsonC (storageEndpoint address) >>= _) state ↔ _
          rw [completes_bind_iff]
          constructor
          · exact fun ⟨found, after, hfound, _⟩ => ⟨found, after, hfound⟩
          · intro ⟨found, after, hfound⟩
            refine ⟨found, after, hfound, ?_⟩
            cases found <;> exact completes_pure _ _

/-- What goes on with the endpoint that was found, where an error is handed on. -/
theorem completes_discover_bind {α : Type} (url method : CString) {next : Ret CString → Tape σ α} {state : TapeState σ}
    (herror : ∀ value e after, Exec.Completes (next ⟨value, some e⟩) after) :
    Exec.Completes (gfalHttpDiscoverTapeEndpoint davix jsonC url method >>= next) state ↔
      SafeDiscovery davix jsonC url state ∧
        ∀ endpoint found, gfalHttpDiscoverTapeEndpoint davix jsonC url method state = .ok (⟨endpoint, none⟩, found) →
          Exec.Completes (next ⟨endpoint, none⟩) found := by
  rw [← completes_discover_iff davix jsonC url method, completes_bind_iff]
  constructor
  · intro ⟨value, after, hfound, hnext⟩
    refine ⟨⟨value, after, hfound⟩, fun endpoint found h => ?_⟩
    rw [hfound] at h
    cases h
    exact hnext
  · intro ⟨⟨value, after, hfound⟩, hnext⟩
    refine ⟨value, after, hfound, ?_⟩
    obtain ⟨endpoint, err⟩ := value
    cases err with
    | some e => exact herror endpoint e after
    | none => exact hnext endpoint after hfound

end Discovery

/-! ### Staging -/

section Staging

variable {σ : Type} (davix : TapeDavix σ) (jsonC : JsonC)

/-- The answer to a request that is made of the endpoint once it is found has the expected status, and what it
holds is safe if it holds anything. -/
def SafeRequest (url method : CString) (request : CString → Callback σ (Except DavixError HttpAnswer)) (status : Int)
    (safe : Json → Prop) (state : TapeState σ) : Prop :=
  SafeDiscovery davix jsonC url state ∧
    ∀ endpoint found, gfalHttpDiscoverTapeEndpoint davix jsonC url method state = .ok (⟨endpoint, none⟩, found) →
      ∀ answer, (request endpoint found.world).1 = .ok answer →
        answer.code = status ∧ (answer.content ≠ [] → safe (jsonC.tokenerParse answer.content))

/-- The three calls to an endpoint begin alike. -/
theorem completes_request_bind {α : Type} (url method failed : CString)
    (request : CString → Callback σ (Except DavixError HttpAnswer)) (status : Int) (safe : Json → Prop)
    {refused : GError → Tape σ α} {next : Ret CString → Tape σ α} {state : TapeState σ}
    (hrefused : ∀ e after, Exec.Completes (refused e) after) (herror : ∀ e after, Exec.Completes (next ⟨[], some e⟩) after)
    (hnext : ∀ content after, Exec.Completes (next ⟨content, none⟩) after ↔
      (content ≠ [] → safe (jsonC.tokenerParse content))) :
    Exec.Completes (gfalHttpDiscoverTapeEndpoint davix jsonC url method >>= fun endpoint =>
      match endpoint.err with
      | some e => refused e
      | none => expectStatus (request endpoint.val) status failed >>= next) state ↔
      SafeRequest davix jsonC url method request status safe state := by
  refine (completes_discover_bind davix jsonC url method ?_).trans (and_congr_right fun _ => ?_)
  · exact fun value e after => hrefused e after
  · refine forall₃_congr fun endpoint found _ => ?_
    refine (completes_expectStatus_bind failed herror).trans ?_
    exact forall₂_congr fun answer _ => and_congr_right fun _ => hnext _ _

/-- A request to stage files comes to its end: there is none, the metadata is refused, or the answers are safe and
the request is not named null. -/
def SafeStaging (urls metadata : List CString) (state : TapeState σ) : Prop :=
  urls = [] ∨ (metadataFormatChecker jsonC metadata).err ≠ none ∨
    SafeRequest davix jsonC (urls.headD []) (lit "/stage") (davix.post · (stageRequestBody davix urls metadata)) 201
      (fun response => response.member (lit "requestId") ≠ some .null) state

theorem completes_readStageAnswer_iff {S : Type} (urls : List CString) (token : CString) (tsize : Nat) (response : Json)
    (state : S) : Exec.Completes (readStageAnswer jsonC urls token tsize response) state ↔
      response.member (lit "requestId") ≠ some .null := by
  cases hid : response.member (lit "requestId") with
  | none =>
      refine iff_of_true ?_ (by simp)
      unfold readStageAnswer
      rw [hid]
      cases response <;> exact completes_pure _ _
  | some id =>
      obtain ⟨members, rfl⟩ := exists_object_of_member hid
      unfold readStageAnswer
      rw [hid]
      change Exec.Completes (stdStringOf jsonC id >>= _) state ↔ _
      refine (completes_stdStringOf_bind jsonC fun text _ => iff_of_true (completes_pure _ _) trivial).trans ?_
      simp

theorem completes_bringOnlineListV2_iff (urls metadata : List CString) (token : CString) (tsize : Nat)
    (state : TapeState σ) : Exec.Completes (gfalHttpBringOnlineListV2 davix jsonC urls metadata token tsize) state ↔
      SafeStaging davix jsonC urls metadata state := by
  unfold gfalHttpBringOnlineListV2 SafeStaging
  by_cases hurls : urls = []
  · rw [if_pos hurls]
    exact iff_of_true (completes_pure _ _) (.inl hurls)
  · rw [if_neg hurls]
    cases hchecked : (metadataFormatChecker jsonC metadata).err with
    | some e => exact iff_of_true (completes_pure _ _) (.inr (.inl (by simp)))
    | none =>
        rw [or_iff_right hurls, or_iff_right (not_not.mpr rfl)]
        refine completes_request_bind davix jsonC (urls.headD []) (lit "/stage") (lit "Stage call failed")
          (davix.post · (stageRequestBody davix urls metadata)) 201
          (fun response => response.member (lit "requestId") ≠ some .null) ?_ ?_ ?_
        · exact fun e after => completes_pure _ _
        · exact fun e after => completes_pure _ _
        · intro content after
          by_cases hcontent : content = []
          · simp [hcontent]
          · simp [hcontent, completes_readStageAnswer_iff]

end Staging

/-! ### Polls -/

section Polls

variable {S σ : Type} (davix : TapeDavix σ) (jsonC : JsonC)

/-- The first member that the poll of a staged file finds in its item is not null. -/
def SafeStagedItem (file : Json) : Prop :=
  (file.member (lit "error")).or ((file.member (lit "onDisk")).or (file.member (lit "state"))) ≠ some .null

/-- An item that reports no error has no null locality. -/
def SafeArchivedItem (file : Json) : Prop :=
  file.member (lit "error") = none → file.member (lit "locality") ≠ some .null

theorem completes_pollStagedFile_iff (path : CString) (file : Json) (counts : PollCounts) (state : S) :
    Exec.Completes (pollStagedFile jsonC path file counts) state ↔ SafeStagedItem file := by
  unfold SafeStagedItem pollStagedFile
  cases file with
  | object members =>
      have htext : ∀ (value : Json) (next : CString → Exec S Fault (PollCounts × Option GError)),
          (∀ text, Exec.Completes (next text) state) →
          (Exec.Completes (stdStringOf jsonC value >>= next) state ↔ some value ≠ some .null) := by
        intro value next hnext
        refine (completes_stdStringOf_bind jsonC fun text _ => iff_of_true (hnext text) trivial).trans ?_
        simp
      dsimp only
      cases herror : (Json.object members).member (lit "error") with
      | some value => exact htext value _ fun text => completes_pure _ _
      | none =>
          cases hdisk : (Json.object members).member (lit "onDisk") with
          | some value =>
              refine htext value _ fun text => ?_
              split <;> exact completes_pure _ _
          | none =>
              cases hstate : (Json.object members).member (lit "state") with
              | none => exact iff_of_true (completes_pure _ _) (by simp)
              | some value => exact htext value _ fun text => completes_pure _ _
  | _ => exact iff_of_true (completes_pure _ _) (by simp [Json.member])

theorem completes_pollArchivedFile_iff (path : CString) (file : Json) (counts : PollCounts) (state : S) :
    Exec.Completes (pollArchivedFile jsonC path file counts) state ↔ SafeArchivedItem file := by
  have hread : Exec.Completes (pollArchivedFile jsonC path file counts) state ↔
      Exec.Completes (getFileLocality jsonC file path false) state := by
    rw [pollArchivedFile, completes_bind_iff]
    constructor
    · exact fun ⟨value, after, hvalue, _⟩ => ⟨value, after, hvalue⟩
    · intro ⟨value, after, hvalue⟩
      refine ⟨value, after, hvalue, ?_⟩
      obtain ⟨locality, err⟩ := value
      cases err with
      | some e => exact completes_pure _ _
      | none =>
          dsimp only
          split <;> exact completes_pure _ _
  rw [hread]
  unfold SafeArchivedItem getFileLocality
  cases file with
  | object members =>
      dsimp only
      cases herror : (Json.object members).member (lit "error") with
      | some value => exact iff_of_true (completes_pure _ _) (by simp)
      | none =>
          cases hlocality : (Json.object members).member (lit "locality") with
          | none => exact iff_of_true (completes_pure _ _) (by simp)
          | some value =>
              refine (completes_stdStringOf_bind jsonC fun text _ => iff_of_true (completes_pure _ _) trivial).trans ?_
              simp
  | _ => exact iff_of_true (completes_pure _ _) (by simp [Json.member])

/-- The loop over at least one file comes to its end where it is over a list, and the items it finds are safe. -/
theorem completes_pollFiles_iff {poll : FilePoll S} {safe : Json → Prop}
    (hpoll : ∀ path file counts state, Exec.Completes (poll path file counts) state ↔ safe file) (response : Json)
    (urls : List CString) (counts : PollCounts) (state : S) :
    Exec.Completes (pollFiles davix jsonC poll response urls counts) state ↔
      urls = [] ∨ ∃ items, response = .array items ∧ ∀ url ∈ urls, safe ((reported davix jsonC items url).getD .null) := by
  induction urls generalizing counts state with
  | nil => exact iff_of_true (completes_pure _ _) (.inl rfl)
  | cons url rest ih =>
      rw [pollFiles, pollingGetItemByPath]
      cases response with
      | array items =>
          have htail : Exec.Completes (pollFiles davix jsonC poll (.array items) (url :: rest) counts) state ↔
              Exec.Completes (poll (davix.path url) ((reported davix jsonC items url).getD .null) counts) state ∧
              ∀ other ∈ rest, safe ((reported davix jsonC items other).getD .null) := by
            have hrest : ∀ counts state, Exec.Completes (pollFiles davix jsonC poll (.array items) rest counts) state ↔
                ∀ other ∈ rest, safe ((reported davix jsonC items other).getD .null) := by
              intro counts state
              rw [ih]
              constructor
              · rintro (rfl | ⟨items', heq, hsafe⟩)
                · simp
                · cases heq
                  exact hsafe
              · exact fun hsafe => .inr ⟨items, rfl, hsafe⟩
            change Exec.Completes (poll _ _ _ >>= _) state ↔ _
            rw [completes_bind_iff]
            constructor
            · rintro ⟨polled, after, hone, hothers⟩
              refine ⟨⟨polled, after, hone⟩, (hrest polled.1 after).mp ?_⟩
              obtain ⟨others, last, hothers, -⟩ := completes_bind_iff.mp hothers
              exact ⟨others, last, hothers⟩
            · rintro ⟨⟨polled, after, hone⟩, hsafe⟩
              obtain ⟨others, last, hothers⟩ := (hrest polled.1 after).mpr hsafe
              exact ⟨polled, after, hone, _, _, (bind_of_ok hothers).trans rfl⟩
          rw [pollFiles, pollingGetItemByPath] at htail
          rw [htail, hpoll]
          simp
      | _ =>
          refine iff_of_false ?_ (by simp)
          rintro ⟨value, after, h⟩
          cases h

/-- The response to a poll of a staging: its name is not null, and under the right one the files are a list in
which the items of the URLs are safe. -/
def SafeStagePoll (urls : List CString) (token : CString) (response : Json) : Prop :=
  response.member (lit "id") ≠ some .null ∧ (memberText jsonC response (lit "id") = some token →
    ∀ files, response.member (lit "files") = some files →
      ∃ items, files = .array items ∧ ∀ url ∈ urls, SafeStagedItem ((reported davix jsonC items url).getD .null))

/-- The response to a poll of an archiving is a list in which the items of the URLs are safe. -/
def SafeArchivePoll (urls : List CString) (response : Json) : Prop :=
  response ≠ .null →
    ∃ items, response = .array items ∧ ∀ url ∈ urls, SafeArchivedItem ((reported davix jsonC items url).getD .null)

variable {urls : List CString}

theorem completes_pollResponse_iff {poll : FilePoll S} {safe : Json → Prop}
    (hpoll : ∀ path file counts state, Exec.Completes (poll path file counts) state ↔ safe file) (hurls : urls ≠ [])
    (response : Json) (state : S) : Exec.Completes (pollResponse davix jsonC poll response urls) state ↔
      ∃ items, response = .array items ∧ ∀ url ∈ urls, safe ((reported davix jsonC items url).getD .null) := by
  rw [← or_iff_right (b := ∃ items, response = .array items ∧ _) hurls, ← completes_pollFiles_iff davix jsonC hpoll response urls {} state,
    pollResponse, completes_bind_iff]
  constructor
  · rintro ⟨polled, after, hpolled, -⟩
    exact ⟨polled, after, hpolled⟩
  · rintro ⟨polled, after, hpolled⟩
    exact ⟨polled, after, hpolled, completes_pure _ _⟩

theorem completes_readStagePoll_iff (hurls : urls ≠ []) {token : CString} (htoken : token ≠ []) (response : Json)
    (state : S) : Exec.Completes (readStagePoll davix jsonC urls token response) state ↔
      SafeStagePoll davix jsonC urls token response := by
  unfold SafeStagePoll memberText
  cases hid : response.member (lit "id") with
  | none =>
      refine iff_of_true ?_ (by simp)
      unfold readStagePoll
      rw [hid]
      cases response <;> exact completes_pure _ _
  | some id =>
      obtain ⟨members, rfl⟩ := exists_object_of_member hid
      unfold readStagePoll
      rw [hid]
      change Exec.Completes (stdStringOf jsonC id >>= _) state ↔ _
      refine (completes_stdStringOf_bind jsonC ?_).trans (and_congr_left fun _ => by simp)
      intro text htext
      change Exec.Completes (if text = [] then _ else _) state ↔ ((some id).bind (jsonObjectGetString jsonC) = some token → _)
      rw [Option.bind_some, htext]
      by_cases hempty : text = []
      · subst hempty
        exact iff_of_true (completes_pure _ _) fun h => absurd (Option.some.inj h).symm htoken
      · rw [if_neg hempty]
        by_cases hsame : text = token
        · subst hsame
          rw [if_neg (not_not.mpr rfl)]
          simp only [forall_const]
          cases hfiles : (Json.object members).member (lit "files") with
          | none => exact iff_of_true (completes_pure _ _) (by simp)
          | some files =>
              simp only [Option.some.injEq, forall_eq']
              exact completes_pollResponse_iff davix jsonC (completes_pollStagedFile_iff jsonC) hurls files state
        · rw [if_pos hsame]
          exact iff_of_true (completes_pure _ _) fun h => absurd (Option.some.inj h) hsame

theorem completes_readArchivePoll_iff (hurls : urls ≠ []) (response : Json) (state : S) :
    Exec.Completes (readArchivePoll davix jsonC urls response) state ↔ SafeArchivePoll davix jsonC urls response := by
  unfold SafeArchivePoll readArchivePoll
  by_cases hnull : response = .null
  · subst hnull
    exact iff_of_true (completes_pure _ _) (by simp)
  · simp only [hnull, ne_eq, not_false_eq_true, forall_const]
    rw [← completes_pollResponse_iff davix jsonC (completes_pollArchivedFile_iff jsonC) hurls response state]
    cases response with
    | null => exact absurd rfl hnull
    | _ => rfl

/-- A poll of a staging comes to its end: there is nothing to poll, no token, or the answers are safe. -/
def SafeStagePolling (urls : List CString) (token : CString) (state : TapeState σ) : Prop :=
  urls = [] ∨ token = [] ∨
    SafeRequest davix jsonC (urls.headD []) (lit "/stage/" ++ token) davix.get 200 (SafeStagePoll davix jsonC urls token) state

def SafeArchivePolling (urls : List CString) (state : TapeState σ) : Prop :=
  urls = [] ∨
    SafeRequest davix jsonC (urls.headD []) (lit "/archiveinfo") (davix.post · (listFilesBody davix urls)) 200
      (SafeArchivePoll davix jsonC urls) state

theorem completes_bringOnlinePollList_iff (urls : List CString) (token : CString) (state : TapeState σ) :
    Exec.Completes (gfalHttpBringOnlinePollList davix jsonC urls token) state ↔
      SafeStagePolling davix jsonC urls token state := by
  unfold gfalHttpBringOnlinePollList SafeStagePolling
  by_cases hurls : urls = []
  · rw [if_pos hurls]
    exact iff_of_true (completes_pure _ _) (.inl hurls)
  · rw [if_neg hurls, or_iff_right hurls]
    by_cases htoken : token = []
    · rw [if_pos htoken]
      exact iff_of_true (completes_pure _ _) (.inl htoken)
    · rw [if_neg htoken, or_iff_right htoken]
      refine completes_request_bind davix jsonC (urls.headD []) (lit "/stage/" ++ token) (lit "Stage pooling call failed")
        davix.get 200 (SafeStagePoll davix jsonC urls token) ?_ ?_ ?_
      · exact fun e after => completes_pure _ _
      · exact fun e after => completes_pure _ _
      · intro content after
        by_cases hcontent : content = []
        · simp [hcontent]
        · simp [hcontent, completes_readStagePoll_iff davix jsonC hurls htoken]

/-- `get_archiveinfo` and what goes on with its content, taken together. -/
theorem getArchiveinfo_bind {α : Type} (urls : List CString) (next : Ret CString → Tape σ α) :
    getArchiveinfo davix jsonC urls >>= next =
      gfalHttpDiscoverTapeEndpoint davix jsonC (urls.headD []) (lit "/archiveinfo") >>= fun endpoint =>
        match endpoint.err with
        | some e => next ⟨[], some e⟩
        | none =>
            expectStatus (davix.post endpoint.val (listFilesBody davix urls)) 200 (lit "Archive polling call failed") >>=
              fun answer => match answer.err with
                | some e => next ⟨[], some e⟩
                | none => next (if answer.val = [] then ⟨[], some (tapeError ENOMSG (lit "Response with no data"))⟩ else answer) := by
  rw [getArchiveinfo, bind_assoc]
  congr 1
  funext endpoint
  cases endpoint.err with
  | some e => exact pure_bind _ _
  | none =>
      dsimp only
      rw [bind_assoc]
      congr 1
      funext answer
      cases answer.err <;> exact pure_bind _ _

theorem completes_archivePollList_iff (urls : List CString) (state : TapeState σ) :
    Exec.Completes (gfalHttpArchivePollList davix jsonC urls) state ↔ SafeArchivePolling davix jsonC urls state := by
  unfold gfalHttpArchivePollList SafeArchivePolling
  by_cases hurls : urls = []
  · rw [if_pos hurls]
    exact iff_of_true (completes_pure _ _) (.inl hurls)
  · rw [if_neg hurls, or_iff_right hurls, getArchiveinfo_bind]
    refine completes_request_bind davix jsonC (urls.headD []) (lit "/archiveinfo") (lit "Archive polling call failed")
      (davix.post · (listFilesBody davix urls)) 200 (SafeArchivePoll davix jsonC urls) ?_ ?_ ?_
    · exact fun e after => completes_pure _ _
    · exact fun e after => completes_pure _ _
    · intro content after
      by_cases hcontent : content = []
      · simp [hcontent]
      · simp [hcontent, completes_readArchivePoll_iff davix jsonC hurls]

end Polls

/-! ### What a call leaves -/

section PollEnds

variable {S σ : Type} (davix : TapeDavix σ) (jsonC : JsonC)

/-- The files have been polled one after the other, each on its item of the response and with the counters that the files before it
have left. The one that is left without an error is the one that is counted as done. -/
inductive PolledFiles (poll : FilePoll S) (response : Json) : List CString → PollCounts → PollCounts → ErrorList → Prop
  | nil (counts : PollCounts) : PolledFiles poll response [] counts counts []
  | cons {url : CString} {urls : List CString} {before between after : PollCounts} {error : Option GError} {errors : ErrorList}
      {file : Json} {state found left : S} (hitem : pollingGetItemByPath jsonC response (davix.path url) state = .ok (file, found))
      (hpoll : poll (davix.path url) file before found = .ok ((between, error), left))
      (hcounted : error = none ↔ between.done = before.done + 1) (hrest : PolledFiles poll response urls between after errors) :
      PolledFiles poll response (url :: urls) before after (error :: errors)

/-- A poll ends with an error for each file; or its files have been polled on a response that was answered, and its value is what the
counters amount to. -/
def PollEnds (poll : FilePoll S) (answered : Json → Prop) (urls : List CString) (ret : Int) (errors : ErrorList) : Prop :=
  errors.length = urls.length ∧ ((∀ error ∈ errors, error.isSome = true) ∨
    ∃ response counts, answered response ∧ PolledFiles davix jsonC poll response urls {} counts errors ∧
      ret = pollResult urls.length counts)

/-- The files of a document that was answered to a request. -/
def PolledOfStage (response : Json) : Prop :=
  ∃ url world content, (davix.get url world).1 = .ok ⟨200, content⟩ ∧
    (jsonC.tokenerParse content).member (lit "files") = some response

/-- A document that was answered to a request about these files. -/
def PolledOfArchive (urls : List CString) (response : Json) : Prop :=
  ∃ url world content, (davix.post url (listFilesBody davix urls) world).1 = .ok ⟨200, content⟩ ∧ jsonC.tokenerParse content = response

end PollEnds

/-- A request to stage files ends with an error for each file, or all of them are requested. -/
def StagingEnds (nbfiles : Nat) (ret : Int) (errors : ErrorList) : Prop :=
  errors.length = nbfiles ∧ ((∀ error ∈ errors, error.isSome = true) ∨ ret = 0)

theorem length_copyErrors (urls : List CString) (e : GError) : (copyErrors urls e).2.length = urls.length := by
  simp [copyErrors]

theorem isSome_copyErrors (urls : List CString) (e : GError) : ∀ error ∈ (copyErrors urls e).2, error.isSome = true := by
  simp [copyErrors]

section Ends

variable {S σ : Type} (davix : TapeDavix σ) (jsonC : JsonC) {response : Json}

/-- The poll of a file leaves no error exactly where it counts the file as done. -/
def CountsDone (poll : FilePoll S) : Prop :=
  ∀ path file counts state, Ensures (poll path file counts) state fun polled _ =>
    polled.2 = none ∧ polled.1 = counts.add .done ∨
    polled.2.isSome = true ∧ (polled.1 = counts.add .failed ∨ polled.1 = counts)

theorem ensures_then {α β : Type} {first : Exec S Fault α} {next : α → Exec S Fault β} {state : S} {post : β → S → Prop}
    (h : ∀ value after, Ensures (next value) after post) : Ensures (first >>= next) state post :=
  Ensures.bind (fun _ _ _ => trivial : Ensures first state fun _ _ => True) fun value after _ => h value after

theorem countsDone_staged : CountsDone (S := S) (pollStagedFile jsonC) := by
  intro path file counts state
  unfold pollStagedFile
  cases file with
  | object members =>
      dsimp only
      cases (Json.object members).member (lit "error") with
      | some value => exact ensures_then fun text after => Ensures.pure (.inr ⟨rfl, .inl rfl⟩)
      | none =>
          cases (Json.object members).member (lit "onDisk") with
          | some value =>
              refine ensures_then fun text after => Ensures.ite (fun _ => ?_) fun _ => ?_
              · exact Ensures.pure (.inl ⟨rfl, rfl⟩)
              · exact Ensures.pure (.inr ⟨rfl, .inr rfl⟩)
          | none =>
              cases (Json.object members).member (lit "state") with
              | none => exact Ensures.pure (.inr ⟨rfl, .inl rfl⟩)
              | some value =>
                  refine ensures_then fun text after => Ensures.pure ?_
                  unfold pollStagingState
                  split_ifs
                  · exact .inl ⟨rfl, rfl⟩
                  · exact .inr ⟨rfl, .inr rfl⟩
                  · exact .inr ⟨rfl, .inl rfl⟩
                  · exact .inr ⟨rfl, .inl rfl⟩
                  · exact .inr ⟨rfl, .inl rfl⟩
  | _ => exact Ensures.pure (.inr ⟨rfl, .inl rfl⟩)

theorem countsDone_archived : CountsDone (S := S) (pollArchivedFile jsonC) := by
  intro path file counts state
  unfold pollArchivedFile
  refine ensures_then fun read after => ?_
  obtain ⟨locality, err⟩ := read
  cases err with
  | some e => exact Ensures.pure (.inr ⟨rfl, .inl rfl⟩)
  | none =>
      refine Ensures.ite (fun _ => ?_) fun _ => ?_
      · exact Ensures.pure (.inl ⟨rfl, rfl⟩)
      · exact Ensures.pure (.inr ⟨rfl, .inr rfl⟩)

/-- The loop polls its files one after the other. -/
theorem pollFiles_polled {poll : FilePoll S} (hpoll : CountsDone poll) (response : Json) (urls : List CString)
    (counts : PollCounts) (state : S) : Ensures (pollFiles davix jsonC poll response urls counts) state fun polled _ =>
      PolledFiles davix jsonC poll response urls counts polled.1 polled.2 := by
  induction urls generalizing counts state with
  | nil => exact Ensures.pure (.nil counts)
  | cons url rest ih =>
      intro polled last hrun
      obtain ⟨file, found, hitem, hrun⟩ := bind_eq_ok.mp hrun
      obtain ⟨⟨between, error⟩, after, hone, hrun⟩ := bind_eq_ok.mp hrun
      obtain ⟨others, last', hrest, hrun⟩ := bind_eq_ok.mp hrun
      cases hrun
      refine .cons hitem hone ?_ (ih between after others _ hrest)
      rcases hpoll _ _ _ _ _ _ hone with ⟨rfl, rfl⟩ | ⟨herror, hcounts⟩
      · exact iff_of_true rfl rfl
      · refine iff_of_false (Option.isSome_iff_ne_none.mp herror) ?_
        rcases hcounts with rfl | rfl
        · simp [PollCounts.add]
        · simp

theorem PolledFiles.length_eq {poll : FilePoll S} {urls : List CString} {counts after : PollCounts} {errors : ErrorList}
    (h : PolledFiles davix jsonC poll response urls counts after errors) : errors.length = urls.length := by
  induction h with
  | nil => rfl
  | cons _ _ _ _ ih => rw [List.length_cons, List.length_cons, ih]

variable {answered : Json → Prop}

/-- A response that is polled leaves its files so. -/
theorem pollResponse_ends {poll : FilePoll S} (hpoll : CountsDone poll)
    (hanswered : answered response) (urls : List CString) (state : S) :
    Ensures (pollResponse davix jsonC poll response urls) state fun polled _ =>
      PollEnds davix jsonC poll answered urls polled.1 polled.2 := by
  refine (pollFiles_polled davix jsonC hpoll response urls {} state).bind fun polled after h => Ensures.pure ?_
  exact ⟨h.length_eq, .inr ⟨response, polled.1, hanswered, h, rfl⟩⟩

theorem pollEnds_copyErrors (poll : FilePoll S) (answered : Json → Prop) (urls : List CString) (e : GError) :
    PollEnds davix jsonC poll answered urls (copyErrors urls e).1 (copyErrors urls e).2 :=
  ⟨length_copyErrors urls e, .inl (isSome_copyErrors urls e)⟩

theorem readFiles_ends (urls : List CString) (token reqid : CString) {files : Option Json}
    (hanswered : ∀ response ∈ files, answered response) (state : S) :
    Ensures (if reqid = [] then pure (copyErrors urls (tapeError ENOMSG
        (lit "Request ID missing from polling response (expected id=" ++ token ++ lit ")")))
      else if reqid ≠ token then pure (copyErrors urls (tapeError ENOMSG
        (lit "Request ID mismatch. Expected id=" ++ token ++ lit " but received id=" ++ reqid)))
      else match files with
        | none => pure (copyErrors urls (tapeError ENOMSG (lit "Files attribute missing from server poll response")))
        | some files => pollResponse davix jsonC (pollStagedFile jsonC) files urls) state fun polled _ =>
      PollEnds davix jsonC (S := S) (pollStagedFile jsonC) answered urls polled.1 polled.2 := by
  refine Ensures.ite (fun _ => Ensures.pure (pollEnds_copyErrors davix jsonC _ _ urls _)) fun _ => ?_
  refine Ensures.ite (fun _ => Ensures.pure (pollEnds_copyErrors davix jsonC _ _ urls _)) fun _ => ?_
  cases files with
  | none => exact Ensures.pure (pollEnds_copyErrors davix jsonC _ _ urls _)
  | some files => exact pollResponse_ends davix jsonC (countsDone_staged jsonC) (hanswered files rfl) urls state

theorem readStagePoll_ends (urls : List CString) (token : CString)
    (hanswered : ∀ files ∈ response.member (lit "files"), answered files) (state : S) :
    Ensures (readStagePoll davix jsonC urls token response) state fun polled _ =>
      PollEnds davix jsonC (S := S) (pollStagedFile jsonC) answered urls polled.1 polled.2 := by
  refine Ensures.ite (fun _ => Ensures.pure (pollEnds_copyErrors davix jsonC _ _ urls _)) fun _ => ?_
  cases response.member (lit "id") with
  | some id => exact ensures_then fun reqid after => readFiles_ends davix jsonC urls token reqid hanswered after
  | none => exact ensures_then fun reqid after => readFiles_ends davix jsonC urls token reqid hanswered after

/-- What is read of a request without an error was answered to it. -/
theorem expectStatus_answered {request : Callback σ (Except DavixError HttpAnswer)} {status : Int} {failed : CString} {state : TapeState σ} :
    Ensures (expectStatus request status failed) state fun answer _ =>
      answer.err = none → ∃ world, (request world).1 = .ok ⟨status, answer.val⟩ := by
  intro answer after hrun
  obtain ⟨reply, left, hreply, hrun⟩ := bind_eq_ok.mp hrun
  have hanswer : (request state.world).1 = reply := congrArg Prod.fst (Except.ok.inj hreply)
  cases reply with
  | error e =>
      cases hrun
      exact fun h => by cases h
  | ok found =>
      dsimp only at hrun
      split at hrun
      · cases hrun
      · rename_i hcode
        cases hrun
        exact fun _ => ⟨state.world, hanswer.trans (by rw [← not_not.mp hcode])⟩

theorem bringOnlinePollList_ends (urls : List CString) (token : CString) (state : TapeState σ) :
    Ensures (gfalHttpBringOnlinePollList davix jsonC urls token) state fun polled _ =>
      PollEnds davix jsonC (pollStagedFile (S := TapeState σ) jsonC) (PolledOfStage davix jsonC) urls polled.1 polled.2 := by
  refine Ensures.ite (fun h => Ensures.pure ?_) fun _ => ?_
  · subst h
    exact ⟨rfl, .inl (by simp)⟩
  refine Ensures.ite (fun _ => Ensures.pure (pollEnds_copyErrors davix jsonC _ _ urls _)) fun _ => ensures_then fun endpoint found => ?_
  cases endpoint.err with
  | some e => exact Ensures.pure (pollEnds_copyErrors davix jsonC _ _ urls _)
  | none =>
      refine expectStatus_answered.bind fun answer after hanswer => ?_
      cases herr : answer.err with
      | some e => exact Ensures.pure (pollEnds_copyErrors davix jsonC _ _ urls _)
      | none =>
          obtain ⟨world, hworld⟩ := hanswer herr
          refine Ensures.ite (fun _ => Ensures.pure (pollEnds_copyErrors davix jsonC _ _ urls _)) fun _ => ?_
          exact readStagePoll_ends davix jsonC urls token (fun files hfiles => ⟨_, world, _, hworld, hfiles⟩) after

theorem getArchiveinfo_answered (urls : List CString) (state : TapeState σ) :
    Ensures (getArchiveinfo davix jsonC urls) state fun content _ =>
      content.err = none → PolledOfArchive davix jsonC urls (jsonC.tokenerParse content.val) := by
  refine ensures_then fun endpoint found => ?_
  cases endpoint.err with
  | some e => exact Ensures.pure fun h => by cases h
  | none =>
      refine expectStatus_answered.bind fun answer after hanswer => ?_
      cases herr : answer.err with
      | some e => exact Ensures.pure fun h => by cases h
      | none =>
          refine Ensures.pure fun h => ?_
          split at h
          · cases h
          · rename_i hcontent
            obtain ⟨world, hworld⟩ := hanswer herr
            rw [if_neg hcontent]
            exact ⟨_, world, _, hworld, rfl⟩

theorem archivePollList_ends (urls : List CString) (state : TapeState σ) :
    Ensures (gfalHttpArchivePollList davix jsonC urls) state fun polled _ =>
      PollEnds davix jsonC (pollArchivedFile (S := TapeState σ) jsonC) (PolledOfArchive davix jsonC urls) urls polled.1 polled.2 := by
  refine Ensures.ite (fun h => Ensures.pure ?_) fun _ => (getArchiveinfo_answered davix jsonC urls state).bind fun content after hcontent => ?_
  · subst h
    exact ⟨rfl, .inl (by simp)⟩
  cases herr : content.err with
  | some e => exact Ensures.pure (pollEnds_copyErrors davix jsonC _ _ urls _)
  | none =>
      refine Ensures.ite (fun _ => Ensures.pure (pollEnds_copyErrors davix jsonC _ _ urls _)) fun _ => ?_
      exact pollResponse_ends davix jsonC (countsDone_archived jsonC) (hcontent herr) urls after

theorem bringOnlineListV2_ends (urls metadata : List CString) (token : CString) (tsize : Nat) (state : TapeState σ) :
    Ensures (gfalHttpBringOnlineListV2 davix jsonC urls metadata token tsize) state fun staged _ =>
      StagingEnds urls.length staged.1 staged.2.2 := by
  have hrefused : ∀ e, StagingEnds urls.length (copyErrors urls e).1 (copyErrors urls e).2 :=
    fun e => ⟨length_copyErrors urls e, .inl (isSome_copyErrors urls e)⟩
  refine Ensures.ite (fun h => Ensures.pure ?_) fun _ => ?_
  · subst h
    exact ⟨rfl, .inl (by simp)⟩
  cases (metadataFormatChecker jsonC metadata).err with
  | some e => exact Ensures.pure (hrefused _)
  | none =>
      refine ensures_then fun endpoint found => ?_
      cases endpoint.err with
      | some e => exact Ensures.pure (hrefused _)
      | none =>
          refine ensures_then fun answer after => ?_
          cases answer.err with
          | some e => exact Ensures.pure (hrefused _)
          | none =>
              refine Ensures.ite (fun _ => Ensures.pure (hrefused _)) fun _ => ?_
              refine Ensures.ite (fun _ => Ensures.pure (hrefused _)) fun _ => ?_
              cases (jsonC.tokenerParse answer.val).member (lit "requestId") with
              | none => exact Ensures.pure (hrefused _)
              | some id => exact ensures_then fun reqid last => Ensures.pure ⟨by simp, .inr rfl⟩

end Ends

/-- A call to a tape endpoint comes to its end, with an error for every file that is not done, exactly where the
answers to it are safe. -/
theorem tape_calls_robust_iff {σ : Type} (davix : TapeDavix σ) (jsonC : JsonC) (urls metadata : List CString)
    (token : CString) (tsize : Nat) (state : TapeState σ) :
    ((∃ staged state', gfalHttpBringOnlineListV2 davix jsonC urls metadata token tsize state = .ok (staged, state') ∧
        StagingEnds urls.length staged.1 staged.2.2) ↔ SafeStaging davix jsonC urls metadata state) ∧
    ((∃ polled state', gfalHttpBringOnlinePollList davix jsonC urls token state = .ok (polled, state') ∧
        PollEnds davix jsonC (S := TapeState σ) (pollStagedFile jsonC) (PolledOfStage davix jsonC) urls polled.1 polled.2) ↔
      SafeStagePolling davix jsonC urls token state) ∧
    ((∃ polled state', gfalHttpArchivePollList davix jsonC urls state = .ok (polled, state') ∧
        PollEnds davix jsonC (S := TapeState σ) (pollArchivedFile jsonC) (PolledOfArchive davix jsonC urls) urls polled.1 polled.2) ↔
      SafeArchivePolling davix jsonC urls state) := by
  rw [← completes_bringOnlineListV2_iff davix jsonC urls metadata token tsize, ← completes_bringOnlinePollList_iff,
    ← completes_archivePollList_iff]
  refine ⟨⟨?_, ?_⟩, ⟨?_, ?_⟩, ?_, ?_⟩
  · exact fun ⟨staged, state', h, _⟩ => ⟨staged, state', h⟩
  · exact fun h => h.ensures (bringOnlineListV2_ends davix jsonC urls metadata token tsize state)
  · exact fun ⟨polled, state', h, _⟩ => ⟨polled, state', h⟩
  · exact fun h => h.ensures (bringOnlinePollList_ends davix jsonC urls token state)
  · exact fun ⟨polled, state', h, _⟩ => ⟨polled, state', h⟩
  · exact fun h => h.ensures (archivePollList_ends davix jsonC urls state)

/-- An answer to a request to stage files in which the name of the request is null. -/
def namelessText : CString := lit "\x7b\"requestId\": null\x7d"

/-- A name that is null is taken for a string. -/
theorem null_request_name_dereferenced :
    ¬∀ (davix : TapeDavix Unit) (jsonC : JsonC) (urls metadata : List CString) (token : CString) (tsize : Nat)
      (state : TapeState Unit), ∃ staged state',
        gfalHttpBringOnlineListV2 davix jsonC urls metadata token tsize state = .ok (staged, state') ∧
        StagingEnds urls.length staged.1 staged.2.2 := by
  intro h
  obtain ⟨staged, state', hrun, -⟩ := h (answeringTape 201 namelessText)
    (tokenerOf namelessText (.object [(lit "requestId", .null)])) [lit "https://h/f"] [[]] [] 37 knownEndpoint
  cases hrun

end Gfal2
