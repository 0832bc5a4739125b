import Gfal2.SrmRequests
import Gfal2.Base.Ledger

/-! What the services have granted to a copy by the SRM plugin, and what becomes of it: a granted request is open until
it is finished under its token. -/

namespace Gfal2

open Base Exec Throwing

/-- The service grants the request for its file. -/
def PinAnswer.Granted (answer : PinAnswer) : Bool := answer.statuses.head?.any fun status => status.status = 0

structure SrmGrant where
  purpose : SrmPurpose
  protocols : List CString
  answer : PinAnswer

/-- The TURL has a protocol that was asked for. -/
def SrmGrant.Valid (grant : SrmGrant) : Prop :=
  ∀ status ∈ grant.answer.statuses.head?, validateTurls grant.protocols (convertFilestatus status grant.answer.token) = none

/-- The token is handed on with the TURL. -/
def SrmGrant.Kept (grant : SrmGrant) : Prop := grant.purpose ≠ .checksum ∧ grant.Valid

def SrmExchange.grant : SrmReqType → SrmExchange → Option SrmGrant
  | .get, .prepareToGet purpose _ protocols (.ok answer) => if answer.Granted then some ⟨purpose, protocols, answer⟩ else none
  | .put, .prepareToPut _ protocols _ (.ok answer) => if answer.Granted then some ⟨.access, protocols, answer⟩ else none
  | _, _ => none

/-- The token of a request that is finished. -/
def SrmExchange.finishes : SrmReqType → SrmExchange → Option (Option CString)
  | .get, .releaseFiles _ token => some token
  | .put, .putDone _ token _ => some token
  | .put, .abortRequest token => some (some token)
  | _, _ => none

/-- A granted request is open under its token. -/
def SrmExchange.entry (reqType : SrmReqType) (request : SrmExchange) : Option (LedgerEntry (Option CString)) :=
  match request.grant reqType with
  | some grant => some (.opened grant.answer.token)
  | none => (request.finishes reqType).map .closed

/-- The tokens of what is granted and not finished, or nothing if something is finished that is not open. -/
def unfinished (reqType : SrmReqType) (made : SrmHistory) : Option (Multiset (Option CString)) :=
  settle 0 (made.filterMap (SrmExchange.entry reqType))

/-- The transfer of a file came to a good end. -/
def SrmExchange.Transferred : SrmExchange → Prop
  | .copyFile _ _ _ failed => failed = none
  | .closeHandle _ closed => closed.val = 0
  | _ => False

/-- A file is said to be written right after its transfer, and only if that came to a good end. -/
def DoneAfterTransfer (made : SrmHistory) : Prop :=
  ∀ earlier path token answer later, made = earlier ++ .putDone path token answer :: later →
    ∃ before transfer surl, earlier = before ++ [transfer, .context .putDone surl true] ∧ transfer.Transferred

/-! ### The record of what is granted -/

/-- A context is asked for to give up what was granted. -/
def SrmExchange.givesUp : SrmReqType → SrmExchange → Bool
  | .get, .context .release _ _ => true
  | .put, .context .abort _ _ => true
  | _, _ => false

/-- The request counts for what is granted. -/
def SrmExchange.tracked (reqType : SrmReqType) (request : SrmExchange) : Bool :=
  (request.entry reqType).isSome || request.givesUp reqType

/-- Between the two states the requests that count are these. -/
def SrmTracks (reqType : SrmReqType) (before after : Gfal2Context SrmWorld) (kept : SrmHistory) : Prop :=
  ∃ made, after.world.made = before.world.made ++ made ∧ made.filter (·.tracked reqType) = kept

section SrmTracks

variable {reqType : SrmReqType} {before middle after : Gfal2Context SrmWorld} {kept kept' : SrmHistory}

theorem SrmTracks.trans (hfirst : SrmTracks reqType before middle kept) (hlast : SrmTracks reqType middle after kept') :
    SrmTracks reqType before after (kept ++ kept') := by
  obtain ⟨made, hmade, rfl⟩ := hfirst
  obtain ⟨made', hmade', rfl⟩ := hlast
  exact ⟨made ++ made', by rw [hmade', hmade, List.append_assoc], List.filter_append made made'⟩

theorem SrmTracks.of_made {made : SrmHistory} (h : after.world.made = before.world.made ++ made) :
    SrmTracks reqType before after (made.filter (·.tracked reqType)) := ⟨made, h, rfl⟩

theorem SrmTracks.refl (context : Gfal2Context SrmWorld) : SrmTracks reqType context context [] := ⟨[], by simp, rfl⟩

/-- What is to be avoided with all that counts but for some requests makes only those. -/
theorem SrmTracks.of_avoids {spared : SrmExchange → Prop}
    (h : Avoids (fun request => request.tracked reqType = true ∧ ¬spared request) before after) :
    ∃ kept, SrmTracks reqType before after kept ∧ ∀ request ∈ kept, spared request := by
  obtain ⟨made, hmade, havoids⟩ := h
  refine ⟨_, .of_made hmade, fun request hmem => ?_⟩
  obtain ⟨hmem, htracked⟩ := List.mem_filter.mp hmem
  by_contra hnot
  exact havoids request hmem ⟨htracked, hnot⟩

theorem SrmTracks.nothing (h : Avoids (fun request => request.tracked reqType = true) before after) :
    SrmTracks reqType before after [] := by
  obtain ⟨made, hmade, havoids⟩ := h
  exact ⟨made, hmade, List.filter_eq_nil_iff.mpr havoids⟩

theorem filterMap_filter_tracked (made : SrmHistory) :
    (made.filter (·.tracked reqType)).filterMap (SrmExchange.entry reqType) = made.filterMap (SrmExchange.entry reqType) := by
  rw [List.filterMap_filter]
  congr 1
  funext request
  unfold SrmExchange.tracked
  cases request.entry reqType with
  | none => cases request.givesUp reqType <;> rfl
  | some entry => rfl

end SrmTracks

theorem SparesQueries.mono {avoided avoided' : SrmExchange → Prop} (spares : SparesQueries avoided)
    (himp : ∀ request, avoided' request → avoided request) : SparesQueries avoided' :=
  ⟨fun hpurpose h => spares.context hpurpose (himp _ h), fun h => spares.xping (himp _ h), fun _ h => spares.ls _ (himp _ h),
    fun _ h => spares.mkdir _ (himp _ h), fun _ h => spares.stat _ (himp _ h), fun _ _ h => spares.getxattr _ _ (himp _ h),
    fun _ _ h => spares.checksum _ _ (himp _ h), fun _ _ _ _ h => spares.copyFile _ _ _ _ (himp _ h)⟩

theorem spares_tracked (reqType : SrmReqType) : SparesQueries fun request => request.tracked reqType = true := by
  constructor
  case context =>
      intro purpose surl available hpurpose
      cases reqType <;> cases purpose <;> simp [SrmExchange.tracked, SrmExchange.entry, SrmExchange.grant, SrmExchange.finishes,
        SrmExchange.givesUp, SrmPurpose.EndsRequest] at hpurpose ⊢
  all_goals
    intros
    cases reqType <;> simp [SrmExchange.tracked, SrmExchange.entry, SrmExchange.grant, SrmExchange.finishes,
      SrmExchange.givesUp]

/-! ### The parts of a copy -/

def errorOf {α : Type} : Except GError α → Option GError
  | .ok _ => none
  | .error e => some e

/-- The ways a copy comes to its clean-up, by the parts it has been through. -/
inductive CopyRun (servers : SrmServers) (params : GfaltParams) (source dest : CString) (context : Gfal2Context SrmWorld) :
    CopyEnd → Gfal2Context SrmWorld → Prop
  | misconfigured (e : GError) : CopyRun servers params source dest context { error := some e } context
  | unchecked {cfg : SrmChecksumConfig} {e : GError} {left : Gfal2Context SrmWorld}
      (hchecksum : (copyChecked.sourceChecksum servers cfg source).run context = .ok (.error e, left)) :
      CopyRun servers params source dest context { error := some e } left
  | unresolved {cfg : SrmChecksumConfig} {checksumSource : CString} {e : GError} {checked left : Gfal2Context SrmWorld}
      (hchecksum : (copyChecked.sourceChecksum servers cfg source).run context = .ok (.ok checksumSource, checked))
      (hsource : (copyResolved.resolveSource servers source dest).run checked = .ok (.error e, left)) :
      CopyRun servers params source dest context { error := some e } left
  | refused {cfg : SrmChecksumConfig} {checksumSource turlSource tokenSource : CString} {size : Int} {e : GError}
      {checked resolved left : Gfal2Context SrmWorld}
      (hchecksum : (copyChecked.sourceChecksum servers cfg source).run context = .ok (.ok checksumSource, checked))
      (hsource : (copyResolved.resolveSource servers source dest).run checked = .ok (.ok (size, turlSource, tokenSource), resolved))
      (hput : (srmResolvePutTurl servers params dest source size).run resolved = .ok (.error e, left)) :
      CopyRun servers params source dest context { tokenSource := tokenSource, error := some e } left
  | untransferred {cfg : SrmChecksumConfig} {checksumSource turlSource tokenSource turlDestination tokenDestination : CString}
      {size : Int} {e : GError} {checked resolved granted left : Gfal2Context SrmWorld}
      (hchecksum : (copyChecked.sourceChecksum servers cfg source).run context = .ok (.ok checksumSource, checked))
      (hsource : (copyResolved.resolveSource servers source dest).run checked = .ok (.ok (size, turlSource, tokenSource), resolved))
      (hput : (srmResolvePutTurl servers params dest source size).run resolved =
        .ok (.ok (turlDestination, tokenDestination), granted))
      (htransfer : (copyBetweenTurls.transfer servers params dest turlSource turlDestination tokenDestination).run granted =
        .ok (.error e, left)) :
      CopyRun servers params source dest context ⟨tokenSource, tokenDestination, false, some e⟩ left
  | transferred {cfg : SrmChecksumConfig} {checksumSource turlSource tokenSource turlDestination tokenDestination : CString}
      {size : Int} {outcome : Except GError Unit} {checked resolved granted closed left : Gfal2Context SrmWorld}
      (hchecksum : (copyChecked.sourceChecksum servers cfg source).run context = .ok (.ok checksumSource, checked))
      (hsource : (copyResolved.resolveSource servers source dest).run checked = .ok (.ok (size, turlSource, tokenSource), resolved))
      (hput : (srmResolvePutTurl servers params dest source size).run resolved =
        .ok (.ok (turlDestination, tokenDestination), granted))
      (htransfer : (copyBetweenTurls.transfer servers params dest turlSource turlDestination tokenDestination).run granted =
        .ok (.ok (), closed))
      (htarget : (copyBetweenTurls.checkTarget servers cfg dest checksumSource).run closed = .ok (outcome, left)) :
      CopyRun servers params source dest context ⟨tokenSource, tokenDestination, true, errorOf outcome⟩ left

section Parts

variable {servers : SrmServers} {params : GfaltParams} {source dest : CString} {context left : Gfal2Context SrmWorld}

theorem copyChecked_run {done : CopyEnd} (h : copyChecked servers params source dest context = .ok (done, left)) :
    CopyRun servers params source dest context done left := by
  rw [copyChecked, bind_of_ok (get_apply context)] at h
  cases hcfg : srmGetChecksumConfig servers context.config params with
  | error e =>
      rw [hcfg] at h
      cases h
      exact .misconfigured e
  | ok cfg =>
      rw [hcfg] at h
      obtain ⟨checked, entered, hchecksum, h⟩ := bind_eq_ok.mp h
      cases checked with
      | error e =>
          cases h
          exact .unchecked hchecksum
      | ok checksumSource =>
          obtain ⟨resolved, middle, hsource, h⟩ := bind_eq_ok.mp h
          cases resolved with
          | error e =>
              cases h
              exact .unresolved hchecksum hsource
          | ok turls =>
              obtain ⟨size, turlSource, tokenSource⟩ := turls
              obtain ⟨granted, readied, hput, h⟩ := bind_eq_ok.mp h
              cases granted with
              | error e =>
                  cases h
                  exact .refused hchecksum hsource hput
              | ok destination =>
                  obtain ⟨transferred, closed, htransfer, h⟩ := bind_eq_ok.mp h
                  cases transferred with
                  | error e =>
                      cases h
                      exact .untransferred hchecksum hsource hput htransfer
                  | ok _ =>
                      obtain ⟨outcome, final, htarget, h⟩ := bind_eq_ok.mp h
                      cases outcome with
                      | error e =>
                          cases h
                          exact .transferred hchecksum hsource hput htransfer htarget
                      | ok _ =>
                          cases h
                          exact .transferred hchecksum hsource hput htransfer htarget

/-- A copy that is cleaned up goes through its parts and ends with the clean-up. -/
theorem srmPluginFilecopy_run (hcleanup : params.transferCleanup = true) {ret : Ret Int} {final : Gfal2Context SrmWorld}
    (h : srmPluginFilecopy servers params source dest context = .ok (ret, final)) :
    ∃ entered done left, CopyRun servers params source dest entered done left ∧
      srmCleanupCopy servers source dest done left = .ok ((), final) ∧
      ∀ avoided, SparesQueries avoided → Avoids avoided context entered := by
  obtain ⟨_, hacked, hhack, h⟩ := bind_eq_ok.mp h
  obtain ⟨_, entered, hevent, h⟩ := bind_eq_ok.mp h
  obtain ⟨done, left, hdone, h⟩ := bind_eq_ok.mp h
  refine ⟨entered, done, left, copyChecked_run hdone, ?_, fun avoided spares => ?_⟩
  · dsimp only at h
    rw [if_pos hcleanup] at h
    obtain ⟨_, cleaned, hcleaned, hret⟩ := bind_eq_ok.mp h
    cases hret
    exact hcleaned
  · refine Avoids.trans _ _ _ (castorGridftpSessionHack_stays spares servers source dest _ _ _ hhack) ?_
    exact Stays.event _ _ _ _ _ _ _ hevent

end Parts

/-! ### The requests for TURLs -/

/-- What a request for a TURL comes to, by what is granted. -/
inductive Granting (reqType : SrmReqType) {β : Type} (claims : Option CString → β → Prop) : SrmHistory → Except GError β → Prop
  | nothing (e : GError) : Granting reqType claims [] (.error e)
  | rejected {request : SrmExchange} {grant : SrmGrant} (e : GError) (hgrant : request.grant reqType = some grant)
      (hinvalid : ¬grant.Valid) : Granting reqType claims [request] (.error e)
  | granted {request : SrmExchange} {grant : SrmGrant} {value : β} (hgrant : request.grant reqType = some grant)
      (hkept : grant.Kept) (hclaims : claims grant.answer.token value) : Granting reqType claims [request] (.ok value)

section Turls

variable {servers : SrmServers} {params : GfaltParams} {context context' : Gfal2Context SrmWorld} {reqType : SrmReqType}
  {surl : CString} {protocols : List CString} {size : Int}

theorem grant_exchange (reqType : SrmReqType) (protocols : List CString) (size : Int) (path : CString) (answer : PinAnswer) :
    (reqType.exchange .access path protocols size (.ok answer)).grant reqType =
      if answer.Granted then some ⟨.access, protocols, answer⟩ else none := by
  cases reqType <;> rfl

theorem finishes_exchange (path : CString) (answer : Except GError PinAnswer) :
    (reqType.exchange .access path protocols size answer).finishes reqType = none := by
  cases reqType <;> rfl

/-- A request that is not granted does not count. -/
theorem filter_of_refused {path : CString} {answer : Except GError PinAnswer}
    (h : (reqType.exchange .access path protocols size answer).grant reqType = none) (available : Bool) :
    [SrmExchange.context .access surl available, reqType.exchange .access path protocols size answer].filter
      (·.tracked reqType) = [] := by
  have hcontext : (SrmExchange.context .access surl available).tracked reqType = false := by cases reqType <;> rfl
  have hrequest : (reqType.exchange .access path protocols size answer).tracked reqType = false := by
    have hgives : (reqType.exchange .access path protocols size answer).givesUp reqType = false := by cases reqType <;> rfl
    simp [SrmExchange.tracked, SrmExchange.entry, h, finishes_exchange, hgives]
  simp [hcontext, hrequest]

theorem filter_of_granted {path : CString} {answer : Except GError PinAnswer} {grant : SrmGrant}
    (h : (reqType.exchange .access path protocols size answer).grant reqType = some grant) (available : Bool) :
    [SrmExchange.context .access surl available, reqType.exchange .access path protocols size answer].filter
      (·.tracked reqType) = [reqType.exchange .access path protocols size answer] := by
  have hcontext : (SrmExchange.context .access surl available).tracked reqType = false := by cases reqType <;> rfl
  have hrequest : (reqType.exchange .access path protocols size answer).tracked reqType = true := by
    simp [SrmExchange.tracked, SrmExchange.entry, h]
  simp [hcontext, hrequest]

theorem granted_iff {answer : PinAnswer} {status : PinFileStatus} (hstatus : answer.statuses.head? = some status) :
    answer.Granted = true ↔ status.status = 0 := by
  simp [PinAnswer.Granted, hstatus]

/-- An operation that goes on with the result of a request for a TURL. -/
theorem turls_granting {β : Type} {f : GfalSrmResult → β} {g : GfalSrmResult → GError} {claims : Option CString → β → Prop}
    (hclaims : ∀ resu, claims resu.reqtoken (f resu)) {outcome : Except GError β}
    (h : (do
      let resu ← gfalSrmMTurlsInternal servers .access reqType protocols size surl
      if resu.errCode = 0 then return f resu else throw (g resu) : SrmThrowing β).run context = .ok (outcome, context')) :
    ∃ kept, SrmTracks reqType context context' kept ∧ Granting reqType claims kept outcome := by
  rcases run_bind_eq_ok h with ⟨e, hthrown, rfl⟩ | ⟨resu, middle, hresu, hrest⟩
  · obtain ⟨made, hmade, houtcome⟩ := gfalSrmMTurlsInternal_eq_ok hthrown
    refine ⟨_, .of_made hmade, ?_⟩
    cases houtcome with
    | noContext e =>
        have hnone : [SrmExchange.context .access surl false].filter (·.tracked reqType) = [] := by cases reqType <;> rfl
        rw [hnone]
        exact .nothing _
    | refused e' =>
        rw [filter_of_refused (by cases reqType <;> rfl)]
        exact .nothing _
    | invalid answer status e hstatus hvalid =>
        by_cases hzero : status.status = 0
        · have hgrant := grant_exchange reqType protocols size (gfal2SrmGetDecodedPath surl) answer
          rw [if_pos ((granted_iff hstatus).mpr hzero)] at hgrant
          rw [filter_of_granted hgrant]
          refine .rejected _ hgrant fun hok => ?_
          rw [hok status hstatus] at hvalid
          cases hvalid
        · rw [filter_of_refused (by rw [grant_exchange, if_neg fun hgranted => hzero ((granted_iff hstatus).mp hgranted)])]
          exact .nothing _
  · obtain ⟨made, hmade, houtcome⟩ := gfalSrmMTurlsInternal_eq_ok hresu
    cases houtcome with
    | valid answer status hstatus hvalid =>
        by_cases hzero : (convertFilestatus status answer.token).errCode = 0
        · rw [if_pos hzero] at hrest
          cases hrest
          have hgrant := grant_exchange reqType protocols size (gfal2SrmGetDecodedPath surl) answer
          rw [if_pos ((granted_iff hstatus).mpr hzero)] at hgrant
          refine ⟨_, .of_made hmade, ?_⟩
          rw [filter_of_granted hgrant]
          refine .granted hgrant ⟨fun hpurpose => (by cases hpurpose), fun other hother => ?_⟩
            (hclaims (convertFilestatus status answer.token))
          rw [hstatus] at hother
          cases hother
          exact hvalid
        · rw [if_neg hzero] at hrest
          cases hrest
          refine ⟨_, .of_made hmade, ?_⟩
          rw [filter_of_refused (by rw [grant_exchange, if_neg fun hgranted => hzero ((granted_iff hstatus).mp hgranted)])]
          exact .nothing _

/-- What a request that failed comes to does not depend on how the failure is told. -/
theorem Granting.of_error {β γ : Type} {claims : Option CString → β → Prop} {claims' : Option CString → γ → Prop} {kept : SrmHistory}
    {e : GError} (h : Granting reqType claims kept (.error e)) (e' : GError) : Granting reqType claims' kept (.error e') := by
  cases h with
  | nothing => exact .nothing e'
  | rejected _ hgrant hinvalid => exact .rejected e' hgrant hinvalid

/-- A TURL for a third party copy comes with as much of its token as there is room for. -/
def ClaimsToken (token : Option CString) (turls : CString × CString) : Prop := turls.2 = (token.getD []).take 2047

variable {outcome : Except GError (CString × CString)}

theorem rd3Turl_granting {otherSurl : CString}
    (h : (rd3Turl servers reqType size surl otherSurl).run context = .ok (outcome, context')) :
    ∃ kept, SrmTracks reqType context context' kept ∧ Granting reqType ClaimsToken kept outcome :=
  turls_granting (f := fun resu => (resu.turl, (resu.reqtoken.getD []).take 2047)) (g := rd3TurlError) (fun _ => rfl) h

theorem withNote_granting {side note : CString} {body : SrmThrowing (CString × CString)}
    (hbody : ∀ {outcome left}, body.run context = .ok (outcome, left) →
      ∃ kept, SrmTracks reqType context left kept ∧ Granting reqType ClaimsToken kept outcome)
    (h : (withNote side note body).run context = .ok (outcome, context')) :
    ∃ kept, SrmTracks reqType context context' kept ∧ Granting reqType ClaimsToken kept outcome := by
  rcases run_catch_eq_ok h with ⟨value, hvalue, rfl⟩ | ⟨e, left, hthrown, hhandled⟩
  · exact hbody hvalue
  · cases hhandled
    obtain ⟨kept, htracks, hgranting⟩ := hbody hthrown
    exact ⟨kept, htracks, hgranting.of_error _⟩

/-- A request for a TURL with its event, after what does not count. -/
theorem resolve_granting {side note : CString} {domain : GQuark} {eventSide : GfalEventSide} {stage : CString}
    {description : CString → CString} {body : SrmThrowing (CString × CString)}
    (hbody : ∀ {outcome left}, body.run context = .ok (outcome, left) →
      ∃ kept, SrmTracks reqType context left kept ∧ Granting reqType ClaimsToken kept outcome)
    (h : (do
      let (turl, token) ← withNote side note body
      srmEvent domain eventSide stage (description turl)
      return (turl, token) : SrmThrowing (CString × CString)).run context = .ok (outcome, context')) :
    ∃ kept, SrmTracks reqType context context' kept ∧ Granting reqType ClaimsToken kept outcome := by
  rcases run_bind_eq_ok h with ⟨e, hthrown, rfl⟩ | ⟨⟨turl, token⟩, left, hturl, hrest⟩
  · obtain ⟨kept, htracks, hgranting⟩ := withNote_granting hbody hthrown
    exact ⟨kept, htracks, hgranting.of_error e⟩
  · obtain ⟨kept, htracks, hgranting⟩ := withNote_granting hbody hturl
    cases hrest
    refine ⟨kept ++ [], htracks.trans ⟨[], (by simp), rfl⟩, ?_⟩
    rw [List.append_nil]
    exact hgranting

end Turls

end Gfal2
