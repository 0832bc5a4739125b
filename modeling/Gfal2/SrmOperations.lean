import Gfal2.SrmOpen
import Gfal2.SrmRequests

/-! The operations of the SRM plugin that no copy is made of: where every request is allowed they too stay within the relations
that its steps keep. -/

namespace Gfal2

open Base Exec Throwing

/-- `gfal_srm_archive_poll_listG`: the value, and the errors of the files. -/
def gfalSrmArchivePollListG (servers : SrmServers) (surls : List CString) : Srm (Int × ErrorList) := do
  if surls = [] then return (1, [])
  let polled ← pollAll surls
  let ontape := polled.countP fun answer => ¬failed answer ∧ answer.val = 1
  let errors := polled.countP failed
  return (if ontape = surls.length then 1 else if errors = surls.length then -1
    else if ontape + errors = surls.length then 2 else 0, polled.map Ret.err)
where
  failed (answer : Ret Int) : Bool := answer.err.any fun e => e.code ≠ EAGAIN
  pollAll : List CString → Srm (List (Ret Int))
    | [] => return []
    | surl :: rest => do
        let answer ← gfalSrmArchivePollG servers surl
        let answers ← pollAll rest
        return answer :: answers

section Opening

variable {allowed : SrmExchange → Prop} {related : Gfal2Context SrmWorld → Gfal2Context SrmWorld → Prop}
  [laws : SrmLaws allowed related] (allows : AllowsQueries allowed) (servers : SrmServers)

include allows

theorem castorOpenHack_stays (path : CString) : Stays related (castorOpenHack servers path) := by
  refine (isCastorEndpoint_stays allows servers path).bind fun castor => ?_
  exact Within.ite (fun _ => Stays.modify (fun _ => rfl) fun _ => rfl) fun _ => Stays.pure _

theorem turlsPlugin_stays (reqType : SrmReqType) (path : CString) (buffLen : Nat)
    (hrequest : ∀ path answer, allowed (reqType.exchange .access path servers.turlProtocols 0 answer)) :
    Stays related (turlsPlugin servers reqType path buffLen).run := by
  refine Stays.andThen (gfalSrmMTurlsInternal_stays allows servers rfl rfl _ _ _ fun decoded answer => ?_) fun _ =>
    within_ite (fun _ => Stays.return _) fun _ => Stays.throw _
  cases reqType with
  | get => exact hrequest decoded answer
  | put => exact hrequest decoded answer

end Opening

section Everything

variable {α : Type} {allowed : SrmExchange → Prop} {related : Gfal2Context SrmWorld → Gfal2Context SrmWorld → Prop}
  [laws : SrmLaws allowed related] (all : ∀ request, allowed request) (servers : SrmServers)

theorem allowsTransfer_of_all (all : ∀ request, allowed request) : AllowsTransfer allowed where
  context _ := all _
  xping := all _
  ls _ := all _
  mkdir _ := all _
  stat _ := all _
  getxattr _ _ := all _
  checksum _ _ := all _
  copyFile _ _ _ _ := all _
  prepareToGet _ _ _ _ := all _
  putDone _ _ _ := all _

include laws

/-- A throw goes before what follows without one. -/
theorem stays_guard {p : Prop} [Decidable p] {e : GError} {next : Unit → SrmThrowing α} (hnext : Stays related (next ()).run) :
    Stays related (if p then throw e >>= next else next () : SrmThrowing α).run :=
  within_ite (fun _ => Stays.andThen (Stays.throw _) fun _ => hnext) fun _ => hnext

include all

/-! ### Names -/

section Names

theorem gfalSrmAccessG_stays (surl : CString) (mode : Int) : Stays related (gfalSrmAccessG servers surl mode).run := by
  refine withEasyContext_stays servers surl rfl (all _) fun easy => Stays.andThen (Stays.call (fun _ => all _) _ fun _ => rfl) fun resu => ?_
  exact within_ite (fun _ => Stays.throw _) fun _ => Stays.return _

theorem gfalSrmChmodG_stays (path : CString) (mode : Nat) : Stays related (gfalSrmChmodG servers path mode).run := by
  refine withEasyContext_stays servers path rfl (all _) fun easy => Stays.andThen (Stays.cache _).lift fun _ => ?_
  exact stays_guard (Stays.call (fun _ => all _) _ fun _ => rfl)

theorem gfalSrmMkdirG_stays (surl : CString) (pflag : Bool) : Stays related (gfalSrmMkdirG servers surl pflag).run := by
  have allows : AllowsQueries allowed := (allowsTransfer_of_all all).toAllowsQueries
  refine within_ite (fun _ => gfalSrmMkdirRecG_stays allows servers surl) fun _ => ?_
  refine withEasyContext_stays servers surl rfl (all _) fun easy => ?_
  refine Stays.andThen (isDirectory_stays allows servers easy) fun found => ?_
  cases found with
  | some _ => exact Stays.throw _
  | none => exact Stays.call (fun _ => all _) _ fun _ => rfl

theorem gfalSrmRenameG_stays (oldurl urlnew : CString) : Stays related (gfalSrmRenameG servers oldurl urlnew).run := by
  refine withEasyContext_stays servers oldurl rfl (all _) fun easy => Stays.andThen (Stays.cache _).lift fun _ => ?_
  exact Stays.call (fun _ => all _) _ fun _ => rfl

theorem gfalSrmRmdirG_stays (surl : CString) : Stays related (gfalSrmRmdirG servers surl).run := by
  have allows : AllowsQueries allowed := (allowsTransfer_of_all all).toAllowsQueries
  refine withEasyContext_stays servers surl rfl (all _) fun easy => ?_
  refine Stays.andThen (gfalStatG_stays allows servers easy _) fun xstat => within_ite (fun _ => ?_) fun _ => Stays.throw _
  refine Stays.andThen (Stays.cache _).lift fun _ => Stays.andThen (Stays.call (fun _ => all _) _ fun _ => rfl) fun status => ?_
  exact within_ite (fun _ => Stays.throw _) fun _ => Stays.return _

theorem gfalSrmUnlinkListG_stays (surls : List CString) : Stays related (gfalSrmUnlinkListG servers surls) := by
  have allows : AllowsQueries allowed := (allowsTransfer_of_all all).toAllowsQueries
  have hforget : ∀ surls, Stays related (gfalSrmUnlinkListG.forget surls) := by
    intro surls
    induction surls with
    | nil => exact Stays.pure _
    | cons surl rest ih => exact (Stays.cache _).bind fun _ => ih
  have hremove : ∀ made, Stays related (gfalSrmUnlinkListG.remove servers surls made) := by
    intro made
    cases made with
    | none => exact Stays.pure _
    | some easy =>
        refine (hforget surls).bind fun _ => Stays.bind (Stays.call (fun _ => all _) _ fun _ => rfl) fun answer => ?_
        refine Within.ite (fun _ => ?_) fun _ => Stays.pure _
        exact (rmErrors_stays allows servers easy _ _).bind fun _ => Stays.pure _
  cases surls with
  | nil => exact Stays.fault _
  | cons surl rest => exact laws.releasing rfl (all _) fun made => hremove made.val

theorem gfalSrmReaddirppG_stays (oh : SrmOpendirHandle) : Stays related (gfalSrmReaddirppG servers oh) := by
  have hconvert : ∀ parent status, Stays related (gfalSrmReaddirConvertResult parent status) := by
    intro parent status
    have hadd : Stays related (gfalSrmCacheStatAdd (entryNames parent status.surl).1 ⟨status.stat, status.locality⟩) := Stays.cache _
    unfold gfalSrmReaddirConvertResult
    dsimp only
    split
    · exact Stays.bind (Stays.fault _) fun _ => hadd.bind fun _ => Stays.pure _
    · exact hadd.bind fun _ => Stays.pure _
  have hnext : ∀ oh, Stays related (nextEntry oh) := by
    intro oh
    unfold nextEntry
    cases oh.srmFileStatuses.bind (·.subpaths[oh.responseIndex]?) with
    | none => exact Stays.pure _
    | some status => exact (hconvert _ _).bind fun _ => Within.ite (fun _ => Stays.pure _) fun _ => Stays.pure _
  have hinternal : ∀ oh, Stays related (gfalSrmReaddirInternal servers oh) := by
    intro oh
    refine Stays.bind (Stays.call (fun _ => all _) _ fun _ => rfl) fun answer => ?_
    cases answer with
    | error e => exact Stays.pure _
    | ok listing => exact Within.ite (fun _ => Stays.pure _) fun _ => Stays.pure _
  have hpipeline : ∀ oh, Stays related (gfalSrmReaddirPipeline servers oh) := by
    intro oh
    unfold gfalSrmReaddirPipeline
    cases oh.srmFileStatuses with
    | some listing => exact hnext oh
    | none =>
        refine (hinternal oh).bind fun answer => ?_
        obtain ⟨e | _, oh⟩ := answer
        · exact Stays.pure _
        · exact hnext oh
  refine (hpipeline oh).bind fun answer => ?_
  obtain ⟨e | entry, oh⟩ := answer
  · refine Within.ite (fun _ => Within.ite (fun _ => Stays.pure _) fun _ => ?_) fun _ => Stays.pure _
    exact (hpipeline _).bind fun _ => Stays.pure _
  · exact Stays.pure _

end Names

/-! ### Attributes -/

section Attributes

omit all in
theorem lengthOf_stays {text : SrmThrowing CString} (h : Stays related text.run) : Stays related (lengthOf text) := by
  refine Stays.bind h fun answer => ?_
  cases answer with
  | ok value => exact Stays.pure _
  | error e => exact Stays.pure _

theorem gfalSrmGeturlGetxattrG_stays (path : CString) (buffLen : Nat) :
    Stays related (gfalSrmGeturlGetxattrG servers path buffLen).run := by
  have allows : AllowsQueries allowed := (allowsTransfer_of_all all).toAllowsQueries
  have hturl : Stays related (do
      let granted ← gfalSrmGetTurlsPlugin servers path buffLen
      return granted.1 : SrmThrowing CString).run := by
    refine Stays.andThen (turlsPlugin_stays allows servers .get path buffLen fun _ _ => all _) fun answer => ?_
    exact Stays.return _
  refine Stays.andThen Stays.get.lift fun context => within_ite (fun _ => ?_) fun _ => hturl
  exact Stays.andThen (gfalSrmStatusGetxattrG_stays allows servers path 1024) fun status => stays_guard hturl

theorem gfalSrmSpaceGetxattrG_stays (path name : CString) : Stays related (gfalSrmSpaceGetxattrG servers path name) := by
  have hproperty : ∀ subprop, Stays related (gfalSrmSpaceGetxattrG.property servers path subprop) := by
    intro subprop
    refine laws.releasing rfl (all _) fun made => ?_
    obtain ⟨_ | easy, err⟩ := made
    · exact Stays.pure _
    · exact Stays.call (fun _ => all _) _ fun _ => rfl
  unfold gfalSrmSpaceGetxattrG
  dsimp only
  split
  · exact hproperty _
  · exact hproperty _
  · exact Stays.pure _

/-- Every attribute but the type of the endpoint. -/
theorem gfalSrmGetxattrG_stays (path : CString) {name : CString} (buffLen : Nat) (hname : name ≠ lit "srm.type") :
    Stays related (gfalSrmGetxattrG servers path name buffLen) := by
  have allows : AllowsQueries allowed := (allowsTransfer_of_all all).toAllowsQueries
  refine Within.ite (fun _ => Within.ite (fun _ => Stays.pure _) fun _ => ?_) fun _ => Within.ite (fun _ => ?_) fun _ =>
    Within.ite (fun htype => absurd htype hname) fun _ => Within.ite (fun _ => ?_) fun _ => Stays.pure _
  · exact lengthOf_stays (gfalSrmGeturlGetxattrG_stays all servers path buffLen)
  · exact lengthOf_stays (gfalSrmStatusGetxattrG_stays allows servers path buffLen)
  · exact gfalSrmSpaceGetxattrG_stays all servers path name

theorem gfalSrmChecksumG_stays (url checkType : CString) (bufferLength : Nat) (wholeFile : Bool) :
    Stays related (gfalSrmChecksumGFallback servers url checkType bufferLength wholeFile true).run :=
  fallback_stays (allowsTransfer_of_all all).toAllowsQueries servers (fun _ _ _ => all _) url checkType bufferLength wholeFile true

end Attributes

/-! ### Files on tape -/

section Tape

theorem gfalSrmArchivePollG_stays (surl : CString) : Stays related (gfalSrmArchivePollG servers surl) := by
  have allows : AllowsQueries allowed := (allowsTransfer_of_all all).toAllowsQueries
  refine Stays.bind (gfalSrmStatusGetxattrG_stays allows servers surl 1024) fun answer => ?_
  cases answer with
  | error e => exact Stays.pure _
  | ok status => exact Within.ite (fun _ => Stays.pure _) fun _ => Stays.pure _

theorem gfalSrmArchivePollListG_stays (surls : List CString) : Stays related (gfalSrmArchivePollListG servers surls) := by
  have hall : ∀ surls, Stays related (gfalSrmArchivePollListG.pollAll servers surls) := by
    intro surls
    induction surls with
    | nil => exact Stays.pure _
    | cons surl rest ih => exact (gfalSrmArchivePollG_stays all servers surl).bind fun _ => ih.bind fun _ => Stays.pure _
  exact Within.ite (fun _ => Stays.pure _) fun _ => (hall surls).bind fun _ => Stays.pure _

omit all in
theorem statusIndex_stays (statuses : List PinFileStatus) (surl : CString) : Stays related (statusIndex statuses surl) := by
  induction statuses with
  | nil => exact Stays.pure _
  | cons status rest ih =>
      unfold statusIndex
      split
      · exact Stays.fault _
      · exact Stays.pure _
      · exact ih

theorem gfalSrmv2BringOnlineInternal_stays (easy : GfalSrmEasy) (surls : List CString) (token : CString) (tsize : Nat)
    (async : Bool) : Stays related (gfalSrmv2BringOnlineInternal servers easy surls token tsize async) := by
  have hloop : ∀ statuses counts surls, Stays related (bringOnlineLoop statuses counts surls) := by
    intro statuses counts surls
    induction surls generalizing counts with
    | nil => exact Stays.pure _
    | cons surl rest ih =>
        refine (statusIndex_stays statuses surl).bind fun found => ?_
        cases found with
        | none => exact ih _
        | some status => exact Within.ite (fun _ => ih _) fun _ => Within.ite (fun _ => ih _) fun _ => ih _
  refine Stays.bind (Stays.call (fun _ => all _) _ fun _ => rfl) fun answer => ?_
  cases answer with
  | error e => exact Stays.pure _
  | ok answer => exact (hloop _ _ _).bind fun _ => Stays.pure _

theorem gfalSrmv2BringOnlinePollInternal_stays (easy : GfalSrmEasy) (surls : List CString) (token : CString) :
    Stays related (gfalSrmv2BringOnlinePollInternal servers easy surls token) := by
  have hloop : ∀ statuses counts surls, Stays related (bringOnlinePollLoop statuses counts surls) := by
    intro statuses counts surls
    induction surls generalizing counts with
    | nil => exact Stays.pure _
    | cons surl rest ih =>
        refine (statusIndex_stays statuses surl).bind fun found => ?_
        cases found with
        | none => exact ih _
        | some status =>
            refine Within.ite (fun _ => ih _) fun _ => Within.ite (fun _ => ?_) fun _ => ih _
            cases statuses[counts.errors.length]? with
            | some placed => exact ih _
            | none => exact Stays.fault _
  refine Stays.bind (Stays.call (fun _ => all _) _ fun _ => rfl) fun answer => ?_
  cases answer with
  | error e => exact Stays.pure _
  | ok statuses => exact (hloop _ _ _).bind fun _ => Stays.pure _

/-- The operations that report on their files by the places of the answer. -/
theorem placed_stays (easy : GfalSrmEasy) (surls : List CString) {answer : SrmHistory → Except GError (List SrmFileStatus)}
    {request : SrmExchange} {error : List SrmFileStatus → SrmFileStatus → GError} {finish : ErrorList → Int × ErrorList}
    (hcontext : request.IsContext = false) : Stays related (do
      match ← easy.call answer fun _ => request with
      | .error e => return (-1, surls.map fun _ => some e)
      | .ok statuses => do
          let errors ← placedErrors (error statuses) surls statuses
          return finish errors : Srm (Int × ErrorList)) := by
  refine Stays.bind (Stays.call (fun _ => all _) _ fun _ => hcontext) fun answer => ?_
  cases answer with
  | error e => exact Stays.pure _
  | ok statuses => exact (placedErrors_stays _ _ _).bind fun _ => Stays.pure _

theorem singleWithContext_stays (surl : CString) {body : GfalSrmEasy → List CString → Srm (Int × ErrorList)}
    (hbody : ∀ easy surls, Stays related (body easy surls)) : Stays related (singleWithContext servers surl body) := by
  refine Stays.bind (withEasyContext_stays servers surl rfl (all _) fun easy => ?_) fun _ => Stays.pure _
  exact (hbody _ _).bind fun _ => Stays.pure _

/-- Without a context the services have no answer. -/
theorem listWithContext_stays {surls : List CString} {failed : Option GError → α} {body : GfalSrmEasy → List CString → Srm α}
    (hbody : ∀ easy surls, Stays related (body easy surls))
    (hnone : ∀ easy surls, easy.srmContext = none → ∀ context, ¬Exec.Completes (body easy surls) context) :
    Stays related (listWithContext servers surls failed body) := by
  cases surls with
  | nil => exact Stays.fault _
  | cons surl rest => exact laws.releasingSome rfl (all _) (fun easy => hbody easy _) fun easy => hnone easy _

theorem gfalSrmv2BringOnlineG_stays (surl token : CString) (tsize : Nat) (async : Bool) :
    Stays related (gfalSrmv2BringOnlineG servers surl token tsize async) :=
  singleWithContext_stays all servers surl fun easy _ =>
    (gfalSrmv2BringOnlineInternal_stays all servers easy _ token tsize async).bind fun _ => Stays.pure _

theorem gfalSrmv2BringOnlinePollG_stays (surl token : CString) : Stays related (gfalSrmv2BringOnlinePollG servers surl token) :=
  singleWithContext_stays all servers surl fun easy _ => gfalSrmv2BringOnlinePollInternal_stays all servers easy _ token

theorem gfalSrmv2BringOnlineListG_stays (surls : List CString) (token : CString) (tsize : Nat) (async : Bool) :
    Stays related (gfalSrmv2BringOnlineListG servers surls token tsize async) :=
  listWithContext_stays all servers (fun easy surls => gfalSrmv2BringOnlineInternal_stays all servers easy surls token tsize async)
    fun _ _ => not_completes_call

theorem gfalSrmv2BringOnlinePollListG_stays (surls : List CString) (token : CString) :
    Stays related (gfalSrmv2BringOnlinePollListG servers surls token) :=
  listWithContext_stays all servers (fun easy surls => gfalSrmv2BringOnlinePollInternal_stays all servers easy surls token)
    fun _ _ => not_completes_call

theorem gfalSrmv2ReleaseFileListG_stays (surls : List CString) (token : Option CString) :
    Stays related (gfalSrmv2ReleaseFileListG servers surls token) :=
  listWithContext_stays all servers (fun easy surls => placed_stays all easy surls rfl) fun _ _ => not_completes_call

theorem gfalSrm2AbortFilesG_stays (surls : List CString) (token : Option CString) :
    Stays related (gfalSrm2AbortFilesG servers surls token) :=
  listWithContext_stays all servers (fun easy surls => placed_stays all easy surls rfl) fun _ _ => not_completes_call

end Tape

/-! ### Files -/

section Files

theorem cleanupCopy_stays (source dest : CString) (done : CopyEnd) : Stays related (srmCleanupCopy servers source dest done) := by
  have allows : AllowsQueries allowed := (allowsTransfer_of_all all).toAllowsQueries
  refine Stays.bind (rollback_stays allows servers dest done (all _) (all _) fun _ _ => ⟨fun _ => all _, all _⟩)
    fun _ => Within.ite (fun _ => ?_) fun _ => Stays.pure _
  exact (gfalSrmv2ReleaseFileG_stays servers source _ (all _) fun _ => all _).bind fun _ => Stays.pure _

theorem srmPluginFilecopy_stays (params : GfaltParams) (source dest : CString) :
    Stays related (srmPluginFilecopy servers params source dest) := by
  have allows : AllowsTransfer allowed := allowsTransfer_of_all all
  have hput : ∀ size, Stays related (srmResolvePutTurl servers params dest source size).run := fun size =>
    srmResolvePutTurl_stays allows.toAllowsQueries servers dest source size (fun _ => all _) fun _ _ _ => all _
  refine (castorGridftpSessionHack_stays allows.toAllowsQueries servers source dest).bind fun _ => (Stays.event _ _ _ _).bind fun _ => ?_
  refine (copyChecked_stays allows servers source dest hput).bind fun done => ?_
  exact Within.ite (fun _ => (cleanupCopy_stays all servers source dest done).bind fun _ => Stays.pure _) fun _ => Stays.pure _

theorem gfalSrmOpenG_stays (path : CString) (flag mode : Nat) : Stays related (gfalSrmOpenG servers path flag mode).run := by
  have allows : AllowsQueries allowed := (allowsTransfer_of_all all).toAllowsQueries
  have hturls : ∀ reqType, Stays related (gfalSrmOpenG.turls servers path reqType).run := by
    intro reqType
    cases reqType with
    | get => exact turlsPlugin_stays allows servers .get path 2048 fun _ _ => all _
    | put => exact turlsPlugin_stays allows servers .put path 2048 fun _ _ => all _
  refine Stays.andThen (castorOpenHack_stays allows servers path).lift fun _ => Stays.andThen (hturls _) fun turl => ?_
  exact Stays.andThen (Stays.exchange (fun _ => all _) _ fun _ => rfl) fun fh => Stays.return _

theorem gfalSrmCloseG_stays (sh : GfalSrmHandleOpen) : Stays related (gfalSrmCloseG servers sh) := by
  have allows : AllowsQueries allowed := (allowsTransfer_of_all all).toAllowsQueries
  have hfinish : ∀ reqType, Stays related (gfalSrmCloseG.finish servers sh reqType) := by
    intro reqType
    cases reqType with
    | get => exact gfalSrmv2ReleaseFileG_stays servers sh.surl sh.reqtoken (all _) fun _ => all _
    | put =>
        refine Stays.bind (gfalSrmPutdone_stays allows servers sh.surl sh.reqtoken fun _ _ => all _) fun answer => ?_
        cases answer with
        | ok value => exact Stays.pure _
        | error e => exact Stays.pure _
  refine Stays.bind (Stays.exchange (fun _ => all _) _ fun _ => rfl) fun closed => Within.ite (fun _ => ?_) fun _ => Stays.pure _
  exact (hfinish _).bind fun _ => Stays.pure _

end Files

end Everything

end Gfal2
