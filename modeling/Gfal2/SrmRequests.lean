import Gfal2.SrmCopy

/-! What the operations of the SRM plugin do between the state they start in and the one they end in. A relation that is kept
by the steps of the plugin is kept by its operations, as long as the requests they make are allowed: that no request is made
that is to be avoided is one such relation. -/

namespace Gfal2

open Base Exec Throwing

/-- A context is asked for to give up what a service has granted. -/
def SrmPurpose.EndsRequest : SrmPurpose → Bool
  | .abort | .release => true
  | _ => false

/-- A context that is asked for is released in any case, whether there is one or not. -/
def SrmPurpose.Released : SrmPurpose → Bool
  | .list | .ping | .storageType | .directory => false
  | _ => true

def SrmExchange.IsContext : SrmExchange → Bool
  | .context .. => true
  | _ => false

section Laws

variable {α β : Type}

/-- What is done with a context, which is released in any case. -/
def releasing (servers : SrmServers) (surl : CString) (purpose : SrmPurpose) (use : Ret (Option GfalSrmEasy) → Srm α) : Srm α := do
  let made ← srmEasyContext servers surl purpose
  let answer ← use made
  srmEasyContextRelease
  return answer

/-- What is done with a context if there is one, and only then released. -/
def releasingSome (servers : SrmServers) (surl : CString) (purpose : SrmPurpose) (failed : Option GError → α)
    (body : GfalSrmEasy → Srm α) : Srm α := do
  match ← srmEasyContext servers surl purpose with
  | ⟨none, err⟩ => return failed err
  | ⟨some easy, _⟩ => do
      let answer ← body easy
      srmEasyContextRelease
      return answer

/-- A relation between states that the steps of the plugin keep, with the requests that are allowed. -/
class SrmLaws (allowed : outParam (SrmExchange → Prop)) (related : Gfal2Context SrmWorld → Gfal2Context SrmWorld → Prop) : Prop where
  refl : ∀ context, related context context
  trans : ∀ a b c, related a b → related b c → related a c
  update : ∀ {before after : Gfal2Context SrmWorld}, after.world.made = before.world.made →
    after.world.plugin.opts = before.world.plugin.opts → related before after
  exchange : ∀ {α : Type} (answer : SrmHistory → α) (record : α → SrmExchange), (∀ value, allowed (record value)) →
    (∀ value, (record value).IsContext = false) → Within related (exchange answer record : Srm α)
  releasing : ∀ {α : Type} {servers : SrmServers} {surl : CString} {purpose : SrmPurpose} {use : Ret (Option GfalSrmEasy) → Srm α},
    purpose.Released = true → (∀ {available}, allowed (.context purpose surl available)) → (∀ made, Within related (use made)) →
    Within related (releasing servers surl purpose use)
  releasingSome : ∀ {α : Type} {servers : SrmServers} {surl : CString} {purpose : SrmPurpose} {failed : Option GError → α}
    {body : GfalSrmEasy → Srm α}, purpose.Released = false → (∀ {available}, allowed (.context purpose surl available)) →
    (∀ easy, Within related (body easy)) → (∀ easy, easy.srmContext = none → ∀ context, ¬Exec.Completes (body easy) context) →
    Within related (releasingSome servers surl purpose failed body)

/-- The requests that only ask, those that make directories, and the transfer are allowed. -/
structure AllowsQueries (allowed : SrmExchange → Prop) : Prop where
  context : ∀ {purpose surl available}, purpose.EndsRequest = false → allowed (.context purpose surl available)
  xping : allowed .xping
  ls : ∀ path, allowed (.ls path)
  mkdir : ∀ path, allowed (.mkdir path)
  stat : ∀ url, allowed (.stat url)
  getxattr : ∀ url name, allowed (.getxattr url name)
  checksum : ∀ url type, allowed (.checksum url type)
  copyFile : ∀ src dst params failed, allowed (.copyFile src dst params failed)

/-- So are the requests for a source, and that a destination is written. -/
structure AllowsTransfer (allowed : SrmExchange → Prop) : Prop extends AllowsQueries allowed where
  prepareToGet : ∀ purpose path protocols answer, allowed (.prepareToGet purpose path protocols answer)
  putDone : ∀ path token answer, allowed (.putDone path token answer)

/-- The operation stays within the relation. -/
def Stays (related : Gfal2Context SrmWorld → Gfal2Context SrmWorld → Prop) (operation : Srm α) : Prop := Within related operation

variable {allowed : SrmExchange → Prop} {related : Gfal2Context SrmWorld → Gfal2Context SrmWorld → Prop} [laws : SrmLaws allowed related]

include laws

theorem Stays.pure (value : α) : Stays related (Pure.pure value : Srm α) := Within.pure laws.refl value

omit laws in
theorem Stays.fault (reason : Fault) : Stays related (Exec.fault reason : Srm α) := Within.fault reason

theorem Stays.get : Stays related (Exec.get : Srm _) := Within.get laws.refl

theorem Stays.bind {first : Srm α} {next : α → Srm β} (hfirst : Stays related first) (hnext : ∀ value, Stays related (next value)) :
    Stays related (first >>= next) :=
  Within.bind laws.trans hfirst hnext

theorem Stays.throw (e : GError) : Stays related (throw e : SrmThrowing α).run := within_throw laws.refl e

theorem Stays.return (value : α) : Stays related (Pure.pure value : SrmThrowing α).run := within_pure laws.refl value

theorem Stays.lift {operation : Srm α} (h : Stays related operation) : Stays related (liftM operation : SrmThrowing α).run :=
  within_lift laws.trans laws.refl h

theorem Stays.andThen {first : SrmThrowing α} {next : α → SrmThrowing β} (hfirst : Stays related first.run)
    (hnext : ∀ value, Stays related (next value).run) : Stays related (first >>= next).run :=
  within_bind laws.trans hfirst hnext

theorem Stays.tryCatch {body : SrmThrowing α} {handler : GError → SrmThrowing α} (hbody : Stays related body.run)
    (hhandler : ∀ e, Stays related (handler e).run) : Stays related (tryCatch body handler).run :=
  within_tryCatch laws.trans hbody hhandler

/-- What changes neither the record of requests nor the options of the plugin. -/
theorem Stays.modify {f : Gfal2Context SrmWorld → Gfal2Context SrmWorld} (hmade : ∀ context, (f context).world.made = context.world.made)
    (hopts : ∀ context, (f context).world.plugin.opts = context.world.plugin.opts) : Stays related (Exec.modify f) :=
  Within.modify fun context => laws.update (hmade context) (hopts context)

theorem Stays.exchange {record : α → SrmExchange} (h : ∀ value, allowed (record value)) (answer : SrmHistory → α)
    (hcontext : ∀ value, (record value).IsContext = false) :
    Stays related (exchange answer record : Srm α) :=
  laws.exchange answer record h hcontext

theorem Stays.request {request : SrmExchange} (h : allowed request) (answer : SrmHistory → α)
    (hcontext : request.IsContext = false) : Stays related (makeRequest request answer : Srm α) :=
  laws.exchange answer (fun _ => request) (fun _ => h) fun _ => hcontext

theorem Stays.call {easy : GfalSrmEasy} {record : α → SrmExchange} (h : ∀ value, allowed (record value))
    (answer : SrmHistory → α) (hcontext : ∀ value, (record value).IsContext = false) :
    Stays related (easy.call answer record) :=
  Within.ite (fun _ => laws.exchange answer record h hcontext) fun _ => Within.fault _

theorem Stays.event (domain : GQuark) (side : GfalEventSide) (stage description : CString) :
    Stays related (pluginTriggerEvent domain side stage description : Srm Unit) :=
  Stays.modify (fun _ => rfl) fun _ => rfl

theorem Stays.canceled : Stays related (gfal2IsCanceled : Srm Bool) := by
  intro context value context' heq
  cases heq
  exact laws.update rfl rfl

theorem Stays.startScope : Stays related (gfal2StartScopeCancel : Srm (Ret Int)) := by
  refine Stays.canceled.bind fun cancelled => Within.ite (fun _ => Stays.pure _) fun _ => ?_
  exact Stays.bind (Stays.modify (fun _ => rfl) fun _ => rfl) fun _ => Stays.pure _

theorem Stays.endScope : Stays related (gfal2EndScopeCancel : Srm Unit) := Stays.modify (fun _ => rfl) fun _ => rfl

theorem Stays.scope {retErrValue : α} {body : Srm (Ret α)} (hbody : Stays related body) :
    Stays related (scopeCancel retErrValue body) := by
  refine Stays.startScope.bind fun started => Within.ite (fun _ => Stays.pure _) fun _ => ?_
  exact hbody.bind fun _ => Stays.endScope.bind fun _ => Stays.pure _

theorem Stays.inScope {body : SrmThrowing α} (hbody : Stays related body.run) : Stays related (inCancelScope body).run := by
  refine Stays.startScope.bind fun started => ?_
  obtain ⟨val, err⟩ := started
  cases err with
  | some e => exact Stays.pure _
  | none => exact hbody.bind fun _ => Stays.endScope.bind fun _ => Stays.pure _

theorem Stays.cache (f : StatCache → StatCache) : Stays related (modifyCache f) := Stays.modify (fun _ => rfl) fun _ => rfl

theorem takeCached_stays (surl : CString) : Stays related (takeCached surl) :=
  Stays.get.bind fun _ => (Stays.cache _).bind fun _ => Stays.pure _

end Laws

/-! ### Requests to be avoided -/

variable {purpose : SrmPurpose}

section Avoids

variable {α : Type} {avoided : SrmExchange → Prop}

/-- The operation makes no request to be avoided. -/
abbrev SrmAvoids (avoided : SrmExchange → Prop) (operation : Srm α) : Prop := Stays (Avoids avoided) operation

/-- The requests that only ask, those that make directories, and the transfer are not to be avoided. -/
abbrev SparesQueries (avoided : SrmExchange → Prop) : Prop := AllowsQueries fun request => ¬avoided request

/-- Neither are the requests for a source, nor that a destination is written. -/
abbrev SparesTransfer (avoided : SrmExchange → Prop) : Prop := AllowsTransfer fun request => ¬avoided request

theorem srmEasyContext_within {servers : SrmServers} {surl : CString}
    (hcontext : ∀ {available}, ¬avoided (.context purpose surl available)) :
    Within (Avoids avoided) (srmEasyContext servers surl purpose) := by
  intro context made context' h
  rw [srmEasyContext, bind_of_ok (get_apply context)] at h
  cases heasy : gfalSrmIfceEasyContext context.srmOpts (servers.context surl context.world.made) surl with
  | mk answer opts =>
      rw [heasy] at h
      cases h
      exact ⟨_, rfl, by simpa using hcontext⟩

theorem srmEasyContextRelease_within : Within (Avoids avoided) srmEasyContextRelease :=
  Within.modify fun _ => Avoids.of_made_eq rfl

instance : SrmLaws (fun request => ¬avoided request) (Avoids avoided : Gfal2Context SrmWorld → Gfal2Context SrmWorld → Prop) where
  refl := Avoids.refl
  trans := Avoids.trans
  update hmade _ := Avoids.of_made_eq hmade
  exchange _ _ h _ := exchange_within h
  releasing _ hcontext huse := by
    refine (srmEasyContext_within hcontext).bind Avoids.trans fun made => (huse made).bind Avoids.trans fun _ => ?_
    exact srmEasyContextRelease_within.bind Avoids.trans fun _ => Within.pure Avoids.refl _
  releasingSome _ hcontext hbody _ := by
    refine (srmEasyContext_within hcontext).bind Avoids.trans fun made => ?_
    rcases made with ⟨_ | easy, err⟩
    · exact Within.pure Avoids.refl _
    · refine (hbody easy).bind Avoids.trans fun _ => ?_
      exact srmEasyContextRelease_within.bind Avoids.trans fun _ => Within.pure Avoids.refl _

end Avoids

variable {easy : GfalSrmEasy} {reqType : SrmReqType}

/-- Without a context there is no answer. -/
theorem not_completes_call {α β : Type} {answer : SrmHistory → α} {record : α → SrmExchange} {next : α → Srm β}
    (hnone : easy.srmContext = none) (context : Gfal2Context SrmWorld) : ¬Exec.Completes (easy.call answer record >>= next) context := by
  intro h
  obtain ⟨value, context', hcall, -⟩ := completes_bind_iff.mp h
  rw [GfalSrmEasy.call, hnone] at hcall
  cases hcall

section Operations

variable {α : Type} {allowed : SrmExchange → Prop} {related : Gfal2Context SrmWorld → Gfal2Context SrmWorld → Prop}
  [laws : SrmLaws allowed related] (allows : AllowsQueries allowed) (servers : SrmServers)

include laws

/-- With a context an operation makes the requests of its body. -/
theorem withEasyContext_stays (surl : CString) {body : GfalSrmEasy → SrmThrowing α}
    (hreleased : purpose.Released = true) (hcontext : ∀ {available}, allowed (.context purpose surl available))
    (hbody : ∀ easy, Stays related (body easy).run) : Stays related (withEasyContext servers surl body purpose).run := by
  have heasy : ∀ made, Stays related (withEasyContext.easyBody servers made body) := by
    rintro ⟨val, err⟩
    cases val with
    | none => exact Stays.pure _
    | some easy => exact (hbody easy).bind fun _ => Stays.pure _
  exact laws.releasing hreleased hcontext heasy

include allows

theorem gfalStatG_stays (easy : GfalSrmEasy) (surl : CString) :
    Stays related (gfalStatGSrmv2GenericInternal servers easy surl).run := by
  have hask : Stays related (do
      let entry ← easy.ask (.ls surl) (servers.ls surl)
      if entry.status ≠ 0 then
        throw (srmIfceError entry.status entry.explanation)
      return (⟨gfalSrmAdjustTime servers.timezoneOffset entry.stat, entry.locality⟩ : ExtendedStat) : SrmThrowing _).run := by
    refine Stays.andThen (Stays.call (fun _ => allows.ls surl) _ fun _ => rfl) fun entry => ?_
    dsimp only
    split
    · exact Stays.andThen (Stays.throw _) fun _ => Stays.return _
    · exact Stays.return _
  unfold gfalStatGSrmv2GenericInternal
  dsimp only
  split
  · exact Stays.andThen (Stays.throw _) fun _ => hask
  · exact hask

theorem gfalSrmStatG_stays (surl : CString) : Stays related (gfalSrmStatG servers surl).run := by
  refine Stays.andThen (takeCached_stays surl).lift fun found => ?_
  cases found with
  | some xstat => exact Stays.return _
  | none =>
      refine withEasyContext_stays servers surl rfl (allows.context rfl) fun easy => ?_
      refine Stays.andThen (gfalStatG_stays allows servers easy _) fun xstat => ?_
      exact Stays.andThen (Stays.cache _).lift fun _ => Stays.return _

theorem gfalSrmStatusGetxattrG_stays (surl : CString) (buffLen : Nat) :
    Stays related (gfalSrmStatusGetxattrG servers surl buffLen).run := by
  refine withEasyContext_stays servers surl rfl (allows.context rfl) fun easy => ?_
  refine Stays.andThen (takeCached_stays _).lift fun found => ?_
  cases found with
  | some xstat => exact Stays.return _
  | none => exact Stays.andThen (gfalStatG_stays allows servers easy _) fun _ => Stays.return _

theorem isDirectory_stays (easy : GfalSrmEasy) : Stays related (isDirectory servers easy).run := by
  refine Stays.bind (gfalStatG_stays allows servers easy _) fun answer => ?_
  cases answer with
  | ok xstat => exact Stays.pure _
  | error e => exact Stays.pure _

theorem gfalSrmMkdirRecG_stays (surl : CString) : Stays related (gfalSrmMkdirRecG servers surl).run := by
  refine withEasyContext_stays servers surl rfl (allows.context rfl) fun easy => ?_
  refine Stays.andThen (isDirectory_stays allows servers easy) fun found => ?_
  rcases found with _ | ⟨_ | _⟩
  · exact Stays.tryCatch (Stays.call (fun _ => allows.mkdir _) _ fun _ => rfl) fun e =>
      within_ite (fun _ => Stays.return _) fun _ => Stays.throw _
  · exact Stays.throw _
  · exact Stays.return _

omit allows laws in
/-- The context is released once the service has answered. -/
theorem isCastorEndpoint_eq (surl : CString) : isCastorEndpoint servers surl = if ¬srmCheckUrl surl then pure 0 else
      releasingSome servers surl .ping (fun _ => -1) fun easy => do
        let answer ← easy.call servers.xping fun _ => .xping
        return match answer with
          | .error _ => -1
          | .ok extra => if (backendType extra).any fun type => type.map Char.toUpper = lit "CASTOR" then 1 else 0 := by
  unfold isCastorEndpoint releasingSome
  refine if_congr Iff.rfl rfl (bind_congr fun made => ?_)
  obtain ⟨_ | easy, err⟩ := made
  · rfl
  · have hleft : ∀ (ask : Srm (Except GError (List (CString × CString)))) (grade : Except GError (List (CString × CString)) → Int),
        (ask >>= fun answer => srmEasyContextRelease >>= fun _ => pure (grade answer)) =
          (ask >>= fun answer => pure (grade answer)) >>= fun answer => srmEasyContextRelease >>= fun _ => pure answer := by
      intro ask grade
      rw [bind_assoc]
      exact bind_congr fun answer => by rw [pure_bind]
    exact hleft _ _

theorem isCastorEndpoint_stays (surl : CString) : Stays related (isCastorEndpoint servers surl) := by
  rw [isCastorEndpoint_eq]
  refine Within.ite (fun _ => Stays.pure _) fun _ => ?_
  refine laws.releasingSome rfl (allows.context rfl) (fun easy => ?_) fun easy hnone context hcompletes => ?_
  · exact Stays.bind (Stays.call (fun _ => allows.xping) _ fun _ => rfl) fun _ => Stays.pure _
  · exact not_completes_call hnone context hcompletes

theorem castorGridftpSessionHack_stays (src dst : CString) : Stays related (castorGridftpSessionHack servers src dst) := by
  refine (isCastorEndpoint_stays allows servers src).bind fun srcIsCastor => ?_
  refine (isCastorEndpoint_stays allows servers dst).bind fun dstIsCastor => ?_
  exact Within.ite (fun _ => Stays.modify (fun _ => rfl) fun _ => rfl) fun _ => Stays.pure _

theorem srmChecksum_stays (url : CString) (bufferLength : Nat) (wholeFile : Bool) :
    Stays related (srmChecksum servers url bufferLength wholeFile) := by
  refine Within.ite (fun _ => ?_) fun _ => Stays.pure _
  refine Stays.bind (withEasyContext_stays servers url rfl (allows.context rfl) fun easy => ?_) fun _ => Stays.pure _
  have hask : ∀ found : _ → SrmThrowing (CString × CString), (∀ entry, Stays related (found entry).run) → Stays related (do
      let entry ← easy.ask (.ls easy.path) (servers.ls easy.path)
      if entry.status ≠ 0 then
        throw (srmIfceError entry.status entry.explanation)
      found entry : SrmThrowing (CString × CString)).run := by
    intro found hfound
    refine Stays.andThen (Stays.call (fun _ => allows.ls _) _ fun _ => rfl) fun entry => ?_
    dsimp only
    split
    · exact Stays.andThen (Stays.throw _) fun _ => hfound entry
    · exact hfound entry
  dsimp only
  split
  · refine Stays.andThen (Stays.throw _) fun _ => hask _ fun entry => ?_
    split
    · exact Stays.return _
    · exact Stays.return _
  · refine hask _ fun entry => ?_
    split
    · exact Stays.return _
    · exact Stays.return _

/-- A checksum that is not taken from a TURL needs no TURL. -/
theorem gfalSrmChecksumGFallback_stays (url checkType : CString) (bufferLength : Nat) (wholeFile turlFallback : Bool)
    (hturl : turlFallback = true → Stays related (checksumOfTurl servers url checkType bufferLength).run) :
    Stays related (gfalSrmChecksumGFallback servers url checkType bufferLength wholeFile turlFallback).run := by
  have hwithout : Stays related (gfalSrmChecksumGFallback.withoutSrm servers url checkType bufferLength turlFallback) :=
    Within.ite hturl fun _ => Stays.pure _
  refine (srmChecksum_stays allows servers url bufferLength wholeFile).bind fun answer => ?_
  rcases answer with e | _ | ⟨checksum, type⟩
  · exact Stays.pure _
  · exact hwithout
  · exact Within.ite (fun _ => Stays.pure _) fun _ => hwithout

theorem gfal2StatSize_stays (url : CString) : Stays related (gfal2StatSize servers url).run := by
  refine Stays.inScope (within_ite (fun _ => ?_) fun _ => Stays.request (allows.stat url) _ rfl)
  exact Stays.andThen (gfalSrmStatG_stays allows servers url) fun _ => Stays.return _

theorem sourceSize_stays (source : CString) : Stays related (sourceSize servers source).run :=
  Stays.tryCatch (gfal2StatSize_stays allows servers source) fun _ => Stays.return _

theorem checkSourceOnline_stays (source : CString) : Stays related (checkSourceOnline servers source).run := by
  refine Stays.andThen Stays.get.lift fun context => ?_
  refine within_ite (fun _ => ?_) fun _ => Stays.return _
  have hstatus : Stays related (gfal2GetxattrStatus servers source).run :=
    Stays.inScope (within_ite (fun _ => gfalSrmStatusGetxattrG_stays allows servers source 1024)
      fun _ => Stays.request (allows.getxattr _ _) _ rfl)
  refine Stays.andThen hstatus fun status => ?_
  have honline : Stays related (if status = lit "NEARLINE" then
      throw (sourceNotOnline (lit "The source file is not ONLINE")) else Pure.pure () : SrmThrowing Unit).run :=
    within_ite (fun _ => Stays.throw _) fun _ => Stays.return _
  dsimp only
  split
  · exact Stays.andThen (Stays.throw _) fun _ => honline
  · exact honline

omit allows in
theorem Stays.withNote {side note : CString} {body : SrmThrowing α} (hbody : Stays related body.run) :
    Stays related (withNote side note body).run :=
  Stays.tryCatch hbody fun _ => Stays.throw _

omit allows in
theorem Stays.betweenEvents {side : GfalEventSide} {body : SrmThrowing α} (hbody : Stays related body.run) :
    Stays related (betweenEvents side body).run :=
  (Stays.event _ _ _ _).bind fun _ => hbody.bind fun _ => (Stays.event _ _ _ _).bind fun _ => Stays.pure _

theorem srmPluginCreateParentCopy_stays (params : GfaltParams) (surl : CString) :
    Stays related (srmPluginCreateParentCopy servers params surl).run := by
  refine within_ite (fun _ => ?_) fun _ => Stays.return _
  cases srmParent surl with
  | none => exact Stays.throw _
  | some parent => exact gfalSrmMkdirRecG_stays allows servers parent

omit allows in
theorem gfalSrmCheckCancel_stays : Stays related gfalSrmCheckCancel.run :=
  Stays.andThen Stays.canceled.lift fun _ => within_ite (fun _ => Stays.throw _) fun _ => Stays.return _

/-- A request for TURLs makes its own request and no other. -/
theorem gfalSrmMTurlsInternal_stays {purpose : SrmPurpose} (hreleased : purpose.Released = true)
    (hpurpose : purpose.EndsRequest = false)
    (protocols : List CString) (size : Int) (surl : CString) (hrequest : ∀ path answer, match reqType with
      | .get => allowed (.prepareToGet purpose path protocols answer)
      | .put => allowed (.prepareToPut path protocols size answer)) :
    Stays related (gfalSrmMTurlsInternal servers purpose reqType protocols size surl).run := by
  refine Stays.andThen (withEasyContext_stays servers surl hreleased (allows.context hpurpose) fun easy => ?_) fun result => ?_
  · have hprepare : Stays related (turlsSrmv2Internal.prepare servers purpose easy reqType protocols size).run := by
      cases reqType with
      | get => exact Stays.call (hrequest _) _ fun _ => rfl
      | put => exact Stays.call (hrequest _) _ fun _ => rfl
    refine Stays.andThen hprepare fun answer => ?_
    cases answer.statuses with
    | nil => exact (Stays.fault _).lift
    | cons status rest => exact Stays.return _
  · cases validateTurls protocols result with
    | some e => exact Stays.throw _
    | none => exact Stays.return _

theorem srmResolveGetTurl_stays (surl otherSurl : CString)
    (hget : ∀ path protocols answer, allowed (.prepareToGet .access path protocols answer)) :
    Stays related (srmResolveGetTurl servers surl otherSurl).run := by
  refine within_ite (fun _ => ?_) fun _ => Stays.return _
  have hrd3 : Stays related (gfalSrmGetRd3Turl servers surl otherSurl).run :=
    Stays.andThen (gfalSrmMTurlsInternal_stays allows servers rfl rfl _ _ _ fun _ _ => hget _ _ _) fun _ =>
      within_ite (fun _ => Stays.return _) fun _ => Stays.throw _
  refine Stays.andThen (Stays.withNote hrd3) fun answer => ?_
  exact Stays.andThen (Stays.event _ _ _ _).lift fun _ => Stays.return _

theorem checksumOfTurl_stays (url checkType : CString) (bufferLength : Nat)
    (hget : ∀ path protocols answer, allowed (.prepareToGet .checksum path protocols answer)) :
    Stays related (checksumOfTurl servers url checkType bufferLength).run := by
  have hturl : Stays related (gfalSrmGetTurlChecksum servers url).run :=
    Stays.andThen (gfalSrmMTurlsInternal_stays allows servers rfl rfl _ _ _ fun _ _ => hget _ _ _) fun _ =>
      within_ite (fun _ => Stays.return _) fun _ => Stays.throw _
  have hchecksum : ∀ resTurl, Stays related (do
      let checksum ← inCancelScope (askLibrary (.checksum resTurl checkType) (servers.checksum resTurl checkType))
      return checksum.take (bufferLength - 1) : SrmThrowing CString).run := fun resTurl =>
    Stays.andThen (Stays.inScope (Stays.request (allows.checksum _ _) _ rfl)) fun _ => Stays.return _
  unfold checksumOfTurl
  dsimp only
  split
  · exact Stays.andThen hturl hchecksum
  · exact Stays.andThen (Stays.return _) hchecksum

theorem rmErrors_stays (easy : GfalSrmEasy) (surls : List CString) (statuses : List SrmFileStatus) :
    Stays related (rmErrors servers easy surls statuses) := by
  induction surls generalizing statuses with
  | nil => exact Stays.pure _
  | cons surl surls ih =>
      cases statuses with
      | nil => exact Stays.pure _
      | cons status statuses =>
          have hisdir : Stays related (gfalSrmRmSrmv2Isdir servers easy surl) := by
            refine Stays.bind (Stays.call (fun _ => allows.ls surl) _ fun _ => rfl) fun answer => ?_
            cases answer with
            | ok entry => exact Stays.pure _
            | error e => exact Stays.pure _
          have hcode : Stays related (rmErrors.rmCode servers easy surl status) := by
            refine Within.ite (fun _ => hisdir.bind fun directory => ?_) fun _ => Stays.pure _
            exact Within.ite (fun _ => Stays.pure _) fun _ => Stays.pure _
          have hrest : ∀ error, Stays related (do
              let rest ← rmErrors servers easy surls statuses
              return error :: rest : Srm ErrorList) := fun error => Stays.bind (ih statuses) fun _ => Stays.pure _
          unfold rmErrors
          dsimp only
          split
          · exact Stays.bind (Stays.pure _) hrest
          · exact Stays.bind hcode fun _ => hrest _

/-- The removal of a file makes the one request to remove it. -/
theorem gfalSrmUnlinkG_stays (path : CString) (hrm : allowed (.rm [gfal2SrmGetDecodedPath path])) :
    Stays related (gfalSrmUnlinkG servers path) := by
  have hremove : ∀ made, Stays related (gfalSrmUnlinkListG.remove servers [path] made) := by
    intro made
    cases made with
    | none => exact Stays.pure _
    | some easy =>
        refine Stays.bind (Stays.bind (Stays.cache _) fun _ => Stays.pure _) fun _ => ?_
        refine Stays.bind (Stays.call (fun _ => hrm) _ fun _ => rfl) fun answer => Within.ite (fun _ => ?_) fun _ => Stays.pure _
        exact Stays.bind (rmErrors_stays allows servers easy _ _) fun _ => Stays.pure _
  have hlist : Stays related (gfalSrmUnlinkListG servers [path]) :=
    laws.releasing rfl (allows.context rfl) fun made => hremove made.val
  exact hlist.bind fun _ => Stays.pure _

/-- Before the TURL of a destination is asked for it is removed, if that is asked for. -/
theorem srmPluginPrepareDestPut_stays {params : GfaltParams} (surl : CString)
    (hrm : params.replaceExisting = true → allowed (.rm [gfal2SrmGetDecodedPath surl])) :
    Stays related (srmPluginPrepareDestPut servers params surl).run := by
  have hdelete : Stays related (srmPluginDeleteExistingCopy servers params surl).run := by
    refine within_ite (fun hreplace => ?_) fun _ => Stays.return _
    refine Stays.andThen (gfalSrmUnlinkG_stays allows servers surl (hrm hreplace)).lift fun removed => ?_
    rcases removed with ⟨val, err⟩
    split
    · exact (Stays.event _ _ _ _).lift
    · exact within_ite (fun _ => Stays.throw _) fun _ => Stays.return _
    · exact (Stays.fault _).lift
  refine Stays.andThen (Stays.withNote hdelete) fun _ => ?_
  exact Stays.withNote (srmPluginCreateParentCopy_stays allows servers params surl)

theorem gfal2UnlinkUrl_stays (url : CString) (hrm : allowed (.rm [gfal2SrmGetDecodedPath url])) (hunlink : allowed (.unlink url)) :
    Stays related (gfal2UnlinkUrl servers url) := by
  refine Stays.scope (Within.ite (fun _ => gfalSrmUnlinkG_stays allows servers url hrm) fun _ => ?_)
  refine Stays.bind (Stays.request hunlink _ rfl) fun err => ?_
  cases err with
  | some e => exact Stays.pure _
  | none => exact Stays.pure _

omit allows in
theorem placedErrors_stays (error : SrmFileStatus → GError) (surls : List CString) (statuses : List SrmFileStatus) :
    Stays related (placedErrors error surls statuses) := by
  induction surls generalizing statuses with
  | nil => exact Stays.pure _
  | cons surl surls ih =>
      cases statuses with
      | nil => exact Stays.fault _
      | cons status statuses => exact (ih statuses).bind fun _ => Stays.pure _

omit allows in
theorem gfalSrmv2ReleaseFileG_stays (surl : CString) (token : Option CString)
    (hcontext : ∀ {available}, allowed (.context .release surl available))
    (hrelease : ∀ path, allowed (.releaseFiles [path] token)) :
    Stays related (gfalSrmv2ReleaseFileG servers surl token) := by
  cases token with
  | none => exact Stays.pure _
  | some token =>
      refine Stays.bind (withEasyContext_stays servers surl rfl hcontext fun easy => ?_) fun _ => Stays.pure _
      refine Stays.bind (Stays.bind (Stays.call (fun _ => hrelease _) _ fun _ => rfl) fun answer => ?_) fun _ => Stays.pure _
      cases answer with
      | error e => exact Stays.pure _
      | ok statuses => exact Stays.bind (placedErrors_stays _ _ _) fun _ => Stays.pure _

omit allows in
theorem srmAbortRequestPlugin_stays (surl reqtoken : CString) (hcontext : ∀ {available}, allowed (.context .abort surl available))
    (habort : allowed (.abortRequest reqtoken)) : Stays related (srmAbortRequestPlugin servers surl reqtoken).run :=
  withEasyContext_stays servers surl rfl hcontext fun _ => Stays.call (fun _ => habort) _ fun _ => rfl

end Operations

section Copy

variable {allowed : SrmExchange → Prop} {related : Gfal2Context SrmWorld → Gfal2Context SrmWorld → Prop}
  [laws : SrmLaws allowed related] (allows : AllowsQueries allowed) (servers : SrmServers) {params : GfaltParams}

include allows

theorem gfalSrmPutdone_stays (surl : CString) (token : Option CString)
    (hputDone : ∀ path answer, allowed (.putDone path token answer)) : Stays related (gfalSrmPutdone servers surl token).run := by
  refine withEasyContext_stays servers surl rfl (allows.context rfl) fun easy => ?_
  refine Stays.andThen (Stays.call (hputDone _) _ fun _ => rfl) fun statuses => ?_
  cases convertFilestatusesToGError statuses with
  | some e => exact Stays.throw _
  | none => exact Stays.return _

theorem transfer_stays (dst turlSource turlDestination tokenDestination : CString)
    (hputDone : ∀ path answer, allowed (.putDone path (some tokenDestination) answer)) : Stays related
    (copyBetweenTurls.transfer servers params dst turlSource turlDestination tokenDestination).run := by
  have hclose : Stays related (srmDoTransfer.closeDestination servers dst tokenDestination) := by
    refine Within.ite (fun _ => Stays.bind (Stays.withNote (gfalSrmPutdone_stays allows servers dst _ hputDone)) fun answer => ?_)
      fun _ => Stays.pure _
    cases answer with
    | ok value => exact Stays.pure _
    | error e => exact Stays.pure _
  refine Stays.andThen (Stays.event _ _ _ _).lift fun _ => Stays.andThen gfalSrmCheckCancel_stays fun _ => ?_
  have hcopy : Stays related (srmDoTransfer.copyFile servers turlSource turlDestination (turlParams params dst)).run :=
    Stays.bind (Stays.exchange (allows.copyFile _ _ _) _ fun _ => rfl) fun _ => Stays.pure _
  refine Stays.andThen (Stays.inScope hcopy) fun _ => ?_
  refine Stays.andThen (Stays.event _ _ _ _).lift fun _ => Stays.andThen hclose.lift fun done => ?_
  refine Stays.andThen (Stays.event _ _ _ _).lift fun _ => ?_
  cases done with
  | some e => exact Stays.throw _
  | none => exact Stays.return _

theorem srmResolvePutTurl_stays (surl otherSurl : CString) (size : Int)
    (hrm : params.replaceExisting = true → allowed (.rm [gfal2SrmGetDecodedPath surl]))
    (hput : ∀ path protocols answer, allowed (.prepareToPut path protocols size answer)) :
    Stays related (srmResolvePutTurl servers params surl otherSurl size).run := by
  refine within_ite (fun _ => ?_) fun _ => Stays.return _
  refine Stays.andThen (srmPluginPrepareDestPut_stays allows servers surl hrm) fun _ => ?_
  have hrd3 : Stays related (gfalSrmPutRd3Turl servers surl otherSurl size).run :=
    Stays.andThen (gfalSrmMTurlsInternal_stays allows servers rfl rfl _ _ _ fun _ _ => hput _ _ _) fun _ =>
      within_ite (fun _ => Stays.return _) fun _ => Stays.throw _
  refine Stays.andThen (Stays.withNote hrd3) fun answer => ?_
  exact Stays.andThen (Stays.event _ _ _ _).lift fun _ => Stays.return _

section Checksums

variable (hget : ∀ path protocols answer, allowed (.prepareToGet .checksum path protocols answer))

include hget

theorem fallback_stays (url checkType : CString) (bufferLength : Nat) (wholeFile turlFallback : Bool) :
    Stays related (gfalSrmChecksumGFallback servers url checkType bufferLength wholeFile turlFallback).run :=
  gfalSrmChecksumGFallback_stays allows servers _ _ _ _ _ fun _ => checksumOfTurl_stays allows servers _ _ _ hget

theorem sourceChecksum_stays (cfg : SrmChecksumConfig) (src : CString) :
    Stays related (copyChecked.sourceChecksum servers cfg src).run := by
  refine within_ite (fun _ => Stays.betweenEvents ?_) fun _ => Stays.return _
  refine Stays.andThen (Stays.withNote (fallback_stays allows servers hget _ _ _ _ _)) fun source => ?_
  exact within_ite (fun _ => Stays.andThen (Stays.throw _) fun _ => Stays.return _) fun _ => Stays.return _

theorem checkTarget_stays (cfg : SrmChecksumConfig) (dst checksumSource : CString) :
    Stays related (copyBetweenTurls.checkTarget servers cfg dst checksumSource).run := by
  refine within_ite (fun _ => Stays.betweenEvents ?_) fun _ => Stays.return _
  refine Stays.andThen (Stays.withNote (fallback_stays allows servers hget _ _ _ _ _)) fun destination => ?_
  have huser : Stays related (if cfg.user ≠ [] ∧ gfalCompareChecksums cfg.user destination 2048 ≠ 0 then
      throw (srmChecksumMismatch (lit "TRANSFER") (lit "User defined checksum and destination checksums do not match " ++
        cfg.user ++ lit " != " ++ destination)) else pure () : SrmThrowing Unit).run :=
    within_ite (fun _ => Stays.throw _) fun _ => Stays.return _
  refine within_ite (fun _ => Stays.andThen (Stays.throw _) fun _ => ?_) fun _ => ?_
  · exact within_ite (fun _ => Stays.andThen (Stays.throw _) fun _ => huser) fun _ => huser
  · exact within_ite (fun _ => Stays.andThen (Stays.throw _) fun _ => huser) fun _ => huser

end Checksums

theorem resolveSource_stays (src dst : CString)
    (hget : ∀ path protocols answer, allowed (.prepareToGet .access path protocols answer)) :
    Stays related (copyResolved.resolveSource servers src dst).run := by
  refine Stays.andThen (sourceSize_stays allows servers src) fun size => ?_
  refine Stays.andThen (checkSourceOnline_stays allows servers src) fun _ => ?_
  exact Stays.andThen (srmResolveGetTurl_stays allows servers src dst hget) fun _ => Stays.return _

end Copy

section Transfer

variable {allowed : SrmExchange → Prop} {related : Gfal2Context SrmWorld → Gfal2Context SrmWorld → Prop}
  [laws : SrmLaws allowed related] (allows : AllowsTransfer allowed) (servers : SrmServers) {params : GfaltParams}

include allows

theorem copyBetweenTurls_stays (cfg : SrmChecksumConfig) (dst checksumSource turlSource tokenSource turlDestination
    tokenDestination : CString) : Stays related (copyBetweenTurls servers params cfg dst checksumSource
      turlSource tokenSource turlDestination tokenDestination) := by
  refine Stays.bind (transfer_stays allows.toAllowsQueries servers _ _ _ _ fun _ => allows.putDone _ _) fun transferred => ?_
  cases transferred with
  | error e => exact Stays.pure _
  | ok _ =>
      refine Stays.bind (checkTarget_stays allows.toAllowsQueries servers (allows.prepareToGet _) cfg dst checksumSource)
        fun checked => ?_
      cases checked with
      | error e => exact Stays.pure _
      | ok _ => exact Stays.pure _

/-- Up to its clean-up a copy makes no other requests but for a TURL to write to. -/
theorem copyChecked_stays (src dst : CString) (hput : ∀ size, Stays related (srmResolvePutTurl servers params dst src size).run) :
    Stays related (copyChecked servers params src dst) := by
  refine Stays.get.bind fun context => ?_
  cases srmGetChecksumConfig servers context.config params with
  | error e => exact Stays.pure _
  | ok cfg =>
      refine Stays.bind (sourceChecksum_stays allows.toAllowsQueries servers (allows.prepareToGet _) cfg src) fun checked => ?_
      cases checked with
      | error e => exact Stays.pure _
      | ok checksumSource =>
          refine Stays.bind (resolveSource_stays allows.toAllowsQueries servers src dst (allows.prepareToGet _)) fun resolved => ?_
          cases resolved with
          | error e => exact Stays.pure _
          | ok turls =>
              refine Stays.bind (hput _) fun answer => ?_
              cases answer with
              | error e => exact Stays.pure _
              | ok destination => exact copyBetweenTurls_stays allows servers _ _ _ _ _ _ _

end Transfer

section CleanUp

variable {allowed : SrmExchange → Prop} {related : Gfal2Context SrmWorld → Gfal2Context SrmWorld → Prop}
  [laws : SrmLaws allowed related] (allows : AllowsQueries allowed) (servers : SrmServers)

include allows

/-- What is undone after an error: the destination is removed, or the request for it aborted. -/
theorem rollback_stays (dst : CString) (done : CopyEnd) (hrm : allowed (.rm [gfal2SrmGetDecodedPath dst]))
    (hunlink : allowed (.unlink dst)) (habort : done.transferFinished = false → done.tokenDestination ≠ [] →
      (∀ available, allowed (.context .abort dst available)) ∧ allowed (.abortRequest done.tokenDestination)) :
    Stays related (srmCleanupCopy.rollback servers dst done done.error) := by
  have hclean : Stays related (cleanDestination servers dst) := by
    refine (gfal2UnlinkUrl_stays allows servers dst hrm hunlink).bind fun ret => Stays.bind ?_ fun _ => Stays.event _ _ _ _
    unfold cleanDestination.status
    split
    · exact Stays.pure _
    · exact Stays.pure _
    · exact Stays.fault _
  cases done.error with
  | none => exact Stays.pure _
  | some e =>
      refine Within.ite (fun _ => hclean) fun _ => Within.ite (fun h => ?_) fun _ => Stays.pure _
      obtain ⟨hcontext, hrequest⟩ := habort (by simpa using h.1) h.2
      refine Stays.bind (srmAbortRequestPlugin_stays servers _ _ (hcontext _) hrequest) fun _ => ?_
      exact Stays.bind (gfalSrmUnlinkG_stays allows servers dst hrm) fun _ => Stays.pure _

end CleanUp

/-! ### What an operation has done when it returns -/

section Inversion

variable {α : Type} {servers : SrmServers} {surl : CString} {context context' : Gfal2Context SrmWorld}

/-- A context that is handed out is for the decoded path of its SURL. -/
theorem gfalSrmIfceEasyContext_path {opts : SrmOpts} {answers : ContextAnswers}
    (h : (gfalSrmIfceEasyContext opts answers surl).1.val = some easy) : easy.path = gfal2SrmGetDecodedPath surl := by
  unfold gfalSrmIfceEasyContext at h
  split at h
  · cases h
  · dsimp only at h
    split at h
    · cases h
      rfl
    · split at h
      · cases h
        rfl
      · cases h
        rfl
    · cases h
    · cases h

theorem srmEasyContext_eq_ok {made : Ret (Option GfalSrmEasy)}
    (h : srmEasyContext servers surl purpose context = .ok (made, context')) :
    made = (gfalSrmIfceEasyContext context.srmOpts (servers.context surl context.world.made) surl).1 ∧
      context'.world.made = context.world.made ++ [.context purpose surl (made.val.any (·.srmContext.isSome))] := by
  rw [srmEasyContext, bind_of_ok (get_apply context)] at h
  cases heasy : gfalSrmIfceEasyContext context.srmOpts (servers.context surl context.world.made) surl with
  | mk answer opts =>
      rw [heasy] at h
      cases h
      exact ⟨rfl, rfl⟩

theorem call_eq_ok {easy : GfalSrmEasy} {answer : SrmHistory → α} {record : α → SrmExchange} {value : α}
    (h : easy.call answer record context = .ok (value, context')) :
    easy.srmContext.isSome = true ∧ value = answer context.world.made ∧
      context'.world.made = context.world.made ++ [record value] := by
  unfold GfalSrmEasy.call at h
  split at h
  · cases h
    exact ⟨‹_›, rfl, rfl⟩
  · cases h

/-- What a service says of a file, with its times adjusted. -/
def statAnswer (servers : SrmServers) (surl : CString) (history : SrmHistory) : Except GError ExtendedStat :=
  match servers.ls surl history with
  | .error e => .error e
  | .ok entry =>
      if entry.status ≠ 0 then .error (srmIfceError entry.status entry.explanation)
      else .ok ⟨gfalSrmAdjustTime servers.timezoneOffset entry.stat, entry.locality⟩

theorem statAnswer_eq_ok_iff {history : SrmHistory} {xstat : ExtendedStat} :
    statAnswer servers surl history = .ok xstat ↔ ∃ entry, servers.ls surl history = .ok entry ∧ entry.status = 0 ∧
      xstat = ⟨gfalSrmAdjustTime servers.timezoneOffset entry.stat, entry.locality⟩ := by
  unfold statAnswer
  cases servers.ls surl history with
  | error e => simp
  | ok entry =>
      by_cases hstatus : entry.status = 0
      · simp [hstatus, eq_comm]
      · simp [hstatus]

/-- With a context the service is asked, and nothing but the record changes. -/
theorem gfalStatG_run (servers : SrmServers) (context : Gfal2Context SrmWorld)
    (hsome : easy.srmContext.isSome = true) (path : CString) :
    (gfalStatGSrmv2GenericInternal servers easy path).run context = .ok (statAnswer servers path context.world.made,
      { context with world := { context.world with made := context.world.made ++ [.ls path] } }) := by
  have hnone : easy.srmContext ≠ none := Option.isSome_iff_ne_none.mp hsome
  have hcall : (easy.ask (.ls path) (servers.ls path)).run context = .ok (servers.ls path context.world.made,
      { context with world := { context.world with made := context.world.made ++ [.ls path] } }) := by
    change (if easy.srmContext.isSome then _ else _ : Srm _) context = _
    rw [if_pos hsome]
    rfl
  unfold gfalStatGSrmv2GenericInternal
  rw [if_neg hnone]
  refine (bind_of_ok hcall).trans ?_
  unfold statAnswer
  cases servers.ls path context.world.made with
  | error e => rfl
  | ok entry =>
      by_cases hstatus : entry.status = 0
      · simp only [ExceptT.bindCont, hstatus, ne_eq, not_true_eq_false, if_false]
        rfl
      · simp only [ExceptT.bindCont, hstatus, ne_eq, not_false_eq_true, if_true]
        rfl

/-- An operation with a context has failed without one, or has done what its body does. -/
theorem withEasyContext_eq_ok {body : GfalSrmEasy → SrmThrowing α} {outcome : Except GError α}
    (h : (withEasyContext servers surl body purpose).run context = .ok (outcome, context')) :
    (∃ e, outcome = .error e ∧ context'.world.made = context.world.made ++ [.context purpose surl false]) ∨
      ∃ easy entered answer left, easy.path = gfal2SrmGetDecodedPath surl ∧
        entered.world.made = context.world.made ++ [.context purpose surl easy.srmContext.isSome] ∧
        (body easy).run entered = .ok (answer, left) ∧ context'.world.made = left.world.made ∧
        ∀ value, outcome = .ok value ↔ answer = .ok value := by
  obtain ⟨⟨val, err⟩, entered, heasy, h⟩ := bind_eq_ok.mp h
  obtain ⟨hmade, hrecord⟩ := srmEasyContext_eq_ok heasy
  obtain ⟨ended, left, hbody, h⟩ := bind_eq_ok.mp h
  obtain ⟨_, released, hrelease, h⟩ := bind_eq_ok.mp h
  cases hrelease
  cases h
  cases val with
  | none =>
      cases hbody
      exact .inl ⟨_, rfl, hrecord⟩
  | some easy =>
      obtain ⟨answer, left', hanswer, hended⟩ := bind_eq_ok.mp hbody
      cases hended
      refine .inr ⟨easy, entered, answer, left, ?_, hrecord, hanswer, rfl, fun value => ?_⟩
      · exact gfalSrmIfceEasyContext_path (congrArg Ret.val hmade).symm
      · cases answer with
        | ok found => exact Iff.rfl
        | error e => exact ⟨fun heq => (by cases heq), fun heq => (by cases heq)⟩

/-- The request for the TURL of one file. -/
def SrmReqType.exchange (purpose : SrmPurpose) (reqType : SrmReqType) (path : CString) (protocols : List CString) (size : Int)
    (answer : Except GError PinAnswer) : SrmExchange :=
  match reqType with
  | .get => .prepareToGet purpose path protocols answer
  | .put => .prepareToPut path protocols size answer

theorem prepare_eq_ok {protocols : List CString} {size : Int} {outcome : Except GError PinAnswer}
    (h : (turlsSrmv2Internal.prepare servers purpose easy reqType protocols size).run context = .ok (outcome, context')) :
    easy.srmContext.isSome = true ∧
      context'.world.made = context.world.made ++ [reqType.exchange purpose easy.path protocols size outcome] := by
  cases reqType with
  | get => exact (call_eq_ok h).imp_right And.right
  | put => exact (call_eq_ok h).imp_right And.right

/-- What a request for a TURL comes to, by what it records. -/
inductive TurlOutcome (purpose : SrmPurpose) (surl : CString) (reqType : SrmReqType) (protocols : List CString) (size : Int) :
    List SrmExchange → Except GError GfalSrmResult → Prop where
  | noContext (e : GError) : TurlOutcome purpose surl reqType protocols size [.context purpose surl false] (.error e)
  | refused (e e' : GError) : TurlOutcome purpose surl reqType protocols size
      [.context purpose surl true, reqType.exchange purpose (gfal2SrmGetDecodedPath surl) protocols size (.error e)] (.error e')
  | invalid (answer : PinAnswer) (status : PinFileStatus) (e : GError) (hstatus : answer.statuses.head? = some status)
      (hvalid : validateTurls protocols (convertFilestatus status answer.token) = some e) :
      TurlOutcome purpose surl reqType protocols size
        [.context purpose surl true, reqType.exchange purpose (gfal2SrmGetDecodedPath surl) protocols size (.ok answer)] (.error e)
  | valid (answer : PinAnswer) (status : PinFileStatus) (hstatus : answer.statuses.head? = some status)
      (hvalid : validateTurls protocols (convertFilestatus status answer.token) = none) :
      TurlOutcome purpose surl reqType protocols size
        [.context purpose surl true, reqType.exchange purpose (gfal2SrmGetDecodedPath surl) protocols size (.ok answer)]
        (.ok (convertFilestatus status answer.token))

theorem gfalSrmMTurlsInternal_eq_ok {protocols : List CString} {size : Int} {outcome : Except GError GfalSrmResult}
    (h : (gfalSrmMTurlsInternal servers purpose reqType protocols size surl).run context = .ok (outcome, context')) :
    ∃ made, context'.world.made = context.world.made ++ made ∧ TurlOutcome purpose surl reqType protocols size made outcome := by
  have hbody : ∀ {prepared middle}, (withEasyContext servers surl (fun easy =>
      turlsSrmv2Internal servers purpose easy reqType protocols size) purpose).run context = .ok (prepared, middle) →
      (∃ e, prepared = .error e ∧ middle.world.made = context.world.made ++ [.context purpose surl false]) ∨
      ∃ asked, middle.world.made = context.world.made ++
          [.context purpose surl true, reqType.exchange purpose (gfal2SrmGetDecodedPath surl) protocols size asked] ∧
        ((∃ e e', asked = .error e ∧ prepared = .error e') ∨ ∃ answer status, asked = .ok answer ∧
          answer.statuses.head? = some status ∧ prepared = .ok (convertFilestatus status answer.token)) := by
    intro prepared middle hrun
    rcases withEasyContext_eq_ok hrun with hnone | ⟨easy, entered, answer, left, hpath, hentered, hanswer, hleft, hiff⟩
    · exact .inl hnone
    · refine .inr ?_
      rcases run_bind_eq_ok hanswer with ⟨e, hthrown, rfl⟩ | ⟨found, asked, hprepare, hrest⟩
      · obtain ⟨hsome, hmade⟩ := prepare_eq_ok hthrown
        refine ⟨.error e, by rw [hleft, hmade, hentered, hpath, hsome, List.append_assoc]; rfl, .inl ⟨e, ?_⟩⟩
        cases prepared with
        | error e' => exact ⟨e', rfl, rfl⟩
        | ok value => cases (hiff value).mp rfl
      · obtain ⟨hsome, hmade⟩ := prepare_eq_ok hprepare
        cases hstatuses : found.statuses with
        | nil =>
            rw [hstatuses] at hrest
            cases hrest
        | cons status rest =>
            rw [hstatuses] at hrest
            cases hrest
            refine ⟨.ok found, by rw [hleft, hmade, hentered, hpath, hsome, List.append_assoc]; rfl, .inr ?_⟩
            exact ⟨found, status, rfl, by rw [hstatuses]; rfl, (hiff _).mpr rfl⟩
  rcases run_bind_eq_ok h with ⟨e, hthrown, rfl⟩ | ⟨result, middle, hprepared, hrest⟩
  · rcases hbody hthrown with ⟨e', heq, hmade⟩ | ⟨asked, hmade, ⟨e', e'', rfl, heq⟩ | ⟨answer, status, -, -, heq⟩⟩
    · exact ⟨_, hmade, .noContext e⟩
    · exact ⟨_, hmade, .refused e' e⟩
    · cases heq
  · rcases hbody hprepared with ⟨e', heq, -⟩ | ⟨asked, hmade, ⟨e', e'', -, heq⟩ | ⟨answer, status, rfl, hstatus, heq⟩⟩
    · cases heq
    · cases heq
    · cases heq
      cases hvalid : validateTurls protocols (convertFilestatus status answer.token) with
      | some e =>
          rw [hvalid] at hrest
          cases hrest
          exact ⟨_, hmade, .invalid answer status e hstatus hvalid⟩
      | none =>
          rw [hvalid] at hrest
          cases hrest
          exact ⟨_, hmade, .valid answer status hstatus hvalid⟩

end Inversion

end Gfal2
