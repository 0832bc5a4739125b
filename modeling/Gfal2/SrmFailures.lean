import Gfal2.SrmDestination
import Gfal2.UriAuthority

/-! Copies by the SRM plugin that fail. Where every request fails, the clean-up removes a destination that is no SRM URL, of which
nothing was ever written; where only the transfer fails, it removes an SRM URL that was there before. -/

namespace Gfal2

open Base Exec Throwing

section Failing

variable {α β : Type} {granted : Prop} {dst : CString} {params : GfaltParams}

def ioError : GError := ⟨srmQuark, EIO, lit "Input/output error"⟩

/-- Services that make contexts and answer, and fail at anything else, as the rest of the library does. -/
def failingServers : SrmServers where
  turlProtocols := [lit "gsiftp"]
  thirdPartyProtocols := [lit "gsiftp"]
  missingValue := ioError
  timezoneOffset := 0
  context _ _ := {}
  xping _ := .ok []
  ls _ _ := .error ioError
  listing _ _ _ _ := .error ioError
  checkPermission _ _ _ := .error ioError
  setPermission _ _ _ := some ioError
  mkdir _ _ := some ioError
  rmdir _ _ := .error ioError
  mv _ _ _ := some ioError
  rm _ _ := (ioError, [])
  spaceProperty _ _ := ⟨-1, some ioError⟩
  prepareToGet _ _ _ := .error ioError
  prepareToPut _ _ _ _ := .error ioError
  putDone _ _ _ := .error ioError
  releaseFiles _ _ _ := .error ioError
  abortRequest _ _ := some ioError
  abortFiles _ _ _ := .error ioError
  bringOnline _ _ _ := .error ioError
  bringOnlineStatus _ _ _ := .error ioError
  stat _ _ := .error ioError
  getxattr _ _ _ := .error ioError
  checksum _ _ _ := .error ioError
  copyFile _ _ _ _ := some ioError
  unlink _ _ := some ioError
  openUrl _ _ _ _ := .error ioError
  closeHandle _ _ := ⟨-1, some ioError⟩

/-- Services that hand out what they are asked for, at TURLs between which no transfer comes to a good end. -/
def acceptingServers : SrmServers :=
  { failingServers with
    mkdir := fun _ _ => none
    prepareToGet := fun path _ _ => .ok ⟨some (lit "token"), [{ surl := path, turl := some (lit "gsiftp://h/f") }]⟩
    prepareToPut := fun path _ _ _ => .ok ⟨some (lit "token"), [{ surl := path, turl := some (lit "gsiftp://h/f") }]⟩ }

/-- Checksums of sources may be missing, sources need not be online, and checksums have a type. -/
def acceptingConfig : Config where
  optString := fun _ _ => some (lit "MD5")
  optBoolean := fun _ key => some (key = lit "ALLOW_EMPTY_SOURCE_CHECKSUM")

/-- Nothing is cancelled, contexts are for version 2 of the protocol, and the plugin reads the settings of that configuration. -/
structure Working (context : Gfal2Context SrmWorld) : Prop where
  proto : context.world.plugin.opts.srmProtoType = .srmv2
  cancel : ∀ n, context.readings.cancel n = false
  booleans : context.config.optBoolean srmConfigGroup = acceptingConfig.optBoolean srmConfigGroup
  strings : context.config.optString srmConfigGroup = acceptingConfig.optString srmConfigGroup

/-- The operation returns what satisfies the predicate. -/
def Returns (operation : Srm α) (post : α → Prop) : Prop :=
  ∀ context, Working context → ∃ value context', operation context = .ok (value, context') ∧ Working context' ∧ post value

/-- There is a value, of which the predicate holds; or what is needed is missing, and not because a file exists. -/
def Fair (granted : Prop) (values : α → Prop) : Except GError α → Prop
  | .ok value => values value
  | .error e => ¬granted ∧ e.code ≠ EEXIST

/-- The operation fails, and not because a file exists. -/
abbrev Failed : Except GError α → Prop := Fair False fun _ => False

variable {post : α → Prop}

theorem Returns.pure {value : α} (h : post value) : Returns (Pure.pure value) post :=
  fun context hworking => ⟨value, context, rfl, hworking, h⟩

theorem Returns.bind {first : Srm α} {next : α → Srm β} {middle : α → Prop} {post : β → Prop} (hfirst : Returns first middle)
    (hnext : ∀ value, middle value → Returns (next value) post) : Returns (first >>= next) post := by
  intro context hworking
  obtain ⟨value, context', hvalue, hworking', hmiddle⟩ := hfirst context hworking
  obtain ⟨result, context'', hresult, hworking'', hpost⟩ := hnext value hmiddle context' hworking'
  exact ⟨result, context'', (bind_of_ok hvalue).trans hresult, hworking'', hpost⟩

theorem Returns.mono {operation : Srm α} {post' : α → Prop} (h : Returns operation post) (himp : ∀ value, post value → post' value) :
    Returns operation post' := by
  intro context hworking
  obtain ⟨value, context', hvalue, hworking', hpost⟩ := h context hworking
  exact ⟨value, context', hvalue, hworking', himp value hpost⟩

theorem Returns.ite {p : Prop} [Decidable p] {left right : Srm α} (hleft : p → Returns left post)
    (hright : ¬p → Returns right post) : Returns (if p then left else right) post := by
  split
  case isTrue h => exact hleft h
  case isFalse h => exact hright h

theorem Returns.get : Returns (Exec.get : Srm _) Working := fun context h => ⟨context, context, rfl, h, h⟩

/-- What leaves the readings, the options and the settings as they are. -/
theorem Returns.modify {f : Gfal2Context SrmWorld → Gfal2Context SrmWorld} (h : ∀ context, Working context → Working (f context)) :
    Returns (Exec.modify f) fun _ => True :=
  fun context hworking => ⟨(), f context, rfl, h context hworking, trivial⟩

variable {values : α → Prop}

theorem Returns.return {value : α} (h : values value) :
    Returns (Pure.pure value : SrmThrowing α).run (Fair granted values) := Returns.pure h

theorem Returns.lift {operation : Srm α} (h : Returns operation post) :
    Returns (liftM operation : SrmThrowing α).run (Fair granted post) := by
  intro context hworking
  obtain ⟨value, context', hvalue, hworking', hpost⟩ := h context hworking
  exact ⟨.ok value, context', run_lift_of_ok hvalue, hworking', hpost⟩

variable {next : α → SrmThrowing β} {first : SrmThrowing α}

theorem Returns.andThen {post : Except GError β → Prop}
    (hfirst : Returns first.run (Fair granted values)) (hthrown : ∀ e, ¬granted → e.code ≠ EEXIST → post (.error e))
    (hnext : ∀ value, values value → Returns (next value).run post) : Returns (first >>= next).run post := by
  intro context hworking
  obtain ⟨outcome, context', houtcome, hworking', hfair⟩ := hfirst context hworking
  cases outcome with
  | error e => exact ⟨.error e, context', run_bind_of_throw houtcome, hworking', hthrown e hfair.1 hfair.2⟩
  | ok value =>
      obtain ⟨result, context'', hresult, hworking'', hpost⟩ := hnext value hfair context' hworking'
      exact ⟨result, context'', (run_bind_of_ok houtcome).trans hresult, hworking'', hpost⟩

theorem Returns.followed {values' : β → Prop}
    (hfirst : Returns first.run (Fair granted values)) (hnext : ∀ value, values value → Returns (next value).run (Fair granted values')) :
    Returns (first >>= next).run (Fair granted values') :=
  hfirst.andThen (fun _ h hcode => ⟨h, hcode⟩) hnext

/-- What fails at first fails. -/
theorem Returns.failed (h : Returns first.run Failed) : Returns (first >>= next).run Failed := h.followed fun _ h => h.elim

variable {body : SrmThrowing α}

theorem Returns.noted {side note : CString} (h : Returns body.run (Fair granted values)) :
    Returns (withNote side note body).run (Fair granted values) := by
  intro context hworking
  obtain ⟨outcome, context', houtcome, hworking', hfair⟩ := h context hworking
  cases outcome with
  | ok value => exact ⟨_, context', run_catch_of_ok houtcome, hworking', hfair⟩
  | error e => exact ⟨_, context', run_catch_of_throw houtcome, hworking', hfair⟩

/-- Where whatever is thrown is answered with a value. -/
theorem Returns.caught {handler : GError → SrmThrowing α}
    (hbody : Returns body.run (Fair False values)) (hhandler : ∀ e, Returns (handler e).run (Fair granted values)) :
    Returns (tryCatch body handler).run (Fair granted values) := by
  intro context hworking
  obtain ⟨outcome, context', houtcome, hworking', hfair⟩ := hbody context hworking
  cases outcome with
  | ok value => exact ⟨_, context', run_catch_of_ok houtcome, hworking', hfair⟩
  | error e =>
      obtain ⟨result, context'', hresult, hworking'', hpost⟩ := hhandler e context' hworking'
      exact ⟨result, context'', (run_catch_of_throw houtcome).trans hresult, hworking'', hpost⟩

theorem Returns.event (domain : GQuark) (side : GfalEventSide) (stage description : CString) :
    Returns (pluginTriggerEvent domain side stage description : Srm Unit) fun _ => True :=
  Returns.modify fun _ h => ⟨h.proto, h.cancel, h.booleans, h.strings⟩

theorem Returns.request (request : SrmExchange) (answer : SrmHistory → α) (h : ∀ history, post (answer history)) :
    Returns (makeRequest request answer : Srm α) post :=
  fun context hworking => ⟨_, _, rfl, ⟨hworking.proto, hworking.cancel, hworking.booleans, hworking.strings⟩, h _⟩

theorem Returns.inScope {post : Except GError α → Prop} (hbody : Returns body.run post) :
    Returns (inCancelScope body).run post := by
  have hstart : Returns (gfal2StartScopeCancel : Srm (Ret Int)) fun started => started = ⟨0, none⟩ := fun context h =>
    ⟨_, _, gfal2StartScopeCancel_of_clear (h.cancel _), ⟨h.proto, h.cancel, h.booleans, h.strings⟩, rfl⟩
  have hend : Returns (gfal2EndScopeCancel : Srm Unit) fun _ => True :=
    Returns.modify fun _ h => ⟨h.proto, h.cancel, h.booleans, h.strings⟩
  refine hstart.bind fun started hstarted => ?_
  subst hstarted
  exact hbody.bind fun outcome houtcome => hend.bind fun _ _ => Returns.pure houtcome

theorem Returns.betweenEvents {side : GfalEventSide} {post : Except GError α → Prop}
    (hbody : Returns body.run post) : Returns (betweenEvents side body).run post := by
  refine (Returns.event _ _ _ _).bind fun _ _ => hbody.bind fun outcome houtcome => ?_
  exact (Returns.event _ _ _ _).bind fun _ _ => Returns.pure houtcome

/-! ### Contexts -/

/-- Only the endpoint of a full SURL can be missing. -/
theorem gfalSrmDetermineEndpoint_error {opts : SrmOpts} {surl : CString} {e : GError}
    (h : gfalSrmDetermineEndpoint opts {} surl = .error e) : Endpointless surl ∧ e.code ≠ EEXIST := by
  have hguess : gfalSrmGuessServiceEndpoint surl 2048 ≠ .error e := by
    obtain ⟨parsed, hparsed⟩ := gfal2ParseUri_total surl
    rw [gfalSrmGuessServiceEndpoint, hparsed]
    exact fun h => by cases h
  unfold gfalSrmDetermineEndpoint at h
  split at h
  case isTrue hfull =>
      refine ⟨⟨hfull, e, h⟩, ?_⟩
      unfold gfalGetFullendpoint at h
      split at h
      · cases h
        exact (by decide : EINVAL ≠ EEXIST)
      · split at h
        · cases h
        · cases h
          exact (by decide : (105 : Int) ≠ EEXIST)
  case isFalse =>
      split at h
      · exact absurd h hguess
      · split at h
        · cases h
        · exact absurd h hguess

def ContextOrNone (surl : CString) (made : Ret (Option GfalSrmEasy)) : Prop :=
  (∃ easy, made = ⟨some easy, none⟩ ∧ easy.srmContext.isSome = true ∧ easy.path = gfal2SrmGetDecodedPath surl) ∨
    ∃ e, made = ⟨none, some e⟩ ∧ Endpointless surl ∧ e.code ≠ EEXIST

theorem srmEasyContext_returns (surl : CString) (purpose : SrmPurpose) :
    Returns (srmEasyContext acceptingServers surl purpose) (ContextOrNone surl) := by
  intro context hworking
  suffices h : ContextOrNone surl (gfalSrmIfceEasyContext context.srmOpts {} surl).1 ∧
      (gfalSrmIfceEasyContext context.srmOpts {} surl).2.srmProtoType = .srmv2 from
    ⟨_, _, rfl, ⟨h.2, hworking.cancel, hworking.booleans, hworking.strings⟩, h.1⟩
  cases hendpoint : gfalSrmDetermineEndpoint context.srmOpts {} surl with
  | error e =>
      rw [easyContext_of_error hendpoint]
      exact ⟨.inr ⟨e, rfl, gfalSrmDetermineEndpoint_error hendpoint⟩, hworking.proto⟩
  | ok endpoint =>
      rcases easyContext_cases hendpoint with ⟨kept, -, hrun⟩ | ⟨-, -, -, hrun⟩ | ⟨-, hnot, -, -⟩
      · rw [hrun]
        exact ⟨.inl ⟨_, rfl, rfl, rfl⟩, hworking.proto⟩
      · rw [hrun]
        exact ⟨.inl ⟨_, rfl, rfl, rfl⟩, hworking.proto⟩
      · exact absurd ⟨hworking.proto, rfl⟩ hnot

theorem srmEasyContextRelease_returns : Returns srmEasyContextRelease fun _ => True :=
  Returns.modify fun _ h => ⟨h.proto, h.cancel, h.booleans, h.strings⟩

theorem withEasyContext_returns {surl : CString} (h : granted → ¬Endpointless surl) {body : GfalSrmEasy → SrmThrowing α}
    {purpose : SrmPurpose}
    (hbody : ∀ easy, easy.srmContext.isSome = true → Returns (body easy).run (Fair granted values)) :
    Returns (withEasyContext acceptingServers surl body purpose).run (Fair granted values) := by
  refine (srmEasyContext_returns surl _).bind fun made hmade => ?_
  have heasy : Returns (withEasyContext.easyBody acceptingServers made body) (Fair granted values) := by
    rcases hmade with ⟨easy, rfl, hsome, -⟩ | ⟨e, rfl, hnone, hcode⟩
    · refine (hbody easy hsome).bind fun outcome houtcome => Returns.pure ?_
      cases outcome with
      | ok value => exact houtcome
      | error e => exact houtcome
    · exact Returns.pure ⟨fun hgranted => h hgranted hnone, hcode⟩
  exact heasy.bind fun outcome houtcome => srmEasyContextRelease_returns.bind fun _ _ => Returns.pure houtcome

theorem call_returns {easy : GfalSrmEasy} (hsome : easy.srmContext.isSome = true) (answer : SrmHistory → α)
    (record : α → SrmExchange) (h : ∀ history, post (answer history)) : Returns (easy.call answer record) post := by
  intro context hworking
  unfold GfalSrmEasy.call
  rw [if_pos hsome]
  exact ⟨_, _, rfl, ⟨hworking.proto, hworking.cancel, hworking.booleans, hworking.strings⟩, h context.world.made⟩

/-! ### The steps of the copy -/

theorem ioError_code : ioError.code ≠ EEXIST := by decide

theorem failed_ioError : Failed (.error ioError : Except GError α) := ⟨id, ioError_code⟩

/-- What fails may fail. -/
theorem Failed.fair {outcome : Except GError α} (h : Failed outcome) : Fair False values outcome := by
  cases outcome with
  | ok value => exact h.elim
  | error e => exact h

theorem isCastorEndpoint_returns (surl : CString) : Returns (isCastorEndpoint acceptingServers surl) fun _ => True := by
  refine Returns.ite (fun _ => Returns.pure trivial) fun _ => (srmEasyContext_returns surl _).bind fun made hmade => ?_
  rcases hmade with ⟨easy, rfl, hsome, -⟩ | ⟨e, rfl, -⟩
  · have hcall : Returns (easy.call acceptingServers.xping fun _ => .xping) fun _ => True := call_returns hsome _ _ fun _ => trivial
    exact hcall.bind fun answer _ => srmEasyContextRelease_returns.bind fun _ _ => Returns.pure trivial
  · exact Returns.pure trivial

/-- The settings changed for a Castor endpoint are those of another plugin. -/
theorem castorGridftpSessionHack_returns (src dst : CString) : Returns (castorGridftpSessionHack acceptingServers src dst) fun _ => True := by
  refine (isCastorEndpoint_returns src).bind fun _ _ => (isCastorEndpoint_returns dst).bind fun _ _ => ?_
  refine Returns.ite (fun _ => Returns.modify fun context h => ⟨h.proto, h.cancel, ?_, ?_⟩) fun _ => Returns.pure trivial
  all_goals
    have hother : ∀ k key : CString, ¬(srmConfigGroup = lit "GRIDFTP PLUGIN" ∧ k = key) := fun _ _ h => absurd h.1 (by decide)
    funext k
    dsimp only [gfal2SetOptBoolean]
  · rw [Config.optBoolean_store, if_neg (hother _ _), Config.optBoolean_store, if_neg (hother _ _), h.booleans]
  · rw [Config.optString_store, if_neg (hother _ _), Config.optString_store, if_neg (hother _ _), h.strings]

theorem gfalStatG_returns {easy : GfalSrmEasy} (hsome : easy.srmContext.isSome = true) (surl : CString) :
    Returns (gfalStatGSrmv2GenericInternal acceptingServers easy surl).run Failed := by
  unfold gfalStatGSrmv2GenericInternal
  rw [if_neg (by simpa using Option.isSome_iff_ne_none.mp hsome)]
  exact Returns.failed (call_returns hsome _ _ fun _ => failed_ioError)

/-- Both kinds of requests are granted with a token. -/
theorem rd3Turl_returns {surl : CString} (h : granted → ¬Endpointless surl) (reqType : SrmReqType) (size : Int) (otherSurl : CString) :
    Returns (rd3Turl acceptingServers reqType size surl otherSurl).run (Fair granted fun answer => answer.2 = lit "token") := by
  have hone : ∀ (p : CString → Bool) (j : Nat), [lit "gsiftp"].findIdx? p = some j → j = 0 := by
    intro p j h
    rw [List.findIdx?_cons] at h
    split at h
    · exact (Option.some.inj h).symm
    · cases h
  have hprotocols : reorderRd3SupProtocols acceptingServers.thirdPartyProtocols otherSurl = [lit "gsiftp"] := by
    unfold reorderRd3SupProtocols
    dsimp only
    generalize (if (lit "davs").isPrefixOf otherSurl = true then lit "https" ++ otherSurl.drop 4 else otherSurl) = compared
    split
    case h_1 first rest j hlist hindex =>
        obtain ⟨rfl, rfl⟩ := List.cons.inj hlist
        obtain rfl := hone _ _ hindex
        rfl
    case h_2 => rfl
  have hprepare : ∀ easy : GfalSrmEasy, easy.srmContext.isSome = true →
      Returns (turlsSrmv2Internal.prepare acceptingServers .access easy reqType [lit "gsiftp"] size).run
        (Fair granted fun answer => answer = ⟨some (lit "token"), [{ surl := easy.path, turl := some (lit "gsiftp://h/f") }]⟩) := by
    intro easy hsome
    cases reqType with
    | get => exact call_returns hsome _ _ fun _ => rfl
    | put => exact call_returns hsome _ _ fun _ => rfl
  have hgranted : ∀ easy : GfalSrmEasy, easy.srmContext.isSome = true →
      Returns (turlsSrmv2Internal acceptingServers .access easy reqType [lit "gsiftp"] size).run
        (Fair granted fun result => result = ⟨lit "gsiftp://h/f", [], 0, some (lit "token")⟩) := by
    intro easy hsome
    refine (hprepare easy hsome).followed fun answer hanswer => ?_
    subst hanswer
    exact Returns.return rfl
  have hanswer : Returns (gfalSrmMTurlsInternal acceptingServers .access reqType [lit "gsiftp"] size surl).run
      (Fair granted fun result => result = ⟨lit "gsiftp://h/f", [], 0, some (lit "token")⟩) := by
    refine (withEasyContext_returns h hgranted).followed fun result hresult => ?_
    subst hresult
    exact Returns.return rfl
  rw [rd3Turl, hprotocols]
  refine hanswer.followed fun result hresult => ?_
  subst hresult
  exact Returns.return rfl

theorem srmChecksum_returns (url : CString) (bufferLength : Nat) (wholeFile : Bool) :
    Returns (srmChecksum acceptingServers url bufferLength wholeFile) fun _ => True := by
  refine Returns.ite (fun _ => ?_) fun _ => Returns.pure trivial
  have hinternal : Returns (gfalSrmCheksumGInternal acceptingServers url bufferLength).run Failed := by
    refine withEasyContext_returns False.elim fun easy hsome => ?_
    rw [if_neg (by simpa using Option.isSome_iff_ne_none.mp hsome)]
    exact Returns.failed (call_returns hsome _ _ fun _ => failed_ioError)
  exact hinternal.bind fun outcome _ => Returns.pure trivial

/-- A checksum of the source that may be missing. -/
theorem sourceChecksum_returns {cfg : SrmChecksumConfig} (hmode : cfg.mode.hasSource = false) (src : CString) :
    Returns (copyChecked.sourceChecksum acceptingServers cfg src).run (Fair granted fun _ => True) := by
  refine Returns.ite (fun _ => ?_) fun _ => Returns.return trivial
  have hchecksum : Returns (gfalSrmChecksumGFallback acceptingServers src cfg.algorithm 2048 true cfg.mode.hasSource).run
      (Fair granted fun _ => True) := by
    rw [hmode]
    refine (srmChecksum_returns src 2048 true).bind fun answer _ => ?_
    rcases answer with e | _ | ⟨checksum, type⟩
    · exact Returns.pure trivial
    · exact Returns.pure trivial
    · exact Returns.ite (fun _ => Returns.pure trivial) fun _ => Returns.pure trivial
  refine Returns.betweenEvents (hchecksum.noted.followed fun source _ => ?_)
  dsimp only
  rw [if_neg (by simp [hmode])]
  exact Returns.return trivial

variable {src : CString}

theorem resolveSource_returns (h : granted → srmCheckUrl src = true → ¬Endpointless src) (dst : CString) :
    Returns (copyResolved.resolveSource acceptingServers src dst).run (Fair granted fun _ => True) := by
  have hstat : Returns (gfalSrmStatG acceptingServers src).run (Fair False fun _ => True) := by
    have hcached : Returns (takeCached src) fun _ => True :=
      fun _ h => ⟨_, _, rfl, ⟨h.proto, h.cancel, h.booleans, h.strings⟩, trivial⟩
    refine hcached.lift.followed fun found _ => ?_
    cases found with
    | some xstat => exact Returns.return trivial
    | none => exact withEasyContext_returns False.elim fun easy hsome =>
        (Returns.failed (gfalStatG_returns hsome _)).mono fun _ => Failed.fair
  have hsize : Returns (sourceSize acceptingServers src).run (Fair granted fun _ => True) := by
    refine Returns.caught (Returns.inScope (Returns.ite (fun _ => ?_) fun _ => ?_)) fun _ => Returns.return trivial
    · exact hstat.followed fun _ _ => Returns.return trivial
    · exact Returns.request _ _ fun _ => failed_ioError.fair
  have honline : Returns (checkSourceOnline acceptingServers src).run (Fair granted fun _ => True) := by
    intro context hworking
    have hswitch : ¬(gfal2GetOptBooleanWithDefault context.config srmConfigGroup (lit "COPY_FAIL_NEARLINE") false = true ∧
        srmCheckUrl src = true) := by
      rw [gfal2GetOptBooleanWithDefault, hworking.booleans]
      exact fun h => absurd h.1 (by decide)
    refine ⟨.ok (), context, ?_, hworking, trivial⟩
    rw [checkSourceOnline, run_bind_of_ok (run_lift_of_ok (get_apply context)), if_neg hswitch]
    rfl
  have hget : Returns (srmResolveGetTurl acceptingServers src dst).run (Fair granted fun _ => True) := by
    refine Returns.ite (fun hsrm => ?_) fun _ => Returns.return trivial
    refine (rd3Turl_returns (fun hgranted => h hgranted hsrm) _ _ _).noted.followed fun _ _ => ?_
    exact (Returns.event _ _ _ _).lift.followed fun _ _ => Returns.return trivial
  exact hsize.followed fun size _ => honline.followed fun _ _ => hget.followed fun _ _ => Returns.return trivial

theorem srmResolvePutTurl_returns (hreplace : params.replaceExisting = false)
    (h : granted → srmCheckUrl dst = true ∧ ¬Endpointless dst ∧
      (params.parentDirCreate = true → ∃ parent ∈ srmParent dst, ¬Endpointless parent))
    (otherSurl : CString) (size : Int) : Returns (srmResolvePutTurl acceptingServers params dst otherSurl size).run
      (Fair granted fun answer => granted → answer.2 = lit "token") := by
  refine Returns.ite (fun hsrm => ?_) fun hsrm => Returns.return fun hgranted => absurd (h hgranted).1 hsrm
  have hdelete : Returns (srmPluginDeleteExistingCopy acceptingServers params dst).run (Fair granted fun _ => True) := by
    rw [srmPluginDeleteExistingCopy, if_neg (by simp [hreplace])]
    exact Returns.return trivial
  have hcreate : Returns (srmPluginCreateParentCopy acceptingServers params dst).run (Fair granted fun _ => True) := by
    refine Returns.ite (fun hcreate => ?_) fun _ => Returns.return trivial
    cases hsplit : srmParent dst with
    | none =>
        refine Returns.pure ⟨fun hgranted => ?_, (by decide : EINVAL ≠ EEXIST)⟩
        obtain ⟨parent, hparent, -⟩ := (h hgranted).2.2 hcreate
        rw [hsplit] at hparent
        cases hparent
    | some parent =>
        refine withEasyContext_returns (fun hgranted => ?_) fun easy hsome => ?_
        · obtain ⟨parent', hparent, hendpoint⟩ := (h hgranted).2.2 hcreate
          rw [hsplit] at hparent
          cases hparent
          exact hendpoint
        · have hthere : Returns (isDirectory acceptingServers easy).run (Fair granted fun there => there = none) := by
            refine Returns.bind (gfalStatG_returns hsome _) fun outcome houtcome => ?_
            cases outcome with
            | ok xstat => exact houtcome.elim
            | error e => exact Returns.return rfl
          have hmkdir : Returns (gfalMkdirSrmv2Internal acceptingServers easy).run fun outcome => outcome = .ok () :=
            call_returns hsome _ _ fun _ => rfl
          refine hthere.followed fun there hnone => ?_
          subst hnone
          intro context hworking
          obtain ⟨outcome, context', houtcome, hworking', rfl⟩ := hmkdir context hworking
          exact ⟨_, context', run_catch_of_ok houtcome, hworking', trivial⟩
  have hready : Returns (srmPluginPrepareDestPut acceptingServers params dst).run (Fair granted fun _ => True) :=
    hdelete.noted.followed fun _ _ => hcreate.noted
  refine hready.followed fun _ _ => (rd3Turl_returns (fun hgranted => (h hgranted).2.1) _ _ _).noted.followed fun answer hanswer => ?_
  exact (Returns.event _ _ _ _).lift.followed fun _ _ => Returns.return fun _ => hanswer

theorem transfer_returns (dst turlSource turlDestination tokenDestination : CString) :
    Returns (copyBetweenTurls.transfer acceptingServers params dst turlSource turlDestination tokenDestination).run Failed := by
  refine (Returns.event _ _ _ _).lift.followed fun _ _ => ?_
  have hcancel : Returns gfalSrmCheckCancel.run (Fair False fun _ => True) := by
    have hread : Returns (gfal2IsCanceled : Srm Bool) fun _ => True :=
      fun context h => ⟨_, _, rfl, ⟨h.proto, h.cancel, h.booleans, h.strings⟩, trivial⟩
    refine hread.lift.followed fun cancelled _ => Returns.ite (fun _ => ?_) fun _ => Returns.return trivial
    exact Returns.pure ⟨id, (by decide : ECANCELED ≠ EEXIST)⟩
  refine hcancel.followed fun _ _ => ?_
  have hcopy : Returns (srmDoTransfer.copyFile acceptingServers turlSource turlDestination (turlParams params dst)).run Failed :=
    fun _ h => ⟨_, _, rfl, ⟨h.proto, h.cancel, h.booleans, h.strings⟩, failed_ioError⟩
  exact Returns.failed (Returns.inScope hcopy)

/-- The copy failed, but not because a file exists, and with a token if all was there that it needs. -/
structure CopyEnd.Fails (granted : Prop) (done : CopyEnd) : Prop where
  error : ∃ e, done.error = some e ∧ e.code ≠ EEXIST
  unfinished : done.transferFinished = false
  token : granted → done.tokenDestination = lit "token"

theorem copyChecked_fails (hreplace : params.replaceExisting = false)
    (h : granted → srmCheckUrl dst = true ∧ ¬NeverAsked params src dst) :
    Returns (copyChecked acceptingServers params src dst) (CopyEnd.Fails granted) := by
  have hnot : granted → srmCheckUrl dst = true ∧ ¬Endpointless dst ∧ (srmCheckUrl src = true → ¬Endpointless src) ∧
      (params.parentDirCreate = true → ∃ parent ∈ srmParent dst, ¬Endpointless parent) := fun hgranted => by
    simpa only [NeverAsked, not_or, not_and, not_forall, exists_prop] using h hgranted
  refine Returns.get.bind fun context hworking => ?_
  obtain ⟨cfg, hcfg, hmode⟩ : ∃ cfg, srmGetChecksumConfig acceptingServers context.config params = .ok cfg ∧
      cfg.mode.hasSource = false := by
    have hswitch : gfal2GetOptBooleanWithDefault context.config srmConfigGroup (lit "ALLOW_EMPTY_SOURCE_CHECKSUM") false = true := by
      rw [gfal2GetOptBooleanWithDefault, hworking.booleans]
      decide
    have hwithout : ∀ mode : ChecksumMode, mode.withoutSource.hasSource = false := fun mode => by cases mode <;> rfl
    unfold srmGetChecksumConfig
    rw [hswitch, hworking.strings]
    dsimp only
    rw [if_pos rfl]
    split
    · exact ⟨_, rfl, hwithout _⟩
    · exact ⟨_, rfl, hwithout _⟩
  have hend : ∀ {done : CopyEnd} {e : GError}, done.error = some e → ¬granted ∧ e.code ≠ EEXIST → done.transferFinished = false →
      CopyEnd.Fails granted done := fun herror hfair hfinished => ⟨⟨_, herror, hfair.2⟩, hfinished, fun hgranted => absurd hgranted hfair.1⟩
  rw [hcfg]
  have hsource : Returns (copyChecked.sourceChecksum acceptingServers cfg src).run (Fair granted fun _ => True) :=
    sourceChecksum_returns hmode src
  refine hsource.bind fun checked hchecked => ?_
  cases checked with
  | error e => exact Returns.pure (hend rfl hchecked rfl)
  | ok checksumSource =>
      refine (resolveSource_returns (fun hgranted => (hnot hgranted).2.2.1) dst).bind fun resolved hresolved => ?_
      cases resolved with
      | error e => exact Returns.pure (hend rfl hresolved rfl)
      | ok turls =>
          have hput : granted → srmCheckUrl dst = true ∧ ¬Endpointless dst ∧
              (params.parentDirCreate = true → ∃ parent ∈ srmParent dst, ¬Endpointless parent) := fun hgranted =>
            ⟨(hnot hgranted).1, (hnot hgranted).2.1, (hnot hgranted).2.2.2⟩
          refine (srmResolvePutTurl_returns hreplace hput src turls.1).bind fun answer hanswer => ?_
          cases answer with
          | error e => exact Returns.pure (hend rfl hanswer rfl)
          | ok destination =>
              refine (transfer_returns _ _ _ _).bind fun transferred htransferred => ?_
              cases transferred with
              | ok value => exact htransferred.elim
              | error e => exact Returns.pure ⟨⟨e, rfl, htransferred.2⟩, rfl, hanswer⟩

/-! ### The clean-up of the failed copy -/

/-- The file is removed between two states. -/
def Removed (dst : CString) (before after : Gfal2Context SrmWorld) : Prop :=
  ∃ made, after.world.made = before.world.made ++ made ∧ ∃ request ∈ made, request.Removes dst

variable {context : Gfal2Context SrmWorld}

theorem Removed.between {before after final : Gfal2Context SrmWorld} (hfirst : Avoids (fun _ => False) context before)
    (h : Removed dst before after) (hlast : Avoids (fun _ => False) after final) : ¬Avoids (SrmExchange.Removes dst) context final := by
  obtain ⟨first, hbefore, -⟩ := hfirst
  obtain ⟨made, hafter, request, hmem, hremoves⟩ := h
  obtain ⟨last, hfinal, -⟩ := hlast
  rintro ⟨all, hall, hnone⟩
  have hsame : all = first ++ made ++ last := by
    refine List.append_cancel_left (hall.symm.trans ?_)
    rw [hfinal, hafter, hbefore, List.append_assoc, List.append_assoc, List.append_assoc]
  exact hnone request (by simp [hsame, hmem]) hremoves

/-- The removal of a file whose endpoint can be told is asked for. -/
theorem gfalSrmUnlinkG_removes (hdst : ¬Endpointless dst) (hworking : Working context) :
    ∃ context', gfalSrmUnlinkG acceptingServers dst context = .ok (⟨-1, some ioError⟩, context') ∧ Working context' ∧
      Removed dst context context' := by
  obtain ⟨made, entered, heasy, hentered, hmade⟩ := srmEasyContext_returns dst .other context hworking
  obtain ⟨easy, rfl, hsome, -⟩ := hmade.resolve_right fun ⟨_, _, h, _⟩ => hdst h
  obtain ⟨-, hrecord⟩ := srmEasyContext_eq_ok heasy
  have hremove : ∃ left, gfalSrmUnlinkListG.remove acceptingServers [dst] (some easy) entered = .ok ((-1, [some ioError]), left) ∧
      Working left ∧ left.world.made = entered.world.made ++ [.rm [gfal2SrmGetDecodedPath dst]] := by
    have hcall : ∀ state : Gfal2Context SrmWorld, easy.call (acceptingServers.rm [gfal2SrmGetDecodedPath dst])
        (fun _ => .rm [gfal2SrmGetDecodedPath dst]) state = exchange (acceptingServers.rm [gfal2SrmGetDecodedPath dst])
          (fun _ => .rm [gfal2SrmGetDecodedPath dst]) state := by
      intro state
      unfold GfalSrmEasy.call
      rw [if_pos hsome]
    have hforget : gfalSrmUnlinkListG.forget [dst] entered = .ok ((), { entered with world := { entered.world with
        plugin := { entered.world.plugin with cache := entered.world.plugin.cache.remove (gfalSrmConstructKey dst) } } }) := rfl
    exact ⟨_, (bind_of_ok hforget).trans ((bind_of_ok (hcall _)).trans rfl),
      ⟨hentered.proto, hentered.cancel, hentered.booleans, hentered.strings⟩, rfl⟩
  obtain ⟨left, hleft, hworking', hmade⟩ := hremove
  have hlist : gfalSrmUnlinkListG acceptingServers [dst] context =
      .ok ((-1, [some ioError]), { left with world := { left.world with
        plugin := { left.world.plugin with opts := gfalSrmIfceEasyContextRelease left.world.plugin.opts } } }) :=
    (bind_of_ok heasy).trans (bind_of_ok hleft)
  refine ⟨_, bind_of_ok hlist, ⟨hworking'.proto, hworking'.cancel, hworking'.booleans, hworking'.strings⟩,
    [.context .other dst easy.srmContext.isSome, .rm [gfal2SrmGetDecodedPath dst]], ?_, .rm [gfal2SrmGetDecodedPath dst],
    by simp, List.mem_singleton_self _⟩
  change left.world.made = _
  rw [hmade, hrecord, List.append_assoc]
  rfl

/-- And so is the removal of any file by the library. -/
theorem gfal2UnlinkUrl_removes (hdst : ¬Unreachable dst) (hworking : Working context) :
    ∃ context', gfal2UnlinkUrl acceptingServers dst context = .ok (⟨-1, some ioError⟩, context') ∧ Working context' ∧
      Removed dst context context' := by
  have hwork : Working context.inScope := ⟨hworking.proto, hworking.cancel, hworking.booleans, hworking.strings⟩
  unfold gfal2UnlinkUrl
  by_cases hsurl : gfalSurlChecker dst = true
  · rw [if_pos hsurl]
    obtain ⟨left, hleft, hworking', hremoved⟩ := gfalSrmUnlinkG_removes (fun h => hdst ⟨hsurl, h⟩) hwork
    exact ⟨left.afterScope, scopeCancel_of_body (hworking.cancel _) hleft,
      ⟨hworking'.proto, hworking'.cancel, hworking'.booleans, hworking'.strings⟩, hremoved⟩
  · rw [if_neg hsurl]
    exact ⟨_, scopeCancel_of_body (hworking.cancel _) rfl, ⟨hworking.proto, hworking.cancel, hworking.booleans, hworking.strings⟩,
      [.unlink dst], rfl, _, List.mem_singleton_self _, rfl⟩

theorem srmReleaseGet_returns (surl token : CString) : Returns (srmReleaseGet acceptingServers surl token) fun _ => True := by
  have hbody : ∀ easy : GfalSrmEasy, easy.srmContext.isSome = true →
      Returns (gfalSrmv2ReleaseFileInternal acceptingServers easy [easy.path] (some token)) fun answer => answer = (-1, [some ioError]) := by
    intro easy hsome
    refine Returns.bind (call_returns hsome _ _ fun _ => rfl : Returns _ fun answer => answer = .error ioError) fun answer hanswer => ?_
    subst hanswer
    exact Returns.pure rfl
  have hrelease : Returns (gfalSrmv2ReleaseFileG acceptingServers surl (some token)) fun _ => True := by
    refine Returns.bind (withEasyContext_returns False.elim fun easy hsome => ?_ : Returns _ (Fair False fun _ => True))
      fun _ _ => Returns.pure trivial
    refine (hbody easy hsome).bind fun answer hanswer => ?_
    subst hanswer
    exact Returns.pure ⟨id, ioError_code⟩
  exact hrelease.bind fun _ _ => Returns.pure trivial

/-- The clean-up after the failure removes the destination, unless it cannot. -/
theorem rollback_removes {done : CopyEnd} (hdone : done.Fails (srmCheckUrl dst = true))
    (hdst : if srmCheckUrl dst = true then ¬Endpointless dst else ¬Unreachable dst) {left : Gfal2Context SrmWorld} (hworking : Working left) :
    ∃ told, srmCleanupCopy.rollback acceptingServers dst done done.error left = .ok ((), told) ∧ Working told ∧ Removed dst left told := by
  obtain ⟨⟨e, herror, hcode⟩, hfinished, htoken⟩ := hdone
  rw [herror]
  change ∃ told, srmRollbackPut acceptingServers e dst done.tokenDestination done.transferFinished left = _ ∧ _
  split at hdst
  case isTrue hsrm =>
      have habort : Returns (srmAbortRequestPlugin acceptingServers dst done.tokenDestination).run (Fair False fun _ => True) :=
        withEasyContext_returns False.elim fun easy hsome => call_returns hsome _ _ fun _ => failed_ioError.fair
      obtain ⟨_, aborted, haborted, hworking', -⟩ := habort left hworking
      obtain ⟨first, hfirst, -⟩ : Avoids (fun _ => False) left aborted :=
        srmAbortRequestPlugin_stays acceptingServers _ _ id id _ _ _ haborted
      obtain ⟨told, hunlink, htold, made, hmade, request, hmem, hremoves⟩ := gfalSrmUnlinkG_removes hdst hworking'
      refine ⟨told, ?_, htold, first ++ made, by rw [hmade, hfirst, List.append_assoc], request, by simp [hmem], hremoves⟩
      rw [srmRollbackPut, if_neg (by simp [hfinished, hsrm]), if_pos ⟨by simp [hfinished], by rw [htoken hsrm]; exact List.cons_ne_nil _ _⟩]
      exact (bind_of_ok haborted).trans (bind_of_ok hunlink)
  case isFalse hsrm =>
      obtain ⟨cleaned, hunlink, hcleaned, made, hmade, request, hmem, hremoves⟩ := gfal2UnlinkUrl_removes hdst hworking
      obtain ⟨_, told, htold, hworking', -⟩ := Returns.event srmDomain .destination (lit "CLEANUP") (showInt EIO) cleaned hcleaned
      obtain ⟨last, hlast, -⟩ : Avoids (fun _ => False) cleaned told := Stays.event _ _ _ _ _ _ _ htold
      refine ⟨told, ?_, hworking', made ++ last, by rw [hlast, hmade, List.append_assoc], request, by simp [hmem], hremoves⟩
      rw [srmRollbackPut, if_pos ⟨hcode, .inr hsrm⟩]
      exact (bind_of_ok hunlink).trans htold

/-- A clean-up whose first part removes the file comes to its end. -/
theorem cleanup_of_rollback {done : CopyEnd} {left : Gfal2Context SrmWorld}
    (hrollback : ∃ told, srmCleanupCopy.rollback acceptingServers dst done done.error left = .ok ((), told) ∧ Working told ∧
      Removed dst left told) :
    ∃ final told, srmCleanupCopy acceptingServers src dst done left = .ok ((), final) ∧ Removed dst left told ∧
      Avoids (fun _ => False) told final := by
  obtain ⟨told, hrollback, hworking, hremoved⟩ := hrollback
  unfold srmCleanupCopy
  rw [bind_of_ok hrollback]
  split
  case isFalse => exact ⟨told, told, rfl, hremoved, Avoids.refl _⟩
  case isTrue =>
      obtain ⟨_, final, hfinal, -, -⟩ := srmReleaseGet_returns src done.tokenSource told hworking
      have hadds : SrmAvoids (fun _ => False) (srmReleaseGet acceptingServers src done.tokenSource) :=
        (gfalSrmv2ReleaseFileG_stays acceptingServers _ _ id fun _ => id).bind fun _ => Stays.pure _
      exact ⟨final, told, hfinal, hremoved, hadds _ _ _ hfinal⟩

/-- A copy whose destination is not spared removes it. -/
theorem removes_of_not_spared (hreplace : params.replaceExisting = false)
    (hnot : ¬KeepsDestination params src dst) (hworking : Working context) :
    ¬Ensures (srmPluginFilecopy acceptingServers params src dst) context fun _ context' =>
      Avoids (SrmExchange.Removes dst) context context' := by
  obtain ⟨hcleanup, hdst⟩ := not_or.mp hnot
  rw [Bool.not_eq_false] at hcleanup
  have hasked : srmCheckUrl dst = true → srmCheckUrl dst = true ∧ ¬NeverAsked params src dst := fun hsrm => ⟨hsrm, by rwa [if_pos hsrm] at hdst⟩
  have hthere : if srmCheckUrl dst = true then ¬Endpointless dst else ¬Unreachable dst := by
    split
    case isTrue hsrm => exact fun h => (hasked hsrm).2 (.inl h)
    case isFalse hsrm => rwa [if_neg hsrm] at hdst
  intro havoids
  obtain ⟨_, hacked, hhacked, hworking', -⟩ := castorGridftpSessionHack_returns src dst context hworking
  obtain ⟨_, entered, hevent, hworking', -⟩ := Returns.event srmDomain .none (lit "PREPARE:ENTER") [] hacked hworking'
  obtain ⟨done, left, hdone, hworking', hfails⟩ := copyChecked_fails hreplace hasked entered hworking'
  obtain ⟨final, told, hcleaned, hremoved, hlast⟩ := cleanup_of_rollback (rollback_removes hfails hthere hworking')
  have hspares : SparesTransfer fun _ => False :=
    ⟨⟨fun _ => id, id, fun _ => id, fun _ => id, fun _ => id, fun _ _ => id, fun _ _ => id, fun _ _ _ _ => id⟩,
      fun _ _ _ _ => id, fun _ _ _ => id⟩
  have hadds : Avoids (fun _ => False) context left := by
    refine Avoids.trans _ _ _ (castorGridftpSessionHack_stays hspares.toAllowsQueries acceptingServers src dst _ _ _ hhacked) ?_
    refine Avoids.trans _ _ _ (Stays.event _ _ _ _ _ _ _ hevent) ?_
    refine copyChecked_stays hspares acceptingServers src dst (fun size => ?_) _ _ _ hdone
    exact srmResolvePutTurl_stays hspares.toAllowsQueries acceptingServers dst src size (fun _ => id) fun _ _ _ => id
  refine hremoved.between hadds hlast (havoids ⟨if done.error.isSome then -1 else 0, done.error⟩ final ?_)
  refine (bind_of_ok hhacked).trans ((bind_of_ok hevent).trans ((bind_of_ok hdone).trans ?_))
  dsimp only
  rw [if_pos hcleanup]
  exact bind_of_ok hcleaned

end Failing

/-- For a copy that must not replace its destination, one that is there is removed by no run just when there is no clean-up, or
when what there is cannot be removed, or no service is ever asked to write to it. -/
theorem existing_srm_destination_kept_iff {params : GfaltParams} (hreplace : params.replaceExisting = false) (src dst : CString) :
    (∀ servers context, servers.Holds dst → Ensures (srmPluginFilecopy servers params src dst) context fun _ context' =>
        Avoids (SrmExchange.Removes dst) context context') ↔ KeepsDestination params src dst := by
  constructor
  · intro hkept
    by_contra hnot
    have hworking : Working { config := acceptingConfig, world := { plugin := {} } } := ⟨rfl, fun _ => rfl, rfl, rfl⟩
    exact removes_of_not_spared hreplace hnot hworking (hkept acceptingServers _ fun _ _ _ _ h => by cases h)
  · exact fun hspared servers context _ => avoids_of_spared servers hreplace hspared context

/-- It is not so by default, whether the destination is an SRM URL or not. -/
theorem existing_srm_destination_kept_default :
    (∀ servers context, servers.Holds (lit "gsiftp://b/f") → Ensures (srmPluginFilecopy servers {} (lit "srm://a/f") (lit "gsiftp://b/f"))
        context fun _ context' => Avoids (SrmExchange.Removes (lit "gsiftp://b/f")) context context') ↔
      KeepsDestination {} (lit "srm://a/f") (lit "gsiftp://b/f") :=
  existing_srm_destination_kept_iff rfl _ _

/-- A file that was there is removed after the transfer to it failed. -/
theorem existing_file_removed_after_failure : acceptingServers.Holds (lit "gsiftp://b/f") ∧
      ¬Ensures (srmPluginFilecopy acceptingServers {} (lit "srm://a/f") (lit "gsiftp://b/f"))
        { config := acceptingConfig, world := { plugin := {} } }
        fun _ context' => Avoids (SrmExchange.Removes (lit "gsiftp://b/f")) { config := acceptingConfig, world := { plugin := {} } } context' := by
  refine ⟨fun _ _ _ _ h => (by cases h), removes_of_not_spared rfl ?_ ⟨rfl, fun _ => rfl, rfl, rfl⟩⟩
  rintro (h | h)
  · cases h
  · rw [if_neg (by decide)] at h
    exact absurd h.1 (by decide)

end Gfal2
