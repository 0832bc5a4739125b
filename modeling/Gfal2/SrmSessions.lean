import Gfal2.SrmOperations
import Gfal2.SrmCopyGrants
import Gfal2.SrmFailures

/-! Runs of the SRM plugin that copy files and open and close them. What the services have granted in a run is open
under the tokens of the files that are open, and nothing else is. -/

namespace Gfal2

open Base Exec Throwing

/-- What is done in a run. A file is closed by its place among those that are open. -/
inductive SrmAction where
  | copyFile (params : GfaltParams) (source dest : CString)
  | openFile (path : CString) (flag mode : Nat)
  | closeFile (index : Nat)

/-- A file that was opened. Its handle is kept where it cannot be closed. -/
structure SrmOpenFile where
  handle : GfalSrmHandleOpen
  closeFailed : Bool := false

/-- The context of the library and the files there are handles of. -/
structure SrmSession where
  context : Gfal2Context SrmWorld
  files : List SrmOpenFile := []

variable (servers : SrmServers)

/-- A copy is cleaned up after. -/
def srmStep : SrmAction → SrmSession → Option SrmSession
  | .copyFile params source dest, s =>
      if params.transferCleanup then
        match srmPluginFilecopy servers params source dest s.context with
        | .ok (_, context) => some ⟨context, s.files⟩
        | .error _ => none
      else none
  | .openFile path flag mode, s =>
      match (gfalSrmOpenG servers path flag mode).run s.context with
      | .ok (.ok sh, context) => some ⟨context, s.files ++ [{ handle := sh }]⟩
      | .ok (.error _, context) => some ⟨context, s.files⟩
      | .error _ => none
  | .closeFile index, s =>
      match s.files[index]? with
      | some file =>
          match gfalSrmCloseG servers file.handle s.context with
          | .ok ((_, none), context) => some ⟨context, s.files.eraseIdx index⟩
          | .ok ((_, some sh), context) => some ⟨context, s.files.set index ⟨sh, true⟩⟩
          | .error _ => none
      | none => none

/-- The tokens of the files that nobody has tried to close. -/
def SrmSession.openTokens (s : SrmSession) (reqType : SrmReqType) : Multiset (Option CString) :=
  ((s.files.filter fun file => file.handle.reqType = reqType ∧ file.closeFailed = false).map fun file => file.handle.reqtoken :
    List (Option CString))

/-- Since the record was as it is given, what was granted and is not finished belongs to the files that are still to be closed,
nothing was finished twice, and files were said to be written only after transfers that came to a good end. -/
def SrmSession.Accounted (start : SrmHistory) (s : SrmSession) : Prop :=
  ∃ made, s.context.world.made = start ++ made ∧ (∀ reqType, unfinished reqType made = some (s.openTokens reqType)) ∧
    DoneAfterTransfer made

/-- A file that is opened: what is granted has a TURL that was asked for, at which it can be opened. -/
structure OpenFinishes (made : SrmHistory) : Prop where
  valid : ∀ reqType, ∀ request ∈ made, ∀ grant, request.grant reqType = some grant → grant.Valid
  opened : ∀ url flag mode e, SrmExchange.openUrl url flag mode (.error e) ∉ made

/-- A file that is closed: its TURL can be closed, and there is a token to be released and a context for what finishes the request. -/
structure CloseFinishes (sh : GfalSrmHandleOpen) (made : SrmHistory) : Prop where
  closed : ∀ closed, SrmExchange.closeHandle sh.internalHandle closed ∈ made → closed.val = 0
  token : sh.reqType = .get → sh.reqtoken ≠ none
  told : ∀ surl, SrmExchange.context .putDone surl false ∉ made
  released : ∀ surl, SrmExchange.context .release surl false ∉ made

/-- With these answers a step finishes what it has to. -/
def SrmAction.Finishes (s : SrmSession) (made : SrmHistory) : SrmAction → Prop
  | .copyFile .. => GetsFinish made ∧ PutsFinish made
  | .openFile .. => OpenFinishes made
  | .closeFile index => ∀ file, s.files[index]? = some file → CloseFinishes file.handle made

/-- With the answers it meets a step finishes what it has to. -/
def FinishesRequests (action : SrmAction) (s : SrmSession) : Prop :=
  ∀ s' made, srmStep servers action s = some s' → s'.context.world.made = s.context.world.made ++ made → action.Finishes s made

variable {made : SrmHistory}

section Accounts

variable {servers : SrmServers} {start : SrmHistory} {s s' : SrmSession}

theorem DoneAfterTransfer.nil : DoneAfterTransfer [] := by
  intro earlier path token answer later h
  simp at h

theorem DoneAfterTransfer.append {first last : SrmHistory} (hfirst : DoneAfterTransfer first) (hlast : DoneAfterTransfer last) :
    DoneAfterTransfer (first ++ last) := by
  intro earlier path token answer later h
  rcases List.append_eq_append_iff.mp h with ⟨between, rfl, hlater⟩ | ⟨between, rfl, hearlier⟩
  · obtain ⟨before, transfer, surl, rfl, htransferred⟩ := hlast between path token answer later hlater
    exact ⟨first ++ before, transfer, surl, by simp, htransferred⟩
  · cases between with
    | nil =>
        obtain ⟨before, transfer, surl, heq, htransferred⟩ := hlast [] path token answer later (by simpa using hearlier.symm)
        simp at heq
    | cons request rest =>
        obtain ⟨rfl, rfl⟩ := List.cons.inj hearlier
        exact hfirst earlier path token answer rest rfl

theorem doneAfterTransfer_of_none (h : ∀ path token answer, SrmExchange.putDone path token answer ∉ made) :
    DoneAfterTransfer made := by
  rintro earlier path token answer later rfl
  exact absurd (by simp) (h path token answer)

/-- What is said of a file right after a transfer that came to a good end. -/
theorem doneAfterTransfer_of_record {surl : CString} {token : Option CString} {outcome : Except GError Unit}
    {transfer : SrmExchange} (h : PutDoneRecord surl token made outcome) (htransfer : transfer.Transferred) :
    DoneAfterTransfer (transfer :: made) := by
  cases h with
  | missing e =>
      refine doneAfterTransfer_of_none fun path token answer hmem => ?_
      simp only [List.mem_cons, List.not_mem_nil, or_false, reduceCtorEq] at hmem
      subst hmem
      exact htransfer
  | told path answer haccepted =>
      intro earlier path' token' answer' later hsplit
      have hput : SrmExchange.putDone path' token' answer' ≠ transfer := by
        rintro rfl
        exact htransfer
      rcases earlier with _ | ⟨first, _ | ⟨second, rest⟩⟩
      · exact absurd (List.cons.inj hsplit).1.symm hput
      · simp at hsplit
      · simp only [List.cons_append, List.cons.injEq] at hsplit
        obtain ⟨rfl, rfl, hrest⟩ := hsplit
        cases rest with
        | nil => exact ⟨[], transfer, surl, rfl, htransfer⟩
        | cons third rest => simp at hrest

/-- What a step adds to the record accounts for it just when it settles the tokens of the files that are open. -/
theorem accounted_iff (hacc : s.Accounted start) (hmade : s'.context.world.made = s.context.world.made ++ made)
    (hdone : DoneAfterTransfer made) : s'.Accounted start ↔
      ∀ reqType, settle (s.openTokens reqType) (made.filterMap (SrmExchange.entry reqType)) = some (s'.openTokens reqType) := by
  obtain ⟨before, hbefore, hunfinished, hdoneBefore⟩ := hacc
  have hsettle : ∀ reqType, unfinished reqType (before ++ made) =
      settle (s.openTokens reqType) (made.filterMap (SrmExchange.entry reqType)) := by
    intro reqType
    have h := hunfinished reqType
    unfold unfinished at h ⊢
    rw [List.filterMap_append, settle_append, h, Option.bind_some]
  constructor
  · rintro ⟨all, hall, hopen, -⟩ reqType
    have heq : all = before ++ made := by
      rw [hmade, hbefore, List.append_assoc] at hall
      exact (List.append_cancel_left hall).symm
    rw [← hsettle, ← heq]
    exact hopen reqType
  · intro h
    refine ⟨before ++ made, by rw [hmade, hbefore, List.append_assoc], fun reqType => ?_, hdoneBefore.append hdone⟩
    rw [hsettle]
    exact h reqType

end Accounts

/-! ### The steps -/

section Copy

variable {servers : SrmServers} {params : GfaltParams} {source dest : CString} {context left final : Gfal2Context SrmWorld}

/-- Files are said to be written only after transfers between the two states. -/
def DoneBetween (before after : Gfal2Context SrmWorld) : Prop :=
  ∃ made, after.world.made = before.world.made ++ made ∧ DoneAfterTransfer made

/-- It is said of a file that it is written. -/
def SrmExchange.IsPutDone : SrmExchange → Prop
  | .putDone .. => True
  | _ => False

theorem DoneBetween.trans {a b c : Gfal2Context SrmWorld} (hab : DoneBetween a b) (hbc : DoneBetween b c) : DoneBetween a c := by
  obtain ⟨first, hb, hfirst⟩ := hab
  obtain ⟨last, hc, hlast⟩ := hbc
  exact ⟨first ++ last, by rw [hc, hb, List.append_assoc], hfirst.append hlast⟩

theorem DoneBetween.of_avoids {before after : Gfal2Context SrmWorld} (h : Avoids SrmExchange.IsPutDone before after) :
    DoneBetween before after := by
  obtain ⟨made, hmade, havoids⟩ := h
  exact ⟨made, hmade, doneAfterTransfer_of_none fun path token answer hmem => havoids _ hmem trivial⟩

theorem spares_putDone : SparesQueries SrmExchange.IsPutDone :=
  ⟨fun _ => id, id, fun _ => id, fun _ => id, fun _ => id, fun _ _ => id, fun _ _ => id, fun _ _ _ _ => id⟩

theorem CopyRun.doneBetween {done : CopyEnd} (h : CopyRun servers params source dest context done left) :
    DoneBetween context left := by
  have hchecked : ∀ {cfg outcome} {checked : Gfal2Context SrmWorld},
      (copyChecked.sourceChecksum servers cfg source).run context = .ok (outcome, checked) → DoneBetween context checked :=
    fun h => .of_avoids (sourceChecksum_stays spares_putDone servers (fun _ _ _ => id) _ _ _ _ _ h)
  have hresolved : ∀ {outcome} {checked resolved : Gfal2Context SrmWorld},
      (copyResolved.resolveSource servers source dest).run checked = .ok (outcome, resolved) → DoneBetween checked resolved :=
    fun h => .of_avoids (resolveSource_stays spares_putDone servers _ _ (fun _ _ _ => id) _ _ _ h)
  have hgranted : ∀ {size outcome} {resolved granted : Gfal2Context SrmWorld},
      (srmResolvePutTurl servers params dest source size).run resolved = .ok (outcome, granted) → DoneBetween resolved granted :=
    fun h => .of_avoids (srmResolvePutTurl_stays spares_putDone servers _ _ _ (fun _ => id) (fun _ _ _ => id) _ _ _ h)
  have htarget : ∀ {cfg checksumSource outcome} {closed checked : Gfal2Context SrmWorld},
      (copyBetweenTurls.checkTarget servers cfg dest checksumSource).run closed = .ok (outcome, checked) → DoneBetween closed checked :=
    fun h => .of_avoids (checkTarget_stays spares_putDone servers (fun _ _ _ => id) _ _ _ _ _ _ h)
  have htransferred : ∀ {turlSource turlDestination token outcome} {granted closed : Gfal2Context SrmWorld},
      (copyBetweenTurls.transfer servers params dest turlSource turlDestination token).run granted = .ok (outcome, closed) →
      DoneBetween granted closed := by
    intro turlSource turlDestination token outcome granted closed h
    obtain ⟨made, hmade, hrecord⟩ := transfer_record h
    refine ⟨made, hmade, ?_⟩
    cases hrecord with
    | untried e => exact .nil
    | failed => exact doneAfterTransfer_of_none (by simp)
    | done => exact doneAfterTransfer_of_none (by simp)
    | closed _ _ _ _ hput => exact doneAfterTransfer_of_record hput rfl
  cases h with
  | misconfigured e => exact ⟨[], by simp, .nil⟩
  | unchecked hchecksum => exact hchecked hchecksum
  | unresolved hchecksum hsource => exact (hchecked hchecksum).trans (hresolved hsource)
  | refused hchecksum hsource hput => exact ((hchecked hchecksum).trans (hresolved hsource)).trans (hgranted hput)
  | untransferred hchecksum hsource hput htransfer =>
      exact (((hchecked hchecksum).trans (hresolved hsource)).trans (hgranted hput)).trans (htransferred htransfer)
  | transferred hchecksum hsource hput htransfer hcheck =>
      exact ((((hchecked hchecksum).trans (hresolved hsource)).trans (hgranted hput)).trans (htransferred htransfer)).trans
        (htarget hcheck)

theorem srmCleanupCopy_doneBetween {done : CopyEnd} (h : srmCleanupCopy servers source dest done left = .ok ((), final)) :
    DoneBetween left final := by
  have hrollback : SrmAvoids SrmExchange.IsPutDone (srmCleanupCopy.rollback servers dest done done.error) :=
    rollback_stays spares_putDone servers dest done id id fun _ _ => ⟨fun _ => id, id⟩
  refine .of_avoids ((hrollback.bind fun _ => Within.ite (fun _ => ?_) fun _ => Stays.pure _ :
    SrmAvoids SrmExchange.IsPutDone (srmCleanupCopy servers source dest done)) _ _ _ h)
  exact (gfalSrmv2ReleaseFileG_stays servers _ _ id fun _ => id).bind fun _ => Stays.pure _

/-- What is tracked between two states is what is tracked of the record. -/
theorem SrmTracks.eq_filter {reqType : SrmReqType} {kept : SrmHistory} (h : SrmTracks reqType context left kept)
    (hmade : left.world.made = context.world.made ++ made) : kept = made.filter (·.tracked reqType) := by
  obtain ⟨made', hmade', rfl⟩ := h
  rw [List.append_cancel_left (hmade.symm.trans hmade')]

/-- A copy leaves nothing open, and finishes nothing of others, just when it finishes what it was granted. -/
theorem srmPluginFilecopy_settles (hcleanup : params.transferCleanup = true) {ret : Ret Int}
    (h : srmPluginFilecopy servers params source dest context = .ok (ret, final)) :
    ∃ made, final.world.made = context.world.made ++ made ∧ DoneAfterTransfer made ∧ ∀ pending : SrmReqType → Multiset (Option CString),
      (∀ reqType, settle (pending reqType) (made.filterMap (SrmExchange.entry reqType)) = some (pending reqType)) ↔
        GetsFinish made ∧ PutsFinish made := by
  obtain ⟨entered, done, left, hrun, hclean, hentered⟩ := srmPluginFilecopy_run hcleanup h
  obtain ⟨made, hmade, hdone⟩ := ((DoneBetween.of_avoids (hentered _ spares_putDone)).trans hrun.doneBetween).trans
    (srmCleanupCopy_doneBetween hclean)
  refine ⟨made, hmade, hdone, fun pending => ?_⟩
  have hgets : settle (pending .get) (made.filterMap (SrmExchange.entry .get)) = some (pending .get) ↔ GetsFinish made := by
    obtain ⟨opens, hopens, hopened⟩ := hrun.gets
    obtain ⟨closing, hclosing, hclosed⟩ := srmCleanupCopy_gets hclean
    have htracks := ((SrmTracks.nothing (hentered _ (spares_tracked .get))).trans hopens).trans hclosing
    have heq := htracks.eq_filter hmade
    rw [← filterMap_filter_tracked, ← getsFinish_filter, ← heq]
    exact settle_gets_iff hopened hclosed _
  have hputs : settle (pending .put) (made.filterMap (SrmExchange.entry .put)) = some (pending .put) ↔ PutsFinish made := by
    obtain ⟨opens, hopens, hopened⟩ := hrun.puts
    have hdest : done.tokenDestination = [] ∨
        srmCheckUrl dest = true ∧ (done.transferFinished = false → done.error.isSome = true) := by
      cases hopened with
      | nothing htoken => exact .inl htoken
      | rejected _ _ htoken => exact .inl htoken
      | granted _ _ hsrm _ _ _ herror => exact .inr ⟨hsrm, herror⟩
    obtain ⟨closing, hclosing, hclosed⟩ := srmCleanupCopy_puts hdest hclean
    have htracks := ((SrmTracks.nothing (hentered _ (spares_tracked .put))).trans hopens).trans hclosing
    have heq := htracks.eq_filter hmade
    rw [← filterMap_filter_tracked, ← putsFinish_filter, ← heq]
    exact settle_puts_iff hopened hclosed _
  rw [← hgets, ← hputs]
  constructor
  · exact fun h => ⟨h .get, h .put⟩
  · rintro ⟨hget, hput⟩ reqType
    cases reqType with
    | get => exact hget
    | put => exact hput

end Copy

section OpenClose

variable {servers : SrmServers} {context left : Gfal2Context SrmWorld}

/-- A TURL cannot be opened. -/
def SrmExchange.FailsToOpen : SrmExchange → Prop
  | .openUrl _ _ _ (.error _) => True
  | _ => False

/-- The kind of the request for a file that is opened. -/
def openReqType (flag : Nat) : SrmReqType := if flag &&& oCreat ≠ 0 then .put else .get

theorem turls_eq (path : CString) (reqType : SrmReqType) :
    gfalSrmOpenG.turls servers path reqType = turlsPlugin servers reqType path 2048 := by
  cases reqType <;> rfl

/-- The token that comes with the TURL of a file that is opened. -/
def OwnToken (token : Option CString) (turl : CString × Option CString) : Prop := turl.2 = token

/-- What it comes to that a file is opened, after what is asked for it. -/
inductive OpenRecord (path : CString) (flag mode : Nat) (asked : SrmHistory) :
    SrmHistory → Except GError GfalSrmHandleOpen → Prop
  | ungranted (e e' : GError)
      (hturl : Granting (openReqType flag) OwnToken (asked.filter (·.tracked (openReqType flag))) (.error e)) :
      OpenRecord path flag mode asked [] (.error e')
  | unopened (turl : CString × Option CString) (e : GError)
      (hturl : Granting (openReqType flag) OwnToken (asked.filter (·.tracked (openReqType flag))) (.ok turl)) :
      OpenRecord path flag mode asked [.openUrl turl.1 flag mode (.error e)] (.error e)
  | opened (turl : CString × Option CString) (fh : GfalFileHandle)
      (hturl : Granting (openReqType flag) OwnToken (asked.filter (·.tracked (openReqType flag))) (.ok turl)) :
      OpenRecord path flag mode asked [.openUrl turl.1 flag mode (.ok fh)]
        (.ok (gfalSrmFileHandleCreate fh path turl.2 (openReqType flag)))

theorem gfalSrmOpenG_record {path : CString} {flag mode : Nat} {outcome : Except GError GfalSrmHandleOpen}
    (h : (gfalSrmOpenG servers path flag mode).run context = .ok (outcome, left)) :
    ∃ asked kept, left.world.made = context.world.made ++ (asked ++ kept) ∧
      (∀ request ∈ asked, ¬request.IsPutDone ∧ ¬request.FailsToOpen) ∧
      (∀ reqType ≠ openReqType flag, asked.filter (·.tracked reqType) = []) ∧ OpenRecord path flag mode asked kept outcome := by
  have hspares : SparesQueries fun request => request.IsPutDone ∨ request.FailsToOpen := by
    constructor
    all_goals simp [SrmExchange.IsPutDone, SrmExchange.FailsToOpen]
  obtain ⟨_, hacked, hhack, h⟩ : ∃ answer hacked, castorOpenHack servers path context = .ok (answer, hacked) ∧
      (do
        let granted ← turlsPlugin servers (openReqType flag) path 2048
        let fh ← openTurl servers granted.1 flag mode
        return gfalSrmFileHandleCreate fh path granted.2 (openReqType flag) : SrmThrowing _).run hacked = .ok (outcome, left) := by
    rcases run_bind_eq_ok h with ⟨e, hthrown, -⟩ | ⟨value, hacked, hhack, hrest⟩
    · obtain ⟨_, _, _, heq⟩ := bind_eq_ok.mp hthrown
      cases heq
    · obtain ⟨value', hacked', hhack', heq⟩ := bind_eq_ok.mp hhack
      cases heq
      refine ⟨value, hacked, hhack', ?_⟩
      dsimp only at hrest
      rw [turls_eq] at hrest
      exact hrest
  -- what is asked before the TURL is opened
  have hasked : ∀ {turls : Except GError (CString × Option CString)} {got : Gfal2Context SrmWorld},
      (turlsPlugin servers (openReqType flag) path 2048).run hacked = .ok (turls, got) →
      ∃ asked, got.world.made = context.world.made ++ asked ∧ (∀ request ∈ asked, ¬request.IsPutDone ∧ ¬request.FailsToOpen) ∧
        (∀ reqType ≠ openReqType flag, asked.filter (·.tracked reqType) = []) ∧
        Granting (openReqType flag) OwnToken (asked.filter (·.tracked (openReqType flag))) turls := by
    intro turls got hturls
    have hhacked : ∀ {avoided}, SparesQueries avoided → Avoids avoided context hacked := fun spares =>
      castorOpenHack_stays spares servers path _ _ _ hhack
    have hgot : ∀ {avoided}, SparesQueries avoided →
        (∀ path answer, ¬avoided ((openReqType flag).exchange .access path servers.turlProtocols 0 answer)) →
        Avoids avoided hacked got := fun spares hrequest => turlsPlugin_stays spares servers _ path 2048 hrequest _ _ _ hturls
    obtain ⟨asked, hmade, hnone⟩ := (hhacked hspares).trans _ _ _ (hgot hspares fun decoded answer => by
      cases openReqType flag <;> simp [SrmReqType.exchange, SrmExchange.IsPutDone, SrmExchange.FailsToOpen])
    refine ⟨asked, hmade, fun request hmem => not_or.mp (hnone request hmem), fun reqType hother => ?_, ?_⟩
    · have htracks := (hhacked (spares_tracked reqType)).trans _ _ _ (hgot (spares_tracked reqType) fun decoded answer => by
        cases hreq : openReqType flag <;> cases reqType <;> simp_all [SrmReqType.exchange, SrmExchange.tracked, SrmExchange.entry,
          SrmExchange.grant, SrmExchange.finishes, SrmExchange.givesUp])
      exact ((SrmTracks.nothing htracks).eq_filter hmade).symm
    · obtain ⟨kept, htracks, hgranting⟩ : ∃ kept, SrmTracks (openReqType flag) hacked got kept ∧
          Granting (openReqType flag) OwnToken kept turls :=
        turls_granting (f := fun resu => (resu.turl.take 2047, resu.reqtoken))
          (g := fun resu => gfal2SetError srmQuark resu.errCode (lit "error on the turl request : " ++ resu.errStr ++ [' ']))
          (fun _ => rfl) hturls
      rw [← ((SrmTracks.nothing (hhacked (spares_tracked _))).trans htracks).eq_filter hmade]
      exact hgranting
  rcases run_bind_eq_ok h with ⟨e, hthrown, rfl⟩ | ⟨⟨turl, reqtoken⟩, got, hgot, h⟩
  · obtain ⟨asked, hmade, hnone, hother, hgranting⟩ := hasked hthrown
    exact ⟨asked, [], by rw [List.append_nil, hmade], hnone, hother, .ungranted e e hgranting⟩
  · obtain ⟨asked, hmade, hnone, hother, hgranting⟩ := hasked hgot
    have hopen : ∀ {opened : Except GError GfalFileHandle} {final : Gfal2Context SrmWorld},
        (openTurl servers turl flag mode).run got = .ok (opened, final) →
        final.world.made = context.world.made ++ (asked ++ [.openUrl turl flag mode opened]) := by
      intro opened final hopened
      cases hopened
      rw [← List.append_assoc, ← hmade]
    rcases run_bind_eq_ok h with ⟨e, hthrown, rfl⟩ | ⟨fh, final, hopened, h⟩
    · exact ⟨asked, _, hopen hthrown, hnone, hother, .unopened (turl, reqtoken) e hgranting⟩
    · cases h
      exact ⟨asked, _, hopen hopened, hnone, hother, .opened (turl, reqtoken) fh hgranting⟩

/-- What it comes to that a file is closed. -/
inductive CloseRecord (sh : GfalSrmHandleOpen) : SrmHistory → Option GfalSrmHandleOpen → Prop
  | failed (closed : Ret Int) (hfailed : closed.val ≠ 0) : CloseRecord sh [.closeHandle sh.internalHandle closed] (some sh)
  | written (closed : Ret Int) (hclosed : closed.val = 0) (hput : sh.reqType = .put) {made : SrmHistory} {outcome : Except GError Unit}
      (hmade : PutDoneRecord sh.surl sh.reqtoken made outcome) :
      CloseRecord sh (.closeHandle sh.internalHandle closed :: made) none
  | unreleased (closed : Ret Int) (hclosed : closed.val = 0) (hget : sh.reqType = .get) (htoken : sh.reqtoken = none) :
      CloseRecord sh [.closeHandle sh.internalHandle closed] none
  | read (closed : Ret Int) (hclosed : closed.val = 0) (hget : sh.reqType = .get) {token : CString} (htoken : sh.reqtoken = some token)
      {made : SrmHistory} (hmade : GetClosed sh.surl token made) :
      CloseRecord sh (.closeHandle sh.internalHandle closed :: made) none

theorem gfalSrmCloseG_record {sh : GfalSrmHandleOpen} {ret : Ret Int} {rest : Option GfalSrmHandleOpen}
    (h : gfalSrmCloseG servers sh context = .ok ((ret, rest), left)) :
    ∃ made, left.world.made = context.world.made ++ made ∧ CloseRecord sh made rest := by
  obtain ⟨closed, entered, hclosed, h⟩ := bind_eq_ok.mp h
  have hentered : entered.world.made = context.world.made ++ [.closeHandle sh.internalHandle closed] := by
    cases hclosed
    rfl
  split at h
  case isFalse hfailed =>
      cases h
      exact ⟨_, hentered, .failed ret hfailed⟩
  case isTrue hzero =>
      obtain ⟨finished, final, hfinish, h⟩ := bind_eq_ok.mp h
      cases h
      cases hreq : sh.reqType with
      | put =>
          rw [hreq] at hfinish
          obtain ⟨outcome, told, hput, hret⟩ := bind_eq_ok.mp hfinish
          obtain ⟨made, hmade, hrecord⟩ := gfalSrmPutdone_record hput
          refine ⟨_, ?_, .written closed hzero hreq hrecord⟩
          have hleft : left.world.made = told.world.made := by
            cases outcome with
            | ok _ =>
                cases hret
                rfl
            | error e =>
                cases hret
                rfl
          rw [hleft, hmade, hentered, List.append_assoc]
          rfl
      | get =>
          rw [hreq] at hfinish
          change gfalSrmv2ReleaseFileG servers sh.surl sh.reqtoken entered = _ at hfinish
          cases htoken : sh.reqtoken with
          | none =>
              rw [htoken] at hfinish
              cases hfinish
              exact ⟨_, hentered, .unreleased closed hzero hreq htoken⟩
          | some token =>
              rw [htoken] at hfinish
              obtain ⟨made, hmade, hrecord⟩ := gfalSrmv2ReleaseFileG_closes hfinish
              refine ⟨_, ?_, .read closed hzero hreq htoken hrecord⟩
              rw [hmade, hentered, List.append_assoc]
              rfl

end OpenClose

section Steps

variable {servers : SrmServers} {start : SrmHistory} {s s' : SrmSession} {context : Gfal2Context SrmWorld} {index : Nat}

theorem openTokens_append (sh : GfalSrmHandleOpen) (reqType : SrmReqType) :
    SrmSession.openTokens ⟨context, s.files ++ [{ handle := sh }]⟩ reqType =
      if sh.reqType = reqType then sh.reqtoken ::ₘ s.openTokens reqType else s.openTokens reqType := by
  unfold SrmSession.openTokens
  rw [List.filter_append]
  by_cases h : sh.reqType = reqType
  · simp [h, ← Multiset.coe_add, Multiset.add_comm, Multiset.singleton_add]
  · simp [h]

/-- Tokens do not depend on the order of the files. -/
theorem openTokens_perm {files files' : List SrmOpenFile} (h : files.Perm files') (context : Gfal2Context SrmWorld)
    (reqType : SrmReqType) :
    SrmSession.openTokens ⟨context, files⟩ reqType = SrmSession.openTokens ⟨context, files'⟩ reqType :=
  Multiset.coe_eq_coe.mpr ((h.filter _).map _)

theorem openTokens_eraseIdx {file : SrmOpenFile} (h : s.files[index]? = some file) (hopen : file.closeFailed = false)
    (context : Gfal2Context SrmWorld) (reqType : SrmReqType) :
    s.openTokens reqType =
      if file.handle.reqType = reqType then
        file.handle.reqtoken ::ₘ SrmSession.openTokens ⟨context, s.files.eraseIdx index⟩ reqType
      else SrmSession.openTokens ⟨context, s.files.eraseIdx index⟩ reqType := by
  obtain ⟨hindex, rfl⟩ := List.getElem?_eq_some_iff.mp h
  have hperm := openTokens_perm (List.getElem_cons_eraseIdx_perm hindex) s.context reqType
  refine hperm.symm.trans ?_
  unfold SrmSession.openTokens
  by_cases hreq : s.files[index].handle.reqType = reqType
  · simp [hreq, hopen]
  · simp [hreq]

/-- A file whose close has failed is not open any more, as one that was closed. -/
theorem openTokens_set {file : SrmOpenFile} (h : s.files[index]? = some file) (sh : GfalSrmHandleOpen)
    (context : Gfal2Context SrmWorld) (reqType : SrmReqType) :
    SrmSession.openTokens ⟨context, s.files.set index ⟨sh, true⟩⟩ reqType =
      SrmSession.openTokens ⟨context, s.files.eraseIdx index⟩ reqType := by
  obtain ⟨hindex, -⟩ := List.getElem?_eq_some_iff.mp h
  refine (openTokens_perm (List.set_perm_cons_eraseIdx hindex _) context reqType).trans ?_
  simp [SrmSession.openTokens]

/-- A file that is closed is accounted for just when its own token is finished. -/
theorem settle_closeFile_iff {file : SrmOpenFile} (hfile : s.files[index]? = some file)
    (hopen : file.closeFailed = false) (context : Gfal2Context SrmWorld) (made : SrmHistory) (keys : List (Option CString))
    (hown : made.filterMap (SrmExchange.entry file.handle.reqType) = keys.map .closed)
    (hother : ∀ reqType ≠ file.handle.reqType, made.filterMap (SrmExchange.entry reqType) = []) :
    (∀ reqType, settle (s.openTokens reqType) (made.filterMap (SrmExchange.entry reqType)) =
      some (SrmSession.openTokens ⟨context, s.files.eraseIdx index⟩ reqType)) ↔ keys = [file.handle.reqtoken] := by
  have hopen := openTokens_eraseIdx hfile hopen context
  have hsettle : settle (s.openTokens file.handle.reqType) (made.filterMap (SrmExchange.entry file.handle.reqType)) =
      some (SrmSession.openTokens ⟨context, s.files.eraseIdx index⟩ file.handle.reqType) ↔ keys = [file.handle.reqtoken] := by
    rw [hown, settle_closed_iff, hopen, if_pos rfl, ← Multiset.singleton_add, Multiset.add_left_inj, ← Multiset.coe_singleton,
      Multiset.coe_eq_coe, List.singleton_perm, eq_comm]
  rw [← hsettle]
  constructor
  · exact fun h => h file.handle.reqType
  · intro h reqType
    by_cases hreq : reqType = file.handle.reqType
    · rw [hreq]
      exact h
    · rw [hother reqType hreq, hopen, if_neg (Ne.symm hreq)]
      rfl

theorem finishesRequests_iff {action : SrmAction} (hstep : srmStep servers action s = some s')
    (hmade : s'.context.world.made = s.context.world.made ++ made) : FinishesRequests servers action s ↔ action.Finishes s made := by
  constructor
  · exact fun h => h s' made hstep hmade
  · intro h s'' made' hstep' hmade'
    cases hstep.symm.trans hstep'
    cases List.append_cancel_left (hmade.symm.trans hmade')
    exact h

/-- A file that is opened is accounted for just when what is granted for it has a TURL at which it can be opened. -/
theorem accounted_openFile {path : CString} {flag mode : Nat} (hacc : s.Accounted start)
    (hstep : srmStep servers (.openFile path flag mode) s = some s') :
    s'.Accounted start ↔ FinishesRequests servers (.openFile path flag mode) s := by
  have hopen := hstep
  rw [srmStep] at hopen
  cases hrun : (gfalSrmOpenG servers path flag mode).run s.context with
  | error reason =>
      rw [hrun] at hopen
      cases hopen
  | ok answer =>
      obtain ⟨outcome, final⟩ := answer
      rw [hrun] at hopen
      obtain ⟨asked, kept, hmade, hnone, hother, hrecord⟩ := gfalSrmOpenG_record hrun
      have hmade : s'.context.world.made = s.context.world.made ++ (asked ++ kept) := by
        cases outcome <;> cases hopen <;> exact hmade
      have hkept : (∀ path token answer, SrmExchange.putDone path token answer ∉ kept) ∧
          ∀ reqType, kept.filterMap (SrmExchange.entry reqType) = [] := by
        cases hrecord with
        | ungranted => simp
        | unopened => exact ⟨by simp, fun reqType => by cases reqType <;> rfl⟩
        | opened => exact ⟨by simp, fun reqType => by cases reqType <;> rfl⟩
      have hdone : DoneAfterTransfer (asked ++ kept) := doneAfterTransfer_of_none fun path token answer hmem =>
        (List.mem_append.mp hmem).elim (fun hmem => (hnone _ hmem).1 trivial) (hkept.1 path token answer)
      rw [accounted_iff hacc hmade hdone, finishesRequests_iff hstep hmade]
      have hentries : ∀ reqType, (asked ++ kept).filterMap (SrmExchange.entry reqType) =
          (asked.filter (·.tracked reqType)).filterMap (SrmExchange.entry reqType) := fun reqType => by
        rw [List.filterMap_append, hkept.2, List.append_nil, filterMap_filter_tracked]
      simp only [hentries]
      have hgrants : ∀ reqType, ∀ request ∈ asked ++ kept, ∀ grant, request.grant reqType = some grant →
          reqType = openReqType flag ∧ request ∈ asked.filter (·.tracked (openReqType flag)) := by
        intro reqType request hmem grant hgrant
        have htracked : request.tracked reqType = true := by simp [SrmExchange.tracked, SrmExchange.entry, hgrant]
        have hasked : request ∈ asked := by
          refine (List.mem_append.mp hmem).resolve_right fun hmem => ?_
          have hentry := List.filterMap_eq_nil_iff.mp (hkept.2 reqType) request hmem
          simp [SrmExchange.entry, hgrant] at hentry
        have hfilter : request ∈ asked.filter (·.tracked reqType) := List.mem_filter.mpr ⟨hasked, htracked⟩
        by_cases hreq : reqType = openReqType flag
        · exact ⟨hreq, hreq ▸ hfilter⟩
        · rw [hother reqType hreq] at hfilter
          cases hfilter
      have hunopened : ∀ url flag mode e, SrmExchange.openUrl url flag mode (.error e) ∉ asked := fun url flag mode e hmem =>
        (hnone _ hmem).2 trivial
      have hopened : ∀ {request : SrmExchange} {grant : SrmGrant} (pending : Multiset (Option CString)),
          request.grant (openReqType flag) = some grant →
          settle pending ([request].filterMap (SrmExchange.entry (openReqType flag))) = some (grant.answer.token ::ₘ pending) := by
        intro request grant pending hgrant
        simp [SrmExchange.entry, hgrant, settle]
      have hnever : ∀ {request : SrmExchange} {grant : SrmGrant}, asked.filter (·.tracked (openReqType flag)) = [request] →
          request.grant (openReqType flag) = some grant → ¬∀ reqType, settle (s.openTokens reqType)
            ((asked.filter (·.tracked reqType)).filterMap (SrmExchange.entry reqType)) = some (s.openTokens reqType) := by
        intro request grant hfilter hgrant h
        have hsame := h (openReqType flag)
        rw [hfilter, hopened _ hgrant, Option.some_inj] at hsame
        have hcard := congrArg Multiset.card hsame
        simp at hcard
      cases hrecord with
      | ungranted e e' hturl =>
          cases hopen
          generalize hfilter : asked.filter (·.tracked (openReqType flag)) = filtered at hturl
          cases hturl with
          | nothing =>
              refine iff_of_true (fun reqType => ?_) ⟨fun reqType request hmem grant hgrant => ?_, ?_⟩
              · by_cases hreq : reqType = openReqType flag
                · rw [hreq, hfilter]
                  rfl
                · rw [hother reqType hreq]
                  rfl
              · have hmem := (hgrants reqType request hmem grant hgrant).2
                rw [hfilter] at hmem
                cases hmem
              · simpa using hunopened
          | @rejected request grant _ hgrant hinvalid =>
              refine iff_of_false (hnever hfilter hgrant) fun h => ?_
              have hmem : request ∈ asked := List.mem_of_mem_filter (hfilter ▸ List.mem_singleton_self request)
              exact hinvalid (h.valid _ request (List.mem_append_left _ hmem) grant hgrant)
      | unopened turl e hturl =>
          cases hopen
          generalize hfilter : asked.filter (·.tracked (openReqType flag)) = filtered at hturl
          cases hturl with
          | granted hgrant hkept hclaims =>
              exact iff_of_false (hnever hfilter hgrant) fun h => h.opened turl.1 flag mode e (by simp)
      | opened turl fh hturl =>
          cases hopen
          generalize hfilter : asked.filter (·.tracked (openReqType flag)) = filtered at hturl
          cases hturl with
          | @granted request grant _ hgrant hkept' hclaims =>
              have hreqType : (gfalSrmFileHandleCreate fh path turl.2 (openReqType flag)).reqType = openReqType flag := rfl
              have hreqtoken : (gfalSrmFileHandleCreate fh path turl.2 (openReqType flag)).reqtoken = grant.answer.token := hclaims
              refine iff_of_true (fun reqType => ?_) ⟨fun reqType other hmem grant' hgrant' => ?_, ?_⟩
              · rw [openTokens_append, hreqType, hreqtoken]
                by_cases hreq : reqType = openReqType flag
                · rw [hreq, hfilter, hopened _ hgrant, if_pos rfl]
                · rw [hother reqType hreq, if_neg (Ne.symm hreq)]
                  rfl
              · obtain ⟨rfl, hmem⟩ := hgrants reqType other hmem grant' hgrant'
                rw [hfilter] at hmem
                cases List.mem_singleton.mp hmem
                cases hgrant.symm.trans hgrant'
                exact hkept'.2
              · intro url flag' mode' e hmem
                rcases List.mem_append.mp hmem with hmem | hmem
                · exact hunopened _ _ _ _ hmem
                · simp at hmem

theorem accounted_closeFile (hacc : s.Accounted start) (hopen : ∀ file ∈ s.files, file.closeFailed = false)
    (hstep : srmStep servers (.closeFile index) s = some s') :
    s'.Accounted start ↔ FinishesRequests servers (.closeFile index) s := by
  have hclose := hstep
  rw [srmStep] at hclose
  cases hfile : s.files[index]? with
  | none =>
      rw [hfile] at hclose
      cases hclose
  | some file =>
      rw [hfile] at hclose
      cases hrun : gfalSrmCloseG servers file.handle s.context with
      | error reason =>
          simp only [hrun] at hclose
          cases hclose
      | ok answer =>
          obtain ⟨⟨ret, rest⟩, final⟩ := answer
          simp only [hrun] at hclose
          obtain ⟨made, hmade, hrecord⟩ := gfalSrmCloseG_record hrun
          have hmade : s'.context.world.made = s.context.world.made ++ made := by
            cases rest <;> cases hclose <;> exact hmade
          have honly : (∀ other, s.files[index]? = some other → CloseFinishes other.handle made) ↔ CloseFinishes file.handle made := by
            simp [hfile]
          have hsettle := settle_closeFile_iff hfile (hopen file (List.mem_of_getElem? hfile)) final made
          have hone : ∀ {closed : Ret Int} {made : SrmHistory}, closed.val = 0 →
              (∀ fh other, SrmExchange.closeHandle fh other ∉ made) →
              ∀ other, SrmExchange.closeHandle file.handle.internalHandle other ∈
                .closeHandle file.handle.internalHandle closed :: made → other.val = 0 := by
            intro closed made hclosed hnone other hmem
            rcases List.mem_cons.mp hmem with heq | hmem
            · simp only [SrmExchange.closeHandle.injEq, true_and] at heq
              exact heq ▸ hclosed
            · exact absurd hmem (hnone _ _)
          rw [finishesRequests_iff hstep hmade]
          refine Iff.trans ?_ honly.symm
          cases hrecord with
          | failed closed hfailed =>
              cases hclose
              rw [accounted_iff hacc hmade (doneAfterTransfer_of_none (by simp))]
              simp only [openTokens_set hfile]
              have hkeys := hsettle [] (by cases file.handle.reqType <;> rfl) fun reqType _ => by cases reqType <;> rfl
              exact iff_of_false (fun h => by cases hkeys.mp h) fun h => hfailed (h.closed closed (by simp))
          | unreleased closed hclosed hget htoken =>
              cases hclose
              rw [accounted_iff hacc hmade (doneAfterTransfer_of_none (by simp))]
              have hkeys := hsettle [] (by cases file.handle.reqType <;> rfl) fun reqType _ => by cases reqType <;> rfl
              exact iff_of_false (fun h => by cases hkeys.mp h) fun h => h.token hget htoken
          | written closed hclosed hput hput' =>
              cases hclose
              rw [accounted_iff hacc hmade (doneAfterTransfer_of_record hput' hclosed)]
              cases hput' with
              | missing e =>
                  have hkeys := hsettle [] (by rw [hput]; rfl) fun reqType _ => by cases reqType <;> rfl
                  exact iff_of_false (fun h => by cases hkeys.mp h) fun h => h.told file.handle.surl (by simp)
              | told path answer haccepted =>
                  have hkeys := hsettle [file.handle.reqtoken] (by rw [hput]; rfl) fun reqType hne => by
                      cases reqType with
                      | get => rfl
                      | put => exact absurd hput.symm hne
                  refine iff_of_true (hkeys.mpr rfl) ⟨hone hclosed (by simp), fun hget => ?_, by simp, by simp⟩
                  rw [hput] at hget
                  cases hget
          | @read closed hclosed hget token htoken made hget' =>
              cases hclose
              cases hget' with
              | missing =>
                  rw [accounted_iff hacc hmade (doneAfterTransfer_of_none (by simp))]
                  have hkeys := hsettle [] (by rw [hget]; rfl) fun reqType _ => by cases reqType <;> rfl
                  exact iff_of_false (fun h => by cases hkeys.mp h) fun h => h.released file.handle.surl (by simp)
              | released path =>
                  rw [accounted_iff hacc hmade (doneAfterTransfer_of_none (by simp))]
                  have hkeys := hsettle [some token] (by rw [hget]; rfl) fun reqType hne => by
                      cases reqType with
                      | get => exact absurd hget.symm hne
                      | put => rfl
                  exact iff_of_true (hkeys.mpr (by rw [htoken])) ⟨hone hclosed (by simp), by simp [htoken], by simp, by simp⟩

theorem accounted_copyFile {params : GfaltParams} {source dest : CString} (hacc : s.Accounted start)
    (hstep : srmStep servers (.copyFile params source dest) s = some s') :
    s'.Accounted start ↔ FinishesRequests servers (.copyFile params source dest) s := by
  have hcopy := hstep
  rw [srmStep] at hcopy
  split at hcopy
  case isFalse => cases hcopy
  case isTrue hcleanup =>
      cases hrun : srmPluginFilecopy servers params source dest s.context with
      | error reason =>
          rw [hrun] at hcopy
          cases hcopy
      | ok answer =>
          obtain ⟨ret, final⟩ := answer
          rw [hrun] at hcopy
          cases hcopy
          obtain ⟨made, hmade, hdone, hsettles⟩ := srmPluginFilecopy_settles hcleanup hrun
          rw [accounted_iff hacc hmade hdone, finishesRequests_iff hstep hmade]
          exact hsettles s.openTokens

/-- A step from a state that is accounted for leads to one just when it finishes what it has to. -/
theorem accounted_step (action : SrmAction) (hacc : s.Accounted start) (hopen : ∀ file ∈ s.files, file.closeFailed = false)
    (hstep : srmStep servers action s = some s') : s'.Accounted start ↔ FinishesRequests servers action s := by
  cases action with
  | copyFile params source dest => exact accounted_copyFile hacc hstep
  | openFile path flag mode => exact accounted_openFile hacc hstep
  | closeFile index => exact accounted_closeFile hacc hopen hstep

/-- No close has failed on the way to a state that is accounted for. -/
theorem open_step {action : SrmAction} (hopen : ∀ file ∈ s.files, file.closeFailed = false) (hstep : srmStep servers action s = some s')
    (hfinishes : FinishesRequests servers action s) : ∀ file ∈ s'.files, file.closeFailed = false := by
  have hstep' := hstep
  cases action with
  | copyFile params source dest =>
      rw [srmStep] at hstep
      split at hstep
      case isFalse => cases hstep
      case isTrue =>
          split at hstep <;> cases hstep
          exact hopen
  | openFile path flag mode =>
      rw [srmStep] at hstep
      split at hstep <;> cases hstep
      · simpa [or_imp, forall_and] using hopen
      · exact hopen
  | closeFile index =>
      rw [srmStep] at hstep
      cases hfile : s.files[index]? with
      | none =>
          rw [hfile] at hstep
          cases hstep
      | some file =>
          rw [hfile] at hstep
          dsimp only at hstep
          split at hstep
          case h_1 context hrun =>
              cases hstep
              exact fun other hmem => hopen other (List.mem_of_mem_eraseIdx hmem)
          case h_2 ret sh context hrun =>
              cases hstep
              obtain ⟨made, hmade, hrecord⟩ := gfalSrmCloseG_record hrun
              cases hrecord with
              | failed closed hfailed =>
                  exact absurd ((hfinishes _ _ hstep' hmade file hfile).closed closed (by simp)) hfailed
          case h_3 => cases hstep

end Steps

/-- A step leads to states that are accounted for. -/
def StaysAccounted (servers : SrmServers) (start : SrmHistory) (action : SrmAction) (s : SrmSession) : Prop :=
  ∀ s', srmStep servers action s = some s' → s'.Accounted start

theorem accounted_initial (context : Gfal2Context SrmWorld) : SrmSession.Accounted context.world.made ⟨context, []⟩ :=
  ⟨[], by simp, fun _ => rfl, .nil⟩

/-- In every state of a run what was granted and is not finished belongs to the files that are still to be closed, nothing was finished
twice, and files were said to be written only after transfers that came to a good end, just when every step finishes what it has to. -/
theorem srm_requests_finished_iff (servers : SrmServers) (context : Gfal2Context SrmWorld) (actions : List SrmAction)
    (last : SrmSession) :
    Run (srmStep servers) (StaysAccounted servers context.world.made) ⟨context, []⟩ actions last ↔
      Run (srmStep servers) (FinishesRequests servers) ⟨context, []⟩ actions last := by
  have hstays : ∀ {action s}, SrmSession.Accounted context.world.made s → (∀ file ∈ s.files, file.closeFailed = false) →
      (StaysAccounted servers context.world.made action s ↔ FinishesRequests servers action s) := by
    intro action s hacc hopen
    constructor
    · intro hstays s' made hstep hmade
      exact (accounted_step action hacc hopen hstep).mp (hstays s' hstep) s' made hstep hmade
    · exact fun hfinishes s' hstep => (accounted_step action hacc hopen hstep).mpr hfinishes
  refine Run.iff_of_invariant (fun s => s.Accounted context.world.made ∧ ∀ file ∈ s.files, file.closeFailed = false) ?_ ?_
    ⟨accounted_initial context, by simp⟩
  · exact fun action s hinv => hstays hinv.1 hinv.2
  · exact fun action s s' hboth hinv hstep => ⟨hboth s' hstep, open_step hinv.2 hstep ((hstays hinv.1 hinv.2).mp hboth)⟩

/-- A service that grants what is read from it, at a TURL that cannot be opened. -/
def grantingServers : SrmServers :=
  { failingServers with
    turlProtocols := [lit "gsiftp"]
    prepareToGet := fun path _ _ =>
      .ok ⟨some (lit "token"), [{ surl := path, turl := some (lit "gsiftp://h/f") }]⟩ }

/-- The request for a file that could not be opened is left behind. -/
theorem granted_request_left_behind :
    ∃ last, Run (srmStep grantingServers) (fun _ _ => True) ⟨{ world := { plugin := {} } }, []⟩
      [.openFile (lit "srm://h/f") 0 0] last ∧ last.files.length = 0 ∧ ¬last.Accounted [] := by
  have hcomputed : (runAll (srmStep grantingServers) [.openFile (lit "srm://h/f") 0 0] ⟨{ world := { plugin := {} } }, []⟩).map
      (fun last => (last.files.length, unfinished .get last.context.world.made)) = some (0, some {some (lit "token")}) := by
    decide +kernel
  obtain ⟨last, hrun, hanswers⟩ := Option.map_eq_some_iff.mp hcomputed
  obtain ⟨hhandles, hunfinished⟩ := Prod.mk.inj hanswers
  refine ⟨last, run_of_runAll hrun, hhandles, ?_⟩
  rintro ⟨made, hmade, hopen, -⟩
  have hget := hopen .get
  rw [List.nil_append] at hmade
  have hnone : last.openTokens .get = 0 := by
    rw [SrmSession.openTokens, List.length_eq_zero_iff.mp hhandles]
    rfl
  rw [← hmade, hunfinished, hnone, Option.some_inj] at hget
  cases congrArg Multiset.card hget

end Gfal2
