import Gfal2.GridFtpCopy

/-! What a GridFTP copy removes. A destination that is there is not touched as long as the check for it answers;
an error of that check reaches the clean-up of a failed transfer. -/

namespace Gfal2

open Base Throwing

def GridFtpRequest.Removes : GridFtpRequest → Prop
  | .unlink _ => True
  | .stat _ => False
  | .checksum _ _ => False
  | .mkdirRec _ _ => False
  | .session _ => False
  | .transfer _ _ _ => False

/-- The file is there, and stays there until a request removes a file: its `stat` may fail, but not for want of a
file. -/
def GridFtpServers.Holds (servers : GridFtpServers) (url : CString) (context : Gfal2Context GridFtpWorld) : Prop :=
  ∀ later, Avoids GridFtpRequest.Removes context later → ∀ e err, servers.stat url later.world.made = .error e →
    e.asCore = some err → err.code ≠ ENOENT

/-- The clean-up of a failed transfer leaves the destination alone for the exception. -/
def CppException.Harmless : CppException → Prop
  | .transfer _ _ _ => True
  | .core e => e.code = EEXIST
  | .std _ => False
  | .unknown => False

section Copy

variable (servers : GridFtpServers) (params : GfaltParams) (src dst : CString) (context : Gfal2Context GridFtpWorld)

/-- The copy makes no request that removes a file. -/
def RemovesNothing : Prop :=
  Exec.Ensures (gridFtpFilecopy servers params src dst).run context fun _ context' =>
    Avoids GridFtpRequest.Removes context context'

/-- In the state in which the transfer starts, the `stat` of the destination succeeds or fails with an exception
that is harmless. -/
def CheckHarmless : Prop :=
  ∀ p context', (prepareFilecopy servers params src dst).run context = .ok (.ok p, context') →
    ∀ e, servers.stat p.dst context'.world.made = .error e → e.Harmless

end Copy

variable {context' : Gfal2Context GridFtpWorld}

section Files

/-- No request that removes a file is made, thrown or not. -/
def KeepsFiles {α : Type} (computation : GridFtp α) : Prop :=
  Exec.Within (Avoids GridFtpRequest.Removes) computation.run

variable {α β : Type} {servers : GridFtpServers}

theorem KeepsFiles.pure (value : α) : KeepsFiles (pure value : GridFtp α) := within_pure Avoids.refl value

theorem KeepsFiles.throw (e : CppException) : KeepsFiles (throw e : GridFtp α) := within_throw Avoids.refl e

theorem KeepsFiles.bind {first : GridFtp α} {next : α → GridFtp β} (hfirst : KeepsFiles first) (hnext : ∀ value, KeepsFiles (next value)) :
    KeepsFiles (first >>= next) :=
  within_bind Avoids.trans hfirst hnext

theorem KeepsFiles.ite {p : Prop} [Decidable p] {left right : GridFtp α} (hleft : KeepsFiles left) (hright : KeepsFiles right) :
    KeepsFiles (if p then left else right) :=
  within_ite (fun _ => hleft) fun _ => hright

theorem KeepsFiles.request {request : GridFtpRequest} (h : ¬request.Removes) (answer : GridFtpHistory → Except CppException α) :
    KeepsFiles (gridFtpRequest request answer) :=
  makeRequest_within h answer

theorem KeepsFiles.event (domain : GQuark) (side : GfalEventSide) (stage description : CString) :
    KeepsFiles (triggerEvent domain side stage description) :=
  within_lift Avoids.trans Avoids.refl (Exec.Within.modify fun _ => Avoids.of_made_eq rfl)

theorem returnHostAndPort_keepsFiles (uri : CString) (useIpv6 : Bool) : KeepsFiles (returnHostAndPort servers uri useIpv6) := by
  unfold returnHostAndPort
  split
  · exact KeepsFiles.throw _
  · exact within_lift Avoids.trans Avoids.refl (Exec.Within.fault _)
  · exact KeepsFiles.pure _

theorem triggerTransfer_keepsFiles (stage src dst : CString) (useIpv6 : Bool) :
    KeepsFiles (triggerTransfer servers stage src dst useIpv6) := by
  refine (returnHostAndPort_keepsFiles src useIpv6).bind fun srcHost => ?_
  exact (returnHostAndPort_keepsFiles dst useIpv6).bind fun dstHost => KeepsFiles.event _ _ _ _

theorem compareSource_keepsFiles (userDefined checksumSrc : CString) : KeepsFiles (compareSource userDefined checksumSrc) :=
  KeepsFiles.ite (KeepsFiles.throw _) (KeepsFiles.pure _)

theorem gridFtpCheckSource_keepsFiles (mode : ChecksumMode) (src type userDefined : CString) :
    KeepsFiles (gridFtpCheckSource servers mode src type userDefined) := by
  refine KeepsFiles.ite ?_ (KeepsFiles.pure _)
  refine (KeepsFiles.event _ _ _ _).bind fun _ => (KeepsFiles.request id _).bind fun checksumSrc => ?_
  refine (KeepsFiles.event _ _ _ _).bind fun _ => (compareSource_keepsFiles _ _).bind fun _ => ?_
  exact KeepsFiles.pure _

theorem prepareFilecopy_keepsFiles (params : GfaltParams) (src dst : CString) : KeepsFiles (prepareFilecopy servers params src dst) := by
  refine KeepsFiles.bind (within_lift Avoids.trans Avoids.refl (Exec.Within.get Avoids.refl)) fun context => ?_
  dsimp only
  split
  · exact KeepsFiles.throw _
  · refine (gridFtpCheckSource_keepsFiles _ _ _ _).bind fun checksumSrc => ?_
    refine (triggerTransfer_keepsFiles _ _ _ _).bind fun _ => (KeepsFiles.event _ _ _ _).bind fun _ => ?_
    exact KeepsFiles.pure _

/-- A copy goes on with the resolved URL of its destination. -/
theorem prepareFilecopy_dst {params : GfaltParams} {src dst : CString} {context : Gfal2Context GridFtpWorld}
    {p : PreparedCopy} (h : (prepareFilecopy servers params src dst).run context = .ok (.ok p, context')) :
    p.dst = resolvedUrl servers context.config dst := by
  rw [prepareFilecopy, run_bind_of_ok (run_lift_of_ok (Exec.get_apply context))] at h
  dsimp only at h
  split at h
  · cases h
  · rcases run_bind_eq_ok h with ⟨e, -, hthrown⟩ | ⟨checksumSrc, checked, -, h⟩
    · cases hthrown
    rcases run_bind_eq_ok h with ⟨e, -, hthrown⟩ | ⟨_, entered, -, h⟩
    · cases hthrown
    rcases run_bind_eq_ok h with ⟨e, -, hthrown⟩ | ⟨_, typed, -, h⟩
    · cases hthrown
    cases h
    rfl

end Files

section Transfer

variable {servers : GridFtpServers} {params : GfaltParams} {context : Gfal2Context GridFtpWorld} {dst : CString}

/-- The context after one more request. -/
def asked (context : Gfal2Context GridFtpWorld) (request : GridFtpRequest) : Gfal2Context GridFtpWorld :=
  { context with world := { context.world with made := context.world.made ++ [request] } }

theorem gridFtpRequest_run {α : Type} (request : GridFtpRequest) (answer : GridFtpHistory → Except CppException α)
    (context : Gfal2Context GridFtpWorld) :
    (gridFtpRequest request answer).run context = .ok (answer context.world.made, asked context request) := rfl

/-- The check of a file that is there finds it or throws what its `stat` does. -/
theorem gridFtpExists_of_holds (hholds : servers.Holds dst context) : (gridFtpExists servers dst).run context =
    .ok ((servers.stat dst context.world.made).map fun _ => true, asked context (.stat dst)) := by
  have hstat := gridFtpRequest_run (.stat dst) (servers.stat dst) context
  unfold gridFtpExists
  cases hanswer : servers.stat dst context.world.made with
  | ok type =>
      rw [hanswer] at hstat
      exact run_catch_of_ok (run_bind_of_ok hstat)
  | error e =>
      rw [hanswer] at hstat
      refine (run_catch_of_throw (run_bind_of_throw hstat)).trans ?_
      cases hcore : e.asCore with
      | none => rfl
      | some err =>
          dsimp only
          rw [if_pos (hholds context (Avoids.refl context) e err hanswer hcore)]
          rfl

/-- What the check throws when the `stat` of the destination is answered so. -/
def thrownByCheck (dst : CString) : Except CppException FileType → CppException
  | .ok _ => destinationExists dst
  | .error e => e

/-- A copy that must not replace its destination never gets past one that is there. -/
theorem copyFileInternal_of_holds (hstrict : params.strictMode = false) (hreplace : params.replaceExisting = false)
    (src : CString) (hholds : servers.Holds dst context) :
    (gridftpFilecopyCopyFileInternal servers params src dst).run context =
      .ok (.error (thrownByCheck dst (servers.stat dst context.world.made)), asked context (.stat dst)) := by
  have hexists := gridFtpExists_of_holds hholds
  have hdelete : (gridftpFilecopyDeleteExisting servers params dst).run context =
      .ok (.error (thrownByCheck dst (servers.stat dst context.world.made)), asked context (.stat dst)) := by
    unfold gridftpFilecopyDeleteExisting
    cases hanswer : servers.stat dst context.world.made with
    | ok type =>
        rw [hanswer] at hexists
        rw [run_bind_of_ok hexists, if_pos rfl, hreplace]
        rfl
    | error e =>
        rw [hanswer] at hexists
        exact run_bind_of_throw hexists
  unfold gridftpFilecopyCopyFileInternal
  rw [hstrict, if_pos (by decide)]
  exact run_bind_of_throw hdelete

/-- For a harmless exception the handlers make no request. -/
theorem transferHandler_of_harmless (servers : GridFtpServers) (dst : CString) {e : CppException} (h : e.Harmless)
    (context : Gfal2Context GridFtpWorld) : ∃ e', (transferHandler servers dst e).run context = .ok (.error e', context) := by
  cases e with
  | core err =>
      have hclean : (autoCleanFileCopy servers err.code dst).run context = .ok (.ok (), context) := by
        rw [autoCleanFileCopy, if_neg (by exact not_not_intro h)]
        rfl
      exact ⟨_, run_bind_of_ok hclean⟩
  | transfer err side note => exact ⟨_, rfl⟩
  | std what => exact h.elim
  | unknown => exact h.elim

/-- For any other they remove the destination. -/
theorem transferHandler_of_not_harmless (servers : GridFtpServers) (dst : CString) {e : CppException} (h : ¬e.Harmless)
    (context : Gfal2Context GridFtpWorld) : ∃ e', (transferHandler servers dst e).run context = .ok (.error e', asked context (.unlink dst)) := by
  have hclean : ∀ code : Int, code ≠ EEXIST →
      (autoCleanFileCopy servers code dst).run context = .ok (.ok (), asked context (.unlink dst)) := by
    intro code hcode
    have hunlink := gridFtpRequest_run (.unlink dst) (servers.unlink dst) context
    rw [autoCleanFileCopy, if_pos hcode]
    cases hanswer : servers.unlink dst context.world.made with
    | ok value =>
        rw [hanswer] at hunlink
        exact run_catch_of_ok hunlink
    | error e' =>
        rw [hanswer] at hunlink
        exact run_catch_of_throw hunlink
  cases e with
  | core err => exact ⟨_, run_bind_of_ok (hclean err.code h)⟩
  | transfer err side note => exact (h trivial).elim
  | std what => exact ⟨_, run_bind_of_ok (hclean EIO (by decide))⟩
  | unknown => exact ⟨_, run_bind_of_ok (hclean EIO (by decide))⟩

theorem Holds.later {later : Gfal2Context GridFtpWorld} (hholds : servers.Holds dst context)
    (h : Avoids GridFtpRequest.Removes context later) : servers.Holds dst later :=
  fun last hlast => hholds last (h.trans _ _ _ hlast)

/-- Once the copy is prepared, the check of a destination that is there decides what the transfer throws. -/
theorem copyFileInternal_of_prepared (hstrict : params.strictMode = false) (hreplace : params.replaceExisting = false)
    {src : CString} (hholds : servers.Holds (resolvedUrl servers context.config dst) context) {p : PreparedCopy}
    (hprepare : (prepareFilecopy servers params src dst).run context = .ok (.ok p, context')) :
    (gridftpFilecopyCopyFileInternal servers params p.src p.dst).run context' =
      .ok (.error (thrownByCheck p.dst (servers.stat p.dst context'.world.made)), asked context' (.stat p.dst)) := by
  have hquiet := prepareFilecopy_keepsFiles params src dst context _ _ hprepare
  rw [← prepareFilecopy_dst hprepare] at hholds
  exact copyFileInternal_of_holds hstrict hreplace p.src (Holds.later hholds hquiet)

/-- After an exception that is not harmless the destination is removed. -/
theorem removes_of_not_harmless (hstrict : params.strictMode = false) (hreplace : params.replaceExisting = false)
    {src : CString} (hholds : servers.Holds (resolvedUrl servers context.config dst) context) {p : PreparedCopy}
    (hprepare : (prepareFilecopy servers params src dst).run context = .ok (.ok p, context')) {e : CppException}
    (hstat : servers.stat p.dst context'.world.made = .error e) (hharm : ¬e.Harmless) :
    ¬RemovesNothing servers params src dst context := by
  intro hkept
  have hinternal := copyFileInternal_of_prepared hstrict hreplace hholds hprepare
  rw [hstat] at hinternal
  obtain ⟨e', hhandler⟩ := transferHandler_of_not_harmless servers p.dst hharm (asked context' (.stat p.dst))
  have hcaught := (run_catch_of_throw hinternal).trans hhandler
  obtain ⟨made, hmade, havoids⟩ := hkept _ _ ((run_bind_of_ok hprepare).trans (run_bind_of_throw hcaught))
  obtain ⟨before, hbefore, -⟩ := prepareFilecopy_keepsFiles params src dst context _ _ hprepare
  have hworld : before ++ [.stat p.dst, .unlink p.dst] = made := by
    simpa [asked, hbefore] using hmade
  exact havoids (.unlink p.dst) (by simp [← hworld]) trivial

end Transfer

/-- For a copy that is not strict and must not replace its destination, one that is there when the copy starts is
left alone just when the check for it does not fail with an exception other than the harmless ones. -/
theorem existing_destination_kept_iff (servers : GridFtpServers) {params : GfaltParams} (hstrict : params.strictMode = false)
    (hreplace : params.replaceExisting = false) (src dst : CString) (context : Gfal2Context GridFtpWorld)
    (hholds : servers.Holds (resolvedUrl servers context.config dst) context) :
    RemovesNothing servers params src dst context ↔ CheckHarmless servers params src dst context := by
  constructor
  · intro hkept p context' hprepare e hstat
    by_contra hharm
    exact removes_of_not_harmless hstrict hreplace hholds hprepare hstat hharm hkept
  · intro hharmless outcome final hrun
    rcases run_bind_eq_ok hrun with ⟨e, hthrown, -⟩ | ⟨p, context', hprepare, hrest⟩
    · exact prepareFilecopy_keepsFiles params src dst context _ _ hthrown
    · have hinternal := copyFileInternal_of_prepared hstrict hreplace hholds hprepare
      have hharm : (thrownByCheck p.dst (servers.stat p.dst context'.world.made)).Harmless := by
        cases hstat : servers.stat p.dst context'.world.made with
        | ok type => trivial
        | error e => exact hharmless p context' hprepare e hstat
      obtain ⟨e', hhandler⟩ := transferHandler_of_harmless servers p.dst hharm (asked context' (.stat p.dst))
      have hcaught := (run_catch_of_throw hinternal).trans hhandler
      cases (run_bind_of_throw hcaught).symm.trans hrest
      refine (prepareFilecopy_keepsFiles params src dst context _ _ hprepare).trans _ _ _ ?_
      exact ⟨[.stat p.dst], rfl, by simp [GridFtpRequest.Removes]⟩

theorem returnHostAndPort_of_parsed (servers : GridFtpServers) {uri : CString} (herr : (gfal2ParseUri uri).err = none)
    (hval : (gfal2ParseUri uri).val.isSome = true) (useIpv6 : Bool) (context : Gfal2Context GridFtpWorld) :
    ∃ text, (returnHostAndPort servers uri useIpv6).run context = .ok (.ok text, context) := by
  unfold returnHostAndPort
  split
  case h_1 h => simp [h] at herr
  case h_2 h => simp [h] at hval
  case h_3 parsed h => exact ⟨_, rfl⟩

/-- A copy between two URLs that can be parsed is prepared without a request, if no checksums are asked for. -/
theorem prepareFilecopy_of_parsed (servers : GridFtpServers) (src dst : CString)
    (hsrc : (gfal2ParseUri src).err = none) (hsrc' : (gfal2ParseUri src).val.isSome = true)
    (hdst : (gfal2ParseUri dst).err = none) (hdst' : (gfal2ParseUri dst).val.isSome = true) :
    ∃ p context', (prepareFilecopy servers {} src dst).run { world := { plugin := () } } = .ok (.ok p, context') := by
  obtain ⟨srcHost, hsrcHost⟩ := returnHostAndPort_of_parsed servers hsrc hsrc' false { world := { plugin := () } }
  obtain ⟨dstHost, hdstHost⟩ := returnHostAndPort_of_parsed servers hdst hdst' false { world := { plugin := () } }
  have htransfer : ∃ entered, (triggerTransfer servers (lit "TRANSFER:ENTER") src dst false).run { world := { plugin := () } } =
      .ok (.ok (), entered) := by
    unfold triggerTransfer
    rw [run_bind_of_ok hsrcHost, run_bind_of_ok hdstHost]
    exact ⟨_, rfl⟩
  obtain ⟨entered, htransfer⟩ := htransfer
  have hchecksum : copyChecksum servers {} {} = .ok (.none, [], []) := rfl
  rw [prepareFilecopy, run_bind_of_ok (run_lift_of_ok (Exec.get_apply _))]
  dsimp only
  rw [hchecksum]
  exact ⟨_, _, (run_bind_of_ok (show (gridFtpCheckSource servers .none _ [] []).run _ = .ok (.ok [], _) from rfl)).trans
    (run_bind_of_ok htransfer)⟩

/-- Servers on which every file is there, and which answer every `stat` so. -/
def answeringServers (answer : Except CppException FileType) : GridFtpServers where
  stat _ _ := answer
  unlink _ _ := .ok ()
  checksum _ _ _ := .ok []
  mkdirRec _ _ _ := none
  session _ _ := .ok ()
  transfer _ _ _ _ := .ok ()
  resolveDnsToHostname _ := none
  lookupHost _ _ := lit "cant.be.resolved"
  missingValue := ⟨lit "g-key-file-error-quark", 3, []⟩

theorem existing_destination_kept_on_found :
    RemovesNothing (answeringServers (.ok .regular)) {} (lit "gsiftp://a/f") (lit "gsiftp://b/f") { world := { plugin := () } } ↔
      CheckHarmless (answeringServers (.ok .regular)) {} (lit "gsiftp://a/f") (lit "gsiftp://b/f") { world := { plugin := () } } :=
  existing_destination_kept_iff _ rfl rfl _ _ _ fun _ _ _ _ h => by cases h

/-- The `stat` of the destination times out, and the destination is removed. -/
theorem timed_out_destination_removed :
    (answeringServers (.error (.core ⟨lit "GridFTPModule", ETIMEDOUT, lit "Operation was timed out"⟩))).Holds
        (lit "gsiftp://b/f") { world := { plugin := () } } ∧
      ¬RemovesNothing (answeringServers (.error (.core ⟨lit "GridFTPModule", ETIMEDOUT, lit "Operation was timed out"⟩))) {}
        (lit "gsiftp://a/f") (lit "gsiftp://b/f") { world := { plugin := () } } := by
  have hholds : (answeringServers (.error (.core ⟨lit "GridFTPModule", ETIMEDOUT, lit "Operation was timed out"⟩))).Holds
      (lit "gsiftp://b/f") { world := { plugin := () } } := by
    intro later _ e err hstat hcore
    cases hstat
    cases hcore
    decide
  refine ⟨hholds, ?_⟩
  obtain ⟨p, context', hprepare⟩ := prepareFilecopy_of_parsed
    (answeringServers (.error (.core ⟨lit "GridFTPModule", ETIMEDOUT, lit "Operation was timed out"⟩)))
    (lit "gsiftp://a/f") (lit "gsiftp://b/f") (by decide +kernel) (by decide +kernel)
    (by decide +kernel) (by decide +kernel)
  exact removes_of_not_harmless rfl rfl hholds hprepare rfl (show ¬ETIMEDOUT = EEXIST by decide)

end Gfal2
