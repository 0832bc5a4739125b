import Gfal2.SrmOperations
import Gfal2.SrmFailures

/-! The mutex of the context of srm-ifce in runs of the SRM plugin. Between the operations it is held once for each directory
that is open, unless a context that is not there is released, or one that is there is not. -/

namespace Gfal2

open Base Exec Throwing

def Gfal2Context.srmMutex (context : Gfal2Context SrmWorld) : RecMutex := context.world.plugin.opts.srmContextMutex

/-- A context that is not there, and is released all the same. -/
def SrmExchange.ReleasesNone : SrmExchange → Bool
  | .context purpose _ available => purpose.Released && !available
  | _ => false

section Mutex

@[simp] theorem RecMutex.unlock_lock (mutex : RecMutex) : mutex.lock.unlock = mutex := by
  simp [RecMutex.lock, RecMutex.unlock]

/-- A mutex that is unlocked too often is misused. -/
theorem RecMutex.unlock_iterate (count n : Nat) : RecMutex.unlock^[n] ⟨count, false⟩ = ⟨count - n, decide (count < n)⟩ := by
  induction n with
  | zero => simp
  | succ n ih =>
      rw [Function.iterate_succ_apply', ih, RecMutex.unlock]
      by_cases h : count - n = 0
      · rw [if_pos h]
        simp only [RecMutex.mk.injEq, true_eq_decide_iff]
        omega
      · rw [if_neg h]
        have hlt : decide (count < n) = decide (count < n + 1) := by
          rw [decide_eq_decide]
          omega
        simp only [RecMutex.mk.injEq, hlt, and_true]
        omega

theorem RecMutex.unlock_iterate_eq_iff (count n : Nat) : RecMutex.unlock^[n] ⟨count, false⟩ = ⟨count, false⟩ ↔ n = 0 := by
  rw [RecMutex.unlock_iterate]
  simp only [RecMutex.mk.injEq, decide_eq_false_iff_not]
  omega

/-- A context for version 2 of the protocol is handed out with the mutex locked; otherwise the mutex is as it was. -/
theorem gfalSrmIfceEasyContext_mutex (opts : SrmOpts) (hproto : opts.srmProtoType = .srmv2) (answers : ContextAnswers)
    (surl : CString) : (gfalSrmIfceEasyContext opts answers surl).2.srmProtoType = .srmv2 ∧
      (gfalSrmIfceEasyContext opts answers surl).2.srmContextMutex =
        if (gfalSrmIfceEasyContext opts answers surl).1.val.any (·.srmContext.isSome) then opts.srmContextMutex.lock
        else opts.srmContextMutex := by
  unfold gfalSrmIfceEasyContext
  cases gfalSrmDetermineEndpoint opts answers surl with
  | error e => exact ⟨hproto, rfl⟩
  | ok endpoint =>
      simp only [hproto]
      cases opts.srmContext.filter _ with
      | some kept => exact ⟨rfl, rfl⟩
      | none =>
          by_cases hcreated : answers.created = true
          · simp [hcreated]
          · simp [hcreated]

end Mutex

/-! ### What the operations do to the mutex -/

variable {context left : Gfal2Context SrmWorld} {surl : CString}

section Related

variable {α : Type} {servers : SrmServers}

/-- The mutex is unlocked once for each context that is released without being there, and is otherwise as it was. -/
def LockRelated (before after : Gfal2Context SrmWorld) : Prop :=
  before.world.plugin.opts.srmProtoType = .srmv2 → after.world.plugin.opts.srmProtoType = .srmv2 ∧
    ∃ made, after.world.made = before.world.made ++ made ∧
      after.srmMutex = RecMutex.unlock^[made.countP (·.ReleasesNone)] before.srmMutex

/-- A request for a context, and what it does to the mutex. -/
theorem srmEasyContext_locks {purpose : SrmPurpose} {entered : Gfal2Context SrmWorld}
    {made : Ret (Option GfalSrmEasy)} (hproto : context.world.plugin.opts.srmProtoType = .srmv2)
    (h : srmEasyContext servers surl purpose context = .ok (made, entered)) :
    entered.world.plugin.opts.srmProtoType = .srmv2 ∧
      entered.world.made = context.world.made ++ [.context purpose surl (made.val.any (·.srmContext.isSome))] ∧
      entered.srmMutex = if made.val.any (·.srmContext.isSome) then context.srmMutex.lock else context.srmMutex := by
  obtain ⟨hproto', hmutex⟩ := gfalSrmIfceEasyContext_mutex context.srmOpts hproto
    (servers.context surl context.world.made) surl
  rw [srmEasyContext, bind_of_ok (get_apply context)] at h
  cases heasy : gfalSrmIfceEasyContext context.srmOpts (servers.context surl context.world.made) surl with
  | mk answer opts =>
      rw [heasy] at h hproto' hmutex
      cases h
      exact ⟨hproto', rfl, hmutex⟩

theorem LockRelated.trans (a b c : Gfal2Context SrmWorld) (hab : LockRelated a b) (hbc : LockRelated b c) : LockRelated a c := by
  intro hproto
  obtain ⟨hproto', first, hfirst, hmutex⟩ := hab hproto
  obtain ⟨hproto'', last, hlast, hmutex'⟩ := hbc hproto'
  refine ⟨hproto'', first ++ last, by rw [hlast, hfirst, List.append_assoc], ?_⟩
  rw [hmutex', hmutex, ← Function.iterate_add_apply, List.countP_append, Nat.add_comm]

/-- What is released once more than it was locked. -/
theorem LockRelated.released {entered : Gfal2Context SrmWorld} {purpose : SrmPurpose} {available : Bool}
    (hproto : entered.world.plugin.opts.srmProtoType = .srmv2)
    (hmade : entered.world.made = context.world.made ++ [.context purpose surl available])
    (hmutex : entered.srmMutex = if available then context.srmMutex.lock else context.srmMutex)
    (hreleased : available = false → purpose.Released = true) (hbody : LockRelated entered left) :
    LockRelated context { left with world := { left.world with plugin :=
      { left.world.plugin with opts := gfalSrmIfceEasyContextRelease left.world.plugin.opts } } } := by
  intro _
  obtain ⟨hproto', asked, hasked, hleft⟩ := hbody hproto
  refine ⟨hproto', .context purpose surl available :: asked, by rw [hasked, hmade, List.append_assoc, List.singleton_append], ?_⟩
  change left.srmMutex.unlock = _
  rw [hleft, hmutex]
  cases available with
  | true =>
      have hnone : SrmExchange.ReleasesNone (.context purpose surl true) = false := Bool.and_false _
      rw [if_pos rfl, List.countP_cons_of_neg (by simp [hnone]), ← Function.iterate_succ_apply' RecMutex.unlock,
        Function.iterate_succ_apply, RecMutex.unlock_lock]
  | false =>
      have hnone : SrmExchange.ReleasesNone (.context purpose surl false) = true := by
        rw [SrmExchange.ReleasesNone, hreleased rfl]
        rfl
      rw [if_neg Bool.false_ne_true, List.countP_cons_of_pos hnone, Function.iterate_succ_apply']

instance : SrmLaws (fun _ => True) LockRelated where
  refl context hproto := ⟨hproto, [], by simp, rfl⟩
  trans := LockRelated.trans
  update := by
    intro before after hmade hopts hproto
    exact ⟨hopts ▸ hproto, [], by simp [hmade], congrArg SrmOpts.srmContextMutex hopts⟩
  exchange := by
    intro α answer record _ hcontext context value context' h hproto
    cases h
    have hnone : SrmExchange.ReleasesNone (record (answer context.world.made)) = false := by
      have h := hcontext (answer context.world.made)
      revert h
      cases record (answer context.world.made) <;> simp [SrmExchange.IsContext, SrmExchange.ReleasesNone]
    refine ⟨hproto, [record (answer context.world.made)], rfl, ?_⟩
    rw [List.countP_singleton, if_neg (by simp [hnone])]
    rfl
  releasing := by
    intro α servers surl purpose use hreleased _ huse context value final h hproto
    obtain ⟨made, entered, hmade, h⟩ := bind_eq_ok.mp h
    obtain ⟨answer, left, hanswer, h⟩ := bind_eq_ok.mp h
    cases h
    obtain ⟨hproto', hrecord, hmutex⟩ := srmEasyContext_locks hproto hmade
    exact LockRelated.released hproto' hrecord hmutex (fun _ => hreleased) (huse made _ _ _ hanswer) hproto
  releasingSome := by
    intro α servers surl purpose failed body hkept _ hbody hnone context value final h hproto
    obtain ⟨⟨val, err⟩, entered, hmade, h⟩ := bind_eq_ok.mp h
    obtain ⟨hproto', hrecord, hmutex⟩ := srmEasyContext_locks hproto hmade
    cases val with
    | none =>
        cases h
        refine ⟨hproto', _, hrecord, hmutex.trans ?_⟩
        simp [SrmExchange.ReleasesNone, hkept]
    | some easy =>
        obtain ⟨answer, left, hanswer, h⟩ := bind_eq_ok.mp h
        cases h
        cases hsome : easy.srmContext with
        | none => exact absurd ⟨_, _, hanswer⟩ (hnone easy hsome entered)
        | some found =>
            refine LockRelated.released hproto' hrecord hmutex (fun hfalse => ?_) (hbody easy _ _ _ hanswer) hproto
            simp [hsome] at hfalse

end Related

/-! ### Runs -/

/-- The operations of the plugin but for those on directories. -/
inductive SrmOperation where
  | access (surl : CString) (mode : Int)
  | mkdir (surl : CString) (pflag : Bool)
  | stat (surl : CString)
  | rmdir (surl : CString)
  | chmod (path : CString) (mode : Nat)
  | unlink (path : CString)
  | unlinkList (surls : List CString)
  | rename (oldurl urlnew : CString)
  | getxattr (path name : CString) (buffLen : Nat)
  | checksum (url checkType : CString) (bufferLength : Nat) (wholeFile : Bool)
  | copyFile (params : GfaltParams) (source dest : CString)
  | openFile (path : CString) (flag mode : Nat)
  | closeFile (sh : GfalSrmHandleOpen)
  | bringOnline (surl token : CString) (tsize : Nat) (async : Bool)
  | bringOnlineList (surls : List CString) (token : CString) (tsize : Nat) (async : Bool)
  | bringOnlinePoll (surl token : CString)
  | bringOnlinePollList (surls : List CString) (token : CString)
  | releaseFile (surl : CString) (token : Option CString)
  | releaseFileList (surls : List CString) (token : Option CString)
  | abortFiles (surls : List CString) (token : Option CString)
  | archivePoll (surl : CString)
  | archivePollList (surls : List CString)

/-- What is done in a run: the operations of the plugin, of which those on directories go by the places of these among
those that are open, and what the application changes between them. -/
inductive SrmCall where
  | operation (operation : SrmOperation)
  | opendir (surl : CString)
  | readdirpp (index : Nat)
  | closedir (index : Nat)
  | configure (config : Config) (credMapping : CredMapping)

/-- The context of the library and the directories that are open. -/
structure SrmDirectories where
  context : Gfal2Context SrmWorld
  dirs : List SrmOpendirHandle := []

section Runs

variable (servers : SrmServers)

/-- What is done, without its answer. -/
def ignoring {α : Type} (operation : Srm α) : Srm Unit := do
  let _ ← operation
  return ()

def SrmOperation.perform : SrmOperation → Srm Unit
  | .access surl mode => ignoring (gfalSrmAccessG servers surl mode).run
  | .mkdir surl pflag => ignoring (gfalSrmMkdirG servers surl pflag).run
  | .stat surl => ignoring (gfalSrmStatG servers surl).run
  | .rmdir surl => ignoring (gfalSrmRmdirG servers surl).run
  | .chmod path mode => ignoring (gfalSrmChmodG servers path mode).run
  | .unlink path => ignoring (gfalSrmUnlinkG servers path)
  | .unlinkList surls => ignoring (gfalSrmUnlinkListG servers surls)
  | .rename oldurl urlnew => ignoring (gfalSrmRenameG servers oldurl urlnew).run
  | .getxattr path name buffLen => ignoring (gfalSrmGetxattrG servers path name buffLen)
  | .checksum url checkType bufferLength wholeFile =>
      ignoring (gfalSrmChecksumGFallback servers url checkType bufferLength wholeFile true).run
  | .copyFile params source dest => ignoring (srmPluginFilecopy servers params source dest)
  | .openFile path flag mode => ignoring (gfalSrmOpenG servers path flag mode).run
  | .closeFile sh => ignoring (gfalSrmCloseG servers sh)
  | .bringOnline surl token tsize async => ignoring (gfalSrmv2BringOnlineG servers surl token tsize async)
  | .bringOnlineList surls token tsize async => ignoring (gfalSrmv2BringOnlineListG servers surls token tsize async)
  | .bringOnlinePoll surl token => ignoring (gfalSrmv2BringOnlinePollG servers surl token)
  | .bringOnlinePollList surls token => ignoring (gfalSrmv2BringOnlinePollListG servers surls token)
  | .releaseFile surl token => ignoring (gfalSrmv2ReleaseFileG servers surl token)
  | .releaseFileList surls token => ignoring (gfalSrmv2ReleaseFileListG servers surls token)
  | .abortFiles surls token => ignoring (gfalSrm2AbortFilesG servers surls token)
  | .archivePoll surl => ignoring (gfalSrmArchivePollG servers surl)
  | .archivePollList surls => ignoring (gfalSrmArchivePollListG servers surls)

def srmCallStep : SrmCall → SrmDirectories → Option SrmDirectories
  | .operation operation, s =>
      match operation.perform servers s.context with
      | .ok (_, context) => some ⟨context, s.dirs⟩
      | .error _ => none
  | .opendir surl, s =>
      match (gfalSrmOpendirG servers surl).run s.context with
      | .ok (.ok oh, context) => some ⟨context, s.dirs ++ [oh]⟩
      | .ok (.error _, context) => some ⟨context, s.dirs⟩
      | .error _ => none
  | .readdirpp index, s =>
      match s.dirs[index]? with
      | some oh =>
          match gfalSrmReaddirppG servers oh s.context with
          | .ok ((_, oh), context) => some ⟨context, s.dirs.set index oh⟩
          | .error _ => none
      | none => none
  | .closedir index, s =>
      match s.dirs[index]? with
      | some oh =>
          match gfalSrmClosedirG oh s.context with
          | .ok (_, context) => some ⟨context, s.dirs.eraseIdx index⟩
          | .error _ => none
      | none => none
  | .configure config credMapping, s =>
      let world := { s.context.world with plugin :=
        { s.context.world.plugin with opts := { s.context.world.plugin.opts with credMapping := credMapping } } }
      some ⟨{ s.context with config := config, world := world }, s.dirs⟩

/-- The mutex is held once for each directory that is open, and was never unlocked without being held. -/
structure SrmDirectories.Balanced (s : SrmDirectories) : Prop where
  proto : s.context.world.plugin.opts.srmProtoType = .srmv2
  mutex : s.context.srmMutex = ⟨s.dirs.length, false⟩

/-- What is asked of a directory before it is opened, in the state with its context. -/
def opendirPath (surl : CString) : CString := (gfal2SrmGetDecodedPath surl).takeWhile (· ≠ ';')

/-- With a context a directory that is opened is one, and the service says what it is. -/
def SrmCall.Answered (s : SrmDirectories) (made : SrmHistory) : SrmCall → Prop
  | .opendir surl => SrmExchange.context .directory surl true ∈ made →
      ∃ entry, servers.ls (opendirPath surl) (s.context.world.made ++ [.context .directory surl true]) = .ok entry ∧
        entry.status = 0 ∧ sIsdir entry.stat.stMode = true
  | .operation (.getxattr path name _) => name = lit "srm.type" → SrmExchange.context .storageType path true ∈ made →
      ∃ extra, servers.xping (s.context.world.made ++ [.context .storageType path true]) = .ok extra
  | _ => True

/-- With the answers it meets a step has every context that it releases, and releases every one it has. -/
def KeepsBalance (call : SrmCall) (s : SrmDirectories) : Prop :=
  ∀ s' made, srmCallStep servers call s = some s' → s'.context.world.made = s.context.world.made ++ made →
    (∀ request ∈ made, request.ReleasesNone = false) ∧ call.Answered servers s made

end Runs

/-! ### Steps -/

section Steps

variable {servers : SrmServers} {s s' : SrmDirectories} {dirs : List SrmOpendirHandle}

/-- The attribute of which the context is released only if there is an answer. -/
def SrmOperation.AsksType : SrmOperation → Prop
  | .getxattr _ name _ => name = lit "srm.type"
  | _ => False

theorem ignoring_stays {α : Type} {operation : Srm α} (h : Stays LockRelated operation) : Stays LockRelated (ignoring operation) :=
  h.bind fun _ => Stays.pure _

/-- Every operation but one unlocks the mutex once for each context that it releases without having it, and no more. -/
theorem SrmOperation.perform_stays {operation : SrmOperation} (h : ¬operation.AsksType) :
    Stays LockRelated (operation.perform servers) := by
  have all : ∀ _ : SrmExchange, True := fun _ => trivial
  have allows : AllowsQueries fun _ => True := (allowsTransfer_of_all all).toAllowsQueries
  cases operation with
  | access surl mode => exact ignoring_stays (gfalSrmAccessG_stays all servers surl mode)
  | mkdir surl pflag => exact ignoring_stays (gfalSrmMkdirG_stays all servers surl pflag)
  | stat surl => exact ignoring_stays (gfalSrmStatG_stays allows servers surl)
  | rmdir surl => exact ignoring_stays (gfalSrmRmdirG_stays all servers surl)
  | chmod path mode => exact ignoring_stays (gfalSrmChmodG_stays all servers path mode)
  | unlink path => exact ignoring_stays (gfalSrmUnlinkG_stays allows servers path trivial)
  | unlinkList surls => exact ignoring_stays (gfalSrmUnlinkListG_stays all servers surls)
  | rename oldurl urlnew => exact ignoring_stays (gfalSrmRenameG_stays all servers oldurl urlnew)
  | getxattr path name buffLen => exact ignoring_stays (gfalSrmGetxattrG_stays all servers path buffLen h)
  | checksum url checkType bufferLength wholeFile =>
      exact ignoring_stays (gfalSrmChecksumG_stays all servers url checkType bufferLength wholeFile)
  | copyFile params source dest => exact ignoring_stays (srmPluginFilecopy_stays all servers params source dest)
  | openFile path flag mode => exact ignoring_stays (gfalSrmOpenG_stays all servers path flag mode)
  | closeFile sh => exact ignoring_stays (gfalSrmCloseG_stays all servers sh)
  | bringOnline surl token tsize async => exact ignoring_stays (gfalSrmv2BringOnlineG_stays all servers surl token tsize async)
  | bringOnlineList surls token tsize async =>
      exact ignoring_stays (gfalSrmv2BringOnlineListG_stays all servers surls token tsize async)
  | bringOnlinePoll surl token => exact ignoring_stays (gfalSrmv2BringOnlinePollG_stays all servers surl token)
  | bringOnlinePollList surls token => exact ignoring_stays (gfalSrmv2BringOnlinePollListG_stays all servers surls token)
  | releaseFile surl token => exact ignoring_stays (gfalSrmv2ReleaseFileG_stays servers surl token trivial fun _ => trivial)
  | releaseFileList surls token => exact ignoring_stays (gfalSrmv2ReleaseFileListG_stays all servers surls token)
  | abortFiles surls token => exact ignoring_stays (gfalSrm2AbortFilesG_stays all servers surls token)
  | archivePoll surl => exact ignoring_stays (gfalSrmArchivePollG_stays all servers surl)
  | archivePollList surls => exact ignoring_stays (gfalSrmArchivePollListG_stays all servers surls)

/-- The condition on a step is one on what is recorded of it. -/
theorem keepsBalance_iff {call : SrmCall} {made : SrmHistory} (hstep : srmCallStep servers call s = some s')
    (hmade : s'.context.world.made = s.context.world.made ++ made) :
    KeepsBalance servers call s ↔ (∀ request ∈ made, request.ReleasesNone = false) ∧ call.Answered servers s made := by
  constructor
  · exact fun hkeeps => hkeeps s' made hstep hmade
  · intro h next made' hstep' hmade'
    cases hstep.symm.trans hstep'
    cases List.append_cancel_left (hmade.symm.trans hmade')
    exact h

/-- Of a step that stays within what is known of the mutex nothing else matters. -/
theorem balanced_of_related (hbal : s.Balanced) (hrelated : LockRelated s.context context) (hdirs : dirs.length = s.dirs.length) :
    ∃ made, context.world.made = s.context.world.made ++ made ∧
      (SrmDirectories.Balanced ⟨context, dirs⟩ ↔ ∀ request ∈ made, request.ReleasesNone = false) := by
  obtain ⟨hproto, made, hmade, hmutex⟩ := hrelated hbal.proto
  refine ⟨made, hmade, ?_⟩
  have hcount : (∀ request ∈ made, request.ReleasesNone = false) ↔ made.countP (·.ReleasesNone) = 0 := by
    simp [List.countP_eq_zero]
  rw [hcount, ← RecMutex.unlock_iterate_eq_iff s.dirs.length, ← hbal.mutex, ← hmutex, hbal.mutex]
  constructor
  · exact fun h => h.mutex.trans (by rw [hdirs])
  · exact fun h => ⟨hproto, h.trans (by rw [hdirs])⟩

theorem balanced_iff_of_related {call : SrmCall}
    (hbal : s.Balanced) (hrelated : LockRelated s.context context) (hdirs : dirs.length = s.dirs.length)
    (hstep : srmCallStep servers call s = some ⟨context, dirs⟩) (hanswered : ∀ made, call.Answered servers s made) :
    SrmDirectories.Balanced ⟨context, dirs⟩ ↔ KeepsBalance servers call s := by
  obtain ⟨made, hmade, hiff⟩ := balanced_of_related hbal hrelated hdirs
  rw [hiff, keepsBalance_iff hstep hmade]
  exact (and_iff_left (hanswered made)).symm

/-- The type of an endpoint: the context is released if there is an answer. -/
theorem endpointType_locks {path : CString} {buffLen : Nat} {answer : Except GError CString}
    (hproto : context.world.plugin.opts.srmProtoType = .srmv2)
    (h : (gfalSrmGetEndpointTypeXattrG servers path buffLen).run context = .ok (answer, left)) :
    left.world.plugin.opts.srmProtoType = .srmv2 ∧
      ((left.world.made = context.world.made ++ [.context .storageType path false] ∧ left.srmMutex = context.srmMutex) ∨
      (left.world.made = context.world.made ++ [.context .storageType path true, .xping] ∧
        ((∃ extra, servers.xping (context.world.made ++ [.context .storageType path true]) = .ok extra) ∧
            left.srmMutex = context.srmMutex ∨
          (∃ e, servers.xping (context.world.made ++ [.context .storageType path true]) = .error e) ∧
            left.srmMutex = context.srmMutex.lock))) := by
  obtain ⟨⟨val, err⟩, entered, hmade, h⟩ := bind_eq_ok.mp h
  obtain ⟨hproto', hrecord, hmutex⟩ := srmEasyContext_locks hproto hmade
  cases val with
  | none =>
      cases h
      exact ⟨hproto', .inl ⟨hrecord, hmutex⟩⟩
  | some easy =>
      obtain ⟨pinged, asked, hpinged, h⟩ := bind_eq_ok.mp h
      obtain ⟨hsome, hanswer, hasked⟩ := call_eq_ok hpinged
      have hopts : asked.world.plugin.opts = entered.world.plugin.opts := by
        rw [GfalSrmEasy.call, if_pos hsome] at hpinged
        cases hpinged
        rfl
      replace hrecord : entered.world.made = context.world.made ++ [.context .storageType path true] := by
        rw [hrecord, Option.any_some, hsome]
      replace hmutex : asked.srmMutex = context.srmMutex.lock := by
        rw [Gfal2Context.srmMutex, hopts]
        exact hmutex.trans (if_pos hsome)
      have hmade : asked.world.made = context.world.made ++ [.context .storageType path true, .xping] := by
        rw [hasked, hrecord, List.append_assoc]
        rfl
      rw [hrecord] at hanswer
      cases pinged with
      | error e =>
          cases h
          exact ⟨hopts ▸ hproto', .inr ⟨hmade, .inr ⟨⟨e, hanswer.symm⟩, hmutex⟩⟩⟩
      | ok extra =>
          cases h
          refine ⟨?_, .inr ⟨hmade, .inl ⟨⟨extra, hanswer.symm⟩, ?_⟩⟩⟩
          · exact (congrArg SrmOpts.srmProtoType hopts).trans hproto'
          · exact (congrArg RecMutex.unlock hmutex).trans (RecMutex.unlock_lock _)

/-- A directory is opened just when the service says that it is one. -/
theorem opendirInternal_run (easy : GfalSrmEasy) (context : Gfal2Context SrmWorld) (hsome : easy.srmContext.isSome = true) :
    ∃ answer, (gfalSrmOpendirInternal servers easy).run context = .ok (answer,
        { context with world := { context.world with made := context.world.made ++ [.ls (easy.path.takeWhile (· ≠ ';'))] } }) ∧
      ((∃ oh, answer = .ok oh) ↔ ∃ entry, servers.ls (easy.path.takeWhile (· ≠ ';')) context.world.made = .ok entry ∧
        entry.status = 0 ∧ sIsdir entry.stat.stMode = true) := by
  have hstat := gfalStatG_run servers context hsome (easy.path.takeWhile (· ≠ ';'))
  have hanswer : (∃ xstat, statAnswer servers (easy.path.takeWhile (· ≠ ';')) context.world.made = .ok xstat ∧
      sIsdir xstat.stat.stMode = true) ↔ ∃ entry, servers.ls (easy.path.takeWhile (· ≠ ';')) context.world.made = .ok entry ∧
        entry.status = 0 ∧ sIsdir entry.stat.stMode = true := by
    constructor
    · intro ⟨xstat, hxstat, hdir⟩
      obtain ⟨entry, hentry, hstatus, rfl⟩ := statAnswer_eq_ok_iff.mp hxstat
      exact ⟨entry, hentry, hstatus, hdir⟩
    · intro ⟨entry, hentry, hstatus, hdir⟩
      exact ⟨_, statAnswer_eq_ok_iff.mpr ⟨entry, hentry, hstatus, rfl⟩, hdir⟩
  rw [← hanswer]
  unfold gfalSrmOpendirInternal
  dsimp only
  cases hfound : statAnswer servers (easy.path.takeWhile (· ≠ ';')) context.world.made with
  | error e =>
      rw [hfound] at hstat
      exact ⟨.error e, bind_of_ok hstat, fun ⟨_, heq⟩ => (by cases heq), fun ⟨_, heq, _⟩ => (by cases heq)⟩
  | ok xstat =>
      rw [hfound] at hstat
      by_cases hdir : sIsdir xstat.stat.stMode = true
      · refine ⟨.ok (parseOpendirParameters ((easy.path.dropWhile (· ≠ ';')).drop 1)
          { easy := easy, surl := (easy.path.takeWhile (· ≠ ';')).rdropWhile (· == '/') }), (bind_of_ok hstat).trans ?_,
          fun _ => ⟨xstat, rfl, hdir⟩, fun _ => ⟨_, rfl⟩⟩
        simp only [ExceptT.bindCont, hdir, if_true]
        rfl
      · refine ⟨.error (gfal2SetError srmQuark ENOTDIR (lit "srm-plugin: " ++ easy.path ++
          lit " is not a directory, impossible to list content")), (bind_of_ok hstat).trans ?_, fun ⟨_, heq⟩ => (by cases heq), ?_⟩
        · simp only [ExceptT.bindCont, hdir, if_false, Bool.false_eq_true]
          rfl
        · rintro ⟨xstat', heq, hdir'⟩
          cases heq
          exact absurd hdir' hdir

/-- A directory that is opened: the context is kept whatever comes of it. -/
theorem opendir_locks {answer : Except GError SrmOpendirHandle} (hproto : context.world.plugin.opts.srmProtoType = .srmv2)
    (h : (gfalSrmOpendirG servers surl).run context = .ok (answer, left)) :
    left.world.plugin.opts.srmProtoType = .srmv2 ∧
      ((left.world.made = context.world.made ++ [.context .directory surl false] ∧ left.srmMutex = context.srmMutex ∧
          ∃ e, answer = .error e) ∨
      (left.world.made = context.world.made ++ [.context .directory surl true, .ls (opendirPath surl)] ∧
        left.srmMutex = context.srmMutex.lock ∧ ((∃ oh, answer = .ok oh) ↔
          ∃ entry, servers.ls (opendirPath surl) (context.world.made ++ [.context .directory surl true]) = .ok entry ∧
            entry.status = 0 ∧ sIsdir entry.stat.stMode = true))) := by
  obtain ⟨⟨val, err⟩, entered, hmade, h⟩ := bind_eq_ok.mp h
  obtain ⟨hproto', hrecord, hmutex⟩ := srmEasyContext_locks hproto hmade
  cases val with
  | none =>
      cases h
      exact ⟨hproto', .inl ⟨hrecord, hmutex, _, rfl⟩⟩
  | some easy =>
      have hpath : easy.path = gfal2SrmGetDecodedPath surl :=
        gfalSrmIfceEasyContext_path (congrArg Ret.val (srmEasyContext_eq_ok hmade).1).symm
      obtain ⟨opened, asked, hopened, h⟩ := bind_eq_ok.mp h
      cases h
      cases hsome : easy.srmContext with
      | none =>
          simp only [Option.any_some, hsome, Option.isSome_none, Bool.false_eq_true, if_false] at hrecord hmutex
          rw [gfalSrmOpendirInternal, gfalStatGSrmv2GenericInternal, hsome] at hopened
          cases hopened
          exact ⟨hproto', .inl ⟨hrecord, hmutex, _, rfl⟩⟩
      | some found =>
          simp only [Option.any_some, hsome, Option.isSome_some, if_true] at hrecord hmutex
          obtain ⟨answered, hrun, hok⟩ := opendirInternal_run easy entered (by rw [hsome]; rfl)
          cases hrun.symm.trans hopened
          rw [hpath, hrecord] at hok
          refine ⟨hproto', .inr ⟨?_, hmutex, ?_⟩⟩
          · rw [hpath]
            exact (congrArg (· ++ _) hrecord).trans (List.append_assoc _ _ _)
          · refine Iff.trans ?_ hok
            cases opened with
            | ok oh => exact Iff.rfl
            | error e => exact ⟨fun ⟨_, heq⟩ => (by cases heq), fun ⟨_, heq⟩ => (by cases heq)⟩

/-- A mutex that is locked once more is not as it was. -/
theorem not_balanced_lock (hbal : s.Balanced)
    (hdirs : dirs.length = s.dirs.length) (hmutex : context.srmMutex = s.context.srmMutex.lock) :
    ¬SrmDirectories.Balanced ⟨context, dirs⟩ := by
  intro h
  have hcount := h.mutex.symm.trans (hmutex.trans (by rw [hbal.mutex]))
  simp only [RecMutex.lock, RecMutex.mk.injEq, hdirs, and_true] at hcount
  omega

theorem balanced_endpointType {path : CString} {buffLen : Nat} (hbal : s.Balanced)
    (hstep : srmCallStep servers (.operation (.getxattr path (lit "srm.type") buffLen)) s = some s') :
    s'.Balanced ↔ KeepsBalance servers (.operation (.getxattr path (lit "srm.type") buffLen)) s := by
  have hstep' := hstep
  rw [srmCallStep] at hstep'
  have hperform : SrmOperation.perform servers (.getxattr path (lit "srm.type") buffLen) =
      ignoring (lengthOf (gfalSrmGetEndpointTypeXattrG servers path buffLen)) := rfl
  cases hrun : SrmOperation.perform servers (.getxattr path (lit "srm.type") buffLen) s.context with
  | error reason =>
      rw [hrun] at hstep'
      cases hstep'
  | ok ended =>
      obtain ⟨_, left⟩ := ended
      rw [hrun] at hstep'
      cases hstep'
      rw [hperform] at hrun
      obtain ⟨_, _, hlength, hdone⟩ := bind_eq_ok.mp hrun
      cases hdone
      obtain ⟨answer, asked, htype, hrest⟩ := bind_eq_ok.mp hlength
      have hleft : asked = left := by
        cases answer with
        | ok value => cases hrest; rfl
        | error e => cases hrest; rfl
      subst hleft
      obtain ⟨hproto, ⟨hmade, hmutex⟩ | ⟨hmade, ⟨hok, hmutex⟩ | ⟨⟨e, herror⟩, hmutex⟩⟩⟩ := endpointType_locks hbal.proto htype
      · rw [keepsBalance_iff hstep hmade]
        refine ⟨fun _ => ⟨by simp [SrmExchange.ReleasesNone, SrmPurpose.Released], fun _ h => by simp at h⟩, fun _ => ?_⟩
        exact ⟨hproto, hmutex.trans hbal.mutex⟩
      · rw [keepsBalance_iff hstep hmade]
        refine ⟨fun _ => ⟨by simp [SrmExchange.ReleasesNone, SrmPurpose.Released], fun _ _ => hok⟩, fun _ => ?_⟩
        exact ⟨hproto, hmutex.trans hbal.mutex⟩
      · rw [keepsBalance_iff hstep hmade]
        refine ⟨fun h => absurd h (not_balanced_lock hbal rfl hmutex), fun h => ?_⟩
        obtain ⟨extra, hextra⟩ := h.2 rfl (by simp)
        cases herror.symm.trans hextra

theorem balanced_opendir (hbal : s.Balanced) (hstep : srmCallStep servers (.opendir surl) s = some s') :
    s'.Balanced ↔ KeepsBalance servers (.opendir surl) s := by
  have hstep' := hstep
  rw [srmCallStep] at hstep'
  cases hrun : (gfalSrmOpendirG servers surl).run s.context with
  | error reason =>
      rw [hrun] at hstep'
      cases hstep'
  | ok ended =>
      obtain ⟨answer, left⟩ := ended
      rw [hrun] at hstep'
      obtain ⟨hproto, ⟨hmade, hmutex, e, rfl⟩ | ⟨hmade, hmutex, hok⟩⟩ := opendir_locks hbal.proto hrun
      · cases hstep'
        rw [keepsBalance_iff hstep hmade]
        refine ⟨fun _ => ⟨by simp [SrmExchange.ReleasesNone, SrmPurpose.Released], fun h => by simp at h⟩, fun _ => ?_⟩
        exact ⟨hproto, hmutex.trans hbal.mutex⟩
      · have hkeeps : ∀ {s' : SrmDirectories}, srmCallStep servers (.opendir surl) s = some s' → s'.context = left →
            (KeepsBalance servers (.opendir surl) s ↔ ∃ oh, answer = .ok oh) := by
          intro s' hstep hcontext
          rw [keepsBalance_iff hstep (by rw [hcontext]; exact hmade), hok]
          refine ⟨fun h => h.2 (by simp), fun h => ⟨by simp [SrmExchange.ReleasesNone, SrmPurpose.Released], fun _ => h⟩⟩
        cases answer with
        | error e =>
            cases hstep'
            rw [hkeeps hstep rfl]
            exact ⟨fun h => absurd h (not_balanced_lock hbal rfl hmutex), fun ⟨_, heq⟩ => (by cases heq)⟩
        | ok oh =>
            cases hstep'
            rw [hkeeps hstep rfl]
            refine ⟨fun _ => ⟨oh, rfl⟩, fun _ => ⟨hproto, hmutex.trans ?_⟩⟩
            rw [hbal.mutex, List.length_append]
            rfl

/-- A step from a balanced state leads to one just when it has every context that it releases, and releases every one it has. -/
theorem balanced_step (call : SrmCall) (hbal : s.Balanced) (hstep : srmCallStep servers call s = some s') :
    s'.Balanced ↔ KeepsBalance servers call s := by
  have hstep' := hstep
  cases call with
  | operation operation =>
      by_cases htype : operation.AsksType
      · cases operation with
        | getxattr path name buffLen =>
            cases htype
            exact balanced_endpointType hbal hstep
        | _ => cases htype
      · rw [srmCallStep] at hstep'
        cases hrun : operation.perform servers s.context with
        | error reason =>
            rw [hrun] at hstep'
            cases hstep'
        | ok ended =>
            rw [hrun] at hstep'
            cases hstep'
            refine balanced_iff_of_related hbal (SrmOperation.perform_stays htype _ _ _ hrun) rfl hstep fun made => ?_
            cases operation with
            | getxattr path name buffLen => exact fun hname => absurd hname htype
            | _ => trivial
  | opendir surl => exact balanced_opendir hbal hstep
  | readdirpp index =>
      rw [srmCallStep] at hstep'
      cases hdir : s.dirs[index]? with
      | none =>
          rw [hdir] at hstep'
          cases hstep'
      | some oh =>
          rw [hdir] at hstep'
          cases hrun : gfalSrmReaddirppG servers oh s.context with
          | error reason =>
              simp only [hrun] at hstep'
              cases hstep'
          | ok ended =>
              simp only [hrun] at hstep'
              cases hstep'
              have hstays : Stays LockRelated (gfalSrmReaddirppG servers oh) := gfalSrmReaddirppG_stays (fun _ => trivial) servers oh
              exact balanced_iff_of_related hbal (hstays _ _ _ hrun) (List.length_set ..) hstep fun _ => trivial
  | closedir index =>
      rw [srmCallStep] at hstep'
      cases hdir : s.dirs[index]? with
      | none =>
          rw [hdir] at hstep'
          cases hstep'
      | some oh =>
          rw [hdir] at hstep'
          cases hstep'
          obtain ⟨hlt, -⟩ := List.getElem?_eq_some_iff.mp hdir
          rw [keepsBalance_iff hstep (List.append_nil s.context.world.made).symm]
          refine ⟨fun _ => ⟨by simp, trivial⟩, fun _ => ⟨hbal.proto, ?_⟩⟩
          change s.context.srmMutex.unlock = _
          rw [hbal.mutex, List.length_eraseIdx_of_lt hlt, RecMutex.unlock, if_neg (by simp only; omega)]
  | configure config credMapping =>
      cases hstep'
      rw [keepsBalance_iff hstep (List.append_nil s.context.world.made).symm]
      exact ⟨fun _ => ⟨by simp, trivial⟩, fun _ => ⟨hbal.proto, hbal.mutex⟩⟩

end Steps

/-- A step leads to balanced states. -/
def StaysBalanced (servers : SrmServers) (call : SrmCall) (s : SrmDirectories) : Prop :=
  ∀ s', srmCallStep servers call s = some s' → s'.Balanced

/-- The plugin as it is loaded: no context, no directory, and a mutex that is not held. -/
def SrmDirectories.loaded (context : Gfal2Context SrmWorld) (credMapping : CredMapping) : SrmDirectories :=
  ⟨{ context with world := { plugin := { opts := { credMapping := credMapping } } } }, []⟩

/-- In every state of a run the mutex is held once for each directory that is open, and was never unlocked without being held,
just when every step has each context that it releases, and releases each one it has. -/
theorem srm_mutex_balanced_iff (servers : SrmServers) (context : Gfal2Context SrmWorld) (credMapping : CredMapping)
    (calls : List SrmCall) (last : SrmDirectories) :
    Run (srmCallStep servers) (StaysBalanced servers) (.loaded context credMapping) calls last ↔
      Run (srmCallStep servers) (KeepsBalance servers) (.loaded context credMapping) calls last := by
  refine Run.iff_of_invariant SrmDirectories.Balanced ?_ (fun call s s' hstays _ hstep => hstays s' hstep) ⟨rfl, rfl⟩
  intro call s hbal
  constructor
  · intro hstays s' made hstep hmade
    exact (balanced_step call hbal hstep).mp (hstays s' hstep) s' made hstep hmade
  · exact fun hkeeps s' hstep => (balanced_step call hbal hstep).mpr hkeeps

/-- A directory that cannot be opened leaves the mutex locked, and a file of which the endpoint cannot be told leaves it
unlocked without having been held. -/
theorem mutex_left_unbalanced :
    (∃ last, Run (srmCallStep failingServers) (fun _ _ => True) (.loaded { world := { plugin := {} } } [])
      [.opendir (lit "srm://h/f")] last ∧ last.dirs.length = 0 ∧ last.context.srmMutex = ⟨1, false⟩ ∧ ¬last.Balanced) ∧
    ∃ last, Run (srmCallStep failingServers) (fun _ _ => True) (.loaded { world := { plugin := {} } } [])
      [.operation (.stat (lit "srm://h:8443/SFN=/f"))] last ∧ last.context.srmMutex = ⟨0, true⟩ ∧ ¬last.Balanced := by
  have hopened : (runAll (srmCallStep failingServers) [.opendir (lit "srm://h/f")]
      (.loaded { world := { plugin := {} } } [])).map (fun last => (last.dirs.length, last.context.srmMutex)) = some (0, ⟨1, false⟩) := by
    decide +kernel
  have hasked : (runAll (srmCallStep failingServers) [.operation (.stat (lit "srm://h:8443/SFN=/f"))]
      (.loaded { world := { plugin := {} } } [])).map (fun last => last.context.srmMutex) = some ⟨0, true⟩ := by
    decide +kernel
  constructor
  · obtain ⟨last, hrun, hanswers⟩ := Option.map_eq_some_iff.mp hopened
    obtain ⟨hdirs, hmutex⟩ := Prod.mk.inj hanswers
    refine ⟨last, run_of_runAll hrun, hdirs, hmutex, fun hbal => ?_⟩
    have hcount := congrArg RecMutex.count (hmutex.symm.trans hbal.mutex)
    rw [hdirs] at hcount
    cases hcount
  · obtain ⟨last, hrun, hmutex⟩ := Option.map_eq_some_iff.mp hasked
    refine ⟨last, run_of_runAll hrun, hmutex, fun hbal => ?_⟩
    cases congrArg RecMutex.misused (hmutex.symm.trans hbal.mutex)

end Gfal2
