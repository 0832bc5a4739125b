import Gfal2.FileCopy

/-! Whatever the primitives of the library keep (a call of a plugin, the instantiation of the plugins, a
reading of the cancel flag or of the clock, a note to the listeners), a copy keeps. -/

namespace Gfal2

open Base Exec

variable {σ : Type}

/-- A property of contexts that every primitive keeps. -/
structure Stable (inv : Gfal2Context σ → Prop) : Prop where
  cancelRead : Preserves inv gfal2IsCanceled
  timeRead : Preserves inv timeNow
  scope : ∀ context n, inv context → inv { context with runningOps := n }
  told : ∀ context events reports, inv context → inv { context with events := events, reports := reports }
  loading : Preserves inv gfalPluginsInstance
  call : ∀ {α : Type} slot which (callback : Option (Callback σ α)), Preserves inv (callPlugin slot which callback)

theorem stable_allPlugins (P : GfalPluginInterface σ → Prop) : Stable (AllPlugins P) where
  cancelRead := by
    intro context h cancelled context' heq
    cases heq
    exact ⟨h.loaded, h.loadable⟩
  timeRead := by
    intro context h now context' heq
    cases heq
    exact ⟨h.loaded, h.loadable⟩
  scope := fun _ _ h => ⟨h.loaded, h.loadable⟩
  told := fun _ _ _ h => ⟨h.loaded, h.loadable⟩
  loading := loadStable_allPlugins.pluginsInstance
  call := allPlugins_callPlugin

theorem preserves_pluginAt (inv : Gfal2Context σ → Prop) (slot : Slot) : Preserves inv (pluginAt slot) := by
  intro context h plugin context' heq
  cases heq
  exact h

namespace Stable

variable {α : Type} {inv : Gfal2Context σ → Prop} (stable : Stable inv)

include stable

theorem triggerEvent (domain : GQuark) (side : GfalEventSide) (stage description : CString) :
    Preserves inv (pluginTriggerEvent domain side stage description) :=
  Preserves.modify fun context h => stable.told context _ context.reports h

theorem startScope : Preserves inv gfal2StartScopeCancel := by
  refine stable.cancelRead.bind fun cancelled => Preserves.ite (Preserves.pure _) ?_
  exact Preserves.bind (Preserves.modify fun context h => stable.scope context _ h) fun _ => Preserves.pure _

theorem endScope : Preserves inv gfal2EndScopeCancel :=
  Preserves.modify fun context h => stable.scope context _ h

theorem inScope {retErrValue : α} {body : Gfal σ (Ret α)} (hbody : Preserves inv body) :
    Preserves inv (scopeCancel retErrValue body) :=
  preserves_scopeCancel stable.cancelRead stable.scope hbody

theorem findPlugin (url : CString) (mode : PluginMode) : Preserves inv (gfalFindPlugin url mode) :=
  stable.loading.bind fun _ => Preserves.get.bind fun _ => Preserves.pure _

theorem dispatchUrl (mode : PluginMode) (which : PluginCallback) (url : CString) (failure : α)
    (callback : GfalPluginInterface σ → Option (Callback σ (Ret α))) :
    Preserves inv (dispatchUrl mode which url failure callback) := by
  refine (stable.findPlugin url mode).bind fun found => ?_
  cases found.val with
  | none => exact Preserves.pure _
  | some slot => exact (preserves_pluginAt inv slot).bind fun plugin => stable.call slot which _

theorem dispatchHandle (which : PluginCallback) (fh : GfalFileHandle) (failure : α)
    (callback : GfalPluginInterface σ → Option (Callback σ (Ret α))) :
    Preserves inv (dispatchHandle which fh failure callback) := by
  refine (preserves_gfalPluginMapFileHandle stable.loading fh).bind fun mapped => ?_
  cases mapped.val with
  | none => exact Preserves.pure _
  | some slot => exact (preserves_pluginAt inv slot).bind fun plugin => stable.call slot which _

/-! ### Preparing the destination -/

theorem mkdirp (path : CString) (mode : Nat) (pflag : Bool) : Preserves inv (gfalPluginMkdirp path mode pflag) := by
  refine (stable.dispatchUrl _ _ _ _ _).bind fun made => Preserves.ite ?_ (Preserves.pure _)
  cases made.err with
  | none => exact Preserves.fault _
  | some e => exact Preserves.pure _

theorem climb (mode : Nat) (currentUrl : CString) (stackUrl : List CString) :
    Preserves inv (mkdirClimb mode currentUrl stackUrl) := by
  cases hparent : parentUrl currentUrl with
  | none =>
      rw [mkdirClimb_of_none hparent]
      exact Preserves.pure _
  | some parent =>
      rw [mkdirClimb_of_some hparent]
      refine (stable.mkdirp parent mode false).bind fun made => Preserves.ite ?_ (Preserves.pure _)
      exact climb mode parent (currentUrl :: stackUrl)
termination_by currentUrl.length
decreasing_by exact length_parentUrl hparent

theorem replay (mode : Nat) (pending : Option GError) (stackUrl : List CString) :
    Preserves inv (mkdirReplay mode pending stackUrl) := by
  induction stackUrl generalizing pending with
  | nil => exact Preserves.pure _
  | cons url rest ih =>
      refine (stable.mkdirp url mode false).bind fun made => Preserves.ite (ih _) ?_
      cases pending.or made.err with
      | none => exact Preserves.fault _
      | some e => exact Preserves.ite (ih none) (Preserves.pure _)

theorem mkdirRec (url : CString) (mode : Nat) : Preserves inv (gfal2MkdirRec (some url) mode) := by
  refine stable.inScope ((stable.mkdirp url mode true).bind fun made => ?_)
  cases made.err with
  | none => exact Preserves.pure _
  | some e =>
      refine Preserves.ite (Preserves.pure _) (Preserves.ite ?_ (Preserves.pure _))
      refine (stable.climb mode _ []).bind fun climbed => ?_
      cases climbed.1.err with
      | none => exact stable.replay mode none _
      | some e => exact Preserves.ite (stable.replay mode none _) (Preserves.pure _)

theorem createParent (params : GfaltParams) (surl : CString) : Preserves inv (createParent params surl) := by
  refine Preserves.ite (Preserves.pure _) ?_
  cases getParent surl with
  | none => exact Preserves.pure _
  | some parent =>
      refine (stable.inScope (stable.dispatchUrl _ _ _ _ _)).bind fun st => Preserves.ite ?_ (Preserves.pure _)
      cases st.err with
      | none => exact Preserves.fault _
      | some e =>
          refine Preserves.ite (Preserves.pure _) ?_
          exact (stable.mkdirRec parent _).bind fun made => Preserves.pure _

theorem unlinkIfExists (params : GfaltParams) (surl : CString) : Preserves inv (unlinkIfExists params surl) := by
  refine (stable.inScope (stable.dispatchUrl _ _ _ _ _)).bind fun st => Preserves.ite ?_ ?_
  · cases st.err with
    | none => exact Preserves.fault _
    | some e => exact Preserves.pure _
  · refine Preserves.ite (Preserves.pure _) (Preserves.ite (Preserves.pure _) ?_)
    refine (stable.inScope (stable.dispatchUrl _ _ _ _ _)).bind fun removed => ?_
    cases removed.err with
    | some e => exact Preserves.pure _
    | none => exact (stable.triggerEvent _ _ _ _).bind fun _ => Preserves.pure _

theorem prepareDestination (params : GfaltParams) (dst : CString) : Preserves inv (prepareDestination params dst) := by
  refine Preserves.ite (Preserves.pure _) ((stable.createParent params dst).bind fun parent => ?_)
  refine Preserves.ite (Preserves.pure _) ?_
  exact (stable.unlinkIfExists params dst).bind fun existing => Preserves.pure _

/-! ### The copy -/

theorem moveChunk (fSrc fDst : Option GfalFileHandle) (buffersize : Nat) :
    Preserves inv (moveChunk fSrc fDst buffersize) := by
  have hread : Preserves inv (gfalPluginReadG fSrc buffersize) := by
    cases fSrc with
    | none => exact Preserves.pure _
    | some fh =>
        refine Preserves.ite (Preserves.pure _) ?_
        exact (stable.dispatchHandle _ fh _ _).bind fun answer => Preserves.pure _
  have hwrite : ∀ buff, Preserves inv (gfalPluginWriteG fDst buff) := by
    intro buff
    cases fDst with
    | none => exact Preserves.pure _
    | some fh =>
        refine Preserves.ite (Preserves.pure _) ?_
        exact (stable.dispatchHandle _ fh _ _).bind fun answer => Preserves.pure _
  refine hread.bind fun read => Preserves.ite ?_ (Preserves.pure _)
  exact (hwrite _).bind fun written => Preserves.pure _

theorem watch (timeout : Int) (perf : PerfData) (nestedError : Option GError) :
    Preserves inv (watchTransfer timeout perf nestedError) := by
  refine stable.cancelRead.bind fun cancelled => Preserves.ite (Preserves.pure _) ?_
  refine stable.timeRead.bind fun now => Preserves.ite (Preserves.pure _) (Preserves.ite ?_ (Preserves.pure _))
  exact Preserves.bind (Preserves.modify fun context h => stable.told context context.events _ h) fun _ =>
    Preserves.pure _

theorem streamLoop (fSrc fDst : Option GfalFileHandle) (buffersize : Nat) (timeout : Int) (fuel : Nat)
    (perf : PerfData) : Preserves inv (streamLoop fSrc fDst buffersize timeout fuel perf) := by
  induction fuel generalizing perf with
  | zero => exact Preserves.fault _
  | succ fuel ih =>
      refine (stable.moveChunk fSrc fDst buffersize).bind fun moved => ?_
      refine (stable.watch timeout _ moved.2).bind fun watched => ?_
      exact Preserves.ite (ih watched.2) (Preserves.pure _)

theorem close (fh : Option GfalFileHandle) : Preserves inv (gfalPluginCloseG fh) := by
  cases fh with
  | none => exact Preserves.pure _
  | some fh => exact stable.dispatchHandle _ fh _ _

theorem streamedCopy (fuel : Nat) (params : GfaltParams) (src dst : CString) :
    Preserves inv (streamedCopy fuel params src dst) := by
  refine (stable.triggerEvent _ _ _ _).bind fun _ => (stable.triggerEvent _ _ _ _).bind fun _ => ?_
  refine Preserves.get.bind fun context => Preserves.ite (Preserves.pure _) ?_
  refine (stable.dispatchUrl _ _ _ _ _).bind fun fSrc => ?_
  cases fSrc.err with
  | some e => exact Preserves.pure _
  | none =>
      refine (stable.dispatchUrl _ _ _ _ _).bind fun fDst => ?_
      cases fDst.err with
      | some e => exact (stable.close fSrc.val).bind fun _ => Preserves.pure _
      | none =>
          refine stable.timeRead.bind fun start => (stable.streamLoop _ _ _ _ _ _).bind fun nested => ?_
          refine Preserves.bind ((stable.close _).bind fun _ => Preserves.pure _) fun nested => ?_
          refine Preserves.bind ((stable.close _).bind fun _ => Preserves.pure _) fun nested => ?_
          exact Preserves.ite (Preserves.pure _) ((stable.triggerEvent _ _ _ _).bind fun _ => Preserves.pure _)

theorem checksum (url checkType : CString) (startOffset : Int) (dataLength : Nat) (buffer : Option CString)
    (bufferLength : Nat) :
    Preserves inv (gfal2Checksum url checkType startOffset dataLength buffer bufferLength) := by
  unfold gfal2Checksum
  cases buffer with
  | none => exact Preserves.pure _
  | some buffer =>
      refine Preserves.ite (Preserves.pure _) ?_
      refine stable.startScope.bind fun started => Preserves.ite (Preserves.pure _) ?_
      refine (stable.dispatchUrl _ _ _ _ _).bind fun answer => stable.endScope.bind fun _ => ?_
      exact Preserves.get.bind fun context => Preserves.pure _

theorem checksumOfSide (side : GfalEventSide) (url checksumType failure : CString) :
    Preserves inv (checksumOfSide side url checksumType failure) := by
  refine (stable.triggerEvent _ _ _ _).bind fun _ => (stable.checksum _ _ _ _ _ _).bind fun answer => ?_
  cases answer.err with
  | some e => exact Preserves.pure _
  | none => exact (stable.triggerEvent _ _ _ _).bind fun _ => Preserves.pure _

theorem performLocalCopy (fuel : Nat) (params : GfaltParams) (src dst : CString) :
    Preserves inv (performLocalCopy fuel params src dst) := by
  have hsource : ∀ mode type user, Preserves inv (checkSource mode src type user) := by
    intro mode type user
    unfold checkSource
    refine Preserves.ite (Preserves.pure _) ((stable.checksumOfSide _ _ _ _).bind fun source => ?_)
    exact Preserves.ite (Preserves.pure _) (Preserves.pure _)
  have hdest : ∀ mode type user source, Preserves inv (checkDestination mode dst type user source) := by
    intro mode type user source
    unfold checkDestination
    refine Preserves.ite (Preserves.pure _) ((stable.checksumOfSide _ _ _ _).bind fun destination => ?_)
    exact Preserves.ite (Preserves.pure _) (Preserves.ite (Preserves.pure _) (Preserves.pure _))
  refine (hsource _ _ _).bind fun source => Preserves.ite (Preserves.pure _) ?_
  refine (stable.prepareDestination params dst).bind fun prepared => Preserves.ite (Preserves.pure _) ?_
  refine (stable.streamedCopy fuel params src dst).bind fun copied => Preserves.ite (Preserves.pure _) ?_
  exact hdest _ _ _ _

theorem listeners (params : GfaltParams) (slots : List Slot) : Preserves inv (triggerListeners params slots) := by
  induction slots with
  | nil => exact Preserves.pure _
  | cons slot rest ih =>
      rw [triggerListeners]
      refine (preserves_pluginAt inv slot).bind fun plugin => ?_
      cases plugin.copyEnterHook with
      | some hook => exact (stable.call slot _ _).bind fun _ => ih
      | none => exact ih

theorem notifyItems (pairs : List (CString × CString)) : Preserves inv (notifyItems pairs) := by
  induction pairs with
  | nil => exact Preserves.pure _
  | cons pair rest ih => exact (stable.triggerEvent _ _ _ _).bind fun _ => ih

theorem triggerListenerPlugins (params : GfaltParams) : Preserves inv (triggerListenerPlugins params) :=
  Preserves.get.bind fun context => stable.listeners params context.pluginOpt.sortedPlugin

theorem notifyCopyList (pairs : List (CString × CString)) : Preserves inv (notifyCopyList pairs) := by
  refine (stable.triggerEvent _ _ _ _).bind fun _ => (stable.notifyItems pairs).bind fun _ => ?_
  exact stable.triggerEvent _ _ _ _

theorem performCopy (fuel : Nat) (params : GfaltParams) (src dst : CString) :
    Preserves inv (performCopy fuel params src dst) := by
  refine (stable.triggerListenerPlugins params).bind fun _ => (stable.notifyCopyList _).bind fun _ => ?_
  refine Preserves.bind (Preserves.get.bind fun context => Preserves.pure _) fun found => ?_
  cases found with
  | none => exact Preserves.ite (stable.performLocalCopy fuel params src dst) (Preserves.pure _)
  | some slot => exact (preserves_pluginAt inv slot).bind fun plugin => stable.call slot _ _

end Stable

end Gfal2
