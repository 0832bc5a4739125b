import Gfal2.CopyInvariants
import Gfal2.DescriptorCalls
import Gfal2.HttpCopy

/-! What an HTTP copy keeps. Beside what every copy does, it makes requests of Davix, goes through the table of
descriptors, writes options, and removes its destination: the last two are asked for where they are needed. -/

namespace Gfal2

open Base Exec

variable {σ : Type}

/-- A property of contexts that everything in an HTTP copy keeps but a written option and a removed file. -/
structure HttpStable (davix : Davix σ) (inv : Gfal2Context σ → Prop) : Prop extends Stable inv where
  descriptors : ∀ context reads fdescs, inv context → inv { context with randReads := reads, fdescs := fdescs }
  stat : ∀ url, Preserves inv (requestDavix (davix.stat url))
  copy : ∀ mode params src dst, Preserves inv (requestDavix (davix.copy mode params src dst))
  put : ∀ params dst sourceFd, Preserves inv (requestDavix (davix.put params dst sourceFd))
  release : ∀ url, Preserves inv (requestDavix (davix.releaseFile url))

theorem preserves_config_request {α : Type} (config : Config) (request : Callback σ α) :
    Preserves (fun context => context.config = config) (requestDavix request) := by
  intro context h value context' heq
  cases heq
  exact h

/-- Nothing but a written option changes the configuration. -/
theorem httpStable_config (davix : Davix σ) (config : Config) : HttpStable davix fun context => context.config = config where
  cancelRead := by
    intro context h cancelled context' heq
    cases heq
    exact h
  timeRead := by
    intro context h now context' heq
    cases heq
    exact h
  scope := fun _ _ h => h
  told := fun _ _ _ h => h
  loading := (loadStable_config config).pluginsInstance
  call := by
    intro α slot which callback context h value context' heq
    cases callback with
    | none => cases heq
    | some call =>
        cases heq
        exact h
  descriptors := fun _ _ _ h => h
  stat := fun _ => preserves_config_request config _
  copy := fun _ _ _ _ => preserves_config_request config _
  put := fun _ _ _ => preserves_config_request config _
  release := fun _ => preserves_config_request config _

namespace HttpStable

variable {α : Type} {davix : Davix σ} {inv : Gfal2Context σ → Prop} (stable : HttpStable davix inv) {dst : CString}
  {params : GfaltParams}

include stable

/-! ### Before and after the loop -/

theorem checkSource (mode : ChecksumMode) (src checksumType userChecksum : CString) :
    Preserves inv (httpCheckSource mode src checksumType userChecksum) := by
  refine Preserves.ite (Preserves.pure _) ((stable.triggerEvent _ _ _ _).bind fun _ => ?_)
  refine (stable.checksum _ _ _ _ _ _).bind fun answer => ?_
  cases answer.err with
  | some e => exact Preserves.ite ((stable.triggerEvent _ _ _ _).bind fun _ => Preserves.pure _) (Preserves.pure _)
  | none => exact Preserves.ite (Preserves.pure _) ((stable.triggerEvent _ _ _ _).bind fun _ => Preserves.pure _)

theorem checkDestination (dstBuffer : CString) (mode : ChecksumMode) (dst checksumType userChecksum srcChecksum : CString)
    (seen : Seen) :
    Preserves inv (httpCheckDestination dstBuffer mode dst checksumType userChecksum srcChecksum seen) := by
  refine Preserves.ite (Preserves.pure _) ((stable.triggerEvent _ _ _ _).bind fun _ => ?_)
  refine (stable.checksum _ _ _ _ _ _).bind fun answer => ?_
  cases answer.err with
  | some e => exact Preserves.pure _
  | none =>
      dsimp only
      cases comparedChecksum srcChecksum userChecksum with
      | some compared =>
          exact Preserves.ite (Preserves.pure _) ((stable.triggerEvent _ _ _ _).bind fun _ => Preserves.pure _)
      | none => exact (stable.triggerEvent _ _ _ _).bind fun _ => Preserves.pure _

theorem httpExists (url : CString) : Preserves inv (gfalHttpExists davix url) := by
  have haccess : Preserves inv (gfalHttpAccess davix url) := by
    refine (stable.stat _).bind fun daverr => ?_
    cases daverr <;> exact Preserves.pure _
  refine haccess.bind fun access => Preserves.ite (Preserves.pure _) ?_
  cases access.err with
  | none => exact Preserves.fault _
  | some e => exact Preserves.pure _

omit stable in
theorem unlink {url : CString} (hunlink : Preserves inv (requestDavix (davix.unlink (strip3rdFromUrl url gfalUrlMaxLen)))) :
    Preserves inv (gfalHttpUnlinkG davix url) := by
  refine hunlink.bind fun daverr => ?_
  cases daverr <;> exact Preserves.pure _

/-- An existing destination is removed only where that is asked for. -/
theorem overwrite (hunlink : params.replaceExisting = true → Preserves inv (gfalHttpUnlinkG davix dst)) :
    Preserves inv (gfalHttpCopyOverwrite davix params dst) := by
  refine (stable.httpExists dst).bind fun existing => Preserves.ite ?_ (Preserves.ite (Preserves.pure _) (Preserves.pure _))
  by_cases hreplace : params.replaceExisting = true
  · rw [if_neg (not_not.mpr hreplace)]
    refine (hunlink hreplace).bind fun removed => Preserves.ite (Preserves.pure _) ?_
    exact (stable.triggerEvent _ _ _ _).bind fun _ => Preserves.pure _
  · rw [if_pos hreplace]
    exact Preserves.pure _

theorem makeParent (params : GfaltParams) (dst : CString) : Preserves inv (gfalHttpCopyMakeParent davix params dst) := by
  refine Preserves.ite (Preserves.pure _) ?_
  cases getParent dst with
  | none => exact Preserves.pure _
  | some parent =>
      refine (stable.httpExists parent).bind fun existing => Preserves.ite (Preserves.pure _) ?_
      exact Preserves.ite (Preserves.pure _) ((stable.mkdirRec parent _).bind fun made => Preserves.pure _)

theorem httpPrepareDestination
    (hunlink : params.strictMode = false → params.replaceExisting = true → Preserves inv (gfalHttpUnlinkG davix dst)) :
    Preserves inv (httpPrepareDestination davix params dst) := by
  unfold Gfal2.httpPrepareDestination
  by_cases hstrict : params.strictMode = true
  · rw [if_pos hstrict]
    exact Preserves.pure _
  · rw [if_neg hstrict]
    refine (stable.overwrite (hunlink (by simpa using hstrict))).bind fun overwritten => ?_
    refine Preserves.ite (Preserves.pure _) ((stable.makeParent params dst).bind fun made => Preserves.pure _)

theorem finishTransfer (src dst : CString) (p : CopyProgress) : Preserves inv (finishTransfer src dst p) := by
  refine Preserves.ite ((stable.triggerEvent _ _ _ _).bind fun _ => Preserves.pure _) ?_
  cases p.nestedError with
  | none => exact Preserves.fault _
  | some e => exact (stable.triggerEvent _ _ _ _).bind fun _ => Preserves.pure _

theorem evict (params : GfaltParams) (src : CString) : Preserves inv (evictSource davix params src) := by
  refine Preserves.ite ?_ (Preserves.pure _)
  exact (stable.release src).bind fun ret => stable.triggerEvent _ _ _ _

/-! ### The attempts -/

theorem thirdParty (params : GfaltParams) (src dst : CString) (mode : CopyMode) :
    Preserves inv (gfalHttpThirdPartyCopy davix params src dst mode) := by
  refine Preserves.ite ((stable.copy _ _ _ _).bind fun answer => ?_) (Preserves.pure _)
  cases answer <;> exact Preserves.pure _

theorem statUrl (url : CString) : Preserves inv (gfal2Stat url) := stable.inScope (stable.dispatchUrl _ _ _ _ _)

theorem addNewFileDesc (fuel : Nat) (pfile : GfalFileHandle) : Preserves inv (gfalAddNewFileDesc fuel pfile) := by
  have hrand : Preserves inv rand := by
    intro context h value context' heq
    cases heq
    exact stable.descriptors context _ context.fdescs h
  have hdraw : ∀ fuel ret, Preserves inv (drawKey fuel ret) := by
    intro fuel
    induction fuel with
    | zero => exact fun ret => Preserves.fault _
    | succ fuel ih =>
        intro ret
        exact Preserves.get.bind fun context => Preserves.ite (hrand.bind fun next => ih next) (Preserves.pure _)
  have hkey : Preserves inv (gfalFileKeyGeneratorG fuel) := by
    refine hrand.bind fun ret => Preserves.get.bind fun context => Preserves.ite (Preserves.pure _) ?_
    exact (hdraw fuel ret).bind fun key => Preserves.pure _
  refine hkey.bind fun key => Preserves.ite (Preserves.bind (Preserves.modify fun context h => ?_) fun _ => ?_) ?_
  · exact stable.descriptors context context.randReads _ h
  · exact Preserves.pure _
  · exact Preserves.pure _

theorem openUrl (fuel : Nat) (url : CString) (flag : Nat) : Preserves inv (gfal2Open fuel (some url) flag) := by
  refine stable.inScope ((stable.dispatchUrl _ _ _ _ _).bind fun answer => ?_)
  cases answer.val with
  | none => exact Preserves.pure _
  | some fh => exact (stable.addNewFileDesc fuel fh).bind fun key => Preserves.pure _

theorem closeDescriptor (fd : Int) : Preserves inv (gfal2Close fd) := by
  have hremove : Preserves inv (gfalRemoveFileDesc fd) := by
    refine Preserves.get.bind fun context => Preserves.bind (Preserves.modify fun context h => ?_) fun _ =>
      Preserves.ite (Preserves.pure _) (Preserves.pure _)
    exact stable.descriptors context context.randReads _ h
  refine preserves_onFile fun fh => (stable.close (some fh)).bind fun ret => Preserves.ite ?_ (Preserves.pure _)
  exact hremove.bind fun removed => Preserves.pure _

theorem putStream (params : GfaltParams) (dst : CString) (sourceFd : Int) :
    Preserves inv (putStream davix params dst sourceFd) := by
  refine (stable.put _ _ _).bind fun thrown => (stable.closeDescriptor sourceFd).bind fun _ => ?_
  cases thrown <;> exact Preserves.pure _

theorem cleanup {err : GError} (hunlink : err.code ≠ EEXIST → Preserves inv (gfalHttpUnlinkG davix dst)) :
    Preserves inv (gfalHttpCopyCleanup davix dst err) := by
  unfold gfalHttpCopyCleanup
  by_cases hcode : err.code ≠ EEXIST
  · rw [if_pos hcode]
    exact (hunlink hcode).bind fun removed => stable.triggerEvent _ _ _ _
  · rw [if_neg hcode]
    exact Preserves.pure _

theorem finishPass {p : CopyProgress} (hunlink : params.transferCleanup = true → ∀ e, p.nestedError = some e → e.code ≠ EEXIST →
      Preserves inv (gfalHttpUnlinkG davix dst)) :
    Preserves inv (finishPass davix params dst p) := by
  refine Preserves.ite (Preserves.pure _) ?_
  cases herr : p.nestedError with
  | none => exact Preserves.fault _
  | some e =>
      dsimp only
      by_cases hcleanup : params.transferCleanup = true
      · rw [if_pos hcleanup]
        exact (stable.cleanup (hunlink hcleanup e herr)).bind fun _ => Preserves.pure _
      · rw [if_neg hcleanup]
        exact Preserves.pure _

end HttpStable

end Gfal2
