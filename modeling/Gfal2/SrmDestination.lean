import Gfal2.SrmRequests
import Gfal2.SrmCredentials

/-! What a copy by the SRM plugin removes. The clean-up of a failed copy removes a destination that is no SRM URL
whatever the copy failed of, and one that is an SRM URL as soon as its service has handed out a token for it. -/

namespace Gfal2

open Base Exec Throwing

/-- The request removes the file. -/
def SrmExchange.Removes (dst : CString) : SrmExchange → Prop
  | .rm paths => gfal2SrmGetDecodedPath dst ∈ paths
  | .unlink url => url = dst
  | _ => False

/-- The file is there: no transfer writes to it that must not replace it. -/
def SrmServers.Holds (servers : SrmServers) (dst : CString) : Prop :=
  ∀ turl params history, params.replaceExisting = false → servers.copyFile turl dst params history ≠ none

/-- The URL is taken for one with its endpoint in it, and this cannot be told. -/
def Endpointless (surl : CString) : Prop :=
  gfalCheckFullendpointInSurl surl = true ∧ ∃ e, gfalGetFullendpoint surl 2048 = .error e

/-- The library takes the destination for an SRM URL, and its endpoint cannot be told. -/
def Unreachable (dst : CString) : Prop := gfalSurlChecker dst = true ∧ Endpointless dst

/-- No service is asked to write to the destination, because an endpoint is missing or there is no parent to be created. -/
def NeverAsked (params : GfaltParams) (src dst : CString) : Prop :=
  Endpointless dst ∨ (srmCheckUrl src = true ∧ Endpointless src) ∨
    (params.parentDirCreate = true ∧ ∀ parent ∈ srmParent dst, Endpointless parent)

/-- Nothing is cleaned up, or what there is to be cleaned up cannot be removed or is never asked for. -/
def KeepsDestination (params : GfaltParams) (src dst : CString) : Prop :=
  params.transferCleanup = false ∨ if srmCheckUrl dst = true then NeverAsked params src dst else Unreachable dst

section Removal

variable {α β : Type} {dst : CString} {before middle after : Gfal2Context SrmWorld}

theorem spares_removes (dst : CString) : SparesTransfer (SrmExchange.Removes dst) :=
  ⟨⟨fun _ => id, id, fun _ => id, fun _ => id, fun _ => id, fun _ _ => id, fun _ _ => id, fun _ _ _ _ => id⟩,
    fun _ _ _ _ => id, fun _ _ _ => id⟩

/-! ### Without an endpoint -/

/-- The operation throws whenever it returns. -/
def Throws (operation : SrmThrowing α) : Prop :=
  ∀ context outcome final, operation.run context = .ok (outcome, final) → ∃ e, outcome = .error e

theorem Throws.first {operation : SrmThrowing α} (h : Throws operation) (next : α → SrmThrowing β) : Throws (operation >>= next) := by
  intro context outcome final hrun
  rcases run_bind_eq_ok hrun with ⟨e, -, rfl⟩ | ⟨value, middle, hvalue, -⟩
  · exact ⟨e, rfl⟩
  · obtain ⟨e, heq⟩ := h _ _ _ hvalue
    cases heq

theorem Throws.then (operation : SrmThrowing α) {next : α → SrmThrowing β} (h : ∀ value, Throws (next value)) :
    Throws (operation >>= next) := by
  intro context outcome final hrun
  rcases run_bind_eq_ok hrun with ⟨e, -, rfl⟩ | ⟨value, middle, -, hnext⟩
  · exact ⟨e, rfl⟩
  · exact h value _ _ _ hnext

theorem Throws.throw (e : GError) : Throws (throw e : SrmThrowing α) := by
  rintro context outcome final ⟨⟩
  exact ⟨e, rfl⟩

theorem Throws.withNote {body : SrmThrowing α} (h : Throws body) (side note : CString) : Throws (withNote side note body) := by
  intro context outcome final hrun
  rcases run_catch_eq_ok hrun with ⟨value, hvalue, -⟩ | ⟨e, thrown, -, hhandled⟩
  · obtain ⟨e, heq⟩ := h _ _ _ hvalue
    cases heq
  · exact Throws.throw _ _ _ _ hhandled

variable (servers : SrmServers) {params : GfaltParams} {src : CString}

theorem withEasyContext_throws {surl : CString} (h : Endpointless surl) (body : GfalSrmEasy → SrmThrowing α) (purpose : SrmPurpose) :
    Throws (withEasyContext servers surl body purpose) := by
  obtain ⟨hfull, e, hendpoint⟩ := h
  intro context outcome final hrun
  obtain ⟨made, entered, heasy, hrest⟩ := bind_eq_ok.mp hrun
  have hdetermine : gfalSrmDetermineEndpoint context.srmOpts (servers.context surl context.world.made) surl = .error e := by
    rw [gfalSrmDetermineEndpoint, if_pos hfull, hendpoint]
  obtain ⟨hmade, -⟩ := srmEasyContext_eq_ok heasy
  rw [easyContext_of_error hdetermine] at hmade
  subst hmade
  cases hrest
  exact ⟨_, rfl⟩

theorem rd3Turl_throws {surl : CString} (h : Endpointless surl) (reqType : SrmReqType) (size : Int) (otherSurl : CString) :
    Throws (rd3Turl servers reqType size surl otherSurl) :=
  ((withEasyContext_throws servers h _ _).first _).first _

theorem srmResolvePutTurl_throws (hsrm : srmCheckUrl dst = true) (h : Endpointless dst ∨
      (params.parentDirCreate = true ∧ ∀ parent ∈ srmParent dst, Endpointless parent)) (otherSurl : CString) (size : Int) :
    Throws (srmResolvePutTurl servers params dst otherSurl size) := by
  rw [srmResolvePutTurl, if_pos hsrm]
  rcases h with hdst | ⟨hcreate, hparent⟩
  · exact Throws.then _ fun _ => ((rd3Turl_throws servers hdst _ _ _).withNote _ _).first _
  · refine Throws.first (Throws.then _ fun _ => Throws.withNote ?_ _ _) _
    rw [srmPluginCreateParentCopy, if_pos hcreate]
    cases hsplit : srmParent dst with
    | none => exact Throws.throw _
    | some parent => exact withEasyContext_throws servers (hparent parent hsplit) _ _

theorem resolveSource_throws (hsrm : srmCheckUrl src = true) (h : Endpointless src) :
    Throws (copyResolved.resolveSource servers src dst) := by
  refine Throws.then _ fun size => Throws.then _ fun _ => Throws.first ?_ _
  rw [srmResolveGetTurl, if_pos hsrm]
  exact ((rd3Turl_throws servers h _ _ _).withNote _ _).first _

/-- There is nothing to be cleaned up at an SRM URL. -/
def CopyEnd.Untouched (done : CopyEnd) : Prop := done.tokenDestination = [] ∧ done.transferFinished = false

/-- A copy that never asks a service to write to its destination has nothing to clean up there. -/
theorem copyChecked_untouched (hsrm : srmCheckUrl dst = true) (h : NeverAsked params src dst) (context : Gfal2Context SrmWorld) :
    Ensures (copyChecked servers params src dst) context fun done _ => done.Untouched := by
  intro done final hrun
  rw [copyChecked, bind_of_ok (get_apply context)] at hrun
  cases hconfig : srmGetChecksumConfig servers context.config params with
  | error e =>
      rw [hconfig] at hrun
      cases hrun
      exact ⟨rfl, rfl⟩
  | ok cfg =>
      rw [hconfig] at hrun
      obtain ⟨checked, entered, -, hrun⟩ := bind_eq_ok.mp hrun
      cases checked with
      | error e =>
          cases hrun
          exact ⟨rfl, rfl⟩
      | ok checksumSource =>
          obtain ⟨resolved, found, hresolved, hrun⟩ := bind_eq_ok.mp hrun
          cases resolved with
          | error e =>
              cases hrun
              exact ⟨rfl, rfl⟩
          | ok turls =>
              obtain ⟨answer, put, hput, hrun⟩ := bind_eq_ok.mp hrun
              have hthrown : ∃ e, answer = .error e := by
                rcases h with hdst | ⟨hsrc, hnone⟩ | hparent
                · exact srmResolvePutTurl_throws servers hsrm (.inl hdst) _ _ _ _ _ hput
                · obtain ⟨e, heq⟩ := resolveSource_throws servers hsrc hnone _ _ _ hresolved
                  cases heq
                · exact srmResolvePutTurl_throws servers hsrm (.inr hparent) _ _ _ _ _ hput
              obtain ⟨e, rfl⟩ := hthrown
              cases hrun
              exact ⟨rfl, rfl⟩

/-! ### The clean-up -/

/-- Where there is nothing to be cleaned up at an SRM URL, nothing is. -/
theorem srmCleanupCopy_of_untouched (hsrm : srmCheckUrl dst = true) {done : CopyEnd} (huntouched : done.Untouched) :
    SrmAvoids (SrmExchange.Removes dst) (srmCleanupCopy servers src dst done) := by
  obtain ⟨htoken, hfinished⟩ := huntouched
  have hrollback : SrmAvoids (SrmExchange.Removes dst) (srmCleanupCopy.rollback servers dst done done.error) := by
    cases done.error with
    | none => exact Stays.pure _
    | some e =>
        refine Within.ite (fun h => ?_) fun _ => Within.ite (fun h => absurd htoken h.2) fun _ => Stays.pure _
        rcases h.2 with h | h
        · exact Bool.noConfusion (hfinished.symm.trans h)
        · exact absurd hsrm h
  refine hrollback.bind fun _ => Within.ite (fun _ => ?_) fun _ => Stays.pure _
  exact (gfalSrmv2ReleaseFileG_stays servers _ _ id fun _ => id).bind fun _ => Stays.pure _

/-- A file whose endpoint cannot be told is not removed. -/
theorem gfalSrmUnlinkG_of_unreachable (hdst : Unreachable dst) : SrmAvoids (SrmExchange.Removes dst) (gfalSrmUnlinkG servers dst) := by
  obtain ⟨-, hfull, e, hendpoint⟩ := hdst
  intro context ret final h
  obtain ⟨removed, left, hremoved, hret⟩ := bind_eq_ok.mp h
  cases hret
  obtain ⟨made, entered, heasy, hrest⟩ := bind_eq_ok.mp hremoved
  obtain ⟨hmade, hrecord⟩ := srmEasyContext_eq_ok heasy
  have hdetermine : gfalSrmDetermineEndpoint context.srmOpts (servers.context dst context.world.made) dst = .error e := by
    rw [gfalSrmDetermineEndpoint, if_pos hfull, hendpoint]
  rw [easyContext_of_error hdetermine] at hmade
  subst hmade
  obtain ⟨answer, removed', hanswer, hrest⟩ := bind_eq_ok.mp hrest
  cases hanswer
  cases hrest
  exact ⟨_, hrecord, fun request hmem => by cases List.mem_singleton.mp hmem; exact id⟩

theorem srmCleanupCopy_of_unreachable (hdst : Unreachable dst) (done : CopyEnd) :
    SrmAvoids (SrmExchange.Removes dst) (srmCleanupCopy servers src dst done) := by
  have hspares := (spares_removes dst).toAllowsQueries
  have hunlink := gfalSrmUnlinkG_of_unreachable servers hdst
  have hclean : SrmAvoids (SrmExchange.Removes dst) (cleanDestination servers dst) := by
    refine Stays.bind (Stays.scope (Within.ite (fun _ => hunlink) fun h => absurd hdst.1 h)) fun ret => ?_
    refine Stays.bind ?_ fun _ => Stays.event _ _ _ _
    unfold cleanDestination.status
    split
    · exact Stays.pure _
    · exact Stays.pure _
    · exact Stays.fault _
  have hrollback : SrmAvoids (SrmExchange.Removes dst) (srmCleanupCopy.rollback servers dst done done.error) := by
    cases done.error with
    | none => exact Stays.pure _
    | some e =>
        refine Within.ite (fun _ => hclean) fun _ => Within.ite (fun _ => ?_) fun _ => Stays.pure _
        refine Stays.bind (srmAbortRequestPlugin_stays servers _ _ id id) fun _ => ?_
        exact Stays.bind hunlink fun _ => Stays.pure _
  refine hrollback.bind fun _ => Within.ite (fun _ => ?_) fun _ => Stays.pure _
  exact (gfalSrmv2ReleaseFileG_stays servers _ _ id fun _ => id).bind fun _ => Stays.pure _

/-- The copy up to its clean-up. -/
theorem srmPluginFilecopy_eq_ok {context context' : Gfal2Context SrmWorld} {ret : Ret Int}
    (h : srmPluginFilecopy servers params src dst context = .ok (ret, context')) :
    ∃ entered done left, Avoids (SrmExchange.Removes dst) context entered ∧
      copyChecked servers params src dst entered = .ok (done, left) ∧
      (if params.transferCleanup then srmCleanupCopy servers src dst done else pure ()) left = .ok ((), context') := by
  obtain ⟨_, hacked, hhack, h⟩ := bind_eq_ok.mp h
  obtain ⟨_, entered, hevent, h⟩ := bind_eq_ok.mp h
  obtain ⟨done, left, hdone, h⟩ := bind_eq_ok.mp h
  refine ⟨entered, done, left, ?_, hdone, ?_⟩
  · refine Avoids.trans _ _ _ (castorGridftpSessionHack_stays (spares_removes dst).toAllowsQueries servers src dst _ _ _ hhack) ?_
    exact Stays.event _ _ _ _ _ _ _ hevent
  · dsimp only at h
    split at h
    · rename_i hcleanup
      rw [if_pos hcleanup]
      obtain ⟨_, cleaned, hcleaned, hret⟩ := bind_eq_ok.mp h
      cases hret
      exact hcleaned
    · rename_i hcleanup
      rw [if_neg hcleanup]
      cases h
      rfl

/-- A copy that must not replace its destination and spares it removes nothing. -/
theorem avoids_of_spared (hreplace : params.replaceExisting = false) (h : KeepsDestination params src dst) :
    SrmAvoids (SrmExchange.Removes dst) (srmPluginFilecopy servers params src dst) := by
  intro context ret final hrun
  obtain ⟨entered, done, left, hentered, hdone, hcleanup⟩ := srmPluginFilecopy_eq_ok servers hrun
  have hleft : Avoids (SrmExchange.Removes dst) context left := by
    refine hentered.trans _ _ _ (copyChecked_stays (spares_removes dst) servers src dst (fun size => ?_) _ _ _ hdone)
    exact srmResolvePutTurl_stays (spares_removes dst).toAllowsQueries servers dst src size (fun h => by rw [hreplace] at h; cases h)
      fun _ _ _ => id
  by_cases hclean : params.transferCleanup = true
  · rw [if_pos hclean] at hcleanup
    have hspared := h.resolve_left (by simp [hclean])
    split at hspared
    case isTrue hsrm =>
        have huntouched := copyChecked_untouched servers hsrm hspared entered _ _ hdone
        exact hleft.trans _ _ _ (srmCleanupCopy_of_untouched servers hsrm huntouched _ _ _ hcleanup)
    case isFalse => exact hleft.trans _ _ _ (srmCleanupCopy_of_unreachable servers hspared done _ _ _ hcleanup)
  · rw [if_neg hclean] at hcleanup
    cases hcleanup
    exact hleft

end Removal

end Gfal2
