import Gfal2.SrmGrants

/-! When a copy by the SRM plugin finishes what it was granted. Its source and its destination are followed one by one,
from what is granted on the way to what its clean-up finishes. -/

namespace Gfal2

open Base Exec Throwing

/-! ### The requests of a copy for its source -/

/-- The request is granted and its token is not handed on. -/
def SrmExchange.Lost (request : SrmExchange) : Prop := ∃ grant, request.grant .get = some grant ∧ ¬grant.Kept

/-- What is granted for reading before the clean-up, and the token the clean-up finds. -/
inductive GetsOpened : SrmHistory → CString → Prop
  | lost {opens : SrmHistory} (hlost : ∀ request ∈ opens, request.Lost) : GetsOpened opens []
  | kept {before later : SrmHistory} {request : SrmExchange} {grant : SrmGrant} (hbefore : ∀ other ∈ before, other.Lost)
      (hgrant : request.grant .get = some grant) (hkept : grant.Kept) (hlater : ∀ other ∈ later, other.Lost) :
      GetsOpened (before ++ request :: later) ((grant.answer.token.getD []).take 2047)

variable {token : CString} {opens : SrmHistory}

theorem GetsOpened.append {later : SrmHistory} (h : GetsOpened opens token)
    (hlater : ∀ request ∈ later, request.Lost) : GetsOpened (opens ++ later) token := by
  cases h with
  | lost hlost => exact .lost fun request hmem => (List.mem_append.mp hmem).elim (hlost request) (hlater request)
  | kept hbefore hgrant hkept hafter =>
      rw [List.append_assoc, List.cons_append]
      exact .kept hbefore hgrant hkept fun request hmem => (List.mem_append.mp hmem).elim (hafter request) (hlater request)

theorem GetsOpened.prepend {earlier : SrmHistory} (h : GetsOpened opens token)
    (hearlier : ∀ request ∈ earlier, request.Lost) : GetsOpened (earlier ++ opens) token := by
  cases h with
  | lost hlost => exact .lost fun request hmem => (List.mem_append.mp hmem).elim (hearlier request) (hlost request)
  | kept hbefore hgrant hkept hafter =>
      rw [← List.append_assoc]
      exact .kept (fun request hmem => (List.mem_append.mp hmem).elim (hearlier request) (hbefore request)) hgrant hkept hafter

theorem token_of_nil (h : GetsOpened [] token) : token = [] := by
  generalize hopens : ([] : SrmHistory) = opens at h
  cases h with
  | lost => rfl
  | kept => simp at hopens

theorem Granting.getsOpened {kept : SrmHistory} {outcome : Except GError (CString × CString)}
    (h : Granting .get ClaimsToken kept outcome) : GetsOpened kept ((outcome.toOption.map Prod.snd).getD []) := by
  cases h with
  | nothing e => exact .lost (by simp)
  | rejected e hgrant hinvalid =>
      refine .lost fun other hmem => ?_
      rw [List.mem_singleton.mp hmem]
      exact ⟨_, hgrant, fun hkept => hinvalid hkept.2⟩
  | granted hgrant hkept hclaims =>
      simp only [Except.toOption, Option.map_some, Option.getD_some]
      rw [hclaims]
      show GetsOpened ([] ++ [_]) _
      exact .kept (by simp) hgrant hkept (by simp)

variable {outcome : Except GError Unit} {done : CopyEnd} {surl : CString} {request : SrmExchange}

section Gets

variable {servers : SrmServers} {params : GfaltParams} {source dest : CString} {context left : Gfal2Context SrmWorld}

/-- What is granted for a checksum is lost. -/
theorem not_tracked_of_checksum (path : CString) (protocols : List CString) (answer : Except GError PinAnswer) :
    ¬((SrmExchange.prepareToGet .checksum path protocols answer).tracked .get = true ∧
      ¬(SrmExchange.prepareToGet .checksum path protocols answer).Lost) := by
  rintro ⟨htracked, hlost⟩
  cases answer with
  | error e => cases htracked
  | ok answer =>
      by_cases hgranted : answer.Granted = true
      · exact hlost ⟨⟨.checksum, protocols, answer⟩, if_pos hgranted, fun hkept => hkept.1 rfl⟩
      · simp [SrmExchange.tracked, SrmExchange.entry, SrmExchange.grant, SrmExchange.finishes, SrmExchange.givesUp, hgranted]
          at htracked

theorem spares_of_tracked {reqType : SrmReqType} {p : SrmExchange → Prop} :
    SparesQueries fun request => request.tracked reqType = true ∧ p request :=
  (spares_tracked reqType).mono fun _ h => h.1

theorem sourceChecksum_gets {cfg : SrmChecksumConfig} {outcome : Except GError CString}
    (h : (copyChecked.sourceChecksum servers cfg source).run context = .ok (outcome, left)) :
    ∃ kept, SrmTracks .get context left kept ∧ ∀ request ∈ kept, request.Lost :=
  SrmTracks.of_avoids (sourceChecksum_stays spares_of_tracked servers not_tracked_of_checksum cfg source _ _ _ h)

theorem checkTarget_gets {cfg : SrmChecksumConfig} {checksumSource : CString}
    (h : (copyBetweenTurls.checkTarget servers cfg dest checksumSource).run context = .ok (outcome, left)) :
    ∃ kept, SrmTracks .get context left kept ∧ ∀ request ∈ kept, request.Lost :=
  SrmTracks.of_avoids (checkTarget_stays spares_of_tracked servers not_tracked_of_checksum cfg dest checksumSource _ _ _ h)

theorem srmResolveGetTurl_gets {outcome : Except GError (CString × CString)}
    (h : (srmResolveGetTurl servers source dest).run context = .ok (outcome, left)) :
    ∃ kept, SrmTracks .get context left kept ∧ GetsOpened kept ((outcome.toOption.map Prod.snd).getD []) := by
  unfold srmResolveGetTurl at h
  split at h
  · obtain ⟨kept, htracks, hgranting⟩ := resolve_granting rd3Turl_granting h
    exact ⟨kept, htracks, hgranting.getsOpened⟩
  · cases h
    exact ⟨[], .refl _, .lost (by simp)⟩

theorem resolveSource_gets {outcome : Except GError (Int × CString × CString)}
    (h : (copyResolved.resolveSource servers source dest).run context = .ok (outcome, left)) :
    ∃ kept, SrmTracks .get context left kept ∧ GetsOpened kept ((outcome.toOption.map (·.2.2)).getD []) := by
  have hnothing : GetsOpened [] [] := .lost (by simp)
  rcases run_bind_eq_ok h with ⟨e, hthrown, rfl⟩ | ⟨size, sized, hsize, h⟩
  · exact ⟨[], .nothing (sourceSize_stays (spares_tracked .get) servers source _ _ _ hthrown), hnothing⟩
  have hsized := SrmTracks.nothing (sourceSize_stays (spares_tracked .get) servers source _ _ _ hsize)
  rcases run_bind_eq_ok h with ⟨e, hthrown, rfl⟩ | ⟨_, online, honline, h⟩
  · exact ⟨[], hsized.trans (.nothing (checkSourceOnline_stays (spares_tracked .get) servers source _ _ _ hthrown)), hnothing⟩
  have hready := hsized.trans (.nothing (checkSourceOnline_stays (spares_tracked .get) servers source _ _ _ honline))
  rcases run_bind_eq_ok h with ⟨e, hthrown, rfl⟩ | ⟨⟨turl, token⟩, resolved, hturl, h⟩
  · obtain ⟨kept, htracks, hopened⟩ := srmResolveGetTurl_gets hthrown
    exact ⟨kept, hready.trans htracks, hopened⟩
  · obtain ⟨kept, htracks, hopened⟩ := srmResolveGetTurl_gets hturl
    cases h
    exact ⟨kept, hready.trans htracks, hopened⟩

theorem not_tracked_get (hgrant : request.grant .get = none) (hfinishes : request.finishes .get = none)
    (hgives : request.givesUp .get = false) : ¬request.tracked .get = true := by
  simp [SrmExchange.tracked, SrmExchange.entry, hgrant, hfinishes, hgives]

/-- What a copy has been granted for its source when it comes to its clean-up. -/
theorem CopyRun.gets (h : CopyRun servers params source dest context done left) :
    ∃ opens, SrmTracks .get context left opens ∧ GetsOpened opens done.tokenSource := by
  have hput : ∀ {size outcome resolved granted}, (srmResolvePutTurl servers params dest source size).run resolved = .ok (outcome, granted) →
      SrmTracks .get resolved granted [] := fun h =>
    .nothing (srmResolvePutTurl_stays (spares_tracked .get) servers dest source _ (fun _ => not_tracked_get rfl rfl rfl)
      (fun _ _ _ => not_tracked_get rfl rfl rfl) _ _ _ h)
  have htransfer : ∀ {turlSource turlDestination token outcome granted closed},
      (copyBetweenTurls.transfer servers params dest turlSource turlDestination token).run granted = .ok (outcome, closed) →
      SrmTracks .get granted closed [] := fun h =>
    .nothing (transfer_stays (spares_tracked .get) servers dest _ _ _ (fun _ _ => not_tracked_get rfl rfl rfl) _ _ _ h)
  cases h with
  | misconfigured e => exact ⟨[], .refl _, .lost (by simp)⟩
  | unchecked hchecksum =>
      obtain ⟨kept, htracks, hlost⟩ := sourceChecksum_gets hchecksum
      exact ⟨kept, htracks, .lost hlost⟩
  | unresolved hchecksum hsource =>
      obtain ⟨earlier, hearlier, hlost⟩ := sourceChecksum_gets hchecksum
      obtain ⟨kept, htracks, hopened⟩ := resolveSource_gets hsource
      exact ⟨_, hearlier.trans htracks, hopened.prepend hlost⟩
  | refused hchecksum hsource hput' =>
      obtain ⟨earlier, hearlier, hlost⟩ := sourceChecksum_gets hchecksum
      obtain ⟨kept, htracks, hopened⟩ := resolveSource_gets hsource
      exact ⟨_, (hearlier.trans htracks).trans (hput hput'), (hopened.prepend hlost).append (by simp)⟩
  | untransferred hchecksum hsource hput' htransfer' =>
      obtain ⟨earlier, hearlier, hlost⟩ := sourceChecksum_gets hchecksum
      obtain ⟨kept, htracks, hopened⟩ := resolveSource_gets hsource
      exact ⟨_, ((hearlier.trans htracks).trans (hput hput')).trans (htransfer htransfer'),
        ((hopened.prepend hlost).append (by simp)).append (by simp)⟩
  | transferred hchecksum hsource hput' htransfer' htarget =>
      obtain ⟨earlier, hearlier, hlost⟩ := sourceChecksum_gets hchecksum
      obtain ⟨kept, htracks, hopened⟩ := resolveSource_gets hsource
      obtain ⟨later, hlater, hlost'⟩ := checkTarget_gets htarget
      exact ⟨_, (((hearlier.trans htracks).trans (hput hput')).trans (htransfer htransfer')).trans hlater,
        (((hopened.prepend hlost).append (by simp)).append (by simp)).append hlost'⟩

/-- The release of a token. -/
inductive GetClosed (surl token : CString) : SrmHistory → Prop
  | missing : GetClosed surl token [.context .release surl false]
  | released (path : CString) : GetClosed surl token [.context .release surl true, .releaseFiles [path] (some token)]

theorem gfalSrmv2ReleaseFileG_closes {ret : Ret Int}
    (h : gfalSrmv2ReleaseFileG servers surl (some token) context = .ok (ret, left)) :
    ∃ made, left.world.made = context.world.made ++ made ∧ GetClosed surl token made := by
  obtain ⟨answer, final, hanswer, hret⟩ := bind_eq_ok.mp h
  cases hret
  rcases withEasyContext_eq_ok hanswer with ⟨e, -, hmade⟩ | ⟨easy, entered, outcome, released, -, hentered, hbody, hleft, -⟩
  · exact ⟨_, hmade, .missing⟩
  · obtain ⟨errors, middle, hinternal, hout⟩ := bind_eq_ok.mp hbody
    cases hout
    obtain ⟨statuses, called, hcall, hrest⟩ := bind_eq_ok.mp hinternal
    obtain ⟨hsome, -, hcalled⟩ := call_eq_ok hcall
    have hsame : released.world.made = called.world.made := by
      cases statuses with
      | error e =>
          cases hrest
          rfl
      | ok statuses =>
          obtain ⟨placed, final, hplaced, hend⟩ := bind_eq_ok.mp hrest
          cases hend
          exact Avoids.made_eq (placedErrors_stays _ _ _ _ _ _ hplaced)
    refine ⟨_, ?_, .released easy.path⟩
    rw [hleft, hsame, hcalled, hentered, hsome, List.append_assoc]
    rfl

/-- A granted source is given up if its token was kept. -/
theorem srmCleanupCopy_gets {final : Gfal2Context SrmWorld} (h : srmCleanupCopy servers source dest done left = .ok ((), final)) :
    ∃ closing, SrmTracks .get left final closing ∧
      (done.tokenSource = [] ∧ closing = [] ∨ done.tokenSource ≠ [] ∧ GetClosed source done.tokenSource closing) := by
  have hrollback : SrmAvoids (fun request => request.tracked .get = true) (srmCleanupCopy.rollback servers dest done done.error) := by
    exact rollback_stays (spares_tracked .get) servers dest done (not_tracked_get rfl rfl rfl) (not_tracked_get rfl rfl rfl)
      fun _ _ => ⟨fun _ => not_tracked_get rfl rfl rfl, not_tracked_get rfl rfl rfl⟩
  obtain ⟨_, rolled, hrolled, h⟩ := bind_eq_ok.mp h
  have htracks := SrmTracks.nothing (hrollback _ _ _ hrolled)
  split at h
  case isFalse hnone =>
      cases h
      exact ⟨[], htracks, .inl ⟨not_not.mp hnone, rfl⟩⟩
  case isTrue hsome =>
      obtain ⟨_, released, hrelease, hend⟩ := bind_eq_ok.mp h
      cases hend
      obtain ⟨made, hmade, hclosed⟩ := gfalSrmv2ReleaseFileG_closes hrelease
      have hfilter : made.filter (·.tracked .get) = made := by
        cases hclosed with
        | missing => rfl
        | released path => rfl
      refine ⟨made, ?_, .inr ⟨hsome, hclosed⟩⟩
      have hclosing : SrmTracks .get rolled final (made.filter (·.tracked .get)) := .of_made hmade
      rw [hfilter] at hclosing
      exact htracks.trans hclosing

end Gets

/-- What is granted for reading keeps its token, and a context can be had to release it. -/
structure GetsFinish (made : SrmHistory) : Prop where
  kept : ∀ request ∈ made, ∀ grant, request.grant .get = some grant →
    grant.Kept ∧ ∃ token, grant.answer.token = some token ∧ token ≠ [] ∧ token.length < 2048
  released : ∀ surl, SrmExchange.context .release surl false ∉ made

theorem getsFinish_filter (made : SrmHistory) : GetsFinish (made.filter (·.tracked .get)) ↔ GetsFinish made := by
  have hgrant : ∀ {request : SrmExchange} {grant}, request.grant .get = some grant → request.tracked .get = true := by
    intro request grant h
    simp [SrmExchange.tracked, SrmExchange.entry, h]
  constructor
  · intro h
    refine ⟨fun request hmem grant hgranted => h.kept request ?_ grant hgranted, fun surl hmem => h.released surl ?_⟩
    · exact List.mem_filter.mpr ⟨hmem, hgrant hgranted⟩
    · exact List.mem_filter.mpr ⟨hmem, rfl⟩
  · intro h
    refine ⟨fun request hmem => h.kept request (List.mem_of_mem_filter hmem), fun surl hmem => h.released surl ?_⟩
    exact List.mem_of_mem_filter hmem

def grantedTokens (reqType : SrmReqType) (opens : SrmHistory) : List (Option CString) :=
  opens.filterMap fun request => (request.grant reqType).map fun grant => grant.answer.token

theorem entries_of_granted {reqType : SrmReqType} (h : ∀ request ∈ opens, (request.grant reqType).isSome = true) :
    opens.filterMap (SrmExchange.entry reqType) = (grantedTokens reqType opens).map .opened ∧
      (grantedTokens reqType opens).length = opens.length := by
  induction opens with
  | nil => exact ⟨rfl, rfl⟩
  | cons request rest ih =>
      obtain ⟨hhead, htail⟩ := List.forall_mem_cons.mp h
      obtain ⟨grant, hgrant⟩ := Option.isSome_iff_exists.mp hhead
      obtain ⟨hentries, hlength⟩ := ih htail
      have htokens : grantedTokens reqType (request :: rest) = grant.answer.token :: grantedTokens reqType rest := by
        simp [grantedTokens, hgrant]
      constructor
      · rw [htokens, List.map_cons, ← hentries, List.filterMap_cons]
        simp [SrmExchange.entry, hgrant]
      · rw [htokens, List.length_cons, List.length_cons, hlength]

/-- What is granted for reading and given up by the clean-up leaves nothing open just when it finishes. -/
theorem settle_gets_iff {closing : SrmHistory} (hopened : GetsOpened opens token)
    (hclosing : token = [] ∧ closing = [] ∨ token ≠ [] ∧ GetClosed surl token closing) (pending : Multiset (Option CString)) :
    settle pending ((opens ++ closing).filterMap (SrmExchange.entry .get)) = some pending ↔ GetsFinish (opens ++ closing) := by
  have hgranted : ∀ request ∈ opens, (request.grant .get).isSome = true := by
    have hlost : ∀ request : SrmExchange, request.Lost → (request.grant .get).isSome = true := by
      rintro request ⟨grant, hgrant, -⟩
      rw [hgrant]
      rfl
    cases hopened with
    | lost h => exact fun request hmem => hlost request (h request hmem)
    | kept hbefore hgrant hkept hlater =>
        intro request hmem
        rcases List.mem_append.mp hmem with hmem | hmem
        · exact hlost request (hbefore request hmem)
        · rcases List.mem_cons.mp hmem with rfl | hmem
          · rw [hgrant]
            rfl
          · exact hlost request (hlater request hmem)
  obtain ⟨hentries, hlength⟩ := entries_of_granted hgranted
  rw [List.filterMap_append, hentries]
  have hclosed : ∃ keys : List (Option CString), closing.filterMap (SrmExchange.entry .get) = keys.map .closed ∧
      (keys = [] ∧ (token = [] ∨ SrmExchange.context .release surl false ∈ closing) ∨
        keys = [some token] ∧ token ≠ [] ∧ (∀ other, SrmExchange.context .release other false ∉ closing) ∧
          ∀ request ∈ closing, request.grant .get = none) := by
    rcases hclosing with ⟨hnone, rfl⟩ | ⟨hsome, hclosed⟩
    · exact ⟨[], rfl, .inl ⟨rfl, .inl hnone⟩⟩
    · cases hclosed with
      | missing => exact ⟨[], rfl, .inl ⟨rfl, .inr (by simp)⟩⟩
      | released path => exact ⟨[some token], rfl, .inr ⟨rfl, hsome, by simp, by simp [SrmExchange.grant]⟩⟩
  obtain ⟨keys, hkeys, hcases⟩ := hclosed
  rw [hkeys, settle_opened_closed_iff]
  have hlost : ∀ {request : SrmExchange}, GetsFinish (opens ++ closing) → request ∈ opens → ¬request.Lost := by
    rintro request h hmem ⟨grant, hgrant, hnot⟩
    exact hnot (h.kept request (List.mem_append_left _ hmem) grant hgrant).1
  rcases hcases with ⟨rfl, hunreleased⟩ | ⟨rfl, hsome, hreleased, hnogrant⟩
  · -- nothing is released: nothing may have been granted
    rw [List.perm_nil, ← List.length_eq_zero_iff, hlength, List.length_eq_zero_iff]
    constructor
    · rintro rfl
      rcases hclosing with ⟨-, rfl⟩ | ⟨hsome, -⟩
      · exact ⟨by simp, by simp⟩
      · exact absurd (token_of_nil hopened) hsome
    · intro hfinish
      cases hopened with
      | lost hall => exact List.eq_nil_iff_forall_not_mem.mpr fun request hmem => hlost hfinish hmem (hall request hmem)
      | kept hbefore hgrant hkept hlater =>
          rcases hunreleased with htoken | hmem
          · obtain ⟨-, kept, hkept, hne, hshort⟩ := hfinish.kept _ (by simp) _ hgrant
            rw [hkept, Option.getD_some, List.take_of_length_le (by omega)] at htoken
            exact absurd htoken hne
          · exact absurd (List.mem_append_right _ hmem) (hfinish.released surl)
  · cases hopened with
    | lost hall => exact absurd rfl hsome
    | @kept before later request grant hbefore hgrant hkept hlater =>
        constructor
        · intro hperm
          have hone : (before ++ request :: later).length = 1 := by rw [← hlength, hperm.length_eq]; rfl
          obtain ⟨rfl, rfl⟩ : before = [] ∧ later = [] := by
            rw [List.length_append, List.length_cons] at hone
            exact ⟨List.length_eq_zero_iff.mp (by omega), List.length_eq_zero_iff.mp (by omega)⟩
          have htoken : grant.answer.token = some ((grant.answer.token.getD []).take 2047) := by
            have := List.perm_singleton.mp hperm
            simpa [grantedTokens, hgrant] using this
          refine ⟨fun other hmem other' hother => ?_, fun other hmem => ?_⟩
          · rcases List.mem_append.mp hmem with hmem | hmem
            · cases List.mem_singleton.mp hmem
              cases hgrant.symm.trans hother
              refine ⟨hkept, _, htoken, hsome, ?_⟩
              rw [List.length_take]
              omega
            · rw [hnogrant other hmem] at hother
              cases hother
          · rcases List.mem_append.mp hmem with hmem | hmem
            · cases List.mem_singleton.mp hmem
              cases hgrant
            · exact hreleased other hmem
        · intro hfinish
          have hbefore' : before = [] := List.eq_nil_iff_forall_not_mem.mpr fun other hmem =>
            hlost hfinish (List.mem_append_left _ hmem) (hbefore other hmem)
          have hlater' : later = [] := List.eq_nil_iff_forall_not_mem.mpr fun other hmem =>
            hlost hfinish (List.mem_append_right _ (List.mem_cons_of_mem _ hmem)) (hlater other hmem)
          subst hbefore' hlater'
          obtain ⟨-, token, htoken, -, hshort⟩ := hfinish.kept request (by simp) grant hgrant
          have htokens : grantedTokens .get ([] ++ [request]) = [some token] := by simp [grantedTokens, hgrant, htoken]
          rw [htokens, htoken, Option.getD_some, List.take_of_length_le (by omega)]

/-! ### The requests of a copy for its destination -/

/-- The service accepts that the file is written. -/
def PutDoneAccepted : Except GError (List SrmFileStatus) → Prop
  | .ok statuses => convertFilestatusesToGError statuses = none
  | .error _ => False

/-- What it comes to that a file is said to be written. -/
inductive PutDoneRecord (surl : CString) (token : Option CString) : SrmHistory → Except GError Unit → Prop
  | missing (e : GError) : PutDoneRecord surl token [.context .putDone surl false] (.error e)
  | told (path : CString) (answer : Except GError (List SrmFileStatus)) {outcome : Except GError Unit}
      (haccepted : outcome = .ok () ↔ PutDoneAccepted answer) :
      PutDoneRecord surl token [.context .putDone surl true, .putDone path token answer] outcome

/-- What the transfer of a copy comes to. -/
inductive TransferRecord (dest token : CString) : SrmHistory → Except GError Unit → Prop
  | untried (e : GError) : TransferRecord dest token [] (.error e)
  | failed (src dst : CString) (params : GfaltParams) (e e' : GError) :
      TransferRecord dest token [.copyFile src dst params (some e)] (.error e')
  | done (src dst : CString) (params : GfaltParams) (hsrm : ¬srmCheckUrl dest = true) :
      TransferRecord dest token [.copyFile src dst params none] (.ok ())
  | closed (src dst : CString) (params : GfaltParams) (hsrm : srmCheckUrl dest = true) {made : SrmHistory}
      {told outcome : Except GError Unit} (hmade : PutDoneRecord dest (some token) made told)
      (houtcome : outcome = .ok () ↔ told = .ok ()) :
      TransferRecord dest token (.copyFile src dst params none :: made) outcome

section Puts

variable {servers : SrmServers} {params : GfaltParams} {source dest : CString} {context left : Gfal2Context SrmWorld}

theorem gfalSrmPutdone_record {token : Option CString}
    (h : (gfalSrmPutdone servers surl token).run context = .ok (outcome, left)) :
    ∃ made, left.world.made = context.world.made ++ made ∧ PutDoneRecord surl token made outcome := by
  rcases withEasyContext_eq_ok h with ⟨e, rfl, hmade⟩ | ⟨easy, entered, answer, final, -, hentered, hbody, hleft, hiff⟩
  · exact ⟨_, hmade, .missing e⟩
  · have hrecord : ∀ {told : Except GError (List SrmFileStatus)} {called : Gfal2Context SrmWorld},
        (easy.call (servers.putDone easy.path token) (.putDone easy.path token)) entered = .ok (told, called) →
        called.world.made = context.world.made ++ [.context .putDone surl true, .putDone easy.path token told] := by
      intro told called hcall
      obtain ⟨hsome, -, hcalled⟩ := call_eq_ok hcall
      rw [hcalled, hentered, hsome, List.append_assoc]
      rfl
    rcases run_bind_eq_ok hbody with ⟨e, hthrown, rfl⟩ | ⟨statuses, called, hcall, hrest⟩
    · refine ⟨_, by rw [hleft, hrecord hthrown], .told easy.path (.error e) ?_⟩
      rw [hiff ()]
      exact iff_of_false (fun heq => by cases heq) id
    · refine ⟨[.context .putDone surl true, .putDone easy.path token (.ok statuses)], ?_, .told easy.path (.ok statuses) ?_⟩
      · rw [hleft, ← hrecord hcall]
        cases hstatuses : convertFilestatusesToGError statuses with
        | some e =>
            rw [hstatuses] at hrest
            cases hrest
            rfl
        | none =>
            rw [hstatuses] at hrest
            cases hrest
            rfl
      · rw [hiff ()]
        change _ ↔ convertFilestatusesToGError statuses = none
        cases hstatuses : convertFilestatusesToGError statuses with
        | some e =>
            rw [hstatuses] at hrest
            cases hrest
            exact iff_of_false (fun heq => by cases heq) fun heq => by cases heq
        | none =>
            rw [hstatuses] at hrest
            cases hrest
            exact iff_of_true rfl rfl

/-- A call between the points where it can be cancelled fails, or does what its body does. -/
theorem inCancelScope_eq_ok {α : Type} {body : SrmThrowing α} {outcome : Except GError α}
    (h : (inCancelScope body).run context = .ok (outcome, left)) :
    (∃ e, outcome = .error e ∧ left.world.made = context.world.made) ∨
      ∃ entered ended, entered.world.made = context.world.made ∧ body.run entered = .ok (outcome, ended) ∧
        left.world.made = ended.world.made := by
  obtain ⟨started, entered, hstart, h⟩ := bind_eq_ok.mp h
  have hentered : entered.world.made = context.world.made := Avoids.made_eq (Stays.startScope _ _ _ hstart)
  rcases started with ⟨val, _ | e⟩
  · obtain ⟨answer, ended, hbody, h⟩ := bind_eq_ok.mp h
    cases h
    exact .inr ⟨entered, ended, hentered, hbody, rfl⟩
  · cases h
    exact .inl ⟨e, rfl, hentered⟩

theorem transfer_record {turlSource turlDestination : CString}
    (h : (copyBetweenTurls.transfer servers params dest turlSource turlDestination token).run context = .ok (outcome, left)) :
    ∃ made, left.world.made = context.world.made ++ made ∧ TransferRecord dest token made outcome := by
  rcases run_bind_eq_ok h with ⟨e, hthrown, rfl⟩ | ⟨_, told, hevent, h⟩
  · cases hthrown
  cases hevent
  rcases run_bind_eq_ok h with ⟨e, hthrown, rfl⟩ | ⟨_, asked, hcancel, h⟩
  · exact ⟨[], by rw [Avoids.made_eq (gfalSrmCheckCancel_stays _ _ _ hthrown), List.append_nil], .untried e⟩
  have hasked := Avoids.made_eq (gfalSrmCheckCancel_stays _ _ _ hcancel)
  have hcopy : ∀ {copied : Except GError Unit} {final : Gfal2Context SrmWorld},
      (inCancelScope (srmDoTransfer.copyFile servers turlSource turlDestination (turlParams params dest))).run asked =
        .ok (copied, final) →
      (∃ e, copied = .error e ∧ final.world.made = context.world.made) ∨
        ∃ failed, copied = outcomeOf failed ∧ final.world.made =
          context.world.made ++ [.copyFile turlSource turlDestination (turlParams params dest) failed] := by
    intro copied final hrun
    rcases inCancelScope_eq_ok hrun with ⟨e, rfl, hmade⟩ | ⟨entered, ended, hentered, hbody, hmade⟩
    · exact .inl ⟨e, rfl, by rw [hmade, hasked]⟩
    · cases hbody
      refine .inr ⟨_, rfl, ?_⟩
      rw [hmade]
      change entered.world.made ++ _ = _
      rw [hentered, hasked]
  rcases run_bind_eq_ok h with ⟨e, hthrown, rfl⟩ | ⟨_, copied, hcopied, h⟩
  · rcases hcopy hthrown with ⟨e', -, hmade⟩ | ⟨failed, heq, hmade⟩
    · exact ⟨[], by rw [hmade, List.append_nil], .untried e⟩
    · cases failed with
      | none => cases heq
      | some e' => exact ⟨_, hmade, .failed _ _ _ e' e⟩
  have hmade : copied.world.made =
      context.world.made ++ [.copyFile turlSource turlDestination (turlParams params dest) none] := by
    rcases hcopy hcopied with ⟨e, heq, -⟩ | ⟨failed, heq, hmade⟩
    · cases heq
    · cases failed with
      | none => exact hmade
      | some e => cases heq
  rcases run_bind_eq_ok h with ⟨e, hthrown, rfl⟩ | ⟨_, told, hevent, h⟩
  · cases hthrown
  cases hevent
  rcases run_bind_eq_ok h with ⟨e, hthrown, rfl⟩ | ⟨done, closed, hclosed, h⟩
  · obtain ⟨_, _, hclose, heq⟩ := bind_eq_ok.mp hthrown
    cases heq
  obtain ⟨done', closed', hclose, heq⟩ := bind_eq_ok.mp hclosed
  cases heq
  rcases run_bind_eq_ok h with ⟨e, hthrown, rfl⟩ | ⟨_, told, hevent, h⟩
  · cases hthrown
  cases hevent
  unfold srmDoTransfer.closeDestination at hclose
  split at hclose
  case isFalse hsrm =>
      cases hclose
      cases h
      exact ⟨_, hmade, .done _ _ _ hsrm⟩
  case isTrue hsrm =>
      obtain ⟨put, closing, hput, hclose⟩ := bind_eq_ok.mp hclose
      have hfinal : left.world.made = closing.world.made ∧ (outcome = .ok () ↔ put = .ok ()) := by
        cases put with
        | ok _ =>
            cases hclose
            cases h
            exact ⟨rfl, iff_of_true rfl rfl⟩
        | error e =>
            cases hclose
            cases h
            exact ⟨rfl, iff_of_false (fun heq => by cases heq) fun heq => by cases heq⟩
      rcases run_catch_eq_ok hput with ⟨value, hvalue, rfl⟩ | ⟨e, thrown, hthrown, hhandled⟩
      · obtain ⟨made, hadded, hrecord⟩ := gfalSrmPutdone_record hvalue
        refine ⟨_, ?_, .closed turlSource turlDestination (turlParams params dest) hsrm hrecord hfinal.2⟩
        rw [hfinal.1, hadded]
        change copied.world.made ++ made = _
        rw [hmade, List.append_assoc]
        rfl
      · cases hhandled
        obtain ⟨made, hadded, hrecord⟩ := gfalSrmPutdone_record hthrown
        refine ⟨_, ?_, .closed turlSource turlDestination (turlParams params dest) hsrm hrecord (hfinal.2.trans (iff_of_false (fun heq => ?_) fun heq => ?_))⟩
        · rw [hfinal.1, hadded]
          change copied.world.made ++ made = _
          rw [hmade, List.append_assoc]
          rfl
        · cases heq
        · cases heq

/-- What is granted for writing before the clean-up, and what the clean-up finds. -/
inductive PutsOpened (dest : CString) : SrmHistory → CopyEnd → Prop
  | nothing {done : CopyEnd} (htoken : done.tokenDestination = []) : PutsOpened dest [] done
  | rejected {request : SrmExchange} {grant : SrmGrant} {done : CopyEnd} (hgrant : request.grant .put = some grant)
      (hinvalid : ¬grant.Valid) (htoken : done.tokenDestination = []) : PutsOpened dest [request] done
  | granted {request : SrmExchange} {grant : SrmGrant} {done : CopyEnd} {made : SrmHistory} {outcome : Except GError Unit}
      (hgrant : request.grant .put = some grant) (hkept : grant.Kept) (hsrm : srmCheckUrl dest = true)
      (htoken : done.tokenDestination = (grant.answer.token.getD []).take 2047)
      (htransfer : TransferRecord dest done.tokenDestination made outcome)
      (hfinished : done.transferFinished = true ↔ outcome = .ok ())
      (herror : done.transferFinished = false → done.error.isSome = true) :
      PutsOpened dest (request :: made.filter (·.tracked .put)) done

theorem not_tracked_put (hgrant : request.grant .put = none) (hfinishes : request.finishes .put = none)
    (hgives : request.givesUp .put = false) : ¬request.tracked .put = true := by
  simp [SrmExchange.tracked, SrmExchange.entry, hgrant, hfinishes, hgives]

/-- A destination that is no SRM URL is granted by none. -/
theorem srmResolvePutTurl_puts {size : Int} {outcome : Except GError (CString × CString)}
    (h : (srmResolvePutTurl servers params dest source size).run context = .ok (outcome, left)) :
    (¬srmCheckUrl dest = true ∧ SrmTracks .put context left [] ∧ outcome = .ok (dest.take 2047, [])) ∨
      srmCheckUrl dest = true ∧ ∃ kept, SrmTracks .put context left kept ∧ Granting .put ClaimsToken kept outcome := by
  unfold srmResolvePutTurl at h
  split at h
  case isFalse hsrm =>
      cases h
      exact .inl ⟨hsrm, .refl _, rfl⟩
  case isTrue hsrm =>
      refine .inr ⟨hsrm, ?_⟩
      have hprepare : SrmAvoids (fun request => request.tracked .put = true) (srmPluginPrepareDestPut servers params dest).run :=
        srmPluginPrepareDestPut_stays (spares_tracked .put) servers dest fun _ => not_tracked_put rfl rfl rfl
      rcases run_bind_eq_ok h with ⟨e, hthrown, rfl⟩ | ⟨_, ready, hready, h⟩
      · exact ⟨[], .nothing (hprepare _ _ _ hthrown), .nothing e⟩
      · obtain ⟨kept, htracks, hgranting⟩ := resolve_granting rd3Turl_granting h
        exact ⟨kept, (SrmTracks.nothing (hprepare _ _ _ hready)).trans htracks, hgranting⟩

/-- What a copy has been granted for its destination when it comes to its clean-up, and what came of the transfer. -/
theorem CopyRun.puts (h : CopyRun servers params source dest context done left) :
    ∃ opens, SrmTracks .put context left opens ∧ PutsOpened dest opens done := by
  have hchecked : ∀ {cfg outcome checked}, (copyChecked.sourceChecksum servers cfg source).run context = .ok (outcome, checked) →
      SrmTracks .put context checked [] := fun h =>
    .nothing (sourceChecksum_stays (spares_tracked .put) servers (fun _ _ _ => not_tracked_put rfl rfl rfl) _ _ _ _ _ h)
  have hresolved : ∀ {outcome checked resolved}, (copyResolved.resolveSource servers source dest).run checked = .ok (outcome, resolved) →
      SrmTracks .put checked resolved [] := fun h =>
    .nothing (resolveSource_stays (spares_tracked .put) servers _ _ (fun _ _ _ => not_tracked_put rfl rfl rfl) _ _ _ h)
  have htarget : ∀ {cfg checksumSource outcome closed final},
      (copyBetweenTurls.checkTarget servers cfg dest checksumSource).run closed = .ok (outcome, final) →
      SrmTracks .put closed final [] := fun h =>
    .nothing (checkTarget_stays (spares_tracked .put) servers (fun _ _ _ => not_tracked_put rfl rfl rfl) _ _ _ _ _ _ h)
  have htransferred : ∀ (done : CopyEnd) {turlSource turlDestination token size outcome resolved granted closed},
      (srmResolvePutTurl servers params dest source size).run resolved = .ok (.ok (turlDestination, token), granted) →
      (copyBetweenTurls.transfer servers params dest turlSource turlDestination token).run granted = .ok (outcome, closed) →
      done.tokenDestination = token → (done.transferFinished = true ↔ outcome = .ok ()) →
      (done.transferFinished = false → done.error.isSome = true) →
      ∃ opens, SrmTracks .put resolved closed opens ∧ PutsOpened dest opens done := by
    rintro done turlSource turlDestination token size outcome resolved granted closed hput htransfer rfl hfinished herror
    obtain ⟨made, hmade, hrecord⟩ := transfer_record htransfer
    rcases srmResolvePutTurl_puts hput with ⟨hsrm, htracks, heq⟩ | ⟨hsrm, kept, htracks, hgranting⟩
    · have hnothing : made.filter (·.tracked .put) = [] := by
        cases hrecord with
        | untried => rfl
        | failed => rfl
        | done => rfl
        | closed _ _ _ hsrm' => exact absurd hsrm' hsrm
      simp only [Except.ok.injEq, Prod.mk.injEq] at heq
      have hclosed := htracks.trans (.of_made hmade)
      rw [hnothing] at hclosed
      exact ⟨_, hclosed, .nothing heq.2⟩
    · cases hgranting with
      | granted hgrant hkept hclaims =>
          exact ⟨_, htracks.trans (.of_made hmade), .granted hgrant hkept hsrm hclaims hrecord hfinished herror⟩
  cases h with
  | misconfigured e => exact ⟨[], .refl _, .nothing rfl⟩
  | unchecked hchecksum => exact ⟨_, hchecked hchecksum, .nothing rfl⟩
  | unresolved hchecksum hsource => exact ⟨_, (hchecked hchecksum).trans (hresolved hsource), .nothing rfl⟩
  | refused hchecksum hsource hput =>
      have hbefore := (hchecked hchecksum).trans (hresolved hsource)
      rcases srmResolvePutTurl_puts hput with ⟨-, -, heq⟩ | ⟨-, kept, htracks, hgranting⟩
      · cases heq
      · refine ⟨_, hbefore.trans htracks, ?_⟩
        cases hgranting with
        | nothing => exact .nothing rfl
        | rejected _ hgrant hinvalid => exact .rejected hgrant hinvalid rfl
  | @untransferred _ _ _ tokenSource _ tokenDestination _ e _ _ _ _ hchecksum hsource hput htransfer =>
      obtain ⟨opens, htracks, hopened⟩ := htransferred ⟨tokenSource, tokenDestination, false, some e⟩ hput htransfer rfl
        (iff_of_false (fun heq => by cases heq) fun heq => by cases heq) fun _ => rfl
      exact ⟨_, ((hchecked hchecksum).trans (hresolved hsource)).trans htracks, hopened⟩
  | @transferred _ _ _ tokenSource _ tokenDestination _ outcome _ _ _ _ _ hchecksum hsource hput htransfer htarget' =>
      obtain ⟨opens, htracks, hopened⟩ := htransferred ⟨tokenSource, tokenDestination, true, errorOf outcome⟩ hput htransfer rfl
        (iff_of_true rfl rfl) fun heq => by cases heq
      refine ⟨_, ((hchecked hchecksum).trans (hresolved hsource)).trans (htracks.trans (htarget htarget')), ?_⟩
      simp only [List.append_nil, List.nil_append]
      exact hopened

inductive PutAborted (surl token : CString) : SrmHistory → Prop
  | missing : PutAborted surl token [.context .abort surl false]
  | aborted : PutAborted surl token [.context .abort surl true, .abortRequest token]

theorem srmAbortRequestPlugin_record (h : (srmAbortRequestPlugin servers surl token).run context = .ok (outcome, left)) :
    ∃ made, left.world.made = context.world.made ++ made ∧ PutAborted surl token made := by
  rcases withEasyContext_eq_ok h with ⟨e, -, hmade⟩ | ⟨easy, entered, answer, final, -, hentered, hbody, hleft, -⟩
  · exact ⟨_, hmade, .missing⟩
  · obtain ⟨hsome, -, hcalled⟩ := call_eq_ok hbody
    refine ⟨_, ?_, .aborted⟩
    rw [hleft, hcalled, hentered, hsome, List.append_assoc]
    rfl

/-- A granted destination is given up if its token was kept and its transfer is not finished. -/
theorem srmCleanupCopy_puts {final : Gfal2Context SrmWorld}
    (hdest : done.tokenDestination = [] ∨ srmCheckUrl dest = true ∧ (done.transferFinished = false → done.error.isSome = true))
    (h : srmCleanupCopy servers source dest done left = .ok ((), final)) :
    ∃ closing, SrmTracks .put left final closing ∧
      ((done.tokenDestination = [] ∨ done.transferFinished = true) ∧ closing = [] ∨
        done.tokenDestination ≠ [] ∧ done.transferFinished = false ∧ PutAborted dest done.tokenDestination closing) := by
  obtain ⟨_, rolled, hrolled, h⟩ := bind_eq_ok.mp h
  have hrelease : SrmTracks .put rolled final [] := by
    split at h
    · refine .nothing ((Stays.bind ?_ fun _ => Stays.pure _ : SrmAvoids _ (srmReleaseGet servers source done.tokenSource))
        _ _ _ h)
      exact gfalSrmv2ReleaseFileG_stays servers _ _ (not_tracked_put rfl rfl rfl) fun _ => not_tracked_put rfl rfl rfl
    · cases h
      exact .refl _
  have hunlink : SrmAvoids (fun request => request.tracked .put = true) (gfalSrmUnlinkG servers dest) :=
    gfalSrmUnlinkG_stays (spares_tracked .put) servers dest (not_tracked_put rfl rfl rfl)
  suffices hrollback : ∃ closing, SrmTracks .put left rolled closing ∧
      ((done.tokenDestination = [] ∨ done.transferFinished = true) ∧ closing = [] ∨
        done.tokenDestination ≠ [] ∧ done.transferFinished = false ∧ PutAborted dest done.tokenDestination closing) by
    obtain ⟨closing, htracks, hclosing⟩ := hrollback
    refine ⟨closing, ?_, hclosing⟩
    rw [← List.append_nil closing]
    exact htracks.trans hrelease
  by_cases hkept : done.tokenDestination = [] ∨ done.transferFinished = true
  · -- nothing is aborted, whatever is removed
    refine ⟨[], SrmTracks.nothing (rollback_stays (spares_tracked .put) servers dest done (not_tracked_put rfl rfl rfl)
      (not_tracked_put rfl rfl rfl) (fun hunfinished hsome => ?_) _ _ _ hrolled), .inl ⟨hkept, rfl⟩⟩
    rcases hkept with hnone | hfinished
    · exact absurd hnone hsome
    · exact Bool.noConfusion (hunfinished.symm.trans hfinished)
  · obtain ⟨hsome, hfinished⟩ := not_or.mp hkept
    rw [Bool.not_eq_true] at hfinished
    obtain ⟨hsrm, herror⟩ := hdest.resolve_left hsome
    obtain ⟨e, he⟩ := Option.isSome_iff_exists.mp (herror hfinished)
    rw [he] at hrolled
    change srmRollbackPut servers e dest done.tokenDestination done.transferFinished left = _ at hrolled
    rw [srmRollbackPut, if_neg (by simp [hfinished, hsrm]), if_pos ⟨by simp [hfinished], hsome⟩] at hrolled
    obtain ⟨aborted, middle, habort, hunlinked⟩ := bind_eq_ok.mp hrolled
    obtain ⟨made, hmade, haborted⟩ := srmAbortRequestPlugin_record habort
    have hfilter : made.filter (·.tracked .put) = made := by
      cases haborted with
      | missing => rfl
      | aborted => rfl
    have hforce : SrmAvoids (fun request => request.tracked .put = true) (srmForceUnlink servers dest) :=
      hunlink.bind fun _ => Stays.pure _
    have htracks := (SrmTracks.of_made hmade).trans (.nothing (hforce _ _ _ hunlinked))
    rw [hfilter, List.append_nil] at htracks
    exact ⟨made, htracks, .inr ⟨hsome, hfinished, haborted⟩⟩

end Puts

/-- A request to write under the token is finished once: a context can be had to abort it if nothing is said of the file,
and not if what is said of it is not accepted. -/
structure FinishesOnce (made : SrmHistory) (token : CString) : Prop where
  told : ∀ path other answer, SrmExchange.putDone path other answer ∈ made →
    PutDoneAccepted answer ∨ token = [] ∨ ∃ surl, SrmExchange.context .abort surl false ∈ made
  aborted : (∀ path other answer, SrmExchange.putDone path other answer ∉ made) →
    token ≠ [] ∧ ∀ surl, SrmExchange.context .abort surl false ∉ made

/-- What is granted for writing keeps its token and is finished once under it. -/
def PutsFinish (made : SrmHistory) : Prop :=
  ∀ request ∈ made, ∀ grant, request.grant .put = some grant →
    grant.Kept ∧ ∃ token, grant.answer.token = some token ∧ token.length < 2048 ∧ FinishesOnce made token

theorem mem_filter_put {made : SrmHistory} (htracked : request.tracked .put = true) :
    request ∈ made.filter (·.tracked .put) ↔ request ∈ made := by
  rw [List.mem_filter]
  exact and_iff_left htracked

theorem finishesOnce_filter (made : SrmHistory) (token : CString) :
    FinishesOnce (made.filter (·.tracked .put)) token ↔ FinishesOnce made token := by
  have hdone : ∀ path other answer, SrmExchange.putDone path other answer ∈ made.filter (·.tracked .put) ↔
      SrmExchange.putDone path other answer ∈ made := fun _ _ _ => mem_filter_put rfl
  have hcontext : ∀ surl, SrmExchange.context .abort surl false ∈ made.filter (·.tracked .put) ↔
      SrmExchange.context .abort surl false ∈ made := fun _ => mem_filter_put rfl
  constructor
  · rintro ⟨htold, haborted⟩
    simp only [hdone, hcontext] at htold haborted
    exact ⟨htold, haborted⟩
  · rintro ⟨htold, haborted⟩
    constructor
    · simpa only [hdone, hcontext] using htold
    · simpa only [hdone, hcontext] using haborted

theorem putsFinish_filter (made : SrmHistory) : PutsFinish (made.filter (·.tracked .put)) ↔ PutsFinish made := by
  have hgrant : ∀ {request : SrmExchange} {grant}, request.grant .put = some grant → request.tracked .put = true := by
    intro request grant h
    simp [SrmExchange.tracked, SrmExchange.entry, h]
  unfold PutsFinish
  simp only [finishesOnce_filter]
  constructor
  · exact fun h request hmem grant hgranted => h request ((mem_filter_put (hgrant hgranted)).mpr hmem) grant hgranted
  · exact fun h request hmem => h request (List.mem_of_mem_filter hmem)

/-- What the transfer adds to what counts. -/
theorem TransferRecord.filter {dest : CString} {made : SrmHistory}
    (h : TransferRecord dest token made outcome) (hsrm : srmCheckUrl dest = true) :
    (made.filter (·.tracked .put) = [] ∧ outcome ≠ .ok ()) ∨
      ∃ path answer, made.filter (·.tracked .put) = [.putDone path (some token) answer] ∧ (outcome = .ok () ↔ PutDoneAccepted answer) := by
  cases h with
  | untried e => exact .inl ⟨rfl, fun heq => by cases heq⟩
  | failed _ _ _ e e' => exact .inl ⟨rfl, fun heq => by cases heq⟩
  | done _ _ _ hnot => exact absurd hsrm hnot
  | closed _ _ _ _ hmade houtcome =>
      cases hmade with
      | missing e => exact .inl ⟨rfl, fun heq => by cases houtcome.mp heq⟩
      | told path answer haccepted => exact .inr ⟨path, answer, rfl, houtcome.trans haccepted⟩

/-- What is granted for writing and given up by the clean-up leaves nothing open just when it finishes. -/
theorem settle_puts_iff {closing : SrmHistory} {dest : CString} (hopened : PutsOpened dest opens done)
    (hclosing : (done.tokenDestination = [] ∨ done.transferFinished = true) ∧ closing = [] ∨
      done.tokenDestination ≠ [] ∧ done.transferFinished = false ∧ PutAborted dest done.tokenDestination closing)
    (pending : Multiset (Option CString)) :
    settle pending ((opens ++ closing).filterMap (SrmExchange.entry .put)) = some pending ↔ PutsFinish (opens ++ closing) := by
  cases hopened with
  | nothing htoken =>
      obtain ⟨-, rfl⟩ := hclosing.resolve_right fun h => h.1 htoken
      exact iff_of_true rfl fun request hmem => by cases hmem
  | @rejected request grant _ hgrant hinvalid htoken =>
      obtain ⟨-, rfl⟩ := hclosing.resolve_right fun h => h.1 htoken
      refine iff_of_false ?_ fun h => hinvalid (h request (by simp) grant hgrant).1.2
      have hentries : ([request] ++ []).filterMap (SrmExchange.entry .put) =
          [grant.answer.token].map .opened ++ ([] : List (Option CString)).map .closed := by
        simp [SrmExchange.entry, hgrant]
      rw [hentries, settle_opened_closed_iff]
      simp
  | @granted request grant _ made outcome hgrant hkept hsrm htoken htransfer hfinished herror =>
      -- what closes the request: what is said of the file, and its abort
      obtain ⟨told, hmade, htold⟩ : ∃ told : List SrmExchange, made.filter (·.tracked .put) = told ∧
          (told = [] ∧ outcome ≠ .ok () ∨ ∃ path answer, told = [.putDone path (some done.tokenDestination) answer] ∧
            (outcome = .ok () ↔ PutDoneAccepted answer)) := ⟨_, rfl, htransfer.filter hsrm⟩
      rw [hmade]
      have htoken' : grant.answer.token = some done.tokenDestination ↔
          ∃ token, grant.answer.token = some token ∧ token.length < 2048 ∧ token = done.tokenDestination := by
        constructor
        · intro h
          refine ⟨_, h, ?_, rfl⟩
          rw [htoken, List.length_take]
          omega
        · rintro ⟨token, h, -, rfl⟩
          exact h
      have hfits : ∀ {token}, grant.answer.token = some token → token.length < 2048 → token = done.tokenDestination := by
        intro token h hshort
        rw [htoken, h, Option.getD_some, List.take_of_length_le (by omega)]
      have hfinish : PutsFinish (request :: told ++ closing) ↔
          grant.answer.token = some done.tokenDestination ∧ FinishesOnce (request :: told ++ closing) done.tokenDestination := by
        have honly : ∀ other ∈ told ++ closing, other.grant .put = none := by
          intro other hmem
          rcases List.mem_append.mp hmem with hmem | hmem
          · rcases htold with ⟨rfl, -⟩ | ⟨path, answer, rfl, -⟩
            · cases hmem
            · cases List.mem_singleton.mp hmem
              rfl
          · rcases hclosing with ⟨-, rfl⟩ | ⟨-, -, haborted⟩
            · cases hmem
            · cases haborted with
              | missing =>
                  cases List.mem_singleton.mp hmem
                  rfl
              | aborted =>
                  simp only [List.mem_cons, List.not_mem_nil, or_false] at hmem
                  rcases hmem with rfl | rfl
                  · rfl
                  · rfl
        constructor
        · intro h
          obtain ⟨-, token, hsome, hshort, honce⟩ := h request (by simp) grant hgrant
          cases hfits hsome hshort
          exact ⟨hsome, honce⟩
        · rintro ⟨hsome, honce⟩ other hmem other' hother
          rcases List.mem_cons.mp hmem with rfl | hmem
          · cases hgrant.symm.trans hother
            obtain ⟨token, hsome', hshort, rfl⟩ := htoken'.mp hsome
            exact ⟨hkept, _, hsome, hshort, honce⟩
          · rw [honly other hmem] at hother
            cases hother
      have hnotMem : ∀ {path other answer}, SrmExchange.putDone path other answer ≠ request := by
        rintro path other answer rfl
        cases hgrant
      have hcontext : ∀ {surl available}, SrmExchange.context .abort surl available ≠ request := by
        rintro surl available rfl
        cases hgrant
      have hentries : ∀ closed : List (Option CString),
          (told ++ closing).filterMap (SrmExchange.entry .put) = closed.map .closed →
          (settle pending ((request :: told ++ closing).filterMap (SrmExchange.entry .put)) = some pending ↔
            [grant.answer.token].Perm closed) := by
        intro closed hclosed
        have hcons : (request :: told ++ closing).filterMap (SrmExchange.entry .put) =
            [grant.answer.token].map .opened ++ closed.map .closed := by
          rw [← hclosed, List.cons_append, List.filterMap_cons]
          simp [SrmExchange.entry, hgrant]
        rw [hcons, settle_opened_closed_iff]
      rw [hfinish]
      rcases htold with ⟨rfl, hfailed⟩ | ⟨path, answer, rfl, haccepted⟩
      · have huntold : ∀ path other answer, SrmExchange.putDone path other answer ∉ request :: closing := by
          intro path other answer hmem
          rcases List.mem_cons.mp hmem with heq | hmem
          · exact hnotMem heq
          · rcases hclosing with ⟨-, rfl⟩ | ⟨-, -, haborted⟩
            · cases hmem
            · cases haborted <;> simp at hmem
        rcases hclosing with ⟨hnone, rfl⟩ | ⟨hsome, hunfinished, haborted⟩
        · rw [hentries [] rfl]
          refine iff_of_false (by simp) fun h => ?_
          rcases hnone with hnone | hdone
          · exact (h.2.aborted huntold).1 hnone
          · exact hfailed (hfinished.mp hdone)
        · cases haborted with
          | missing =>
              rw [hentries [] rfl]
              exact iff_of_false (by simp) fun h => (h.2.aborted huntold).2 dest (by simp)
          | aborted =>
              rw [hentries [some done.tokenDestination] rfl, List.perm_singleton, List.singleton_inj]
              refine (and_iff_left ⟨fun path other answer hmem => absurd hmem (huntold path other answer), fun _ => ⟨hsome, ?_⟩⟩).symm
              simp [hcontext]
      · have hmem : ∀ closing, SrmExchange.putDone path (some done.tokenDestination) answer ∈
            request :: [SrmExchange.putDone path (some done.tokenDestination) answer] ++ closing := by simp
        have honly : ∀ {path' other answer'}, SrmExchange.putDone path' other answer' ∈
            request :: [SrmExchange.putDone path (some done.tokenDestination) answer] ++ closing → answer' = answer := by
          intro path' other answer' hmem
          rcases List.mem_cons.mp hmem with heq | hmem
          · exact absurd heq hnotMem
          · rcases List.mem_cons.mp hmem with heq | hmem
            · cases heq
              rfl
            · rcases hclosing with ⟨-, rfl⟩ | ⟨-, -, haborted⟩
              · cases hmem
              · cases haborted <;> simp at hmem
        rcases hclosing with ⟨hnone, rfl⟩ | ⟨hsome, hunfinished, haborted⟩
        · rw [hentries [some done.tokenDestination] rfl, List.perm_singleton, List.singleton_inj]
          refine (and_iff_left ⟨fun path' other answer' h => ?_, fun huntold => absurd (hmem []) (huntold _ _ _)⟩).symm
          cases honly h
          rcases hnone with hnone | hdone
          · exact .inr (.inl hnone)
          · exact .inl (haccepted.mp (hfinished.mp hdone))
        · cases haborted with
          | missing =>
              rw [hentries [some done.tokenDestination] rfl, List.perm_singleton, List.singleton_inj]
              refine (and_iff_left ⟨fun path' other answer' h => ?_, fun huntold => absurd (hmem _) (huntold _ _ _)⟩).symm
              exact .inr (.inr ⟨dest, by simp⟩)
          | aborted =>
              rw [hentries [some done.tokenDestination, some done.tokenDestination] rfl]
              refine iff_of_false (fun hperm => by simpa using hperm.length_eq) fun h => ?_
              rcases h.2.told path _ answer (hmem _) with hok | hnone | ⟨surl, hmissing⟩
              · have hdone := hfinished.mpr (haccepted.mpr hok)
                exact Bool.noConfusion (hunfinished.symm.trans hdone)
              · exact hsome hnone
              · simp [hcontext] at hmissing

end Gfal2
