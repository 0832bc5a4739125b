import Gfal2.HttpFallback

/-! What an HTTP copy removes. A request to remove a file that is not made has no part in the run, whatever it
would do: so the runs with one removal and with another are compared. -/

namespace Gfal2

open Base Exec

variable {σ : Type}

/-- Davix, with another answer to the requests to remove a file. -/
def Davix.removingBy (davix : Davix σ) (unlink : CString → Callback σ (Option DavixError)) : Davix σ :=
  { davix with unlink := unlink }

/-- The file is there in every world: its `stat` may fail, but not for want of a file. -/
def Davix.Finds (davix : Davix σ) (url : CString) : Prop :=
  ∀ world e, (davix.stat (strip3rdFromUrl url gfalUrlMaxLen) world).1 = some e → davix2errno e.status ≠ ENOENT

/-- No copy with these parameters makes a request to remove a destination that is there, whatever Davix, the
plugins, the configuration and the listeners of the context are and whichever requests fail. -/
def SparesDestination (params : GfaltParams) : Prop :=
  ∀ (σ : Type) (davix : Davix σ) (unlink : CString → Callback σ (Option DavixError)) (dstBuffer : CString)
    (fuel : Nat) (srcFull dstFull : CString) (context : Gfal2Context σ),
    davix.Finds (strip3rdFromUrl dstFull gfalUrlMaxLen) →
      gfalHttpCopyRecorded (davix.removingBy unlink) dstBuffer fuel params srcFull dstFull context =
        gfalHttpCopyRecorded davix dstBuffer fuel params srcFull dstFull context

section Spared

variable (davix : Davix σ) (unlink : CString → Callback σ (Option DavixError)) {params : GfaltParams}
  (src dst : CString)

/-! ### Where the destination is looked after -/

theorem overwrite_removingBy (hreplace : params.replaceExisting = false) :
    gfalHttpCopyOverwrite (davix.removingBy unlink) params dst = gfalHttpCopyOverwrite davix params dst := by
  unfold gfalHttpCopyOverwrite
  rw [hreplace]
  rfl

theorem httpPrepareDestination_removingBy (hreplace : params.replaceExisting = false) :
    httpPrepareDestination (davix.removingBy unlink) params dst = httpPrepareDestination davix params dst := by
  unfold httpPrepareDestination
  rw [overwrite_removingBy davix unlink dst hreplace]
  rfl

/-- An existing destination is an error of a copy that must not replace it. -/
theorem overwrite_of_finds (hreplace : params.replaceExisting = false) (hfinds : davix.Finds dst)
    {context context' : Gfal2Context σ} {ret : Ret Int}
    (h : gfalHttpCopyOverwrite davix params dst context = .ok (ret, context')) : ret.val ≠ 0 := by
  obtain ⟨existing, known, hexists, hrest⟩ := bind_eq_ok.mp h
  have hval : existing.val ≠ 0 := by
    obtain ⟨access, asked, haccess, hanswer⟩ := bind_eq_ok.mp hexists
    obtain ⟨daverr, stated, hstat, hreturn⟩ := bind_eq_ok.mp haccess
    cases hstat
    cases herr : (davix.stat (strip3rdFromUrl dst gfalUrlMaxLen) context.world).1 with
    | none =>
        rw [herr] at hreturn
        cases hreturn
        cases hanswer
        decide
    | some e =>
        rw [herr] at hreturn
        cases hreturn
        have hcode : davix2errno e.status ≠ ENOENT := hfinds context.world e herr
        rw [if_neg (by simp)] at hanswer
        change (pure (if (davix2gliberr e).code = ENOENT then _ else _) : Gfal σ (Ret Int)) _ = _ at hanswer
        rw [if_neg (by exact hcode)] at hanswer
        cases hanswer
        simp
  by_cases hpositive : existing.val > 0
  · rw [if_pos hpositive, hreplace, if_pos (by decide)] at hrest
    cases hrest
    decide
  · rw [if_neg hpositive, if_pos (by omega)] at hrest
    cases hrest
    simp

theorem httpPrepareDestination_of_finds (hstrict : params.strictMode = false) (hreplace : params.replaceExisting = false)
    (hfinds : davix.Finds dst) {context context' : Gfal2Context σ} {ret : Ret Int}
    (h : httpPrepareDestination davix params dst context = .ok (ret, context')) : ret.val ≠ 0 := by
  rw [httpPrepareDestination, if_neg (by simp [hstrict])] at h
  obtain ⟨overwritten, known, hoverwrite, hrest⟩ := bind_eq_ok.mp h
  rw [if_pos (overwrite_of_finds davix dst hreplace hfinds hoverwrite)] at hrest
  cases hrest
  simp

/-! ### Where failed transfers are not cleaned -/

theorem finishPass_removingBy (hcleanup : params.transferCleanup = false) (p : CopyProgress) :
    finishPass (davix.removingBy unlink) params dst p = finishPass davix params dst p := by
  unfold finishPass
  rw [hcleanup]
  rfl

theorem copyPass_removingBy (hcleanup : params.transferCleanup = false) (fuel : Nat) (m : HttpCopyMode) (p : CopyProgress) :
    copyPass (davix.removingBy unlink) fuel params src dst m p = copyPass davix fuel params src dst m p := by
  unfold copyPass
  simp only [finishPass_removingBy davix unlink dst hcleanup]
  rfl

theorem copyLoop_removingBy (hcleanup : params.transferCleanup = false) (fuel : Nat) (m : HttpCopyMode) (p : CopyProgress) :
    copyLoop (davix.removingBy unlink) fuel params src dst m p = copyLoop davix fuel params src dst m p := by
  rw [copyLoop, copyLoop, copyPass_removingBy davix unlink src dst hcleanup]
  congr 1
  funext passed
  by_cases hleft : passed.2 = true
  · simp only [hleft, if_true]
  · simp only [hleft]
    congr 1
    funext context
    by_cases hnext : m.next.atEnd = false
    · simp only [hnext]
      have ih := copyLoop_removingBy hcleanup fuel m.next { passed.1 with attemptedMode := passed.1.attemptedMode ++ [m.str] }
      simp only [ih]
      rfl
    · simp only [hnext]
      rfl
termination_by m.remaining
decreasing_by exact HttpCopyMode.remaining_next hnext

/-! ### The copy -/

theorem tryModes_removingBy (hcleanup : params.transferCleanup = false) (fuel : Nat) (srcFull dstFull : CString) :
    tryModes (davix.removingBy unlink) fuel params srcFull dstFull src dst =
      tryModes davix fuel params srcFull dstFull src dst := by
  unfold tryModes
  simp only [copyLoop_removingBy davix unlink src dst hcleanup]
  rfl

/-- A copy that looks after its destination stops before the modes are tried, and one that does not clean up
never removes. -/
theorem sparesDestination_of_guarded (hreplace : params.replaceExisting = false)
    (hguarded : params.strictMode = false ∨ params.transferCleanup = false) : SparesDestination params := by
  intro σ davix unlink dstBuffer fuel srcFull dstFull context hfinds
  unfold gfalHttpCopyRecorded httpCopyStripped
  rw [httpPrepareDestination_removingBy davix unlink _ hreplace]
  refine bind_congr_of_ok fun _ entered _ => bind_congr_of_ok fun checked prepared _ => ?_
  by_cases hsource : checked.1.err.isSome = true
  · simp only [hsource, if_true]
  · simp only [hsource]
    refine bind_congr_of_ok fun made ready hmade => ?_
    rcases hguarded with hstrict | hcleanup
    · have hstops := httpPrepareDestination_of_finds davix _ hstrict hreplace hfinds hmade
      rw [if_pos hstops, if_pos hstops]
    · simp only [tryModes_removingBy davix unlink _ _ hcleanup]
      rfl

end Spared

/-! ### A destination that is cleaned away -/

/-- A Davix that refuses every copy, over a world that holds whether the destination is still there. -/
def refusingDavix (unlink : CString → Callback Bool (Option DavixError)) : Davix Bool where
  uri _ := none
  stat _ world := (none, world)
  unlink := unlink
  copy _ _ _ _ world := (.error ⟨.permissionRefused, []⟩, world)
  put _ _ _ world := (none, world)
  releaseFile _ world := (0, world)

def removeFile : CString → Callback Bool (Option DavixError) := fun _ _ => (none, false)

def leaveFile : CString → Callback Bool (Option DavixError) := fun _ world => (none, world)

/-- The variables of the loop after the one copy that was refused. -/
def refusedProgress : CopyProgress :=
  CopyProgress.after {} ⟨.pull, ⟨-1, some (davix2gliberr ⟨.permissionRefused, []⟩)⟩⟩

section Refused

/-- A clean-up makes the request to remove the destination. -/
theorem cleanup_requests (davix : Davix σ) (dst : CString) {err : GError} (hcode : err.code ≠ EEXIST)
    (context : Gfal2Context σ) : ∃ context', gfalHttpCopyCleanup davix dst err context = .ok ((), context') ∧
      context'.world = (davix.unlink (strip3rdFromUrl dst gfalUrlMaxLen) context.world).2 ∧
      context'.config = context.config := by
  have hunlink : ∃ removed, gfalHttpUnlinkG davix dst context = .ok (removed,
      { context with world := (davix.unlink (strip3rdFromUrl dst gfalUrlMaxLen) context.world).2 }) := by
    rw [gfalHttpUnlinkG, bind_of_ok (show requestDavix (davix.unlink _) context = .ok (_, _) from rfl)]
    cases (davix.unlink (strip3rdFromUrl dst gfalUrlMaxLen) context.world).1 <;> exact ⟨_, rfl⟩
  obtain ⟨removed, hunlink⟩ := hunlink
  rw [gfalHttpCopyCleanup, if_pos hcode, bind_of_ok hunlink]
  exact ⟨_, rfl, rfl, rfl⟩

variable (unlink : CString → Callback Bool (Option DavixError)) {params : GfaltParams} (src dst : CString)

/-- The first copy is refused, the destination is cleaned, and no other mode is tried. -/
theorem copyLoop_refused (hcleanup : params.transferCleanup = true) (context : Gfal2Context Bool) : ∃ p context',
    copyLoop (refusingDavix unlink) 0 params src dst ⟨.pull, false, true⟩ {} context = .ok (p, context') ∧
      p.ret = -1 ∧ p.nestedError = some (davix2gliberr ⟨.permissionRefused, []⟩) ∧
      context'.world = (unlink (strip3rdFromUrl dst gfalUrlMaxLen) context.world).2 := by
  obtain ⟨cleaned, hclean, hworld, -⟩ := cleanup_requests (refusingDavix unlink) dst
    (show (davix2gliberr ⟨.permissionRefused, []⟩).code ≠ EEXIST by decide)
    { context with events := context.events ++ [⟨httpPluginDomain, .none, lit "TRANSFER:TYPE", (lit "3rd pull").take 511⟩] }
  have hpass : copyPass (refusingDavix unlink) 0 params src dst ⟨.pull, false, true⟩ {} context =
      .ok ((refusedProgress, false), cleaned) := by
    change finishPass _ _ _ refusedProgress _ = _
    rw [finishPass, if_neg (by decide)]
    dsimp only [refusedProgress, CopyProgress.after]
    rw [hcleanup, if_pos rfl]
    exact (bind_of_ok hclean).trans rfl
  rw [copyLoop, bind_of_ok hpass]
  simp only [get_bind_apply, Bool.false_eq_true, if_false]
  refine ⟨{ refusedProgress with attemptedMode := [lit "3rd pull"] }, cleaned, ?_, rfl, rfl, hworld⟩
  by_cases hfallback : isHttp3rdcopyFallbackEnabled (refusingDavix unlink).uri cleaned.config src dst = true
  · rw [if_pos hfallback]
    rfl
  · rw [if_neg hfallback]
    rfl

end Refused

section Cleaned

variable (unlink : CString → Callback Bool (Option DavixError)) {params : GfaltParams}

theorem tryModes_refused (hcleanup : params.transferCleanup = true) (context : Gfal2Context Bool)
    (hconfig : context.config = {}) : ∃ p context',
    tryModes (refusingDavix unlink) 0 params (lit "https://a/f") (lit "https://b/g") (lit "https://a/f")
        (lit "https://b/g") context = .ok (p, context') ∧
      p.ret = -1 ∧ p.nestedError = some (davix2gliberr ⟨.permissionRefused, []⟩) ∧
      context'.world = (unlink (lit "https://b/g") context.world).2 := by
  have hmode : constructCopyMode (fun _ => none) context.config (lit "https://a/f") (lit "https://b/g") =
      (⟨.pull, false, true⟩, context.config) := by
    rw [hconfig, constructCopyMode_of_configured (by decide) (by decide)]
    exact Prod.ext (by decide) rfl
  have hdst : strip3rdFromUrl (lit "https://b/g") gfalUrlMaxLen = lit "https://b/g" := by decide
  obtain ⟨p, tried, hloop, hret, herr, hworld⟩ := copyLoop_refused unlink (lit "https://a/f") (lit "https://b/g") hcleanup
    { context with events := context.events ++
      [⟨httpPluginDomain, .none, lit "TRANSFER:ENTER", (lit "https://a/f" ++ lit " => " ++ lit "https://b/g").take 511⟩] }
  rw [hdst] at hworld
  refine ⟨p, tried, ?_, hret, herr, hworld⟩
  rw [tryModes, get_bind_apply]
  dsimp only [refusingDavix]
  rw [hmode]
  exact hloop

/-- A strict copy that cleans up makes its request to remove the destination, which is there. -/
theorem httpCopy_refused (hstrict : params.strictMode = true) (hcleanup : params.transferCleanup = true) :
    ∃ ret copied context', gfalHttpCopyRecorded (refusingDavix unlink) [] 0 params (lit "https://a/f")
        (lit "https://b/g") { world := true } = .ok ((ret, copied), context') ∧
      context'.world = (unlink (lit "https://b/g") true).2 := by
  have hsrc : strip3rdFromUrl (lit "https://a/f") gfalUrlMaxLen = lit "https://a/f" := by decide
  have hdst : strip3rdFromUrl (lit "https://b/g") gfalUrlMaxLen = lit "https://b/g" := by decide
  have hsettings : (copySettings params).1 = .none := by
    rw [copySettings_mode, requestedChecks, hstrict]
    rfl
  have hprepare : httpPrepareDestination (refusingDavix unlink) params (lit "https://b/g") = pure ⟨0, none⟩ := by
    rw [httpPrepareDestination, hstrict, if_pos rfl]
  rw [gfalHttpCopyRecorded, hsrc, hdst, httpCopyStripped, hprepare]
  simp only [hsettings]
  obtain ⟨p, tried, htry, hret, herr, hworld⟩ := tryModes_refused unlink hcleanup
    { world := true, events :=
      [⟨httpPluginDomain, .none, lit "PREPARE:ENTER", (lit "https://a/f" ++ lit " => " ++ lit "https://b/g").take 511⟩,
        ⟨httpPluginDomain, .none, lit "PREPARE:EXIT", (lit "https://a/f" ++ lit " => " ++ lit "https://b/g").take 511⟩] }
    rfl
  obtain ⟨e, told, hfinish, htold⟩ : ∃ e told, finishTransfer (lit "https://a/f") (lit "https://b/g") p tried =
      .ok (⟨-1, some e⟩, told) ∧ told.world = tried.world := by
    rw [finishTransfer, if_neg (by rw [hret]; decide), herr]
    exact ⟨_, _, rfl, rfl⟩
  refine ⟨⟨-1, some e⟩, ⟨p.attempts, {}⟩, told, ?_, htold.trans hworld⟩
  change (tryModes _ _ _ _ _ _ _ >>= _ : Gfal Bool _) _ = _
  exact (bind_of_ok htry).trans ((bind_of_ok hfinish).trans rfl)

end Cleaned

/-- A strict copy that cleans up after a failure does not spare its destination. -/
theorem not_sparesDestination {params : GfaltParams} (hstrict : params.strictMode = true)
    (hcleanup : params.transferCleanup = true) : ¬SparesDestination params := by
  intro hspares
  obtain ⟨ret, copied, kept, hkept, hworld⟩ := httpCopy_refused leaveFile hstrict hcleanup
  obtain ⟨ret', copied', removed, hremoved, hworld'⟩ := httpCopy_refused removeFile hstrict hcleanup
  have hsame := hspares Bool (refusingDavix leaveFile) removeFile [] 0 (lit "https://a/f") (lit "https://b/g") { world := true }
    (fun world e he => by cases he)
  have hrun := (hremoved.symm.trans hsame).trans hkept
  cases hrun
  exact absurd (hworld'.symm.trans hworld) (by decide)

/-- Copies that are not to replace their destination leave it alone exactly where they look after it first or
do not clean up. -/
theorem http_copy_spares_destination_iff (params : GfaltParams) (hreplace : params.replaceExisting = false) :
    SparesDestination params ↔ params.strictMode = false ∨ params.transferCleanup = false := by
  constructor
  · intro hspares
    by_contra hneither
    obtain ⟨hstrict, hcleanup⟩ := not_or.mp hneither
    exact not_sparesDestination (by simpa using hstrict) (by simpa using hcleanup) hspares
  · exact sparesDestination_of_guarded hreplace

theorem careful_copy_spares_destination : SparesDestination { strictMode := false, replaceExisting := false } :=
  (http_copy_spares_destination_iff { strictMode := false, replaceExisting := false } rfl).mpr (.inl rfl)

/-- A strict copy, refused, removes a destination that it was not to replace. -/
theorem strict_copy_removes_destination :
    ¬∀ params : GfaltParams, params.replaceExisting = false → SparesDestination params := by
  intro h
  exact not_sparesDestination rfl rfl (h { strictMode := true } rfl)

end Gfal2
