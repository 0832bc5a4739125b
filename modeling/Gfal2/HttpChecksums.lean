import Gfal2.HttpFallback

/-! What an HTTP copy that returns 0 says about checksums. A source that does not support the type is passed over,
and then nothing may be left to compare the destination with. -/

namespace Gfal2

open Base Exec

variable {σ : Type}

/-! ### The two checks -/

section Checks

variable {mode : ChecksumMode} {src dst checksumType user srcChecksum dstBuffer : CString}
  {context context' : Gfal2Context σ}

theorem SameChecksum.symm {chk chk' : CString} (h : SameChecksum chk chk') : SameChecksum chk' chk := Eq.symm h

theorem SameChecksum.trans {chk chk' chk'' : CString} (h : SameChecksum chk chk') (h' : SameChecksum chk' chk'') :
    SameChecksum chk chk'' := Eq.trans h h'

/-- The check of the source goes on only with a checksum that is the user's, if there are both. -/
theorem httpCheckSource_spec {source : Ret CString} {seen : Seen} (huser : user.length < 1024)
    (hrun : httpCheckSource mode src checksumType user context = .ok ((source, seen), context'))
    (hfits : ∀ s ∈ seen.source, s.length < 1024) :
    seen.destination = none ∧
      (source.err = none → seen.mismatch = false ∧ source.val = seen.source.getD [] ∧
        ∀ s, seen.source = some s → user ≠ [] → SameChecksum s user) ∧
      (seen.mismatch = true → ∃ s, seen.source = some s ∧ user ≠ [] ∧ ¬SameChecksum s user) := by
  unfold httpCheckSource at hrun
  by_cases hmode : mode.hasSource = true
  · rw [if_neg (not_not_intro hmode)] at hrun
    obtain ⟨_, told, -, hrun⟩ := bind_eq_ok.mp hrun
    obtain ⟨answer, answered, -, hrun⟩ := bind_eq_ok.mp hrun
    cases herr : answer.err with
    | some e =>
        rw [herr] at hrun
        dsimp only at hrun
        split at hrun
        · cases hrun
          exact ⟨rfl, fun _ => ⟨rfl, rfl, by simp⟩, by simp⟩
        · cases hrun
          exact ⟨rfl, by simp, by simp⟩
    | none =>
        rw [herr] at hrun
        dsimp only at hrun
        split at hrun
        · rename_i hdiffer
          cases hrun
          refine ⟨rfl, by simp, fun _ => ⟨_, rfl, hdiffer.1, ?_⟩⟩
          rw [← gfalCompareChecksums_eq_zero_iff (hfits _ rfl).le huser.le]
          exact hdiffer.2
        · rename_i hsame
          cases hrun
          refine ⟨rfl, fun _ => ⟨rfl, rfl, fun s hs hne => ?_⟩, by simp⟩
          cases hs
          by_contra hnot
          rw [← gfalCompareChecksums_eq_zero_iff (hfits _ rfl).le huser.le] at hnot
          exact hsame ⟨hne, hnot⟩
  · rw [if_pos hmode] at hrun
    cases hrun
    exact ⟨rfl, fun _ => ⟨rfl, rfl, by simp⟩, by simp⟩

theorem mem_comparedChecksum {compared : CString} (h : comparedChecksum srcChecksum user = some compared) :
    (compared = srcChecksum ∧ srcChecksum ≠ []) ∨ (compared = user ∧ user ≠ [] ∧ srcChecksum = []) := by
  unfold comparedChecksum at h
  split at h
  · rename_i hsource
    cases h
    exact .inl ⟨rfl, hsource⟩
  · rename_i hsource
    split at h
    · rename_i huser
      cases h
      exact .inr ⟨rfl, huser, not_not.mp hsource⟩
    · cases h

theorem httpCheckDestination_source {ret : Ret Int} {seen seen' : Seen}
    (hrun : httpCheckDestination dstBuffer mode dst checksumType user srcChecksum seen context =
      .ok ((ret, seen'), context')) : seen'.source = seen.source := by
  unfold httpCheckDestination at hrun
  split at hrun
  · cases hrun
    rfl
  · obtain ⟨_, told, -, hrun⟩ := bind_eq_ok.mp hrun
    obtain ⟨answer, answered, -, hrun⟩ := bind_eq_ok.mp hrun
    cases herr : answer.err with
    | some e =>
        rw [herr] at hrun
        cases hrun
        rfl
    | none =>
        rw [herr] at hrun
        dsimp only at hrun
        cases hcompared : comparedChecksum srcChecksum user with
        | none =>
            rw [hcompared] at hrun
            cases hrun
            rfl
        | some compared =>
            rw [hcompared] at hrun
            dsimp only at hrun
            split at hrun
            · cases hrun
              rfl
            · cases hrun
              rfl

/-- The check of the destination compares it with the source, or else with the user's value, or else with nothing. -/
theorem httpCheckDestination_spec {ret : Ret Int} {seen seen' : Seen} (huser : user.length < 1024)
    (hsource : srcChecksum.length < 1024)
    (hrun : httpCheckDestination dstBuffer mode dst checksumType user srcChecksum seen context =
      .ok ((ret, seen'), context'))
    (hfits : ∀ d ∈ seen'.destination, d.length < 1024) :
    (ret.val = 0 → mode.hasTarget = true → ∃ d, seen'.destination = some d ∧
        ∀ compared, comparedChecksum srcChecksum user = some compared → SameChecksum compared d) ∧
      (seen'.mismatch = true → seen.mismatch = false → ∃ d compared, seen'.destination = some d ∧
        comparedChecksum srcChecksum user = some compared ∧ ¬SameChecksum compared d) := by
  have hlength : ∀ {compared}, comparedChecksum srcChecksum user = some compared → compared.length ≤ 1024 := by
    intro compared hcompared
    rcases mem_comparedChecksum hcompared with ⟨rfl, -⟩ | ⟨rfl, -, -⟩ <;> omega
  have hunraised : ∀ {b : Bool}, b = true → b = false → False := by decide
  unfold httpCheckDestination at hrun
  by_cases hmode : mode.hasTarget = true
  · rw [if_neg (not_not_intro hmode)] at hrun
    obtain ⟨_, told, -, hrun⟩ := bind_eq_ok.mp hrun
    obtain ⟨answer, answered, -, hrun⟩ := bind_eq_ok.mp hrun
    cases herr : answer.err with
    | some e =>
        rw [herr] at hrun
        cases hrun
        exact ⟨by simp, fun h h' => (hunraised h h').elim⟩
    | none =>
        rw [herr] at hrun
        dsimp only at hrun
        cases hcompared : comparedChecksum srcChecksum user with
        | none =>
            rw [hcompared] at hrun
            cases hrun
            exact ⟨fun _ _ => ⟨_, rfl, by simp⟩, fun h h' => (hunraised h h').elim⟩
        | some compared =>
            rw [hcompared] at hrun
            dsimp only at hrun
            split at hrun
            · rename_i hdiffer
              cases hrun
              refine ⟨by simp, fun _ _ => ⟨_, compared, rfl, rfl, ?_⟩⟩
              rw [← gfalCompareChecksums_eq_zero_iff (hlength hcompared) (hfits _ rfl).le]
              exact hdiffer
            · rename_i hsame
              cases hrun
              refine ⟨fun _ _ => ⟨_, rfl, fun _ h => ?_⟩, fun h h' => (hunraised h h').elim⟩
              cases h
              rw [← gfalCompareChecksums_eq_zero_iff (hlength hcompared) (hfits _ rfl).le]
              exact not_not.mp hsame
  · rw [if_pos hmode] at hrun
    cases hrun
    exact ⟨fun _ h => absurd h hmode, fun h h' => (hunraised h h').elim⟩

end Checks

/-! ### The whole copy -/

section Copy

variable {davix : Davix σ} {fuel : Nat} {params : GfaltParams} {src dst srcFull dstFull dstBuffer : CString}
  {context context' : Gfal2Context σ} {ret : Ret Int} {copied : HttpCopyRecord}

/-- A copy fails with the record of the check of its source, or it goes on to the check of its destination and
ends as that does. -/
theorem httpCopy_checks (h : httpCopyStripped davix dstBuffer fuel params srcFull dstFull src dst context =
      .ok ((ret, copied), context')) :
    ∃ source seen, ∃ before after : Gfal2Context σ,
      httpCheckSource (copySettings params).1 src (copySettings params).2.1 (copySettings params).2.2 before =
        .ok ((source, seen), after) ∧
      ((ret.val ≠ 0 ∧ copied.checksums = seen) ∨
        (source.err = none ∧ ∃ checked seen', ∃ before' after' : Gfal2Context σ,
          httpCheckDestination dstBuffer (copySettings params).1 dst (copySettings params).2.1 (copySettings params).2.2
            source.val seen before' = .ok ((checked, seen'), after') ∧
          copied.checksums = seen' ∧ (ret.val = 0 → checked.val = 0))) := by
  obtain ⟨_, told, -, h⟩ := bind_eq_ok.mp h
  obtain ⟨⟨source, seen⟩, checked, hsource, h⟩ := bind_eq_ok.mp h
  refine ⟨source, seen, told, checked, hsource, ?_⟩
  dsimp only at h
  split at h
  · cases h
    exact .inl ⟨by simp, rfl⟩
  · rename_i herr
    obtain ⟨prepared, ready, -, h⟩ := bind_eq_ok.mp h
    split at h
    · rename_i hval
      cases h
      exact .inl ⟨hval, rfl⟩
    · obtain ⟨_, entered, -, h⟩ := bind_eq_ok.mp h
      obtain ⟨p, tried, -, h⟩ := bind_eq_ok.mp h
      obtain ⟨transferred, finished, -, h⟩ := bind_eq_ok.mp h
      split at h
      · rename_i hval
        cases h
        exact .inl ⟨hval, rfl⟩
      · obtain ⟨⟨compared, seen'⟩, compared', hcompared, h⟩ := bind_eq_ok.mp h
        refine .inr ⟨by simpa using herr, compared, seen', finished, compared', hcompared, ?_⟩
        dsimp only at h
        split at h
        · rename_i hfailed
          cases h
          exact ⟨rfl, fun hzero => absurd hzero hfailed⟩
        · rename_i hpassed
          obtain ⟨_, evicted, -, h⟩ := bind_eq_ok.mp h
          cases h
          exact ⟨rfl, fun _ => not_not.mp hpassed⟩

/-- What the result of a copy says about the checksums it obtained. The user's value is as it is read into its
buffer; a source has a checksum if it answers with one that is not empty. -/
structure HttpChecksumsSound (params : GfaltParams) (ret : Ret Int) (seen : Seen) : Prop where
  user : ret.val = 0 → (requestedChecks params).hasTarget = true → readUserChecksum params ≠ [] →
    ∃ d, seen.destination = some d ∧ SameChecksum (readUserChecksum params) d
  source : ret.val = 0 → (requestedChecks params).hasTarget = true → ∀ s, seen.source = some s → s ≠ [] →
    ∃ d, seen.destination = some d ∧ SameChecksum s d
  mismatch : seen.mismatch = true → ∃ chk chk', ¬SameChecksum chk chk' ∧ ∀ c ∈ [chk, chk'],
    c = readUserChecksum params ∧ c ≠ [] ∨ seen.source = some c ∨ seen.destination = some c

/-- The copies with these parameters are sound, whatever Davix, the plugins, the configuration and the listeners
of the context are, as long as a checksum fits the buffer it is written into. -/
def SoundHttpChecksums (params : GfaltParams) : Prop :=
  ∀ (σ : Type) (davix : Davix σ) (dstBuffer : CString) (fuel : Nat) (srcFull dstFull : CString)
    (context context' : Gfal2Context σ) (ret : Ret Int) (copied : HttpCopyRecord),
    gfalHttpCopyRecorded davix dstBuffer fuel params srcFull dstFull context = .ok ((ret, copied), context') →
    copied.checksums.Fits → HttpChecksumsSound params ret copied.checksums

/-- A copy without checks obtains no checksum. -/
theorem httpCopy_unchecked (hchecks : requestedChecks params = .none)
    (h : httpCopyStripped davix dstBuffer fuel params srcFull dstFull src dst context =
      .ok ((ret, copied), context')) : copied.checksums = {} := by
  obtain ⟨source, seen, before, after, hsource, hrest⟩ := httpCopy_checks h
  rw [copySettings_mode, hchecks] at hsource
  cases hsource
  obtain ⟨-, hseen⟩ | ⟨-, checked, seen', before', after', hdest, hseen, -⟩ := hrest
  · exact hseen
  · rw [copySettings_mode, hchecks] at hdest
    cases hdest
    exact hseen

theorem httpCopy_sound (h : httpCopyStripped davix dstBuffer fuel params srcFull dstFull src dst context =
      .ok ((ret, copied), context')) (hfits : copied.checksums.Fits) :
    HttpChecksumsSound params ret copied.checksums := by
  by_cases hchecks : requestedChecks params = .none
  · rw [httpCopy_unchecked hchecks h]
    refine ⟨fun _ htarget => ?_, fun _ htarget => ?_, by simp⟩
    · rw [hchecks] at htarget
      cases htarget
    · rw [hchecks] at htarget
      cases htarget
  · obtain ⟨source, seen, before, after, hsource, hrest⟩ := httpCopy_checks h
    rw [copySettings_user hchecks] at hsource hrest
    rw [copySettings_mode] at hrest
    have huser := length_readUserChecksum params
    obtain ⟨hret, hseen⟩ | ⟨herr, checked, seen', before', after', hdest, hseen, hret⟩ := hrest
    · -- the copy failed, and only the check of the source may have raised a mismatch
      rw [hseen] at hfits ⊢
      obtain ⟨-, -, hraised⟩ := httpCheckSource_spec huser hsource hfits.source
      refine ⟨fun h => absurd h hret, fun h => absurd h hret, fun hmismatch => ?_⟩
      obtain ⟨s, hs, hne, hnot⟩ := hraised hmismatch
      refine ⟨s, readUserChecksum params, hnot, fun c hc => ?_⟩
      rcases List.mem_pair.mp hc with rfl | rfl
      · exact .inr (.inl hs)
      · exact .inl ⟨rfl, hne⟩
    · rw [hseen] at hfits ⊢
      have hkept := httpCheckDestination_source hdest
      have hval : ∀ s ∈ seen.source, s.length < 1024 := hkept ▸ hfits.source
      obtain ⟨-, hpassed, -⟩ := httpCheckSource_spec huser hsource hval
      obtain ⟨hunraised, hvalue, hsame⟩ := hpassed herr
      have hlength : source.val.length < 1024 := by
        rw [hvalue]
        cases hs : seen.source with
        | none => simp
        | some s => exact hval s hs
      obtain ⟨hcompared, hraised⟩ := httpCheckDestination_spec huser hlength hdest hfits.destination
      have hfrom : ∀ s, seen.source = some s → source.val = s := by
        intro s hs
        rw [hvalue, hs]
        rfl
      refine ⟨fun hzero htarget hne => ?_, fun hzero htarget s hs hne => ?_, fun hmismatch => ?_⟩
      · obtain ⟨d, hd, hall⟩ := hcompared (hret hzero) htarget
        refine ⟨d, hd, ?_⟩
        by_cases hempty : source.val = []
        · exact hall _ (by rw [comparedChecksum, if_neg (not_not.mpr hempty), if_pos hne])
        · -- the source has a checksum, which is the user's
          have hsd := hall _ (if_pos hempty)
          cases hs : seen.source with
          | none =>
              rw [hvalue, hs] at hempty
              exact absurd rfl hempty
          | some s =>
              rw [hfrom s hs] at hsd
              exact (hsame s hs hne).symm.trans hsd
      · obtain ⟨d, hd, hall⟩ := hcompared (hret hzero) htarget
        rw [hkept] at hs
        have hval' := hfrom s hs
        exact ⟨d, hd, hall s (by rw [hval']; exact if_pos hne)⟩
      · obtain ⟨d, compared, hd, hcomp, hnot⟩ := hraised hmismatch hunraised
        refine ⟨compared, d, hnot, fun c hc => ?_⟩
        rcases List.mem_pair.mp hc with rfl | rfl
        · rcases mem_comparedChecksum hcomp with ⟨rfl, hne⟩ | ⟨rfl, hne, -⟩
          · refine .inr (.inl ?_)
            rw [hkept]
            cases hs : seen.source with
            | none =>
                rw [hvalue, hs] at hne
                exact absurd rfl hne
            | some s => rw [hfrom s hs]
          · exact .inl ⟨rfl, hne⟩
        · exact .inr (.inr hd)

end Copy

/-- A copy that returns 0 has compared the destination with the user's value, and with the one of the source if
the source has answered with one; a mismatch is raised for two checksums that differ. -/
theorem http_copy_checksums_sound (params : GfaltParams) : SoundHttpChecksums params := by
  intro σ davix dstBuffer fuel srcFull dstFull context context' ret copied hrun hfits
  exact httpCopy_sound hrun hfits

/-! ### A copy that compares nothing -/

/-- A plugin for everything whose source does not support checksums. -/
def unsupportingPlugin : GfalPluginInterface Unit where
  getName := some (lit "http_plugin")
  checkPluginUrl := some fun _ _ _ => ⟨true, none⟩
  checksumCalcG := some fun url _ _ _ _ _ world =>
    (if url = lit "https://a/f" then ⟨(-1, []), some ⟨httpPluginDomain, ENOSYS, []⟩⟩ else ⟨(0, lit "2a"), none⟩, world)

def unsupportingOpts : GfalPluginOpts Unit where
  pluginList := fun _ => unsupportingPlugin
  sortedPlugin := [0]
  pluginNumber := 1

/-- The source does not support checksums, and nothing is configured. -/
structure Unsupporting (context : Gfal2Context Unit) : Prop where
  pluginOpt : context.pluginOpt = unsupportingOpts
  config : context.config = {}
  readings : context.readings = {}

/-- Both sides are to be checked against each other. -/
def endToEndParams : GfaltParams :=
  { replaceExisting := true, checksum := { mode := .both, type := some (lit "md5") } }

section Unsupporting

variable {context : Gfal2Context Unit} (h : Unsupporting context)

include h

theorem httpCheckSource_unsupporting : ∃ context',
    httpCheckSource .both (lit "https://a/f") (lit "md5") [] context = .ok ((⟨[], none⟩, {}), context') ∧
      Unsupporting context' := by
  obtain ⟨⟩ := context
  obtain ⟨rfl, rfl, rfl⟩ := h
  exact ⟨_, rfl, rfl, rfl, rfl⟩

theorem httpPrepareDestination_unsupporting : ∃ context',
    httpPrepareDestination (willingDavix fun _ => none) endToEndParams (lit "https://b/g") context =
      .ok (⟨0, none⟩, context') ∧ Unsupporting context' := by
  obtain ⟨⟩ := context
  obtain ⟨rfl, rfl, rfl⟩ := h
  exact ⟨_, rfl, rfl, rfl, rfl⟩

theorem tryModes_unsupporting : ∃ context',
    tryModes (willingDavix fun _ => none) 0 endToEndParams (lit "https://a/f") (lit "https://b/g")
        (lit "https://a/f") (lit "https://b/g") context =
      .ok ({ attempts := [⟨.pull, ⟨0, none⟩⟩] }, context') ∧ Unsupporting context' := by
  have hmode : constructCopyMode (fun _ => none) context.config (lit "https://a/f") (lit "https://b/g") =
      (⟨.pull, false, true⟩, context.config) := by
    rw [h.config, constructCopyMode_of_configured (by decide) (by decide)]
    exact Prod.ext (by decide) rfl
  refine ⟨{ context with events := context.events ++
      [⟨httpPluginDomain, .none, lit "TRANSFER:ENTER", (lit "https://a/f" ++ lit " => " ++ lit "https://b/g").take 511⟩] ++
      [⟨httpPluginDomain, .none, lit "TRANSFER:TYPE", (lit "3rd pull").take 511⟩] }, ?_, h.pluginOpt, h.config, h.readings⟩
  rw [tryModes, get_bind_apply]
  dsimp only [willingDavix]
  rw [hmode]
  exact copyLoop_willing (fun _ => none) (lit "https://a/f") (lit "https://b/g") endToEndParams _ rfl
    (fun h => CopyMode.noConfusion h)

theorem httpCheckDestination_unsupporting : ∃ context',
    httpCheckDestination [] .both (lit "https://b/g") (lit "md5") [] [] {} context =
      .ok ((⟨0, none⟩, { destination := some (lit "2a") }), context') ∧ Unsupporting context' := by
  obtain ⟨⟩ := context
  obtain ⟨rfl, rfl, rfl⟩ := h
  exact ⟨_, rfl, rfl, rfl, rfl⟩

end Unsupporting

/-- A copy that is to check both sides against each other succeeds without comparing them. -/
theorem httpCopy_unsupporting : ∃ context',
    gfalHttpCopyRecorded (willingDavix fun _ => none) [] 0 endToEndParams (lit "https://a/f") (lit "https://b/g")
        { pluginOpt := unsupportingOpts, world := () } =
      .ok ((⟨0, none⟩, ⟨[⟨.pull, ⟨0, none⟩⟩], { destination := some (lit "2a") }⟩), context') := by
  have hsrc : strip3rdFromUrl (lit "https://a/f") gfalUrlMaxLen = lit "https://a/f" := by decide
  have hdst : strip3rdFromUrl (lit "https://b/g") gfalUrlMaxLen = lit "https://b/g" := by decide
  rw [gfalHttpCopyRecorded, hsrc, hdst]
  have hstart : Unsupporting { pluginOpt := unsupportingOpts, world := (), events :=
      [⟨httpPluginDomain, .none, lit "PREPARE:ENTER", (lit "https://a/f" ++ lit " => " ++ lit "https://b/g").take 511⟩] } :=
    ⟨rfl, rfl, rfl⟩
  obtain ⟨checked, hsource, hchecked⟩ := httpCheckSource_unsupporting hstart
  obtain ⟨prepared, hprepare, hprepared⟩ := httpPrepareDestination_unsupporting hchecked
  have hentered : Unsupporting { prepared with events := prepared.events ++
      [⟨httpPluginDomain, .none, lit "PREPARE:EXIT", (lit "https://a/f" ++ lit " => " ++ lit "https://b/g").take 511⟩] } :=
    ⟨hprepared.pluginOpt, hprepared.config, hprepared.readings⟩
  obtain ⟨tried, htry, htried⟩ := tryModes_unsupporting hentered
  obtain ⟨told, hfinish, htold⟩ : ∃ told, finishTransfer (lit "https://a/f") (lit "https://b/g")
      { attempts := [⟨.pull, ⟨0, none⟩⟩] } tried = .ok (⟨0, none⟩, told) ∧ Unsupporting told :=
    ⟨_, rfl, htried.pluginOpt, htried.config, htried.readings⟩
  obtain ⟨compared, hdest, -⟩ := httpCheckDestination_unsupporting htold
  have hevent : pluginTriggerEvent httpPluginDomain .none (lit "PREPARE:ENTER")
      (lit "https://a/f" ++ lit " => " ++ lit "https://b/g") { pluginOpt := unsupportingOpts, world := () } =
      .ok ((), { pluginOpt := unsupportingOpts, world := (), events :=
        [⟨httpPluginDomain, .none, lit "PREPARE:ENTER", (lit "https://a/f" ++ lit " => " ++ lit "https://b/g").take 511⟩] }) :=
    rfl
  refine ⟨compared, ?_⟩
  rw [httpCopyStripped]
  refine (bind_of_ok hevent).trans ?_
  change (_ >>= _ : Gfal Unit _) _ = _
  refine (bind_of_ok hsource).trans ?_
  change (_ >>= _ : Gfal Unit _) _ = _
  refine (bind_of_ok hprepare).trans ?_
  change (_ >>= _ : Gfal Unit _) _ = _
  refine (bind_of_ok htry).trans ?_
  change (_ >>= _ : Gfal Unit _) _ = _
  refine (bind_of_ok hfinish).trans ?_
  change (_ >>= _ : Gfal Unit _) _ = _
  exact (bind_of_ok hdest).trans rfl

/-- That copy has nothing to compare the destination with. -/
theorem unsupporting_copy_sound : ∃ (ret : Ret Int) (copied : HttpCopyRecord), ret.val = 0 ∧ copied.checksums.destination = some (lit "2a") ∧
    HttpChecksumsSound endToEndParams ret copied.checksums := by
  obtain ⟨context', hrun⟩ := httpCopy_unsupporting
  have hfits : Seen.Fits { destination := some (lit "2a") } := ⟨by simp, by simp [lit]⟩
  exact ⟨_, _, rfl, rfl, http_copy_checksums_sound endToEndParams _ _ _ _ _ _ _ _ _ _ hrun hfits⟩

/-- A copy that returns 0 and is to check both sides may not have compared them: a source without support for
checksums is passed over. -/
theorem unsupported_source_passed_over :
    ¬∀ (davix : Davix Unit) (dstBuffer : CString) (fuel : Nat) (params : GfaltParams) (srcFull dstFull : CString)
      (context context' : Gfal2Context Unit) (ret : Ret Int) (copied : HttpCopyRecord),
      params.strictMode = false → requestedChecks params = .both →
        gfalHttpCopyRecorded davix dstBuffer fuel params srcFull dstFull context = .ok ((ret, copied), context') →
        ret.val = 0 → ∃ s d, copied.checksums.source = some s ∧ copied.checksums.destination = some d ∧
          SameChecksum s d := by
  intro h
  obtain ⟨context', hrun⟩ := httpCopy_unsupporting
  obtain ⟨s, d, hs, -⟩ := h _ _ _ _ _ _ _ _ _ _ rfl rfl hrun rfl
  cases hs

end Gfal2
