import Gfal2.GridFtpDestination
import Gfal2.LocalCopyChecksums

/-! Whether the checksum errors of a GridFTP copy are real. The settings decide which of the strings of a copy are ever
filled; a comparison with one that is not is a comparison with an empty string. -/

namespace Gfal2

open Base Throwing

/-! ### The settings -/

/-- The checks that are left of those asked for. -/
def effectiveChecks (config : Config) (params : GfaltParams) : ChecksumMode :=
  if config.gridFtpSwitch (lit "SKIP_SOURCE_CHECKSUM") then (requestedChecks params).withoutSource else requestedChecks params

/-- There is a type of checksums, given with the copy or configured. -/
def TypeKnown (config : Config) (params : GfaltParams) : Prop :=
  params.checksum.type.getD [] ≠ [] ∨ (config.optString gridFtpGroup (lit "COPY_CHECKSUM_TYPE")).isSome = true

theorem ChecksumMode.hasTarget_withoutSource (mode : ChecksumMode) : mode.withoutSource.hasTarget = mode.hasTarget := by
  cases mode <;> rfl

/-- The check of the destination is never left out. -/
theorem effectiveChecks_hasTarget (config : Config) (params : GfaltParams) :
    (effectiveChecks config params).hasTarget = (requestedChecks params).hasTarget := by
  unfold effectiveChecks
  split
  · exact ChecksumMode.hasTarget_withoutSource _
  · rfl

variable {servers : GridFtpServers} {config : Config} {params : GfaltParams} {mode : ChecksumMode} {type user : CString}

theorem effectiveChecks_of_strict (hstrict : params.strictMode = true) : effectiveChecks config params = .none := by
  rw [effectiveChecks, requestedChecks, if_pos hstrict]
  split <;> rfl

/-- What a copy reads of its settings, unless it has no type of checksums to go by. -/
theorem copyChecksum_cases (servers : GridFtpServers) (config : Config) (params : GfaltParams) :
    (effectiveChecks config params ≠ .none ∧ userChecksum params = [] ∧ ¬TypeKnown config params ∧
      copyChecksum servers config params = .error (.core servers.missingValue)) ∨
    ∃ type user, copyChecksum servers config params = .ok (effectiveChecks config params, type, user) ∧
      (effectiveChecks config params ≠ .none → user = (userChecksum params).take (gfalUrlMaxLen - 1) ∧
        (userChecksum params = [] → TypeKnown config params)) := by
  by_cases hstrict : params.strictMode = true
  · refine .inr ⟨[], [], ?_, fun h => absurd (effectiveChecks_of_strict hstrict) h⟩
    have hmode := @effectiveChecks_of_strict config params hstrict
    unfold effectiveChecks requestedChecks at *
    rw [if_pos hstrict] at hmode ⊢
    unfold copyChecksum
    rw [if_pos hstrict]
    dsimp only
    rw [if_neg fun h => h.1 hmode]
  · have htype : ∀ text : CString, text.take (gfalUrlMaxLen - 1) = [] ↔ text = [] := by simp
    unfold copyChecksum
    rw [if_neg hstrict]
    dsimp only [gfaltGetChecksum]
    have hmode : (if config.gridFtpSwitch (lit "SKIP_SOURCE_CHECKSUM") then params.checksum.mode.withoutSource else params.checksum.mode) =
        effectiveChecks config params := by
      rw [effectiveChecks, requestedChecks, if_neg hstrict]
    rw [hmode]
    by_cases hdefault : effectiveChecks config params ≠ .none ∧ (params.checksum.value.getD []).take (gfalUrlMaxLen - 1) = [] ∧
        (params.checksum.type.getD []).take (gfalUrlMaxLen - 1) = []
    · rw [if_pos hdefault]
      obtain ⟨hchecks, huser, hempty⟩ := hdefault
      rw [htype] at huser hempty
      cases hvalue : config.optString gridFtpGroup (lit "COPY_CHECKSUM_TYPE") with
      | none =>
          refine .inl ⟨hchecks, huser, fun hknown => ?_, rfl⟩
          obtain hgiven | hset := hknown
          · exact hgiven hempty
          · rw [hvalue] at hset
            cases hset
      | some value =>
          refine .inr ⟨_, _, rfl, fun _ => ⟨rfl, fun _ => .inr ?_⟩⟩
          rw [hvalue]
          rfl
    · rw [if_neg hdefault]
      refine .inr ⟨_, _, rfl, fun hchecks => ⟨rfl, fun huser => .inl fun hempty => hdefault ⟨hchecks, ?_, ?_⟩⟩⟩
      · exact (htype _).mpr huser
      · exact (htype _).mpr hempty

/-! ### What a copy obtains and raises -/

/-- The exception of two checksums that are not the same. -/
def CppException.IsMismatch : CppException → Prop
  | .transfer _ _ note => note = lit "CHECKSUM MISMATCH"
  | .core _ => False
  | .std _ => False
  | .unknown => False

/-- Servers that raise no such exception themselves, and of which every checksum fits the buffer of a copy. -/
structure GridFtpServers.Plain (servers : GridFtpServers) : Prop where
  stat : ∀ url history e, servers.stat url history = .error e → ¬e.IsMismatch
  unlink : ∀ url history e, servers.unlink url history = .error e → ¬e.IsMismatch
  checksum : ∀ url type history e, servers.checksum url type history = .error e → ¬e.IsMismatch
  session : ∀ url history e, servers.session url history = .error e → ¬e.IsMismatch
  transfer : ∀ src dst udt history e, servers.transfer src dst udt history = .error e → ¬e.IsMismatch
  fits : ∀ url type history chk, servers.checksum url type history = .ok chk → chk.length < gfalUrlMaxLen

/-- The checksum is one that the server of the file answered with between the two histories. -/
def Obtained (servers : GridFtpServers) (url : CString) (before after : GridFtpHistory) (chk : CString) : Prop :=
  ∃ asked type, before <+: asked ∧ asked ++ [.checksum url type] <+: after ∧ servers.checksum url type asked = .ok chk

variable {before : GridFtpHistory} {e : CppException}

theorem Obtained.mono {url chk : CString} {before' after after' : GridFtpHistory}
    (h : Obtained servers url before after chk) (hbefore : before' <+: before) (hafter : after <+: after') :
    Obtained servers url before' after' chk := by
  obtain ⟨asked, type, hasked, hmade, hanswer⟩ := h
  exact ⟨asked, type, hbefore.trans hasked, hmade.trans hafter, hanswer⟩

section Quietly

variable {α β : Type} {context after : Gfal2Context GridFtpWorld}

/-- Requests are only added, and no mismatch is raised. -/
def RaisesNoMismatch (computation : GridFtp α) : Prop :=
  ∀ context outcome after, computation.run context = .ok (outcome, after) →
    context.world.made <+: after.world.made ∧ ∀ e, outcome = .error e → ¬e.IsMismatch

theorem RaisesNoMismatch.pure (value : α) : RaisesNoMismatch (pure value : GridFtp α) := by
  intro context outcome after h
  cases h
  exact ⟨List.prefix_refl _, fun e he => by cases he⟩

theorem RaisesNoMismatch.throw (he : ¬e.IsMismatch) : RaisesNoMismatch (throw e : GridFtp α) := by
  intro context outcome after h
  cases h
  exact ⟨List.prefix_refl _, fun e' he' => by cases he'; exact he⟩

theorem RaisesNoMismatch.bind {first : GridFtp α} {next : α → GridFtp β} (hfirst : RaisesNoMismatch first)
    (hnext : ∀ value, RaisesNoMismatch (next value)) : RaisesNoMismatch (first >>= next) := by
  intro context outcome after h
  obtain ⟨e, hthrown, rfl⟩ | ⟨value, reached, hvalue, hrest⟩ := run_bind_eq_ok h
  · obtain ⟨hmade, hquiet⟩ := hfirst _ _ _ hthrown
    exact ⟨hmade, fun e' he' => by cases he'; exact hquiet e rfl⟩
  · obtain ⟨hmade, -⟩ := hfirst _ _ _ hvalue
    obtain ⟨hmade', hquiet⟩ := hnext value _ _ _ hrest
    exact ⟨hmade.trans hmade', hquiet⟩

theorem RaisesNoMismatch.catch {body : GridFtp α} {handler : CppException → GridFtp α} (hbody : RaisesNoMismatch body)
    (hhandler : ∀ e, ¬e.IsMismatch → RaisesNoMismatch (handler e)) : RaisesNoMismatch (tryCatch body handler) := by
  intro context outcome after h
  obtain ⟨value, hvalue, rfl⟩ | ⟨e, reached, hthrown, hrest⟩ := run_catch_eq_ok h
  · exact ⟨(hbody _ _ _ hvalue).1, fun e he => by cases he⟩
  · obtain ⟨hmade, hquiet⟩ := hbody _ _ _ hthrown
    obtain ⟨hmade', hquiet'⟩ := hhandler e (hquiet e rfl) _ _ _ hrest
    exact ⟨hmade.trans hmade', hquiet'⟩

theorem RaisesNoMismatch.ite {p : Prop} [Decidable p] {left right : GridFtp α} (hleft : p → RaisesNoMismatch left)
    (hright : ¬p → RaisesNoMismatch right) : RaisesNoMismatch (if p then left else right) := by
  split
  case isTrue h => exact hleft h
  case isFalse h => exact hright h

theorem RaisesNoMismatch.request {request : GridFtpRequest} {answer : GridFtpHistory → Except CppException α}
    (h : ∀ history e, answer history = .error e → ¬e.IsMismatch) : RaisesNoMismatch (gridFtpRequest request answer) := by
  intro context outcome after hrun
  cases hrun
  exact ⟨List.prefix_append _ _, fun e he => h _ e he⟩

theorem RaisesNoMismatch.event (domain : GQuark) (side : GfalEventSide) (stage description : CString) :
    RaisesNoMismatch (triggerEvent domain side stage description) := by
  intro context outcome after h
  cases h
  exact ⟨List.prefix_refl _, fun e he => by cases he⟩

theorem RaisesNoMismatch.get : RaisesNoMismatch (liftM (Exec.get : Gfal GridFtpWorld _) : GridFtp (Gfal2Context GridFtpWorld)) := by
  intro context outcome after h
  cases h
  exact ⟨List.prefix_refl _, fun e he => by cases he⟩

theorem RaisesNoMismatch.fault (reason : Fault) : RaisesNoMismatch (liftM (Exec.fault reason : Gfal GridFtpWorld α) : GridFtp α) := by
  intro context outcome after h
  cases h

theorem returnHostAndPort_quiet (servers : GridFtpServers) (uri : CString) (useIpv6 : Bool) :
    RaisesNoMismatch (returnHostAndPort servers uri useIpv6) := by
  unfold returnHostAndPort
  split
  · exact RaisesNoMismatch.throw id
  · exact RaisesNoMismatch.fault _
  · exact RaisesNoMismatch.pure _

theorem triggerTransfer_quiet (servers : GridFtpServers) (stage src dst : CString) (useIpv6 : Bool) :
    RaisesNoMismatch (triggerTransfer servers stage src dst useIpv6) := by
  refine (returnHostAndPort_quiet servers src useIpv6).bind fun srcHost => ?_
  exact (returnHostAndPort_quiet servers dst useIpv6).bind fun dstHost => RaisesNoMismatch.event _ _ _ _

variable (hplain : servers.Plain)
include hplain

theorem autoCleanFileCopy_quiet (code : Int) (dst : CString) : RaisesNoMismatch (autoCleanFileCopy servers code dst) :=
  RaisesNoMismatch.ite (fun _ => (RaisesNoMismatch.request (hplain.unlink dst)).catch fun _ _ => RaisesNoMismatch.pure _)
    fun _ => RaisesNoMismatch.pure _

/-- What ends a transfer is passed on with no note of a mismatch. -/
theorem transferHandler_quiet (dst : CString) (he : ¬e.IsMismatch) : RaisesNoMismatch (transferHandler servers dst e) := by
  cases e with
  | transfer e side note => exact RaisesNoMismatch.throw he
  | core e => exact (autoCleanFileCopy_quiet hplain _ dst).bind fun _ => RaisesNoMismatch.throw (by simp [CppException.IsMismatch])
  | std what =>
      have hnote : ¬lit "UNEXPECTED" = lit "CHECKSUM MISMATCH" := by decide
      exact (autoCleanFileCopy_quiet hplain _ dst).bind fun _ => RaisesNoMismatch.throw hnote
  | unknown => exact (autoCleanFileCopy_quiet hplain _ dst).bind fun _ => RaisesNoMismatch.throw id

theorem exists_quiet (path : CString) : RaisesNoMismatch (gridFtpExists servers path) := by
  refine ((RaisesNoMismatch.request (hplain.stat path)).bind fun _ => RaisesNoMismatch.pure _).catch fun e he => ?_
  cases e.asCore with
  | none => exact RaisesNoMismatch.throw he
  | some err => exact RaisesNoMismatch.ite (fun _ => RaisesNoMismatch.throw he) fun _ => RaisesNoMismatch.pure _

theorem deleteExisting_quiet (params : GfaltParams) (url : CString) :
    RaisesNoMismatch (gridftpFilecopyDeleteExisting servers params url) := by
  refine (exists_quiet hplain url).bind fun there => RaisesNoMismatch.ite (fun _ => RaisesNoMismatch.ite (fun _ => ?_) fun _ => ?_)
    fun _ => RaisesNoMismatch.pure _
  · refine (RaisesNoMismatch.request (hplain.unlink url)).bind fun _ => ?_
    exact (RaisesNoMismatch.event _ _ _ _).bind fun _ => RaisesNoMismatch.pure _
  · exact RaisesNoMismatch.throw (show ¬lit "EXISTS" = lit "CHECKSUM MISMATCH" by decide)

theorem createParent_quiet (params : GfaltParams) (url : CString) :
    RaisesNoMismatch (gridftpCreateParentCopy servers params url) := by
  have hinvalid : ¬(invalidParent url).IsMismatch := by simp [invalidParent, CppException.IsMismatch]
  have hnoDirectory : ¬parentIsNoDirectory.IsMismatch := by simp [parentIsNoDirectory, CppException.IsMismatch]
  have hmkdir : ∀ parent, RaisesNoMismatch (liftM (makeRequest (.mkdirRec parent 0o755) (servers.mkdirRec parent 0o755) :
      Gfal GridFtpWorld (Option GError)) : GridFtp (Option GError)) := by
    intro parent context outcome after h
    cases h
    exact ⟨List.prefix_append _ _, fun e he => by cases he⟩
  unfold gridftpCreateParentCopy
  refine RaisesNoMismatch.ite (fun _ => ?_) fun _ => RaisesNoMismatch.pure _
  extract_lets found create
  have hcreate : ∀ done, RaisesNoMismatch (create done) := by
    intro done
    unfold create
    cases parentInBuffer url with
    | none => exact RaisesNoMismatch.throw hinvalid
    | some parent =>
        refine RaisesNoMismatch.bind (RaisesNoMismatch.catch ?_ fun e he => ?_) fun there => ?_
        · refine (RaisesNoMismatch.request (hplain.stat parent)).bind fun type => RaisesNoMismatch.ite (fun _ => ?_) fun _ => ?_
          · exact (RaisesNoMismatch.throw hnoDirectory).bind fun _ => RaisesNoMismatch.pure _
          · exact RaisesNoMismatch.pure _
        · cases e.asCore with
          | none => exact RaisesNoMismatch.throw he
          | some err => exact RaisesNoMismatch.ite (fun _ => RaisesNoMismatch.throw he) fun _ => RaisesNoMismatch.pure _
        · refine RaisesNoMismatch.ite (fun _ => (hmkdir parent).bind fun made => ?_) fun _ => RaisesNoMismatch.pure _
          cases made with
          | none => exact RaisesNoMismatch.pure _
          | some e => exact RaisesNoMismatch.throw id
  exact RaisesNoMismatch.ite (fun _ => (RaisesNoMismatch.fault _).bind hcreate) fun _ => hcreate ()

theorem copyFileInternal_quiet (params : GfaltParams) (src dst : CString) :
    RaisesNoMismatch (gridftpFilecopyCopyFileInternal servers params src dst) := by
  unfold gridftpFilecopyCopyFileInternal
  extract_lets transfer
  have hrest : ∀ done, RaisesNoMismatch (transfer done) := by
    intro done
    refine (RaisesNoMismatch.request (hplain.session src)).bind fun _ => RaisesNoMismatch.get.bind fun context => ?_
    extract_lets enableUdt copy
    have hcopy : ∀ done, RaisesNoMismatch (copy done) := by
      intro done
      unfold copy
      refine (RaisesNoMismatch.request (hplain.transfer src dst enableUdt)).catch fun e he => ?_
      cases e.asCore with
      | none => exact RaisesNoMismatch.throw he
      | some err =>
          refine RaisesNoMismatch.ite (fun _ => ?_) fun _ => RaisesNoMismatch.throw he
          refine (RaisesNoMismatch.event _ _ _ _).bind fun _ => RaisesNoMismatch.request fun history e' he' => ?_
          cases he'
          cases servers.registerAgain src dst history with
          | none => exact he
          | some refused => exact id
    exact RaisesNoMismatch.ite (fun _ => (RaisesNoMismatch.event _ _ _ _).bind hcopy) fun _ => hcopy ()
  refine RaisesNoMismatch.ite (fun _ => (deleteExisting_quiet hplain params dst).bind fun deleted => ?_) fun _ => hrest ()
  exact RaisesNoMismatch.ite (fun _ => (createParent_quiet hplain params dst).bind hrest) fun _ => hrest ()

end Quietly

/-! ### The comparisons -/

variable {outcome : Except CppException Unit}

section Comparisons

/-- The comparison with a checksum that fits the buffer decides whether the two are the same. -/
theorem gfalCompareChecksums_fits_iff {chk chk' : CString} (hfits : chk'.length < gfalUrlMaxLen) :
    gfalCompareChecksums chk chk' gfalUrlMaxLen = 0 ↔ SameChecksum chk chk' := by
  have hlength := length_canonicalChecksum_le chk'
  have htake : (canonicalChecksum chk').take gfalUrlMaxLen = canonicalChecksum chk' := List.take_of_length_le (by omega)
  change strcmp ((canonicalChecksum chk).take gfalUrlMaxLen) ((canonicalChecksum chk').take gfalUrlMaxLen) = 0 ↔ _
  rw [strcmp_eq_zero_iff, htake, SameChecksum]
  constructor
  · intro h
    have hshort := congrArg List.length h
    rw [List.length_take] at hshort
    rwa [List.take_of_length_le (by omega)] at h
  · intro h
    rw [h, htake]

theorem gfalCompareChecksums_of_same {chk chk' : CString} (h : SameChecksum chk chk') :
    gfalCompareChecksums chk chk' gfalUrlMaxLen = 0 := by
  change strcmp ((canonicalChecksum chk).take gfalUrlMaxLen) ((canonicalChecksum chk').take gfalUrlMaxLen) = 0
  rw [show canonicalChecksum chk = canonicalChecksum chk' from h, strcmp_self]

variable {src dst : CString} {p : PreparedCopy} {context after : Gfal2Context GridFtpWorld}

/-- A request for a checksum obtains it. -/
theorem obtains_of_request {url : CString} {outcome : Except CppException CString}
    (h : (gridFtpRequest (.checksum url type) (servers.checksum url type)).run context = .ok (outcome, after)) :
    outcome = servers.checksum url type context.world.made ∧ context.world.made <+: after.world.made ∧
      ∀ chk, outcome = .ok chk → Obtained servers url context.world.made after.world.made chk := by
  cases h
  exact ⟨rfl, List.prefix_append _ _, fun chk hchk => ⟨_, type, List.prefix_refl _, List.prefix_refl _, hchk⟩⟩

theorem made_of_event {domain : GQuark} {side : GfalEventSide} {stage description : CString}
    (h : (triggerEvent domain side stage description).run context = .ok (outcome, after)) :
    after.world.made = context.world.made ∧ outcome = .ok () := by
  cases h
  exact ⟨rfl, rfl⟩

structure SourceChecked (servers : GridFtpServers) (mode : ChecksumMode) (src user : CString) (before after : GridFtpHistory)
    (outcome : Except CppException CString) : Prop where
  made : before <+: after
  mismatch : ∀ e, outcome = .error e → e.IsMismatch → mode.hasSource = true ∧ user ≠ [] ∧
    ∃ s, Obtained servers src before after s ∧ gfalCompareChecksums user s gfalUrlMaxLen ≠ 0
  found : ∀ s, outcome = .ok s → mode.hasSource = true → Obtained servers src before after s ∧
    (user ≠ [] → gfalCompareChecksums user s gfalUrlMaxLen = 0)

theorem gridFtpCheckSource_run (hplain : servers.Plain) {outcome : Except CppException CString}
    (h : (gridFtpCheckSource servers mode src type user).run context = .ok (outcome, after)) :
    SourceChecked servers mode src user context.world.made after.world.made outcome := by
  unfold gridFtpCheckSource at h
  split at h
  · rename_i hsource
    obtain ⟨e, hevent, -⟩ | ⟨_, entered, hevent, h⟩ := run_bind_eq_ok h
    · cases (made_of_event hevent).2
    replace hevent := (made_of_event hevent).1
    obtain ⟨e, hasked, rfl⟩ | ⟨s, answered, hasked, h⟩ := run_bind_eq_ok h
    · obtain ⟨hanswer, hmade, -⟩ := obtains_of_request hasked
      rw [hevent] at hmade
      refine ⟨hmade, fun e' he' hmismatch => ?_, fun s hs => by cases hs⟩
      cases he'
      exact absurd hmismatch (hplain.checksum _ _ _ _ hanswer.symm)
    obtain ⟨-, hmade, hobtained⟩ := obtains_of_request hasked
    replace hobtained := hobtained s rfl
    rw [hevent] at hmade hobtained
    obtain ⟨e, hexit, -⟩ | ⟨_, left, hexit, h⟩ := run_bind_eq_ok h
    · cases (made_of_event hexit).2
    replace hexit := (made_of_event hexit).1
    unfold compareSource at h
    split at h
    · rename_i hdiffer
      cases h
      rw [hexit]
      exact ⟨hmade, fun _ _ _ => ⟨hsource, hdiffer.1, s, hobtained, hdiffer.2⟩, fun s hs => by cases hs⟩
    · rename_i hsame
      cases h
      rw [hexit]
      refine ⟨hmade, (fun e he => by cases he), fun s' hs' _ => ?_⟩
      cases hs'
      exact ⟨hobtained, fun huser => by_contra fun hdiffer => hsame ⟨huser, hdiffer⟩⟩
  · rename_i hsource
    cases h
    exact ⟨List.prefix_refl _, (fun e he => by cases he), fun s _ h => absurd h hsource⟩

/-- What a copy has prepared: it goes on with the settings it read and with the checksum of its source. -/
structure CopyPrepared (servers : GridFtpServers) (params : GfaltParams) (src dst : CString) (context after : Gfal2Context GridFtpWorld)
    (p : PreparedCopy) : Prop where
  dst_eq : p.dst = resolvedUrl servers context.config dst
  settings : copyChecksum servers context.config params = .ok (p.checksumMode, p.checksumType, p.checksumUserDefined)
  source : p.checksumMode.hasSource = true →
    Obtained servers (resolvedUrl servers context.config src) context.world.made after.world.made p.checksumSrc ∧
      (p.checksumUserDefined ≠ [] → gfalCompareChecksums p.checksumUserDefined p.checksumSrc gfalUrlMaxLen = 0)

theorem prepareFilecopy_run (hplain : servers.Plain) {outcome : Except CppException PreparedCopy}
    (h : (prepareFilecopy servers params src dst).run context = .ok (outcome, after)) :
    context.world.made <+: after.world.made ∧
      (∀ e, outcome = .error e → e.IsMismatch → ∃ mode type user,
        copyChecksum servers context.config params = .ok (mode, type, user) ∧ mode.hasSource = true ∧ user ≠ [] ∧
          ∃ s, Obtained servers (resolvedUrl servers context.config src) context.world.made after.world.made s ∧
            gfalCompareChecksums user s gfalUrlMaxLen ≠ 0) ∧
      ∀ p, outcome = .ok p → CopyPrepared servers params src dst context after p := by
  rw [prepareFilecopy, run_bind_of_ok (run_lift_of_ok (Exec.get_apply context))] at h
  dsimp only at h
  have hcases := copyChecksum_cases servers context.config params
  split at h
  · rename_i e herror
    cases h
    refine ⟨List.prefix_refl _, fun e' he' hmismatch => ?_, fun p hp => by cases hp⟩
    cases he'
    obtain ⟨-, -, -, hmissing⟩ | ⟨type, user, hok, -⟩ := hcases
    · rw [hmissing] at herror
      cases herror
      cases hmismatch
    · rw [hok] at herror
      cases herror
  · rename_i mode type user hsettings
    obtain ⟨e, hchecked, rfl⟩ | ⟨s, checked, hchecked, h⟩ := run_bind_eq_ok h
    · have hsource := gridFtpCheckSource_run hplain hchecked
      refine ⟨hsource.made, fun e' he' hmismatch => ⟨mode, type, user, hsettings, ?_⟩, fun p hp => by cases hp⟩
      cases he'
      exact hsource.mismatch e rfl hmismatch
    have hsource := gridFtpCheckSource_run hplain hchecked
    have hrest := ((triggerTransfer_quiet servers (lit "TRANSFER:ENTER") (resolvedUrl servers context.config src)
      (resolvedUrl servers context.config dst) (context.config.gridFtpSwitch (lit "IPV6"))).bind fun _ =>
        (RaisesNoMismatch.event domainGsiftp .none (lit "TRANSFER:TYPE") (lit "3rd push")).bind fun _ =>
          RaisesNoMismatch.pure (⟨resolvedUrl servers context.config src, resolvedUrl servers context.config dst, mode, type, user,
            s⟩ : PreparedCopy)) _ _ _ h
    refine ⟨hsource.made.trans hrest.1, fun e he hmismatch => absurd hmismatch (hrest.2 e he), fun p hp => ?_⟩
    subst hp
    obtain ⟨e, -, hthrown⟩ | ⟨_, entered, hentered, h⟩ := run_bind_eq_ok h
    · cases hthrown
    obtain ⟨e, -, hthrown⟩ | ⟨_, typed, htyped, h⟩ := run_bind_eq_ok h
    · cases hthrown
    cases h
    refine ⟨rfl, hsettings, fun hmode => ?_⟩
    obtain ⟨hobtained, hcompared⟩ := hsource.found s rfl hmode
    exact ⟨hobtained.mono (List.prefix_refl _) hrest.1, hcompared⟩

structure DestinationChecked (servers : GridFtpServers) (p : PreparedCopy) (before after : GridFtpHistory)
    (outcome : Except CppException Unit) : Prop where
  made : before <+: after
  mismatch : ∀ e, outcome = .error e → e.IsMismatch → p.checksumMode.hasTarget = true ∧
    ∃ d, Obtained servers p.dst before after d ∧
    gfalCompareChecksums (if p.checksumMode.hasSource then p.checksumSrc else p.checksumUserDefined) d gfalUrlMaxLen ≠ 0
  found : outcome = .ok () → p.checksumMode.hasTarget = true → ∃ d, Obtained servers p.dst before after d ∧
    gfalCompareChecksums (if p.checksumMode.hasSource then p.checksumSrc else p.checksumUserDefined) d gfalUrlMaxLen = 0

theorem gridFtpCheckDestination_run (hplain : servers.Plain) (htarget : p.checksumMode.hasTarget = true)
    (h : (gridFtpCheckDestination servers p).run context = .ok (outcome, after)) :
    DestinationChecked servers p context.world.made after.world.made outcome := by
  unfold gridFtpCheckDestination at h
  obtain ⟨e, hevent, -⟩ | ⟨_, entered, hevent, h⟩ := run_bind_eq_ok h
  · cases (made_of_event hevent).2
  replace hevent := (made_of_event hevent).1
  obtain ⟨e, hasked, rfl⟩ | ⟨d, answered, hasked, h⟩ := run_bind_eq_ok h
  · obtain ⟨hanswer, hmade, -⟩ := obtains_of_request hasked
    rw [hevent] at hmade
    refine ⟨hmade, fun e' he' hmismatch => ?_, fun hok => by cases hok⟩
    cases he'
    exact absurd hmismatch (hplain.checksum _ _ _ _ hanswer.symm)
  obtain ⟨-, hanswered, hobtained⟩ := obtains_of_request hasked
  replace hobtained := hobtained d rfl
  rw [hevent] at hanswered hobtained
  obtain ⟨e, hexit, -⟩ | ⟨_, left, hexit, h⟩ := run_bind_eq_ok h
  · cases (made_of_event hexit).2
  replace hexit := (made_of_event hexit).1
  rw [← hexit] at hanswered hobtained
  have hverdict : after.world.made = left.world.made ∧
      ((gfalCompareChecksums (if p.checksumMode.hasSource then p.checksumSrc else p.checksumUserDefined) d gfalUrlMaxLen ≠ 0 ∧
          ∃ e, outcome = .error e) ∨
        (gfalCompareChecksums (if p.checksumMode.hasSource then p.checksumSrc else p.checksumUserDefined) d gfalUrlMaxLen = 0 ∧
          outcome = .ok ())) := by
    by_cases hsource : p.checksumMode.hasSource = true
    · rw [if_pos hsource] at h ⊢
      split at h
      · rename_i hdiffer
        cases h
        exact ⟨rfl, .inl ⟨hdiffer, _, rfl⟩⟩
      · rename_i hsame
        cases h
        exact ⟨rfl, .inr ⟨not_not.mp hsame, rfl⟩⟩
    · rw [if_neg hsource] at h ⊢
      split at h
      · rename_i hdiffer
        cases h
        exact ⟨rfl, .inl ⟨hdiffer, _, rfl⟩⟩
      · rename_i hsame
        cases h
        exact ⟨rfl, .inr ⟨not_not.mp hsame, rfl⟩⟩
  obtain ⟨hmade, hverdict⟩ := hverdict
  rw [hmade]
  obtain ⟨hdiffer, e, rfl⟩ | ⟨hsame, rfl⟩ := hverdict
  · exact ⟨hanswered, fun _ _ _ => ⟨htarget, d, hobtained, hdiffer⟩, fun hok => by cases hok⟩
  · exact ⟨hanswered, fun e he => (by cases he), fun _ _ => ⟨d, hobtained, hsame⟩⟩

theorem finishFilecopy_run (hplain : servers.Plain) (h : (finishFilecopy servers p).run context = .ok (outcome, after)) :
    DestinationChecked servers p context.world.made after.world.made outcome := by
  rw [finishFilecopy, run_bind_of_ok (run_lift_of_ok (Exec.get_apply context))] at h
  have hquiet := triggerTransfer_quiet servers (lit "TRANSFER:EXIT") p.src p.dst (context.config.gridFtpSwitch (lit "IPV6"))
  obtain ⟨e, hthrown, rfl⟩ | ⟨_, left, hleft, h⟩ := run_bind_eq_ok h
  · refine ⟨(hquiet _ _ _ hthrown).1, fun e' he' hmismatch => ?_, fun hok => by cases hok⟩
    cases he'
    exact absurd hmismatch ((hquiet _ _ _ hthrown).2 e rfl)
  obtain ⟨hmade, -⟩ := hquiet _ _ _ hleft
  split at h
  · rename_i htarget
    have hchecked := gridFtpCheckDestination_run hplain htarget h
    refine ⟨hmade.trans hchecked.made, fun e he hmismatch => ?_, fun hok htarget => ?_⟩
    · obtain ⟨-, d, hobtained, hdiffer⟩ := hchecked.mismatch e he hmismatch
      exact ⟨htarget, d, hobtained.mono hmade (List.prefix_refl _), hdiffer⟩
    · obtain ⟨d, hobtained, hsame⟩ := hchecked.found hok htarget
      exact ⟨d, hobtained.mono hmade (List.prefix_refl _), hsame⟩
  · rename_i htarget
    cases h
    exact ⟨hmade, fun e he => (by cases he), fun _ h => absurd h htarget⟩

end Comparisons

/-! ### Copies whose checksum errors are real -/

section Real

/-- A checksum of the copy: the one that the user gave, or one that was obtained. -/
def Known (servers : GridFtpServers) (params : GfaltParams) (src dst : CString) (before after : GridFtpHistory) (chk : CString) : Prop :=
  (userChecksum params ≠ [] ∧ chk = userChecksum params) ∨ Obtained servers src before after chk ∨
    Obtained servers dst before after chk

/-- A mismatch is raised only for two checksums that are known and differ, and a copy that succeeds has compared the checksum of its
destination, if that is to be checked, with the one of the user or else with that of the source. -/
structure ChecksumsReal (servers : GridFtpServers) (params : GfaltParams) (src dst : CString) (before after : GridFtpHistory)
    (outcome : Except CppException Unit) : Prop where
  mismatch : ∀ e, outcome = .error e → e.IsMismatch → ∃ chk chk', Known servers params src dst before after chk ∧
    Known servers params src dst before after chk' ∧ gfalCompareChecksums chk chk' gfalUrlMaxLen ≠ 0
  target : outcome = .ok () → (requestedChecks params).hasTarget = true → ∃ d, Obtained servers dst before after d ∧
    if userChecksum params = [] then ∃ s, Obtained servers src before after s ∧ gfalCompareChecksums s d gfalUrlMaxLen = 0
    else gfalCompareChecksums (userChecksum params) d gfalUrlMaxLen = 0

/-- Every copy with these settings is such a copy, whatever the servers answer. -/
def RealCopies (config : Config) (params : GfaltParams) : Prop :=
  ∀ (servers : GridFtpServers) (src dst : CString) (context after : Gfal2Context GridFtpWorld) (outcome : Except CppException Unit),
    servers.Plain → context.config = config → (gridFtpFilecopy servers params src dst).run context = .ok (outcome, after) →
      ChecksumsReal servers params (resolvedUrl servers config src) (resolvedUrl servers config dst) context.world.made
        after.world.made outcome

/-- Whatever is compared has a value: a destination that is not compared with its source is compared with a value of the user, unless
there is no type of checksums and no copy, and that value is not cut, or is nothing but zeros, or is too long for any checksum
that only the source could have. -/
structure ChecksHaveValues (config : Config) (params : GfaltParams) : Prop where
  compared : effectiveChecks config params = .target → TypeKnown config params → userChecksum params ≠ []
  whole : effectiveChecks config params ≠ .none → Zeros (userChecksum params) ∨ (userChecksum params).length < gfalUrlMaxLen ∨
    (effectiveChecks config params = .source ∧ gfalUrlMaxLen ≤ (canonicalChecksum (userChecksum params)).length)

theorem Obtained.fits (hplain : servers.Plain) {url chk : CString} {after : GridFtpHistory}
    (h : Obtained servers url before after chk) : chk.length < gfalUrlMaxLen := by
  obtain ⟨asked, type, -, -, hanswer⟩ := h
  exact hplain.fits url type asked chk hanswer

theorem sameChecksum_cut {chk : CString}
    (hshort : Zeros (userChecksum params) ∨ (userChecksum params).length < gfalUrlMaxLen) :
    SameChecksum ((userChecksum params).take (gfalUrlMaxLen - 1)) chk ↔ SameChecksum (userChecksum params) chk := by
  obtain hzeros | hlength := hshort
  · exact sameChecksum_of_zeros (hzeros.take _) hzeros chk
  · rw [List.take_of_length_le (by omega)]

/-- A checksum that differs from what is left of the user's value differs from the value. -/
theorem ChecksHaveValues.differs {chk : CString} (h : ChecksHaveValues config params) (hchecks : effectiveChecks config params ≠ .none)
    (hfits : chk.length < gfalUrlMaxLen)
    (hdiffer : gfalCompareChecksums ((userChecksum params).take (gfalUrlMaxLen - 1)) chk gfalUrlMaxLen ≠ 0) :
    gfalCompareChecksums (userChecksum params) chk gfalUrlMaxLen ≠ 0 := by
  rw [ne_eq, gfalCompareChecksums_fits_iff hfits] at hdiffer ⊢
  rcases h.whole hchecks with hzeros | hlength | ⟨-, hlong⟩
  · rwa [← sameChecksum_cut (.inl hzeros)]
  · rwa [← sameChecksum_cut (.inr hlength)]
  · intro hsame
    have hlength := length_canonicalChecksum_le chk
    rw [← hsame] at hlength
    omega

/-- A destination that agrees with what is left of the user's value agrees with the value. -/
theorem ChecksHaveValues.same {chk : CString} (h : ChecksHaveValues config params)
    (htarget : (effectiveChecks config params).hasTarget = true)
    (hsame : SameChecksum ((userChecksum params).take (gfalUrlMaxLen - 1)) chk) : SameChecksum (userChecksum params) chk := by
  have hchecks : effectiveChecks config params ≠ .none := by
    intro hnone
    rw [hnone] at htarget
    cases htarget
  rcases h.whole hchecks with hzeros | hlength | ⟨hsource, -⟩
  · exact (sameChecksum_cut (.inl hzeros)).mp hsame
  · exact (sameChecksum_cut (.inr hlength)).mp hsame
  · rw [hsource] at htarget
    cases htarget

theorem ChecksumMode.eq_target_of_hasTarget (htarget : mode.hasTarget = true) (hsource : ¬mode.hasSource = true) : mode = .target := by
  by_contra hne
  exact hsource (ChecksumMode.hasSource_of_target htarget hne)

/-- A copy in which what is compared has a value. -/
theorem realCopies_of_values (h : ChecksHaveValues config params) : RealCopies config params := by
  intro servers src dst context after outcome hplain hconfig hrun
  subst hconfig
  have hread : ∀ {mode type user}, copyChecksum servers context.config params = .ok (mode, type, user) →
      mode = effectiveChecks context.config params ∧ (mode ≠ .none → user = (userChecksum params).take (gfalUrlMaxLen - 1) ∧
        (userChecksum params = [] → TypeKnown context.config params)) := by
    intro mode type user hsettings
    obtain ⟨-, -, -, hmissing⟩ | ⟨type', user', hok, hread⟩ := copyChecksum_cases servers context.config params
    · rw [hmissing] at hsettings
      cases hsettings
    · rw [hok] at hsettings
      cases hsettings
      exact ⟨rfl, hread⟩
  have hnone : ∀ {mode : ChecksumMode}, mode.hasSource = true ∨ mode.hasTarget = true → mode ≠ .none := by
    rintro mode h rfl
    obtain h | h := h <;> cases h
  have htake : (userChecksum params).take (gfalUrlMaxLen - 1) ≠ [] ↔ userChecksum params ≠ [] := by simp
  rw [gridFtpFilecopy] at hrun
  obtain ⟨e, hprepared, rfl⟩ | ⟨p, prepared, hprepared, hrun⟩ := run_bind_eq_ok hrun
  · obtain ⟨-, hmismatch, -⟩ := prepareFilecopy_run hplain hprepared
    refine ⟨fun e' he' hraised => ?_, fun hok => by cases hok⟩
    cases he'
    obtain ⟨mode, type, user, hsettings, hsource, huser, s, hobtained, hdiffer⟩ := hmismatch e rfl hraised
    obtain ⟨rfl, hvalue⟩ := hread hsettings
    have hchecks := hnone (.inl hsource)
    rw [(hvalue hchecks).1] at huser hdiffer
    exact ⟨_, s, .inl ⟨htake.mp huser, rfl⟩, .inr (.inl hobtained), h.differs hchecks (hobtained.fits hplain) hdiffer⟩
  · obtain ⟨hmade, -, hcopy⟩ := prepareFilecopy_run hplain hprepared
    have hp := hcopy p rfl
    obtain ⟨hmode, hvalue⟩ := hread hp.settings
    have htransfer := (copyFileInternal_quiet hplain params p.src p.dst).catch fun e he => transferHandler_quiet hplain p.dst he
    obtain ⟨e, hthrown, rfl⟩ | ⟨_, copied, hcopied, hrun⟩ := run_bind_eq_ok hrun
    · refine ⟨fun e' he' hraised => ?_, fun hok => by cases hok⟩
      cases he'
      exact absurd hraised ((htransfer _ _ _ hthrown).2 e rfl)
    obtain ⟨hmade', -⟩ := htransfer _ _ _ hcopied
    have hfinish := finishFilecopy_run hplain hrun
    have hsource : p.checksumMode.hasSource = true → Obtained servers (resolvedUrl servers context.config src) context.world.made
        after.world.made p.checksumSrc ∧
          (userChecksum params ≠ [] → SameChecksum ((userChecksum params).take (gfalUrlMaxLen - 1)) p.checksumSrc) := by
      intro hsource
      obtain ⟨hobtained, hcompared⟩ := hp.source hsource
      rw [(hvalue (hnone (.inl hsource))).1] at hcompared
      refine ⟨hobtained.mono (List.prefix_refl _) (hmade'.trans hfinish.made), fun huser => ?_⟩
      exact (gfalCompareChecksums_fits_iff (hobtained.fits hplain)).mp (hcompared (htake.mpr huser))
    have hdestination : ∀ {d}, Obtained servers p.dst copied.world.made after.world.made d →
        Obtained servers (resolvedUrl servers context.config dst) context.world.made after.world.made d :=
      fun hobtained => hp.dst_eq ▸ hobtained.mono (hmade.trans hmade') (List.prefix_refl _)
    -- Without the source there is the value of the user.
    have huser : p.checksumMode.hasTarget = true → ¬p.checksumMode.hasSource = true → userChecksum params ≠ [] := by
      intro htarget hnot hempty
      have hmode' := ChecksumMode.eq_target_of_hasTarget htarget hnot
      exact h.compared (hmode.symm.trans hmode') ((hvalue (hnone (.inr htarget))).2 hempty) hempty
    refine ⟨fun e he hraised => ?_, fun hok hrequested => ?_⟩
    · obtain ⟨htarget, d, hobtained, hdiffer⟩ := hfinish.mismatch e he hraised
      have hknown := hdestination hobtained
      by_cases hmode' : p.checksumMode.hasSource = true
      · rw [if_pos hmode'] at hdiffer
        exact ⟨_, d, .inr (.inl (hsource hmode').1), .inr (.inr hknown), hdiffer⟩
      · rw [if_neg hmode', (hvalue (hnone (.inr htarget))).1] at hdiffer
        exact ⟨_, d, .inl ⟨huser htarget hmode', rfl⟩, .inr (.inr hknown),
          h.differs (hmode ▸ hnone (.inr htarget)) (hobtained.fits hplain) hdiffer⟩
    · have htarget : p.checksumMode.hasTarget = true := by rw [hmode, effectiveChecks_hasTarget, hrequested]
      obtain ⟨d, hobtained, hsame⟩ := hfinish.found hok htarget
      refine ⟨d, hdestination hobtained, ?_⟩
      by_cases hmode' : p.checksumMode.hasSource = true
      · obtain ⟨hknown, hcompared⟩ := hsource hmode'
        rw [if_pos hmode'] at hsame
        split
        · exact ⟨_, hknown, hsame⟩
        · rename_i hgiven
          have htransitive := (hcompared hgiven).trans ((gfalCompareChecksums_fits_iff (hobtained.fits hplain)).mp hsame)
          exact (gfalCompareChecksums_fits_iff (hobtained.fits hplain)).mpr (h.same (hmode ▸ htarget) htransitive)
      · rw [if_neg hmode', (hvalue (hnone (.inr htarget))).1, gfalCompareChecksums_fits_iff (hobtained.fits hplain)] at hsame
        rw [if_neg (huser htarget hmode')]
        exact (gfalCompareChecksums_fits_iff (hobtained.fits hplain)).mpr (h.same (hmode ▸ htarget) hsame)

end Real

/-! ### Copies of one checksum -/

section Agreeing

variable {α β : Type}

/-- With this configuration the computation comes to this end. -/
def ComesTo (config : Config) (computation : GridFtp α) (outcome : Except CppException α) : Prop :=
  ∀ context, context.config = config → ∃ after, computation.run context = .ok (outcome, after) ∧ after.config = config

theorem ComesTo.pure (value : α) : ComesTo config (pure value) (.ok value) := fun context hconfig => ⟨context, rfl, hconfig⟩

theorem ComesTo.throw (e : CppException) : ComesTo config (throw e : GridFtp α) (.error e) :=
  fun context hconfig => ⟨context, rfl, hconfig⟩

theorem ComesTo.bind {first : GridFtp α} {next : α → GridFtp β} {value : α} {outcome : Except CppException β}
    (hfirst : ComesTo config first (.ok value)) (hnext : ComesTo config (next value) outcome) :
    ComesTo config (first >>= next) outcome := by
  intro context hconfig
  obtain ⟨reached, hrun, hreached⟩ := hfirst context hconfig
  obtain ⟨after, hrest, hafter⟩ := hnext reached hreached
  exact ⟨after, (run_bind_of_ok hrun).trans hrest, hafter⟩

theorem ComesTo.bind_throw {first : GridFtp α} {next : α → GridFtp β} (hfirst : ComesTo config first (.error e)) :
    ComesTo config (first >>= next) (.error e) := by
  intro context hconfig
  obtain ⟨reached, hrun, hreached⟩ := hfirst context hconfig
  exact ⟨reached, run_bind_of_throw hrun, hreached⟩

theorem ComesTo.catch_ok {body : GridFtp α} {handler : CppException → GridFtp α} {value : α}
    (hbody : ComesTo config body (.ok value)) :
    ComesTo config (tryCatch body handler) (.ok value) := by
  intro context hconfig
  obtain ⟨reached, hrun, hreached⟩ := hbody context hconfig
  exact ⟨reached, run_catch_of_ok hrun, hreached⟩

theorem ComesTo.catch_throw {body : GridFtp α} {handler : CppException → GridFtp α}
    {outcome : Except CppException α} (hbody : ComesTo config body (.error e)) (hhandler : ComesTo config (handler e) outcome) :
    ComesTo config (tryCatch body handler) outcome := by
  intro context hconfig
  obtain ⟨reached, hrun, hreached⟩ := hbody context hconfig
  obtain ⟨after, hrest, hafter⟩ := hhandler reached hreached
  exact ⟨after, (run_catch_of_throw hrun).trans hrest, hafter⟩

theorem ComesTo.request {request : GridFtpRequest} {answer : GridFtpHistory → Except CppException α} {outcome : Except CppException α}
    (h : ∀ history, answer history = outcome) : ComesTo config (gridFtpRequest request answer) outcome := by
  intro context hconfig
  exact ⟨asked context request, by rw [gridFtpRequest_run, h], hconfig⟩

theorem ComesTo.event (domain : GQuark) (side : GfalEventSide) (stage description : CString) :
    ComesTo config (triggerEvent domain side stage description) (.ok ()) := fun _ hconfig => ⟨_, rfl, hconfig⟩

theorem ComesTo.get {next : Gfal2Context GridFtpWorld → GridFtp β} {outcome : Except CppException β}
    (h : ∀ context, context.config = config → ComesTo config (next context) outcome) :
    ComesTo config ((liftM (Exec.get : Gfal GridFtpWorld _) : GridFtp _) >>= next) outcome := by
  intro context hconfig
  obtain ⟨after, hrun, hafter⟩ := h context hconfig context hconfig
  exact ⟨after, (run_bind_of_ok (run_lift_of_ok (Exec.get_apply context))).trans hrun, hafter⟩

/-- Servers on which there are no files but every transfer is done, and each file has this checksum. -/
def agreeingServers (chk : CString) : GridFtpServers where
  stat _ _ := .error (.core ⟨lit "GridFTPModule", ENOENT, lit "No such file or directory"⟩)
  unlink _ _ := .ok ()
  checksum _ _ _ := .ok chk
  mkdirRec _ _ _ := none
  session _ _ := .ok ()
  transfer _ _ _ _ := .ok ()
  resolveDnsToHostname _ := none
  lookupHost _ _ := lit "cant.be.resolved"
  missingValue := ⟨lit "g-key-file-error-quark", 3, []⟩

variable {chk : CString} {p : PreparedCopy}

theorem agreeingServers_plain (hfits : chk.length < gfalUrlMaxLen) : (agreeingServers chk).Plain where
  stat _ _ e he := by
    cases he
    exact id
  unlink _ _ e he := by cases he
  checksum _ _ _ e he := by cases he
  session _ _ e he := by cases he
  transfer _ _ _ _ e he := by cases he
  fits _ _ _ c hc := by
    cases hc
    exact hfits

/-- A checksum that is known is the one of the files or the one of the user. -/
theorem known_of_agreeing {src dst c : CString} {after : GridFtpHistory}
    (h : Known (agreeingServers chk) params src dst before after c) :
    c = chk ∨ (userChecksum params ≠ [] ∧ c = userChecksum params) := by
  have hobtained : ∀ {url}, Obtained (agreeingServers chk) url before after c → c = chk := by
    rintro url ⟨asked, type, -, -, hanswer⟩
    cases hanswer
    rfl
  obtain hgiven | hsrc | hdst := h
  · exact .inr hgiven
  · exact .inl (hobtained hsrc)
  · exact .inl (hobtained hdst)

theorem comesTo_returnHostAndPort {uri : CString} (herr : (gfal2ParseUri uri).err = none) (hval : (gfal2ParseUri uri).val.isSome = true)
    (useIpv6 : Bool) : ∃ text, ComesTo config (returnHostAndPort (agreeingServers chk) uri useIpv6) (.ok text) := by
  unfold returnHostAndPort
  split
  case h_1 h => simp [h] at herr
  case h_2 h => simp [h] at hval
  case h_3 parsed h => exact ⟨_, ComesTo.pure _⟩

theorem comesTo_triggerTransfer {src dst : CString} (hsrc : (gfal2ParseUri src).err = none) (hsrc' : (gfal2ParseUri src).val.isSome = true)
    (hdst : (gfal2ParseUri dst).err = none) (hdst' : (gfal2ParseUri dst).val.isSome = true) (stage : CString) (useIpv6 : Bool) :
    ComesTo config (triggerTransfer (agreeingServers chk) stage src dst useIpv6) (.ok ()) := by
  obtain ⟨srcHost, hsrcHost⟩ := @comesTo_returnHostAndPort config chk src hsrc hsrc' useIpv6
  obtain ⟨dstHost, hdstHost⟩ := @comesTo_returnHostAndPort config chk dst hdst hdst' useIpv6
  exact hsrcHost.bind (hdstHost.bind (ComesTo.event _ _ _ _))

theorem comesTo_transfer (src dst : CString) (hdst : (parentInBuffer dst).isSome = true) (hlength : dst.length ≤ gfalUrlMaxLen) :
    ComesTo config (gridftpFilecopyCopyFileInternal (agreeingServers chk) params src dst) (.ok ()) := by
  have hmissing : ∀ url, ComesTo config (gridFtpRequest (.stat url) ((agreeingServers chk).stat url))
      (.error (.core ⟨lit "GridFTPModule", ENOENT, lit "No such file or directory"⟩)) := fun url => ComesTo.request fun _ => rfl
  have hexisting : ComesTo config (gridftpFilecopyDeleteExisting (agreeingServers chk) params dst) (.ok false) :=
    ComesTo.bind (ComesTo.catch_throw (ComesTo.bind_throw (hmissing dst)) (ComesTo.pure false)) (ComesTo.pure false)
  have hparent : ComesTo config (gridftpCreateParentCopy (agreeingServers chk) params dst) (.ok ()) := by
    obtain ⟨parent, hparent⟩ := Option.isSome_iff_exists.mp hdst
    unfold gridftpCreateParentCopy
    rw [hparent]
    split
    · rw [if_neg (by omega)]
      refine ComesTo.bind (ComesTo.catch_throw (ComesTo.bind_throw (hmissing parent)) (ComesTo.pure false)) ?_
      intro context hconfig
      exact ⟨asked context (.mkdirRec parent 0o755), rfl, hconfig⟩
    · exact ComesTo.pure ()
  unfold gridftpFilecopyCopyFileInternal
  extract_lets transfer
  have hrest : ∀ done, ComesTo config (transfer done) (.ok ()) := by
    intro done
    refine ComesTo.bind (ComesTo.request fun _ => rfl) (ComesTo.get fun context hconfig => ?_)
    extract_lets enableUdt copy
    have hcopy : ∀ done, ComesTo config (copy done) (.ok ()) := by
      intro done
      exact ComesTo.catch_ok (ComesTo.request fun _ => rfl)
    split
    · exact ComesTo.bind (ComesTo.event _ _ _ _) (hcopy ())
    · exact hcopy ()
  split
  · exact ComesTo.bind hexisting (ComesTo.bind hparent (hrest ()))
  · exact hrest ()

theorem resolvedUrl_agreeing (config : Config) (url : CString) : resolvedUrl (agreeingServers chk) config url = url := by
  have hnone : resolveDnsHelper (agreeingServers chk) url = none := by
    unfold resolveDnsHelper
    split <;> rfl
  rw [resolvedUrl, hnone]
  split <;> rfl

/-- The two files of the copies. -/
abbrev agreeingSrc : CString := lit "gsiftp://a/f"
abbrev agreeingDst : CString := lit "gsiftp://b/f"

theorem comesTo_entered (stage : CString) (useIpv6 : Bool) :
    ComesTo config (triggerTransfer (agreeingServers chk) stage agreeingSrc agreeingDst useIpv6) (.ok ()) :=
  comesTo_triggerTransfer (by decide +kernel) (by decide +kernel) (by decide +kernel) (by decide +kernel) stage useIpv6

/-- The source of a copy that goes by a value of the user that its files do not have. -/
theorem comesTo_source_mismatch (hsettings : copyChecksum (agreeingServers chk) config params = .ok (mode, type, user))
    (hsource : mode.hasSource = true) (huser : user ≠ []) (hdiffer : gfalCompareChecksums user chk gfalUrlMaxLen ≠ 0) :
    ∃ e : CppException, e.IsMismatch ∧
      ComesTo config (gridFtpFilecopy (agreeingServers chk) params agreeingSrc agreeingDst) (.error e) := by
  refine ⟨checksumMismatch (lit "USER_DEFINE and SRC checksums are different. " ++ user ++ lit " != " ++ chk), rfl,
    ComesTo.bind_throw (ComesTo.get fun context hconfig => ?_)⟩
  dsimp only
  rw [hconfig, hsettings]
  refine ComesTo.bind_throw ?_
  unfold gridFtpCheckSource
  rw [if_pos hsource]
  refine ComesTo.bind (ComesTo.event _ _ _ _) (ComesTo.bind (ComesTo.request fun _ => rfl) (ComesTo.bind (ComesTo.event _ _ _ _) ?_))
  refine ComesTo.bind_throw ?_
  unfold compareSource
  rw [if_pos ⟨huser, hdiffer⟩]
  exact ComesTo.throw _

/-- What is prepared for a copy where the source agrees with the value of the user. -/
theorem comesTo_prepared (hsettings : copyChecksum (agreeingServers chk) config params = .ok (mode, type, user))
    (hagrees : mode.hasSource = true → user = [] ∨ gfalCompareChecksums user chk gfalUrlMaxLen = 0) :
    ComesTo config (prepareFilecopy (agreeingServers chk) params agreeingSrc agreeingDst)
      (.ok ⟨agreeingSrc, agreeingDst, mode, type, user, if mode.hasSource then chk else []⟩) := by
  have hchecked : ComesTo config (gridFtpCheckSource (agreeingServers chk) mode agreeingSrc type user)
      (.ok (if mode.hasSource then chk else [])) := by
    unfold gridFtpCheckSource
    split
    · rename_i hsource
      have hcompared : ComesTo config (compareSource user chk) (.ok ()) := by
        unfold compareSource
        rw [if_neg]
        · exact ComesTo.pure ()
        · intro ⟨huser, hdiffer⟩
          obtain hempty | hsame := hagrees hsource
          · exact huser hempty
          · exact hdiffer hsame
      refine ComesTo.bind (ComesTo.event _ _ _ _) (ComesTo.bind (ComesTo.request fun _ => rfl) (ComesTo.bind (ComesTo.event _ _ _ _) ?_))
      exact hcompared.bind (ComesTo.pure chk)
    · exact ComesTo.pure []
  refine ComesTo.get fun context hconfig => ?_
  dsimp only
  rw [hconfig, hsettings, resolvedUrl_agreeing, resolvedUrl_agreeing]
  exact hchecked.bind ((comesTo_entered _ _).bind ((ComesTo.event _ _ _ _).bind (ComesTo.pure _)))

/-- The end of a copy is the check of its destination. -/
theorem comesTo_finished (hsrc : p.src = agreeingSrc) (hdst : p.dst = agreeingDst) (htarget : p.checksumMode.hasTarget = true)
    (hchecked : ComesTo config (gridFtpCheckDestination (agreeingServers chk) p) outcome) :
    ComesTo config (finishFilecopy (agreeingServers chk) p) outcome := by
  refine ComesTo.get fun context hconfig => ?_
  rw [hsrc, hdst]
  refine (comesTo_entered _ _).bind ?_
  rw [if_pos htarget]
  exact hchecked

/-- A destination that agrees with what it is compared with. -/
theorem comesTo_agreed
    (hsame : gfalCompareChecksums (if p.checksumMode.hasSource then p.checksumSrc else p.checksumUserDefined) chk gfalUrlMaxLen = 0) :
    ComesTo config (gridFtpCheckDestination (agreeingServers chk) p) (.ok ()) := by
  unfold gridFtpCheckDestination
  refine ComesTo.bind (ComesTo.event _ _ _ _) (ComesTo.bind (ComesTo.request fun _ => rfl) (ComesTo.bind (ComesTo.event _ _ _ _) ?_))
  by_cases hsource : p.checksumMode.hasSource = true
  · rw [if_pos hsource] at hsame ⊢
    rw [if_neg (not_not.mpr hsame)]
    exact ComesTo.pure ()
  · rw [if_neg hsource] at hsame ⊢
    rw [if_neg (not_not.mpr hsame)]
    exact ComesTo.pure ()

/-- A destination that is not compared with its source and does not have the value of the user. -/
theorem comesTo_target_mismatch (hsource : ¬p.checksumMode.hasSource = true)
    (hdiffer : gfalCompareChecksums p.checksumUserDefined chk gfalUrlMaxLen ≠ 0) :
    ∃ e : CppException, e.IsMismatch ∧ ComesTo config (gridFtpCheckDestination (agreeingServers chk) p) (.error e) := by
  refine ⟨checksumMismatch (lit "USER_DEFINE and DST checksums are different. " ++ p.checksumUserDefined ++ lit " != " ++ chk), rfl, ?_⟩
  unfold gridFtpCheckDestination
  refine ComesTo.bind (ComesTo.event _ _ _ _) (ComesTo.bind (ComesTo.request fun _ => rfl) (ComesTo.bind (ComesTo.event _ _ _ _) ?_))
  rw [if_neg hsource, if_pos hdiffer]
  exact ComesTo.throw _

theorem comesTo_copied {outcome : Except CppException Unit}
    (hprepared : ComesTo config (prepareFilecopy (agreeingServers chk) params agreeingSrc agreeingDst) (.ok p))
    (hdst : p.dst = agreeingDst) (hfinished : ComesTo config (finishFilecopy (agreeingServers chk) p) outcome) :
    ComesTo config (gridFtpFilecopy (agreeingServers chk) params agreeingSrc agreeingDst) outcome := by
  refine hprepared.bind (ComesTo.bind (ComesTo.catch_ok (comesTo_transfer p.src p.dst ?_ ?_)) hfinished)
  · rw [hdst]
    decide
  · rw [hdst]
    decide

/-- A copy with a check of its destination whose user gave, cut or not, what its files have. -/
theorem comesTo_success (hsettings : copyChecksum (agreeingServers chk) config params = .ok (mode, type, user))
    (htarget : mode.hasTarget = true) (hsame : gfalCompareChecksums user chk gfalUrlMaxLen = 0) :
    ComesTo config (gridFtpFilecopy (agreeingServers chk) params agreeingSrc agreeingDst) (.ok ()) := by
  refine comesTo_copied (comesTo_prepared hsettings fun _ => .inr hsame) rfl (comesTo_finished rfl rfl htarget (comesTo_agreed ?_))
  split
  · exact gfalCompareChecksums_of_same rfl
  · exact hsame

/-- A copy whose files do not have the checksum that its user gave, or that it takes for it. -/
theorem comesTo_mismatch (hsettings : copyChecksum (agreeingServers chk) config params = .ok (mode, type, user))
    (hchecked : mode.hasSource = true ∧ user ≠ [] ∨ mode = .target) (hdiffer : gfalCompareChecksums user chk gfalUrlMaxLen ≠ 0) :
    ∃ e : CppException, e.IsMismatch ∧
      ComesTo config (gridFtpFilecopy (agreeingServers chk) params agreeingSrc agreeingDst) (.error e) := by
  obtain ⟨hsource, huser⟩ | rfl := hchecked
  · exact comesTo_source_mismatch hsettings hsource huser hdiffer
  · have hprepared := comesTo_prepared hsettings fun h => by cases h
    obtain ⟨e, he, hchecked⟩ := @comesTo_target_mismatch config chk
      ⟨agreeingSrc, agreeingDst, .target, type, user, []⟩ (show ¬ChecksumMode.target.hasSource = true by decide) hdiffer
    exact ⟨e, he, comesTo_copied hprepared rfl (comesTo_finished rfl rfl rfl hchecked)⟩

/-- Where the copies raise no mismatch but a real one, a copy of one checksum comes to no other. -/
theorem RealCopies.of_agreeing (hreal : RealCopies config params) (hfits : chk.length < gfalUrlMaxLen)
    (hrun : ComesTo config (gridFtpFilecopy (agreeingServers chk) params agreeingSrc agreeingDst) outcome) :
    ∃ src dst before after, ChecksumsReal (agreeingServers chk) params src dst before after outcome := by
  obtain ⟨after, hafter, -⟩ := hrun { config := config, world := { plugin := () } } rfl
  exact ⟨_, _, _, _, hreal _ _ _ _ _ _ (agreeingServers_plain hfits) rfl hafter⟩

theorem ChecksumMode.checks_of_ne_none (h : mode ≠ .none) : mode.hasSource = true ∨ mode = .target := by
  cases mode with
  | none => exact absurd rfl h
  | source => exact .inl rfl
  | target => exact .inr rfl
  | both => exact .inl rfl

/-- Copies whose mismatches are all real have a value for all that they compare. -/
theorem values_of_realCopies (hreal : RealCopies config params) : ChecksHaveValues config params := by
  -- No mismatch is raised where all that is known is the same.
  have hnever : ∀ {chk : CString} {mode type user}, chk.length < gfalUrlMaxLen →
      (userChecksum params ≠ [] → SameChecksum (userChecksum params) chk) →
      copyChecksum (agreeingServers chk) config params = .ok (mode, type, user) →
      (mode.hasSource = true ∧ user ≠ [] ∨ mode = .target) → gfalCompareChecksums user chk gfalUrlMaxLen = 0 := by
    intro chk mode type user hfits hsame hsettings hchecked
    by_contra hdiffer
    obtain ⟨e, he, hrun⟩ := comesTo_mismatch hsettings hchecked hdiffer
    obtain ⟨src, dst, before, after, hcopy⟩ := hreal.of_agreeing hfits hrun
    obtain ⟨c, c', hc, hc', hne⟩ := hcopy.mismatch e rfl he
    have hknown : ∀ {c}, Known (agreeingServers chk) params src dst before after c → SameChecksum c chk := by
      intro c hc
      obtain rfl | ⟨hgiven, rfl⟩ := known_of_agreeing hc
      · exact rfl
      · exact hsame hgiven
    exact hne (gfalCompareChecksums_of_same ((hknown hc).trans (hknown hc').symm))
  constructor
  · intro htarget hknown hempty
    obtain ⟨-, -, hunknown, -⟩ | ⟨type, user, hsettings, hread⟩ := copyChecksum_cases (agreeingServers (lit "1")) config params
    · exact hunknown hknown
    · have hchecks : effectiveChecks config params ≠ .none := by rw [htarget]; decide
      obtain ⟨rfl, -⟩ := hread hchecks
      rw [hempty, htarget] at hsettings
      have hzero := hnever (by decide) (fun hgiven => absurd hempty hgiven) hsettings (.inr rfl)
      exact absurd hzero (by decide)
  · intro hchecks
    by_contra hnot
    obtain ⟨hzeros, hrest⟩ := not_or.mp hnot
    obtain ⟨hlong, hsource⟩ := not_or.mp hrest
    have hbuffer : 0 < gfalUrlMaxLen := by decide
    have hgiven : userChecksum params ≠ [] := fun hempty => hzeros (by rw [hempty]; simp [Zeros])
    have hcut : ¬SameChecksum (userChecksum params) ((userChecksum params).take (gfalUrlMaxLen - 1)) :=
      not_sameChecksum_take (by omega) hzeros
    have hsettings : ∀ chk, ∃ type, copyChecksum (agreeingServers chk) config params =
        .ok (effectiveChecks config params, type, (userChecksum params).take (gfalUrlMaxLen - 1)) := by
      intro chk
      obtain ⟨-, hempty, -⟩ | ⟨type, user, hsettings, hread⟩ := copyChecksum_cases (agreeingServers chk) config params
      · exact absurd hempty hgiven
      · exact ⟨type, (hread hchecks).1 ▸ hsettings⟩
    by_cases hshort : (canonicalChecksum (userChecksum params)).length < gfalUrlMaxLen
    · -- Files with the value of the user without its zeros.
      have hsame : SameChecksum (userChecksum params) ((userChecksum params).dropWhile (· == '0')) := by
        unfold SameChecksum canonicalChecksum
        rw [List.dropWhile_idempotent]
      have hfits : ((userChecksum params).dropWhile (· == '0')).length < gfalUrlMaxLen := by
        rwa [canonicalChecksum, List.length_map] at hshort
      obtain ⟨type, hsettings⟩ := hsettings ((userChecksum params).dropWhile (· == '0'))
      have hzero := hnever hfits (fun _ => hsame) hsettings
        ((ChecksumMode.checks_of_ne_none hchecks).imp_left fun hsource => ⟨hsource, by simpa using hgiven⟩)
      rw [gfalCompareChecksums_fits_iff hfits] at hzero
      exact hcut (hsame.trans hzero.symm)
    · -- Files with what is left of the value of the user.
      have htarget : (effectiveChecks config params).hasTarget = true := by
        cases hmode : effectiveChecks config params with
        | none => exact absurd hmode hchecks
        | source => exact absurd ⟨hmode, by omega⟩ hsource
        | target => rfl
        | both => rfl
      have hfits : ((userChecksum params).take (gfalUrlMaxLen - 1)).length < gfalUrlMaxLen := by
        rw [List.length_take]
        omega
      obtain ⟨type, hsettings⟩ := hsettings ((userChecksum params).take (gfalUrlMaxLen - 1))
      have hrun := comesTo_success hsettings htarget (gfalCompareChecksums_of_same rfl)
      obtain ⟨src, dst, before, after, hcopy⟩ := hreal.of_agreeing hfits hrun
      obtain ⟨d, hobtained, hsame⟩ := hcopy.target rfl (by rw [← effectiveChecks_hasTarget config, htarget])
      rw [if_neg hgiven, gfalCompareChecksums_fits_iff (hobtained.fits (agreeingServers_plain hfits))] at hsame
      obtain ⟨asked, checked, -, -, hanswer⟩ := hobtained
      cases hanswer
      exact hcut hsame

end Agreeing

/-- The checksum errors of the copies are real, and their destinations are compared with what they are to be compared with, just when
there is a value for all that is compared. -/
theorem checksum_errors_real_iff (config : Config) (params : GfaltParams) : RealCopies config params ↔ ChecksHaveValues config params :=
  ⟨values_of_realCopies, realCopies_of_values⟩

/-- A configuration that leaves out the checks of sources. -/
def skippingConfig : Config :=
  { optBoolean := fun group key => if group = gridFtpGroup ∧ key = lit "SKIP_SOURCE_CHECKSUM" then some true else none }

/-- Both sides are to be checked, the source is left out, and the checksum of the destination is compared with an empty one. -/
theorem skipped_source_compared :
    ((gridFtpFilecopy (agreeingServers (lit "1")) { checksum := ⟨.both, some (lit "ADLER32"), none⟩ } agreeingSrc agreeingDst).run
      { config := skippingConfig, world := { plugin := () } }).toOption.map Prod.fst =
        some (.error (checksumMismatch (lit "USER_DEFINE and DST checksums are different.  != 1"))) ∧
    ¬RealCopies skippingConfig { checksum := ⟨.both, some (lit "ADLER32"), none⟩ } := by
  refine ⟨by decide +kernel, fun hreal => ?_⟩
  exact (values_of_realCopies hreal).compared (by decide) (.inl (by decide)) rfl

end Gfal2
