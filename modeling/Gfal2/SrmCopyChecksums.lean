import Gfal2.Checksums
import Gfal2.SrmCopyGrants
import Gfal2.SrmFailures
import Gfal2.SrmOperations

/-! What a copy by the SRM plugin that comes to a good end says of the checksums of its files. The copy is followed with a
record of the checksums it obtained, which changes nothing of it. -/

namespace Gfal2

open Base Exec Throwing

/-! ### The copy with a record of its checksums -/

/-- The checksums that were obtained. The one of a source that needs no answer is empty if it has none. -/
structure SrmSeen where
  source : Option CString := none
  destination : Option CString := none
  deriving DecidableEq

/-- `betweenEvents` for a checksum and what is made of it, with the checksum. -/
def betweenEventsSeen {α : Type} (side : GfalEventSide) (obtain : SrmThrowing CString) (compare : CString → SrmThrowing α) :
    Srm (Except GError α × Option CString) := do
  pluginTriggerEvent srmDomain side (lit "CHECKSUM:ENTER") []
  let obtained ← obtain.run
  let answer ← comparison obtained
  pluginTriggerEvent srmDomain side (lit "CHECKSUM:EXIT") []
  return (answer, obtained.toOption)
where
  comparison : Except GError CString → Srm (Except GError α)
    | .error e => return .error e
    | .ok checksum => (compare checksum).run

section Copy

variable (servers : SrmServers)

/-- What is asked for the checksum of the source. -/
def obtainSource (cfg : SrmChecksumConfig) (src : CString) : SrmThrowing CString :=
  withNote (lit "SOURCE") (lit "CHECKSUM") (gfalSrmChecksumGFallback servers src cfg.algorithm 2048 true cfg.mode.hasSource)

/-- What is asked for the checksum of the destination. -/
def obtainDestination (cfg : SrmChecksumConfig) (dst : CString) : SrmThrowing CString :=
  withNote (lit "DESTINATION") (lit "CHECKSUM") (gfalSrmChecksumGFallback servers dst cfg.algorithm 2048 true true)

def matchSource (cfg : SrmChecksumConfig) (source : CString) : SrmThrowing CString := do
  if cfg.mode.hasSource ∧ cfg.user ≠ [] ∧ gfalCompareChecksums source cfg.user 2048 ≠ 0 then
    throw (srmChecksumMismatch (lit "SOURCE")
      (lit "User defined checksum and source checksum do not match " ++ cfg.user ++ lit " != " ++ source))
  return source

def matchDestination (cfg : SrmChecksumConfig) (source destination : CString) : SrmThrowing Unit := do
  if destination = [] then
    throw (gfaltSetError srmQuark EINVAL (lit "DESTINATION") (lit "CHECKSUM") (lit "Empty destination checksum"))
  if source ≠ [] ∧ gfalCompareChecksums source destination 2048 ≠ 0 then
    throw (srmChecksumMismatch (lit "TRANSFER")
      (lit "Source and destination checksums do not match " ++ source ++ lit " != " ++ destination))
  if cfg.user ≠ [] ∧ gfalCompareChecksums cfg.user destination 2048 ≠ 0 then
    throw (srmChecksumMismatch (lit "TRANSFER")
      (lit "User defined checksum and destination checksums do not match " ++ cfg.user ++ lit " != " ++ destination))

/-- `copyChecked.sourceChecksum` with its record. -/
def sourceChecksumSeen (cfg : SrmChecksumConfig) (source : CString) : Srm (Except GError CString × SrmSeen) :=
  if cfg.mode ≠ .none then do
    let (answer, obtained) ← betweenEventsSeen .source (obtainSource servers cfg source) (matchSource cfg)
    return (answer, { source := obtained })
  else return (.ok [], {})

/-- `copyBetweenTurls.checkTarget` with its record, which goes on from that of the source. -/
def checkTargetSeen (cfg : SrmChecksumConfig) (dest checksumSource : CString) (seen : SrmSeen) : Srm (Except GError Unit × SrmSeen) :=
  if cfg.mode.hasTarget then do
    let (answer, obtained) ← betweenEventsSeen .destination (obtainDestination servers cfg dest) (matchDestination cfg checksumSource)
    return (answer, { seen with destination := obtained })
  else return (.ok (), seen)

/-- `copyBetweenTurls` with its record. -/
def copyBetweenTurlsSeen (params : GfaltParams) (cfg : SrmChecksumConfig) (dest checksumSource turlSource tokenSource turlDestination
    tokenDestination : CString) (seen : SrmSeen) : Srm (CopyEnd × SrmSeen) := do
  match ← (copyBetweenTurls.transfer servers params dest turlSource turlDestination tokenDestination).run with
  | .error e => return (⟨tokenSource, tokenDestination, false, some e⟩, seen)
  | .ok () =>
      match ← checkTargetSeen servers cfg dest checksumSource seen with
      | (.error e, seen) => return (⟨tokenSource, tokenDestination, true, some e⟩, seen)
      | (.ok (), seen) => return (⟨tokenSource, tokenDestination, true, none⟩, seen)

/-- `copyResolved` with its record. -/
def copyResolvedSeen (params : GfaltParams) (cfg : SrmChecksumConfig) (source dest checksumSource : CString) (seen : SrmSeen) :
    Srm (CopyEnd × SrmSeen) := do
  match ← (copyResolved.resolveSource servers source dest).run with
  | .error e => return ({ error := some e }, seen)
  | .ok (size, turlSource, tokenSource) =>
      match ← (srmResolvePutTurl servers params dest source size).run with
      | .error e => return ({ tokenSource := tokenSource, error := some e }, seen)
      | .ok (turlDestination, tokenDestination) =>
          copyBetweenTurlsSeen servers params cfg dest checksumSource turlSource tokenSource turlDestination tokenDestination seen

/-- `copyChecked` with its record. -/
def copyCheckedSeen (params : GfaltParams) (source dest : CString) : Srm (CopyEnd × SrmSeen) := do
  let context ← Exec.get
  match srmGetChecksumConfig servers context.config params with
  | .error e => return ({ error := some e }, {})
  | .ok cfg =>
      match ← sourceChecksumSeen servers cfg source with
      | (.error e, seen) => return ({ error := some e }, seen)
      | (.ok checksumSource, seen) => copyResolvedSeen servers params cfg source dest checksumSource seen

/-- `srmPluginFilecopy` with a record of the checksums it obtained. -/
def srmPluginFilecopySeen (params : GfaltParams) (source dest : CString) : Srm (Ret Int × SrmSeen) := do
  castorGridftpSessionHack servers source dest
  pluginTriggerEvent srmDomain .none (lit "PREPARE:ENTER") []
  let (done, seen) ← copyCheckedSeen servers params source dest
  if params.transferCleanup then
    srmCleanupCopy servers source dest done
  return (⟨if done.error.isSome then -1 else 0, done.error⟩, seen)

end Copy

section Equal

variable {α : Type} {servers : SrmServers}

theorem betweenEvents_eq (side : GfalEventSide) (obtain : SrmThrowing CString) (compare : CString → SrmThrowing α) :
    (betweenEvents side (obtain >>= compare)).run = Prod.fst <$> betweenEventsSeen side obtain compare := by
  unfold betweenEvents betweenEventsSeen
  simp only [ExceptT.run_mk, ExceptT.run_bind, map_bind, map_pure, bind_assoc]
  congr
  funext _
  congr
  funext obtained
  cases obtained <;> rfl

theorem sourceChecksum_eq (cfg : SrmChecksumConfig) (source : CString) :
    (copyChecked.sourceChecksum servers cfg source).run = Prod.fst <$> sourceChecksumSeen servers cfg source := by
  unfold copyChecked.sourceChecksum sourceChecksumSeen
  by_cases hmode : cfg.mode ≠ .none
  · rw [if_pos hmode, if_pos hmode]
    refine (betweenEvents_eq .source (obtainSource servers cfg source) (matchSource cfg)).trans ?_
    simp only [map_eq_pure_bind, bind_assoc, pure_bind]
  · rw [if_neg hmode, if_neg hmode]
    rfl

theorem checkTarget_eq (cfg : SrmChecksumConfig) (dest checksumSource : CString) (seen : SrmSeen) :
    (copyBetweenTurls.checkTarget servers cfg dest checksumSource).run = Prod.fst <$> checkTargetSeen servers cfg dest checksumSource seen := by
  unfold copyBetweenTurls.checkTarget checkTargetSeen
  by_cases hmode : cfg.mode.hasTarget = true
  · rw [if_pos hmode, if_pos hmode]
    refine (betweenEvents_eq .destination (obtainDestination servers cfg dest) (matchDestination cfg checksumSource)).trans ?_
    simp only [map_eq_pure_bind, bind_assoc, pure_bind]
  · rw [if_neg hmode, if_neg hmode]
    rfl

theorem copyBetweenTurls_eq (params : GfaltParams) (cfg : SrmChecksumConfig) (dest checksumSource turlSource tokenSource turlDestination
    tokenDestination : CString) (seen : SrmSeen) :
    copyBetweenTurls servers params cfg dest checksumSource turlSource tokenSource turlDestination tokenDestination =
      Prod.fst <$> copyBetweenTurlsSeen servers params cfg dest checksumSource turlSource tokenSource turlDestination tokenDestination
        seen := by
  unfold copyBetweenTurls copyBetweenTurlsSeen
  simp only [map_bind]
  congr
  funext transferred
  cases transferred with
  | error e => rfl
  | ok _ =>
      simp only [checkTarget_eq cfg dest checksumSource seen, map_eq_pure_bind, bind_assoc, pure_bind]
      congr
      funext ended
      obtain ⟨answer, seen⟩ := ended
      cases answer <;> rfl

theorem copyResolved_eq (params : GfaltParams) (cfg : SrmChecksumConfig) (source dest checksumSource : CString) (seen : SrmSeen) :
    copyResolved servers params cfg source dest checksumSource =
      Prod.fst <$> copyResolvedSeen servers params cfg source dest checksumSource seen := by
  unfold copyResolved copyResolvedSeen
  simp only [map_bind]
  congr
  funext resolved
  cases resolved with
  | error e => rfl
  | ok turls =>
      simp only [map_bind]
      congr
      funext granted
      cases granted with
      | error e => rfl
      | ok destination => exact copyBetweenTurls_eq _ _ _ _ _ _ _ _ seen

theorem copyChecked_eq (params : GfaltParams) (source dest : CString) :
    copyChecked servers params source dest = Prod.fst <$> copyCheckedSeen servers params source dest := by
  unfold copyChecked copyCheckedSeen
  simp only [map_bind]
  congr
  funext context
  cases srmGetChecksumConfig servers context.config params with
  | error e => rfl
  | ok cfg =>
      simp only [sourceChecksum_eq, map_eq_pure_bind, bind_assoc, pure_bind]
      congr
      funext checked
      obtain ⟨answer, seen⟩ := checked
      cases answer with
      | error e => rfl
      | ok checksumSource => exact (copyResolved_eq _ _ _ _ _ seen).trans (map_eq_pure_bind _ _)

/-- The record changes nothing of the copy. -/
theorem srmPluginFilecopy_eq (params : GfaltParams) (source dest : CString) :
    srmPluginFilecopy servers params source dest = Prod.fst <$> srmPluginFilecopySeen servers params source dest := by
  unfold srmPluginFilecopy srmPluginFilecopySeen
  simp only [copyChecked_eq, map_eq_pure_bind, bind_assoc, pure_bind]
  congr
  funext _
  congr
  funext _
  congr
  funext ended
  by_cases hcleanup : params.transferCleanup = true
  · rw [if_pos hcleanup, if_pos hcleanup, bind_assoc]
    rfl
  · rw [if_neg hcleanup, if_neg hcleanup, pure_bind]

end Equal

/-! ### What is obtained -/

/-- The checksum is one that a service reported for the URL before the end of the record, of the algorithm and as far as it goes into a
buffer of 2048 bytes: with what it knows of the file, or for the URL itself or a TURL of it. -/
def Reported (servers : SrmServers) (url algorithm : CString) (made : SrmHistory) (checksum : CString) : Prop :=
  ∃ history, history <+: made ∧
    ((srmCheckUrl url = true ∧ ∃ entry value type, servers.ls (gfal2SrmGetDecodedPath url) history = .ok entry ∧ entry.status = 0 ∧
        entry.checksum = some (value, type) ∧ strncasecmp algorithm (type.take 2047) 2048 = 0 ∧ checksum = value.take 2047) ∨
      ∃ turl value, (srmCheckUrl url = false → turl = url) ∧ servers.checksum turl algorithm history = .ok value ∧
        checksum = value.take 2047)

section Obtained

variable {servers : SrmServers} {url algorithm checksum : CString} {context left : Gfal2Context SrmWorld}

theorem Reported.mono {made made' : SrmHistory} (h : Reported servers url algorithm made checksum) (hmade : made <+: made') :
    Reported servers url algorithm made' checksum := by
  obtain ⟨history, hhistory, hreported⟩ := h
  exact ⟨history, hhistory.trans hmade, hreported⟩

theorem Reported.length_le {made : SrmHistory} (h : Reported servers url algorithm made checksum) : checksum.length ≤ 2047 := by
  obtain ⟨_, -, ⟨-, _, value, _, -, -, -, -, rfl⟩ | ⟨_, value, -, -, rfl⟩⟩ := h
  · exact List.length_take_le _ _
  · exact List.length_take_le _ _

/-- The record is only extended. -/
theorem prefix_of_stays {α : Type} {operation : Srm α} (h : Stays (Avoids fun _ => False) operation) {value : α}
    (hrun : operation context = .ok (value, left)) : context.world.made <+: left.world.made := by
  obtain ⟨made, hmade, -⟩ := h _ _ _ hrun
  exact ⟨made, hmade.symm⟩

/-- The checksum that a service knows, with its type. -/
theorem gfalSrmCheksumGInternal_eq_ok {type : CString}
    (h : (gfalSrmCheksumGInternal servers url 2048).run context = .ok (.ok (checksum, type), left)) :
    (checksum = [] ∧ type = []) ∨ ∃ history entry value, history <+: left.world.made ∧
      servers.ls (gfal2SrmGetDecodedPath url) history = .ok entry ∧ entry.status = 0 ∧
      ∃ kind, entry.checksum = some (value, kind) ∧ type = kind.take 2047 ∧ checksum = value.take 2047 := by
  rcases withEasyContext_eq_ok h with ⟨e, herror, -⟩ | ⟨easy, entered, answer, ended, hpath, -, hbody, hmade, hvalue⟩
  · cases herror
  · rw [(hvalue _).mp rfl] at hbody
    dsimp only at hbody
    split at hbody
    · cases hbody
    · obtain ⟨answered, asked, hasked, hbody⟩ := bind_eq_ok.mp hbody
      obtain ⟨-, hanswered, hrecord⟩ := call_eq_ok hasked
      cases answered with
      | error e => cases hbody
      | ok entry =>
          have hprefix : entered.world.made <+: asked.world.made := ⟨_, hrecord.symm⟩
          simp only [ExceptT.bindCont] at hbody
          split at hbody
          · cases hbody
          · rename_i hstatus
            rw [hpath] at hanswered
            cases hfound : entry.checksum with
            | none =>
                rw [hfound] at hbody
                cases hbody
                exact .inl ⟨rfl, rfl⟩
            | some found =>
                obtain ⟨value, kind⟩ := found
                rw [hfound] at hbody
                cases hbody
                exact .inr ⟨_, entry, value, hmade ▸ hprefix, hanswered.symm, not_not.mp hstatus, kind, hfound, rfl, rfl⟩

/-- The checksum of a URL, or of a TURL of it. -/
theorem checksumOfTurl_eq_ok (h : (checksumOfTurl servers url algorithm 2048).run context = .ok (.ok checksum, left)) :
    Reported servers url algorithm left.world.made checksum := by
  have htold : ∀ {turl : CString} {resolved : Gfal2Context SrmWorld}, (srmCheckUrl url = false → turl = url) →
      (do
        let checksum ← inCancelScope (askLibrary (.checksum turl algorithm) (servers.checksum turl algorithm))
        return checksum.take (2048 - 1) : SrmThrowing CString).run resolved = .ok (.ok checksum, left) →
      Reported servers url algorithm left.world.made checksum := by
    intro turl resolved hplain h
    rcases run_bind_eq_ok h with ⟨e, -, herror⟩ | ⟨value, asked, hasked, h⟩
    · cases herror
    · cases h
      rcases inCancelScope_eq_ok hasked with ⟨e, herror, -⟩ | ⟨entered, ended, -, hrun, hmade⟩
      · cases herror
      · obtain ⟨hvalue, hended⟩ := ok_inj hrun
        refine ⟨entered.world.made, ?_, .inr ⟨turl, value, hplain, hvalue, rfl⟩⟩
        rw [hmade, ← hended]
        exact List.prefix_append _ _
  rw [checksumOfTurl] at h
  split at h
  · rename_i hsrm
    rcases run_bind_eq_ok h with ⟨e, -, herror⟩ | ⟨turl, resolved, -, h⟩
    · cases herror
    · exact htold (fun hplain => absurd hsrm (by simp [hplain])) h
  · exact htold (fun _ => rfl) h

/-- A checksum that is not empty is one that was reported. -/
theorem gfalSrmChecksumGFallback_eq_ok {turlFallback : Bool}
    (h : (gfalSrmChecksumGFallback servers url algorithm 2048 true turlFallback).run context = .ok (.ok checksum, left)) :
    checksum = [] ∨ Reported servers url algorithm left.world.made checksum := by
  have hwithout : ∀ {asked : Gfal2Context SrmWorld},
      gfalSrmChecksumGFallback.withoutSrm servers url algorithm 2048 turlFallback asked = .ok (.ok checksum, left) →
      checksum = [] ∨ Reported servers url algorithm left.world.made checksum := by
    intro asked h
    unfold gfalSrmChecksumGFallback.withoutSrm at h
    split at h
    · exact .inr (checksumOfTurl_eq_ok h)
    · cases h
      exact .inl rfl
  obtain ⟨known, asked, hknown, h⟩ := bind_eq_ok.mp h
  rcases known with e | _ | ⟨value, type⟩
  · cases turlFallback with
    | true => cases h
    | false =>
        cases h
        exact .inl rfl
  · exact hwithout h
  · dsimp only at h
    split at h
    · rename_i htype
      cases h
      unfold srmChecksum at hknown
      split at hknown
      · rename_i hsrm
        obtain ⟨answer, answered, hanswer, hmapped⟩ := bind_eq_ok.mp hknown
        cases answer with
        | error e => cases hmapped
        | ok found =>
            cases hmapped
            rcases gfalSrmCheksumGInternal_eq_ok hanswer with ⟨hnil, -⟩ | ⟨history, entry, found, hhistory, hls, hstatus, kind, hfound, rfl, rfl⟩
            · exact .inl hnil
            · exact .inr ⟨history, hhistory, .inl ⟨hsrm.1, entry, found, kind, hls, hstatus, hfound, htype, rfl⟩⟩
      · cases hknown
    · exact hwithout h

/-- What is obtained of a side fits the buffers, and is reported unless it is empty. -/
theorem withNote_fallback_eq_ok {side note : CString} {turlFallback : Bool}
    (h : (withNote side note (gfalSrmChecksumGFallback servers url algorithm 2048 true turlFallback)).run context =
      .ok (.ok checksum, left)) :
    (checksum ≠ [] → Reported servers url algorithm left.world.made checksum) ∧ checksum.length ≤ 2047 := by
  rcases run_catch_eq_ok h with ⟨value, hrun, hvalue⟩ | ⟨e, middle, -, hthrown⟩
  · cases hvalue
    rcases gfalSrmChecksumGFallback_eq_ok hrun with rfl | hreported
    · exact ⟨fun hne => absurd rfl hne, Nat.zero_le _⟩
    · exact ⟨fun _ => hreported, hreported.length_le⟩
  · cases hthrown

end Obtained

/-! ### What a copy that comes to a good end has compared -/

/-- The user's value as it is read into its buffer. -/
def readSrmUserChecksum (params : GfaltParams) : CString := (params.checksum.value.getD []).take 2047

/-- The algorithm that is asked for, as it is read into its buffer: the one of the parameters, or the configured one. -/
def readSrmAlgorithm (config : Config) (params : GfaltParams) : CString :=
  let type := params.checksum.type.getD []
  (if type = [] then (config.optString srmConfigGroup (lit "COPY_CHECKSUM_TYPE")).getD [] else type).take 63

/-- The source is not checked, as it is configured. -/
def AllowsEmptySource (config : Config) : Prop :=
  gfal2GetOptBooleanWithDefault config srmConfigGroup (lit "ALLOW_EMPTY_SOURCE_CHECKSUM") false = true

/-- What the checksums that were obtained say of a copy that comes to a good end. -/
structure SrmSeen.Sound (servers : SrmServers) (config : Config) (params : GfaltParams) (source dest : CString) (made : SrmHistory)
    (seen : SrmSeen) : Prop where
  reported : ∀ s, seen.source = some s → s ≠ [] → Reported servers source (readSrmAlgorithm config params) made s
  checked : params.checksum.mode.hasSource = true → ¬AllowsEmptySource config → ∃ s, seen.source = some s ∧
    (readSrmUserChecksum params ≠ [] → SameChecksum s (readSrmUserChecksum params))
  target : params.checksum.mode.hasTarget = true → ∃ d, seen.destination = some d ∧ d ≠ [] ∧
    Reported servers dest (readSrmAlgorithm config params) made d ∧
    (∀ s, seen.source = some s → s ≠ [] → SameChecksum s d) ∧
    (readSrmUserChecksum params ≠ [] → SameChecksum (readSrmUserChecksum params) d)

variable {seen : SrmSeen} {checksumSource : CString}

section Compared

variable {servers : SrmServers} {cfg : SrmChecksumConfig} {context left : Gfal2Context SrmWorld}

/-- Where the comparison comes to a good end the checksum was obtained before it. -/
theorem betweenEventsSeen_eq_ok {α : Type} {side : GfalEventSide} {obtains : SrmThrowing CString} {compare : CString → SrmThrowing α}
    {value : α} {obtained : Option CString}
    (h : betweenEventsSeen side obtains compare context = .ok ((.ok value, obtained), left)) :
    ∃ checksum entered asked ended, obtained = some checksum ∧ obtains.run entered = .ok (.ok checksum, asked) ∧
      (compare checksum).run asked = .ok (.ok value, ended) ∧ left.world.made = ended.world.made := by
  obtain ⟨_, entered, -, h⟩ := bind_eq_ok.mp h
  obtain ⟨found, asked, hfound, h⟩ := bind_eq_ok.mp h
  obtain ⟨answer, ended, hanswer, h⟩ := bind_eq_ok.mp h
  obtain ⟨_, told, htold, h⟩ := bind_eq_ok.mp h
  cases htold
  cases h
  cases found with
  | error e => cases hanswer
  | ok checksum => exact ⟨checksum, entered, asked, ended, rfl, hfound, hanswer, rfl⟩

/-- The settings of a copy, as they are read. -/
theorem srmGetChecksumConfig_eq_ok {config : Config} {params : GfaltParams} (h : srmGetChecksumConfig servers config params = .ok cfg) :
    cfg.algorithm = readSrmAlgorithm config params ∧ cfg.user = readSrmUserChecksum params ∧
      cfg.mode.hasTarget = params.checksum.mode.hasTarget ∧
      (params.checksum.mode.hasSource = true → ¬AllowsEmptySource config → cfg.mode.hasSource = true) := by
  have htarget : (if gfal2GetOptBooleanWithDefault config srmConfigGroup (lit "ALLOW_EMPTY_SOURCE_CHECKSUM") false then
      params.checksum.mode.withoutSource else params.checksum.mode).hasTarget = params.checksum.mode.hasTarget := by
    split
    · cases params.checksum.mode <;> rfl
    · rfl
  have hsource : ¬AllowsEmptySource config → (if gfal2GetOptBooleanWithDefault config srmConfigGroup
      (lit "ALLOW_EMPTY_SOURCE_CHECKSUM") false then params.checksum.mode.withoutSource else params.checksum.mode) =
        params.checksum.mode := fun hnot => if_neg hnot
  have htype : (params.checksum.type.getD []).take 63 = [] ↔ params.checksum.type.getD [] = [] := by
    rw [List.take_eq_nil_iff]
    simp
  unfold srmGetChecksumConfig gfaltGetChecksum at h
  dsimp only at h
  split at h
  · rename_i hnil
    rw [htype] at hnil
    split at h
    · rename_i configured hconfigured
      cases h
      refine ⟨?_, rfl, htarget, fun hmode hnot => ?_⟩
      · simp only [readSrmAlgorithm, hnil, if_true, hconfigured, Option.getD_some]
      · exact (congrArg ChecksumMode.hasSource (hsource hnot)).trans hmode
    · cases h
  · rename_i hne
    rw [htype] at hne
    cases h
    refine ⟨?_, rfl, htarget, fun hmode hnot => ?_⟩
    · simp only [readSrmAlgorithm, if_neg hne]
    · exact (congrArg ChecksumMode.hasSource (hsource hnot)).trans hmode

theorem matchSource_eq_ok {source value : CString} (h : (matchSource cfg source).run context = .ok (.ok value, left)) :
    value = source ∧ left = context ∧
      (cfg.mode.hasSource = true → cfg.user ≠ [] → gfalCompareChecksums source cfg.user 2048 = 0) := by
  rw [matchSource] at h
  split at h
  · cases h
  · rename_i hsame
    cases h
    refine ⟨rfl, rfl, fun hsource hne => ?_⟩
    by_contra hdiffer
    exact hsame ⟨hsource, hne, hdiffer⟩

theorem matchDestination_eq_ok {source destination : CString}
    (h : (matchDestination cfg source destination).run context = .ok (.ok (), left)) :
    left = context ∧ destination ≠ [] ∧ (source ≠ [] → gfalCompareChecksums source destination 2048 = 0) ∧
      (cfg.user ≠ [] → gfalCompareChecksums cfg.user destination 2048 = 0) := by
  rw [matchDestination] at h
  by_cases hnil : destination = []
  · rw [if_pos hnil] at h
    cases h
  rw [if_neg hnil] at h
  by_cases hsource : source ≠ [] ∧ gfalCompareChecksums source destination 2048 ≠ 0
  · rw [if_pos hsource] at h
    cases h
  rw [if_neg hsource] at h
  by_cases huser : cfg.user ≠ [] ∧ gfalCompareChecksums cfg.user destination 2048 ≠ 0
  · rw [if_pos huser] at h
    cases h
  rw [if_neg huser] at h
  cases h
  refine ⟨rfl, hnil, fun hne => ?_, fun hne => ?_⟩
  · by_contra hdiffer
    exact hsource ⟨hne, hdiffer⟩
  · by_contra hdiffer
    exact huser ⟨hne, hdiffer⟩

/-- The source's checksum is what is compared with the user's. -/
theorem sourceChecksumSeen_eq_ok {source : CString} (huser : cfg.user.length ≤ 2047)
    (h : sourceChecksumSeen servers cfg source context = .ok ((.ok checksumSource, seen), left)) :
    checksumSource = seen.source.getD [] ∧ checksumSource.length ≤ 2047 ∧
      (checksumSource ≠ [] → Reported servers source cfg.algorithm left.world.made checksumSource) ∧
      (cfg.mode.hasSource = true → seen.source = some checksumSource ∧ (cfg.user ≠ [] → SameChecksum checksumSource cfg.user)) := by
  unfold sourceChecksumSeen at h
  split at h
  · obtain ⟨⟨answer, obtained⟩, compared, hcompared, h⟩ := bind_eq_ok.mp h
    cases h
    obtain ⟨checksum, entered, asked, ended, rfl, hasked, hcompare, hmade⟩ := betweenEventsSeen_eq_ok hcompared
    obtain ⟨hreported, hlength⟩ := withNote_fallback_eq_ok hasked
    obtain ⟨rfl, rfl, hsame⟩ := matchSource_eq_ok hcompare
    rw [hmade]
    refine ⟨rfl, hlength, hreported, fun hsource => ⟨rfl, fun hne => ?_⟩⟩
    exact (gfalCompareChecksums_eq_zero_iff (by omega) (by omega)).mp (hsame hsource hne)
  · rename_i hmode
    cases h
    refine ⟨rfl, Nat.zero_le _, fun hne => absurd rfl hne, fun hsource => ?_⟩
    rw [not_not.mp hmode] at hsource
    cases hsource

/-- The destination's checksum is there, and compared with those of the source and of the user that are there. -/
theorem checkTargetSeen_eq_ok {dest : CString} {seen' : SrmSeen} (huser : cfg.user.length ≤ 2047)
    (hsource : checksumSource.length ≤ 2047)
    (h : checkTargetSeen servers cfg dest checksumSource seen context = .ok ((.ok (), seen'), left)) :
    seen'.source = seen.source ∧ (cfg.mode.hasTarget = true → ∃ d, seen'.destination = some d ∧ d ≠ [] ∧
      Reported servers dest cfg.algorithm left.world.made d ∧ (checksumSource ≠ [] → SameChecksum checksumSource d) ∧
      (cfg.user ≠ [] → SameChecksum cfg.user d)) := by
  unfold checkTargetSeen at h
  split at h
  · obtain ⟨⟨answer, obtained⟩, compared, hcompared, h⟩ := bind_eq_ok.mp h
    cases h
    obtain ⟨checksum, entered, asked, ended, rfl, hasked, hcompare, hmade⟩ := betweenEventsSeen_eq_ok hcompared
    obtain ⟨hreported, hlength⟩ := withNote_fallback_eq_ok hasked
    obtain ⟨rfl, hne, hsameSource, hsameUser⟩ := matchDestination_eq_ok hcompare
    rw [hmade]
    refine ⟨rfl, fun _ => ⟨checksum, rfl, hne, hreported hne, fun hsome => ?_, fun hsome => ?_⟩⟩
    · exact (gfalCompareChecksums_eq_zero_iff (by omega) (by omega)).mp (hsameSource hsome)
    · exact (gfalCompareChecksums_eq_zero_iff (by omega) (by omega)).mp (hsameUser hsome)
  · rename_i hmode
    cases h
    exact ⟨rfl, fun htarget => absurd htarget hmode⟩

end Compared

section Sound

variable {servers : SrmServers} {params : GfaltParams} {source dest : CString} {context left : Gfal2Context SrmWorld}

theorem allowsTransfer_everything : AllowsTransfer fun request : SrmExchange => ¬(fun _ => False) request :=
  allowsTransfer_of_all fun _ => id

/-- What the checks of the destination come to. -/
def TargetChecked (servers : SrmServers) (cfg : SrmChecksumConfig) (dest checksumSource : CString) (made : SrmHistory) (seen : SrmSeen) :
    Prop :=
  cfg.mode.hasTarget = true → ∃ d, seen.destination = some d ∧ d ≠ [] ∧ Reported servers dest cfg.algorithm made d ∧
    (checksumSource ≠ [] → SameChecksum checksumSource d) ∧ (cfg.user ≠ [] → SameChecksum cfg.user d)

theorem copyBetweenTurlsSeen_eq_ok {cfg : SrmChecksumConfig} {turlSource tokenSource turlDestination tokenDestination : CString}
    {seen' : SrmSeen} {done : CopyEnd} (huser : cfg.user.length ≤ 2047) (hsource : checksumSource.length ≤ 2047)
    (h : copyBetweenTurlsSeen servers params cfg dest checksumSource turlSource tokenSource turlDestination tokenDestination seen context =
      .ok ((done, seen'), left)) (hdone : done.error = none) :
    context.world.made <+: left.world.made ∧ seen'.source = seen.source ∧
      TargetChecked servers cfg dest checksumSource left.world.made seen' := by
  have hrun : copyBetweenTurls servers params cfg dest checksumSource turlSource tokenSource turlDestination tokenDestination context =
      .ok (done, left) := by
    rw [copyBetweenTurls_eq _ _ _ _ _ _ _ _ seen, map_eq_pure_bind]
    exact bind_of_ok h
  refine ⟨prefix_of_stays (copyBetweenTurls_stays allowsTransfer_everything servers _ _ _ _ _ _ _) hrun, ?_⟩
  obtain ⟨transferred, closed, htransfer, h⟩ := bind_eq_ok.mp h
  cases transferred with
  | error e =>
      cases h
      cases hdone
  | ok _ =>
      obtain ⟨⟨answer, checked⟩, ended, htarget, h⟩ := bind_eq_ok.mp h
      cases answer with
      | error e =>
          cases h
          cases hdone
      | ok _ =>
          cases h
          exact checkTargetSeen_eq_ok huser hsource htarget

theorem copyResolvedSeen_eq_ok {cfg : SrmChecksumConfig} {seen' : SrmSeen} {done : CopyEnd}
    (huser : cfg.user.length ≤ 2047) (hsource : checksumSource.length ≤ 2047)
    (h : copyResolvedSeen servers params cfg source dest checksumSource seen context = .ok ((done, seen'), left))
    (hdone : done.error = none) :
    context.world.made <+: left.world.made ∧ seen'.source = seen.source ∧
      TargetChecked servers cfg dest checksumSource left.world.made seen' := by
  obtain ⟨resolved, turls, hresolved, h⟩ := bind_eq_ok.mp h
  cases resolved with
  | error e =>
      cases h
      cases hdone
  | ok found =>
      obtain ⟨granted, readied, hgranted, h⟩ := bind_eq_ok.mp h
      cases granted with
      | error e =>
          cases h
          cases hdone
      | ok destination =>
          obtain ⟨hmade, hchecked⟩ := copyBetweenTurlsSeen_eq_ok huser hsource h hdone
          have hturls := prefix_of_stays (resolveSource_stays allowsTransfer_everything.toAllowsQueries servers source dest
            fun _ _ _ => id) hresolved
          have hput := prefix_of_stays (srmResolvePutTurl_stays allowsTransfer_everything.toAllowsQueries servers dest source _
            (fun _ => id) fun _ _ _ => id) hgranted
          exact ⟨(hturls.trans hput).trans hmade, hchecked⟩

/-- A copy that comes to its clean-up without an error has checksums that are sound. -/
theorem copyCheckedSeen_sound {done : CopyEnd}
    (h : copyCheckedSeen servers params source dest context = .ok ((done, seen), left)) (hdone : done.error = none) :
    seen.Sound servers context.config params source dest left.world.made := by
  rw [copyCheckedSeen, bind_of_ok (get_apply context)] at h
  cases hcfg : srmGetChecksumConfig servers context.config params with
  | error e =>
      rw [hcfg] at h
      cases h
      cases hdone
  | ok cfg =>
      rw [hcfg] at h
      obtain ⟨halgorithm, huser, htarget, hsource⟩ := srmGetChecksumConfig_eq_ok hcfg
      have huserLength : cfg.user.length ≤ 2047 := by
        rw [huser]
        exact List.length_take_le _ _
      obtain ⟨⟨answer, sourceSeen⟩, checked, hchecked, h⟩ := bind_eq_ok.mp h
      cases answer with
      | error e =>
          cases h
          cases hdone
      | ok checksumSource =>
          obtain ⟨hobtained, hlength, hreported, hcompared⟩ := sourceChecksumSeen_eq_ok huserLength hchecked
          obtain ⟨hmade, hkept, hchecks⟩ := copyResolvedSeen_eq_ok huserLength hlength h hdone
          have hvalue : ∀ s, seen.source = some s → checksumSource = s := by
            intro s hs
            rw [hobtained, ← hkept, hs]
            rfl
          refine ⟨fun s hs hne => ?_, fun hmode hnot => ?_, fun hmode => ?_⟩
          · obtain rfl := hvalue s hs
            exact halgorithm ▸ (hreported hne).mono hmade
          · obtain ⟨hsome, hsame⟩ := hcompared (hsource hmode hnot)
            exact ⟨checksumSource, hkept.trans hsome, huser ▸ hsame⟩
          · obtain ⟨d, hd, hne, hfrom, hsameSource, hsameUser⟩ := hchecks (htarget.trans hmode)
            refine ⟨d, hd, hne, halgorithm ▸ hfrom, fun s hs hsome => ?_, huser ▸ hsameUser⟩
            obtain rfl := hvalue s hs
            exact hsameSource hsome

theorem isCastorEndpoint_config (surl : CString) :
    Keeps (fun context : Gfal2Context SrmWorld => context.config) (isCastorEndpoint servers surl) := by
  rw [isCastorEndpoint_eq]
  refine Keeps.ite (Keeps.pure _) ?_
  have heasy : Keeps (fun context : Gfal2Context SrmWorld => context.config) (srmEasyContext servers surl .ping) := by
    intro config context hconfig made left hrun
    rw [srmEasyContext, bind_of_ok (get_apply context)] at hrun
    cases heasy : gfalSrmIfceEasyContext context.srmOpts (servers.context surl context.world.made) surl with
    | mk answer opts =>
        rw [heasy] at hrun
        cases hrun
        exact hconfig
  have hrelease : Keeps (fun context : Gfal2Context SrmWorld => context.config) srmEasyContextRelease := Keeps.modify fun _ => rfl
  refine heasy.bind fun made => ?_
  obtain ⟨_ | easy, err⟩ := made
  · exact Keeps.pure _
  · refine Keeps.bind (Keeps.bind ?_ fun _ => Keeps.pure _) fun _ => hrelease.bind fun _ => Keeps.pure _
    refine Keeps.ite ?_ (Keeps.fault _)
    intro config context hconfig value left hrun
    cases hrun
    exact hconfig

/-- What the configuration says of the copies of the plugin. -/
def srmSettings (context : Gfal2Context SrmWorld) : (CString → Option Bool) × (CString → Option CString) :=
  (context.config.optBoolean srmConfigGroup, context.config.optString srmConfigGroup)

/-- The settings of the plugin stay when those of another one are changed. -/
theorem castorGridftpSessionHack_settings (src dst : CString) : Keeps srmSettings (castorGridftpSessionHack servers src dst) := by
  have hconfig : ∀ {α : Type} {operation : Srm α}, Keeps (fun context : Gfal2Context SrmWorld => context.config) operation →
      Keeps srmSettings operation := by
    intro α operation h kept context hkept value left hrun
    exact (congrArg (fun config : Config => (config.optBoolean srmConfigGroup, config.optString srmConfigGroup)) (h.eq hrun)).trans hkept
  refine (hconfig (isCastorEndpoint_config src)).bind fun _ => (hconfig (isCastorEndpoint_config dst)).bind fun _ => ?_
  refine Keeps.ite (Keeps.modify fun context => ?_) (Keeps.pure _)
  have hgroup : srmConfigGroup ≠ lit "GRIDFTP PLUGIN" := by decide
  have hother : ∀ k key : CString, ¬(srmConfigGroup = lit "GRIDFTP PLUGIN" ∧ k = key) := fun _ _ h => hgroup h.1
  simp only [srmSettings, gfal2SetOptBoolean]
  refine congrArg₂ Prod.mk (funext fun k => ?_) (funext fun k => ?_)
  · rw [Config.optBoolean_store, if_neg (hother _ _), Config.optBoolean_store, if_neg (hother _ _)]
  · rw [Config.optString_store, if_neg (hother _ _), Config.optString_store, if_neg (hother _ _)]

theorem SrmSeen.Sound.mono {config config' : Config} {made made' : SrmHistory}
    (h : seen.Sound servers config params source dest made) (hmade : made <+: made')
    (hboolean : config'.optBoolean srmConfigGroup = config.optBoolean srmConfigGroup)
    (hstring : config'.optString srmConfigGroup = config.optString srmConfigGroup) :
    seen.Sound servers config' params source dest made' := by
  have halgorithm : readSrmAlgorithm config' params = readSrmAlgorithm config params := by
    rw [readSrmAlgorithm, readSrmAlgorithm, hstring]
  have hempty : AllowsEmptySource config' ↔ AllowsEmptySource config := by
    rw [AllowsEmptySource, AllowsEmptySource, gfal2GetOptBooleanWithDefault, gfal2GetOptBooleanWithDefault, hboolean]
  refine ⟨fun s hs hne => ?_, fun hmode hnot => h.checked hmode fun hallows => hnot (hempty.mpr hallows), fun hmode => ?_⟩
  · rw [halgorithm]
    exact (h.reported s hs hne).mono hmade
  · obtain ⟨d, hd, hne, hreported, hsame⟩ := h.target hmode
    exact ⟨d, hd, hne, halgorithm ▸ hreported.mono hmade, hsame⟩

end Sound

theorem srmPluginFilecopySeen_sound {servers : SrmServers} {params : GfaltParams} {source dest : CString}
    {context left : Gfal2Context SrmWorld} {ret : Ret Int}
    (hrun : srmPluginFilecopySeen servers params source dest context = .ok ((ret, seen), left)) (hzero : ret.val = 0) :
    seen.Sound servers context.config params source dest left.world.made := by
  obtain ⟨_, hacked, hhack, hrun⟩ := bind_eq_ok.mp hrun
  obtain ⟨_, entered, hevent, hrun⟩ := bind_eq_ok.mp hrun
  obtain ⟨⟨done, copied⟩, ended, hcopied, hrun⟩ := bind_eq_ok.mp hrun
  have hkept : srmSettings hacked = srmSettings context := (castorGridftpSessionHack_settings source dest).eq hhack
  have hsettings : srmSettings entered = srmSettings context := by
    cases hevent
    exact hkept
  obtain ⟨hboolean, hstring⟩ := Prod.mk.inj hsettings.symm
  have hdone : ∀ {final : Gfal2Context SrmWorld},
      (pure (⟨if done.error.isSome then -1 else 0, done.error⟩, copied) : Srm (Ret Int × SrmSeen)) final = .ok ((ret, seen), left) →
      final = left ∧ copied = seen ∧ done.error = none := by
    intro final h
    cases h
    refine ⟨rfl, rfl, ?_⟩
    cases herror : done.error with
    | none => rfl
    | some e =>
        rw [herror] at hzero
        cases hzero
  dsimp only at hrun
  split at hrun
  · obtain ⟨_, cleaned, hcleaned, hrun⟩ := bind_eq_ok.mp hrun
    obtain ⟨rfl, rfl, herror⟩ := hdone hrun
    have hmade := prefix_of_stays (cleanupCopy_stays (fun _ => id) servers source dest done) hcleaned
    exact (copyCheckedSeen_sound hcopied herror).mono hmade hboolean hstring
  · obtain ⟨rfl, rfl, herror⟩ := hdone hrun
    exact (copyCheckedSeen_sound hcopied herror).mono (List.prefix_refl _) hboolean hstring

/-- Every copy with the parameters that returns 0 has seen checksums that are sound. -/
def SoundSrmCopies (params : GfaltParams) : Prop :=
  ∀ (servers : SrmServers) (source dest : CString) (context left : Gfal2Context SrmWorld) (ret : Ret Int),
    srmPluginFilecopy servers params source dest context = .ok (ret, left) → ret.val = 0 →
      ∃ seen, srmPluginFilecopySeen servers params source dest context = .ok ((ret, seen), left) ∧
        seen.Sound servers context.config params source dest left.world.made

/-- A copy that returns 0 has a checksum of the destination that is not empty, if that is to be checked, and has compared it with
those of the source and of the user that are there; and it has a checksum of the source, if that is to be checked and may not be
missing, and has compared it with the one of the user. -/
theorem srm_copy_checksums_sound (params : GfaltParams) : SoundSrmCopies params := by
  intro servers source dest context left ret hrun hzero
  rw [srmPluginFilecopy_eq, map_eq_pure_bind] at hrun
  obtain ⟨⟨ret', seen⟩, left', hseen, hrest⟩ := bind_eq_ok.mp hrun
  cases hrest
  exact ⟨seen, hseen, srmPluginFilecopySeen_sound hseen hzero⟩

/-- A service that grants what is read from it and knows no checksums, and a destination with a checksum. -/
def unsummedServers : SrmServers :=
  { failingServers with
    thirdPartyProtocols := [lit "gsiftp"]
    prepareToGet := fun path _ _ => .ok ⟨some (lit "token"), [{ surl := path, turl := some (lit "gsiftp://h/f") }]⟩
    copyFile := fun _ _ _ _ => none
    checksum := fun url _ _ => if url = lit "gsiftp://d/f" then .ok (lit "2a") else .error ioError }

def bothSidesParams (user : Option CString) : GfaltParams := { checksum := ⟨.both, some (lit "ADLER32"), user⟩ }

def emptySourceContext : Gfal2Context SrmWorld :=
  { config := { optBoolean := fun group key =>
      if group = srmConfigGroup ∧ key = lit "ALLOW_EMPTY_SOURCE_CHECKSUM" then some true else none }
    world := { plugin := {} } }

/-- The two sides have the checksum that the user gives, which the service of the source knows itself. -/
theorem agreed_checksums_sound :
    let servers := { unsummedServers with
      ls := fun _ _ => .ok { stat := {}, checksum := some (lit "2a", lit "ADLER32") } }
    let params := bothSidesParams (some (lit "2a"))
    let context : Gfal2Context SrmWorld := { world := { plugin := {} } }
    ∃ ret left seen, srmPluginFilecopySeen servers params (lit "srm://h/f") (lit "gsiftp://d/f") context = .ok ((ret, seen), left) ∧
      seen.Sound servers context.config params (lit "srm://h/f") (lit "gsiftp://d/f") left.world.made := by
  intro servers params context
  have hrun : (srmPluginFilecopy servers params (lit "srm://h/f") (lit "gsiftp://d/f") context).toOption.map (·.1.val) = some 0 := by
    decide +kernel
  cases hcopy : srmPluginFilecopy servers params (lit "srm://h/f") (lit "gsiftp://d/f") context with
  | error fault =>
      rw [hcopy] at hrun
      cases hrun
  | ok answer =>
      rw [hcopy] at hrun
      exact ⟨_, _, srm_copy_checksums_sound params _ _ _ _ _ _ hcopy (Option.some.inj hrun)⟩

/-- Where it may be missing, a copy that is to check both sides returns 0 without a checksum of its source, and with nothing to
compare that of the destination with if the user gave none. -/
theorem missing_source_checksum_passes :
    (srmPluginFilecopySeen unsummedServers (bothSidesParams (some (lit "2a"))) (lit "srm://h/f") (lit "gsiftp://d/f")
      emptySourceContext).toOption.map Prod.fst = some (⟨0, none⟩, { source := some [], destination := some (lit "2a") }) ∧
    (srmPluginFilecopySeen unsummedServers (bothSidesParams none) (lit "srm://h/f") (lit "gsiftp://d/f")
      emptySourceContext).toOption.map Prod.fst = some (⟨0, none⟩, { source := some [], destination := some (lit "2a") }) := by
  decide +kernel

end Gfal2
