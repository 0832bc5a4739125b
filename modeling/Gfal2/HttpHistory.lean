import Gfal2.Base.Runs
import Gfal2.HttpFallback

/-! Histories of copies in one context. The modes a copy goes through are a function of the configuration, of
its URLs and of what its own attempts come to, and a copy may write three options of the plugin. In a history
whose copies write nothing that the user has not set, every copy does what it would do first. -/

namespace Gfal2

open Base Exec

variable {σ : Type}

/-! ### The modes as a function -/

/-- The error number of an attempt that failed. -/
def CopyAttempt.failure (a : CopyAttempt) : Option Int :=
  if a.result.val = 0 then none else a.result.err.map GError.code

/-- The modes that are tried from this one on, given the error number that each of them fails with. -/
def HttpCopyMode.modesFrom (fallback : Bool) (outcome : CopyMode → Option Int) (m : HttpCopyMode) : List CopyMode :=
  if m.copyMode = .stream ∧ m.streamingEnabled = false then []
  else
    m.copyMode ::
      match outcome m.copyMode with
      | none => []
      | some code =>
          if _hnext : m.next.atEnd = false then
            if fallback = true ∧ gfalHttpCopyShouldFallback code = true then m.next.modesFrom fallback outcome else []
          else []
termination_by m.remaining
decreasing_by exact HttpCopyMode.remaining_next _hnext

/-- The modes that a copy tries. -/
def attemptedModes (uri : CString → Option DavixUri) (config : Config) (src dst : CString)
    (outcome : CopyMode → Option Int) : List CopyMode :=
  let chosen := constructCopyMode uri config src dst
  chosen.1.modesFrom (isHttp3rdcopyFallbackEnabled uri chosen.2 src dst) outcome

theorem HttpCopyMode.Runs.not_refused {m : HttpCopyMode} (h : m.Runs) :
    ¬(m.copyMode = .stream ∧ m.streamingEnabled = false) := by
  intro hrefused
  have henabled := h.2 hrefused.1
  rw [hrefused.2] at henabled
  exact Bool.false_ne_true henabled

variable {fallback : Bool}

theorem CopyAttempt.Retries.failure {a : CopyAttempt} (h : a.Retries fallback) :
    ∃ code, a.failure = some code ∧ fallback = true ∧ gfalHttpCopyShouldFallback code = true := by
  obtain ⟨hval, hfallback, e, he, hshould⟩ := h
  exact ⟨e.code, by rw [CopyAttempt.failure, if_neg hval, he]; rfl, hfallback, hshould⟩

theorem CopyAttempt.retries_of_failure {a : CopyAttempt} {code : Int} (h : a.failure = some code)
    (hfallback : fallback = true) (hshould : gfalHttpCopyShouldFallback code = true) : a.Retries fallback := by
  unfold CopyAttempt.failure at h
  split at h
  · cases h
  · rename_i hval
    obtain ⟨e, he, rfl⟩ := Option.map_eq_some_iff.mp h
    exact ⟨hval, hfallback, e, he, hshould⟩

/-- The modes of a climb are a function of where it starts and of what its attempts come to. -/
theorem Tries.modes_eq {m : HttpCopyMode} {attempts : List CopyAttempt}
    {outcome : CopyMode → Option Int} (h : Tries fallback m attempts)
    (houtcome : ∀ a ∈ attempts, outcome a.mode = a.failure) :
    attempts.map CopyAttempt.mode = m.modesFrom fallback outcome := by
  induction h with
  | refused hmode hdisabled =>
      rw [HttpCopyMode.modesFrom, if_pos ⟨hmode, hdisabled⟩]
      rfl
  | @last m a hmode hruns hends =>
      have hfailure : outcome m.copyMode = a.failure := hmode ▸ houtcome a (List.mem_singleton_self a)
      rw [HttpCopyMode.modesFrom, if_neg hruns.not_refused, hfailure, List.map_singleton, hmode]
      congr 1
      cases hcode : a.failure with
      | none => rfl
      | some code =>
          dsimp only
          by_cases hnext : m.next.atEnd = false
          · rw [dif_pos hnext, if_neg fun h => hends hnext (CopyAttempt.retries_of_failure hcode h.1 h.2)]
          · rw [dif_neg hnext]
  | @next m a rest hmode hruns hnext hretries hrest ih =>
      have hfailure : outcome m.copyMode = a.failure := hmode ▸ houtcome a List.mem_cons_self
      obtain ⟨code, hcode, hfallback, hshould⟩ := hretries.failure
      rw [HttpCopyMode.modesFrom, if_neg hruns.not_refused, hfailure, hcode, List.map_cons, hmode]
      dsimp only
      rw [dif_pos hnext, if_pos ⟨hfallback, hshould⟩]
      exact congrArg _ (ih fun b hb => houtcome b (List.mem_cons_of_mem _ hb))

section Copy

variable {davix : Davix σ} {fuel : Nat} {params : GfaltParams} {src dst srcFull dstFull dstBuffer : CString}
  {context context' : Gfal2Context σ} {ret : Ret Int} {copied : HttpCopyRecord}

/-- A copy that makes an attempt goes through the modes that its configuration and its URLs give. -/
theorem httpCopy_modes {outcome : CopyMode → Option Int}
    (h : httpCopyStripped davix dstBuffer fuel params srcFull dstFull src dst context =
      .ok ((ret, copied), context')) (hsome : copied.attempts ≠ [])
    (houtcome : ∀ a ∈ copied.attempts, outcome a.mode = a.failure) :
    copied.attempts.map CopyAttempt.mode = attemptedModes davix.uri context.config src dst outcome := by
  rcases httpCopy_outcome h with ⟨hnone, -, -⟩ | ⟨start, finish, p, -, hconfig, hp, hattempts, -, -⟩
  · exact absurd hnone hsome
  · obtain ⟨htries, -⟩ := tryModes_tries hp
    rw [hconfig] at htries
    rw [hattempts] at houtcome ⊢
    exact htries.modes_eq houtcome

/-! ### What a copy writes -/

/-- The option of the operation timeout after a streamed copy has set it and set it back. -/
def timeoutWritten (config : Config) (transferTimeout : Int) : Config :=
  gfal2SetOptInteger (gfal2SetOptInteger config httpPluginGroup (lit "OPERATION_TIMEOUT") transferTimeout)
    httpPluginGroup (lit "OPERATION_TIMEOUT") (getOperationTimeout config)

theorem openStreamSource_config (davix : Davix σ) {opened : Ret Int}
    (h : openStreamSource fuel params src context = .ok (opened, context')) :
    context'.config = if isHttpScheme src then timeoutWritten context.config (toInt32 params.timeout.toNat)
      else context.config := by
  unfold openStreamSource at h
  split at h
  · rename_i hhttp
    rw [get_bind_apply] at h
    obtain ⟨_, set, hset, h⟩ := bind_eq_ok.mp h
    obtain ⟨sourceFd, done, hopen, h⟩ := bind_eq_ok.mp h
    obtain ⟨_, restored, hrestore, h⟩ := bind_eq_ok.mp h
    have hdone : done.config = set.config :=
      (httpStable_config davix set.config).openUrl fuel src 0 set rfl _ _ hopen
    have hset' : set.config = gfal2SetOptInteger context.config httpPluginGroup (lit "OPERATION_TIMEOUT")
        (toInt32 params.timeout.toNat) := by
      cases hset
      rfl
    cases hrestore
    cases h
    rw [if_pos hhttp, timeoutWritten, ← hset', ← hdone]
  · rename_i hother
    cases hscheme : isHttpScheme src with
    | true => exact absurd hscheme hother
    | false => exact (httpStable_config davix context.config).openUrl fuel src 0 context rfl _ _ h

/-- The configuration after a copy from a source, given whether it came to open the source for streaming. -/
def afterStreaming (config : Config) (params : GfaltParams) (src : CString) (opened : Bool) : Config :=
  if isHttpScheme src = true ∧ opened = true then timeoutWritten config (toInt32 params.timeout.toNat) else config

theorem afterStreaming_unopened (config : Config) (params : GfaltParams) (src : CString) :
    afterStreaming config params src false = config :=
  if_neg fun h => Bool.false_ne_true h.2

/-- A streamed copy opens its source if the source is there. -/
theorem streamedCopy_config {result : Ret Int}
    (h : gfalHttpStreamedCopy davix fuel params src dst context = .ok (result, context')) :
    ∃ srcStat statted, gfal2Stat src context = .ok (srcStat, statted) ∧
      context'.config = afterStreaming context.config params src (srcStat.val.1 = 0) := by
  obtain ⟨srcStat, statted, hstat, h⟩ := bind_eq_ok.mp h
  have hstatted := (httpStable_config davix context.config).statUrl src context rfl _ _ hstat
  refine ⟨srcStat, statted, hstat, ?_⟩
  split at h
  · rename_i hmissing
    cases h
    rw [decide_eq_false hmissing, afterStreaming_unopened]
    exact hstatted
  · rename_i hthere
    rw [decide_eq_true (not_not.mp hthere)]
    obtain ⟨sourceFd, opened, hopen, h⟩ := bind_eq_ok.mp h
    have hopened : opened.config = afterStreaming context.config params src true := by
      rw [openStreamSource_config davix hopen, hstatted]
      simp [afterStreaming]
    split at h
    · cases h
      exact hopened
    · exact ((httpStable_config davix opened.config).putStream params dst _ opened rfl _ _ h).trans hopened

theorem finishPass_config {p p' : CopyProgress} {left : Bool}
    (h : finishPass davix params dst p context = .ok ((p', left), context')) : context'.config = context.config :=
  (httpStable_config davix context.config).finishPass
    (fun _ _ _ _ => HttpStable.unlink (preserves_config_request context.config _)) context rfl _ _ h

/-- From a mode of the loop the copy comes to open its source for streaming. -/
inductive OpensSource (davix : Davix σ) (fuel : Nat) (params : GfaltParams) (src dst : CString) :
    HttpCopyMode → CopyProgress → Gfal2Context σ → Prop where
  | streams {m : HttpCopyMode} {p : CopyProgress} {context told statted : Gfal2Context σ} {srcStat : Ret (Int × FileType)} :
      m.copyMode = .stream → m.streamingEnabled = true →
      pluginTriggerEvent httpPluginDomain .none (lit "TRANSFER:TYPE") m.str context = .ok ((), told) →
      gfal2Stat src told = .ok (srcStat, statted) → srcStat.val.1 = 0 → OpensSource davix fuel params src dst m p context
  | falls {m : HttpCopyMode} {p q : CopyProgress} {left : Bool} {context middle : Gfal2Context σ} :
      copyPass davix fuel params src dst m p context = .ok ((q, left), middle) → GoesOn davix src dst m q left middle →
      OpensSource davix fuel params src dst m.next { q with attemptedMode := q.attemptedMode ++ [m.str] } middle →
      OpensSource davix fuel params src dst m p context

/-- A pass writes no option, or it is a streamed copy and opens the source. -/
theorem copyPass_config {m : HttpCopyMode} {p q : CopyProgress} {left : Bool}
    (h : copyPass davix fuel params src dst m p context = .ok ((q, left), context')) :
    ∃ opened, context'.config = afterStreaming context.config params src opened ∧
      (opened = true → m.copyMode = .stream ∧ OpensSource davix fuel params src dst m p context) := by
  by_cases hmode : m.copyMode = .stream
  · obtain ⟨_, told, htold, h⟩ := bind_eq_ok.mp h
    have hstart : told.config = context.config := by
      cases htold
      rfl
    dsimp only at h
    rw [if_pos hmode] at h
    split at h
    · rename_i henabled
      obtain ⟨copied, middle, hcopied, hfinish⟩ := bind_eq_ok.mp h
      obtain ⟨srcStat, statted, hstat, hconfig⟩ := streamedCopy_config hcopied
      refine ⟨srcStat.val.1 = 0, ?_, fun hopened => ⟨hmode, .streams hmode henabled htold hstat (of_decide_eq_true hopened)⟩⟩
      rw [finishPass_config hfinish, hconfig, hstart]
    · refine ⟨false, ?_, fun hopened => absurd hopened Bool.false_ne_true⟩
      rw [afterStreaming_unopened]
      split at h
      · cases h
        exact hstart
      · exact (finishPass_config h).trans hstart
  · refine ⟨false, ?_, fun hopened => absurd hopened Bool.false_ne_true⟩
    rw [afterStreaming_unopened]
    exact (keeps_copyPass hmode p).eq h

theorem copyLoop_config {m : HttpCopyMode} {p p' : CopyProgress} {context context' : Gfal2Context σ}
    (h : copyLoop davix fuel params src dst m p context = .ok (p', context')) :
    ∃ opened, context'.config = afterStreaming context.config params src opened ∧
      (opened = true → OpensSource davix fuel params src dst m p context) := by
  obtain ⟨q, left, middle, hpass, ⟨-, rfl, -, -⟩ | ⟨hgoes, hrest⟩⟩ := copyLoop_cases h
  · obtain ⟨opened, hconfig, hopens⟩ := copyPass_config hpass
    exact ⟨opened, hconfig, fun h => (hopens h).2⟩
  · -- a mode follows, so this pass was no streamed copy
    have hconfig := (keeps_copyPass (HttpCopyMode.ne_stream_of_next hgoes.2.1) p).eq hpass
    obtain ⟨opened, hconfig', hopens⟩ := copyLoop_config hrest
    exact ⟨opened, hconfig ▸ hconfig', fun h => .falls hpass hgoes (hopens h)⟩
termination_by m.remaining
decreasing_by exact HttpCopyMode.remaining_next hgoes.2.1

/-- From the mode that is chosen under a configuration the copy comes to open its source for streaming. -/
def StreamsOver (davix : Davix σ) (fuel : Nat) (params : GfaltParams) (srcFull dstFull src dst : CString)
    (start : Gfal2Context σ) : Prop :=
  let chosen := constructCopyMode davix.uri start.config src dst
  ∃ entered, pluginTriggerEvent httpPluginDomain .none (lit "TRANSFER:ENTER") (srcFull ++ lit " => " ++ dstFull)
    { start with config := chosen.2 } = .ok ((), entered) ∧ OpensSource davix fuel params src dst chosen.1 {} entered

theorem tryModes_config {p : CopyProgress}
    (h : tryModes davix fuel params srcFull dstFull src dst context = .ok (p, context')) :
    ∃ opened, context'.config = afterStreaming (constructCopyMode davix.uri context.config src dst).2 params src opened ∧
      (opened = true → StreamsOver davix fuel params srcFull dstFull src dst context) := by
  rw [tryModes, get_bind_apply] at h
  obtain ⟨opened, hconfig, hopens⟩ := copyLoop_config h
  exact ⟨opened, hconfig, fun h => ⟨_, rfl, hopens h⟩⟩

/-- A copy that does not get to its modes writes nothing, and any other what its choice and its streaming write. -/
theorem httpCopy_config (h : httpCopyStripped davix dstBuffer fuel params srcFull dstFull src dst context =
      .ok ((ret, copied), context')) :
    context'.config = context.config ∨
    ∃ start opened, GetsToModes davix params srcFull dstFull src dst context start ∧
      context'.config = afterStreaming (constructCopyMode davix.uri context.config src dst).2 params src opened ∧
      (opened = true → StreamsOver davix fuel params srcFull dstFull src dst start) := by
  rcases httpCopy_outcome h with ⟨-, -, hconfig⟩ | ⟨start, finish, p, hgets, hstart, hp, -, -, hfinish⟩
  · exact .inl hconfig
  · obtain ⟨opened, hconfig, hopens⟩ := tryModes_config hp
    exact .inr ⟨start, opened, hgets, hfinish.trans (hstart ▸ hconfig), hopens⟩

end Copy

/-! ### Configurations that copies cannot tell apart -/

/-- One of the three options that a copy may write. -/
def WrittenOption (groupName key : CString) : Prop :=
  groupName = httpPluginGroup ∧
    key ∈ [lit "ENABLE_REMOTE_COPY", lit "ENABLE_FALLBACK_TPC_COPY", lit "OPERATION_TIMEOUT"]

/-- The reading of an integer option, where it is a `gint`. -/
def validInteger (config : Config) (groupName key : CString) : Option Int :=
  (config.optInteger groupName key).filter fun value => -2 ^ 31 ≤ value ∧ value < 2 ^ 31

/-- The configurations read the same, the options that a copy may write as far as a copy reads them. -/
structure SameReadings (config user : Config) : Prop where
  strings : ∀ groupName key, ¬WrittenOption groupName key →
    config.optString groupName key = user.optString groupName key
  integers : ∀ groupName key, ¬WrittenOption groupName key →
    config.optInteger groupName key = user.optInteger groupName key
  booleans : ∀ groupName key, ¬WrittenOption groupName key →
    config.optBoolean groupName key = user.optBoolean groupName key
  switches : ∀ key, key ≠ lit "OPERATION_TIMEOUT" → gfal2GetOptBooleanWithDefault config httpPluginGroup key true =
    gfal2GetOptBooleanWithDefault user httpPluginGroup key true
  timeout : validInteger config httpPluginGroup (lit "OPERATION_TIMEOUT") =
    validInteger user httpPluginGroup (lit "OPERATION_TIMEOUT")

/-- The modes that the next copies go through, given what their attempts come to, and the timeout of the next
operations are those of the user's configuration. -/
structure AsConfigured (context : Gfal2Context σ) (user : Config) : Prop where
  modes : ∀ uri src dst outcome,
    attemptedModes uri context.config src dst outcome = attemptedModes uri user src dst outcome
  copies : ∀ (davix : Davix σ) (dstBuffer : CString) (fuel : Nat) (params : GfaltParams) (srcFull dstFull : CString)
    (ret : Ret Int) (copied : HttpCopyRecord) (after : Gfal2Context σ) (outcome : CopyMode → Option Int),
    gfalHttpCopyRecorded davix dstBuffer fuel params srcFull dstFull context = .ok ((ret, copied), after) →
    copied.attempts ≠ [] → (∀ a ∈ copied.attempts, outcome a.mode = a.failure) →
    copied.attempts.map CopyAttempt.mode = attemptedModes davix.uri user (strip3rdFromUrl srcFull gfalUrlMaxLen)
      (strip3rdFromUrl dstFull gfalUrlMaxLen) outcome
  timeout : getOperationTimeout context.config = getOperationTimeout user

theorem SameReadings.refl (config : Config) : SameReadings config config :=
  ⟨fun _ _ _ => rfl, fun _ _ _ => rfl, fun _ _ _ => rfl, fun _ _ => rfl, rfl⟩

theorem gfal2GetOptIntegerWithDefault_eq (config : Config) (groupName key : CString) (defaultValue : Int) :
    gfal2GetOptIntegerWithDefault config groupName key defaultValue =
      (validInteger config groupName key).getD defaultValue := by
  unfold gfal2GetOptIntegerWithDefault validInteger
  cases config.optInteger groupName key with
  | none => rfl
  | some value =>
      by_cases hrange : -2 ^ 31 ≤ value ∧ value < 2 ^ 31
      · rw [Option.filter_some_pos (by simpa using hrange)]
        exact if_pos hrange
      · rw [Option.filter_some_neg (by simpa using hrange)]
        exact if_neg hrange

namespace SameReadings

variable {config user : Config} (same : SameReadings config user) {uri : CString → Option DavixUri} {src dst : CString}

/-- What the user sets is read the same afterwards. -/
theorem store (same : SameReadings config user) (groupName key value : CString) (integer : Option Int) (boolean : Option Bool) :
    SameReadings (config.store groupName key value integer boolean) (user.store groupName key value integer boolean) where
  strings g k h := by rw [Config.optString_store, Config.optString_store, same.strings g k h]
  integers g k h := by rw [Config.optInteger_store, Config.optInteger_store, same.integers g k h]
  booleans g k h := by rw [Config.optBoolean_store, Config.optBoolean_store, same.booleans g k h]
  switches k hk := by
    unfold gfal2GetOptBooleanWithDefault
    rw [Config.optBoolean_store, Config.optBoolean_store]
    split
    · rfl
    · exact same.switches k hk
  timeout := by
    unfold validInteger
    rw [Config.optInteger_store, Config.optInteger_store]
    split
    · rfl
    · exact same.timeout

include same

theorem seBoolean (surl key : CString) :
    getSeCustomOptBoolean uri config surl key = getSeCustomOptBoolean uri user surl key := by
  unfold getSeCustomOptBoolean
  dsimp only
  rw [same.booleans _ key fun h => constructConfigGroupFromUrl_ne surl h.1]

theorem seString (surl key : CString) :
    getSeCustomOptString uri config surl key = getSeCustomOptString uri user surl key := by
  unfold getSeCustomOptString
  dsimp only
  rw [same.strings _ key fun h => constructConfigGroupFromUrl_ne surl h.1]

theorem switch {key : CString} (hkey : key ≠ lit "OPERATION_TIMEOUT") :
    httpSwitch uri config key src dst = httpSwitch uri user key src dst :=
  httpSwitch_eq_of_se (fun surl => same.seBoolean surl key) (same.switches key hkey)

theorem possible : ThirdPartyPossible uri config src dst ↔ ThirdPartyPossible uri user src dst := by
  unfold ThirdPartyPossible isHttp3rdcopyEnabled
  rw [same.switch (by decide)]

theorem configured : configuredCopyMode uri config src dst = configuredCopyMode uri user src dst := by
  have hse : seCopyMode uri config src dst = seCopyMode uri user src dst := by
    unfold seCopyMode
    rw [same.seString, same.seString]
  have hdefault : config.optString httpPluginGroup (lit "DEFAULT_COPY_MODE") =
      user.optString httpPluginGroup (lit "DEFAULT_COPY_MODE") :=
    same.strings _ _ fun h => absurd h.2 (by decide)
  have hplugin : pluginCopyMode config = pluginCopyMode user := by
    unfold pluginCopyMode gfal2GetOptStringWithDefault
    rw [hdefault]
  rw [configuredCopyMode, configuredCopyMode, hse, hplugin]

/-- Two copies that cannot tell their configurations apart choose the same mode, and leave configurations
that copies cannot tell apart. -/
theorem construct (uri : CString → Option DavixUri) (src dst : CString) :
    (constructCopyMode uri config src dst).1 = (constructCopyMode uri user src dst).1 ∧
    SameReadings (constructCopyMode uri config src dst).2 (constructCopyMode uri user src dst).2 := by
  by_cases hpossible : ThirdPartyPossible uri config src dst
  · have hstreaming : isHttpStreamingEnabled uri config src dst = isHttpStreamingEnabled uri user src dst :=
      same.switch (by decide)
    by_cases hquery : queryCopyMode src dst = .none
    · rw [constructCopyMode_of_configured hpossible hquery,
        constructCopyMode_of_configured (same.possible.mp hpossible) hquery, same.configured, hstreaming]
      exact ⟨rfl, same⟩
    · rw [constructCopyMode_of_query hpossible hquery, constructCopyMode_of_query (same.possible.mp hpossible) hquery,
        hstreaming]
      exact ⟨rfl, (same.store _ _ _ _ _).store _ _ _ _ _⟩
  · rw [constructCopyMode_of_impossible hpossible, constructCopyMode_of_impossible (mt same.possible.mpr hpossible)]
    exact ⟨rfl, same⟩

theorem operationTimeout : getOperationTimeout config = getOperationTimeout user := by
  have hglobal : config.optInteger (lit "CORE") (lit "NAMESPACE_TIMEOUT") =
      user.optInteger (lit "CORE") (lit "NAMESPACE_TIMEOUT") :=
    same.integers _ _ fun h => absurd h.1 (by decide)
  have hglobal' : validInteger config (lit "CORE") (lit "NAMESPACE_TIMEOUT") =
      validInteger user (lit "CORE") (lit "NAMESPACE_TIMEOUT") := congrArg (Option.filter _) hglobal
  unfold getOperationTimeout
  simp only [gfal2GetOptIntegerWithDefault_eq, hglobal', same.timeout]

theorem attempted (uri : CString → Option DavixUri) (src dst : CString) (outcome : CopyMode → Option Int) :
    attemptedModes uri config src dst outcome = attemptedModes uri user src dst outcome := by
  obtain ⟨hmode, hleft⟩ := same.construct uri src dst
  unfold attemptedModes isHttp3rdcopyFallbackEnabled
  dsimp only
  rw [hmode, hleft.switch (by decide)]

omit same in
theorem asConfigured {context : Gfal2Context σ} (same : SameReadings context.config user) : AsConfigured context user where
  modes := same.attempted
  copies davix dstBuffer fuel params srcFull dstFull ret copied after outcome hrun hsome houtcome :=
    (httpCopy_modes hrun hsome houtcome).trans (same.attempted _ _ _ _)
  timeout := same.operationTimeout

end SameReadings

/-! ### Histories -/

/-- What happens to a context: the user sets an option, a copy is made, or something else is done that leaves the
configuration alone. -/
inductive HistoryAction (σ : Type) where
  | set (groupName key value : CString) (integer : Option Int) (boolean : Option Bool)
  | copy (davix : Davix σ) (dstBuffer : CString) (fuel : Nat) (params : GfaltParams) (srcFull dstFull : CString)
  | other (change : Gfal2Context σ → Gfal2Context σ) (keeps : ∀ context, (change context).config = context.config)

def historyStep : HistoryAction σ → Gfal2Context σ → Option (Gfal2Context σ)
  | .set groupName key value integer boolean, context =>
      some { context with config := context.config.store groupName key value integer boolean }
  | .copy davix dstBuffer fuel params srcFull dstFull, context =>
      match gfalHttpCopyRecorded davix dstBuffer fuel params srcFull dstFull context with
      | .ok (_, context') => some context'
      | .error _ => none
  | .other change _, context => some (change context)

/-- The configuration as the user sets it. -/
def userStep : HistoryAction σ → Config → Config
  | .set groupName key value integer boolean, config => config.store groupName key value integer boolean
  | .copy .., config | .other .., config => config

/-- The configuration as the user has set it in a history. -/
def userConfig (actions : List (HistoryAction σ)) (config : Config) : Config :=
  actions.foldl (fun config action => userStep action config) config

/-- A copy gets to a mode that a query argument chooses only where the switches that it writes read so already, and to
opening an HTTP source for streaming only where the operation timeout is set. -/
def WritesNothingNew : HistoryAction σ → Gfal2Context σ → Prop
  | .copy davix _ fuel params srcFull dstFull, context =>
      let src := strip3rdFromUrl srcFull gfalUrlMaxLen
      let dst := strip3rdFromUrl dstFull gfalUrlMaxLen
      ∀ start, GetsToModes davix params srcFull dstFull src dst context start →
          (ThirdPartyPossible davix.uri context.config src dst → queryCopyMode src dst ≠ .none →
            gfal2GetOptBooleanWithDefault context.config httpPluginGroup (lit "ENABLE_REMOTE_COPY") true = true ∧
            gfal2GetOptBooleanWithDefault context.config httpPluginGroup (lit "ENABLE_FALLBACK_TPC_COPY") true = false) ∧
          (isHttpScheme src = true → StreamsOver davix fuel params srcFull dstFull src dst start →
            (validInteger context.config httpPluginGroup (lit "OPERATION_TIMEOUT")).isSome)
  | .set .., _ | .other .., _ => True

namespace SameReadings

variable {config user : Config}

/-- An option of the plugin is written that reads so already. -/
theorem writeBoolean (same : SameReadings config user) {key : CString} {value : Bool}
    (hkey : WrittenOption httpPluginGroup key) (htimeout : key ≠ lit "OPERATION_TIMEOUT")
    (hvalue : gfal2GetOptBooleanWithDefault config httpPluginGroup key true = value) :
    SameReadings (gfal2SetOptBoolean config httpPluginGroup key value) user := by
  have hother : ∀ g k, ¬WrittenOption g k → ¬(g = httpPluginGroup ∧ k = key) := by
    rintro g k hwritten ⟨rfl, rfl⟩
    exact hwritten hkey
  refine ⟨fun g k h => ?_, fun g k h => ?_, fun g k h => ?_, fun k hk => ?_, ?_⟩
  · rw [gfal2SetOptBoolean, Config.optString_store, if_neg (hother g k h), same.strings g k h]
  · rw [gfal2SetOptBoolean, Config.optInteger_store, if_neg (hother g k h), same.integers g k h]
  · rw [gfal2SetOptBoolean, Config.optBoolean_store, if_neg (hother g k h), same.booleans g k h]
  · rw [← same.switches k hk]
    unfold gfal2GetOptBooleanWithDefault
    rw [gfal2SetOptBoolean, Config.optBoolean_store]
    split
    · rename_i heq
      rw [heq.2]
      exact hvalue.symm
    · rfl
  · rw [← same.timeout]
    unfold validInteger
    rw [gfal2SetOptBoolean, Config.optInteger_store, if_neg fun h => htimeout h.2.symm]

theorem writeQuery (same : SameReadings config user)
    (hremote : gfal2GetOptBooleanWithDefault config httpPluginGroup (lit "ENABLE_REMOTE_COPY") true = true)
    (hfallback : gfal2GetOptBooleanWithDefault config httpPluginGroup (lit "ENABLE_FALLBACK_TPC_COPY") true = false) :
    SameReadings (storeQueryOptions config) user := by
  apply (same.writeBoolean ⟨rfl, by decide⟩ (by decide) hremote).writeBoolean ⟨rfl, by decide⟩ (by decide)
  exact hfallback

theorem validInteger_range {groupName key : CString} {value : Int} (h : validInteger config groupName key = some value) :
    -2 ^ 31 ≤ value ∧ value < 2 ^ 31 := by
  have hfilter := Option.filter_eq_some_iff.mp h
  simpa using hfilter.2

/-- A timeout that is set is the same after it was set to another value and set back. -/
theorem writeTimeout (same : SameReadings config user) (transferTimeout : Int)
    (hset : (validInteger config httpPluginGroup (lit "OPERATION_TIMEOUT")).isSome) :
    SameReadings (timeoutWritten config transferTimeout) user := by
  obtain ⟨timeout, htimeout⟩ := Option.isSome_iff_exists.mp hset
  have hprevious : getOperationTimeout config = timeout := by
    unfold getOperationTimeout
    rw [gfal2GetOptIntegerWithDefault_eq config httpPluginGroup, htimeout]
    rfl
  have hother : ∀ g k, ¬WrittenOption g k → ¬(g = httpPluginGroup ∧ k = lit "OPERATION_TIMEOUT") := by
    rintro g k hwritten ⟨rfl, rfl⟩
    exact hwritten ⟨rfl, by decide⟩
  refine ⟨fun g k h => ?_, fun g k h => ?_, fun g k h => ?_, fun k hk => ?_, ?_⟩
  · rw [timeoutWritten, gfal2SetOptInteger, gfal2SetOptInteger, Config.optString_store, Config.optString_store,
      if_neg (hother g k h), if_neg (hother g k h), same.strings g k h]
  · rw [timeoutWritten, gfal2SetOptInteger, gfal2SetOptInteger, Config.optInteger_store, Config.optInteger_store,
      if_neg (hother g k h), if_neg (hother g k h), same.integers g k h]
  · rw [timeoutWritten, gfal2SetOptInteger, gfal2SetOptInteger, Config.optBoolean_store, Config.optBoolean_store,
      if_neg (hother g k h), if_neg (hother g k h), same.booleans g k h]
  · rw [← same.switches k hk]
    unfold gfal2GetOptBooleanWithDefault
    rw [timeoutWritten, gfal2SetOptInteger, gfal2SetOptInteger, Config.optBoolean_store, Config.optBoolean_store,
      if_neg fun h => hk h.2, if_neg fun h => hk h.2]
  · rw [← same.timeout, htimeout]
    unfold validInteger
    rw [timeoutWritten, gfal2SetOptInteger, Config.optInteger_store, if_pos ⟨rfl, rfl⟩, hprevious]
    exact Option.filter_some_pos (by simpa using validInteger_range htimeout)

end SameReadings

/-- A copy that writes nothing new leaves a configuration that reads as the user's. -/
theorem sameReadings_copy {davix : Davix σ} {dstBuffer srcFull dstFull : CString} {fuel : Nat} {params : GfaltParams}
    {context context' : Gfal2Context σ} {ret : Ret Int} {copied : HttpCopyRecord} {user : Config}
    (hnew : WritesNothingNew (.copy davix dstBuffer fuel params srcFull dstFull) context)
    (same : SameReadings context.config user)
    (h : gfalHttpCopyRecorded davix dstBuffer fuel params srcFull dstFull context = .ok ((ret, copied), context')) :
    SameReadings context'.config user := by
  rcases httpCopy_config h with hconfig | ⟨start, opened, hgets, hconfig, hopens⟩
  · rw [hconfig]
    exact same
  · obtain ⟨hquery, htimeout⟩ := hnew start hgets
    rw [hconfig]
    have hchosen : SameReadings (constructCopyMode davix.uri context.config (strip3rdFromUrl srcFull gfalUrlMaxLen)
        (strip3rdFromUrl dstFull gfalUrlMaxLen)).2 user ∧
        (validInteger (constructCopyMode davix.uri context.config (strip3rdFromUrl srcFull gfalUrlMaxLen)
          (strip3rdFromUrl dstFull gfalUrlMaxLen)).2 httpPluginGroup (lit "OPERATION_TIMEOUT")) =
          validInteger context.config httpPluginGroup (lit "OPERATION_TIMEOUT") := by
      by_cases hpossible : ThirdPartyPossible davix.uri context.config (strip3rdFromUrl srcFull gfalUrlMaxLen)
          (strip3rdFromUrl dstFull gfalUrlMaxLen)
      · by_cases hnone : queryCopyMode (strip3rdFromUrl srcFull gfalUrlMaxLen)
            (strip3rdFromUrl dstFull gfalUrlMaxLen) = .none
        · rw [constructCopyMode_of_configured hpossible hnone]
          exact ⟨same, rfl⟩
        · obtain ⟨hremote, hfallback⟩ := hquery hpossible hnone
          rw [constructCopyMode_of_query hpossible hnone]
          have hwritten := same.writeQuery hremote hfallback
          exact ⟨hwritten, hwritten.timeout.trans same.timeout.symm⟩
      · rw [constructCopyMode_of_impossible hpossible]
        exact ⟨same, rfl⟩
    unfold afterStreaming
    split
    · rename_i hopened
      exact hchosen.1.writeTimeout _ (by rw [hchosen.2]; exact htimeout hopened.1 (hopens hopened.2))
    · exact hchosen.1

/-- Every action that writes nothing new keeps the configuration in step with the user's. -/
theorem sameReadings_step {action : HistoryAction σ} {context context' : Gfal2Context σ} {user : Config}
    (hnew : WritesNothingNew action context) (same : SameReadings context.config user)
    (hstep : historyStep action context = some context') : SameReadings context'.config (userStep action user) := by
  cases action with
  | set groupName key value integer boolean =>
      cases hstep
      exact same.store groupName key value integer boolean
  | copy davix dstBuffer fuel params srcFull dstFull =>
      rw [historyStep] at hstep
      split at hstep
      · rename_i outcome after hrun
        cases hstep
        exact sameReadings_copy hnew same hrun
      · cases hstep
  | other change keeps =>
      cases hstep
      rw [keeps]
      exact same

/-- In a history whose copies write nothing new, every copy goes through the modes, and every operation has the
timeout, of the configuration as the user has set it up to then. -/
theorem http_copies_do_not_interfere (context context' : Gfal2Context σ) (actions : List (HistoryAction σ))
    (hrun : Run historyStep WritesNothingNew context actions context') :
    AsConfigured context' (userConfig actions context.config) := by
  have same : SameReadings context'.config (userConfig actions context.config) :=
    hrun.simulation (fun action state state' user hnew same hstep => sameReadings_step hnew same hstep)
      (SameReadings.refl context.config)
  exact same.asConfigured

/-! ### A history in which a copy disturbs the next one -/

section Willing

variable (uri : CString → Option DavixUri) (src dst : CString)

/-- A third-party copy that Davix makes at the first attempt. -/
theorem httpCopy_willing (context : Gfal2Context Unit) (srcFull dstFull : CString)
    (hmode : (constructCopyMode uri context.config src dst).1.copyMode ≠ .stream) : ∃ context',
    httpCopyStripped (willingDavix uri) [] 0 bareParams srcFull dstFull src dst context =
        .ok ((⟨0, none⟩, { attempts :=
          [⟨(constructCopyMode uri context.config src dst).1.copyMode, ⟨0, none⟩⟩] }), context') ∧
      context'.config = (constructCopyMode uri context.config src dst).2 := by
  have hruns := (constructCopyMode_chosen uri context.config src dst).runs
  obtain ⟨left, hloop, hleft⟩ : ∃ left, copyLoop (willingDavix uri) 0 bareParams src dst
      (constructCopyMode uri context.config src dst).1 {}
      { context with
        config := (constructCopyMode uri context.config src dst).2
        events := context.events ++
          [⟨httpPluginDomain, .none, lit "PREPARE:ENTER", (srcFull ++ lit " => " ++ dstFull).take 511⟩] ++
          [⟨httpPluginDomain, .none, lit "PREPARE:EXIT", (srcFull ++ lit " => " ++ dstFull).take 511⟩] ++
          [⟨httpPluginDomain, .none, lit "TRANSFER:ENTER", (srcFull ++ lit " => " ++ dstFull).take 511⟩] } =
        .ok ({ attempts := [⟨(constructCopyMode uri context.config src dst).1.copyMode, ⟨0, none⟩⟩] }, left) ∧
      left.config = (constructCopyMode uri context.config src dst).2 :=
    ⟨_, copyLoop_willing uri src dst bareParams _ hruns hmode, rfl⟩
  obtain ⟨told, hfinish, htold⟩ : ∃ told, finishTransfer src dst
      { attempts := [⟨(constructCopyMode uri context.config src dst).1.copyMode, ⟨0, none⟩⟩] } left =
        .ok (⟨0, none⟩, told) ∧ told.config = left.config := ⟨_, rfl, rfl⟩
  refine ⟨told, ?_, htold.trans hleft⟩
  change ((tryModes (willingDavix uri) 0 bareParams srcFull dstFull src dst) >>= _) _ = _
  exact (bind_of_ok hloop).trans ((bind_of_ok hfinish).trans rfl)

end Willing

/-- The copy of one HTTPS URL to another, the query given. -/
def steeredCopy (query : CString) : HistoryAction Unit :=
  .copy (willingDavix fun _ => none) [] 0 bareParams (lit "https://a/f" ++ query) (lit "https://b/g")

theorem steeredCopy_step (context : Gfal2Context Unit) (query : CString)
    (hstrip : strip3rdFromUrl (lit "https://a/f" ++ query) gfalUrlMaxLen = lit "https://a/f" ++ query)
    (hmode : (constructCopyMode (fun _ => none) context.config (lit "https://a/f" ++ query)
      (lit "https://b/g")).1.copyMode ≠ .stream) : ∃ context',
      historyStep (steeredCopy query) context = some context' ∧
      context'.config = (constructCopyMode (fun _ => none) context.config (lit "https://a/f" ++ query)
        (lit "https://b/g")).2 := by
  have hdst : strip3rdFromUrl (lit "https://b/g") gfalUrlMaxLen = lit "https://b/g" := by decide
  obtain ⟨context', hrun, hconfig⟩ := httpCopy_willing (fun _ => none) _ _ context (lit "https://a/f" ++ query)
    (lit "https://b/g") hmode
  have hsame : gfalHttpCopyRecorded (willingDavix fun _ => none) [] 0 bareParams (lit "https://a/f" ++ query)
      (lit "https://b/g") = httpCopyStripped (willingDavix fun _ => none) [] 0 bareParams (lit "https://a/f" ++ query)
        (lit "https://b/g") (lit "https://a/f" ++ query) (lit "https://b/g") := by
    rw [gfalHttpCopyRecorded, hstrip, hdst]
  rw [← hsame] at hrun
  exact ⟨context', by rw [steeredCopy, historyStep, hrun], hconfig⟩

/-- The setting of the mode to start with, and the configuration that it makes of an empty one. -/
def pushFirst : HistoryAction Unit :=
  .set httpPluginGroup (lit "DEFAULT_COPY_MODE") (lit "3rd push") none none

def pushFirstConfig : Config := userStep pushFirst {}

/-- In such a history, a copy after a setting. -/
theorem http_copy_after_setting_as_configured : ∃ context',
    Run historyStep WritesNothingNew { world := () } [pushFirst, steeredCopy []] context' ∧
      AsConfigured context' (userConfig [pushFirst, steeredCopy []] {}) := by
  obtain ⟨context', hstep, -⟩ :=
    steeredCopy_step { config := pushFirstConfig, world := () } [] (by decide) (by decide)
  have hnew : WritesNothingNew (steeredCopy []) { config := pushFirstConfig, world := () } := by
    rintro start ⟨told, checked, ready, source, seen, prepared, htold, hsource, -, hprepared, -, hexit⟩
    cases htold
    cases hsource
    cases hprepared
    cases hexit
    refine ⟨fun _ hquery => absurd (by decide) hquery, ?_⟩
    rintro - ⟨entered, hentered, hopens⟩
    cases hentered
    cases hopens with
    | streams hmode => exact absurd hmode (by decide)
    | falls hpass hgoes =>
        cases hpass
        exact absurd hgoes.1 (by decide)
  have hhistory : Run historyStep WritesNothingNew { world := () } [pushFirst, steeredCopy []] context' :=
    .cons trivial rfl (.cons hnew hstep (.nil context'))
  exact ⟨context', hhistory, http_copies_do_not_interfere _ _ _ hhistory⟩

/-- A copy that a query argument steers takes the fallback away from the next copy. -/
theorem query_argument_disturbs_next_copy : ¬∀ (context context' : Gfal2Context Unit) (actions : List (HistoryAction Unit)),
      Run historyStep (fun _ _ => True) context actions context' →
      AsConfigured context' (userConfig actions context.config) := by
  intro hclaim
  obtain ⟨context', hstep, hconfig⟩ := steeredCopy_step { world := () }
    (lit "?copy_mode=pull") (by decide) (by decide)
  have hmodes := (hclaim _ _ _ (.cons trivial hstep (.nil context'))).modes (fun _ => none) (lit "https://a/f")
    (lit "https://b/g") fun _ => some EIO
  have hwritten : context'.config = storeQueryOptions {} := by
    rw [hconfig, constructCopyMode_of_query (by decide) (by decide)]
  rw [hwritten] at hmodes
  have hafter : attemptedModes (fun _ => none) (storeQueryOptions {}) (lit "https://a/f") (lit "https://b/g")
      (fun _ => some EIO) = [.pull] := by
    unfold attemptedModes
    rw [constructCopyMode_of_configured (by decide) (by decide), HttpCopyMode.modesFrom]
    decide
  have hbefore : attemptedModes (fun _ => none) {} (lit "https://a/f") (lit "https://b/g") (fun _ => some EIO) =
      [.pull, .push, .stream] := by
    unfold attemptedModes
    rw [constructCopyMode_of_configured (by decide) (by decide), HttpCopyMode.modesFrom, HttpCopyMode.modesFrom,
      HttpCopyMode.modesFrom]
    decide
  rw [hafter] at hmodes
  exact absurd (hmodes.trans hbefore) (by decide)

end Gfal2
