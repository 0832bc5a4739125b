import Gfal2.HttpInvariants

/-! Which modes an HTTP copy goes through. The copy functions that run are a climb from the chosen mode: each but
the last one failed in a way that the next mode may make good. From the climb follow the order of the modes,
what stands between two of them and what success rests on. Only the choice of streaming where a third-party copy
is out of the question does not look whether streaming is enabled. -/

namespace Gfal2

open Base Exec

variable {σ : Type}

/-! ### The climb through the modes -/

/-- The place of a mode in the order of the fallback. -/
def CopyMode.position : CopyMode → Nat
  | .pull => 0
  | .push => 1
  | .stream => 2
  | .none => 3

/-- The attempt failed, and with that error another mode may be tried. -/
def CopyAttempt.Retries (fallback : Bool) (a : CopyAttempt) : Prop :=
  a.result.val ≠ 0 ∧ fallback = true ∧ ∃ e, a.result.err = some e ∧ gfalHttpCopyShouldFallback e.code = true

def HttpCopyMode.Runs (m : HttpCopyMode) : Prop :=
  m.atEnd = false ∧ (m.copyMode = .stream → m.streamingEnabled = true)

/-- The attempts of a copy that starts at a mode. -/
inductive Tries (fallback : Bool) : HttpCopyMode → List CopyAttempt → Prop
  /-- Streaming is all that is left, and it is disabled. -/
  | refused {m : HttpCopyMode} : m.copyMode = .stream → m.streamingEnabled = false → Tries fallback m []
  | last {m : HttpCopyMode} {a : CopyAttempt} :
      a.mode = m.copyMode → m.Runs → (m.next.atEnd = false → ¬a.Retries fallback) → Tries fallback m [a]
  | next {m : HttpCopyMode} {a : CopyAttempt} {rest : List CopyAttempt} :
      a.mode = m.copyMode → m.Runs → m.next.atEnd = false → a.Retries fallback → Tries fallback m.next rest →
      Tries fallback m (a :: rest)

theorem HttpCopyMode.position_next {m : HttpCopyMode} (h : m.atEnd = false) :
    m.copyMode.position < m.next.copyMode.position := by
  obtain ⟨mode, only, enabled⟩ := m
  cases mode <;> cases enabled <;> revert h <;> decide +revert

theorem HttpCopyMode.streamingEnabled_next (m : HttpCopyMode) : m.next.streamingEnabled = m.streamingEnabled := by
  unfold HttpCopyMode.next
  split
  · rfl
  · split <;> rfl

/-- Streaming is fallen back to only where it is enabled. -/
theorem HttpCopyMode.next_eq_stream {m : HttpCopyMode} (h : m.next.copyMode = .stream) : m.streamingEnabled = true := by
  obtain ⟨mode, only, enabled⟩ := m
  cases mode <;> cases enabled <;> revert h <;> decide +revert

namespace Tries

variable {fallback : Bool} {m : HttpCopyMode} {attempts : List CopyAttempt}

variable (h : Tries fallback m attempts)
include h

theorem position_le : ∀ a ∈ attempts, m.copyMode.position ≤ a.mode.position := by
  induction h with
  | refused => simp
  | last hmode hruns hends =>
      intro a ha
      rw [List.mem_singleton.mp ha, hmode]
  | @next m a rest hmode hruns hnext hretries hrest ih =>
      intro b hb
      rcases List.mem_cons.mp hb with rfl | hb
      · rw [hmode]
      · exact (HttpCopyMode.position_next hruns.1).le.trans (ih b hb)

theorem increasing : attempts.Pairwise fun earlier later => earlier.mode.position < later.mode.position := by
  induction h with
  | refused => exact List.Pairwise.nil
  | last => exact List.pairwise_singleton _ _
  | @next m a rest hmode hruns hnext hretries hrest ih =>
      refine List.pairwise_cons.mpr ⟨fun later hlater => ?_, ih⟩
      rw [hmode]
      exact (HttpCopyMode.position_next hruns.1).trans_le (hrest.position_le later hlater)

theorem mode_ne_none : ∀ a ∈ attempts, a.mode ≠ .none := by
  have hruns : ∀ {m : HttpCopyMode} {a : CopyAttempt}, a.mode = m.copyMode → m.Runs → a.mode ≠ .none := by
    intro m a hmode hruns hnone
    have hend := hruns.1
    rw [HttpCopyMode.atEnd, ← hmode, hnone] at hend
    simp at hend
  induction h with
  | refused => simp
  | last hmode hrun hends =>
      intro a ha
      rw [List.mem_singleton.mp ha]
      exact hruns hmode hrun
  | next hmode hrun hnext hretries hrest ih =>
      intro b hb
      rcases List.mem_cons.mp hb with rfl | hb
      · exact hruns hmode hrun
      · exact ih b hb

theorem streamed : ∀ a ∈ attempts, a.mode = .stream → m.streamingEnabled = true := by
  induction h with
  | refused => simp
  | last hmode hruns hends =>
      intro a ha hstream
      rw [List.mem_singleton.mp ha, hmode] at hstream
      exact hruns.2 hstream
  | next hmode hruns hnext hretries hrest ih =>
      intro b hb hstream
      rcases List.mem_cons.mp hb with rfl | hb
      · exact hruns.2 (hmode ▸ hstream)
      · rw [← HttpCopyMode.streamingEnabled_next]
        exact ih b hb hstream

/-- Between two attempts stands a failure that allows for another mode. -/
theorem retried : attempts.IsChain fun failed _ => failed.Retries fallback := by
  induction h with
  | refused => exact List.IsChain.nil
  | last => exact List.IsChain.singleton _
  | @next m a rest hmode hruns hnext hretries hrest ih =>
      cases rest with
      | nil => exact List.IsChain.singleton _
      | cons b rest => exact List.isChain_cons_cons.mpr ⟨hretries, ih⟩

theorem length_le : attempts.length ≤ m.remaining := by
  induction h with
  | refused => simp
  | @last m a hmode hruns hends =>
      obtain ⟨mode, only, enabled⟩ := m
      obtain ⟨hend, -⟩ := hruns
      cases mode
      case none => simp [HttpCopyMode.atEnd] at hend
      all_goals simp [HttpCopyMode.remaining]
  | next hmode hruns hnext hretries hrest ih =>
      exact (Nat.succ_le_succ ih).trans (HttpCopyMode.remaining_next hnext)

end Tries

/-! ### The loop climbs -/

variable {davix : Davix σ} {fuel : Nat} {params : GfaltParams} {src dst : CString} {context context' : Gfal2Context σ}
  {p : CopyProgress} {p' : CopyProgress}

/-- A third-party copy does not touch the configuration. -/
theorem keeps_copyPass {copyMode : HttpCopyMode} (hmode : copyMode.copyMode ≠ .stream) (p : CopyProgress) :
    Keeps Gfal2Context.config (copyPass davix fuel params src dst copyMode p) := by
  intro config
  have stable := httpStable_config davix config
  refine (stable.triggerEvent _ _ _ _).bind fun _ => ?_
  dsimp only
  rw [if_neg hmode]
  refine (stable.thirdParty params src dst _).bind fun copied => stable.finishPass fun _ _ _ _ => ?_
  exact HttpStable.unlink (preserves_config_request config _)

theorem finishPass_spec {left : Bool} (h : finishPass davix params dst p context = .ok ((p', left), context')) :
    p' = p ∧ (p.ret = 0 ∧ left = true ∨ p.ret ≠ 0 ∧ left = false ∧ p.nestedError.isSome) := by
  by_cases hret : p.ret = 0
  · rw [finishPass, if_pos hret] at h
    cases h
    exact ⟨rfl, .inl ⟨hret, rfl⟩⟩
  · rw [finishPass, if_neg hret] at h
    cases herr : p.nestedError with
    | none =>
        rw [herr] at h
        cases h
    | some e =>
        rw [herr] at h
        dsimp only at h
        have hpair : (p', left) = (p, false) := by
          split at h
          · obtain ⟨_, middle, -, hrest⟩ := bind_eq_ok.mp h
            cases hrest
            rfl
          · cases h
            rfl
        cases hpair
        exact ⟨rfl, .inr ⟨hret, rfl, rfl⟩⟩

/-- What one pass of the loop does: it is left because streaming is refused, or a copy function runs, and
the loop is left if that succeeds. -/
theorem copyPass_spec {m : HttpCopyMode} {left : Bool} (hend : m.atEnd = false)
    (honly : m.copyMode = .stream → m.streamingEnabled = true ∨ m.streamingOnly = true)
    (h : copyPass davix fuel params src dst m p context = .ok ((p', left), context')) :
    (m.copyMode = .stream ∧ m.streamingEnabled = false ∧ left = true ∧ p'.ret ≠ 0 ∧ p'.attempts = p.attempts) ∨
    (m.Runs ∧ ∃ a, a.mode = m.copyMode ∧ p'.attempts = p.attempts ++ [a] ∧ p'.ret = a.result.val ∧
      p'.nestedError = a.result.err ∧
      (a.result.val = 0 ∧ left = true ∨ a.result.val ≠ 0 ∧ left = false ∧ a.result.err.isSome)) := by
  obtain ⟨_, told, -, h⟩ := bind_eq_ok.mp h
  dsimp only at h
  by_cases hmode : m.copyMode = .stream
  · rw [if_pos hmode] at h
    by_cases henabled : m.streamingEnabled = true
    · rw [if_pos henabled] at h
      obtain ⟨copied, middle, -, hfinish⟩ := bind_eq_ok.mp h
      obtain ⟨rfl, hleft⟩ := finishPass_spec hfinish
      exact .inr ⟨⟨hend, fun _ => henabled⟩, ⟨.stream, copied⟩, hmode.symm, rfl, rfl, rfl, hleft⟩
    · have hdisabled : m.streamingEnabled = false := by simpa using henabled
      rw [if_neg henabled, if_pos ((honly hmode).resolve_left henabled)] at h
      cases h
      exact .inl ⟨hmode, hdisabled, rfl, by simp, rfl⟩
  · rw [if_neg hmode] at h
    obtain ⟨copied, middle, -, hfinish⟩ := bind_eq_ok.mp h
    obtain ⟨rfl, hleft⟩ := finishPass_spec hfinish
    exact .inr ⟨⟨hend, fun h => absurd h hmode⟩, ⟨m.copyMode, copied.1⟩, rfl, rfl, rfl, rfl, hleft⟩

/-- After a pass that left these variables the loop goes on with the next mode. -/
def GoesOn (davix : Davix σ) (src dst : CString) (m : HttpCopyMode) (q : CopyProgress) (left : Bool)
    (context : Gfal2Context σ) : Prop :=
  left = false ∧ m.next.atEnd = false ∧ isHttp3rdcopyFallbackEnabled davix.uri context.config src dst = true ∧
    ∃ e, q.nestedError = some e ∧ gfalHttpCopyShouldFallback e.code = true

/-- The loop ends with a pass, or it goes on with the next mode from there. -/
theorem copyLoop_cases {m : HttpCopyMode} (h : copyLoop davix fuel params src dst m p context = .ok (p', context')) :
    ∃ q left middle, copyPass davix fuel params src dst m p context = .ok ((q, left), middle) ∧
      ((¬GoesOn davix src dst m q left middle ∧ context' = middle ∧ p'.ret = q.ret ∧ p'.attempts = q.attempts) ∨
        (GoesOn davix src dst m q left middle ∧
          copyLoop davix fuel params src dst m.next { q with attemptedMode := q.attemptedMode ++ [m.str] } middle =
            .ok (p', context'))) := by
  rw [copyLoop] at h
  obtain ⟨⟨q, left⟩, middle, hpass, h⟩ := bind_eq_ok.mp h
  refine ⟨q, left, middle, hpass, ?_⟩
  dsimp only at h
  cases left with
  | true =>
      cases h
      exact .inl ⟨fun hgoes => absurd hgoes.1 (by simp), rfl, rfl, rfl⟩
  | false =>
      rw [if_neg (by simp), get_bind_apply] at h
      by_cases hnext : m.next.atEnd = false
      · rw [dif_pos hnext] at h
        by_cases hfallback : isHttp3rdcopyFallbackEnabled davix.uri middle.config src dst = true
        · rw [if_pos hfallback] at h
          cases herr : q.nestedError with
          | none =>
              rw [herr] at h
              cases h
          | some e =>
              rw [herr] at h
              dsimp only at h
              by_cases hshould : gfalHttpCopyShouldFallback e.code = true
              · rw [if_pos hshould] at h
                exact .inr ⟨⟨rfl, hnext, hfallback, e, herr, hshould⟩, h⟩
              · rw [if_neg hshould] at h
                cases h
                refine .inl ⟨?_, rfl, rfl, rfl⟩
                rintro ⟨-, -, -, e', he', hshould'⟩
                cases herr.symm.trans he'
                exact hshould hshould'
        · rw [if_neg hfallback] at h
          cases h
          exact .inl ⟨fun hgoes => hfallback hgoes.2.2.1, rfl, rfl, rfl⟩
      · rw [dif_neg hnext] at h
        cases h
        exact .inl ⟨fun hgoes => hnext hgoes.2.1, rfl, rfl, rfl⟩

/-- No mode follows a streamed copy. -/
theorem HttpCopyMode.ne_stream_of_next {m : HttpCopyMode} (h : m.next.atEnd = false) : m.copyMode ≠ .stream := by
  intro hstream
  rw [HttpCopyMode.atEnd, HttpCopyMode.next, hstream] at h
  simp at h

/-- The mode that the loop goes on with is one that the loop may start with. -/
theorem HttpCopyMode.decided_next {m : HttpCopyMode} (h : m.next.copyMode = .stream) :
    m.next.streamingEnabled = true ∨ m.next.streamingOnly = true := by
  rw [HttpCopyMode.streamingEnabled_next]
  exact .inl (HttpCopyMode.next_eq_stream h)

/-- The loop climbs from its mode, and ends well only after a copy function that does. -/
theorem copyLoop_tries {m : HttpCopyMode} {p : CopyProgress} {context context' : Gfal2Context σ} (hend : m.atEnd = false)
    (honly : m.copyMode = .stream → m.streamingEnabled = true ∨ m.streamingOnly = true)
    (h : copyLoop davix fuel params src dst m p context = .ok (p', context')) :
    ∃ attempts, p'.attempts = p.attempts ++ attempts ∧
      Tries (isHttp3rdcopyFallbackEnabled davix.uri context.config src dst) m attempts ∧
      (p'.ret = 0 → ∃ a, attempts.getLast? = some a ∧ a.result.val = 0) := by
  obtain ⟨q, left, middle, hpass, ⟨hstops, -, hret', hattempts'⟩ | ⟨hgoes, hrest⟩⟩ := copyLoop_cases h
  · rcases copyPass_spec hend honly hpass with
      ⟨hmode, hdisabled, -, hret, hattempts⟩ | ⟨hruns, a, hmode, hattempts, hret, herr, hleft⟩
    · exact ⟨[], by rw [hattempts', hattempts, List.append_nil], .refused hmode hdisabled,
        fun hzero => absurd (hret'.symm.trans hzero) hret⟩
    · refine ⟨[a], hattempts'.trans hattempts, .last hmode hruns fun hnext hretries => ?_,
        fun hzero => ⟨a, rfl, hret.symm.trans (hret'.symm.trans hzero)⟩⟩
      -- a mode would follow, so this pass was no streamed copy and the configuration is still the one of its start
      have hconfig := (keeps_copyPass (HttpCopyMode.ne_stream_of_next hnext) p).eq hpass
      obtain ⟨hval, hfallback, e, he, hshould⟩ := hretries
      rcases hleft with ⟨hzero, -⟩ | ⟨-, hleft, -⟩
      · exact hval hzero
      · exact hstops ⟨hleft, hnext, by rw [hconfig]; exact hfallback, e, herr.trans he, hshould⟩
  · obtain ⟨hleft', hnext, hfallback, e, he, hshould⟩ := hgoes
    rw [(keeps_copyPass (HttpCopyMode.ne_stream_of_next hnext) p).eq hpass] at hfallback
    rcases copyPass_spec hend honly hpass with
      ⟨-, -, hleft, -, -⟩ | ⟨hruns, a, hmode, hattempts, hret, herr, ⟨-, hleft⟩ | ⟨hval, -, -⟩⟩
    · exact absurd (hleft'.symm.trans hleft) (by simp)
    · exact absurd (hleft'.symm.trans hleft) (by simp)
    · obtain ⟨rest, hattempts', htries, hlast⟩ := copyLoop_tries hnext HttpCopyMode.decided_next hrest
      rw [(keeps_copyPass (HttpCopyMode.ne_stream_of_next hnext) p).eq hpass] at htries
      refine ⟨a :: rest, ?_, .next hmode hruns hnext ⟨hval, hfallback, e, herr.symm.trans he, hshould⟩ htries,
        fun hzero => ?_⟩
      · rw [hattempts', hattempts, List.append_assoc, List.singleton_append]
      · obtain ⟨b, hb, hbval⟩ := hlast hzero
        exact ⟨b, by rw [List.getLast?_cons, hb]; rfl, hbval⟩
termination_by m.remaining
decreasing_by exact HttpCopyMode.remaining_next hnext

/-! ### The chosen mode -/

section Choice

variable {uri : CString → Option DavixUri} {config : Config}

/-- The group of a storage has a colon in its name. -/
theorem constructConfigGroupFromUrl_ne (surl : CString) : constructConfigGroupFromUrl uri surl ≠ httpPluginGroup := by
  unfold constructConfigGroupFromUrl
  cases uri surl with
  | none => decide
  | some parts =>
      intro heq
      dsimp only at heq
      have hcolon : ':' ∈ (insecureProtocol parts.protocol ++ lit ":" ++ parts.host).map Char.toUpper :=
        List.mem_map.mpr ⟨':', by simp [lit], rfl⟩
      rw [heq] at hcolon
      revert hcolon
      decide

theorem getSeCustomOptBoolean_store (surl key key' value : CString) (integer : Option Int) (boolean : Option Bool) :
    getSeCustomOptBoolean uri (config.store httpPluginGroup key' value integer boolean) surl key =
      getSeCustomOptBoolean uri config surl key := by
  have hne : ¬(constructConfigGroupFromUrl uri surl = httpPluginGroup ∧ key = key') :=
    fun h => constructConfigGroupFromUrl_ne surl h.1
  simp only [getSeCustomOptBoolean, Config.store, if_neg hne]

/-- A switch is the storages' own, or else the plugin's. -/
theorem httpSwitch_eq_of_se {config' : Config} {key : CString}
    (hse : ∀ surl, getSeCustomOptBoolean uri config' surl key = getSeCustomOptBoolean uri config surl key)
    (hplugin : (config'.optBoolean httpPluginGroup key).getD true = (config.optBoolean httpPluginGroup key).getD true) :
    httpSwitch uri config' key src dst = httpSwitch uri config key src dst := by
  simp only [httpSwitch, gfal2GetOptBooleanWithDefault, hse, hplugin]

/-- What a query argument writes can only take fallback away. -/
theorem isHttp3rdcopyFallbackEnabled_of_query (h : isHttp3rdcopyFallbackEnabled uri (storeQueryOptions config) src dst = true) :
    isHttp3rdcopyFallbackEnabled uri config src dst = true := by
  have hse : ∀ surl, getSeCustomOptBoolean uri (storeQueryOptions config) surl (lit "ENABLE_FALLBACK_TPC_COPY") =
      getSeCustomOptBoolean uri config surl (lit "ENABLE_FALLBACK_TPC_COPY") := by
    intro surl
    rw [storeQueryOptions, gfal2SetOptBoolean, gfal2SetOptBoolean, getSeCustomOptBoolean_store,
      getSeCustomOptBoolean_store]
  have hplugin : gfal2GetOptBooleanWithDefault (storeQueryOptions config) httpPluginGroup
      (lit "ENABLE_FALLBACK_TPC_COPY") true = false := rfl
  unfold isHttp3rdcopyFallbackEnabled httpSwitch at h ⊢
  simp only [hse, hplugin] at h
  dsimp only
  split at h
  · rename_i hvalues
    rw [if_pos hvalues]
    exact h
  · exact absurd h Bool.false_ne_true

/-- A third-party copy is possible: the source is HTTP, and third-party copies are enabled. -/
def ThirdPartyPossible (uri : CString → Option DavixUri) (config : Config) (src dst : CString) : Prop :=
  isHttpScheme src = true ∧ isHttp3rdcopyEnabled uri config src dst = true

instance (uri : CString → Option DavixUri) (config : Config) (src dst : CString) :
    Decidable (ThirdPartyPossible uri config src dst) :=
  inferInstanceAs (Decidable (_ ∧ _))

/-- The mode of a copy that no query argument chooses. -/
def configuredCopyMode (uri : CString → Option DavixUri) (config : Config) (src dst : CString) : CopyMode :=
  if seCopyMode uri config src dst ≠ .none then seCopyMode uri config src dst else pluginCopyMode config

theorem pluginCopyMode_ne_none (config : Config) : pluginCopyMode config ≠ .none := by
  unfold pluginCopyMode
  dsimp only
  split
  · exact fun h => CopyMode.noConfusion h
  · assumption

theorem configuredCopyMode_ne_none (src dst : CString) : configuredCopyMode uri config src dst ≠ .none := by
  unfold configuredCopyMode
  split
  · assumption
  · exact pluginCopyMode_ne_none config

theorem constructCopyMode_of_impossible (h : ¬ThirdPartyPossible uri config src dst) :
    constructCopyMode uri config src dst = (⟨.stream, true, true⟩, config) := by
  rw [constructCopyMode, if_pos (by rwa [ThirdPartyPossible, not_and_or] at h)]

theorem constructCopyMode_of_query (h : ThirdPartyPossible uri config src dst) (hquery : queryCopyMode src dst ≠ .none) :
    constructCopyMode uri config src dst =
      (⟨queryCopyMode src dst, queryCopyMode src dst = .stream, isHttpStreamingEnabled uri config src dst⟩,
        storeQueryOptions config) := by
  have hpossible : ¬(¬isHttpScheme src ∨ ¬isHttp3rdcopyEnabled uri config src dst) := by
    rw [not_or, not_not, not_not]
    exact h
  rw [constructCopyMode, if_neg hpossible]
  exact if_pos hquery

theorem constructCopyMode_of_configured (h : ThirdPartyPossible uri config src dst) (hquery : queryCopyMode src dst = .none) :
    constructCopyMode uri config src dst =
      (⟨configuredCopyMode uri config src dst, configuredCopyMode uri config src dst = .stream,
        isHttpStreamingEnabled uri config src dst⟩, config) := by
  have hpossible : ¬(¬isHttpScheme src ∨ ¬isHttp3rdcopyEnabled uri config src dst) := by
    rw [not_or, not_not, not_not]
    exact h
  rw [constructCopyMode, if_neg hpossible]
  dsimp only
  rw [if_neg (not_not.mpr hquery), configuredCopyMode]
  split <;> rfl

/-- What every choice of a mode has in common. -/
structure ChosenMode (uri : CString → Option DavixUri) (config : Config) (src dst : CString)
    (chosen : HttpCopyMode × Config) : Prop where
  runs : chosen.1.atEnd = false
  decided : chosen.1.copyMode = .stream → chosen.1.streamingEnabled = true ∨ chosen.1.streamingOnly = true
  streaming : ThirdPartyPossible uri config src dst →
    chosen.1.streamingEnabled = isHttpStreamingEnabled uri config src dst
  thirdParty : ¬ThirdPartyPossible uri config src dst → chosen.1.copyMode = .stream
  fallback : isHttp3rdcopyFallbackEnabled uri chosen.2 src dst = true →
    isHttp3rdcopyFallbackEnabled uri config src dst = true

theorem chosenMode_of_possible {mode : CopyMode} {config' : Config}
    (hmode : mode ≠ .none) (hpossible : ThirdPartyPossible uri config src dst)
    (hfallback : isHttp3rdcopyFallbackEnabled uri config' src dst = true →
      isHttp3rdcopyFallbackEnabled uri config src dst = true) :
    ChosenMode uri config src dst
      (⟨mode, mode = .stream, isHttpStreamingEnabled uri config src dst⟩, config') where
  runs := by simpa [HttpCopyMode.atEnd] using hmode
  decided := fun h => .inr (by simpa using h)
  streaming := fun _ => rfl
  thirdParty := fun h => absurd hpossible h
  fallback := hfallback

theorem constructCopyMode_chosen (uri : CString → Option DavixUri) (config : Config) (src dst : CString) :
    ChosenMode uri config src dst (constructCopyMode uri config src dst) := by
  by_cases hpossible : ThirdPartyPossible uri config src dst
  · by_cases hquery : queryCopyMode src dst = .none
    · rw [constructCopyMode_of_configured hpossible hquery]
      exact chosenMode_of_possible (configuredCopyMode_ne_none src dst) hpossible id
    · rw [constructCopyMode_of_query hpossible hquery]
      exact chosenMode_of_possible hquery hpossible isHttp3rdcopyFallbackEnabled_of_query
  · rw [constructCopyMode_of_impossible hpossible]
    exact ⟨rfl, fun _ => .inl rfl, fun h => absurd h hpossible, fun _ => rfl, id⟩

end Choice

/-! ### The whole copy -/

/-- The attempts of a copy are as the switches and the errors allow, and success is the last attempt's. -/
structure SoundModes (uri : CString → Option DavixUri) (config : Config) (src dst : CString) (ret : Ret Int)
    (attempts : List CopyAttempt) : Prop where
  ofThree : ∀ a ∈ attempts, a.mode = .pull ∨ a.mode = .push ∨ a.mode = .stream
  increasing : attempts.Pairwise fun earlier later => earlier.mode.position < later.mode.position
  bounded : attempts.length ≤ 3
  retried : attempts.IsChain fun failed _ =>
    isHttp3rdcopyFallbackEnabled uri config src dst = true ∧
    isHttp3rdcopyFallbackEnabled uri (constructCopyMode uri config src dst).2 src dst = true ∧
    failed.result.val ≠ 0 ∧ ∃ e, failed.result.err = some e ∧ e.code ∉ [ECANCELED, EPERM, ENOENT, EACCES]
  streamed : ∀ a ∈ attempts, a.mode = .stream → isHttpStreamingEnabled uri config src dst = true
  thirdParty : ∀ a ∈ attempts, a.mode ≠ .stream →
    isHttp3rdcopyEnabled uri config src dst = true ∨ a.mode = queryCopyMode src dst
  success : ret.val = 0 → ∃ last, attempts.getLast? = some last ∧ last.result.val = 0

/-- The attempts of every copy of a pair of URLs under a configuration are sound. -/
def SoundHttpCopies (uri : CString → Option DavixUri) (config : Config) (srcFull dstFull : CString) : Prop :=
  ∀ (σ : Type) (davix : Davix σ) (dstBuffer : CString) (fuel : Nat) (params : GfaltParams)
    (context context' : Gfal2Context σ) (ret : Ret Int) (copied : HttpCopyRecord),
    davix.uri = uri → context.config = config →
    gfalHttpCopyRecorded davix dstBuffer fuel params srcFull dstFull context = .ok ((ret, copied), context') →
    SoundModes uri config (strip3rdFromUrl srcFull gfalUrlMaxLen) (strip3rdFromUrl dstFull gfalUrlMaxLen) ret
      copied.attempts

/-- The checks before the loop leave the configuration as it is. -/
theorem prepare_config {params : GfaltParams} {ret : Ret Int} (hconfig : context.config = config)
    (h : httpPrepareDestination davix params dst context = .ok (ret, context')) : context'.config = config :=
  (httpStable_config davix config).httpPrepareDestination
    (fun _ _ => HttpStable.unlink (preserves_config_request config _)) context hconfig ret context' h

variable {dstFull srcFull : CString}

/-- The loop of a copy climbs from the mode that is chosen. -/
theorem tryModes_tries (h : tryModes davix fuel params srcFull dstFull src dst context = .ok (p, context')) :
    let chosen := constructCopyMode davix.uri context.config src dst
    Tries (isHttp3rdcopyFallbackEnabled davix.uri chosen.2 src dst) chosen.1 p.attempts ∧
      (p.ret = 0 → ∃ last, p.attempts.getLast? = some last ∧ last.result.val = 0) := by
  intro chosen
  obtain ⟨hruns, hdecided, -, -, -⟩ := constructCopyMode_chosen davix.uri context.config src dst
  rw [tryModes, get_bind_apply] at h
  obtain ⟨attempts, hattempts, htries, hlast⟩ := copyLoop_tries hruns hdecided h
  rw [List.nil_append] at hattempts
  rw [hattempts]
  exact ⟨htries, hlast⟩

/-- The copy checks its source and prepares its destination, and gets to its modes. -/
def GetsToModes (davix : Davix σ) (params : GfaltParams) (srcFull dstFull src dst : CString)
    (context start : Gfal2Context σ) : Prop :=
  ∃ told checked ready source seen prepared,
    pluginTriggerEvent httpPluginDomain .none (lit "PREPARE:ENTER") (srcFull ++ lit " => " ++ dstFull) context =
      .ok ((), told) ∧
    httpCheckSource (copySettings params).1 src (copySettings params).2.1 (copySettings params).2.2 told =
      .ok ((source, seen), checked) ∧ source.err = none ∧
    httpPrepareDestination davix params dst checked = .ok (prepared, ready) ∧ prepared.val = 0 ∧
    pluginTriggerEvent httpPluginDomain .none (lit "PREPARE:EXIT") (srcFull ++ lit " => " ++ dstFull) ready =
      .ok ((), start)

/-- A copy ends before the loop, without an attempt and without success, or its attempts are those of the loop,
and it succeeds only if the loop does. Only the loop writes options. -/
theorem httpCopy_outcome {dstBuffer : CString} {ret : Ret Int} {copied : HttpCopyRecord}
    (h : httpCopyStripped davix dstBuffer fuel params srcFull dstFull src dst context =
      .ok ((ret, copied), context')) :
    (copied.attempts = [] ∧ ret.val ≠ 0 ∧ context'.config = context.config) ∨
    ∃ start finish p, GetsToModes davix params srcFull dstFull src dst context start ∧ start.config = context.config ∧
      tryModes davix fuel params srcFull dstFull src dst start = .ok (p, finish) ∧ copied.attempts = p.attempts ∧
      (ret.val = 0 → p.ret = 0) ∧ context'.config = finish.config := by
  obtain ⟨_, told, htold, h⟩ := bind_eq_ok.mp h
  have hconfig : told.config = context.config := by
    cases htold
    rfl
  obtain ⟨⟨source, seen⟩, checked, hsource, h⟩ := bind_eq_ok.mp h
  have hchecked := (httpStable_config davix context.config).checkSource _ _ _ _ told hconfig _ _ hsource
  dsimp only at h
  split at h
  · cases h
    exact .inl ⟨rfl, by simp, hchecked⟩
  · rename_i herr
    obtain ⟨prepared, ready, hprepared, h⟩ := bind_eq_ok.mp h
    have hready := prepare_config hchecked hprepared
    split at h
    · rename_i hval
      cases h
      exact .inl ⟨rfl, hval, hready⟩
    · rename_i hval
      obtain ⟨_, entered, hexit, h⟩ := bind_eq_ok.mp h
      have hentered : entered.config = context.config := by
        cases hexit
        exact hready
      obtain ⟨p, tried, hp, h⟩ := bind_eq_ok.mp h
      obtain ⟨transferred, finished, htransferred, h⟩ := bind_eq_ok.mp h
      have hgets : GetsToModes davix params srcFull dstFull src dst context entered :=
        ⟨told, checked, ready, source, seen, prepared, htold, hsource, by simpa using herr, hprepared, not_not.mp hval, hexit⟩
      refine .inr ⟨entered, tried, p, hgets, hentered, hp, ?_⟩
      have stable := httpStable_config davix tried.config
      have hfinished := stable.finishTransfer src dst p tried rfl _ _ htransferred
      have hfinish : transferred.val = 0 → p.ret = 0 := by
        intro hval
        by_contra hret
        rw [finishTransfer, if_neg hret] at htransferred
        cases herr : p.nestedError with
        | none =>
            rw [herr] at htransferred
            cases htransferred
        | some e =>
            rw [herr] at htransferred
            cases htransferred
            exact absurd hval (by simp)
      split at h
      · rename_i hval
        cases h
        exact ⟨rfl, fun hzero => absurd hzero hval, hfinished⟩
      · rename_i hval
        obtain ⟨⟨compared, seen'⟩, compared', hcompared, h⟩ := bind_eq_ok.mp h
        have hcompared' := stable.checkDestination _ _ _ _ _ _ _ finished hfinished _ _ hcompared
        dsimp only at h
        split at h
        · rename_i hfailed
          cases h
          exact ⟨rfl, fun hzero => absurd hzero hfailed, hcompared'⟩
        · obtain ⟨_, evicted, hevicted, h⟩ := bind_eq_ok.mp h
          have hevicted' := stable.evict params src compared' hcompared' _ _ hevicted
          cases h
          exact ⟨rfl, fun _ => hfinish (not_not.mp hval), hevicted'⟩

/-- Where streaming is enabled or third-party copies are possible, every run is as the switches allow. -/
theorem soundModes_of_switches {dstBuffer : CString} {ret : Ret Int} {copied : HttpCopyRecord}
    (hswitches : ThirdPartyPossible davix.uri context.config src dst ∨
      isHttpStreamingEnabled davix.uri context.config src dst = true)
    (h : httpCopyStripped davix dstBuffer fuel params srcFull dstFull src dst context =
      .ok ((ret, copied), context')) :
    SoundModes davix.uri context.config src dst ret copied.attempts := by
  rcases httpCopy_outcome h with ⟨hnone, hval, -⟩ | ⟨start, finish, p, -, hconfig, hp, hattempts, hsuccess, -⟩
  · rw [hnone]
    exact ⟨by simp, List.Pairwise.nil, by simp, List.IsChain.nil, by simp, by simp, fun h => absurd h hval⟩
  · obtain ⟨htries, hlast⟩ := tryModes_tries hp
    rw [hconfig] at htries
    rw [hattempts]
    have hchosen := constructCopyMode_chosen davix.uri context.config src dst
    refine ⟨fun a ha => ?_, htries.increasing, htries.length_le.trans ?_, htries.retried.imp ?_, fun a ha hstream => ?_,
      fun a ha hmode => ?_, fun hval => hlast (hsuccess hval)⟩
    · have hne := htries.mode_ne_none a ha
      cases hmode : a.mode with
      | pull => exact .inl rfl
      | push => exact .inr (.inl rfl)
      | stream => exact .inr (.inr rfl)
      | none => exact absurd hmode hne
    · unfold HttpCopyMode.remaining
      split <;> simp
    · rintro failed - ⟨hval, hfallback, e, he, hshould⟩
      refine ⟨hchosen.fallback hfallback, hfallback, hval, e, he, ?_⟩
      simpa [gfalHttpCopyShouldFallback] using hshould
    · have henabled := htries.streamed a ha hstream
      by_cases hpossible : ThirdPartyPossible davix.uri context.config src dst
      · exact (hchosen.streaming hpossible).symm.trans henabled
      · exact hswitches.resolve_left hpossible
    · by_cases hpossible : ThirdPartyPossible davix.uri context.config src dst
      · exact .inl hpossible.2
      · -- the climb starts at streaming, and nothing is above it
        have hposition := htries.position_le a ha
        have hne := htries.mode_ne_none a ha
        rw [hchosen.thirdParty hpossible] at hposition
        cases hmode' : a.mode with
        | pull | push =>
            rw [hmode'] at hposition
            exact absurd hposition (by decide)
        | stream => exact absurd hmode' hmode
        | none => exact absurd hmode' hne

/-! ### A copy that streams though it must not -/

/-- No plugin is there and none can be loaded. -/
structure Bare (context : Gfal2Context Unit) : Prop where
  plugins : context.pluginOpt = {}
  dir : context.pluginDir = {}
  readings : context.readings = {}

/-- A Davix that does whatever it is asked. -/
def willingDavix (uri : CString → Option DavixUri) : Davix Unit where
  uri := uri
  stat _ world := (none, world)
  unlink _ world := (none, world)
  copy _ _ _ _ world := (.ok {}, world)
  put _ _ _ world := (none, world)
  releaseFile _ world := (0, world)

/-- The loop ends with the first third-party copy. -/
theorem copyLoop_willing (uri : CString → Option DavixUri) (src dst : CString) (params : GfaltParams)
    (context : Gfal2Context Unit) {m : HttpCopyMode} (hend : m.atEnd = false) (hmode : m.copyMode ≠ .stream) :
    copyLoop (willingDavix uri) 0 params src dst m {} context =
      .ok ({ attempts := [⟨m.copyMode, ⟨0, none⟩⟩] },
        { context with events := context.events ++ [⟨httpPluginDomain, .none, lit "TRANSFER:TYPE", m.str.take 511⟩] }) := by
  obtain ⟨mode, only, enabled⟩ := m
  rw [copyLoop]
  cases mode with
  | pull | push => rfl
  | stream => exact absurd rfl hmode
  | none => simp [HttpCopyMode.atEnd] at hend

/-- Parameters under which a copy does nothing but try its modes. -/
def bareParams : GfaltParams := { strictMode := true, transferCleanup := false }

section Bare

variable {context : Gfal2Context Unit} (uri : CString → Option DavixUri) (src dst : CString)

/-- The streamed copy is tried, and fails for want of a plugin. -/
theorem copyPass_bare (h : Bare context) : ∃ p context',
    copyPass (willingDavix uri) 0 bareParams src dst ⟨.stream, true, true⟩ {} context = .ok ((p, false), context') ∧
      p.ret = -1 ∧ p.attempts = [⟨.stream, ⟨-1, some (protocolNotSupported src)⟩⟩] ∧
      p.nestedError = some (protocolNotSupported src) := by
  obtain ⟨⟩ := context
  obtain ⟨rfl, rfl, rfl⟩ := h
  exact ⟨_, _, rfl, rfl, rfl, rfl⟩

theorem tryModes_bare (srcFull dstFull : CString) (h : Bare context)
    (himpossible : ¬ThirdPartyPossible uri context.config src dst) : ∃ p context',
    tryModes (willingDavix uri) 0 bareParams srcFull dstFull src dst context = .ok (p, context') ∧
      p.ret = -1 ∧ p.attempts = [⟨.stream, ⟨-1, some (protocolNotSupported src)⟩⟩] ∧
      p.nestedError = some (protocolNotSupported src) := by
  have hchosen : constructCopyMode (willingDavix uri).uri context.config src dst =
      (⟨.stream, true, true⟩, context.config) := constructCopyMode_of_impossible himpossible
  rw [tryModes, get_bind_apply, hchosen]
  have htold : Bare { context with events := context.events ++
      [⟨httpPluginDomain, .none, lit "TRANSFER:ENTER", (srcFull ++ lit " => " ++ dstFull).take 511⟩] } :=
    ⟨h.plugins, h.dir, h.readings⟩
  obtain ⟨p, left, hpass, hret, hattempts, herr⟩ := copyPass_bare uri src dst htold
  refine ⟨{ p with attemptedMode := p.attemptedMode ++ [lit "streamed"] }, left, ?_, hret, hattempts, herr⟩
  change copyLoop _ _ _ _ _ _ _ _ = _
  rw [copyLoop, bind_of_ok hpass]
  rfl

/-- Where no third-party copy is possible there is a run that tries a streamed copy. -/
theorem exists_streamed_attempt (config : Config) (srcFull dstFull : CString)
    (himpossible : ¬ThirdPartyPossible uri config src dst) : ∃ ret context',
    httpCopyStripped (willingDavix uri) [] 0 bareParams srcFull dstFull src dst { config := config, world := () } =
      .ok ((ret, { attempts := [⟨.stream, ⟨-1, some (protocolNotSupported src)⟩⟩] }), context') := by
  have hready : Bare { config := config, world := (), events :=
      [⟨httpPluginDomain, .none, lit "PREPARE:ENTER", (srcFull ++ lit " => " ++ dstFull).take 511⟩,
        ⟨httpPluginDomain, .none, lit "PREPARE:EXIT", (srcFull ++ lit " => " ++ dstFull).take 511⟩] } :=
    ⟨rfl, rfl, rfl⟩
  obtain ⟨p, tried, hp, hret, hattempts, herr⟩ := tryModes_bare uri src dst srcFull dstFull hready himpossible
  have hfinish : ∃ e told, finishTransfer src dst p tried = .ok (⟨-1, some e⟩, told) := by
    rw [finishTransfer, if_neg (by rw [hret]; decide), herr]
    exact ⟨_, _, rfl⟩
  obtain ⟨e, told, hfinish⟩ := hfinish
  refine ⟨⟨-1, some e⟩, told, ?_⟩
  change ((tryModes (willingDavix uri) 0 bareParams srcFull dstFull src dst) >>= _) _ = _
  refine (bind_of_ok hp).trans ((bind_of_ok hfinish).trans ?_)
  rw [hattempts]
  rfl

end Bare

/-- Every copy of a pair of URLs goes through its modes as the switches allow exactly where a third-party
copy is possible or streaming is enabled. -/
theorem http_copy_modes_sound_iff (uri : CString → Option DavixUri) (config : Config) (srcFull dstFull : CString) :
    SoundHttpCopies uri config srcFull dstFull ↔
      ThirdPartyPossible uri config (strip3rdFromUrl srcFull gfalUrlMaxLen) (strip3rdFromUrl dstFull gfalUrlMaxLen) ∨
      isHttpStreamingEnabled uri config (strip3rdFromUrl srcFull gfalUrlMaxLen)
        (strip3rdFromUrl dstFull gfalUrlMaxLen) = true := by
  constructor
  · intro hsound
    by_contra hneither
    obtain ⟨himpossible, hdisabled⟩ := not_or.mp hneither
    obtain ⟨ret, context', hrun⟩ := exists_streamed_attempt uri _ _ config srcFull dstFull himpossible
    have hmodes := hsound Unit (willingDavix uri) [] 0 bareParams _ context' ret _ rfl rfl hrun
    exact hdisabled (hmodes.streamed _ (List.mem_singleton_self _) rfl)
  · rintro hswitches σ davix dstBuffer fuel params context context' ret copied rfl rfl hrun
    exact soundModes_of_switches hswitches hrun

/-- A configuration with streamed copies disabled. -/
def withoutStreaming : Config where
  optBoolean groupName key :=
    if groupName = httpPluginGroup ∧ key = lit "ENABLE_STREAM_COPY" then some false else none

/-- A local file is streamed although streaming is disabled. -/
theorem local_source_streamed_though_disabled :
    ¬SoundHttpCopies (fun _ => none) withoutStreaming (lit "file:///f") (lit "https://h/f") := by
  intro hsound
  have hsrc : strip3rdFromUrl (lit "file:///f") gfalUrlMaxLen = lit "file:///f" := by decide
  have hdst : strip3rdFromUrl (lit "https://h/f") gfalUrlMaxLen = lit "https://h/f" := by decide
  have himpossible : ¬ThirdPartyPossible (fun _ => none) withoutStreaming (lit "file:///f") (lit "https://h/f") := by
    decide
  rw [← hsrc, ← hdst] at himpossible
  obtain ⟨ret, context', hrun⟩ := exists_streamed_attempt _ _ _ withoutStreaming (lit "file:///f") (lit "https://h/f")
    himpossible
  have hmodes := hsound Unit (willingDavix _) [] 0 bareParams _ context' ret _ rfl rfl hrun
  have hstreamed := hmodes.streamed _ (List.mem_singleton_self _) rfl
  rw [hsrc, hdst] at hstreamed
  exact absurd hstreamed (by decide)

end Gfal2
