import Gfal2.DispatchContract

/-! The bulk calls for staging and unlinking, which report in an array with one error for each file. The
array is as long as the call has files. An array of URLs or of metadata is a list here, the empty list
for a null pointer. Whatever the plugins, a call that fails without reaching a callback has reported an
error for each file, but in two cases: the opening of a cancelled scope fills the first error only, and
the second version of the staging call looks for the wrong callback. -/

namespace Gfal2

open Base

section Model

variable {σ β : Type}

/-- The body the bulk dispatchers share. The first URL chooses the plugin for all. -/
def dispatchList (mode : PluginMode) (which : PluginCallback) (notImplemented : CString) (uris : List CString)
    (errors : ErrorList) (refuse : ErrorList → β) (callback : GfalPluginInterface σ → Option (Callback σ β)) :
    Gfal σ β := do
  let found ← gfalFindPlugin (uris.headD []) mode
  match found.val with
  | none => return refuse (errors.map fun _ => found.err)
  | some slot =>
      let plugin ← pluginAt slot
      if (callback plugin).isSome then
        callPlugin slot which (callback plugin)
      else
        return refuse (errors.map fun _ =>
          some (gfal2SetError gfal2GetPluginsQuark EPROTONOSUPPORT notImplemented))

def gfalPluginBringOnlineListG (uris : List CString) (pintime timeout : Int) (token : CString) (tsize : Nat)
    (async : Bool) (errors : ErrorList) : Gfal σ (Int × CString × ErrorList) :=
  dispatchList .bringOnline .bringOnlineList (lit "The plugin does not implement bulk bring online") uris errors
    (-1, token, ·) fun p => p.bringOnlineList.map (· uris pintime timeout tsize async errors)

/-- Without its callback, this dispatcher sets an error only if the callback of the first version is
missing too. -/
def gfalPluginBringOnlineListV2G (uris metadata : List CString) (pintime timeout : Int) (token : CString)
    (tsize : Nat) (async : Bool) (errors : ErrorList) : Gfal σ (Int × CString × ErrorList) := do
  let found ← gfalFindPlugin (uris.headD []) .bringOnline
  match found.val with
  | none => return (-1, token, errors.map fun _ => found.err)
  | some slot =>
      let plugin ← pluginAt slot
      if plugin.bringOnlineListV2.isSome then
        callPlugin slot .bringOnlineListV2
          (plugin.bringOnlineListV2.map (· uris metadata pintime timeout tsize async errors))
      else if plugin.bringOnlineList.isNone then
        return (-1, token, errors.map fun _ =>
          some (gfal2SetError gfal2GetPluginsQuark EPROTONOSUPPORT
            (lit "The plugin does not implement bulk bring online")))
      else
        return (-1, token, errors.map fun _ => none)

def gfalPluginBringOnlinePollListG (uris : List CString) (token : CString) (errors : ErrorList) :
    Gfal σ (Int × ErrorList) :=
  dispatchList .bringOnline .bringOnlinePollList (lit "The plugin does not implement bulk bring online polling")
    uris errors (-1, ·) fun p => p.bringOnlinePollList.map (· uris token errors)

def gfalPluginReleaseFileListG (uris : List CString) (token : CString) (errors : ErrorList) :
    Gfal σ (Int × ErrorList) :=
  dispatchList .bringOnline .releaseFileList (lit "The plugin does not implement bulk releases")
    uris errors (-1, ·) fun p => p.releaseFileList.map (· uris token errors)

def gfalPluginArchivePollListG (uris : List CString) (errors : ErrorList) : Gfal σ (Int × ErrorList) :=
  dispatchList .archive .archivePollList (lit "The plugin does not support bulk archive polling")
    uris errors (-1, ·) fun p => p.archivePollList.map (· uris errors)

/-- The loop over `unlinkG`, with the sum of the values so far. -/
def unlinkEach (slot : Slot) (plugin : GfalPluginInterface σ) : List (CString × Option GError) → Int →
    Gfal σ (Int × ErrorList)
  | [], resu => return (resu, [])
  | (uri, error) :: rest, resu => do
      let removed ← callPlugin slot .unlinkG (plugin.unlinkG.map (· uri))
      let others ← unlinkEach slot plugin rest (resu + removed.val)
      return (others.1, error.or removed.err :: others.2)

def gfalPluginUnlinkListG (uris : List CString) (errors : ErrorList) : Gfal σ (Int × ErrorList) := do
  let found ← gfalFindPlugin (uris.headD []) .unlink
  match found.val with
  | none => return (-1, errors.map fun _ => found.err)
  | some slot =>
      let plugin ← pluginAt slot
      if plugin.unlinkListG.isSome then
        callPlugin slot .unlinkListG (plugin.unlinkListG.map (· uris errors))
      else
        unlinkEach slot plugin (uris.zip errors) 0

/-- The body the calls of the library share around their dispatcher. The opening of the scope is given the
array as if it were the place of one error. -/
def listScope (invalid : Bool) (invalidText : CString) (errors : ErrorList) (refuse : ErrorList → β)
    (body : Gfal σ β) : Gfal σ β := do
  let started ← gfal2StartScopeCancel
  if started.val < 0 then
    return refuse (errors.modifyHead (·.or started.err))
  let answer ← if invalid then
      pure (refuse (errors.map (·.or (some ⟨gfal2GetCoreQuark, EFAULT, invalidText⟩))))
    else
      body
  gfal2EndScopeCancel
  return answer

def incorrectUrls : CString := lit "context or/and urls are incorrect arguments"

def gfal2BringOnlineList (urls : List CString) (pintime timeout : Int) (token : CString) (tsize : Nat)
    (async : Bool) (errors : ErrorList) : Gfal σ (Int × CString × ErrorList) :=
  listScope urls.isEmpty incorrectUrls errors (-1, token, ·)
    (gfalPluginBringOnlineListG urls pintime timeout token tsize async errors)

def gfal2BringOnlineListV2 (urls metadata : List CString) (pintime timeout : Int) (token : CString) (tsize : Nat)
    (async : Bool) (errors : ErrorList) : Gfal σ (Int × CString × ErrorList) :=
  listScope (urls.isEmpty || metadata.isEmpty) (lit "context, urls or/and metadata are incorrect arguments") errors
    (-1, token, ·) (gfalPluginBringOnlineListV2G urls metadata pintime timeout token tsize async errors)

def gfal2BringOnlinePollList (urls : List CString) (token : CString) (errors : ErrorList) :
    Gfal σ (Int × ErrorList) :=
  listScope urls.isEmpty incorrectUrls errors (-1, ·) (gfalPluginBringOnlinePollListG urls token errors)

def gfal2ReleaseFileList (urls : List CString) (token : CString) (errors : ErrorList) : Gfal σ (Int × ErrorList) :=
  listScope urls.isEmpty incorrectUrls errors (-1, ·) (gfalPluginReleaseFileListG urls token errors)

def gfal2ArchivePollList (urls : List CString) (errors : ErrorList) : Gfal σ (Int × ErrorList) :=
  listScope urls.isEmpty incorrectUrls errors (-1, ·) (gfalPluginArchivePollListG urls errors)

/-- This call checks its arguments before it opens its scope, and copies the error of either to all. -/
def gfal2UnlinkList (urls : List CString) (errors : ErrorList) : Gfal σ (Int × ErrorList) := do
  if urls.isEmpty then
    return (-1, errors.map fun _ =>
      some ⟨gfal2GetCoreQuark, EFAULT, lit "urls or/and name or/and context are an incorrect arguments"⟩)
  let started ← gfal2StartScopeCancel
  if started.val = 0 then
    let answer ← gfalPluginUnlinkListG urls errors
    gfal2EndScopeCancel
    return answer
  else
    return (started.val, if started.err.isSome then errors.map fun _ => started.err else errors)

end Model

/-! ### Reporting for each file -/

variable {σ β : Type} {which : PluginCallback}

/-- A value and an array of errors report for each of `n` files. -/
def ReportsAll (n : Nat) (answer : Int × ErrorList) : Prop :=
  answer.2.length = n ∧ ∀ e ∈ answer.2, e.isSome = true

/-- Returning a negative value without having called a callback, the call has reported for each file. -/
def ReportsPerFile (n : Nat) (out : β → Int × ErrorList) (call : Gfal σ β) (context : Gfal2Context σ) : Prop :=
  ∀ answer context', call context = .ok (answer, context') → (out answer).1 < 0 →
    context'.calls = context.calls → ReportsAll n (out answer)

variable {errors : ErrorList}

theorem reportsAll_map {n : Nat} (val : Int) (e : GError) (h : errors.length = n) :
    ReportsAll n (val, errors.map fun _ => some e) := by
  refine ⟨by rw [List.length_map, h], fun slot hslot => ?_⟩
  obtain ⟨_, -, rfl⟩ := List.mem_map.mp hslot
  rfl

variable {context' : Gfal2Context σ}

theorem calls_callPlugin {slot : Slot} {callback : Option (Callback σ β)} {context : Gfal2Context σ} {answer : β}
    (h : callPlugin slot which callback context = .ok (answer, context')) :
    context'.calls = context.calls ++ [(slot, which)] := by
  obtain ⟨call, -, -, rfl⟩ := callPlugin_eq_ok.mp h
  rfl

variable {callback : GfalPluginInterface σ → Option (Callback σ β)}

/-- A dispatcher that calls nothing refuses with one error for all. -/
theorem dispatchList_refuses {mode : PluginMode} {notImplemented : CString} {uris : List CString} {refuse : ErrorList → β}
    {context : Gfal2Context σ} {answer : β}
    (h : dispatchList mode which notImplemented uris errors refuse callback context = .ok (answer, context'))
    (hcalls : context'.calls = context.calls) : ∃ e, answer = refuse (errors.map fun _ => some e) := by
  obtain ⟨found, context₁, hfind, hrest⟩ := Exec.bind_eq_ok.mp h
  have hsame := calls_of_gfalFindPlugin hfind
  rcases gfalFindPlugin_cases hfind with ⟨slot, rfl⟩ | ⟨e, rfl⟩
  · obtain ⟨plugin, context₂, hplugin, hrest⟩ := Exec.bind_eq_ok.mp hrest
    cases hplugin
    split at hrest
    · have hcalled := calls_callPlugin hrest
      rw [hcalls, hsame] at hcalled
      simp at hcalled
    · cases hrest
      exact ⟨_, rfl⟩
  · cases hrest
    exact ⟨e, rfl⟩

theorem reportsPerFile_dispatchList {n : Nat} {out : β → Int × ErrorList} {mode : PluginMode}
    {notImplemented : CString} {uris : List CString}
    {refuse : ErrorList → β}
    {context : Gfal2Context σ} (hout : ∀ es, out (refuse es) = (-1, es)) (hlength : errors.length = n) :
    ReportsPerFile n out (dispatchList mode which notImplemented uris errors refuse callback) context := by
  intro answer context' hrun _ hcalls
  obtain ⟨e, rfl⟩ := dispatchList_refuses hrun hcalls
  rw [hout]
  exact reportsAll_map (-1) e hlength

section Scope

variable {n : Nat} {out : β → Int × ErrorList} {invalid : Bool} {invalidText : CString}
  {refuse : ErrorList → β} {body : Gfal σ β} {context : Gfal2Context σ}

/-- In a cancelled context only the first file gets its error. -/
theorem reportsPerFile_listScope_of_cancelled (hout : ∀ es, out (refuse es) = (-1, es))
    (hcancel : context.readings.cancel context.cancelReads = true) (hpos : 0 < n) :
    ReportsPerFile n out (listScope invalid invalidText (List.replicate n none) refuse body) context ↔ n = 1 := by
  have hrun : listScope invalid invalidText (List.replicate n none) refuse body context =
      .ok (refuse (some canceledByUser :: List.replicate (n - 1) none), context.afterCancelRead) := by
    rw [listScope, Exec.bind_of_ok (gfal2StartScopeCancel_of_cancelled hcancel)]
    obtain ⟨m, rfl⟩ : ∃ m, n = m + 1 := ⟨n - 1, by omega⟩
    rfl
  constructor
  · intro hreports
    have hall := (hreports _ _ hrun (by rw [hout]; exact Int.negSucc_lt_zero 0) rfl).2
    rw [hout] at hall
    by_contra hne
    have hmem : none ∈ List.replicate (n - 1) (none : Option GError) := by
      exact List.mem_replicate.mpr ⟨by omega, rfl⟩
    exact absurd (hall none (List.mem_cons_of_mem _ hmem)) (by decide)
  · rintro rfl answer context' heq - -
    rw [hrun] at heq
    cases heq
    rw [hout]
    exact ⟨rfl, by simp⟩

theorem listScope_of_clear (hclear : context.readings.cancel context.cancelReads = false) :
    listScope invalid invalidText errors refuse body context =
      (do
        let answer ← if invalid then
            pure (refuse (errors.map (·.or (some ⟨gfal2GetCoreQuark, EFAULT, invalidText⟩))))
          else
            body
        gfal2EndScopeCancel
        return answer : Gfal σ β) context.inScope := by
  rw [listScope, Exec.bind_of_ok (gfal2StartScopeCancel_of_clear hclear)]
  rfl

/-- Otherwise the call reports for each file exactly if it is given null pointers or its dispatcher does. -/
theorem reportsPerFile_listScope_of_clear (hout : ∀ es, out (refuse es) = (-1, es))
    (hclear : context.readings.cancel context.cancelReads = false) :
    ReportsPerFile n out (listScope invalid invalidText (List.replicate n none) refuse body) context ↔
      invalid = true ∨ ReportsPerFile n out body context.inScope := by
  cases invalid with
  | true =>
      refine iff_of_true ?_ (Or.inl rfl)
      intro answer context' hrun _ _
      rw [listScope_of_clear hclear] at hrun
      cases hrun
      rw [hout, List.map_replicate]
      refine ⟨List.length_replicate, fun e he => ?_⟩
      rw [List.eq_of_mem_replicate he]
      rfl
  | false =>
      constructor
      · intro hreports
        refine Or.inr fun answer context' hbody hneg hcalls => ?_
        refine hreports answer context'.afterScope ?_ hneg hcalls
        rw [listScope_of_clear hclear]
        exact Exec.bind_of_ok hbody
      · rintro (hinvalid | hreports) answer context' hrun hneg hcalls
        · cases hinvalid
        · rw [listScope_of_clear hclear] at hrun
          obtain ⟨answer', context₁, hbody, hend⟩ := Exec.bind_eq_ok.mp hrun
          cases hend
          exact hreports _ context₁ hbody hneg hcalls

end Scope

/-- The plugin chosen for the URL stages by the first version of the callback, and not by the second. -/
def LacksV2Only (context : Gfal2Context σ) (url : CString) : Prop :=
  ∃ slot context', gfalFindPlugin url .bringOnline context = .ok (⟨some slot, none⟩, context') ∧
    (context'.pluginOpt.pluginList slot).bringOnlineListV2 = none ∧
    (context'.pluginOpt.pluginList slot).bringOnlineList.isSome = true

theorem reportsPerFile_bringOnlineListV2 {n : Nat} {context : Gfal2Context σ} {urls metadata : List CString}
    {pintime timeout : Int} {token : CString} {tsize : Nat} {async : Bool}
    (hlength : errors.length = n) (hpos : 0 < n) :
    ReportsPerFile n (fun answer => (answer.1, answer.2.2))
        (gfalPluginBringOnlineListV2G urls metadata pintime timeout token tsize async errors) context ↔
      ¬LacksV2Only context (urls.headD []) := by
  constructor
  · rintro hreports ⟨slot, context', hfind, hv2, hv1⟩
    have hrun : gfalPluginBringOnlineListV2G urls metadata pintime timeout token tsize async errors context =
        .ok ((-1, token, errors.map fun _ => none), context') := by
      rw [gfalPluginBringOnlineListV2G, Exec.bind_of_ok hfind]
      dsimp only
      rw [Exec.bind_of_ok (rfl : pluginAt slot context' = _), if_neg (by simp [hv2]),
        if_neg (by simp [Option.isSome_iff_ne_none.mp hv1])]
      rfl
    have hall := (hreports _ _ hrun (show (-1 : Int) < 0 by decide) (calls_of_gfalFindPlugin hfind)).2
    obtain ⟨e, rest, rfl⟩ := List.exists_cons_of_length_pos (hlength ▸ hpos)
    exact absurd (hall none List.mem_cons_self) (by decide)
  · intro hboth answer context' hrun _ hcalls
    obtain ⟨found, context₁, hfind, hrest⟩ := Exec.bind_eq_ok.mp hrun
    have hsame := calls_of_gfalFindPlugin hfind
    rcases gfalFindPlugin_cases hfind with ⟨slot, rfl⟩ | ⟨e, rfl⟩
    · obtain ⟨plugin, context₂, hplugin, hrest⟩ := Exec.bind_eq_ok.mp hrest
      cases hplugin
      split at hrest
      · have hcalled := calls_callPlugin hrest
        rw [hcalls, hsame] at hcalled
        simp at hcalled
      · next hv2 =>
        split at hrest
        · cases hrest
          exact reportsAll_map (-1) _ hlength
        · next hv1 =>
          refine absurd ⟨slot, context₁, hfind, ?_, ?_⟩ hboth
          · simpa using hv2
          · simpa [Option.isSome_iff_ne_none] using hv1
    · cases hrest
      exact reportsAll_map (-1) e hlength

/-! ### The unlinking call -/

theorem calls_unlinkEach {slot : Slot} {plugin : GfalPluginInterface σ} {files : List (CString × Option GError)}
    {resu : Int} {context : Gfal2Context σ} {answer : Int × ErrorList}
    (h : unlinkEach slot plugin files resu context = .ok (answer, context')) :
    context'.calls = context.calls ++ List.replicate files.length (slot, .unlinkG) := by
  induction files generalizing resu context answer with
  | nil =>
      cases h
      rw [List.length_nil, List.replicate_zero, List.append_nil]
  | cons file rest ih =>
      obtain ⟨removed, context₁, hremoved, hrest⟩ := Exec.bind_eq_ok.mp h
      obtain ⟨others, context₂, hothers, hend⟩ := Exec.bind_eq_ok.mp hrest
      cases hend
      rw [ih hothers, calls_callPlugin hremoved, List.append_assoc, List.length_cons, List.replicate_succ]
      rfl

/-- The unlinking call reports for each file in every case. -/
theorem reportsPerFile_gfal2UnlinkList (context : Gfal2Context σ) {urls : List CString}
    (hurls : urls ≠ []) (hlength : errors.length = urls.length) :
    ReportsPerFile urls.length id (gfal2UnlinkList urls errors) context := by
  intro answer context' hrun _ hcalls
  have hnil : ¬urls.isEmpty = true := by simpa using hurls
  rw [gfal2UnlinkList, if_neg hnil] at hrun
  cases hcancel : context.readings.cancel context.cancelReads with
  | true =>
      rw [Exec.bind_of_ok (gfal2StartScopeCancel_of_cancelled hcancel)] at hrun
      cases hrun
      exact reportsAll_map (-1) canceledByUser hlength
  | false =>
      rw [Exec.bind_of_ok (gfal2StartScopeCancel_of_clear hcancel)] at hrun
      obtain ⟨answer', context₁, hplugin, hend⟩ := Exec.bind_eq_ok.mp hrun
      cases hend
      obtain ⟨found, context₂, hfind, hrest⟩ := Exec.bind_eq_ok.mp hplugin
      have hsame := calls_of_gfalFindPlugin hfind
      have hcalls' : context₁.calls = context₂.calls := hcalls.trans hsame.symm
      rcases gfalFindPlugin_cases hfind with ⟨slot, rfl⟩ | ⟨e, rfl⟩
      · obtain ⟨plugin, context₃, hat, hrest⟩ := Exec.bind_eq_ok.mp hrest
        cases hat
        split at hrest
        · have hcalled := calls_callPlugin hrest
          rw [hcalls'] at hcalled
          simp at hcalled
        · -- the loop calls `unlinkG` for each file, and there is one
          have hcalled := calls_unlinkEach hrest
          rw [hcalls', List.self_eq_append_right, List.replicate_eq_nil_iff, List.length_zip, hlength,
            Nat.min_self] at hcalled
          exact absurd (List.length_eq_zero_iff.mp hcalled) hurls
      · cases hrest
        exact reportsAll_map (-1) e hlength

/-! ### The calls together -/

/-- A bulk call with its arguments but for the URLs. -/
inductive ListCall where
  | bringOnlineList (pintime timeout : Int) (token : CString) (tsize : Nat) (async : Bool)
  | bringOnlineListV2 (metadata : List CString) (pintime timeout : Int) (token : CString) (tsize : Nat)
      (async : Bool)
  | bringOnlinePollList (token : CString)
  | releaseFileList (token : CString)
  | archivePollList
  | unlinkList

namespace ListCall

/-- Given the URLs and an array of as many empty places, the call reports for each file. -/
def Reports (call : ListCall) (context : Gfal2Context σ) (urls : List CString) : Prop :=
  let errors : ErrorList := List.replicate urls.length none
  match call with
  | bringOnlineList pintime timeout token tsize async =>
      ReportsPerFile urls.length (fun answer => (answer.1, answer.2.2))
        (gfal2BringOnlineList urls pintime timeout token tsize async errors) context
  | bringOnlineListV2 metadata pintime timeout token tsize async =>
      ReportsPerFile urls.length (fun answer => (answer.1, answer.2.2))
        (gfal2BringOnlineListV2 urls metadata pintime timeout token tsize async errors) context
  | bringOnlinePollList token => ReportsPerFile urls.length id (gfal2BringOnlinePollList urls token errors) context
  | releaseFileList token => ReportsPerFile urls.length id (gfal2ReleaseFileList urls token errors) context
  | archivePollList => ReportsPerFile urls.length id (gfal2ArchivePollList urls errors) context
  | unlinkList => ReportsPerFile urls.length id (gfal2UnlinkList urls errors) context

variable {context : Gfal2Context σ} {urls : List CString}

theorem reports_of_cancelled (call : ListCall) (hurls : urls ≠ [])
    (hcancel : context.readings.cancel context.cancelReads = true) :
    call.Reports context urls ↔ call = unlinkList ∨ urls.length = 1 := by
  have hpos : 0 < urls.length := List.length_pos_of_ne_nil hurls
  unfold Reports
  cases call with
  | unlinkList =>
      exact iff_of_true (reportsPerFile_gfal2UnlinkList context hurls List.length_replicate) (Or.inl rfl)
  | bringOnlineList =>
      rw [or_iff_right (by rintro ⟨⟩)]
      exact reportsPerFile_listScope_of_cancelled (fun _ => rfl) hcancel hpos
  | bringOnlineListV2 =>
      rw [or_iff_right (by rintro ⟨⟩)]
      exact reportsPerFile_listScope_of_cancelled (fun _ => rfl) hcancel hpos
  | bringOnlinePollList =>
      rw [or_iff_right (by rintro ⟨⟩)]
      exact reportsPerFile_listScope_of_cancelled (fun _ => rfl) hcancel hpos
  | releaseFileList =>
      rw [or_iff_right (by rintro ⟨⟩)]
      exact reportsPerFile_listScope_of_cancelled (fun _ => rfl) hcancel hpos
  | archivePollList =>
      rw [or_iff_right (by rintro ⟨⟩)]
      exact reportsPerFile_listScope_of_cancelled (fun _ => rfl) hcancel hpos

/-- A call that is its dispatcher in a scope reports for each file when it is not cancelled. -/
theorem reportsPerFile_dispatched {out : β → Int × ErrorList} {mode : PluginMode}
    {text invalidText : CString} {refuse : ErrorList → β}
    (hout : ∀ es, out (refuse es) = (-1, es))
    (hclear : context.readings.cancel context.cancelReads = false) :
    ReportsPerFile urls.length out (listScope urls.isEmpty invalidText (List.replicate urls.length none) refuse
      (dispatchList mode which text urls (List.replicate urls.length none) refuse callback)) context :=
  (reportsPerFile_listScope_of_clear hout hclear).mpr
    (Or.inr (reportsPerFile_dispatchList hout List.length_replicate))

theorem reports_of_clear (call : ListCall) (hurls : urls ≠ [])
    (hclear : context.readings.cancel context.cancelReads = false) :
    call.Reports context urls ↔ ∀ metadata pintime timeout token tsize async,
      call = bringOnlineListV2 metadata pintime timeout token tsize async → metadata ≠ [] →
        ¬LacksV2Only context.inScope (urls.headD []) := by
  have hother : ∀ p : Prop, p → (∀ metadata pintime timeout token tsize async,
      call ≠ bringOnlineListV2 metadata pintime timeout token tsize async) →
      (p ↔ ∀ metadata pintime timeout token tsize async,
        call = bringOnlineListV2 metadata pintime timeout token tsize async → metadata ≠ [] →
          ¬LacksV2Only context.inScope (urls.headD [])) := fun p hp hne =>
    iff_of_true hp fun metadata pintime timeout token tsize async heq => absurd heq (hne _ _ _ _ _ _)
  unfold Reports
  cases call with
  | unlinkList =>
      exact hother _ (reportsPerFile_gfal2UnlinkList context hurls List.length_replicate) (by rintro _ _ _ _ _ _ ⟨⟩)
  | bringOnlineList => exact hother _ (reportsPerFile_dispatched (fun _ => rfl) hclear) (by rintro _ _ _ _ _ _ ⟨⟩)
  | bringOnlinePollList =>
      exact hother _ (reportsPerFile_dispatched (fun _ => rfl) hclear) (by rintro _ _ _ _ _ _ ⟨⟩)
  | releaseFileList => exact hother _ (reportsPerFile_dispatched (fun _ => rfl) hclear) (by rintro _ _ _ _ _ _ ⟨⟩)
  | archivePollList => exact hother _ (reportsPerFile_dispatched (fun _ => rfl) hclear) (by rintro _ _ _ _ _ _ ⟨⟩)
  | bringOnlineListV2 metadata pintime timeout token tsize async =>
      have hempty : ¬urls.isEmpty = true := by simpa using hurls
      have hinvalid : (urls.isEmpty || metadata.isEmpty) = true ↔ metadata = [] := by
        rw [Bool.or_eq_true, or_iff_right hempty, List.isEmpty_iff]
      have hv2 : ReportsPerFile urls.length (fun answer => (answer.1, answer.2.2))
          (gfal2BringOnlineListV2 urls metadata pintime timeout token tsize async
            (List.replicate urls.length none)) context ↔
          metadata = [] ∨ ¬LacksV2Only context.inScope (urls.headD []) := by
        unfold gfal2BringOnlineListV2
        refine (reportsPerFile_listScope_of_clear ?_ hclear).trans (or_congr hinvalid ?_)
        · exact fun _ => rfl
        · exact reportsPerFile_bringOnlineListV2 List.length_replicate (List.length_pos_of_ne_nil hurls)
      refine hv2.trans ⟨fun hcovered metadata' _ _ _ _ _ heq hne => ?_, fun hcovered => ?_⟩
      · cases heq
        exact hcovered.resolve_left hne
      · exact or_iff_not_imp_left.mpr fun hne => hcovered metadata pintime timeout token tsize async rfl hne

/-- Neither of the two defects is met: a cancelled call is the unlinking one or has one file, and the second
version of the staging call does not go to a plugin that has the callback of the first version only. -/
structure Covered (call : ListCall) (context : Gfal2Context σ) (urls : List CString) : Prop where
  cancelled : context.readings.cancel context.cancelReads = true → call = unlinkList ∨ urls.length = 1
  clear : context.readings.cancel context.cancelReads = false →
    ∀ metadata pintime timeout token tsize async,
      call = bringOnlineListV2 metadata pintime timeout token tsize async → metadata ≠ [] →
        ¬LacksV2Only context.inScope (urls.headD [])

end ListCall

/-- Each bulk call reports for each file exactly where it is covered. -/
theorem list_call_reports_iff (call : ListCall) (context : Gfal2Context σ) (urls : List CString)
    (hurls : urls ≠ []) : call.Reports context urls ↔ call.Covered context urls := by
  cases hcancel : context.readings.cancel context.cancelReads with
  | true =>
      rw [ListCall.reports_of_cancelled call hurls hcancel]
      refine ⟨fun h => ⟨fun _ => h, fun hclear => ?_⟩, fun h => h.cancelled hcancel⟩
      rw [hcancel] at hclear
      cases hclear
  | false =>
      rw [ListCall.reports_of_clear call hurls hcancel]
      refine ⟨fun h => ⟨fun htrue => ?_, fun _ => h⟩, fun h => h.clear hcancel⟩
      rw [hcancel] at htrue
      cases htrue

/-- A plugin that stages by the first version of the callback. -/
def stagingPlugin : GfalPluginInterface Unit where
  checkPluginUrl := some fun _ _ _ => ⟨true, none⟩
  bringOnlineList := some fun _ _ _ _ _ errors world => ((0, [], errors), world)

def stagingContext (cancelled : Bool) : Gfal2Context Unit where
  pluginOpt := { pluginList := fun _ => stagingPlugin, sortedPlugin := [0], pluginNumber := 1 }
  readings := { cancel := fun _ => cancelled }
  world := ()

theorem list_call_reports_iff_poll :
    ListCall.Reports (.bringOnlinePollList []) (stagingContext false) [lit "a", lit "b"] := by
  refine (list_call_reports_iff _ (stagingContext false) [lit "a", lit "b"] (by decide)).mpr ⟨?_, ?_⟩
  · rintro ⟨⟩
  · rintro - _ _ _ _ _ _ ⟨⟩

/-- Two files in a cancelled context, and the second version of the staging call. -/
theorem list_calls_leave_files_unreported :
    ¬ListCall.Reports (.bringOnlinePollList []) (stagingContext true) [lit "a", lit "b"] ∧
      ¬ListCall.Reports (.bringOnlineListV2 [lit "m"] 0 0 [] 0 false) (stagingContext false) [lit "a"] := by
  refine ⟨fun hreports => ?_, fun hreports => ?_⟩
  · rcases (ListCall.reports_of_cancelled _ (by decide) rfl).mp hreports with heq | hone
    · cases heq
    · cases hone
  · exact (ListCall.reports_of_clear _ (by decide) rfl).mp hreports [lit "m"] 0 0 [] 0 false rfl (by decide)
      ⟨0, _, rfl, rfl, rfl⟩

end Gfal2
