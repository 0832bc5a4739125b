import Gfal2.SrmContext

/-! Whose credentials the context of an SRM operation carries. The context that is kept is compared with the strings
remembered from earlier operations, and what is remembered is not always what the context was made with. -/

namespace Gfal2

open Base

/-- What happens to the plugin between and in its operations: other credentials or another configuration, a request
for a context, and its release. -/
inductive SrmContextOp where
  | changeCredentials (credMapping : CredMapping) (config : Config)
  | easyContext (surl : CString) (answers : ContextAnswers)
  | release

def srmContextStep : SrmContextOp → SrmOpts → Option SrmOpts
  | .changeCredentials credMapping config, opts => some { opts with credMapping := credMapping, config := config }
  | .easyContext surl answers, opts => some (gfalSrmIfceEasyContext opts answers surl).2
  | .release, opts => some (gfalSrmIfceEasyContextRelease opts)

/-- The context that is handed out was made for the endpoint of the URL with the certificate and the key that are
looked up for it. -/
def CarriesCredentials (op : SrmContextOp) (opts : SrmOpts) : Prop :=
  match op with
  | .easyContext surl answers => ∀ endpoint easy context, gfalSrmDetermineEndpoint opts answers surl = .ok endpoint →
      (gfalSrmIfceEasyContext opts answers surl).1.val = some easy → easy.srmContext = some context →
      context = ⟨endpoint, (srmCredentials opts surl).ucert, (srmCredentials opts surl).ukey⟩
  | _ => True

/-- What the kept context is compared with. -/
def comparedUrl (creds : SrmCredentials) (endpoint : CString) : CString :=
  if creds.baseurl = [] then endpoint else creds.baseurl

/-- The context that is used again. -/
def keptContext (opts : SrmOpts) (creds : SrmCredentials) (endpoint : CString) : Option SrmContext :=
  opts.srmContext.filter fun _ => isSameContext opts (comparedUrl creds endpoint) creds.ucert creds.ukey

/-- The credentials that were looked up when the kept context was made. -/
def recordCreation (op : SrmContextOp) (opts : SrmOpts) (created : SrmCredentials) : SrmCredentials :=
  match op with
  | .easyContext surl answers =>
      match gfalSrmDetermineEndpoint opts answers surl with
      | .ok endpoint => if keptContext opts (srmCredentials opts surl) endpoint = none then srmCredentials opts surl else created
      | .error _ => created
  | _ => created

/-- A value was there when the context was made just if it is there now, and was remembered as a whole. -/
def SamePresence (created now : Option CString) : Prop :=
  (created = none ↔ now = none) ∧ ∀ value ∈ created, value.length < 2048

/-- A context is used again only for an endpoint that no stored base URL stands for, and where a certificate and a
key are there just if they were when it was made; a new one is not made with a key alone. -/
def FitsCreation (op : SrmContextOp) (opts : SrmOpts) (created : SrmCredentials) : Prop :=
  match op with
  | .easyContext surl answers => ∀ endpoint, gfalSrmDetermineEndpoint opts answers surl = .ok endpoint →
      if keptContext opts (srmCredentials opts surl) endpoint = none then
        opts.srmProtoType = .srmv2 → answers.created = true → (srmCredentials opts surl).ucert = none →
          (srmCredentials opts surl).ukey = none
      else comparedUrl (srmCredentials opts surl) endpoint = endpoint ∧
        SamePresence created.ucert (srmCredentials opts surl).ucert ∧ SamePresence created.ukey (srmCredentials opts surl).ukey
  | _ => True

/-- What is known of the kept context from the lookups that were made for it. -/
structure KeepsCreation (created : SrmCredentials) (opts : SrmOpts) : Prop where
  ucert : ∀ context ∈ opts.srmContext, context.ucert = created.ucert
  ukey : ∀ context ∈ opts.srmContext, context.ukey = created.ukey
  endpoint : ∀ context ∈ opts.srmContext, opts.endpoint = context.endpoint
  x509Ucert : opts.srmContext ≠ none → ∀ value ∈ created.ucert, opts.x509Ucert = value.take 2047
  x509Ukey : opts.srmContext ≠ none → ∀ value ∈ created.ukey, opts.x509Ukey = value.take 2047

/-! ### The endpoint fits the buffer it is remembered in -/

theorem gfalGetFullendpoint_length {surl endpoint : CString} (h : gfalGetFullendpoint surl 2048 = .ok endpoint) :
    endpoint.length ≤ 2047 := by
  unfold gfalGetFullendpoint at h
  split at h
  · cases h
  · split at h
    · rename_i sfn _ hlt
      cases h
      have hprefix : (lit "httpg://").length = 8 := rfl
      simp only [List.length_append, List.length_drop, List.length_take, hprefix]
      omega
    · cases h

theorem gfalSrmGuessServiceEndpoint_length {surl endpoint : CString}
    (h : gfalSrmGuessServiceEndpoint surl 2048 = .ok endpoint) : endpoint.length ≤ 2047 := by
  unfold gfalSrmGuessServiceEndpoint at h
  split at h
  · cases h
    exact List.length_take_le _ _
  · cases h

theorem gfalGetEndpointFromBdii_length {opts : SrmOpts} {answers : ContextAnswers} {surl endpoint : CString}
    (h : gfalGetEndpointFromBdii opts answers surl = some endpoint) : endpoint.length ≤ 2047 := by
  unfold gfalGetEndpointFromBdii at h
  split at h
  · split at h
    · rw [selectBestProtocolAndEndpoint, if_neg (by decide)] at h
      split at h
      · cases h
        exact List.length_take_le _ _
      · cases h
    · cases h
  · cases h

theorem gfalSrmDetermineEndpoint_length {opts : SrmOpts} {answers : ContextAnswers} {surl endpoint : CString}
    (h : gfalSrmDetermineEndpoint opts answers surl = .ok endpoint) : endpoint.length ≤ 2047 := by
  unfold gfalSrmDetermineEndpoint at h
  split at h
  · exact gfalGetFullendpoint_length h
  · split at h
    · exact gfalSrmGuessServiceEndpoint_length h
    · split at h
      · rename_i found hbdii
        cases h
        exact gfalGetEndpointFromBdii_length hbdii
      · exact gfalSrmGuessServiceEndpoint_length h

/-! ### What a request for a context does -/

section Request

variable {opts : SrmOpts} {answers : ContextAnswers} {surl endpoint : CString} {created : SrmCredentials}

/-- The strings that are remembered once a context is handed out. -/
def SrmOpts.handedOut (opts : SrmOpts) (context : SrmContext) (endpoint : CString) (creds : SrmCredentials) : SrmOpts :=
  { opts with
    srmContextMutex := opts.srmContextMutex.lock
    srmContext := some context
    endpoint := endpoint
    x509Ucert := remember opts.x509Ucert creds.ucert
    x509Ukey := remember opts.x509Ukey creds.ukey }

/-- The kept context is handed out again, a new one is handed out, or there is none after the request. -/
theorem easyContext_cases (hendpoint : gfalSrmDetermineEndpoint opts answers surl = .ok endpoint) :
    (∃ context, keptContext opts (srmCredentials opts surl) endpoint = some context ∧
        gfalSrmIfceEasyContext opts answers surl = (⟨some ⟨gfal2SrmGetDecodedPath surl, some context⟩, none⟩,
          opts.handedOut context endpoint (srmCredentials opts surl))) ∨
      (keptContext opts (srmCredentials opts surl) endpoint = none ∧ opts.srmProtoType = .srmv2 ∧ answers.created = true ∧
        gfalSrmIfceEasyContext opts answers surl = (⟨some ⟨gfal2SrmGetDecodedPath surl,
            some (gfalSrmIfceContextSetup endpoint (srmCredentials opts surl).ucert (srmCredentials opts surl).ukey)⟩, none⟩,
          opts.handedOut (gfalSrmIfceContextSetup endpoint (srmCredentials opts surl).ucert (srmCredentials opts surl).ukey)
            endpoint (srmCredentials opts surl))) ∨
      keptContext opts (srmCredentials opts surl) endpoint = none ∧ ¬(opts.srmProtoType = .srmv2 ∧ answers.created = true) ∧
        (gfalSrmIfceEasyContext opts answers surl).2.srmContext = none ∧
        ∀ easy, (gfalSrmIfceEasyContext opts answers surl).1.val = some easy → easy.srmContext = none := by
  have htake : endpoint.take 2047 = endpoint := List.take_of_length_le (gfalSrmDetermineEndpoint_length hendpoint)
  unfold gfalSrmIfceEasyContext
  rw [hendpoint]
  dsimp only
  change (∃ context, keptContext opts _ endpoint = some context ∧ _) ∨ _
  have hkept : (opts.srmContext.filter fun _ => isSameContext
      { opts with srmContextMutex := opts.srmContextMutex.lock } (comparedUrl (srmCredentials opts surl) endpoint)
        (srmCredentials opts surl).ucert (srmCredentials opts surl).ukey) =
      keptContext opts (srmCredentials opts surl) endpoint := rfl
  unfold comparedUrl at hkept
  rw [hkept, htake]
  cases keptContext opts (srmCredentials opts surl) endpoint with
  | some context => exact .inl ⟨context, rfl, rfl⟩
  | none =>
      obtain ⟨credMapping, config, srmProtoType, mutex, context, ucert, ukey, remembered⟩ := opts
      cases srmProtoType with
      | srmv2 =>
          dsimp only
          by_cases hcreated : answers.created = true
          · rw [if_pos hcreated]
            exact .inr (.inl ⟨rfl, rfl, hcreated, rfl⟩)
          · rw [if_neg hcreated]
            exact .inr (.inr ⟨rfl, fun h => hcreated h.2, rfl, fun easy h => by cases h; rfl⟩)
      | srm =>
          dsimp only
          exact .inr (.inr ⟨rfl, fun h => absurd h.1 (by decide), rfl, fun easy h => by cases h⟩)
      | errorUnknown =>
          dsimp only
          exact .inr (.inr ⟨rfl, fun h => absurd h.1 (by decide), rfl, fun easy h => by cases h⟩)

theorem easyContext_of_error {e : GError} (hendpoint : gfalSrmDetermineEndpoint opts answers surl = .error e) :
    gfalSrmIfceEasyContext opts answers surl = (⟨none, some e⟩, opts) := by
  unfold gfalSrmIfceEasyContext
  rw [hendpoint]

/-- What was remembered when the context was made agrees with a value of now just if it is that value. -/
theorem eq_iff_samePresence {remembered : CString} {created now : Option CString}
    (hremembered : ∀ value ∈ created, remembered = value.take 2047) (hsame : sameRemembered remembered now = true) :
    created = now ↔ SamePresence created now := by
  unfold SamePresence
  cases created with
  | none => cases now <;> simp
  | some value =>
      have hvalue := hremembered value rfl
      cases now with
      | none => simp
      | some value' =>
          have heq : remembered = value' := by simpa [sameRemembered] using hsame
          rw [hvalue] at heq
          simp only [Option.some_inj, reduceCtorEq, Option.mem_def, forall_eq', true_and, iff_self]
          constructor
          · intro h
            have hlength := congrArg List.length (heq.trans h.symm)
            rw [List.length_take] at hlength
            omega
          · intro h
            rw [← heq, List.take_of_length_le (by omega)]

/-- In a state whose context is known from its creation, a request for a context that carries the credentials of its
URL is one that fits. -/
theorem carriesCredentials_iff_fitsCreation (h : KeepsCreation created opts) (op : SrmContextOp) :
    CarriesCredentials op opts ↔ FitsCreation op opts created := by
  cases op with
  | changeCredentials credMapping config => exact Iff.rfl
  | release => exact Iff.rfl
  | easyContext surl answers =>
      refine forall_congr' fun endpoint => ?_
      by_cases hendpoint : gfalSrmDetermineEndpoint opts answers surl = .ok endpoint
      swap
      · exact iff_of_true (fun _ _ h => absurd h hendpoint) fun h => absurd h hendpoint
      rcases easyContext_cases hendpoint with ⟨context, hkept, hrun⟩ | ⟨hnone, hproto, hcreated, hrun⟩ |
        ⟨hnone, hnot, -, hhanded⟩
      · obtain ⟨hcontext, hsame⟩ := Option.filter_eq_some_iff.mp hkept
        unfold isSameContext at hsame
        simp only [Bool.and_eq_true, decide_eq_true_eq] at hsame
        obtain ⟨⟨hurl, hcert⟩, hkey⟩ := hsame
        have hsome : opts.srmContext ≠ none := by simp [hcontext]
        have hucert := eq_iff_samePresence (h.x509Ucert hsome) hcert
        have hukey := eq_iff_samePresence (h.x509Ukey hsome) hkey
        rw [hrun, hkept, if_neg (by simp), ← hucert, ← hukey, ← h.ucert context hcontext, ← h.ukey context hcontext,
          ← hurl, h.endpoint context hcontext]
        obtain ⟨contextEndpoint, contextUcert, contextUkey⟩ := context
        constructor
        · intro hright
          have heq := hright _ _ hendpoint rfl rfl
          injection heq with hright₁ hright₂ hright₃
          exact fun _ => ⟨hright₁, hright₂, hright₃⟩
        · rintro hright easy context' - heasy hctx
          cases heasy
          cases hctx
          obtain ⟨rfl, rfl, rfl⟩ := hright hendpoint
          rfl
      · rw [hrun, hnone, if_pos rfl]
        constructor
        · intro hright _ _ _ hcert
          have heq := hright _ _ hendpoint rfl rfl
          rw [hcert] at heq
          exact (congrArg SrmContext.ukey heq).symm
        · rintro hnew easy context - heasy hcontext
          cases heasy
          cases hcontext
          cases hcert : (srmCredentials opts surl).ucert with
          | some cert => rfl
          | none => rw [hnew hendpoint hproto hcreated hcert, gfalSrmIfceContextSetup]
      · rw [hnone, if_pos rfl]
        refine iff_of_true (fun easy context _ heasy hcontext => ?_) fun _ hproto hcreated => absurd ⟨hproto, hcreated⟩ hnot
        rw [hhanded easy heasy] at hcontext
        cases hcontext

theorem remember_take {created now : Option CString} (h : created = now) (remembered : CString) :
    ∀ value ∈ created, remember remembered now = value.take 2047 := by
  rintro value rfl
  rw [← h]
  rfl

/-- A request that carries the credentials of its URL leaves a context that is known from its creation. -/
theorem keepsCreation_easyContext (h : KeepsCreation created opts) (hright : CarriesCredentials (.easyContext surl answers) opts) :
    KeepsCreation (recordCreation (.easyContext surl answers) opts created) (gfalSrmIfceEasyContext opts answers surl).2 := by
  unfold recordCreation
  dsimp only
  cases hendpoint : gfalSrmDetermineEndpoint opts answers surl with
  | error e =>
      rw [easyContext_of_error hendpoint]
      exact h
  | ok endpoint =>
      dsimp only
      rcases easyContext_cases hendpoint with ⟨context, hkept, hrun⟩ | ⟨hnone, -, -, hrun⟩ | ⟨hnone, -, hcontext, -⟩
      · have hfound := (Option.filter_eq_some_iff.mp hkept).1
        have heq := hright endpoint _ context hendpoint (by rw [hrun]) rfl
        have hucert : created.ucert = (srmCredentials opts surl).ucert := by rw [← h.ucert context hfound, heq]
        have hukey : created.ukey = (srmCredentials opts surl).ukey := by rw [← h.ukey context hfound, heq]
        rw [hrun, hkept, if_neg (by simp)]
        refine ⟨?_, ?_, ?_, fun _ => remember_take hucert _, fun _ => remember_take hukey _⟩
        · rintro _ ⟨⟩
          exact h.ucert context hfound
        · rintro _ ⟨⟩
          exact h.ukey context hfound
        · rintro _ ⟨⟩
          rw [heq]
          rfl
      · have heq := hright endpoint _ _ hendpoint (by rw [hrun]) rfl
        rw [hrun, hnone, if_pos rfl, heq]
        refine ⟨?_, ?_, ?_, fun _ => remember_take rfl _, fun _ => remember_take rfl _⟩
        all_goals rintro _ ⟨⟩; rfl
      · refine ⟨?_, ?_, ?_, fun hsome => absurd hcontext hsome, fun hsome => absurd hcontext hsome⟩
        all_goals
          intro context hmem
          rw [hcontext] at hmem
          cases hmem

end Request

/-- A step that carries the credentials of its URL leaves a context that is known from its creation. -/
theorem keepsCreation_srmContextStep {op : SrmContextOp} {opts opts' : SrmOpts} {created : SrmCredentials}
    (h : KeepsCreation created opts) (hright : CarriesCredentials op opts) (hstep : srmContextStep op opts = some opts') :
    KeepsCreation (recordCreation op opts created) opts' := by
  cases op with
  | changeCredentials credMapping config =>
      cases hstep
      exact ⟨h.ucert, h.ukey, h.endpoint, h.x509Ucert, h.x509Ukey⟩
  | easyContext surl answers =>
      cases hstep
      exact keepsCreation_easyContext h hright
  | release =>
      cases hstep
      exact ⟨h.ucert, h.ukey, h.endpoint, h.x509Ucert, h.x509Ukey⟩

/-- Every context that a run hands out was made for the endpoint of the URL with the credentials that are looked up for
it just when every context that the run uses again fits the lookups it was made with. -/
theorem srm_context_credential_iff (ops : List SrmContextOp) (last : SrmOpts) :
    Run srmContextStep CarriesCredentials {} ops last ↔
      ∃ created, Run (ghostStep srmContextStep recordCreation) (fun op state => FitsCreation op state.1 state.2)
        ({}, ⟨none, none, []⟩) ops (last, created) := by
  rw [← run_ghost_iff srmContextStep recordCreation]
  refine exists_congr fun created => ?_
  refine Run.iff_of_invariant (fun state => KeepsCreation state.2 state.1) ?_ ?_ ?_
  · exact fun op state h => carriesCredentials_iff_fitsCreation h op
  · intro op state state' hright h hstep
    obtain ⟨next, hnext, rfl⟩ := Option.map_eq_some_iff.mp hstep
    exact keepsCreation_srmContextStep h hright hnext
  · refine ⟨?_, ?_, ?_, fun hsome => absurd rfl hsome, fun hsome => absurd rfl hsome⟩
    all_goals
      intro context hmem
      cases hmem

/-- The configuration with a certificate and its key. -/
def certificateConfig (file : CString) : Config where
  optString groupName key := if groupName = lit "X509" ∧ (key = lit "CERT" ∨ key = lit "KEY") then some file else none

/-- A request with the certificate, one without any, and the certificate is there again. -/
def certificateComesBack : List SrmContextOp :=
  [.changeCredentials [] (certificateConfig (lit "/a.pem")), .easyContext (lit "srm://h/f") {}, .release,
    .changeCredentials [] {}, .easyContext (lit "srm://h/f") {}, .release,
    .changeCredentials [] (certificateConfig (lit "/a.pem"))]

/-- The context that was made without a certificate is handed out for the one that is there again. -/
theorem anonymous_context_handed_out : ∃ opts, runAll srmContextStep certificateComesBack {} = some opts ∧
      srmCredentials opts (lit "srm://h/f") = ⟨some (lit "/a.pem"), some (lit "/a.pem"), []⟩ ∧
      (gfalSrmIfceEasyContext opts {} (lit "srm://h/f")).1.val =
        some ⟨lit "srm://h/f", some ⟨lit "httpg://h/srm/managerv2", none, none⟩⟩ ∧
      ¬CarriesCredentials (.easyContext (lit "srm://h/f") {}) opts := by
  have hcomputed : (runAll srmContextStep certificateComesBack {}).map (fun opts =>
      (srmCredentials opts (lit "srm://h/f"), (gfalSrmIfceEasyContext opts {} (lit "srm://h/f")).1.val,
        (gfalSrmDetermineEndpoint opts {} (lit "srm://h/f")).toOption)) =
      some (⟨some (lit "/a.pem"), some (lit "/a.pem"), []⟩,
        some ⟨lit "srm://h/f", some ⟨lit "httpg://h/srm/managerv2", none, none⟩⟩,
        some (lit "httpg://h/srm/managerv2")) := by
    decide +kernel
  obtain ⟨opts, hrun, hanswers⟩ := Option.map_eq_some_iff.mp hcomputed
  simp only [Prod.mk.injEq] at hanswers
  obtain ⟨hcreds, hhanded, hendpoint⟩ := hanswers
  refine ⟨opts, hrun, hcreds, hhanded, fun hright => ?_⟩
  cases hdetermined : gfalSrmDetermineEndpoint opts {} (lit "srm://h/f") with
  | error e =>
      rw [hdetermined] at hendpoint
      cases hendpoint
  | ok endpoint =>
      have heq := hright endpoint _ _ hdetermined hhanded rfl
      rw [hcreds] at heq
      cases heq

end Gfal2
