import Gfal2.HttpTpcParams

/-! Which credentials a third-party copy request carries. The tokens are told apart by their headers; there is one client certificate for
both endpoints, and that of the destination replaces that of the source. -/

namespace Gfal2

open Base Exec

variable (settings : HttpSettings)

/-! ### What a request should carry -/

/-- The token of an endpoint: none for the clouds that have keys, the one of the configuration for Reva, else one that is stored or
issued. -/
def endpointToken (uri : TpcUri) (operation : HttpOp) (validity : Nat) : HttpTpc (Option CString) :=
  if isKeyedCloud uri then return none
  else if (lit "cs3").isPrefixOf uri.protocol then return configToken settings
  else seToken settings uri operation validity

def sourceOp (pushMode : Bool) : HttpOp := if pushMode then .read else .readPasv

def destinationOp (pushMode : Bool) : HttpOp := if pushMode then .writePasv else .write

def tokenTimeout (timeout : Nat) : Nat := 2 * timeout % 2 ^ 32 / 60 + 10

/-- Tokens are selected for the source and then for the destination. -/
def SelectsTokens (creds : HttpCreds) (srcUri dstUri : TpcUri) (timeout : Nat) (pushMode : Bool) (source destination : Option CString) :
    Prop :=
  ∃ creds' creds'', endpointToken settings srcUri (sourceOp pushMode) (tokenTimeout timeout) creds = .ok (source, creds') ∧
    endpointToken settings dstUri (destinationOp pushMode) (tokenTimeout timeout) creds' = .ok (destination, creds'')

/-- Of two things, of the source and of the destination, the one of the active endpoint. -/
def activeOf {α : Type} (pushMode : Bool) (source destination : α) : α := if pushMode then source else destination

/-- Of two things, of the source and of the destination, the one of the passive endpoint. -/
def passiveOf {α : Type} (pushMode : Bool) (source destination : α) : α := if pushMode then destination else source

/-- Whether a token for the passive endpoint is sent. -/
def sendsTransferHeader (headers : List (CString × CString)) : Bool := headers.any fun header => sameHeader header.1 transferHeader

/-- The headers carry the tokens of the active and of the passive endpoint, and agree on the delegation. -/
structure HeadersRight (active passive : Option CString) (delegation : Bool) (headers : List (CString × CString)) : Prop where
  authorization : ∀ header ∈ headers, sameHeader header.1 authorizationHeader → some header.2 = active.map bearerText
  transfer : ∀ header ∈ headers, sameHeader header.1 transferHeader → some header.2 = passive.map bearerText
  credential : ∃ header ∈ headers, sameHeader header.1 credentialHeader
  agree : ∀ header ∈ headers, sameHeader header.1 credentialHeader →
    header.2 = if sendsTransferHeader headers ∨ delegation = false then lit "none" else lit "gridsite"

/-- A request carries the certificate of the active endpoint, and each token in its header. -/
structure RightTpcRequest (creds : HttpCreds) (srcUri dstUri : TpcUri) (timeout : Nat) (pushMode : Bool) (request : RequestParams) :
    Prop where
  cert : request.clientCert = gfalHttpGetX509CertPair settings creds.mapping (activeOf pushMode srcUri dstUri)
  headers : ∃ source destination, SelectsTokens settings creds srcUri dstUri timeout pushMode source destination ∧
    HeadersRight (activeOf pushMode source destination) (passiveOf pushMode source destination)
      (delegationRequired (passiveOf pushMode srcUri dstUri)) request.headers

def loadedPair (mapping : CredMapping) (uri : TpcUri) : Option (CString × CString) :=
  (gfalHttpGetX509CertPair settings mapping uri).filter settings.loads

/-- When the certificate is that of the active endpoint. In push mode the destination has none that can be loaded, or the same as the
source, and the source's can be loaded; in pull mode the destination's can be loaded, or neither has one that can. -/
def CertsAgree (creds : HttpCreds) (srcUri dstUri : TpcUri) (pushMode : Bool) : Prop :=
  let source := gfalHttpGetX509CertPair settings creds.mapping srcUri
  let destination := gfalHttpGetX509CertPair settings creds.mapping dstUri
  if pushMode then
    (loadedPair settings creds.mapping dstUri ≠ none → source = destination) ∧
      (loadedPair settings creds.mapping dstUri = none → source ≠ none → loadedPair settings creds.mapping srcUri ≠ none)
  else
    loadedPair settings creds.mapping dstUri ≠ none ∨ destination = none ∧ loadedPair settings creds.mapping srcUri = none

/-- The headers that are configured for the active endpoint carry no other credentials. -/
structure CustomRight (active passive : Option CString) (delegation : Bool) (custom : List (CString × CString)) : Prop where
  authorization : ∀ header ∈ custom, sameHeader header.1 authorizationHeader → some header.2 = active.map bearerText
  transfer : ∀ header ∈ custom, sameHeader header.1 transferHeader → some header.2 = passive.map bearerText
  agree : ∀ header ∈ custom, sameHeader header.1 credentialHeader →
    header.2 = if passive ≠ none ∨ delegation = false then lit "none" else lit "gridsite"

structure RightTpcWhen (creds : HttpCreds) (srcUri dstUri : TpcUri) (timeout : Nat) (pushMode : Bool) : Prop where
  certs : CertsAgree settings creds srcUri dstUri pushMode
  custom : ∃ custom source destination,
    parseHeaders (getSeCustomHeadersList settings (activeOf pushMode srcUri dstUri)) = .ok custom ∧
      SelectsTokens settings creds srcUri dstUri timeout pushMode source destination ∧
      CustomRight (activeOf pushMode source destination) (passiveOf pushMode source destination)
        (delegationRequired (passiveOf pushMode srcUri dstUri)) custom

/-! ### Certificates -/

theorem find?_orderedInsert {α : Type} {r : α → α → Prop} [DecidableRel r] {p : α → Bool} {x : α} (hx : p x = false) (l : List α) :
    (l.orderedInsert r x).find? p = l.find? p := by
  induction l with
  | nil => simp [hx]
  | cons a l ih =>
      rw [List.orderedInsert_cons]
      split
      · rw [List.find?_cons_of_neg (by simp [hx])]
      · rw [List.find?_cons, List.find?_cons, ih]

theorem find?_eraseP {α : Type} {p q : α → Bool} (hpq : ∀ a, q a = true → p a = false) (l : List α) :
    (l.eraseP q).find? p = l.find? p := by
  induction l with
  | nil => simp
  | cons a l ih =>
      by_cases hq : q a = true
      · rw [List.eraseP_cons_of_pos hq, List.find?_cons_of_neg (by simp [hpq a hq])]
      · rw [List.eraseP_cons_of_neg hq, List.find?_cons, List.find?_cons, ih]

/-- A token that is stored changes nothing about what is found of another type. -/
theorem gfal2CredGet_storeNode {type : CString} (htype : type ≠ bearer) (mapping : CredMapping)
    (option : CString → CString → Option CString) (urlPrefix token url : CString) :
    gfal2CredGet (storeNode mapping (credNode urlPrefix ⟨bearer, some token⟩)) option type url =
      gfal2CredGet mapping option type url := by
  have hfind : (storeNode mapping (credNode urlPrefix ⟨bearer, some token⟩)).find? (·.serves type url) =
      mapping.find? (·.serves type url) := by
    let serves : CredNode → Bool := fun node => node.serves type url
    have hother (node : CredNode) (hnode : node.cred.type = bearer) : serves node = false := by
      simp [serves, CredNode.serves, hnode, htype.symm]
    rw [storeNode, gListInsertSorted]
    refine (find?_orderedInsert (p := serves) (hother _ (by rfl)) _).trans (find?_eraseP (fun node hnode => hother node ?_) _)
    have hkey := (compares_nodeCompare.eq_zero_iff _ _).mp (of_decide_eq_true hnode)
    exact ((CredNode.key_eq_iff _ _).mp hkey).2
  rw [gfal2CredGet, gfal2CredGet, hfind]

theorem pair_storeNode (mapping : CredMapping) (urlPrefix token : CString) (uri : TpcUri) :
    gfalHttpGetX509CertPair settings (storeNode mapping (credNode urlPrefix ⟨bearer, some token⟩)) uri =
      gfalHttpGetX509CertPair settings mapping uri := by
  rw [gfalHttpGetX509CertPair, gfalHttpGetX509CertPair, gfal2CredGet_storeNode (by decide), gfal2CredGet_storeNode (by decide)]

variable {settings} {creds creds' : HttpCreds} {uri : TpcUri} {operation : HttpOp} {validity : Nat} {token : Option CString}

theorem getCertificate_apply (params : RequestParams) (uri : TpcUri) : getCertificate settings params uri creds =
    .ok ({ params with clientCert := (loadedPair settings creds.mapping uri).or params.clientCert }, creds) := by
  rw [getCertificate, get_bind_apply, loadedPair]
  cases gfalHttpGetX509CertPair settings creds.mapping uri with
  | none => simp
  | some pair => by_cases hloads : settings.loads pair = true <;> simp [Option.filter, hloads]

theorem getCertificate_keeps {γ : Type} (observe : HttpCreds → γ) (params : RequestParams) (uri : TpcUri) :
    Exec.Keeps observe (getCertificate settings params uri) := by
  apply Exec.Keeps.get.bind
  intro creds
  cases gfalHttpGetX509CertPair settings creds.mapping uri with
  | none => exact .pure _
  | some pair => exact .ite (.pure _) (.pure _)

theorem getParamsInternal_keeps {γ : Type} (observe : HttpCreds → γ) (params : RequestParams) (uri : TpcUri) :
    Exec.Keeps observe (getParamsInternal settings params uri) := by
  rw [getParamsInternal]
  cases parseHeaders (getSeCustomHeadersList settings uri) with
  | error reason => exact .fault _
  | ok custom => exact .pure _

/-- The selection of a token does not change the certificates. -/
theorem endpointToken_keeps (other : TpcUri) :
    Exec.Keeps (fun creds : HttpCreds => gfalHttpGetX509CertPair settings creds.mapping other)
      (endpointToken settings uri operation validity) := by
  have hstored : Exec.Keeps (fun creds : HttpCreds => gfalHttpGetX509CertPair settings creds.mapping other)
      (findStoredToken settings uri operation) := by
    apply Exec.Keeps.get.bind
    intro creds
    cases findSeToken creds.tokenMap uri.toTokenUri operation creds.mapping settings.config.optString with
    | error reason => exact .fault _
    | ok token => exact .pure _
  have hissued : Exec.Keeps (fun creds : HttpCreds => gfalHttpGetX509CertPair settings creds.mapping other)
      (retrieveAndStoreSeToken settings uri operation validity) := by
    rw [retrieveAndStoreSeToken]
    apply Exec.Keeps.ite (.pure _)
    apply (getParamsInternal_keeps _ _ _).bind
    intro params
    apply (getCertificate_keeps _ _ _).bind
    intro params'
    cases settings.issuedToken uri params' (writeFlagFromOperation operation) validity with
    | none => exact .pure _
    | some token => exact (Exec.Keeps.modify fun creds => pair_storeNode settings _ _ _ _).bind fun _ => .pure _
  rw [endpointToken]
  apply Exec.Keeps.ite (.pure _)
  apply Exec.Keeps.ite (.pure _)
  rw [seToken]
  apply Exec.Keeps.ite (.pure _)
  apply hstored.bind
  intro found
  cases found with
  | none => exact hissued
  | some token => exact .pure _

/-! ### The credentials of one endpoint -/

def tokenHeaders (uri : TpcUri) (operation : HttpOp) : Option CString → List (CString × CString)
  | none => []
  | some token =>
      if needsTransferHeader operation then
        (transferHeader, bearerText token) ::
          if (lit "cs3").isPrefixOf uri.protocol then [] else [(credentialHeader, lit "none")]
      else [(authorizationHeader, bearerText token)]

/-- The credentials of an endpoint are its certificate, if it has one, and the headers of its token. -/
theorem getCredentials_eq (params : RequestParams) : getCredentials settings params uri operation validity creds =
    match endpointToken settings uri operation validity creds with
    | .error reason => .error reason
    | .ok (token, creds') =>
        .ok (⟨(loadedPair settings creds.mapping uri).or params.clientCert, params.headers ++ tokenHeaders uri operation token⟩,
          creds') := by
  rw [getCredentials, bind_of_ok (getCertificate_apply params uri), endpointToken]
  by_cases hkeyed : isKeyedCloud uri = true
  · simp [hkeyed, tokenHeaders]
  by_cases hreva : (lit "cs3").isPrefixOf uri.protocol = true
  · rw [if_neg hkeyed, if_neg hkeyed, if_pos hreva, if_pos hreva, getRevaCredentials]
    cases configToken settings with
    | none => simp [tokenHeaders]
    | some token => by_cases hpassive : needsTransferHeader operation = true <;> simp [tokenHeaders, RequestParams.addHeader, hpassive, hreva]
  · rw [if_neg hkeyed, if_neg hkeyed, if_neg hreva, if_neg hreva, getToken]
    cases hselected : seToken settings uri operation validity creds with
    | error reason => rw [bind_of_error hselected]
    | ok answer =>
        obtain ⟨token, creds'⟩ := answer
        rw [bind_of_ok hselected]
        cases token with
        | none => simp [tokenHeaders]
        | some token => by_cases hpassive : needsTransferHeader operation = true <;> simp [tokenHeaders, RequestParams.addHeader, hpassive, hreva]

/-! ### The request -/

variable {srcUri dstUri : TpcUri} {timeout : Nat} {pushMode : Bool}

/-- The headers that are there whatever the credentials are. -/
def plainHeaders (settings : HttpSettings) (custom : List (CString × CString)) : List (CString × CString) :=
  (settings.clientInfo.map (lit "ClientInfo", ·)).toList ++ custom

theorem getParamsInternal_eq (uri : TpcUri) : getParamsInternal settings {} uri creds =
    match parseHeaders (getSeCustomHeadersList settings uri) with
    | .error reason => .error reason
    | .ok custom => .ok (⟨none, plainHeaders settings custom⟩, creds) := by
  rw [getParamsInternal]
  cases parseHeaders (getSeCustomHeadersList settings uri) with
  | error reason => simp
  | ok custom => simp [plainHeaders]

/-- A request has the headers of both tokens, and of the certificates that can be loaded the destination's before the source's. -/
theorem getTpcParams_ok {request : RequestParams}
    (hrun : getTpcParams settings srcUri dstUri timeout pushMode creds = .ok (request, creds')) :
    ∃ custom source destination,
      parseHeaders (getSeCustomHeadersList settings (activeOf pushMode srcUri dstUri)) = .ok custom ∧
        SelectsTokens settings creds srcUri dstUri timeout pushMode source destination ∧
        request = setCredentialHeader (delegationRequired (passiveOf pushMode srcUri dstUri))
          ⟨(loadedPair settings creds.mapping dstUri).or (loadedPair settings creds.mapping srcUri),
            plainHeaders settings custom ++ tokenHeaders srcUri (sourceOp pushMode) source ++
              tokenHeaders dstUri (destinationOp pushMode) destination⟩ := by
  have hsame : getTpcParams settings srcUri dstUri timeout pushMode = (do
      let params ← getParamsInternal settings {} (activeOf pushMode srcUri dstUri)
      let params ← getCredentials settings params srcUri (sourceOp pushMode) (tokenTimeout timeout)
      let params ← getCredentials settings params dstUri (destinationOp pushMode) (tokenTimeout timeout)
      return setCredentialHeader (delegationRequired (passiveOf pushMode srcUri dstUri)) params) := by
    cases pushMode <;> rfl
  rw [hsame] at hrun
  obtain ⟨params, unchanged, hplain, hrun⟩ := bind_eq_ok.mp hrun
  obtain ⟨params', creds₁, hsource, hrun⟩ := bind_eq_ok.mp hrun
  obtain ⟨params'', creds₂, hdestination, hrun⟩ := bind_eq_ok.mp hrun
  rw [getParamsInternal_eq] at hplain
  cases hcustom : parseHeaders (getSeCustomHeadersList settings (activeOf pushMode srcUri dstUri)) with
  | error reason => simp [hcustom] at hplain
  | ok custom =>
      rw [hcustom] at hplain
      obtain ⟨rfl, rfl⟩ := ok_inj hplain
      rw [getCredentials_eq] at hsource hdestination
      cases hselected : endpointToken settings srcUri (sourceOp pushMode) (tokenTimeout timeout) creds with
      | error reason => simp [hselected] at hsource
      | ok first =>
          obtain ⟨source, middle⟩ := first
          rw [hselected] at hsource
          obtain ⟨rfl, rfl⟩ := ok_inj hsource
          cases hselected' : endpointToken settings dstUri (destinationOp pushMode) (tokenTimeout timeout) middle with
          | error reason => simp [hselected'] at hdestination
          | ok second =>
              obtain ⟨destination, last⟩ := second
              rw [hselected'] at hdestination
              obtain ⟨rfl, rfl⟩ := ok_inj hdestination
              obtain ⟨rfl, rfl⟩ := ok_inj hrun
              refine ⟨custom, source, destination, by trivial, ⟨_, _, hselected, hselected'⟩, ?_⟩
              have hpair := (endpointToken_keeps dstUri).eq hselected
              rw [Option.or_none, loadedPair, hpair, loadedPair, loadedPair]

theorem SelectsTokens.unique {source destination source' destination' : Option CString}
    (h : SelectsTokens settings creds srcUri dstUri timeout pushMode source destination)
    (h' : SelectsTokens settings creds srcUri dstUri timeout pushMode source' destination') :
    source = source' ∧ destination = destination' := by
  obtain ⟨creds₁, creds₂, hsource, hdestination⟩ := h
  obtain ⟨creds₃, creds₄, hsource', hdestination'⟩ := h'
  obtain ⟨rfl, rfl⟩ := ok_inj (hsource.symm.trans hsource')
  exact ⟨by trivial, (ok_inj (hdestination.symm.trans hdestination')).1⟩

theorem loaded_eq_iff {loads : CString × CString → Bool} (source : Option (CString × CString)) :
    source.filter loads = source ↔ (source ≠ none → source.filter loads ≠ none) := by
  cases source with
  | none => simp
  | some pair => by_cases hloads : loads pair = true <;> simp [Option.filter, hloads]

/-- The certificate is that of the active endpoint exactly if the certificates agree. -/
theorem cert_iff : (loadedPair settings creds.mapping dstUri).or (loadedPair settings creds.mapping srcUri) =
    gfalHttpGetX509CertPair settings creds.mapping (activeOf pushMode srcUri dstUri) ↔
      CertsAgree settings creds srcUri dstUri pushMode := by
  rw [CertsAgree, loadedPair, loadedPair]
  generalize hsource : gfalHttpGetX509CertPair settings creds.mapping srcUri = source
  generalize hdestination : gfalHttpGetX509CertPair settings creds.mapping dstUri = destination
  cases pushMode with
  | true =>
      rw [activeOf, if_pos (by trivial), hsource, if_pos (by trivial)]
      cases hloaded : destination.filter settings.loads with
      | none => simpa using loaded_eq_iff source
      | some pair =>
          obtain ⟨rfl, -⟩ := Option.filter_eq_some_iff.mp hloaded
          rw [Option.some_or]
          constructor
          · intro hsame
            exact ⟨fun _ => hsame.symm, fun hnone => by cases hnone⟩
          · intro hagree
            exact (hagree.1 (by simp)).symm
  | false =>
      rw [activeOf, if_neg (by decide), hdestination, if_neg (by decide)]
      cases hloaded : destination.filter settings.loads with
      | some pair =>
          obtain ⟨rfl, -⟩ := Option.filter_eq_some_iff.mp hloaded
          simp
      | none =>
          rw [Option.none_or]
          constructor
          · intro hsame
            refine .inr ?_
            cases hfound : source.filter settings.loads with
            | none => exact ⟨hsame.symm.trans hfound, by trivial⟩
            | some pair =>
                obtain rfl := hsame.symm.trans hfound
                have hloads := (Option.filter_eq_some_iff.mp hfound).2
                simp [Option.filter, hloads] at hloaded
          · rintro (hne | ⟨hnone, hsource⟩)
            · exact absurd (by trivial) hne
            · rw [hsource, hnone]

/-! ### The headers -/

/-- The headers of the active and of the passive endpoint, before the delegation is settled. -/
structure HeldBy (plain : List (CString × CString)) (activeUri passiveUri : TpcUri) (active passive : Option CString)
    (headers : List (CString × CString)) : Prop where
  mem : ∀ header, header ∈ headers ↔ header ∈ plain ∨ header ∈ tokenHeaders activeUri .read active ∨
    header ∈ tokenHeaders passiveUri .readPasv passive

theorem heldBy_tokenHeaders (plain : List (CString × CString)) (srcUri dstUri : TpcUri) (pushMode : Bool)
    (source destination : Option CString) :
    HeldBy plain (activeOf pushMode srcUri dstUri) (passiveOf pushMode srcUri dstUri) (activeOf pushMode source destination)
      (passiveOf pushMode source destination)
      (plain ++ tokenHeaders srcUri (sourceOp pushMode) source ++ tokenHeaders dstUri (destinationOp pushMode) destination) := by
  have hactive (uri : TpcUri) (token : Option CString) : tokenHeaders uri .write token = tokenHeaders uri .read token := by
    cases token <;> rfl
  have hpassive (uri : TpcUri) (token : Option CString) : tokenHeaders uri .writePasv token = tokenHeaders uri .readPasv token := by
    cases token <;> rfl
  constructor
  intro header
  cases pushMode with
  | true => simp [activeOf, passiveOf, sourceOp, destinationOp, hpassive]
  | false =>
      simp only [activeOf, passiveOf, sourceOp, destinationOp, hactive, List.mem_append, Bool.false_eq_true, if_false]
      tauto

theorem delegationRequired_of_reva {uri : TpcUri} (hreva : (lit "cs3").isPrefixOf uri.protocol = true) :
    delegationRequired uri = false := by
  obtain ⟨rest, hrest⟩ := List.isPrefixOf_iff_prefix.mp hreva
  rw [delegationRequired, ← hrest]
  simp [lit, List.isPrefixOf]

section Held

variable {plain headers : List (CString × CString)} {activeUri passiveUri : TpcUri} {active passive : Option CString}
  {header : CString × CString} {clientCert : Option (CString × CString)}

theorem mem_activeHeaders : header ∈ tokenHeaders activeUri .read active ↔
    ∃ token, active = some token ∧ header = (authorizationHeader, bearerText token) := by
  cases active with
  | none => simp [tokenHeaders]
  | some token => simp [tokenHeaders, needsTransferHeader]

theorem mem_passiveHeaders : header ∈ tokenHeaders passiveUri .readPasv passive ↔
    ∃ token, passive = some token ∧ (header = (transferHeader, bearerText token) ∨
      (lit "cs3").isPrefixOf passiveUri.protocol = false ∧ header = (credentialHeader, lit "none")) := by
  cases passive with
  | none => simp [tokenHeaders]
  | some token => by_cases hreva : (lit "cs3").isPrefixOf passiveUri.protocol = true <;> simp [tokenHeaders, needsTransferHeader, hreva]

/-- The headers of a request: those held before, and those on the delegation. -/
theorem mem_setCredentialHeader {delegation : Bool} {params : RequestParams} :
    header ∈ (setCredentialHeader delegation params).headers ↔ header ∈ params.headers ∨
      (delegation = true ∧ (∀ other ∈ params.headers, sameHeader other.1 credentialHeader = false) ∧
        header = (credentialHeader, lit "gridsite")) ∨
      (delegation = false ∧ (header = (credentialHeader, lit "none") ∨ header = (lit "X-No-Delegate", lit "true"))) := by
  rw [setCredentialHeader]
  cases delegation with
  | false => simp [RequestParams.addHeader]
  | true =>
      rw [if_pos (by trivial)]
      by_cases hset : params.headers.any (fun header => sameHeader header.1 credentialHeader) = true
      · rw [if_pos hset]
        obtain ⟨other, hother, hname⟩ := List.any_eq_true.mp hset
        simp only [Bool.true_eq_false, false_and, or_false, true_and]
        refine ⟨Or.inl, fun h => h.resolve_right fun hnone => ?_⟩
        rw [hnone.1 other hother] at hname
        cases hname
      · rw [if_neg hset]
        have hnone : ∀ other ∈ params.headers, sameHeader other.1 credentialHeader = false := by simpa using hset
        simp only [RequestParams.addHeader, List.mem_append, List.mem_singleton, Bool.true_eq_false, false_and, or_false, true_and]
        exact or_congr_right (and_iff_right hnone).symm

/-- The names under which credentials are sent are told apart. -/
theorem sameHeader_names : sameHeader authorizationHeader transferHeader = false ∧ sameHeader authorizationHeader credentialHeader = false ∧
    sameHeader transferHeader authorizationHeader = false ∧ sameHeader transferHeader credentialHeader = false ∧
    sameHeader credentialHeader authorizationHeader = false ∧ sameHeader credentialHeader transferHeader = false := by
  decide

variable {custom : List (CString × CString)} {delegation : Bool} {params : RequestParams}

/-- A header of a request under one of the names is configured, or one of those that are set for it. -/
theorem mem_requestHeaders (hheld : HeldBy (plainHeaders settings custom) activeUri passiveUri active passive params.headers)
    (hname : sameHeader header.1 authorizationHeader ∨ sameHeader header.1 transferHeader ∨ sameHeader header.1 credentialHeader) :
    header ∈ (setCredentialHeader delegation params).headers ↔
      header ∈ custom ∨ (∃ token, active = some token ∧ header = (authorizationHeader, bearerText token)) ∨
        (∃ token, passive = some token ∧ (header = (transferHeader, bearerText token) ∨
          (lit "cs3").isPrefixOf passiveUri.protocol = false ∧ header = (credentialHeader, lit "none"))) ∨
        (delegation = true ∧ (∀ other ∈ params.headers, sameHeader other.1 credentialHeader = false) ∧
          header = (credentialHeader, lit "gridsite")) ∨
        (delegation = false ∧ header = (credentialHeader, lit "none")) := by
  have hclient (client : CString) (h : header = (lit "ClientInfo", client)) : False := by
    rw [h] at hname
    exact absurd hname (by dsimp only; decide)
  have hdelegate (h : header = (lit "X-No-Delegate", lit "true")) : False := by
    subst h
    exact absurd hname (by decide)
  have hplain : header ∈ plainHeaders settings custom ↔ header ∈ custom := by
    rw [plainHeaders, List.mem_append]
    refine or_iff_right fun hmem => ?_
    cases hinfo : settings.clientInfo with
    | none => simp [hinfo] at hmem
    | some client => exact hclient client (by simpa [hinfo] using hmem)
  rw [mem_setCredentialHeader, hheld.mem, mem_activeHeaders, mem_passiveHeaders, hplain]
  constructor
  · rintro ((hcustom | hactive | hpassive) | hgridsite | ⟨hno, hnone | hother⟩)
    · exact .inl hcustom
    · exact .inr (.inl hactive)
    · exact .inr (.inr (.inl hpassive))
    · exact .inr (.inr (.inr (.inl hgridsite)))
    · exact .inr (.inr (.inr (.inr ⟨hno, hnone⟩)))
    · exact (hdelegate hother).elim
  · rintro (hcustom | hactive | hpassive | hgridsite | ⟨hno, hnone⟩)
    · exact .inl (.inl hcustom)
    · exact .inl (.inr (.inl hactive))
    · exact .inl (.inr (.inr hpassive))
    · exact .inr (.inl hgridsite)
    · exact .inr (.inr ⟨hno, .inl hnone⟩)

/-- The headers of a request are right exactly if those that are configured are. -/
theorem headersRight_iff (params : RequestParams)
    (hheld : HeldBy (plainHeaders settings custom) activeUri passiveUri active passive params.headers)
    (hreva : (lit "cs3").isPrefixOf passiveUri.protocol = true → delegation = false) :
    HeadersRight active passive delegation (setCredentialHeader delegation params).headers ↔
      CustomRight active passive delegation custom := by
  obtain ⟨hauthTransfer, hauthCred, htransferAuth, htransferCred, hcredAuth, hcredTransfer⟩ := sameHeader_names
  have hsends (htransfer : ∀ header ∈ (setCredentialHeader delegation params).headers, sameHeader header.1 transferHeader →
      some header.2 = passive.map bearerText) :
      sendsTransferHeader (setCredentialHeader delegation params).headers = true ↔ passive ≠ none := by
    rw [sendsTransferHeader, List.any_eq_true]
    constructor
    · rintro ⟨header, hmem, hname⟩ hnone
      have hvalue := htransfer header hmem hname
      rw [hnone] at hvalue
      cases hvalue
    · intro hsome
      obtain ⟨token, rfl⟩ := Option.ne_none_iff_exists'.mp hsome
      have hsame : sameHeader transferHeader transferHeader = true := by decide
      exact ⟨_, (mem_requestHeaders hheld (.inr (.inl hsame))).mpr
        (.inr (.inr (.inl ⟨token, by trivial, .inl (by rfl)⟩))), hsame⟩
  constructor
  · intro hright
    have hsent := hsends hright.transfer
    constructor
    · intro header hmem hname
      exact hright.authorization header ((mem_requestHeaders hheld (.inl hname)).mpr (.inl hmem)) hname
    · intro header hmem hname
      exact hright.transfer header ((mem_requestHeaders hheld (.inr (.inl hname))).mpr (.inl hmem)) hname
    · intro header hmem hname
      have hagree := hright.agree header ((mem_requestHeaders hheld (.inr (.inr hname))).mpr (.inl hmem)) hname
      simp only [hsent] at hagree
      exact hagree
  · intro hcustom
    have htransfer : ∀ header ∈ (setCredentialHeader delegation params).headers, sameHeader header.1 transferHeader →
        some header.2 = passive.map bearerText := by
      intro header hmem hname
      obtain hmem | ⟨token, -, rfl⟩ | ⟨token, hpassive, rfl | ⟨-, rfl⟩⟩ | ⟨-, -, rfl⟩ | ⟨-, rfl⟩ :=
        (mem_requestHeaders hheld (.inr (.inl hname))).mp hmem
      · exact hcustom.transfer header hmem hname
      · simp [hauthTransfer] at hname
      · rw [hpassive, Option.map_some]
      · simp [hcredTransfer] at hname
      · simp [hcredTransfer] at hname
      · simp [hcredTransfer] at hname
    have hsent := hsends htransfer
    refine ⟨?_, htransfer, ?_, ?_⟩
    · intro header hmem hname
      obtain hmem | ⟨token, hactive, rfl⟩ | ⟨token, -, rfl | ⟨-, rfl⟩⟩ | ⟨-, -, rfl⟩ | ⟨-, rfl⟩ :=
        (mem_requestHeaders hheld (.inl hname)).mp hmem
      · exact hcustom.authorization header hmem hname
      · rw [hactive, Option.map_some]
      · simp [htransferAuth] at hname
      · simp [hcredAuth] at hname
      · simp [hcredAuth] at hname
      · simp [hcredAuth] at hname
    · -- where delegation is required, a header that is there already is left as it is
      have hsame : sameHeader credentialHeader credentialHeader = true := by decide
      by_cases hset : ∃ header ∈ params.headers, sameHeader header.1 credentialHeader = true
      · obtain ⟨header, hmem, hname⟩ := hset
        exact ⟨header, mem_setCredentialHeader.mpr (.inl hmem), hname⟩
      · have hnone : ∀ other ∈ params.headers, sameHeader other.1 credentialHeader = false := by simpa using hset
        cases delegation with
        | true => exact ⟨_, (mem_requestHeaders hheld (.inr (.inr hsame))).mpr
            (.inr (.inr (.inr (.inl ⟨by trivial, hnone, by rfl⟩)))), hsame⟩
        | false => exact ⟨_, (mem_requestHeaders hheld (.inr (.inr hsame))).mpr
            (.inr (.inr (.inr (.inr ⟨by trivial, by rfl⟩)))), hsame⟩
    · intro header hmem hname
      simp only [hsent]
      obtain hmem | ⟨token, -, rfl⟩ | ⟨token, hpassive, rfl | ⟨-, rfl⟩⟩ | ⟨hrequired, hnone, rfl⟩ | ⟨hno, rfl⟩ :=
        (mem_requestHeaders hheld (.inr (.inr hname))).mp hmem
      · exact hcustom.agree header hmem hname
      · simp [hauthCred] at hname
      · simp [htransferCred] at hname
      · rw [if_pos (.inl (by simp [hpassive]))]
      · -- a token of the passive endpoint would have set the header
        have hnopassive : passive = none := by
          by_contra hsome
          obtain ⟨token, rfl⟩ := Option.ne_none_iff_exists'.mp hsome
          have hplain : (lit "cs3").isPrefixOf passiveUri.protocol = false := by
            refine Bool.eq_false_iff.mpr fun hpos => ?_
            rw [hreva hpos] at hrequired
            cases hrequired
          have hthere := hnone (credentialHeader, lit "none") ((hheld.mem _).mpr (.inr (.inr (mem_passiveHeaders.mpr
            ⟨token, by trivial, .inr ⟨hplain, by rfl⟩⟩))))
          exact absurd hthere (by decide)
        rw [if_neg (by simp [hnopassive, hrequired])]
      · rw [if_pos (.inr hno)]

end Held

theorem setCredentialHeader_clientCert (delegation : Bool) (params : RequestParams) :
    (setCredentialHeader delegation params).clientCert = params.clientCert := by
  rw [setCredentialHeader]
  split
  · split <;> rfl
  · rfl

/-- A request carries the right credentials exactly if the certificates of the endpoints agree and the headers that are configured for the
active endpoint carry no other credentials. -/
theorem tpc_credentials_right_iff {request : RequestParams}
    (hrun : getTpcParams settings srcUri dstUri timeout pushMode creds = .ok (request, creds')) :
    RightTpcRequest settings creds srcUri dstUri timeout pushMode request ↔
      RightTpcWhen settings creds srcUri dstUri timeout pushMode := by
  obtain ⟨custom, source, destination, hcustom, hselects, rfl⟩ := getTpcParams_ok hrun
  have hheld := heldBy_tokenHeaders (plainHeaders settings custom) srcUri dstUri pushMode source destination
  have hheaders := headersRight_iff ⟨(loadedPair settings creds.mapping dstUri).or (loadedPair settings creds.mapping srcUri), _⟩ hheld
    fun hpos => delegationRequired_of_reva hpos
  constructor
  · rintro ⟨hpair, source', destination', hselects', hright⟩
    obtain ⟨rfl, rfl⟩ := hselects.unique hselects'
    rw [setCredentialHeader_clientCert] at hpair
    exact ⟨cert_iff.mp hpair, custom, source, destination, hcustom, hselects, hheaders.mp hright⟩
  · rintro ⟨hagree, custom', source', destination', hcustom', hselects', hright⟩
    obtain ⟨rfl, rfl⟩ := hselects.unique hselects'
    obtain rfl := Except.ok.inj (hcustom.symm.trans hcustom')
    refine ⟨?_, source, destination, hselects, hheaders.mpr hright⟩
    rw [setCredentialHeader_clientCert]
    exact cert_iff.mpr hagree

/-! ### Two storage elements -/

section Servers

private def serverUri (server : Char) : TpcUri where
  string := lit "https://" ++ [server] ++ lit "/f"
  host := [server]
  host_part := ⟨lit "https://", lit "/f", by rfl⟩
  protocol := lit "https"
  valid := true
  queryParamExists := fun _ => false

/-- A plugin without configuration, for which every certificate can be loaded and no token is issued. -/
private def plainSettings : HttpSettings where
  loads := fun _ => true
  issuedToken := fun _ _ _ _ => none

/-- A credential for each of the two servers. -/
private def bothCreds (type : CString) (source destination : CString) : HttpCreds where
  mapping := storeNode (storeNode [] (credNode (lit "https://a") ⟨type, some source⟩)) (credNode (lit "https://b") ⟨type, some destination⟩)

theorem tpc_credentials_right_with_tokens : ∃ request creds',
    getTpcParams plainSettings (serverUri 'a') (serverUri 'b') 3600 true (bothCreds bearer (lit "read") (lit "write")) =
        .ok (request, creds') ∧
      request.headers ≠ [] ∧
      RightTpcRequest plainSettings (bothCreds bearer (lit "read") (lit "write")) (serverUri 'a') (serverUri 'b') 3600 true request := by
  have hrun : getTpcParams plainSettings (serverUri 'a') (serverUri 'b') 3600 true (bothCreds bearer (lit "read") (lit "write")) =
      .ok (⟨none, [(authorizationHeader, lit "Bearer read"), (transferHeader, lit "Bearer write"), (credentialHeader, lit "none")]⟩,
        bothCreds bearer (lit "read") (lit "write")) := by
    rfl
  refine ⟨_, _, hrun, by simp, (tpc_credentials_right_iff hrun).mpr ⟨?_, [], some (lit "read"), some (lit "write"), by rfl, ?_, ?_⟩⟩
  · exact ⟨fun h => absurd (by rfl) h, fun _ h => absurd (by rfl) h⟩
  · exact ⟨_, _, by rfl, by rfl⟩
  · constructor <;> simp

/-- In push mode the certificate of the destination is presented to the source. -/
theorem destination_certificate_presented :
    ¬∀ (settings : HttpSettings) (creds : HttpCreds) (srcUri dstUri : TpcUri) (timeout : Nat) (pushMode : Bool) (request : RequestParams)
      (creds' : HttpCreds), getTpcParams settings srcUri dstUri timeout pushMode creds = .ok (request, creds') →
        RightTpcRequest settings creds srcUri dstUri timeout pushMode request := by
  intro hall
  have hright := hall plainSettings (bothCreds (lit "X509_CERT") (lit "/a.pem") (lit "/b.pem")) (serverUri 'a') (serverUri 'b') 3600 true
    ⟨some (lit "/b.pem", lit "/b.pem"), [(credentialHeader, lit "gridsite")]⟩ _ (by rfl)
  exact absurd hright.cert (by decide +kernel)

end Servers

end Gfal2
