import Gfal2.HttpTokenRetrieval
import Gfal2.HttpTpcCredentials

/-! The retrieval of tokens comes back without a fault just where no answer is read to its end with a status other than 200, and a
token is the string that the server sent just where the member that it is read from is a string. -/

namespace Gfal2

open Base

/-! ### What a token should be -/

/-- The key that a token is expected under by the kind of request that asks for it. -/
def expectedKey (headers : List (CString × CString)) : CString :=
  if macaroonContentType ∈ headers then lit "macaroon" else lit "access_token"

def bodyMember (jsonC : JsonC) (body key : CString) : Option Json := (jsonC.tokenerParse (body.takeWhile (· ≠ nul))).member key

/-- The member that the body of an answer has under a key. -/
def TokenAnswer.member (jsonC : JsonC) (key : CString) : TokenAnswer → Option Json
  | .answered _ _ (.ok body) => bodyMember jsonC body key
  | _ => none

/-- A token is a string that the last of the answers has under the expected key, and the status of that answer is 200. -/
def GenuineToken (jsonC : JsonC) (exchanges : List TokenExchange) (token : CString) : Prop :=
  token ≠ [] ∧ ∃ before exchange url headers content, exchanges = before ++ [exchange] ∧
    exchange.request = .post url headers content ∧ exchange.answer.status = some 200 ∧
      exchange.answer.member jsonC (expectedKey headers) = some (.string token)

section Order

variable (davix : TokenDavix) (jsonC : JsonC) (server : TokenServer) (uri : SeUri) (writeAccess : Bool) (validity : Nat)
  (activities : List CString)

/-- The retrievers of a chain are tried in their order, up to the first that succeeds. -/
inductive TriesRetrievers : List TokenRetriever → List TokenExchange → Option HttpToken → List TokenExchange → Prop where
  | exhausted (exchanges : List TokenExchange) : TriesRetrievers [] exchanges none exchanges
  | succeeds {retriever : TokenRetriever} {next : List TokenRetriever} {exchanges exchanges' : List TokenExchange} {token : HttpToken} :
      (retriever.retrieveToken davix jsonC server uri writeAccess validity activities).run exchanges = .ok (.ok token, exchanges') →
        TriesRetrievers (retriever :: next) exchanges (some token) exchanges'
  | fails {retriever : TokenRetriever} {next : List TokenRetriever} {exchanges exchanges' exchanges'' : List TokenExchange}
      {e : GError} {found : Option HttpToken} :
      (retriever.retrieveToken davix jsonC server uri writeAccess validity activities).run exchanges = .ok (.error e, exchanges') →
        TriesRetrievers next exchanges' found exchanges'' → TriesRetrievers (retriever :: next) exchanges found exchanges''

end Order

/-- `gfal_http_token_retrieve` comes back with the token of the first retriever that succeeds if it fits in the buffer, and
with an error otherwise. -/
def RetrievesToken (davix : TokenDavix) (jsonC : JsonC) (server : TokenServer) (url : CString) (issuer : Option CString)
    (writeAccess : Bool) (validity : Nat) (activities : List CString) (buff : Buffer) : Prop :=
  ∃ returned exchanges found,
    gfalHttpTokenRetrieve davix jsonC server url issuer writeAccess validity activities buff [] = .ok (returned, exchanges) ∧
      TriesRetrievers davix jsonC server (davix.uri url) writeAccess validity activities (issuerChain issuer) [] found exchanges ∧
      (∀ token, found = some token → GenuineToken jsonC exchanges token.token ∧
        (token.token.length < buff.length →
          returned = ⟨token.token.length + 1, token.token ++ nul :: buff.drop (token.token.length + 1), none⟩)) ∧
      ((∀ token, found = some token → buff.length ≤ token.token.length) →
        returned.ret = -1 ∧ returned.err.isSome = true ∧ returned.buff = buff)

/-- `retrieve_and_store_se_token` comes back with the token of the first retriever that succeeds and stores it, where
it asks for one at all. -/
def StoresToken (davix : TokenDavix) (jsonC : JsonC) (server : TokenServer) (settings : HttpSettings) (uri : SeUri)
    (operation : HttpOp) (validity : Nat) (creds : HttpCreds) : Prop :=
  ∃ answer exchanges found,
    TokenSession.retrieveAndStoreSeToken davix jsonC server settings uri operation validity ⟨creds, []⟩ = .ok (answer,
      ⟨found.elim creds fun token => creds.storeToken uri (writeFlagFromOperation operation) token.token, exchanges⟩) ∧
      answer = found.map (·.token) ∧ (∀ token, found = some token → GenuineToken jsonC exchanges token.token) ∧
      if asksForToken settings uri operation = true then
        TriesRetrievers davix jsonC server uri (writeFlagFromOperation operation) validity [] (storageChain uri) [] found exchanges
      else found = none ∧ exchanges = []

/-! ### Answers -/

theorem eq_ok_of_toOption {E α : Type} {result : Except E α} {value : α} (h : result.toOption = some value) : result = .ok value := by
  cases result with
  | error e => cases h
  | ok other => exact congrArg Except.ok (Option.some.inj h)

namespace TokenRetriever

variable {text : CString}

theorem extractKey_eq_ok_iff {jsonC : JsonC} {document : Json} {key : CString} : extractKey jsonC document key = .ok text ↔
      text ≠ [] ∧ ∃ item, document.member key = some item ∧ jsonObjectGetString jsonC item = some text := by
  unfold extractKey
  cases document.member key with
  | none => exact iff_of_false nofun (by simp)
  | some item =>
      simp only [Option.some.injEq, exists_eq_left']
      cases jsonObjectGetString jsonC item with
      | none => exact iff_of_false nofun (by simp)
      | some value =>
          dsimp only
          by_cases hvalue : value = []
          · rw [if_pos hvalue]
            refine iff_of_false nofun ?_
            rintro ⟨hne, heq⟩
            exact hne ((Option.some.inj heq).symm.trans hvalue)
          · rw [if_neg hvalue]
            constructor
            · intro h
              cases h
              exact ⟨hvalue, rfl⟩
            · rintro ⟨-, heq⟩
              exact congrArg Except.ok (Option.some.inj heq)

/-- What is read under a key is the text of a member, and is not empty. -/
theorem parseJsonResponse_eq_ok_iff {jsonC : JsonC} {response key : CString} : parseJsonResponse jsonC response key = .ok text ↔
      response ≠ [] ∧ text ≠ [] ∧ ∃ item, bodyMember jsonC response key = some item ∧ jsonObjectGetString jsonC item = some text := by
  unfold parseJsonResponse bodyMember
  by_cases hresponse : response = []
  · rw [if_pos hresponse]
    exact iff_of_false nofun fun h => h.1 hresponse
  · rw [if_neg hresponse, and_iff_right hresponse, ← extractKey_eq_ok_iff]
    cases jsonC.tokenerParse (response.takeWhile (· ≠ nul)) with
    | null => exact iff_of_false nofun nofun
    | _ => rfl

def answerText (retriever : TokenRetriever) : TokenAnswer → Option CString
  | .answered _ size (.ok body) =>
      match retriever.kind with
      | .sciTokens => some (body.takeWhile (· ≠ nul))
      | .macaroon => if size < responseMaxSize ∧ body.length < responseMaxSize then some body else none
  | _ => none

/-- An answer that is read to its end has the status 200. -/
def Accepts (retriever : TokenRetriever) (answer : TokenAnswer) : Prop :=
  (retriever.answerText answer).isSome = true → answer.status = some 200

section Requests

variable (jsonC : JsonC) (server : TokenServer) (retriever : TokenRetriever)

/-- What is read from an answer under a key. -/
def answeredMember (answer : TokenAnswer) (key : CString) : Option CString :=
  (retriever.answerText answer).bind fun response => (parseJsonResponse jsonC response key).toOption

section Reading

variable {retriever}

/-- An answer is read to its end and has the status 200, or is an exception, or stops the program. -/
theorem readTokenResponse_cases (description : CString) (answer : TokenAnswer) (exchanges : List TokenExchange)
    (hkind : retriever.kind = .sciTokens) :
    (retriever.Accepts answer ∧ ∃ outcome, (readTokenResponse description answer).run exchanges = .ok (outcome, exchanges) ∧
        outcome.toOption = retriever.answerText answer) ∨
      ¬retriever.Accepts answer ∧ (readTokenResponse description answer).run exchanges = .error .nullDereference := by
  unfold Accepts answerText
  rw [hkind]
  match answer with
  | .failed daverr => exact .inl ⟨nofun, .error _, rfl, rfl⟩
  | .answered code size (.error daverr) => exact .inl ⟨nofun, .error _, rfl, rfl⟩
  | .answered code size (.ok body) =>
      rw [readTokenResponse]
      by_cases hcode : code = 200
      · refine .inl ⟨fun _ => congrArg some hcode, .ok _, ?_, rfl⟩
        rw [if_neg (not_not.mpr hcode)]
        rfl
      · refine .inr ⟨fun haccepts => hcode (Option.some.inj (haccepts rfl)), ?_⟩
        rw [if_pos hcode]
        rfl

theorem readMacaroonResponse_cases (description : CString) (answer : TokenAnswer) (exchanges : List TokenExchange)
    (hkind : retriever.kind = .macaroon) :
    (retriever.Accepts answer ∧ ∃ outcome, (readMacaroonResponse description answer).run exchanges = .ok (outcome, exchanges) ∧
        outcome.toOption = retriever.answerText answer) ∨
      ¬retriever.Accepts answer ∧ (readMacaroonResponse description answer).run exchanges = .error .nullDereference := by
  unfold Accepts answerText
  rw [hkind]
  match answer with
  | .failed daverr => exact .inl ⟨nofun, .error _, rfl, rfl⟩
  | .answered code size (.error daverr) =>
      rw [readMacaroonResponse]
      by_cases hsize : size ≥ responseMaxSize
      · rw [if_pos hsize]
        exact .inl ⟨nofun, .error _, rfl, rfl⟩
      · rw [if_neg hsize]
        exact .inl ⟨nofun, .error _, rfl, rfl⟩
  | .answered code size (.ok body) =>
      dsimp only
      rw [readMacaroonResponse]
      by_cases hsize : size ≥ responseMaxSize
      · rw [if_pos hsize, if_neg fun hfits => absurd hsize (not_le.mpr hfits.1)]
        exact .inl ⟨nofun, .error _, rfl, rfl⟩
      · rw [if_neg hsize]
        by_cases hbody : body.length < responseMaxSize
        · have hfits : size < responseMaxSize ∧ body.length < responseMaxSize := ⟨not_le.mp hsize, hbody⟩
          dsimp only
          rw [if_pos hfits, List.take_of_length_le hbody.le, if_neg (not_le.mpr hbody)]
          by_cases hcode : code = 200
          · refine .inl ⟨fun _ => congrArg some hcode, .ok _, ?_, rfl⟩
            rw [if_neg (not_not.mpr hcode)]
            rfl
          · refine .inr ⟨fun haccepts => hcode (Option.some.inj (haccepts rfl)), ?_⟩
            rw [if_pos hcode]
            rfl
        · have hsegment : (body.take responseMaxSize).length ≥ responseMaxSize := by
            rw [List.length_take]
            omega
          dsimp only
          rw [if_neg fun hfits => hbody hfits.2, if_pos hsegment]
          exact .inl ⟨nofun, .error _, rfl, rfl⟩

end Reading

/-- An exchange is added, unless its answer stops the program. -/
theorem performRequest_cases (description : CString) (isOauth : Bool) (request : TokenRequest) (exchanges : List TokenExchange) :
    (retriever.Accepts (server exchanges request) ∧
        ∃ outcome, (retriever.performRequest server description isOauth request).run exchanges =
            .ok (outcome, exchanges ++ [⟨request, server exchanges request⟩]) ∧
          outcome.toOption = retriever.answerText (server exchanges request)) ∨
      ¬retriever.Accepts (server exchanges request) ∧
        (retriever.performRequest server description isOauth request).run exchanges = .error .nullDereference := by
  have hrun : (retriever.performRequest server description isOauth request).run exchanges =
      (retriever.readAnswer description isOauth (server exchanges request)).run
        (exchanges ++ [⟨request, server exchanges request⟩]) :=
    Throwing.run_bind_of_ok (Throwing.run_lift_of_ok rfl)
  rw [hrun]
  unfold readAnswer
  cases hkind : retriever.kind with
  | sciTokens => exact readTokenResponse_cases _ _ _ hkind
  | macaroon => exact readMacaroonResponse_cases _ _ _ hkind

/-- A request and the member that is read from its answer. -/
theorem requestMember_cases (description : CString) (isOauth : Bool) (request : TokenRequest) (key : CString)
    (exchanges : List TokenExchange) :
    (retriever.Accepts (server exchanges request) ∧
        ∃ outcome, (do
            let response ← retriever.performRequest server description isOauth request
            parseJsonResponse jsonC response key : Retrieval CString).run exchanges =
              .ok (outcome, exchanges ++ [⟨request, server exchanges request⟩]) ∧
          outcome.toOption = retriever.answeredMember jsonC (server exchanges request) key) ∨
      ¬retriever.Accepts (server exchanges request) ∧ (do
          let response ← retriever.performRequest server description isOauth request
          parseJsonResponse jsonC response key : Retrieval CString).run exchanges = .error .nullDereference := by
  unfold answeredMember
  rcases performRequest_cases server retriever description isOauth request exchanges with
    ⟨haccepts, outcome, hrun, houtcome⟩ | ⟨hstops, hrun⟩
  · refine .inl ⟨haccepts, ?_⟩
    rw [← houtcome]
    cases outcome with
    | error e => exact ⟨.error e, Throwing.run_bind_of_throw hrun, rfl⟩
    | ok response => exact ⟨parseJsonResponse jsonC response key, Throwing.run_bind_of_ok hrun, rfl⟩
  · refine .inr ⟨hstops, ?_⟩
    rw [ExceptT.run_bind, Exec.bind_of_error hrun]

end Requests

/-! ### One retriever -/

section Retriever

variable (davix : TokenDavix) (jsonC : JsonC) (server : TokenServer) (retriever : TokenRetriever)

/-- An answer to the question for the endpoint of an issuer does not stop the program. -/
def DiscoverySafe (exchanges : List TokenExchange) : Prop :=
  retriever.issuer ≠ [] → ∀ url, formatProtocol davix (davix.uri retriever.issuer) = .ok url →
    retriever.Accepts (server exchanges (.get (metadataEndpoint url)))

/-- The endpoint of the issuer, empty where none is found, with the exchanges after the question for it. -/
def discovered (exchanges : List TokenExchange) : CString × List TokenExchange :=
  if retriever.issuer = [] then ([], exchanges)
  else
    match formatProtocol davix (davix.uri retriever.issuer) with
    | .error _ => ([], exchanges)
    | .ok url =>
        let request := .get (metadataEndpoint url)
        let answer := server exchanges request
        ((retriever.answeredMember jsonC answer (lit "token_endpoint")).getD [], exchanges ++ [⟨request, answer⟩])

variable (uri : SeUri) (writeAccess : Bool) (validity : Nat) (activities : List CString)

/-- The last exchange of an attempt, if there is a URL and an endpoint to post to. -/
def lastExchange (exchanges : List TokenExchange) : Option TokenExchange :=
  match formatProtocol davix uri with
  | .error _ => none
  | .ok url =>
      let found := retriever.discovered davix jsonC server exchanges
      (retriever.postRequest davix url found.1 writeAccess validity activities).map fun request => ⟨request, server found.2 request⟩

def exchangesAfter (exchanges : List TokenExchange) : List TokenExchange :=
  match formatProtocol davix uri with
  | .error _ => exchanges
  | .ok _ =>
      (retriever.discovered davix jsonC server exchanges).2 ++
        (retriever.lastExchange davix jsonC server uri writeAccess validity activities exchanges).toList

/-- The text that an attempt reads as a token. -/
def attempt (exchanges : List TokenExchange) : Option CString :=
  (retriever.lastExchange davix jsonC server uri writeAccess validity activities exchanges).bind fun exchange =>
    retriever.answeredMember jsonC exchange.answer (retriever.tokenKey (retriever.discovered davix jsonC server exchanges).1)

/-- Where something is read as a token at all, it is read from a string. -/
def ReadsString (exchanges : List TokenExchange) : Prop :=
  ∀ exchange, retriever.lastExchange davix jsonC server uri writeAccess validity activities exchanges = some exchange →
    ∀ key, key = retriever.tokenKey (retriever.discovered davix jsonC server exchanges).1 →
      (retriever.answeredMember jsonC exchange.answer key).isSome = true →
        ∃ text, exchange.answer.member jsonC key = some (.string text) ∧ nul ∉ text

/-- No answer to an attempt stops the program. -/
def AttemptSafe (exchanges : List TokenExchange) : Prop :=
  ∀ url, formatProtocol davix uri = .ok url → retriever.DiscoverySafe davix server exchanges ∧
    ∀ exchange, retriever.lastExchange davix jsonC server uri writeAccess validity activities exchanges = some exchange →
      retriever.Accepts exchange.answer

variable {davix jsonC server retriever uri writeAccess validity activities}

/-- Discovery never finds an empty endpoint, so that there is no second place to look for one. -/
theorem getTokenEndpoint_cases {url : SeUri} (hurl : formatProtocol davix (davix.uri retriever.issuer) = .ok url)
    {request : TokenRequest} (hrequest : request = .get (metadataEndpoint url)) (exchanges : List TokenExchange) :
    (retriever.Accepts (server exchanges request) ∧
        ∃ outcome, (retriever.getTokenEndpoint davix jsonC server).run exchanges =
            .ok (outcome, exchanges ++ [⟨request, server exchanges request⟩]) ∧
          outcome.toOption = retriever.answeredMember jsonC (server exchanges request) (lit "token_endpoint")) ∨
      ¬retriever.Accepts (server exchanges request) ∧
        (retriever.getTokenEndpoint davix jsonC server).run exchanges = .error .nullDereference := by
  have hstart : (retriever.getTokenEndpoint davix jsonC server).run exchanges = (do
      let endpoint ← retriever.endpointDiscovery jsonC server (metadataEndpoint url)
      if endpoint ≠ [] ∨ ¬retriever.discoveryFallback then return endpoint
      else retriever.endpointDiscovery jsonC server retriever.openidConfiguration : Retrieval CString).run exchanges := by
    unfold getTokenEndpoint
    rw [hurl]
    exact Throwing.run_bind_of_ok rfl
  rw [hstart]
  subst hrequest
  rcases requestMember_cases jsonC server retriever (lit "Token endpoint discovery") false (.get (metadataEndpoint url))
    (lit "token_endpoint") exchanges with ⟨haccepts, outcome, hrun, houtcome⟩ | ⟨hstops, hrun⟩
  · refine .inl ⟨haccepts, outcome, ?_, houtcome⟩
    cases outcome with
    | error e => exact Throwing.run_bind_of_throw hrun
    | ok endpoint =>
        have hne : endpoint ≠ [] := by
          obtain ⟨response, -, hresponse⟩ := Option.bind_eq_some_iff.mp houtcome.symm
          exact (parseJsonResponse_eq_ok_iff.mp (eq_ok_of_toOption hresponse)).2.1
        refine (Throwing.run_bind_of_ok hrun).trans ?_
        rw [if_pos (.inl hne)]
        rfl
  · refine .inr ⟨hstops, ?_⟩
    rw [ExceptT.run_bind]
    exact Exec.bind_of_error hrun

theorem discoverEndpoint_cases (exchanges : List TokenExchange) : (retriever.DiscoverySafe davix server exchanges ∧
        (retriever.discoverEndpoint davix jsonC server).run exchanges =
          .ok (.ok (retriever.discovered davix jsonC server exchanges).1, (retriever.discovered davix jsonC server exchanges).2)) ∨
      ¬retriever.DiscoverySafe davix server exchanges ∧
        (retriever.discoverEndpoint davix jsonC server).run exchanges = .error .nullDereference := by
  unfold DiscoverySafe discovered discoverEndpoint
  by_cases hissuer : retriever.issuer = []
  · rw [if_neg (not_not.mpr hissuer), if_pos hissuer]
    exact .inl ⟨fun h => absurd hissuer h, rfl⟩
  · rw [if_pos hissuer, if_neg hissuer]
    cases hformat : formatProtocol davix (davix.uri retriever.issuer) with
    | error e =>
        have hthrown : (retriever.getTokenEndpoint davix jsonC server).run exchanges = .ok (.error e, exchanges) := by
          unfold getTokenEndpoint
          rw [hformat]
          rfl
        exact .inl ⟨nofun, Throwing.run_catch_of_throw hthrown⟩
    | ok url =>
        rcases getTokenEndpoint_cases hformat rfl exchanges with ⟨haccepts, outcome, hrun, houtcome⟩ | ⟨hstops, hrun⟩
        · refine .inl ⟨fun _ other hother => ?_, ?_⟩
          · cases hother
            exact haccepts
          · dsimp only
            rw [← houtcome]
            cases outcome with
            | error e => exact Throwing.run_catch_of_throw hrun
            | ok endpoint => exact Throwing.run_catch_of_ok hrun
        · refine .inr ⟨fun h => hstops (h hissuer url rfl), ?_⟩
          rw [Throwing.run_tryCatch, Exec.bind_of_error hrun]

/-- An attempt ends with the text that is read as a token, or with an exception, unless an answer stops the program. -/
theorem retrieveToken_cases (exchanges : List TokenExchange) :
    (retriever.AttemptSafe davix jsonC server uri writeAccess validity activities exchanges ∧
        ∃ outcome, (retriever.retrieveToken davix jsonC server uri writeAccess validity activities).run exchanges =
            .ok (outcome, retriever.exchangesAfter davix jsonC server uri writeAccess validity activities exchanges) ∧
          outcome.toOption = (retriever.attempt davix jsonC server uri writeAccess validity activities exchanges).map
            fun text => ⟨text, validity, writeAccess⟩) ∨
      ¬retriever.AttemptSafe davix jsonC server uri writeAccess validity activities exchanges ∧
        (retriever.retrieveToken davix jsonC server uri writeAccess validity activities).run exchanges =
          .error .nullDereference := by
  unfold AttemptSafe attempt exchangesAfter lastExchange retrieveToken
  cases hurl : formatProtocol davix uri with
  | error e => exact .inl ⟨nofun, .error e, rfl, rfl⟩
  | ok url =>
      have hstart : ∀ next : SeUri → Retrieval HttpToken,
          ((liftM (.ok url : Except GError SeUri) : Retrieval SeUri) >>= next).run exchanges = (next url).run exchanges :=
        fun next => Throwing.run_bind_of_ok rfl
      rw [hstart]
      rcases discoverEndpoint_cases exchanges with ⟨hdiscovery, hrun⟩ | ⟨hstops, hrun⟩
      · rw [Throwing.run_bind_of_ok hrun]
        obtain ⟨endpoint, exchanges', hfound⟩ : ∃ endpoint exchanges', retriever.discovered davix jsonC server exchanges =
          (endpoint, exchanges') := ⟨_, _, rfl⟩
        rw [hfound]
        dsimp only
        cases hpost : retriever.postRequest davix url endpoint writeAccess validity activities with
        | none =>
            rw [Option.map_none, Option.toList_none, List.append_nil]
            exact .inl ⟨fun other _ => ⟨hdiscovery, nofun⟩, .error _, rfl, rfl⟩
        | some request =>
            have hlast : (do
                let response ← retriever.performRequest server [] (retriever.isOauth endpoint) request
                let stoken ← (parseJsonResponse jsonC response (retriever.tokenKey endpoint) : Retrieval CString)
                return (⟨stoken, validity, writeAccess⟩ : HttpToken) : Retrieval HttpToken) = (do
                  let response ← retriever.performRequest server [] (retriever.isOauth endpoint) request
                  parseJsonResponse jsonC response (retriever.tokenKey endpoint) : Retrieval CString) >>= fun stoken =>
                    pure ⟨stoken, validity, writeAccess⟩ := (bind_assoc _ _ _).symm
            dsimp only
            rw [hlast, Option.map_some, Option.toList_some, Option.bind_some]
            rcases requestMember_cases jsonC server retriever [] (retriever.isOauth endpoint) request
              (retriever.tokenKey endpoint) exchanges' with ⟨haccepts, outcome, hrequest, houtcome⟩ | ⟨hstops, hrequest⟩
            · rw [← houtcome]
              refine .inl ⟨fun other _ => ⟨hdiscovery, fun exchange hexchange => ?_⟩, ?_⟩
              · rw [← Option.some.inj hexchange]
                exact haccepts
              · cases outcome with
                | error e => exact ⟨.error e, Throwing.run_bind_of_throw hrequest, rfl⟩
                | ok text => exact ⟨.ok ⟨text, validity, writeAccess⟩, Throwing.run_bind_of_ok hrequest, rfl⟩
            · refine .inr ⟨fun h => hstops ((h url rfl).2 _ rfl), ?_⟩
              rw [ExceptT.run_bind, Exec.bind_of_error hrequest]
      · refine .inr ⟨fun h => hstops (h url rfl).1, ?_⟩
        rw [ExceptT.run_bind, Exec.bind_of_error hrun]

theorem answeredMember_eq_some {answer : TokenAnswer} {key : CString}
    (h : retriever.answeredMember jsonC answer key = some text) :
    text ≠ [] ∧ (retriever.answerText answer).isSome = true ∧
      ∃ item, answer.member jsonC key = some item ∧ jsonObjectGetString jsonC item = some text := by
  obtain ⟨response, hresponse, hparse⟩ := Option.bind_eq_some_iff.mp h
  obtain ⟨-, htext, item, hitem, hstring⟩ := parseJsonResponse_eq_ok_iff.mp (eq_ok_of_toOption hparse)
  refine ⟨htext, by rw [hresponse]; rfl, item, ?_, hstring⟩
  rw [← hitem]
  unfold answerText at hresponse
  match answer with
  | .failed daverr => cases hresponse
  | .answered code size (.error daverr) => cases hresponse
  | .answered code size (.ok body) =>
      change bodyMember jsonC body key = _
      dsimp only at hresponse
      split at hresponse
      · cases hresponse
        unfold bodyMember
        rw [List.takeWhile_takeWhile]
        simp
      · split at hresponse
        · cases hresponse
          rfl
        · cases hresponse

/-- The key of a request is the one that a token is expected under. -/
theorem postRequest_eq_some {url : SeUri} {endpoint : CString} {request : TokenRequest}
    (h : retriever.postRequest davix url endpoint writeAccess validity activities = some request) :
    ∃ target headers content, request = .post target headers content ∧ expectedKey headers = retriever.tokenKey endpoint := by
  obtain ⟨target, -, rfl⟩ := Option.map_eq_some_iff.mp h
  have hform : expectedKey [acceptJson, formContentType] = lit "access_token" := by decide
  have hoauth : expectedKey [formContentType, acceptJson] = lit "access_token" := by decide
  have hmacaroon : expectedKey [macaroonContentType] = lit "macaroon" := by decide
  refine ⟨target, _, _, rfl, ?_⟩
  unfold prepareRequest tokenKey
  cases retriever.kind with
  | sciTokens => exact hform
  | macaroon =>
      dsimp only
      split
      · exact hoauth
      · exact hmacaroon

theorem lastExchange_eq_some {exchanges : List TokenExchange} {exchange : TokenExchange}
    (h : retriever.lastExchange davix jsonC server uri writeAccess validity activities exchanges = some exchange) :
    ∃ url target headers content, formatProtocol davix uri = .ok url ∧ exchange.request = .post target headers content ∧
      expectedKey headers = retriever.tokenKey (retriever.discovered davix jsonC server exchanges).1 ∧
        retriever.exchangesAfter davix jsonC server uri writeAccess validity activities exchanges =
          (retriever.discovered davix jsonC server exchanges).2 ++ [exchange] := by
  unfold exchangesAfter
  rw [h]
  unfold lastExchange at h
  cases hurl : formatProtocol davix uri with
  | error e =>
      rw [hurl] at h
      cases h
  | ok url =>
      rw [hurl] at h
      obtain ⟨request, hpost, rfl⟩ := Option.map_eq_some_iff.mp h
      obtain ⟨target, headers, content, hrequest, hkey⟩ := postRequest_eq_some hpost
      exact ⟨url, target, headers, content, rfl, hrequest, hkey, rfl⟩

/-- The text of a string is the string if it has no NUL. -/
theorem text_eq_string_iff {value : CString} (h : jsonObjectGetString jsonC (.string value) = some text) :
    value = text ↔ nul ∉ value := by
  have htext : value.takeWhile (· ≠ nul) = text := Option.some.inj h
  rw [← htext, eq_comm, List.takeWhile_eq_self_iff]
  simp only [ne_eq, decide_eq_true_eq]
  constructor
  · exact fun hall hmem => hall nul hmem rfl
  · rintro hnul c hc rfl
    exact hnul hc

/-- The text that an attempt reads is the string of the server just where it is read from a string. -/
theorem genuineToken_attempt_iff {exchanges : List TokenExchange}
    (hsafe : retriever.AttemptSafe davix jsonC server uri writeAccess validity activities exchanges)
    (h : retriever.attempt davix jsonC server uri writeAccess validity activities exchanges = some text) :
    GenuineToken jsonC (retriever.exchangesAfter davix jsonC server uri writeAccess validity activities exchanges) text ↔
      retriever.ReadsString davix jsonC server uri writeAccess validity activities exchanges := by
  obtain ⟨exchange, hexchange, hread⟩ := Option.bind_eq_some_iff.mp h
  obtain ⟨htext, hsome, item, hitem, hstring⟩ := answeredMember_eq_some hread
  obtain ⟨url, target, headers, content, hurl, hrequest, hkey, hafter⟩ := lastExchange_eq_some hexchange
  have hstatus := (hsafe url hurl).2 exchange hexchange hsome
  unfold GenuineToken ReadsString
  rw [hafter, hexchange]
  constructor
  · rintro ⟨-, before, other, url', headers', content', hlast, hother, -, hstored⟩ other' hother' key hkey' -
    obtain ⟨-, hsame⟩ := List.append_inj' hlast rfl
    cases hsame
    cases hother'
    rw [hrequest] at hother
    cases hother
    rw [hkey, hitem] at hstored
    cases hstored
    rw [hkey']
    exact ⟨text, hitem, (text_eq_string_iff hstring).mp rfl⟩
  · intro hreads
    obtain ⟨value, hvalue, hnul⟩ := hreads exchange rfl _ rfl (by rw [hread]; rfl)
    refine ⟨htext, _, exchange, target, headers, content, rfl, hrequest, hstatus, ?_⟩
    rw [hitem] at hvalue
    cases hvalue
    rw [hkey, hitem, (text_eq_string_iff hstring).mpr hnul]

end Retriever

end TokenRetriever

/-! ### Chains -/

section Chains

variable (davix : TokenDavix) (jsonC : JsonC) (server : TokenServer) (uri : SeUri) (writeAccess : Bool) (validity : Nat)
  (activities : List CString)

/-- No answer to the retrievers that are tried stops the program, and the one that succeeds reads a string. -/
def ChainSafe : List TokenRetriever → List TokenExchange → Prop
  | [], _ => True
  | retriever :: next, exchanges =>
      retriever.AttemptSafe davix jsonC server uri writeAccess validity activities exchanges ∧
        retriever.ReadsString davix jsonC server uri writeAccess validity activities exchanges ∧
          (retriever.attempt davix jsonC server uri writeAccess validity activities exchanges = none →
            ChainSafe next (retriever.exchangesAfter davix jsonC server uri writeAccess validity activities exchanges))

variable {davix jsonC server uri writeAccess validity activities} {chain : List TokenRetriever}

theorem TriesRetrievers.run {exchanges exchanges' : List TokenExchange} {found : Option HttpToken}
    (h : TriesRetrievers davix jsonC server uri writeAccess validity activities chain exchanges found exchanges') (emsg : CString) :
    ∃ lastEmsg, tryRetrievers davix jsonC server uri writeAccess validity activities chain emsg exchanges =
      .ok ((found, lastEmsg), exchanges') := by
  induction h generalizing emsg with
  | exhausted _ => exact ⟨emsg, rfl⟩
  | succeeds hrun => exact ⟨emsg, Exec.bind_of_ok hrun⟩
  | fails hrun _ ih =>
      obtain ⟨lastEmsg, hnext⟩ := ih _
      exact ⟨lastEmsg, (Exec.bind_of_ok hrun).trans hnext⟩

/-- The credentials are not looked at in between. -/
theorem TriesRetrievers.onExchanges {exchanges : List TokenExchange} {found : Option HttpToken}
    (h : TriesRetrievers davix jsonC server uri writeAccess validity activities chain [] found exchanges) (creds : HttpCreds) :
    ∃ lastEmsg, Gfal2.onExchanges (tryRetrievers davix jsonC server uri writeAccess validity activities chain []) ⟨creds, []⟩ =
      .ok ((found, lastEmsg), ⟨creds, exchanges⟩) := by
  obtain ⟨lastEmsg, hrun⟩ := h.run []
  refine ⟨lastEmsg, ?_⟩
  unfold Gfal2.onExchanges
  rw [hrun]
  rfl

section Head

variable {retriever : TokenRetriever} {next : List TokenRetriever} {exchanges exchanges' exchanges'' : List TokenExchange}
  {found : Option HttpToken}

theorem triesRetrievers_iff_of_token {token : HttpToken}
    (h : (retriever.retrieveToken davix jsonC server uri writeAccess validity activities).run exchanges =
      .ok (.ok token, exchanges')) :
    TriesRetrievers davix jsonC server uri writeAccess validity activities (retriever :: next) exchanges found exchanges'' ↔
      found = some token ∧ exchanges'' = exchanges' := by
  constructor
  · intro htries
    cases htries with
    | succeeds hrun =>
        rw [h] at hrun
        cases hrun
        exact ⟨rfl, rfl⟩
    | fails hrun _ =>
        rw [h] at hrun
        cases hrun
  · rintro ⟨rfl, rfl⟩
    exact .succeeds h

theorem triesRetrievers_iff_of_throw {e : GError}
    (h : (retriever.retrieveToken davix jsonC server uri writeAccess validity activities).run exchanges =
      .ok (.error e, exchanges')) :
    TriesRetrievers davix jsonC server uri writeAccess validity activities (retriever :: next) exchanges found exchanges'' ↔
      TriesRetrievers davix jsonC server uri writeAccess validity activities next exchanges' found exchanges'' := by
  constructor
  · intro htries
    cases htries with
    | succeeds hrun =>
        rw [h] at hrun
        cases hrun
    | fails hrun hnext =>
        rw [h] at hrun
        cases hrun
        exact hnext
  · exact .fails h

end Head

/-- A chain comes to its end with a token of the server, or without one, just where it is safe. -/
theorem chainSafe_iff {exchanges : List TokenExchange} :
    (∃ found exchanges', TriesRetrievers davix jsonC server uri writeAccess validity activities chain exchanges found exchanges' ∧
        ∀ token, found = some token → GenuineToken jsonC exchanges' token.token) ↔
      ChainSafe davix jsonC server uri writeAccess validity activities chain exchanges := by
  induction chain generalizing exchanges with
  | nil => exact iff_of_true ⟨none, exchanges, .exhausted _, nofun⟩ trivial
  | cons retriever next ih =>
      unfold ChainSafe
      rcases retriever.retrieveToken_cases exchanges with ⟨hsafe, outcome, hrun, houtcome⟩ | ⟨hstops, hrun⟩
      · rw [and_iff_right hsafe]
        cases hattempt : retriever.attempt davix jsonC server uri writeAccess validity activities exchanges with
        | some text =>
            rw [hattempt] at houtcome
            rw [eq_ok_of_toOption houtcome] at hrun
            simp only [triesRetrievers_iff_of_token hrun]
            rw [← TokenRetriever.genuineToken_attempt_iff hsafe hattempt]
            simp
        | none =>
            have hreads : retriever.ReadsString davix jsonC server uri writeAccess validity activities exchanges := by
              rintro exchange hexchange key rfl hsome
              obtain ⟨text, htext⟩ := Option.isSome_iff_exists.mp hsome
              unfold TokenRetriever.attempt at hattempt
              rw [hexchange, Option.bind_some, htext] at hattempt
              cases hattempt
            rw [and_iff_right hreads, ← ih]
            cases outcome with
            | ok token =>
                rw [hattempt] at houtcome
                cases houtcome
            | error e =>
                simp only [triesRetrievers_iff_of_throw hrun]
                exact ⟨fun h _ => h, fun h => h trivial⟩
      · refine iff_of_false ?_ fun h => hstops h.1
        rintro ⟨found, exchanges', htries, -⟩
        cases htries with
        | succeeds hother =>
            rw [hrun] at hother
            cases hother
        | fails hother _ =>
            rw [hrun] at hother
            cases hother

theorem retrievesToken_iff {url : CString} {issuer : Option CString} {buff : Buffer} :
    RetrievesToken davix jsonC server url issuer writeAccess validity activities buff ↔
      ChainSafe davix jsonC server (davix.uri url) writeAccess validity activities (issuerChain issuer) [] := by
  rw [← chainSafe_iff]
  constructor
  · rintro ⟨returned, exchanges, found, -, htries, hfound, -⟩
    exact ⟨found, exchanges, htries, fun token htoken => (hfound token htoken).1⟩
  · rintro ⟨found, exchanges, htries, hgenuine⟩
    obtain ⟨lastEmsg, hrun⟩ := htries.run []
    unfold RetrievesToken gfalHttpTokenRetrieve
    rw [Exec.bind_of_ok hrun]
    cases found with
    | none => exact ⟨_, exchanges, none, rfl, htries, nofun, fun _ => ⟨rfl, rfl, rfl⟩⟩
    | some token =>
        have htoken := hgenuine token rfl
        dsimp only [Option.map_some, Option.getD_some]
        rw [if_neg htoken.1]
        by_cases hfits : token.token.length < buff.length
        · rw [answerInto_eq hfits]
          refine ⟨_, exchanges, some token, rfl, htries, ?_, fun hall => ?_⟩
          · rintro other hother
            cases hother
            exact ⟨htoken, fun _ => rfl⟩
          · exact absurd hfits (not_lt.mpr (hall token rfl))
        · unfold answerInto
          rw [if_neg hfits]
          refine ⟨_, exchanges, some token, rfl, htries, ?_, fun _ => ⟨rfl, rfl, rfl⟩⟩
          rintro other hother
          cases hother
          exact ⟨htoken, fun h => absurd h hfits⟩

theorem storesToken_iff {settings : HttpSettings} {operation : HttpOp} {creds : HttpCreds} :
    StoresToken davix jsonC server settings uri operation validity creds ↔
      (asksForToken settings uri operation = true →
        ChainSafe davix jsonC server uri (writeFlagFromOperation operation) validity [] (storageChain uri) []) := by
  unfold StoresToken TokenSession.retrieveAndStoreSeToken
  cases hasks : asksForToken settings uri operation with
  | false => exact iff_of_true ⟨none, [], none, rfl, rfl, nofun, rfl, rfl⟩ nofun
  | true =>
      simp only [not_true_eq_false, if_false, if_true, true_imp_iff]
      rw [← chainSafe_iff]
      constructor
      · rintro ⟨answer, exchanges, found, -, -, hgenuine, htries⟩
        exact ⟨found, exchanges, htries, hgenuine⟩
      · rintro ⟨found, exchanges, htries, hgenuine⟩
        obtain ⟨lastEmsg, hsession⟩ := htries.onExchanges creds
        rw [Exec.bind_of_ok hsession]
        cases found with
        | none => exact ⟨none, exchanges, none, rfl, rfl, hgenuine, htries⟩
        | some token => exact ⟨_, exchanges, some token, rfl, rfl, hgenuine, htries⟩

end Chains

/-- Tokens are retrieved, in the order of the chain and each as the string that the server sent, just where no answer is read to its end
with a status other than 200 and the token that is read is a string. -/
theorem token_retrieval_robust_iff (davix : TokenDavix) (jsonC : JsonC) (server : TokenServer) :
    (∀ (url : CString) (issuer : Option CString) (writeAccess : Bool) (validity : Nat) (activities : List CString) (buff : Buffer),
        RetrievesToken davix jsonC server url issuer writeAccess validity activities buff ↔
          ChainSafe davix jsonC server (davix.uri url) writeAccess validity activities (issuerChain issuer) []) ∧
      ∀ (settings : HttpSettings) (uri : SeUri) (operation : HttpOp) (validity : Nat) (creds : HttpCreds),
        StoresToken davix jsonC server settings uri operation validity creds ↔
          (asksForToken settings uri operation = true →
            ChainSafe davix jsonC server uri (writeFlagFromOperation operation) validity [] (storageChain uri) []) :=
  ⟨fun _ _ _ _ _ _ => retrievesToken_iff, fun _ _ _ _ _ => storesToken_iff⟩

/-- A file of a storage element. -/
def seFile : SeUri where
  string := lit "https://h/f"
  host := lit "h"
  host_part := by decide
  protocol := lit "https"
  valid := true
  queryParamExists _ := false
  port := 0
  path := lit "/f"

/-- Every URL is the file. -/
def seDavix : TokenDavix := ⟨fun _ => seFile, fun uri _ => uri, id⟩

/-- Every text is an object with a number for a macaroon. -/
def numberJson : JsonC where
  tokenerParse _ := .object [(lit "macaroon", .number (lit "5"))]
  toJsonString
    | .number text => text
    | _ => []

/-- A server that answers every request with a status and a text. -/
def statusServer (code : Int) : TokenServer := fun _ _ => .answered code 13 (.ok (lit "\x7b\"macaroon\":5\x7d"))

/-- An answer that the file is not found stops the program, and a number is handed out as a token. -/
theorem not_found_dereferenced :
    (gfalHttpTokenRetrieve seDavix numberJson (statusServer 404) (lit "https://h/f") none false 60 [] (List.replicate 8 nul) [] =
        .error .nullDereference ∧
      ¬RetrievesToken seDavix numberJson (statusServer 404) (lit "https://h/f") none false 60 [] (List.replicate 8 nul)) ∧
      ((gfalHttpTokenRetrieve seDavix numberJson (statusServer 200) (lit "https://h/f") none false 60 [] (List.replicate 8 nul) []).map
          (fun ended => (ended.1.ret, ended.1.buff.take 2)) = .ok (2, [('5' : Char), nul]) ∧
        ¬RetrievesToken seDavix numberJson (statusServer 200) (lit "https://h/f") none false 60 [] (List.replicate 8 nul)) := by
  have hfault : gfalHttpTokenRetrieve seDavix numberJson (statusServer 404) (lit "https://h/f") none false 60 []
      (List.replicate 8 nul) [] = .error .nullDereference := rfl
  refine ⟨⟨hfault, ?_⟩, rfl, ?_⟩
  · rintro ⟨returned, exchanges, found, hrun, -⟩
    rw [hfault] at hrun
    cases hrun
  · intro hretrieves
    obtain ⟨-, hreads, -⟩ := retrievesToken_iff.mp hretrieves
    obtain ⟨text, htext, -⟩ := hreads _ rfl _ rfl rfl
    cases htext

end Gfal2
