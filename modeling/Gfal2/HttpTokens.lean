import Gfal2.CredMapping
import Gfal2.Error

/-! The search for a bearer token in the HTTP plugin. The credentials of the context are tried in the order of
their list, the longest prefixes of a URL first, and the map of access rights tells which of the tokens may
write. Without a token that will do the host is looked up, and there the access rights are not asked for. -/

namespace Gfal2

open Base

/-- `GfalHttpPluginData::OP`. -/
inductive HttpOp where
  | read
  | head
  | write
  | mkcol
  | tape
  | readPasv
  | writePasv
  deriving DecidableEq

def writeFlagFromOperation (operation : HttpOp) : Bool :=
  operation = .mkcol || operation = .write || operation = .writePasv

def searchFlagFromOperation (operation : HttpOp) : Bool := operation = .mkcol || operation = .head

/-- The parts of a `Davix::Uri` that the search reads. The host is a part of the text. -/
structure TokenUri where
  string : CString
  host : CString
  host_part : host <:+: string

/-- Whether a token was retrieved for writing, for those that the plugin has retrieved. -/
abbrev TokenAccessMap := CString → Option Bool

abbrev bearer : CString := lit "BEARER"

/-- `find_in_token_map`. A token that is not in the map was set by the user. -/
def findInTokenMap (tokenMap : TokenAccessMap) (token : CString) (writeAccess : Bool) : Bool :=
  match tokenMap token with
  | none => true
  | some access => access || writeAccess == access

/-- `cred_map_callback` for the credentials of a list. A null value is made a string. -/
def bearerCreds : CredMapping → Except Fault (List (CString × CString))
  | [] => .ok []
  | node :: rest =>
      if node.cred.type = bearer then
        match node.cred.value with
        | none => .error .nullString
        | some value => (bearerCreds rest).map fun others => (node.urlPrefix, value) :: others
      else bearerCreds rest

def pathContains (path search : CString) : Except Fault Bool :=
  if search <+: path then
    if path.length = search.length then .ok true
    -- the position before an empty search wraps around, and `at` refuses it
    else if search = [] then .error .outOfRange
    else .ok (path[search.length - 1]? = some '/' || path[search.length]? = some '/')
  else .ok false

variable (tokenMap : TokenAccessMap) (uri : TokenUri) (operation : HttpOp)

/-- Whether the search comes to its end with a credential. -/
def servesToken (cred : CString × CString) : Except Fault Bool := do
  let covers ← pathContains uri.string cred.1
  let contained ← if covers then pure true
    else if searchFlagFromOperation operation then pathContains cred.1 uri.string
    else pure false
  return contained && findInTokenMap tokenMap cred.2 (writeFlagFromOperation operation)

/-- The loop over the bearer credentials. -/
def searchToken : List (CString × CString) → Except Fault (Option CString)
  | [] => .ok none
  | cred :: rest => do
      if ← servesToken tokenMap uri operation cred then return some cred.2
      searchToken rest

def findSeToken (mapping : CredMapping) (option : CString → CString → Option CString) :
    Except Fault (Option CString) := do
  let creds ← bearerCreds mapping
  match ← searchToken tokenMap uri operation creds with
  | some token => return some token
  | none => return (gfal2CredGet mapping option bearer uri.host).value

/-! ### What a search should find -/

/-- A token may be used for an operation. -/
def Sufficient (token : CString) : Prop := ¬(writeFlagFromOperation operation = true ∧ tokenMap token = some false)

/-- A prefix is the URL or an ancestor of it at a slash, or, where the search is extended, lies under it at one. -/
def RelatedPrefix (p : CString) : Prop :=
  Covers p uri.string ∨ (searchFlagFromOperation operation = true ∧ Covers uri.string p)

def StoredToken (mapping : CredMapping) (p token : CString) : Prop :=
  ∃ node ∈ mapping, node.cred.type = bearer ∧ node.urlPrefix = p ∧ node.cred.value = some token

/-- A stored token that is a candidate for an operation on a URL. -/
structure QualifyingToken (mapping : CredMapping) (p token : CString) : Prop where
  stored : StoredToken mapping p token
  related : RelatedPrefix uri operation p
  sufficient : Sufficient tokenMap operation token

/-- The search comes to its end with a token that may be used: one stored under the longest of the related
prefixes, or the one that is looked up for the host where there is no candidate. -/
def SelectsToken (mapping : CredMapping) (option : CString → CString → Option CString) : Prop :=
  ∃ answer, findSeToken tokenMap uri operation mapping option = .ok answer ∧
    (∀ token, answer = some token → Sufficient tokenMap operation token) ∧
    ((∃ p token, answer = some token ∧ QualifyingToken tokenMap uri operation mapping p token ∧
        (searchFlagFromOperation operation = false →
          ∀ q other, QualifyingToken tokenMap uri operation mapping q other → q.length ≤ p.length)) ∨
      ((∀ p token, ¬QualifyingToken tokenMap uri operation mapping p token) ∧
        answer = (gfal2CredGet mapping option bearer uri.host).value))

/-- No credential stops the search, and the access rights of the token for the host allow the operation where it
would be taken. -/
structure SafeSearch (mapping : CredMapping) (option : CString → CString → Option CString) : Prop where
  values : ∀ node ∈ mapping, node.cred.type = bearer → node.cred.value ≠ none
  emptyPrefix : uri.string ≠ [] → (∃ token, StoredToken mapping [] token) →
    ∃ p token, p ≠ [] ∧ QualifyingToken tokenMap uri operation mapping p token
  emptyUrl : uri.string = [] → searchFlagFromOperation operation = true → ∀ p token, StoredToken mapping p token → p = []
  host : writeFlagFromOperation operation = true →
    (∀ p token, ¬QualifyingToken tokenMap uri operation mapping p token) →
    ∀ token, (gfal2CredGet mapping option bearer uri.host).value = some token → tokenMap token ≠ some false

/-! ### The credentials that are tried -/

theorem pathContains_empty {path : CString} (h : path ≠ []) : pathContains path [] = .error .outOfRange := by
  have hlength : path.length ≠ ([] : CString).length := by simpa using h
  unfold pathContains
  rw [if_pos List.nil_prefix, if_neg hlength, if_pos rfl]

theorem pathContains_spec {path search : CString} (h : search = [] → path = []) :
    ∃ found, pathContains path search = .ok found ∧ (found = true ↔ Covers search path) := by
  unfold pathContains Covers
  by_cases hstart : search <+: path
  · rw [if_pos hstart]
    by_cases hlength : path.length = search.length
    · refine ⟨true, if_pos hlength, ?_⟩
      simp [hstart.eq_of_length hlength.symm]
    · have hdiffer : search ≠ path := fun heq => hlength (by rw [heq])
      have hnonempty : search ≠ [] := fun hempty => hdiffer (hempty.trans (h hempty).symm)
      have hlast : path[search.length - 1]? = search.getLast? := by
        obtain ⟨rest, rfl⟩ := hstart
        have hpos := List.length_pos_iff.mpr hnonempty
        rw [List.getElem?_append_left (by omega), List.getLast?_eq_getElem?]
      rw [if_neg hlength, if_neg hnonempty, hlast]
      exact ⟨_, rfl, by simp [hstart, hdiffer]⟩
  · exact ⟨false, if_neg hstart, by simp [hstart]⟩

/-- A prefix at which `at` throws. -/
def StopsSearch (p : CString) : Prop :=
  (p = [] ∧ uri.string ≠ []) ∨ (searchFlagFromOperation operation = true ∧ uri.string = [] ∧ p ≠ [])

theorem findInTokenMap_iff {token : CString} :
    findInTokenMap tokenMap token (writeFlagFromOperation operation) = true ↔ Sufficient tokenMap operation token := by
  unfold findInTokenMap Sufficient
  cases tokenMap token with
  | none => simp
  | some access => cases access <;> simp

section Search

variable {tokenMap uri operation}

theorem servesToken_stops {cred : CString × CString} (h : StopsSearch uri operation cred.1) :
    servesToken tokenMap uri operation cred = .error .outOfRange := by
  unfold servesToken
  rcases h with ⟨hempty, huri⟩ | ⟨hsearch, huri, hne⟩
  · rw [hempty, pathContains_empty huri]
    rfl
  · have hcovers : pathContains uri.string cred.1 = .ok false := by
      unfold pathContains
      rw [huri]
      exact if_neg fun hstart => hne (List.prefix_nil.mp hstart)
    rw [hcovers, huri, hsearch, pathContains_empty hne]
    rfl

theorem servesToken_spec {cred : CString × CString} (h : ¬StopsSearch uri operation cred.1) :
    ∃ served, servesToken tokenMap uri operation cred = .ok served ∧
      (served = true ↔ RelatedPrefix uri operation cred.1 ∧ Sufficient tokenMap operation cred.2) := by
  obtain ⟨hempty, hurl⟩ := not_or.mp h
  obtain ⟨covers, hcovers, hcoversIff⟩ := pathContains_spec fun heq => not_not.mp (not_and.mp hempty heq)
  unfold servesToken RelatedPrefix
  rw [hcovers, ← findInTokenMap_iff]
  cases covers with
  | true => exact ⟨_, rfl, by simp [← hcoversIff]⟩
  | false =>
      cases hsearch : searchFlagFromOperation operation with
      | false => exact ⟨_, rfl, by simp [← hcoversIff]⟩
      | true =>
          have hurl' : uri.string = [] → cred.1 = [] := fun heq => not_not.mp fun hne => hurl ⟨hsearch, heq, hne⟩
          obtain ⟨under, hunder, hunderIff⟩ := pathContains_spec hurl'
          change ∃ served, (pathContains cred.1 uri.string >>= _) = _ ∧ _
          rw [hunder]
          exact ⟨_, rfl, by simp [← hcoversIff, ← hunderIff]⟩

def PassesOver (tokenMap : TokenAccessMap) (uri : TokenUri) (operation : HttpOp) (cred : CString × CString) : Prop :=
  ¬StopsSearch uri operation cred.1 ∧ ¬(RelatedPrefix uri operation cred.1 ∧ Sufficient tokenMap operation cred.2)

/-- The search passes over all credentials, or ends at the first that it does not pass over. -/
theorem searchToken_cases (creds : List (CString × CString)) :
    ((∀ cred ∈ creds, PassesOver tokenMap uri operation cred) ∧ searchToken tokenMap uri operation creds = .ok none) ∨
      ∃ before cred after, creds = before ++ cred :: after ∧ (∀ c ∈ before, PassesOver tokenMap uri operation c) ∧
        ((¬StopsSearch uri operation cred.1 ∧ RelatedPrefix uri operation cred.1 ∧
            Sufficient tokenMap operation cred.2 ∧ searchToken tokenMap uri operation creds = .ok (some cred.2)) ∨
          (StopsSearch uri operation cred.1 ∧ searchToken tokenMap uri operation creds = .error .outOfRange)) := by
  induction creds with
  | nil => exact .inl ⟨fun cred hcred => absurd hcred List.not_mem_nil, rfl⟩
  | cons cred rest ih =>
      by_cases hstops : StopsSearch uri operation cred.1
      · refine .inr ⟨[], cred, rest, rfl, fun c hc => absurd hc List.not_mem_nil, .inr ⟨hstops, ?_⟩⟩
        rw [searchToken, servesToken_stops hstops]
        rfl
      · obtain ⟨served, hserved, hservedIff⟩ := @servesToken_spec tokenMap _ _ _ hstops
        cases served with
        | true =>
            obtain ⟨hrelated, hsufficient⟩ := hservedIff.mp rfl
            refine .inr ⟨[], cred, rest, rfl, fun c hc => absurd hc List.not_mem_nil,
              .inl ⟨hstops, hrelated, hsufficient, ?_⟩⟩
            rw [searchToken, hserved]
            rfl
        | false =>
            have hpasses : PassesOver tokenMap uri operation cred :=
              ⟨hstops, fun hgood => absurd (hservedIff.mpr hgood) Bool.false_ne_true⟩
            have hrest : searchToken tokenMap uri operation (cred :: rest) = searchToken tokenMap uri operation rest := by
              rw [searchToken, hserved]
              rfl
            rw [hrest]
            rcases ih with ⟨hall, hnone⟩ | ⟨before, found, after, rfl, hbefore, hends⟩
            · exact .inl ⟨List.forall_mem_cons.mpr ⟨hpasses, hall⟩, hnone⟩
            · exact .inr ⟨cred :: before, found, after, rfl, List.forall_mem_cons.mpr ⟨hpasses, hbefore⟩, hends⟩

end Search

theorem bearerCreds_null {mapping : CredMapping} {node : CredNode} (hnode : node ∈ mapping)
    (htype : node.cred.type = bearer) (hvalue : node.cred.value = none) : ∃ fault, bearerCreds mapping = .error fault := by
  induction mapping with
  | nil => exact absurd hnode List.not_mem_nil
  | cons first rest ih =>
      unfold bearerCreds
      rcases List.mem_cons.mp hnode with rfl | hmem
      · rw [if_pos htype, hvalue]
        exact ⟨_, rfl⟩
      · obtain ⟨fault, hrest⟩ := ih hmem
        rw [hrest]
        split
        · split
          · exact ⟨_, rfl⟩
          · exact ⟨fault, rfl⟩
        · exact ⟨fault, rfl⟩

/-- The stored tokens are tried in the descending order of their prefixes. -/
theorem bearerCreds_spec {mapping : CredMapping} (h : CredOrdered mapping)
    (hvalues : ∀ node ∈ mapping, node.cred.type = bearer → node.cred.value ≠ none) :
    ∃ creds, bearerCreds mapping = .ok creds ∧ (∀ p token, (p, token) ∈ creds ↔ StoredToken mapping p token) ∧
      creds.Pairwise fun a b => b.1 < a.1 := by
  induction mapping with
  | nil => exact ⟨[], rfl, by simp [StoredToken], .nil⟩
  | cons node rest ih =>
      obtain ⟨hhead, htail⟩ := List.pairwise_cons.mp h.sorted
      obtain ⟨hvalue, hvaluesRest⟩ := List.forall_mem_cons.mp hvalues
      obtain ⟨creds, hcreds, hmem, hpairwise⟩ := ih (h.sublist (List.sublist_cons_self node rest)) hvaluesRest
      unfold bearerCreds
      by_cases htype : node.cred.type = bearer
      · obtain ⟨value, hsome⟩ := Option.ne_none_iff_exists'.mp (hvalue htype)
        refine ⟨(node.urlPrefix, value) :: creds, ?_, fun p token => ?_, List.pairwise_cons.mpr ⟨?_, hpairwise⟩⟩
        · rw [if_pos htype, hsome, hcreds]
          rfl
        · rw [List.mem_cons, hmem, Prod.mk.injEq]
          simp [StoredToken, htype, hsome, eq_comm]
        · rintro ⟨q, other⟩ hq
          obtain ⟨item, hitem, hitemType, rfl, -⟩ := (hmem q other).mp hq
          rcases (CredNode.key_lt_iff node item).mp (hhead item hitem) with hlt | ⟨-, hlt⟩
          · exact hlt
          · rw [htype, hitemType] at hlt
            exact absurd hlt (lt_irrefl _)
      · refine ⟨creds, by rw [if_neg htype, hcreds], fun p token => ?_, hpairwise⟩
        rw [hmem]
        simp [StoredToken, htype]

/-! ### The search -/

theorem findSeToken_eq {mapping : CredMapping} {creds : List (CString × CString)}
    (option : CString → CString → Option CString) (h : bearerCreds mapping = .ok creds) :
    findSeToken tokenMap uri operation mapping option = (searchToken tokenMap uri operation creds).map fun found =>
      match found with
      | some token => some token
      | none => (gfal2CredGet mapping option bearer uri.host).value := by
  unfold findSeToken
  rw [h]
  change (searchToken tokenMap uri operation creds >>= _) = _
  cases searchToken tokenMap uri operation creds with
  | error fault => rfl
  | ok found => cases found <;> rfl

/-- Of two prefixes of a URL the one that sorts first is the longer. -/
theorem length_le_of_prefix_lt {p q url : CString} (hp : p <+: url) (hq : q <+: url) (hlt : q < p) :
    q.length ≤ p.length := by
  by_contra hnot
  have hlength : p.length < q.length := not_le.mp hnot
  have hstart : p <+: q := List.prefix_of_prefix_length_le hp hq hlength.le
  exact lt_asymm hlt (lt_of_isPrefix_of_length_lt hstart hlength)

variable {tokenMap uri operation} {mapping : CredMapping} {option : CString → CString → Option CString}

section Selection

variable {creds : List (CString × CString)}

theorem not_qualifyingToken (hmem : ∀ p token, (p, token) ∈ creds ↔ StoredToken mapping p token)
    (h : ∀ cred ∈ creds, PassesOver tokenMap uri operation cred) (p token : CString) :
    ¬QualifyingToken tokenMap uri operation mapping p token := by
  intro hqualifies
  exact (h _ ((hmem p token).mpr hqualifies.stored)).2 ⟨hqualifies.related, hqualifies.sufficient⟩

/-- The search keeps its promise if it is safe. -/
theorem SafeSearch.selectsToken (h : SafeSearch tokenMap uri operation mapping option)
    (hordered : CredOrdered mapping) : SelectsToken tokenMap uri operation mapping option := by
  obtain ⟨creds, hcreds, hmem, hpairwise⟩ := bearerCreds_spec hordered h.values
  unfold SelectsToken
  rw [findSeToken_eq _ _ _ option hcreds]
  rcases searchToken_cases creds with ⟨hall, hsearch⟩ | ⟨before, cred, after, hsplit, hbefore, hends⟩
  · have hnone := not_qualifyingToken hmem hall
    rw [hsearch]
    refine ⟨_, rfl, fun token htoken => ?_, .inr ⟨hnone, rfl⟩⟩
    rintro ⟨hwrite, haccess⟩
    exact h.host hwrite hnone token htoken haccess
  · -- what qualifies is no credential before the one at which the search ends
    have hafter : ∀ p token, QualifyingToken tokenMap uri operation mapping p token →
        (p, token) = cred ∨ p < cred.1 := by
      intro p token hqualifies
      have hin := (hmem p token).mpr hqualifies.stored
      rw [hsplit, List.mem_append, List.mem_cons] at hin
      rcases hin with hin | heq | hin
      · exact absurd ⟨hqualifies.related, hqualifies.sufficient⟩ (hbefore _ hin).2
      · exact .inl heq
      · rw [hsplit, List.pairwise_append, List.pairwise_cons] at hpairwise
        exact .inr (hpairwise.2.1.1 _ hin)
    have hstored : StoredToken mapping cred.1 cred.2 := (hmem _ _).mp (by rw [hsplit]; simp)
    rcases hends with ⟨-, hrelated, hsufficient, hsearch⟩ | ⟨hstops, -⟩
    · rw [hsearch]
      refine ⟨_, rfl, fun token htoken => ?_, .inl ⟨cred.1, cred.2, rfl, ⟨hstored, hrelated, hsufficient⟩, ?_⟩⟩
      · cases htoken
        exact hsufficient
      · intro hextended q other hqualifies
        have hcovers : ∀ r, RelatedPrefix uri operation r → r <+: uri.string := by
          intro r hr
          rcases hr with hr | ⟨hsearchFlag, -⟩
          · exact hr.1
          · rw [hextended] at hsearchFlag
            cases hsearchFlag
        rcases hafter q other hqualifies with heq | hlt
        · rw [← heq]
        · exact length_le_of_prefix_lt (hcovers _ hrelated) (hcovers _ hqualifies.related) hlt
    · exfalso
      rcases hstops with ⟨hempty, huri⟩ | ⟨hextended, huri, hne⟩
      · rw [hempty] at hstored hafter
        obtain ⟨p, token, hne, hqualifies⟩ := h.emptyPrefix huri ⟨_, hstored⟩
        rcases hafter p token hqualifies with heq | hlt
        · rw [← heq] at hempty
          exact hne hempty
        · exact absurd hlt (List.not_lt_nil p)
      · exact hne (h.emptyUrl huri hextended _ _ hstored)

/-- A search that keeps its promise is safe. -/
theorem SelectsToken.safeSearch (h : SelectsToken tokenMap uri operation mapping option)
    (hordered : CredOrdered mapping) : SafeSearch tokenMap uri operation mapping option := by
  obtain ⟨answer, hfind, hsufficient, hanswer⟩ := h
  have hvalues : ∀ node ∈ mapping, node.cred.type = bearer → node.cred.value ≠ none := by
    intro node hnode htype hvalue
    obtain ⟨fault, hfault⟩ := bearerCreds_null hnode htype hvalue
    unfold findSeToken at hfind
    rw [hfault] at hfind
    cases hfind
  obtain ⟨creds, hcreds, hmem, hpairwise⟩ := bearerCreds_spec hordered hvalues
  have hhost : writeFlagFromOperation operation = true →
      (∀ p token, ¬QualifyingToken tokenMap uri operation mapping p token) →
      ∀ token, (gfal2CredGet mapping option bearer uri.host).value = some token → tokenMap token ≠ some false := by
    intro hwrite hnone token htoken haccess
    rcases hanswer with ⟨p, token', -, hqualifies, -⟩ | ⟨-, heq⟩
    · exact hnone p token' hqualifies
    · exact hsufficient token (heq.trans htoken) ⟨hwrite, haccess⟩
  rw [findSeToken_eq _ _ _ option hcreds] at hfind
  rcases searchToken_cases creds with ⟨hall, -⟩ | ⟨before, cred, after, hsplit, hbefore, hends⟩
  · have hpasses : ∀ p token, StoredToken mapping p token → ¬StopsSearch uri operation p :=
      fun p token hstored => (hall _ ((hmem p token).mpr hstored)).1
    refine ⟨hvalues, fun huri hempty => ?_, fun huri hextended p token hstored => ?_, hhost⟩
    · obtain ⟨token, hstored⟩ := hempty
      exact absurd (.inl ⟨rfl, huri⟩) (hpasses _ _ hstored)
    · by_contra hne
      exact hpasses _ _ hstored (.inr ⟨hextended, huri, hne⟩)
  · rcases hends with ⟨hruns, hrelated, hgood, -⟩ | ⟨-, hsearch⟩
    · have hstored : StoredToken mapping cred.1 cred.2 := (hmem _ _).mp (by rw [hsplit]; simp)
      refine ⟨hvalues, fun huri _ => ⟨cred.1, cred.2, fun hempty => hruns (.inl ⟨hempty, huri⟩),
        hstored, hrelated, hgood⟩, fun huri hextended p token hp => ?_, hhost⟩
      have hempty : cred.1 = [] := by
        by_contra hne
        exact hruns (.inr ⟨hextended, huri, hne⟩)
      have hin := (hmem p token).mpr hp
      rw [hsplit, List.mem_append, List.mem_cons] at hin
      rcases hin with hin | heq | hin
      · by_contra hne
        exact (hbefore _ hin).1 (.inr ⟨hextended, huri, hne⟩)
      · rw [← heq] at hempty
        exact hempty
      · rw [hsplit, List.pairwise_append, List.pairwise_cons] at hpairwise
        have hlt := hpairwise.2.1.1 _ hin
        rw [hempty] at hlt
        exact absurd hlt (List.not_lt_nil p)
    · rw [hsearch] at hfind
      cases hfind

end Selection

/-- After any calls on the credentials of a context, the token for an operation is one that may be used, and the
one of the longest prefix, just when no credential stops the search and the token for the host may be used where
it is the one that is left. -/
theorem se_token_selected_iff {κ : Type} [DecidableEq κ] {ops : List (CredOp κ)} {mappings : κ → CredMapping}
    (hrun : Run credStep (fun op _ => op.Separate) (fun _ => []) ops mappings) (context : κ)
    (option : CString → CString → Option CString) (tokenMap : TokenAccessMap) (uri : TokenUri) (operation : HttpOp) :
    SelectsToken tokenMap uri operation (mappings context) option ↔
      SafeSearch tokenMap uri operation (mappings context) option :=
  ⟨fun h => h.safeSearch (credOrdered_run hrun context), fun h => h.selectsToken (credOrdered_run hrun context)⟩

def fileUri : TokenUri := ⟨lit "https://h/dir/f", lit "h", by decide⟩

/-- The right of one token. -/
def accessOf (token : CString) (access : Bool) : TokenAccessMap := fun other => if other = token then some access else none

def setToken (token : CString × CString) : CredOp Unit := .set () token.1 (some ⟨bearer, some token.2⟩)

/-- The credentials after tokens were set for prefixes. -/
def tokenMapping (tokens : List (CString × CString)) : CredMapping :=
  tokens.foldl (fun mapping token => storeNode mapping (credNode token.1 ⟨bearer, some token.2⟩)) []

theorem run_tokenMapping (tokens : List (CString × CString)) :
    Run credStep (fun op _ => op.Separate) (fun _ => []) (tokens.map setToken) fun _ => tokenMapping tokens := by
  unfold tokenMapping
  generalize ([] : CredMapping) = mapping
  induction tokens generalizing mapping with
  | nil => exact .nil _
  | cons token rest ih =>
      refine .cons trivial ?_ (ih _)
      unfold credStep setToken gfal2CredSet
      apply congrArg some
      funext context
      simp

/-- A token for reading is passed over for the one of a directory above it. -/
theorem writable_parent_token_selected : SelectsToken (accessOf (lit "r") false) fileUri .write
    (tokenMapping [(lit "https://h/dir", lit "r"), (lit "https://h/", lit "w")]) fun _ _ => none := by
  refine (se_token_selected_iff (run_tokenMapping _) () _ _ _ _).mpr ⟨by decide, fun _ h => ?_, fun h => ?_, fun _ h => ?_⟩
  · obtain ⟨token, node, hnode, -, hempty, -⟩ := h
    have hne : ∀ node ∈ tokenMapping [(lit "https://h/dir", lit "r"), (lit "https://h/", lit "w")], node.urlPrefix ≠ [] := by
      decide
    exact absurd hempty (hne node hnode)
  · cases h
  · refine absurd ⟨⟨_, List.mem_cons_of_mem _ List.mem_cons_self, rfl, rfl, rfl⟩, .inl ?_, ?_⟩ (h (lit "https://h/") (lit "w"))
    · unfold Covers
      decide
    · unfold Sufficient
      decide

/-- A token for reading that is set for the host is taken to write, and a token that is set for the empty prefix
stops the search. -/
theorem read_token_of_host_selected :
    (findSeToken (accessOf (lit "r") false) fileUri .write (tokenMapping [(lit "h", lit "r")]) (fun _ _ => none) =
        .ok (some (lit "r")) ∧
      ¬SelectsToken (accessOf (lit "r") false) fileUri .write (tokenMapping [(lit "h", lit "r")]) fun _ _ => none) ∧
    (findSeToken (fun _ => none) fileUri .read (tokenMapping [([], lit "t")]) (fun _ _ => none) = .error .outOfRange ∧
      ¬SelectsToken (fun _ => none) fileUri .read (tokenMapping [([], lit "t")]) fun _ _ => none) := by
  have hhost : findSeToken (accessOf (lit "r") false) fileUri .write (tokenMapping [(lit "h", lit "r")]) (fun _ _ => none) =
      .ok (some (lit "r")) := rfl
  have hempty : findSeToken (fun _ => none) fileUri .read (tokenMapping [([], lit "t")]) (fun _ _ => none) =
      .error .outOfRange := rfl
  refine ⟨⟨hhost, ?_⟩, hempty, ?_⟩
  · rintro ⟨answer, hanswer, hsufficient, -⟩
    rw [hhost] at hanswer
    cases hanswer
    exact hsufficient _ rfl ⟨rfl, rfl⟩
  · rintro ⟨answer, hanswer, -⟩
    rw [hempty] at hanswer
    cases hanswer

end Gfal2
