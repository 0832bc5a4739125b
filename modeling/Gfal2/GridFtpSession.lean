import Gfal2.CredMapping
import Gfal2.Uri

/-! The sessions of the GridFTP plugin. A session that is released is kept under its base URL, and a request takes
the one that is kept under the base URL found for its own URL, or any other one. Only a session that is new or was
kept under another base URL is given the credentials that were looked up. -/

namespace Gfal2

open Base

/-- The credentials that are looked up for a URL. -/
structure GridFtpCredentials where
  ucert : Option CString
  ukey : Option CString
  user : Option CString
  passwd : Option CString
  deriving DecidableEq

/-- What the operations of a session are authorized with: an imported credential, known by the files it was
imported from, a user and a password. -/
structure Authorization where
  credId : Option (List CString)
  user : Option CString
  passwd : Option CString
  deriving DecidableEq

/-- `GridFTPSession`, known by a number. The authorization is a part of `operation_attr_ftp`. -/
structure GridFtpSession where
  number : Nat
  baseurl : CString
  credId : Option (List CString) := none
  authorization : Option Authorization := none
  deriving DecidableEq

/-- The errors of Globus and of the file system in a request for a session. -/
structure GlobusErrors where
  created : Option GError := none
  imported : Option GError := none

variable (option : CString → CString → Option CString)

/-- `gridftp_hostname_from_url`. The text is cut after 2047 characters, and a null pointer is printed. -/
def gridftpHostnameFromUrl (url : CString) : Except GError CString :=
  match (gfal2ParseUri url).err with
  | some e => .error e
  | none =>
      let text := fun parsed : Gfal2Uri => parsed.scheme.getD (lit "(null)") ++ lit "://" ++
        parsed.host.getD (lit "(null)") ++ lit ":" ++ showInt (Int.bmod parsed.port (2 ^ 32))
      .ok (((gfal2ParseUri url).val.elim [] text).take 2047)

/-- The lookups of `gfal_gridftp_get_credentials`, and the base URL of the last of them. -/
def gridftpCredentials (mapping : CredMapping) (url : CString) : GridFtpCredentials × CString :=
  let ucert := gfal2CredGet mapping option (lit "X509_CERT") url
  let ukey := gfal2CredGet mapping option (lit "X509_KEY") url
  if strncmp url (lit "ftp://") 6 = 0 then
    let user := gfal2CredGet mapping option (lit "USER") url
    let passwd := gfal2CredGet mapping option (lit "PASSWORD") url
    (⟨ucert.value, ukey.value,
        some (user.value.getD ((option (lit "FTP") (lit "USER")).getD (lit "anonymous"))),
        some (passwd.value.getD ((option (lit "FTP") (lit "PASSWORD")).getD (lit "anonymous")))⟩, passwd.baseurl)
  else (⟨ucert.value, ukey.value, none, none⟩, ukey.baseurl)

def gfalGridftpGetCredentials (mapping : CredMapping) (url : CString) : Except GError (GridFtpCredentials × CString) :=
  let found := gridftpCredentials option mapping url
  if found.2 ≠ [] then .ok found
  else (gridftpHostnameFromUrl url).map fun hostname => (found.1, hostname)

/-- The files whose contents are imported for a certificate. -/
def importedFiles (ucert : CString) (ukey : Option CString) : List CString :=
  match ukey with
  | some key => if strcmp ucert key ≠ 0 then [ucert, key] else [ucert]
  | none => [ucert]

/-- `gfal_globus_set_credentials` on a session. Without a certificate the credential of the session stays. -/
def gfalGlobusSetCredentials (creds : GridFtpCredentials) (errors : GlobusErrors) (session : GridFtpSession) :
    Except GError GridFtpSession :=
  let authorize := fun credId : Option (List CString) =>
    { session with credId := credId, authorization := some ⟨credId, creds.user, creds.passwd⟩ }
  match creds.ucert with
  | none => .ok (authorize session.credId)
  | some ucert =>
      match errors.imported with
      | some e => .error e
      | none => .ok (authorize (some (importedFiles ucert creds.ukey)))

/-- A context with its credentials, the session cache in the order of its keys, and the sessions that were handed
out. -/
structure GridFtpState where
  credMapping : CredMapping := []
  sessionCache : List GridFtpSession := []
  inUse : List GridFtpSession := []
  created : Nat := 0

/-- `get_recycled_handle`: a session that is kept under a base URL, or else the first of all. -/
def getRecycledHandle (cache : List GridFtpSession) (baseurl : CString) : Option (GridFtpSession × List GridFtpSession) :=
  match cache.find? (·.baseurl = baseurl) with
  | some session => some (session, cache.eraseP (·.baseurl = baseurl))
  | none =>
      match cache with
      | [] => none
      | session :: rest => some (session, rest)

/-- `GridFTPFactory::get_session`. A session is out of the cache also where the request ends with an error. -/
def getSession (state : GridFtpState) (url : CString) (errors : GlobusErrors) : Except GError GridFtpSession × GridFtpState :=
  let handOut := fun (state : GridFtpState) (result : Except GError GridFtpSession) =>
    match result with
    | .error e => (.error e, state)
    | .ok session => (.ok session, { state with inUse := session :: state.inUse })
  match gfalGridftpGetCredentials option state.credMapping url with
  | .error e => (.error e, state)
  | .ok (creds, baseurl) =>
      match getRecycledHandle state.sessionCache baseurl with
      | none =>
          match errors.created with
          | some e => (.error e, state)
          | none =>
              handOut { state with created := state.created + 1 }
                (gfalGlobusSetCredentials creds errors { number := state.created, baseurl := baseurl })
      | some (session, cache) =>
          handOut { state with sessionCache := cache }
            (if session.baseurl ≠ baseurl then
              (gfalGlobusSetCredentials creds errors session).map fun session => { session with baseurl := baseurl }
            else .ok session)

/-- `recycle_session`. Where the cache has grown over its size the mutex is locked twice, and the call comes back
only with a thread model in which that is possible. -/
def recycleSession (relock : Bool) (cache : List GridFtpSession) (session : GridFtpSession) :
    Option (List GridFtpSession) :=
  if cache.length > 400 then if relock then some [session] else none
  else some (cache.orderedInsert (fun a b => a.baseurl < b.baseurl) session)

/-- `GridFTPFactory::release_session`, with the option to reuse sessions as it is at the time. -/
def releaseSession (relock : Bool) (state : GridFtpState) (session : GridFtpSession) (sessionReuse : Bool) :
    Option GridFtpState :=
  let state := { state with inUse := state.inUse.erase session }
  if sessionReuse then
    (recycleSession relock state.sessionCache session).map fun cache => { state with sessionCache := cache }
  else some state

/-- The calls on a context and its factory. A session that is released is one that is in use. -/
inductive GridFtpOp where
  | credSet (urlPrefix : CString) (cred : Option Gfal2Cred)
  | getSession (url : CString) (errors : GlobusErrors)
  | releaseSession (number : Nat) (sessionReuse : Bool)

def gridFtpStep (relock : Bool) : GridFtpOp → GridFtpState → Option GridFtpState
  | .credSet urlPrefix cred, state =>
      (gfal2CredSet state.credMapping urlPrefix cred).map fun mapping => { state with credMapping := mapping }
  | .getSession url errors, state => some (getSession option state url errors).2
  | .releaseSession number sessionReuse, state =>
      (state.inUse.find? (·.number = number)).bind fun session => releaseSession relock state session sessionReuse

/-! ### The credential of a session -/

/-- What a session should be authorized with for the credentials that were looked up. -/
def GridFtpCredentials.authorization (creds : GridFtpCredentials) : Authorization :=
  ⟨creds.ucert.map (importedFiles · creds.ukey), creds.user, creds.passwd⟩

/-- A session that is handed out is authenticated with the credentials that are looked up for its URL. -/
def Authenticated (op : GridFtpOp) (state : GridFtpState) : Prop :=
  match op with
  | .getSession url errors => ∀ session, (getSession option state url errors).1 = .ok session →
      session.authorization = some (gridftpCredentials option state.credMapping url).1.authorization
  | _ => True

/-- The credentials that were looked up when a session was last handed out, for each session. -/
abbrev LookedUp := Nat → GridFtpCredentials

def recordLookup (op : GridFtpOp) (state : GridFtpState) (lookedUp : LookedUp) : LookedUp :=
  match op with
  | .getSession url errors =>
      match (getSession option state url errors).1 with
      | .ok session => Function.update lookedUp session.number (gridftpCredentials option state.credMapping url).1
      | .error _ => lookedUp
  | _ => lookedUp

/-- A session that is taken from the cache was handed out before for credentials that fit those looked up now: the
same ones if it was kept under the base URL found now, and none with a certificate if it was not and there is none
now. -/
def FitsLookup (op : GridFtpOp) (state : GridFtpState) (lookedUp : LookedUp) : Prop :=
  match op with
  | .getSession url _ => ∀ creds baseurl session cache,
      gfalGridftpGetCredentials option state.credMapping url = .ok (creds, baseurl) →
      getRecycledHandle state.sessionCache baseurl = some (session, cache) →
      if session.baseurl = baseurl then (lookedUp session.number).authorization = creds.authorization
      else creds.ucert = none → (lookedUp session.number).ucert = none
  | _ => True

/-- What is known of the sessions of a factory from the lookups that were made for them. -/
structure Tracks (lookedUp : LookedUp) (created : Nat) (sessions : List GridFtpSession) : Prop where
  credId : ∀ session ∈ sessions, session.credId = (lookedUp session.number).authorization.credId
  authorization : ∀ session ∈ sessions, session.authorization = some (lookedUp session.number).authorization
  numbers : (sessions.map GridFtpSession.number).Nodup
  fresh : ∀ session ∈ sessions, session.number < created

def GridFtpState.sessions (state : GridFtpState) : List GridFtpSession := state.sessionCache ++ state.inUse

/-! ### What a request for a session does -/

variable {option} {session : GridFtpSession} {state : GridFtpState} {creds : GridFtpCredentials} {baseurl : CString}
  {cache : List GridFtpSession} {errors : GlobusErrors}

theorem gfalGridftpGetCredentials_fst {mapping : CredMapping} {url : CString} {found : GridFtpCredentials × CString}
    (h : gfalGridftpGetCredentials option mapping url = .ok found) : found.1 = (gridftpCredentials option mapping url).1 := by
  unfold gfalGridftpGetCredentials at h
  dsimp only at h
  split at h
  · cases h
    rfl
  · cases hhostname : gridftpHostnameFromUrl url with
    | error e =>
        rw [hhostname] at h
        cases h
    | ok hostname =>
        rw [hhostname] at h
        cases h
        rfl

/-- A session that was given credentials keeps its own where there is no certificate. -/
theorem gfalGlobusSetCredentials_ok {session' : GridFtpSession}
    (h : gfalGlobusSetCredentials creds errors session = .ok session') :
    session'.number = session.number ∧ session'.credId = creds.authorization.credId.or session.credId ∧
      session'.authorization = some { creds.authorization with credId := session'.credId } := by
  unfold gfalGlobusSetCredentials at h
  unfold GridFtpCredentials.authorization
  cases hcert : creds.ucert with
  | none =>
      rw [hcert] at h
      cases h
      exact ⟨rfl, rfl, rfl⟩
  | some ucert =>
      rw [hcert] at h
      cases himported : errors.imported with
      | some e =>
          rw [himported] at h
          cases h
      | none =>
          rw [himported] at h
          cases h
          exact ⟨rfl, rfl, rfl⟩

theorem gfalGlobusSetCredentials_error
    {e : GError} (h : gfalGlobusSetCredentials creds errors session = .error e) : creds.ucert ≠ none := by
  intro hcert
  unfold gfalGlobusSetCredentials at h
  rw [hcert] at h
  cases h

theorem perm_of_getRecycledHandle {rest : List GridFtpSession}
    (h : getRecycledHandle cache baseurl = some (session, rest)) : cache.Perm (session :: rest) := by
  unfold getRecycledHandle at h
  split at h
  · rename_i found hfind
    cases h
    exact perm_cons_eraseP hfind
  · split at h
    · cases h
    · cases h
      exact .refl _

/-- What a request for a session can come back with once the credentials are looked up: a new session, one that was
kept under the base URL as it is, another one with the credentials it was given, or an error. -/
theorem getSession_cases {url : CString}
    (hcreds : gfalGridftpGetCredentials option state.credMapping url = .ok (creds, baseurl)) (errors : GlobusErrors) :
    (∃ session, getRecycledHandle state.sessionCache baseurl = none ∧ session.number = state.created ∧
        session.credId = creds.authorization.credId ∧ session.authorization = some creds.authorization ∧
        getSession option state url errors =
          (.ok session, { state with created := state.created + 1, inUse := session :: state.inUse })) ∨
      (∃ session cache, getRecycledHandle state.sessionCache baseurl = some (session, cache) ∧ session.baseurl = baseurl ∧
        getSession option state url errors =
          (.ok session, { state with sessionCache := cache, inUse := session :: state.inUse })) ∨
      (∃ session session' cache, getRecycledHandle state.sessionCache baseurl = some (session, cache) ∧
        session.baseurl ≠ baseurl ∧ session'.number = session.number ∧
        session'.credId = creds.authorization.credId.or session.credId ∧
        session'.authorization = some { creds.authorization with credId := session'.credId } ∧
        getSession option state url errors =
          (.ok session', { state with sessionCache := cache, inUse := session' :: state.inUse })) ∨
      ∃ e state', getSession option state url errors = (.error e, state') ∧ state.created ≤ state'.created ∧
        state'.inUse = state.inUse ∧ (∃ dropped, state.sessionCache.Perm (dropped ++ state'.sessionCache)) ∧
        ∀ session cache, getRecycledHandle state.sessionCache baseurl = some (session, cache) →
          session.baseurl ≠ baseurl ∧ creds.ucert ≠ none := by
  unfold getSession
  dsimp only
  rw [hcreds]
  dsimp only
  cases hrecycled : getRecycledHandle state.sessionCache baseurl with
  | none =>
      cases hcreated : errors.created with
      | some e => exact .inr (.inr (.inr ⟨e, state, rfl, le_rfl, rfl, ⟨[], .refl _⟩, fun _ _ h => by cases h⟩))
      | none =>
          cases hset : gfalGlobusSetCredentials creds errors { number := state.created, baseurl := baseurl } with
          | error e =>
              exact .inr (.inr (.inr ⟨e, _, rfl, Nat.le_succ _, rfl, ⟨[], .refl _⟩, fun _ _ h => by cases h⟩))
          | ok session =>
              obtain ⟨hnumber, hcredId, hauthorization⟩ := gfalGlobusSetCredentials_ok hset
              rw [Option.or_none] at hcredId
              refine .inl ⟨session, rfl, hnumber, hcredId, ?_, rfl⟩
              rw [hauthorization, hcredId]
  | some recycled =>
      obtain ⟨session, cache⟩ := recycled
      by_cases hbase : session.baseurl = baseurl
      · refine .inr (.inl ⟨session, cache, rfl, hbase, ?_⟩)
        dsimp only
        rw [if_neg (not_not.mpr hbase)]
      · refine .inr (.inr ?_)
        dsimp only
        rw [if_pos hbase]
        cases hset : gfalGlobusSetCredentials creds errors session with
        | error e =>
            refine .inr ⟨e, _, rfl, le_rfl, rfl, ⟨[session], perm_of_getRecycledHandle hrecycled⟩, ?_⟩
            rintro session' cache' h
            cases h
            exact ⟨hbase, gfalGlobusSetCredentials_error hset⟩
        | ok session' =>
            obtain ⟨hnumber, hcredId, hauthorization⟩ := gfalGlobusSetCredentials_ok hset
            exact .inl ⟨session, { session' with baseurl := baseurl }, cache, rfl, hbase, hnumber, hcredId, hauthorization, rfl⟩

/-! ### Runs -/

variable {lookedUp : LookedUp} {created created' : Nat} {sessions sessions' : List GridFtpSession}

theorem Tracks.of_perm (h : Tracks lookedUp created sessions) (dropped : List GridFtpSession)
    (hperm : sessions.Perm (dropped ++ sessions')) (hle : created ≤ created') : Tracks lookedUp created' sessions' := by
  have hmem : ∀ session ∈ sessions', session ∈ sessions :=
    fun session hsession => hperm.mem_iff.mpr (List.mem_append_right _ hsession)
  refine ⟨fun session hs => h.credId session (hmem session hs), fun session hs => h.authorization session (hmem session hs),
    ?_, fun session hs => (h.fresh session (hmem session hs)).trans_le hle⟩
  have hnumbers := (hperm.map GridFtpSession.number).nodup_iff.mp h.numbers
  rw [List.map_append] at hnumbers
  exact hnumbers.of_append_right

/-- A session that is handed out for credentials it is authorized with is tracked by them. -/
theorem Tracks.handOut (h : Tracks lookedUp created sessions)
    (hnew : ∀ other ∈ sessions, other.number ≠ session.number) (hfresh : session.number < created')
    (hle : created ≤ created') (hcredId : session.credId = creds.authorization.credId)
    (hauthorization : session.authorization = some creds.authorization) :
    Tracks (Function.update lookedUp session.number creds) created' (session :: sessions) := by
  have hother : ∀ other ∈ sessions, Function.update lookedUp session.number creds other.number = lookedUp other.number :=
    fun other hmem => Function.update_of_ne (hnew other hmem) _ _
  constructor
  · refine List.forall_mem_cons.mpr ⟨by rw [Function.update_self, hcredId], fun other hmem => ?_⟩
    rw [hother other hmem]
    exact h.credId other hmem
  · refine List.forall_mem_cons.mpr ⟨by rw [Function.update_self, hauthorization], fun other hmem => ?_⟩
    rw [hother other hmem]
    exact h.authorization other hmem
  · refine List.nodup_cons.mpr ⟨fun hmem => ?_, h.numbers⟩
    obtain ⟨other, hmem, heq⟩ := List.mem_map.mp hmem
    exact hnew other hmem heq
  · exact List.forall_mem_cons.mpr ⟨hfresh, fun other hmem => (h.fresh other hmem).trans_le hle⟩

theorem perm_sessions (h : getRecycledHandle state.sessionCache baseurl = some (session, cache)) :
    state.sessions.Perm (session :: (cache ++ state.inUse)) :=
  (perm_of_getRecycledHandle h).append_right state.inUse

/-- Where the sessions are tracked, a session is authenticated just when it fits what is looked up. -/
theorem authenticated_iff_fitsLookup (h : Tracks lookedUp state.created state.sessions)
    (op : GridFtpOp) : Authenticated option op state ↔ FitsLookup option op state lookedUp := by
  cases op with
  | credSet => exact Iff.rfl
  | releaseSession => exact Iff.rfl
  | getSession url errors =>
      unfold Authenticated FitsLookup
      dsimp only
      cases hfound : gfalGridftpGetCredentials option state.credMapping url with
      | error e =>
          have hrun : getSession option state url errors = (.error e, state) := by
            unfold getSession
            rw [hfound]
          rw [hrun]
          exact iff_of_true (fun _ h => by cases h) (fun _ _ _ _ h => by cases h)
      | ok found =>
          obtain ⟨creds, baseurl⟩ := found
          rw [← gfalGridftpGetCredentials_fst hfound]
          dsimp only
          have hrecycled : ∀ session cache, getRecycledHandle state.sessionCache baseurl = some (session, cache) →
              ((∀ creds' baseurl' session' cache', Except.ok (creds, baseurl) = (.ok (creds', baseurl') : Except GError _) →
                getRecycledHandle state.sessionCache baseurl' = some (session', cache') →
                if session'.baseurl = baseurl' then (lookedUp session'.number).authorization = creds'.authorization
                else creds'.ucert = none → (lookedUp session'.number).ucert = none) ↔
                if session.baseurl = baseurl then (lookedUp session.number).authorization = creds.authorization
                else creds.ucert = none → (lookedUp session.number).ucert = none) := by
            intro session cache hrecycled
            constructor
            · intro hfits
              exact hfits creds baseurl session cache rfl hrecycled
            · intro hfits creds' baseurl' session' cache' heq hrecycled'
              cases heq
              rw [hrecycled] at hrecycled'
              cases hrecycled'
              exact hfits
          rcases getSession_cases hfound errors with ⟨session, hnone, -, -, hauthorization, hrun⟩ |
            ⟨session, cache, hsome, hbase, hrun⟩ | ⟨session, session', cache, hsome, hbase, -, hcredId, hauthorization, hrun⟩ |
            ⟨e, state', hrun, -, -, -, herror⟩
          · rw [hrun]
            refine iff_of_true ?_ ?_
            · intro session' heq
              cases heq
              exact hauthorization
            · intro creds' baseurl' session' cache' heq hrecycled'
              cases heq
              rw [hnone] at hrecycled'
              cases hrecycled'
          · have hmem : session ∈ state.sessions := (perm_sessions hsome).mem_iff.mpr List.mem_cons_self
            rw [hrecycled session cache hsome, hrun, if_pos hbase, ← Option.some_inj, ← h.authorization session hmem]
            constructor
            · exact fun hall => hall session rfl
            · intro hauthorization session' heq
              cases heq
              exact hauthorization
          · have hmem : session ∈ state.sessions := (perm_sessions hsome).mem_iff.mpr List.mem_cons_self
            have hold := h.credId session hmem
            rw [hrecycled session cache hsome, hrun, if_neg hbase]
            have hkeeps : session'.authorization = some creds.authorization ↔
                (creds.ucert = none → (lookedUp session.number).ucert = none) := by
              rw [hauthorization, Option.some_inj, hcredId, hold]
              unfold GridFtpCredentials.authorization
              cases hcert : creds.ucert with
              | none => simp [Option.map_eq_none_iff]
              | some ucert => simp
            rw [← hkeeps]
            constructor
            · exact fun hall => hall session' rfl
            · intro hauthorization session'' heq
              cases heq
              exact hauthorization
          · rw [hrun]
            refine iff_of_true (fun _ h => by cases h) ?_
            intro creds' baseurl' session' cache' heq hrecycled'
            cases heq
            obtain ⟨hbase, hcert⟩ := herror session' cache' hrecycled'
            rw [if_neg hbase]
            exact fun hnone => absurd hnone hcert

theorem Tracks.number_ne (h : Tracks lookedUp created state.sessions)
    (hrecycled : getRecycledHandle state.sessionCache baseurl = some (session, cache)) :
    ∀ other ∈ cache ++ state.inUse, other.number ≠ session.number := by
  have hnumbers := ((perm_sessions hrecycled).map GridFtpSession.number).nodup_iff.mp h.numbers
  rw [List.map_cons, List.nodup_cons] at hnumbers
  intro other hmem heq
  exact hnumbers.1 (List.mem_map.mpr ⟨other, hmem, heq⟩)

/-- A request for a session keeps the sessions tracked if the one it hands out is authenticated. -/
theorem tracks_getSession {url : CString}
    (h : Tracks lookedUp state.created state.sessions) (hauth : Authenticated option (.getSession url errors) state) :
    Tracks (recordLookup option (.getSession url errors) state lookedUp) (getSession option state url errors).2.created
      (getSession option state url errors).2.sessions := by
  unfold recordLookup
  dsimp only
  cases hfound : gfalGridftpGetCredentials option state.credMapping url with
  | error e =>
      have hrun : getSession option state url errors = (.error e, state) := by
        unfold getSession
        rw [hfound]
      rw [hrun]
      exact h
  | ok found =>
      obtain ⟨creds, baseurl⟩ := found
      unfold Authenticated at hauth
      dsimp only at hauth
      rw [← gfalGridftpGetCredentials_fst hfound] at hauth ⊢
      have hhanded : ∀ (session : GridFtpSession) (cache : List GridFtpSession),
          (session :: (cache ++ state.inUse)).Perm (cache ++ session :: state.inUse) := fun _ _ => List.perm_middle.symm
      rcases getSession_cases hfound errors with ⟨session, hnone, hnumber, hcredId, hauthorization, hrun⟩ |
        ⟨session, cache, hsome, hbase, hrun⟩ | ⟨session, session', cache, hsome, hbase, hnumber, hcredId, hauthorization, hrun⟩ |
        ⟨e, state', hrun, hcreated, hinUse, ⟨dropped, hperm⟩, -⟩
      · rw [hrun]
        have hnew : ∀ other ∈ state.sessions, other.number ≠ session.number := by
          intro other hmem
          rw [hnumber]
          exact (h.fresh other hmem).ne
        have hout := h.handOut hnew (hnumber ▸ Nat.lt_succ_self _) (Nat.le_succ _) hcredId hauthorization
        exact hout.of_perm [] (hhanded session state.sessionCache) le_rfl
      · have hmem : session ∈ state.sessions := (perm_sessions hsome).mem_iff.mpr List.mem_cons_self
        rw [hrun] at hauth ⊢
        have hauthorization := hauth session rfl
        have hsame : (lookedUp session.number).authorization = creds.authorization := by
          rw [← Option.some_inj, ← h.authorization session hmem, hauthorization]
        have hrest : Tracks lookedUp state.created (cache ++ state.inUse) := h.of_perm [session] (perm_sessions hsome) le_rfl
        have hout := hrest.handOut (h.number_ne hsome) (h.fresh session hmem) le_rfl
          (by rw [h.credId session hmem, hsame]) hauthorization
        exact hout.of_perm [] (hhanded session cache) le_rfl
      · have hmem : session ∈ state.sessions := (perm_sessions hsome).mem_iff.mpr List.mem_cons_self
        rw [hrun] at hauth ⊢
        have hright := hauth session' rfl
        have hsame : session'.credId = creds.authorization.credId := by
          rw [hright] at hauthorization
          exact (congrArg Authorization.credId (Option.some.inj hauthorization)).symm
        have hrest : Tracks lookedUp state.created (cache ++ state.inUse) := h.of_perm [session] (perm_sessions hsome) le_rfl
        have hout := hrest.handOut (hnumber ▸ h.number_ne hsome) (hnumber ▸ h.fresh session hmem) le_rfl hsame hright
        exact hout.of_perm [] (hhanded session' cache) le_rfl
      · rw [hrun]
        refine h.of_perm dropped ?_ hcreated
        unfold GridFtpState.sessions
        rw [hinUse, ← List.append_assoc]
        exact hperm.append_right _

theorem tracks_releaseSession {state' : GridFtpState} {relock sessionReuse : Bool}
    (h : Tracks lookedUp state.created state.sessions) (hmem : session ∈ state.inUse)
    (hrelease : releaseSession relock state session sessionReuse = some state') :
    Tracks lookedUp state'.created state'.sessions := by
  have hout : state.sessions.Perm (session :: (state.sessionCache ++ state.inUse.erase session)) :=
    ((List.perm_cons_erase hmem).append_left _).trans List.perm_middle
  unfold releaseSession at hrelease
  dsimp only at hrelease
  split at hrelease
  · obtain ⟨cache, hrecycle, rfl⟩ := Option.map_eq_some_iff.mp hrelease
    unfold recycleSession at hrecycle
    split at hrecycle
    · rw [Option.ite_none_right_eq_some] at hrecycle
      cases hrecycle.2
      refine h.of_perm state.sessionCache (hout.trans ?_) le_rfl
      exact List.perm_middle.symm
    · cases hrecycle
      refine h.of_perm [] (hout.trans ?_) le_rfl
      exact ((List.perm_orderedInsert _ session state.sessionCache).append_right _).symm
  · cases hrelease
    exact h.of_perm [session] hout le_rfl

variable {relock : Bool}

/-- A step after which the session it hands out is authenticated keeps the sessions tracked. -/
theorem tracks_gridFtpStep {op : GridFtpOp} {state' : GridFtpState}
    (h : Tracks lookedUp state.created state.sessions) (hauth : Authenticated option op state)
    (hstep : gridFtpStep option relock op state = some state') :
    Tracks (recordLookup option op state lookedUp) state'.created state'.sessions := by
  cases op with
  | credSet urlPrefix cred =>
      obtain ⟨mapping, -, rfl⟩ := Option.map_eq_some_iff.mp hstep
      exact h
  | getSession url errors =>
      cases hstep
      exact tracks_getSession h hauth
  | releaseSession number sessionReuse =>
      obtain ⟨session, hfind, hrelease⟩ := Option.bind_eq_some_iff.mp hstep
      exact tracks_releaseSession h (List.mem_of_find?_eq_some hfind) hrelease

variable (option relock)

/-- Every session that a run hands out is authenticated with the credentials that are looked up for its URL just
when every session that the run takes from the cache fits them. -/
theorem session_credential_iff (ops : List GridFtpOp) (last : GridFtpState) :
    Run (gridFtpStep option relock) (Authenticated option) {} ops last ↔
      ∃ lookedUp, Run (ghostStep (gridFtpStep option relock) (recordLookup option))
        (fun op state => FitsLookup option op state.1 state.2) ({}, fun _ => ⟨none, none, none, none⟩) ops
        (last, lookedUp) := by
  rw [← run_ghost_iff (gridFtpStep option relock) (recordLookup option)]
  refine exists_congr fun lookedUp => ?_
  refine Run.iff_of_invariant (fun state => Tracks state.2 state.1.created state.1.sessions) ?_ ?_ ?_
  · exact fun op state h => authenticated_iff_fitsLookup h op
  · intro op state state' hauth h hstep
    obtain ⟨next, hnext, rfl⟩ := Option.map_eq_some_iff.mp hstep
    exact tracks_gridFtpStep h hauth hnext
  · exact ⟨by simp [GridFtpState.sessions], by simp [GridFtpState.sessions], by simp [GridFtpState.sessions],
      by simp [GridFtpState.sessions]⟩

def setProxy (file : CString) : List GridFtpOp :=
  [.credSet (lit "gsiftp://h") (some ⟨lit "X509_CERT", some file⟩),
    .credSet (lit "gsiftp://h") (some ⟨lit "X509_KEY", some file⟩)]

/-- A session that was released is handed out again with the certificate that has been replaced since. -/
theorem replaced_proxy_still_used : ∃ state, runAll (gridFtpStep (fun _ _ => none) false)
        (setProxy (lit "/a.pem") ++ [.getSession (lit "gsiftp://h/f") {}, .releaseSession 0 true] ++ setProxy (lit "/b.pem"))
        {} = some state ∧
      gfal2CredGet state.credMapping (fun _ _ => none) (lit "X509_CERT") (lit "gsiftp://h/f") =
        ⟨some (lit "/b.pem"), lit "gsiftp://h"⟩ ∧
      (getSession (fun _ _ => none) state (lit "gsiftp://h/f") {}).1 =
        .ok ⟨0, lit "gsiftp://h", some [lit "/a.pem"], some ⟨some [lit "/a.pem"], none, none⟩⟩ ∧
      ¬Authenticated (fun _ _ => none) (.getSession (lit "gsiftp://h/f") {}) state := by
  refine ⟨_, rfl, by decide, rfl, fun h => ?_⟩
  have hwrong := h _ rfl
  revert hwrong
  decide

end Gfal2
