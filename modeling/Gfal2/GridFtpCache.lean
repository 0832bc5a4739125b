import Mathlib.Data.List.Count
import Gfal2.GridFtpSession

/-! The bookkeeping of the GridFTP session cache: the mutex that its methods hold, and the sessions they delete.
Each session that was made is to be in one place, kept, lent out or deleted, so that it is deleted once by the time
the factory is. -/

namespace Gfal2

open Base

/-- What a method of the factory does with the mutex of the cache and with the sessions. -/
inductive CacheEvent where
  | lock
  | unlock
  | deleted (number : Nat)
  deriving DecidableEq

/-- `GridFTPFactory::clear_cache`, which the destructor of the factory calls too. -/
def clearCache (cache : List GridFtpSession) : List CacheEvent :=
  .lock :: (cache.map (fun session => .deleted session.number) ++ [.unlock])

/-- What `recycle_session` does beside the insertion. -/
def recycleEvents (cache : List GridFtpSession) : List CacheEvent :=
  .lock :: ((if cache.length > 400 then clearCache cache else []) ++ [.unlock])

variable (option : CString → CString → Option CString)

/-- The cache is asked for a session once the credentials are looked up. -/
def getSessionEvents (state : GridFtpState) (url : CString) : List CacheEvent :=
  match gfalGridftpGetCredentials option state.credMapping url with
  | .error _ => []
  | .ok _ => [.lock, .unlock]

def releaseEvents (state : GridFtpState) (number : Nat) (sessionReuse : Bool) : List CacheEvent :=
  match state.inUse.find? (·.number = number) with
  | none => []
  | some session => if sessionReuse then recycleEvents state.sessionCache else [.deleted session.number]

def cacheEvents : GridFtpOp → GridFtpState → List CacheEvent
  | .credSet _ _, _ => []
  | .getSession url _, state => getSessionEvents option state url
  | .releaseSession number sessionReuse, state => releaseEvents state number sessionReuse

def CacheEvent.number? : CacheEvent → Option Nat
  | .deleted number => some number
  | _ => none

/-- The sessions that have been deleted, in order. -/
def recordDeleted (op : GridFtpOp) (state : GridFtpState) (deleted : List Nat) : List Nat :=
  deleted ++ (cacheEvents option op state).filterMap CacheEvent.number?

/-- The mutex is not locked by a call that holds it. -/
def NeverRelocks : Bool → List CacheEvent → Prop
  | _, [] => True
  | held, .lock :: events => held = false ∧ NeverRelocks true events
  | _, .unlock :: events => NeverRelocks false events
  | held, .deleted _ :: events => NeverRelocks held events

def sessionNumbers (sessions : List GridFtpSession) : List Nat := sessions.map GridFtpSession.number

/-- What should be true of a factory between two calls. The sessions that are still lent out are deleted by those
that hold them, and all others by the time the factory is deleted. -/
structure CacheSound (state : GridFtpState) (deleted : List Nat) : Prop where
  bounded : state.sessionCache.length ≤ 400 + 1
  cachedOnce : (sessionNumbers state.sessionCache).Nodup
  notLentOut : ∀ number ∈ sessionNumbers state.sessionCache, number ∉ sessionNumbers state.inUse
  deletedOnce : ∀ number < state.created,
    (deleted ++ (clearCache state.sessionCache).filterMap CacheEvent.number?).count number =
      if number ∈ sessionNumbers state.inUse then 0 else 1

/-- A call locks the mutex only where it does not hold it, and leaves a sound cache. -/
def KeepsCache (relock : Bool) (op : GridFtpOp) (state : GridFtpState × List Nat) : Prop :=
  NeverRelocks false (cacheEvents option op state.1) ∧
    ∀ next, ghostStep (gridFtpStep option relock) (recordDeleted option) op state = some next → CacheSound next.1 next.2

/-- The credentials for a request are imported, unless no session was taken or made for it or the one that was
taken needs none. -/
def CredentialsImported (state : GridFtpState) (url : CString) (errors : GlobusErrors) : Prop :=
  ∀ creds baseurl, gfalGridftpGetCredentials option state.credMapping url = .ok (creds, baseurl) →
    creds.ucert = none ∨ errors.imported = none ∨
      match getRecycledHandle state.sessionCache baseurl with
      | none => errors.created ≠ none
      | some (session, _) => session.baseurl = baseurl

/-- A call that goes well: a request whose credentials are imported, and a release to a cache that has not grown
over its size. -/
def WithinCache (op : GridFtpOp) (state : GridFtpState) : Prop :=
  match op with
  | .credSet _ _ => True
  | .getSession url errors => CredentialsImported option state url errors
  | .releaseSession number sessionReuse =>
      sessionReuse = true → (∃ session ∈ state.inUse, session.number = number) → state.sessionCache.length ≤ 400

/-! ### The mutex -/

theorem neverRelocks_recycleEvents (cache : List GridFtpSession) :
    NeverRelocks false (recycleEvents cache) ↔ cache.length ≤ 400 := by
  unfold recycleEvents clearCache
  split
  · rename_i hfull
    refine iff_of_false ?_ (by omega)
    rintro ⟨-, hheld, -⟩
    cases hheld
  · rename_i hroom
    exact iff_of_true ⟨rfl, trivial⟩ (by omega)

theorem neverRelocks_getSessionEvents (state : GridFtpState) (url : CString) :
    NeverRelocks false (getSessionEvents option state url) := by
  unfold getSessionEvents
  split
  · trivial
  · exact ⟨rfl, trivial⟩

theorem numbers_clearCache (cache : List GridFtpSession) :
    (clearCache cache).filterMap CacheEvent.number? = sessionNumbers cache := by
  show (cache.map (fun session : GridFtpSession => CacheEvent.deleted session.number) ++ [CacheEvent.unlock]).filterMap CacheEvent.number? = _
  rw [List.filterMap_append, List.filterMap_map]
  show cache.filterMap (some ∘ GridFtpSession.number) ++ [] = _
  rw [List.append_nil, List.filterMap_eq_map]
  rfl

/-! ### The sessions -/

/-- Each session that was made is at one place. -/
def SessionsAccounted (state : GridFtpState) (deleted : List Nat) : Prop :=
  (List.range state.created).Perm (sessionNumbers state.sessions ++ deleted)

variable {option} {state state' : GridFtpState} {deleted : List Nat} {session : GridFtpSession} {url : CString}

theorem sessionNumbers_sessions (state : GridFtpState) :
    sessionNumbers state.sessions = sessionNumbers state.sessionCache ++ sessionNumbers state.inUse :=
  List.map_append

theorem SessionsAccounted.nodup (h : SessionsAccounted state deleted) : (sessionNumbers state.sessions ++ deleted).Nodup :=
  h.nodup_iff.mp List.nodup_range

theorem SessionsAccounted.cacheSound (h : SessionsAccounted state deleted) (hbound : state.sessionCache.length ≤ 400 + 1) :
    CacheSound state deleted := by
  have hnodup := h.nodup
  rw [sessionNumbers_sessions, List.append_assoc] at hnodup
  refine ⟨hbound, hnodup.of_append_left, ?_, ?_⟩
  · intro number hcache hlent
    exact List.disjoint_of_nodup_append hnodup hcache (List.mem_append_left _ hlent)
  · intro number hlt
    have hcount : (sessionNumbers state.sessions ++ deleted).count number = 1 := by
      rw [← h.count_eq]
      exact List.count_eq_one_of_mem List.nodup_range (List.mem_range.mpr hlt)
    have hlent : (sessionNumbers state.inUse).count number =
        if number ∈ sessionNumbers state.inUse then 1 else 0 :=
      (hnodup.of_append_right.of_append_left).count
    rw [sessionNumbers_sessions, List.count_append, List.count_append, hlent] at hcount
    rw [numbers_clearCache, List.count_append]
    by_cases hmem : number ∈ sessionNumbers state.inUse
    · rw [if_pos hmem] at hcount ⊢
      omega
    · rw [if_neg hmem] at hcount ⊢
      omega

/-- A session that is at no place is never deleted. -/
theorem not_cacheSound {number : Nat} (hlt : number < state.created)
    (hlost : number ∉ sessionNumbers state.sessions ++ deleted) : ¬CacheSound state deleted := by
  intro h
  rw [sessionNumbers_sessions, List.mem_append, List.mem_append, not_or, not_or] at hlost
  have hcount := h.deletedOnce number hlt
  rw [numbers_clearCache, List.count_append, List.count_eq_zero.mpr hlost.2, List.count_eq_zero.mpr hlost.1.1,
    if_neg hlost.1.2] at hcount
  cases hcount

theorem gfalGlobusSetCredentials_isOk {creds : GridFtpCredentials} {errors : GlobusErrors} (session : GridFtpSession)
    (h : creds.ucert = none ∨ errors.imported = none) :
    ∃ session', gfalGlobusSetCredentials creds errors session = .ok session' := by
  unfold gfalGlobusSetCredentials
  cases hcert : creds.ucert with
  | none => exact ⟨_, rfl⟩
  | some ucert =>
      obtain hnone | himported := h
      · rw [hcert] at hnone
        cases hnone
      · rw [himported]
        exact ⟨_, rfl⟩

theorem gfalGlobusSetCredentials_isError {creds : GridFtpCredentials} {errors : GlobusErrors}
    (session : GridFtpSession) (hcert : creds.ucert ≠ none) (himported : errors.imported ≠ none) :
    ∃ e, gfalGlobusSetCredentials creds errors session = .error e := by
  obtain ⟨ucert, hucert⟩ := Option.ne_none_iff_exists'.mp hcert
  obtain ⟨e, herror⟩ := Option.ne_none_iff_exists'.mp himported
  refine ⟨e, ?_⟩
  unfold gfalGlobusSetCredentials
  rw [hucert, herror]

/-! ### What a call does to the sessions -/

theorem getRecycledHandle_length {cache rest : List GridFtpSession} {baseurl : CString}
    (h : getRecycledHandle cache baseurl = some (session, rest)) : rest.length ≤ cache.length := by
  rw [(perm_of_getRecycledHandle h).length_eq]
  exact Nat.le_succ _

/-- The sessions after a request, when the credentials are imported: the same ones, and perhaps a new one. -/
theorem numbers_getSession_of_imported {errors : GlobusErrors} (h : CredentialsImported option state url errors) :
    ((getSession option state url errors).2.created = state.created ∧
        (sessionNumbers (getSession option state url errors).2.sessions).Perm (sessionNumbers state.sessions)) ∨
      ((getSession option state url errors).2.created = state.created + 1 ∧
        (sessionNumbers (getSession option state url errors).2.sessions).Perm
          (state.created :: sessionNumbers state.sessions)) := by
  unfold getSession
  dsimp only
  cases hfound : gfalGridftpGetCredentials option state.credMapping url with
  | error e => exact .inl ⟨rfl, .refl _⟩
  | ok found =>
      obtain ⟨creds, baseurl⟩ := found
      have himport := h creds baseurl hfound
      dsimp only
      cases hrecycled : getRecycledHandle state.sessionCache baseurl with
      | none =>
          rw [hrecycled] at himport
          cases hcreated : errors.created with
          | some e => exact .inl ⟨rfl, .refl _⟩
          | none =>
              have hready : creds.ucert = none ∨ errors.imported = none := by
                obtain hcert | himported | hcreated' := himport
                · exact .inl hcert
                · exact .inr himported
                · exact absurd hcreated hcreated'
              obtain ⟨session, hset⟩ :=
                gfalGlobusSetCredentials_isOk { number := state.created, baseurl := baseurl } hready
              have hnumber := (gfalGlobusSetCredentials_ok hset).1
              rw [hset]
              refine .inr ⟨rfl, ?_⟩
              unfold sessionNumbers GridFtpState.sessions
              rw [List.map_append, List.map_cons, List.map_append, hnumber]
              exact List.perm_middle
      | some recycled =>
          obtain ⟨session, cache⟩ := recycled
          rw [hrecycled] at himport
          have hperm := (perm_sessions hrecycled).map GridFtpSession.number
          have hback : ∀ session' : GridFtpSession, session'.number = session.number →
              (sessionNumbers (cache ++ session' :: state.inUse)).Perm (sessionNumbers state.sessions) := by
            intro session' hnumber
            unfold sessionNumbers
            rw [List.map_append, List.map_cons, hnumber, ← List.map_cons, ← List.map_append]
            exact (List.perm_middle.map _).trans hperm.symm
          by_cases hbase : session.baseurl = baseurl
          · dsimp only
            rw [if_neg (not_not.mpr hbase)]
            exact .inl ⟨rfl, hback session rfl⟩
          · have hready : creds.ucert = none ∨ errors.imported = none := by
              obtain hcert | himported | hsame := himport
              · exact .inl hcert
              · exact .inr himported
              · exact absurd hsame hbase
            obtain ⟨session', hset⟩ := gfalGlobusSetCredentials_isOk session hready
            dsimp only
            rw [if_pos hbase, hset]
            exact .inl ⟨rfl, hback { session' with baseurl := baseurl } (gfalGlobusSetCredentials_ok hset).1⟩

/-- Where the credentials are not imported, the session that was taken or made is lost. -/
theorem numbers_getSession_of_not_imported {errors : GlobusErrors} (h : ¬CredentialsImported option state url errors) :
    ((getSession option state url errors).2.created = state.created + 1 ∧
        (getSession option state url errors).2.sessions = state.sessions) ∨
      ((getSession option state url errors).2.created = state.created ∧
        ∃ number, (sessionNumbers state.sessions).Perm
          (number :: sessionNumbers (getSession option state url errors).2.sessions)) := by
  unfold CredentialsImported at h
  push Not at h
  obtain ⟨creds, baseurl, hfound, hcert, himported, htaken⟩ := h
  unfold getSession
  rw [hfound]
  dsimp only
  cases hrecycled : getRecycledHandle state.sessionCache baseurl with
  | none =>
      rw [hrecycled] at htaken
      have hcreated : errors.created = none := not_not.mp htaken
      obtain ⟨e, hset⟩ := gfalGlobusSetCredentials_isError { number := state.created, baseurl := baseurl } hcert himported
      rw [hcreated]
      dsimp only
      rw [hset]
      exact .inl ⟨rfl, rfl⟩
  | some recycled =>
      obtain ⟨session, cache⟩ := recycled
      rw [hrecycled] at htaken
      obtain ⟨e, hset⟩ := gfalGlobusSetCredentials_isError session hcert himported
      dsimp only
      rw [if_pos htaken, hset]
      exact .inr ⟨rfl, session.number, (perm_sessions hrecycled).map GridFtpSession.number⟩

theorem length_getSession (url : CString) (errors : GlobusErrors) :
    (getSession option state url errors).2.sessionCache.length ≤ state.sessionCache.length := by
  cases hfound : gfalGridftpGetCredentials option state.credMapping url with
  | error e =>
      unfold getSession
      rw [hfound]
  | ok found =>
      obtain ⟨creds, baseurl⟩ := found
      rcases getSession_cases hfound errors with ⟨session, -, -, -, -, hrun⟩ | ⟨session, cache, hsome, -, hrun⟩ |
        ⟨session, session', cache, hsome, -, -, -, -, hrun⟩ | ⟨e, next, hrun, -, -, ⟨dropped, hperm⟩, -⟩
      · rw [hrun]
      · rw [hrun]
        exact getRecycledHandle_length hsome
      · rw [hrun]
        exact getRecycledHandle_length hsome
      · rw [hrun, hperm.length_eq, List.length_append]
        exact Nat.le_add_left _ _

variable {relock : Bool} {op : GridFtpOp}

/-- A session that is released is kept, or deleted where sessions are not used again. -/
theorem sessionsAccounted_release {sessionReuse : Bool} (h : SessionsAccounted state deleted)
    (hlent : session ∈ state.inUse) (hroom : sessionReuse = true → state.sessionCache.length ≤ 400)
    (hrelease : releaseSession relock state session sessionReuse = some state')
    (hbound : state.sessionCache.length ≤ 400 + 1) :
    SessionsAccounted state' (deleted ++ if sessionReuse then [] else [session.number]) ∧
      state'.sessionCache.length ≤ 400 + 1 := by
  have hout : (sessionNumbers state.sessions).Perm
      (session.number :: sessionNumbers (state.sessionCache ++ state.inUse.erase session)) :=
    (((List.perm_cons_erase hlent).append_left _).trans List.perm_middle).map _
  unfold releaseSession at hrelease
  cases sessionReuse with
  | true =>
      have hsize := hroom rfl
      unfold recycleSession at hrelease
      dsimp only at hrelease
      rw [if_pos rfl, if_neg (by omega)] at hrelease
      cases hrelease
      rw [if_pos rfl, List.append_nil]
      constructor
      · refine h.trans (List.Perm.append_right _ (hout.trans ?_))
        exact (((List.perm_orderedInsert _ session state.sessionCache).append_right _).map _).symm
      · rw [List.orderedInsert_length]
        omega
  | false =>
      cases hrelease
      refine ⟨h.trans ?_, hbound⟩
      rw [if_neg (by decide)]
      rw [← List.append_assoc]
      exact (hout.append_right _).trans (List.perm_append_singleton _ _).symm

/-! ### Runs -/

theorem find_lent {state : GridFtpState} {number : Nat}
    (h : state.inUse.find? (·.number = number) = some session) : session ∈ state.inUse ∧ session.number = number := by
  refine ⟨List.mem_of_find?_eq_some h, ?_⟩
  have hnumber := List.find?_some h
  exact of_decide_eq_true hnumber

theorem neverRelocks_of_within (h : WithinCache option op state) : NeverRelocks false (cacheEvents option op state) := by
  cases op with
  | credSet urlPrefix cred => trivial
  | getSession url errors => exact neverRelocks_getSessionEvents option state url
  | releaseSession number sessionReuse =>
      show NeverRelocks false (releaseEvents state number sessionReuse)
      unfold releaseEvents
      cases hfind : state.inUse.find? (·.number = number) with
      | none => trivial
      | some session =>
          dsimp only
          split
          · rename_i hreuse
            exact (neverRelocks_recycleEvents _).mpr (h hreuse ⟨session, find_lent hfind⟩)
          · trivial

theorem numbers_recycleEvents {cache : List GridFtpSession} (h : cache.length ≤ 400) :
    (recycleEvents cache).filterMap CacheEvent.number? = [] := by
  unfold recycleEvents
  rw [if_neg (by omega)]
  rfl

theorem sessionsAccounted_getSession {errors : GlobusErrors} (h : SessionsAccounted state deleted)
    (himported : CredentialsImported option state url errors) :
    SessionsAccounted (getSession option state url errors).2 deleted := by
  unfold SessionsAccounted at h ⊢
  obtain ⟨hcreated, hperm⟩ | ⟨hcreated, hperm⟩ := numbers_getSession_of_imported himported
  · rw [hcreated]
    exact h.trans (hperm.symm.append_right _)
  · rw [hcreated, List.range_succ]
    refine ((h.append_right _).trans ?_).trans (hperm.symm.append_right _)
    exact List.perm_append_singleton _ _

theorem recordDeleted_getSession (url : CString) (errors : GlobusErrors) :
    recordDeleted option (.getSession url errors) state deleted = deleted := by
  show deleted ++ (getSessionEvents option state url).filterMap CacheEvent.number? = deleted
  unfold getSessionEvents
  split <;> exact List.append_nil _

section Sessions

variable (h : SessionsAccounted state deleted)
include h

/-- A call that goes well keeps every session accounted for. -/
theorem sessionsAccounted_step (hbound : state.sessionCache.length ≤ 400 + 1) (hwithin : WithinCache option op state)
    (hstep : gridFtpStep option relock op state = some state') :
    SessionsAccounted state' (recordDeleted option op state deleted) ∧ state'.sessionCache.length ≤ 400 + 1 := by
  cases op with
  | credSet urlPrefix cred =>
      obtain ⟨mapping, -, rfl⟩ := Option.map_eq_some_iff.mp hstep
      exact ⟨h.trans (List.Perm.of_eq (by rw [recordDeleted, cacheEvents, List.filterMap_nil, List.append_nil]; rfl)),
        hbound⟩
  | getSession url errors =>
      cases hstep
      rw [recordDeleted_getSession]
      exact ⟨sessionsAccounted_getSession h hwithin, (length_getSession url errors).trans hbound⟩
  | releaseSession number sessionReuse =>
      obtain ⟨session, hfind, hrelease⟩ := Option.bind_eq_some_iff.mp hstep
      have hlent := find_lent hfind
      have hroom : sessionReuse = true → state.sessionCache.length ≤ 400 :=
        fun hreuse => hwithin hreuse ⟨session, hlent⟩
      have hdeleted : recordDeleted option (.releaseSession number sessionReuse) state deleted =
          deleted ++ if sessionReuse then [] else [session.number] := by
        show deleted ++ (releaseEvents state number sessionReuse).filterMap CacheEvent.number? = _
        unfold releaseEvents
        rw [hfind]
        cases sessionReuse with
        | true => exact congrArg (deleted ++ ·) (numbers_recycleEvents (hroom rfl))
        | false => rfl
      rw [hdeleted]
      exact sessionsAccounted_release h hlent.1 hroom hrelease hbound

theorem keepsCache_of_within (hbound : state.sessionCache.length ≤ 400 + 1) (hwithin : WithinCache option op state) :
    KeepsCache option relock op (state, deleted) := by
  refine ⟨neverRelocks_of_within hwithin, fun next hnext => ?_⟩
  obtain ⟨state', hstep, rfl⟩ := Option.map_eq_some_iff.mp hnext
  obtain ⟨hcount, hbound'⟩ := sessionsAccounted_step h hbound hwithin hstep
  exact hcount.cacheSound hbound'

/-- A request that loses a session leaves one that is never deleted. -/
theorem imported_of_cacheSound {errors : GlobusErrors} (hsound : CacheSound (getSession option state url errors).2 deleted) :
    CredentialsImported option state url errors := by
  by_contra hnot
  obtain ⟨hcreated, hsessions⟩ | ⟨hcreated, number, hperm⟩ := numbers_getSession_of_not_imported hnot
  · have hlost : state.created ∉ sessionNumbers (getSession option state url errors).2.sessions ++ deleted := by
      rw [hsessions, ← h.mem_iff]
      exact fun hmem => (List.mem_range.mp hmem).ne rfl
    exact not_cacheSound (by omega) hlost hsound
  · have hall := h.trans (hperm.append_right deleted)
    have hlost := (List.nodup_cons.mp (hall.nodup_iff.mp List.nodup_range)).1
    have hlt : number < state.created := List.mem_range.mp (hall.mem_iff.mpr List.mem_cons_self)
    exact not_cacheSound (hcreated ▸ hlt) hlost hsound

theorem within_of_keepsCache (hkeeps : KeepsCache option relock op (state, deleted)) : WithinCache option op state := by
  obtain ⟨hlocks, hsound⟩ := hkeeps
  cases op with
  | credSet urlPrefix cred => trivial
  | getSession url errors =>
      have hnext := hsound _ rfl
      dsimp only at hnext
      rw [recordDeleted_getSession] at hnext
      exact imported_of_cacheSound h hnext
  | releaseSession number sessionReuse =>
      rintro rfl ⟨session, hmem, hnumber⟩
      have hlocks' : NeverRelocks false (releaseEvents state number true) := hlocks
      unfold releaseEvents at hlocks'
      cases hfind : state.inUse.find? (·.number = number) with
      | none =>
          rw [List.find?_eq_none] at hfind
          exact absurd (decide_eq_true hnumber) (hfind session hmem)
      | some found =>
          rw [hfind] at hlocks'
          exact (neverRelocks_recycleEvents _).mp hlocks'

end Sessions

variable (option relock)

/-- In every run the mutex is never locked twice, no session is kept twice or kept while it is lent out, and each is
deleted once, just when each release finds a cache within its size and each request imports its credentials. -/
theorem session_cache_sound_iff (ops : List GridFtpOp) (last : GridFtpState × List Nat) :
    Run (ghostStep (gridFtpStep option relock) (recordDeleted option)) (KeepsCache option relock) ({}, []) ops last ↔
      Run (ghostStep (gridFtpStep option relock) (recordDeleted option))
        (fun op state => WithinCache option op state.1) ({}, []) ops last := by
  refine Run.iff_of_invariant
    (fun state => SessionsAccounted state.1 state.2 ∧ state.1.sessionCache.length ≤ 400 + 1) ?_ ?_ ?_
  · rintro op ⟨state, deleted⟩ ⟨hcount, hbound⟩
    exact ⟨within_of_keepsCache hcount, keepsCache_of_within hcount hbound⟩
  · rintro op ⟨state, deleted⟩ next hkeeps ⟨hcount, hbound⟩ hnext
    obtain ⟨state', hstep, rfl⟩ := Option.map_eq_some_iff.mp hnext
    exact sessionsAccounted_step hcount hbound (within_of_keepsCache hcount hkeeps) hstep
  · exact ⟨.refl _, Nat.zero_le _⟩

/-! ### A cache that has grown over its size -/

/-- A request for a session or a release, with session reuse enabled. -/
def GridFtpOp.UsesCache : GridFtpOp → Prop
  | .credSet _ _ => False
  | .getSession _ _ => True
  | .releaseSession _ sessionReuse => sessionReuse = true

/-- A factory that has made sessions for one URL, some of which are still lent out. -/
def Serving (cached lent : Nat) (calls : List GridFtpOp) (state : GridFtpState × List Nat) : Prop :=
  Run (ghostStep (gridFtpStep (fun _ _ => none) false) (recordDeleted fun _ _ => none))
    (fun op state => WithinCache (fun _ _ => none) op state.1) ({}, []) calls state ∧
    (∀ call ∈ calls, call.UsesCache) ∧ state.1.credMapping = [] ∧ state.1.sessionCache.length = cached ∧
      state.1.inUse.length = lent

theorem forall_mem_append_singleton {calls : List GridFtpOp} {call : GridFtpOp}
    (hcalls : ∀ call ∈ calls, call.UsesCache) (hcall : call.UsesCache) :
    ∀ other ∈ calls ++ [call], other.UsesCache :=
  List.forall_mem_append.mpr ⟨hcalls, List.forall_mem_singleton.mpr hcall⟩

theorem exists_lent (lent : Nat) : ∃ calls state, Serving 0 lent calls state := by
  induction lent with
  | zero => exact ⟨[], ({}, []), .nil _, List.forall_mem_nil _, rfl, rfl, rfl⟩
  | succ lent ih =>
      obtain ⟨calls, ⟨state, deleted⟩, hrun, hcalls, hmapping, hcache, hlent⟩ := ih
      obtain ⟨⟨creds, baseurl⟩, hfound⟩ :
          ∃ found, gfalGridftpGetCredentials (fun _ _ => none) [] (lit "gsiftp://h/f") = .ok found := ⟨_, rfl⟩
      rw [← hmapping] at hfound
      have hempty : getRecycledHandle state.sessionCache baseurl = none := by
        rw [List.length_eq_zero_iff.mp hcache]
        rfl
      obtain ⟨session, hset⟩ := @gfalGlobusSetCredentials_isOk creds {}
        { number := state.created, baseurl := baseurl } (.inr rfl)
      have hget : (getSession (fun _ _ => none) state (lit "gsiftp://h/f") {}).2 =
          { state with created := state.created + 1, inUse := session :: state.inUse } := by
        unfold getSession
        rw [hfound]
        dsimp only
        rw [hempty]
        dsimp only
        rw [hset]
      have hstep : Run (ghostStep (gridFtpStep (fun _ _ => none) false) (recordDeleted fun _ _ => none))
          (fun op state => WithinCache (fun _ _ => none) op state.1) (state, deleted)
          [.getSession (lit "gsiftp://h/f") {}] (_, _) :=
        .cons (fun _ _ _ => .inr (.inl rfl)) rfl (.nil _)
      refine ⟨_, _, hrun.append hstep, forall_mem_append_singleton hcalls (by trivial), ?_⟩
      dsimp only
      rw [hget]
      exact ⟨hmapping, hcache, congrArg Nat.succ hlent⟩

theorem exists_cached {cached lent : Nat} (hroom : cached ≤ 401) : ∃ calls state, Serving cached lent calls state := by
  induction cached generalizing lent with
  | zero => exact exists_lent lent
  | succ cached ih =>
      obtain ⟨calls, ⟨state, deleted⟩, hrun, hcalls, hmapping, hcache, hlent⟩ := @ih (lent + 1) (by omega)
      have hsize : state.sessionCache.length ≤ 400 := by
        have heq : state.sessionCache.length = cached := hcache
        omega
      obtain ⟨session, rest, hinUse⟩ : ∃ session rest, state.inUse = session :: rest :=
        List.exists_cons_of_length_eq_add_one hlent
      have hfind : state.inUse.find? (·.number = session.number) = some session := by
        rw [hinUse]
        exact List.find?_cons_of_pos (decide_eq_true rfl)
      have hrelease : gridFtpStep (fun _ _ => none) false (.releaseSession session.number true) state =
          some { state with
                 inUse := state.inUse.erase session
                 sessionCache := state.sessionCache.orderedInsert (fun a b => a.baseurl < b.baseurl) session } := by
        unfold gridFtpStep releaseSession recycleSession
        dsimp only
        rw [hfind, Option.bind_some, if_pos rfl, if_neg (Nat.not_lt.mpr hsize)]
        rfl
      have hstep : Run (ghostStep (gridFtpStep (fun _ _ => none) false) (recordDeleted fun _ _ => none))
          (fun op state => WithinCache (fun _ _ => none) op state.1) (state, deleted)
          [.releaseSession session.number true] (_, _) :=
        .cons (fun _ _ => hsize) (Option.map_eq_some_iff.mpr ⟨_, hrelease, rfl⟩) (.nil _)
      refine ⟨_, _, hrun.append hstep, forall_mem_append_singleton hcalls (by rfl), hmapping, ?_, ?_⟩
      · dsimp only
        rw [List.orderedInsert_length, hcache]
      · dsimp only
        rw [hinUse, List.erase_cons_head]
        rw [hinUse] at hlent
        exact Nat.succ.inj hlent

/-- Once 401 sessions are kept, the release of another one locks the mutex twice and never comes back. -/
theorem grown_cache_relocks : ∃ calls state number, Serving 401 1 calls state ∧
      ¬NeverRelocks false (cacheEvents (fun _ _ => none) (.releaseSession number true) state.1) ∧
      gridFtpStep (fun _ _ => none) false (.releaseSession number true) state.1 = none ∧
      ¬KeepsCache (fun _ _ => none) false (.releaseSession number true) state := by
  obtain ⟨calls, state, hserving⟩ := @exists_cached 401 1 le_rfl
  obtain ⟨session, hinUse⟩ := List.length_eq_one_iff.mp hserving.2.2.2.2
  have hfind : state.1.inUse.find? (·.number = session.number) = some session := by
    rw [hinUse]
    exact List.find?_cons_of_pos (decide_eq_true rfl)
  have hfull := hserving.2.2.2.1
  have hrelocks : ¬NeverRelocks false (cacheEvents (fun _ _ => none) (.releaseSession session.number true) state.1) := by
    show ¬NeverRelocks false (releaseEvents state.1 session.number true)
    unfold releaseEvents
    rw [hfind]
    dsimp only
    rw [if_pos rfl, neverRelocks_recycleEvents]
    omega
  refine ⟨calls, state, session.number, hserving, hrelocks, ?_, fun hkeeps => hrelocks hkeeps.1⟩
  unfold gridFtpStep releaseSession recycleSession
  dsimp only
  rw [hfind, Option.bind_some, if_pos rfl, if_pos (by omega)]
  rfl

end Gfal2
