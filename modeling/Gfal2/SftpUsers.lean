import Gfal2.Base.Runs
import Gfal2.Sftp
import Gfal2.UriAuthority

/-! Who the connections of the SFTP plugin belong to. Connections are kept under the host and the port of their URL, whoever was
authenticated on them, so that a URL finds the connection of another user there. -/

namespace Gfal2

open Base Exec

/-! ### The key of the cache -/

theorem append_colon_injective {a a' b b' : CString} (hb : ∀ c ∈ b, c ≠ ':') (hb' : ∀ c ∈ b', c ≠ ':')
    (h : a ++ ':' :: b = a' ++ ':' :: b') : a = a' ∧ b = b' := by
  have hreverse : b.reverse ++ ':' :: a.reverse = b'.reverse ++ ':' :: a'.reverse := by
    simpa using congrArg List.reverse h
  obtain ⟨hlast, hfirst⟩ := append_inj_of_stopsAt (p := fun c => c ≠ ':') (by simpa using hb) (by simpa using hb')
    (stopsAt_cons.mpr (by simp)) (stopsAt_cons.mpr (by simp)) hreverse
  exact ⟨List.reverse_injective (List.cons.inj hfirst).2, List.reverse_injective hlast⟩

theorem ne_colon_of_mem_showInt {n : Int} {c : Char} (hc : c ∈ showInt n) : c ≠ ':' := by
  have hdigits (m : Nat) (h : c ∈ Nat.toDigits 10 m) : c ≠ ':' :=
    ne_of_isDigit (Nat.isDigit_of_mem_toDigits (by decide) (by decide) h) (by decide)
  rw [showInt] at hc
  split at hc
  · rcases List.mem_cons.mp hc with rfl | hc
    · decide
    · exact hdigits _ hc
  · exact hdigits _ hc

theorem toDigits_injective {m n : Nat} (h : Nat.toDigits 10 m = Nat.toDigits 10 n) : m = n := by
  calc m = Nat.ofDigitChars 10 (Nat.toDigits 10 m) 0 := Nat.ofDigitChars_ten_toDigits.symm
    _ = Nat.ofDigitChars 10 (Nat.toDigits 10 n) 0 := by rw [h]
    _ = n := Nat.ofDigitChars_ten_toDigits

theorem minus_ne_toDigits (text : CString) (n : Nat) : '-' :: text ≠ Nat.toDigits 10 n := by
  intro h
  have hdigit : '-'.isDigit = true := Nat.isDigit_of_mem_toDigits (by decide) (by decide) (h ▸ List.mem_cons_self)
  exact absurd hdigit (by decide)

theorem showInt_injective {m n : Int} (h : showInt m = showInt n) : m = n := by
  rw [showInt, showInt] at h
  split at h <;> split at h
  · have hdigits := toDigits_injective (List.cons.inj h).2
    omega
  · exact absurd h (minus_ne_toDigits _ _)
  · exact absurd h.symm (minus_ne_toDigits _ _)
  · have hdigits := toDigits_injective h
    omega

theorem portInt_injective {m n : Nat} (hm : m < 2 ^ 32) (hn : n < 2 ^ 32) (h : portInt m = portInt n) : m = n := by
  have hmod : (m : Int) % (2 ^ 32 : Nat) = (n : Int) % (2 ^ 32 : Nat) := by
    rw [← Int.bmod_emod (m := 2 ^ 32), ← Int.bmod_emod (x := n) (m := 2 ^ 32)]
    exact congrArg (· % ((2 ^ 32 : Nat) : Int)) h
  rw [Int.emod_eq_of_lt (by omega) (by omega), Int.emod_eq_of_lt (by omega) (by omega)] at hmod
  exact Int.ofNat.inj hmod

def UrlHost (host : CString) : Prop := host ∈ hostRegex.lang

theorem UrlHost.ne_null {host : CString} (hhost : UrlHost host) : host ≠ lit "(null)" := by
  rintro rfl
  have hdecides := (Regex.accepts_iff hostRegex (lit "(null)")).mpr hhost
  exact absurd hdecides (by decide)

/-- Different hosts and ports have different keys. -/
theorem sftpCacheKey_injective {host : CString} {host' : Option CString} {port port' : Int} (hhost : UrlHost host)
    (h : sftpCacheKey (some host) port = sftpCacheKey host' port') : host' = some host ∧ port = port' := by
  simp only [sftpCacheKey, lit, List.append_assoc] at h
  obtain ⟨hhosts, hports⟩ := append_colon_injective (fun _ => ne_colon_of_mem_showInt) (fun _ => ne_colon_of_mem_showInt) h
  refine ⟨?_, showInt_injective hports⟩
  cases host' with
  | none => exact absurd hhosts hhost.ne_null
  | some other => rw [show host = other from hhosts]

variable {url : CString}

/-- What parsing leaves of a URL. -/
theorem parsed_host_port {parsed : Gfal2Uri} {err : Option GError} (h : gfal2ParseUri url = ⟨some parsed, err⟩) :
    (∀ host ∈ parsed.host, UrlHost host) ∧ parsed.port < 2 ^ 32 := by
  obtain ⟨pieces, -, -, -, hparse⟩ := gfal2ParseUri_spec url
  rw [h] at hparse
  split at hparse
  · obtain rfl := Option.some.inj (congrArg Ret.val hparse)
    simp [UriPieces.fields]
  · obtain rfl := Option.some.inj (congrArg Ret.val hparse)
    refine ⟨fun host hhost => ?_, by simp [UriPieces.fields]⟩
    obtain rfl := Option.some.inj hhost
    exact nil_mem_opt _
  · rename_i authority _ _
    obtain ⟨m, -, hm⟩ := parseAuthority_spec authority
    obtain rfl := Option.some.inj (congrArg Ret.val (hparse.trans (hm _)))
    constructor
    · intro host hhost
      have hmem := m.host_mem
      rw [show m.host = some host from hhost, component_some, List.append_nil, List.nil_append] at hmem
      exact hmem
    · cases hport : m.port with
      | none => simp [UriPieces.fields]
      | some digits => simpa [hport, portOf] using Nat.mod_lt _ (by decide)

/-! ### What is known of a session -/

def SftpExchange.session : SftpExchange → Nat
  | connect session .. => session
  | handshake session => session
  | userauthList session _ => session
  | userauthPublickey session .. => session
  | userauthPassword session .. => session
  | sftpInit session => session
  | keepalive session => session
  | disconnect session => session
  | call session _ => session

/-- The host and the port that an exchange connects its session to. -/
def SftpExchange.address : SftpExchange → Option (CString × Nat)
  | connect _ host port true => some (host, port)
  | _ => none

def SftpExchange.user : SftpExchange → Option CString
  | userauthPublickey _ user _ _ _ true => some user
  | userauthPassword _ user _ true => some user
  | _ => none

/-- The first that the exchanges of a session tell. -/
def toldOf {α : Type} (told : SftpExchange → Option α) (made : SftpHistory) (session : Nat) : Option α :=
  made.findSome? fun entry => if entry.session = session then told entry else none

def sessionAddress : SftpHistory → Nat → Option (CString × Nat) := toldOf SftpExchange.address

/-- Whom a session was authenticated as. -/
def sessionUser : SftpHistory → Nat → Option CString := toldOf SftpExchange.user

section Told

variable {α : Type} {told : SftpExchange → Option α} {made later : SftpHistory} {session : Nat}

theorem toldOf_append : toldOf told (made ++ later) session = (toldOf told made session).or (toldOf told later session) :=
  List.findSome?_append

theorem toldOf_append_of_some {value : α} (h : toldOf told made session = some value) :
    toldOf told (made ++ later) session = some value := by
  rw [toldOf_append, h, Option.some_or]

theorem toldOf_of_none (h : ∀ entry ∈ made, entry.session = session → told entry = none) : toldOf told made session = none := by
  rw [toldOf, List.findSome?_eq_none_iff]
  intro entry hentry
  by_cases hsession : entry.session = session
  · rw [if_pos hsession, h entry hentry hsession]
  · rw [if_neg hsession]

end Told

/-! ### The connections that are cached and those in use -/

/-- A handle has a session that was connected to its host and port, and authenticated. -/
structure SftpHandle.Connected (context : SftpContext) (handle : SftpHandle) : Prop where
  begun : handle.session < context.world.plugin.sessions
  address : ∃ host port, handle.host = some host ∧ handle.port = portInt port ∧ UrlHost host ∧ port < 2 ^ 32 ∧
    sessionAddress context.world.made handle.session = some (host, socketPort port)
  user : ∃ user, sessionUser context.world.made handle.session = some user

/-- Each connection is in the cache at most once, and not while it is in use. -/
structure CachedApart (context : SftpContext) (inUse : List SftpHandle) : Prop where
  once : ∀ key, ((context.sftpCache key).map (·.session)).Nodup
  oneKey : ∀ key, ∀ handle ∈ context.sftpCache key, ∀ key', ∀ handle' ∈ context.sftpCache key',
    handle.session = handle'.session → key = key'
  usedOnce : (inUse.map (·.session)).Nodup
  notUsed : ∀ key, ∀ handle ∈ context.sftpCache key, ∀ used ∈ inUse, handle.session ≠ used.session

/-- The cache with the connections in use: each is under its key, once, and connected; no exchange is about a session to come. -/
structure SftpSound (context : SftpContext) (inUse : List SftpHandle) : Prop where
  apart : CachedApart context inUse
  keyed : ∀ key, ∀ handle ∈ context.sftpCache key, key = sftpCacheKey handle.host handle.port
  cached : ∀ key, ∀ handle ∈ context.sftpCache key, handle.Connected context
  used : ∀ handle ∈ inUse, handle.Connected context
  begun : ∀ entry ∈ context.world.made, entry.session < context.world.plugin.sessions

/-- Exchanges about sessions that were begun are made, and nothing else. -/
def Talks (before after : SftpContext) : Prop :=
  ∃ later, after = { before with world := { before.world with made := before.world.made ++ later } } ∧
    ∀ entry ∈ later, entry.session < before.world.plugin.sessions

namespace Talks

end Talks

section Sound

variable {context context' : SftpContext} {inUse : List SftpHandle} {handle : SftpHandle}

theorem SftpHandle.Connected.talks (hconnected : handle.Connected context) (htalks : Talks context context') :
    handle.Connected context' := by
  obtain ⟨later, rfl, -⟩ := htalks
  obtain ⟨host, port, hhost, hport, hurl, hlt, haddress⟩ := hconnected.address
  obtain ⟨user, huser⟩ := hconnected.user
  exact ⟨hconnected.begun, ⟨host, port, hhost, hport, hurl, hlt, toldOf_append_of_some haddress⟩,
    ⟨user, toldOf_append_of_some huser⟩⟩

/-- What is said to the servers leaves the connections as they are. -/
theorem SftpSound.talks (hsound : SftpSound context inUse) (htalks : Talks context context') : SftpSound context' inUse := by
  have hconnected (handle : SftpHandle) (h : handle.Connected context) : handle.Connected context' := h.talks htalks
  obtain ⟨later, rfl, hlater⟩ := htalks
  refine ⟨⟨hsound.apart.once, hsound.apart.oneKey, hsound.apart.usedOnce, hsound.apart.notUsed⟩, hsound.keyed,
    fun key handle hmem => hconnected handle (hsound.cached key handle hmem),
    fun handle hmem => hconnected handle (hsound.used handle hmem), fun entry hentry => ?_⟩
  rcases List.mem_append.mp hentry with hentry | hentry
  · exact hsound.begun entry hentry
  · exact hlater entry hentry

/-- The context with another list of connections under a key. -/
def Gfal2Context.withCached (context : SftpContext) (key : CString) (list : List SftpHandle) : SftpContext :=
  { context with world := { context.world with
      plugin := { context.world.plugin with cache := Function.update context.world.plugin.cache key list } } }

theorem setCached_apply (key : CString) (list : List SftpHandle) :
    setCached key list context = .ok ((), context.withCached key list) := by
  rw [setCached, modify_apply, Gfal2Context.withCached]

theorem sftpCache_withCached (key : CString) (list : List SftpHandle) :
    (context.withCached key list).sftpCache = Function.update context.sftpCache key list := by
  rw [Gfal2Context.withCached, Gfal2Context.sftpCache, Gfal2Context.sftpCache]

theorem SftpHandle.Connected.withCached (hconnected : handle.Connected context) (key : CString) (list : List SftpHandle) :
    handle.Connected (context.withCached key list) :=
  ⟨hconnected.begun, hconnected.address, hconnected.user⟩

/-- A connection that is taken from the cache is in use. -/
theorem SftpSound.pop (hsound : SftpSound context inUse) {key : CString} {rest : List SftpHandle}
    (hcached : context.sftpCache key = handle :: rest) : SftpSound (context.withCached key rest) (handle :: inUse) := by
  have hhandle : handle ∈ context.sftpCache key := by simp [hcached]
  have hmem (k : CString) (h : SftpHandle) (hin : h ∈ (context.withCached key rest).sftpCache k) : h ∈ context.sftpCache k := by
    rw [sftpCache_withCached] at hin
    by_cases hk : k = key
    · subst hk
      rw [Function.update_self] at hin
      exact hcached ▸ List.mem_cons_of_mem handle hin
    · rwa [Function.update_of_ne hk] at hin
  have honce := hsound.apart.once key
  rw [hcached, List.map_cons, List.nodup_cons] at honce
  refine ⟨⟨?_, ?_, ?_, ?_⟩, ?_, ?_, ?_, hsound.begun⟩
  · intro k
    rw [sftpCache_withCached]
    by_cases hk : k = key
    · subst hk
      rw [Function.update_self]
      exact honce.2
    · rw [Function.update_of_ne hk]
      exact hsound.apart.once k
  · intro k h hin k' h' hin' hsession
    exact hsound.apart.oneKey k h (hmem k h hin) k' h' (hmem k' h' hin') hsession
  · rw [List.map_cons, List.nodup_cons]
    refine ⟨fun hused => ?_, hsound.apart.usedOnce⟩
    obtain ⟨used, hused, hsession⟩ := List.mem_map.mp hused
    exact hsound.apart.notUsed key handle hhandle used hused hsession.symm
  · intro k h hin used hused hsession
    rcases List.mem_cons.mp hused with rfl | hused
    · have hk := hsound.apart.oneKey k h (hmem k h hin) key used hhandle hsession
      subst hk
      rw [sftpCache_withCached, Function.update_self] at hin
      exact honce.1 (hsession ▸ List.mem_map_of_mem hin)
    · exact hsound.apart.notUsed k h (hmem k h hin) used hused hsession
  · exact fun k h hin => hsound.keyed k h (hmem k h hin)
  · exact fun k h hin => (hsound.cached k h (hmem k h hin)).withCached key rest
  · intro h hin
    rcases List.mem_cons.mp hin with rfl | hin
    · exact (hsound.cached key h hhandle).withCached key rest
    · exact (hsound.used h hin).withCached key rest

/-- A connection that is released is cached under its own key. -/
theorem SftpSound.push (hsound : SftpSound context (handle :: inUse)) :
    SftpSound (context.withCached (sftpCacheKey handle.host handle.port)
      (handle :: context.sftpCache (sftpCacheKey handle.host handle.port))) inUse := by
  let key := sftpCacheKey handle.host handle.port
  let list := handle :: context.sftpCache key
  have hmem (k : CString) (h : SftpHandle) (hin : h ∈ (context.withCached key list).sftpCache k) :
      h ∈ context.sftpCache k ∨ h = handle ∧ k = key := by
    rw [sftpCache_withCached] at hin
    by_cases hk : k = key
    · subst hk
      rw [Function.update_self] at hin
      rcases List.mem_cons.mp hin with rfl | hin
      · exact .inr ⟨by trivial, by trivial⟩
      · exact .inl hin
    · rw [Function.update_of_ne hk] at hin
      exact .inl hin
  have hnew (k : CString) (h : SftpHandle) (hin : h ∈ context.sftpCache k) : h.session ≠ handle.session :=
    hsound.apart.notUsed k h hin handle (by simp)
  have husedOnce := hsound.apart.usedOnce
  rw [List.map_cons, List.nodup_cons] at husedOnce
  have hconnected := hsound.used handle (by simp)
  refine ⟨⟨?_, ?_, husedOnce.2, ?_⟩, ?_, ?_, ?_, hsound.begun⟩
  · intro k
    rw [sftpCache_withCached]
    by_cases hk : k = key
    · subst hk
      rw [Function.update_self, List.map_cons, List.nodup_cons]
      refine ⟨fun hin => ?_, hsound.apart.once key⟩
      obtain ⟨h, hin, hsession⟩ := List.mem_map.mp hin
      exact hnew key h hin hsession
    · rw [Function.update_of_ne hk]
      exact hsound.apart.once k
  · intro k h hin k' h' hin' hsession
    rcases hmem k h hin with hold | ⟨rfl, rfl⟩ <;> rcases hmem k' h' hin' with hold' | ⟨rfl, rfl⟩
    · exact hsound.apart.oneKey k h hold k' h' hold' hsession
    · exact absurd hsession (hnew k h hold)
    · exact absurd hsession.symm (hnew k' h' hold')
    · trivial
  · intro k h hin used hused hsession
    rcases hmem k h hin with hin | ⟨rfl, rfl⟩
    · exact hsound.apart.notUsed k h hin used (List.mem_cons_of_mem _ hused) hsession
    · exact husedOnce.1 (hsession ▸ List.mem_map_of_mem hused)
  · intro k h hin
    rcases hmem k h hin with hin | ⟨rfl, rfl⟩
    · exact hsound.keyed k h hin
    · trivial
  · intro k h hin
    rcases hmem k h hin with hin | ⟨rfl, rfl⟩
    · exact (hsound.cached k h hin).withCached key list
    · exact hconnected.withCached key list
  · intro h hin
    exact (hsound.used h (List.mem_cons_of_mem _ hin)).withCached key list

theorem SftpSound.drop (hsound : SftpSound context (handle :: inUse)) : SftpSound context inUse := by
  have husedOnce := hsound.apart.usedOnce
  rw [List.map_cons, List.nodup_cons] at husedOnce
  exact ⟨⟨hsound.apart.once, hsound.apart.oneKey, husedOnce.2,
      fun key h hin used hused => hsound.apart.notUsed key h hin used (List.mem_cons_of_mem _ hused)⟩,
    hsound.keyed, hsound.cached, fun h hin => hsound.used h (List.mem_cons_of_mem _ hin), hsound.begun⟩

/-- In which order the connections in use stand does not matter. -/
theorem SftpSound.perm (hsound : SftpSound context inUse) {inUse' : List SftpHandle} (hperm : inUse.Perm inUse') :
    SftpSound context inUse' :=
  ⟨⟨hsound.apart.once, hsound.apart.oneKey, (hperm.map _).nodup_iff.mp hsound.apart.usedOnce,
      fun key h hin used hused => hsound.apart.notUsed key h hin used (hperm.mem_iff.mpr hused)⟩,
    hsound.keyed, hsound.cached, fun h hin => hsound.used h (hperm.mem_iff.mpr hin), hsound.begun⟩

/-- A handle may be given another path. -/
theorem SftpSound.withPath (hsound : SftpSound context (handle :: inUse)) (path : Option CString) :
    SftpSound context ({ handle with path := path } :: inUse) := by
  refine ⟨⟨hsound.apart.once, hsound.apart.oneKey, by simpa using hsound.apart.usedOnce, ?_⟩, hsound.keyed, hsound.cached, ?_,
    hsound.begun⟩
  · intro key h hin used hused
    rcases List.mem_cons.mp hused with rfl | hused
    · exact hsound.apart.notUsed key h hin handle (by simp)
    · exact hsound.apart.notUsed key h hin used (List.mem_cons_of_mem _ hused)
  · intro h hin
    rcases List.mem_cons.mp hin with rfl | hin
    · have hconnected := hsound.used handle (by simp)
      exact ⟨hconnected.begun, hconnected.address, hconnected.user⟩
    · exact hsound.used h (List.mem_cons_of_mem _ hin)

/-- Nothing is known of a session to come. -/
theorem SftpSound.toldOf_new {α : Type} (hsound : SftpSound context inUse) (told : SftpExchange → Option α) {session : Nat}
    (hnew : context.world.plugin.sessions ≤ session) : toldOf told context.world.made session = none := by
  apply toldOf_of_none
  intro entry hentry hsession
  have hbegun := hsound.begun entry hentry
  omega

def Gfal2Context.beginSession (context : SftpContext) : SftpContext :=
  { context with world := { context.world with
      plugin := { context.world.plugin with sessions := context.world.plugin.sessions + 1 } } }

theorem newSession_apply : newSession context = .ok (context.world.plugin.sessions, context.beginSession) := by
  rw [newSession, get_bind_apply, modify_bind_apply, pure_apply, Gfal2Context.beginSession]

theorem SftpSound.begin (hsound : SftpSound context inUse) : SftpSound context.beginSession inUse := by
  have hconnected (handle : SftpHandle) (h : handle.Connected context) : handle.Connected context.beginSession :=
    ⟨Nat.lt_succ_of_lt h.begun, h.address, h.user⟩
  exact ⟨⟨hsound.apart.once, hsound.apart.oneKey, hsound.apart.usedOnce, hsound.apart.notUsed⟩, hsound.keyed,
    fun key handle hmem => hconnected handle (hsound.cached key handle hmem),
    fun handle hmem => hconnected handle (hsound.used handle hmem),
    fun entry hentry => Nat.lt_succ_of_lt (hsound.begun entry hentry)⟩

/-- A new session that was connected and authenticated is another connection. -/
theorem SftpSound.add (hsound : SftpSound context inUse) (hconnected : handle.Connected context)
    (hcached : ∀ key, ∀ h ∈ context.sftpCache key, h.session ≠ handle.session)
    (hused : ∀ h ∈ inUse, h.session ≠ handle.session) :
    SftpSound context (handle :: inUse) := by
  refine ⟨⟨hsound.apart.once, hsound.apart.oneKey, ?_, ?_⟩, hsound.keyed, hsound.cached, ?_, hsound.begun⟩
  · rw [List.map_cons, List.nodup_cons]
    refine ⟨fun hin => ?_, hsound.apart.usedOnce⟩
    obtain ⟨h, hin, hsession⟩ := List.mem_map.mp hin
    exact hused h hin hsession
  · intro key h hin used hin' hsession
    rcases List.mem_cons.mp hin' with rfl | hin'
    · exact hcached key h hin hsession
    · exact hsound.apart.notUsed key h hin used hin' hsession
  · intro h hin
    rcases List.mem_cons.mp hin with rfl | hin
    · exact hconnected
    · exact hsound.used h hin

end Sound

/-! ### A new connection -/

/-- Exchanges about one session are made, and nothing else. -/
def TalksOf (session : Nat) (before after : SftpContext) : Prop :=
  ∃ later, after = { before with world := { before.world with made := before.world.made ++ later } } ∧
    ∀ entry ∈ later, entry.session = session

namespace TalksOf

variable {session : Nat} {before after : SftpContext}

theorem refl (context : SftpContext) : TalksOf session context context := ⟨[], by simp, by simp⟩

theorem trans (a b c : SftpContext) (hab : TalksOf session a b) (hbc : TalksOf session b c) : TalksOf session a c := by
  obtain ⟨first, rfl, hfirst⟩ := hab
  obtain ⟨last, rfl, hlast⟩ := hbc
  refine ⟨first ++ last, by simp, fun entry hentry => ?_⟩
  rcases List.mem_append.mp hentry with hentry | hentry
  · exact hfirst entry hentry
  · exact hlast entry hentry

theorem talks (htalks : TalksOf session before after) (hbegun : session < before.world.plugin.sessions) : Talks before after := by
  obtain ⟨later, rfl, hlater⟩ := htalks
  exact ⟨later, by trivial, fun entry hentry => hlater entry hentry ▸ hbegun⟩

theorem of_exchange {α : Type} {answer : SftpHistory → α} {record : α → SftpExchange}
    (hrecord : ∀ value, (record value).session = session) :
    Exec.Within (TalksOf session) (exchange answer record : Sftp α) := by
  intro context value context' h
  obtain ⟨rfl, rfl⟩ := ok_inj h
  exact ⟨[_], by trivial, by simpa using hrecord _⟩

end TalksOf

/-- The user a URL names: the one before the colon of its userinfo, without it that of the configuration, else the one who is logged
in. -/
def namedUser (servers : SftpServers) (config : Config) (parsed : Gfal2Uri) : Option CString :=
  match parsed.userinfo with
  | some userinfo => some (userinfo.takeWhile (· ≠ ':'))
  | none => (config.optString sftpConfigGroup (lit "USER")).or servers.loginName

section Authn

variable {servers : SftpServers} {context : SftpContext} {session : Nat} {user : CString} {params : AuthnParams} {parsed : Gfal2Uri}

theorem takeWhile_ne_eq_take {text : CString} {c : Char} : text.takeWhile (· ≠ c) = text.take (text.findIdx (· == c)) := by
  rw [List.takeWhile_eq_take_findIdx_not]
  congr
  funext d
  simp [beq_eq_decide]

theorem authnParams_user (config : Config) : (gfalSftpGetAuthnParams servers config parsed).user = namedUser servers config parsed := by
  rw [gfalSftpGetAuthnParams, namedUser]
  cases parsed.userinfo with
  | none => cases config.optString sftpConfigGroup (lit "USER") <;> trivial
  | some userinfo =>
      dsimp only
      rw [takeWhile_ne_eq_take]
      cases hseparator : strchr userinfo ':' with
      | none =>
          have hall := List.findIdx?_eq_none_iff_findIdx_eq.mp hseparator
          rw [hall, List.take_length]
      | some separator =>
          have hfirst := (List.findIdx?_eq_some_iff_findIdx_eq.mp hseparator).2
          rw [hfirst]

theorem sessionUser_append_singleton {made : SftpHistory} {entry : SftpExchange} (hsession : entry.session = session)
    (hnone : sessionUser made session = none) : sessionUser (made ++ [entry]) session = entry.user := by
  rw [sessionUser, toldOf_append, show toldOf SftpExchange.user made session = none from hnone, Option.none_or]
  simp [toldOf, hsession]

theorem exchange_user {answer : SftpHistory → Bool} {record : Bool → SftpExchange}
    (hsession : ∀ value, (record value).session = session)
    (huser : ∀ accepted, (record accepted).user = if accepted then some user else none) :
    Ensures (exchange answer record : Sftp Bool) context fun accepted context' =>
      TalksOf session context context' ∧ (sessionUser context.world.made session = none →
        sessionUser context'.world.made session = if accepted then some user else none) := by
  intro accepted context' h
  refine ⟨TalksOf.of_exchange hsession context accepted context' h, fun hnone => ?_⟩
  obtain ⟨rfl, rfl⟩ := ok_inj h
  rw [sessionUser_append_singleton (hsession _) hnone, huser]

/-- A method that is accepted authenticates the user. -/
theorem tryMethod_user (method : CString) : Ensures (tryMethod servers session user params method) context fun accepted context' =>
    TalksOf session context context' ∧ (sessionUser context.world.made session = none →
      sessionUser context'.world.made session = if accepted then some user else none) := by
  rw [tryMethod]
  refine Ensures.ite (fun _ => ?_) fun _ => Ensures.ite (fun _ => ?_) fun _ => ?_
  · exact exchange_user (fun _ => by trivial) fun accepted => by cases accepted <;> trivial
  · cases params.passwd with
    | none => exact Ensures.fault _
    | some passwd => exact exchange_user (fun _ => by trivial) fun accepted => by cases accepted <;> trivial
  · exact Ensures.pure ⟨.refl context, fun hnone => hnone⟩

theorem tryMethods_user (methods : List CString) :
    Ensures (tryMethods servers session user params methods) context fun accepted context' =>
      TalksOf session context context' ∧ (sessionUser context.world.made session = none →
        sessionUser context'.world.made session = if accepted then some user else none) := by
  induction methods generalizing context with
  | nil => exact Ensures.pure ⟨.refl context, fun hnone => hnone⟩
  | cons method methods ih =>
      rw [tryMethods]
      refine (tryMethod_user method).bind fun accepted context' hmethod => ?_
      refine Ensures.ite (fun haccepted => ?_) fun hrefused => ?_
      · refine Ensures.pure ⟨hmethod.1, fun hnone => ?_⟩
        rw [hmethod.2 hnone, haccepted]
      · refine ih.mono fun last context'' hrest => ⟨.trans _ _ _ hmethod.1 hrest.1, fun hnone => hrest.2 ?_⟩
        rw [hmethod.2 hnone, if_neg hrefused]

/-- A session that is authenticated belongs to the user that is named. -/
theorem gfalSftpAuthn_user : Ensures (gfalSftpAuthn servers session parsed) context fun refused context' =>
    TalksOf session context context' ∧ (refused = none → sessionUser context.world.made session = none →
      ∃ user, namedUser servers context.config parsed = some user ∧ sessionUser context'.world.made session = some user) := by
  intro refused last h
  rw [gfalSftpAuthn, get_bind_apply] at h
  cases huser : (gfalSftpGetAuthnParams servers context.config parsed).user with
  | none => simp [huser] at h
  | some user =>
      rw [huser] at h
      dsimp only at h
      obtain ⟨list, listed, hlist, h⟩ := bind_eq_ok.mp h
      obtain ⟨accepted, tried, hmethods, h⟩ := bind_eq_ok.mp h
      have hlisted : TalksOf session context listed := TalksOf.of_exchange (fun _ => by rfl) context list listed hlist
      have hstill (hnone : sessionUser context.world.made session = none) : sessionUser listed.world.made session = none := by
        obtain ⟨-, rfl⟩ := ok_inj hlist
        exact sessionUser_append_singleton (by rfl) hnone
      obtain ⟨htried, haccepted⟩ := tryMethods_user _ accepted tried hmethods
      cases accepted with
      | false =>
          obtain ⟨rfl, rfl⟩ := ok_inj h
          refine ⟨.trans _ _ _ hlisted htried, fun hrefused => ?_⟩
          cases hrefused
      | true =>
          obtain ⟨rfl, rfl⟩ := ok_inj h
          refine ⟨.trans _ _ _ hlisted htried, fun _ hnone => ⟨user, ?_, haccepted (hstill hnone)⟩⟩
          rw [← authnParams_user, huser]

/-- A socket that is there is connected to the host and the port of the URL. -/
theorem gfalSftpSocket_address : Ensures (gfalSftpSocket servers session parsed) context fun refused context' =>
    TalksOf session context context' ∧
      (sessionUser context.world.made session = none → sessionUser context'.world.made session = none) ∧
      (refused = none → sessionAddress context.world.made session = none →
        ∃ host, parsed.host = some host ∧ sessionAddress context'.world.made session = some (host, socketPort parsed.port)) := by
  rw [gfalSftpSocket]
  cases parsed.host with
  | none => exact Ensures.pure ⟨.refl context, fun hnone => hnone, fun hrefused => by cases hrefused⟩
  | some host =>
      intro refused last h
      refine ⟨TalksOf.of_exchange (fun _ => by rfl) context refused last h, ?_, ?_⟩
      · intro hnone
        obtain ⟨-, rfl⟩ := ok_inj h
        exact sessionUser_append_singleton (by rfl) hnone
      · intro hrefused hnone
        obtain ⟨hanswer, rfl⟩ := ok_inj h
        refine ⟨host, by trivial, ?_⟩
        rw [sessionAddress, toldOf_append, show toldOf SftpExchange.address context.world.made session = none from hnone,
          Option.none_or, show servers.connect host (socketPort parsed.port) context.world.made = none from hanswer.trans hrefused]
        simp [toldOf, SftpExchange.session, SftpExchange.address]

theorem makeRequest_talks {α : Type} {request : SftpExchange} (answer : SftpHistory → α) (hsession : request.session = session)
    (huser : request.user = none) : Ensures (makeRequest request answer : Sftp α) context fun _ context' =>
      TalksOf session context context' ∧
        (sessionUser context.world.made session = none → sessionUser context'.world.made session = none) := by
  intro value last h
  refine ⟨TalksOf.of_exchange (fun _ => hsession) context value last h, fun hnone => ?_⟩
  obtain ⟨-, rfl⟩ := ok_inj h
  exact (sessionUser_append_singleton hsession hnone).trans huser

theorem TalksOf.told {α : Type} {told : SftpExchange → Option α} {context' : SftpContext} (htalks : TalksOf session context context')
    {value : α} (h : toldOf told context.world.made session = some value) : toldOf told context'.world.made session = some value := by
  obtain ⟨later, rfl, -⟩ := htalks
  exact toldOf_append_of_some h

theorem TalksOf.config_eq {context' : SftpContext} (htalks : TalksOf session context context') : context'.config = context.config := by
  obtain ⟨later, rfl, -⟩ := htalks
  trivial

/-- What a new handle is: a connection to the host and the port of the URL, as the user that is named. -/
def NewConnection (servers : SftpServers) (config : Config) (parsed : Gfal2Uri) (context' : SftpContext) (handle : SftpHandle) : Prop :=
  ∃ host, parsed.host = some host ∧ sessionAddress context'.world.made handle.session = some (host, socketPort parsed.port) ∧
    sessionUser context'.world.made handle.session = namedUser servers config parsed

/-- The connections after a new one was tried. -/
theorem gfalSftpNewHandle_sound {inUse : List SftpHandle} (hsound : SftpSound context inUse)
    (hparsed : (∀ host ∈ parsed.host, UrlHost host) ∧ parsed.port < 2 ^ 32) :
    Ensures (gfalSftpNewHandle servers parsed) context fun answer context' =>
      match answer.val with
      | none => SftpSound context' inUse
      | some handle => SftpSound context' (handle :: inUse) ∧ NewConnection servers context.config parsed context' handle := by
  let session := context.world.plugin.sessions
  have hbegun := hsound.begin
  have hlt : session < context.beginSession.world.plugin.sessions := Nat.lt_succ_self _
  have hnoUser : sessionUser context.beginSession.world.made session = none := hsound.toldOf_new _ (Nat.le_refl _)
  have hnoAddress : sessionAddress context.beginSession.world.made session = none := hsound.toldOf_new _ (Nat.le_refl _)
  rw [gfalSftpNewHandle]
  intro answer last h
  rw [bind_of_ok newSession_apply] at h
  obtain ⟨refused, connected, hconnect, h⟩ := bind_eq_ok.mp h
  obtain ⟨htalks, huser, haddress⟩ := gfalSftpSocket_address refused connected hconnect
  cases refused with
  | some e =>
      obtain ⟨rfl, rfl⟩ := ok_inj h
      exact hbegun.talks (htalks.talks hlt)
  | none =>
      obtain ⟨host, hhost, hconnected⟩ := haddress (by trivial) hnoAddress
      obtain ⟨refused, shaken, hshake, h⟩ := bind_eq_ok.mp h
      obtain ⟨htalks', huser'⟩ := makeRequest_talks (servers.handshake session) (by rfl) (by rfl) refused shaken hshake
      have hshaken := TalksOf.trans _ _ _ htalks htalks'
      cases refused with
      | some e =>
          obtain ⟨rfl, rfl⟩ := ok_inj h
          exact hbegun.talks (hshaken.talks hlt)
      | none =>
          obtain ⟨refused, authenticated, hauthn, h⟩ := bind_eq_ok.mp h
          obtain ⟨htalks'', hnamed⟩ := gfalSftpAuthn_user refused authenticated hauthn
          have hauthenticated := TalksOf.trans _ _ _ hshaken htalks''
          cases refused with
          | some e =>
              obtain ⟨rfl, rfl⟩ := ok_inj h
              exact hbegun.talks (hauthenticated.talks hlt)
          | none =>
              obtain ⟨user, hname, hsession⟩ := hnamed (by trivial) (huser' (huser hnoUser))
              obtain ⟨refused, started, hinit, h⟩ := bind_eq_ok.mp h
              obtain ⟨hlast, -⟩ := makeRequest_talks (servers.sftpInit session) (by rfl) (by rfl) refused started hinit
              have hall := TalksOf.trans _ _ _ hauthenticated hlast
              have hsound' := hbegun.talks (hall.talks hlt)
              cases refused with
              | some e =>
                  obtain ⟨rfl, rfl⟩ := ok_inj h
                  exact hsound'
              | none =>
                  obtain ⟨rfl, rfl⟩ := ok_inj h
                  have haddress' := hlast.told (htalks''.told (htalks'.told hconnected))
                  have huser'' := hlast.told hsession
                  have hconfig : shaken.config = context.config := hshaken.config_eq
                  rw [hconfig] at hname
                  have hconnection : SftpHandle.Connected started ⟨session, parsed.host, portInt parsed.port, none⟩ := by
                    refine ⟨?_, ⟨host, parsed.port, hhost, by dsimp only, hparsed.1 host hhost, hparsed.2, haddress'⟩, user,
                      huser''⟩
                    obtain ⟨later, rfl, -⟩ := hall
                    exact hlt
                  have hcached : started.sftpCache = context.sftpCache := by
                    obtain ⟨later, rfl, -⟩ := hall
                    trivial
                  refine ⟨hsound'.add hconnection ?_ ?_, host, hhost, haddress', huser''.trans hname.symm⟩
                  · intro key other hother
                    rw [hcached] at hother
                    exact Nat.ne_of_lt (hsound.cached key other hother).begun
                  · intro other hother
                    exact Nat.ne_of_lt (hsound.used other hother).begun

end Authn

/-! ### Connecting for a URL -/

variable {call : Option CString → SftpCall}

section Connecting

variable (servers : SftpServers)

/-- A connection is the one a URL asks for: to its host and port, the default one where it has none, and as the user it names. -/
def ConnectedFor (config : Config) (parsed : Gfal2Uri) (made : SftpHistory) (handle : SftpHandle) : Prop :=
  ∃ host user, parsed.host = some host ∧ namedUser servers config parsed = some user ∧
    sessionAddress made handle.session = some (host, if parsed.port = 0 then 22 else parsed.port) ∧
    sessionUser made handle.session = some user

/-- The port of a URL is one of TCP, and the first connection that is cached for its host and port, if it is still alive, was
authenticated as the user the URL names. -/
def UsersAgree (context : SftpContext) (parsed : Gfal2Uri) : Prop :=
  parsed.port < 2 ^ 16 ∧ ∀ handle ∈ (context.sftpCache (sftpCacheKey parsed.host (portInt parsed.port))).head?,
    servers.keepalive handle.session context.world.made = true →
      sessionUser context.world.made handle.session = namedUser servers context.config parsed

variable {servers} {context context' : SftpContext} {inUse : List SftpHandle} {parsed : Gfal2Uri} {handle : SftpHandle}

theorem socketPort_eq_iff (port : Nat) : socketPort port = (if port = 0 then 22 else port) ↔ port < 2 ^ 16 := by
  rw [socketPort]
  by_cases hport : port = 0
  · simp [hport]
  · rw [if_pos hport, if_neg hport]
    exact Nat.mod_eq_iff_lt (by decide)

/-- A connection to the host and the port of a URL is the one it asks for exactly if the port is one of TCP and the user agrees. -/
theorem connectedFor_iff {config : Config} {made : SftpHistory} {host : CString} (hhost : parsed.host = some host)
    (haddress : sessionAddress made handle.session = some (host, socketPort parsed.port))
    (huser : ∃ user, sessionUser made handle.session = some user) :
    ConnectedFor servers config parsed made handle ↔
      parsed.port < 2 ^ 16 ∧ sessionUser made handle.session = namedUser servers config parsed := by
  obtain ⟨user, huser⟩ := huser
  constructor
  · rintro ⟨host', user', hhost', hnamed, haddress', huser'⟩
    have hport := congrArg Prod.snd (Option.some.inj (haddress.symm.trans haddress'))
    exact ⟨(socketPort_eq_iff parsed.port).mp hport, huser'.trans hnamed.symm⟩
  · rintro ⟨hport, hagrees⟩
    refine ⟨host, user, hhost, hagrees.symm.trans huser, ?_, huser⟩
    rw [haddress, (socketPort_eq_iff parsed.port).mpr hport]

/-- A new connection is the one a URL asks for exactly if the port is one of TCP. -/
theorem NewConnection.connectedFor_iff {config : Config} (hnew : NewConnection servers config parsed context' handle)
    (huser : ∃ user, sessionUser context'.world.made handle.session = some user) (path : Option CString) :
    ConnectedFor servers config parsed context'.world.made { handle with path := path } ↔ parsed.port < 2 ^ 16 := by
  obtain ⟨host, hhost, haddress, hnamed⟩ := hnew
  exact (Gfal2.connectedFor_iff hhost haddress huser).trans (and_iff_left hnamed)

theorem gfalSftpCachePop_apply (context : SftpContext) (host : Option CString) (port : Int) : gfalSftpCachePop host port context =
    match context.sftpCache (sftpCacheKey host port) with
    | [] => .ok (none, context)
    | handle :: list => .ok (some handle, context.withCached (sftpCacheKey host port) list) := by
  rw [gfalSftpCachePop, get_bind_apply]
  cases context.sftpCache (sftpCacheKey host port) with
  | nil => exact pure_apply _ _
  | cons handle list => exact bind_of_ok (setCached_apply _ _)

/-- A new connection is in use, and the one the URL asks for exactly if the port is one of TCP. -/
theorem gfalSftpNewHandle_connected (config : Config) (hconfig : context.config = config) (hsound : SftpSound context inUse)
    (hparsed : (∀ host ∈ parsed.host, UrlHost host) ∧ parsed.port < 2 ^ 32) :
    Ensures (gfalSftpNewHandle servers parsed) context fun answer context' =>
      match answer.val with
      | none => SftpSound context' inUse
      | some handle => SftpSound context' ({ handle with path := parsed.path } :: inUse) ∧
          (ConnectedFor servers config parsed context'.world.made { handle with path := parsed.path } ↔ parsed.port < 2 ^ 16) := by
  refine (gfalSftpNewHandle_sound hsound hparsed).mono fun answer context' hnew => ?_
  cases hanswer : answer.val with
  | none => rwa [hanswer] at hnew
  | some handle =>
      rw [hanswer, hconfig] at hnew
      exact ⟨hnew.1.withPath _, hnew.2.connectedFor_iff (hnew.1.used handle (by simp)).user _⟩

/-- A connection that is cached where a URL looks is one to its host and port. -/
theorem SftpSound.cached_here (hsound : SftpSound context inUse)
    (hcached : handle ∈ context.sftpCache (sftpCacheKey parsed.host (portInt parsed.port))) (hlt : parsed.port < 2 ^ 32) :
    ∃ host user, parsed.host = some host ∧
      sessionAddress context.world.made handle.session = some (host, socketPort parsed.port) ∧
      sessionUser context.world.made handle.session = some user := by
  have hconnected := hsound.cached _ handle hcached
  obtain ⟨host, port, hhost, hport, hurl, hlt', haddress⟩ := hconnected.address
  obtain ⟨user, huser⟩ := hconnected.user
  have hkey := hsound.keyed _ handle hcached
  rw [hhost, hport] at hkey
  obtain ⟨hhost', hport'⟩ := sftpCacheKey_injective hurl hkey.symm
  obtain rfl := portInt_injective hlt' hlt hport'
  exact ⟨host, user, hhost', haddress, huser⟩

/-- What is taken from the cache, or connected anew, is in use, and it is what the URL asks for exactly if the users agree. -/
theorem cachedOrNew_sound (hsound : SftpSound context inUse) (hparsed : (∀ host ∈ parsed.host, UrlHost host) ∧ parsed.port < 2 ^ 32) :
    Ensures (cachedOrNew servers parsed) context fun answer context' =>
      match answer.val with
      | none => SftpSound context' inUse
      | some handle => SftpSound context' ({ handle with path := parsed.path } :: inUse) ∧
          (ConnectedFor servers context.config parsed context'.world.made { handle with path := parsed.path } ↔
            UsersAgree servers context parsed) := by
  have hpop := gfalSftpCachePop_apply context parsed.host (portInt parsed.port)
  rw [cachedOrNew]
  intro answer last h
  cases hcached : context.sftpCache (sftpCacheKey parsed.host (portInt parsed.port)) with
  | nil =>
      rw [hcached] at hpop
      rw [bind_of_ok hpop] at h
      have hagree : UsersAgree servers context parsed ↔ parsed.port < 2 ^ 16 := by simp [UsersAgree, hcached]
      have hnew := gfalSftpNewHandle_connected context.config (by rfl) hsound hparsed answer last h
      cases hanswer : answer.val with
      | none =>
          dsimp only at hnew
          rwa [hanswer] at hnew
      | some handle =>
          dsimp only at hnew
          rw [hanswer] at hnew
          exact ⟨hnew.1, hnew.2.trans hagree.symm⟩
  | cons handle list =>
      rw [hcached] at hpop
      rw [bind_of_ok hpop] at h
      have htaken := hsound.pop hcached
      obtain ⟨alive, asked, hkeepalive, h⟩ := bind_eq_ok.mp h
      have halive := (ok_inj hkeepalive).1
      obtain ⟨htalks, -⟩ := makeRequest_talks (servers.keepalive handle.session) (by rfl) (by rfl) alive asked hkeepalive
      have hbegun := (htaken.used handle (by simp)).begun
      have hasked := htaken.talks (htalks.talks hbegun)
      have hagree : UsersAgree servers context parsed ↔ parsed.port < 2 ^ 16 ∧
          (alive = true → sessionUser context.world.made handle.session = namedUser servers context.config parsed) := by
        have halive' : servers.keepalive handle.session context.world.made = alive := halive
        simp [UsersAgree, hcached, halive']
      cases alive with
      | true =>
          obtain ⟨rfl, rfl⟩ := ok_inj h
          refine ⟨hasked.withPath _, ?_⟩
          have hhere : handle ∈ context.sftpCache (sftpCacheKey parsed.host (portInt parsed.port)) := by simp [hcached]
          obtain ⟨host, user, hhost, haddress, huser⟩ := hsound.cached_here hhere hparsed.2
          refine (connectedFor_iff hhost (htalks.told haddress) ⟨user, htalks.told huser⟩).trans (Iff.trans ?_ hagree.symm)
          have hsame : sessionUser asked.world.made handle.session = sessionUser context.world.made handle.session :=
            (htalks.told huser).trans huser.symm
          simp [hsame]
      | false =>
          obtain ⟨_, told, hdisconnect, h⟩ := bind_eq_ok.mp h
          obtain ⟨hgone, -⟩ := makeRequest_talks (fun _ => ()) (by rfl) (by rfl) () told hdisconnect
          have hboth := TalksOf.trans _ _ _ htalks hgone
          have hdropped := (htaken.talks (hboth.talks hbegun)).drop
          have hnew := gfalSftpNewHandle_connected context.config hboth.config_eq hdropped hparsed answer last h
          dsimp only at hnew
          cases hanswer : answer.val with
          | none => rwa [hanswer] at hnew
          | some handle =>
              rw [hanswer] at hnew
              exact ⟨hnew.1, hnew.2.trans (by simp [hagree])⟩

/-- A connection for a URL is in use, and it is the one the URL asks for exactly if the users agree. -/
theorem gfalSftpConnect_sound {err : Option GError} (hsound : SftpSound context inUse)
    (hparse : gfal2ParseUri url = ⟨some parsed, err⟩) :
    Ensures (gfalSftpConnect servers url) context fun answer context' =>
      match answer.val with
      | none => SftpSound context' inUse
      | some handle => SftpSound context' (handle :: inUse) ∧
          (ConnectedFor servers context.config parsed context'.world.made handle ↔ UsersAgree servers context parsed) := by
  rw [gfalSftpConnect, hparse]
  refine (cachedOrNew_sound hsound (parsed_host_port hparse)).bind fun answer context' hanswer => Ensures.pure ?_
  cases hval : answer.val with
  | none => rwa [hval] at hanswer
  | some handle => rwa [hval] at hanswer

/-! ### The operations -/

theorem gfalSftpRelease_sound (hsound : SftpSound context (handle :: inUse)) :
    Ensures (gfalSftpRelease handle) context fun _ context' => SftpSound context' inUse := by
  intro value last h
  rw [gfalSftpRelease, gfalSftpCachePush, get_bind_apply, setCached_apply] at h
  obtain ⟨-, rfl⟩ := ok_inj h
  exact hsound.push

/-- What is said on a connection in use leaves the connections as they are. -/
theorem SftpSound.within {α : Type} {computation : Sftp α} (hsound : SftpSound context (handle :: inUse))
    (hwithin : Exec.Within (TalksOf handle.session) computation) :
    Ensures computation context fun _ context' => SftpSound context' (handle :: inUse) :=
  (hwithin context).mono fun _ _ htalks => hsound.talks (htalks.talks (hsound.used handle (by simp)).begun)

theorem gfalSftpConnect_keeps (hsound : SftpSound context inUse) :
    Ensures (gfalSftpConnect servers url) context fun answer context' =>
      match answer.val with
      | none => SftpSound context' inUse
      | some handle => SftpSound context' (handle :: inUse) := by
  obtain ⟨parsed, hparse⟩ := gfal2ParseUri_total url
  refine (gfalSftpConnect_sound hsound hparse).mono fun answer context' hanswer => ?_
  cases hval : answer.val with
  | none => rwa [hval] at hanswer
  | some handle =>
      rw [hval] at hanswer
      exact hanswer.1

theorem sftpCall_within (handle : SftpHandle) (call : SftpCall) :
    Exec.Within (TalksOf handle.session) (sftpCall servers handle call) :=
  TalksOf.of_exchange fun _ => by rfl

/-- An operation releases its connection again. -/
theorem withSftpHandle_sound {α : Type} {refused : GError → α} {work : SftpHandle → Sftp α}
    (hwork : ∀ handle, Exec.Within (TalksOf handle.session) (work handle)) (hsound : SftpSound context inUse) :
    Ensures (withSftpHandle servers url refused work) context fun _ context' => SftpSound context' inUse := by
  rw [withSftpHandle]
  refine (gfalSftpConnect_keeps hsound).bind fun answer context' hanswer => ?_
  obtain ⟨val, err⟩ := answer
  cases val with
  | none =>
      cases err with
      | none => exact Ensures.fault _
      | some e => exact Ensures.pure hanswer
  | some handle =>
      refine (SftpSound.within hanswer (hwork handle)).bind fun value context'' hworked => ?_
      exact (gfalSftpRelease_sound hworked).bind fun _ _ hreleased => Ensures.pure hreleased

section Sound

variable (hsound : SftpSound context inUse)
include hsound

/-- What is opened keeps its connection in use. -/
theorem openSftp_sound : Ensures (openSftp servers url call) context fun answer context' =>
      match answer.val with
      | none => SftpSound context' inUse
      | some handle => SftpSound context' (handle :: inUse) := by
  rw [openSftp]
  refine (gfalSftpConnect_keeps hsound).bind fun answer context' hanswer => ?_
  obtain ⟨val, err⟩ := answer
  cases val with
  | none => exact Ensures.pure hanswer
  | some handle =>
      refine (SftpSound.within hanswer (sftpCall_within handle _)).bind fun refused context'' hcalled => ?_
      cases refused with
      | none => exact Ensures.pure hcalled
      | some e => exact (gfalSftpRelease_sound hcalled).bind fun _ _ hreleased => Ensures.pure hreleased

theorem sftpOperation_sound {patch : Int → Int} :
    Ensures (sftpOperation servers url call patch) context fun _ context' => SftpSound context' inUse := by
  apply withSftpHandle_sound _ hsound
  intro handle
  exact (sftpCall_within handle _).bind TalksOf.trans fun _ => .pure TalksOf.refl _

theorem sftpOperationOnTwo_sound {oldurl urlnew : CString} {call : Option CString → Option CString → SftpCall} {patch : Int → Int}
    :
    Ensures (sftpOperationOnTwo servers oldurl urlnew call patch) context fun _ context' => SftpSound context' inUse := by
  apply withSftpHandle_sound _ hsound
  intro handle
  obtain ⟨parsed, hparse⟩ := gfal2ParseUri_total urlnew
  rw [hparse]
  exact (sftpCall_within handle _).bind TalksOf.trans fun _ => .pure TalksOf.refl _

theorem gfalSftpStat_sound {buf : StatBuffer} :
    Ensures (gfalSftpStat servers url buf) context fun _ context' => SftpSound context' inUse := by
  apply withSftpHandle_sound _ hsound
  intro handle
  refine (Exec.Within.get TalksOf.refl).bind TalksOf.trans fun asked => ?_
  refine (sftpCall_within handle _).bind TalksOf.trans fun refused => ?_
  cases refused with
  | none => exact .pure TalksOf.refl _
  | some e => exact .pure TalksOf.refl _

theorem gfalSftpReadlink_sound {buffsiz : Nat} :
    Ensures (gfalSftpReadlink servers url buffsiz) context fun _ context' => SftpSound context' inUse := by
  apply withSftpHandle_sound _ hsound
  intro handle
  refine (Exec.Within.get TalksOf.refl).bind TalksOf.trans fun asked => ?_
  refine (sftpCall_within handle _).bind TalksOf.trans fun refused => ?_
  cases refused with
  | none => exact .pure TalksOf.refl _
  | some e => exact .pure TalksOf.refl _

theorem gfalSftpRmdir_sound : Ensures (gfalSftpRmdir servers url) context fun _ context' => SftpSound context' inUse := by
  apply withSftpHandle_sound _ hsound
  intro handle
  refine (sftpCall_within handle _).bind TalksOf.trans fun refused => ?_
  cases refused with
  | none => exact .pure TalksOf.refl _
  | some e =>
      refine .ite (fun _ => .pure TalksOf.refl _) fun _ => .ite (fun _ => .pure TalksOf.refl _) fun _ =>
        .ite (fun _ => ?_) fun _ => .pure TalksOf.refl _
      refine (sftpCall_within handle _).bind TalksOf.trans fun stat => ?_
      cases stat with
      | none => exact .pure TalksOf.refl _
      | some e => exact .pure TalksOf.refl _

end Sound

/-- What is closed releases its connection. -/
theorem closing_sound {call : SftpCall} (hsound : SftpSound context (handle :: inUse)) : Ensures (do
      let _ ← sftpCall servers handle call
      gfalSftpRelease handle
      return (⟨0, none⟩ : Ret Int)) context fun _ context' => SftpSound context' inUse :=
  (hsound.within (sftpCall_within handle call)).bind fun _ _ hcalled =>
    (gfalSftpRelease_sound hcalled).bind fun _ _ hreleased => Ensures.pure hreleased

end Connecting

/-! ### Runs of operations -/

/-- What a program asks of the plugin. A directory or a file that is closed is given by its place among the open ones. -/
inductive SftpOperation where
  | stat (url : CString) (buf : StatBuffer)
  | unlink (url : CString)
  | rename (oldurl urlnew : CString)
  | mkdir (url : CString) (mode : ModeT)
  | rmdir (url : CString)
  | symlink (oldurl urlnew : CString)
  | readlink (url : CString) (buffsiz : Nat)
  | chmod (url : CString) (mode : ModeT)
  | opendir (url : CString)
  | open (url : CString) (flag : Nat) (mode : ModeT)
  | closedir (i : Nat)
  | close (i : Nat)
  | configure (config : Config)

/-- The context and the connections of the directories and files that are open. -/
structure SftpState where
  context : SftpContext
  opened : List SftpHandle := []

namespace SftpState

variable (state : SftpState)

/-- The state after a computation that opens and closes nothing. -/
def after {α : Type} (computation : Sftp α) : Option SftpState :=
  match computation state.context with
  | .ok (_, context) => some { state with context := context }
  | .error _ => none

def afterOpening (computation : Sftp (Ret (Option SftpHandle))) : Option SftpState :=
  match computation state.context with
  | .ok (answer, context) => some ⟨context, answer.val.toList ++ state.opened⟩
  | .error _ => none

def afterClosing (i : Nat) (close : SftpHandle → Sftp (Ret Int)) : Option SftpState :=
  match state.opened[i]? with
  | none => none
  | some handle => ({ state with opened := state.opened.eraseIdx i } : SftpState).after (close handle)

end SftpState

def sftpStep (servers : SftpServers) (operation : SftpOperation) (state : SftpState) : Option SftpState :=
  match operation with
  | .stat url buf => state.after (gfalSftpStat servers url buf)
  | .unlink url => state.after (gfalSftpUnlink servers url)
  | .rename oldurl urlnew => state.after (gfalSftpRename servers oldurl urlnew)
  | .mkdir url mode => state.after (gfalSftpMkdir servers url mode)
  | .rmdir url => state.after (gfalSftpRmdir servers url)
  | .symlink oldurl urlnew => state.after (gfalSftpSymlink servers oldurl urlnew)
  | .readlink url buffsiz => state.after (gfalSftpReadlink servers url buffsiz)
  | .chmod url mode => state.after (gfalSftpChmod servers url mode)
  | .opendir url => state.afterOpening (gfalSftpOpendir servers url)
  | .open url flag mode => state.afterOpening (gfalSftpOpen servers url flag mode)
  | .closedir i => state.afterClosing i (gfalSftpClosedir servers)
  | .close i => state.afterClosing i (gfalSftpClose servers)
  | .configure config => some { state with context := { state.context with config := config } }

/-- The state of a plugin that was just loaded. -/
def SftpState.initial (config : Config) : SftpState := { context := { config := config, world := { plugin := {} } } }

namespace SftpState

variable {servers : SftpServers} {state state' : SftpState}

/-- The connections of a state are in order. -/
def Sound (state : SftpState) : Prop := SftpSound state.context state.opened

theorem initial_sound (config : Config) : (initial config).Sound := by
  refine ⟨⟨?_, ?_, ?_, ?_⟩, ?_, ?_, ?_, ?_⟩ <;> simp [initial, Gfal2Context.sftpCache]

theorem after_sound {α : Type} {computation : Sftp α}
    (hsound : Ensures computation state.context fun _ context' => SftpSound context' state.opened)
    (hafter : state.after computation = some state') : state'.Sound := by
  rw [after] at hafter
  cases hrun : computation state.context with
  | error reason => simp [hrun] at hafter
  | ok answer =>
      rw [hrun] at hafter
      obtain rfl := Option.some.inj hafter
      exact hsound answer.1 answer.2 hrun

theorem afterOpening_sound (hsound : state.Sound)
    (hafter : state.afterOpening (openSftp servers url call) = some state') : state'.Sound := by
  rw [afterOpening] at hafter
  cases hrun : openSftp servers url call state.context with
  | error reason => simp [hrun] at hafter
  | ok answer =>
      rw [hrun] at hafter
      obtain rfl := Option.some.inj hafter
      have hopened := openSftp_sound hsound answer.1 answer.2 hrun
      rw [Sound]
      cases hval : answer.1.val with
      | none => simpa [hval] using hopened
      | some handle => simpa [hval] using hopened

theorem afterClosing_sound {i : Nat} {close : SftpHandle → Sftp (Ret Int)} (hsound : state.Sound)
    (hclose : ∀ context inUse handle, SftpSound context (handle :: inUse) →
      Ensures (close handle) context fun _ context' => SftpSound context' inUse)
    (hafter : state.afterClosing i close = some state') : state'.Sound := by
  rw [afterClosing] at hafter
  cases hopened : state.opened[i]? with
  | none => simp [hopened] at hafter
  | some handle =>
      rw [hopened] at hafter
      obtain ⟨hlt, hget⟩ := List.getElem?_eq_some_iff.mp hopened
      have hperm : state.opened.Perm (handle :: state.opened.eraseIdx i) := hget ▸ (List.getElem_cons_eraseIdx_perm hlt).symm
      have hclosed : SftpSound state.context (handle :: state.opened.eraseIdx i) := SftpSound.perm hsound hperm
      exact after_sound (hclose _ _ handle hclosed) hafter

/-- Every operation leaves the connections in order. -/
theorem step_sound {operation : SftpOperation} (hsound : state.Sound) (hstep : sftpStep servers operation state = some state') :
    state'.Sound := by
  cases operation with
  | stat url buf => exact after_sound (gfalSftpStat_sound hsound) hstep
  | unlink url => exact after_sound (sftpOperation_sound hsound) hstep
  | rename oldurl urlnew => exact after_sound (sftpOperationOnTwo_sound hsound) hstep
  | mkdir url mode => exact after_sound (sftpOperation_sound hsound) hstep
  | rmdir url => exact after_sound (gfalSftpRmdir_sound hsound) hstep
  | symlink oldurl urlnew => exact after_sound (sftpOperationOnTwo_sound hsound) hstep
  | readlink url buffsiz => exact after_sound (gfalSftpReadlink_sound hsound) hstep
  | chmod url mode => exact after_sound (sftpOperation_sound hsound) hstep
  | opendir url => exact afterOpening_sound hsound hstep
  | «open» url flag mode => exact afterOpening_sound hsound hstep
  | closedir i => exact afterClosing_sound hsound (fun _ _ _ => closing_sound) hstep
  | close i => exact afterClosing_sound hsound (fun _ _ _ => closing_sound) hstep
  | configure config =>
      obtain rfl := Option.some.inj hstep
      refine ⟨⟨hsound.apart.once, hsound.apart.oneKey, hsound.apart.usedOnce, hsound.apart.notUsed⟩, hsound.keyed,
        fun key handle hcached => ?_, fun handle hused => ?_, hsound.begun⟩
      · have hconnected := hsound.cached key handle hcached
        exact ⟨hconnected.begun, hconnected.address, hconnected.user⟩
      · have hconnected := hsound.used handle hused
        exact ⟨hconnected.begun, hconnected.address, hconnected.user⟩

end SftpState

/-- In every run each connection is in the cache at most once and not while it is in use, and the connection for a URL is to the host and
the port and as the user that it names exactly if its port is one of TCP, and the first connection that is cached there, if it is alive, was
authenticated as that user. -/
theorem sftp_connections_apart (servers : SftpServers) (config : Config) (operations : List SftpOperation) (state : SftpState)
    (hrun : Run (sftpStep servers) (fun _ _ => True) (.initial config) operations state) :
    CachedApart state.context state.opened ∧
      ∀ url parsed err handle warning context', gfal2ParseUri url = ⟨some parsed, err⟩ →
        gfalSftpConnect servers url state.context = .ok (⟨some handle, warning⟩, context') →
          CachedApart context' (handle :: state.opened) ∧
            (ConnectedFor servers state.context.config parsed context'.world.made handle ↔
              UsersAgree servers state.context parsed) := by
  have hsound : state.Sound := hrun.invariant SftpState.Sound (fun _ _ _ _ hsound hstep => SftpState.step_sound hsound hstep)
    (SftpState.initial_sound config)
  refine ⟨hsound.apart, fun url parsed err handle warning context' hparse hconnect => ?_⟩
  have hanswer := gfalSftpConnect_sound hsound hparse _ context' hconnect
  exact ⟨hanswer.1.apart, hanswer.2⟩

/-! Two users of one host, who are authenticated by their keys. -/

def openServers : SftpServers where
  loginName := some (lit "operator")
  home := none
  connect := fun _ _ _ => none
  handshake := fun _ _ => none
  userauthList := fun _ _ _ => some (lit "publickey,password")
  userauthPublickey := fun _ _ _ _ _ _ => true
  userauthPassword := fun _ _ _ _ => false
  sftpInit := fun _ _ => none
  keepalive := fun _ _ => true
  call := fun _ _ _ => none
  attributes := fun _ _ _ => {}
  linkText := fun _ _ _ => []

def aliceUrl : CString := lit "sftp://alice@h/f"

def bobUrl : CString := lit "sftp://bob@h/f"

/-- The user of the connection that a URL gets after an operation of alice's. -/
def userAfterAlice (url : CString) : Option CString :=
  (sftpStep openServers (.unlink aliceUrl) (.initial {})).bind fun state =>
    match gfalSftpConnect openServers url state.context with
    | .ok (⟨some handle, _⟩, context') => sessionUser context'.world.made handle.session
    | .error _ | .ok (⟨none, _⟩, _) => none

theorem exists_of_userAfterAlice {user : CString} (huser : userAfterAlice url = some user) :
    ∃ state handle warning context', Run (sftpStep openServers) (fun _ _ => True) (.initial {}) [.unlink aliceUrl] state ∧
      gfalSftpConnect openServers url state.context = .ok (⟨some handle, warning⟩, context') ∧
      sessionUser context'.world.made handle.session = some user := by
  obtain ⟨state, hstep, huser⟩ := Option.bind_eq_some_iff.mp huser
  split at huser
  · rename_i handle warning context' hconnect
    exact ⟨state, handle, warning, context', .cons trivial hstep (.nil state), hconnect, huser⟩
  · cases huser
  · cases huser

/-- Alice gets her connection back. -/
theorem sftp_connections_apart_alice : ∃ (state : SftpState) (handle : SftpHandle) (warning : Option GError) (context' : SftpContext),
    gfalSftpConnect openServers aliceUrl state.context = .ok (⟨some handle, warning⟩, context') ∧
      CachedApart state.context state.opened ∧ CachedApart context' (handle :: state.opened) := by
  obtain ⟨state, handle, warning, context', hrun, hconnect, -⟩ :=
    exists_of_userAfterAlice (show userAfterAlice aliceUrl = some (lit "alice") by decide +kernel)
  obtain ⟨parsed, hparse⟩ := gfal2ParseUri_total aliceUrl
  have hapart := sftp_connections_apart openServers {} _ state hrun
  exact ⟨state, handle, warning, context', hconnect, hapart.1, (hapart.2 _ _ _ _ _ _ hparse hconnect).1⟩

/-- Bob gets the connection of alice. -/
theorem bob_gets_alice : ∃ state handle warning context',
    Run (sftpStep openServers) (fun _ _ => True) (.initial {}) [.unlink aliceUrl] state ∧
      gfalSftpConnect openServers bobUrl state.context = .ok (⟨some handle, warning⟩, context') ∧
      ∀ parsed err, gfal2ParseUri bobUrl = ⟨some parsed, err⟩ →
        ¬ConnectedFor openServers state.context.config parsed context'.world.made handle := by
  obtain ⟨state, handle, warning, context', hrun, hconnect, halice⟩ :=
    exists_of_userAfterAlice (show userAfterAlice bobUrl = some (lit "alice") by decide +kernel)
  refine ⟨state, handle, warning, context', hrun, hconnect, fun parsed err hparse => ?_⟩
  rintro ⟨host, user, -, hnamed, -, huser⟩
  obtain rfl := Option.some.inj (halice.symm.trans huser)
  have hinfo : (gfal2ParseUri bobUrl).val.bind (·.userinfo) = some (lit "bob") := by decide +kernel
  rw [hparse] at hinfo
  rw [namedUser, show parsed.userinfo = some (lit "bob") from hinfo] at hnamed
  exact absurd (Option.some.inj hnamed) (by decide)

end Gfal2
