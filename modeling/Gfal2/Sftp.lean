import Gfal2.Requests
import Gfal2.StatBuffer
import Gfal2.Uri

/-! The SFTP plugin: its connections, which are kept for the next URL at the same host and port, and the operations that use them.
libssh2 and the network are known by the record of what was asked of them. -/

namespace Gfal2

open Base Exec

abbrev gfal2GetPluginSftpQuark : GQuark := lit "GFAL2::PLUGINS::SFTP"
abbrev sftpConfigGroup : CString := lit "SFTP PLUGIN"

/-- `gfal_sftp_handle_t`, under the number of its session. -/
structure SftpHandle where
  session : Nat
  host : Option CString
  port : Int
  path : Option CString := none
  deriving DecidableEq

/-- What libssh2 is asked for on a path. -/
inductive SftpCall where
  | stat (path : Option CString)
  | unlink (path : Option CString)
  | rename (path newPath : Option CString)
  | mkdir (path : Option CString) (mode : ModeT)
  | rmdir (path : Option CString)
  | symlink (path newPath : Option CString)
  | readlink (path : Option CString) (size : Nat)
  | setstat (path : Option CString) (permissions : ModeT)
  | opendir (path : Option CString)
  | open (path : Option CString) (flags : Nat) (mode : ModeT)
  | closedir
  | close
  deriving DecidableEq

/-- What is asked of the network and of libssh2, with the answer where later code depends on it. -/
inductive SftpExchange where
  | connect (session : Nat) (host : CString) (port : Nat) (connected : Bool)
  | handshake (session : Nat)
  | userauthList (session : Nat) (user : CString)
  | userauthPublickey (session : Nat) (user : CString) (publickey privkey passphrase : Option CString) (accepted : Bool)
  | userauthPassword (session : Nat) (user passwd : CString) (accepted : Bool)
  | sftpInit (session : Nat)
  | keepalive (session : Nat)
  | disconnect (session : Nat)
  | call (session : Nat) (call : SftpCall)
  deriving DecidableEq

abbrev SftpHistory := List SftpExchange

/-- `LIBSSH2_SFTP_ATTRIBUTES`: what its flags say is there. -/
structure SftpAttributes where
  filesize : Option Int := none
  uidgid : Option (Nat × Nat) := none
  permissions : Option ModeT := none
  acmodtime : Option (Int × Int) := none

/-- The answers. An error is what `gfal_plugin_sftp_translate_error` or `gfal_sftp_socket` makes of it. -/
structure SftpServers where
  loginName : Option CString
  home : Option CString
  connect : CString → Nat → SftpHistory → Option GError
  handshake : Nat → SftpHistory → Option GError
  userauthList : Nat → CString → SftpHistory → Option CString
  userauthPublickey : Nat → CString → Option CString → Option CString → Option CString → SftpHistory → Bool
  userauthPassword : Nat → CString → CString → SftpHistory → Bool
  sftpInit : Nat → SftpHistory → Option GError
  keepalive : Nat → SftpHistory → Bool
  call : Nat → SftpCall → SftpHistory → Option GError
  attributes : Nat → Option CString → SftpHistory → SftpAttributes
  linkText : Nat → Option CString → SftpHistory → CString

/-- `gfal_sftp_context_t` without its context: the cache, and the number of connections that were begun. -/
structure SftpPlugin where
  cache : CString → List SftpHandle := fun _ => []
  sessions : Nat := 0

abbrev SftpWorld := Services SftpPlugin SftpExchange

abbrev SftpContext := Gfal2Context SftpWorld

/-- The code of the plugin. -/
abbrev Sftp (α : Type) : Type := Gfal SftpWorld α

def Gfal2Context.sftpCache (context : SftpContext) : CString → List SftpHandle := context.world.plugin.cache

variable (servers : SftpServers)

/-! ### Connections -/

/-- The conversion of a port to `int`. -/
def portInt (port : Nat) : Int := Int.bmod port (2 ^ 32)

/-- The port that is put into the address of the socket, which has 16 bits. -/
def socketPort (port : Nat) : Nat := (if port ≠ 0 then port else 22) % 2 ^ 16

/-- `gfal_sftp_socket` and `libssh2_session_init`, for a session. -/
def gfalSftpSocket (session : Nat) (parsed : Gfal2Uri) : Sftp (Option GError) :=
  match parsed.host with
  | none => return some (gfal2SetError gfal2GetPluginSftpQuark 66 (lit "Could not resolve host"))
  | some host =>
      exchange (servers.connect host (socketPort parsed.port)) fun refused =>
        .connect session host (socketPort parsed.port) refused.isNone

/-- The user, the password, the key and its passphrase. -/
structure AuthnParams where
  user : Option CString
  passwd : Option CString
  privkey : Option CString
  passphrase : Option CString

def gfalSftpGetAuthnParams (config : Config) (parsed : Gfal2Uri) : AuthnParams :=
  let configUser := config.optString sftpConfigGroup (lit "USER")
  let configPasswd := config.optString sftpConfigGroup (lit "PASSWORD")
  let userPasswd :=
    match parsed.userinfo with
    | some userinfo =>
        match strchr userinfo ':' with
        | none => (some userinfo, none)
        | some separator => (some (userinfo.take separator), some (userinfo.drop (separator + 1)))
    | none =>
        match configUser with
        | some user => (some user, configPasswd)
        | none => (servers.loginName, none)
  { user := userPasswd.1
    passwd := userPasswd.2
    privkey := (config.optString sftpConfigGroup (lit "PRIVKEY")).or (servers.home.map (· ++ lit "/.ssh/id_rsa"))
    passphrase := config.optString sftpConfigGroup (lit "PASSPHRASE") }

/-- A method is tried if it is one of the two that are known. A password that is not there is measured by `strlen`. -/
def tryMethod (session : Nat) (user : CString) (params : AuthnParams) (method : CString) : Sftp Bool :=
  if (lit "publickey").isPrefixOf method then
    exchange (servers.userauthPublickey session user params.passwd params.privkey params.passphrase)
      (.userauthPublickey session user params.passwd params.privkey params.passphrase)
  else if (lit "password").isPrefixOf method then
    match params.passwd with
    | none => Exec.fault .nullDereference
    | some passwd => exchange (servers.userauthPassword session user passwd) (.userauthPassword session user passwd)
  else pure false

/-- The loop over the methods. -/
def tryMethods (session : Nat) (user : CString) (params : AuthnParams) : List CString → Sftp Bool
  | [] => return false
  | method :: methods => do
      if ← tryMethod servers session user params method then return true else tryMethods session user params methods

def gfalSftpAuthn (session : Nat) (parsed : Gfal2Uri) : Sftp (Option GError) := do
  let context ← Exec.get
  let params := gfalSftpGetAuthnParams servers context.config parsed
  match params.user with
  | none => Exec.fault .nullDereference
  | some user => do
      let userauthlist ← makeRequest (.userauthList session user) (servers.userauthList session user)
      let authenticated ← tryMethods servers session user params ((userauthlist.map (·.splitOn ',')).getD [])
      if authenticated then return none
      else return some (gfal2SetError gfal2GetPluginSftpQuark EACCES (lit "All supported authentication methods failed"))

def newSession : Sftp Nat := do
  let context ← Exec.get
  Exec.modify fun context =>
    { context with world := { context.world with
        plugin := { context.world.plugin with sessions := context.world.plugin.sessions + 1 } } }
  return context.world.plugin.sessions

def gfalSftpNewHandle (parsed : Gfal2Uri) : Sftp (Ret (Option SftpHandle)) := do
  let session ← newSession
  match ← gfalSftpSocket servers session parsed with
  | some e => return ⟨none, some e⟩
  | none =>
      match ← makeRequest (.handshake session) (servers.handshake session) with
      | some e => return ⟨none, some e⟩
      | none =>
          match ← gfalSftpAuthn servers session parsed with
          | some e => return ⟨none, some e⟩
          | none =>
              match ← makeRequest (.sftpInit session) (servers.sftpInit session) with
              | some e => return ⟨none, some e⟩
              | none => return ⟨some ⟨session, parsed.host, portInt parsed.port, none⟩, none⟩

/-- The key of the connections to a host and a port, which is written by `%s` also where there is no host. -/
def sftpCacheKey (host : Option CString) (port : Int) : CString := host.getD (lit "(null)") ++ lit ":" ++ showInt port

def setCached (key : CString) (list : List SftpHandle) : Sftp Unit :=
  Exec.modify fun context =>
    { context with world := { context.world with
        plugin := { context.world.plugin with cache := Function.update context.world.plugin.cache key list } } }

def gfalSftpCachePop (host : Option CString) (port : Int) : Sftp (Option SftpHandle) := do
  let context ← Exec.get
  match context.sftpCache (sftpCacheKey host port) with
  | [] => return none
  | handle :: list => do
      setCached (sftpCacheKey host port) list
      return some handle

def gfalSftpCachePush (handle : SftpHandle) : Sftp Unit := do
  let context ← Exec.get
  setCached (sftpCacheKey handle.host handle.port) (handle :: context.sftpCache (sftpCacheKey handle.host handle.port))

/-- A cached connection that is still alive, or a new one. -/
def cachedOrNew (parsed : Gfal2Uri) : Sftp (Ret (Option SftpHandle)) := do
  match ← gfalSftpCachePop parsed.host (portInt parsed.port) with
  | none => gfalSftpNewHandle servers parsed
  | some handle => do
      if ← makeRequest (.keepalive handle.session) (servers.keepalive handle.session) then
        return ⟨some handle, none⟩
      else
        makeRequest (.disconnect handle.session) fun _ => ()
        gfalSftpNewHandle servers parsed

def gfalSftpConnect (url : CString) : Sftp (Ret (Option SftpHandle)) :=
  match gfal2ParseUri url with
  | ⟨none, err⟩ => return ⟨none, err⟩
  | ⟨some parsed, _⟩ => do
      let answer ← cachedOrNew servers parsed
      return ⟨answer.val.map fun handle => { handle with path := parsed.path }, answer.err⟩

def gfalSftpRelease (handle : SftpHandle) : Sftp Unit := gfalSftpCachePush handle

/-! ### Operations -/

/-- A call on the session of a handle. -/
def sftpCall (handle : SftpHandle) (call : SftpCall) : Sftp (Option GError) :=
  makeRequest (.call handle.session call) (servers.call handle.session call)

/-- An operation: it connects, does its work, and releases the connection. -/
def withSftpHandle {α : Type} (url : CString) (refused : GError → α) (work : SftpHandle → Sftp α) : Sftp α := do
  match ← gfalSftpConnect servers url with
  | ⟨none, some e⟩ => return refused e
  | ⟨none, none⟩ => Exec.fault .nullDereference
  | ⟨some handle, _⟩ => do
      let answer ← work handle
      gfalSftpRelease handle
      return answer

def failedCall (e : GError) : Ret Int := ⟨-1, some e⟩

/-- The answer of a call, with the code of its error replaced. -/
def callAnswer (patch : Int → Int) : Option GError → Ret Int
  | none => ⟨0, none⟩
  | some e => ⟨-1, some { e with code := patch e.code }⟩

/-- An operation of one call on the path of its URL. -/
def sftpOperation (url : CString) (call : Option CString → SftpCall) (patch : Int → Int) : Sftp (Ret Int) :=
  withSftpHandle servers url failedCall fun handle => do
    return callAnswer patch (← sftpCall servers handle (call handle.path))

/-- An operation on the paths of two URLs, of which only the first is connected to. -/
def sftpOperationOnTwo (oldurl urlnew : CString) (call : Option CString → Option CString → SftpCall) (patch : Int → Int) :
    Sftp (Ret Int) :=
  withSftpHandle servers oldurl failedCall fun handle => do
    match gfal2ParseUri urlnew with
    | ⟨none, err⟩ => return ⟨-1, err⟩
    | ⟨some newParsed, _⟩ => return callAnswer patch (← sftpCall servers handle (call handle.path newParsed.path))

def gfalSftpFillStat (st : StatBuffer) (attrs : SftpAttributes) : StatBuffer :=
  { st with
    stSize := attrs.filesize.getD st.stSize
    stUid := (attrs.uidgid.map Prod.fst).getD st.stUid
    stGid := (attrs.uidgid.map Prod.snd).getD st.stGid
    stMode := attrs.permissions.getD st.stMode
    stAtime := (attrs.acmodtime.map Prod.fst).getD st.stAtime
    stMtime := (attrs.acmodtime.map Prod.snd).getD st.stMtime }

def gfalSftpStat (url : CString) (buf : StatBuffer) : Sftp (Ret Int × StatBuffer) :=
  withSftpHandle servers url (fun e => (failedCall e, buf)) fun handle => do
    let context ← Exec.get
    match ← sftpCall servers handle (.stat handle.path) with
    | some e => return (failedCall e, buf)
    | none => return (⟨0, none⟩, gfalSftpFillStat buf (servers.attributes handle.session handle.path context.world.made))

def gfalSftpUnlink (url : CString) : Sftp (Ret Int) := sftpOperation servers url .unlink id

def gfalSftpRename (oldurl urlnew : CString) : Sftp (Ret Int) :=
  sftpOperationOnTwo servers oldurl urlnew .rename fun code => if code = 4 then EISDIR else code

def gfalSftpMkdir (url : CString) (mode : ModeT) : Sftp (Ret Int) :=
  sftpOperation servers url (.mkdir · mode) fun code => if code = 4 then EEXIST else code

/-- `gfal_sftp_rmdir`, which looks again where the server says that there is nothing. -/
def gfalSftpRmdir (url : CString) : Sftp (Ret Int) :=
  withSftpHandle servers url failedCall fun handle => do
    match ← sftpCall servers handle (.rmdir handle.path) with
    | none => return ⟨0, none⟩
    | some e =>
        if e.code = 4 then return ⟨-1, some { e with code := 39 }⟩
        else if e.code = 3 then return ⟨-1, some { e with code := EACCES }⟩
        else if e.code = 2 then
          match ← sftpCall servers handle (.stat handle.path) with
          | none => return ⟨-1, some { e with code := ENOTDIR }⟩
          | some _ => return ⟨-1, some e⟩
        else return ⟨-1, some e⟩

def gfalSftpSymlink (oldurl urlnew : CString) : Sftp (Ret Int) := sftpOperationOnTwo servers oldurl urlnew .symlink id

/-- `gfal_sftp_readlink`, with the text that is written. -/
def gfalSftpReadlink (url : CString) (buffsiz : Nat) : Sftp (Ret Int × CString) :=
  withSftpHandle servers url (fun e => (failedCall e, [])) fun handle => do
    let context ← Exec.get
    match ← sftpCall servers handle (.readlink handle.path buffsiz) with
    | some e => return (failedCall e, [])
    | none => do
        let text := (servers.linkText handle.session handle.path context.world.made).take buffsiz
        return (⟨text.length, none⟩, text)

def gfalSftpChmod (url : CString) (mode : ModeT) : Sftp (Ret Int) := sftpOperation servers url (.setstat · mode) id

/-- What is opened keeps its connection; where it cannot be opened the connection is released. -/
def openSftp (url : CString) (call : Option CString → SftpCall) : Sftp (Ret (Option SftpHandle)) := do
  match ← gfalSftpConnect servers url with
  | ⟨none, err⟩ => return ⟨none, err⟩
  | ⟨some handle, _⟩ =>
      match ← sftpCall servers handle (call handle.path) with
      | some e => do
          gfalSftpRelease handle
          return ⟨none, some e⟩
      | none => return ⟨some handle, none⟩

def gfalSftpOpendir (url : CString) : Sftp (Ret (Option SftpHandle)) := openSftp servers url .opendir

def gfalSftpStd2ssh2OpenFlags (flag : Nat) : Nat :=
  (if flag &&& 2 ≠ 0 then 1 else 0) ||| (if flag &&& 1 ≠ 0 ∨ flag &&& 2 ≠ 0 then 2 else 0) |||
    (if flag &&& 1024 ≠ 0 then 4 else 0) ||| (if flag &&& 512 ≠ 0 then 16 else 0) |||
    (if flag &&& 64 ≠ 0 then 8 else 0) ||| (if flag &&& 128 ≠ 0 then 32 else 0)

def gfalSftpOpen (url : CString) (flag : Nat) (mode : ModeT) : Sftp (Ret (Option SftpHandle)) :=
  openSftp servers url (.open · (gfalSftpStd2ssh2OpenFlags flag) mode)

def gfalSftpClosedir (handle : SftpHandle) : Sftp (Ret Int) := do
  let _ ← sftpCall servers handle .closedir
  gfalSftpRelease handle
  return ⟨0, none⟩

def gfalSftpClose (handle : SftpHandle) : Sftp (Ret Int) := do
  let _ ← sftpCall servers handle .close
  gfalSftpRelease handle
  return ⟨0, none⟩

end Gfal2
