import Gfal2.CredMapping
import Gfal2.PluginInterface
import Gfal2.SimpleCache
import Gfal2.StatBuffer
import Gfal2.Uri

/-! The LFC plugin: how a URL is resolved to a host and a path of the catalogue, how the environment is set up for the calls of an
operation and restored after them, and the operations. The library of the catalogue reads the host and the credentials from the
environment of the process; what it answers is a function of that environment and of a state of its own. -/

namespace Gfal2

open Base Exec

abbrev gfal2GetPluginLfcQuark : GQuark := lit "GFAL2::PLUGINS::LFC"
abbrev lfcEnvVarGroupPlugin : CString := lit "LFC PLUGIN"
abbrev lfcEnvVarHost : CString := lit "LFC_HOST"
abbrev lfcEnvVarConntimeout : CString := lit "LFC_CONNTIMEOUT"
abbrev lfcEnvVarConretry : CString := lit "LFC_CONRETRY"
abbrev lfcEnvVarConretryint : CString := lit "LFC_CONRETRYINT"
abbrev x509UserCert : CString := lit "X509_USER_CERT"
abbrev x509UserKey : CString := lit "X509_USER_KEY"
abbrev x509UserProxy : CString := lit "X509_USER_PROXY"
abbrev gfalLfcPrefix : CString := lit "lfn:"
abbrev gfalLfcPrefix2 : CString := lit "lfc://"
abbrev gfalLfcGuidPrefix : CString := lit "guid:"
abbrev ENOATTR : Int := ENODATA

/-! ### The environment -/

abbrev Environment := CString → Option CString

def Environment.setenv (env : Environment) (name value : CString) : Environment := Function.update env name (some value)

def Environment.unsetenv (env : Environment) (name : CString) : Environment := Function.update env name none

/-- Give a variable the value it had before, or none if it had none. -/
def Environment.restore (env : Environment) (name : CString) : Option CString → Environment
  | some value => env.setenv name value
  | none => env.unsetenv name

/-- The variables that hold the credentials of the user. -/
structure UserEnvironment where
  cert : Option CString := none
  key : Option CString := none
  proxy : Option CString := none
  deriving DecidableEq

def Environment.user (env : Environment) : UserEnvironment := ⟨env x509UserCert, env x509UserKey, env x509UserProxy⟩

/-! ### The library -/

/-- `struct lfc_filestat`. -/
structure LfcFilestat where
  filemode : ModeT := 0
  nlink : Int := 0
  uid : Nat := 0
  gid : Nat := 0
  filesize : Nat := 0
  atime : Int := 0
  mtime : Int := 0
  ctime : Int := 0
  deriving DecidableEq

/-- `struct lfc_filestatg`. -/
structure LfcFilestatg extends LfcFilestat where
  fileid : Nat := 0
  guid : CString := []
  csumtype : CString := []
  csumvalue : CString := []
  deriving DecidableEq

/-- `struct lfc_fileid`. -/
structure LfcFileid where
  server : CString := []
  fileid : Nat := 0
  deriving DecidableEq

inductive LfcCall where
  | chmod (path : CString) (mode : ModeT)
  | access (path : CString) (mode : Int)
  | rename (path newPath : CString)
  | symlink (path linkPath : CString)
  | statg (path : CString)
  | lstat (path : CString)
  | mkdirg (path guid : CString) (mode : ModeT)
  | rmdir (path : CString)
  | opendirg (path : CString)
  | readdirx (dir : Nat)
  | closedir (dir : Nat)
  | getreplica (path : CString)
  | getcomment (path : CString)
  | setcomment (path comment : CString)
  | delfilesbyname (path : CString)
  | readlink (path : CString)
  | getlinks (guid : CString)
  | creatg (path guid : CString) (mode : ModeT)
  | setfsizeg (guid : CString) (filesize : Nat) (csumtype csumvalue : CString)
  | addreplica (guid : CString) (uniqueId : Option LfcFileid) (server sfn : CString)
  | delreplica (uniqueId : LfcFileid) (sfn : CString)
  | endtrans
  | aborttrans
  deriving DecidableEq

/-- The numbers that a failed call leaves in `serrno` and `errno`. -/
structure LfcFailure where
  serrno : Int
  errno : Int := 0
  deriving DecidableEq

/-- The answer to `lfc_delfilesbyname` for one file: whether the call fails, the status of the file if there is one, and `serrno`. -/
structure DelfilesAnswer where
  failed : Bool := false
  reply : Option Int := none
  serrno : Int := 0

/-- What a call answers. A directory that is read ends without a failure. -/
def LfcCall.Answer : LfcCall → Type
  | statg _ => Except LfcFailure LfcFilestatg
  | lstat _ => Except LfcFailure LfcFilestat
  | opendirg _ => Except LfcFailure Nat
  | readdirx _ => Except LfcFailure (Option (CString × LfcFilestat))
  | getreplica _ => Except LfcFailure (List CString)
  | getcomment _ => Except LfcFailure CString
  | readlink _ => Except LfcFailure CString
  | getlinks _ => Except LfcFailure (Option CString)
  | delfilesbyname _ => DelfilesAnswer
  | _ => Except LfcFailure Unit

def LfcCall.fails (failure : LfcFailure) : (call : LfcCall) → call.Answer
  | .delfilesbyname _ => { failed := true, serrno := failure.serrno }
  | .chmod .. | .access .. | .rename .. | .symlink .. | .statg .. | .lstat .. | .mkdirg .. | .rmdir .. | .opendirg .. | .readdirx ..
  | .closedir .. | .getreplica .. | .getcomment .. | .setcomment .. | .readlink .. | .getlinks .. | .creatg .. | .setfsizeg ..
  | .addreplica .. | .delreplica .. | .endtrans | .aborttrans => .error failure

def LfcCall.failure : (call : LfcCall) → call.Answer → Option LfcFailure
  | .delfilesbyname _, (answer : DelfilesAnswer) =>
      if answer.failed ∨ answer.reply.any (· ≠ 0) then some ⟨answer.serrno, 0⟩ else none
  | .chmod .., answer | .access .., answer | .rename .., answer | .symlink .., answer | .statg .., answer | .lstat .., answer
  | .mkdirg .., answer | .rmdir .., answer | .opendirg .., answer | .readdirx .., answer | .closedir .., answer | .getreplica .., answer
  | .getcomment .., answer | .setcomment .., answer | .readlink .., answer | .getlinks .., answer | .creatg .., answer
  | .setfsizeg .., answer | .addreplica .., answer | .delreplica .., answer | .endtrans, answer | .aborttrans, answer =>
      match answer with
      | .error failure => some failure
      | .ok _ => none

/-- The library of the catalogue, and what else is outside the plugin: identifiers that are drawn, and sources at other plugins. -/
structure LfcServices (W : Type) where
  answer : Environment → (call : LfcCall) → W → call.Answer × W
  sstrerror : Int → CString
  strerror : Int → CString
  esecBadCredentials : Int
  configError : CString → CString → GError
  generateGuid : W → CString × W
  sourceStat : CString → W → Except GError Int × W
  sourceChecksum : CString → CString → W → Option CString × W

/-! ### The plugin -/

/-- The fields of `struct stat` that the plugin fills. -/
structure LfcStat where
  stMode : ModeT := 0
  stNlink : BitVec 64 := 0
  stUid : Nat := 0
  stGid : Nat := 0
  stSize : Int := 0
  stAtime : Int := 0
  stCtime : Int := 0
  stMtime : Int := 0
  deriving DecidableEq

/-- `lfc_opendir_handle` with the directory of the library and the URL of the file handle; the host it was opened at is a label. -/
structure LfcOpendirHandle where
  desc : Nat
  url : CString
  path : CString
  host : Option CString
  deriving DecidableEq

/-- An item of the cache; the host it was read from is a label. -/
structure LfcCachedStat where
  st : LfcStat
  host : Option CString
  deriving DecidableEq

/-- `struct lfc_ops` without the library: what the environment held when the plugin was loaded and what it held before an operation
changed it, and the cache. -/
structure LfcOps where
  lfcEndpointPredefined : Option CString := none
  lfcConnTimeout : Option CString := none
  lfcConnRetry : Option CString := none
  lfcConnTryInt : Option CString := none
  envUser : UserEnvironment := {}
  cacheStat : GSimpleCache LfcCachedStat := ∅

/-- A call with the value of `LFC_HOST` it was made with and what it failed with; the URLs it was made for are a label. -/
structure LfcRequest where
  urls : List CString
  call : LfcCall
  host : Option CString
  failure : Option LfcFailure
  deriving DecidableEq

/-- The state of a process that uses the plugin, with the directories that are open and the calls that were made. -/
structure LfcContext (W : Type) where
  ops : LfcOps := {}
  env : Environment
  config : Config := {}
  creds : CredMapping := []
  dirs : List LfcOpendirHandle := []
  world : W
  calls : List LfcRequest := []

/-- The code of the plugin. -/
abbrev Lfc (W α : Type) : Type := Exec (LfcContext W) Fault α

/-- `gfal_plugin_init`. -/
def lfcPluginInit {W : Type} (env : Environment) (config : Config) (creds : CredMapping) (world : W) : LfcContext W where
  ops :=
    { lfcEndpointPredefined := env lfcEnvVarHost
      lfcConnTimeout := env lfcEnvVarConntimeout
      lfcConnRetry := env lfcEnvVarConretry
      lfcConnTryInt := env lfcEnvVarConretryint }
  env := env
  config := config
  creds := creds
  world := world

variable {W : Type} (services : LfcServices W)

/-- A call of the library for an operation on URLs. -/
def callLfc (urls : List CString) (call : LfcCall) : Lfc W call.Answer := fun context =>
  .ok ((services.answer context.env call context.world).1,
    { context with
      world := (services.answer context.env call context.world).2
      calls := context.calls ++
        [⟨urls, call, context.env lfcEnvVarHost, call.failure (services.answer context.env call context.world).1⟩] })

def modifyEnv (f : Environment → Environment) : Lfc W Unit := Exec.modify fun context => { context with env := f context.env }

def modifyStatCache (f : GSimpleCache LfcCachedStat → GSimpleCache LfcCachedStat) : Lfc W Unit :=
  Exec.modify fun context => { context with ops := { context.ops with cacheStat := f context.ops.cacheStat } }

def gfalLfcGetErrno (failure : LfcFailure) : Int :=
  if failure.serrno = services.esecBadCredentials then EPERM else if failure.serrno < 1000 then failure.serrno else ECOMM

/-- The error of a failed call, with its text between two others. -/
def lfcError (text : CString) (failure : LfcFailure) (suffix : CString := []) : GError :=
  gfal2SetError gfal2GetPluginLfcQuark (gfalLfcGetErrno services failure)
    (text ++ services.sstrerror failure.serrno ++ suffix)

/-! ### URLs -/

/-- The loop of `lfc_urlconverter` over a number of characters: a slash before another one or at the end is left out. -/
def dropSeparators : Nat → CString → CString
  | 0, _ => []
  | _, [] => []
  | n + 1, c :: rest =>
      if c = '/' ∧ (rest.head? = some '/' ∨ rest = []) then dropSeparators n rest else c :: dropSeparators n rest

def lfcUrlconverter (lfnUrl urlPrefix : CString) : CString :=
  dropSeparators (2047 - urlPrefix.length) (lfnUrl.drop urlPrefix.length)

/-- `lfc_full_urlconverter`. Its error does not reach the caller. -/
def lfcFullUrlconverter (lfnUrl : CString) : Option (CString × CString) :=
  let rest := ((lfnUrl.take 2047).drop gfalLfcPrefix2.length).dropWhile (· = '/')
  let host := rest.takeWhile (· ≠ '/')
  let path := rest.dropWhile (· ≠ '/')
  if host ≠ [] ∧ path ≠ [] then some (host, path) else none

def gfalConvertGuidToLfnR (url guid : CString) : Lfc W (Except GError CString) := do
  match (← callLfc services [url] (.getlinks guid) : Except LfcFailure (Option CString)) with
  | .error failure =>
      return .error (lfcError services (lit "Error while getlinks() with lfclib,  guid : " ++ guid ++ lit ", Error : ") failure [' '])
  | .ok links =>
      match links.filter (·.length < 2048) with
      | none =>
          return .error (gfal2SetError gfal2GetPluginLfcQuark EINVAL
            (lit "Error no links associated with this guid or corrupted one : " ++ guid))
      | some path => return .ok path

/-- `url_converter`: the host, if the URL or the environment names one, and the path. -/
def urlConverter (url : CString) : Lfc W (Except (Option GError) (Option CString × CString)) := do
  if url.length < 5 then return .error none
  else if strncmp url (lit "lfn") 3 = 0 then do
    let context ← Exec.get
    return .ok (context.env lfcEnvVarHost, lfcUrlconverter url gfalLfcPrefix)
  else if strncmp url (lit "lfc") 3 = 0 then
    match lfcFullUrlconverter url with
    | none => return .error none
    | some (host, path) => return .ok (some host, path)
  else
    match ← gfalConvertGuidToLfnR services url (url.drop gfalLfcGuidPrefix.length) with
    | .error e => return .error (some e)
    | .ok path => return .ok (none, path)

/-! ### Setting up the environment -/

/-- A variable that was not set when the plugin was loaded takes the value that is given, or that of the configuration. -/
def configureVariable (predefined value : Option CString) (name : CString) : Lfc W (Option GError) :=
  match predefined, value with
  | some _, _ => return none
  | none, some value => do
      modifyEnv (·.setenv name value)
      return none
  | none, none => return some (services.configError lfcEnvVarGroupPlugin name)

/-- The variables of the library, the host first, as far as the first one that fails. -/
def configureVariables (host : Option CString) : Lfc W (Option GError) := do
  let context ← Exec.get
  let option name := context.config.optString lfcEnvVarGroupPlugin name
  let number name := (context.config.optInteger lfcEnvVarGroupPlugin name).map showInt
  match ← configureVariable services context.ops.lfcEndpointPredefined (host.or (option lfcEnvVarHost)) lfcEnvVarHost with
  | some e => return some e
  | none =>
      match ← configureVariable services context.ops.lfcConnTimeout (number lfcEnvVarConntimeout) lfcEnvVarConntimeout with
      | some e => return some e
      | none =>
          match ← configureVariable services context.ops.lfcConnRetry (number lfcEnvVarConretry) lfcEnvVarConretry with
          | some e => return some e
          | none => configureVariable services context.ops.lfcConnTryInt (number lfcEnvVarConretryint) lfcEnvVarConretryint

/-- The credentials of a URL in the environment: a certificate with its key, or a proxy. -/
def setCredentials (env : Environment) : Option CString → Option CString → Environment
  | some ucert, some ukey => (env.setenv x509UserCert ucert).setenv x509UserKey ukey
  | some ucert, none => env.setenv x509UserProxy ucert
  | none, _ => env

/-- `lfc_configure_environment`. The credentials are set up after a failure as well. -/
def lfcConfigureEnvironment (host : Option CString) (url : CString) : Lfc W (Option GError) := do
  let failed ← configureVariables services host
  let context ← Exec.get
  let ucert := (gfal2CredGet context.creds context.config.optString (lit "X509_CERT") url).value
  let ukey := (gfal2CredGet context.creds context.config.optString (lit "X509_KEY") url).value
  Exec.modify fun context =>
    { context with
      ops := { context.ops with envUser := context.env.user }
      env := setCredentials context.env ucert ukey }
  return failed

def lfcUnsetEnvironment : Lfc W Unit := Exec.modify fun context =>
  { context with
    env := ((context.env.restore x509UserCert context.ops.envUser.cert).restore x509UserKey context.ops.envUser.key).restore
      x509UserProxy context.ops.envUser.proxy }

/-- What every operation does around its calls: resolve its URLs, set up the environment for the first of them, and restore it. -/
def withLfcEnvironment {κ α : Type} (url : CString) (resolve : Lfc W (Except (Option GError) (Option CString × κ))) (failed : α)
    (act : κ → Lfc W (Ret α)) : Lfc W (Ret α) := do
  let answer ← (do
    match ← resolve with
    | .error e => return ⟨failed, e⟩
    | .ok (host, target) =>
        match ← lfcConfigureEnvironment services host url with
        | some e => return ⟨failed, some e⟩
        | none => act target)
  lfcUnsetEnvironment
  return answer

end Gfal2
