import Gfal2.Lfc
import Gfal2.LocalCopy

/-! The operations of the LFC plugin. All of them set up the environment for their calls and restore it; a directory that is opened keeps
it until it is closed. The registration of a replica asks the source for its size and checksum before it sets up the environment. -/

namespace Gfal2

open Base Exec

variable {W : Type} (services : LfcServices W)

/-! ### Files and names -/

/-- What an operation comes to that calls the library once. -/
def lfcOutcome (text : CString) (answer : Except LfcFailure Unit) (suffix : CString := []) : Ret Int :=
  match answer with
  | .error failure => ⟨-1, some (lfcError services text failure suffix)⟩
  | .ok () => ⟨0, none⟩

def lfcChmodG (path : CString) (mode : ModeT) : Lfc W (Ret Int) :=
  withLfcEnvironment services path (urlConverter services path) (-1) fun urlPath => do
    let answer : Except LfcFailure Unit ← callLfc services [path] (.chmod urlPath mode)
    if answer.isOk then modifyStatCache (·.removeKstr urlPath)
    return lfcOutcome services (lit "Errno reported from lfc : ") answer [' ']

def lfcAccessG (lfn : CString) (mode : Int) : Lfc W (Ret Int) :=
  withLfcEnvironment services lfn (urlConverter services lfn) (-1) fun urlPath => do
    let answer : Except LfcFailure Unit ← callLfc services [lfn] (.access urlPath mode)
    return lfcOutcome services (lit "lfc access error, file : " ++ lfn ++ lit ", error : ") answer

/-- The conversion of two URLs, of which the host of the second one is dropped. -/
def urlConverters (oldpath newpath : CString) : Lfc W (Except (Option GError) (Option CString × CString × CString)) := do
  match ← urlConverter services oldpath with
  | .error e => return .error e
  | .ok (host, path) =>
      match ← urlConverter services newpath with
      | .error e => return .error e
      | .ok (_, newPath) => return .ok (host, path, newPath)

def lfcRenameG (oldpath newpath : CString) : Lfc W (Ret Int) :=
  withLfcEnvironment services oldpath (urlConverters services oldpath newpath) (-1) fun paths => do
    let answer : Except LfcFailure Unit ← callLfc services [oldpath, newpath] (.rename paths.1 paths.2)
    if answer.isOk then modifyStatCache (·.removeKstr paths.1)
    return lfcOutcome services (lit "Error report from LFC : ") answer

def lfcSymlinkG (oldpath newpath : CString) : Lfc W (Ret Int) :=
  withLfcEnvironment services oldpath (urlConverters services oldpath newpath) (-1) fun paths => do
    let answer : Except LfcFailure Unit ← callLfc services [oldpath, newpath] (.symlink paths.1 paths.2)
    return lfcOutcome services (lit "Error report from LFC : ") answer

/-- `gfal_lfc_convert_statg` and `gfal_lfc_convert_lstat`: the size is taken as signed. -/
def gfalLfcConvert (input : LfcFilestat) : LfcStat where
  stMode := input.filemode
  stNlink := BitVec.ofInt 64 input.nlink
  stUid := input.uid
  stGid := input.gid
  stSize := Int.bmod input.filesize (2 ^ 64)
  stAtime := input.atime
  stCtime := input.ctime
  stMtime := input.mtime

def gfalLfcStatg (urls : List CString) (path : CString) : Lfc W (Except GError LfcFilestatg) := do
  let answer : Except LfcFailure LfcFilestatg ← callLfc services urls (.statg path)
  return answer.mapError fun failure => lfcError services (lit "Error report from LFC : ") failure

def lfcStatG (path : CString) : Lfc W (Ret (Option LfcStat)) :=
  withLfcEnvironment services path (urlConverter services path) none fun urlPath => do
    match ← gfalLfcStatg services [path] urlPath with
    | .error e => return ⟨none, some e⟩
    | .ok statbuf => return ⟨some (gfalLfcConvert statbuf.toLfcFilestat), none⟩

def takeCachedStat (urlPath : CString) : Lfc W (Option LfcStat) := do
  let context ← Exec.get
  modifyStatCache fun cache => (cache.takeOneKstr urlPath).2
  return (context.ops.cacheStat.takeOneKstr urlPath).1.map LfcCachedStat.st

def lfcLstatG (path : CString) : Lfc W (Ret (Option LfcStat)) :=
  withLfcEnvironment services path (urlConverter services path) none fun urlPath => do
    match ← takeCachedStat urlPath with
    | some st => return ⟨some st, none⟩
    | none =>
        match (← callLfc services [path] (.lstat urlPath) : Except LfcFailure LfcFilestat) with
        | .error failure => return ⟨none, some (lfcError services (lit "Error report from LFC : ") failure)⟩
        | .ok statbuf => return ⟨some (gfalLfcConvert statbuf), none⟩

/-- `lfc_unlinkG`. An old `serrno` is reported where the call itself succeeds, and nothing is returned for it. -/
def lfcUnlinkG (path : CString) : Lfc W (Ret Int) :=
  withLfcEnvironment services path (urlConverter services path) (-1) fun urlPath => do
    let answer : DelfilesAnswer ← callLfc services [path] (.delfilesbyname urlPath)
    if answer.failed ∨ answer.reply.any (· ≠ 0) then
      if gfalLfcGetErrno services ⟨answer.serrno, 0⟩ ≠ 0 then
        return ⟨if answer.failed then -1 else 0, some (lfcError services (lit "Error report from LFC : ") ⟨answer.serrno, 0⟩)⟩
      else
        match answer.reply with
        | none => Exec.fault .nullDereference
        | some reply =>
            return ⟨-1, some (gfal2SetError gfal2GetPluginLfcQuark reply
              (lit "Error report from LFC : " ++ services.sstrerror reply))⟩
    else do
      modifyStatCache (·.removeKstr urlPath)
      return ⟨0, none⟩

/-- `lfc_readlinkG`: the length, and what is put into a buffer of a size. -/
def lfcReadlinkG (path : CString) (buffsiz : Nat) : Lfc W (Ret (Int × CString)) :=
  withLfcEnvironment services path (urlConverter services path) (-1, []) fun urlPath => do
    match (← callLfc services [path] (.readlink urlPath) : Except LfcFailure CString) with
    | .error failure => return ⟨(-1, []), some (lfcError services (lit "Error report from LFC : ") failure)⟩
    | .ok link =>
        -- the space that is left wraps around where it is negative
        if buffsiz < gfalLfcPrefix.length ∧ link ≠ [] then Exec.fault .arrayBounds
        else return ⟨(link.length + gfalLfcPrefix.length, (gfalLfcPrefix ++ link).take buffsiz), none⟩

/-! ### Directories -/

def gfalLfcMkdir (urls : List CString) (path : CString) (mode : ModeT) : Lfc W (Option GError) := do
  let context ← Exec.get
  let (struid, world) := services.generateGuid context.world
  Exec.modify fun context => { context with world := world }
  match (← callLfc services urls (.mkdirg path struid mode) : Except LfcFailure Unit) with
  | .ok () => return none
  | .error failure =>
      let savErrno := gfalLfcGetErrno services failure
      return some (gfal2SetError gfal2GetPluginLfcQuark savErrno
        (lit "Error while mkdir call in the lfc " ++ services.strerror savErrno))

/-- `gfal_lfc_mkdir_rec`, where a part of the path has been passed. -/
def gfalLfcMkdirRec (urls : List CString) (mode : ModeT) : CString → CString → Lfc W (Option GError)
  | walked, [] => gfalLfcMkdir services urls walked mode
  | walked, c :: rest =>
      if c = '/' then
        if rest = [] then gfalLfcMkdir services urls (walked ++ [c]) mode
        else do
          match ← gfalLfcMkdir services urls walked (0o700 ||| mode) with
          | none => gfalLfcMkdirRec urls mode (walked ++ [c]) rest
          | some e =>
              if e.code = EEXIST ∨ e.code = EACCES then gfalLfcMkdirRec urls mode (walked ++ [c]) rest
              else return some e
      else gfalLfcMkdirRec urls mode (walked ++ [c]) rest

/-- The directory of `gfal_lfc_ifce_mkdirpG`, and those it is in where they are missing. -/
def makeDirectories (urls : List CString) (path : CString) (mode : ModeT) (pflag : Bool) : Lfc W (Option GError) := do
  match ← gfalLfcMkdir services urls path mode with
  | none => return none
  | some e =>
      if e.code = ENOENT ∧ pflag then
        match path with
        | [] => Exec.fault .arrayBounds
        | c :: rest => gfalLfcMkdirRec services urls mode [c] rest
      else return some e

/-- `gfal_lfc_ifce_mkdirpG`. The transaction that is ended has never begun. -/
def gfalLfcIfceMkdirpG (urls : List CString) (path : CString) (mode : ModeT) (pflag : Bool) : Lfc W (Ret Int) := do
  match ← makeDirectories services urls path mode pflag with
  | none =>
      let answer : Except LfcFailure Unit ← callLfc services urls .endtrans
      return lfcOutcome services (lit "Error while start transaction with lfc, Error : ") answer [' ']
  | some e => do
      let _ ← (callLfc services urls .aborttrans : Lfc W (Except LfcFailure Unit))
      return ⟨-1, some e⟩

def lfcMkdirpG (path : CString) (mode : ModeT) (pflag : Bool) : Lfc W (Ret Int) :=
  withLfcEnvironment services path (urlConverter services path) (-1) fun urlPath =>
    gfalLfcIfceMkdirpG services [path] urlPath mode pflag

/-- `lfc_rmdirG`. The library reports a directory that is not empty as one that exists. -/
def lfcRmdirG (path : CString) : Lfc W (Ret Int) :=
  withLfcEnvironment services path (urlConverter services path) (-1) fun urlPath => do
    match (← callLfc services [path] (.rmdir urlPath) : Except LfcFailure Unit) with
    | .ok () => return ⟨0, none⟩
    | .error failure =>
        let savErrno := gfalLfcGetErrno services failure
        return ⟨-1, some (gfal2SetError gfal2GetPluginLfcQuark (if savErrno = EEXIST then ENOTEMPTY else savErrno)
          (lit "Error report from LFC " ++ services.sstrerror failure.serrno))⟩

/-- `lfc_opendirG`. The environment is left to the directory. -/
def lfcOpendirG (path : CString) : Lfc W (Ret (Option LfcOpendirHandle)) := do
  let answer : Ret (Option LfcOpendirHandle) ← (do
    match ← urlConverter services path with
    | .error e => return ⟨none, e⟩
    | .ok (host, urlPath) =>
        match ← lfcConfigureEnvironment services host path with
        | some e => return ⟨none, some e⟩
        | none =>
            match (← callLfc services [path] (.opendirg urlPath) : Except LfcFailure Nat) with
            | .error failure => return ⟨none, some (lfcError services (lit "Error report from LFC ") failure)⟩
            | .ok d => do
                let context ← Exec.get
                return ⟨some ⟨d, path, urlPath, context.env lfcEnvVarHost⟩, none⟩)
  match answer.val with
  | none => lfcUnsetEnvironment
  | some oh => Exec.modify fun context => { context with dirs := context.dirs ++ [oh] }
  return answer

/-- The path under which `lfc_convert_dirent_struct` keeps an entry. -/
def direntPath (oh : LfcOpendirHandle) (name : CString) : CString := (oh.path ++ '/' :: name).take 2047

/-- `lfc_readdirppG`: the name and the status of the next entry. -/
def lfcReaddirppG (oh : LfcOpendirHandle) : Lfc W (Ret (Option (CString × LfcStat))) := do
  match (← callLfc services [oh.url] (.readdirx oh.desc) : Except LfcFailure (Option (CString × LfcFilestat))) with
  | .error failure =>
      return ⟨none,
        if gfalLfcGetErrno services failure = 0 then none else some (lfcError services (lit "Error report from LFC ") failure)⟩
  | .ok none => return ⟨none, none⟩
  | .ok (some (name, filestat)) => do
      modifyStatCache (·.addItemKstr (direntPath oh name) 5000 ⟨gfalLfcConvert filestat, oh.host⟩)
      return ⟨some (name.take 254, gfalLfcConvert filestat), none⟩

def lfcClosedirG (oh : LfcOpendirHandle) : Lfc W (Ret Int) := do
  let answer : Except LfcFailure Unit ← callLfc services [oh.url] (.closedir oh.desc)
  if answer.isOk then Exec.modify fun context => { context with dirs := context.dirs.erase oh }
  lfcUnsetEnvironment
  return lfcOutcome services (lit "Error report from LFC ") answer

/-! ### Attributes -/

structure LfcChecksum where
  type : CString := []
  value : CString := []

def gfalLfcGetChecksum (urls : List CString) (lfn : CString) : Lfc W (Except GError LfcChecksum) := do
  return (← gfalLfcStatg services urls lfn).map fun statbuf => ⟨statbuf.csumtype, statbuf.csumvalue⟩

def lfcChecksumPart (part : LfcChecksum → CString) (path : CString) (bufferLength : Nat) : Lfc W (Ret (Option CString)) :=
  withLfcEnvironment services path (urlConverter services path) none fun urlPath => do
    match ← gfalLfcGetChecksum services [path] urlPath with
    | .error e => return ⟨none, some e⟩
    | .ok checksumSt => return ⟨some ((part checksumSt).take (bufferLength - 1)), none⟩

/-- `lfc_checksumG`, whatever type of checksum is asked for. -/
def lfcChecksumG (path : CString) (bufferLength : Nat) : Lfc W (Ret (Option CString)) :=
  lfcChecksumPart services LfcChecksum.value path bufferLength

def lfcChecksumTypeG (path : CString) (bufferLength : Nat) : Lfc W (Ret (Option CString)) :=
  lfcChecksumPart services LfcChecksum.type path bufferLength

def lfcGetSURLG (path : CString) : Lfc W (Ret (Option (List CString))) :=
  withLfcEnvironment services path (urlConverter services path) none fun urlPath => do
    match (← callLfc services [path] (.getreplica urlPath) : Except LfcFailure (List CString)) with
    | .error failure => return ⟨none, some (lfcError services (lit "error reported from lfc : ") failure)⟩
    | .ok list => return ⟨some list, none⟩

/-- `lfc_getxattr_getguid`: the size, and what is put into a buffer. Where the identifier is not found nothing is returned for it. -/
def lfcGetxattrGetguid (path : CString) (size : Nat) : Lfc W (Ret (Int × CString)) :=
  withLfcEnvironment services path (urlConverter services path) (-1, []) fun urlPath => do
    if size = 0 then return ⟨(36, []), none⟩
    else
      match ← gfalLfcStatg services [path] urlPath with
      | .error e => return ⟨(0, []), some e⟩
      | .ok statbuf => return ⟨(statbuf.guid.length, statbuf.guid.take (size - 1)), none⟩

abbrev caMaxcommentlen : Nat := 255

/-- `gfal_lfc_getComment`. The terminating NUL of a comment that fills the buffer is written behind it. -/
def gfalLfcGetComment (urls : List CString) (lfn : CString) (sBuff : Nat) : Lfc W (Ret (Int × CString)) := do
  if sBuff = 0 then return ⟨(caMaxcommentlen + 1, []), none⟩
  else
    match (← callLfc services urls (.getcomment lfn) : Except LfcFailure CString) with
    | .error failure =>
        if gfalLfcGetErrno services failure = ENOENT then return ⟨(0, []), none⟩
        else return ⟨(-1, []), some (lfcError services (lit "Error report from LFC : ") failure)⟩
    | .ok localBuff =>
        if localBuff.length ≥ sBuff then Exec.fault .arrayBounds else return ⟨(localBuff.length, localBuff), none⟩

def lfcGetxattrComment (path : CString) (size : Nat) : Lfc W (Ret (Int × CString)) :=
  withLfcEnvironment services path (urlConverter services path) (-1, []) fun urlPath =>
    gfalLfcGetComment services [path] urlPath size

def gfalLfcSetComment (urls : List CString) (lfn buff : CString) : Lfc W (Ret Int) := do
  if buff = [] then return ⟨-1, none⟩
  else
    let answer : Except LfcFailure Unit ← callLfc services urls (.setcomment lfn (buff.take 2047))
    return lfcOutcome services (lit "Error report from LFC : ") answer

/-- `lfc_setxattr_comment`, which drops its error. -/
def lfcSetxattrComment (path value : CString) : Lfc W (Ret Int) := do
  let answer ← withLfcEnvironment services path (urlConverter services path) (-1) fun urlPath =>
    gfalLfcSetComment services [path] urlPath value
  return ⟨answer.val, none⟩

def lfcResolveGuid (guid : CString) : Lfc W (Ret (Option CString)) :=
  withLfcEnvironment services guid (urlConverter services guid) none fun urlPath => return ⟨some urlPath, none⟩

/-! ### Replicas -/

/-- `struct size_and_checksum`. -/
structure SizeAndChecksum where
  filesize : Nat := 0
  csumtype : CString := []
  csumvalue : CString := []
  deriving DecidableEq

/-- The directory of `_lfc_touch`. -/
def touchDirectory (urls : List CString) (path : CString) : Lfc W (Ret Int) :=
  match strrchr path '/' with
  | none => return ⟨0, none⟩
  | some lastSlash => do
      match (← callLfc services urls (.access (path.take lastSlash) 0) : Except LfcFailure Unit) with
      | .ok () => return ⟨0, none⟩
      | .error _ => gfalLfcIfceMkdirpG services urls (path.take lastSlash) 0o755 true

/-- The file of `_lfc_touch`. -/
def touchFile (urls : List CString) (path guid : CString) (info : SizeAndChecksum) : Lfc W (Option GError) := do
  match (← callLfc services urls (.creatg path guid 0o644) : Except LfcFailure Unit) with
  | .error failure =>
      return some (gfal2SetError gfal2GetPluginsQuark failure.errno
        (lit "Could not create the file: " ++ services.sstrerror failure.serrno))
  | .ok () =>
      match (← callLfc services urls (.setfsizeg guid info.filesize info.csumtype info.csumvalue) : Except LfcFailure Unit) with
      | .error failure =>
          return some (gfal2SetError gfal2GetPluginsQuark failure.errno
            (lit "Could not set file size and checksum: " ++ services.sstrerror failure.serrno))
      | .ok () => return none

def lfcTouch (urls : List CString) (path guid : CString) (info : SizeAndChecksum) : Lfc W (Option GError) := do
  let made ← touchDirectory services urls path
  if made.val ≠ 0 then return made.err else touchFile services urls path guid info

/-- `[a-zA-Z0-9\.-]`, where the backslash stands for itself. -/
def isHostChar (c : Char) : Bool := c.isAlphanum || c = '\\' || c = '.' || c = '-'

/-- `(.+://([a-zA-Z0-9\.-]+))(:[0-9]+)?/.+` -/
def sourceRegex : Regex Char :=
  .seq (.group 1 (.seq (.plus (.cls fun _ => true)) (.seq (.chr ':') (.seq (.chr '/') (.seq (.chr '/')
    (.group 2 (.plus (.cls isHostChar))))))))
    (.seq (.opt (.group 3 (.seq (.chr ':') (.plus (.cls Char.isDigit))))) (.seq (.chr '/') (.plus (.cls fun _ => true))))

/-- `_get_host`. The length of the host is the size of the buffer it is copied to. -/
def getHost (url : CString) : Except GError CString :=
  match sourceRegex.regexec url with
  | some found =>
      let hostLen := ((found 2).rmEo - (found 2).rmSo).toNat
      .ok ((url.drop (found 2).rmSo.toNat).take (hostLen - 1))
  | none => .error (gfal2SetError gfal2GetPluginsQuark EINVAL (lit "The source is not a valid url: " ++ url ++ lit " (No match)"))

/-- `gfal_lfc_check_lfn_url`: `^(lfn:/|lfc://)([:alnum:]|-|/|.|_)+` in either case, or an identifier. -/
def gfalLfcCheckLfnUrl (url : CString) : Bool :=
  let small := url.map Char.toLower
  ((lit "lfn:/").isPrefixOf small && 5 < url.length || (lit "lfc://").isPrefixOf small && 6 < url.length) ||
    (url.length < 2048 && 5 < url.length && (lit "guid:").isPrefixOf url)

/-- `gfal2_stat` of a source, for its size. -/
def sourceStat (url : CString) : Lfc W (Except (Option GError) Int) := do
  if gfalLfcCheckLfnUrl url then
    let answer ← lfcStatG services url
    match answer.val with
    | some st => return .ok st.stSize
    | none => return .error answer.err
  else
    let context ← Exec.get
    let (answer, world) := services.sourceStat url context.world
    Exec.modify fun context => { context with world := world }
    return answer.mapError some

/-- `gfal2_checksum` of a source, for a buffer of 33 characters. -/
def sourceChecksum (url type : CString) : Lfc W (Option CString) := do
  if gfalLfcCheckLfnUrl url then return (← lfcChecksumG services url 33).val
  else
    let context ← Exec.get
    let (answer, world) := services.sourceChecksum url type context.world
    Exec.modify fun context => { context with world := world }
    return answer.map (·.take 32)

def fullChecksumType (shortName : CString) : CString :=
  if shortName = lit "AD" then lit "ADLER32" else if shortName = lit "MD" then lit "MD5" else lit "CS"

/-- The loop over the types of checksums: the first one that the source has. -/
def replicaChecksum (url : CString) (info : SizeAndChecksum) : List CString → Lfc W SizeAndChecksum
  | [] => return info
  | type :: types => do
      match ← sourceChecksum services url (fullChecksumType type) with
      | some value => return { info with csumtype := type, csumvalue := value }
      | none => replicaChecksum url info types

def getReplicaInfo (replicaUrl : CString) : Lfc W (Except (Option GError) SizeAndChecksum) := do
  match ← sourceStat services replicaUrl with
  | .error e => return .error e
  | .ok size =>
      return .ok (← replicaChecksum services replicaUrl { filesize := (size % 2 ^ 64).toNat } [lit "AD", lit "MD", lit "CS"])

def validateNewReplica (statg : LfcFilestatg) (info : SizeAndChecksum) : Option GError :=
  if info.filesize ≠ statg.filesize then
    some (gfal2SetError gfal2GetPluginLfcQuark EINVAL
      (lit "Replica file size (" ++ showInt (Int.bmod info.filesize (2 ^ 64)) ++ lit ") and LFC file size (" ++
        showInt (Int.bmod statg.filesize (2 ^ 64)) ++ lit ") do not match"))
  else if statg.csumvalue ≠ [] ∧ info.csumvalue ≠ [] ∧ strncmp info.csumtype statg.csumtype 3 = 0 ∧
      strncmp info.csumvalue statg.csumvalue 33 ≠ 0 then
    some (gfal2SetError gfal2GetPluginLfcQuark EINVAL
      (lit "Replica checksum (" ++ info.csumvalue ++ lit ") and LFC checksum (" ++ statg.csumvalue ++ lit ") do not match"))
  else none

/-- The calls of a registration that attach the replica to an entry, which was there before or has been created. -/
def attachReplica (urls : List CString) (lfcHost : Option CString) (statg : LfcFilestatg) (fileExisted : Bool)
    (srcHost srcUrl : CString) : Lfc W (Ret Int) := do
  let uniqueId : LfcFileid := ⟨(lfcHost.getD []).take 63, statg.fileid⟩
  match (← callLfc services urls (.addreplica statg.guid (if fileExisted then some uniqueId else none) srcHost srcUrl) :
      Except LfcFailure Unit) with
  | .ok () => return ⟨0, none⟩
  | .error failure =>
      if gfalLfcGetErrno services failure ≠ EEXIST then
        return ⟨-1, some (lfcError services (lit "Could not register the replica : ") failure [' '])⟩
      else return ⟨0, none⟩

/-- The calls of `gfal_lfc_register` in its environment. -/
def registerReplica (urls : List CString) (lfcHost : Option CString) (lfcPath srcHost srcUrl : CString) (info : SizeAndChecksum) :
    Lfc W (Ret Int) := do
  match (← callLfc services urls (.statg lfcPath) : Except LfcFailure LfcFilestatg) with
  | .ok statg =>
      match validateNewReplica statg info with
      | some e => return ⟨-1, some e⟩
      | none => attachReplica services urls lfcHost statg true srcHost srcUrl
  | .error failure =>
      if gfalLfcGetErrno services failure = ENOENT then do
        let context ← Exec.get
        let (guid, world) := services.generateGuid context.world
        Exec.modify fun context => { context with world := world }
        match ← lfcTouch services urls lfcPath guid info with
        | some e => return ⟨-1, some e⟩
        | none => attachReplica services urls lfcHost { guid := guid } false srcHost srcUrl
      else
        return ⟨-1, some (gfal2SetError gfal2GetPluginLfcQuark failure.errno
          (lit "Failed to stat the file: " ++ services.sstrerror failure.serrno ++ lit " (" ++
            showInt (gfalLfcGetErrno services failure) ++ lit ")"))⟩

/-- What `gfal_lfc_register` finds out before it sets up its environment. -/
def registerTarget (srcUrl dstUrl : CString) :
    Lfc W (Except (Option GError) (Option CString × Option CString × CString × CString × SizeAndChecksum)) := do
  match ← urlConverter services dstUrl with
  | .error e => return .error e
  | .ok (lfcHost, lfcPath) =>
      match getHost srcUrl with
      | .error e => return .error (some e)
      | .ok srcHost =>
          match ← getReplicaInfo services srcUrl with
          | .error e => return .error e
          | .ok info => return .ok (lfcHost, lfcHost, lfcPath, srcHost, info)

def gfalLfcRegister (srcUrl dstUrl : CString) : Lfc W (Ret Int) :=
  withLfcEnvironment services dstUrl (registerTarget services srcUrl dstUrl) (-1) fun (lfcHost, lfcPath, srcHost, info) =>
    registerReplica services [dstUrl] lfcHost lfcPath srcHost srcUrl info

def gfalLfcUnregister (url sfn : CString) : Lfc W (Ret Int) :=
  withLfcEnvironment services url (urlConverter services url) (-1) fun lfcPath => do
    match (← callLfc services [url] (.statg lfcPath) : Except LfcFailure LfcFilestatg) with
    | .error failure =>
        return ⟨-1, some (gfal2SetError gfal2GetPluginLfcQuark (gfalLfcGetErrno services failure)
          (lit "Could not stat the file: " ++ services.sstrerror failure.serrno ++ lit " (" ++
            showInt (gfalLfcGetErrno services failure) ++ lit ")"))⟩
    | .ok statg =>
        match (← callLfc services [url] (.delreplica ⟨[], statg.fileid⟩ sfn) : Except LfcFailure Unit) with
        | .ok () => return ⟨0, none⟩
        | .error failure =>
            return ⟨-1, some (lfcError services (lit "Could not register the replica : ") failure
              (lit " (" ++ showInt (gfalLfcGetErrno services failure) ++ lit ") "))⟩

/-! ### Runs -/

/-- What a process does with the plugin: its operations, and changes of the configuration and of the credentials. -/
inductive LfcAction where
  | setConfig (config : Config)
  | setCreds (creds : CredMapping)
  | chmod (path : CString) (mode : ModeT)
  | access (lfn : CString) (mode : Int)
  | rename (oldpath newpath : CString)
  | symlink (oldpath newpath : CString)
  | stat (path : CString)
  | lstat (path : CString)
  | mkdirp (path : CString) (mode : ModeT) (pflag : Bool)
  | rmdir (path : CString)
  | opendir (path : CString)
  | readdir (oh : LfcOpendirHandle)
  | closedir (oh : LfcOpendirHandle)
  | checksum (path : CString) (bufferLength : Nat)
  | checksumType (path : CString) (bufferLength : Nat)
  | getSURL (path : CString)
  | getGuid (path : CString) (size : Nat)
  | getComment (path : CString) (size : Nat)
  | setComment (path value : CString)
  | resolveGuid (guid : CString)
  | unlink (path : CString)
  | readlink (path : CString) (buffsiz : Nat)
  | register (srcUrl dstUrl : CString)
  | unregister (url sfn : CString)

/-- An action without its result. -/
def lfcPerform : LfcAction → Lfc W Unit
  | .setConfig config => Exec.modify fun context => { context with config := config }
  | .setCreds creds => Exec.modify fun context => { context with creds := creds }
  | .chmod path mode => do let _ ← lfcChmodG services path mode
  | .access lfn mode => do let _ ← lfcAccessG services lfn mode
  | .rename oldpath newpath => do let _ ← lfcRenameG services oldpath newpath
  | .symlink oldpath newpath => do let _ ← lfcSymlinkG services oldpath newpath
  | .stat path => do let _ ← lfcStatG services path
  | .lstat path => do let _ ← lfcLstatG services path
  | .mkdirp path mode pflag => do let _ ← lfcMkdirpG services path mode pflag
  | .rmdir path => do let _ ← lfcRmdirG services path
  | .opendir path => do let _ ← lfcOpendirG services path
  | .readdir oh => do let _ ← lfcReaddirppG services oh
  | .closedir oh => do let _ ← lfcClosedirG services oh
  | .checksum path bufferLength => do let _ ← lfcChecksumG services path bufferLength
  | .checksumType path bufferLength => do let _ ← lfcChecksumTypeG services path bufferLength
  | .getSURL path => do let _ ← lfcGetSURLG services path
  | .getGuid path size => do let _ ← lfcGetxattrGetguid services path size
  | .getComment path size => do let _ ← lfcGetxattrComment services path size
  | .setComment path value => do let _ ← lfcSetxattrComment services path value
  | .resolveGuid guid => do let _ ← lfcResolveGuid services guid
  | .unlink path => do let _ ← lfcUnlinkG services path
  | .readlink path buffsiz => do let _ ← lfcReadlinkG services path buffsiz
  | .register srcUrl dstUrl => do let _ ← gfalLfcRegister services srcUrl dstUrl
  | .unregister url sfn => do let _ ← gfalLfcUnregister services url sfn

/-- A directory that is read or closed is open. -/
def lfcEnabled (context : LfcContext W) : LfcAction → Bool
  | .readdir oh | .closedir oh => decide (oh ∈ context.dirs)
  | _ => true

/-- An action that is enabled, unless it ends in a fault. -/
def lfcStep (action : LfcAction) (context : LfcContext W) : Option (LfcContext W) :=
  if lfcEnabled context action then (lfcPerform services action context).toOption.map Prod.snd else none

end Gfal2
