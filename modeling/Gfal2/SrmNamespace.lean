import Gfal2.SrmStaging

/-! The operations of the SRM plugin on names: `stat` and what is kept of its answers, the changes of the name space,
the removal of files and the listing of directories. -/

namespace Gfal2

open Base

abbrev EFBIG : Int := 27

/-! ### The cache -/

section Cache

def dropDuplicateSlashes : CString → CString
  | '/' :: '/' :: rest => dropDuplicateSlashes ('/' :: rest)
  | c :: rest => c :: dropDuplicateSlashes rest
  | [] => []

abbrev gfalSrmLstatPrefix : CString := lit "lstat_"

/-- `gfal_srm_construct_key`. The first slash that is looked at stands two characters behind `srm://`. -/
def gfalSrmConstructKey (url : CString) : CString :=
  let buff := (gfalSrmLstatPrefix ++ url).take 2047
  buff.take 14 ++ dropDuplicateSlashes (buff.drop 14)

/-- `gsimplecache_take_one_kstr`. -/
def StatCache.takeOne (cache : StatCache) (key : CString) : Option ExtendedStat × StatCache :=
  match cache.lookup key with
  | none => (none, cache)
  | some entry =>
      (some entry.item,
        if entry.refCount - 1 ≤ 0 then cache.erase key else cache.insert key { entry with refCount := entry.refCount - 1 })

/-- `gsimplecache_add_item_kstr`: an item that is there is kept. -/
def StatCache.addItem (cache : StatCache) (key : CString) (item : ExtendedStat) : StatCache :=
  match cache.lookup key with
  | some entry => cache.insert key { entry with refCount := entry.refCount + 1 }
  | none => (if cache.entries.length ≥ 5000 then ∅ else cache).insert key ⟨2, item⟩

/-- `gsimplecache_remove_kstr`. -/
def StatCache.remove (cache : StatCache) (key : CString) : StatCache := cache.erase key

/-- Change the cache of the plugin. -/
def modifyCache (f : StatCache → StatCache) : Srm Unit :=
  Exec.modify fun context =>
    { context with world := { context.world with plugin := { context.world.plugin with cache := f context.world.plugin.cache } } }

/-- Take the value for a SURL out of the cache. -/
def takeCached (surl : CString) : Srm (Option ExtendedStat) := do
  let context ← Exec.get
  let (found, cache) := context.world.plugin.cache.takeOne (gfalSrmConstructKey surl)
  modifyCache fun _ => cache
  return found

def gfalSrmCacheStatAdd (surl : CString) (value : ExtendedStat) : Srm Unit :=
  modifyCache fun cache => cache.addItem (gfalSrmConstructKey surl) value

def gfalSrmCacheStatRemove (surl : CString) : Srm Unit := modifyCache fun cache => cache.remove (gfalSrmConstructKey surl)

end Cache

variable (servers : SrmServers)

/-! ### The status of a file -/

/-- An `st_xtime` that is set is moved to the local time zone. -/
def adjustedTime (offset time : Int) : Int := if time ≠ 0 then time + offset else time

def gfalSrmAdjustTime (offset : Int) (buf : StatBuffer) : StatBuffer :=
  { buf with
    stCtime := adjustedTime offset buf.stCtime
    stAtime := adjustedTime offset buf.stAtime
    stMtime := adjustedTime offset buf.stMtime }

/-- The error of a file whose status is one. -/
def srmIfceError (status : Int) (explanation : CString) : GError :=
  gfal2SetError srmQuark status (lit "Error reported from srm_ifce : " ++ showInt status ++ ' ' :: explanation)

def gfalStatGSrmv2GenericInternal (easy : GfalSrmEasy) (surl : CString) : SrmThrowing ExtendedStat := do
  if easy.srmContext = none then
    throw ⟨gfal2GetCoreQuark, EINVAL,
      lit "[gfal_statG_srmv2_generic_internal] Invalid args handle/endpoint or invalid stat struct size"⟩
  let entry ← easy.ask (.ls surl) (servers.ls surl)
  if entry.status ≠ 0 then
    throw (srmIfceError entry.status entry.explanation)
  return ⟨gfalSrmAdjustTime servers.timezoneOffset entry.stat, entry.locality⟩

def gfalSrmStatG (surl : CString) : SrmThrowing StatBuffer := do
  match ← (takeCached surl : Srm _) with
  | some xstat => return xstat.stat
  | none => withEasyContext servers surl fun easy => do
      let xstat ← gfalStatGSrmv2GenericInternal servers easy easy.path
      (gfalSrmCacheStatAdd surl xstat : Srm _)
      return xstat.stat

/-- `gfal_srm_status_copy` into a buffer that is long enough. -/
def gfalSrmStatusCopy : TFileLocality → CString
  | .online => lit "ONLINE"
  | .lost => lit "LOST"
  | .nearline => lit "NEARLINE"
  | .unavailable => lit "UNAVAILABLE"
  | .onlineAndNearline => lit "ONLINE_AND_NEARLINE"
  | .none => lit "NONE"
  | .unknown => lit "UNKNOWN"

def gfalSrmStatusInternal (easy : GfalSrmEasy) (buffLen : Nat) : SrmThrowing CString := do
  match ← (takeCached easy.path : Srm _) with
  | some xstat => return (gfalSrmStatusCopy xstat.locality).take (buffLen - 1)
  | none => do
      let xstat ← gfalStatGSrmv2GenericInternal servers easy easy.path
      return (gfalSrmStatusCopy xstat.locality).take (buffLen - 1)

def gfalSrmStatusGetxattrG (surl : CString) (buffLen : Nat) : SrmThrowing CString :=
  withEasyContext servers surl fun easy => gfalSrmStatusInternal servers easy buffLen

def gfalSrmArchivePollG (surl : CString) : Srm (Ret Int) := do
  match ← (gfalSrmStatusGetxattrG servers surl 1024).run with
  | .error e => return ⟨-1, some e⟩
  | .ok status =>
      if status = lit "NEARLINE" ∨ status = lit "ONLINE_AND_NEARLINE" then return ⟨1, none⟩
      else return ⟨0, some (gfal2SetError srmQuark EAGAIN (lit "File " ++ surl ++ lit " is not yet archived"))⟩

def gfalSrmAccessG (surl : CString) (mode : Int) : SrmThrowing Unit :=
  withEasyContext servers surl fun easy => do
    let resu ← easy.ask (.checkPermission easy.path mode) (servers.checkPermission easy.path mode)
    if resu.status ≠ 0 then
      throw (gfal2SetError srmQuark resu.status
        (if resu.surl.length ≥ 2048 ∨ (printed resu.explanation).length ≥ 2048 then
          lit "Memory corruption in the libgfal_srm_ifce answer, fatal"
        else lit "Error " ++ showInt resu.status ++ lit " : , file " ++ resu.surl ++ lit ": " ++ printed resu.explanation))

/-! ### Changes of the name space -/

def gfalSrmChmodG (path : CString) (mode : Nat) : SrmThrowing Unit :=
  withEasyContext servers path fun easy => do
    (gfalSrmCacheStatRemove path : Srm _)
    if easy.srmContext = none then
      throw ⟨gfal2GetCoreQuark, EINVAL, lit "[gfal_srmv2_chmod_internal] invalid args "⟩
    easy.tell (.setPermission easy.path mode) (servers.setPermission easy.path mode)

/-- Whether there is something, and then whether it is a directory. -/
def isDirectory (easy : GfalSrmEasy) : SrmThrowing (Option Bool) := ExceptT.mk do
  match ← (gfalStatGSrmv2GenericInternal servers easy easy.path).run with
  | .ok xstat => return .ok (some (sIsdir xstat.stat.stMode))
  | .error _ => return .ok none

def gfalMkdirSrmv2Internal (easy : GfalSrmEasy) : SrmThrowing Unit := easy.tell (.mkdir easy.path) (servers.mkdir easy.path)

def gfalSrmMkdirRecG (surl : CString) : SrmThrowing Unit :=
  withEasyContext servers surl fun easy => do
    match ← isDirectory servers easy with
    | some true => return ()
    | some false => throw (gfal2SetError srmQuark ENOTDIR (surl ++ lit " it is a file"))
    | none => tryCatch (gfalMkdirSrmv2Internal servers easy) fun e => if e.code = EEXIST then return () else throw e

def gfalSrmMkdirG (surl : CString) (pflag : Bool) : SrmThrowing Unit :=
  if pflag then gfalSrmMkdirRecG servers surl
  else withEasyContext servers surl fun easy => do
    match ← isDirectory servers easy with
    | some _ => throw (gfal2SetError srmQuark EEXIST (lit "directory already exist"))
    | none => gfalMkdirSrmv2Internal servers easy

def gfalSrmRenameG (oldurl urlnew : CString) : SrmThrowing Unit :=
  withEasyContext servers oldurl fun easy => do
    (gfalSrmCacheStatRemove oldurl : Srm _)
    let decodednew := gfal2SrmGetDecodedPath urlnew
    easy.tell (.mv easy.path decodednew) (servers.mv easy.path decodednew)

def gfalSrmRmdirG (surl : CString) : SrmThrowing Unit :=
  withEasyContext servers surl fun easy => do
    let xstat ← gfalStatGSrmv2GenericInternal servers easy easy.path
    if sIsdir xstat.stat.stMode then
      (gfalSrmCacheStatRemove surl : Srm _)
      let status ← easy.ask (.rmdir easy.path) (servers.rmdir easy.path)
      if status ≠ 0 then
        throw (gfal2SetError srmQuark status (lit "Error report from the srm_ifce "))
    else
      throw (gfal2SetError srmQuark ENOTDIR (lit "This file is not a directory, impossible to use rmdir on it"))

/-- `gfal_srm_unlink_listG`. Without a context there is no error for any file. -/
def gfalSrmUnlinkListG (surls : List CString) : Srm (Int × ErrorList) := do
  match surls with
  | [] => Exec.fault .arrayBounds
  | surl :: _ => do
      let made ← srmEasyContext servers surl
      let answer ← remove surls made.val
      srmEasyContextRelease
      return answer
where
  remove (surls : List CString) : Option GfalSrmEasy → Srm (Int × ErrorList)
    | none => return (-1, surls.map fun _ => none)
    | some easy => do
        forget surls
        gfalSrmRmSrmv2Internal servers easy (surls.map gfal2SrmGetDecodedPath)
  forget : List CString → Srm Unit
    | [] => return ()
    | surl :: rest => do
        gfalSrmCacheStatRemove surl
        forget rest

def gfalSrmUnlinkG (path : CString) : Srm (Ret Int) := do
  let (ret, errors) ← gfalSrmUnlinkListG servers [path]
  return ⟨ret, errors.head?.join⟩

/-! ### Directories -/

/-- `struct _gfal_srm_opendir_handle`. -/
structure SrmOpendirHandle where
  easy : GfalSrmEasy
  surl : CString
  isChunkedListing : Bool := false
  chunkOffset : Int := 0
  chunkSize : Int := 0
  srmFileStatuses : Option DirectoryListing := none
  responseIndex : Nat := 0

/-- `atoi`, of a number that may have a sign. -/
def signedAtoi (s : CString) : Int := Int.bmod (atol s) (2 ^ 32)

/-- One pair of the additional parameters. -/
def opendirParameter (h : SrmOpendirHandle) (pair : CString) : SrmOpendirHandle :=
  if '=' ∈ pair then
    let key := pair.takeWhile (· ≠ '=')
    let value := (pair.dropWhile (· ≠ '=')).drop 1
    if key.map Char.toLower = lit "offset" then { h with chunkOffset := signedAtoi value }
    else if key.map Char.toLower = lit "count" then { h with chunkSize := signedAtoi value }
    else h
  else h

/-- `_parse_opendir_parameters` of what stands behind the first semicolon. -/
def parseOpendirParameters (parameters : CString) (h : SrmOpendirHandle) : SrmOpendirHandle :=
  let h := ((parameters.splitOn ';').filter (· ≠ [])).foldl opendirParameter h
  if h.chunkOffset ≠ 0 ∨ h.chunkSize ≠ 0 then { h with isChunkedListing := true } else h

def gfalSrmOpendirInternal (easy : GfalSrmEasy) : SrmThrowing SrmOpendirHandle := do
  let realPath := easy.path.takeWhile (· ≠ ';')
  let xstat ← gfalStatGSrmv2GenericInternal servers easy realPath
  if sIsdir xstat.stat.stMode then
    return parseOpendirParameters ((easy.path.dropWhile (· ≠ ';')).drop 1)
      { easy := easy, surl := realPath.rdropWhile (· == '/') }
  else
    throw (gfal2SetError srmQuark ENOTDIR (lit "srm-plugin: " ++ easy.path ++
      lit " is not a directory, impossible to list content"))

/-- `gfal_srm_opendirG`, which never releases its context. -/
def gfalSrmOpendirG (surl : CString) : SrmThrowing SrmOpendirHandle := ExceptT.mk do
  match ← srmEasyContext servers surl .directory with
  | ⟨some easy, err⟩ => do
      let answer ← (gfalSrmOpendirInternal servers easy).run
      return answer.mapError fun e => err.getD e
  | ⟨none, err⟩ => return .error (err.getD servers.missingValue)

def gfalSrmClosedirG (_handle : SrmOpendirHandle) : Srm Unit := srmEasyContextRelease

/-- The key an entry of a directory is kept under, and its name: what stands behind the last slash of its SURL. -/
def entryNames (parentSurl surl : CString) : CString × CString :=
  match strrchr surl '/' with
  | some p => ((parentSurl ++ surl.drop p).take 2047, (surl.drop (p + 1)).take 2047)
  | none => ((parentSurl ++ ['/']).take 2047, surl.take 2047)

/-- `gfal_srm_readdir_convert_result`. The time of the entry stays as the server sends it; a name has 256 bytes. -/
def gfalSrmReaddirConvertResult (parentSurl : CString) (status : MdFileStatus) : Srm (Dirent × StatBuffer) := do
  let (key, name) := entryNames parentSurl status.surl
  if name.length ≥ 256 then
    Exec.fault .arrayBounds
  gfalSrmCacheStatAdd key ⟨status.stat, status.locality⟩
  return (⟨name, if sIsdir status.stat.stMode then .directory else if sIslnk status.stat.stMode then .symlink else .regular⟩,
    status.stat)

/-- What a call that reads the directory hands back, and the handle after it. -/
abbrev ReaddirResult := Except GError (Option (Dirent × StatBuffer)) × SrmOpendirHandle

def gfalSrmReaddirInternal (oh : SrmOpendirHandle) : Srm (Except GError Unit × SrmOpendirHandle) := do
  let oh := { oh with responseIndex := 0 }
  match ← oh.easy.call (servers.listing oh.surl oh.chunkOffset oh.chunkSize) fun _ =>
      .listing oh.surl oh.chunkOffset oh.chunkSize with
  | .error e => return (.error e, oh)
  | .ok listing =>
      if listing.status ≠ 0 then return (.error (srmIfceError listing.status listing.explanation), oh)
      else return (.ok (), { oh with srmFileStatuses := some listing })

/-- The next entry of what is there, of which a chunk that is read to its end is given up. -/
def nextEntry (oh : SrmOpendirHandle) : Srm ReaddirResult :=
  match oh.srmFileStatuses.bind (·.subpaths[oh.responseIndex]?) with
  | none => return (.ok none, oh)
  | some status => do
      let entry ← gfalSrmReaddirConvertResult oh.surl status
      let oh := { oh with responseIndex := oh.responseIndex + 1 }
      if oh.isChunkedListing ∧ (oh.responseIndex : Int) ≥ oh.chunkSize then
        return (.ok (some entry),
          { oh with chunkOffset := Int.bmod (oh.chunkOffset + oh.chunkSize) (2 ^ 32), srmFileStatuses := none })
      else return (.ok (some entry), oh)

def gfalSrmReaddirPipeline (oh : SrmOpendirHandle) : Srm ReaddirResult :=
  match oh.srmFileStatuses with
  | some _ => nextEntry oh
  | none => do
      match ← gfalSrmReaddirInternal servers oh with
      | (.error e, oh) => return (.error e, oh)
      | (.ok (), oh) => nextEntry oh

def gfalSrmReaddirppG (oh : SrmOpendirHandle) : Srm ReaddirResult := do
  match ← gfalSrmReaddirPipeline servers oh with
  | (.error e, oh) =>
      if e.code = EFBIG then
        if oh.isChunkedListing then
          return (.error (propagatePrefixedErrorExtended e (lit "EFBIG received when already trying chunk listing")), oh)
        else do
          let (answer, oh) ← gfalSrmReaddirPipeline servers
            { oh with isChunkedListing := true, chunkOffset := 0, chunkSize := 1000, responseIndex := 0 }
          return (answer.mapError fun e => propagatePrefixedErrorExtended e (lit "Failed when attempting chunk listing"), oh)
      else return (.error e, oh)
  | (.ok entry, oh) => return (.ok entry, oh)

end Gfal2
