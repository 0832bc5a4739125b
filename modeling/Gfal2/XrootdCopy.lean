import Gfal2.FileCopy
import Gfal2.LocalCopy
import Gfal2.Requests
import Gfal2.Xrootd

/-! Copies by the XRootD plugin: the jobs that are built for a list of files, and what becomes of the files when the jobs were run.
XRootD is known by the record of what was asked of it. -/

namespace Gfal2

open Base Exec

/-- The parameters of a transfer with those that only jobs read. -/
structure XrootdCopyParams extends GfaltParams where
  nbstreams : Nat := 0
  useProxyDelegation : Bool := true
  srcSpacetoken : Option CString := none
  dstSpacetoken : Option CString := none

structure JobChecksum where
  mode : CString
  type : CString
  preset : CString
  deriving DecidableEq

/-- `XrdCl::PropertyList` of a job. -/
structure CopyJob where
  source : CString
  target : CString
  force : Bool
  makeDir : Bool
  subStreamsPerChannel : Nat
  posc : Bool
  thirdParty : CString
  delegate : Option Bool
  tpcTimeout : Nat
  checkSum : Option JobChecksum
  deriving DecidableEq

/-- What XRootD is asked for. -/
inductive XrdExchange where
  | prepareCopy (jobs : List CopyJob) (parallel : Int)
  | runCopy
  | unlink (url : CString)
  | prepareEvict (endpoint : CString) (paths : List CString)
  deriving DecidableEq

abbrev XrdHistory := List XrdExchange

/-- The answers, with what `XrdCl::URL` makes of a prepared URL and a token, and the error for a value that is not there in the
configuration. A run has a status of its own and one for each job. -/
structure XrdServers extends XrdUrls where
  jobUrl : CString → Option CString → CString
  protocol : CString → CString
  missingValue : GError
  prepareCopy : List CopyJob → Int → XrdHistory → Option XrdStatus
  runCopy : XrdHistory → Option XrdStatus × (Nat → Option XrdStatus)
  unlink : CString → XrdHistory → Option XrdStatus
  prepareEvict : CString → List CString → XrdHistory → Option XrdStatus

/-- What the plugin reads beside the configuration, and what joining returns where it stores behind its array. -/
structure XrootdPlugin where
  credMapping : CredMapping := []
  optKeys : List CString := []
  overrun : Gfal2Uri → CString := fun _ => []

abbrev XrdWorld := Services XrootdPlugin XrdExchange

/-- The code of the plugin. -/
abbrev Xrd (α : Type) : Type := Gfal XrdWorld α

def Gfal2Context.xrootd (context : Gfal2Context XrdWorld) : XrootdContext :=
  ⟨context.config, context.world.plugin.credMapping, context.world.plugin.optKeys, context.world.plugin.overrun⟩

/-- What stands before the first colon and behind it, as `g_strsplit` gives it. -/
def splitChecksum (text : CString) : Option (CString × CString) :=
  (strchr text ':').map fun i => (text.take i, text.drop (i + 1))

def jobChecksumMode : ChecksumMode → CString
  | .both => lit "end2end"
  | .target => lit "target"
  | .source => lit "source"
  | .none => lit "none"

variable (servers : XrdServers)

/-! ### The jobs -/

/-- The checksum of a job. The type and the value are copied up to the size of a pointer. -/
def buildJobChecksum (config : Config) (mode : ChecksumMode) (entry : Option CString) : Except Fault (Except GError JobChecksum) :=
  match entry with
  | none => .error .nullDereference
  | some text =>
      match splitChecksum text with
      | none => .error (if text = [] then .arrayBounds else .nullDereference)
      | some (type, value) =>
          let checksumType := type.take 8
          let checksumValue := (value.dropWhile (· == '0')).take 8
          let made := fun (type : CString) =>
            (⟨jobChecksumMode mode, predefinedChecksumTypeToLower type, checksumValue.map Char.toLower⟩ : JobChecksum)
          if checksumType = [] then
            match config.optString xrootdConfigGroup (lit "COPY_CHECKSUM_TYPE") with
            | none => .ok (.error (gfal2SetError xrootdDomain servers.missingValue.code servers.missingValue.message))
            | some defaultType => .ok (.ok (made (defaultType.take 63)))
          else .ok (.ok (made checksumType))

/-- The job of a file, without its checksum. -/
def buildPlainJob (context : XrootdContext) (params : XrootdCopyParams) (file : BulkFile) : CopyJob :=
  let source := servers.jobUrl (prepareUrl context file.src) params.srcSpacetoken
  let target := servers.jobUrl (prepareUrl context file.dst) params.dstSpacetoken
  let between := servers.protocol source = lit "root" ∧ servers.protocol target = lit "root"
  { source := source
    target := target
    force := params.replaceExisting
    makeDir := params.parentDirCreate
    subStreamsPerChannel := params.nbstreams
    posc := true
    thirdParty := if between then lit "only" else lit "first"
    delegate := if between then some params.useProxyDelegation else none
    tpcTimeout := params.timeout.toNat
    checkSum := none }

def buildJob (context : XrootdContext) (params : XrootdCopyParams) (file : BulkFile) : Except Fault (Except GError CopyJob) :=
  let job := buildPlainJob servers context params file
  if params.checksum.mode = .none then .ok (.ok job)
  else
    match buildJobChecksum servers context.config params.checksum.mode file.checksum with
    | .error reason => .error reason
    | .ok (.error e) => .ok (.error e)
    | .ok (.ok checksum) => .ok (.ok { job with checkSum := some checksum })

/-- The jobs of the files, up to the first error. -/
def buildJobs (context : XrootdContext) (params : XrootdCopyParams) : List BulkFile → Except Fault (Except GError (List CopyJob))
  | [] => .ok (.ok [])
  | file :: files =>
      match buildJob servers context params file with
      | .error reason => .error reason
      | .ok (.error e) => .ok (.error e)
      | .ok (.ok job) =>
          match buildJobs context params files with
          | .error reason => .error reason
          | .ok (.error e) => .ok (.error e)
          | .ok (.ok jobs) => .ok (.ok (job :: jobs))

/-! ### The copy -/

def xrootd2gliberr (text : CString) (status : XrdStatus) : GError :=
  gfal2SetError xrootdDomain status.errno (text ++ status.text)

def gfalXrootdUnlinkG (url : CString) : Xrd (Ret Int) := do
  let context ← Exec.get
  match ← makeRequest (.unlink (prepareUrl context.xrootd url)) (servers.unlink (prepareUrl context.xrootd url)) with
  | none => return ⟨0, none⟩
  | some status =>
      return ⟨-1, some (gfal2SetError xrootdDomain status.errno
        ((lit "Failed to delete file (" ++ status.text ++ lit ")").take 511))⟩

/-- `gfal_xrootd_copy_cleanup`, for the error of the file. -/
def gfalXrootdCopyCleanup (dst : CString) (e : GError) : Xrd Int := do
  if e.code ≠ EEXIST then
    match ← gfalXrootdUnlinkG servers dst with
    | ⟨0, _⟩ => pluginTriggerEvent xrootdDomain .destination (lit "CLEANUP") (showInt 0)
    | ⟨_, some failed⟩ =>
        pluginTriggerEvent xrootdDomain .destination (lit "CLEANUP") (showInt (if failed.code ≠ ENOENT then failed.code else 0))
    | ⟨_, none⟩ => Exec.fault .nullDereference
  return -1

/-- `gfal_xrootd_release_file_list`, which reads the first of its files whether there is one or not. -/
def gfalXrootdReleaseFileList (urls : List CString) : Xrd Int := do
  let context ← Exec.get
  match urls with
  | [] => Exec.fault .arrayBounds
  | url :: _ => do
      let endpoint := servers.endpoint (prepareUrl context.xrootd url)
      let paths := urls.map fun url => servers.pathWithParams (prepareUrl context.xrootd url)
      match ← makeRequest (.prepareEvict endpoint paths) (servers.prepareEvict endpoint paths) with
      | none => return 0
      | some _ => return -1

/-- What a bulk copy leaves its caller: the errors of the files are not there before the jobs were run. -/
structure BulkAnswer where
  ret : Int
  opError : Option GError := none
  fileErrors : Option (List (Option GError)) := none
  deriving DecidableEq

/-- The clean-up of a file in the loop. The array of errors is taken for an array of such arrays: only the first file finds its own
error there. -/
def cleanUpPlaced (params : XrootdCopyParams) (i : Nat) (dst : CString) (e : GError) : Xrd Unit := do
  if params.transferCleanup then
    if i = 0 then
      let _ ← gfalXrootdCopyCleanup servers dst e
      return ()
    else Exec.fault .arrayBounds

/-- The loop over the results, which leaves the errors of the files and those that were copied. -/
def gatherResults (params : XrootdCopyParams) (results : Nat → Option XrdStatus) :
    List BulkFile → Nat → Xrd (List (Option GError) × List CString)
  | [], _ => return ([], [])
  | file :: files, i =>
      match results i with
      | some status => do
          let e := xrootd2gliberr (lit "Error on XrdCl::CopyProcess::Run(): ") status
          cleanUpPlaced servers params i file.dst e
          let (errors, copied) ← gatherResults params results files (i + 1)
          return (some e :: errors, copied)
      | none => do
          let (errors, copied) ← gatherResults params results files (i + 1)
          return (none :: errors, file.src :: copied)

/-- The sources that were copied are evicted, if that is asked for. -/
def evictCopied (params : XrootdCopyParams) (copied : List CString) : Xrd Unit := do
  if params.evict then
    let ret ← gfalXrootdReleaseFileList servers copied
    pluginTriggerEvent xrootdDomain .source (lit "EVICT") (showInt ret)

/-- The part of `gfal_xrootd_3rd_copy_bulk` from the results on. -/
def finishCopies (params : XrootdCopyParams) (files : List BulkFile) (overall : Option XrdStatus) (results : Nat → Option XrdStatus) :
    Xrd BulkAnswer :=
  match files, overall with
  | [file], some status => do
      let e := xrootd2gliberr (lit "Error on XrdCl::CopyProcess::Run(): ") status
      if params.transferCleanup then
        let ret ← gfalXrootdCopyCleanup servers file.dst e
        return { ret := ret, opError := some e }
      else return { ret := -1, opError := some e }
  | files, _ => do
      let (errors, copied) ← gatherResults servers params results files 0
      evictCopied servers params copied
      return { ret := -(errors.countP (·.isSome) : Int), fileErrors := some errors }

def gfalXrootd3rdCopyBulk (params : XrootdCopyParams) (files : List BulkFile) : Xrd BulkAnswer := do
  let context ← Exec.get
  match buildJobs servers context.xrootd params files with
  | .error reason => Exec.fault reason
  | .ok (.error e) => return { ret := -1, opError := some e }
  | .ok (.ok jobs) => do
      let parallel := (context.config.optInteger xrootdConfigGroup (lit "PARALLEL_COPIES")).getD 20
      match ← makeRequest (.prepareCopy jobs parallel) (servers.prepareCopy jobs parallel) with
      | some status =>
          return { ret := -1, opError := some (xrootd2gliberr (lit "Error on XrdCl::CopyProcess::Prepare(): ") status) }
      | none => do
          let (overall, results) ← makeRequest .runCopy servers.runCopy
          finishCopies servers params files overall results

def gfalXrootd3rdCopy (params : XrootdCopyParams) (src dst : CString) : Xrd (Ret Int) := do
  let (_, type, value) := gfaltGetChecksum params.toGfaltParams 64 512
  let answer ← gfalXrootd3rdCopyBulk servers params [⟨src, dst, some (type ++ lit ":" ++ value)⟩]
  if answer.ret < 0 then
    match answer.opError with
    | some e => return ⟨answer.ret, some e⟩
    | none => return ⟨answer.ret, (answer.fileErrors.bind List.head?).join⟩
  else return ⟨answer.ret, none⟩

end Gfal2
