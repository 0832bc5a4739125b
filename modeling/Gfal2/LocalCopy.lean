import Gfal2.MkdirRec

/-! A copy made by the library itself, between two plugins that do not know of each other: the checks
before and after, and the loop that reads from one plugin and writes to the other. What the listeners of a
transfer are told is recorded in the context. A loop that C leaves to the plugins to end is given a bound
on its passes here, and is a fault when the bound is reached. -/

namespace Gfal2

open Base

variable {σ : Type}

/-- `plugin_trigger_event`, whose text is formatted into 512 bytes. -/
def pluginTriggerEvent (domain : GQuark) (side : GfalEventSide) (stage description : CString) : Gfal σ Unit :=
  Exec.modify fun context =>
    { context with events := context.events ++ [⟨domain, side, stage, description.take 511⟩] }

def pluginTriggerMonitor (status : GfaltTransferStatus) : Gfal σ Unit :=
  Exec.modify fun context => { context with reports := context.reports ++ [status] }

def gfaltSetError (domain : GQuark) (code : Int) (side note text : CString) : GError :=
  gfal2SetError domain code (side ++ lit " " ++ note ++ lit " " ++ text.take 1023)

abbrev localCopyDomain : GQuark := lit "GFAL2:CORE:COPY:LOCAL"

/-! ### The calls of the library that a copy uses -/

def gfal2Stat (url : CString) : Gfal σ (Ret (Int × FileType)) :=
  scopeCancel (-1, .regular) (gfalPluginStatG url .regular)

def gfal2Unlink (url : CString) : Gfal σ (Ret Int) := scopeCancel (-1) (gfalPluginUnlinkG url)

/-- `gfal2_get_opt_integer_with_default`: a value that is no `gint` is an error, and so the default. -/
def gfal2GetOptIntegerWithDefault (config : Config) (groupName key : CString) (defaultValue : Int) : Int :=
  match config.optInteger groupName key with
  | some value => if -2 ^ 31 ≤ value ∧ value < 2 ^ 31 then value else defaultValue
  | none => defaultValue

theorem gfal2GetOptIntegerWithDefault_range (config : Config) (groupName key : CString) {defaultValue : Int}
    (hdefault : -2 ^ 31 ≤ defaultValue ∧ defaultValue < 2 ^ 31) :
    -2 ^ 31 ≤ gfal2GetOptIntegerWithDefault config groupName key defaultValue ∧
      gfal2GetOptIntegerWithDefault config groupName key defaultValue < 2 ^ 31 := by
  unfold gfal2GetOptIntegerWithDefault
  split
  · split
    · assumption
    · exact hdefault
  · exact hdefault

/-- The conversion to `size_t`. -/
def toSizeT (n : Int) : Nat := (n % 2 ^ 64).toNat

/-- The error number of `posix_memalign`: the alignment is a power of two times the size of a pointer, and
no object is larger than a signed size. -/
def posixMemalign (memory alignment size : Nat) : Int :=
  if alignment % 8 ≠ 0 ∨ ¬alignment.isPowerOfTwo then EINVAL
  else if size > memory ∨ size ≥ 2 ^ 63 then ENOMEM
  else 0

/-! ### Parent and destination -/

def getParent (url : CString) : Option CString := (strrchr url '/').map url.take

def createParent (params : GfaltParams) (surl : CString) : Gfal σ (Ret Int) := do
  if ¬params.parentDirCreate then
    return ⟨0, none⟩
  match getParent surl with
  | none =>
      return ⟨-1, some (gfaltSetError localCopyDomain EINVAL (lit "DESTINATION") (lit "MAKE_PARENT")
        (lit "Could not get the parent directory of " ++ surl))⟩
  | some parent =>
      let st ← gfal2Stat parent
      if st.val.1 < 0 then
        match st.err with
        | none => Exec.fault .nullDereference
        | some e =>
            if e.code ≠ ENOENT then
              return ⟨-1, some e⟩
            let made ← gfal2MkdirRec (some parent) 0o755
            return if made.err.isSome then ⟨-1, made.err⟩ else ⟨0, none⟩
      else
        return ⟨0, none⟩

/-- Whether the type of a file is one that a copy writes into as it is. -/
def FileType.isSpecial : FileType → Bool
  | .fifo | .character | .block | .socket => true
  | .regular | .directory | .symlink => false

def unlinkIfExists (params : GfaltParams) (surl : CString) : Gfal σ (Ret Int) := do
  let st ← gfal2Stat surl
  if st.val.1 ≠ 0 then
    match st.err with
    | none => Exec.fault .nullDereference
    | some e => return if e.code = ENOENT then ⟨0, none⟩ else ⟨-1, some e⟩
  else if st.val.2.isSpecial then
    return ⟨0, none⟩
  else if ¬params.replaceExisting then
    return ⟨-1, some (gfal2SetError localCopyDomain EEXIST (lit "The file exists and overwrite is not set"))⟩
  else
    let removed ← gfal2Unlink surl
    match removed.err with
    | some e => return if e.code ≠ ENOENT then ⟨-1, some e⟩ else ⟨0, none⟩
    | none =>
        pluginTriggerEvent localCopyDomain .destination (lit "OVERWRITE") (lit "Deleted " ++ surl)
        return ⟨0, none⟩

/-! ### The loop -/

/-- `struct perf_data_t`. -/
structure PerfData where
  start : Int
  lastUpdate : Int
  now : Int
  done : Nat := 0
  doneSinceLastUpdate : Nat := 0

def sendPerformanceData (perf : PerfData) : Gfal σ Unit :=
  let totalTime := perf.now - perf.start
  let incTime := perf.now - perf.lastUpdate
  pluginTriggerMonitor
    { averageBaudrate := perf.done / toSizeT totalTime
      instantBaudrate := perf.doneSinceLastUpdate / toSizeT incTime
      transferTime := totalTime
      bytesTransfered := perf.done }

/-- Read a chunk and write it: the count of the read, and the error of either. The count that the write
returns is not looked at. -/
def moveChunk (fSrc fDst : Option GfalFileHandle) (buffersize : Nat) : Gfal σ (Int × Option GError) := do
  let read ← gfalPluginReadG fSrc buffersize
  if read.val.1 > 0 then
    let written ← gfalPluginWriteG fDst (read.val.2.take read.val.1.toNat)
    return (read.val.1, read.err.or written.err)
  else
    return (read.val.1, read.err)

/-- The end of a pass: the cancel flag, and then the clock for the time-out and the progress report. -/
def watchTransfer (timeout : Int) (perf : PerfData) (nestedError : Option GError) :
    Gfal σ (Option GError × PerfData) := do
  if ← gfal2IsCanceled then
    return (nestedError.or (some ⟨localCopyDomain, ECANCELED, lit "Transfer canceled"⟩), perf)
  else
    let now ← timeNow
    let perf := { perf with now := now }
    if now ≥ timeout then
      return (nestedError.or
        (some ⟨localCopyDomain, ETIMEDOUT, lit "Transfer canceled because the timeout expired"⟩), perf)
    else if now - perf.lastUpdate > 5 then
      sendPerformanceData perf
      return (nestedError, { perf with doneSinceLastUpdate := 0, lastUpdate := now })
    else
      return (nestedError, perf)

/-- The loop of `streamed_copy`, which ends at the first read that returns nothing and at the first error. -/
def streamLoop (fSrc fDst : Option GfalFileHandle) (buffersize : Nat) (timeout : Int) :
    Nat → PerfData → Gfal σ (Option GError)
  | 0, _ => Exec.fault .outOfFuel
  | fuel + 1, perf => do
      let moved ← moveChunk fSrc fDst buffersize
      let perf :=
        { perf with
          done := toSizeT (perf.done + moved.1)
          doneSinceLastUpdate := toSizeT (perf.doneSinceLastUpdate + moved.1) }
      let watched ← watchTransfer timeout perf moved.2
      if moved.1 > 0 ∧ watched.1 = none then
        streamLoop fSrc fDst buffersize timeout fuel watched.2
      else
        return watched.1

/-- `O_DIRECT`, if it is asked for. -/
def directFlag (direct : Bool) : Nat := if direct then 0o40000 else 0

/-- `O_RDONLY`. -/
def srcOpenFlags (direct : Bool) : Nat := directFlag direct

/-- `O_WRONLY | O_CREAT`. -/
def dstOpenFlags (direct : Bool) : Nat := 0o101 + directFlag direct

/-- `gfal_plugin_closeG` with the place of an error that is free only if there is none yet. -/
def closeNested (fh : Option GfalFileHandle) (nestedError : Option GError) : Gfal σ (Option GError) := do
  let closed ← gfalPluginCloseG fh
  return nestedError.or closed.err

/-- When the copy times out: a `time_t` and a `guint64`, added as unsigned numbers and stored in a `time_t`. -/
def copyDeadline (start : Int) (params : GfaltParams) : Int := Int.bmod (start + params.timeout.toNat) (2 ^ 64)

/-- The part of `streamed_copy` with both files open. -/
def copyOpened (fuel : Nat) (params : GfaltParams) (src dst : CString) (fSrc fDst : Option GfalFileHandle)
    (buffersize : Nat) : Gfal σ (Ret Int) := do
  let start ← timeNow
  let nestedError ← streamLoop fSrc fDst buffersize (copyDeadline start params) fuel
    { start := start, lastUpdate := start, now := start }
  let nestedError ← closeNested fDst nestedError
  let nestedError ← closeNested fSrc nestedError
  if nestedError.isSome then
    return ⟨-1, nestedError⟩
  else
    pluginTriggerEvent localCopyDomain .none (lit "TRANSFER:EXIT") (src ++ lit " => " ++ dst)
    return ⟨0, none⟩

/-- The part of `streamed_copy` from the opening of the files on. -/
def copyFiles (fuel : Nat) (params : GfaltParams) (src dst : CString) (direct : Bool) (buffersize : Nat) :
    Gfal σ (Ret Int) := do
  let fSrc ← gfalPluginOpenG src (srcOpenFlags direct) 0
  match fSrc.err with
  | some e => return ⟨-1, some (propagatePrefixedErrorExtended e (lit "Could not open source: "))⟩
  | none =>
      let fDst ← gfalPluginOpenG dst (dstOpenFlags direct) 0o755
      match fDst.err with
      | some e =>
          let _closed ← gfalPluginCloseG fSrc.val
          return ⟨-1, some (propagatePrefixedErrorExtended e (lit "Could not open destination: "))⟩
      | none => copyOpened fuel params src dst fSrc.val fDst.val buffersize

def copyBufferAlignment (config : Config) : Nat :=
  toSizeT (gfal2GetOptIntegerWithDefault config (lit "CORE") (lit "COPY_BUFFER_ALIGNMENT") 512)

def copyBuffersize (config : Config) : Nat :=
  toSizeT (gfal2GetOptIntegerWithDefault config (lit "CORE") (lit "COPY_BUFFERSIZE") 4194304)

def streamedCopy (fuel : Nat) (params : GfaltParams) (src dst : CString) : Gfal σ (Ret Int) := do
  pluginTriggerEvent localCopyDomain .none (lit "TRANSFER:ENTER") (src ++ lit " => " ++ dst)
  pluginTriggerEvent localCopyDomain .none (lit "TRANSFER:TYPE") (lit "streamed")
  let context ← Exec.get
  let buffersize := copyBuffersize context.config
  let errno := posixMemalign context.readings.memory (copyBufferAlignment context.config) buffersize
  if errno ≠ 0 then
    return ⟨-1, some ⟨localCopyDomain, errno, lit "Failed to allocate aligned buffer"⟩⟩
  else
    let direct := (context.config.optBoolean (lit "CORE") (lit "COPY_DIRECT_IO")).getD false
    copyFiles fuel params src dst direct buffersize

/-- A streamed copy tells of its start, and opens the files once its buffer is allocated. -/
theorem streamedCopy_told (fuel : Nat) (params : GfaltParams) (src dst : CString) (context : Gfal2Context σ) :
    ∃ events, streamedCopy fuel params src dst context =
      if posixMemalign context.readings.memory (copyBufferAlignment context.config) (copyBuffersize context.config) = 0 then
        copyFiles fuel params src dst ((context.config.optBoolean (lit "CORE") (lit "COPY_DIRECT_IO")).getD false)
          (copyBuffersize context.config) { context with events := events }
      else .ok (⟨-1, some ⟨localCopyDomain, posixMemalign context.readings.memory (copyBufferAlignment context.config)
        (copyBuffersize context.config), lit "Failed to allocate aligned buffer"⟩⟩, { context with events := events }) := by
  obtain ⟨told, htold⟩ : ∃ events, streamedCopy fuel params src dst context = (do
      let context ← Exec.get
      let buffersize := copyBuffersize context.config
      let errno := posixMemalign context.readings.memory (copyBufferAlignment context.config) buffersize
      if errno ≠ 0 then
        return ⟨-1, some ⟨localCopyDomain, errno, lit "Failed to allocate aligned buffer"⟩⟩
      else
        let direct := (context.config.optBoolean (lit "CORE") (lit "COPY_DIRECT_IO")).getD false
        copyFiles fuel params src dst direct buffersize : Gfal σ (Ret Int))
      { context with events := events } := ⟨_, rfl⟩
  refine ⟨told, htold.trans ?_⟩
  rw [Exec.get_bind_apply]
  dsimp only
  by_cases hmemory : posixMemalign context.readings.memory (copyBufferAlignment context.config)
      (copyBuffersize context.config) = 0
  · rw [if_neg (not_not_intro hmemory), if_pos hmemory]
  · rw [if_pos hmemory, if_neg hmemory]
    rfl

/-! ### The whole copy -/

/-- `gfal_compare_checksums`: leading zeros and case do not count. -/
def gfalCompareChecksums (chk1 chk2 : CString) (len : Nat) : Int :=
  strncasecmp (chk1.dropWhile (· == '0')) (chk2.dropWhile (· == '0')) len

/-- The checksum of one side of the copy, between its two events. -/
def checksumOfSide (side : GfalEventSide) (url checksumType failure : CString) : Gfal σ (Ret CString) := do
  pluginTriggerEvent localCopyDomain side (lit "CHECKSUM:ENTER") []
  let answer ← gfal2Checksum url checksumType 0 0 (some []) 1024
  match answer.err with
  | some e => return ⟨[], some (propagatePrefixedErrorExtended e failure)⟩
  | none =>
      pluginTriggerEvent localCopyDomain side (lit "CHECKSUM:EXIT") []
      return ⟨answer.val.2.getD [], none⟩

/-- The source checksum, when the mode asks for it, and its comparison with the one the user gave. -/
def checkSource (mode : ChecksumMode) (src checksumType userChecksum : CString) : Gfal σ (Ret CString) := do
  if ¬mode.hasSource then
    return ⟨[], none⟩
  let source ← checksumOfSide .source src checksumType (lit "Could not get the source checksum: ")
  if source.err = none ∧ userChecksum ≠ [] ∧ source.val ≠ [] ∧
      gfalCompareChecksums userChecksum source.val 1024 ≠ 0 then
    return ⟨source.val, some (gfaltSetError localCopyDomain EIO (lit "SOURCE") (lit "CHECKSUM MISMATCH")
      (lit "Source checksum and user-specified checksum do not match: " ++ source.val ++ lit " != " ++
        userChecksum))⟩
  else
    return source

/-- The destination checksum, when the mode asks for it, and its comparison with the one the user gave or
else the one of the source. -/
def checkDestination (mode : ChecksumMode) (dst checksumType userChecksum sourceChecksum : CString) :
    Gfal σ (Ret Int) := do
  if ¬mode.hasTarget then
    return ⟨0, none⟩
  let compareAgainst := if userChecksum = [] then sourceChecksum else userChecksum
  let compareSide := if userChecksum = [] then lit "Source" else lit "User defined"
  let destination ← checksumOfSide .destination dst checksumType (lit "Could not get the destination checksum: ")
  if destination.err.isSome then
    return ⟨-1, destination.err⟩
  else if gfalCompareChecksums compareAgainst destination.val 1204 ≠ 0 then
    return ⟨-1, some (gfaltSetError localCopyDomain EIO (lit "DESTINATION") (lit "CHECKSUM MISMATCH")
      (compareSide ++ lit " checksum and destination checksum do not match: " ++ compareAgainst ++ lit " != " ++
        destination.val))⟩
  else
    return ⟨0, none⟩

/-- Parent and destination are looked after unless the copy is strict. -/
def prepareDestination (params : GfaltParams) (dst : CString) : Gfal σ (Ret Int) := do
  if params.strictMode then
    return ⟨0, none⟩
  let parent ← createParent params dst
  if parent.err.isSome then
    return ⟨-1, parent.err⟩
  let existing ← unlinkIfExists params dst
  return if existing.err.isSome then ⟨-1, existing.err⟩ else ⟨0, none⟩

def performLocalCopy (fuel : Nat) (params : GfaltParams) (src dst : CString) : Gfal σ (Ret Int) := do
  let (mode, type, userChecksum) :=
    if params.strictMode then (ChecksumMode.none, [], []) else gfaltGetChecksum params 1024 1024
  let checksumType := if type = [] then lit "ADLER32" else type
  let source ← checkSource mode src checksumType userChecksum
  if source.err.isSome then
    return ⟨-1, source.err⟩
  let prepared ← prepareDestination params dst
  if prepared.err.isSome then
    return ⟨-1, prepared.err⟩
  let copied ← streamedCopy fuel params src dst
  if copied.err.isSome then
    return ⟨-1, copied.err⟩
  checkDestination mode dst checksumType userChecksum source.val

end Gfal2
