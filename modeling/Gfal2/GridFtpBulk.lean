import Gfal2.GridFtpCopy
import Gfal2.FileCopy

/-! The bulk copy of the GridFTP plugin. The sources are checked and the destinations prepared one by one, the pairs that have
not failed are offered to one pipelined transfer, and what it copied is checked. What the calls for a file come to, and how the
pipeline ends, is any value and any exception. -/

namespace Gfal2

open Base

abbrev bulkDomain : GQuark := lit "GridFTP::Filecopy"

/-- The error that `CPP_GERROR_CATCH` makes of an exception. -/
def cppGerrorCatch : CppException → GError
  | .transfer e side note => gfaltSetError e.domain e.code side note e.message
  | .core e => gfal2SetError e.domain e.code e.message
  | .std what => gfal2SetError gfal2GetCoreQuark EPROTONOSUPPORT what
  | .unknown => gfal2SetError gfal2GetCoreQuark EIO (lit "Undefined Exception caught: Bug found !! ")

/-! ### The files -/

/-- A file of a bulk copy, with what the calls that are made for it come to: each is made at most once. The flag of a
cancellation is read before each phase of the file, and a stat answers whether it is a directory and the size. -/
structure GridFtpBulkFile extends BulkFile where
  canceledSource : Bool := false
  statSource : Except CppException (Bool × Int) := .ok (false, 0)
  checksumSource : Except CppException CString := .ok []
  canceledPrepare : Bool := false
  deleteExisting : Except CppException Unit := .ok ()
  createParent : Except CppException Unit := .ok ()
  canceledClose : Bool := false
  statDestination : Except CppException (Bool × Int) := .ok (false, 0)
  checksumDestination : Except CppException CString := .ok []

/-- A call that is made for a file. -/
inductive GridFtpBulkCall where
  | stat (url : CString)
  | checksum (url : CString)
  | deleteExisting (url : CString)
  | createParent (url : CString)
  deriving DecidableEq

/-- The places of a file in the arrays of `GridFTPBulkData` that the copy goes by, and in `file_errors`. -/
structure GridFtpBulkPair where
  file : GridFtpBulkFile
  checksum : CString := []
  errn : Int := 0
  fsize : Int := 0
  fileError : Option GError := none

namespace GridFtpBulkPair

variable (mode : ChecksumMode) (address : Int) (created : List CString) (pair : GridFtpBulkPair)

/-- An error that is set for the file. One that is there already stays. -/
def setError (e : GError) : GridFtpBulkPair := { pair with fileError := pair.fileError.or (some e), errn := e.code }

def returnError (e : GError) : GridFtpBulkPair := { pair with fileError := some e, errn := e.code }

def canceled : GridFtpBulkPair := pair.setError (gfal2SetError bulkDomain EINTR (lit "Operation canceled"))

/-- The checksum of one side, which the other one or the user's is compared with if there is one, and kept otherwise. -/
def compareChecksum (value side note text : CString) : GridFtpBulkPair :=
  if pair.checksum = [] then { pair with checksum := value }
  else if gfalCompareChecksums pair.checksum value 128 ≠ 0 then
    pair.setError (gfaltSetError bulkDomain EIO side note (text ++ pair.checksum ++ lit " != " ++ value))
  else pair

def checkSource : GridFtpBulkPair × List GridFtpBulkCall :=
  if pair.file.canceledSource then (pair.canceled, [])
  else
    match pair.file.statSource with
    | .error e => (pair.returnError (cppGerrorCatch e), [.stat pair.file.src])
    | .ok (true, _) => (pair.setError (gfal2SetError bulkDomain EISDIR (lit "File is a directory")), [.stat pair.file.src])
    | .ok (false, size) =>
        let pair := { pair with fsize := size }
        if mode.hasSource then
          match pair.file.checksumSource with
          | .ok value =>
              -- the name of the function stands in the place of the note
              (pair.compareChecksum value (lit "CHECKSUM MISMATCH") (lit "gridftp_bulk_check_sources")
                  (lit "User checksum and source checksum do not match: "),
                [.stat pair.file.src, .checksum pair.file.src])
          | .error e => (pair.returnError (cppGerrorCatch e), [.stat pair.file.src, .checksum pair.file.src])
        else (pair, [.stat pair.file.src])

/-- The parent of a destination as text before its last slash, if it has one. -/
def parent : Option CString := (strrchr pair.file.dst '/').map fun slash => pair.file.dst.take slash

/-- The parent was created for an earlier file. -/
def parentKnown : Bool := pair.parent.any fun parent => parent ∈ created

/-- The preparation of a destination. Only a `TransferException` is caught. -/
def prepareDestination : Except CppException (GridFtpBulkPair × List CString × List GridFtpBulkCall) :=
  if pair.file.canceledPrepare then .ok (pair.canceled, created, [])
  else
    match pair.file.deleteExisting with
    | .error (.transfer e _ _) =>
        .ok (pair.setError (gfal2SetError bulkDomain e.code e.message), created, [.deleteExisting pair.file.dst])
    | .error e => .error e
    | .ok () =>
        if pair.parentKnown created then .ok (pair, created, [.deleteExisting pair.file.dst])
        else
          match pair.file.createParent with
          | .error (.transfer e _ _) =>
              .ok (pair.setError (gfal2SetError bulkDomain e.code e.message), created,
                [.deleteExisting pair.file.dst, .createParent pair.file.dst])
          | .error e => .error e
          | .ok () =>
              .ok (pair, created ++ [pair.parent.getD []], [.deleteExisting pair.file.dst, .createParent pair.file.dst])

/-- The text gives the address of the array of sizes for the size of the source. -/
def sizeMismatch (address size : Int) : GError :=
  gfaltSetError bulkDomain EIO (lit "SIZE MISMATCH") (lit "gridftp_bulk_close")
    (lit "Source and destination file sizes do not match: " ++ showInt address ++ lit " != " ++ showInt size)

/-- The check of what was copied. -/
def close : GridFtpBulkPair × List GridFtpBulkCall :=
  if pair.file.canceledClose then (pair.canceled, [])
  else
    match pair.file.statDestination with
    | .error e => (pair.returnError (cppGerrorCatch e), [.stat pair.file.dst])
    | .ok (_, size) =>
        if pair.fsize ≠ size then (pair.setError (sizeMismatch address size), [.stat pair.file.dst])
        else if mode.hasTarget then
          match pair.file.checksumDestination with
          | .ok value =>
              (pair.compareChecksum value (lit "DESTINATION") (lit "CHECKSUM MISMATCH") (lit "Destination checksum do not match: "),
                [.stat pair.file.dst, .checksum pair.file.dst])
          | .error e => (pair.returnError (cppGerrorCatch e), [.stat pair.file.dst, .checksum pair.file.dst])
        else (pair, [.stat pair.file.dst])

end GridFtpBulkPair

/-! ### The phases -/

/-- The files that have an error when their turn is over. -/
def failedCount (pairs : List GridFtpBulkPair) : Int := pairs.countP fun pair => pair.fileError.isSome

/-- What a phase leaves: the arrays, the calls it made, and how many files it counts as failed. -/
structure GridFtpBulkPhase where
  pairs : List GridFtpBulkPair
  calls : List GridFtpBulkCall
  nfailed : Int

def gridftpBulkCheckSources (mode : ChecksumMode) (pairs : List GridFtpBulkPair) : GridFtpBulkPhase where
  pairs := pairs.map fun pair => (pair.checkSource mode).1
  calls := pairs.flatMap fun pair => (pair.checkSource mode).2
  nfailed := failedCount (pairs.map fun pair => (pair.checkSource mode).1)

/-- `gridftp_bulk_prepare_destination`, from a file on, with the parents that were created so far. -/
def gridftpBulkPrepareDestination (created : List CString) : List GridFtpBulkPair → Except CppException GridFtpBulkPhase
  | [] => .ok ⟨[], [], 0⟩
  | pair :: rest =>
      if pair.errn ≠ 0 then do
        let phase ← gridftpBulkPrepareDestination created rest
        return { phase with pairs := pair :: phase.pairs }
      else do
        let (prepared, created, calls) ← pair.prepareDestination created
        let phase ← gridftpBulkPrepareDestination created rest
        return ⟨prepared :: phase.pairs, calls ++ phase.calls, failedCount [prepared] + phase.nfailed⟩

/-- What the final check makes of a pair: it looks at those that have not failed. -/
def GridFtpBulkPair.closed (mode : ChecksumMode) (address : Int) (pair : GridFtpBulkPair) :
    GridFtpBulkPair × List GridFtpBulkCall :=
  if pair.errn = 0 then pair.close mode address else (pair, [])

def gridftpBulkClose (mode : ChecksumMode) (address : Int) (pairs : List GridFtpBulkPair) : GridFtpBulkPhase where
  pairs := pairs.map fun pair => (pair.closed mode address).1
  calls := pairs.flatMap fun pair => (pair.closed mode address).2
  nfailed := failedCount ((pairs.filter fun pair => pair.errn = 0).map fun pair => (pair.close mode address).1)

/-! ### The pipeline -/

/-- How the pipelined transfer ends: Globus refuses to start it, or it calls back with an error or without one, or it
does not call back in time. -/
inductive PipelineEnd where
  | refused (e : GError)
  | failed (text : CString)
  | timedOut
  | done

/-- What the calls of one run of the pipeline come to, and how often Globus asks for another pair. -/
structure PipelineOutcome where
  session : Except CppException Unit := .ok ()
  credentialsSource : Except CppException Unit := .ok ()
  credentialsDestination : Except CppException Unit := .ok ()
  asked : Nat := 0
  ended : PipelineEnd := .done

def strcasestr (text part : CString) : Bool := strstr (text.map Char.toLower) (part.map Char.toLower)

def scanErrstring (text : CString) : Int :=
  if strcasestr text (lit "No such file") ∨ strcasestr text (lit "not found") ∨ strcasestr text (lit "error 3011") then ENOENT
  else if strstr text (lit "Permission denied") ∨ strcasestr text (lit "credential") then EACCES
  else if strcasestr text (lit "exists") ∨ strcasestr text (lit "error 3006") then EEXIST
  else if strcasestr text (lit "Not a direct") then ENOTDIR
  else if strcasestr text (lit "Operation not supported") then ENOTSUP
  else if strcasestr text (lit "Login incorrect") ∨ strcasestr text (lit "Could not get virtual id") then EACCES
  else if strcasestr text (lit "the operation was aborted") then ECANCELED
  else if strcasestr text (lit "Is a directory") then EISDIR
  else if strcasestr text (lit "isk quota exceeded") then ENOSPC
  else ECOMM

/-- `gfal_globus_error_convert`: the code, and the text if the code is one. -/
def gfalGlobusErrorConvert (text : CString) : Int × Option CString :=
  let text := text.map fun c => if c = '\n' ∨ c = '\r' then ' ' else c
  if scanErrstring text = 0 then (0, none) else (scanErrstring text, some text)

/-- What the transfer returns, with the error it sets. -/
def PipelineEnd.result : PipelineEnd → Ret Int
  | .refused e => ⟨-1, some (gfal2SetError e.domain e.code e.message)⟩
  | .failed text =>
      match gfalGlobusErrorConvert text with
      | (0, _) => ⟨0, none⟩
      | (code, message) => ⟨-1, some (gfal2SetError bulkDomain code (message.getD []))⟩
  | .timedOut => ⟨-1, some (gfal2SetError bulkDomain ETIMEDOUT (lit "Transfer timed out"))⟩
  | .done => ⟨0, none⟩

/-- The first index from the given one on that is not marked as failed, or one behind the last. -/
def skipFailed (pairs : List GridFtpBulkPair) (index : Nat) : Nat :=
  index + ((pairs.drop index).takeWhile fun pair => pair.errn ≠ 0).length

/-- `gridftp_pipeline_callback`: the index it moves to. There is no pair to give behind the last one. -/
def gridftpPipelineCallback (pairs : List GridFtpBulkPair) (index : Nat) : Nat := skipFailed pairs (index + 1)

/-- The indices of the pairs that are provided when Globus asks a number of times. -/
def providedPairs (pairs : List GridFtpBulkPair) : Nat → Nat → List Nat
  | 0, _ => []
  | asked + 1, index =>
      let next := gridftpPipelineCallback pairs index
      if next < pairs.length then next :: providedPairs pairs asked next else providedPairs pairs asked next

/-- One run of the pipeline: how often it was asked for a pair, the indices of those it gave, and what it returned. -/
structure PipelineRun where
  udt : Bool
  asked : Nat
  offered : List Nat
  ret : Ret Int

/-- Globus asks for no pair in a transfer it refuses. -/
def PipelineOutcome.asks (outcome : PipelineOutcome) : Nat :=
  match outcome.ended with
  | .refused _ => 0
  | .failed _ | .timedOut | .done => outcome.asked

/-- `gridftp_pipeline_transfer`. The first viable pair goes with the call, the others are asked for. -/
def gridftpPipelineTransfer (outcome : PipelineOutcome) (udt : Bool) (pairs : List GridFtpBulkPair) :
    Except CppException PipelineRun :=
  outcome.session >>= fun _ =>
    let first := skipFailed pairs 0
    if first ≥ pairs.length then .ok ⟨udt, 0, [], ⟨0, none⟩⟩
    else do
      outcome.credentialsSource
      outcome.credentialsDestination
      return ⟨udt, outcome.asks, first :: providedPairs pairs outcome.asks first, outcome.ended.result⟩

/-! ### The copy -/

/-- A call of the bulk copy: its files, whether there is an array of checksums, the mode of the checks, whether a
cancellation is seen at its start, before the transfer and before it is tried again, whether UDT is enabled, how the transfers
end, and the address of the array of sizes. -/
structure GridFtpBulkJob where
  files : List GridFtpBulkFile
  withChecksums : Bool := false
  mode : ChecksumMode := .none
  canceledStart : Bool := false
  canceledTransfer : Bool := false
  enableUdt : Bool := false
  first : PipelineOutcome := {}
  canceledRetry : Bool := false
  retry : PipelineOutcome := {}
  address : Int := 0

/-- The places of a file of which the checksum is read. A string cannot be made of a null pointer. -/
def GridFtpBulkFile.withChecksum (file : GridFtpBulkFile) : Except Fault GridFtpBulkPair :=
  match file.checksum with
  | some checksum => .ok { file := file, checksum := checksum }
  | none => .error .nullString

namespace GridFtpBulkJob

variable (job : GridFtpBulkJob)

/-- The arrays when the phases start. -/
def pairs : Except Fault (List GridFtpBulkPair) :=
  if job.withChecksums then job.files.mapM GridFtpBulkFile.withChecksum else .ok (job.files.map fun file => { file := file })

/-- The transfer is tried once more if its error is about the driver for UDT. -/
def retries (ret : Ret Int) : Bool :=
  ret.val < 0 && ret.err.any (fun e => strstr e.message (lit "udt driver not whitelisted")) && !job.canceledRetry

/-- The runs of the pipeline: none after a cancellation, and a second one after an error about UDT. -/
def transfer (pairs : List GridFtpBulkPair) : Except CppException (List PipelineRun) :=
  if job.canceledTransfer then .ok []
  else
    gridftpPipelineTransfer job.first job.enableUdt pairs >>= fun run =>
      if job.retries run.ret then (gridftpPipelineTransfer job.retry false pairs).map fun again => [run, again]
      else .ok [run]

/-- What is returned and left in the arrays, and what the phases did. -/
structure Result where
  ret : Int
  opError : Option GError := none
  checked : GridFtpBulkPhase := ⟨[], [], 0⟩
  prepared : GridFtpBulkPhase := ⟨[], [], 0⟩
  runs : List PipelineRun := []
  closed : Option GridFtpBulkPhase := none
  fileErrors : List (Option GError) := []

/-- What follows the transfer: the final check, unless the transfer failed or was not made. -/
def finish (checked prepared : GridFtpBulkPhase) (runs : List PipelineRun) : Result :=
  let last := (runs.getLast?.map (·.ret)).getD ⟨-1, none⟩
  let result := { ret := -job.files.length, opError := last.err, checked := checked, prepared := prepared, runs := runs,
                  fileErrors := prepared.pairs.map (·.fileError) }
  if last.val < 0 then result
  else
    let closed := gridftpBulkClose job.mode job.address prepared.pairs
    { result with
      ret := -(checked.nfailed + prepared.nfailed + closed.nfailed), closed := some closed,
      fileErrors := closed.pairs.map (·.fileError) }

def phases (pairs : List GridFtpBulkPair) : Except CppException Result := do
  let checked := gridftpBulkCheckSources job.mode pairs
  let prepared ← gridftpBulkPrepareDestination [] checked.pairs
  let runs ← job.transfer prepared.pairs
  return job.finish checked prepared runs

/-- `gridftp_bulk_copy`, with the number of running operations of the context. -/
def gridftpBulkCopy (runningOps : Int) : Except Fault (Except CppException Result × Int) :=
  if job.files = [] then
    .ok (.ok { ret := -1, opError := some (gfal2SetError bulkDomain EINVAL (lit "Invalid parameters")) }, runningOps)
  else if job.canceledStart then .ok (.ok { ret := -1, opError := some canceledByUser }, runningOps)
  else do
    let pairs ← job.pairs
    match job.phases pairs with
    -- nothing on the way up ends the scope
    | .error e => .ok (.error e, runningOps + 1)
    | .ok result => .ok (.ok result, runningOps + 1 - 1)

end GridFtpBulkJob

end Gfal2
