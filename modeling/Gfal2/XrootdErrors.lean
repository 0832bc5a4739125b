import Gfal2.SpaceReports
import Gfal2.Xrootd

/-! The errors of the operations of the XRootD plugin. Calls of the posix layer of the client tell their failures in `errno`,
the others in a status, and the plugin reports what it finds in `errno` when it makes the error. -/

namespace Gfal2

open Base

/-! ### The client library -/

/-- A status that is not OK: its code, the number that came with it, its text and its message. -/
structure ClientStatus where
  code : Nat
  errNo : Nat
  text : CString
  message : CString
  deriving DecidableEq

/-- A value that `errno` has after a failure. -/
abbrev ErrorNumber := { code : Int // code ≠ 0 }

/-- How a call of the posix layer ends. One that succeeds may leave a value in `errno` all the same. -/
inductive PosixCall (α : Type) where
  | failed (code : ErrorNumber)
  | succeeded (value : α) (left : Option Int)

/-- How a call ends that returns a status, with what it leaves in `errno`. -/
inductive ClientCall (α : Type) where
  | failed (status : ClientStatus) (left : Option Int)
  | succeeded (value : α) (left : Option Int)

/-- A call that leaves this in `errno`. -/
def leaveErrno (left : Option Int) : StateM Int Unit := modify left.getD

def PosixCall.run {α : Type} : PosixCall α → StateM Int (Option α)
  | .failed code => do
      set code.1
      return none
  | .succeeded value left => do
      leaveErrno left
      return some value

def ClientCall.run {α : Type} : ClientCall α → StateM Int (Except ClientStatus α)
  | .failed status left => do
      leaveErrno left
      return .error status
  | .succeeded value left => do
      leaveErrno left
      return .ok value

/-- `XrdCl::StatInfo`, with the flags that are tested. -/
structure StatInfo where
  size : Nat
  modTime : Nat
  isDir : Bool
  isReadable : Bool
  isWritable : Bool
  xBitSet : Bool
  offline : Bool
  backUpExists : Bool
  deriving DecidableEq

structure ListEntry where
  name : CString
  statInfo : Option StatInfo
  deriving DecidableEq

/-- The client, by what its calls do for their arguments. URLs are the prepared ones. -/
structure XrdClient where
  stat : CString → PosixCall StatBuffer
  openFile : CString → Int → ModeT → PosixCall Int
  read : Int → Nat → PosixCall CString
  write : Int → CString → PosixCall Nat
  lseek : Int → Int → Int → PosixCall Int
  close : Int → PosixCall Unit
  mkdir : CString → ModeT → PosixCall Unit
  unlink : CString → PosixCall Unit
  rmdir : CString → PosixCall Unit
  access : CString → Int → PosixCall Unit
  rename : CString → CString → PosixCall Unit
  queryChksum : CString → Nat → PosixCall CString
  getxattr : CString → CString → Nat → PosixCall CString
  /-- The calls of `XrdCl::FileSystem`, for the URL it is made of and a path. -/
  chMod : CString → CString → ModeT → ClientCall Unit
  dirList : CString → CString → ClientCall Unit
  statPath : CString → CString → ClientCall StatInfo
  getSpaceInfo : CString → CString → ClientCall SpaceReport

/-- What errors are made of: `XProtocol::toErrno` and `EAUTH`, `strerror_r`, and what `vsnprintf` prints for a text that is itself
the format. -/
structure ErrorTables where
  toErrno : Nat → Int
  eauth : Int
  strerror : Int → CString
  printed : CString → CString

/-- What an operation runs with. -/
structure XrootdHandle where
  context : XrootdContext
  urls : XrdUrls
  client : XrdClient
  tables : ErrorTables
  /-- `json_object_to_json_string`. -/
  toJsonString : Json → CString

/-! ### Making errors -/

abbrev errErrorResponse : Nat := 400

def maskNetworkErrno (errc : Int) : Int :=
  if errc ∈ [EHOSTUNREACH, ENOTSOCK, ETIMEDOUT, ENOTCONN, ECONNRESET, ECONNREFUSED, ENETRESET, ECONNABORTED] then ECOMM
  else errc

def mapStatusCodeToErrno (tables : ErrorTables) : Nat → Int
  | 1 => EAGAIN
  | 3 => EOPNOTSUPP
  | 6 => ENOEXEC
  | 9 => EINVAL
  | 10 => EINPROGRESS
  | 13 => ENOTSUP
  | 14 => EDOM
  | 15 => ENOSYS
  | 16 => ENOSR
  | 101 => EHOSTUNREACH
  | 102 => ENOTSOCK
  | 103 => ETIMEDOUT
  | 104 => ENOTCONN
  | 107 => ECONNRESET
  | 108 => ECONNREFUSED
  | 109 => ECHRNG
  | 110 => ENETRESET
  | 201 => EPROTO
  | 202 => EPROTO
  | 203 => ECONNABORTED
  | 204 => tables.eauth
  | 205 => ENOTSUP
  | 206 => ESTALE
  | 207 => EINTR
  | 301 => ENOSR
  | 302 => ESPIPE
  | 303 => EBADMSG
  | 304 => EIDRM
  | 305 => EILSEQ
  | 306 => ELOOP
  | _ => ENOMSG

/-- `xrootd_status_to_posix_errno`, of a status that is not OK. -/
def xrootdStatusToPosixErrno (tables : ErrorTables) (status : ClientStatus) (queryPrepare : Bool) : Int :=
  let ret :=
    if status.code = errErrorResponse then tables.toErrno status.errNo
    else if status.errNo ≠ 0 then Int.bmod status.errNo (2 ^ 32)
    else mapStatusCodeToErrno tables status.code
  if queryPrepare then maskNetworkErrno ret else ret

section Operations

variable (plugin : XrootdHandle)

/-! ### The listing of a directory -/

/-- `DirListHandler`. Its code and its text of an error are those of the status it has seen last. -/
structure DirListHandler where
  url : CString
  entries : List ListEntry := []
  done : Bool := false
  failed : Option ClientStatus := none

def DirListHandler.errcode (handler : DirListHandler) : Nat := handler.failed.elim 0 (·.code)

def DirListHandler.errstr (handler : DirListHandler) : CString := handler.failed.elim [] (·.text)

/-- `DirListHandler::List`, with whether the request is made. -/
def DirListHandler.list (handler : DirListHandler) : StateM Int (Bool × DirListHandler) := do
  match ← (plugin.client.dirList handler.url (plugin.urls.path handler.url)).run with
  | .ok () => return (true, handler)
  | .error status => return (false, { handler with failed := some status })

/-- `DirListHandler::HandleResponse`, of a status or a list. -/
def DirListHandler.handleResponse (handler : DirListHandler) : Except ClientStatus (List ListEntry) → DirListHandler
  | .ok list => { handler with entries := handler.entries ++ list, done := true }
  | .error status => { handler with failed := some status, done := true }

def statInfo2Stat (stinfo : StatInfo) : StatBuffer :=
  { stSize := stinfo.size
    stMtime := stinfo.modTime
    stMode := (if stinfo.isDir then sIfdir else 0) ||| (if stinfo.isReadable then 0o444 else 0) |||
      (if stinfo.isWritable then 0o222 else 0) ||| (if stinfo.xBitSet then 0o111 else 0) }

def ListEntry.dirent (entry : ListEntry) : Dirent :=
  ⟨entry.name.take 255, if entry.statInfo.any (·.isDir) then .directory else .regular⟩

/-- The `stat` of an entry that came without one. -/
def statOf (handler : DirListHandler) (entry : ListEntry) : ClientCall StatInfo :=
  plugin.client.statPath handler.url (plugin.urls.path handler.url ++ lit "/" ++ entry.dirent.dName)

/-- The first entry of `DirListHandler::Get`, which is gone then, whether its `stat` fails or not. -/
def DirListHandler.take (handler : DirListHandler) (entry : ListEntry) (withStat : Bool) :
    StateM Int (Option (Dirent × Option StatBuffer) × DirListHandler) := do
  if withStat then
    match entry.statInfo with
    | some stinfo => return (some (entry.dirent, some (statInfo2Stat stinfo)), handler)
    | none =>
        match ← (statOf plugin handler entry).run with
        | .ok stinfo => return (some (entry.dirent, some (statInfo2Stat stinfo)), handler)
        | .error status => return (none, { handler with failed := some status })
  else return (some (entry.dirent, none), handler)

/-- What comes of the handler while `DirListHandler::Get` waits, with the response that comes then, if one comes. -/
def DirListHandler.await (handler : DirListHandler) (arrival : Option (Except ClientStatus (List ListEntry))) :
    DirListHandler :=
  if handler.done then handler else arrival.elim handler handler.handleResponse

/-- The entries there are to take from, which are none before the response. -/
def DirListHandler.ready (handler : DirListHandler) : List ListEntry := if handler.done then handler.entries else []

/-- `DirListHandler::Get`. -/
def DirListHandler.get (handler : DirListHandler) (arrival : Option (Except ClientStatus (List ListEntry)))
    (withStat : Bool) : StateM Int (Option (Dirent × Option StatBuffer) × DirListHandler) :=
  let handler := handler.await arrival
  match handler.ready with
  | [] => return (none, handler)
  | entry :: entries => { handler with entries := entries }.take plugin entry withStat

/-- An operation: it reads `errno` as the calls before it left it. -/
abbrev Xrootd (α : Type) := ExceptT GError (StateM Int) α

namespace Xrootd

/-- `gfal2_xrootd_set_error`: the text is that of the code it is given, the code is what `errno` is. -/
def gfal2XrootdSetError {α : Type} (errcode : Int) (desc : CString) : Xrootd α := do
  let errno ← get
  throw (gfal2SetError xrootdDomain errno (shortText desc ++ lit " (" ++ plugin.tables.strerror errcode ++ lit ")"))

/-- A call of the posix layer, and the error for its failure. -/
def orFail {α : Type} (desc : CString) (call : PosixCall α) : Xrootd α := do
  match ← call.run with
  | some value => return value
  | none => gfal2XrootdSetError plugin (← get) desc

/-! ### Files -/

def gfalXrootdStatG (path : CString) : Xrootd StatBuffer :=
  orFail plugin (lit "Failed to stat file") (plugin.client.stat (prepareUrl plugin.context path))

def gfalXrootdOpenG (path : CString) (flag : Int) (mode : ModeT) : Xrootd Int :=
  orFail plugin (lit "Failed to open file") (plugin.client.openFile (prepareUrl plugin.context path) flag mode)

/-- What is done with the descriptor of a handle. -/
def onFdesc {α : Type} (fdesc : Option Int) (desc : CString) (call : Int → PosixCall α) : Xrootd α :=
  match fdesc with
  | none => do gfal2XrootdSetError plugin (← get) (lit "Bad file handle")
  | some fd => orFail plugin desc (call fd)

def gfalXrootdReadG (fdesc : Option Int) (count : Nat) : Xrootd CString :=
  onFdesc plugin fdesc (lit "Failed while reading from file") fun fd => plugin.client.read fd count

def gfalXrootdWriteG (fdesc : Option Int) (buff : CString) : Xrootd Nat :=
  onFdesc plugin fdesc (lit "Failed while writing to file") fun fd => plugin.client.write fd buff

def gfalXrootdLseekG (fdesc : Option Int) (offset whence : Int) : Xrootd Int :=
  onFdesc plugin fdesc (lit "Failed to seek within file") fun fd => plugin.client.lseek fd offset whence

def gfalXrootdCloseG (fdesc : Option Int) : Xrootd Unit :=
  match fdesc with
  | none => return ()
  | some fd => orFail plugin (lit "Failed to close file") (plugin.client.close fd)

/-! ### Names -/

def gfalXrootdMkdirpG (url : CString) (mode : ModeT) : Xrootd Unit := do
  let sanitizedUrl := prepareUrl plugin.context url
  -- EOS makes a directory that is there, and tells no error
  if (← (plugin.client.stat sanitizedUrl).run).isSome then
    set EEXIST
    gfal2XrootdSetError plugin (← get) (lit "Failed to create directory " ++ url)
  else if (← (plugin.client.mkdir sanitizedUrl mode).run).isNone then
    if (← get) = ECANCELED then set EEXIST
    gfal2XrootdSetError plugin (← get) (lit "Failed to create directory " ++ url)

/-- `file_mode_to_xrdcl_access`: the bits are those of the mode. -/
def fileModeToXrdclAccess (mode : ModeT) : ModeT := mode &&& 0o777

def gfalXrootdChmodG (url : CString) (mode : ModeT) : Xrootd Unit := do
  let sanitizedUrl := prepareUrl plugin.context url
  match ← (plugin.client.chMod sanitizedUrl (plugin.urls.path sanitizedUrl) (fileModeToXrdclAccess mode)).run with
  | .ok () => return ()
  | .error status =>
      gfal2XrootdSetError plugin (xrootdStatusToPosixErrno plugin.tables status false) (plugin.tables.printed status.text)

def gfalXrootdUnlinkG (url : CString) : Xrootd Unit :=
  orFail plugin (lit "Failed to delete file") (plugin.client.unlink (prepareUrl plugin.context url))

def gfalXrootdRmdirG (url : CString) : Xrootd Unit := do
  let sanitizedUrl := prepareUrl plugin.context url
  if (← (plugin.client.rmdir sanitizedUrl).run).isNone then
    let errno ← get
    if errno = EEXIST then set ENOTEMPTY
    else if errno = EIO then
      let buf ← (plugin.client.stat sanitizedUrl).run
      if buf.any fun buf => sIsdir buf.stMode then set ENOTEMPTY else set ENOTDIR
    else if errno = ENOENT then
      if (← (plugin.client.stat sanitizedUrl).run).isSome then set ENOTDIR
    gfal2XrootdSetError plugin (← get) (lit "Failed to delete directory")

def gfalXrootdAccessG (url : CString) (mode : Int) : Xrootd Unit :=
  orFail plugin (lit "Failed to access file or directory") (plugin.client.access (prepareUrl plugin.context url) mode)

def gfalXrootdRenameG (oldurl urlnew : CString) : Xrootd Unit := do
  let oldSanitizedUrl := prepareUrl plugin.context oldurl
  let newSanitizedUrl := prepareUrl plugin.context urlnew
  try orFail plugin (lit "Failed to rename file or directory") (plugin.client.rename oldSanitizedUrl newSanitizedUrl)
  catch err =>
    -- EOS may answer that the new name exists where it is a directory
    if err.code = EEXIST then
      let buf ← (plugin.client.stat newSanitizedUrl).run
      throw (if buf.any fun buf => sIsdir buf.stMode then { err with code := EISDIR } else err)
    else throw err

/-! ### Directories -/

def gfalXrootdOpendirG (url : CString) : Xrootd DirListHandler := do
  let sanitizedUrl := prepareUrl plugin.context url
  -- some errors are told at once only by a `stat`
  match ← (plugin.client.stat sanitizedUrl).run with
  | none => gfal2XrootdSetError plugin (← get) (lit "Failed to stat file")
  | some st =>
      if sIsdir st.stMode then
        let (listed, handler) ← DirListHandler.list plugin { url := sanitizedUrl }
        if listed then return handler
        else gfal2XrootdSetError plugin handler.errcode (lit "Failed to open dir: " ++ handler.errstr)
      else gfal2XrootdSetError plugin ENOTDIR (lit "Not a directory")

/-- What `gfal_xrootd_readdirG` and `gfal_xrootd_readdirppG` share: the outcome, and the handler after it. -/
def readEntry (dirDesc : Option DirListHandler) (arrival : Option (Except ClientStatus (List ListEntry)))
    (withStat : Bool) : StateM Int (Except GError (Option (Dirent × Option StatBuffer)) × Option DirListHandler) := do
  match dirDesc with
  | none =>
      let outcome ← (gfal2XrootdSetError plugin (← get) (lit "Bad dir handle")).run
      return (outcome, none)
  | some handler =>
      let (entry, handler) ← handler.get plugin arrival withStat
      if entry.isNone ∧ handler.errcode ≠ 0 then
        let outcome ← (gfal2XrootdSetError plugin handler.errcode (lit "Failed reading directory: " ++ handler.errstr)).run
        return (outcome, some handler)
      else return (.ok entry, some handler)

def gfalXrootdReaddirG (dirDesc : Option DirListHandler) (arrival : Option (Except ClientStatus (List ListEntry))) :
    StateM Int (Except GError (Option (Dirent × Option StatBuffer)) × Option DirListHandler) :=
  readEntry plugin dirDesc arrival false

def gfalXrootdReaddirppG (dirDesc : Option DirListHandler) (arrival : Option (Except ClientStatus (List ListEntry))) :
    StateM Int (Except GError (Option (Dirent × Option StatBuffer)) × Option DirListHandler) :=
  readEntry plugin dirDesc arrival true

/-! ### Checksums and attributes -/

/-- The URL that `gfal_xrootd_checksumG` asks with. -/
def checksumQuery (url checkType : CString) : CString :=
  let sanitizedUrl := prepareUrl plugin.context url
  sanitizedUrl ++ (if sanitizedUrl.contains '?' then lit "&" else lit "?") ++ lit "cks.type=" ++
    predefinedChecksumTypeToLower checkType

def gfalXrootdChecksumG (url checkType : CString) (bufferLength : Nat) (startOffset : Int) (dataLength : Nat) :
    Xrootd CString := do
  let lowerChecksumType := predefinedChecksumTypeToLower checkType
  if startOffset ≠ 0 ∨ dataLength ≠ 0 then
    gfal2XrootdSetError plugin ENOTSUP (lit "XROOTD does not support partial checksums")
  else
    let answer ← orFail plugin (lit "Could not get the checksum")
      (plugin.client.queryChksum (checksumQuery plugin url checkType) bufferLength)
    -- the value that is returned is "type value"
    match strchr answer ' ' with
    | none => gfal2XrootdSetError plugin (← get) (lit "Could not get the checksum (Wrong format)")
    | some space =>
        let type := answer.take space
        if strncasecmp type lowerChecksumType lowerChecksumType.length ≠ 0 then
          gfal2XrootdSetError plugin (← get) (lit "Got '" ++ type ++ lit "' while expecting '" ++ lowerChecksumType ++ lit "'")
        else return (answer.drop (space + 1)).take (bufferLength - 1)

def statInfo2Xattr (stinfo : StatInfo) : CString :=
  if stinfo.backUpExists then if stinfo.offline then lit "NEARLINE" else lit "ONLINE_AND_NEARLINE"
  else if stinfo.offline then lit "UNKNOWN" else lit "ONLINE"

/-- `gfal_xrootd_space_reporting`, with the report that is written as JSON. The error does not go through
`gfal2_xrootd_set_error`. -/
def gfalXrootdSpaceReporting (url : CString) : Xrootd SpaceReport := do
  let sanitizedUrl := prepareUrl plugin.context url
  match ← (plugin.client.getSpaceInfo sanitizedUrl (plugin.urls.path sanitizedUrl)).run with
  | .ok report => return report
  | .error status =>
      throw (gfal2SetError xrootdDomain EIO (lit "Failed to get the space information: " ++ status.message))

def gfalXrootdGetxattrG (url key : CString) (sBuff : Nat) : Xrootd CString := do
  let sanitizedUrl := prepareUrl plugin.context url
  let desc := lit "Failed to get the xattr \"" ++ key ++ lit "\""
  if key = lit "spacetoken" then
    let report ← gfalXrootdSpaceReporting plugin url
    return (plugin.toJsonString report.jsonObject).take (sBuff - 1)
  else if key = lit "user.status" then
    match ← (plugin.client.statPath sanitizedUrl (plugin.urls.path sanitizedUrl)).run with
    | .ok info => return (statInfo2Xattr info).take sBuff
    | .error _ =>
        set ENOENT
        gfal2XrootdSetError plugin (← get) desc
  else orFail plugin desc (plugin.client.getxattr sanitizedUrl key sBuff)

def gfalXrootdSetxattrG (_url _key _buff : CString) (_flags : Int) : Xrootd Unit :=
  gfal2XrootdSetError plugin ENOSYS (lit "Can not set extended attributes")

/-- The error that an operation ends with, for what `errno` is before it. -/
def reportedError {α : Type} (operation : Xrootd α) (errno : Int) : Option GError :=
  match (operation.run.run errno).1 with
  | .error e => some e
  | .ok _ => none

section Reported

variable {α β : Type}

@[simp] theorem reportedError_pure (value : α) (errno : Int) : reportedError (pure value) errno = none := rfl

@[simp] theorem reportedError_throw (e : GError) (errno : Int) : reportedError (throw e : Xrootd α) errno = some e := rfl

@[simp] theorem reportedError_get (next : Int → Xrootd α) (errno : Int) :
    reportedError (get >>= next) errno = reportedError (next errno) errno := rfl

@[simp] theorem reportedError_set (value : Int) (next : PUnit → Xrootd α) (errno : Int) :
    reportedError (set value >>= next) errno = reportedError (next ⟨⟩) value := rfl

@[simp] theorem reportedError_lift (call : StateM Int β) (next : β → Xrootd α) (errno : Int) :
    reportedError (liftM call >>= next) errno = reportedError (next (call.run errno).1) (call.run errno).2 := rfl

@[simp] theorem run_posix_failed (code : ErrorNumber) (errno : Int) :
    (PosixCall.failed code : PosixCall α).run.run errno = (none, code.1) := rfl

@[simp] theorem run_posix_succeeded (value : α) (left : Option Int) (errno : Int) :
    (PosixCall.succeeded value left).run.run errno = (some value, left.getD errno) := rfl

@[simp] theorem run_client_failed (status : ClientStatus) (left : Option Int) (errno : Int) :
    (ClientCall.failed status left : ClientCall α).run.run errno = (.error status, left.getD errno) := rfl

@[simp] theorem run_client_succeeded (value : α) (left : Option Int) (errno : Int) :
    (ClientCall.succeeded value left).run.run errno = (.ok value, left.getD errno) := rfl

/-- The error has the text of one code, and another code. -/
@[simp] theorem reportedError_setError (errcode : Int) (desc : CString) (errno : Int) :
    reportedError (gfal2XrootdSetError plugin errcode desc : Xrootd α) errno =
      some (gfal2SetError xrootdDomain errno (shortText desc ++ lit " (" ++ plugin.tables.strerror errcode ++ lit ")")) := rfl

/-- The error of what comes with a state of its own. -/
theorem reportedError_fst (call : StateM Int (Except GError α × β)) (errno : Int) :
    reportedError (ExceptT.mk (Prod.fst <$> call)) errno =
      match (call.run errno).1.1 with
      | .error e => some e
      | .ok _ => none := by
  unfold reportedError
  rw [ExceptT.run_mk, StateT.run_map]
  rfl

@[simp] theorem reportedError_catch_failed (desc : CString) (code : ErrorNumber) (handler : GError → Xrootd α) (errno : Int) :
    reportedError (tryCatch (orFail plugin desc (.failed code)) handler) errno =
      reportedError (handler (gfal2SetError xrootdDomain code.1
        (shortText desc ++ lit " (" ++ plugin.tables.strerror code.1 ++ lit ")"))) code.1 := rfl

end Reported

end Xrootd

end Operations

/-! ### What fails, and what is told of it -/

inductive XrootdOperation where
  | statG (path : CString)
  | openG (path : CString) (flag : Int) (mode : ModeT)
  | readG (fdesc : Option Int) (count : Nat)
  | writeG (fdesc : Option Int) (buff : CString)
  | lseekG (fdesc : Option Int) (offset whence : Int)
  | closeG (fdesc : Option Int)
  | mkdirpG (url : CString) (mode : ModeT)
  | chmodG (url : CString) (mode : ModeT)
  | unlinkG (url : CString)
  | rmdirG (url : CString)
  | accessG (url : CString) (mode : Int)
  | renameG (oldurl urlnew : CString)
  | opendirG (url : CString)
  | readdirG (dirDesc : Option DirListHandler) (arrival : Option (Except ClientStatus (List ListEntry)))
  | readdirppG (dirDesc : Option DirListHandler) (arrival : Option (Except ClientStatus (List ListEntry)))
  | checksumG (url checkType : CString) (bufferLength : Nat) (startOffset : Int) (dataLength : Nat)
  | getxattrG (url key : CString) (sBuff : Nat)
  | setxattrG (url key buff : CString) (flags : Int)

/-- What makes an operation fail: a call of the posix layer, a call with a status, a cause with a code of the operation's own, or
one that no code is given for. -/
inductive XrootdFailure where
  | call (code : ErrorNumber)
  | status (status : ClientStatus)
  | named (code : Int)
  | unnamed

section Failures

open Xrootd

variable (plugin : XrootdHandle)

/-- The error an operation reports, for what `errno` is before it. -/
def XrootdOperation.reported : XrootdOperation → Int → Option GError
  | statG path => reportedError (gfalXrootdStatG plugin path)
  | openG path flag mode => reportedError (gfalXrootdOpenG plugin path flag mode)
  | readG fdesc count => reportedError (gfalXrootdReadG plugin fdesc count)
  | writeG fdesc buff => reportedError (gfalXrootdWriteG plugin fdesc buff)
  | lseekG fdesc offset whence => reportedError (gfalXrootdLseekG plugin fdesc offset whence)
  | closeG fdesc => reportedError (gfalXrootdCloseG plugin fdesc)
  | mkdirpG url mode => reportedError (gfalXrootdMkdirpG plugin url mode)
  | chmodG url mode => reportedError (gfalXrootdChmodG plugin url mode)
  | unlinkG url => reportedError (Xrootd.gfalXrootdUnlinkG plugin url)
  | rmdirG url => reportedError (gfalXrootdRmdirG plugin url)
  | accessG url mode => reportedError (gfalXrootdAccessG plugin url mode)
  | renameG oldurl urlnew => reportedError (gfalXrootdRenameG plugin oldurl urlnew)
  | opendirG url => reportedError (gfalXrootdOpendirG plugin url)
  | readdirG dirDesc arrival => reportedError (ExceptT.mk (Prod.fst <$> gfalXrootdReaddirG plugin dirDesc arrival))
  | readdirppG dirDesc arrival => reportedError (ExceptT.mk (Prod.fst <$> gfalXrootdReaddirppG plugin dirDesc arrival))
  | checksumG url checkType bufferLength startOffset dataLength =>
      reportedError (gfalXrootdChecksumG plugin url checkType bufferLength startOffset dataLength)
  | getxattrG url key sBuff => reportedError (gfalXrootdGetxattrG plugin url key sBuff)
  | setxattrG url key buff flags => reportedError (gfalXrootdSetxattrG plugin url key buff flags)

def XrootdFailure.Gives (failure : XrootdFailure) (code : Int) : Prop :=
  match failure with
  | .call number => code = number.1
  | .status cause => code = cause.code ∨ code = xrootdStatusToPosixErrno plugin.tables cause false
  | .named own => code = own
  | .unnamed => False

def PosixCall.failure {α : Type} : PosixCall α → Option XrootdFailure
  | failed code => some (.call code)
  | succeeded _ _ => none

def ClientCall.failure {α : Type} : ClientCall α → Option XrootdFailure
  | failed status _ => some (.status status)
  | succeeded _ _ => none

/-- Whether a call finds a directory. -/
def PosixCall.isDir : PosixCall StatBuffer → Bool
  | failed _ => false
  | succeeded st _ => sIsdir st.stMode

/-- What makes reading an entry fail. A status whose code is zero ends the listing. -/
def readFailure (dirDesc : Option DirListHandler) (arrival : Option (Except ClientStatus (List ListEntry)))
    (withStat : Bool) : Option XrootdFailure :=
  match dirDesc with
  | none => some .unnamed
  | some handler =>
      match (handler.await arrival).ready with
      | [] => ((handler.await arrival).failed.filter (·.code ≠ 0)).map .status
      | entry :: _ =>
          if withStat ∧ entry.statInfo = none then
            match statOf plugin (handler.await arrival) entry with
            | .failed status _ => if status.code = 0 then none else some (.status status)
            | .succeeded _ _ => none
          else none

/-- Whether a reply has the type before its first space, or a text that begins with it. -/
def namesType (type answer : CString) : Bool :=
  (strchr answer ' ').any fun space => strncasecmp (answer.take space) type type.length = 0

/-- What makes an operation fail, if it does. -/
def XrootdOperation.failure : XrootdOperation → Option XrootdFailure
  | statG path => (plugin.client.stat (prepareUrl plugin.context path)).failure
  | openG path flag mode => (plugin.client.openFile (prepareUrl plugin.context path) flag mode).failure
  | readG none _ | writeG none _ | lseekG none _ _ => some .unnamed
  | readG (some fd) count => (plugin.client.read fd count).failure
  | writeG (some fd) buff => (plugin.client.write fd buff).failure
  | lseekG (some fd) offset whence => (plugin.client.lseek fd offset whence).failure
  | closeG none => none
  | closeG (some fd) => (plugin.client.close fd).failure
  | mkdirpG url mode =>
      let sanitizedUrl := prepareUrl plugin.context url
      match plugin.client.stat sanitizedUrl, plugin.client.mkdir sanitizedUrl mode with
      | .succeeded _ _, _ => some (.named EEXIST)
      | .failed _, .succeeded _ _ => none
      | .failed _, .failed code => some (if code.1 = ECANCELED then .named EEXIST else .call code)
  | chmodG url mode =>
      let sanitizedUrl := prepareUrl plugin.context url
      (plugin.client.chMod sanitizedUrl (plugin.urls.path sanitizedUrl) (fileModeToXrdclAccess mode)).failure
  | unlinkG url => (plugin.client.unlink (prepareUrl plugin.context url)).failure
  | rmdirG url =>
      let sanitizedUrl := prepareUrl plugin.context url
      match plugin.client.rmdir sanitizedUrl with
      | .succeeded _ _ => none
      | .failed code =>
          if code.1 = EEXIST then some (.named ENOTEMPTY)
          else if code.1 = EIO then some (.named (if (plugin.client.stat sanitizedUrl).isDir then ENOTEMPTY else ENOTDIR))
          else if code.1 = ENOENT then some ((plugin.client.stat sanitizedUrl).failure.getD (.named ENOTDIR))
          else some (.call code)
  | accessG url mode => (plugin.client.access (prepareUrl plugin.context url) mode).failure
  | renameG oldurl urlnew =>
      match plugin.client.rename (prepareUrl plugin.context oldurl) (prepareUrl plugin.context urlnew) with
      | .succeeded _ _ => none
      | .failed code =>
          if code.1 = EEXIST ∧ (plugin.client.stat (prepareUrl plugin.context urlnew)).isDir then some (.named EISDIR)
          else some (.call code)
  | opendirG url =>
      let sanitizedUrl := prepareUrl plugin.context url
      match plugin.client.stat sanitizedUrl with
      | .failed code => some (.call code)
      | .succeeded st _ =>
          if sIsdir st.stMode then (plugin.client.dirList sanitizedUrl (plugin.urls.path sanitizedUrl)).failure
          else some (.named ENOTDIR)
  | readdirG dirDesc arrival => readFailure plugin dirDesc arrival false
  | readdirppG dirDesc arrival => readFailure plugin dirDesc arrival true
  | checksumG url checkType bufferLength startOffset dataLength =>
      if startOffset ≠ 0 ∨ dataLength ≠ 0 then some (.named ENOTSUP)
      else
        match plugin.client.queryChksum (checksumQuery plugin url checkType) bufferLength with
        | .failed code => some (.call code)
        | .succeeded answer _ => if namesType (predefinedChecksumTypeToLower checkType) answer then none else some .unnamed
  | getxattrG url key sBuff =>
      let sanitizedUrl := prepareUrl plugin.context url
      if key = lit "spacetoken" then
        (plugin.client.getSpaceInfo sanitizedUrl (plugin.urls.path sanitizedUrl)).failure.map fun _ => .named EIO
      else if key = lit "user.status" then
        (plugin.client.statPath sanitizedUrl (plugin.urls.path sanitizedUrl)).failure.map fun _ => .named ENOENT
      else (plugin.client.getxattr sanitizedUrl key sBuff).failure
  | setxattrG _ _ _ _ => some (.named ENOSYS)

/-- A code of the failure that calls of the library have left in `errno`. -/
def XrootdFailure.LeftIn (failure : XrootdFailure) (left : Option Int) : Prop :=
  ∃ code, left = some code ∧ code ≠ 0 ∧ failure.Gives plugin code

/-- The condition for reading an entry: there is a handler that has seen no failure by the end of its entries, and the failure of
a `stat` is left in `errno`. -/
def ReadsPlainly (dirDesc : Option DirListHandler) (arrival : Option (Except ClientStatus (List ListEntry)))
    (withStat : Bool) : Prop :=
  match dirDesc with
  | none => False
  | some handler =>
      match (handler.await arrival).ready with
      | [] => (handler.await arrival).errcode = 0
      | entry :: _ =>
          withStat = true → entry.statInfo = none →
            match statOf plugin (handler.await arrival) entry with
            | .failed status left => status.code ≠ 0 → (XrootdFailure.status status).LeftIn plugin left
            | .succeeded _ _ => True

/-- The condition for an operation: what it reports stands in `errno` when it makes the error. -/
def XrootdOperation.Plain : XrootdOperation → Prop
  | readG fdesc _ | writeG fdesc _ | lseekG fdesc _ _ => fdesc.isSome = true
  | chmodG url mode =>
      let sanitizedUrl := prepareUrl plugin.context url
      match plugin.client.chMod sanitizedUrl (plugin.urls.path sanitizedUrl) (fileModeToXrdclAccess mode) with
      | .failed status left => (XrootdFailure.status status).LeftIn plugin left
      | .succeeded _ _ => True
  | opendirG url =>
      let sanitizedUrl := prepareUrl plugin.context url
      match plugin.client.stat sanitizedUrl with
      | .failed _ => True
      | .succeeded st left =>
          if sIsdir st.stMode then
            match plugin.client.dirList sanitizedUrl (plugin.urls.path sanitizedUrl) with
            | .failed status later => (XrootdFailure.status status).LeftIn plugin (later.or left)
            | .succeeded _ _ => True
          else left = some ENOTDIR
  | readdirG dirDesc arrival => ReadsPlainly plugin dirDesc arrival false
  | readdirppG dirDesc arrival => ReadsPlainly plugin dirDesc arrival true
  | checksumG url checkType bufferLength startOffset dataLength =>
      startOffset = 0 ∧ dataLength = 0 ∧
        match plugin.client.queryChksum (checksumQuery plugin url checkType) bufferLength with
        | .failed _ => True
        | .succeeded answer _ => namesType (predefinedChecksumTypeToLower checkType) answer = true
  | setxattrG _ _ _ _ => False
  | _ => True

/-- The code of the error is one the failure gives, is not zero, and is the same for everything `errno` was before. Where nothing
fails, there is no error. -/
def CodeFromFailure (failure : Option XrootdFailure) (reported : Int → Option GError) : Prop :=
  match failure with
  | none => ∀ errno, reported errno = none
  | some failure => ∃ code, code ≠ 0 ∧ failure.Gives plugin code ∧ ∀ errno, ∃ e, reported errno = some e ∧ e.code = code

/-! ### The condition is the exact one -/

/-- An error that tells what the calls left in `errno`, or what was there before, where they left nothing. -/
theorem codeFromFailure_iff_leftIn {failure : XrootdFailure} {reported : Int → Option GError} (left : Option Int)
    (h : ∀ errno, ∃ e, reported errno = some e ∧ e.code = left.getD errno) :
    CodeFromFailure plugin (some failure) reported ↔ failure.LeftIn plugin left := by
  constructor
  · rintro ⟨code, hcode, hgives, hall⟩
    cases left with
    | none =>
        -- what was zero before stays zero
        obtain ⟨e, he, hzero⟩ := h 0
        obtain ⟨e', he', hsame⟩ := hall 0
        rw [he] at he'
        cases he'
        exact absurd (hsame.symm.trans hzero) hcode
    | some value =>
        obtain ⟨e, he, hvalue⟩ := h 0
        obtain ⟨e', he', hsame⟩ := hall 0
        rw [he] at he'
        cases he'
        exact ⟨code, congrArg some (hvalue.symm.trans hsame), hcode, hgives⟩
  · rintro ⟨code, rfl, hcode, hgives⟩
    exact ⟨code, hcode, hgives, h⟩

theorem not_codeFromFailure_unnamed {reported : Int → Option GError} : ¬CodeFromFailure plugin (some .unnamed) reported := by
  rintro ⟨code, -, hgives, -⟩
  exact hgives

theorem orFail_codeFromFailure {α : Type} (desc : CString) (call : PosixCall α) :
    CodeFromFailure plugin call.failure (reportedError (orFail plugin desc call)) := by
  cases call with
  | failed code => exact ⟨code.1, code.2, rfl, fun errno => ⟨_, rfl, rfl⟩⟩
  | succeeded value left => exact fun errno => rfl

theorem mkdirpG_codeFromFailure (url : CString) (mode : ModeT) :
    CodeFromFailure plugin ((XrootdOperation.mkdirpG url mode).failure plugin)
      (reportedError (gfalXrootdMkdirpG plugin url mode)) := by
  dsimp only [XrootdOperation.failure, gfalXrootdMkdirpG]
  cases plugin.client.stat (prepareUrl plugin.context url) with
  | succeeded st left => exact ⟨EEXIST, by decide, rfl, fun errno => by simp [gfal2SetError]⟩
  | failed missing =>
      cases plugin.client.mkdir (prepareUrl plugin.context url) mode with
      | succeeded made left => intro errno; simp
      | failed code =>
          by_cases hcanceled : code.1 = ECANCELED
          · dsimp only
            rw [if_pos hcanceled]
            refine ⟨EEXIST, by decide, rfl, fun errno => ?_⟩
            simp [hcanceled, gfal2SetError]
          · dsimp only
            rw [if_neg hcanceled]
            refine ⟨code.1, code.2, rfl, fun errno => ?_⟩
            simp [hcanceled, gfal2SetError]

theorem rmdirG_codeFromFailure (url : CString) :
    CodeFromFailure plugin ((XrootdOperation.rmdirG url).failure plugin) (reportedError (gfalXrootdRmdirG plugin url)) := by
  dsimp only [XrootdOperation.failure, gfalXrootdRmdirG]
  have hioexists : EIO ≠ EEXIST := by decide
  have hmissingexists : ENOENT ≠ EEXIST := by decide
  have hmissingio : ENOENT ≠ EIO := by decide
  cases plugin.client.rmdir (prepareUrl plugin.context url) with
  | succeeded removed left => intro errno; simp
  | failed code =>
      dsimp only
      by_cases hexists : code.1 = EEXIST
      · rw [if_pos hexists]
        exact ⟨ENOTEMPTY, by decide, rfl, fun errno => by simp [hexists, gfal2SetError]⟩
      rw [if_neg hexists]
      by_cases hio : code.1 = EIO
      · rw [if_pos hio]
        cases plugin.client.stat (prepareUrl plugin.context url) with
        | failed missing => exact ⟨ENOTDIR, by decide, rfl, fun errno => by simp [hio, hioexists, gfal2SetError]⟩
        | succeeded st left =>
            cases hdir : sIsdir st.stMode with
            | true =>
                refine ⟨ENOTEMPTY, by decide, ?_, fun errno => ?_⟩
                · simp [PosixCall.isDir, hdir, XrootdFailure.Gives]
                · simp [hio, hioexists, hdir, gfal2SetError]
            | false =>
                refine ⟨ENOTDIR, by decide, ?_, fun errno => ?_⟩
                · simp [PosixCall.isDir, hdir, XrootdFailure.Gives]
                · simp [hio, hioexists, hdir, gfal2SetError]
      rw [if_neg hio]
      by_cases hmissing : code.1 = ENOENT
      · rw [if_pos hmissing]
        cases plugin.client.stat (prepareUrl plugin.context url) with
        | failed missing =>
            refine ⟨missing.1, missing.2, rfl, fun errno => ?_⟩
            simp [hmissing, hmissingexists, hmissingio, gfal2SetError]
        | succeeded st left =>
            refine ⟨ENOTDIR, by decide, rfl, fun errno => ?_⟩
            simp [hmissing, hmissingexists, hmissingio, gfal2SetError]
      rw [if_neg hmissing]
      exact ⟨code.1, code.2, rfl, fun errno => by simp [hexists, hio, hmissing, gfal2SetError]⟩

theorem renameG_codeFromFailure (oldurl urlnew : CString) :
    CodeFromFailure plugin ((XrootdOperation.renameG oldurl urlnew).failure plugin)
      (reportedError (gfalXrootdRenameG plugin oldurl urlnew)) := by
  dsimp only [XrootdOperation.failure, gfalXrootdRenameG]
  cases plugin.client.rename (prepareUrl plugin.context oldurl) (prepareUrl plugin.context urlnew) with
  | succeeded renamed left => exact fun errno => rfl
  | failed code =>
      dsimp only
      by_cases hexists : code.1 = EEXIST
      · cases plugin.client.stat (prepareUrl plugin.context urlnew) with
        | failed missing =>
            rw [if_neg fun h => Bool.false_ne_true h.2]
            exact ⟨code.1, code.2, rfl, fun errno => by simp [gfal2SetError, hexists]⟩
        | succeeded st left =>
            cases hdir : sIsdir st.stMode with
            | true =>
                rw [if_pos ⟨hexists, hdir⟩]
                exact ⟨EISDIR, by decide, rfl, fun errno => by simp [gfal2SetError, hexists, hdir]⟩
            | false =>
                rw [if_neg fun h => Bool.false_ne_true (hdir.symm.trans h.2)]
                exact ⟨code.1, code.2, rfl, fun errno => by simp [gfal2SetError, hexists, hdir]⟩
      · rw [if_neg fun h => hexists h.1]
        exact ⟨code.1, code.2, rfl, fun errno => by simp [gfal2SetError, hexists]⟩

theorem chmodG_iff (url : CString) (mode : ModeT) : CodeFromFailure plugin ((XrootdOperation.chmodG url mode).failure plugin)
      (reportedError (gfalXrootdChmodG plugin url mode)) ↔ (XrootdOperation.chmodG url mode).Plain plugin := by
  dsimp only [XrootdOperation.failure, gfalXrootdChmodG, XrootdOperation.Plain]
  cases plugin.client.chMod (prepareUrl plugin.context url) (plugin.urls.path (prepareUrl plugin.context url))
      (fileModeToXrdclAccess mode) with
  | succeeded done left => exact iff_of_true (fun errno => rfl) trivial
  | failed status left => exact codeFromFailure_iff_leftIn plugin _ fun errno => ⟨_, rfl, rfl⟩

theorem opendirG_iff (url : CString) : CodeFromFailure plugin ((XrootdOperation.opendirG url).failure plugin)
      (reportedError (gfalXrootdOpendirG plugin url)) ↔ (XrootdOperation.opendirG url).Plain plugin := by
  dsimp only [XrootdOperation.failure, gfalXrootdOpendirG, XrootdOperation.Plain]
  cases plugin.client.stat (prepareUrl plugin.context url) with
  | failed code => exact iff_of_true ⟨code.1, code.2, rfl, fun errno => ⟨_, rfl, rfl⟩⟩ trivial
  | succeeded st left =>
      dsimp only
      cases hdir : sIsdir st.stMode with
      | false =>
          rw [if_neg Bool.false_ne_true, if_neg Bool.false_ne_true]
          refine (codeFromFailure_iff_leftIn plugin left fun errno => ?_).trans ?_
          · simp [hdir, gfal2SetError]
          · constructor
            · rintro ⟨code, hleft, -, rfl⟩
              exact hleft
            · exact fun hleft => ⟨ENOTDIR, hleft, by decide, rfl⟩
      | true =>
          rw [if_pos rfl, if_pos rfl]
          cases hlist : plugin.client.dirList (prepareUrl plugin.context url)
              (plugin.urls.path (prepareUrl plugin.context url)) with
          | succeeded done later =>
              refine iff_of_true (fun errno => ?_) trivial
              simp [hdir, DirListHandler.list, hlist]
          | failed status later =>
              refine codeFromFailure_iff_leftIn plugin _ fun errno => ?_
              simp [hdir, DirListHandler.list, hlist, gfal2SetError]

/-- The error of reading an entry, by what `DirListHandler::Get` comes back with. -/
theorem reportedError_readEntry {handler after : DirListHandler} {arrival : Option (Except ClientStatus (List ListEntry))}
    {withStat : Bool} {errno errno' : Int} {entry : Option (Dirent × Option StatBuffer)}
    (hget : (handler.get plugin arrival withStat).run errno = ((entry, after), errno')) :
    reportedError (ExceptT.mk (Prod.fst <$> readEntry plugin (some handler) arrival withStat)) errno =
      if entry.isNone ∧ after.errcode ≠ 0 then
        some (gfal2SetError xrootdDomain errno' (shortText (lit "Failed reading directory: " ++ after.errstr) ++ lit " (" ++
          plugin.tables.strerror after.errcode ++ lit ")"))
      else none := by
  have hrun : (readEntry plugin (some handler) arrival withStat).run errno =
      (if entry.isNone ∧ after.errcode ≠ 0 then do
        let outcome ← (gfal2XrootdSetError plugin after.errcode (lit "Failed reading directory: " ++ after.errstr)).run
        return (outcome, some after)
      else return (.ok entry, some after) :
        StateM Int (Except GError (Option (Dirent × Option StatBuffer)) × Option DirListHandler)).run errno' := by
    unfold readEntry
    dsimp only
    rw [StateT.run_bind, hget]
    rfl
  rw [reportedError_fst, hrun]
  by_cases hreport : entry.isNone ∧ after.errcode ≠ 0
  · rw [if_pos hreport, if_pos hreport]
    rfl
  · rw [if_neg hreport, if_neg hreport]
    rfl

/-- The entries that are left make no difference to the `stat` of one that was taken. -/
theorem statOf_entries (handler : DirListHandler) (entries : List ListEntry) (entry : ListEntry) :
    statOf plugin { handler with entries := entries } entry = statOf plugin handler entry := rfl

theorem readEntry_iff (dirDesc : Option DirListHandler) (arrival : Option (Except ClientStatus (List ListEntry)))
    (withStat : Bool) :
    CodeFromFailure plugin (readFailure plugin dirDesc arrival withStat)
      (reportedError (ExceptT.mk (Prod.fst <$> readEntry plugin dirDesc arrival withStat))) ↔
      ReadsPlainly plugin dirDesc arrival withStat := by
  cases dirDesc with
  | none => exact iff_of_false (not_codeFromFailure_unnamed plugin) not_false
  | some handler =>
      dsimp only [readFailure, ReadsPlainly]
      cases hready : (handler.await arrival).ready with
      | nil =>
          have hget (errno : Int) : (handler.get plugin arrival withStat).run errno = ((none, handler.await arrival), errno) := by
            unfold DirListHandler.get
            dsimp only
            rw [hready]
            rfl
          dsimp only
          cases hfailed : (handler.await arrival).failed with
          | none =>
              have hcode : (handler.await arrival).errcode = 0 := by rw [DirListHandler.errcode, hfailed]; rfl
              refine iff_of_true (fun errno => ?_) hcode
              rw [reportedError_readEntry plugin (hget errno), if_neg fun h => h.2 hcode]
          | some status =>
              have hcode : (handler.await arrival).errcode = status.code := by rw [DirListHandler.errcode, hfailed]; rfl
              by_cases hzero : status.code = 0
              · have hnone : ((some status).filter fun status => decide (status.code ≠ 0)).map XrootdFailure.status = none := by
                  simp [hzero]
                rw [hnone]
                refine iff_of_true (fun errno => ?_) (hcode.trans hzero)
                rw [reportedError_readEntry plugin (hget errno), if_neg fun h => h.2 (hcode.trans hzero)]
              · have hsome : ((some status).filter fun status => decide (status.code ≠ 0)).map XrootdFailure.status =
                    some (.status status) := by
                  simp [hzero]
                rw [hsome]
                refine (codeFromFailure_iff_leftIn plugin none fun errno => ?_).trans (iff_of_false ?_ ?_)
                · rw [reportedError_readEntry plugin (hget errno), if_pos ⟨rfl, fun h => hzero (hcode.symm.trans h)⟩]
                  exact ⟨_, rfl, rfl⟩
                · rintro ⟨code, hleft, -⟩
                  cases hleft
                · exact fun h => hzero (hcode.symm.trans h)
      | cons entry entries =>
          -- the handler after the entry was taken, which is asked at the same URL
          have htake (errno : Int) : (handler.get plugin arrival withStat).run errno =
              (({ handler.await arrival with entries := entries } : DirListHandler).take plugin entry withStat).run errno := by
            unfold DirListHandler.get
            dsimp only
            rw [hready]
          have htaken (dirent : Dirent × Option StatBuffer) (after : DirListHandler) (after' : Int → Int)
              (h : ∀ errno, (({ handler.await arrival with entries := entries } : DirListHandler).take plugin entry withStat).run
                errno = ((some dirent, after), after' errno)) (errno : Int) :
              reportedError (ExceptT.mk (Prod.fst <$> readEntry plugin (some handler) arrival withStat)) errno = none := by
            rw [reportedError_readEntry plugin ((htake errno).trans (h errno)), if_neg fun h => Bool.false_ne_true h.1]
          dsimp only
          cases withStat with
          | false =>
              rw [if_neg fun h => Bool.false_ne_true h.1]
              exact iff_of_true (htaken _ _ id fun errno => rfl) fun h => absurd h Bool.false_ne_true
          | true =>
              cases hinfo : entry.statInfo with
              | some info =>
                  rw [if_neg fun h => nomatch h.2]
                  refine iff_of_true (htaken (entry.dirent, some (statInfo2Stat info))
                    { handler.await arrival with entries := entries } id fun errno => ?_)
                    fun _ h => nomatch h
                  unfold DirListHandler.take
                  rw [hinfo]
                  rfl
              | none =>
                  rw [if_pos ⟨rfl, rfl⟩]
                  cases hstat : statOf plugin (handler.await arrival) entry with
                  | succeeded info left =>
                      refine iff_of_true (htaken (entry.dirent, some (statInfo2Stat info))
                        { handler.await arrival with entries := entries } left.getD fun errno => ?_)
                        fun _ _ => trivial
                      unfold DirListHandler.take
                      rw [if_pos rfl, hinfo]
                      dsimp only
                      rw [statOf_entries, hstat]
                      rfl
                  | failed status left =>
                      have hfailed (errno : Int) : (handler.get plugin arrival true).run errno =
                          ((none, { handler.await arrival with entries := entries, failed := some status }), left.getD errno) := by
                        rw [htake errno]
                        unfold DirListHandler.take
                        rw [if_pos rfl, hinfo]
                        dsimp only
                        rw [statOf_entries, hstat]
                        rfl
                      dsimp only
                      by_cases hzero : status.code = 0
                      · rw [if_pos hzero]
                        refine iff_of_true (fun errno => ?_) fun _ _ h => absurd hzero h
                        rw [reportedError_readEntry plugin (hfailed errno), if_neg fun h => h.2 hzero]
                      · rw [if_neg hzero]
                        refine (codeFromFailure_iff_leftIn plugin left fun errno => ?_).trans ?_
                        · rw [reportedError_readEntry plugin (hfailed errno), if_pos ⟨rfl, hzero⟩]
                          exact ⟨_, rfl, rfl⟩
                        · exact ⟨fun h _ _ _ => h, fun h => h rfl rfl hzero⟩

theorem checksumG_iff (url checkType : CString) (bufferLength : Nat) (startOffset : Int) (dataLength : Nat) :
    CodeFromFailure plugin ((XrootdOperation.checksumG url checkType bufferLength startOffset dataLength).failure plugin)
      (reportedError (gfalXrootdChecksumG plugin url checkType bufferLength startOffset dataLength)) ↔
      (XrootdOperation.checksumG url checkType bufferLength startOffset dataLength).Plain plugin := by
  dsimp only [XrootdOperation.failure, gfalXrootdChecksumG, XrootdOperation.Plain]
  by_cases hpiece : startOffset ≠ 0 ∨ dataLength ≠ 0
  · rw [if_pos hpiece]
    refine (codeFromFailure_iff_leftIn plugin none fun errno => ?_).trans (iff_of_false ?_ ?_)
    · simp [hpiece, gfal2SetError]
    · rintro ⟨code, hleft, -⟩
      cases hleft
    · rintro ⟨hstart, hlength, -⟩
      exact hpiece.elim (fun h => h hstart) fun h => h hlength
  · rw [if_neg hpiece]
    obtain ⟨hstart, hlength⟩ : startOffset = 0 ∧ dataLength = 0 := by omega
    cases plugin.client.queryChksum (checksumQuery plugin url checkType) bufferLength with
    | failed code =>
        refine iff_of_true ⟨code.1, code.2, rfl, fun errno => ?_⟩ ⟨hstart, hlength, trivial⟩
        rw [if_neg hpiece]
        exact ⟨_, rfl, rfl⟩
    | succeeded answer left =>
        dsimp only
        cases hnames : namesType (predefinedChecksumTypeToLower checkType) answer with
        | true =>
            rw [if_pos rfl]
            refine iff_of_true (fun errno => ?_) ⟨hstart, hlength, rfl⟩
            rw [if_neg hpiece]
            unfold namesType at hnames
            rw [Option.any_eq_true] at hnames
            obtain ⟨space, hspace, htype⟩ := hnames
            have hagree : strncasecmp (answer.take space) (predefinedChecksumTypeToLower checkType)
                (predefinedChecksumTypeToLower checkType).length = 0 := of_decide_eq_true htype
            simp [orFail, hspace, hagree]
        | false =>
            refine iff_of_false (not_codeFromFailure_unnamed plugin) fun h => Bool.false_ne_true h.2.2

theorem getxattrG_codeFromFailure (url key : CString) (sBuff : Nat) :
    CodeFromFailure plugin ((XrootdOperation.getxattrG url key sBuff).failure plugin)
      (reportedError (gfalXrootdGetxattrG plugin url key sBuff)) := by
  dsimp only [XrootdOperation.failure, gfalXrootdGetxattrG]
  by_cases hspace : key = lit "spacetoken"
  · rw [if_pos hspace, if_pos hspace]
    dsimp only [gfalXrootdSpaceReporting]
    cases plugin.client.getSpaceInfo (prepareUrl plugin.context url)
        (plugin.urls.path (prepareUrl plugin.context url)) with
    | succeeded report left => exact fun errno => rfl
    | failed status left => exact Exists.intro EIO ⟨by decide, rfl, fun errno => ⟨_, rfl, rfl⟩⟩
  rw [if_neg hspace, if_neg hspace]
  by_cases hstatus : key = lit "user.status"
  · rw [if_pos hstatus, if_pos hstatus]
    cases plugin.client.statPath (prepareUrl plugin.context url) (plugin.urls.path (prepareUrl plugin.context url)) with
    | succeeded info left => exact fun errno => rfl
    | failed status left => exact ⟨ENOENT, by decide, rfl, fun errno => ⟨_, rfl, rfl⟩⟩
  rw [if_neg hstatus, if_neg hstatus]
  exact orFail_codeFromFailure plugin _ _

theorem onFdesc_iff {α : Type} (fdesc : Option Int) (desc : CString) (call : Int → PosixCall α) :
    CodeFromFailure plugin (match fdesc with
      | none => some .unnamed
      | some fd => (call fd).failure) (reportedError (onFdesc plugin fdesc desc call)) ↔ fdesc.isSome = true := by
  cases fdesc with
  | none => exact iff_of_false (not_codeFromFailure_unnamed plugin) Bool.false_ne_true
  | some fd => exact iff_of_true (orFail_codeFromFailure plugin desc (call fd)) rfl

/-- The codes of the errors come from the failures exactly for the operations whose failure is in `errno`: those of the posix layer,
and others as far as calls have left such a code there. -/
theorem code_from_failure_iff (operation : XrootdOperation) :
    CodeFromFailure plugin (operation.failure plugin) (operation.reported plugin) ↔ operation.Plain plugin := by
  cases operation with
  | statG path => exact iff_of_true (orFail_codeFromFailure plugin _ _) trivial
  | openG path flag mode => exact iff_of_true (orFail_codeFromFailure plugin _ _) trivial
  | readG fdesc count =>
      have h := onFdesc_iff plugin fdesc (lit "Failed while reading from file") fun fd => plugin.client.read fd count
      cases fdesc with
      | none => exact h
      | some fd => exact h
  | writeG fdesc buff =>
      have h := onFdesc_iff plugin fdesc (lit "Failed while writing to file") fun fd => plugin.client.write fd buff
      cases fdesc with
      | none => exact h
      | some fd => exact h
  | lseekG fdesc offset whence =>
      have h := onFdesc_iff plugin fdesc (lit "Failed to seek within file") fun fd => plugin.client.lseek fd offset whence
      cases fdesc with
      | none => exact h
      | some fd => exact h
  | closeG fdesc =>
      cases fdesc with
      | none => exact iff_of_true (fun errno => rfl) trivial
      | some fd => exact iff_of_true (orFail_codeFromFailure plugin _ _) trivial
  | mkdirpG url mode => exact iff_of_true (mkdirpG_codeFromFailure plugin url mode) trivial
  | chmodG url mode => exact chmodG_iff plugin url mode
  | unlinkG url => exact iff_of_true (orFail_codeFromFailure plugin _ _) trivial
  | rmdirG url => exact iff_of_true (rmdirG_codeFromFailure plugin url) trivial
  | accessG url mode => exact iff_of_true (orFail_codeFromFailure plugin _ _) trivial
  | renameG oldurl urlnew => exact iff_of_true (renameG_codeFromFailure plugin oldurl urlnew) trivial
  | opendirG url => exact opendirG_iff plugin url
  | readdirG dirDesc arrival => exact readEntry_iff plugin dirDesc arrival false
  | readdirppG dirDesc arrival => exact readEntry_iff plugin dirDesc arrival true
  | checksumG url checkType bufferLength startOffset dataLength =>
      exact checksumG_iff plugin url checkType bufferLength startOffset dataLength
  | getxattrG url key sBuff => exact iff_of_true (getxattrG_codeFromFailure plugin url key sBuff) trivial
  | setxattrG url key buff flags =>
      refine iff_of_false (fun h => ?_) not_false
      obtain ⟨code, hleft, -⟩ := (codeFromFailure_iff_leftIn plugin none fun errno => ⟨_, rfl, rfl⟩).mp h
      cases hleft

end Failures

/-! ### A refused change of a mode -/

/-- A server that answers every request with a status that refuses it, as the posix layer tells it in `errno`. -/
def refusingClient : XrdClient :=
  let refused : ErrorNumber := ⟨EACCES, by decide⟩
  let status : ClientStatus := ⟨errErrorResponse, 3010, lit "[ERROR] Server responded with an error: [3010]", lit "denied"⟩
  { stat := fun _ => .failed refused
    openFile := fun _ _ _ => .failed refused
    read := fun _ _ => .failed refused
    write := fun _ _ => .failed refused
    lseek := fun _ _ _ => .failed refused
    close := fun _ => .failed refused
    mkdir := fun _ _ => .failed refused
    unlink := fun _ => .failed refused
    rmdir := fun _ => .failed refused
    access := fun _ _ => .failed refused
    rename := fun _ _ => .failed refused
    queryChksum := fun _ _ => .failed refused
    getxattr := fun _ _ _ => .failed refused
    chMod := fun _ _ _ => .failed status none
    dirList := fun _ _ => .failed status none
    statPath := fun _ _ => .failed status none
    getSpaceInfo := fun _ _ => .failed status none }

def refusedHandle : XrootdHandle where
  context := {}
  urls := ⟨id, id, id⟩
  client := refusingClient
  tables := ⟨fun _ => EACCES, 52, fun _ => lit "Permission denied", id⟩
  toJsonString _ := []

/-- The code is zero, or `EEXIST`, if that is what `errno` was, and not the one of the refusal. -/
theorem refused_chmod_reports_errno :
    (∀ errno, ∃ e, (XrootdOperation.chmodG (lit "root://host//file") 0o644).reported refusedHandle errno = some e ∧
      e.code = errno) ∧
    ¬CodeFromFailure refusedHandle ((XrootdOperation.chmodG (lit "root://host//file") 0o644).failure refusedHandle)
      ((XrootdOperation.chmodG (lit "root://host//file") 0o644).reported refusedHandle) := by
  constructor
  · exact fun errno => ⟨_, rfl, rfl⟩
  · intro h
    obtain ⟨code, hleft, -⟩ := (chmodG_iff refusedHandle (lit "root://host//file") 0o644).mp h
    cases hleft

end Gfal2
