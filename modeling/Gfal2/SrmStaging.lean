import Gfal2.SrmServices

/-! The operations of the SRM plugin on lists of files, and the same operations on one file: bringing files online,
releasing them, giving up on them and removing them. -/

namespace Gfal2

open Base

/-- `strcmp`, which needs both strings. -/
def strcmpPtr : Option CString → Option CString → Option Int
  | some left, some right => some (strcmp left right)
  | _, _ => none

/-- `gfal2_srm_surl_cmp`, unless it reads a null pointer. -/
def gfal2SrmSurlCmp (surl1 surl2 : CString) : Option Int :=
  match gfal2ParseUri surl1, gfal2ParseUri surl2 with
  | ⟨some parsed1, none⟩, ⟨some parsed2, none⟩ => do
      let hosts ← strcmpPtr parsed1.host parsed2.host
      if hosts ≠ 0 ∨ parsed1.port ≠ parsed2.port then return -1
      strcmpPtr (gfal2SrmSurlFindPath parsed1) (gfal2SrmSurlFindPath parsed2)
  | _, _ => some (strcmp surl1 surl2)

/-- `gfal_srmv2_bring_online_internal_status_index`: the first entry for the SURL. -/
def statusIndex (statuses : List PinFileStatus) (surl : CString) : Srm (Option PinFileStatus) :=
  match statuses with
  | [] => return none
  | status :: rest =>
      match gfal2SrmSurlCmp status.surl surl with
      | none => Exec.fault .nullDereference
      | some 0 => return some status
      | some _ => statusIndex rest surl

/-- A string as `%s` prints it. -/
def printed (text : Option CString) : CString := text.getD (lit "(null)")

/-- The error of a file whose request failed. -/
def bringOnlineError (status : PinFileStatus) : GError :=
  gfal2SetError srmQuark status.status (lit "error on the bring online request: " ++ printed status.explanation ++ [' '])

def missingSurl (surl : CString) : GError := gfal2SetError srmQuark EPROTO (lit "missing surl on the response: " ++ surl)

/-- What the loops over the files of a request come to: how many files are done for good, and the errors. -/
structure BringOnlineCounts where
  nterminal : Nat := 0
  errors : ErrorList := []

/-- One more file. -/
def BringOnlineCounts.count (counts : BringOnlineCounts) (terminal : Bool) (error : Option GError) : BringOnlineCounts :=
  ⟨if terminal then counts.nterminal + 1 else counts.nterminal, counts.errors ++ [error]⟩

/-- The loop of `gfal_srmv2_bring_online_internal`. -/
def bringOnlineLoop (statuses : List PinFileStatus) (counts : BringOnlineCounts) : List CString → Srm BringOnlineCounts
  | [] => return counts
  | surl :: rest => do
      match ← statusIndex statuses surl with
      | some status =>
          if status.status = 0 then bringOnlineLoop statuses (counts.count true none) rest
          else if status.status = EAGAIN then bringOnlineLoop statuses (counts.count false none) rest
          else bringOnlineLoop statuses (counts.count true (some (bringOnlineError status))) rest
      | none => bringOnlineLoop statuses (counts.count true (some (missingSurl surl))) rest

/-- The loop of `gfal_srmv2_bring_online_poll_internal`. For a file that is still queued it takes the explanation at
the place of the file in the request. -/
def bringOnlinePollLoop (statuses : List PinFileStatus) (counts : BringOnlineCounts) : List CString → Srm BringOnlineCounts
  | [] => return counts
  | surl :: rest => do
      match ← statusIndex statuses surl with
      | some status =>
          if status.status = 0 then bringOnlinePollLoop statuses (counts.count true none) rest
          else if status.status = EAGAIN then
            match statuses[counts.errors.length]? with
            | some placed =>
                bringOnlinePollLoop statuses (counts.count false (some (gfal2SetError srmQuark EAGAIN
                  (lit "still queued: " ++ printed placed.explanation ++ [' '])))) rest
            | none => Exec.fault .arrayBounds
          else bringOnlinePollLoop statuses (counts.count true (some (bringOnlineError status))) rest
      | none => bringOnlinePollLoop statuses (counts.count true (some (missingSurl surl))) rest

variable (servers : SrmServers)

/-- The value, the token and the errors of a request to bring files online. -/
structure BringOnlineResult where
  ret : Int
  token : CString
  errors : ErrorList

/-- `gfal_srmv2_bring_online_internal`, with a buffer for the token. -/
def gfalSrmv2BringOnlineInternal (easy : GfalSrmEasy) (surls : List CString) (token : CString) (tsize : Nat) (async : Bool) :
    Srm BringOnlineResult := do
  match ← easy.call (servers.bringOnline surls async) fun _ => .bringOnline surls async with
  | .error e => return ⟨-1, token, surls.map fun _ => some e⟩
  | .ok answer => do
      let counts ← bringOnlineLoop answer.statuses {} surls
      return ⟨if counts.nterminal = surls.length then 1 else 0, (answer.token.getD []).take (tsize - 1), counts.errors⟩

def gfalSrmv2BringOnlinePollInternal (easy : GfalSrmEasy) (surls : List CString) (token : CString) :
    Srm (Int × ErrorList) := do
  match ← easy.call (servers.bringOnlineStatus surls token) fun _ => .bringOnlineStatus surls token with
  | .error e => return (-1, surls.map fun _ => some e)
  | .ok statuses => do
      let counts ← bringOnlinePollLoop statuses {} surls
      return (if counts.nterminal = surls.length then 1 else 0, counts.errors)

/-- The loop over the files of a request by their places in the answer. -/
def placedErrors (error : SrmFileStatus → GError) : List CString → List SrmFileStatus → Srm ErrorList
  | [], _ => return []
  | _ :: _, [] => Exec.fault .arrayBounds
  | _ :: surls, status :: statuses => do
      let rest ← placedErrors error surls statuses
      return (if status.status = 0 then none else some (error status)) :: rest

/-- `gfal_srmv2_release_file_internal`. Each error has the explanation of the first file. -/
def gfalSrmv2ReleaseFileInternal (easy : GfalSrmEasy) (surls : List CString) (token : Option CString) :
    Srm (Int × ErrorList) := do
  match ← easy.call (servers.releaseFiles surls token) fun _ => .releaseFiles surls token with
  | .error e => return (-1, surls.map fun _ => some e)
  | .ok statuses => do
      let explanation := (statuses.head?.bind SrmFileStatus.explanation)
      let errors ← placedErrors (fun status => gfal2SetError srmQuark status.status
        (lit "error on the release request : " ++ printed explanation ++ [' '])) surls statuses
      return (0, errors)

/-- `gfal_srmv2_abort_files_internal`, which counts the errors down. -/
def gfalSrmv2AbortFilesInternal (easy : GfalSrmEasy) (surls : List CString) (token : Option CString) :
    Srm (Int × ErrorList) := do
  match ← easy.call (servers.abortFiles surls token) fun _ => .abortFiles surls token with
  | .error e => return (-1, surls.map fun _ => some e)
  | .ok statuses => do
      let errors ← placedErrors (fun status => gfal2SetError srmQuark status.status
        (lit "error on the abort request : " ++ printed status.explanation ++ [' '])) surls statuses
      return (-(errors.countP Option.isSome : Nat), errors)

def gfalSrmRmSrmv2Isdir (easy : GfalSrmEasy) (surl : CString) : Srm Bool := do
  match ← easy.call (servers.ls surl) fun _ => .ls surl with
  | .error _ => return false
  | .ok entry => return sIsdir entry.stat.stMode

/-- The loop of `gfal_srm_rm_srmv2_internal`. -/
def rmErrors (easy : GfalSrmEasy) : List CString → List SrmFileStatus → Srm ErrorList
  | [], _ => return []
  | _ :: _, [] => return []
  | surl :: surls, status :: statuses => do
      let error ← if status.status = 0 then pure none else do
        let code ← rmCode surl status
        pure (some (gfal2SetError srmQuark code (match status.explanation with
          | some explanation => lit "error reported from srm_ifce, " ++ explanation
          | none => lit "error reported from srm_ifce, without explanation!")))
      let rest ← rmErrors easy surls statuses
      return error :: rest
where
  rmCode (surl : CString) (status : SrmFileStatus) : Srm Int := do
    if status.status = EINVAL then
      if ← gfalSrmRmSrmv2Isdir servers easy surl then return EISDIR
    return status.status

def gfalSrmRmSrmv2Internal (easy : GfalSrmEasy) (surls : List CString) : Srm (Int × ErrorList) := do
  let (reported, statuses) ← easy.call (servers.rm surls) fun _ => .rm surls
  if statuses.length = surls.length then
    let errors ← rmErrors servers easy surls statuses
    return (-(errors.countP Option.isSome : Nat), errors)
  else
    return (-1, surls.map fun _ => some reported)

/-! ### The lists -/

/-- An operation on a list: without a context it has failed for all files, and nothing is released. -/
def listWithContext {α : Type} (surls : List CString) (failed : Option GError → α) (body : GfalSrmEasy → List CString → Srm α) :
    Srm α :=
  match surls with
  | [] => Exec.fault .arrayBounds
  | surl :: _ => do
      match ← srmEasyContext servers surl .list with
      | ⟨none, err⟩ => return failed err
      | ⟨some easy, _⟩ => do
          let answer ← body easy (surls.map gfal2SrmGetDecodedPath)
          srmEasyContextRelease
          return answer

def gfalSrmv2BringOnlineListG (surls : List CString) (token : CString) (tsize : Nat) (async : Bool) : Srm BringOnlineResult :=
  listWithContext servers surls (fun err => ⟨-1, token, surls.map fun _ => err⟩) fun easy decoded =>
    gfalSrmv2BringOnlineInternal servers easy decoded token tsize async

def gfalSrmv2BringOnlinePollListG (surls : List CString) (token : CString) : Srm (Int × ErrorList) :=
  listWithContext servers surls (fun err => (-1, surls.map fun _ => err)) fun easy decoded =>
    gfalSrmv2BringOnlinePollInternal servers easy decoded token

def gfalSrmv2ReleaseFileListG (surls : List CString) (token : Option CString) : Srm (Int × ErrorList) :=
  listWithContext servers surls (fun err => (-1, surls.map fun _ => err)) fun easy decoded =>
    gfalSrmv2ReleaseFileInternal servers easy decoded token

def gfalSrm2AbortFilesG (surls : List CString) (token : Option CString) : Srm (Int × ErrorList) :=
  listWithContext servers surls (fun err => (-1, surls.map fun _ => err)) fun easy decoded =>
    gfalSrmv2AbortFilesInternal servers easy decoded token

/-! ### Single files -/

/-- An operation on one file: with an error its value is negative. -/
def singleWithContext (surl : CString) (body : GfalSrmEasy → List CString → Srm (Int × ErrorList))
    (purpose : SrmPurpose := .other) : Srm (Ret Int) := do
  let answer ← (withEasyContext servers surl (fun easy => ExceptT.mk do
    let (ret, errors) ← body easy [easy.path]
    return match errors.head?.join with
      | some e => .error e
      | none => .ok ret) purpose).run
  return match answer with
    | .error e => ⟨-1, some e⟩
    | .ok ret => ⟨ret, none⟩

/-- `gfal_srmv2_bring_onlineG` but for the token. -/
def gfalSrmv2BringOnlineG (surl : CString) (token : CString) (tsize : Nat) (async : Bool) : Srm (Ret Int) :=
  singleWithContext servers surl fun easy surls => do
    let result ← gfalSrmv2BringOnlineInternal servers easy surls token tsize async
    return (result.ret, result.errors)

def gfalSrmv2BringOnlinePollG (surl token : CString) : Srm (Ret Int) :=
  singleWithContext servers surl fun easy surls => gfalSrmv2BringOnlinePollInternal servers easy surls token

/-- `gfal_srmv2_release_fileG`, which needs a token. -/
def gfalSrmv2ReleaseFileG (surl : CString) (token : Option CString) : Srm (Ret Int) :=
  match token with
  | none => return ⟨EINVAL, some ⟨gfal2GetCoreQuark, EINVAL,
      lit "[gfal_srmv2_release_fileG] Invalid value handle, surl or token"⟩⟩
  | some _ => singleWithContext servers surl (fun easy surls => gfalSrmv2ReleaseFileInternal servers easy surls token) .release

end Gfal2
