import Gfal2.Requests
import Gfal2.SrmContext
import Gfal2.StatBuffer
import Gfal2.LocalCopy
import Gfal2.Base.Throwing

/-! The services the SRM plugin talks to through srm-ifce, and what the rest of the library answers to it. Both are
known by the record of what was exchanged with them: an answer is any function of it. -/

namespace Gfal2

open Base

inductive TFileLocality where
  | online | nearline | onlineAndNearline | lost | none | unavailable | unknown
  deriving DecidableEq

/-- `struct srmv2_mdfilestatus`. A checksum counts only with its type. -/
structure MdFileStatus where
  surl : CString := []
  status : Int := 0
  explanation : CString := []
  stat : StatBuffer := {}
  locality : TFileLocality := .unknown
  checksum : Option (CString × CString) := none

/-- The entry of a directory with those of its files. -/
structure DirectoryListing where
  status : Int := 0
  explanation : CString := []
  subpaths : List MdFileStatus := []

/-- `struct srmv2_filestatus`. -/
structure SrmFileStatus where
  surl : CString := []
  status : Int := 0
  explanation : Option CString := none
  deriving DecidableEq

/-- `struct srmv2_pinfilestatus`. -/
structure PinFileStatus where
  surl : CString := []
  turl : Option CString := none
  status : Int := 0
  explanation : Option CString := none
  deriving DecidableEq

/-- The answer to a request that has a token. -/
structure PinAnswer where
  token : Option CString
  statuses : List PinFileStatus
  deriving DecidableEq

/-- What a context or a TURL is asked for. -/
inductive SrmPurpose where
  | access | checksum | putDone | abort | release | other | list | ping | storageType | directory
  deriving DecidableEq

/-- What is exchanged with the services and the rest of the library, and that a context is asked for. -/
inductive SrmExchange where
  | context (purpose : SrmPurpose) (surl : CString) (available : Bool)
  | xping
  | ls (path : CString)
  | listing (path : CString) (offset count : Int)
  | checkPermission (path : CString) (mode : Int)
  | setPermission (path : CString) (mode : Nat)
  | mkdir (path : CString)
  | rmdir (path : CString)
  | mv (source destination : CString)
  | rm (paths : List CString)
  | spaceProperty (name : CString)
  | prepareToGet (purpose : SrmPurpose) (path : CString) (protocols : List CString) (answer : Except GError PinAnswer)
  | prepareToPut (path : CString) (protocols : List CString) (size : Int) (answer : Except GError PinAnswer)
  | putDone (path : CString) (token : Option CString) (answer : Except GError (List SrmFileStatus))
  | releaseFiles (paths : List CString) (token : Option CString)
  | abortRequest (token : CString)
  | abortFiles (paths : List CString) (token : Option CString)
  | bringOnline (paths : List CString) (async : Bool)
  | bringOnlineStatus (paths : List CString) (token : CString)
  | stat (url : CString)
  | getxattr (url name : CString)
  | checksum (url type : CString)
  | copyFile (source destination : CString) (params : GfaltParams) (failed : Option GError)
  | unlink (url : CString)
  | openUrl (url : CString) (flag mode : Nat) (opened : Except GError GfalFileHandle)
  | closeHandle (handle : GfalFileHandle) (closed : Ret Int)

abbrev SrmHistory := List SrmExchange

/-- The answers, with the values of the configuration that are lists, the error for a value that is not there, and what
has to be added to a time in UTC. An error is what the plugin makes of `errno` and the text of srm-ifce; for `rm` it is there beside
the answer, which is not used where it is not as long as the request. -/
structure SrmServers where
  turlProtocols : List CString
  thirdPartyProtocols : List CString
  missingValue : GError
  timezoneOffset : Int
  context : CString → SrmHistory → ContextAnswers
  xping : SrmHistory → Except GError (List (CString × CString))
  ls : CString → SrmHistory → Except GError MdFileStatus
  listing : CString → Int → Int → SrmHistory → Except GError DirectoryListing
  checkPermission : CString → Int → SrmHistory → Except GError SrmFileStatus
  setPermission : CString → Nat → SrmHistory → Option GError
  mkdir : CString → SrmHistory → Option GError
  rmdir : CString → SrmHistory → Except GError Int
  mv : CString → CString → SrmHistory → Option GError
  rm : List CString → SrmHistory → GError × List SrmFileStatus
  spaceProperty : CString → SrmHistory → Ret Int
  prepareToGet : CString → List CString → SrmHistory → Except GError PinAnswer
  prepareToPut : CString → List CString → Int → SrmHistory → Except GError PinAnswer
  putDone : CString → Option CString → SrmHistory → Except GError (List SrmFileStatus)
  releaseFiles : List CString → Option CString → SrmHistory → Except GError (List SrmFileStatus)
  abortRequest : CString → SrmHistory → Option GError
  abortFiles : List CString → Option CString → SrmHistory → Except GError (List SrmFileStatus)
  bringOnline : List CString → Bool → SrmHistory → Except GError PinAnswer
  bringOnlineStatus : List CString → CString → SrmHistory → Except GError (List PinFileStatus)
  stat : CString → SrmHistory → Except GError Int
  getxattr : CString → CString → SrmHistory → Except GError CString
  checksum : CString → CString → SrmHistory → Except GError CString
  copyFile : CString → CString → GfaltParams → SrmHistory → Option GError
  unlink : CString → SrmHistory → Option GError
  openUrl : CString → Nat → Nat → SrmHistory → Except GError GfalFileHandle
  closeHandle : GfalFileHandle → SrmHistory → Ret Int

/-- `struct extended_stat`. -/
structure ExtendedStat where
  stat : StatBuffer
  locality : TFileLocality
  deriving DecidableEq

/-- An item of the cache and the number of times it is still given out. -/
structure CacheItem where
  refCount : Int
  item : ExtendedStat
  deriving DecidableEq

/-- The table of a `GSimpleCache`. -/
abbrev StatCache := AList (fun _ : CString => CacheItem)

/-- What the plugin keeps: its options and its cache. -/
structure SrmPlugin where
  opts : SrmOpts := {}
  cache : StatCache := ∅

abbrev SrmWorld := Services SrmPlugin SrmExchange

/-- The code of the plugin. -/
abbrev Srm (α : Type) : Type := Gfal SrmWorld α

/-- The part of it that ends where an error is set. -/
abbrev SrmThrowing (α : Type) : Type := Throwing (Gfal2Context SrmWorld) Fault GError α

/-- What a call without an answer comes to, by the error it reports. -/
def outcomeOf : Option GError → Except GError Unit
  | some e => .error e
  | none => .ok ()

/-- Change the options of the plugin. -/
def modifyOpts (f : SrmOpts → SrmOpts) : Srm Unit :=
  Exec.modify fun context =>
    { context with world := { context.world with plugin := { context.world.plugin with opts := f context.world.plugin.opts } } }

/-- The options of the plugin, with the configuration of its `handle`. -/
def Gfal2Context.srmOpts (context : Gfal2Context SrmWorld) : SrmOpts :=
  { context.world.plugin.opts with config := context.config }

variable (servers : SrmServers)

def srmEasyContext (surl : CString) (purpose : SrmPurpose := .other) : Srm (Ret (Option GfalSrmEasy)) := do
  let context ← Exec.get
  let (made, opts) := gfalSrmIfceEasyContext context.srmOpts (servers.context surl context.world.made) surl
  modifyOpts fun _ => opts
  makeRequest (.context purpose surl (made.val.any (·.srmContext.isSome))) fun _ => made

def srmEasyContextRelease : Srm Unit := modifyOpts gfalSrmIfceEasyContextRelease

/-- Run the body with a context, if there is one, and release it in any case. An error that is set before the body
runs stays. -/
def withEasyContext {α : Type} (surl : CString) (body : GfalSrmEasy → SrmThrowing α) (purpose : SrmPurpose := .other) :
    SrmThrowing α :=
  ExceptT.mk do
    let made ← srmEasyContext servers surl purpose
    let answer ← easyBody made body
    srmEasyContextRelease
    return answer
where
  easyBody (made : Ret (Option GfalSrmEasy)) (body : GfalSrmEasy → SrmThrowing α) : Srm (Except GError α) :=
    match made with
    | ⟨some easy, err⟩ => do
        let answer ← (body easy).run
        return answer.mapError fun e => err.getD e
    | ⟨none, err⟩ => return .error (err.getD servers.missingValue)

/-- A call of srm-ifce, which reads its context. -/
def GfalSrmEasy.call {α : Type} (easy : GfalSrmEasy) (answer : SrmHistory → α) (record : α → SrmExchange) : Srm α :=
  if easy.srmContext.isSome then exchange answer record else Exec.fault .nullDereference

/-- A call of srm-ifce that fails or has an answer. -/
def GfalSrmEasy.ask {α : Type} (easy : GfalSrmEasy) (request : SrmExchange) (answer : SrmHistory → Except GError α) :
    SrmThrowing α :=
  ExceptT.mk (easy.call answer fun _ => request)

/-- A call of srm-ifce that fails or has no answer but that it is done. -/
def GfalSrmEasy.tell (easy : GfalSrmEasy) (request : SrmExchange) (answer : SrmHistory → Option GError) : SrmThrowing Unit :=
  easy.ask request fun history => outcomeOf (answer history)

/-- A call of a part of the library that is no part of the plugin. -/
def askLibrary {α : Type} (request : SrmExchange) (answer : SrmHistory → Except GError α) : SrmThrowing α :=
  ExceptT.mk (makeRequest request answer)

end Gfal2
