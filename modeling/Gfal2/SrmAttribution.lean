import Gfal2.SrmRequests
import Gfal2.SrmFailures

/-! What the operations of the SRM plugin on lists of files tell of each file: its error is to be made of the entry for its
SURL in the answer of the service. -/

namespace Gfal2

open Base Exec Throwing

inductive SrmListOperation where
  | bringOnline (token : CString) (tsize : Nat) (async : Bool)
  | bringOnlinePoll (token : CString)
  | releaseFile (token : Option CString)
  | abortFiles (token : Option CString)
  | unlink

namespace SrmListOperation

section Code

variable (servers : SrmServers)

/-- What a context was asked for is a label of the record: the services do not see it. -/
structure IgnorePurposes (servers : SrmServers) : Prop where
  bringOnline : ∀ surls async history purpose purpose' surl,
    servers.bringOnline surls async (history ++ [.context purpose surl true]) =
      servers.bringOnline surls async (history ++ [.context purpose' surl true])
  bringOnlineStatus : ∀ surls token history purpose purpose' surl,
    servers.bringOnlineStatus surls token (history ++ [.context purpose surl true]) =
      servers.bringOnlineStatus surls token (history ++ [.context purpose' surl true])
  releaseFiles : ∀ surls token history purpose purpose' surl,
    servers.releaseFiles surls token (history ++ [.context purpose surl true]) =
      servers.releaseFiles surls token (history ++ [.context purpose' surl true])

/-- The operation on a list: its value and the errors of the files. -/
def run (surls : List CString) : SrmListOperation → Srm (Int × ErrorList)
  | .bringOnline token tsize async => do
      let result ← gfalSrmv2BringOnlineListG servers surls token tsize async
      return (result.ret, result.errors)
  | .bringOnlinePoll token => gfalSrmv2BringOnlinePollListG servers surls token
  | .releaseFile token => gfalSrmv2ReleaseFileListG servers surls token
  | .abortFiles token => gfalSrm2AbortFilesG servers surls token
  | .unlink => gfalSrmUnlinkListG servers surls

/-- The operation on one file, if there is one. -/
def single (surl : CString) : SrmListOperation → Option (Srm (Ret Int))
  | .bringOnline token tsize async => some (gfalSrmv2BringOnlineG servers surl token tsize async)
  | .bringOnlinePoll token => some (gfalSrmv2BringOnlinePollG servers surl token)
  | .releaseFile token => some (gfalSrmv2ReleaseFileG servers surl token)
  | .abortFiles _ => none
  | .unlink => some (gfalSrmUnlinkG servers surl)

/-- What is done with a context. -/
def request (easy : GfalSrmEasy) (surls : List CString) : SrmListOperation → Srm (Int × ErrorList)
  | .bringOnline token tsize async => do
      let result ← gfalSrmv2BringOnlineInternal servers easy surls token tsize async
      return (result.ret, result.errors)
  | .bringOnlinePoll token => gfalSrmv2BringOnlinePollInternal servers easy surls token
  | .releaseFile token => gfalSrmv2ReleaseFileInternal servers easy surls token
  | .abortFiles token => gfalSrmv2AbortFilesInternal servers easy surls token
  | .unlink => gfalSrmRmSrmv2Internal servers easy surls

/-- What the context is asked for. -/
def purpose : SrmListOperation → SrmPurpose
  | .unlink => .other
  | _ => .list

/-- The entry of a file without its TURL. -/
def entryOf (status : PinFileStatus) : SrmFileStatus := ⟨status.surl, status.status, status.explanation⟩

def answer (surls : List CString) (history : SrmHistory) : SrmListOperation → Except GError (List SrmFileStatus)
  | .bringOnline _ _ async => (servers.bringOnline surls async history).map fun answer => answer.statuses.map entryOf
  | .bringOnlinePoll token => (servers.bringOnlineStatus surls token history).map fun statuses => statuses.map entryOf
  | .releaseFile token => servers.releaseFiles surls token history
  | .abortFiles token => servers.abortFiles surls token history
  | .unlink =>
      let (reported, statuses) := servers.rm surls history
      if statuses = [] then .error reported else .ok statuses

end Code

/-! ### What is to be told of a file -/

/-- A directory that is no file to be removed is reported by either of two codes. -/
def sameRemoval (code : Int) : Int := if code = EISDIR then EINVAL else code

/-- What an entry says of its file. -/
def tells (entry : SrmFileStatus) : SrmListOperation → Option GError
  | .bringOnline .. =>
      if entry.status = 0 ∨ entry.status = EAGAIN then none
      else some (gfal2SetError srmQuark entry.status (lit "error on the bring online request: " ++ printed entry.explanation ++ [' ']))
  | .bringOnlinePoll _ =>
      if entry.status = 0 then none
      else if entry.status = EAGAIN then
        some (gfal2SetError srmQuark EAGAIN (lit "still queued: " ++ printed entry.explanation ++ [' ']))
      else some (gfal2SetError srmQuark entry.status (lit "error on the bring online request: " ++ printed entry.explanation ++ [' ']))
  | .releaseFile _ =>
      if entry.status = 0 then none
      else some (gfal2SetError srmQuark entry.status (lit "error on the release request : " ++ printed entry.explanation ++ [' ']))
  | .abortFiles _ =>
      if entry.status = 0 then none
      else some (gfal2SetError srmQuark entry.status (lit "error on the abort request : " ++ printed entry.explanation ++ [' ']))
  | .unlink =>
      if entry.status = 0 then none
      else some (gfal2SetError srmQuark (sameRemoval entry.status) (match entry.explanation with
        | some explanation => lit "error reported from srm_ifce, " ++ explanation
        | none => lit "error reported from srm_ifce, without explanation!"))

/-- An error up to the two codes of a directory. -/
def told (error : Option GError) : SrmListOperation → Option GError
  | .unlink => error.map fun e => { e with code := sameRemoval e.code }
  | _ => error

/-- The error of a file is made of an entry for its SURL, or is there since no entry is. -/
def Reported (operation : SrmListOperation) (entries : List SrmFileStatus) (surl : CString) (error : Option GError) : Prop :=
  (∃ entry ∈ entries, entry.surl = surl ∧ told error operation = tells entry operation) ∨
    (∀ entry ∈ entries, entry.surl ≠ surl) ∧ error.isSome = true

/-- The operation has failed for all files. -/
structure AllFailed (surls : List CString) (ret : Int) (errors : ErrorList) : Prop where
  negative : ret < 0
  length : errors.length = surls.length
  errors : ∀ error ∈ errors, error.isSome = true

end SrmListOperation

/-- The context there is for a SURL, or what stands for one that srm-ifce could not make. -/
def easyFor (servers : SrmServers) (context : Gfal2Context SrmWorld) (surl : CString) : Option GfalSrmEasy :=
  (gfalSrmIfceEasyContext context.srmOpts (servers.context surl context.world.made) surl).1.val

def easyError (servers : SrmServers) (context : Gfal2Context SrmWorld) (surl : CString) : Option GError :=
  (gfalSrmIfceEasyContext context.srmOpts (servers.context surl context.world.made) surl).1.err

namespace SrmListOperation

/-- What the service answers, if there is a context to ask it with. -/
def answered (servers : SrmServers) (surls : List CString) (context : Gfal2Context SrmWorld) (operation : SrmListOperation) :
    Option (Except GError (List SrmFileStatus)) :=
  match surls with
  | [] => none
  | surl :: _ =>
      if (easyFor servers context surl).any (·.srmContext.isSome) then
        some (operation.answer servers (surls.map gfal2SrmGetDecodedPath)
          (context.world.made ++ [.context operation.purpose surl true]))
      else none

/-- The operation comes to a value, the error of each file is made of its entry, all have one where there is no answer, and
the operation on one file comes to the same. -/
def Attributes (servers : SrmServers) (surls : List CString) (context : Gfal2Context SrmWorld) (operation : SrmListOperation) : Prop :=
  ∃ ret errors left, operation.run servers surls context = .ok ((ret, errors), left) ∧
    (match operation.answered servers surls context with
      | some (.ok entries) => List.Forall₂ (operation.Reported entries) (surls.map gfal2SrmGetDecodedPath) errors
      | _ => AllFailed surls ret errors) ∧
    ∀ surl single, surls = [surl] → operation.single servers surl = some single →
      ∃ left', single context = .ok (⟨ret, errors.head?.join⟩, left')

/-! ### When it is told right -/

/-- The first entry that the comparison of SURLs takes for the SURL, unless it reads a null pointer. -/
def firstMatch : List SrmFileStatus → CString → Option (Option SrmFileStatus)
  | [], _ => some none
  | entry :: rest, surl =>
      match gfal2SrmSurlCmp entry.surl surl with
      | none => none
      | some 0 => some (some entry)
      | some _ => firstMatch rest surl

/-- Where the status and the explanation of a file are taken from. Files to be brought online go by their SURLs, but for a
file that is queued the explanation is that at its place; the others go by their places, and the explanation of a release is the first. -/
def taken (entries : List SrmFileStatus) (index : Nat) (surl : CString) : SrmListOperation → Option (Option SrmFileStatus)
  | .bringOnline .. => firstMatch entries surl
  | .bringOnlinePoll _ => do
      match ← firstMatch entries surl with
      | some entry =>
          if entry.status = EAGAIN then
            let placed ← entries[index]?
            return some { entry with explanation := placed.explanation }
          else return some entry
      | none => return none
  | .releaseFile _ =>
      entries[index]?.map fun entry => some { entry with explanation := entries.head?.bind SrmFileStatus.explanation }
  | .abortFiles _ => entries[index]?.map some
  | .unlink => entries[index]?.map some

/-- What is taken for a file says the same as an entry for its SURL, if there is one, and is an error if there is none. -/
def Fits (operation : SrmListOperation) (entries : List SrmFileStatus) (index : Nat) (surl : CString) : Prop :=
  match operation.taken entries index surl with
  | none => False
  | some none => True
  | some (some found) =>
      (∃ entry ∈ entries, entry.surl = surl ∧ tells entry operation = tells found operation) ∨
        (∀ entry ∈ entries, entry.surl ≠ surl) ∧ (tells found operation).isSome = true

/-- What is taken for each file fits. An answer to a removal that is not as long as the request is not looked at, and what
srm-ifce reports stands for each file. -/
def FitsAll (servers : SrmServers) (surls : List CString) (history : SrmHistory) (entries : List SrmFileStatus) :
    SrmListOperation → Prop
  | .unlink =>
      if entries.length = surls.length then ∀ place ∈ surls.zipIdx, Fits .unlink entries place.2 place.1
      else ∀ surl ∈ surls, (∃ entry ∈ entries, entry.surl = surl ∧
          told (some (servers.rm surls history).1) .unlink = tells entry .unlink) ∨ ∀ entry ∈ entries, entry.surl ≠ surl
  | operation => ∀ place ∈ surls.zipIdx, operation.Fits entries place.2 place.1

/-- What is taken for the only file is no error: with one the operation on a file is negative, and that on a list is not. -/
def SingleFits (entries : List SrmFileStatus) (surl : CString) : SrmListOperation → Prop
  | .abortFiles _ => True
  | .unlink => True
  | operation => ∃ found, operation.taken entries 0 surl = some (some found) ∧ tells found operation = none

/-- The operation on one file needs a token to release it. -/
def HasToken : SrmListOperation → Prop
  | .releaseFile token => token.isSome = true
  | _ => True

/-- There is a SURL and a context, or at least no removal without one, and what is taken from an answer fits. -/
def Attributable (servers : SrmServers) (surls : List CString) (context : Gfal2Context SrmWorld) (operation : SrmListOperation) :
    Prop :=
  match surls with
  | [] => False
  | surl :: rest =>
      (rest = [] → operation.HasToken) ∧
      match easyFor servers context surl with
      | none => operation ≠ .unlink
      | some easy => easy.srmContext.isSome = true ∧
          match operation.answer servers (surls.map gfal2SrmGetDecodedPath) (context.world.made ++ [.context operation.purpose surl true]) with
          | .error _ => True
          | .ok entries =>
              operation.FitsAll servers (surls.map gfal2SrmGetDecodedPath)
                (context.world.made ++ [.context operation.purpose surl true]) entries ∧
              (rest = [] → operation.SingleFits entries (gfal2SrmGetDecodedPath surl))

end SrmListOperation

/-! ### Loops over the files -/

variable {errors : ErrorList} {surls : List CString}

section Loops

variable {α β : Type} {entries : List SrmFileStatus}

/-- The computation comes to a value without looking at the state, or faults. -/
def Comes (operation : Srm α) (good : α → Prop) (bad : Prop) : Prop :=
  (∃ value, operation = pure value ∧ good value) ∨ (∃ reason, operation = Exec.fault reason) ∧ bad

theorem fault_bind (reason : Fault) (next : α → Srm β) : (Exec.fault reason : Srm α) >>= next = Exec.fault reason := by
  funext context
  exact bind_of_error rfl

theorem Comes.bind {operation : Srm α} {good : α → Prop} {bad : Prop} {next : α → Srm β} {good' : β → Prop} {bad' : Prop}
    (h : Comes operation good bad) (hnext : ∀ value, good value → Comes (next value) good' bad') (hbad : bad → bad') :
    Comes (operation >>= next) good' bad' := by
  rcases h with ⟨value, rfl, hgood⟩ | ⟨⟨reason, rfl⟩, h⟩
  · rw [pure_bind]
    exact hnext value hgood
  · exact .inr ⟨⟨reason, fault_bind reason next⟩, hbad h⟩

namespace SrmListOperation

/-- The error of a file for which something is taken, or nothing found. -/
def errorOf (operation : SrmListOperation) (surl : CString) : Option SrmFileStatus → Option GError
  | some found => tells found operation
  | none => some (missingSurl surl)

/-- The error of a file is that of what is taken for it. -/
def Settles (operation : SrmListOperation) (entries : List SrmFileStatus) (place : CString × Nat) (error : Option GError) : Prop :=
  ∃ found, operation.taken entries place.2 place.1 = some found ∧ told error operation = operation.errorOf place.1 found

/-- There is nothing to be taken for a file. -/
def Stops (operation : SrmListOperation) (entries : List SrmFileStatus) (places : List (CString × Nat)) : Prop :=
  ∃ place ∈ places, operation.taken entries place.2 place.1 = none

end SrmListOperation

open SrmListOperation

theorem statusIndex_comes (statuses : List PinFileStatus) (surl : CString) :
    Comes (statusIndex statuses surl) (fun found => firstMatch (statuses.map entryOf) surl = some (found.map entryOf))
      (firstMatch (statuses.map entryOf) surl = none) := by
  induction statuses with
  | nil => exact .inl ⟨none, rfl, rfl⟩
  | cons status rest ih =>
      have hsurl : (entryOf status).surl = status.surl := rfl
      rcases hcmp : gfal2SrmSurlCmp status.surl surl with _ | cmp
      · refine .inr ⟨⟨.nullDereference, ?_⟩, ?_⟩
        · rw [statusIndex, hcmp]
        · rw [List.map_cons, firstMatch, hsurl, hcmp]
      · by_cases hzero : cmp = 0
        · subst hzero
          refine .inl ⟨some status, ?_, ?_⟩
          · rw [statusIndex, hcmp]
            rfl
          · rw [List.map_cons, firstMatch, hsurl, hcmp]
            rfl
        · have hindex : statusIndex (status :: rest) surl = statusIndex rest surl := by
            rw [statusIndex, hcmp]
            split
            · cases ‹some cmp = none›
            · exact absurd (Option.some.inj ‹some cmp = some 0›) hzero
            · rfl
          have hmatch : firstMatch ((status :: rest).map entryOf) surl = firstMatch (rest.map entryOf) surl := by
            rw [List.map_cons, firstMatch, hsurl, hcmp]
            split
            · cases ‹some cmp = none›
            · exact absurd (Option.some.inj ‹some cmp = some 0›) hzero
            · rfl
          rw [hindex, hmatch]
          exact ih

/-- The files of a loop are settled in turn. -/
def Counted (operation : SrmListOperation) (entries : List SrmFileStatus) (places : List (CString × Nat))
    (counts counts' : BringOnlineCounts) : Prop :=
  ∃ errors, counts'.errors = counts.errors ++ errors ∧ List.Forall₂ (operation.Settles entries) places errors

variable {surl : CString} {index : Nat}

/-- One more file. -/
theorem Comes.count {operation : SrmListOperation} {error : Option GError}
    {counts : BringOnlineCounts} {terminal : Bool} {loop : Srm BringOnlineCounts} (h : operation.Settles entries (surl, index) error)
    (hrest : Comes loop (Counted operation entries (surls.zipIdx (index + 1)) (counts.count terminal error))
      (operation.Stops entries (surls.zipIdx (index + 1)))) :
    Comes loop (Counted operation entries ((surl :: surls).zipIdx index) counts)
      (operation.Stops entries ((surl :: surls).zipIdx index)) := by
  rw [List.zipIdx_cons]
  rcases hrest with ⟨counts', heq, errors, hcounts, herrors⟩ | ⟨hfault, place, hmem, hnone⟩
  · refine .inl ⟨counts', heq, error :: errors, ?_, .cons h herrors⟩
    rw [hcounts, BringOnlineCounts.count, List.append_assoc]
    rfl
  · exact .inr ⟨hfault, place, List.mem_cons_of_mem _ hmem, hnone⟩

theorem bringOnlineLoop_comes (token : CString) (tsize : Nat) (async : Bool) (statuses : List PinFileStatus)
    (counts : BringOnlineCounts) (surls : List CString) (index : Nat) :
    Comes (bringOnlineLoop statuses counts surls)
      (Counted (bringOnline token tsize async) (statuses.map entryOf) (surls.zipIdx index) counts)
      ((bringOnline token tsize async).Stops (statuses.map entryOf) (surls.zipIdx index)) := by
  induction surls generalizing counts index with
  | nil => exact .inl ⟨counts, rfl, [], by simp, .nil⟩
  | cons surl surls ih =>
      refine (statusIndex_comes statuses surl).bind (fun found hfound => ?_) fun hnone => ?_
      · cases found with
        | none => exact Comes.count ⟨none, hfound, rfl⟩ (ih _ _)
        | some status =>
            have hsettles : ∀ {error}, tells (entryOf status) (bringOnline token tsize async) = error →
                (bringOnline token tsize async).Settles (statuses.map entryOf) (surl, index) error :=
              fun heq => ⟨some (entryOf status), hfound, heq.symm⟩
            dsimp only
            by_cases hzero : status.status = 0
            · rw [if_pos hzero]
              exact Comes.count (hsettles (if_pos (.inl hzero))) (ih _ _)
            · rw [if_neg hzero]
              by_cases hagain : status.status = EAGAIN
              · rw [if_pos hagain]
                exact Comes.count (hsettles (if_pos (.inr hagain))) (ih _ _)
              · rw [if_neg hagain]
                exact Comes.count (hsettles (if_neg (not_or.mpr ⟨hzero, hagain⟩))) (ih _ _)
      · exact ⟨(surl, index), by rw [List.zipIdx_cons]; exact List.mem_cons_self, hnone⟩

theorem bringOnlinePollLoop_comes (token : CString) (statuses : List PinFileStatus) (counts : BringOnlineCounts)
    (surls : List CString) :
    Comes (bringOnlinePollLoop statuses counts surls)
      (Counted (bringOnlinePoll token) (statuses.map entryOf) (surls.zipIdx counts.errors.length) counts)
      ((bringOnlinePoll token).Stops (statuses.map entryOf) (surls.zipIdx counts.errors.length)) := by
  induction surls generalizing counts with
  | nil => exact .inl ⟨counts, rfl, [], by simp, .nil⟩
  | cons surl surls ih =>
      have hnext : ∀ (terminal : Bool) (error : Option GError),
          (bringOnlinePoll token).Settles (statuses.map entryOf) (surl, counts.errors.length) error →
          Comes (bringOnlinePollLoop statuses (counts.count terminal error) surls)
            (Counted (bringOnlinePoll token) (statuses.map entryOf) ((surl :: surls).zipIdx counts.errors.length) counts)
            ((bringOnlinePoll token).Stops (statuses.map entryOf) ((surl :: surls).zipIdx counts.errors.length)) := by
        intro terminal error hsettles
        have hlength : (counts.count terminal error).errors.length = counts.errors.length + 1 := by
          simp [BringOnlineCounts.count]
        exact Comes.count hsettles (hlength ▸ ih (counts.count terminal error))
      have hhere : (bringOnlinePoll token).taken (statuses.map entryOf) counts.errors.length surl = none →
          (bringOnlinePoll token).Stops (statuses.map entryOf) ((surl :: surls).zipIdx counts.errors.length) :=
        fun hnone => ⟨(surl, counts.errors.length), by rw [List.zipIdx_cons]; exact List.mem_cons_self, hnone⟩
      refine (statusIndex_comes statuses surl).bind (fun found hfound => ?_) fun hnone => hhere (by rw [SrmListOperation.taken, hnone]; rfl)
      cases found with
      | none => exact hnext true _ ⟨none, by rw [SrmListOperation.taken, hfound]; rfl, rfl⟩
      | some status =>
          have hstatus : (entryOf status).status = status.status := rfl
          have htaken : (bringOnlinePoll token).taken (statuses.map entryOf) counts.errors.length surl =
              if status.status = EAGAIN then
                (statuses[counts.errors.length]?).map fun placed => some { entryOf status with explanation := placed.explanation }
              else some (some (entryOf status)) := by
            rw [SrmListOperation.taken, hfound]
            change (if status.status = EAGAIN then _ else _) = _
            refine if_congr Iff.rfl ?_ rfl
            rw [List.getElem?_map]
            cases statuses[counts.errors.length]? with
            | none => rfl
            | some placed => rfl
          dsimp only
          by_cases hzero : status.status = 0
          · rw [if_pos hzero]
            have hagain : status.status ≠ EAGAIN := by
              rw [hzero]
              decide
            exact hnext true none ⟨some (entryOf status), by rw [htaken, if_neg hagain], (if_pos hzero).symm⟩
          · rw [if_neg hzero]
            by_cases hagain : status.status = EAGAIN
            · rw [if_pos hagain]
              rw [if_pos hagain] at htaken
              cases hplaced : statuses[counts.errors.length]? with
              | none =>
                  rw [hplaced] at htaken
                  exact .inr ⟨⟨.arrayBounds, rfl⟩, hhere htaken⟩
              | some placed =>
                  rw [hplaced] at htaken
                  exact hnext false _ ⟨_, htaken, ((if_neg hzero).trans (if_pos hagain)).symm⟩
            · rw [if_neg hagain]
              exact hnext true _ ⟨some (entryOf status), by rw [htaken, if_neg hagain], ((if_neg hzero).trans (if_neg hagain)).symm⟩

/-- The errors by the places of the answer, of which the part before the first of these files is dropped. -/
theorem placedErrors_comes (operation : SrmListOperation) {error : SrmFileStatus → GError}
    (composed : SrmFileStatus → SrmFileStatus)
    (htaken : ∀ index surl, operation.taken entries index surl = (entries[index]?).map fun entry => some (composed entry))
    (htold : ∀ status, told (if status.status = 0 then none else some (error status)) operation = tells (composed status) operation)
    (surls : List CString) (index : Nat) :
    Comes (placedErrors error surls (entries.drop index)) (List.Forall₂ (operation.Settles entries) (surls.zipIdx index))
      (operation.Stops entries (surls.zipIdx index)) := by
  induction surls generalizing index with
  | nil =>
      refine .inl ⟨[], ?_, .nil⟩
      unfold placedErrors
      rfl
  | cons surl surls ih =>
      rw [List.zipIdx_cons]
      cases hplace : entries[index]? with
      | none =>
          have hdrop : entries.drop index = [] := List.drop_eq_nil_of_le (List.getElem?_eq_none_iff.mp hplace)
          refine .inr ⟨⟨.arrayBounds, by rw [hdrop]; rfl⟩, (surl, index), List.mem_cons_self, ?_⟩
          rw [htaken, hplace]
          rfl
      | some status =>
          obtain ⟨hlt, hget⟩ := List.getElem?_eq_some_iff.mp hplace
          rw [List.drop_eq_getElem_cons hlt, hget]
          rcases ih (index + 1) with ⟨errors, heq, herrors⟩ | ⟨⟨reason, hfault⟩, place, hmem, hnone⟩
          · refine .inl ⟨(if status.status = 0 then none else some (error status)) :: errors, ?_, .cons ?_ herrors⟩
            · rw [placedErrors, heq, pure_bind]
            · exact ⟨some (composed status), by rw [htaken, hplace]; rfl, htold status⟩
          · refine .inr ⟨⟨reason, ?_⟩, place, List.mem_cons_of_mem _ hmem, hnone⟩
            rw [placedErrors, hfault, fault_bind]

/-- The code of a file that could not be removed is the one of its entry, or that of a directory. -/
theorem rmCode_returns (servers : SrmServers) {easy : GfalSrmEasy} (hsome : easy.srmContext.isSome = true) (surl : CString)
    (status : SrmFileStatus) (context : Gfal2Context SrmWorld) : ∃ code left,
      rmErrors.rmCode servers easy surl status context = .ok (code, left) ∧ sameRemoval code = sameRemoval status.status := by
  unfold rmErrors.rmCode
  by_cases hinval : status.status = EINVAL
  · have hask : ∃ directory left, gfalSrmRmSrmv2Isdir servers easy surl context = .ok (directory, left) := by
      unfold gfalSrmRmSrmv2Isdir GfalSrmEasy.call
      rw [if_pos hsome]
      refine completes_bind_iff.mpr ⟨_, _, rfl, ?_⟩
      cases servers.ls surl context.world.made with
      | error e => exact completes_pure _ _
      | ok entry => exact completes_pure _ _
    obtain ⟨directory, left, hdirectory⟩ := hask
    rw [if_pos hinval]
    cases directory with
    | true => exact ⟨EISDIR, left, bind_of_ok hdirectory, by rw [hinval]; rfl⟩
    | false => exact ⟨status.status, left, bind_of_ok hdirectory, rfl⟩
  · rw [if_neg hinval]
    exact ⟨status.status, context, rfl, rfl⟩

/-- The errors of a removal that is answered for each file. -/
theorem rmErrors_returns (servers : SrmServers) {easy : GfalSrmEasy} (hsome : easy.srmContext.isSome = true)
    (surls : List CString) (index : Nat) (hlength : (entries.drop index).length = surls.length) (context : Gfal2Context SrmWorld) :
    ∃ errors left, rmErrors servers easy surls (entries.drop index) context = .ok (errors, left) ∧
      List.Forall₂ (unlink.Settles entries) (surls.zipIdx index) errors := by
  induction surls generalizing index context with
  | nil =>
      refine ⟨[], context, ?_, .nil⟩
      unfold rmErrors
      rfl
  | cons surl surls ih =>
      have hlt : index < entries.length := by
        rw [List.length_drop, List.length_cons] at hlength
        omega
      rw [List.drop_eq_getElem_cons hlt] at hlength ⊢
      have htaken : unlink.taken entries index surl = some (some entries[index]) := by
        rw [SrmListOperation.taken, List.getElem?_eq_getElem hlt]
        rfl
      have hrest : ∀ error context, told error unlink = tells entries[index] unlink → ∃ errors left,
          (do
            let rest ← rmErrors servers easy surls (entries.drop (index + 1))
            return error :: rest : Srm ErrorList) context = .ok (errors, left) ∧
            List.Forall₂ (unlink.Settles entries) ((surl :: surls).zipIdx index) errors := by
        intro error context htold
        obtain ⟨errors, left, heq, herrors⟩ := ih (index + 1) (Nat.succ.inj hlength) context
        refine ⟨error :: errors, left, bind_of_ok heq, ?_⟩
        rw [List.zipIdx_cons]
        exact .cons ⟨_, htaken, htold⟩ herrors
      unfold rmErrors
      dsimp only
      by_cases hzero : entries[index].status = 0
      · rw [if_pos hzero, pure_bind]
        exact hrest none context (if_pos hzero).symm
      · rw [if_neg hzero]
        obtain ⟨code, left, hcode, hsame⟩ := rmCode_returns servers hsome surl entries[index] context
        rw [bind_of_ok hcode, pure_bind]
        refine hrest _ left ?_
        rw [tells, if_neg hzero, ← hsame]
        rfl

/-! ### What is settled is told right where it fits -/

/-- A SURL is never told apart from itself. -/
theorem gfal2SrmSurlCmp_self {cmp : Int} (h : gfal2SrmSurlCmp surl surl = some cmp) : cmp = 0 := by
  have hself : ∀ {text : Option CString} {cmp}, strcmpPtr text text = some cmp → cmp = 0 := by
    intro text cmp h
    cases text with
    | none => cases h
    | some text => exact (Option.some.inj h).symm.trans (strcmp_self text)
  unfold gfal2SrmSurlCmp at h
  cases hparse : gfal2ParseUri surl with
  | mk val err =>
      rw [hparse] at h
      cases val with
      | none => exact (Option.some.inj h).symm.trans (strcmp_self surl)
      | some parsed =>
          cases err with
          | some e => exact (Option.some.inj h).symm.trans (strcmp_self surl)
          | none =>
              obtain ⟨hosts, hhosts, h⟩ := Option.bind_eq_some_iff.mp h
              rw [if_neg (not_or.mpr ⟨not_not.mpr (hself hhosts), not_not.mpr rfl⟩)] at h
              exact hself h

theorem ne_of_firstMatch (h : firstMatch entries surl = some none) : ∀ entry ∈ entries, entry.surl ≠ surl := by
  induction entries with
  | nil => simp
  | cons entry rest ih =>
      rw [firstMatch] at h
      intro found hmem heq
      split at h
      · cases h
      · cases h
      · rename_i cmp hne hcmp
        rcases List.mem_cons.mp hmem with rfl | hmem
        · rw [heq] at hcmp
          exact hne (by rw [gfal2SrmSurlCmp_self hcmp])
        · exact ih h found hmem heq

namespace SrmListOperation

variable {operation : SrmListOperation}

theorem told_isSome (error : Option GError) (operation : SrmListOperation) : (told error operation).isSome = error.isSome := by
  cases operation with
  | unlink => exact Option.isSome_map
  | _ => rfl

theorem ne_of_taken (h : operation.taken entries index surl = some none) : ∀ entry ∈ entries, entry.surl ≠ surl := by
  cases operation with
  | bringOnline token tsize async => exact ne_of_firstMatch h
  | bringOnlinePoll token =>
      cases hmatch : firstMatch entries surl with
      | none =>
          rw [SrmListOperation.taken, hmatch] at h
          cases h
      | some found =>
          cases found with
          | none => exact ne_of_firstMatch hmatch
          | some entry =>
              rw [SrmListOperation.taken, hmatch] at h
              change (if entry.status = EAGAIN then _ else _) = _ at h
              split at h
              · cases hplace : entries[index]? with
                | none =>
                    rw [hplace] at h
                    cases h
                | some placed =>
                    rw [hplace] at h
                    cases h
              · cases h
  | releaseFile token =>
      rw [SrmListOperation.taken] at h
      obtain ⟨entry, -, heq⟩ := Option.map_eq_some_iff.mp h
      cases heq
  | abortFiles token =>
      rw [SrmListOperation.taken] at h
      obtain ⟨entry, -, heq⟩ := Option.map_eq_some_iff.mp h
      cases heq
  | unlink =>
      rw [SrmListOperation.taken] at h
      obtain ⟨entry, -, heq⟩ := Option.map_eq_some_iff.mp h
      cases heq

/-- The error of a file is told right just when what is taken for it fits. -/
theorem reported_iff_fits {error : Option GError} (h : operation.Settles entries (surl, index) error) :
    operation.Reported entries surl error ↔ operation.Fits entries index surl := by
  obtain ⟨found, htaken, htold⟩ := h
  rw [Reported, Fits, htaken]
  cases found with
  | none =>
      refine iff_of_true (.inr ⟨ne_of_taken htaken, ?_⟩) trivial
      rw [← told_isSome error operation, htold]
      rfl
  | some found =>
      have hsome : error.isSome = (tells found operation).isSome := by
        rw [← told_isSome error operation, htold]
        rfl
      change (∃ entry ∈ entries, entry.surl = surl ∧ told error operation = tells entry operation) ∨ _ ↔ _
      rw [htold, hsome]
      simp only [errorOf, eq_comm]

theorem forall₂_reported_iff (h : List.Forall₂ (operation.Settles entries) (surls.zipIdx index) errors) :
    List.Forall₂ (operation.Reported entries) surls errors ↔
      ∀ place ∈ surls.zipIdx index, operation.Fits entries place.2 place.1 := by
  induction surls generalizing index errors with
  | nil =>
      cases h
      simp
  | cons surl surls ih =>
      rw [List.zipIdx_cons] at h ⊢
      cases h with
      | cons hfirst hrest => rw [List.forall₂_cons, ih hrest, reported_iff_fits hfirst, List.forall_mem_cons]

end SrmListOperation

end Loops

/-! ### What a request comes to -/

section Requests

variable {α β : Type} {servers : SrmServers} {easy : GfalSrmEasy} {context : Gfal2Context SrmWorld} {operation : SrmListOperation}

/-- The operation comes to the value. -/
def Yields (operation : Srm α) (context : Gfal2Context SrmWorld) (value : α) : Prop :=
  ∃ left, operation context = .ok (value, left)

theorem Yields.unique {operation : Srm α} {value value' : α} (h : Yields operation context value) (h' : Yields operation context value') :
    value = value' := by
  obtain ⟨left, h⟩ := h
  obtain ⟨left', h'⟩ := h'
  cases h.symm.trans h'
  rfl

theorem yields_bind_iff {first : Srm α} {next : α → Srm β} {value : β} : Yields (first >>= next) context value ↔
    ∃ found left, first context = .ok (found, left) ∧ Yields (next found) left value := by
  constructor
  · intro ⟨left', h⟩
    obtain ⟨found, left, hfirst, hnext⟩ := bind_eq_ok.mp h
    exact ⟨found, left, hfirst, left', hnext⟩
  · intro ⟨found, left, hfirst, left', hnext⟩
    exact ⟨left', bind_eq_ok.mpr ⟨found, left, hfirst, hnext⟩⟩

theorem yields_bind_of_ok {first : Srm α} {next : α → Srm β} {value : β} {found : α} {left : Gfal2Context SrmWorld}
    (h : first context = .ok (found, left)) : Yields (first >>= next) context value ↔ Yields (next found) left value := by
  rw [Yields, bind_of_ok h]
  rfl

theorem Yields.map {operation : Srm α} {value : α} (h : Yields operation context value) (f : α → β) :
    Yields (do let found ← operation; return f found) context (f value) := by
  obtain ⟨left, h⟩ := h
  exact ⟨left, bind_of_ok h⟩

theorem Comes.yields {operation : Srm α} {good : α → Prop} {bad : Prop} (h : Comes operation good bad) (context : Gfal2Context SrmWorld) :
    (∃ value, Yields operation context value ∧ good value) ∨ (∀ value, ¬Yields operation context value) ∧ bad := by
  rcases h with ⟨value, rfl, hgood⟩ | ⟨⟨reason, rfl⟩, hbad⟩
  · exact .inl ⟨value, ⟨context, rfl⟩, hgood⟩
  · refine .inr ⟨fun value => ?_, hbad⟩
    rintro ⟨left, h⟩
    cases h

/-- What does not look at the state comes to the same anywhere. -/
theorem Comes.yields_iff {operation : Srm α} (h : Comes operation (fun _ => True) True)
    (context context' : Gfal2Context SrmWorld) (value : α) : Yields operation context value ↔ Yields operation context' value := by
  rcases h with ⟨found, rfl, -⟩ | ⟨⟨reason, rfl⟩, -⟩
  · exact ⟨fun ⟨left, h⟩ => (by cases h; exact ⟨context', rfl⟩), fun ⟨left, h⟩ => (by cases h; exact ⟨context, rfl⟩)⟩
  · exact ⟨fun ⟨left, h⟩ => (by cases h), fun ⟨left, h⟩ => (by cases h)⟩

theorem call_run (context : Gfal2Context SrmWorld) (hsome : easy.srmContext.isSome = true) (answer : SrmHistory → α)
    (record : α → SrmExchange) :
    ∃ left, easy.call answer record context = .ok (answer context.world.made, left) := by
  unfold GfalSrmEasy.call
  rw [if_pos hsome]
  exact ⟨_, rfl⟩

namespace SrmListOperation

/-- Without an answer the operation has failed for all files. -/
theorem request_fails (hsome : easy.srmContext.isSome = true) (hsurls : surls ≠ []) {e : GError}
    (hanswer : operation.answer servers surls context.world.made = .error e) :
    Yields (operation.request servers easy surls) context (-1, surls.map fun _ => some e) := by
  cases operation with
  | bringOnline token tsize async =>
      obtain ⟨left, hcall⟩ := call_run context hsome (servers.bringOnline surls async) fun _ => .bringOnline surls async
      cases hfound : servers.bringOnline surls async context.world.made with
      | ok found =>
          rw [answer, hfound] at hanswer
          cases hanswer
      | error e' =>
          rw [answer, hfound] at hanswer
          cases hanswer
          rw [hfound] at hcall
          have hinternal : gfalSrmv2BringOnlineInternal servers easy surls token tsize async context =
              .ok (⟨-1, token, surls.map fun _ => some e⟩, left) := bind_of_ok hcall
          refine ⟨left, ?_⟩
          rw [request]
          exact bind_of_ok hinternal
  | bringOnlinePoll token =>
      obtain ⟨left, hcall⟩ := call_run context hsome (servers.bringOnlineStatus surls token) fun _ =>
        .bringOnlineStatus surls token
      cases hfound : servers.bringOnlineStatus surls token context.world.made with
      | ok found =>
          rw [answer, hfound] at hanswer
          cases hanswer
      | error e' =>
          rw [answer, hfound] at hanswer
          cases hanswer
          rw [hfound] at hcall
          exact ⟨left, (bind_of_ok hcall).trans rfl⟩
  | releaseFile token =>
      obtain ⟨left, hcall⟩ := call_run context hsome (servers.releaseFiles surls token) fun _ => .releaseFiles surls token
      rw [answer] at hanswer
      rw [hanswer] at hcall
      exact ⟨left, (bind_of_ok hcall).trans rfl⟩
  | abortFiles token =>
      obtain ⟨left, hcall⟩ := call_run context hsome (servers.abortFiles surls token) fun _ => .abortFiles surls token
      rw [answer] at hanswer
      rw [hanswer] at hcall
      exact ⟨left, (bind_of_ok hcall).trans rfl⟩
  | unlink =>
      obtain ⟨left, hcall⟩ := call_run context hsome (servers.rm surls) fun _ => .rm surls
      cases hfound : servers.rm surls context.world.made with
      | mk reported statuses =>
          rw [answer, hfound] at hanswer
          rw [hfound] at hcall
          refine ⟨left, (bind_of_ok hcall).trans ?_⟩
          dsimp only at hanswer ⊢
          split at hanswer
          · subst ‹statuses = []›
            cases hanswer
            have hlength : ([] : List SrmFileStatus).length ≠ surls.length := by
              intro h
              exact hsurls (List.length_eq_zero_iff.mp h.symm)
            rw [if_neg hlength]
            rfl
          · cases hanswer

/-- What an answer to any request but a removal comes to. -/
theorem request_settles (hsome : easy.srmContext.isSome = true) (hunlink : operation ≠ unlink) (surls : List CString)
    {entries : List SrmFileStatus} (hanswer : operation.answer servers surls context.world.made = .ok entries) :
    (∃ value : Int × ErrorList, Yields (operation.request servers easy surls) context value ∧
        List.Forall₂ (operation.Settles entries) surls.zipIdx value.2 ∧ ((∀ token, operation ≠ abortFiles token) → 0 ≤ value.1 ∧ value.1 ≤ 1)) ∨
      (∀ value, ¬Yields (operation.request servers easy surls) context value) ∧ operation.Stops entries surls.zipIdx := by
  cases operation with
  | unlink => exact absurd rfl hunlink
  | bringOnline token tsize async =>
      obtain ⟨left, hcall⟩ := call_run context hsome (servers.bringOnline surls async) fun _ => .bringOnline surls async
      cases hfound : servers.bringOnline surls async context.world.made with
      | error e =>
          rw [answer, hfound] at hanswer
          cases hanswer
      | ok found =>
          rw [answer, hfound] at hanswer
          cases hanswer
          rw [hfound] at hcall
          have hyields : ∀ value, Yields (request servers easy surls (bringOnline token tsize async)) context value ↔
              Yields (do
                let counts ← bringOnlineLoop found.statuses {} surls
                return ((if counts.nterminal = surls.length then 1 else 0 : Int), counts.errors)) left value := by
            intro value
            rw [request, gfalSrmv2BringOnlineInternal, bind_assoc, yields_bind_of_ok hcall]
            simp only [bind_assoc, pure_bind]
          simp only [hyields]
          refine Comes.yields ?_ left
          refine (bringOnlineLoop_comes token tsize async found.statuses {} surls 0).bind (fun counts hcounts => ?_) fun h => h
          obtain ⟨errors, herrors, hsettles⟩ := hcounts
          refine .inl ⟨_, rfl, by rw [herrors]; exact hsettles, fun _ => ?_⟩
          dsimp only
          split <;> decide
  | bringOnlinePoll token =>
      obtain ⟨left, hcall⟩ := call_run context hsome (servers.bringOnlineStatus surls token) fun _ =>
        .bringOnlineStatus surls token
      cases hfound : servers.bringOnlineStatus surls token context.world.made with
      | error e =>
          rw [answer, hfound] at hanswer
          cases hanswer
      | ok found =>
          rw [answer, hfound] at hanswer
          cases hanswer
          rw [hfound] at hcall
          have hyields : ∀ value, Yields (request servers easy surls (bringOnlinePoll token)) context value ↔
              Yields (do
                let counts ← bringOnlinePollLoop found {} surls
                return ((if counts.nterminal = surls.length then 1 else 0 : Int), counts.errors)) left value := by
            intro value
            rw [request, gfalSrmv2BringOnlinePollInternal, yields_bind_of_ok hcall]
          simp only [hyields]
          refine Comes.yields ?_ left
          refine (bringOnlinePollLoop_comes token found {} surls).bind (fun counts hcounts => ?_) fun h => h
          obtain ⟨errors, herrors, hsettles⟩ := hcounts
          refine .inl ⟨_, rfl, by rw [herrors]; exact hsettles, fun _ => ?_⟩
          dsimp only
          split <;> decide
  | releaseFile token =>
      obtain ⟨left, hcall⟩ := call_run context hsome (servers.releaseFiles surls token) fun _ => .releaseFiles surls token
      rw [answer] at hanswer
      rw [hanswer] at hcall
      have hyields : ∀ value, Yields (request servers easy surls (releaseFile token)) context value ↔ Yields (do
          let errors ← placedErrors (fun status => gfal2SetError srmQuark status.status
            (lit "error on the release request : " ++ printed (entries.head?.bind SrmFileStatus.explanation) ++ [' '])) surls entries
          return ((0 : Int), errors)) left value := by
        intro value
        rw [request, gfalSrmv2ReleaseFileInternal, yields_bind_of_ok hcall]
      simp only [hyields]
      refine Comes.yields ?_ left
      refine (placedErrors_comes (releaseFile token) (fun entry => { entry with explanation := entries.head?.bind SrmFileStatus.explanation })
        (fun _ _ => rfl) (fun _ => rfl) surls 0).bind (fun errors herrors => ?_) fun h => h
      exact .inl ⟨_, rfl, herrors, fun _ => ⟨le_refl _, zero_le_one⟩⟩
  | abortFiles token =>
      obtain ⟨left, hcall⟩ := call_run context hsome (servers.abortFiles surls token) fun _ => .abortFiles surls token
      rw [answer] at hanswer
      rw [hanswer] at hcall
      have hyields : ∀ value, Yields (request servers easy surls (abortFiles token)) context value ↔ Yields (do
          let errors ← placedErrors (fun status => gfal2SetError srmQuark status.status
            (lit "error on the abort request : " ++ printed status.explanation ++ [' '])) surls entries
          return ((-(errors.countP Option.isSome : Nat) : Int), errors)) left value := by
        intro value
        rw [request, gfalSrmv2AbortFilesInternal, yields_bind_of_ok hcall]
      simp only [hyields]
      refine Comes.yields ?_ left
      refine (placedErrors_comes (abortFiles token) id (fun _ _ => rfl) (fun _ => rfl) surls 0).bind (fun errors herrors => ?_)
        fun h => h
      exact .inl ⟨_, rfl, herrors, fun hne => absurd rfl (hne token)⟩

/-- What an answer to a removal comes to. -/
theorem request_unlink (hsome : easy.srmContext.isSome = true) (surls : List CString) {reported : GError}
    {entries : List SrmFileStatus} (hanswer : servers.rm surls context.world.made = (reported, entries)) :
    ∃ value : Int × ErrorList, Yields (unlink.request servers easy surls) context value ∧
      if entries.length = surls.length then List.Forall₂ (unlink.Settles entries) surls.zipIdx value.2
      else value = (-1, surls.map fun _ => some reported) := by
  obtain ⟨left, hcall⟩ := call_run context hsome (servers.rm surls) fun _ => .rm surls
  rw [hanswer] at hcall
  by_cases hlength : entries.length = surls.length
  · obtain ⟨errors, left', herrors, hsettles⟩ := rmErrors_returns servers hsome surls 0 hlength left
    refine ⟨(-(errors.countP Option.isSome : Nat), errors), ⟨left', (bind_of_ok hcall).trans ?_⟩, by rw [if_pos hlength]; exact hsettles⟩
    dsimp only
    rw [if_pos hlength]
    exact bind_of_ok herrors
  · refine ⟨(-1, surls.map fun _ => some reported), ⟨left, (bind_of_ok hcall).trans ?_⟩, by rw [if_neg hlength]⟩
    dsimp only
    rw [if_neg hlength]
    rfl

end SrmListOperation

end Requests

/-! ### Operations with and without a context -/

section Contexts

variable {α : Type} {servers : SrmServers} {context : Gfal2Context SrmWorld} {surl : CString} {rest : List CString}
  {operation : SrmListOperation}

/-- A request for a context comes to what there is for the SURL. -/
theorem srmEasyContext_run (servers : SrmServers) (context : Gfal2Context SrmWorld) (surl : CString) (purpose : SrmPurpose) :
    ∃ made entered, srmEasyContext servers surl purpose context = .ok (made, entered) ∧ made.val = easyFor servers context surl ∧
      made.err = easyError servers context surl ∧ (made.val = none → made.err.isSome = true) ∧ (made.val.any (·.srmContext.isSome) = true → made.err = none) ∧
      entered.world.made = context.world.made ++ [.context purpose surl (made.val.any (·.srmContext.isSome))] := by
  have hanswer : ∀ opts answers, ((gfalSrmIfceEasyContext opts answers surl).1.val = none →
      (gfalSrmIfceEasyContext opts answers surl).1.err.isSome = true) ∧
      ((gfalSrmIfceEasyContext opts answers surl).1.val.any (·.srmContext.isSome) = true →
        (gfalSrmIfceEasyContext opts answers surl).1.err = none) := by
    intro opts answers
    unfold gfalSrmIfceEasyContext
    cases gfalSrmDetermineEndpoint opts answers surl with
    | error e => simp
    | ok endpoint =>
        dsimp only
        split
        · simp
        · split <;> simp
        · simp
        · simp
  obtain ⟨hnone, hsome⟩ := hanswer context.srmOpts (servers.context surl context.world.made)
  exact ⟨_, _, rfl, rfl, rfl, hnone, hsome, rfl⟩

theorem listWithContext_none {failed : Option GError → α} {body : GfalSrmEasy → List CString → Srm α}
    (heasy : easyFor servers context surl = none) :
    ∃ e, easyError servers context surl = some e ∧
      Yields (listWithContext servers (surl :: rest) failed body) context (failed (some e)) := by
  obtain ⟨⟨val, err⟩, entered, hmade, hval, herr, hnone, -, -⟩ := srmEasyContext_run servers context surl .list
  obtain rfl : val = none := hval.trans heasy
  obtain ⟨e, rfl⟩ := Option.isSome_iff_exists.mp (hnone rfl)
  exact ⟨e, herr.symm, entered, bind_of_ok hmade⟩

theorem listWithContext_some {failed : Option GError → α} {body : GfalSrmEasy → List CString → Srm α} {easy : GfalSrmEasy}
    (heasy : easyFor servers context surl = some easy) :
    ∃ entered, entered.world.made = context.world.made ++ [.context .list surl easy.srmContext.isSome] ∧
      ∀ value, Yields (listWithContext servers (surl :: rest) failed body) context value ↔
        Yields (body easy ((surl :: rest).map gfal2SrmGetDecodedPath)) entered value := by
  obtain ⟨⟨val, err⟩, entered, hmade, hval, -, -, -, hrecord⟩ := srmEasyContext_run servers context surl .list
  obtain rfl : val = some easy := hval.trans heasy
  refine ⟨entered, hrecord, fun value => ?_⟩
  rw [listWithContext, yields_bind_of_ok hmade]
  constructor
  · intro h
    obtain ⟨found, left, hfound, h⟩ := yields_bind_iff.mp h
    obtain ⟨left', h⟩ := h
    cases h
    exact ⟨left, hfound⟩
  · intro ⟨left, hfound⟩
    exact yields_bind_iff.mpr ⟨value, left, hfound, _, rfl⟩

namespace SrmListOperation

/-- Without a context an operation on a list has failed for all its files. -/
theorem run_none (rest : List CString) (hunlink : operation ≠ unlink) (heasy : easyFor servers context surl = none) :
    ∃ e, easyError servers context surl = some e ∧
      Yields (operation.run servers (surl :: rest)) context (-1, (surl :: rest).map fun _ => some e) := by
  cases operation with
  | bringOnline token tsize async =>
      have hlist : ∃ e, easyError servers context surl = some e ∧ Yields (gfalSrmv2BringOnlineListG servers (surl :: rest) token tsize async) context
          ⟨-1, token, (surl :: rest).map fun _ => some e⟩ := listWithContext_none heasy
      obtain ⟨e, herror, left, h⟩ := hlist
      exact ⟨e, herror, left, bind_of_ok h⟩
  | bringOnlinePoll token =>
      have hlist : ∃ e, easyError servers context surl = some e ∧ Yields (gfalSrmv2BringOnlinePollListG servers (surl :: rest) token) context
          (-1, (surl :: rest).map fun _ => some e) := listWithContext_none heasy
      exact hlist
  | releaseFile token =>
      have hlist : ∃ e, easyError servers context surl = some e ∧ Yields (gfalSrmv2ReleaseFileListG servers (surl :: rest) token) context
          (-1, (surl :: rest).map fun _ => some e) := listWithContext_none heasy
      exact hlist
  | abortFiles token =>
      have hlist : ∃ e, easyError servers context surl = some e ∧ Yields (gfalSrm2AbortFilesG servers (surl :: rest) token) context
          (-1, (surl :: rest).map fun _ => some e) := listWithContext_none heasy
      exact hlist
  | unlink => exact absurd rfl hunlink

/-- A removal without a context has no errors to tell so. -/
theorem run_unlink_none (heasy : easyFor servers context surl = none) :
    Yields (unlink.run servers (surl :: rest)) context (-1, (surl :: rest).map fun _ => none) := by
  obtain ⟨made, entered, hmade, hval, -, -, -, -⟩ := srmEasyContext_run servers context surl .other
  have hrun : gfalSrmUnlinkListG.remove servers (surl :: rest) made.val entered =
      .ok ((-1, (surl :: rest).map fun _ => none), entered) := by
    rw [hval.trans heasy]
    rfl
  exact ⟨_, (bind_of_ok hmade).trans (bind_of_ok hrun)⟩

theorem forget_run (surls : List CString) (context : Gfal2Context SrmWorld) :
    ∃ left, gfalSrmUnlinkListG.forget surls context = .ok ((), left) ∧ left.world.made = context.world.made := by
  induction surls generalizing context with
  | nil => exact ⟨context, rfl, rfl⟩
  | cons surl rest ih =>
      obtain ⟨forgotten, hforgotten, hmade⟩ : ∃ forgotten, gfalSrmCacheStatRemove surl context = .ok ((), forgotten) ∧
          forgotten.world.made = context.world.made := ⟨_, rfl, rfl⟩
      obtain ⟨left, hleft, hrest⟩ := ih forgotten
      exact ⟨left, (bind_of_ok hforgotten).trans hleft, hrest.trans hmade⟩

/-- With a context, or what stands for one, an operation on a list comes to what the request does. -/
theorem run_some (rest : List CString) (operation : SrmListOperation) {easy : GfalSrmEasy} (heasy : easyFor servers context surl = some easy) :
    ∃ entered, entered.world.made = context.world.made ++ [.context operation.purpose surl easy.srmContext.isSome] ∧
      ∀ value, Yields (operation.run servers (surl :: rest)) context value ↔
        Yields (operation.request servers easy ((surl :: rest).map gfal2SrmGetDecodedPath)) entered value := by
  cases operation with
  | bringOnline token tsize async =>
      have hlist : ∃ entered, entered.world.made = context.world.made ++ [.context .list surl easy.srmContext.isSome] ∧
          ∀ value, Yields (gfalSrmv2BringOnlineListG servers (surl :: rest) token tsize async) context value ↔
            Yields (gfalSrmv2BringOnlineInternal servers easy ((surl :: rest).map gfal2SrmGetDecodedPath) token tsize async) entered value :=
        listWithContext_some heasy
      obtain ⟨entered, hmade, hiff⟩ := hlist
      refine ⟨entered, hmade, fun value => ?_⟩
      have hpair : ∀ (operation : Srm BringOnlineResult) (context : Gfal2Context SrmWorld),
          Yields (do let result ← operation; return (result.ret, result.errors)) context value ↔
            ∃ result : BringOnlineResult, Yields operation context result ∧ (result.ret, result.errors) = value := by
        intro operation context
        rw [yields_bind_iff]
        constructor
        · rintro ⟨result, left, hresult, left', hvalue⟩
          cases hvalue
          exact ⟨result, ⟨left, hresult⟩, rfl⟩
        · rintro ⟨result, ⟨left, hresult⟩, rfl⟩
          exact ⟨result, left, hresult, left, rfl⟩
      rw [run, request, hpair, hpair]
      simp only [hiff]
  | bringOnlinePoll token =>
      have hlist : ∃ entered, entered.world.made = context.world.made ++ [.context .list surl easy.srmContext.isSome] ∧
          ∀ value, Yields (gfalSrmv2BringOnlinePollListG servers (surl :: rest) token) context value ↔
            Yields (gfalSrmv2BringOnlinePollInternal servers easy ((surl :: rest).map gfal2SrmGetDecodedPath) token) entered value :=
        listWithContext_some heasy
      exact hlist
  | releaseFile token =>
      have hlist : ∃ entered, entered.world.made = context.world.made ++ [.context .list surl easy.srmContext.isSome] ∧
          ∀ value, Yields (gfalSrmv2ReleaseFileListG servers (surl :: rest) token) context value ↔
            Yields (gfalSrmv2ReleaseFileInternal servers easy ((surl :: rest).map gfal2SrmGetDecodedPath) token) entered value :=
        listWithContext_some heasy
      exact hlist
  | abortFiles token =>
      have hlist : ∃ entered, entered.world.made = context.world.made ++ [.context .list surl easy.srmContext.isSome] ∧
          ∀ value, Yields (gfalSrm2AbortFilesG servers (surl :: rest) token) context value ↔
            Yields (gfalSrmv2AbortFilesInternal servers easy ((surl :: rest).map gfal2SrmGetDecodedPath) token) entered value :=
        listWithContext_some heasy
      exact hlist
  | unlink =>
      obtain ⟨⟨val, err⟩, entered, hmade, hval, -, -, -, hrecord⟩ := srmEasyContext_run servers context surl .other
      obtain rfl : val = some easy := hval.trans heasy
      obtain ⟨forgotten, hforgotten, hkept⟩ := forget_run (surl :: rest) entered
      refine ⟨forgotten, hkept.trans hrecord, fun value => ?_⟩
      have hremove : ∀ value, Yields (gfalSrmUnlinkListG.remove servers (surl :: rest) (some easy)) entered value ↔
          Yields (unlink.request servers easy ((surl :: rest).map gfal2SrmGetDecodedPath)) forgotten value :=
        fun value => yields_bind_of_ok hforgotten
      rw [run, gfalSrmUnlinkListG, yields_bind_of_ok hmade, ← hremove]
      constructor
      · intro h
        obtain ⟨found, left, hfound, left', h⟩ := yields_bind_iff.mp h
        cases h
        exact ⟨left, hfound⟩
      · intro ⟨left, hfound⟩
        exact yields_bind_iff.mpr ⟨value, left, hfound, _, rfl⟩

/-! ### Operations on one file -/

/-- Without a context an operation has failed. -/
theorem withEasyContext_yields_none {body : GfalSrmEasy → SrmThrowing α} (purpose : SrmPurpose) {e : GError}
    (heasy : easyFor servers context surl = none) (herror : easyError servers context surl = some e) :
    Yields (withEasyContext servers surl body purpose).run context (.error e) := by
  obtain ⟨⟨val, err⟩, entered, hmade, hval, herr, -, -, -⟩ := srmEasyContext_run servers context surl purpose
  obtain rfl : val = none := hval.trans heasy
  obtain rfl : err = some e := herr.trans herror
  exact ⟨_, bind_of_ok hmade⟩

/-- With one it comes to what its body does. -/
theorem withEasyContext_yields_some (α : Type) (purpose : SrmPurpose) {easy : GfalSrmEasy}
    (heasy : easyFor servers context surl = some easy) (hsome : easy.srmContext.isSome = true) :
    ∃ entered, entered.world.made = context.world.made ++ [.context purpose surl true] ∧
      easy.path = gfal2SrmGetDecodedPath surl ∧ ∀ (body : GfalSrmEasy → SrmThrowing α) answer,
        Yields (body easy).run entered answer → Yields (withEasyContext servers surl body purpose).run context answer := by
  obtain ⟨⟨val, err⟩, entered, hmade, hval, -, -, hnone, hrecord⟩ := srmEasyContext_run servers context surl purpose
  obtain rfl : val = some easy := hval.trans heasy
  obtain rfl : err = none := hnone hsome
  refine ⟨entered, by rw [hrecord, Option.any_some, hsome], ?_, fun body answer ⟨left, hbody⟩ => ?_⟩
  · exact gfalSrmIfceEasyContext_path (congrArg Ret.val (srmEasyContext_eq_ok hmade).1).symm
  · have hanswer : answer.mapError (fun e => (none : Option GError).getD e) = answer := by
      cases answer with
      | ok value => rfl
      | error e => rfl
    have heasy : withEasyContext.easyBody servers ⟨some easy, none⟩ body entered = .ok (answer, left) := by
      rw [← hanswer]
      exact bind_of_ok hbody
    exact ⟨_, (bind_of_ok hmade).trans (bind_of_ok heasy)⟩

/-- Without a context the operation on one file has failed. -/
theorem singleWithContext_none {body : GfalSrmEasy → List CString → Srm (Int × ErrorList)} (purpose : SrmPurpose) {e : GError}
    (heasy : easyFor servers context surl = none) (herror : easyError servers context surl = some e) :
    Yields (singleWithContext servers surl body purpose) context ⟨-1, some e⟩ := by
  rw [singleWithContext]
  exact (withEasyContext_yields_none purpose heasy herror).map _

/-- With one it comes to what the request for the file does, but that with an error its value is negative. -/
theorem singleWithContext_some (body : GfalSrmEasy → List CString → Srm (Int × ErrorList)) (purpose : SrmPurpose) {easy : GfalSrmEasy}
    (heasy : easyFor servers context surl = some easy) (hsome : easy.srmContext.isSome = true) :
    ∃ entered, entered.world.made = context.world.made ++ [.context purpose surl true] ∧ ∀ ret errors,
      Yields (body easy [gfal2SrmGetDecodedPath surl]) entered (ret, errors) →
      Yields (singleWithContext servers surl body purpose) context
        (if errors.head?.join.isSome then ⟨-1, errors.head?.join⟩ else ⟨ret, errors.head?.join⟩) := by
  rw [singleWithContext]
  obtain ⟨entered, hmade, hpath, hyields⟩ := withEasyContext_yields_some Int purpose heasy hsome
  refine ⟨entered, hmade, ?_⟩
  rintro ret errors ⟨left, hbody⟩
  rw [← hpath] at hbody
  cases hhead : errors.head?.join with
  | none =>
      refine (hyields _ (.ok ret) ⟨left, (bind_of_ok hbody).trans ?_⟩).map _
      dsimp only
      rw [hhead]
      rfl
  | some e =>
      refine (hyields _ (.error e) ⟨left, (bind_of_ok hbody).trans ?_⟩).map _
      dsimp only
      rw [hhead]
      rfl

variable {entered : Gfal2Context SrmWorld}

/-- The same request comes to the same whatever its context was asked for. -/
theorem request_congr (hservers : IgnorePurposes servers) {easy : GfalSrmEasy} (hsome : easy.srmContext.isSome = true)
    (hunlink : operation ≠ unlink) (habort : ∀ token, operation ≠ abortFiles token) {history : SrmHistory}
    {purpose purpose' : SrmPurpose} {entered' : Gfal2Context SrmWorld}
    (hmade : entered.world.made = history ++ [.context purpose surl true])
    (hmade' : entered'.world.made = history ++ [.context purpose' surl true]) {value : Int × ErrorList}
    (h : Yields (operation.request servers easy surls) entered value) :
    Yields (operation.request servers easy surls) entered' value := by
  cases operation with
  | unlink => exact absurd rfl hunlink
  | abortFiles token => exact absurd rfl (habort token)
  | bringOnline token tsize async =>
      obtain ⟨left, hcall⟩ := call_run entered hsome (servers.bringOnline surls async) fun _ => .bringOnline surls async
      obtain ⟨left', hcall'⟩ := call_run entered' hsome (servers.bringOnline surls async) fun _ => .bringOnline surls async
      rw [hmade] at hcall
      rw [hmade', hservers.bringOnline _ _ _ purpose' purpose] at hcall'
      rw [request, gfalSrmv2BringOnlineInternal, bind_assoc, yields_bind_of_ok hcall] at h
      rw [request, gfalSrmv2BringOnlineInternal, bind_assoc, yields_bind_of_ok hcall']
      refine (Comes.yields_iff ?_ left left' value).mp h
      cases servers.bringOnline surls async (history ++ [.context purpose surl true]) with
      | error e => exact .inl ⟨_, rfl, trivial⟩
      | ok found =>
          simp only [bind_assoc, pure_bind]
          exact (bringOnlineLoop_comes token tsize async found.statuses {} surls 0).bind (fun counts _ => .inl ⟨_, rfl, trivial⟩)
            fun _ => trivial
  | bringOnlinePoll token =>
      obtain ⟨left, hcall⟩ := call_run entered hsome (servers.bringOnlineStatus surls token) fun _ =>
        .bringOnlineStatus surls token
      obtain ⟨left', hcall'⟩ := call_run entered' hsome (servers.bringOnlineStatus surls token) fun _ =>
        .bringOnlineStatus surls token
      rw [hmade] at hcall
      rw [hmade', hservers.bringOnlineStatus _ _ _ purpose' purpose] at hcall'
      rw [request, gfalSrmv2BringOnlinePollInternal, yields_bind_of_ok hcall] at h
      rw [request, gfalSrmv2BringOnlinePollInternal, yields_bind_of_ok hcall']
      refine (Comes.yields_iff ?_ left left' value).mp h
      cases servers.bringOnlineStatus surls token (history ++ [.context purpose surl true]) with
      | error e => exact .inl ⟨_, rfl, trivial⟩
      | ok found =>
          exact (bringOnlinePollLoop_comes token found {} surls).bind (fun counts _ => .inl ⟨_, rfl, trivial⟩) fun _ => trivial
  | releaseFile token =>
      obtain ⟨left, hcall⟩ := call_run entered hsome (servers.releaseFiles surls token) fun _ => .releaseFiles surls token
      obtain ⟨left', hcall'⟩ := call_run entered' hsome (servers.releaseFiles surls token) fun _ => .releaseFiles surls token
      rw [hmade] at hcall
      rw [hmade', hservers.releaseFiles _ _ _ purpose' purpose] at hcall'
      rw [request, gfalSrmv2ReleaseFileInternal, yields_bind_of_ok hcall] at h
      rw [request, gfalSrmv2ReleaseFileInternal, yields_bind_of_ok hcall']
      refine (Comes.yields_iff ?_ left left' value).mp h
      cases servers.releaseFiles surls token (history ++ [.context purpose surl true]) with
      | error e => exact .inl ⟨_, rfl, trivial⟩
      | ok entries =>
          exact (placedErrors_comes (releaseFile token)
            (fun entry => { entry with explanation := entries.head?.bind SrmFileStatus.explanation }) (fun _ _ => rfl) (fun _ => rfl) surls
            0).bind (fun errors _ => .inl ⟨_, rfl, trivial⟩) fun _ => trivial

/-- The operation on one file comes to what the one on a list of it did. -/
def SingleAgrees (servers : SrmServers) (surls : List CString) (context : Gfal2Context SrmWorld) (operation : SrmListOperation)
    (ret : Int) (errors : ErrorList) : Prop :=
  ∀ surl single, surls = [surl] → operation.single servers surl = some single → Yields single context ⟨ret, errors.head?.join⟩

variable {ret : Int}

/-- An operation on one file that is the one on a list of it, or is none. -/
theorem singleAgrees_unlink (h : Yields (unlink.run servers [surl]) context (ret, errors)) :
    SingleAgrees servers [surl] context unlink ret errors := by
  intro surl' single hsurl hsingle
  cases hsurl
  cases hsingle
  exact h.map fun answer => (⟨answer.1, answer.2.head?.join⟩ : Ret Int)

/-- Without a context it agrees if it has its token. -/
theorem singleAgrees_none {e : GError} (hunlink : operation ≠ unlink) (heasy : easyFor servers context surl = none)
    (herror : easyError servers context surl = some e) :
    SingleAgrees servers [surl] context operation (-1) [some e] ↔ operation.HasToken := by
  have hagrees : ∀ {body : GfalSrmEasy → List CString → Srm (Int × ErrorList)} {purpose : SrmPurpose},
      Yields (singleWithContext servers surl body purpose) context ⟨-1, some e⟩ := singleWithContext_none _ heasy herror
  have hsingle : ∀ {found : Srm (Ret Int)}, operation.single servers surl = some found → Yields found context ⟨-1, some e⟩ →
      SingleAgrees servers [surl] context operation (-1) [some e] := by
    intro found hfound hyields surl' single hsurl hsingle
    cases hsurl
    cases hfound.symm.trans hsingle
    exact hyields
  cases operation with
  | bringOnline token tsize async => exact iff_of_true (hsingle rfl hagrees) trivial
  | bringOnlinePoll token => exact iff_of_true (hsingle rfl hagrees) trivial
  | releaseFile token =>
      cases token with
      | some token =>
          have hrelease : Yields (singleWithContext servers surl
              (fun easy surls => gfalSrmv2ReleaseFileInternal servers easy surls (some token)) .release) context ⟨-1, some e⟩ := hagrees
          exact iff_of_true (hsingle rfl hrelease) rfl
      | none =>
          refine iff_of_false (fun h => ?_) (by simp [HasToken])
          obtain ⟨left, hrun⟩ := h surl _ rfl rfl
          cases hrun
  | abortFiles token => exact iff_of_true (fun _ _ _ hsingle => by cases hsingle) trivial
  | unlink => exact absurd rfl hunlink

/-- With a context it agrees if it has its token, and there is an error only where both are negative. -/
theorem singleAgrees_some (hservers : IgnorePurposes servers) {easy : GfalSrmEasy} (hunlink : operation ≠ unlink)
    (habort : ∀ token, operation ≠ abortFiles token) (heasy : easyFor servers context surl = some easy)
    (hsome : easy.srmContext.isSome = true)
    (hmade : entered.world.made = context.world.made ++ [.context .list surl true]) (hret : ret ≤ 1)
    (h : Yields (operation.request servers easy [gfal2SrmGetDecodedPath surl]) entered (ret, errors)) :
    SingleAgrees servers [surl] context operation ret errors ↔
      operation.HasToken ∧ (errors.head?.join.isSome = true → ret = -1) := by
  have hsingle : ∀ (body : GfalSrmEasy → List CString → Srm (Int × ErrorList)) (purpose : SrmPurpose),
      operation.single servers surl = some (singleWithContext servers surl body purpose) →
      body easy [gfal2SrmGetDecodedPath surl] = operation.request servers easy [gfal2SrmGetDecodedPath surl] →
      (SingleAgrees servers [surl] context operation ret errors ↔ (errors.head?.join.isSome = true → ret = -1)) := by
    intro body purpose hfound hbody
    obtain ⟨entered', hmade', hyields⟩ := singleWithContext_some body purpose heasy hsome
    have hanswer := hyields ret errors (by rw [hbody]; exact request_congr hservers hsome hunlink habort hmade hmade' h)
    constructor
    · intro hagrees herror
      have heq := hanswer.unique (hagrees surl _ rfl hfound)
      rw [if_pos herror] at heq
      exact (congrArg Ret.val heq).symm
    · intro hnegative surl' single hsurl hsingle
      cases hsurl
      cases hfound.symm.trans hsingle
      by_cases herror : errors.head?.join.isSome = true
      · rw [if_pos herror] at hanswer
        rw [hnegative herror]
        exact hanswer
      · rw [if_neg herror] at hanswer
        exact hanswer
  cases operation with
  | bringOnline token tsize async => exact (hsingle _ _ rfl rfl).trans (by simp [HasToken])
  | bringOnlinePoll token => exact (hsingle _ _ rfl rfl).trans (by simp [HasToken])
  | releaseFile token =>
      cases token with
      | some token =>
          refine (hsingle (fun easy surls => gfalSrmv2ReleaseFileInternal servers easy surls (some token)) .release rfl rfl).trans ?_
          simp [HasToken]
      | none =>
          refine iff_of_false (fun h => ?_) (by simp [HasToken])
          have hpure : Yields (gfalSrmv2ReleaseFileG servers surl none) context ⟨EINVAL, some ⟨gfal2GetCoreQuark, EINVAL,
              lit "[gfal_srmv2_release_fileG] Invalid value handle, surl or token"⟩⟩ := ⟨context, rfl⟩
          have hinval : EINVAL = ret := congrArg Ret.val (hpure.unique (h surl _ rfl rfl))
          exact absurd (hinval ▸ hret) (by decide)
  | abortFiles token => exact absurd rfl (habort token)
  | unlink => exact absurd rfl hunlink

/-! ### Operations on lists -/

theorem singleAgrees_cons : SingleAgrees servers (surl :: rest) context operation ret errors ↔
    (rest = [] → SingleAgrees servers [surl] context operation ret errors) := by
  constructor
  · rintro h rfl
    exact h
  · intro h surl' single hsurl hsingle
    obtain ⟨rfl, hrest⟩ := List.cons.inj hsurl
    exact h hrest surl single rfl hsingle

theorem attributes_iff_of_yields
    (h : Yields (operation.run servers surls) context (ret, errors)) : operation.Attributes servers surls context ↔
      (match operation.answered servers surls context with
        | some (.ok entries) => List.Forall₂ (operation.Reported entries) (surls.map gfal2SrmGetDecodedPath) errors
        | _ => AllFailed surls ret errors) ∧ SingleAgrees servers surls context operation ret errors := by
  constructor
  · intro ⟨ret', errors', left, hrun, hanswer, hsingle⟩
    cases h.unique ⟨left, hrun⟩
    exact ⟨hanswer, hsingle⟩
  · intro ⟨hanswer, hsingle⟩
    obtain ⟨left, hrun⟩ := h
    exact ⟨ret, errors, left, hrun, hanswer, hsingle⟩

theorem not_attributes (h : ∀ value, ¬Yields (operation.run servers surls) context value) :
    ¬operation.Attributes servers surls context := by
  intro ⟨ret, errors, left, hrun, _⟩
  exact h _ ⟨left, hrun⟩

theorem allFailed_map (surls : List CString) (e : GError) : AllFailed surls (-1) (surls.map fun _ => some e) where
  negative := by decide
  length := List.length_map _
  errors := by
    intro error hmem
    obtain ⟨_, -, rfl⟩ := List.mem_map.mp hmem
    rfl

theorem attributes_nil : ¬operation.Attributes servers [] context := by
  refine not_attributes fun value ⟨left, hrun⟩ => ?_
  cases operation with
  | bringOnline token tsize async => cases hrun
  | bringOnlinePoll token => cases hrun
  | releaseFile token => cases hrun
  | abortFiles token => cases hrun
  | unlink => cases hrun

theorem attributes_none_iff (heasy : easyFor servers context surl = none) :
    operation.Attributes servers (surl :: rest) context ↔ (rest = [] → operation.HasToken) ∧ operation ≠ unlink := by
  have hanswered : operation.answered servers (surl :: rest) context = none := by
    rw [answered, heasy]
    rfl
  by_cases hunlink : operation = unlink
  · subst hunlink
    refine iff_of_false (fun h => ?_) fun h => h.2 rfl
    rw [attributes_iff_of_yields (run_unlink_none heasy), hanswered] at h
    exact absurd (h.1.errors none (by simp)) Bool.false_ne_true
  · obtain ⟨e, herror, hrun⟩ := run_none rest hunlink heasy
    rw [attributes_iff_of_yields hrun, hanswered, singleAgrees_cons]
    have hagrees := singleAgrees_none hunlink heasy herror
    constructor
    · rintro ⟨-, hsingle⟩
      refine ⟨fun hrest => ?_, hunlink⟩
      subst hrest
      exact hagrees.mp (hsingle rfl)
    · rintro ⟨htoken, -⟩
      refine ⟨allFailed_map _ e, fun hrest => ?_⟩
      subst hrest
      exact hagrees.mpr (htoken rfl)

/-- What stands for a context that could not be made is not there for the services. -/
theorem not_attributes_of_missing {easy : GfalSrmEasy} (heasy : easyFor servers context surl = some easy)
    (hnone : easy.srmContext.isSome = false) : ¬operation.Attributes servers (surl :: rest) context := by
  obtain ⟨entered, -, hyields⟩ := run_some rest operation heasy
  refine not_attributes fun value h => ?_
  obtain ⟨left, hrequest⟩ := (hyields value).mp h
  have hmissing : easy.srmContext = none := by simpa using hnone
  have hcompletes : Exec.Completes (operation.request servers easy ((surl :: rest).map gfal2SrmGetDecodedPath)) entered := ⟨_, _, hrequest⟩
  refine absurd hcompletes ?_
  cases operation with
  | bringOnline token tsize async =>
      rw [request, gfalSrmv2BringOnlineInternal, bind_assoc]
      exact not_completes_call hmissing entered
  | bringOnlinePoll token => exact not_completes_call hmissing entered
  | releaseFile token => exact not_completes_call hmissing entered
  | abortFiles token => exact not_completes_call hmissing entered
  | unlink => exact not_completes_call hmissing entered

/-- Two operations of which that on one file is not looked at: it is the one on a list of it, or is none. -/
def Alone (operation : SrmListOperation) : Prop := operation = unlink ∨ ∃ token, operation = abortFiles token

/-- With a context the operation on one file agrees if it has its token, and there is an error only where both are negative. -/
theorem singleAgrees_iff (hservers : IgnorePurposes servers) {easy : GfalSrmEasy} (heasy : easyFor servers context surl = some easy)
    (hsome : easy.srmContext.isSome = true)
    (hmade : entered.world.made = context.world.made ++ [.context operation.purpose surl true])
    (hret : ¬operation.Alone → ret ≤ 1) (hrun : Yields (operation.run servers [surl]) context (ret, errors))
    (h : Yields (operation.request servers easy [gfal2SrmGetDecodedPath surl]) entered (ret, errors)) :
    SingleAgrees servers [surl] context operation ret errors ↔
      operation.HasToken ∧ (¬operation.Alone → errors.head?.join.isSome = true → ret = -1) := by
  by_cases halone : operation.Alone
  · rcases halone with rfl | ⟨token, rfl⟩
    · exact iff_of_true (singleAgrees_unlink hrun) ⟨trivial, fun hnot => absurd (.inl rfl) hnot⟩
    · exact iff_of_true (fun _ _ _ hsingle => by cases hsingle) ⟨trivial, fun hnot => absurd (.inr ⟨token, rfl⟩) hnot⟩
  · have hunlink : operation ≠ unlink := fun heq => halone (.inl heq)
    have habort : ∀ token, operation ≠ abortFiles token := fun token heq => halone (.inr ⟨token, heq⟩)
    have hpurpose : operation.purpose = .list := by
      cases operation with
      | unlink => exact absurd rfl hunlink
      | _ => rfl
    rw [hpurpose] at hmade
    rw [singleAgrees_some hservers hunlink habort heasy hsome hmade (hret halone) h]
    simp [halone]

/-- What is taken for the only file is no error just when there is none. -/
theorem singleFits_iff {entries : List SrmFileStatus} (hret : ¬operation.Alone → 0 ≤ ret)
    (hsettles : ¬operation.Alone → List.Forall₂ (operation.Settles entries) [(surl, 0)] errors) :
    (¬operation.Alone → errors.head?.join.isSome = true → ret = -1) ↔ operation.SingleFits entries surl := by
  by_cases halone : operation.Alone
  · refine iff_of_true (fun hnot => absurd halone hnot) ?_
    rcases halone with rfl | ⟨token, rfl⟩
    · trivial
    · trivial
  · have hfits : operation.SingleFits entries surl ↔
        ∃ found, operation.taken entries 0 surl = some (some found) ∧ tells found operation = none := by
      cases operation with
      | abortFiles token => exact absurd (.inr ⟨token, rfl⟩) halone
      | unlink => exact absurd (.inl rfl) halone
      | _ => exact Iff.rfl
    have htold : ∀ error, told error operation = error := by
      intro error
      cases operation with
      | unlink => exact absurd (.inl rfl) halone
      | _ => rfl
    have hforall := hsettles halone
    cases hforall with
    | cons hfirst hrest =>
        rename_i error errors
        obtain ⟨found, htaken, herror⟩ := hfirst
        rw [htold] at herror
        have hnegative : ret ≠ -1 := by
          have := hret halone
          omega
        simp only [halone, not_false_eq_true, forall_true_left, hnegative, imp_false, List.head?_cons, Option.join_some, hfits]
        dsimp only at htaken herror
        rw [herror, htaken]
        cases found with
        | none => simp [errorOf]
        | some found => simp [errorOf]

/-- With a context it depends on the answer. -/
theorem attributes_some_iff (hservers : IgnorePurposes servers) {easy : GfalSrmEasy} (heasy : easyFor servers context surl = some easy)
    (hsome : easy.srmContext.isSome = true) : operation.Attributes servers (surl :: rest) context ↔
      (rest = [] → operation.HasToken) ∧
      match operation.answer servers ((surl :: rest).map gfal2SrmGetDecodedPath)
        (context.world.made ++ [.context operation.purpose surl true]) with
      | .error _ => True
      | .ok entries =>
          operation.FitsAll servers ((surl :: rest).map gfal2SrmGetDecodedPath)
            (context.world.made ++ [.context operation.purpose surl true]) entries ∧
          (rest = [] → operation.SingleFits entries (gfal2SrmGetDecodedPath surl)) := by
  obtain ⟨entered, hmade, hyields⟩ := run_some rest operation heasy
  rw [hsome] at hmade
  have hanswered : operation.answered servers (surl :: rest) context = some (operation.answer servers
      ((surl :: rest).map gfal2SrmGetDecodedPath) entered.world.made) := by
    rw [answered, heasy, hmade]
    exact if_pos hsome
  have hagrees : ∀ {ret errors}, (¬operation.Alone → ret ≤ 1) →
      Yields (operation.request servers easy ((surl :: rest).map gfal2SrmGetDecodedPath)) entered (ret, errors) →
      (SingleAgrees servers (surl :: rest) context operation ret errors ↔ (rest = [] → operation.HasToken) ∧
        (rest = [] → ¬operation.Alone → errors.head?.join.isSome = true → ret = -1)) := by
    intro ret errors hret h
    rw [singleAgrees_cons, ← forall_and]
    refine forall_congr' fun hrest => ?_
    subst hrest
    exact singleAgrees_iff hservers heasy hsome hmade hret ((hyields _).mpr h) h
  rw [← hmade]
  cases hanswer : operation.answer servers ((surl :: rest).map gfal2SrmGetDecodedPath) entered.world.made with
  | error e =>
      have hrequest := request_fails hsome (List.map_eq_nil_iff.not.mpr (List.cons_ne_nil surl rest)) hanswer
      rw [attributes_iff_of_yields ((hyields _).mpr hrequest), hanswered, hanswer, hagrees (fun _ => by decide) hrequest]
      have hfailed : AllFailed (surl :: rest) (-1) (((surl :: rest).map gfal2SrmGetDecodedPath).map fun _ => some e) := by
        rw [List.map_map]
        exact allFailed_map _ e
      exact ⟨fun h => ⟨h.2.1, trivial⟩, fun h => ⟨hfailed, h.1, fun _ _ _ => rfl⟩⟩
  | ok entries =>
      by_cases hunlink : operation = unlink
      · subst hunlink
        obtain ⟨reported, hrm⟩ : ∃ reported, servers.rm ((surl :: rest).map gfal2SrmGetDecodedPath) entered.world.made =
            (reported, entries) := by
          rw [answer] at hanswer
          dsimp only at hanswer
          split at hanswer
          · cases hanswer
          · cases hanswer
            exact ⟨_, rfl⟩
        obtain ⟨⟨ret, errors⟩, hrequest, hvalue⟩ := request_unlink hsome _ hrm
        have halone : unlink.Alone := .inl rfl
        rw [attributes_iff_of_yields ((hyields _).mpr hrequest), hanswered, hanswer, hagrees (fun hnot => absurd halone hnot) hrequest]
        have hfits : List.Forall₂ (unlink.Reported entries) ((surl :: rest).map gfal2SrmGetDecodedPath) errors ↔
            unlink.FitsAll servers ((surl :: rest).map gfal2SrmGetDecodedPath) entered.world.made entries := by
          rw [FitsAll, hrm]
          by_cases hlength : entries.length = ((surl :: rest).map gfal2SrmGetDecodedPath).length
          · rw [if_pos hlength] at hvalue ⊢
            exact forall₂_reported_iff hvalue
          · rw [if_neg hlength] at hvalue ⊢
            cases hvalue
            rw [List.forall₂_map_right_iff, List.forall₂_same]
            refine forall₂_congr fun surl _ => ?_
            rw [Reported]
            simp
        dsimp only
        rw [hfits]
        exact ⟨fun h => ⟨fun _ => trivial, h.1, fun _ => trivial⟩, fun h => ⟨h.2.1, fun _ => trivial, fun _ hnot => absurd halone hnot⟩⟩
      · have hfits : operation.FitsAll servers ((surl :: rest).map gfal2SrmGetDecodedPath) entered.world.made entries ↔
            ∀ place ∈ ((surl :: rest).map gfal2SrmGetDecodedPath).zipIdx, operation.Fits entries place.2 place.1 := by
          cases operation with
          | unlink => exact absurd rfl hunlink
          | _ => exact Iff.rfl
        rcases request_settles hsome hunlink _ hanswer with ⟨⟨ret, errors⟩, hrequest, hsettles, hret⟩ | ⟨hnone, place, hmem, hstops⟩
        · have hbounds : ¬operation.Alone → 0 ≤ ret ∧ ret ≤ 1 := fun halone => hret fun token heq => halone (.inr ⟨token, heq⟩)
          rw [attributes_iff_of_yields ((hyields _).mpr hrequest), hanswered, hanswer,
            hagrees (fun halone => (hbounds halone).2) hrequest]
          dsimp only
          rw [hfits, ← forall₂_reported_iff hsettles]
          have hsingle : (rest = [] → ¬operation.Alone → errors.head?.join.isSome = true → ret = -1) ↔
              (rest = [] → operation.SingleFits entries (gfal2SrmGetDecodedPath surl)) := by
            refine forall_congr' fun hrest => ?_
            subst hrest
            exact singleFits_iff (fun halone => (hbounds halone).1) fun _ => hsettles
          rw [hsingle]
          exact and_left_comm
        · refine iff_of_false (not_attributes fun value h => hnone value ((hyields value).mp h)) fun h => ?_
          have hplace := hfits.mp h.2.1 place hmem
          rw [Fits, hstops] at hplace
          exact hplace

/-- An operation on a list of files tells each of them right just when there is a SURL, a context, or at least no removal without one,
and what it takes from the answer for each file fits. -/
theorem attributes_iff (hservers : IgnorePurposes servers) (surls : List CString) (context : Gfal2Context SrmWorld)
    (operation : SrmListOperation) : operation.Attributes servers surls context ↔ operation.Attributable servers surls context := by
  cases surls with
  | nil => exact iff_of_false attributes_nil id
  | cons surl rest =>
      rw [Attributable]
      cases heasy : easyFor servers context surl with
      | none => exact attributes_none_iff heasy
      | some easy =>
          cases hsome : easy.srmContext.isSome with
          | false =>
              refine iff_of_false (not_attributes_of_missing heasy hsome) fun h => ?_
              simp [hsome] at h
          | true =>
              rw [attributes_some_iff hservers heasy hsome]
              simp [hsome]

end SrmListOperation

end Contexts

/-! ### Files that are told wrong -/

/-- A service with two files in its queue, which it names the other way round. -/
def queueingServers : SrmServers :=
  { failingServers with
    bringOnlineStatus := fun _ _ _ => .ok [⟨lit "srm://h/b", none, EAGAIN, some (lit "second")⟩,
      ⟨lit "srm://h/a", none, EAGAIN, some (lit "first")⟩] }

theorem queueingServers_ignorePurposes : SrmListOperation.IgnorePurposes queueingServers :=
  ⟨fun _ _ _ _ _ _ => rfl, fun _ _ _ _ _ _ => rfl, fun _ _ _ _ _ _ => rfl⟩

/-- The context there is for a file on the host. -/
theorem easyFor_queueing : easyFor queueingServers { world := { plugin := {} } } (lit "srm://h/a") =
    some ⟨lit "srm://h/a", some { endpoint := lit "httpg://h/srm/managerv2" }⟩ := by
  decide +kernel

/-- A service with one file in its queue and another online, which it names the other way round. -/
def reorderingServers : SrmServers :=
  { failingServers with
    bringOnlineStatus := fun _ _ _ => .ok [⟨lit "srm://h/b", none, 0, none⟩, ⟨lit "srm://h/a", none, ENOENT, some (lit "gone")⟩] }

/-- Two files are told what is said of them, in whatever order that is. -/
theorem reordered_attributes : (SrmListOperation.bringOnlinePoll (lit "token")).Attributes reorderingServers
    [lit "srm://h/a", lit "srm://h/b"] { world := { plugin := {} } } := by
  refine (SrmListOperation.attributes_iff ⟨fun _ _ _ _ _ _ => rfl, fun _ _ _ _ _ _ => rfl, fun _ _ _ _ _ _ => rfl⟩ _ _ _).mpr ?_
  have heasy : easyFor reorderingServers { world := { plugin := {} } } (lit "srm://h/a") =
      some ⟨lit "srm://h/a", some { endpoint := lit "httpg://h/srm/managerv2" }⟩ := by decide +kernel
  have hdecoded : [lit "srm://h/a", lit "srm://h/b"].map gfal2SrmGetDecodedPath = [lit "srm://h/a", lit "srm://h/b"] := by decide +kernel
  rw [SrmListOperation.Attributable, heasy, hdecoded]
  refine ⟨nofun, rfl, fun place hplace => ?_, nofun⟩
  obtain rfl | rfl : place = (lit "srm://h/a", 0) ∨ place = (lit "srm://h/b", 1) := by simpa using hplace
  · exact .inl ⟨_, List.mem_cons_of_mem _ List.mem_cons_self, rfl, rfl⟩
  · exact .inl ⟨_, List.mem_cons_self, rfl, rfl⟩

/-- The answer of the service, as the operation reads it. -/
def queuedAnswer : List SrmFileStatus :=
  [⟨lit "srm://h/b", EAGAIN, some (lit "second")⟩, ⟨lit "srm://h/a", EAGAIN, some (lit "first")⟩]

theorem answer_queueing (paths : List CString) (history : SrmHistory) :
    SrmListOperation.answer queueingServers paths history (.bringOnlinePoll (lit "token")) = .ok queuedAnswer :=
  rfl

/-- The first file has the explanation of the first entry, which is the other's. -/
theorem taken_queued : SrmListOperation.taken queuedAnswer 0 (lit "srm://h/a") (.bringOnlinePoll (lit "token")) =
    some (some ⟨lit "srm://h/a", EAGAIN, some (lit "second")⟩) := by
  decide +kernel

theorem not_fits_queued : ¬SrmListOperation.Fits (.bringOnlinePoll (lit "token")) queuedAnswer 0 (lit "srm://h/a") := by
  rw [SrmListOperation.Fits, taken_queued]
  simp only [queuedAnswer, List.mem_cons, List.not_mem_nil, or_false, exists_eq_or_imp, exists_eq_left, forall_eq_or_imp, forall_eq]
  decide +kernel

theorem not_singleFits_queued : ¬SrmListOperation.SingleFits queuedAnswer (lit "srm://h/a") (.bringOnlinePoll (lit "token")) := by
  rintro ⟨found, hfound, htells⟩
  obtain rfl : found = ⟨lit "srm://h/a", EAGAIN, some (lit "second")⟩ :=
    Option.some.inj (Option.some.inj (hfound.symm.trans taken_queued))
  revert htells
  decide +kernel

theorem decoded_queueing : gfal2SrmGetDecodedPath (lit "srm://h/a") = lit "srm://h/a" := by
  decide +kernel

/-- A file that is queued is told what the service says of another one; one that is alone in its list is told in another way by
the operation on one file; and files that could not be removed for want of an endpoint are told nothing. -/
theorem files_told_wrong :
    ¬(SrmListOperation.bringOnlinePoll (lit "token")).Attributes queueingServers [lit "srm://h/a", lit "srm://h/b"]
      { world := { plugin := {} } } ∧
    ¬(SrmListOperation.bringOnlinePoll (lit "token")).Attributes queueingServers [lit "srm://h/a"] { world := { plugin := {} } } ∧
    ¬SrmListOperation.unlink.Attributes queueingServers [lit "srm://h:8443/SFN=/f"] { world := { plugin := {} } } := by
  refine ⟨fun h => ?_, fun h => ?_, fun h => ?_⟩
  · have hfits := ((SrmListOperation.attributes_some_iff queueingServers_ignorePurposes easyFor_queueing rfl).mp h).2
    rw [answer_queueing, List.map_cons, decoded_queueing] at hfits
    exact not_fits_queued (hfits.1 (lit "srm://h/a", 0) List.mem_cons_self)
  · have hfits := ((SrmListOperation.attributes_some_iff queueingServers_ignorePurposes easyFor_queueing rfl).mp h).2
    rw [answer_queueing, decoded_queueing] at hfits
    exact not_singleFits_queued (hfits.2 rfl)
  · have heasy : easyFor queueingServers { world := { plugin := {} } } (lit "srm://h:8443/SFN=/f") = none := by decide +kernel
    exact ((SrmListOperation.attributes_none_iff heasy).mp h).2 rfl

end Gfal2
