import Gfal2.XrootdJobs

/-! What a bulk copy makes of the results of its jobs: the errors that are left to the caller, the destinations that are removed, and
the sources that are evicted. -/

namespace Gfal2

open Base Exec

section Outcomes

variable (results : Nat → Option XrdStatus)

/-- The error of a failed copy. -/
def runError (status : XrdStatus) : GError := xrootd2gliberr (lit "Error on XrdCl::CopyProcess::Run(): ") status

/-- The errors of the files from an index on. -/
def errorsFrom (files : List BulkFile) (i : Nat) : List (Option GError) :=
  (files.zipIdx i).map fun entry => (results entry.2).map runError

/-- The files from an index on that were copied. -/
def copiedFrom (files : List BulkFile) (i : Nat) : List BulkFile :=
  ((files.zipIdx i).filter fun entry => (results entry.2).isNone).map Prod.fst

/-- The files from an index on that failed, and that have no destination of somebody else's. -/
def failedFrom (files : List BulkFile) (i : Nat) : List BulkFile :=
  ((files.zipIdx i).filter fun entry => (results entry.2).any fun status => status.errno ≠ EEXIST).map Prod.fst

variable {results} {file : BulkFile} {files : List BulkFile} {i : Nat}

theorem errorsFrom_cons : errorsFrom results (file :: files) i = (results i).map runError :: errorsFrom results files (i + 1) := by
  rw [errorsFrom, List.zipIdx_cons, List.map_cons, errorsFrom]

theorem copiedFrom_cons_of_none (hresult : results i = none) :
    copiedFrom results (file :: files) i = file :: copiedFrom results files (i + 1) := by
  simp [copiedFrom, List.zipIdx_cons, hresult]

theorem copiedFrom_cons_of_some {status : XrdStatus} (hresult : results i = some status) :
    copiedFrom results (file :: files) i = copiedFrom results files (i + 1) := by
  simp [copiedFrom, List.zipIdx_cons, hresult]

theorem failedFrom_cons_of_none (hresult : results i = none) :
    failedFrom results (file :: files) i = failedFrom results files (i + 1) := by
  simp [failedFrom, List.zipIdx_cons, hresult]

theorem failedFrom_cons_of_some {status : XrdStatus} (hresult : results i = some status) :
    failedFrom results (file :: files) i =
      (if status.errno ≠ EEXIST then [file] else []) ++ failedFrom results files (i + 1) := by
  by_cases hcode : status.errno = EEXIST <;> simp [failedFrom, List.zipIdx_cons, hresult, hcode]

theorem mem_failedFrom : file ∈ failedFrom results files 0 ↔
    ∃ j status, files[j]? = some file ∧ results j = some status ∧ status.errno ≠ EEXIST := by
  simp only [failedFrom, List.mem_map, List.mem_filter, Option.any_eq_true, Prod.exists, List.mem_zipIdx_iff_getElem?,
    decide_eq_true_eq]
  constructor
  · rintro ⟨found, j, ⟨hfound, status, hresult, hcode⟩, rfl⟩
    exact ⟨j, status, hfound, hresult, hcode⟩
  · rintro ⟨j, status, hfound, hresult, hcode⟩
    exact ⟨file, j, ⟨hfound, status, hresult, hcode⟩, by trivial⟩

/-- There is an error exactly where a file failed. -/
theorem any_errorsFrom_iff : (errorsFrom results files i).any (·.isSome) = false ↔
    ∀ j, i ≤ j → j < i + files.length → results j = none := by
  induction files generalizing i with
  | nil =>
      simp only [errorsFrom, List.zipIdx_nil, List.map_nil, List.any_nil, List.length_nil, true_iff]
      intro j hle hlt
      omega
  | cons file files ih =>
      rw [errorsFrom_cons, List.any_cons, Bool.or_eq_false_iff, ih]
      constructor
      · rintro ⟨hfirst, hrest⟩ j hle hlt
        rcases Nat.eq_or_lt_of_le hle with rfl | hless
        · simpa using hfirst
        · exact hrest j hless (by simp only [List.length_cons] at hlt; omega)
      · intro hall
        refine ⟨by simp [hall i (Nat.le_refl i) (by simp)], fun j hle hlt => ?_⟩
        exact hall j (by omega) (by simp only [List.length_cons]; omega)

theorem failedFrom_eq_nil (hnone : (errorsFrom results files i).any (·.isSome) = false) : failedFrom results files i = [] := by
  have hresults := any_errorsFrom_iff.mp hnone
  rw [failedFrom, List.map_eq_nil_iff, List.filter_eq_nil_iff]
  intro entry hentry
  have hbounds := List.mem_zipIdx hentry
  rw [hresults entry.2 (by omega) (by omega)]
  simp

end Outcomes

/-- The URLs that are removed. -/
def unlinkedUrls (requests : XrdHistory) : List CString :=
  requests.filterMap fun
    | .unlink url => some url
    | _ => none

/-- The files that are evicted, each as its endpoint and its path. -/
def evictedFiles (requests : XrdHistory) : List (CString × CString) :=
  requests.flatMap fun
    | .prepareEvict endpoint paths => paths.map (endpoint, ·)
    | _ => []

theorem unlinkedUrls_append (first last : XrdHistory) : unlinkedUrls (first ++ last) = unlinkedUrls first ++ unlinkedUrls last :=
  List.filterMap_append

theorem evictedFiles_append (first last : XrdHistory) : evictedFiles (first ++ last) = evictedFiles first ++ evictedFiles last :=
  List.flatMap_append

variable {α : Type}

theorem unlinkedUrls_map (url : α → CString) (files : List α) :
    unlinkedUrls (files.map fun file => .unlink (url file)) = files.map url := by
  simp [unlinkedUrls, List.filterMap_map]

theorem evictedFiles_map_unlink (url : α → CString) (files : List α) :
    evictedFiles (files.map fun file => .unlink (url file)) = [] := by
  simp [evictedFiles]

theorem evictedFiles_singleton (endpoint : CString) (paths : List CString) :
    evictedFiles [.prepareEvict endpoint paths] = paths.map (endpoint, ·) := by
  simp [evictedFiles]

section Closing

variable (servers : XrdServers) (context : XrootdContext) (params : XrootdCopyParams) (files : List BulkFile)
  (results : Nat → Option XrdStatus) (existed : CString → Prop)

/-- The endpoint and the path of a source. -/
def sourceFile (file : BulkFile) : CString × CString :=
  (servers.endpoint (prepareUrl context file.src), servers.pathWithParams (prepareUrl context file.src))

/-- The jobs of the files are run, with an outcome of the run and one for each job. -/
def JobsRun (context : Gfal2Context XrdWorld) (overall : Option XrdStatus) : Prop :=
  ∃ jobs parallel, buildJobs servers context.xrootd params files = .ok (.ok jobs) ∧
    (context.config.optInteger xrootdConfigGroup (lit "PARALLEL_COPIES")).getD 20 = parallel ∧
    servers.prepareCopy jobs parallel context.world.made = none ∧
    servers.runCopy (context.world.made ++ [.prepareCopy jobs parallel]) = (overall, results)

/-- An answer, with the requests of the call, closes each file by its own outcome. -/
structure ClosesFiles (answer : BulkAnswer) (requests : XrdHistory) : Prop where
  errors : ∃ errors, answer.fileErrors = some errors ∧ errors.map (·.isSome) = (errorsFrom results files 0).map (·.isSome)
  ret : answer.ret = -((errorsFrom results files 0).countP (·.isSome) : Int)
  removed : unlinkedUrls requests =
    if params.transferCleanup then (failedFrom results files 0).map fun file => prepareUrl context file.dst else []
  kept : ¬params.replaceExisting → ∀ url ∈ unlinkedUrls requests, ¬existed url
  evicted : evictedFiles requests = if params.evict then (copiedFrom results files 0).map (sourceFile servers context) else []
  noneEmpty : ∀ endpoint, XrdExchange.prepareEvict endpoint [] ∉ requests

/-- When an answer does: a single file has an outcome of its own, only the first file is to be cleaned up, there is a source to be
evicted, all at one endpoint, and a destination that is removed was not there. -/
structure ClosesWhen (overall : Option XrdStatus) : Prop where
  single : files.length = 1 → overall = none
  onlyFirst : params.transferCleanup → ∀ i, 0 < i → i < files.length → results i = none
  someCopied : params.evict → copiedFrom results files 0 ≠ []
  oneEndpoint : params.evict → ∀ file ∈ copiedFrom results files 0, ∀ other ∈ copiedFrom results files 0,
    (sourceFile servers context file).1 = (sourceFile servers context other).1
  notThere : params.transferCleanup → ¬params.replaceExisting →
    ∀ file status, files.head? = some file → results 0 = some status → status.errno ≠ EEXIST →
      ¬existed (prepareUrl context file.dst)

/-- A bulk copy closes each of its files by the file's own outcome. -/
def BulkCopyCloses (context : Gfal2Context XrdWorld) : Prop :=
  ∃ answer context' requests, gfalXrootd3rdCopyBulk servers params files context = .ok (answer, context') ∧
    context'.world.made = context.world.made ++ requests ∧
    ClosesFiles servers context.xrootd params files results existed answer requests

end Closing

/-! ### The steps -/

section Steps

variable {servers : XrdServers} {params : XrootdCopyParams} {context : Gfal2Context XrdWorld} {results : Nat → Option XrdStatus}
  {files : List BulkFile} {overall : Option XrdStatus}

/-- A computation makes these requests, and leaves what the plugin reads as it was. -/
def Requests {α : Type} (computation : Xrd α) (context : Gfal2Context XrdWorld) (value : α) (requests : XrdHistory) : Prop :=
  ∃ context', computation context = .ok (value, context') ∧ context'.world.made = context.world.made ++ requests ∧
    context'.xrootd = context.xrootd

theorem Requests.pure (value : α) : Requests (Pure.pure value : Xrd α) context value [] :=
  ⟨context, by simp⟩

variable {requests : XrdHistory}

theorem Requests.bind {β : Type} {first : Xrd α} {next : α → Xrd β} {value : α} {result : β} {later : XrdHistory}
    (hfirst : Requests first context value requests)
    (hnext : ∀ context', context'.xrootd = context.xrootd → Requests (next value) context' result later) :
    Requests (first >>= next) context result (requests ++ later) := by
  obtain ⟨middle, hrun, hmade, hsame⟩ := hfirst
  obtain ⟨last, hrun', hmade', hsame'⟩ := hnext middle hsame
  refine ⟨last, ?_, ?_, hsame'.trans hsame⟩
  · rw [bind_of_ok hrun, hrun']
  · rw [hmade', hmade, List.append_assoc]

theorem Requests.bind_pure {β : Type} {first : Xrd α} {value : α} (hfirst : Requests first context value requests) (f : α → β) :
    Requests (first >>= fun value => Pure.pure (f value)) context (f value) requests := by
  obtain ⟨last, hrun, hmade, hsame⟩ := hfirst
  exact ⟨last, by rw [bind_of_ok hrun, pure_apply], hmade, hsame⟩

theorem Requests.get_bind {β : Type} {next : Gfal2Context XrdWorld → Xrd β} {result : β}
    (hnext : Requests (next context) context result requests) : Requests (Exec.get >>= next) context result requests := by
  obtain ⟨last, hrun, hmade, hsame⟩ := hnext
  exact ⟨last, by rw [get_bind_apply, hrun], hmade, hsame⟩

theorem Requests.event (domain : GQuark) (side : GfalEventSide) (stage description : CString) :
    Requests (pluginTriggerEvent domain side stage description) context () [] :=
  ⟨_, by rw [pluginTriggerEvent, Exec.modify_apply], by simp, by trivial⟩

theorem Requests.made (request : XrdExchange) (answer : XrdHistory → α) :
    Requests (makeRequest request answer) context (answer context.world.made) [request] :=
  ⟨_, by rw [makeRequest, exchange], by trivial, by trivial⟩

theorem gfalXrootdUnlinkG_requests (servers : XrdServers) (context : Gfal2Context XrdWorld) (url : CString) :
    ∃ answer, (answer = ⟨0, none⟩ ∨ ∃ failed, answer = ⟨-1, some failed⟩) ∧
      Requests (gfalXrootdUnlinkG servers url) context answer [.unlink (prepareUrl context.xrootd url)] := by
  have hmade : Requests _ context _ _ := .made (.unlink (prepareUrl context.xrootd url)) (servers.unlink (prepareUrl context.xrootd url))
  cases hunlink : servers.unlink (prepareUrl context.xrootd url) context.world.made with
  | none =>
      rw [hunlink] at hmade
      exact ⟨_, .inl (by trivial), .get_bind (hmade.bind fun _ _ => .pure _)⟩
  | some status =>
      rw [hunlink] at hmade
      exact ⟨_, .inr ⟨_, by trivial⟩, .get_bind (hmade.bind fun _ _ => .pure _)⟩

/-- The clean-up removes a destination unless it was there already. -/
theorem gfalXrootdCopyCleanup_requests (servers : XrdServers) (context : Gfal2Context XrdWorld) (dst : CString) (e : GError) :
    Requests (gfalXrootdCopyCleanup servers dst e) context (-1)
      (if e.code ≠ EEXIST then [.unlink (prepareUrl context.xrootd dst)] else []) := by
  by_cases hcode : e.code = EEXIST
  · rw [if_neg (by simp [hcode])]
    exact ⟨context, by simp [gfalXrootdCopyCleanup, hcode], by simp, by trivial⟩
  · rw [if_pos hcode, gfalXrootdCopyCleanup, if_pos hcode]
    obtain ⟨answer, hanswer, hunlink⟩ := gfalXrootdUnlinkG_requests servers context dst
    rcases hanswer with rfl | ⟨failed, rfl⟩
    · exact hunlink.bind fun _ _ => (Requests.event _ _ _ _).bind fun _ _ => .pure _
    · exact hunlink.bind fun _ _ => (Requests.event _ _ _ _).bind fun _ _ => .pure _

/-- The loop makes no request for the files after the first, and is outside the array where one of them is to be cleaned up. -/
theorem gatherResults_later (results : Nat → Option XrdStatus) (files : List BulkFile) {i : Nat} (hi : 0 < i) :
    gatherResults servers params results files i context =
      if params.transferCleanup ∧ (errorsFrom results files i).any (·.isSome) then .error .arrayBounds
      else .ok ((errorsFrom results files i, (copiedFrom results files i).map (·.src)), context) := by
  induction files generalizing i with
  | nil => simp [gatherResults, errorsFrom, copiedFrom]
  | cons file files ih =>
      rw [gatherResults, errorsFrom_cons]
      cases hresult : results i with
      | none =>
          rw [copiedFrom_cons_of_none hresult]
          dsimp only
          by_cases hfault : params.transferCleanup ∧ (errorsFrom results files (i + 1)).any (·.isSome)
          · have hrest := ih (Nat.succ_pos i)
            rw [if_pos hfault] at hrest
            rw [if_pos (by simpa using hfault), bind_of_error hrest]
          · have hrest := ih (Nat.succ_pos i)
            rw [if_neg hfault] at hrest
            rw [if_neg (by simpa using hfault), bind_of_ok hrest]
            simp
      | some status =>
          rw [copiedFrom_cons_of_some hresult]
          dsimp only
          by_cases hcleanup : params.transferCleanup = true
          · have hfault : cleanUpPlaced servers params i file.dst (runError status) context = .error .arrayBounds := by
              simp [cleanUpPlaced, hcleanup, Nat.ne_of_gt hi]
            rw [if_pos (by simp [hcleanup])]
            exact bind_of_error hfault
          · have hskip : cleanUpPlaced servers params i file.dst (runError status) context = .ok ((), context) := by
              simp [cleanUpPlaced, hcleanup]
            have hrest := ih (Nat.succ_pos i)
            rw [if_neg (by simp [hcleanup])] at hrest
            rw [if_neg (by simp [hcleanup])]
            exact (bind_of_ok hskip).trans ((bind_of_ok hrest).trans (by simp [runError]))

/-- The loop from the second file on, where none of them is to be cleaned up. -/
theorem gatherResults_later_requests (hothers : params.transferCleanup → (errorsFrom results files 1).any (·.isSome) = false) :
    Requests (gatherResults servers params results files 1) context
      (errorsFrom results files 1, (copiedFrom results files 1).map (·.src)) [] := by
  refine ⟨context, ?_, by simp, by trivial⟩
  rw [gatherResults_later results files Nat.one_pos, if_neg]
  rintro ⟨hcleanup, hfailed⟩
  rw [hothers hcleanup] at hfailed
  cases hfailed

theorem cleanUpPlaced_requests (servers : XrdServers) (params : XrootdCopyParams) (context : Gfal2Context XrdWorld)
    (dst : CString) (status : XrdStatus) :
    Requests (cleanUpPlaced servers params 0 dst (runError status)) context ()
      (if params.transferCleanup ∧ status.errno ≠ EEXIST then [.unlink (prepareUrl context.xrootd dst)] else []) := by
  by_cases hcleanup : params.transferCleanup = true
  · have hrequests : (if params.transferCleanup ∧ status.errno ≠ EEXIST then [.unlink (prepareUrl context.xrootd dst)] else []) =
        (if (runError status).code ≠ EEXIST then [XrdExchange.unlink (prepareUrl context.xrootd dst)] else []) ++ [] := by
      by_cases hcode : status.errno = EEXIST <;> simp [hcleanup, runError, xrootd2gliberr, gfal2SetError, hcode]
    rw [hrequests, cleanUpPlaced, if_pos hcleanup, if_pos (by trivial)]
    exact (gfalXrootdCopyCleanup_requests servers context dst (runError status)).bind fun _ _ => .pure ()
  · simpa [cleanUpPlaced, hcleanup] using Requests.pure ()

/-- The loop over all files, where only the first may be cleaned up. -/
theorem gatherResults_requests (servers : XrdServers) (context : Gfal2Context XrdWorld)
    (hothers : params.transferCleanup → ∀ i, 0 < i → i < files.length → results i = none) :
    Requests (gatherResults servers params results files 0) context
      (errorsFrom results files 0, (copiedFrom results files 0).map (·.src))
      (if params.transferCleanup then (failedFrom results files 0).map fun file => .unlink (prepareUrl context.xrootd file.dst)
        else []) := by
  cases files with
  | nil => simpa [gatherResults, errorsFrom, copiedFrom, failedFrom] using Requests.pure ([], [])
  | cons file files =>
      have hlater : params.transferCleanup → (errorsFrom results files 1).any (·.isSome) = false := by
        intro hcleanup
        rw [any_errorsFrom_iff]
        intro i hle hlt
        exact hothers hcleanup i (by omega) (by simp only [List.length_cons]; omega)
      have hnone : params.transferCleanup → failedFrom results files 1 = [] := fun hcleanup => failedFrom_eq_nil (hlater hcleanup)
      rw [gatherResults, errorsFrom_cons]
      cases hresult : results 0 with
      | none =>
          rw [copiedFrom_cons_of_none hresult, failedFrom_cons_of_none hresult]
          have hrequests : (if params.transferCleanup then (failedFrom results files 1).map fun file =>
              .unlink (prepareUrl context.xrootd file.dst) else []) = ([] ++ [] : XrdHistory) := by
            by_cases hcleanup : params.transferCleanup = true
            · simp [hnone hcleanup]
            · simp [hcleanup]
          rw [hrequests]
          exact (gatherResults_later_requests hlater).bind fun _ _ => .pure _
      | some status =>
          have hrequests : (if params.transferCleanup then (failedFrom results (file :: files) 0).map fun file =>
              .unlink (prepareUrl context.xrootd file.dst) else []) =
              (if params.transferCleanup ∧ status.errno ≠ EEXIST then [.unlink (prepareUrl context.xrootd file.dst)] else []) ++
                ([] ++ [] : XrdHistory) := by
            by_cases hcleanup : params.transferCleanup = true
            · by_cases hcode : status.errno = EEXIST <;> simp [failedFrom_cons_of_some hresult, hnone hcleanup, hcleanup, hcode]
            · simp [hcleanup]
          rw [hrequests, copiedFrom_cons_of_some hresult]
          exact (cleanUpPlaced_requests servers params context file.dst status).bind fun _ _ =>
            (gatherResults_later_requests hlater).bind fun _ _ => .pure _

/-- Where another file than the first is to be cleaned up, the loop is outside the array. -/
theorem gatherResults_fault (hcleanup : params.transferCleanup)
    {i : Nat} (hpos : 0 < i) (hlt : i < files.length) (hfailed : results i ≠ none) :
    gatherResults servers params results files 0 context = .error .arrayBounds := by
  cases files with
  | nil => simp at hlt
  | cons file files =>
      have hlater : ∀ context, gatherResults servers params results files 1 context = .error .arrayBounds := by
        intro context
        rw [gatherResults_later results files Nat.one_pos, if_pos]
        refine ⟨hcleanup, ?_⟩
        by_contra hnone
        exact hfailed (any_errorsFrom_iff.mp (by simpa using hnone) i hpos (by simp only [List.length_cons] at hlt; omega))
      rw [gatherResults]
      cases hresult : results 0 with
      | none => exact bind_of_error (hlater context)
      | some status =>
          obtain ⟨context', hclean, -, -⟩ := cleanUpPlaced_requests servers params context file.dst status
          exact (bind_of_ok hclean).trans (bind_of_error (hlater context'))

theorem evictCopied_fault (hevict : params.evict = true) : evictCopied servers params [] context = .error .arrayBounds := by
  rw [evictCopied, if_pos hevict]
  exact bind_of_error (by simp [gfalXrootdReleaseFileList])

theorem gfalXrootdReleaseFileList_requests (servers : XrdServers) (context : Gfal2Context XrdWorld) (url : CString)
    (urls : List CString) : ∃ ret, Requests (gfalXrootdReleaseFileList servers (url :: urls)) context ret
      [.prepareEvict (servers.endpoint (prepareUrl context.xrootd url))
        ((url :: urls).map fun url => servers.pathWithParams (prepareUrl context.xrootd url))] := by
  let endpoint := servers.endpoint (prepareUrl context.xrootd url)
  let paths := (url :: urls).map fun url => servers.pathWithParams (prepareUrl context.xrootd url)
  have hmade : Requests _ context _ _ := .made (.prepareEvict endpoint paths) (servers.prepareEvict endpoint paths)
  cases hevicted : servers.prepareEvict endpoint paths context.world.made with
  | none =>
      rw [hevicted] at hmade
      exact ⟨_, .get_bind (hmade.bind fun _ _ => .pure _)⟩
  | some status =>
      rw [hevicted] at hmade
      exact ⟨_, .get_bind (hmade.bind fun _ _ => .pure _)⟩

/-- The eviction of what was copied: no request without it, and none for a list that is empty. -/
theorem evictCopied_requests {copied : List CString} (hcopied : params.evict → copied ≠ []) :
    Requests (evictCopied servers params copied) context ()
      (if params.evict then [.prepareEvict (servers.endpoint (prepareUrl context.xrootd (copied.headD [])))
        (copied.map fun url => servers.pathWithParams (prepareUrl context.xrootd url))] else []) := by
  by_cases hevict : params.evict = true
  · cases copied with
    | nil => exact absurd (by trivial) (hcopied hevict)
    | cons url urls =>
        obtain ⟨ret, hrelease⟩ := gfalXrootdReleaseFileList_requests servers context url urls
        rw [if_pos hevict, evictCopied, if_pos hevict]
        exact hrelease.bind fun _ _ => .event _ _ _ _
  · simpa [evictCopied, hevict] using Requests.pure ()

/-- A single copy that failed as a whole leaves no errors of its files. -/
theorem finishCopies_single (servers : XrdServers) (params : XrootdCopyParams) (context : Gfal2Context XrdWorld) (file : BulkFile)
    (status : XrdStatus) (results : Nat → Option XrdStatus) :
    ∃ answer context', finishCopies servers params [file] (some status) results context = .ok (answer, context') ∧
      answer.fileErrors = none := by
  rw [finishCopies]
  by_cases hcleanup : params.transferCleanup = true
  · obtain ⟨context', hclean, -, -⟩ := gfalXrootdCopyCleanup_requests servers context file.dst (runError status)
    refine ⟨{ ret := -1, opError := some (runError status) }, context', ?_, by trivial⟩
    rw [if_pos hcleanup]
    exact bind_of_ok hclean
  · exact ⟨_, context, by rw [if_neg hcleanup, pure_apply], by trivial⟩

theorem finishCopies_several (hoverall : files.length = 1 → overall = none)
    (results : Nat → Option XrdStatus) : finishCopies servers params files overall results = (do
      let (errors, copied) ← gatherResults servers params results files 0
      evictCopied servers params copied
      return { ret := -(errors.countP (·.isSome) : Int), fileErrors := some errors }) := by
  rw [finishCopies]
  rintro file status rfl rfl
  cases hoverall (by simp)

/-- A copy whose jobs are run goes on from their results. -/
theorem gfalXrootd3rdCopyBulk_run (hrun : JobsRun servers params files results context overall) :
    ∃ ready first, gfalXrootd3rdCopyBulk servers params files context = finishCopies servers params files overall results ready ∧
      ready.world.made = context.world.made ++ first ∧ ready.xrootd = context.xrootd ∧ unlinkedUrls first = [] ∧
      evictedFiles first = [] ∧ ∀ endpoint paths, .prepareEvict endpoint paths ∉ first := by
  obtain ⟨jobs, parallel, hjobs, hparallel, hprepared, hanswers⟩ := hrun
  obtain ⟨prepared, hprepare, hmade, hsame⟩ : Requests _ context _ _ :=
    .made (.prepareCopy jobs parallel) (servers.prepareCopy jobs parallel)
  obtain ⟨ready, hready, hmade', hsame'⟩ : Requests _ prepared _ _ := .made .runCopy servers.runCopy
  rw [hprepared] at hprepare
  rw [hmade, hanswers] at hready
  refine ⟨ready, [.prepareCopy jobs parallel] ++ [.runCopy], ?_, ?_, hsame'.trans hsame, ?_, ?_, ?_⟩
  · rw [gfalXrootd3rdCopyBulk, get_bind_apply, hjobs]
    dsimp only
    rw [hparallel, bind_of_ok hprepare]
    exact bind_of_ok hready
  · rw [hmade', hmade, List.append_assoc]
  · simp [unlinkedUrls]
  · simp [evictedFiles]
  · simp

/-- What a copy comes to that gets through its results. -/
def closingAnswer (results : Nat → Option XrdStatus) (files : List BulkFile) : BulkAnswer :=
  { ret := -((errorsFrom results files 0).countP (·.isSome) : Int), fileErrors := some (errorsFrom results files 0) }

/-- What it asks for on its way. -/
def closingRequests (servers : XrdServers) (context : XrootdContext) (params : XrootdCopyParams) (files : List BulkFile)
    (results : Nat → Option XrdStatus) : XrdHistory :=
  (if params.transferCleanup then (failedFrom results files 0).map fun file => .unlink (prepareUrl context file.dst) else []) ++
    (if params.evict then [.prepareEvict
        (servers.endpoint (prepareUrl context (((copiedFrom results files 0).map (·.src)).headD [])))
        (((copiedFrom results files 0).map (·.src)).map fun url => servers.pathWithParams (prepareUrl context url))] else [])

theorem finishCopies_requests (servers : XrdServers) (context : Gfal2Context XrdWorld)
    (hsingle : files.length = 1 → overall = none)
    (hothers : params.transferCleanup → ∀ i, 0 < i → i < files.length → results i = none)
    (hcopied : params.evict → copiedFrom results files 0 ≠ []) :
    Requests (finishCopies servers params files overall results) context (closingAnswer results files)
      (closingRequests servers context.xrootd params files results) := by
  rw [finishCopies_several hsingle]
  refine (gatherResults_requests servers context hothers).bind fun context' hsame => ?_
  rw [← hsame]
  exact (evictCopied_requests (by simpa using hcopied)).bind_pure fun _ => closingAnswer results files

/-- A copy that has an outcome with the errors of its files got through its results. -/
theorem finishCopies_outcome {answer : BulkAnswer} {context' : Gfal2Context XrdWorld}
    (hanswer : finishCopies servers params files overall results context = .ok (answer, context')) (herrors : answer.fileErrors ≠ none) :
    (files.length = 1 → overall = none) ∧
      (params.transferCleanup → ∀ i, 0 < i → i < files.length → results i = none) ∧
      (params.evict → copiedFrom results files 0 ≠ []) := by
  have hsingle : files.length = 1 → overall = none := by
    intro hlength
    obtain ⟨file, rfl⟩ := List.length_eq_one_iff.mp hlength
    cases overall with
    | none => trivial
    | some status =>
        obtain ⟨other, last, hfailed, hnone⟩ := finishCopies_single servers params context file
          status results
        obtain ⟨rfl, rfl⟩ := ok_inj (hfailed.symm.trans hanswer)
        exact absurd hnone herrors
  have hothers : params.transferCleanup → ∀ i, 0 < i → i < files.length → results i = none := by
    intro hcleanup i hpos hlt
    by_contra hfailed
    rw [finishCopies_several hsingle, bind_of_error (gatherResults_fault hcleanup hpos hlt hfailed)] at hanswer
    cases hanswer
  refine ⟨hsingle, hothers, fun hevict hempty => ?_⟩
  obtain ⟨middle, hgathered, -, -⟩ := gatherResults_requests servers context hothers
  rw [finishCopies_several hsingle, bind_of_ok hgathered] at hanswer
  rw [hempty] at hanswer
  dsimp only at hanswer
  rw [List.map_nil, bind_of_error (evictCopied_fault hevict)] at hanswer
  cases hanswer

end Steps

section Judging

variable {servers : XrdServers} {context : XrootdContext} {params : XrootdCopyParams} {files : List BulkFile}
  {results : Nat → Option XrdStatus} {existed : CString → Prop}

theorem unlinkedUrls_closing : unlinkedUrls (closingRequests servers context params files results) =
      if params.transferCleanup then (failedFrom results files 0).map fun file => prepareUrl context file.dst else [] := by
  have hcleaned : unlinkedUrls (if params.transferCleanup then (failedFrom results files 0).map fun file =>
      .unlink (prepareUrl context file.dst) else []) =
      if params.transferCleanup then (failedFrom results files 0).map fun file => prepareUrl context file.dst else [] := by
    rw [apply_ite unlinkedUrls, unlinkedUrls_map]
    simp [unlinkedUrls]
  have hnone (endpoint : CString) (paths : List CString) :
      unlinkedUrls (if params.evict then [.prepareEvict endpoint paths] else []) = [] := by
    rw [apply_ite unlinkedUrls]
    simp [unlinkedUrls]
  rw [closingRequests, unlinkedUrls_append, hcleaned, hnone, List.append_nil]

theorem evictedFiles_cleaned : evictedFiles (if params.transferCleanup then (failedFrom results files 0).map fun file =>
    .unlink (prepareUrl context file.dst) else []) = [] := by
  rw [apply_ite evictedFiles, evictedFiles_map_unlink]
  simp [evictedFiles]

theorem evictedFiles_closing (hevict : params.evict = true) :
    evictedFiles (closingRequests servers context params files results) = (copiedFrom results files 0).map fun file =>
      (servers.endpoint (prepareUrl context (((copiedFrom results files 0).map (·.src)).headD [])),
        servers.pathWithParams (prepareUrl context file.src)) := by
  rw [closingRequests, evictedFiles_append, evictedFiles_cleaned, if_pos hevict, evictedFiles_singleton, List.nil_append,
    List.map_map, List.map_map]
  rfl

/-- The sources are evicted where they are exactly if they are all at one endpoint. -/
theorem evictedFiles_closing_iff : evictedFiles (closingRequests servers context params files results) =
        (if params.evict then (copiedFrom results files 0).map (sourceFile servers context) else []) ↔
      (params.evict → ∀ file ∈ copiedFrom results files 0, ∀ other ∈ copiedFrom results files 0,
        (sourceFile servers context file).1 = (sourceFile servers context other).1) := by
  by_cases hevict : params.evict = true
  · rw [evictedFiles_closing hevict, if_pos hevict, List.map_inj_left]
    simp only [sourceFile, Prod.mk.injEq, and_true, hevict, true_implies]
    cases copiedFrom results files 0 with
    | nil => simp
    | cons first rest =>
        simp only [List.map_cons, List.headD_cons]
        constructor
        · intro hsame file hfile other hother
          exact (hsame file hfile).symm.trans (hsame other hother)
        · intro hsame file hfile
          exact hsame first (by simp) file hfile
  · rw [closingRequests, evictedFiles_append, evictedFiles_cleaned, if_neg hevict, if_neg hevict]
    simp [evictedFiles, hevict]

theorem not_mem_closing (hcopied : params.evict → copiedFrom results files 0 ≠ []) (endpoint : CString) :
    .prepareEvict endpoint [] ∉ closingRequests servers context params files results := by
  rw [closingRequests, List.mem_append, not_or]
  constructor
  · by_cases hcleanup : params.transferCleanup = true <;> simp [hcleanup]
  · by_cases hevict : params.evict = true
    · rw [if_pos hevict, List.mem_singleton, XrdExchange.prepareEvict.injEq, not_and]
      intro _ hempty
      have hcopied := hcopied hevict
      simp_all
    · simp [hevict]

theorem kept_closing_iff (hothers : params.transferCleanup → ∀ i, 0 < i → i < files.length → results i = none) :
    (¬params.replaceExisting → ∀ url ∈ unlinkedUrls (closingRequests servers context params files results), ¬existed url) ↔
      (params.transferCleanup → ¬params.replaceExisting → ∀ file status, files.head? = some file → results 0 = some status →
        status.errno ≠ EEXIST → ¬existed (prepareUrl context file.dst)) := by
  rw [unlinkedUrls_closing]
  by_cases hcleanup : params.transferCleanup = true
  · rw [if_pos hcleanup]
    simp only [List.forall_mem_map, mem_failedFrom, forall_exists_index, and_imp, hcleanup, true_implies]
    constructor
    · intro hkept hreplace file status hhead hresult hcode
      exact hkept hreplace file 0 status (by rw [← List.head?_eq_getElem?, hhead]) hresult hcode
    · intro hkept hreplace file j status hfound hresult hcode
      cases j with
      | zero => exact hkept hreplace file status (by rw [List.head?_eq_getElem?, hfound]) hresult hcode
      | succ j =>
          obtain ⟨hlt, -⟩ := List.getElem?_eq_some_iff.mp hfound
          rw [hothers hcleanup (j + 1) (by omega) hlt] at hresult
          cases hresult
  · simp [hcleanup]

end Judging

/-- A bulk copy closes each of its files by the file's own outcome exactly if a single copy has no outcome of the whole run, no file but
the first is to be cleaned up, a file was copied where copies are to be evicted, all at one endpoint, and the destination that is removed
was not there before. -/
theorem bulk_copy_closes_iff (servers : XrdServers) (params : XrootdCopyParams) (files : List BulkFile)
    (context : Gfal2Context XrdWorld) (overall : Option XrdStatus) (results : Nat → Option XrdStatus) (existed : CString → Prop)
    (hrun : JobsRun servers params files results context overall) :
    BulkCopyCloses servers params files results existed context ↔
      ClosesWhen servers context.xrootd params files results existed overall := by
  obtain ⟨ready, first, hcopy, hmade, hsame, hunlinked, hevicted, hnone⟩ := gfalXrootd3rdCopyBulk_run hrun
  constructor
  · rintro ⟨answer, context', requests, hanswer, hrequests, hcloses⟩
    rw [hcopy] at hanswer
    have herrors : answer.fileErrors ≠ none := by
      obtain ⟨errors, herrors, -⟩ := hcloses.errors
      simp [herrors]
    obtain ⟨hsingle, hothers, hcopied⟩ := finishCopies_outcome hanswer herrors
    obtain ⟨last, hfinish, hmade', -⟩ := finishCopies_requests servers ready hsingle hothers hcopied
    obtain ⟨-, rfl⟩ := ok_inj (hfinish.symm.trans hanswer)
    have hall : requests = first ++ closingRequests servers context.xrootd params files results := by
      rw [hmade', hmade, hsame, List.append_assoc] at hrequests
      exact (List.append_cancel_left hrequests).symm
    have hevicts := hcloses.evicted
    have hkept := hcloses.kept
    rw [hall, evictedFiles_append, hevicted, List.nil_append] at hevicts
    rw [hall, unlinkedUrls_append, hunlinked, List.nil_append] at hkept
    exact ⟨hsingle, hothers, hcopied, evictedFiles_closing_iff.mp hevicts, (kept_closing_iff hothers).mp hkept⟩
  · intro hwhen
    obtain ⟨last, hfinish, hmade', -⟩ := finishCopies_requests servers ready hwhen.single hwhen.onlyFirst
      hwhen.someCopied
    rw [hsame, hmade, List.append_assoc] at hmade'
    refine ⟨_, last, _, by rw [hcopy, hfinish], hmade', ?_⟩
    refine ⟨⟨_, by rw [closingAnswer], by trivial⟩, by rw [closingAnswer], ?_, ?_, ?_, ?_⟩
    · rw [unlinkedUrls_append, hunlinked, List.nil_append, unlinkedUrls_closing]
    · rw [unlinkedUrls_append, hunlinked, List.nil_append]
      exact (kept_closing_iff hwhen.onlyFirst).mpr hwhen.notThere
    · rw [evictedFiles_append, hevicted, List.nil_append]
      exact evictedFiles_closing_iff.mpr hwhen.oneEndpoint
    · intro endpoint hempty
      rcases List.mem_append.mp hempty with hfirst | hclosing
      · exact hnone endpoint [] hfirst
      · exact not_mem_closing hwhen.someCopied endpoint hclosing

/-! Two copies of which one fails, under a clean-up. -/

def failingResults (i : Nat) (code : Int) (j : Nat) : Option XrdStatus := if j = i then some ⟨code, lit "failed"⟩ else none

def failing (i : Nat) (code : Int) : XrdServers := { md5Servers with runCopy := fun _ => (none, failingResults i code) }

def twoFiles : List BulkFile :=
  [⟨lit "root://a.ch//f", lit "root://b.ch//f", none⟩, ⟨lit "root://a.ch//g", lit "root://b.ch//g", none⟩]

def emptyXrdContext : Gfal2Context XrdWorld := { world := { plugin := {} } }

theorem jobsRun_failing (i : Nat) (code : Int) : JobsRun (failing i code) {} twoFiles (failingResults i code) emptyXrdContext none :=
  ⟨_, 20, buildJobs_of_none (by trivial), by trivial, by trivial, by trivial⟩

/-- A first copy that finds its destination there is closed. -/
theorem bulk_copy_closes_first :
    BulkCopyCloses (failing 0 EEXIST) {} twoFiles (failingResults 0 EEXIST) (fun _ => True) emptyXrdContext := by
  apply (bulk_copy_closes_iff _ _ _ _ none _ _ (jobsRun_failing 0 EEXIST)).mpr
  refine ⟨fun _ => by trivial, ?_, by decide, by decide, ?_⟩
  · intro _ i hpos _
    exact if_neg (by omega)
  · intro _ _ file status _ hresult hcode
    obtain rfl := Option.some.inj hresult
    exact absurd (by trivial) hcode

/-- A second copy that fails is cleaned up outside the array. -/
theorem second_failure_out_of_bounds :
    ¬BulkCopyCloses (failing 1 ENOENT) {} twoFiles (failingResults 1 ENOENT) (fun _ => False) emptyXrdContext := by
  obtain ⟨ready, _, hcopy, -⟩ := gfalXrootd3rdCopyBulk_run (jobsRun_failing 1 ENOENT)
  rintro ⟨answer, context', requests, hanswer, -, hcloses⟩
  have herrors : answer.fileErrors ≠ none := by
    obtain ⟨errors, herrors, -⟩ := hcloses.errors
    simp [herrors]
  obtain ⟨-, hothers, -⟩ := finishCopies_outcome (hcopy.symm.trans hanswer) herrors
  exact absurd (hothers (by trivial) 1 (by decide) (by decide)) (by decide)

end Gfal2
