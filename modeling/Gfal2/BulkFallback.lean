import Gfal2.CopyInvariants

/-! The files of a bulk copy without a plugin for the list. Each file that fails has its error, and the value
returned counts them. The settings under which a file is copied are those under which it would be copied
alone, unless a type was left in the parameters by a file before it or read from an uninitialised
array. -/

namespace Gfal2

open Base Exec

variable {σ : Type} {files : List BulkFile} {answer : Int × List FileOutcome}

/-! ### Errors and the count -/

section Errors

/-- A value is negative exactly when the error is set. -/
def Tells (ret : Ret Int) : Prop := ret.val < 0 ↔ ret.err.isSome = true

theorem tells_failure (e : GError) : Tells ⟨-1, some e⟩ := iff_of_true (Int.negSucc_lt_zero 0) rfl

theorem tells_success : Tells ⟨0, none⟩ := iff_of_false (by decide) Bool.false_ne_true

theorem tells_of_isSome {err : Option GError} (h : err.isSome = true) : Tells ⟨-1, err⟩ :=
  iff_of_true (Int.negSucc_lt_zero 0) h

/-- A plugin whose copies fail exactly when they set the error. -/
def CopiesHonestly (p : GfalPluginInterface σ) : Prop :=
  ∀ call, p.copyFile = some call → ∀ params src dst world, Tells (call params src dst world).1

variable {context : Gfal2Context σ}

theorem checkDestination_tells (mode : ChecksumMode) (dst type user source : CString) :
    Ensures (checkDestination mode dst type user source) context fun ret _ => Tells ret := by
  unfold checkDestination
  refine Ensures.ite (fun _ => Ensures.pure tells_success) fun _ => ?_
  refine Ensures.bind (fun _ _ _ => trivial) fun destination context' _ => ?_
  refine Ensures.ite (fun h => Ensures.pure (tells_of_isSome h)) fun _ => ?_
  exact Ensures.ite (fun _ => Ensures.pure (tells_failure _)) fun _ => Ensures.pure tells_success

theorem performLocalCopy_tells (fuel : Nat) (params : GfaltParams) (src dst : CString) :
    Ensures (performLocalCopy fuel params src dst) context fun ret _ => Tells ret := by
  refine Ensures.bind (fun _ _ _ => trivial) fun source _ _ => ?_
  refine Ensures.ite (fun h => Ensures.pure (tells_of_isSome h)) fun _ => ?_
  refine Ensures.bind (fun _ _ _ => trivial) fun prepared _ _ => ?_
  refine Ensures.ite (fun h => Ensures.pure (tells_of_isSome h)) fun _ => ?_
  refine Ensures.bind (fun _ _ _ => trivial) fun copied _ _ => ?_
  exact Ensures.ite (fun h => Ensures.pure (tells_of_isSome h)) fun _ => checkDestination_tells _ _ _ _ _

theorem performCopy_tells (fuel : Nat) (params : GfaltParams) (src dst : CString)
    (hhonest : AllPlugins CopiesHonestly context) :
    Ensures (performCopy fuel params src dst) context fun ret _ => Tells ret := by
  have stable : Stable (AllPlugins (CopiesHonestly (σ := σ))) := stable_allPlugins _
  refine (stable.triggerListenerPlugins params context hhonest).bind fun _ context₁ h₁ => ?_
  refine (stable.notifyCopyList _ context₁ h₁).bind fun _ context₂ h₂ => ?_
  refine Ensures.bind (Preserves.bind Preserves.get (fun _ => Preserves.pure _) context₂ h₂) fun found context₃ h₃ => ?_
  cases found with
  | none => exact Ensures.ite (fun _ => performLocalCopy_tells _ _ _ _) fun _ => Ensures.pure (tells_failure _)
  | some slot =>
      intro ret context₄ hrun
      obtain ⟨plugin, context₅, hat, hrun⟩ := Exec.bind_eq_ok.mp hrun
      cases hat
      obtain ⟨call, hcall, rfl, -⟩ := callPlugin_eq_ok.mp hrun
      obtain ⟨copy, hcopy, rfl⟩ := Option.map_eq_some_iff.mp hcall
      exact h₃.loaded slot copy hcopy params src dst context₃.world

/-- What the errors and the value of a bulk copy say: one outcome for each file, with its error set exactly if
the file failed, and minus the number of those that failed. -/
structure ReportsFailures (files : List BulkFile) (answer : Int × List FileOutcome) : Prop where
  length : answer.2.length = files.length
  errors : ∀ outcome ∈ answer.2, outcome.subret < 0 ↔ outcome.error.isSome = true
  count : answer.1 = -(answer.2.countP fun outcome => outcome.subret < 0 : Nat)

theorem gfaltSetChecksum_tells (params : GfaltParams) (mode : ChecksumMode) (type checksum : Option CString) :
    Tells (gfaltSetChecksum params mode type checksum).1 := by
  unfold gfaltSetChecksum
  split
  · exact tells_failure _
  · exact tells_success

theorem setChecksum_tells (uninitialised : CString) (params : GfaltParams) (checksum : Option CString) :
    Tells (setChecksum uninitialised params checksum).1 := by
  unfold setChecksum
  split
  · exact gfaltSetChecksum_tells _ _ _ _
  · split
    · exact gfaltSetChecksum_tells _ _ _ _
    · exact gfaltSetChecksum_tells _ _ _ _

theorem ReportsFailures.cons (file : BulkFile) (h : ReportsFailures files answer) (outcome : FileOutcome)
    (houtcome : outcome.subret < 0 ↔ outcome.error.isSome = true) :
    ReportsFailures (file :: files)
      (if outcome.subret < 0 then answer.1 - 1 else answer.1, outcome :: answer.2) := by
  refine ⟨congrArg Nat.succ h.length, List.forall_mem_cons.mpr ⟨houtcome, h.errors⟩, ?_⟩
  show (if outcome.subret < 0 then answer.1 - 1 else answer.1) = _
  rw [List.countP_cons, h.count]
  by_cases hfailed : outcome.subret < 0
  · simp only [hfailed, decide_true, if_true, Int.natCast_add, Int.natCast_one]
    omega
  · simp only [hfailed, decide_false, if_false, Bool.false_eq_true, Nat.add_zero]

theorem bulkLoop_reports (fuel : Nat) (uninitialised : Nat → CString) (i : Nat) (params : GfaltParams)
    (files : List BulkFile) (hhonest : AllPlugins CopiesHonestly context) :
    Ensures (bulkLoop fuel uninitialised i params files) context fun answer _ => ReportsFailures files answer := by
  induction files generalizing i params context with
  | nil => exact Ensures.pure ⟨rfl, fun _ h => absurd h List.not_mem_nil, rfl⟩
  | cons file rest ih =>
      refine Ensures.ite (fun hfailed => ?_) fun _ => ?_
      · refine (ih _ _ hhonest).bind fun others context' hothers => Ensures.pure ?_
        have hcons := hothers.cons file ⟨_, _, none⟩
          (setChecksum_tells (uninitialised i) params file.checksum)
        rwa [if_pos hfailed] at hcons
      · have hcopy := (performCopy_tells fuel (setChecksum (uninitialised i) params file.checksum).2 file.src file.dst
          hhonest).and ((stable_allPlugins _).performCopy fuel _ file.src file.dst context hhonest)
        refine hcopy.bind fun copied context₁ h₁ => (ih _ _ h₁.2).bind fun others context₂ hothers => ?_
        exact Ensures.pure (hothers.cons file ⟨_, _, _⟩ h₁.1)

end Errors

/-! ### The settings -/

/-- The parameters the loop leaves behind. -/
def paramsAfter (uninitialised : Nat → CString) : Nat → GfaltParams → List BulkFile → GfaltParams
  | _, params, [] => params
  | i, params, file :: rest =>
      paramsAfter uninitialised (i + 1) (setChecksum (uninitialised i) params file.checksum).2 rest

/-- The settings under which the copy of a file is called, if it is. -/
def settingsOf (uninitialised : CString) (params : GfaltParams) (file : BulkFile) : Option ChecksumSettings :=
  if (setChecksum uninitialised params file.checksum).1.val < 0 then none
  else some (setChecksum uninitialised params file.checksum).2.checksum

/-- The settings recorded for the files of a loop. -/
def settingsFrom (uninitialised : Nat → CString) : Nat → GfaltParams → List BulkFile →
    List (Option ChecksumSettings)
  | _, _, [] => []
  | i, params, file :: rest =>
      settingsOf (uninitialised i) params file ::
        settingsFrom uninitialised (i + 1) (setChecksum (uninitialised i) params file.checksum).2 rest

theorem bulkLoop_settings (fuel : Nat) (uninitialised : Nat → CString) (i : Nat) (params : GfaltParams)
    (files : List BulkFile) (context : Gfal2Context σ) :
    Ensures (bulkLoop fuel uninitialised i params files) context fun answer _ =>
      answer.2.map FileOutcome.settings = settingsFrom uninitialised i params files := by
  induction files generalizing i params context with
  | nil => exact Ensures.pure rfl
  | cons file rest ih =>
      refine Ensures.ite (fun hfailed => ?_) fun hset => ?_
      · refine (ih _ _ context).bind fun others _ hothers => Ensures.pure ?_
        rw [settingsFrom, settingsOf, if_pos hfailed, ← hothers]
        rfl
      · refine Ensures.bind (fun _ _ _ => trivial) fun copied context₁ _ => ?_
        refine (ih _ _ context₁).bind fun others _ hothers => Ensures.pure ?_
        rw [settingsFrom, settingsOf, if_neg hset, ← hothers]
        rfl

section Settings

variable (uninitialised : Nat → CString) (i : Nat) (params : GfaltParams)
include uninitialised i params

theorem settingsFrom_append (earlier later : List BulkFile) :
    settingsFrom uninitialised i params (earlier ++ later) = settingsFrom uninitialised i params earlier ++
      settingsFrom uninitialised (i + earlier.length) (paramsAfter uninitialised i params earlier) later := by
  induction earlier generalizing i params with
  | nil => rfl
  | cons file rest ih =>
      rw [List.cons_append, settingsFrom, ih, List.length_cons, Nat.add_assoc, Nat.add_comm 1]
      rfl

theorem length_settingsFrom (files : List BulkFile) : (settingsFrom uninitialised i params files).length = files.length := by
  induction files generalizing i params with
  | nil => rfl
  | cons file rest ih => exact congrArg Nat.succ (ih _ _)

/-- The settings of the file between two parts of the list. -/
theorem settingsFrom_getElem (earlier : List BulkFile) (file : BulkFile) (later : List BulkFile) :
    (settingsFrom uninitialised i params (earlier ++ file :: later))[earlier.length]? =
      some (settingsOf (uninitialised (i + earlier.length)) (paramsAfter uninitialised i params earlier) file) := by
  rw [settingsFrom_append, List.getElem?_append_right (by rw [length_settingsFrom]), length_settingsFrom,
    Nat.sub_self]
  rfl

end Settings

/-! ### Types -/

/-- The type before the colon, if there is a colon. -/
def typeOf (file : BulkFile) : Option CString :=
  file.checksum.bind fun checksum => (strchr checksum ':').map (chktypeBefore [] checksum)

/-- What comes after the colon, or the whole checksum. -/
def valueOf (file : BulkFile) : Option CString :=
  file.checksum.map fun checksum =>
    match strchr checksum ':' with
    | some colon => checksum.drop (colon + 1)
    | none => checksum

/-- The file is copied: its checksum is accepted in the mode of the parameters. -/
def Performed (params : GfaltParams) (file : BulkFile) : Prop :=
  ¬((params.checksum.mode = .source ∨ params.checksum.mode = .target) ∧
    (valueOf file = none ∨ valueOf file = some []))

instance (params : GfaltParams) (file : BulkFile) : Decidable (Performed params file) :=
  inferInstanceAs (Decidable (¬_))

/-- The checksum has an empty type before a colon. -/
def StartsWithColon (file : BulkFile) : Prop := ∃ checksum, file.checksum = some checksum ∧ strchr checksum ':' = some 0

/-- The type a file sets: as it says, or what the uninitialised array holds. -/
def typeSet (uninitialised : CString) (file : BulkFile) : Option CString :=
  file.checksum.bind fun checksum => (strchr checksum ':').map (chktypeBefore uninitialised checksum)

theorem setChecksum_eq (uninitialised : CString) (params : GfaltParams) (file : BulkFile) :
    setChecksum uninitialised params file.checksum =
      gfaltSetChecksum params params.checksum.mode (typeSet uninitialised file) (valueOf file) := by
  unfold setChecksum typeSet valueOf
  cases file.checksum with
  | none => rfl
  | some checksum =>
      dsimp only [Option.bind_some, Option.map_some]
      cases strchr checksum ':' <;> rfl

variable {params : GfaltParams} {file : BulkFile}

theorem setChecksum_of_performed (uninitialised : CString)
    (h : Performed params file) : setChecksum uninitialised params file.checksum =
      (⟨0, none⟩, { params with
        checksum := ⟨params.checksum.mode, (typeSet uninitialised file).or params.checksum.type, valueOf file⟩ }) := by
  rw [setChecksum_eq, gfaltSetChecksum]
  exact if_neg h

theorem setChecksum_of_not_performed (uninitialised : CString)
    (h : ¬Performed params file) : ∃ e, setChecksum uninitialised params file.checksum = (⟨-1, some e⟩, params) := by
  rw [setChecksum_eq, gfaltSetChecksum]
  exact ⟨_, if_pos (not_not.mp h)⟩

theorem settingsOf_of_performed (uninitialised : CString) (h : Performed params file) : settingsOf uninitialised params file =
      some ⟨params.checksum.mode, (typeSet uninitialised file).or params.checksum.type, valueOf file⟩ := by
  rw [settingsOf, setChecksum_of_performed uninitialised h]
  rfl

theorem settingsOf_of_not_performed (uninitialised : CString)
    (h : ¬Performed params file) : settingsOf uninitialised params file = none := by
  obtain ⟨e, heq⟩ := setChecksum_of_not_performed uninitialised h
  rw [settingsOf, heq]
  rfl

theorem typeSet_of_not_startsWithColon (h : ¬StartsWithColon file) (uninitialised : CString) :
    typeSet uninitialised file = typeOf file := by
  unfold typeSet typeOf
  cases hchecksum : file.checksum with
  | none => rfl
  | some checksum =>
      dsimp only [Option.bind_some]
      cases hcolon : strchr checksum ':' with
      | none => rfl
      | some colon =>
          have hsize : chktypeSize colon ≠ 0 := by
            have hne : colon ≠ 0 := by
              rintro rfl
              exact h ⟨checksum, hchecksum, hcolon⟩
            unfold chktypeSize
            split <;> omega
          rw [Option.map_some, Option.map_some, chktypeBefore, chktypeBefore, if_neg hsize, if_neg hsize]

theorem typeSet_of_startsWithColon (h : StartsWithColon file) (uninitialised : CString) :
    typeSet uninitialised file = some uninitialised := by
  obtain ⟨checksum, hchecksum, hcolon⟩ := h
  unfold typeSet
  rw [hchecksum, Option.bind_some, hcolon]
  rfl

/-- The type that the files before leave in the parameters. -/
def leftoverType (params : GfaltParams) (earlier : List BulkFile) : Option CString :=
  earlier.foldl (fun type file => if Performed params file then (typeOf file).or type else type) params.checksum.type

theorem performed_congr {params' : GfaltParams} (hmode : params'.checksum.mode = params.checksum.mode)
    (file : BulkFile) : Performed params' file ↔ Performed params file := by
  rw [Performed, Performed, hmode]

/-- The type that the loop has left in the parameters behind these files: that of the last one that was copied with a type, whether it
named it or read it from the uninitialised array, or else the first type. -/
def typeAfter (uninitialised : Nat → CString) (params : GfaltParams) : Nat → Option CString → List BulkFile → Option CString
  | _, type, [] => type
  | i, type, file :: rest =>
      typeAfter uninitialised params (i + 1) (if Performed params file then (typeSet (uninitialised i) file).or type else type) rest

theorem paramsAfter_eq (uninitialised : Nat → CString) (earlier : List BulkFile) (i : Nat) (start : GfaltParams)
    (hmode : start.checksum.mode = params.checksum.mode) :
    (paramsAfter uninitialised i start earlier).checksum.mode = params.checksum.mode ∧
      (paramsAfter uninitialised i start earlier).checksum.type = typeAfter uninitialised params i start.checksum.type earlier := by
  induction earlier generalizing i start with
  | nil => exact ⟨hmode, rfl⟩
  | cons file rest ih =>
      rw [paramsAfter, typeAfter]
      by_cases hfile : Performed params file
      · rw [setChecksum_of_performed _ ((performed_congr hmode file).mpr hfile), if_pos hfile]
        exact ih (i + 1) { start with checksum :=
          ⟨start.checksum.mode, (typeSet (uninitialised i) file).or start.checksum.type, valueOf file⟩ } hmode
      · obtain ⟨e, heq⟩ := setChecksum_of_not_performed (uninitialised i)
          (fun h => hfile ((performed_congr hmode file).mp h))
        rw [heq, if_neg hfile]
        exact ih (i + 1) start hmode

theorem typeAfter_of_named (uninitialised : Nat → CString) {earlier : List BulkFile}
    (hnamed : ∀ file ∈ earlier, Performed params file → ¬StartsWithColon file) (i : Nat) (type : Option CString) :
    typeAfter uninitialised params i type earlier =
      earlier.foldl (fun type file => if Performed params file then (typeOf file).or type else type) type := by
  induction earlier generalizing i type with
  | nil => rfl
  | cons file rest ih =>
      obtain ⟨hhead, hrest⟩ := List.forall_mem_cons.mp hnamed
      rw [typeAfter, ih hrest, List.foldl_cons]
      by_cases hfile : Performed params file
      · rw [if_pos hfile, if_pos hfile, typeSet_of_not_startsWithColon (hhead hfile)]
      · rw [if_neg hfile, if_neg hfile]

/-- The loop keeps the mode, and without a type from the uninitialised array leaves the leftover type. -/
theorem paramsAfter_checksum (uninitialised : Nat → CString) (i : Nat) (params : GfaltParams) (earlier : List BulkFile) :
    (paramsAfter uninitialised i params earlier).checksum.mode = params.checksum.mode ∧
      ((∀ file ∈ earlier, Performed params file → ¬StartsWithColon file) →
        (paramsAfter uninitialised i params earlier).checksum.type = leftoverType params earlier) := by
  obtain ⟨hmode, htype⟩ := paramsAfter_eq uninitialised earlier i params rfl
  exact ⟨hmode, fun hnamed => htype.trans (typeAfter_of_named uninitialised hnamed i _)⟩

/-- The settings under which a file is copied, if it is, where this type was left by the files before it. -/
def settingsBehind (uninitialised : CString) (params : GfaltParams) (left : Option CString) (file : BulkFile) : Option ChecksumSettings :=
  if Performed params file then some ⟨params.checksum.mode, (typeSet uninitialised file).or left, valueOf file⟩ else none

/-- The settings that a run of the loop records for the file of a place. -/
theorem settings_at {fuel i : Nat} {uninitialised : Nat → CString} {outcome : FileOutcome} {context context' : Gfal2Context σ}
    (hrun : bulkFallback fuel uninitialised params files context = .ok (answer, context')) (hfile : files[i]? = some file)
    (houtcome : answer.2[i]? = some outcome) :
    outcome.settings =
      settingsBehind (uninitialised i) params (typeAfter uninitialised params 0 params.checksum.type (files.take i)) file := by
  obtain ⟨hi, hget⟩ := List.getElem?_eq_some_iff.mp hfile
  have hsplit : files = files.take i ++ file :: files.drop (i + 1) := by
    rw [← hget, List.cons_getElem_drop_succ, List.take_append_drop]
  have hlength : (files.take i).length = i := List.length_take_of_le (Nat.le_of_lt hi)
  obtain ⟨hmode, htype⟩ := paramsAfter_eq uninitialised (files.take i) 0 params rfl
  have hplace := settingsFrom_getElem uninitialised 0 params (files.take i) file (files.drop (i + 1))
  rw [← hsplit, ← bulkLoop_settings fuel uninitialised 0 params files context answer context' hrun, hlength, Nat.zero_add,
    List.getElem?_map, houtcome, Option.map_some, Option.some.injEq] at hplace
  rw [hplace, settingsBehind]
  by_cases hperformed : Performed params file
  · rw [settingsOf_of_performed _ ((performed_congr hmode file).mpr hperformed), if_pos hperformed, hmode, htype]
  · rw [settingsOf_of_not_performed _ fun h => hperformed ((performed_congr hmode file).mp h), if_neg hperformed]

/-! ### Isolation -/

/-- The settings of a file depend only on the parameters that the caller passed and on its own checksum: they
are those of the file alone. -/
def Isolated (fuel : Nat) (context : Gfal2Context σ) (params : GfaltParams) (files : List BulkFile) : Prop :=
  ∀ uninitialised uninitialised' earlier file later answer context' alone context'', files = earlier ++ file :: later →
    bulkFallback fuel uninitialised params files context = .ok (answer, context') →
    bulkFallback fuel uninitialised' params [file] context = .ok (alone, context'') →
    (answer.2.map FileOutcome.settings)[earlier.length]? = (alone.2.map FileOutcome.settings)[0]?

/-- No file that is copied reads the uninitialised array, and a file that is copied without naming a type finds
the caller's. -/
def Sheltered (params : GfaltParams) (files : List BulkFile) : Prop :=
  ∀ earlier file later, files = earlier ++ file :: later → Performed params file →
    ¬StartsWithColon file ∧ (typeOf file = none → leftoverType params earlier = params.checksum.type)

/-- The settings of a file in its place and alone. -/
theorem settings_in_place (fuel : Nat) (params : GfaltParams) (earlier : List BulkFile) (file : BulkFile)
    (later : List BulkFile) {uninitialised uninitialised' : Nat → CString}
    {context context' context'' : Gfal2Context σ} {alone : Int × List FileOutcome}
    (hanswer : bulkFallback fuel uninitialised params (earlier ++ file :: later) context = .ok (answer, context'))
    (halone : bulkFallback fuel uninitialised' params [file] context = .ok (alone, context'')) :
    (answer.2.map FileOutcome.settings)[earlier.length]? =
        some (settingsOf (uninitialised earlier.length) (paramsAfter uninitialised 0 params earlier) file) ∧
      (alone.2.map FileOutcome.settings)[0]? = some (settingsOf (uninitialised' 0) params file) := by
  constructor
  · rw [bulkLoop_settings fuel uninitialised 0 params _ context answer context' hanswer, settingsFrom_getElem,
      Nat.zero_add]
  · rw [bulkLoop_settings fuel uninitialised' 0 params _ context alone context'' halone]
    rfl

theorem isolated_of_sheltered (fuel : Nat) (context : Gfal2Context σ)
    (h : Sheltered params files) : Isolated fuel context params files := by
  rintro uninitialised uninitialised' earlier file later answer context' alone context'' rfl hanswer halone
  obtain ⟨hplace, hsingle⟩ := settings_in_place fuel params earlier file later hanswer halone
  obtain ⟨hmode, htype⟩ := paramsAfter_checksum uninitialised 0 params earlier
  rw [hplace, hsingle]
  by_cases hfile : Performed params file
  · obtain ⟨hcolon, hleft⟩ := h earlier file later rfl hfile
    have hearlier : ∀ other ∈ earlier, Performed params other → ¬StartsWithColon other := by
      intro other hother hperformed
      obtain ⟨before, after, rfl⟩ := List.append_of_mem hother
      exact (h before other (after ++ file :: later) (by simp) hperformed).1
    rw [settingsOf_of_performed _ hfile, settingsOf_of_performed _ ((performed_congr hmode file).mpr hfile), hmode,
      htype hearlier, typeSet_of_not_startsWithColon hcolon, typeSet_of_not_startsWithColon hcolon]
    cases hnamed : typeOf file with
    | none => rw [Option.none_or, Option.none_or, hleft hnamed]
    | some type => rfl
  · rw [settingsOf_of_not_performed _ hfile,
      settingsOf_of_not_performed _ fun hperformed => hfile ((performed_congr hmode file).mp hperformed)]

/-- Every copy returns, whatever copies come before it. -/
def CopiesReturn (fuel : Nat) (context : Gfal2Context σ) : Prop :=
  ∃ inv : Gfal2Context σ → Prop, inv context ∧ ∀ params src dst c, inv c →
    ∃ ret c', performCopy fuel params src dst c = .ok (ret, c') ∧ inv c'

theorem bulkLoop_returns {fuel : Nat} {context : Gfal2Context σ} (h : CopiesReturn fuel context)
    (uninitialised : Nat → CString) (params : GfaltParams) (files : List BulkFile) :
    ∃ answer context', bulkFallback fuel uninitialised params files context = .ok (answer, context') := by
  obtain ⟨inv, hinv, hcopy⟩ := h
  unfold bulkFallback
  generalize 0 = i
  induction files generalizing i params context with
  | nil => exact ⟨_, _, rfl⟩
  | cons file rest ih =>
      unfold bulkLoop
      dsimp only
      split
      · obtain ⟨others, context', hothers⟩ := ih (setChecksum (uninitialised i) params file.checksum).2 hinv (i + 1)
        exact ⟨_, _, Exec.bind_of_ok hothers⟩
      · obtain ⟨copied, context₁, hcopied, hinv₁⟩ :=
          hcopy (setChecksum (uninitialised i) params file.checksum).2 file.src file.dst context hinv
        obtain ⟨others, context', hothers⟩ := ih (setChecksum (uninitialised i) params file.checksum).2 hinv₁ (i + 1)
        exact ⟨_, _, (Exec.bind_of_ok hcopied).trans (Exec.bind_of_ok hothers)⟩

theorem sheltered_of_isolated {fuel : Nat} {context : Gfal2Context σ} (hreturn : CopiesReturn fuel context)
     (h : Isolated fuel context params files) :
    Sheltered params files := by
  -- two runs that differ in what the uninitialised array holds, and each file alone
  have hsettings : ∀ (uninitialised uninitialised' : Nat → CString) earlier file later, files = earlier ++ file :: later →
      settingsOf (uninitialised earlier.length) (paramsAfter uninitialised 0 params earlier) file =
        settingsOf (uninitialised' 0) params file := by
    rintro uninitialised uninitialised' earlier file later rfl
    obtain ⟨answer, context', hanswer⟩ :=
      bulkLoop_returns hreturn uninitialised params (earlier ++ file :: later)
    obtain ⟨alone, context'', halone⟩ := bulkLoop_returns hreturn uninitialised' params [file]
    obtain ⟨hplace, hsingle⟩ := settings_in_place fuel params earlier file later hanswer halone
    have hsame := h uninitialised uninitialised' earlier file later answer context' alone context'' rfl hanswer halone
    rw [hplace, hsingle] at hsame
    exact Option.some.inj hsame
  have hcolon : ∀ earlier file later, files = earlier ++ file :: later → Performed params file →
      ¬StartsWithColon file := by
    intro earlier file later hfiles hperformed hstarts
    have hsame := hsettings (fun _ => []) (fun _ => ['x']) earlier file later hfiles
    obtain ⟨hmode, -⟩ := paramsAfter_checksum (fun _ => []) 0 params earlier
    rw [settingsOf_of_performed _ hperformed,
      settingsOf_of_performed _ ((performed_congr hmode file).mpr hperformed),
      typeSet_of_startsWithColon hstarts, typeSet_of_startsWithColon hstarts] at hsame
    have htype := congrArg ChecksumSettings.type (Option.some.inj hsame)
    cases htype
  intro earlier file later hfiles hperformed
  refine ⟨hcolon earlier file later hfiles hperformed, fun hnamed => ?_⟩
  have hsame := hsettings (fun _ => []) (fun _ => []) earlier file later hfiles
  obtain ⟨hmode, htype⟩ := paramsAfter_checksum (fun _ => []) 0 params earlier
  have hearlier : ∀ other ∈ earlier, Performed params other → ¬StartsWithColon other := by
    intro other hother hother'
    obtain ⟨before, after, rfl⟩ := List.append_of_mem hother
    exact hcolon before other (after ++ file :: later) (by simp [hfiles]) hother'
  have hunnamed := typeSet_of_not_startsWithColon (hcolon earlier file later hfiles hperformed) []
  rw [settingsOf_of_performed _ hperformed, settingsOf_of_performed _ ((performed_congr hmode file).mpr hperformed),
    hunnamed, hnamed, htype hearlier] at hsame
  exact congrArg ChecksumSettings.type (Option.some.inj hsame)

/-- What a bulk copy owes its caller: files kept apart, and failures told. -/
structure BulkCorrect (fuel : Nat) (context : Gfal2Context σ) (params : GfaltParams) (files : List BulkFile) :
    Prop where
  isolated : Isolated fuel context params files
  reports : ∀ uninitialised answer context',
    bulkFallback fuel uninitialised params files context = .ok (answer, context') → ReportsFailures files answer

/-- With plugins whose copies fail exactly when they set the error, a bulk copy of sheltered files is correct;
and if its copies return, only then. -/
theorem bulkFallback_correct_iff (fuel : Nat) (context : Gfal2Context σ)
    (hhonest : AllPlugins CopiesHonestly context) (params : GfaltParams) (files : List BulkFile) :
    (Sheltered params files → BulkCorrect fuel context params files) ∧
      (CopiesReturn fuel context → BulkCorrect fuel context params files → Sheltered params files) := by
  refine ⟨fun hsheltered => ⟨isolated_of_sheltered fuel context hsheltered, ?_⟩, fun hreturn hcorrect => ?_⟩
  · exact fun uninitialised => bulkLoop_reports fuel uninitialised 0 params files hhonest
  · exact sheltered_of_isolated hreturn hcorrect.isolated

/-- A plugin that copies every pair of files. -/
def copyPlugin : GfalPluginInterface Unit where
  checkPluginUrlTransfer := some fun _ _ _ _ => true
  copyFile := some fun _ _ _ world => (⟨0, none⟩, world)

def copyContext : Gfal2Context Unit where
  pluginOpt := { pluginList := fun _ => copyPlugin, sortedPlugin := [0], pluginNumber := 1 }
  world := ()

theorem copiesHonestly_copyContext : AllPlugins CopiesHonestly copyContext where
  loaded := by
    rintro slot call hcall params src dst world
    cases hcall
    exact tells_success
  loadable := by
    rintro files hfiles file hfile
    cases hfiles
    cases hfile

theorem copiesReturn_copyContext (fuel : Nat) : CopiesReturn fuel copyContext := by
  refine ⟨fun context => context.pluginOpt = copyContext.pluginOpt, rfl, ?_⟩
  rintro params src dst ⟨opts⟩ rfl
  exact ⟨_, _, rfl, rfl⟩

/-- A file with a type of its own before one without. -/
def typedThenUntyped : List BulkFile :=
  [⟨lit "a", lit "b", some (lit "ADLER32:1")⟩, ⟨lit "c", lit "d", some (lit "2")⟩]

theorem bulkFallback_correct_iff_reversed : BulkCorrect 0 copyContext {} typedThenUntyped.reverse := by
  refine (bulkFallback_correct_iff 0 copyContext copiesHonestly_copyContext {} typedThenUntyped.reverse).1 ?_
  intro earlier file later hfiles _
  have hnames : ∀ other ∈ typedThenUntyped, ¬StartsWithColon other := by
    intro other hother
    rcases List.mem_pair.mp hother with rfl | rfl <;> rintro ⟨checksum, ⟨⟩, hcolon⟩ <;> cases hcolon
  have hmem : file ∈ typedThenUntyped := by
    rw [← List.mem_reverse, hfiles]
    exact List.mem_append_right _ List.mem_cons_self
  refine ⟨hnames file hmem, fun huntyped => ?_⟩
  rcases earlier with _ | ⟨first, _ | ⟨second, rest⟩⟩
  · rfl
  · cases hfiles
    cases huntyped
  · have hlength := congrArg List.length hfiles
    simp [typedThenUntyped] at hlength

/-- The second file is copied with the type of the first, short of its last character. -/
theorem bulkFallback_leaks_type : ¬BulkCorrect 0 copyContext {} typedThenUntyped := by
  intro hcorrect
  have hsheltered := sheltered_of_isolated (copiesReturn_copyContext 0) hcorrect.isolated
  obtain ⟨-, htype⟩ := hsheltered [⟨lit "a", lit "b", some (lit "ADLER32:1")⟩] ⟨lit "c", lit "d", some (lit "2")⟩ []
    rfl (by decide)
  cases htype rfl

end Gfal2
