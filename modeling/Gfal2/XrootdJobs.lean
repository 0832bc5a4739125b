import Gfal2.XrootdCopy

/-! The checksums in the jobs of a copy. The type and the value of a file pass through buffers that are filled up to the size of a
pointer: a job has them whole where they are short. -/

namespace Gfal2

open Base

/-- A checksum without its leading zeros. -/
def stripZeros (value : CString) : CString := value.dropWhile (· == '0')

/-- The checksum of a job is that of its file: a type that is not given is the configured one. -/
structure JobChecksum.Carries (config : Config) (type value : CString) (checksum : JobChecksum) : Prop where
  type : ∃ wanted, (if type = [] then config.optString xrootdConfigGroup (lit "COPY_CHECKSUM_TYPE") = some wanted else wanted = type) ∧
    checksum.type = predefinedChecksumTypeToLower wanted
  preset : ∃ zeros, zeros ≤ (value.takeWhile (· == '0')).length ∧ checksum.preset = (value.drop zeros).map Char.toLower

def CopyJob.Carries (config : Config) (params : XrootdCopyParams) (file : BulkFile) (job : CopyJob) : Prop :=
  params.checksum.mode ≠ .none → ∀ entry type value, file.checksum = some entry → splitChecksum entry = some (type, value) →
    type.length < 64 → value.length < 512 → ∃ checksum, job.checkSum = some checksum ∧ checksum.Carries config type value

variable (servers : XrdServers) (context : XrootdContext) (params : XrootdCopyParams)

/-- What the jobs should be: they are built without a fault, and each carries the checksum of its file. -/
def JobsCarryChecksums (files : List BulkFile) : Prop :=
  match buildJobs servers context params files with
  | .error _ => False
  | .ok (.error _) => True
  | .ok (.ok jobs) => List.Forall₂ (CopyJob.Carries context.config params) files jobs

/-! ### Files and their entries -/

namespace BulkFile

/-- The entry of a file is there and has a colon. -/
def HasColon (file : BulkFile) : Prop := ∃ entry type value, file.checksum = some entry ∧ splitChecksum entry = some (type, value)

/-- The entry of a file has no type, and there is no configured one. -/
def Untyped (config : Config) (file : BulkFile) : Prop :=
  config.optString xrootdConfigGroup (lit "COPY_CHECKSUM_TYPE") = none ∧
    ∃ entry value, file.checksum = some entry ∧ splitChecksum entry = some ([], value)

/-- A type and a value that fit into the buffers of a job, with the configured type where it is needed. -/
structure FitsBuffers (config : Config) (type value : CString) : Prop where
  shortType : type.length ≤ 8
  shortValue : (stripZeros value).length ≤ 8
  shortDefault : type = [] → ∀ defaultType, config.optString xrootdConfigGroup (lit "COPY_CHECKSUM_TYPE") = some defaultType →
    defaultType.length < 64

/-- The entry of a file has a colon, and is longer than a checksum may be or fits into the buffers of a job. -/
def Fits (config : Config) (file : BulkFile) : Prop :=
  ∃ entry type value, file.checksum = some entry ∧ splitChecksum entry = some (type, value) ∧
    (64 ≤ type.length ∨ 512 ≤ value.length ∨ FitsBuffers config type value)

variable {config : Config} {file : BulkFile}

theorem Fits.hasColon (hfits : file.Fits config) : file.HasColon := by
  obtain ⟨entry, type, value, hentry, hsplit, -⟩ := hfits
  exact ⟨entry, type, value, hentry, hsplit⟩

end BulkFile

/-- The files are refused: after files with a colon comes one without a type. -/
def RefusesFiles (config : Config) (files : List BulkFile) : Prop :=
  ∃ before file after, files = before ++ file :: after ∧ (∀ earlier ∈ before, earlier.HasColon) ∧ file.Untyped config

/-! ### The job of one file -/

variable {servers context params} {files : List BulkFile} {job : CopyJob}

theorem buildJob_of_none {file : BulkFile} (hmode : params.checksum.mode = .none) :
    buildJob servers context params file = .ok (.ok (buildPlainJob servers context params file)) := by
  simp [buildJob, hmode]

/-- The checksum that is made of a type, in the buffer of a job, and a value. -/
def madeChecksum (mode : ChecksumMode) (type value : CString) : JobChecksum :=
  ⟨jobChecksumMode mode, predefinedChecksumTypeToLower type, ((stripZeros value).take 8).map Char.toLower⟩

variable {entry type value : CString}

theorem buildJob_of_typed {file : BulkFile} (hmode : params.checksum.mode ≠ .none)
    (hentry : file.checksum = some entry) (hsplit : splitChecksum entry = some (type, value)) (htype : type ≠ []) :
    buildJob servers context params file = .ok (.ok { buildPlainJob servers context params file with
      checkSum := some (madeChecksum params.checksum.mode (type.take 8) value) }) := by
  have hshort : type.take 8 ≠ [] := by simp [htype]
  simp [buildJob, buildJobChecksum, hmode, hentry, hsplit, hshort, madeChecksum, stripZeros]

theorem buildJob_of_default {file : BulkFile} {defaultType : CString} (hmode : params.checksum.mode ≠ .none)
    (hentry : file.checksum = some entry) (hsplit : splitChecksum entry = some ([], value))
    (hdefault : context.config.optString xrootdConfigGroup (lit "COPY_CHECKSUM_TYPE") = some defaultType) :
    buildJob servers context params file = .ok (.ok { buildPlainJob servers context params file with
      checkSum := some (madeChecksum params.checksum.mode (defaultType.take 63) value) }) := by
  simp [buildJob, buildJobChecksum, hmode, hentry, hsplit, hdefault, madeChecksum, stripZeros]

theorem buildJob_of_untyped (servers : XrdServers) {file : BulkFile} (hmode : params.checksum.mode ≠ .none) (huntyped : file.Untyped context.config) :
    ∃ e, buildJob servers context params file = .ok (.error e) := by
  obtain ⟨hdefault, entry, value, hentry, hsplit⟩ := huntyped
  simp [buildJob, buildJobChecksum, hmode, hentry, hsplit, hdefault]

theorem buildJob_of_not_hasColon (servers : XrdServers) (context : XrootdContext) {file : BulkFile} (hmode : params.checksum.mode ≠ .none) (hcolon : ¬file.HasColon) :
    ∃ reason, buildJob servers context params file = .error reason := by
  cases hentry : file.checksum with
  | none => simp [buildJob, buildJobChecksum, hmode, hentry]
  | some entry =>
      cases hsplit : splitChecksum entry with
      | none => simp [buildJob, buildJobChecksum, hmode, hentry, hsplit]
      | some parts => exact absurd ⟨entry, parts.1, parts.2, hentry, hsplit⟩ hcolon

/-- A file with a colon has a job, or it has no type. -/
theorem BulkFile.HasColon.job_or_untyped {file : BulkFile} (hcolon : file.HasColon) (servers : XrdServers) (context : XrootdContext)
    (hmode : params.checksum.mode ≠ .none) :
    (∃ job, buildJob servers context params file = .ok (.ok job)) ∨ file.Untyped context.config := by
  obtain ⟨entry, type, value, hentry, hsplit⟩ := hcolon
  by_cases htype : type = []
  · subst htype
    cases hdefault : context.config.optString xrootdConfigGroup (lit "COPY_CHECKSUM_TYPE") with
    | none => exact .inr ⟨hdefault, entry, value, hentry, hsplit⟩
    | some defaultType => exact .inl ⟨_, buildJob_of_default hmode hentry hsplit hdefault⟩
  · exact .inl ⟨_, buildJob_of_typed hmode hentry hsplit htype⟩

/-! ### The checksum of one job -/

theorem stripZeros_eq_drop (value : CString) : stripZeros value = value.drop (value.takeWhile (· == '0')).length := by
  have hparts : value.takeWhile (· == '0') ++ stripZeros value = value := List.takeWhile_append_dropWhile
  calc stripZeros value
      = (value.takeWhile (· == '0') ++ stripZeros value).drop (value.takeWhile (· == '0')).length := by
        rw [List.drop_left']
        rfl
    _ = value.drop (value.takeWhile (· == '0')).length := by rw [hparts]

/-- What is left of a value without some of its leading zeros is no shorter than without all of them. -/
theorem length_stripZeros_le (value : CString) {zeros : Nat} (hzeros : zeros ≤ (value.takeWhile (· == '0')).length) :
    (stripZeros value).length ≤ (value.drop zeros).length := by
  rw [stripZeros_eq_drop, List.length_drop, List.length_drop]
  omega

theorem length_predefinedChecksumTypeToLower (type : CString) : (predefinedChecksumTypeToLower type).length = type.length := by
  rw [predefinedChecksumTypeToLower]
  split <;> simp

/-- A value is whole in a job exactly if it is short without its leading zeros. -/
theorem preset_iff (value : CString) : (∃ zeros, zeros ≤ (value.takeWhile (· == '0')).length ∧
      ((stripZeros value).take 8).map Char.toLower = (value.drop zeros).map Char.toLower) ↔ (stripZeros value).length ≤ 8 := by
  constructor
  · rintro ⟨zeros, hzeros, hpreset⟩
    have hlength := congrArg List.length hpreset
    have hle := length_stripZeros_le value hzeros
    simp only [List.length_map, List.length_take] at hlength
    omega
  · intro hshort
    refine ⟨_, Nat.le_refl _, ?_⟩
    rw [List.take_of_length_le hshort, stripZeros_eq_drop]

/-- A type is whole in a job exactly if the buffer holds it. -/
theorem type_iff (type : CString) (size : Nat) :
    predefinedChecksumTypeToLower (type.take size) = predefinedChecksumTypeToLower type ↔ type.length ≤ size := by
  constructor
  · intro htype
    have hlength := congrArg List.length htype
    rw [length_predefinedChecksumTypeToLower, length_predefinedChecksumTypeToLower, List.length_take] at hlength
    omega
  · intro hshort
    rw [List.take_of_length_le hshort]

theorem madeChecksum_carries_typed {config : Config} {mode : ChecksumMode} (htype : type ≠ []) :
    (madeChecksum mode (type.take 8) value).Carries config type value ↔ BulkFile.FitsBuffers config type value := by
  constructor
  · rintro ⟨⟨wanted, hwanted, htaken⟩, hpreset⟩
    rw [if_neg htype] at hwanted
    subst hwanted
    exact ⟨(type_iff wanted 8).mp htaken, (preset_iff value).mp hpreset, fun hempty => absurd hempty htype⟩
  · intro hfits
    refine ⟨⟨type, by rw [if_neg htype], (type_iff type 8).mpr hfits.shortType⟩, (preset_iff value).mpr hfits.shortValue⟩

theorem madeChecksum_carries_default {config : Config} {mode : ChecksumMode} {defaultType : CString}
    (hdefault : config.optString xrootdConfigGroup (lit "COPY_CHECKSUM_TYPE") = some defaultType) :
    (madeChecksum mode (defaultType.take 63) value).Carries config [] value ↔ BulkFile.FitsBuffers config [] value := by
  constructor
  · rintro ⟨⟨wanted, hwanted, htaken⟩, hpreset⟩
    rw [if_pos (by trivial), hdefault] at hwanted
    obtain rfl := Option.some.inj hwanted
    refine ⟨by simp, (preset_iff value).mp hpreset, ?_⟩
    intro _ other hother
    obtain rfl := Option.some.inj (hdefault.symm.trans hother)
    have hshort := (type_iff defaultType 63).mp htaken
    omega
  · intro hfits
    have hshort : defaultType.length < 64 := hfits.shortDefault (by trivial) defaultType hdefault
    refine ⟨⟨defaultType, by rw [if_pos (by trivial), hdefault], (type_iff defaultType 63).mpr (by omega)⟩,
      (preset_iff value).mpr hfits.shortValue⟩

theorem carries_iff_of_entry {config : Config} {file : BulkFile}
    {checksum : JobChecksum} (hmode : params.checksum.mode ≠ .none) (hentry : file.checksum = some entry)
    (hsplit : splitChecksum entry = some (type, value)) (hchecksum : job.checkSum = some checksum) :
    job.Carries config params file ↔ 64 ≤ type.length ∨ 512 ≤ value.length ∨ checksum.Carries config type value := by
  constructor
  · intro hcarries
    by_cases hlong : 64 ≤ type.length ∨ 512 ≤ value.length
    · rcases hlong with htype | hvalue
      · exact .inl htype
      · exact .inr (.inl hvalue)
    · obtain ⟨found, hfound, hwhole⟩ := hcarries hmode entry type value hentry hsplit (by omega) (by omega)
      obtain rfl := Option.some.inj (hchecksum.symm.trans hfound)
      exact .inr (.inr hwhole)
  · intro hcases _ otherEntry otherType otherValue hotherEntry hotherSplit htype hvalue
    obtain rfl := Option.some.inj (hentry.symm.trans hotherEntry)
    obtain ⟨rfl, rfl⟩ := Prod.mk.inj (Option.some.inj (hsplit.symm.trans hotherSplit))
    rcases hcases with hlong | hlong | hwhole
    · omega
    · omega
    · exact ⟨checksum, hchecksum, hwhole⟩

theorem fits_iff_of_entry {config : Config} {file : BulkFile} (hentry : file.checksum = some entry)
    (hsplit : splitChecksum entry = some (type, value)) :
    file.Fits config ↔ 64 ≤ type.length ∨ 512 ≤ value.length ∨ BulkFile.FitsBuffers config type value := by
  constructor
  · rintro ⟨otherEntry, otherType, otherValue, hotherEntry, hotherSplit, hcases⟩
    obtain rfl := Option.some.inj (hentry.symm.trans hotherEntry)
    obtain ⟨rfl, rfl⟩ := Prod.mk.inj (Option.some.inj (hsplit.symm.trans hotherSplit))
    exact hcases
  · intro hcases
    exact ⟨entry, type, value, hentry, hsplit, hcases⟩

section Built

variable {file : BulkFile} (hmode : params.checksum.mode ≠ .none) (hjob : buildJob servers context params file = .ok (.ok job))
include hmode hjob

theorem hasColon_of_buildJob : file.HasColon := by
  by_contra hcolon
  obtain ⟨reason, hfault⟩ := buildJob_of_not_hasColon servers context hmode hcolon
  rw [hfault] at hjob
  cases hjob

theorem not_untyped_of_buildJob : ¬file.Untyped context.config := by
  intro huntyped
  obtain ⟨e, herror⟩ := buildJob_of_untyped servers hmode huntyped
  rw [herror] at hjob
  cases hjob

/-- The job of a file carries its checksum exactly if the checksum fits. -/
theorem buildJob_carries_iff : job.Carries context.config params file ↔ file.Fits context.config := by
  have huntyped := not_untyped_of_buildJob hmode hjob
  obtain ⟨entry, type, value, hentry, hsplit⟩ := hasColon_of_buildJob hmode hjob
  rw [fits_iff_of_entry hentry hsplit]
  by_cases htype : type = []
  · subst htype
    cases hdefault : context.config.optString xrootdConfigGroup (lit "COPY_CHECKSUM_TYPE") with
    | none => exact absurd ⟨hdefault, entry, value, hentry, hsplit⟩ huntyped
    | some defaultType =>
        rw [buildJob_of_default hmode hentry hsplit hdefault] at hjob
        obtain rfl := Except.ok.inj (Except.ok.inj hjob)
        rw [carries_iff_of_entry hmode hentry hsplit (by trivial), madeChecksum_carries_default hdefault]
  · rw [buildJob_of_typed hmode hentry hsplit htype] at hjob
    obtain rfl := Except.ok.inj (Except.ok.inj hjob)
    rw [carries_iff_of_entry hmode hentry hsplit (by trivial), madeChecksum_carries_typed htype]

end Built

/-! ### The jobs of all files -/

/-- The jobs that are built are those of the files. -/
theorem buildJobs_forall₂ {jobs : List CopyJob} (hjobs : buildJobs servers context params files = .ok (.ok jobs)) :
    List.Forall₂ (fun file job => buildJob servers context params file = .ok (.ok job)) files jobs := by
  induction files generalizing jobs with
  | nil =>
      obtain rfl := Except.ok.inj (Except.ok.inj hjobs)
      exact .nil
  | cons file files ih =>
      rw [buildJobs] at hjobs
      cases hjob : buildJob servers context params file with
      | error reason => simp [hjob] at hjobs
      | ok made =>
          cases made with
          | error e => simp [hjob] at hjobs
          | ok job =>
              rw [hjob] at hjobs
              dsimp only at hjobs
              cases hrest : buildJobs servers context params files with
              | error reason => simp [hrest] at hjobs
              | ok rest =>
                  cases rest with
                  | error e => simp [hrest] at hjobs
                  | ok later =>
                      rw [hrest] at hjobs
                      obtain rfl := Except.ok.inj (Except.ok.inj hjobs)
                      exact .cons hjob (ih hrest)

/-- Files that all have a colon are no fault. -/
theorem buildJobs_of_colons (servers : XrdServers) (context : XrootdContext) (hmode : params.checksum.mode ≠ .none)
    (hcolons : ∀ file ∈ files, file.HasColon) : ∃ answer, buildJobs servers context params files = .ok answer := by
  induction files with
  | nil => exact ⟨_, by rw [buildJobs]⟩
  | cons file files ih =>
      obtain ⟨hcolon, hcolons⟩ := List.forall_mem_cons.mp hcolons
      obtain ⟨rest, hrest⟩ := ih hcolons
      rcases hcolon.job_or_untyped servers context hmode with ⟨job, hjob⟩ | huntyped
      · rw [buildJobs, hjob, hrest]
        cases rest with
        | error e => exact ⟨_, by trivial⟩
        | ok jobs => exact ⟨_, by trivial⟩
      · obtain ⟨e, herror⟩ := buildJob_of_untyped servers hmode huntyped
        exact ⟨.error e, by rw [buildJobs, herror]⟩

theorem buildJobs_error_cons_iff {file : BulkFile} (hjob : buildJob servers context params file = .ok (.ok job)) :
    (∃ e, buildJobs servers context params (file :: files) = .ok (.error e)) ↔
      ∃ e, buildJobs servers context params files = .ok (.error e) := by
  rw [buildJobs, hjob]
  cases hrest : buildJobs servers context params files with
  | error reason => simp
  | ok rest =>
      cases rest with
      | error e => simp
      | ok jobs => simp

theorem refusesFiles_cons_iff {config : Config} {file : BulkFile} :
    RefusesFiles config (file :: files) ↔ file.Untyped config ∨ file.HasColon ∧ RefusesFiles config files := by
  constructor
  · rintro ⟨before, refused, after, hfiles, hbefore, huntyped⟩
    cases before with
    | nil =>
        obtain ⟨rfl, -⟩ := List.cons.inj hfiles
        exact .inl huntyped
    | cons earlier before =>
        obtain ⟨rfl, rfl⟩ := List.cons.inj hfiles
        obtain ⟨hcolon, hbefore⟩ := List.forall_mem_cons.mp hbefore
        exact .inr ⟨hcolon, before, refused, after, by trivial, hbefore, huntyped⟩
  · rintro (huntyped | ⟨hcolon, before, refused, after, rfl, hbefore, huntyped⟩)
    · exact ⟨[], file, files, by simp, by simp, huntyped⟩
    · exact ⟨file :: before, refused, after, by simp, List.forall_mem_cons.mpr ⟨hcolon, hbefore⟩, huntyped⟩

/-- The building stops with an error exactly if the files are refused. -/
theorem buildJobs_error_iff (servers : XrdServers) (hmode : params.checksum.mode ≠ .none) :
    (∃ e, buildJobs servers context params files = .ok (.error e)) ↔ RefusesFiles context.config files := by
  induction files with
  | nil => simp [buildJobs, RefusesFiles]
  | cons file files ih =>
      rw [refusesFiles_cons_iff]
      by_cases huntyped : file.Untyped context.config
      · obtain ⟨e, herror⟩ := buildJob_of_untyped servers hmode huntyped
        exact ⟨fun _ => .inl huntyped, fun _ => ⟨e, by rw [buildJobs, herror]⟩⟩
      by_cases hcolon : file.HasColon
      · obtain ⟨job, hjob⟩ := (hcolon.job_or_untyped servers context hmode).resolve_right huntyped
        rw [buildJobs_error_cons_iff hjob, ih]
        simp [huntyped, hcolon]
      · obtain ⟨reason, hfault⟩ := buildJob_of_not_hasColon servers context hmode hcolon
        simp [buildJobs, hfault, huntyped, hcolon]

theorem buildJobs_of_none (hmode : params.checksum.mode = .none) :
    buildJobs servers context params files = .ok (.ok (files.map (buildPlainJob servers context params))) := by
  induction files with
  | nil => rw [buildJobs, List.map_nil]
  | cons file files ih => rw [buildJobs, buildJob_of_none hmode, ih, List.map_cons]

/-- Jobs of files that are not checked carry what they should. -/
theorem carries_of_unchecked (hmode : params.checksum.mode = .none) : JobsCarryChecksums servers context params files := by
  rw [JobsCarryChecksums, buildJobs_of_none hmode]
  dsimp only
  rw [List.forall₂_map_right_iff, List.forall₂_same]
  intro file _ hchecked
  exact absurd hmode hchecked

theorem forall₂_carries_iff {jobs : List CopyJob} (hmode : params.checksum.mode ≠ .none)
    (hjobs : List.Forall₂ (fun file job => buildJob servers context params file = .ok (.ok job)) files jobs) :
    List.Forall₂ (CopyJob.Carries context.config params) files jobs ↔ ∀ file ∈ files, file.Fits context.config := by
  induction hjobs with
  | nil => simp
  | cons hjob _ ih => rw [List.forall₂_cons, List.forall_mem_cons, buildJob_carries_iff hmode hjob, ih]

/-- The jobs of a copy carry the checksums of its files exactly if no checksum is asked for, the building stops at a file without a type,
or every file has an entry with a colon that fits into the buffers of a job. -/
theorem jobs_carry_checksums_iff (servers : XrdServers) (context : XrootdContext) (params : XrootdCopyParams)
    (files : List BulkFile) :
    JobsCarryChecksums servers context params files ↔ params.checksum.mode = .none ∨ RefusesFiles context.config files ∨
      ∀ file ∈ files, file.Fits context.config := by
  by_cases hmode : params.checksum.mode = .none
  · exact ⟨fun _ => .inl hmode, fun _ => carries_of_unchecked hmode⟩
  constructor
  · intro hcarries
    right
    rw [JobsCarryChecksums] at hcarries
    cases hjobs : buildJobs servers context params files with
    | error reason => simp [hjobs] at hcarries
    | ok answer =>
        cases answer with
        | error e => exact .inl ((buildJobs_error_iff servers hmode).mp ⟨e, hjobs⟩)
        | ok jobs =>
            rw [hjobs] at hcarries
            exact .inr ((forall₂_carries_iff hmode (buildJobs_forall₂ hjobs)).mp hcarries)
  · intro hcondition
    rw [JobsCarryChecksums]
    rcases hcondition.resolve_left hmode with hrefused | hfits
    · obtain ⟨e, herror⟩ := (buildJobs_error_iff servers hmode).mpr hrefused
      rw [herror]
      trivial
    · obtain ⟨answer, hanswer⟩ := buildJobs_of_colons servers context hmode fun file hfile =>
        (hfits file hfile).hasColon
      rw [hanswer]
      cases answer with
      | error e => trivial
      | ok jobs => exact (forall₂_carries_iff hmode (buildJobs_forall₂ hanswer)).mpr hfits

/-! A bulk copy checked against the MD5 sums of its files. -/

def md5Servers : XrdServers where
  path := id
  pathWithParams := id
  endpoint := id
  jobUrl := fun url _ => url
  protocol := fun _ => lit "root"
  missingValue := ⟨lit "config", ENOENT, lit "no such key"⟩
  prepareCopy := fun _ _ _ => none
  runCopy := fun _ => (none, fun _ => none)
  unlink := fun _ _ => none
  prepareEvict := fun _ _ _ => none

def md5File : BulkFile :=
  ⟨lit "root://a.ch//data/f", lit "root://b.ch//data/f", some (lit "md5:9e107d9d372bb6826bd81d3542a419d6")⟩

def md5Params : XrootdCopyParams := { checksum := { mode := .both } }

/-- An MD5 sum is cut to eight digits, and where the colon is missing there is no value to be read. -/
theorem md5_sum_cut : ¬JobsCarryChecksums md5Servers {} md5Params [md5File] ∧
    ¬JobsCarryChecksums md5Servers {} md5Params [{ md5File with checksum := some (lit "9e107d9d372bb6826bd81d3542a419d6") }] := by
  have hmode : md5Params.checksum.mode ≠ .none := by decide
  have hsplit : splitChecksum (lit "md5:9e107d9d372bb6826bd81d3542a419d6") =
      some (lit "md5", lit "9e107d9d372bb6826bd81d3542a419d6") := by decide
  constructor
  · intro hcarries
    obtain ⟨job, hjob⟩ : ∃ job, buildJob md5Servers {} md5Params md5File = .ok (.ok job) :=
      ⟨_, buildJob_of_typed hmode (by rfl) hsplit (by decide)⟩
    have hjobs : buildJobs md5Servers {} md5Params [md5File] = .ok (.ok [job]) := by rw [buildJobs, hjob, buildJobs]
    rw [JobsCarryChecksums, hjobs] at hcarries
    have hfits := (buildJob_carries_iff hmode hjob).mp (List.forall₂_cons.mp hcarries).1
    rcases (fits_iff_of_entry (by rfl) hsplit).mp hfits with hlong | hlong | hbuffers
    · exact absurd hlong (by decide)
    · exact absurd hlong (by decide)
    · exact absurd hbuffers.shortValue (by decide)
  · intro hcarries
    have hfault : buildJob md5Servers {} md5Params { md5File with checksum := some (lit "9e107d9d372bb6826bd81d3542a419d6") } =
        .error .nullDereference := by decide
    simp [JobsCarryChecksums, buildJobs, hfault] at hcarries

end Gfal2
