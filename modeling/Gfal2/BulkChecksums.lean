import Gfal2.BulkFallback
import Gfal2.GridFtpBulk
import Gfal2.GridFtpChecksums
import Gfal2.XrootdJobs

/-! The checksums that are verified for a file of a bulk copy: with the settings that the fallback makes of its entry, or with what a
plugin makes of the entry in a bulk copy of its own. -/

namespace Gfal2

open Base

structure TypedChecksum where
  type : CString
  value : CString
  type_ne_nil : type ≠ []
  type_length : type.length < 64
  colon_notMem : ':' ∉ type

def TypedChecksum.entry (typed : TypedChecksum) : CString := typed.type ++ ':' :: typed.value

/-! ### What is verified -/

/-- The algorithm and the value that are verified, if anything is. -/
def verified (mode : ChecksumMode) (type value : CString) : Option (CString × CString) :=
  if mode = .none then none else some (type, value)

/-- The settings of the fallback for an entry are what `gfalt_get_checksum` then gives into buffers that are large enough. -/
def SetsChecksum (uninitialised : CString) (params : GfaltParams) (typed : TypedChecksum) : Prop :=
  ∀ typeLen valueLen, typed.type.length < typeLen → typed.value.length < valueLen →
    (gfaltGetChecksum (setChecksum uninitialised params (some typed.entry)).2 typeLen valueLen).2 = (typed.type, typed.value)

/-- What a copy by GridFTP verifies with the settings that the fallback records for its file, if the file is copied. -/
def gridFtpFallback (servers : GridFtpServers) (config : Config) (params : GfaltParams) (outcome : FileOutcome) :
    Option (Option (CString × CString)) :=
  outcome.settings.bind fun settings =>
    match copyChecksum servers config { params with checksum := settings } with
    | .error _ => none
    | .ok (mode, type, value) => some (verified mode type value)

/-- What the bulk copy of GridFTP verifies: the checksum that it reads for the file, with a buffer of 32 characters for the type. -/
def gridFtpBulk (params : GfaltParams) (file : BulkFile) : Except Fault (Option (CString × CString)) :=
  (GridFtpBulkFile.withChecksum { toBulkFile := file }).map fun pair =>
    verified params.checksum.mode (gfaltGetChecksum params 32 0).2.1 pair.checksum

/-- Both ways of GridFTP verify the same for a file, which has this outcome in the fallback. -/
def GridFtpAgrees (servers : GridFtpServers) (config : Config) (params : GfaltParams) (file : BulkFile) (outcome : FileOutcome) : Prop :=
  ∃ what, gridFtpFallback servers config params outcome = some what ∧ gridFtpBulk params file = .ok what

/-- The checksum of the job that XRootD is given for a file. -/
def xrootdBulk (servers : XrdServers) (context : XrootdContext) (params : XrootdCopyParams) (file : BulkFile) :
    Except Fault (Except GError (Option JobChecksum)) :=
  (buildJob servers context params file).map (·.map (·.checkSum))

/-- The checksum of the job that the copy of one file gives XRootD with the settings that the fallback records for it, if the file is
copied. -/
def xrootdFallback (servers : XrdServers) (context : XrootdContext) (params : XrootdCopyParams) (file : BulkFile) (outcome : FileOutcome) :
    Option (Except Fault (Except GError (Option JobChecksum))) :=
  outcome.settings.map fun settings =>
    let (_, type, value) := gfaltGetChecksum { params.toGfaltParams with checksum := settings } 64 512
    xrootdBulk servers context { params with checksum := settings } { file with checksum := some (type ++ lit ":" ++ value) }

/-- Both ways of XRootD verify the same for a file, which has this outcome in the fallback. -/
def XrootdAgrees (servers : XrdServers) (context : XrootdContext) (params : XrootdCopyParams) (file : BulkFile) (outcome : FileOutcome) : Prop :=
  ∃ what, xrootdFallback servers context params file outcome = some (.ok (.ok what)) ∧
    xrootdBulk servers context params file = .ok (.ok what)

/-! ### The settings of the fallback -/

theorem strchr_append_cons {before : CString} {c : Char} (h : c ∉ before) (after : CString) :
    strchr (before ++ c :: after) c = some before.length := by
  rw [strchr, List.findIdx?_append]
  have hnone : before.findIdx? (· == c) = none := List.findIdx?_eq_none_iff.mpr fun x hx => by
    simpa using ne_of_mem_of_not_mem hx h
  rw [hnone]
  simp [List.findIdx?_cons]

namespace TypedChecksum

variable (typed : TypedChecksum)

theorem strchr_entry : strchr typed.entry ':' = some typed.type.length := strchr_append_cons typed.colon_notMem _

theorem length_type_pos : 0 < typed.type.length := List.length_pos_of_ne_nil typed.type_ne_nil

/-- The copy of the type lacks its last character, as its size counts the NUL. -/
theorem typeSet_eq (uninitialised : CString) {file : BulkFile} (hentry : file.checksum = some typed.entry) :
    typeSet uninitialised file = some typed.type.dropLast := by
  have hpos := typed.length_type_pos
  have hsize : chktypeSize typed.type.length = typed.type.length := if_pos typed.type_length
  have htake : typed.entry.take (typed.type.length - 1) = typed.type.dropLast := by
    rw [entry, List.take_append_of_le_length (Nat.sub_le _ _), List.dropLast_eq_take]
  rw [typeSet, hentry, Option.bind_some, strchr_entry, Option.map_some, chktypeBefore, hsize, if_neg (by omega), htake]

theorem valueOf_eq {file : BulkFile} (hentry : file.checksum = some typed.entry) : valueOf file = some typed.value := by
  have hdrop : typed.entry.drop (typed.type.length + 1) = typed.value := by
    rw [entry, List.append_cons, List.drop_left' (by rw [List.length_append, List.length_singleton])]
  simp only [valueOf, hentry, Option.map_some, strchr_entry, hdrop]

theorem dropLast_ne : typed.type.dropLast ≠ typed.type := by
  intro h
  have hlength := congrArg List.length h
  have hpos := typed.length_type_pos
  rw [List.length_dropLast] at hlength
  omega

end TypedChecksum

/-- The mode asks for a value, and there is none. -/
def RefusesValue (mode : ChecksumMode) (value : CString) : Prop := (mode = .source ∨ mode = .target) ∧ value = []

instance (mode : ChecksumMode) (value : CString) : Decidable (RefusesValue mode value) := inferInstanceAs (Decidable (_ ∧ _))

section Typed

variable {uninitialised : CString} {params : GfaltParams} {typed : TypedChecksum}

theorem performed_iff {file : BulkFile} (hentry : file.checksum = some typed.entry) :
    Performed params file ↔ ¬RefusesValue params.checksum.mode typed.value := by
  simp [Performed, RefusesValue, typed.valueOf_eq hentry]

theorem setChecksum_typed (h : ¬RefusesValue params.checksum.mode typed.value) :
    setChecksum uninitialised params (some typed.entry) =
      (⟨0, none⟩, { params with checksum := ⟨params.checksum.mode, some typed.type.dropLast, some typed.value⟩ }) := by
  have hentry : (⟨[], [], some typed.entry⟩ : BulkFile).checksum = some typed.entry := rfl
  have hset := setChecksum_of_performed uninitialised ((performed_iff hentry).mpr h)
  rw [typed.typeSet_eq uninitialised hentry, typed.valueOf_eq hentry] at hset
  exact hset

theorem setChecksum_typed_refused (h : RefusesValue params.checksum.mode typed.value) :
    ∃ e, setChecksum uninitialised params (some typed.entry) = (⟨-1, some e⟩, params) :=
  @setChecksum_of_not_performed params ⟨[], [], some typed.entry⟩ uninitialised (not_not.mpr h ∘ (performed_iff rfl).mp)

/-- The settings are those of the entry only if it is refused, and they were that before. -/
theorem setsChecksum_iff : SetsChecksum uninitialised params typed ↔
    RefusesValue params.checksum.mode typed.value ∧ params.checksum.type = some typed.type ∧ params.checksum.value.getD [] = [] := by
  by_cases hrefused : RefusesValue params.checksum.mode typed.value
  · obtain ⟨e, hset⟩ := @setChecksum_typed_refused uninitialised params typed hrefused
    have hempty := hrefused.2
    rw [and_iff_right hrefused, SetsChecksum, hset]
    simp only [gfaltGetChecksum, Prod.mk.injEq, hempty]
    constructor
    · intro h
      have hlarge := h ((params.checksum.type.getD []).length + typed.type.length + 1)
        ((params.checksum.value.getD []).length + 1) (by omega) (by simp)
      rw [List.take_of_length_le (by omega), List.take_of_length_le (by omega)] at hlarge
      refine ⟨?_, hlarge.2⟩
      cases htype : params.checksum.type with
      | none =>
          rw [htype] at hlarge
          exact absurd hlarge.1.symm typed.type_ne_nil
      | some type =>
          rw [htype] at hlarge
          exact congrArg some hlarge.1
    · rintro ⟨htype, hvalue⟩ typeLen valueLen htypeLen -
      rw [htype, hvalue, Option.getD_some, List.take_of_length_le (by omega), List.take_nil]
      exact ⟨rfl, rfl⟩
  · refine iff_of_false (fun h => ?_) fun h => hrefused h.1
    have hlarge := h (typed.type.length + 1) (typed.value.length + 1) (by omega) (by omega)
    rw [setChecksum_typed hrefused] at hlarge
    simp only [gfaltGetChecksum, Prod.mk.injEq, Option.getD_some] at hlarge
    have hle : typed.type.dropLast.length ≤ typed.type.length := by rw [List.length_dropLast]; omega
    rw [Nat.add_sub_cancel, List.take_of_length_le hle] at hlarge
    exact typed.dropLast_ne hlarge.1

end Typed

/-! ### GridFTP -/

section GridFtp

variable {servers : GridFtpServers} {config : Config} {params : GfaltParams}

theorem effectiveChecks_ne_none_iff (hmode : params.checksum.mode ≠ .none) : effectiveChecks config params ≠ .none ↔
    params.strictMode = false ∧ (config.gridFtpSwitch (lit "SKIP_SOURCE_CHECKSUM") = true → params.checksum.mode ≠ .source) := by
  by_cases hstrict : params.strictMode = true
  · rw [effectiveChecks_of_strict hstrict, hstrict]
    simp
  · rw [effectiveChecks, requestedChecks, if_neg hstrict, Bool.eq_false_iff.mpr hstrict]
    by_cases hskip : config.gridFtpSwitch (lit "SKIP_SOURCE_CHECKSUM") = true
    · rw [if_pos hskip, hskip]
      cases hvalue : params.checksum.mode <;> simp_all [ChecksumMode.withoutSource]
    · rw [if_neg hskip]
      exact iff_of_true hmode ⟨rfl, fun h => absurd h hskip⟩

/-- The type that is read of the settings where there are checks: the configured one if nothing is set. -/
def readType (config : Config) (params : GfaltParams) : Option CString :=
  if params.checksum.value.getD [] = [] ∧ params.checksum.type.getD [] = [] then
    (config.optString gridFtpGroup (lit "COPY_CHECKSUM_TYPE")).map (·.take (gfalUrlMaxLen - 1))
  else some ((params.checksum.type.getD []).take (gfalUrlMaxLen - 1))

theorem copyChecksum_of_checks (servers : GridFtpServers) (hchecks : effectiveChecks config params ≠ .none) :
    copyChecksum servers config params =
      match readType config params with
      | none => .error (.core servers.missingValue)
      | some type => .ok (effectiveChecks config params, type, (params.checksum.value.getD []).take (gfalUrlMaxLen - 1)) := by
  have hstrict : ¬params.strictMode = true := fun h => hchecks (effectiveChecks_of_strict h)
  have htake : ∀ text : CString, text.take (gfalUrlMaxLen - 1) = [] ↔ text = [] := by simp
  have hmode : (if config.gridFtpSwitch (lit "SKIP_SOURCE_CHECKSUM") then params.checksum.mode.withoutSource else params.checksum.mode) =
      effectiveChecks config params := by
    rw [effectiveChecks, requestedChecks, if_neg hstrict]
  unfold copyChecksum
  rw [if_neg hstrict]
  dsimp only [gfaltGetChecksum]
  rw [hmode, readType]
  simp only [htake, ne_eq, hchecks, not_false_eq_true, true_and]
  by_cases hempty : params.checksum.value.getD [] = [] ∧ params.checksum.type.getD [] = []
  · rw [if_pos hempty, if_pos hempty]
    cases config.optString gridFtpGroup (lit "COPY_CHECKSUM_TYPE") <;> rfl
  · rw [if_neg hempty, if_neg hempty]

/-- What a copy verifies with settings in the mode of the parameters. -/
theorem gridFtpFallback_of_checks (servers : GridFtpServers) {outcome : FileOutcome} {settings : ChecksumSettings}
    (hsettings : outcome.settings = some settings) (hsame : settings.mode = params.checksum.mode)
    (hchecks : effectiveChecks config params ≠ .none) :
    gridFtpFallback servers config params outcome =
      (readType config { params with checksum := settings }).map fun type =>
        some (type, (settings.value.getD []).take (gfalUrlMaxLen - 1)) := by
  have hmode : effectiveChecks config { params with checksum := settings } = effectiveChecks config params := by
    simp only [effectiveChecks, requestedChecks, hsame]
  have hread := copyChecksum_of_checks servers (hmode ▸ hchecks : effectiveChecks config { params with checksum := settings } ≠ .none)
  rw [gridFtpFallback, hsettings, Option.bind_some, hread, hmode]
  cases readType config { params with checksum := settings } with
  | none => rfl
  | some type => simp only [Option.map_some, verified, if_neg hchecks]

/-- An entry without a type that a copy of one file reads as the bulk copy does, where this type was left by the files before. -/
structure ReadsAlike (config : Config) (params : GfaltParams) (left : Option CString) (entry : CString) : Prop where
  notStrict : params.strictMode = false
  notSkipped : config.gridFtpSwitch (lit "SKIP_SOURCE_CHECKSUM") = true → params.checksum.mode ≠ .source
  untyped : ':' ∉ entry
  given : entry = [] → params.checksum.mode = .both
  shortValue : entry.length ≤ gfalUrlMaxLen - 1
  sameType : ¬(entry = [] ∧ left.getD [] = []) →
    (left.getD []).take (gfalUrlMaxLen - 1) = (params.checksum.type.getD []).take 31
  sameDefault : entry = [] → left.getD [] = [] → ∃ type, config.optString gridFtpGroup (lit "COPY_CHECKSUM_TYPE") = some type ∧
    type.take (gfalUrlMaxLen - 1) = (params.checksum.type.getD []).take 31

section Untyped

variable {file : BulkFile} {entry : CString} (hentry : file.checksum = some entry)

include hentry

theorem valueOf_untyped (h : ':' ∉ entry) : valueOf file = some entry := by
  have hnone : strchr entry ':' = none := List.findIdx?_eq_none_iff.mpr fun c hc => by
    simpa using ne_of_mem_of_not_mem hc h
  simp only [valueOf, hentry, Option.map_some, hnone]

theorem typeSet_untyped (uninitialised : CString) (h : ':' ∉ entry) : typeSet uninitialised file = none := by
  have hnone : strchr entry ':' = none := List.findIdx?_eq_none_iff.mpr fun c hc => by
    simpa using ne_of_mem_of_not_mem hc h
  simp only [typeSet, hentry, Option.bind_some, hnone, Option.map_none]

/-- The value behind a colon is shorter than the entry. -/
theorem untyped_of_value {n : Nat} (h : ((valueOf file).getD []).take n = entry) : ':' ∉ entry := by
  intro hcolon
  obtain ⟨before, after, hsplit⟩ := List.append_of_mem hcolon
  cases hindex : strchr entry ':' with
  | none =>
      have hnone := List.findIdx?_eq_none_iff.mp hindex ':' hcolon
      simp at hnone
  | some i =>
      simp only [valueOf, hentry, Option.map_some, hindex, Option.getD_some] at h
      have hlength := congrArg List.length h
      rw [List.length_take, List.length_drop] at hlength
      rw [hsplit, List.length_append, List.length_cons] at hlength
      omega

theorem performed_untyped_iff (huntyped : ':' ∉ entry) (hmode : params.checksum.mode ≠ .none) :
    Performed params file ↔ (entry = [] → params.checksum.mode = .both) := by
  rw [Performed, valueOf_untyped hentry huntyped]
  cases hvalue : params.checksum.mode <;> simp_all

end Untyped

/-- The type that is read with this value and the type left before is that of the bulk copy. -/
theorem readType_eq_iff {entry : CString} {left : Option CString} :
    readType config { params with checksum := ⟨params.checksum.mode, left, some entry⟩ } =
        some ((params.checksum.type.getD []).take 31) ↔
      (¬(entry = [] ∧ left.getD [] = []) → (left.getD []).take (gfalUrlMaxLen - 1) = (params.checksum.type.getD []).take 31) ∧
        (entry = [] → left.getD [] = [] → ∃ type, config.optString gridFtpGroup (lit "COPY_CHECKSUM_TYPE") = some type ∧
          type.take (gfalUrlMaxLen - 1) = (params.checksum.type.getD []).take 31) := by
  rw [readType]
  dsimp only [Option.getD_some]
  by_cases hempty : entry = [] ∧ left.getD [] = []
  · rw [if_pos hempty, Option.map_eq_some_iff]
    exact ⟨fun h => ⟨fun hne => absurd hempty hne, fun _ _ => h⟩, fun h => h.2 hempty.1 hempty.2⟩
  · rw [if_neg hempty, Option.some.injEq]
    exact ⟨fun h => ⟨fun _ => h, fun hentry hleft => absurd ⟨hentry, hleft⟩ hempty⟩, fun h => h.1 hempty⟩

theorem gridFtpBulk_of_entry {file : BulkFile} {entry : CString} (hentry : file.checksum = some entry) :
    gridFtpBulk params file = .ok (verified params.checksum.mode ((params.checksum.type.getD []).take 31) entry) := by
  rw [gridFtpBulk, GridFtpBulkFile.withChecksum, hentry]
  rfl

/-- Both ways verify the same where nothing is verified, or for an entry without a type that is read alike. -/
theorem gridFtpAgrees_iff (servers : GridFtpServers) (config : Config) {uninitialised : CString} {left : Option CString}
    {file : BulkFile} {outcome : FileOutcome} (houtcome : outcome.settings = settingsBehind uninitialised params left file) :
    GridFtpAgrees servers config params file outcome ↔
      ∃ text, file.checksum = some text ∧ (params.checksum.mode = .none ∨ ReadsAlike config params left text) := by
  cases hentry : file.checksum with
  | none =>
      refine iff_of_false ?_ ?_
      · rintro ⟨what, -, hbulk⟩
        rw [gridFtpBulk, GridFtpBulkFile.withChecksum, hentry] at hbulk
        cases hbulk
      · rintro ⟨text, htext, -⟩
        cases htext
  | some entry =>
      simp only [Option.some.injEq, exists_eq_left']
      rw [GridFtpAgrees, gridFtpBulk_of_entry hentry]
      by_cases hmode : params.checksum.mode = .none
      · refine iff_of_true ⟨none, ?_, by rw [verified, if_pos hmode]⟩ (.inl hmode)
        have hperformed : Performed params file := by simp [Performed, hmode]
        rw [settingsBehind, if_pos hperformed] at houtcome
        rw [gridFtpFallback, houtcome, Option.bind_some]
        have hnone : effectiveChecks config { params with checksum :=
            ⟨params.checksum.mode, (typeSet uninitialised file).or left, valueOf file⟩ } = .none := by
          rw [effectiveChecks, requestedChecks, hmode]
          simp [ChecksumMode.withoutSource]
        rcases copyChecksum_cases servers config { params with checksum :=
            ⟨params.checksum.mode, (typeSet uninitialised file).or left, valueOf file⟩ } with ⟨h, -⟩ | ⟨type, user, hread, -⟩
        · exact absurd hnone h
        · rw [hread, hnone]
          rfl
      · rw [or_iff_right hmode, verified, if_neg hmode]
        by_cases hperformed : Performed params file
        · rw [settingsBehind, if_pos hperformed] at houtcome
          by_cases hchecks : effectiveChecks config params ≠ .none
          · obtain ⟨hstrict, hskip⟩ := (effectiveChecks_ne_none_iff hmode).mp hchecks
            rw [gridFtpFallback_of_checks servers houtcome rfl hchecks]
            constructor
            · rintro ⟨what, hfallback, hwhat⟩
              cases hwhat
              obtain ⟨type, htype, hpair⟩ := Option.map_eq_some_iff.mp hfallback
              obtain ⟨rfl, hvalue⟩ := Prod.mk.inj (Option.some.inj hpair)
              have huntyped := untyped_of_value hentry hvalue
              rw [typeSet_untyped hentry uninitialised huntyped, Option.none_or, valueOf_untyped hentry huntyped] at htype
              obtain ⟨hsame, hdefault⟩ := readType_eq_iff.mp htype
              have hlength := congrArg List.length hvalue
              rw [valueOf_untyped hentry huntyped, Option.getD_some, List.length_take] at hlength
              exact ⟨hstrict, hskip, huntyped, (performed_untyped_iff hentry huntyped hmode).mp hperformed, by omega, hsame, hdefault⟩
            · intro h
              refine ⟨_, ?_, rfl⟩
              rw [typeSet_untyped hentry uninitialised h.untyped, Option.none_or, valueOf_untyped hentry h.untyped,
                readType_eq_iff.mpr ⟨h.sameType, h.sameDefault⟩, Option.map_some, Option.getD_some, List.take_of_length_le h.shortValue]
          · refine iff_of_false ?_ fun h => hchecks ((effectiveChecks_ne_none_iff hmode).mpr ⟨h.notStrict, h.notSkipped⟩)
            rintro ⟨what, hfallback, hwhat⟩
            cases hwhat
            have hnone : effectiveChecks config { params with checksum :=
                ⟨params.checksum.mode, (typeSet uninitialised file).or left, valueOf file⟩ } = .none := not_not.mp hchecks
            rw [gridFtpFallback, houtcome, Option.bind_some] at hfallback
            rcases copyChecksum_cases servers config { params with checksum :=
                ⟨params.checksum.mode, (typeSet uninitialised file).or left, valueOf file⟩ } with ⟨h, -⟩ | ⟨type, user, hread, -⟩
            · exact h hnone
            · rw [hread, hnone] at hfallback
              cases hfallback
        · refine iff_of_false ?_ fun h => hperformed ((performed_untyped_iff hentry h.untyped hmode).mpr h.given)
          rintro ⟨what, hfallback, -⟩
          rw [settingsBehind, if_neg hperformed] at houtcome
          rw [gridFtpFallback, houtcome] at hfallback
          cases hfallback

end GridFtp

/-! ### XRootD -/

section Xrootd

variable {servers : XrdServers} {context : XrootdContext} {params : XrootdCopyParams} {typed : TypedChecksum} {file : BulkFile}
  {outcome : FileOutcome} {uninitialised : CString} {left : Option CString} {type : CString}

theorem splitChecksum_append (h : ':' ∉ type) (value : CString) : splitChecksum (type ++ ':' :: value) = some (type, value) := by
  rw [splitChecksum, strchr_append_cons h, Option.map_some, List.take_left' rfl, List.append_cons,
    List.drop_left' (by rw [List.length_append, List.length_singleton])]

theorem colon_notMem_dropLast (typed : TypedChecksum) : ':' ∉ typed.type.dropLast :=
  fun h => typed.colon_notMem (List.mem_of_mem_dropLast h)

theorem xrootdBulk_of_none (hmode : params.checksum.mode = .none) : xrootdBulk servers context params file = .ok (.ok none) := by
  rw [xrootdBulk, buildJob_of_none hmode]
  rfl

theorem xrootdBulk_of_typed {entry value : CString} (hmode : params.checksum.mode ≠ .none) (hentry : file.checksum = some entry)
    (hsplit : splitChecksum entry = some (type, value)) (htype : type ≠ []) :
    xrootdBulk servers context params file = .ok (.ok (some (madeChecksum params.checksum.mode (type.take 8) value))) := by
  rw [xrootdBulk, buildJob_of_typed hmode hentry hsplit htype]
  rfl

theorem xrootdBulk_of_default {entry value defaultType : CString} (hmode : params.checksum.mode ≠ .none)
    (hentry : file.checksum = some entry) (hsplit : splitChecksum entry = some ([], value))
    (hdefault : context.config.optString xrootdConfigGroup (lit "COPY_CHECKSUM_TYPE") = some defaultType) :
    xrootdBulk servers context params file = .ok (.ok (some (madeChecksum params.checksum.mode (defaultType.take 63) value))) := by
  rw [xrootdBulk, buildJob_of_default hmode hentry hsplit hdefault]
  rfl

theorem xrootdBulk_of_untyped (servers : XrdServers) {entry value : CString} (hmode : params.checksum.mode ≠ .none)
    (hentry : file.checksum = some entry) (hsplit : splitChecksum entry = some ([], value))
    (hdefault : context.config.optString xrootdConfigGroup (lit "COPY_CHECKSUM_TYPE") = none) :
    ∃ e, xrootdBulk servers context params file = .ok (.error e) := by
  obtain ⟨e, hjob⟩ := @buildJob_of_untyped context params servers file hmode ⟨hdefault, entry, value, hentry, hsplit⟩
  refine ⟨e, ?_⟩
  rw [xrootdBulk, hjob]
  rfl

/-- The entry that the copy of one file makes of the settings. -/
theorem xrootdFallback_typed (hentry : file.checksum = some typed.entry)
    (houtcome : outcome.settings = settingsBehind uninitialised params.toGfaltParams left file)
    (h : ¬RefusesValue params.checksum.mode typed.value) :
    xrootdFallback servers context params file outcome =
      some (xrootdBulk servers context { params with checksum := ⟨params.checksum.mode, some typed.type.dropLast, some typed.value⟩ }
        { file with checksum := some (typed.type.dropLast ++ ':' :: typed.value.take 511) }) := by
  have hshort : typed.type.dropLast.length ≤ 63 := by
    have := typed.type_length
    rw [List.length_dropLast]
    omega
  rw [settingsBehind, if_pos ((performed_iff hentry).mpr h), typed.typeSet_eq uninitialised hentry, typed.valueOf_eq hentry,
    Option.some_or] at houtcome
  rw [xrootdFallback, houtcome]
  simp only [gfaltGetChecksum, Option.map_some, Option.getD_some, List.take_of_length_le hshort]
  rw [List.append_assoc]
  rfl

/-! ### The types and the values of jobs -/

theorem stripZeros_take (value : CString) (n : Nat) :
    stripZeros (value.take n) = (stripZeros value).take (n - (value.takeWhile (· == '0')).length) := by
  induction value generalizing n with
  | nil => simp [stripZeros]
  | cons c value ih =>
      cases n with
      | zero => simp [stripZeros]
      | succ n =>
          by_cases hzero : c = '0'
          · subst hzero
            have hrest := ih n
            simp only [stripZeros] at hrest ⊢
            simp [hrest]
          · simp [stripZeros, hzero]

/-- A value that is cut off has the same preset where what the preset shows is before the cut. -/
theorem preset_take_iff (value : CString) (n : Nat) :
    ((stripZeros value).take 8).map Char.toLower = ((stripZeros (value.take n)).take 8).map Char.toLower ↔
      min 8 (stripZeros value).length ≤ n - (value.takeWhile (· == '0')).length := by
  rw [stripZeros_take]
  constructor
  · intro h
    have hlength := congrArg List.length h
    simp only [List.length_map, List.length_take] at hlength
    omega
  · intro hle
    rw [List.take_take]
    by_cases hshort : (stripZeros value).length ≤ 8
    · rw [List.take_of_length_le hshort, List.take_of_length_le (by omega)]
    · rw [Nat.min_eq_left (by omega)]

theorem type_dropLast_iff (typed : TypedChecksum) :
    predefinedChecksumTypeToLower (typed.type.take 8) = predefinedChecksumTypeToLower (typed.type.dropLast.take 8) ↔
      9 ≤ typed.type.length := by
  have hpos := typed.length_type_pos
  constructor
  · intro h
    have hlength := congrArg List.length h
    rw [length_predefinedChecksumTypeToLower, length_predefinedChecksumTypeToLower, List.length_take, List.length_take,
      List.length_dropLast] at hlength
    omega
  · intro hlong
    rw [List.dropLast_eq_take, List.take_take, Nat.min_eq_left (by omega)]

/-- A type of one character has no other form. -/
theorem predefinedChecksumTypeToLower_of_length (h : type.length = 1) : predefinedChecksumTypeToLower type = type := by
  have hlower : (type.map Char.toLower).length = 1 := by rw [List.length_map, h]
  rw [predefinedChecksumTypeToLower, if_neg]
  rintro (htype | htype | htype) <;> rw [htype] at hlower <;> cases hlower

theorem type_default_iff {defaultType : CString} (h : type.length = 1) :
    predefinedChecksumTypeToLower (type.take 8) = predefinedChecksumTypeToLower (defaultType.take 63) ↔ defaultType = type := by
  rw [List.take_of_length_le (by omega), predefinedChecksumTypeToLower_of_length h]
  constructor
  · intro htype
    have hlength := congrArg List.length htype
    rw [length_predefinedChecksumTypeToLower, List.length_take] at hlength
    have hone : defaultType.length = 1 := by omega
    rw [List.take_of_length_le (by omega), predefinedChecksumTypeToLower_of_length hone] at htype
    exact htype.symm
  · rintro rfl
    rw [List.take_of_length_le (by omega), predefinedChecksumTypeToLower_of_length h]

/-- A checksum that gives the job of its bulk copy also after the fallback. -/
structure JobsAlike (config : Config) (mode : ChecksumMode) (typed : TypedChecksum) : Prop where
  given : typed.value = [] → mode = .both
  type : 9 ≤ typed.type.length ∨
    (typed.type.length = 1 ∧ config.optString xrootdConfigGroup (lit "COPY_CHECKSUM_TYPE") = some typed.type)
  value : min 8 (stripZeros typed.value).length ≤ 511 - (typed.value.takeWhile (· == '0')).length

theorem madeChecksum_eq_iff {mode : ChecksumMode} {type' value value' : CString} :
    madeChecksum mode type value = madeChecksum mode type' value' ↔
      predefinedChecksumTypeToLower type = predefinedChecksumTypeToLower type' ∧
        ((stripZeros value).take 8).map Char.toLower = ((stripZeros value').take 8).map Char.toLower := by
  simp only [madeChecksum, JobChecksum.mk.injEq, true_and]

theorem refusesValue_iff {mode : ChecksumMode} {value : CString} (hmode : mode ≠ .none) :
    ¬RefusesValue mode value ↔ (value = [] → mode = .both) := by
  cases mode <;> simp_all [RefusesValue]

theorem sameJob_iff {fallback : Except Fault (Except GError (Option JobChecksum))} {left right : JobChecksum}
    (hfallback : fallback = .ok (.ok (some right))) :
    (∃ what, some fallback = some (.ok (.ok what)) ∧
      (.ok (.ok (some left)) : Except Fault (Except GError (Option JobChecksum))) = .ok (.ok what)) ↔ left = right := by
  subst hfallback
  constructor
  · rintro ⟨what, hright, hleft⟩
    cases hright
    cases hleft
    rfl
  · rintro rfl
    exact ⟨some left, rfl, rfl⟩

/-- The types and the values of both jobs. -/
theorem xrootdAgrees_of_accepted (hentry : file.checksum = some typed.entry)
    (houtcome : outcome.settings = settingsBehind uninitialised params.toGfaltParams left file)
    (hmode : params.checksum.mode ≠ .none) (haccepted : ¬RefusesValue params.checksum.mode typed.value) :
    XrootdAgrees servers context params file outcome ↔
      (9 ≤ typed.type.length ∨
        (typed.type.length = 1 ∧ context.config.optString xrootdConfigGroup (lit "COPY_CHECKSUM_TYPE") = some typed.type)) ∧
      min 8 (stripZeros typed.value).length ≤ 511 - (typed.value.takeWhile (· == '0')).length := by
  let set : XrootdCopyParams := { params with checksum := ⟨params.checksum.mode, some typed.type.dropLast, some typed.value⟩ }
  have hset : set.checksum.mode ≠ .none := hmode
  have placed : ∀ entry : CString, ({ file with checksum := some entry } : BulkFile).checksum = some entry := fun _ => rfl
  have hpos := typed.length_type_pos
  have hsplit := splitChecksum_append (colon_notMem_dropLast typed) (typed.value.take 511)
  have hwhole := splitChecksum_append typed.colon_notMem typed.value
  have hbulk : xrootdBulk servers context params file =
      .ok (.ok (some (madeChecksum params.checksum.mode (typed.type.take 8) typed.value))) :=
    xrootdBulk_of_typed hmode hentry hwhole typed.type_ne_nil
  rw [XrootdAgrees, xrootdFallback_typed hentry houtcome haccepted, hbulk]
  by_cases hone : typed.type.length = 1
  · have hnil : typed.type.dropLast = [] := List.length_eq_zero_iff.mp (by rw [List.length_dropLast]; omega)
    rw [hnil] at hsplit ⊢
    cases hdefault : context.config.optString xrootdConfigGroup (lit "COPY_CHECKSUM_TYPE") with
    | none =>
        obtain ⟨e, hjob⟩ := @xrootdBulk_of_untyped context set _ servers _ _ hset (placed _) hsplit hdefault
        refine iff_of_false ?_ ?_
        · rintro ⟨what, hfallback, -⟩
          have := hjob.symm.trans (Option.some.inj hfallback)
          cases this
        · rintro ⟨hlong | ⟨-, hsome⟩, -⟩
          · omega
          · cases hsome
    | some defaultType =>
        have hjob := @xrootdBulk_of_default servers context set _ _ _ _ hset (placed _) hsplit hdefault
        refine (sameJob_iff hjob).trans ?_
        rw [madeChecksum_eq_iff, type_default_iff hone, preset_take_iff, Option.some.injEq]
        refine and_congr_left fun _ => ?_
        constructor
        · intro htype
          exact .inr ⟨hone, htype⟩
        · rintro (hlong | ⟨-, htype⟩)
          · omega
          · exact htype
  · have hne : typed.type.dropLast ≠ [] := fun h => by
      have hlength := congrArg List.length h
      rw [List.length_dropLast, List.length_nil] at hlength
      omega
    have hjob := @xrootdBulk_of_typed servers context set _ _ _ _ hset (placed _) hsplit hne
    refine (sameJob_iff hjob).trans ?_
    rw [madeChecksum_eq_iff, type_dropLast_iff, preset_take_iff]
    exact and_congr_left fun _ => (or_iff_left fun h => hone h.1).symm

/-- Both ways give a job the same checksum where there is none, or where the type and the value survive the fallback. -/
theorem xrootdAgrees_iff (servers : XrdServers) (context : XrootdContext) (hentry : file.checksum = some typed.entry)
    (houtcome : outcome.settings = settingsBehind uninitialised params.toGfaltParams left file) :
    XrootdAgrees servers context params file outcome ↔
      params.checksum.mode = .none ∨ JobsAlike context.config params.checksum.mode typed := by
  by_cases hmode : params.checksum.mode = .none
  · have haccepted : ¬RefusesValue params.checksum.mode typed.value := by simp [RefusesValue, hmode]
    refine iff_of_true ⟨none, ?_, xrootdBulk_of_none hmode⟩ (.inl hmode)
    rw [xrootdFallback_typed hentry houtcome haccepted]
    exact congrArg some (xrootdBulk_of_none hmode)
  · rw [or_iff_right hmode]
    by_cases hrefused : RefusesValue params.checksum.mode typed.value
    · refine iff_of_false ?_ fun h => (refusesValue_iff hmode).mpr h.given hrefused
      rintro ⟨what, hfallback, -⟩
      rw [settingsBehind, if_neg (not_not.mpr hrefused ∘ (performed_iff hentry).mp)] at houtcome
      rw [xrootdFallback, houtcome] at hfallback
      cases hfallback
    · rw [xrootdAgrees_of_accepted hentry houtcome hmode hrefused]
      have hgiven := (refusesValue_iff hmode).mp hrefused
      exact ⟨fun h => ⟨hgiven, h.1, h.2⟩, fun h => ⟨h.type, h.value⟩⟩

end Xrootd

/-- Through the fallback a typed checksum does not come back whole, unless it is refused and was set before. For each file of a run of
the fallback, a bulk copy of GridFTP verifies the same as the copy that the fallback makes where nothing is verified or for an entry
without a type that is read alike behind the files before it, and one of XRootD verifies the same for a typed checksum where nothing is
verified or the type and the value survive the fallback. -/
theorem bulk_checksums_agree_iff {σ : Type} {fuel i : Nat} {uninitialised : Nat → CString} {params : XrootdCopyParams}
    {files : List BulkFile} {file : BulkFile} {outcome : FileOutcome} {library library' : Gfal2Context σ} {answer : Int × List FileOutcome}
    (hrun : bulkFallback fuel uninitialised params.toGfaltParams files library = .ok (answer, library'))
    (hfile : files[i]? = some file) (houtcome : answer.2[i]? = some outcome)
    (servers : GridFtpServers) (config : Config) (xrdServers : XrdServers) (context : XrootdContext) (typed : TypedChecksum) :
    (∀ (array : CString) (settings : GfaltParams), SetsChecksum array settings typed ↔ RefusesValue settings.checksum.mode typed.value ∧
      settings.checksum.type = some typed.type ∧ settings.checksum.value.getD [] = []) ∧
    (GridFtpAgrees servers config params.toGfaltParams file outcome ↔ ∃ text, file.checksum = some text ∧
      (params.checksum.mode = .none ∨ ReadsAlike config params.toGfaltParams
        (typeAfter uninitialised params.toGfaltParams 0 params.checksum.type (files.take i)) text)) ∧
    (file.checksum = some typed.entry → (XrootdAgrees xrdServers context params file outcome ↔
      params.checksum.mode = .none ∨ JobsAlike context.config params.checksum.mode typed)) := by
  have hsettings := settings_at hrun hfile houtcome
  exact ⟨fun _ _ => setsChecksum_iff, gridFtpAgrees_iff servers config hsettings,
    fun hentry => xrootdAgrees_iff xrdServers context hentry hsettings⟩

/-- The settings of a call with `ADLER32`, of which each file is checked at both ends. -/
def adlerParams : XrootdCopyParams := { checksum := { mode := .both, type := some (lit "ADLER32") } }

/-- Behind `MD5:aa` the fallback verifies `1234` as a sum of the type `MD`, and the bulk copy of GridFTP as one of `ADLER32`. -/
theorem bulk_checksums_disagree_behind_md5 : ∃ answer library' outcome,
    bulkFallback 0 (fun _ => []) adlerParams.toGfaltParams
      [⟨lit "a", lit "b", some (lit "MD5:aa")⟩, ⟨lit "c", lit "d", some (lit "1234")⟩] copyContext = .ok (answer, library') ∧
    answer.2[1]? = some outcome ∧
    ¬GridFtpAgrees (agreeingServers []) {} adlerParams.toGfaltParams ⟨lit "c", lit "d", some (lit "1234")⟩ outcome := by
  refine ⟨_, _, ⟨0, none, some ⟨.both, some (lit "MD"), some (lit "1234")⟩⟩, rfl, rfl, fun hagrees => ?_⟩
  have hcopied : bulkFallback 0 (fun _ => []) adlerParams.toGfaltParams
      [⟨lit "a", lit "b", some (lit "MD5:aa")⟩, ⟨lit "c", lit "d", some (lit "1234")⟩] copyContext = .ok (_, _) := rfl
  have hsecond : [(⟨lit "a", lit "b", some (lit "MD5:aa")⟩ : BulkFile), ⟨lit "c", lit "d", some (lit "1234")⟩][1]? =
      some ⟨lit "c", lit "d", some (lit "1234")⟩ := rfl
  obtain ⟨-, hgridFtp, -⟩ := bulk_checksums_agree_iff hcopied hsecond rfl (agreeingServers []) {} md5Servers {}
    ⟨lit "MD5", lit "aa", by decide, by decide, by decide⟩
  obtain ⟨text, htext, hmode | halike⟩ := hgridFtp.mp hagrees
  · cases hmode
  · exact absurd (halike.sameType fun h => absurd h.2 (by decide)) (by decide)

/-- `ADLER32:2` is set as `ADLER3` and `2`. -/
theorem last_letter_lost : ¬SetsChecksum [] { checksum := { mode := .both } } ⟨lit "ADLER32", lit "2", by decide, by decide, by decide⟩ := by
  intro h
  have htype := congrArg Prod.fst (h 64 64 (by decide) (by decide))
  exact absurd htype (by decide)

end Gfal2
