import Gfal2.Checksums

/-! What a local copy that returns 0 says about checksums. The copy is followed together with a record of the
checksums it obtained and of whether it raised a mismatch itself; the record changes nothing of the copy. A
source whose checksum is empty is not told from one whose checksum was not asked for, and a value that does
not fit its buffer is cut. -/

namespace Gfal2

open Base

variable {σ : Type}

/-! ### The record of a copy -/

/-- The checksums that a copy obtained, and whether it raised a mismatch itself. -/
structure Seen where
  source : Option CString := none
  destination : Option CString := none
  mismatch : Bool := false

/-- `checkSource` with its record. -/
def checkSourceSeen (mode : ChecksumMode) (src checksumType userChecksum : CString) : Gfal σ (Ret CString × Seen) := do
  if ¬mode.hasSource then
    return (⟨[], none⟩, {})
  let source ← checksumOfSide .source src checksumType (lit "Could not get the source checksum: ")
  if source.err = none ∧ userChecksum ≠ [] ∧ source.val ≠ [] ∧
      gfalCompareChecksums userChecksum source.val 1024 ≠ 0 then
    return (⟨source.val, some (gfaltSetError localCopyDomain EIO (lit "SOURCE") (lit "CHECKSUM MISMATCH")
      (lit "Source checksum and user-specified checksum do not match: " ++ source.val ++ lit " != " ++
        userChecksum))⟩, { source := some source.val, mismatch := true })
  else
    return (source, { source := if source.err = none then some source.val else none })

/-- `checkDestination` with its record, which goes on from that of the source. -/
def checkDestinationSeen (mode : ChecksumMode) (dst checksumType userChecksum sourceChecksum : CString) (seen : Seen) :
    Gfal σ (Ret Int × Seen) := do
  if ¬mode.hasTarget then
    return (⟨0, none⟩, seen)
  let compareAgainst := if userChecksum = [] then sourceChecksum else userChecksum
  let compareSide := if userChecksum = [] then lit "Source" else lit "User defined"
  let destination ← checksumOfSide .destination dst checksumType (lit "Could not get the destination checksum: ")
  if destination.err.isSome then
    return (⟨-1, destination.err⟩, seen)
  else if gfalCompareChecksums compareAgainst destination.val 1204 ≠ 0 then
    return (⟨-1, some (gfaltSetError localCopyDomain EIO (lit "DESTINATION") (lit "CHECKSUM MISMATCH")
      (compareSide ++ lit " checksum and destination checksum do not match: " ++ compareAgainst ++ lit " != " ++
        destination.val))⟩, { seen with destination := some destination.val, mismatch := true })
  else
    return (⟨0, none⟩, { seen with destination := some destination.val })

/-- The checks that a copy makes: strict mode switches them off. -/
def requestedChecks (params : GfaltParams) : ChecksumMode :=
  if params.strictMode then .none else params.checksum.mode

/-- The value of the user as the copy reads it into its buffer. -/
def readUserChecksum (params : GfaltParams) : CString := (params.checksum.value.getD []).take 1023

/-- `performLocalCopy` with its record. -/
def performLocalCopySeen (fuel : Nat) (params : GfaltParams) (src dst : CString) : Gfal σ (Ret Int × Seen) := do
  let (mode, type, userChecksum) :=
    if params.strictMode then (ChecksumMode.none, [], []) else gfaltGetChecksum params 1024 1024
  let checksumType := if type = [] then lit "ADLER32" else type
  let (source, seen) ← checkSourceSeen mode src checksumType userChecksum
  if source.err.isSome then
    return (⟨-1, source.err⟩, seen)
  let prepared ← prepareDestination params dst
  if prepared.err.isSome then
    return (⟨-1, prepared.err⟩, seen)
  let copied ← streamedCopy fuel params src dst
  if copied.err.isSome then
    return (⟨-1, copied.err⟩, seen)
  checkDestinationSeen mode dst checksumType userChecksum source.val seen

theorem checkSource_eq (mode : ChecksumMode) (src checksumType userChecksum : CString) :
    (checkSource mode src checksumType userChecksum : Gfal σ _) =
      Prod.fst <$> checkSourceSeen mode src checksumType userChecksum := by
  unfold checkSource checkSourceSeen
  by_cases hmode : mode.hasSource = true
  · simp only [hmode, not_true_eq_false, if_false, map_bind]
    congr
    funext source
    split <;> rfl
  · rw [if_pos hmode, if_pos hmode]
    rfl

theorem checkDestination_eq (mode : ChecksumMode) (dst checksumType userChecksum sourceChecksum : CString) (seen : Seen) :
    (checkDestination mode dst checksumType userChecksum sourceChecksum : Gfal σ _) =
      Prod.fst <$> checkDestinationSeen mode dst checksumType userChecksum sourceChecksum seen := by
  unfold checkDestination checkDestinationSeen
  by_cases hmode : mode.hasTarget = true
  · simp only [hmode, not_true_eq_false, if_false, map_bind]
    congr
    funext destination
    by_cases herr : destination.err.isSome = true
    · rw [if_pos herr, if_pos herr]
      rfl
    · rw [if_neg herr, if_neg herr]
      by_cases hcompare : gfalCompareChecksums (if userChecksum = [] then sourceChecksum else userChecksum)
          destination.val 1204 ≠ 0
      · rw [if_pos hcompare, if_pos hcompare]
        rfl
      · rw [if_neg hcompare, if_neg hcompare]
        rfl
  · rw [if_pos hmode, if_pos hmode]
    rfl

/-- The record changes nothing of the copy. -/
theorem performLocalCopy_eq (fuel : Nat) (params : GfaltParams) (src dst : CString) :
    (performLocalCopy fuel params src dst : Gfal σ _) = Prod.fst <$> performLocalCopySeen fuel params src dst := by
  unfold performLocalCopy performLocalCopySeen
  dsimp only
  rw [checkSource_eq]
  simp only [map_eq_pure_bind, bind_assoc, pure_bind]
  congr
  funext answer
  split
  · rfl
  · simp only [bind_assoc]
    congr
    funext prepared
    split
    · rfl
    · simp only [bind_assoc]
      congr
      funext copied
      split
      · rfl
      · rw [checkDestination_eq _ _ _ _ _ answer.2, map_eq_pure_bind]

variable {params : GfaltParams} {context' : Gfal2Context σ} {seen : Seen} {ret : Ret Int} {dst src : CString}

theorem performLocalCopy_of_seen {fuel : Nat} {context : Gfal2Context σ}
    (hrun : performLocalCopySeen fuel params src dst context = .ok ((ret, seen), context')) :
    performLocalCopy fuel params src dst context = .ok (ret, context') := by
  rw [performLocalCopy_eq, map_eq_pure_bind]
  exact Exec.bind_of_ok hrun

/-! ### What a run has seen -/

/-- How the two checks of a copy end, from the checksums they obtained; `user` is the value in the buffer. -/
structure Verdict (mode : ChecksumMode) (user : CString) (ret : Ret Int) (seen : Seen) : Prop where
  unasked : mode.hasSource = false → seen.source = none
  source : ret.val = 0 → mode.hasSource = true → ∃ s, seen.source = some s ∧ (user = [] ∨ s = [] ∨ SameChecksum user s)
  target : ret.val = 0 → mode.hasTarget = true → ∃ d, seen.destination = some d ∧
    SameChecksum (if user = [] then seen.source.getD [] else user) d
  mismatch : seen.mismatch = true →
    (∃ s, user ≠ [] ∧ seen.source = some s ∧ ¬SameChecksum user s) ∨
      ∃ d, mode.hasTarget = true ∧ (mode.hasSource = true → seen.source.isSome = true) ∧ seen.destination = some d ∧
        ¬SameChecksum (if user = [] then seen.source.getD [] else user) d

/-- The checksums that were obtained fit the buffers of 1024 bytes they were written into. -/
structure Seen.Fits (seen : Seen) : Prop where
  source : ∀ s ∈ seen.source, s.length < 1024
  destination : ∀ d ∈ seen.destination, d.length < 1024

theorem checkSourceSeen_spec {mode : ChecksumMode} {checksumType user : CString} {context : Gfal2Context σ}
    {source : Ret CString} (huser : user.length < 1024)
    (hrun : checkSourceSeen mode src checksumType user context = .ok ((source, seen), context'))
    (hfits : ∀ s ∈ seen.source, s.length < 1024) :
    seen.destination = none ∧ (mode.hasSource = false → seen.source = none) ∧
      (source.err = none → seen.mismatch = false ∧ source.val = seen.source.getD [] ∧
        (mode.hasSource = true → ∃ s, seen.source = some s ∧ (user = [] ∨ s = [] ∨ SameChecksum user s))) ∧
      (seen.mismatch = true → ∃ s, user ≠ [] ∧ seen.source = some s ∧ ¬SameChecksum user s) := by
  unfold checkSourceSeen at hrun
  by_cases hmode : mode.hasSource = true
  · rw [if_neg (not_not_intro hmode)] at hrun
    obtain ⟨answer, middle, -, hrest⟩ := Exec.bind_eq_ok.mp hrun
    split at hrest
    · rename_i hdiffer
      obtain ⟨herr, hne, hval, hcompare⟩ := hdiffer
      cases hrest
      have hlength := hfits _ rfl
      rw [ne_eq, gfalCompareChecksums_eq_zero_iff huser.le hlength.le] at hcompare
      exact ⟨rfl, by simp [hmode], by simp, fun _ => ⟨_, hne, rfl, hcompare⟩⟩
    · rename_i hsame
      cases hrest
      refine ⟨rfl, by simp [hmode], fun herr => ?_, by simp⟩
      rw [if_pos herr] at hfits ⊢
      refine ⟨rfl, rfl, fun _ => ⟨_, rfl, ?_⟩⟩
      by_contra hnot
      push Not at hnot
      refine hsame ⟨herr, hnot.1, hnot.2.1, ?_⟩
      rw [ne_eq, gfalCompareChecksums_eq_zero_iff huser.le (hfits _ rfl).le]
      exact hnot.2.2
  · rw [if_pos hmode] at hrun
    cases hrun
    exact ⟨rfl, fun _ => rfl, fun _ => ⟨rfl, rfl, fun h => absurd h hmode⟩, by simp⟩

theorem checkDestinationSeen_spec {mode : ChecksumMode} {checksumType user sourceChecksum : CString}
    {context : Gfal2Context σ} {seen' : Seen} (huser : user.length < 1024)
    (hrun : checkDestinationSeen mode dst checksumType user sourceChecksum seen context = .ok ((ret, seen'), context'))
    (hfits : ∀ d ∈ seen'.destination, d.length < 1024) :
    seen'.source = seen.source ∧ (sourceChecksum.length < 1024 →
      (ret.val = 0 → mode.hasTarget = true → ∃ d, seen'.destination = some d ∧
        SameChecksum (if user = [] then sourceChecksum else user) d) ∧
      (seen'.mismatch = true → seen.mismatch = false → mode.hasTarget = true ∧ ∃ d, seen'.destination = some d ∧
        ¬SameChecksum (if user = [] then sourceChecksum else user) d)) := by
  have hsame : ∀ {d : CString}, d.length < 1024 → sourceChecksum.length < 1024 →
      (gfalCompareChecksums (if user = [] then sourceChecksum else user) d 1204 = 0 ↔
        SameChecksum (if user = [] then sourceChecksum else user) d) := by
    intro d hd hsource
    refine gfalCompareChecksums_eq_zero_iff ?_ (by omega)
    split <;> omega
  have hbool : ∀ {b : Bool}, b = true → b = false → False := by decide
  unfold checkDestinationSeen at hrun
  by_cases hmode : mode.hasTarget = true
  · rw [if_neg (not_not_intro hmode)] at hrun
    obtain ⟨answer, middle, -, hrest⟩ := Exec.bind_eq_ok.mp hrun
    by_cases herr : answer.err.isSome = true
    · rw [if_pos herr] at hrest
      cases hrest
      exact ⟨rfl, fun _ => ⟨by simp, fun h h' => (hbool h h').elim⟩⟩
    · rw [if_neg herr] at hrest
      by_cases hcompare : gfalCompareChecksums (if user = [] then sourceChecksum else user) answer.val 1204 = 0
      · rw [if_neg (not_not_intro hcompare)] at hrest
        cases hrest
        exact ⟨rfl, fun hsource => ⟨fun _ _ => ⟨_, rfl, (hsame (hfits _ rfl) hsource).mp hcompare⟩,
          fun h h' => (hbool h h').elim⟩⟩
      · rw [if_pos hcompare] at hrest
        cases hrest
        exact ⟨rfl, fun hsource => ⟨by simp,
          fun _ _ => ⟨hmode, _, rfl, fun h => hcompare ((hsame (hfits _ rfl) hsource).mpr h)⟩⟩⟩
  · rw [if_pos hmode] at hrun
    cases hrun
    exact ⟨rfl, fun _ => ⟨fun _ h => absurd h hmode, fun h h' => (hbool h h').elim⟩⟩

/-- The settings that a copy works with: strict mode switches the checks off. -/
def copySettings (params : GfaltParams) : ChecksumMode × CString × CString :=
  if params.strictMode then (ChecksumMode.none, [], []) else gfaltGetChecksum params 1024 1024

theorem copySettings_mode (params : GfaltParams) : (copySettings params).1 = requestedChecks params := by
  unfold copySettings requestedChecks
  split <;> rfl

theorem copySettings_user (hchecks : requestedChecks params ≠ .none) : (copySettings params).2.2 = readUserChecksum params := by
  unfold copySettings requestedChecks at *
  split
  · rename_i hstrict
    rw [if_pos hstrict] at hchecks
    exact absurd rfl hchecks
  · rfl

theorem length_copySettings_user (params : GfaltParams) : (copySettings params).2.2.length < 1024 := by
  unfold copySettings
  split
  · decide
  · exact lt_of_le_of_lt (List.length_take_le _ _) (by decide)

theorem performLocalCopySeen_settings {fuel : Nat} {context : Gfal2Context σ}
    (hrun : performLocalCopySeen fuel params src dst context = .ok ((ret, seen), context')) (hfits : seen.Fits) :
    Verdict (copySettings params).1 (copySettings params).2.2 ret seen := by
  have huser := length_copySettings_user params
  unfold performLocalCopySeen at hrun
  obtain ⟨⟨source, seen₁⟩, context₁, hsource, hrest⟩ := Exec.bind_eq_ok.mp hrun
  -- a copy that ends between the two checks has looked at the source only
  have hearly : ∀ {error : Option GError}, (⟨-1, error⟩, seen₁) = (ret, seen) →
      Verdict (copySettings params).1 (copySettings params).2.2 ret seen := by
    rintro error heq
    cases heq
    obtain ⟨-, hunasked, -, hmismatch⟩ := checkSourceSeen_spec huser hsource hfits.source
    exact ⟨hunasked, by simp, by simp, fun h => .inl (hmismatch h)⟩
  dsimp only at hrest
  split at hrest
  · exact hearly (congrArg Prod.fst (Except.ok.inj hrest))
  · rename_i hsourceErr
    obtain ⟨prepared, context₂, -, hrest⟩ := Exec.bind_eq_ok.mp hrest
    split at hrest
    · exact hearly (congrArg Prod.fst (Except.ok.inj hrest))
    · obtain ⟨copied, context₃, -, hrest⟩ := Exec.bind_eq_ok.mp hrest
      split at hrest
      · exact hearly (congrArg Prod.fst (Except.ok.inj hrest))
      · obtain ⟨hkept, htarget⟩ := checkDestinationSeen_spec huser hrest hfits.destination
        obtain ⟨-, hunasked, hok, -⟩ := checkSourceSeen_spec huser hsource (by rw [← hkept]; exact hfits.source)
        obtain ⟨hmismatch, hval, hchecked⟩ := hok (by simpa using hsourceErr)
        have hlength : source.val.length < 1024 := by
          rw [hval, ← hkept]
          cases hseen : seen.source with
          | none => decide
          | some s => exact hfits.source s hseen
        obtain ⟨hdestination, hdiffer⟩ := htarget hlength
        rw [hval, ← hkept] at hdestination hdiffer
        rw [← hkept] at hunasked hchecked
        refine ⟨hunasked, fun _ => hchecked, hdestination, fun h => ?_⟩
        obtain ⟨hmode, d, hd, hnot⟩ := hdiffer h hmismatch
        refine .inr ⟨d, hmode, fun hasSource => ?_, hd, hnot⟩
        obtain ⟨s, hs, -⟩ := hchecked hasSource
        rw [hs]
        rfl

theorem performLocalCopySeen_verdict {fuel : Nat} {context : Gfal2Context σ} (hchecks : requestedChecks params ≠ .none)
    (hrun : performLocalCopySeen fuel params src dst context = .ok ((ret, seen), context')) (hfits : seen.Fits) :
    Verdict (requestedChecks params) (readUserChecksum params) ret seen := by
  rw [← copySettings_mode, ← copySettings_user hchecks]
  exact performLocalCopySeen_settings hrun hfits

/-! ### Soundness -/

/-- The value of the user; an empty one is none. -/
def userChecksum (params : GfaltParams) : CString := params.checksum.value.getD []

/-- What a copy's result says about the checksums it obtained. -/
structure ChecksumsSound (params : GfaltParams) (ret : Ret Int) (seen : Seen) : Prop where
  target : ret.val = 0 → (requestedChecks params).hasTarget = true → ∃ d, seen.destination = some d ∧
    if userChecksum params = [] then ∃ s, seen.source = some s ∧ SameChecksum s d
    else SameChecksum (userChecksum params) d
  source : ret.val = 0 → (requestedChecks params).hasSource = true → userChecksum params ≠ [] →
    ∃ s, seen.source = some s ∧ SameChecksum (userChecksum params) s
  mismatch : seen.mismatch = true →
    (userChecksum params ≠ [] ∧ ∃ x, (seen.source = some x ∨ seen.destination = some x) ∧
      ¬SameChecksum (userChecksum params) x) ∨
      ∃ s d, seen.source = some s ∧ seen.destination = some d ∧ ¬SameChecksum s d

/-- The copies with these parameters are sound, whatever the plugins, the configuration and the listeners of the
context are; a source may report an empty checksum only if `mayBeEmpty` says so. -/
def SoundCopies (params : GfaltParams) (mayBeEmpty : Prop) : Prop :=
  ∀ (σ : Type) (fuel : Nat) (src dst : CString) (context context' : Gfal2Context σ) (ret : Ret Int) (seen : Seen),
    performLocalCopySeen fuel params src dst context = .ok ((ret, seen), context') → seen.Fits →
      (seen.source = some [] → mayBeEmpty) → ChecksumsSound params ret seen

/-- What the buffers and an empty checksum of the source do not get in the way of: no check, or no value of the
user and a source to compare with, or a value that is not cut and is compared with what the source has. -/
def ChecksDecide (params : GfaltParams) (mayBeEmpty : Prop) : Prop :=
  requestedChecks params = .none ∨
    if userChecksum params = [] then requestedChecks params ≠ .target
    else Zeros (userChecksum params) ∨
      (userChecksum params).length < 1024 ∧ ((requestedChecks params).hasSource = true → ¬mayBeEmpty)

theorem readUserChecksum_of_short (hshort : (userChecksum params).length < 1024) :
    readUserChecksum params = userChecksum params := List.take_of_length_le (by
  have : (params.checksum.value.getD []).length < 1024 := hshort
  omega)

theorem readUserChecksum_eq_nil_iff : readUserChecksum params = [] ↔ userChecksum params = [] := by
  simp [readUserChecksum, userChecksum]

theorem length_readUserChecksum (params : GfaltParams) : (readUserChecksum params).length < 1024 :=
  lt_of_le_of_lt (List.length_take_le _ _) (by decide)

theorem sameChecksum_of_zeros {chk chk' : CString} (h : Zeros chk) (h' : Zeros chk') (x : CString) :
    SameChecksum chk x ↔ SameChecksum chk' x := by
  rw [SameChecksum, SameChecksum, canonicalChecksum_eq_nil_iff.mpr h, canonicalChecksum_eq_nil_iff.mpr h']

/-- A value that is not cut, or nothing but zeros, is compared as it is. -/
theorem sameChecksum_read (h : Zeros (userChecksum params) ∨ (userChecksum params).length < 1024) (x : CString) :
    SameChecksum (readUserChecksum params) x ↔ SameChecksum (userChecksum params) x := by
  rcases h with h | h
  · exact sameChecksum_of_zeros (h.take 1023) h x
  · rw [readUserChecksum_of_short h]

/-- A copy without checks has nothing to be sound about. -/
theorem sound_of_unasked {user : CString} (hchecks : requestedChecks params = .none) (hverdict : Verdict .none user ret seen) :
    ChecksumsSound params ret seen where
  target _ h := by
    rw [hchecks] at h
    cases h
  source _ h := by
    rw [hchecks] at h
    cases h
  mismatch h := by
    obtain ⟨s, -, hs, -⟩ | ⟨d, hmode, -⟩ := hverdict.mismatch h
    · rw [hverdict.unasked rfl] at hs
      cases hs
    · cases hmode

theorem ChecksumMode.hasSource_of_target {mode : ChecksumMode} (htarget : mode.hasTarget = true) (hne : mode ≠ .target) :
    mode.hasSource = true := by
  cases mode with
  | none => cases htarget
  | source => rfl
  | target => exact absurd rfl hne
  | both => rfl

/-- Without a value of the user the two sides are compared with each other. -/
theorem sound_of_no_value (hverdict : Verdict (requestedChecks params) (readUserChecksum params) ret seen)
    (huser : userChecksum params = []) (hmode : requestedChecks params ≠ .target) : ChecksumsSound params ret seen := by
  have hread := readUserChecksum_eq_nil_iff.mpr huser
  have hgetD : ∀ {s : CString}, seen.source = some s → seen.source.getD [] = s := fun h => by rw [h]; rfl
  refine ⟨fun hret htarget => ?_, fun _ _ h => absurd huser h, fun hraised => ?_⟩
  · obtain ⟨d, hd, hsame⟩ := hverdict.target hret htarget
    obtain ⟨s, hs, -⟩ := hverdict.source hret (ChecksumMode.hasSource_of_target htarget hmode)
    rw [if_pos hread, hgetD hs] at hsame
    exact ⟨d, hd, by rw [if_pos huser]; exact ⟨s, hs, hsame⟩⟩
  · obtain ⟨s, hne, -⟩ | ⟨d, htarget, hsome, hd, hnot⟩ := hverdict.mismatch hraised
    · exact absurd hread hne
    · obtain ⟨s, hs⟩ := Option.isSome_iff_exists.mp (hsome (ChecksumMode.hasSource_of_target htarget hmode))
      rw [if_pos hread, hgetD hs] at hnot
      exact .inr ⟨s, d, hs, hd, hnot⟩

/-- A value of the user that is compared as it is decides on every side that is asked for. -/
theorem sound_of_value
    (hverdict : Verdict (requestedChecks params) (readUserChecksum params) ret seen) (huser : userChecksum params ≠ [])
    (hread : ∀ x, SameChecksum (readUserChecksum params) x ↔ SameChecksum (userChecksum params) x)
    (hempty : (requestedChecks params).hasSource = true → seen.source = some [] → Zeros (userChecksum params)) :
    ChecksumsSound params ret seen := by
  have hne : readUserChecksum params ≠ [] := fun h => huser (readUserChecksum_eq_nil_iff.mp h)
  refine ⟨fun hret htarget => ?_, fun hret hsource _ => ?_, fun hraised => ?_⟩
  · obtain ⟨d, hd, hsame⟩ := hverdict.target hret htarget
    rw [if_neg hne, hread] at hsame
    exact ⟨d, hd, by rw [if_neg huser]; exact hsame⟩
  · obtain ⟨s, hs, hcases⟩ := hverdict.source hret hsource
    refine ⟨s, hs, ?_⟩
    rcases hcases with h | rfl | h
    · exact absurd h hne
    · exact sameChecksum_nil_iff.mpr (hempty hsource hs)
    · exact (hread s).mp h
  · obtain ⟨s, -, hs, hnot⟩ | ⟨d, -, -, hd, hnot⟩ := hverdict.mismatch hraised
    · exact .inl ⟨huser, s, .inl hs, fun h => hnot ((hread s).mpr h)⟩
    · rw [if_neg hne, hread] at hnot
      exact .inl ⟨huser, d, .inr hd, hnot⟩

theorem soundCopies_of_decide {mayBeEmpty : Prop} (hdecide : ChecksDecide params mayBeEmpty) : SoundCopies params mayBeEmpty := by
  intro σ fuel src dst context context' ret seen hrun hfits hempty
  by_cases hchecks : requestedChecks params = .none
  · have hverdict := performLocalCopySeen_settings hrun hfits
    rw [copySettings_mode, hchecks] at hverdict
    exact sound_of_unasked hchecks hverdict
  · have hverdict := performLocalCopySeen_verdict hchecks hrun hfits
    have hdecide := hdecide.resolve_left hchecks
    split at hdecide
    · rename_i huser
      exact sound_of_no_value hverdict huser hdecide
    · rename_i huser
      apply sound_of_value hverdict huser (sameChecksum_read (hdecide.imp_right And.left))
      intro hsource hs
      rcases hdecide with hzeros | ⟨-, hnever⟩
      · exact hzeros
      · exact absurd (hempty hs) (hnever hsource)

/-! ### Runs that are not sound -/

/-- A plugin for everything, with an empty file at the source and no file at the destination, and with these
checksums of the two. -/
def quietPlugin (sourceChecksum destChecksum : CString) : GfalPluginInterface Unit where
  getName := some (lit "quiet")
  checkPluginUrl := some fun _ _ _ => ⟨true, none⟩
  statG := some fun path st world =>
    (if path = lit "d" then ⟨(0, .directory), none⟩ else ⟨(-1, st), some ⟨[], ENOENT, []⟩⟩, world)
  openG := some fun _ _ _ world => (⟨some ⟨lit "quiet", 0, none⟩, none⟩, world)
  readG := some fun _ _ world => (⟨(0, []), none⟩, world)
  closeG := some fun _ world => (⟨0, none⟩, world)
  checksumCalcG := some fun url _ _ _ _ _ world =>
    (⟨(0, if url = lit "s" then sourceChecksum else destChecksum), none⟩, world)

def quietOpts (sourceChecksum destChecksum : CString) : GfalPluginOpts Unit where
  pluginList := fun _ => quietPlugin sourceChecksum destChecksum
  sortedPlugin := [0]
  pluginNumber := 1

/-- A clock that goes back, from a time after which the deadline is not the first there is. -/
def quietClock (timeout : UInt64) (reading : Nat) : Int :=
  if 0 < reading then -2 ^ 63 else if timeout.toNat = 2 ^ 63 then -1 else 0

theorem quietClock_in_time (params : GfaltParams) :
    ¬quietClock params.timeout 1 ≥ copyDeadline (quietClock params.timeout 0) params := by
  have hlt := params.timeout.toNat_lt
  rw [copyDeadline, quietClock, quietClock, if_pos Nat.one_pos, if_neg (lt_irrefl 0)]
  rw [Int.bmod_def]
  split
  case isTrue htimeout => omega
  case isFalse htimeout => omega

/-- Checksums are taken as the plugin gives them, and no time-out is reached. -/
structure Quiet (timeout : UInt64) (sourceChecksum destChecksum : CString) (context : Gfal2Context Unit) : Prop where
  pluginOpt : context.pluginOpt = quietOpts sourceChecksum destChecksum
  config : context.config = { optBoolean := fun _ _ => some false }
  readings : context.readings = { time := quietClock timeout }

section Quiet

variable {t : UInt64} {s d : CString} {context : Gfal2Context Unit}

def quietContext (t : UInt64) (s d : CString) : Gfal2Context Unit where
  pluginOpt := quietOpts s d
  config := { optBoolean := fun _ _ => some false }
  readings := { time := quietClock t }
  world := ()

theorem quiet_quietContext (t : UInt64) (s d : CString) : Quiet t s d (quietContext t s d) := ⟨rfl, rfl, rfl⟩

theorem checksumOfSide_source (h : Quiet t s d context) (checksumType failure : CString) :
    ∃ context', checksumOfSide .source (lit "s") checksumType failure context = .ok (⟨s, none⟩, context') ∧
      Quiet t s d context' ∧ context'.timeReads = context.timeReads := by
  obtain ⟨⟩ := context
  obtain ⟨rfl, rfl, rfl⟩ := h
  exact ⟨_, rfl, ⟨rfl, rfl, rfl⟩, rfl⟩

theorem checksumOfSide_dest (h : Quiet t s d context) (checksumType failure : CString) :
    ∃ context', checksumOfSide .destination (lit "d/f") checksumType failure context = .ok (⟨d, none⟩, context') := by
  obtain ⟨⟩ := context
  obtain ⟨rfl, rfl, rfl⟩ := h
  exact ⟨_, rfl⟩

theorem prepareDestination_quiet (h : Quiet t s d context) (hstrict : params.strictMode = false) :
    ∃ context', prepareDestination params (lit "d/f") context = .ok (⟨0, none⟩, context') ∧
      Quiet t s d context' ∧ context'.timeReads = context.timeReads := by
  obtain ⟨⟩ := context
  obtain ⟨⟩ := params
  obtain ⟨rfl, rfl, rfl⟩ := h
  cases hstrict
  rename_i parentDirCreate _ _ _
  cases parentDirCreate <;> exact ⟨_, rfl, ⟨rfl, rfl, rfl⟩, rfl⟩

theorem moveChunk_quiet (h : Quiet t s d context) :
    ∃ context', moveChunk (some ⟨lit "quiet", 0, none⟩) (some ⟨lit "quiet", 0, none⟩) 4194304 context =
        .ok ((0, none), context') ∧ Quiet t s d context' ∧ context'.timeReads = context.timeReads := by
  obtain ⟨⟩ := context
  obtain ⟨rfl, rfl, rfl⟩ := h
  exact ⟨_, rfl, ⟨rfl, rfl, rfl⟩, rfl⟩

theorem watchTransfer_quiet (h : Quiet params.timeout s d context) (hreads : context.timeReads = 1)
    (perf : PerfData) (hperf : perf.lastUpdate = quietClock params.timeout 0) :
    ∃ watched context', watchTransfer (copyDeadline (quietClock params.timeout 0) params) perf none context =
        .ok ((none, watched), context') ∧ Quiet params.timeout s d context' := by
  obtain ⟨⟩ := context
  obtain ⟨rfl, rfl, rfl⟩ := h
  obtain rfl := hreads
  have hback : ¬quietClock params.timeout 1 - perf.lastUpdate > 5 := by
    rw [hperf, quietClock, quietClock, if_pos Nat.one_pos, if_neg (lt_irrefl 0)]
    split <;> decide
  unfold watchTransfer
  rw [Exec.bind_of_ok (gfal2IsCanceled_apply _), if_neg Bool.false_ne_true,
    Exec.bind_of_ok (rfl : timeNow _ = .ok (quietClock params.timeout 1, _))]
  dsimp only
  rw [if_neg (quietClock_in_time params), if_neg hback]
  exact ⟨_, _, rfl, ⟨rfl, rfl, rfl⟩⟩

theorem streamLoop_quiet (h : Quiet params.timeout s d context) (hreads : context.timeReads = 1)
    (perf : PerfData) (hperf : perf.lastUpdate = quietClock params.timeout 0) :
    ∃ context', streamLoop (some ⟨lit "quiet", 0, none⟩) (some ⟨lit "quiet", 0, none⟩) 4194304
        (copyDeadline (quietClock params.timeout 0) params) 1 perf context = .ok (none, context') ∧
      Quiet params.timeout s d context' := by
  obtain ⟨context₁, hmoved, h₁, hreads₁⟩ := moveChunk_quiet h
  rw [streamLoop, Exec.bind_of_ok hmoved]
  obtain ⟨watched, context₂, hwatched, h₂⟩ := watchTransfer_quiet h₁ (hreads₁.trans hreads)
    { perf with done := toSizeT (perf.done + 0), doneSinceLastUpdate := toSizeT (perf.doneSinceLastUpdate + 0) } hperf
  rw [Exec.bind_of_ok hwatched]
  exact ⟨context₂, rfl, h₂⟩

theorem closeNested_quiet (h : Quiet t s d context) :
    ∃ context', closeNested (some ⟨lit "quiet", 0, none⟩) none context = .ok (none, context') ∧ Quiet t s d context' := by
  obtain ⟨⟩ := context
  obtain ⟨rfl, rfl, rfl⟩ := h
  exact ⟨_, rfl, ⟨rfl, rfl, rfl⟩⟩

theorem openG_quiet (h : Quiet t s d context) (path : CString) (flag mode : Nat) :
    ∃ context', gfalPluginOpenG path flag mode context = .ok (⟨some ⟨lit "quiet", 0, none⟩, none⟩, context') ∧
      Quiet t s d context' ∧ context'.timeReads = context.timeReads := by
  obtain ⟨⟩ := context
  obtain ⟨rfl, rfl, rfl⟩ := h
  exact ⟨_, rfl, ⟨rfl, rfl, rfl⟩, rfl⟩

theorem copyOpened_quiet (h : Quiet params.timeout s d context) (hreads : context.timeReads = 0) (src dst : CString) :
    ∃ context', copyOpened 1 params src dst (some ⟨lit "quiet", 0, none⟩) (some ⟨lit "quiet", 0, none⟩) 4194304 context =
        .ok (⟨0, none⟩, context') ∧ Quiet params.timeout s d context' := by
  have hstart : timeNow context = .ok (quietClock params.timeout 0, { context with timeReads := 1 }) := by
    rw [timeNow, h.readings, hreads]
  have h₁ : Quiet params.timeout s d { context with timeReads := 1 } := ⟨h.pluginOpt, h.config, h.readings⟩
  obtain ⟨context₂, hloop, h₂⟩ := streamLoop_quiet h₁ rfl
    { start := _, lastUpdate := quietClock params.timeout 0, now := _ } rfl
  obtain ⟨context₃, hdst, h₃⟩ := closeNested_quiet h₂
  obtain ⟨context₄, hsrc, h₄⟩ := closeNested_quiet h₃
  rw [copyOpened, Exec.bind_of_ok hstart, Exec.bind_of_ok hloop, Exec.bind_of_ok hdst, Exec.bind_of_ok hsrc]
  exact ⟨_, rfl, ⟨h₄.pluginOpt, h₄.config, h₄.readings⟩⟩

theorem streamedCopy_quiet (h : Quiet params.timeout s d context) (hreads : context.timeReads = 0) (src dst : CString) :
    ∃ context', streamedCopy 1 params src dst context = .ok (⟨0, none⟩, context') ∧ Quiet params.timeout s d context' := by
  have hmemory : posixMemalign (2 ^ 32) 512 4194304 = 0 := by decide
  have hallocated : posixMemalign context.readings.memory (copyBufferAlignment context.config)
      (copyBuffersize context.config) = 0 := by
    rw [h.readings, h.config]
    exact hmemory
  obtain ⟨told, htold⟩ := streamedCopy_told 1 params src dst context
  have hdirect : (context.config.optBoolean (lit "CORE") (lit "COPY_DIRECT_IO")).getD false = false := by
    rw [h.config]
    rfl
  have hsize : copyBuffersize context.config = 4194304 := by
    rw [h.config]
    rfl
  rw [if_pos hallocated, hdirect, hsize] at htold
  have h₁ : Quiet params.timeout s d { context with events := told } := ⟨h.pluginOpt, h.config, h.readings⟩
  obtain ⟨context₂, hsrc, h₂, hreads₂⟩ := openG_quiet h₁ src (srcOpenFlags false) 0
  obtain ⟨context₃, hdst, h₃, hreads₃⟩ := openG_quiet h₂ dst (dstOpenFlags false) 0o755
  have hfiles : copyFiles 1 params src dst false 4194304 { context with events := told } =
      copyOpened 1 params src dst (some ⟨lit "quiet", 0, none⟩) (some ⟨lit "quiet", 0, none⟩) 4194304 context₃ := by
    rw [copyFiles, Exec.bind_of_ok hsrc]
    dsimp only
    rw [Exec.bind_of_ok hdst]
  obtain ⟨context₄, hcopied, h₄⟩ := copyOpened_quiet h₃ (hreads₃.trans (hreads₂.trans hreads)) src dst
  exact ⟨context₄, htold.trans (hfiles.trans hcopied), h₄⟩

def readChecksumType (params : GfaltParams) : CString :=
  let type := (params.checksum.type.getD []).take 1023
  if type = [] then lit "ADLER32" else type

theorem checkSourceSeen_quiet (h : Quiet t s d context) (mode : ChecksumMode) (checksumType user : CString)
    (hpass : user = [] ∨ s = [] ∨ gfalCompareChecksums user s 1024 = 0) :
    ∃ source context', checkSourceSeen mode (lit "s") checksumType user context =
        .ok ((⟨source, none⟩, { source := if mode.hasSource then some s else none }), context') ∧
      source = (if mode.hasSource then s else []) ∧ Quiet t s d context' ∧ context'.timeReads = context.timeReads := by
  unfold checkSourceSeen
  cases hmode : mode.hasSource with
  | false => exact ⟨_, _, rfl, rfl, h, rfl⟩
  | true =>
      obtain ⟨context', hrun, h', hreads⟩ := checksumOfSide_source h checksumType
        (lit "Could not get the source checksum: ")
      rw [if_neg (by decide), Exec.bind_of_ok hrun, if_neg]
      · exact ⟨_, _, rfl, rfl, h', hreads⟩
      · rintro ⟨-, huser, hs, hcompare⟩
        rcases hpass with h | h | h
        · exact huser h
        · exact hs h
        · exact hcompare h

/-- A copy between quiet ends whose source check passes comes to its destination check. -/
theorem performLocalCopySeen_quiet (h : Quiet params.timeout s d context) (hreads : context.timeReads = 0)
    (hstrict : params.strictMode = false) (hpass : readUserChecksum params = [] ∨ s = [] ∨
      gfalCompareChecksums (readUserChecksum params) s 1024 = 0) :
    ∃ context', performLocalCopySeen 1 params (lit "s") (lit "d/f") context =
        checkDestinationSeen params.checksum.mode (lit "d/f") (readChecksumType params) (readUserChecksum params)
          (if params.checksum.mode.hasSource then s else [])
          { source := if params.checksum.mode.hasSource then some s else none } context' ∧ Quiet params.timeout s d context' := by
  obtain ⟨source, context₁, hsource, rfl, h₁, hreads₁⟩ := checkSourceSeen_quiet h params.checksum.mode
    (readChecksumType params) (readUserChecksum params) hpass
  obtain ⟨context₂, hprepared, h₂, hreads₂⟩ := prepareDestination_quiet h₁ hstrict
  obtain ⟨context₃, hcopied, h₃⟩ := streamedCopy_quiet h₂ (hreads₂.trans (hreads₁.trans hreads)) (lit "s") (lit "d/f")
  refine ⟨context₃, ?_, h₃⟩
  unfold performLocalCopySeen
  rw [if_neg (by simp [hstrict])]
  show (checkSourceSeen params.checksum.mode (lit "s") (readChecksumType params) (readUserChecksum params) >>= _) context = _
  rw [Exec.bind_of_ok hsource]
  dsimp only
  rw [if_neg (by simp), Exec.bind_of_ok hprepared, if_neg (by simp), Exec.bind_of_ok hcopied, if_neg (by simp)]
  rfl

theorem checkDestinationSeen_quiet (h : Quiet t s d context) (mode : ChecksumMode) (checksumType user source : CString)
    (seen : Seen) (hpass : gfalCompareChecksums (if user = [] then source else user) d 1204 = 0) :
    ∃ context', checkDestinationSeen mode (lit "d/f") checksumType user source seen context =
      .ok ((⟨0, none⟩, if mode.hasTarget then { seen with destination := some d } else seen), context') := by
  unfold checkDestinationSeen
  cases hmode : mode.hasTarget with
  | false => exact ⟨_, rfl⟩
  | true =>
      obtain ⟨context', hrun⟩ := checksumOfSide_dest h checksumType (lit "Could not get the destination checksum: ")
      rw [if_neg (by decide), Exec.bind_of_ok hrun, if_neg (by simp), if_neg (not_not_intro hpass)]
      exact ⟨_, rfl⟩

/-- A destination that has the value of the user lets every copy pass whose source check passes. -/
theorem exists_passing_copy (params : GfaltParams) {s : CString} (hstrict : params.strictMode = false)
    (huser : userChecksum params ≠ []) (hs : s = [] ∨ s = readUserChecksum params) :
    ∃ context', performLocalCopySeen 1 params (lit "s") (lit "d/f") (quietContext params.timeout s (readUserChecksum params)) =
      .ok ((⟨0, none⟩, { source := if params.checksum.mode.hasSource then some s else none
                         destination := if params.checksum.mode.hasTarget then some (readUserChecksum params) else none }),
        context') := by
  have hread : readUserChecksum params ≠ [] := fun h => huser (readUserChecksum_eq_nil_iff.mp h)
  have hself : ∀ n, gfalCompareChecksums (readUserChecksum params) (readUserChecksum params) n = 0 :=
    fun n => strcmp_self _
  have hpass : readUserChecksum params = [] ∨ s = [] ∨ gfalCompareChecksums (readUserChecksum params) s 1024 = 0 := by
    rcases hs with hs | hs
    · exact .inr (.inl hs)
    · exact .inr (.inr (by rw [hs]; exact hself 1024))
  obtain ⟨context₁, hrun, h₁⟩ := performLocalCopySeen_quiet (quiet_quietContext params.timeout s (readUserChecksum params)) rfl hstrict
    hpass
  obtain ⟨context₂, hchecked⟩ := checkDestinationSeen_quiet h₁ params.checksum.mode (readChecksumType params)
    (readUserChecksum params) (if params.checksum.mode.hasSource then s else [])
    { source := if params.checksum.mode.hasSource then some s else none } (by rw [if_neg hread]; exact hself 1204)
  refine ⟨context₂, hrun.trans (hchecked.trans ?_)⟩
  cases params.checksum.mode <;> rfl

end Quiet

theorem requestedChecks_of_ne_none (h : requestedChecks params ≠ .none) :
    params.strictMode = false ∧ requestedChecks params = params.checksum.mode := by
  unfold requestedChecks at h ⊢
  cases hstrict : params.strictMode with
  | false => exact ⟨rfl, rfl⟩
  | true =>
      rw [hstrict] at h
      exact absurd rfl h

/-- A target check without a value compares with a checksum that nobody asked for. -/
theorem not_sound_of_target (hstrict : params.strictMode = false)
    (hmode : params.checksum.mode = .target) (huser : userChecksum params = []) (mayBeEmpty : Prop) :
    ¬SoundCopies params mayBeEmpty := by
  intro hsound
  have hread := readUserChecksum_eq_nil_iff.mpr huser
  obtain ⟨context₁, hrun, h₁⟩ := performLocalCopySeen_quiet (quiet_quietContext params.timeout [] (lit "1")) rfl hstrict (.inl hread)
  obtain ⟨context₂, hchecksum⟩ := checksumOfSide_dest h₁ (readChecksumType params)
    (lit "Could not get the destination checksum: ")
  obtain ⟨error, hchecked⟩ : ∃ error, checkDestinationSeen .target (lit "d/f") (readChecksumType params) [] [] {} context₁ =
      .ok ((⟨-1, some error⟩, { destination := some (lit "1"), mismatch := true }), context₂) := by
    unfold checkDestinationSeen
    rw [if_neg (by decide), Exec.bind_of_ok hchecksum]
    exact ⟨_, rfl⟩
  rw [hmode, hread] at hrun
  have hall := hrun.trans hchecked
  have hfits : Seen.Fits { destination := some (lit "1"), mismatch := true } := ⟨by simp, by simp [lit]⟩
  obtain ⟨hne, -⟩ | ⟨s, d, hs, -⟩ := (hsound Unit 1 _ _ _ _ _ _ hall hfits (by simp)).mismatch rfl
  · exact hne huser
  · cases hs

/-- Copies are sound exactly if there is no check, or the user gave no value and the source is asked for its
checksum, or the value fits its buffer and is compared with a source checksum that is not empty. -/
theorem local_copy_checksums_sound_iff (params : GfaltParams) (mayBeEmpty : Prop) :
    SoundCopies params mayBeEmpty ↔ ChecksDecide params mayBeEmpty := by
  refine ⟨fun hsound => ?_, soundCopies_of_decide⟩
  by_contra hnot
  obtain ⟨hchecks, hnot⟩ := not_or.mp hnot
  obtain ⟨hstrict, hmode⟩ := requestedChecks_of_ne_none hchecks
  split at hnot
  · rename_i huser
    exact not_sound_of_target hstrict (hmode ▸ not_not.mp hnot) huser mayBeEmpty hsound
  · rename_i huser
    obtain ⟨hzeros, hnot⟩ := not_or.mp hnot
    have hlength := length_readUserChecksum params
    -- what a copy that passes would have to mean, when the source's checksum is `s`
    have hpass : ∀ s, s = [] ∨ s = readUserChecksum params → (s = [] → mayBeEmpty) →
        ((requestedChecks params).hasSource = true → SameChecksum (userChecksum params) s) ∧
          ((requestedChecks params).hasTarget = true → SameChecksum (userChecksum params) (readUserChecksum params)) := by
      intro s hs hempty
      obtain ⟨context', hrun⟩ := exists_passing_copy params hstrict huser hs
      rw [← hmode] at hrun
      have hsLength : s.length < 1024 := by
        rcases hs with hs | hs
        · rw [hs]
          decide
        · rw [hs]
          exact hlength
      have hsound := hsound Unit 1 _ _ _ _ _ _ hrun ⟨by simpa using fun _ => hsLength, by simpa using fun _ => hlength⟩
        (by simpa using fun _ => hempty)
      constructor
      · intro hsource
        obtain ⟨s', hs', hsame⟩ := hsound.source rfl hsource huser
        rw [if_pos hsource] at hs'
        cases hs'
        exact hsame
      · intro htarget
        obtain ⟨d, hd, hsame⟩ := hsound.target rfl htarget
        rw [if_pos htarget] at hd
        cases hd
        rw [if_neg huser] at hsame
        exact hsame
    by_cases hshort : (userChecksum params).length < 1024
    · obtain ⟨hsource, hempty⟩ : (requestedChecks params).hasSource = true ∧ mayBeEmpty := by
        by_contra hand
        exact hnot ⟨hshort, fun hsource hempty => hand ⟨hsource, hempty⟩⟩
      exact hzeros (sameChecksum_nil_iff.mp ((hpass [] (.inl rfl) fun _ => hempty).1 hsource))
    · have hcut := not_sameChecksum_take (n := 1023) (by omega) hzeros
      have hread : readUserChecksum params ≠ [] := fun h => huser (readUserChecksum_eq_nil_iff.mp h)
      obtain ⟨hsource, htarget⟩ := hpass _ (.inr rfl) fun h => absurd h hread
      cases hm : requestedChecks params with
      | none => exact hchecks hm
      | source => exact hcut (hsource (by rw [hm]; rfl))
      | target => exact hcut (htarget (by rw [hm]; rfl))
      | both => exact hcut (htarget (by rw [hm]; rfl))

/-- With a value of the user and a source whose checksum is empty, the copy returns 0 without a comparison of
the two. -/
theorem empty_source_checksum_accepted : ∃ context',
    performLocalCopySeen 1 (gfaltSetChecksum {} .both (some (lit "MD5")) (some (lit "abc"))).2 (lit "s") (lit "d/f")
        (quietContext 3600 [] (lit "abc")) =
      .ok ((⟨0, none⟩, { source := some [], destination := some (lit "abc") }), context') ∧
      performLocalCopy 1 (gfaltSetChecksum {} .both (some (lit "MD5")) (some (lit "abc"))).2 (lit "s") (lit "d/f")
        (quietContext 3600 [] (lit "abc")) = .ok (⟨0, none⟩, context') ∧
      ¬SameChecksum (lit "abc") [] := by
  obtain ⟨context', hrun⟩ := exists_passing_copy
    (gfaltSetChecksum {} .both (some (lit "MD5")) (some (lit "abc"))).2 rfl (List.cons_ne_nil _ _) (.inl rfl)
  exact ⟨context', hrun, performLocalCopy_of_seen hrun, by decide⟩

end Gfal2
