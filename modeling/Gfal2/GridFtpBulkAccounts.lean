import Gfal2.GridFtpBulk
import Gfal2.GridFtpDestination

/-! What the bulk copy of the GridFTP plugin accounts for. Each phase is one step for every file, from which the next phase
goes by the marks alone: the copy accounts for every file as long as the marks say what the errors say and nothing but a
`TransferException` is thrown while a destination is prepared. -/

namespace Gfal2

open Base

/-! ### One file -/

namespace GridFtpBulkPair

/-- The places of the file in both arrays say the same of it. -/
def Agrees (pair : GridFtpBulkPair) : Prop := pair.fileError.isSome = true ↔ pair.errn ≠ 0

/-- The mark is the code of the error. -/
def Marked (pair : GridFtpBulkPair) : Prop := pair.errn = (pair.fileError.map GError.code).getD 0

variable {pair : GridFtpBulkPair} {mode : ChecksumMode} {address : Int} {created : List CString} {known : Prop}

theorem Marked.agrees_iff (h : pair.Marked) : pair.Agrees ↔ ∀ e, pair.fileError = some e → e.code ≠ 0 := by
  rw [Agrees, h]
  cases pair.fileError with
  | none => simp
  | some e => simp

theorem Agrees.eq_none_iff (h : pair.Agrees) : pair.fileError = none ↔ pair.errn = 0 := by
  have hiff : pair.fileError.isSome = true ↔ pair.errn ≠ 0 := h
  rw [← Option.not_isSome_iff_eq_none, hiff, not_not]

theorem Agrees.decide_eq (h : pair.Agrees) : decide (pair.errn = 0) = pair.fileError.isNone := by
  rw [Bool.eq_iff_iff, decide_eq_true_iff, Option.isNone_iff_eq_none]
  exact h.eq_none_iff.symm

theorem marked_of_clean (herror : pair.fileError = none) (herrn : pair.errn = 0) : pair.Marked := by
  rw [Marked, herror, herrn]
  rfl

theorem setError_marked (herror : pair.fileError = none) (e : GError) : (pair.setError e).Marked := by
  rw [Marked, setError, herror]
  rfl

theorem returnError_marked (pair : GridFtpBulkPair) (e : GError) : (pair.returnError e).Marked := rfl

theorem compareChecksum_marked (herror : pair.fileError = none) (herrn : pair.errn = 0) (value side note text : CString) :
    (pair.compareChecksum value side note text).Marked := by
  unfold compareChecksum
  split
  · exact marked_of_clean herror herrn
  · split
    · exact setError_marked herror _
    · exact marked_of_clean herror herrn

@[simp] theorem compareChecksum_file (value side note text : CString) :
    (pair.compareChecksum value side note text).file = pair.file := by
  unfold compareChecksum
  split
  · rfl
  · split <;> rfl

/-- The check of a source marks a file that it sets an error for. -/
theorem checkSource_marked (herror : pair.fileError = none) (herrn : pair.errn = 0) : (pair.checkSource mode).1.Marked := by
  unfold checkSource
  split
  · exact setError_marked herror _
  · split
    · exact returnError_marked _ _
    · exact setError_marked herror _
    · dsimp only
      split
      · split
        · refine compareChecksum_marked ?_ ?_ _ _ _ _
          · exact herror
          · exact herrn
        · exact returnError_marked _ _
      · exact marked_of_clean herror herrn

@[simp] theorem checkSource_file : (pair.checkSource mode).1.file = pair.file := by
  unfold checkSource
  split
  · rfl
  · split
    · rfl
    · rfl
    · dsimp only
      split
      · split
        · exact compareChecksum_file _ _ _ _
        · rfl
      · rfl

/-- So does the final check. -/
theorem close_marked (herror : pair.fileError = none) (herrn : pair.errn = 0) : (pair.close mode address).1.Marked := by
  unfold close
  split
  · exact setError_marked herror _
  · split
    · exact returnError_marked _ _
    · split
      · exact setError_marked herror _
      · split
        · split
          · exact compareChecksum_marked herror herrn _ _ _ _
          · exact returnError_marked _ _
        · exact marked_of_clean herror herrn

@[simp] theorem close_file : (pair.close mode address).1.file = pair.file := by
  unfold close
  split
  · rfl
  · split
    · rfl
    · split
      · rfl
      · split
        · split
          · exact compareChecksum_file _ _ _ _
          · rfl
        · rfl

end GridFtpBulkPair

/-! ### The calls of a phase -/

/-- The URL of a stat. -/
def GridFtpBulkCall.statted : GridFtpBulkCall → Option CString
  | .stat url => some url
  | .checksum _ | .deleteExisting _ | .createParent _ => none

/-- The URL of the call that the preparation of a destination begins with. -/
def GridFtpBulkCall.deleted : GridFtpBulkCall → Option CString
  | .deleteExisting url => some url
  | .stat _ | .checksum _ | .createParent _ => none

namespace GridFtpBulkPair

variable {pair : GridFtpBulkPair} {mode : ChecksumMode} {address : Int}

theorem checkSource_statted (pair : GridFtpBulkPair) (mode : ChecksumMode) :
    (pair.checkSource mode).2.filterMap GridFtpBulkCall.statted =
      if !pair.file.canceledSource then [pair.file.src] else [] := by
  unfold checkSource
  cases pair.file.canceledSource with
  | true => rfl
  | false =>
      rw [if_neg Bool.false_ne_true]
      split
      · rfl
      · rfl
      · dsimp only
        split
        · split <;> rfl
        · rfl

theorem close_statted (pair : GridFtpBulkPair) (mode : ChecksumMode) (address : Int) :
    (pair.close mode address).2.filterMap GridFtpBulkCall.statted =
      if !pair.file.canceledClose then [pair.file.dst] else [] := by
  unfold close
  cases pair.file.canceledClose with
  | true => rfl
  | false =>
      rw [if_neg Bool.false_ne_true]
      split
      · rfl
      · split
        · rfl
        · split
          · split <;> rfl
          · rfl

end GridFtpBulkPair

/-- What is found in the lists that the items with a property come with, one in each. -/
theorem filterMap_flatMap_of {α β γ : Type} (items : List α) (calls : α → List β) (found : β → Option γ) (p : α → Bool)
    (value : α → γ) (h : ∀ a, (calls a).filterMap found = if p a then [value a] else []) :
    (items.flatMap calls).filterMap found = (items.filter p).map value := by
  induction items with
  | nil => rfl
  | cons a rest ih =>
      rw [List.flatMap_cons, List.filterMap_append, ih, h, List.filter_cons]
      split
      · rfl
      · rfl

/-! ### The preparation of a destination -/

namespace GridFtpBulkPair

/-- What the preparation catches and makes a mark of. -/
def CaughtException (e : CppException) : Prop := ∃ err side note, e = .transfer err side note ∧ err.code ≠ 0

/-- Nothing that is thrown for the file gets past the preparation. Its parent is created unless that is known to be there. -/
def Caught (known : Prop) (pair : GridFtpBulkPair) : Prop :=
  pair.file.canceledPrepare = false →
    (∀ e, pair.file.deleteExisting = .error e → CaughtException e) ∧
    (pair.file.deleteExisting = .ok () → ¬known → ∀ e, pair.file.createParent = .error e → CaughtException e)

/-- The destination of the file gets ready. -/
def Ready (known : Prop) (pair : GridFtpBulkPair) : Prop :=
  pair.errn = 0 ∧ pair.file.canceledPrepare = false ∧ pair.file.deleteExisting = .ok () ∧
    (known ∨ pair.file.createParent = .ok ())

/-- After the file its parent is known to be there. -/
def Makes (pair : GridFtpBulkPair) (parent : CString) : Prop :=
  pair.file.canceledPrepare = false ∧ pair.file.deleteExisting = .ok () ∧ pair.file.createParent = .ok () ∧
    pair.parent.getD [] = parent

variable {pair : GridFtpBulkPair} {created : List CString}

theorem parentKnown_iff : pair.parentKnown created = true ↔ ∃ parent, pair.parent = some parent ∧ parent ∈ created := by
  rw [parentKnown, Option.any_eq_true]
  simp

/-- What becomes of a file that has not failed. -/
structure Prepared (pair : GridFtpBulkPair) (created : List CString) (prepared : GridFtpBulkPair) (created' : List CString)
    (calls : List GridFtpBulkCall) : Prop where
  agrees : prepared.Agrees
  file : prepared.file = pair.file
  ready : pair.Ready (pair.parentKnown created = true) → prepared = pair
  unready : ¬pair.Ready (pair.parentKnown created = true) → prepared.errn ≠ 0
  attempt : calls.filterMap GridFtpBulkCall.deleted = if !pair.file.canceledPrepare then [pair.file.dst] else []
  created : ∀ parent, parent ∈ created' ↔ parent ∈ created ∨ pair.Makes parent

theorem prepareDestination_of_caught (hagrees : pair.Agrees) (herrn : pair.errn = 0)
    (hcaught : pair.Caught (pair.parentKnown created = true)) :
    ∃ prepared created' calls, pair.prepareDestination created = .ok (prepared, created', calls) ∧
      pair.Prepared created prepared created' calls := by
  have herror := hagrees.eq_none_iff.mpr herrn
  have hset : ∀ {e : GError}, e.code ≠ 0 → (pair.setError e).Agrees := by
    intro e he
    rw [(setError_marked herror e).agrees_iff]
    intro e' heq
    rw [setError, herror] at heq
    cases heq
    exact he
  unfold prepareDestination
  cases hcanceled : pair.file.canceledPrepare with
  | true =>
      refine ⟨_, _, _, rfl, hset (by decide), rfl, fun h => ?_, fun _ => (by decide : EINTR ≠ 0), ?_, fun parent => ?_⟩
      · exact absurd (hcanceled.symm.trans h.2.1) (by decide)
      · rw [hcanceled]
        rfl
      · simp [Makes, hcanceled]
  | false =>
      rw [if_neg Bool.false_ne_true]
      obtain ⟨hdelete, hcreate⟩ := hcaught hcanceled
      cases hdeleted : pair.file.deleteExisting with
      | error e =>
          obtain ⟨err, side, note, rfl, hcode⟩ := hdelete e hdeleted
          refine ⟨_, _, _, rfl, hset hcode, rfl, fun h => ?_, fun _ => hcode, ?_, fun parent => ?_⟩
          · exact absurd (hdeleted.symm.trans h.2.2.1) (by simp)
          · rw [hcanceled]
            rfl
          · simp [Makes, hdeleted]
      | ok _ =>
          dsimp only
          cases hknown : pair.parentKnown created with
          | true =>
              refine ⟨_, _, _, rfl, hagrees, rfl, fun _ => rfl, fun h => ?_, ?_, fun parent => ?_⟩
              · exact absurd ⟨herrn, hcanceled, hdeleted, .inl hknown⟩ h
              · rw [hcanceled]
                rfl
              · refine ⟨.inl, ?_⟩
                rintro (hmem | ⟨-, -, -, rfl⟩)
                · exact hmem
                · obtain ⟨parent, hparent, hmem⟩ := parentKnown_iff.mp hknown
                  rwa [hparent]
          | false =>
              rw [if_neg Bool.false_ne_true]
              have hunknown : ¬pair.parentKnown created = true := by rw [hknown]; decide
              cases hparent : pair.file.createParent with
              | error e =>
                  obtain ⟨err, side, note, rfl, hcode⟩ := hcreate hdeleted hunknown e hparent
                  refine ⟨_, _, _, rfl, hset hcode, rfl, fun h => ?_, fun _ => hcode, ?_, fun parent => ?_⟩
                  · rcases h.2.2.2 with h | h
                    · exact absurd h hunknown
                    · exact absurd (hparent.symm.trans h) (by simp)
                  · rw [hcanceled]
                    rfl
                  · simp [Makes, hparent]
              | ok _ =>
                  refine ⟨_, _, _, rfl, hagrees, rfl, fun _ => rfl, fun h => ?_, ?_, fun parent => ?_⟩
                  · exact absurd ⟨herrn, hcanceled, hdeleted, .inr hparent⟩ h
                  · rw [hcanceled]
                    rfl
                  · rw [List.mem_append, List.mem_singleton, eq_comm (a := parent)]
                    exact or_congr_right ⟨fun h => ⟨hcanceled, hdeleted, hparent, h⟩, fun h => h.2.2.2⟩

/-- A preparation that comes back with agreeing places has caught what was thrown. -/
theorem caught_of_prepareDestination (hagrees : pair.Agrees) (herrn : pair.errn = 0) {prepared : GridFtpBulkPair}
    {created' : List CString} {calls : List GridFtpBulkCall}
    (h : pair.prepareDestination created = .ok (prepared, created', calls)) (hprepared : prepared.Agrees) :
    pair.Caught (pair.parentKnown created = true) := by
  have herror := hagrees.eq_none_iff.mpr herrn
  have hcode : ∀ {e : GError}, prepared = pair.setError e → e.code ≠ 0 := by
    rintro e rfl
    refine (setError_marked herror e).agrees_iff.mp hprepared e ?_
    rw [setError, herror]
    rfl
  intro hcanceled
  unfold prepareDestination at h
  rw [hcanceled, if_neg Bool.false_ne_true] at h
  constructor
  · intro e he
    rw [he] at h
    cases e with
    | transfer err side note =>
        cases h
        have hset : (gfal2SetError bulkDomain err.code err.message).code ≠ 0 := hcode rfl
        exact ⟨err, side, note, rfl, hset⟩
    | core e => cases h
    | std what => cases h
    | unknown => cases h
  · intro hdeleted hunknown e he
    rw [hdeleted] at h
    dsimp only at h
    rw [if_neg hunknown, he] at h
    cases e with
    | transfer err side note =>
        cases h
        have hset : (gfal2SetError bulkDomain err.code err.message).code ≠ 0 := hcode rfl
        exact ⟨err, side, note, rfl, hset⟩
    | core e => cases h
    | std what => cases h
    | unknown => cases h

end GridFtpBulkPair

/-! ### The preparation of all destinations -/

theorem forall_split_cons {α : Type} {a : α} {rest : List α} {p : List α → α → Prop} :
    (∀ mid b after, a :: rest = mid ++ b :: after → p mid b) ↔
      p [] a ∧ ∀ mid b after, rest = mid ++ b :: after → p (a :: mid) b := by
  constructor
  · intro h
    refine ⟨h [] a rest rfl, fun mid b after heq => h (a :: mid) b after ?_⟩
    rw [heq, List.cons_append]
  · rintro ⟨hhead, htail⟩ mid b after heq
    cases mid with
    | nil =>
        cases heq
        exact hhead
    | cons c mid =>
        cases heq
        exact htail mid b after rfl

theorem exists_split_cons {α : Type} {a b : α} {rest : List α} {p : List α → Prop} :
    (∃ mid after, a :: rest = mid ++ b :: after ∧ p mid) ↔
      a = b ∧ p [] ∨ ∃ mid after, rest = mid ++ b :: after ∧ p (a :: mid) := by
  constructor
  · rintro ⟨mid, after, heq, hp⟩
    cases mid with
    | nil =>
        cases heq
        exact .inl ⟨rfl, hp⟩
    | cons c mid =>
        cases heq
        exact .inr ⟨mid, after, rfl, hp⟩
  · rintro (⟨rfl, hp⟩ | ⟨mid, after, rfl, hp⟩)
    · exact ⟨[], rest, rfl, hp⟩
    · exact ⟨a :: mid, after, rfl, hp⟩

/-- The parent is created for one of the files. -/
def MadeBefore (before : List GridFtpBulkPair) (parent : CString) : Prop :=
  ∃ earlier ∈ before, earlier.errn = 0 ∧ earlier.Makes parent

/-- The parent of the file is created for one before it. -/
def ParentMade (before : List GridFtpBulkPair) (pair : GridFtpBulkPair) : Prop :=
  ∃ parent, pair.parent = some parent ∧ MadeBefore before parent

/-- Nothing that is thrown for one of the files gets past the preparation. -/
def AllCaught (before pairs : List GridFtpBulkPair) : Prop :=
  ∀ mid pair after, pairs = mid ++ pair :: after → pair.errn = 0 → pair.Caught (ParentMade (before ++ mid) pair)

/-- The file is one of those whose destination gets ready. -/
def ReadyAmong (before pairs : List GridFtpBulkPair) (pair : GridFtpBulkPair) : Prop :=
  ∃ mid after, pairs = mid ++ pair :: after ∧ pair.Ready (ParentMade (before ++ mid) pair)

/-- What the preparation of the files is to come to. -/
structure PreparedAll (before pairs : List GridFtpBulkPair) (phase : GridFtpBulkPhase) : Prop where
  agrees : ∀ pair ∈ phase.pairs, pair.Agrees
  files : phase.pairs.map (·.file) = pairs.map (·.file)
  attempts : phase.calls.filterMap GridFtpBulkCall.deleted =
    (pairs.filter fun pair => decide (pair.errn = 0) && !pair.file.canceledPrepare).map (·.file.dst)
  nfailed : failedCount pairs + phase.nfailed = failedCount phase.pairs
  ready : ∀ pair, pair ∈ phase.pairs ∧ pair.errn = 0 ↔ ReadyAmong before pairs pair

theorem failedCount_cons (pair : GridFtpBulkPair) (pairs : List GridFtpBulkPair) :
    failedCount (pair :: pairs) = failedCount [pair] + failedCount pairs := by
  rw [failedCount, failedCount, failedCount, List.countP_cons, List.countP_singleton, Nat.add_comm, Nat.cast_add]

section Preparation

variable {before pairs rest : List GridFtpBulkPair} {pair prepared : GridFtpBulkPair} {created : List CString}
  {phase : GridFtpBulkPhase}

theorem parentKnown_iff_parentMade (hcreated : ∀ parent, parent ∈ created ↔ MadeBefore before parent) :
    pair.parentKnown created = true ↔ ParentMade before pair := by
  rw [GridFtpBulkPair.parentKnown_iff, ParentMade]
  simp only [hcreated]

theorem not_madeBefore_nil (parent : CString) : parent ∈ ([] : List CString) ↔ MadeBefore [] parent := by simp [MadeBefore]

theorem madeBefore_append {parent : CString} :
    MadeBefore (before ++ [pair]) parent ↔ MadeBefore before parent ∨ pair.errn = 0 ∧ pair.Makes parent := by
  simp [MadeBefore, or_and_right, exists_or]

theorem allCaught_cons : AllCaught before (pair :: rest) ↔
    (pair.errn = 0 → pair.Caught (ParentMade before pair)) ∧ AllCaught (before ++ [pair]) rest := by
  have h := @forall_split_cons _ pair rest fun mid other => other.errn = 0 → other.Caught (ParentMade (before ++ mid) other)
  rw [List.append_nil] at h
  simp only [AllCaught, List.append_assoc, List.singleton_append]
  exact h

theorem readyAmong_cons {other : GridFtpBulkPair} : ReadyAmong before (pair :: rest) other ↔
    pair = other ∧ pair.Ready (ParentMade before pair) ∨ ReadyAmong (before ++ [pair]) rest other := by
  have h := @exists_split_cons _ pair other rest fun mid => other.Ready (ParentMade (before ++ mid) other)
  rw [List.append_nil] at h
  simp only [ReadyAmong, List.append_assoc, List.singleton_append]
  refine h.trans (or_congr_left ⟨?_, ?_⟩)
  · rintro ⟨rfl, hready⟩
    exact ⟨rfl, hready⟩
  · rintro ⟨rfl, hready⟩
    exact ⟨rfl, hready⟩

/-- One more file before those that are prepared. -/
theorem PreparedAll.cons (calls : List GridFtpBulkCall) (n : Int) (h : PreparedAll (before ++ [pair]) rest phase)
    (hagrees : prepared.Agrees) (hfile : prepared.file = pair.file)
    (hready : pair.Ready (ParentMade before pair) → prepared = pair)
    (hunready : ¬pair.Ready (ParentMade before pair) → prepared.errn ≠ 0)
    (hattempt : calls.filterMap GridFtpBulkCall.deleted =
      if decide (pair.errn = 0) && !pair.file.canceledPrepare then [pair.file.dst] else [])
    (hn : failedCount [pair] + n = failedCount [prepared]) :
    PreparedAll before (pair :: rest) ⟨prepared :: phase.pairs, calls ++ phase.calls, n + phase.nfailed⟩ where
  agrees other hmem := by
    rcases List.mem_cons.mp hmem with rfl | hmem
    · exact hagrees
    · exact h.agrees other hmem
  files := by
    rw [List.map_cons, List.map_cons, hfile, h.files]
  attempts := by
    rw [List.filterMap_append, hattempt, h.attempts, List.filter_cons]
    split
    · rfl
    · rfl
  nfailed := by
    have htail := h.nfailed
    rw [failedCount_cons, failedCount_cons prepared, ← hn]
    dsimp only
    omega
  ready other := by
    rw [readyAmong_cons, ← h.ready, List.mem_cons, or_and_right]
    refine or_congr_left ⟨?_, ?_⟩
    · rintro ⟨rfl, herrn⟩
      have hisReady : pair.Ready (ParentMade before pair) := by
        by_contra hnot
        exact hunready hnot herrn
      exact ⟨(hready hisReady).symm, hisReady⟩
    · rintro ⟨rfl, hisReady⟩
      exact ⟨(hready hisReady).symm, hisReady.1⟩

theorem prepareDestinations_of_caught (hagrees : ∀ pair ∈ pairs, pair.Agrees)
    (hcreated : ∀ parent, parent ∈ created ↔ MadeBefore before parent) (hcaught : AllCaught before pairs) :
    ∃ phase, gridftpBulkPrepareDestination created pairs = .ok phase ∧ PreparedAll before pairs phase := by
  induction pairs generalizing created before with
  | nil =>
      refine ⟨_, rfl, by simp, rfl, rfl, rfl, fun pair => ?_⟩
      simp [ReadyAmong]
  | cons pair rest ih =>
      have hrest : ∀ other ∈ rest, other.Agrees := fun other hmem => hagrees other (List.mem_cons_of_mem _ hmem)
      obtain ⟨hhead, htail⟩ := allCaught_cons.mp hcaught
      rw [gridftpBulkPrepareDestination]
      by_cases herrn : pair.errn = 0
      · rw [if_neg (not_not.mpr herrn)]
        have hknown : pair.parentKnown created = true ↔ ParentMade before pair := parentKnown_iff_parentMade hcreated
        have hcaughtKnown : pair.Caught (pair.parentKnown created = true) := by
          rw [hknown]
          exact hhead herrn
        obtain ⟨prepared, created', calls, hprepared, hspec⟩ :=
          GridFtpBulkPair.prepareDestination_of_caught (hagrees pair List.mem_cons_self) herrn hcaughtKnown
        have hcreated' : ∀ parent, parent ∈ created' ↔ MadeBefore (before ++ [pair]) parent := by
          intro parent
          rw [hspec.created, hcreated, madeBefore_append, and_iff_right herrn]
        obtain ⟨phase, hphase, hall⟩ := ih hrest hcreated' htail
        have hnone := (hagrees pair List.mem_cons_self).eq_none_iff.mpr herrn
        have hzero : failedCount [pair] = 0 := by
          rw [failedCount, List.countP_singleton, hnone]
          rfl
        have hready : pair.Ready (ParentMade before pair) → prepared = pair := by
          rw [← hknown]
          exact hspec.ready
        have hunready : ¬pair.Ready (ParentMade before pair) → prepared.errn ≠ 0 := by
          rw [← hknown]
          exact hspec.unready
        have hattempt : calls.filterMap GridFtpBulkCall.deleted =
            if decide (pair.errn = 0) && !pair.file.canceledPrepare then [pair.file.dst] else [] := by
          rw [hspec.attempt, decide_eq_true herrn, Bool.true_and]
        have hcount : failedCount [pair] + failedCount [prepared] = failedCount [prepared] := by
          rw [hzero, zero_add]
        refine ⟨_, ?_, PreparedAll.cons calls _ hall hspec.agrees hspec.file hready hunready hattempt hcount⟩
        rw [hprepared]
        change (gridftpBulkPrepareDestination created' rest >>= _) = _
        rw [hphase]
        rfl
      · rw [if_pos herrn]
        have hcreated' : ∀ parent, parent ∈ created ↔ MadeBefore (before ++ [pair]) parent := by
          intro parent
          rw [hcreated, madeBefore_append, or_iff_left fun h => herrn h.1]
        obtain ⟨phase, hphase, hall⟩ := ih hrest hcreated' htail
        rw [hphase]
        have hnotReady : ¬pair.Ready (ParentMade before pair) := fun h => herrn h.1
        have hcons := PreparedAll.cons [] 0 hall (hagrees pair List.mem_cons_self) rfl (fun h => absurd h hnotReady)
          (fun _ => herrn)
          (by rw [decide_eq_false herrn]; rfl) (add_zero _)
        rw [zero_add] at hcons
        exact ⟨_, rfl, hcons⟩

/-- A preparation of all files that comes back with agreeing places has caught what was thrown. -/
theorem caught_of_prepareDestinations (hagrees : ∀ pair ∈ pairs, pair.Agrees)
    (hcreated : ∀ parent, parent ∈ created ↔ MadeBefore before parent)
    (h : gridftpBulkPrepareDestination created pairs = .ok phase) (hphase : ∀ pair ∈ phase.pairs, pair.Agrees) :
    AllCaught before pairs := by
  induction pairs generalizing created before phase with
  | nil =>
      intro mid pair after heq
      simp at heq
  | cons pair rest ih =>
      have hrest : ∀ other ∈ rest, other.Agrees := fun other hmem => hagrees other (List.mem_cons_of_mem _ hmem)
      rw [gridftpBulkPrepareDestination] at h
      rw [allCaught_cons]
      by_cases herrn : pair.errn = 0
      · rw [if_neg (not_not.mpr herrn)] at h
        have hknown : pair.parentKnown created = true ↔ ParentMade before pair := parentKnown_iff_parentMade hcreated
        cases hprepared : pair.prepareDestination created with
        | error e =>
            rw [hprepared] at h
            cases h
        | ok step =>
            obtain ⟨prepared, created', calls⟩ := step
            rw [hprepared] at h
            cases htail : gridftpBulkPrepareDestination created' rest with
            | error e =>
                change (gridftpBulkPrepareDestination created' rest >>= _) = _ at h
                rw [htail] at h
                cases h
            | ok tail =>
                change (gridftpBulkPrepareDestination created' rest >>= _) = _ at h
                rw [htail] at h
                cases h
                have hcaught := GridFtpBulkPair.caught_of_prepareDestination (hagrees pair List.mem_cons_self) herrn hprepared
                  (hphase prepared List.mem_cons_self)
                obtain ⟨_, _, _, hstep, hspec⟩ :=
                  GridFtpBulkPair.prepareDestination_of_caught (hagrees pair List.mem_cons_self) herrn hcaught
                cases hprepared.symm.trans hstep
                have hcreated' : ∀ parent, parent ∈ created' ↔ MadeBefore (before ++ [pair]) parent := by
                  intro parent
                  rw [hspec.created, hcreated, madeBefore_append, and_iff_right herrn]
                refine ⟨fun _ => ?_, ih hrest hcreated' htail fun other hmem => hphase other (List.mem_cons_of_mem _ hmem)⟩
                rw [← hknown]
                exact hcaught
      · rw [if_pos herrn] at h
        have hcreated' : ∀ parent, parent ∈ created ↔ MadeBefore (before ++ [pair]) parent := by
          intro parent
          rw [hcreated, madeBefore_append, or_iff_left fun h => herrn h.1]
        cases htail : gridftpBulkPrepareDestination created rest with
        | error e =>
            rw [htail] at h
            cases h
        | ok tail =>
            rw [htail] at h
            cases h
            exact ⟨fun h => absurd h herrn,
              ih hrest hcreated' htail fun other hmem => hphase other (List.mem_cons_of_mem _ hmem)⟩

end Preparation

/-! ### The pairs of the pipeline -/

/-- The pair at the index is not marked as failed. -/
def Viable (pairs : List GridFtpBulkPair) (i : Nat) : Prop := ∃ pair, pairs[i]? = some pair ∧ pair.errn = 0

section Pipeline

variable {pairs : List GridFtpBulkPair} {index asked i j : Nat} {outcome : PipelineOutcome} {udt : Bool} {run : PipelineRun}

theorem Viable.lt (h : Viable pairs i) : i < pairs.length := by
  obtain ⟨pair, hget, -⟩ := h
  exact (List.getElem?_eq_some_iff.mp hget).1

theorem le_skipFailed : index ≤ skipFailed pairs index := Nat.le_add_right _ _

/-- What is skipped is marked as failed. -/
theorem skipFailed_fails (hle : index ≤ j) (hlt : j < skipFailed pairs index) : ¬Viable pairs j := by
  rintro ⟨pair, hget, herrn⟩
  obtain ⟨k, rfl⟩ := Nat.exists_eq_add_of_le hle
  have hprefix : (pairs.drop index).takeWhile (fun pair => decide (pair.errn ≠ 0)) <+: pairs.drop index := List.takeWhile_prefix _
  obtain ⟨tail, htail⟩ := hprefix
  have hk : k < ((pairs.drop index).takeWhile fun pair => decide (pair.errn ≠ 0)).length := by
    rw [skipFailed] at hlt
    omega
  rw [← List.getElem?_drop, ← htail, List.getElem?_append_left hk] at hget
  have hmem := List.mem_of_getElem? hget
  have hfails := List.mem_takeWhile_imp hmem
  exact of_decide_eq_true hfails herrn

/-- What the search stops at before the end is not. -/
theorem skipFailed_viable (h : skipFailed pairs index < pairs.length) : Viable pairs (skipFailed pairs index) := by
  have hsplit : (pairs.drop index).takeWhile (fun pair => decide (pair.errn ≠ 0)) ++
      (pairs.drop index).dropWhile (fun pair => decide (pair.errn ≠ 0)) = pairs.drop index := List.takeWhile_append_dropWhile
  have hne : ((pairs.drop index).dropWhile fun pair => decide (pair.errn ≠ 0)) ≠ [] := by
    intro hnil
    rw [hnil, List.append_nil] at hsplit
    rw [skipFailed, hsplit, List.length_drop] at h
    omega
  refine ⟨_, ?_, of_not_not (of_decide_eq_false (List.head_dropWhile_not _ hne))⟩
  have hhead : ((pairs.drop index).takeWhile (fun pair => decide (pair.errn ≠ 0)) ++
      (pairs.drop index).dropWhile fun pair => decide (pair.errn ≠ 0))[((pairs.drop index).takeWhile fun pair =>
        decide (pair.errn ≠ 0)).length]? = some (((pairs.drop index).dropWhile fun pair => decide (pair.errn ≠ 0)).head hne) := by
    rw [List.getElem?_append_right le_rfl, Nat.sub_self, ← List.head?_eq_getElem?, List.head?_eq_some_head hne]
  rw [hsplit, List.getElem?_drop] at hhead
  exact hhead

/-- What is given out after an index when the pipeline is asked a number of times. -/
structure Provides (pairs : List GridFtpBulkPair) (index asked : Nat) (given : List Nat) : Prop where
  above : ∀ i ∈ given, index < i ∧ Viable pairs i
  increasing : given.Pairwise (· < ·)
  inOrder : ∀ i ∈ given, ∀ j, index < j → j < i → Viable pairs j → j ∈ given
  all : given.length < asked → ∀ j, index < j → Viable pairs j → j ∈ given

/-- One more call of the callback gives the first pair behind the index that is not marked as failed. -/
theorem providedPairs_provides (pairs : List GridFtpBulkPair) (asked index : Nat) :
    Provides pairs index asked (providedPairs pairs asked index) := by
  induction asked generalizing index with
  | zero => exact ⟨by simp [providedPairs], List.Pairwise.nil, by simp [providedPairs], fun h => absurd h (Nat.not_lt_zero _)⟩
  | succ asked ih =>
      have hlt : index < gridftpPipelineCallback pairs index := le_skipFailed
      have hskipped : ∀ j, index < j → j < gridftpPipelineCallback pairs index → ¬Viable pairs j := fun j hj => skipFailed_fails hj
      have hrest := ih (gridftpPipelineCallback pairs index)
      rw [providedPairs]
      by_cases hnext : gridftpPipelineCallback pairs index < pairs.length
      · rw [if_pos hnext]
        have hviable : Viable pairs (gridftpPipelineCallback pairs index) := skipFailed_viable hnext
        constructor
        · intro i hi
          rcases List.mem_cons.mp hi with rfl | hi
          · exact ⟨hlt, hviable⟩
          · exact ⟨hlt.trans (hrest.above i hi).1, (hrest.above i hi).2⟩
        · exact List.pairwise_cons.mpr ⟨fun i hi => (hrest.above i hi).1, hrest.increasing⟩
        · intro i hi j hj hji hjviable
          rcases lt_trichotomy j (gridftpPipelineCallback pairs index) with hbefore | rfl | hafter
          · exact absurd hjviable (hskipped j hj hbefore)
          · exact List.mem_cons_self
          · rcases List.mem_cons.mp hi with rfl | hi
            · omega
            · exact List.mem_cons_of_mem _ (hrest.inOrder i hi j hafter hji hjviable)
        · intro hlength j hj hjviable
          rcases lt_trichotomy j (gridftpPipelineCallback pairs index) with hbefore | rfl | hafter
          · exact absurd hjviable (hskipped j hj hbefore)
          · exact List.mem_cons_self
          · refine List.mem_cons_of_mem _ (hrest.all ?_ j hafter hjviable)
            rw [List.length_cons] at hlength
            omega
      · rw [if_neg hnext]
        have hnil : providedPairs pairs asked (gridftpPipelineCallback pairs index) = [] := by
          refine List.eq_nil_iff_forall_not_mem.mpr fun i hi => ?_
          have habove := hrest.above i hi
          have := habove.2.lt
          omega
        rw [hnil]
        refine ⟨by simp, List.Pairwise.nil, by simp, fun _ j hj hjviable => absurd hjviable (hskipped j hj ?_)⟩
        have := hjviable.lt
        omega

/-- The pipeline offers the pairs that have not failed, each once and in increasing order, and all of them once it was
asked for more than it had. -/
structure PipelineRun.Offers (pairs : List GridFtpBulkPair) (run : PipelineRun) : Prop where
  increasing : run.offered.Pairwise (· < ·)
  notFailed : ∀ i ∈ run.offered, ∃ pair, pairs[i]? = some pair ∧ pair.fileError = none
  inOrder : ∀ i ∈ run.offered, ∀ j < i, ∀ pair, pairs[j]? = some pair → pair.fileError = none → j ∈ run.offered
  all : run.offered.length ≤ run.asked → ∀ i pair, pairs[i]? = some pair → pair.fileError = none → i ∈ run.offered

/-- Nothing is thrown on the way to the transfer. Without a pair that has not failed there is none. -/
def PipelineOutcome.Runs (outcome : PipelineOutcome) (viable : Prop) : Prop :=
  outcome.session = .ok () ∧
    (viable → outcome.credentialsSource = .ok () ∧ outcome.credentialsDestination = .ok ())

theorem exists_viable_iff : (∃ pair ∈ pairs, pair.errn = 0) ↔ skipFailed pairs 0 < pairs.length := by
  constructor
  · rintro ⟨pair, hmem, herrn⟩
    obtain ⟨i, hget⟩ := List.mem_iff_getElem?.mp hmem
    have hviable : Viable pairs i := ⟨pair, hget, herrn⟩
    by_contra hend
    have := hviable.lt
    exact skipFailed_fails (Nat.zero_le i) (by omega) hviable
  · intro h
    obtain ⟨pair, hget, herrn⟩ := skipFailed_viable h
    exact ⟨pair, List.mem_of_getElem? hget, herrn⟩

def PipelineOutcome.returns (outcome : PipelineOutcome) (pairs : List GridFtpBulkPair) (ret : Ret Int) : Prop :=
  ((∃ pair ∈ pairs, pair.errn = 0) → ret = outcome.ended.result) ∧ (¬(∃ pair ∈ pairs, pair.errn = 0) → ret = ⟨0, none⟩)

theorem viable_iff (hagrees : ∀ pair ∈ pairs, pair.Agrees) {pair : GridFtpBulkPair} (hget : pairs[i]? = some pair) :
    pair.fileError = none ↔ Viable pairs i := by
  have hpair := hagrees pair (List.mem_of_getElem? hget)
  constructor
  · intro hnone
    exact ⟨pair, hget, hpair.eq_none_iff.mp hnone⟩
  · rintro ⟨other, hother, herrn⟩
    cases hget.symm.trans hother
    exact hpair.eq_none_iff.mpr herrn

theorem offers_of_provides {first : Nat} (udt : Bool) (ret : Ret Int) (hagrees : ∀ pair ∈ pairs, pair.Agrees)
    (hviable : Viable pairs first) (hfirst : ∀ j < first, ¬Viable pairs j) {given : List Nat} (h : Provides pairs first asked given) :
    PipelineRun.Offers pairs ⟨udt, asked, first :: given, ret⟩ where
  increasing := List.pairwise_cons.mpr ⟨fun i hi => (h.above i hi).1, h.increasing⟩
  notFailed i hi := by
    have hi' : Viable pairs i := by
      rcases List.mem_cons.mp hi with rfl | hi
      · exact hviable
      · exact (h.above i hi).2
    obtain ⟨pair, hget, -⟩ := id hi'
    exact ⟨pair, hget, (viable_iff hagrees hget).mpr hi'⟩
  inOrder i hi j hji pair hget hnone := by
    have hj := (viable_iff hagrees hget).mp hnone
    rcases lt_trichotomy j first with hbefore | rfl | hafter
    · exact absurd hj (hfirst j hbefore)
    · exact List.mem_cons_self
    · rcases List.mem_cons.mp hi with rfl | hi
      · omega
      · exact List.mem_cons_of_mem _ (h.inOrder i hi j hafter hji hj)
  all hlength i pair hget hnone := by
    have hi := (viable_iff hagrees hget).mp hnone
    rcases lt_trichotomy i first with hbefore | rfl | hafter
    · exact absurd hi (hfirst i hbefore)
    · exact List.mem_cons_self
    · exact List.mem_cons_of_mem _ (h.all hlength i hafter hi)

theorem gridftpPipelineTransfer_of_runs (udt : Bool) (hagrees : ∀ pair ∈ pairs, pair.Agrees)
    (hruns : outcome.Runs (∃ pair ∈ pairs, pair.errn = 0)) :
    ∃ run, gridftpPipelineTransfer outcome udt pairs = .ok run ∧ run.Offers pairs ∧ outcome.returns pairs run.ret := by
  obtain ⟨hsession, hcredentials⟩ := hruns
  rw [gridftpPipelineTransfer, hsession]
  by_cases hviable : ∃ pair ∈ pairs, pair.errn = 0
  · have hlt := exists_viable_iff.mp hviable
    obtain ⟨hsource, hdestination⟩ := hcredentials hviable
    have hoffers := offers_of_provides udt outcome.ended.result hagrees (skipFailed_viable hlt)
      (fun j hj => skipFailed_fails (Nat.zero_le j) hj) (providedPairs_provides pairs outcome.asks (skipFailed pairs 0))
    refine ⟨_, ?_, hoffers, fun _ => rfl, fun h => absurd hviable h⟩
    change (if skipFailed pairs 0 ≥ pairs.length then _ else _) = _
    rw [if_neg (Nat.not_le.mpr hlt), hsource, hdestination]
    rfl
  · have hge : skipFailed pairs 0 ≥ pairs.length := Nat.not_lt.mp fun h => hviable (exists_viable_iff.mpr h)
    have hnone : ∀ {i : Nat} {pair : GridFtpBulkPair}, pairs[i]? = some pair → pair.fileError ≠ none := fun hget hnone => by
      obtain ⟨other, hother, herrn⟩ := (viable_iff hagrees hget).mp hnone
      exact hviable ⟨other, List.mem_of_getElem? hother, herrn⟩
    refine ⟨⟨udt, 0, [], ⟨0, none⟩⟩, ?_, ⟨List.Pairwise.nil, by simp, by simp, fun _ i pair hget h => absurd h (hnone hget)⟩,
      fun h => absurd h hviable, fun _ => rfl⟩
    change (if skipFailed pairs 0 ≥ pairs.length then _ else _) = _
    rw [if_pos hge]

theorem runs_of_gridftpPipelineTransfer (h : gridftpPipelineTransfer outcome udt pairs = .ok run) :
    outcome.Runs (∃ pair ∈ pairs, pair.errn = 0) := by
  rw [gridftpPipelineTransfer] at h
  cases hsession : outcome.session with
  | error e =>
      rw [hsession] at h
      cases h
  | ok _ =>
      refine ⟨hsession, fun hviable => ?_⟩
      rw [hsession] at h
      change (if skipFailed pairs 0 ≥ pairs.length then _ else _) = _ at h
      rw [if_neg (Nat.not_le.mpr (exists_viable_iff.mp hviable))] at h
      cases hsource : outcome.credentialsSource with
      | error e =>
          rw [hsource] at h
          cases h
      | ok _ =>
          rw [hsource] at h
          cases hdestination : outcome.credentialsDestination with
          | error e =>
              rw [hdestination] at h
              cases h
          | ok _ => exact ⟨rfl, rfl⟩

end Pipeline

theorem scanErrstring_ne_zero (text : CString) : scanErrstring text ≠ 0 := by
  unfold scanErrstring
  repeat' split
  all_goals decide

/-- A transfer that fails sets an error, and one that does not returns 0. -/
theorem PipelineEnd.result_cases (ended : PipelineEnd) :
    ended.result.val = -1 ∧ ended.result.err.isSome = true ∨ ended.result = ⟨0, none⟩ := by
  cases ended with
  | refused e => exact .inl ⟨rfl, rfl⟩
  | failed text =>
      refine .inl ?_
      rw [PipelineEnd.result, gfalGlobusErrorConvert]
      rw [if_neg (scanErrstring_ne_zero _)]
      split
      · rename_i heq
        exact absurd (congrArg Prod.fst heq) (scanErrstring_ne_zero _)
      · exact ⟨rfl, rfl⟩
  | timedOut => exact .inl ⟨rfl, rfl⟩
  | done => exact .inr rfl

/-! ### The copy -/

theorem failedCount_closed {pairs : List GridFtpBulkPair} (mode : ChecksumMode) (address : Int)
    (hagrees : ∀ pair ∈ pairs, pair.Agrees) :
    failedCount pairs + (gridftpBulkClose mode address pairs).nfailed = failedCount (gridftpBulkClose mode address pairs).pairs := by
  induction pairs with
  | nil => rfl
  | cons pair rest ih =>
      have htail := ih fun other hmem => hagrees other (List.mem_cons_of_mem _ hmem)
      simp only [gridftpBulkClose] at htail ⊢
      rw [List.map_cons, failedCount_cons, failedCount_cons (pair.closed mode address).1, List.filter_cons]
      by_cases herrn : pair.errn = 0
      · have hnone := (hagrees pair List.mem_cons_self).eq_none_iff.mpr herrn
        have hzero : failedCount [pair] = 0 := by
          rw [failedCount, List.countP_singleton, hnone]
          rfl
        have hclosed : (pair.closed mode address).1 = (pair.close mode address).1 := by
          rw [GridFtpBulkPair.closed, if_pos herrn]
        rw [if_pos (decide_eq_true herrn), List.map_cons, failedCount_cons (pair.close mode address).1, hclosed, hzero]
        omega
      · have hclosed : (pair.closed mode address).1 = pair := by
          rw [GridFtpBulkPair.closed, if_neg herrn]
        have hfalse : ¬decide (pair.errn = 0) = true := fun h => herrn (of_decide_eq_true h)
        rw [if_neg hfalse, hclosed]
        omega

theorem closed_statted (pair : GridFtpBulkPair) (mode : ChecksumMode) (address : Int) :
    (pair.closed mode address).2.filterMap GridFtpBulkCall.statted =
      if decide (pair.errn = 0) && !pair.file.canceledClose then [pair.file.dst] else [] := by
  by_cases herrn : pair.errn = 0
  · rw [GridFtpBulkPair.closed, if_pos herrn, GridFtpBulkPair.close_statted, decide_eq_true herrn, Bool.true_and]
  · rw [GridFtpBulkPair.closed, if_neg herrn, decide_eq_false herrn]
    rfl

namespace GridFtpBulkJob

variable (job : GridFtpBulkJob)

/-- The arrays when every checksum that is read is there. -/
def arrays : List GridFtpBulkPair :=
  job.files.map fun file => { file := file, checksum := if job.withChecksums then file.checksum.getD [] else [] }

/-- The arrays after the check of the sources. -/
def checked : List GridFtpBulkPair := job.arrays.map fun pair => (pair.checkSource job.mode).1

/-- The call gets to its files. -/
def Starts : Prop := job.files ≠ [] ∧ job.canceledStart = false

/-- The pair is left for the transfer. -/
def ReadyPair (pair : GridFtpBulkPair) : Prop := ReadyAmong [] job.checked pair

def HasReady : Prop := ∃ pair, job.ReadyPair pair

/-- What the last transfer returns. -/
def lastResult : Ret Int := if job.retries job.first.ended.result then job.retry.ended.result else job.first.ended.result

/-- The final check is made. -/
def Succeeds : Prop := job.canceledTransfer = false ∧ (job.HasReady → 0 ≤ job.lastResult.val)

/-- What is to hold of the outcome: every phase attempts the files that have not failed, whatever becomes of the others,
the marks say what the errors say, the pipeline offers what has not failed, and the errors and the value that is returned
tell how the files ended, or that the transfer failed or was not made. -/
structure AccountsFor (result : Result) : Prop where
  checks : result.checked.calls.filterMap GridFtpBulkCall.statted = (job.files.filter (!·.canceledSource)).map (·.src)
  checkedFiles : result.checked.pairs.map (·.file) = job.files
  checkedAgree : ∀ pair ∈ result.checked.pairs, pair.Agrees
  prepares : result.prepared.calls.filterMap GridFtpBulkCall.deleted =
    (result.checked.pairs.filter fun pair => pair.fileError.isNone && !pair.file.canceledPrepare).map (·.file.dst)
  preparedFiles : result.prepared.pairs.map (·.file) = job.files
  preparedAgree : ∀ pair ∈ result.prepared.pairs, pair.Agrees
  offers : ∀ run ∈ result.runs, run.Offers result.prepared.pairs
  skips : result.runs = [] → result.ret = -job.files.length ∧
    (result.opError.isSome = true ∨ ∀ error ∈ result.fileErrors, error.isSome = true)
  fails : ∀ run, result.runs.getLast? = some run → run.ret.val < 0 →
    result.opError.isSome = true ∧ result.ret = -job.files.length
  ends : ∀ run, result.runs.getLast? = some run → 0 ≤ run.ret.val → ∃ closed, result.closed = some closed ∧
    closed.calls.filterMap GridFtpBulkCall.statted =
      (result.prepared.pairs.filter fun pair => pair.fileError.isNone && !pair.file.canceledClose).map (·.file.dst) ∧
    closed.pairs.map (·.file) = job.files ∧ (∀ pair ∈ closed.pairs, pair.Agrees) ∧
    result.fileErrors = closed.pairs.map (·.fileError) ∧ result.ret = -(result.fileErrors.countP (·.isSome))

/-- The bulk copy comes back, ends the scope of cancellation it started, and accounts for every file. -/
def Accounted (runningOps : Int) : Prop :=
  ∃ result, job.gridftpBulkCopy runningOps = .ok (.ok result, runningOps) ∧ (job.Starts → job.AccountsFor result)

/-- No checksum is a null pointer, no error has the code 0, nothing but a `TransferException` is thrown while a destination
is prepared, and nothing at all on the way to the transfer, before which no file that is ready is cancelled. -/
structure Caught : Prop where
  checksums : job.withChecksums = true → ∀ file ∈ job.files, file.checksum ≠ none
  sources : ∀ pair ∈ job.arrays, ∀ e, (pair.checkSource job.mode).1.fileError = some e → e.code ≠ 0
  destinations : AllCaught [] job.checked
  cancels : job.canceledTransfer = true → ¬job.HasReady
  transfers : job.canceledTransfer = false →
    job.first.Runs job.HasReady ∧ (job.HasReady → job.retries job.first.ended.result = true → job.retry.Runs job.HasReady)
  closes : job.Succeeds → ∀ pair, job.ReadyPair pair →
    ∀ e, (pair.close job.mode job.address).1.fileError = some e → e.code ≠ 0

variable {job} {prepared : GridFtpBulkPhase} {runs : List PipelineRun} {result : Result}

theorem pairs_eq (h : job.withChecksums = true → ∀ file ∈ job.files, file.checksum ≠ none) : job.pairs = .ok job.arrays := by
  rw [pairs, arrays]
  cases hwith : job.withChecksums with
  | false => rfl
  | true =>
      rw [if_pos rfl]
      have hsome := h hwith
      generalize job.files = files at hsome ⊢
      induction files with
      | nil => rfl
      | cons file rest ih =>
          obtain ⟨checksum, hchecksum⟩ := Option.ne_none_iff_exists'.mp (hsome file List.mem_cons_self)
          rw [List.mapM_cons, ih fun other hmem => hsome other (List.mem_cons_of_mem _ hmem), GridFtpBulkFile.withChecksum,
            hchecksum, List.map_cons, hchecksum]
          rfl

theorem checksums_of_pairs {pairs : List GridFtpBulkPair} (h : job.pairs = .ok pairs) :
    job.withChecksums = true → ∀ file ∈ job.files, file.checksum ≠ none := by
  intro hwith
  rw [GridFtpBulkJob.pairs, if_pos hwith] at h
  generalize job.files = files at h ⊢
  induction files generalizing pairs with
  | nil => simp
  | cons file rest ih =>
      rw [List.mapM_cons, GridFtpBulkFile.withChecksum] at h
      cases hchecksum : file.checksum with
      | none =>
          rw [hchecksum] at h
          cases h
      | some checksum =>
          rw [hchecksum] at h
          intro other hmem
          rcases List.mem_cons.mp hmem with rfl | hmem
          · rw [hchecksum]
            exact Option.some_ne_none _
          · cases hrest : rest.mapM GridFtpBulkFile.withChecksum with
            | error fault =>
                rw [hrest] at h
                cases h
            | ok pairs' => exact ih hrest other hmem

theorem marked_checkSource {pair : GridFtpBulkPair} (hmem : pair ∈ job.arrays) : (pair.checkSource job.mode).1.Marked := by
  obtain ⟨file, -, rfl⟩ := List.mem_map.mp hmem
  exact GridFtpBulkPair.checkSource_marked rfl rfl

theorem checked_agrees_iff : (∀ pair ∈ job.checked, pair.Agrees) ↔
    ∀ pair ∈ job.arrays, ∀ e, (pair.checkSource job.mode).1.fileError = some e → e.code ≠ 0 := by
  rw [checked, List.forall_mem_map]
  exact forall₂_congr fun pair hmem => (marked_checkSource hmem).agrees_iff

theorem checked_files : job.checked.map (·.file) = job.files := by
  rw [checked, arrays, List.map_map, List.map_map]
  refine (List.map_congr_left fun file _ => ?_).trans (List.map_id _)
  exact GridFtpBulkPair.checkSource_file

theorem viable_iff_hasReady (h : PreparedAll [] job.checked prepared) :
    (∃ pair ∈ prepared.pairs, pair.errn = 0) ↔ job.HasReady := exists_congr h.ready

/-- The runs of the pipeline, and what the last one of them returns. -/
theorem transfer_of_runs (h : PreparedAll [] job.checked prepared) (hcanceled : job.canceledTransfer = false)
    (hruns : job.first.Runs job.HasReady ∧
      (job.HasReady → job.retries job.first.ended.result = true → job.retry.Runs job.HasReady)) :
    ∃ runs last, job.transfer prepared.pairs = .ok runs ∧ (∀ run ∈ runs, run.Offers prepared.pairs) ∧
      runs.getLast? = some last ∧ (job.HasReady → last.ret = job.lastResult) ∧ (¬job.HasReady → last.ret = ⟨0, none⟩) := by
  have hviable := viable_iff_hasReady h
  obtain ⟨hfirst, hretry⟩ := hruns
  rw [← hviable] at hfirst hretry ⊢
  obtain ⟨run, hrun, hoffers, hready, hnone⟩ := gridftpPipelineTransfer_of_runs job.enableUdt h.agrees hfirst
  rw [transfer, hcanceled, if_neg Bool.false_ne_true, hrun]
  change ∃ runs last, (if job.retries run.ret then _ else _) = _ ∧ _
  by_cases hpairs : ∃ pair ∈ prepared.pairs, pair.errn = 0
  · rw [hready hpairs, lastResult]
    by_cases hagain : job.retries job.first.ended.result = true
    · obtain ⟨again, hrunAgain, hoffersAgain, hreadyAgain, -⟩ :=
        gridftpPipelineTransfer_of_runs false h.agrees (hretry hpairs hagain)
      rw [if_pos hagain, if_pos hagain, hrunAgain]
      refine ⟨[run, again], again, rfl, ?_, rfl, hreadyAgain, fun hnot => absurd hpairs hnot⟩
      intro other hmem
      rcases List.mem_pair.mp hmem with rfl | rfl
      · exact hoffers
      · exact hoffersAgain
    · rw [if_neg hagain, if_neg hagain]
      refine ⟨[run], run, rfl, ?_, rfl, hready, fun hnot => absurd hpairs hnot⟩
      intro other hmem
      cases List.mem_singleton.mp hmem
      exact hoffers
  · have hagain : ¬job.retries run.ret = true := by
      rw [hnone hpairs]
      simp [retries]
    rw [if_neg hagain]
    refine ⟨[run], run, rfl, ?_, rfl, fun hsome => absurd hsome hpairs, hnone⟩
    intro other hmem
    cases List.mem_singleton.mp hmem
    exact hoffers

theorem runs_of_transfer (h : PreparedAll [] job.checked prepared) (hcanceled : job.canceledTransfer = false)
    (htransfer : job.transfer prepared.pairs = .ok runs) :
    job.first.Runs job.HasReady ∧
      (job.HasReady → job.retries job.first.ended.result = true → job.retry.Runs job.HasReady) := by
  have hviable := viable_iff_hasReady h
  rw [← hviable]
  rw [transfer, hcanceled, if_neg Bool.false_ne_true] at htransfer
  cases hfirst : gridftpPipelineTransfer job.first job.enableUdt prepared.pairs with
  | error e =>
      rw [hfirst] at htransfer
      cases htransfer
  | ok run =>
      have hruns := runs_of_gridftpPipelineTransfer hfirst
      refine ⟨hruns, fun hpairs hagain => ?_⟩
      obtain ⟨run', hrun', -, hready, -⟩ := gridftpPipelineTransfer_of_runs job.enableUdt h.agrees hruns
      cases hfirst.symm.trans hrun'
      rw [hfirst] at htransfer
      change (if job.retries run.ret then _ else _) = _ at htransfer
      rw [hready hpairs, if_pos hagain] at htransfer
      cases hretry : gridftpPipelineTransfer job.retry false prepared.pairs with
      | error e =>
          rw [hretry] at htransfer
          cases htransfer
      | ok again => exact runs_of_gridftpPipelineTransfer hretry

theorem lastResult_cases : job.lastResult.val = -1 ∧ job.lastResult.err.isSome = true ∨ job.lastResult = ⟨0, none⟩ := by
  unfold lastResult
  split
  · exact PipelineEnd.result_cases _
  · exact PipelineEnd.result_cases _

section Closed

variable (h : PreparedAll [] job.checked prepared)
include h

/-- After the transfer a pair that is ready goes through the final check, and the others stay as they are. -/
theorem mem_closed_iff {pair : GridFtpBulkPair} : pair ∈ (gridftpBulkClose job.mode job.address prepared.pairs).pairs ↔
      (∃ other, job.ReadyPair other ∧ (other.close job.mode job.address).1 = pair) ∨ pair ∈ prepared.pairs ∧ pair.errn ≠ 0 := by
  rw [gridftpBulkClose, List.mem_map]
  constructor
  · rintro ⟨other, hmem, rfl⟩
    rw [GridFtpBulkPair.closed]
    split
    · next herrn => exact .inl ⟨other, (h.ready other).mp ⟨hmem, herrn⟩, rfl⟩
    · next herrn => exact .inr ⟨hmem, herrn⟩
  · rintro (⟨other, hready, rfl⟩ | ⟨hmem, herrn⟩)
    · obtain ⟨hmem, herrn⟩ := (h.ready other).mpr hready
      exact ⟨other, hmem, by rw [GridFtpBulkPair.closed, if_pos herrn]⟩
    · exact ⟨pair, hmem, by rw [GridFtpBulkPair.closed, if_neg herrn]⟩

theorem marked_close {pair : GridFtpBulkPair} (hready : job.ReadyPair pair) : (pair.close job.mode job.address).1.Marked := by
  obtain ⟨hmem, herrn⟩ := (h.ready pair).mpr hready
  exact GridFtpBulkPair.close_marked ((h.agrees pair hmem).eq_none_iff.mpr herrn) herrn

theorem closed_agrees_iff : (∀ pair ∈ (gridftpBulkClose job.mode job.address prepared.pairs).pairs, pair.Agrees) ↔
      ∀ pair, job.ReadyPair pair → ∀ e, (pair.close job.mode job.address).1.fileError = some e → e.code ≠ 0 := by
  constructor
  · intro hall pair hready
    exact (marked_close h hready).agrees_iff.mp (hall _ ((mem_closed_iff h).mpr (.inl ⟨pair, hready, rfl⟩)))
  · intro hcodes pair hmem
    rcases (mem_closed_iff h).mp hmem with ⟨other, hready, rfl⟩ | ⟨hmem, -⟩
    · exact (marked_close h hready).agrees_iff.mpr (hcodes other hready)
    · exact h.agrees pair hmem

/-- The final check goes through the files that have not failed. -/
theorem closes_eq : (gridftpBulkClose job.mode job.address prepared.pairs).calls.filterMap GridFtpBulkCall.statted =
      (prepared.pairs.filter fun pair => pair.fileError.isNone && !pair.file.canceledClose).map (·.file.dst) := by
  rw [gridftpBulkClose]
  refine (filterMap_flatMap_of prepared.pairs _ _ _ _ fun pair => closed_statted pair job.mode job.address).trans ?_
  refine congrArg _ (List.filter_congr fun pair hmem => ?_)
  rw [(h.agrees pair hmem).decide_eq]

end Closed

section Finish

variable {checked : GridFtpBulkPhase}

@[simp] theorem finish_checked : (job.finish checked prepared runs).checked = checked := by
  unfold finish
  dsimp only
  split <;> rfl

@[simp] theorem finish_prepared : (job.finish checked prepared runs).prepared = prepared := by
  unfold finish
  dsimp only
  split <;> rfl

@[simp] theorem finish_runs : (job.finish checked prepared runs).runs = runs := by
  unfold finish
  dsimp only
  split <;> rfl

theorem finish_closed {last : PipelineRun} (hlast : runs.getLast? = some last) (hdone : 0 ≤ last.ret.val) :
    (job.finish checked prepared runs).closed = some (gridftpBulkClose job.mode job.address prepared.pairs) := by
  unfold finish
  rw [hlast]
  dsimp only [Option.map_some, Option.getD_some]
  rw [if_neg (Int.not_lt.mpr hdone)]

end Finish

theorem accountsFor_finish (hsources : ∀ pair ∈ job.checked, pair.Agrees) (h : PreparedAll [] job.checked prepared)
    (hoffers : ∀ run ∈ runs, run.Offers prepared.pairs) (hskips : runs = [] → ¬job.HasReady)
    (hlast : ∀ last, runs.getLast? = some last → (job.HasReady → last.ret = job.lastResult) ∧ (¬job.HasReady → last.ret = ⟨0, none⟩))
    (hcloses : ∀ last, runs.getLast? = some last → 0 ≤ last.ret.val → ∀ pair, job.ReadyPair pair →
      ∀ e, (pair.close job.mode job.address).1.fileError = some e → e.code ≠ 0) :
    job.AccountsFor (job.finish (gridftpBulkCheckSources job.mode job.arrays) prepared runs) := by
  constructor
  · rw [finish_checked, gridftpBulkCheckSources]
    refine (filterMap_flatMap_of job.arrays _ _ _ _ fun pair => pair.checkSource_statted job.mode).trans ?_
    rw [arrays, List.filter_map, List.map_map]
    rfl
  · rw [finish_checked]
    exact checked_files
  · rw [finish_checked]
    exact hsources
  · rw [finish_prepared, finish_checked, h.attempts]
    refine congrArg _ (List.filter_congr fun pair hmem => ?_)
    rw [(hsources pair hmem).decide_eq]
  · rw [finish_prepared, h.files]
    exact checked_files
  · rw [finish_prepared]
    exact h.agrees
  · rw [finish_runs, finish_prepared]
    exact hoffers
  · rw [finish_runs]
    rintro rfl
    refine ⟨rfl, .inr (List.forall_mem_map.mpr fun pair hmem => ?_)⟩
    rw [← Option.ne_none_iff_isSome, ne_eq, (h.agrees pair hmem).eq_none_iff]
    exact fun herrn => hskips rfl ((viable_iff_hasReady h).mp ⟨pair, hmem, herrn⟩)
  · rw [finish_runs]
    intro last hmem hfailed
    obtain ⟨hready, hnone⟩ := hlast last hmem
    have hretReady : job.HasReady := by
      by_contra hnot
      rw [hnone hnot] at hfailed
      exact absurd hfailed (by decide)
    unfold finish
    rw [hmem]
    dsimp only [Option.map_some, Option.getD_some]
    rw [if_pos hfailed]
    refine ⟨?_, rfl⟩
    rw [hready hretReady] at hfailed ⊢
    have hcases : job.lastResult.val = -1 ∧ job.lastResult.err.isSome = true ∨ job.lastResult = ⟨0, none⟩ := lastResult_cases
    rcases hcases with ⟨-, herr⟩ | hzero
    · exact herr
    · rw [hzero] at hfailed
      exact absurd hfailed (by decide)
  · rw [finish_runs, finish_prepared]
    intro last hmem hdone
    unfold finish
    rw [hmem]
    dsimp only [Option.map_some, Option.getD_some]
    rw [if_neg (Int.not_lt.mpr hdone)]
    refine ⟨_, rfl, closes_eq h, ?_, (closed_agrees_iff h).mpr (hcloses last hmem hdone), rfl, ?_⟩
    · rw [← checked_files, ← h.files, gridftpBulkClose, List.map_map]
      refine List.map_congr_left fun pair _ => ?_
      change (pair.closed job.mode job.address).1.file = pair.file
      rw [GridFtpBulkPair.closed]
      split
      · exact GridFtpBulkPair.close_file
      · rfl
    · have hsum := failedCount_closed job.mode job.address h.agrees
      have hfirst := h.nfailed
      have hcount : failedCount job.checked = (gridftpBulkCheckSources job.mode job.arrays).nfailed := rfl
      have hall : failedCount (gridftpBulkClose job.mode job.address prepared.pairs).pairs =
          (((gridftpBulkClose job.mode job.address prepared.pairs).pairs.map (·.fileError)).countP (·.isSome) : Nat) := by
        rw [List.countP_map]
        rfl
      dsimp only
      rw [← hall]
      omega

theorem phases_eq_ok_iff {pairs : List GridFtpBulkPair} : job.phases pairs = .ok result ↔
    ∃ prepared runs, gridftpBulkPrepareDestination [] (gridftpBulkCheckSources job.mode pairs).pairs = .ok prepared ∧
      job.transfer prepared.pairs = .ok runs ∧ job.finish (gridftpBulkCheckSources job.mode pairs) prepared runs = result := by
  rw [phases]
  cases hprepared : gridftpBulkPrepareDestination [] (gridftpBulkCheckSources job.mode pairs).pairs with
  | error e =>
      refine iff_of_false (fun h => by cases h) ?_
      rintro ⟨prepared, runs, h, -⟩
      cases h
  | ok prepared =>
      change (job.transfer prepared.pairs >>= _) = _ ↔ _
      cases htransfer : job.transfer prepared.pairs with
      | error e =>
          refine iff_of_false (fun h => by cases h) ?_
          rintro ⟨prepared', runs, h, htransfer', -⟩
          cases h
          cases htransfer.symm.trans htransfer'
      | ok runs =>
          constructor
          · intro h
            cases h
            exact ⟨prepared, runs, rfl, htransfer, rfl⟩
          · rintro ⟨prepared', runs', h, htransfer', rfl⟩
            cases h
            cases htransfer.symm.trans htransfer'
            rfl

/-- The copy comes back with its scope ended exactly if its phases do not throw. -/
theorem gridftpBulkCopy_eq_ok_iff (hstarts : job.Starts) {runningOps : Int} :
    job.gridftpBulkCopy runningOps = .ok (.ok result, runningOps) ↔
      (job.withChecksums = true → ∀ file ∈ job.files, file.checksum ≠ none) ∧ job.phases job.arrays = .ok result := by
  obtain ⟨hfiles, hstart⟩ := hstarts
  rw [gridftpBulkCopy, if_neg hfiles, hstart, if_neg Bool.false_ne_true]
  cases hpairs : job.pairs with
  | error fault =>
      refine iff_of_false (fun h => by cases h) ?_
      rintro ⟨hchecksums, -⟩
      cases hpairs.symm.trans (pairs_eq hchecksums)
  | ok pairs =>
      have hchecksums := checksums_of_pairs hpairs
      cases hpairs.symm.trans (pairs_eq hchecksums)
      rw [and_iff_right hchecksums]
      cases hphases : job.phases job.arrays with
      | error e => simp [bind, Except.bind, hphases]
      | ok result' =>
          simp only [bind, Except.bind, hphases]
          rw [add_sub_cancel_right]
          simp

theorem caught_of_accounted (hphases : job.phases job.arrays = .ok result)
    (hchecksums : job.withChecksums = true → ∀ file ∈ job.files, file.checksum ≠ none) (haccounts : job.AccountsFor result) :
    job.Caught := by
  obtain ⟨prepared, runs, hprepared, htransfer, rfl⟩ := phases_eq_ok_iff.mp hphases
  have hsources : ∀ pair ∈ job.checked, pair.Agrees := by
    have hagree := haccounts.checkedAgree
    rwa [finish_checked] at hagree
  have hagree : ∀ pair ∈ prepared.pairs, pair.Agrees := by
    have hagree := haccounts.preparedAgree
    rwa [finish_prepared] at hagree
  have hall : AllCaught [] job.checked := caught_of_prepareDestinations hsources not_madeBefore_nil hprepared hagree
  obtain ⟨prepared', hprepared', h⟩ := prepareDestinations_of_caught hsources not_madeBefore_nil hall
  cases hprepared.symm.trans hprepared'
  refine ⟨hchecksums, checked_agrees_iff.mp hsources, hall, ?_, fun hcanceled => runs_of_transfer h hcanceled htransfer, ?_⟩
  · rintro hcanceled hready
    obtain ⟨pair, hmem, herrn⟩ := (viable_iff_hasReady h).mpr hready
    rw [transfer, hcanceled, if_pos rfl] at htransfer
    cases htransfer
    obtain ⟨-, herrors⟩ := haccounts.skips finish_runs
    have hset := herrors.resolve_left (by simp [finish]) _ (List.mem_map_of_mem hmem)
    rw [(hagree pair hmem).eq_none_iff.mpr herrn] at hset
    cases hset
  rintro ⟨hcanceled, hval⟩
  obtain ⟨runs', last, htransfer', -, hlast, hready, hnone⟩ := transfer_of_runs h hcanceled (runs_of_transfer h hcanceled htransfer)
  cases htransfer.symm.trans htransfer'
  have hdone : 0 ≤ last.ret.val := by
    by_cases hpairs : job.HasReady
    · rw [hready hpairs]
      exact hval hpairs
    · rw [hnone hpairs]
  obtain ⟨closed, hclosed, -, -, hclosedAgree, -⟩ := haccounts.ends last (by rw [finish_runs]; exact hlast) hdone
  rw [finish_closed hlast hdone] at hclosed
  cases hclosed
  exact (closed_agrees_iff h).mp hclosedAgree

theorem accounted_of_caught (hstarts : job.Starts) (hcaught : job.Caught) (runningOps : Int) : job.Accounted runningOps := by
  have hsources := checked_agrees_iff.mpr hcaught.sources
  obtain ⟨prepared, hprepared, h⟩ := prepareDestinations_of_caught hsources not_madeBefore_nil hcaught.destinations
  have hreturns : ∀ {runs : List PipelineRun}, job.transfer prepared.pairs = .ok runs →
      job.gridftpBulkCopy runningOps =
        .ok (.ok (job.finish (gridftpBulkCheckSources job.mode job.arrays) prepared runs), runningOps) := by
    intro runs htransfer
    exact (gridftpBulkCopy_eq_ok_iff hstarts).mpr
      ⟨hcaught.checksums, phases_eq_ok_iff.mpr ⟨prepared, runs, hprepared, htransfer, rfl⟩⟩
  cases hcanceled : job.canceledTransfer with
  | true =>
      have htransfer : job.transfer prepared.pairs = .ok [] := by
        rw [transfer, hcanceled, if_pos rfl]
      exact ⟨_, hreturns htransfer, fun _ => accountsFor_finish hsources h (by simp) (fun _ => hcaught.cancels hcanceled) (by simp) (by simp)⟩
  | false =>
      obtain ⟨runs, last, htransfer, hoffers, hlast, hready, hnone⟩ := transfer_of_runs h hcanceled (hcaught.transfers hcanceled)
      have hruns : runs ≠ [] := by
        rintro rfl
        cases hlast
      refine ⟨_, hreturns htransfer, fun _ => accountsFor_finish hsources h hoffers (fun hnil => absurd hnil hruns) ?_ ?_⟩
      · intro last' hlast'
        cases hlast.symm.trans hlast'
        exact ⟨hready, hnone⟩
      · intro last' hlast' hdone pair hpair
        cases hlast.symm.trans hlast'
        refine hcaught.closes ⟨hcanceled, fun hpairs => ?_⟩ pair hpair
        rw [← hready hpairs]
        exact hdone

end GridFtpBulkJob

/-- What the server throws for a destination it lets nobody look at. -/
def permissionDenied : CppException := .core ⟨lit "Gridftp_stat_module::stat", EACCES, lit "Permission denied"⟩

/-- The copy of one file to that destination. -/
def deniedJob : GridFtpBulkJob where
  files := [{ src := lit "gsiftp://a/f", dst := lit "gsiftp://b/f", deleteExisting := .error permissionDenied }]

end Gfal2
