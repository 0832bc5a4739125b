import Gfal2.Base.Runs
import Gfal2.Sftp

/-! Reads, writes and seeks on an open file of the SFTP plugin. libssh2 delivers or accepts what it likes of what it
is offered, and may fail at any call. -/

namespace Gfal2

open Base

/-- A failure of libssh2: its negative number, and what `gfal_plugin_sftp_translate_error` makes of it. -/
structure Ssh2Failure where
  rc : Int
  negative : rc < 0
  error : GError

/-- What libssh2 is asked for on an open file. -/
inductive Ssh2FileCall where
  | read (size : Nat)
  | write (buff : List UInt8)
  | fstat
  | seek64 (offset : Nat)
  deriving DecidableEq

/-- The answers of libssh2, which depend on what it was asked for before. -/
structure Ssh2File where
  read : (size : Nat) → List Ssh2FileCall → Except Ssh2Failure { bytes : List UInt8 // bytes.length ≤ size }
  write : (buff : List UInt8) → List Ssh2FileCall → Except Ssh2Failure { accepted : Nat // accepted ≤ buff.length }
  fstat : List Ssh2FileCall → Except Ssh2Failure Nat

/-- `gfal_sftp_file_t`: the position of its libssh2 handle, and the calls made on it. -/
structure SftpFile where
  position : Nat := 0
  calls : List Ssh2FileCall := []
  deriving DecidableEq

variable (ssh2 : Ssh2File)

def libssh2SftpRead (size : Nat) (file : SftpFile) : Except Ssh2Failure (List UInt8) × SftpFile :=
  match ssh2.read size file.calls with
  | .error failure => (.error failure, { file with calls := .read size :: file.calls })
  | .ok bytes => (.ok bytes, { position := file.position + bytes.val.length, calls := .read size :: file.calls })

/-- The loop of `gfal_sftp_read`, with the bytes in the buffer so far. -/
def sftpReadLoop (count : Nat) : Nat → List UInt8 → SftpFile → Option (Ret (Int × List UInt8) × SftpFile)
  | 0, _, _ => none
  | fuel + 1, buffer, file =>
      match libssh2SftpRead ssh2 (count - buffer.length) file with
      | (.error failure, file) => some (⟨(failure.rc, buffer), some failure.error⟩, file)
      | (.ok [], file) => some (⟨(buffer.length, buffer), none⟩, file)
      | (.ok bytes, file) =>
          if (buffer ++ bytes).length < count then sftpReadLoop count fuel (buffer ++ bytes) file
          else some (⟨((buffer ++ bytes).length, buffer ++ bytes), none⟩, file)

def gfalSftpRead (count : Nat) (file : SftpFile) : Option (Ret (Int × List UInt8) × SftpFile) :=
  sftpReadLoop ssh2 count (count + 1) [] file

def gfalSftpWrite (buff : List UInt8) (file : SftpFile) : Ret Int × SftpFile :=
  let calls := .write buff :: file.calls
  match ssh2.write buff file.calls with
  | .error failure => (⟨buff.length, some failure.error⟩, { file with calls := calls })
  | .ok accepted => (⟨buff.length, none⟩, { position := file.position + accepted, calls := calls })

def libssh2SftpSeek64 (absolute : Int) (file : SftpFile) : SftpFile :=
  { position := (absolute % 2 ^ 64).toNat, calls := .seek64 (absolute % 2 ^ 64).toNat :: file.calls }

def gfalSftpSeek (offset whence : Int) (file : SftpFile) : Ret Int × SftpFile :=
  let seek := fun (absolute : Int) (file : SftpFile) => (⟨absolute, none⟩, libssh2SftpSeek64 absolute file)
  if whence = 0 then seek offset file
  else if whence = 1 then seek (Int.bmod (file.position + offset) (2 ^ 64)) file
  else if whence = 2 then
    match ssh2.fstat file.calls with
    | .error failure => (⟨-1, some failure.error⟩, { file with calls := .fstat :: file.calls })
    | .ok filesize => seek (Int.bmod (filesize + offset) (2 ^ 64)) { file with calls := .fstat :: file.calls }
  else seek 0 file

inductive SftpIoOp where
  | read (count : Nat)
  | write (buff : List UInt8)
  | seek (offset whence : Int)

def sftpIoStep : SftpIoOp → SftpFile → Option SftpFile
  | .read count, file => (gfalSftpRead ssh2 count file).map Prod.snd
  | .write buff, file => some (gfalSftpWrite ssh2 buff file).2
  | .seek offset whence, file => some (gfalSftpSeek ssh2 offset whence file).2

/-! ### The contract -/

/-- The access mode of the flags of `open`. -/
def accessMode (flag : Nat) : Nat := flag % 4

/-- The flags for libssh2 ask for reading and for writing as the access mode does. -/
def OpenedAs (flag ssh2Flags : Nat) : Prop :=
  (ssh2Flags &&& 1 ≠ 0 ↔ accessMode flag = 0 ∨ accessMode flag = 2) ∧
    (ssh2Flags &&& 2 ≠ 0 ↔ accessMode flag = 1 ∨ accessMode flag = 2)

/-- A read that fails leaves the stream where it was, and one that does not returns all that was taken. -/
def ReadHonoured (count : Nat) (file : SftpFile) : Prop :=
  ∃ result next, gfalSftpRead ssh2 count file = some (result, next) ∧
    ((result.val.1 < 0 ∧ result.err ≠ none ∧ next.position = file.position) ∨
      (result.val.1 = result.val.2.length ∧ result.err = none ∧ next.position = file.position + result.val.2.length))

/-- A write returns a negative value with the error set, or what libssh2 accepted. -/
def WriteHonoured (buff : List UInt8) (file : SftpFile) : Prop :=
  ((gfalSftpWrite ssh2 buff file).1.val < 0 ∧ (gfalSftpWrite ssh2 buff file).1.err ≠ none) ∨
    ((gfalSftpWrite ssh2 buff file).1.err = none ∧
      ∃ accepted, ssh2.write buff file.calls = .ok accepted ∧ (gfalSftpWrite ssh2 buff file).1.val = accepted.val)

def SftpIoHonoured (op : SftpIoOp) (file : SftpFile) : Prop :=
  match op with
  | .read count => ReadHonoured ssh2 count file
  | .write buff => WriteHonoured ssh2 buff file
  | .seek _ _ => True

/-- The bytes that libssh2 delivers, one read after the other, while fewer were delivered than are asked for. -/
inductive Delivered (count : Nat) (file : SftpFile) : List UInt8 → SftpFile → Prop where
  | start : Delivered count file [] file
  | more {buffer bytes : List UInt8} {middle next : SftpFile} (hbefore : Delivered count file buffer middle)
      (hwanted : buffer.length < count) (hread : libssh2SftpRead ssh2 (count - buffer.length) middle = (.ok bytes, next))
      (hbytes : bytes ≠ []) : Delivered count file (buffer ++ bytes) next

/-- libssh2 does not fail to read on once it has delivered a part of what is asked for, and accepts all that is to
be written. -/
def Ssh2Obliging (op : SftpIoOp) (file : SftpFile) : Prop :=
  match op with
  | .read count => ∀ buffer next, Delivered ssh2 count file buffer next → buffer ≠ [] → buffer.length < count →
      ∃ bytes, ssh2.read (count - buffer.length) next.calls = .ok bytes
  | .write buff => ∃ accepted, ssh2.write buff file.calls = .ok accepted ∧ accepted.val = buff.length
  | .seek _ _ => True

/-! ### Flags -/

theorem and_two_ne_zero_iff (flag : Nat) : flag &&& 2 ≠ 0 ↔ flag % 4 = 2 ∨ flag % 4 = 3 := by
  have hmod : flag &&& 3 = flag % 4 := Nat.and_two_pow_sub_one_eq_mod flag 2
  have hsplit : flag &&& 2 = flag % 4 &&& 2 := by
    rw [← hmod, Nat.and_assoc]
    rfl
  rw [hsplit]
  have hlt : flag % 4 < 4 := Nat.mod_lt _ (by decide)
  generalize flag % 4 = mode at hlt
  revert mode
  decide

theorem and_one_ne_zero_iff (flag : Nat) : flag &&& 1 ≠ 0 ↔ flag % 4 = 1 ∨ flag % 4 = 3 := by
  rw [Nat.and_one_is_mod]
  omega

theorem ite_and_eq_zero {p : Prop} [Decidable p] {bit mask : Nat} (h : bit &&& mask = 0) :
    (if p then bit else 0) &&& mask = 0 := by
  split
  · exact h
  · exact Nat.zero_and mask

theorem openFlags_and_one (flag : Nat) : gfalSftpStd2ssh2OpenFlags flag &&& 1 ≠ 0 ↔ flag &&& 2 ≠ 0 := by
  unfold gfalSftpStd2ssh2OpenFlags
  simp only [Nat.and_or_distrib_right]
  rw [ite_and_eq_zero (by decide : 2 &&& 1 = 0), ite_and_eq_zero (by decide : 4 &&& 1 = 0),
    ite_and_eq_zero (by decide : 16 &&& 1 = 0), ite_and_eq_zero (by decide : 8 &&& 1 = 0),
    ite_and_eq_zero (by decide : 32 &&& 1 = 0)]
  by_cases h : flag &&& 2 ≠ 0
  · rw [if_pos h]
    exact iff_of_true (by decide) h
  · rw [if_neg h]
    exact iff_of_false (by decide) h

theorem openFlags_and_two (flag : Nat) : gfalSftpStd2ssh2OpenFlags flag &&& 2 ≠ 0 ↔ flag &&& 1 ≠ 0 ∨ flag &&& 2 ≠ 0 := by
  unfold gfalSftpStd2ssh2OpenFlags
  simp only [Nat.and_or_distrib_right]
  rw [ite_and_eq_zero (by decide : 1 &&& 2 = 0), ite_and_eq_zero (by decide : 4 &&& 2 = 0),
    ite_and_eq_zero (by decide : 16 &&& 2 = 0), ite_and_eq_zero (by decide : 8 &&& 2 = 0),
    ite_and_eq_zero (by decide : 32 &&& 2 = 0)]
  by_cases h : flag &&& 1 ≠ 0 ∨ flag &&& 2 ≠ 0
  · rw [if_pos h]
    exact iff_of_true (by decide) h
  · rw [if_neg h]
    exact iff_of_false (by decide) h

/-- `O_RDONLY` is zero and is never found in the flags. -/
theorem openedAs_iff (flag : Nat) :
    OpenedAs flag (gfalSftpStd2ssh2OpenFlags flag) ↔ accessMode flag = 1 ∨ accessMode flag = 2 := by
  unfold OpenedAs
  rw [openFlags_and_one, openFlags_and_two, and_one_ne_zero_iff, and_two_ne_zero_iff]
  unfold accessMode
  omega

/-! ### Reads -/

variable {ssh2} {count : Nat} {file : SftpFile} {buffer : List UInt8}

theorem libssh2SftpRead_ok {size : Nat} {bytes : List UInt8} {next : SftpFile}
    (h : libssh2SftpRead ssh2 size file = (.ok bytes, next)) :
    next.position = file.position + bytes.length ∧ bytes.length ≤ size := by
  unfold libssh2SftpRead at h
  split at h
  · cases h
  · rename_i found _
    cases h
    exact ⟨rfl, found.property⟩

theorem libssh2SftpRead_error {size : Nat} {failure : Ssh2Failure} {next : SftpFile}
    (h : libssh2SftpRead ssh2 size file = (.error failure, next)) : next.position = file.position := by
  unfold libssh2SftpRead at h
  split at h
  · cases h
    rfl
  · cases h

theorem libssh2SftpRead_isOk_iff (size : Nat) :
    (∃ bytes, ssh2.read size file.calls = .ok bytes) ↔ ∃ bytes next, libssh2SftpRead ssh2 size file = (.ok bytes, next) := by
  unfold libssh2SftpRead
  constructor
  · rintro ⟨bytes, hread⟩
    rw [hread]
    exact ⟨_, _, rfl⟩
  · rintro ⟨bytes, next, hread⟩
    split at hread
    · cases hread
    · rename_i found hfound
      exact ⟨found, hfound⟩

theorem Delivered.position {next : SftpFile} (h : Delivered ssh2 count file buffer next) :
    next.position = file.position + buffer.length := by
  induction h with
  | start => rfl
  | more hbefore hwanted hread hbytes ih =>
      rw [(libssh2SftpRead_ok hread).1, ih, List.length_append, Nat.add_assoc]

/-- The loop comes back: it ends with an error of libssh2, or with all the bytes that were delivered. -/
theorem sftpReadLoop_returns {fuel : Nat} {middle : SftpFile}
    (hbefore : Delivered ssh2 count file buffer middle) (hfuel : count - buffer.length < fuel)
    (hwanted : buffer = [] ∨ buffer.length < count) :
    (∃ buffer' middle' failure next, Delivered ssh2 count file buffer' middle' ∧
        (buffer' = [] ∨ buffer'.length < count) ∧
        libssh2SftpRead ssh2 (count - buffer'.length) middle' = (.error failure, next) ∧
        sftpReadLoop ssh2 count fuel buffer middle = some (⟨(failure.rc, buffer'), some failure.error⟩, next)) ∨
      ∃ buffer' next, next.position = file.position + buffer'.length ∧
        sftpReadLoop ssh2 count fuel buffer middle = some (⟨(buffer'.length, buffer'), none⟩, next) := by
  induction fuel generalizing buffer middle with
  | zero => exact absurd hfuel (Nat.not_lt_zero _)
  | succ fuel ih =>
      rw [sftpReadLoop]
      cases hread : libssh2SftpRead ssh2 (count - buffer.length) middle with
      | mk answer next =>
          cases answer with
          | error failure => exact .inl ⟨buffer, middle, failure, next, hbefore, hwanted, hread, rfl⟩
          | ok bytes =>
              obtain ⟨hposition, hsize⟩ := libssh2SftpRead_ok hread
              cases bytes with
              | nil => exact .inr ⟨buffer, next, hposition.trans hbefore.position, rfl⟩
              | cons b bytes =>
                  dsimp only
                  rw [List.length_cons] at hsize
                  have hroom : buffer.length < count := by omega
                  have hmore := hbefore.more hroom hread (List.cons_ne_nil b bytes)
                  split
                  · rename_i hleft
                    refine ih hmore ?_ (.inr hleft)
                    rw [List.length_append, List.length_cons]
                    omega
                  · exact .inr ⟨buffer ++ b :: bytes, next, hmore.position, rfl⟩

/-- What was delivered so far is in the buffer when the loop goes on. -/
theorem sftpReadLoop_of_delivered {middle : SftpFile}
    (h : Delivered ssh2 count file buffer middle) (hwanted : buffer = [] ∨ buffer.length < count) :
    ∃ rounds ≤ buffer.length, ∀ fuel, sftpReadLoop ssh2 count (fuel + rounds) [] file =
      sftpReadLoop ssh2 count fuel buffer middle := by
  induction h with
  | start => exact ⟨0, le_rfl, fun fuel => rfl⟩
  | @more buffer bytes middle next hbefore hroom hread hbytes ih =>
      obtain ⟨rounds, hrounds, hloop⟩ := ih (.inr hroom)
      have hlength : 0 < bytes.length := List.length_pos_iff.mpr hbytes
      refine ⟨rounds + 1, by rw [List.length_append]; omega, fun fuel => ?_⟩
      have hround := hloop (fuel + 1)
      rw [Nat.add_assoc, Nat.add_comm 1] at hround
      rw [hround, sftpReadLoop, hread]
      cases bytes with
      | nil => exact absurd rfl hbytes
      | cons b bytes =>
          dsimp only
          obtain hempty | hleft := hwanted
          · rw [List.append_eq_nil_iff] at hempty
            exact absurd hempty.2 (List.cons_ne_nil b bytes)
          · rw [if_pos hleft]

theorem readHonoured_iff : ReadHonoured ssh2 count file ↔ Ssh2Obliging ssh2 (.read count) file := by
  unfold ReadHonoured Ssh2Obliging gfalSftpRead
  dsimp only
  constructor
  · rintro ⟨result, next, hresult, hhonoured⟩ buffer middle hdelivered hbuffer hroom
    rw [libssh2SftpRead_isOk_iff]
    cases hread : libssh2SftpRead ssh2 (count - buffer.length) middle with
    | mk answer last =>
        cases answer with
        | ok bytes => exact ⟨bytes, last, rfl⟩
        | error failure =>
            exfalso
            obtain ⟨rounds, hrounds, hloop⟩ := sftpReadLoop_of_delivered hdelivered (.inr hroom)
            have hrun := hloop (count - rounds + 1)
            rw [show count - rounds + 1 + rounds = count + 1 by omega, hresult, sftpReadLoop, hread] at hrun
            cases hrun
            have hlength : 0 < buffer.length := List.length_pos_iff.mpr hbuffer
            have hposition := libssh2SftpRead_error hread
            rw [hdelivered.position] at hposition
            obtain ⟨-, -, hback⟩ | ⟨-, hnone, -⟩ := hhonoured
            · omega
            · cases hnone
  · intro hobliging
    obtain ⟨buffer, middle, failure, next, hdelivered, hwanted, hread, hrun⟩ | ⟨buffer, next, hposition, hrun⟩ :=
      sftpReadLoop_returns (@Delivered.start ssh2 count file)
        (Nat.lt_succ_self _) (.inl rfl)
    · refine ⟨_, _, hrun, .inl ⟨failure.negative, Option.some_ne_none _, ?_⟩⟩
      rw [libssh2SftpRead_error hread, hdelivered.position]
      obtain rfl | hroom := hwanted
      · rfl
      · by_cases hbuffer : buffer = []
        · rw [hbuffer]
          rfl
        · obtain ⟨bytes, last, hok⟩ :=
            (libssh2SftpRead_isOk_iff _).mp (hobliging buffer middle hdelivered hbuffer hroom)
          rw [hread] at hok
          cases hok
    · exact ⟨_, _, hrun, .inr ⟨rfl, rfl, hposition⟩⟩

/-! ### Writes, and a whole run -/

theorem writeHonoured_iff {buff : List UInt8} : WriteHonoured ssh2 buff file ↔ Ssh2Obliging ssh2 (.write buff) file := by
  unfold WriteHonoured Ssh2Obliging gfalSftpWrite
  dsimp only
  cases hwrite : ssh2.write buff file.calls with
  | error failure =>
      refine iff_of_false ?_ ?_
      · rintro (⟨hnegative, -⟩ | ⟨hnone, -⟩)
        · exact absurd hnegative (Int.not_lt.mpr (Int.natCast_nonneg _))
        · cases hnone
      · rintro ⟨accepted, hok, -⟩
        cases hok
  | ok accepted =>
      constructor
      · rintro (⟨-, herror⟩ | ⟨-, accepted', hok, hcount⟩)
        · exact absurd rfl herror
        · exact ⟨accepted', hok, (Int.ofNat_inj.mp hcount).symm⟩
      · rintro ⟨accepted', hok, hall⟩
        exact .inr ⟨rfl, accepted', hok, congrArg Int.ofNat hall.symm⟩

variable (ssh2)

/-- A handle is opened for what its access mode says and every call of a run on it keeps the contract, just when the
access mode is write-only or read-write, libssh2 accepts all that is written at once, and it does not fail to read on
once it has delivered a part. -/
theorem sftp_io_contract_iff (flag : Nat) (ops : List SftpIoOp) (last : SftpFile) :
    (OpenedAs flag (gfalSftpStd2ssh2OpenFlags flag) ∧ Run (sftpIoStep ssh2) (SftpIoHonoured ssh2) {} ops last) ↔
      (accessMode flag = 1 ∨ accessMode flag = 2) ∧ Run (sftpIoStep ssh2) (Ssh2Obliging ssh2) {} ops last := by
  refine and_congr (openedAs_iff flag) ?_
  refine Run.iff_of_invariant (fun _ => True) ?_ (fun _ _ _ _ _ _ => trivial) trivial
  intro op file _
  cases op with
  | read count => exact readHonoured_iff
  | write buff => exact writeHonoured_iff
  | seek offset whence => exact Iff.rfl

def socketFailure : Ssh2Failure := ⟨-43, by decide, ⟨gfal2GetPluginSftpQuark, 5, lit "socket"⟩⟩

/-- A connection that breaks after one byte. -/
def brokenSsh2 : Ssh2File where
  read size calls :=
    if h : calls = [] ∧ 1 ≤ size then .ok ⟨[7], h.2⟩ else .error socketFailure
  write _ _ := .error socketFailure
  fstat _ := .ok 0

/-- A file that is opened to be read is not asked for reading; a read that breaks off loses the byte before; a write
that fails returns what it was to write. -/
theorem sftp_io_contract_broken : ¬OpenedAs 0 (gfalSftpStd2ssh2OpenFlags 0) ∧
      ¬SftpIoHonoured brokenSsh2 (.read 2) {} ∧
      (gfalSftpWrite brokenSsh2 [1, 2, 3] {}).1 = ⟨3, some socketFailure.error⟩ ∧
      ¬SftpIoHonoured brokenSsh2 (.write [1, 2, 3]) {} := by
  refine ⟨fun h => ?_, fun h => ?_, rfl, fun h => ?_⟩
  · exact absurd (h.1.mpr (.inl rfl)) (by decide)
  · obtain ⟨result, next, hresult, hhonoured⟩ := h
    have hread : gfalSftpRead brokenSsh2 2 {} =
        some (⟨(-43, [7]), some socketFailure.error⟩, ⟨1, [.read 1, .read 2]⟩) := rfl
    rw [hread] at hresult
    cases hresult
    obtain ⟨-, -, hposition⟩ | ⟨-, hnone, -⟩ := hhonoured
    · cases hposition
    · cases hnone
  · obtain ⟨hnegative, -⟩ | ⟨hnone, -⟩ := h
    · exact absurd hnegative (by decide)
    · cases hnone

end Gfal2
