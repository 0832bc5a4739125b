import Gfal2.FileIoResults
import Gfal2.StreamedCopy

/-! The checksum of a part of a local file: open it, seek to the start, read it in chunks of 2 MiB and feed what each read
found to the checksum. A seek that fails, or whose result is negative once it has been an `int`, ends the call with the
descriptor left open, and a length from 2^63 on is negative as the count of bytes that remain. -/

namespace Gfal2

open Base

variable {σ κ : Type}

abbrev ENOBUFS : Int := 105

/-- `Chksum_interface`. The result is none when the buffer is too short for it. -/
structure ChksumInterface (κ : Type) where
  init : κ
  update : κ → List UInt8 → κ
  getResult : κ → Nat → Option CString

abbrev chunkSize : Int := 2 ^ 21

/-- What the loop ends with, and beside it the answers of `gfal2_read` and the bytes given to the checksum at each call. -/
structure ChkRead (κ : Type) where
  ret : Int
  err : Option GError
  state : κ
  reads : List (Ret (Int × List UInt8))
  fed : List (List UInt8)

/-- The value of an `ssize_t`. -/
def toSsizeT (n : Int) : Int := Int.bmod n (2 ^ 64)

/-- The loop of `gfal_plugin_file_chk_compute`. What remains is counted only where a length is given. -/
def chkLoop (chk : ChksumInterface κ) (fd : Int) (bounded : Bool) : Nat → Int → κ → Gfal σ (ChkRead κ)
  | 0, _, _ => Exec.fault .outOfFuel
  | fuel + 1, remainBytes, state => do
      let read ← gfal2Read fd (toSizeT (min chunkSize remainBytes))
      if read.val.2.length > chunkSize then
        Exec.fault .arrayBounds
      else
        let ret := read.val.1
        let remainBytes := if bounded then toSsizeT (remainBytes - ret) else remainBytes
        let chunk := read.val.2.take ret.toNat
        if ret > 0 then
          let state := chk.update state chunk
          if remainBytes > 0 then
            let last ← chkLoop chk fd bounded fuel remainBytes state
            return { last with reads := read :: last.reads, fed := chunk :: last.fed }
          else
            return ⟨ret, read.err, state, [read], [chunk]⟩
        else
          return ⟨ret, read.err, state, [read], []⟩

/-- What the call returns and leaves in the buffer, beside what it saw of `gfal2_lseek` and `gfal2_read` and gave to the
checksum. -/
structure ChkOutcome where
  ret : Ret (Int × Option CString)
  seek : Option (Ret Int) := none
  reads : List (Ret (Int × List UInt8)) := []
  fed : List (List UInt8) := []

/-- The end of `gfal_plugin_file_chk_compute`, behind its loop. -/
def chkResult (chk : ChksumInterface κ) (bufferLength : Nat) (last : ChkRead κ) : Gfal σ (Ret (Int × Option CString)) :=
  match chk.getResult last.state bufferLength with
  | none =>
      return ⟨(-1, none), some (gfal2SetError gfal2GetPluginFileQuark ENOBUFS (lit "buffer for checksum too short"))⟩
  | some text =>
      if last.ret < 0 then
        match last.err with
        | none => Exec.fault .nullDereference
        | some e =>
            return ⟨(-1, some text), some (gfal2SetError gfal2GetPluginFileQuark e.code
              (lit "Error during checksum calculation, read: " ++ e.message))⟩
      else
        return ⟨(0, some text), none⟩

/-- `gfal_plugin_file_chk_compute` from the opened descriptor on. -/
def chkOpened (chk : ChksumInterface κ) (fuel : Nat) (fd : Int) (bufferLength : Nat) (startOffset : Int) (dataLength : Nat) :
    Gfal σ ChkOutcome := do
  let sought ← gfal2Lseek mapPluginIo fd startOffset 0
  if sought.val < 0 then
    return { ret := ⟨(-1, none), sought.err⟩, seek := some sought }
  else
    let last ← chkLoop chk fd (dataLength > 0) fuel (if dataLength > 0 then toSsizeT dataLength else chunkSize) chk.init
    let _closed ← gfal2Close fd
    let ret ← chkResult chk bufferLength last
    return { ret := ret, seek := some sought, reads := last.reads, fed := last.fed }

def gfalPluginFileChkCompute (chk : ChksumInterface κ) (keyFuel fuel : Nat) (url : CString) (bufferLength : Nat)
    (startOffset : Int) (dataLength : Nat) : Gfal σ ChkOutcome := do
  let fd ← gfal2Open keyFuel (some url) 0
  if fd.val < 0 then
    return { ret := ⟨(-1, none), fd.err⟩ }
  else
    chkOpened chk fuel fd.val bufferLength startOffset dataLength

/-! ### The file on disk -/

/-- A file, the place of its descriptor, and how often it was read and closed. -/
structure DiskFile where
  content : List UInt8
  pos : Nat := 0
  reads : Nat := 0
  closed : Nat := 0

/-- What is left from the place of the descriptor on. -/
def DiskFile.rest (file : DiskFile) : List UInt8 := file.content.drop file.pos

/-- How the system answers: a seek may fail, and each read, in its turn, fails or finds at most so many bytes. -/
structure DiskAnswers where
  seekFails : Option Int := none
  read : Nat → Except Int Nat
  closeFails : Option Int := none

/-- The system calls on that file. A read finds at least one byte before the end. -/
def DiskAnswers.system (answers : DiskAnswers) : SystemCalls DiskFile where
  lseek _ offset _ file :=
    match answers.seekFails with
    | some errno => ((-1, errno), file)
    | none => if 0 ≤ offset then ((offset, 0), { file with pos := offset.toNat }) else ((-1, EINVAL), file)
  read _ size file :=
    match answers.read file.reads with
    | .error errno => (((-1, errno), []), { file with reads := file.reads + 1 })
    | .ok count =>
        let bytes := file.rest.take (min (max count 1) size)
        (((bytes.length, 0), bytes), { file with pos := file.pos + bytes.length, reads := file.reads + 1 })
  write _ buff file := ((buff.length, 0), file)
  pread _ _ _ file := (((0, 0), []), file)
  pwrite _ buff _ file := ((buff.length, 0), file)
  close _ file :=
    match answers.closeFails with
    | some errno => ((-1, errno), { file with closed := file.closed + 1 })
    | none => ((0, 0), { file with closed := file.closed + 1 })
  strerror _ := []

/-- The descriptor is open on a file of the file plugin. -/
structure OnDisk (answers : DiskAnswers) (context : Gfal2Context DiskFile) (fd : Int) (fh : GfalFileHandle) (slot : Slot) :
    Prop where
  positive : 0 < fd
  bound : context.fdescs.lookup fd = some fh
  belongs : OpenFile.Belongs context.pluginOpt fh slot
  serves : ServesFiles answers.system (context.pluginOpt.pluginList slot)

/-- The part of the file asked for; no length is all the rest. -/
def askedBytes (content : List UInt8) (startOffset dataLength : Nat) : List UInt8 :=
  if dataLength = 0 then content.drop startOffset else (content.drop startOffset).take dataLength

/-! ### Calls on the descriptor -/

variable {context' : Gfal2Context DiskFile}

section
variable {answers : DiskAnswers} {context : Gfal2Context DiskFile} {fd : Int} {fh : GfalFileHandle} {slot : Slot}

variable (h : OnDisk answers context fd fh slot)
include h

theorem OnDisk.same (hopts : context'.pluginOpt = context.pluginOpt) (hfdescs : context'.fdescs = context.fdescs) :
    OnDisk answers context' fd fh slot where
  positive := h.positive
  bound := by rw [hfdescs, h.bound]
  belongs := by rw [hopts]; exact h.belongs
  serves := by rw [hopts]; exact h.serves

def Gfal2Context.afterScoped (context : Gfal2Context DiskFile) (slot : Slot) (which : PluginCallback) (world : DiskFile) :
    Gfal2Context DiskFile :=
  (context.inScope.afterCall slot which world).afterScope

theorem OnDisk.afterScoped (which : PluginCallback) (world : DiskFile) :
    OnDisk answers (context.afterScoped slot which world) fd fh slot :=
  h.same rfl rfl

theorem OnDisk.lseek (hclear : context.readings.cancel context.cancelReads = false) (offset : Int) :
    gfal2Lseek mapPluginIo fd offset 0 context =
      .ok (⟨toInt32 (answers.system.lseek fh.fdesc offset 0 context.world).1.1,
          (gfalPluginFileLseek answers.system fh offset 0 context.world).1.err⟩,
        context.afterScoped slot .lseekG (answers.system.lseek fh.fdesc offset 0 context.world).2) := by
  have hcall : onIo mapPluginIo fh (-1) (fun io => io.lseekG offset 0) context.inScope =
      .ok ((gfalPluginFileLseek answers.system fh offset 0 context.world).1,
        context.inScope.afterCall slot .lseekG (gfalPluginFileLseek answers.system fh offset 0 context.world).2) := by
    have hopts : context.inScope.pluginOpt = context.pluginOpt := rfl
    rw [(leads_plugin h.belongs).onIo hopts]
    show callPlugin slot .lseekG ((context.pluginOpt.pluginList slot).lseekG.map (· fh offset 0)) context.inScope = _
    rw [h.serves.lseekG]
    rfl
  have hbound : context.inScope.fdescs.lookup fd = some fh := h.bound
  apply scopeCancel_of_body hclear
  rw [if_neg (not_le_of_gt h.positive), onDescriptor_of_bound h.positive.ne' hbound, dispatchLseekG, narrowed,
    Exec.bind_of_ok hcall]
  show Except.ok (_, _) = Except.ok (_, _)
  rw [show (gfalPluginFileLseek answers.system fh offset 0 context.world).1.val =
    toInt32 (answers.system.lseek fh.fdesc offset 0 context.world).1.1 from rfl, toInt32_toInt32]
  rfl

theorem OnDisk.read (hclear : context.readings.cancel context.cancelReads = false) {size : Nat} (hsize : size ≠ 0) :
    gfal2Read fd size context =
      .ok (⟨(toInt32 (answers.system.read fh.fdesc size context.world).1.1.1,
            (answers.system.read fh.fdesc size context.world).1.2),
          (gfalPluginFileRead answers.system fh size context.world).1.err⟩,
        context.afterScoped slot .readG (answers.system.read fh.fdesc size context.world).2) := by
  have hcall : dispatchHandle .readG fh (-1, []) (fun p => p.readG.map (· fh size)) context.inScope =
      .ok ((gfalPluginFileRead answers.system fh size context.world).1,
        context.inScope.afterCall slot .readG (gfalPluginFileRead answers.system fh size context.world).2) :=
    dispatchHandle_of_map _ _ _ (h.belongs context.inScope rfl) (by
      show (context.pluginOpt.pluginList slot).readG.map _ = _
      rw [h.serves.readG]
      rfl)
  have hbound : context.inScope.fdescs.lookup fd = some fh := h.bound
  apply scopeCancel_of_body hclear
  rw [onFile, if_neg (not_le_of_gt h.positive), onDescriptor_of_bound h.positive.ne' hbound, gfalPluginReadG]
  show (if size = 0 then _ else _ : Gfal DiskFile _) context.inScope = _
  rw [if_neg hsize, Exec.bind_of_ok hcall]
  show Except.ok (_, _) = Except.ok (_, _)
  rw [show (gfalPluginFileRead answers.system fh size context.world).1.val.1 =
    toInt32 (answers.system.read fh.fdesc size context.world).1.1.1 from rfl, toInt32_toInt32]
  rfl

/-- What a read leads to: it fails and leaves the descriptor in its place, or finds some of the next bytes. -/
inductive DiskRead (answers : DiskAnswers) (context : Gfal2Context DiskFile) (size : Nat) (ret : Ret (Int × List UInt8))
    (file : DiskFile) : Prop
  | failed (hfails : context.readings.cancel context.cancelReads = true ∨
        ∃ errno, answers.read context.world.reads = .error errno)
      (hval : ret.val = (-1, [])) (herr : ret.err.isSome) (hfile : ∃ n, file = { context.world with reads := n })
  | found {count : Nat} {bytes : List UInt8} (hclear : context.readings.cancel context.cancelReads = false)
      (hread : answers.read context.world.reads = .ok count)
      (hbytes : bytes = context.world.rest.take (min (max count 1) size)) (hval : ret.val = (toInt32 bytes.length, bytes))
      (hfile : file = { context.world with pos := context.world.pos + bytes.length, reads := context.world.reads + 1 })

theorem OnDisk.read_cases {size : Nat} (hsize : size ≠ 0) :
    ∃ ret context', gfal2Read fd size context = .ok (ret, context') ∧ OnDisk answers context' fd fh slot ∧
      DiskRead answers context size ret context'.world := by
  cases hclear : context.readings.cancel context.cancelReads with
  | true =>
      exact ⟨_, _, scopeCancel_of_cancelled hclear, h.same rfl rfl, .failed (.inl hclear) rfl rfl ⟨_, rfl⟩⟩
  | false =>
      refine ⟨_, _, h.read hclear hsize, h.afterScoped _ _, ?_⟩
      cases hread : answers.read context.world.reads with
      | error errno =>
          have hanswer : answers.system.read fh.fdesc size context.world =
              (((-1, errno), []), { context.world with reads := context.world.reads + 1 }) := by
            show (match answers.read context.world.reads with | .error errno => _ | .ok count => _) = _
            rw [hread]
          rw [gfalPluginFileRead, hanswer]
          exact .failed (.inr ⟨errno, hread⟩) rfl rfl ⟨_, rfl⟩
      | ok count =>
          have hanswer : answers.system.read fh.fdesc size context.world =
              (((((context.world.rest.take (min (max count 1) size)).length : Int), 0),
                context.world.rest.take (min (max count 1) size)),
              { context.world with
                pos := context.world.pos + (context.world.rest.take (min (max count 1) size)).length
                reads := context.world.reads + 1 }) := by
            show (match answers.read context.world.reads with | .error errno => _ | .ok count => _) = _
            rw [hread]
          rw [gfalPluginFileRead, hanswer]
          exact .found hclear hread rfl rfl rfl

/-- The close reaches the system, and the descriptor goes if it succeeds. -/
theorem OnDisk.close :
    ∃ ret context', gfal2Close fd context = .ok (ret, context') ∧ context'.world.closed = context.world.closed + 1 ∧
      (answers.closeFails = none → context'.fdescs.lookup fd = none) := by
  have hcall : gfalPluginCloseG (some fh) context = .ok ((gfalPluginFileClose answers.system fh context.world).1,
      context.afterCall slot .closeG (gfalPluginFileClose answers.system fh context.world).2) :=
    dispatchHandle_of_map _ _ _ (h.belongs context rfl) (by
      show (context.pluginOpt.pluginList slot).closeG.map _ = _
      rw [h.serves.closeG]
      rfl)
  have hclosed := closeBound_spec hcall (show (context.afterCall slot .closeG _).fdescs.lookup fd = some fh from h.bound)
  rw [gfal2Close, onFile, if_neg (not_le_of_gt h.positive), onDescriptor_of_bound h.positive.ne' h.bound, hclosed]
  cases hfails : answers.closeFails with
  | none =>
      have hanswer : answers.system.close fh.fdesc context.world =
          ((0, 0), { context.world with closed := context.world.closed + 1 }) := by
        show (match answers.closeFails with | some errno => _ | none => _) = _
        rw [hfails]
      rw [gfalPluginFileClose, hanswer]
      exact ⟨_, _, rfl, rfl, fun _ => AList.lookup_erase _ _⟩
  | some errno =>
      have hanswer : answers.system.close fh.fdesc context.world =
          ((-1, errno), { context.world with closed := context.world.closed + 1 }) := by
        show (match answers.closeFails with | some errno => _ | none => _) = _
        rw [hfails]
      rw [gfalPluginFileClose, hanswer]
      exact ⟨_, _, rfl, rfl, fun h => by cases h⟩

end

/-! ### The loop -/

/-- The bytes of a read are the next ones, and there are none only at the end. -/
theorem taken_eq {rest bytes : List UInt8} {n : Nat} (hbytes : bytes = rest.take n) :
    rest.take bytes.length = bytes ∧ bytes.length = min n rest.length := by
  have hlength : bytes.length = min n rest.length := by rw [hbytes, List.length_take]
  refine ⟨?_, hlength⟩
  rw [hlength, hbytes, ← List.take_eq_take_min]

/-- The loop gave the checksum what was asked for, unless a read failed. -/
structure ChkCovers (chk : ChksumInterface κ) (state : κ) (asked : List UInt8) (file : DiskFile) (last : ChkRead κ)
    (file' : DiskFile) : Prop where
  fed : last.state = last.fed.foldl chk.update state
  failed : last.ret < 0 ↔ ∃ read ∈ last.reads, read.val.1 < 0
  reported : last.ret < 0 → last.err.isSome
  covers : ¬last.ret < 0 → last.fed.flatten = asked
  closed : file'.closed = file.closed

/-- The part that is left to read. -/
def leftBytes (bounded : Bool) (remainBytes : Int) (rest : List UInt8) : List UInt8 :=
  if bounded then rest.take remainBytes.toNat else rest

theorem leftBytes_step (bounded : Bool) {remainBytes : Int} {rest bytes : List UInt8}
    (htake : rest.take bytes.length = bytes) (hle : (bytes.length : Int) ≤ remainBytes) :
    leftBytes bounded remainBytes rest =
      bytes ++ leftBytes bounded (if bounded then remainBytes - bytes.length else remainBytes) (rest.drop bytes.length) := by
  cases bounded with
  | false =>
      show rest = bytes ++ rest.drop bytes.length
      calc rest = rest.take bytes.length ++ rest.drop bytes.length := (List.take_append_drop _ _).symm
        _ = bytes ++ rest.drop bytes.length := by rw [htake]
  | true =>
      have hsplit : remainBytes.toNat = bytes.length + (remainBytes - bytes.length).toNat := by omega
      show rest.take remainBytes.toNat = bytes ++ (rest.drop bytes.length).take (remainBytes - bytes.length).toNat
      rw [hsplit, List.take_add, htake]

section
variable {answers : DiskAnswers} {fd : Int} {fh : GfalFileHandle} {slot : Slot} {chk : ChksumInterface κ} {bounded : Bool}
  {fuel : Nat} {remainBytes : Int} {state : κ} {context middle : Gfal2Context DiskFile} {read : Ret (Int × List UInt8)}
  {bytes asked : List UInt8} {file file' : DiskFile}

/-- A pass whose read fails is the last. -/
theorem chkLoop_of_failed (hread : gfal2Read fd (toSizeT (min chunkSize remainBytes)) context = .ok (read, middle))
    (hval : read.val = (-1, [])) :
    chkLoop chk fd bounded (fuel + 1) remainBytes state context = .ok (⟨-1, read.err, state, [read], []⟩, middle) := by
  rw [chkLoop, Exec.bind_of_ok hread, hval]
  rfl

/-- A pass that found bytes is the last at the end of the file, and where nothing remains by its count. -/
theorem chkLoop_of_found (hread : gfal2Read fd (toSizeT (min chunkSize remainBytes)) context = .ok (read, middle))
    (hval : read.val = (toInt32 bytes.length, bytes)) (hlength : bytes.length ≤ 2 ^ 21) :
    chkLoop chk fd bounded (fuel + 1) remainBytes state context =
      (if bytes = [] then return ⟨0, read.err, state, [read], []⟩
      else if (if bounded then toSsizeT (remainBytes - bytes.length) else remainBytes) > 0 then do
        let last ← chkLoop chk fd bounded fuel (if bounded then toSsizeT (remainBytes - bytes.length) else remainBytes)
          (chk.update state bytes)
        return { last with reads := read :: last.reads, fed := bytes :: last.fed }
      else return ⟨bytes.length, read.err, chk.update state bytes, [read], [bytes]⟩ : Gfal DiskFile (ChkRead κ)) middle := by
  have hcount : bytes.length < 2 ^ 31 := by omega
  have hret : read.val.1 = bytes.length := by rw [hval, toInt32_of_lt hcount]
  have hfits : ¬(read.val.2.length : Int) > chunkSize := by
    unfold chunkSize
    rw [hval]
    show ¬(bytes.length : Int) > 2 ^ 21
    omega
  have hfed : read.val.2.take read.val.1.toNat = bytes := by
    rw [hret, hval, Int.toNat_natCast, List.take_length]
  rw [chkLoop, Exec.bind_of_ok hread]
  dsimp only
  rw [if_neg hfits, hfed, hret]
  by_cases hempty : bytes = []
  · subst hempty
    rfl
  · have hpos := List.length_pos_of_ne_nil hempty
    rw [if_neg hempty, if_pos (by omega)]

theorem ChkCovers.of_failed (hval : read.val = (-1, [])) (herr : read.err.isSome) (hclosed : file'.closed = file.closed) :
    ChkCovers chk state asked file ⟨-1, read.err, state, [read], []⟩ file' where
  fed := rfl
  failed := iff_of_true (by show (-1 : Int) < 0; omega) ⟨read, List.mem_singleton_self _, by rw [hval]; omega⟩
  reported _ := herr
  covers h := absurd (show (-1 : Int) < 0 by omega) h
  closed := hclosed

/-- The last pass, after a read that did not fail. -/
theorem ChkCovers.of_last {fed : List (List UInt8)} {state' : κ} {ret : Int} (hstate : state' = fed.foldl chk.update state)
    (hval : 0 ≤ read.val.1) (hret : 0 ≤ ret) (hfed : fed.flatten = asked) (hclosed : file'.closed = file.closed) :
    ChkCovers chk state asked file ⟨ret, read.err, state', [read], fed⟩ file' where
  fed := hstate
  failed := by
    refine iff_of_false (not_lt_of_ge hret) ?_
    rintro ⟨other, hmem, hneg⟩
    rw [List.mem_singleton.mp hmem] at hneg
    omega
  reported h := absurd h (not_lt_of_ge hret)
  covers _ := hfed
  closed := hclosed

/-- A pass, and the passes behind it. -/
theorem ChkCovers.of_more {last : ChkRead κ} {rest : List UInt8} {file₁ : DiskFile} (hval : 0 ≤ read.val.1)
    (h : ChkCovers chk (chk.update state bytes) rest file₁ last file') (hasked : asked = bytes ++ rest)
    (hclosed : file₁.closed = file.closed) :
    ChkCovers chk state asked file { last with reads := read :: last.reads, fed := bytes :: last.fed } file' where
  fed := h.fed
  failed := by
    rw [h.failed, List.exists_mem_cons_iff, or_iff_right (not_lt_of_ge hval)]
  reported := h.reported
  covers hret := by rw [List.flatten_cons, h.covers hret, hasked]
  closed := h.closed.trans hclosed

/-- The loop, as long as the count of what remains is positive. -/
theorem chkLoop_spec (chk : ChksumInterface κ) (bounded : Bool) (fuel : Nat) (state : κ)
    (h : OnDisk answers context fd fh slot) (hpos : 0 < remainBytes) (hlt : remainBytes < 2 ^ 63)
    (hfuel : context.world.rest.length < fuel) :
    ∃ last context', chkLoop chk fd bounded fuel remainBytes state context = .ok (last, context') ∧
      OnDisk answers context' fd fh slot ∧
      ChkCovers chk state (leftBytes bounded remainBytes context.world.rest) context.world last context'.world := by
  induction fuel generalizing remainBytes state context with
  | zero => exact absurd hfuel (Nat.not_lt_zero _)
  | succ fuel ih =>
      obtain ⟨size, hsize, hsizeLe, hsizePos⟩ : ∃ size : Nat, toSizeT (min chunkSize remainBytes) = size ∧
          (size : Int) = min chunkSize remainBytes ∧ size ≠ 0 := by
        refine ⟨_, rfl, ?_, ?_⟩
        · unfold toSizeT chunkSize
          omega
        · unfold toSizeT chunkSize
          omega
      obtain ⟨read, middle, hread, hmiddle, hcases⟩ := h.read_cases hsizePos
      rw [← hsize] at hread
      cases hcases with
      | failed hfails hval herr hfile =>
          obtain ⟨n, hfile⟩ := hfile
          exact ⟨_, middle, chkLoop_of_failed hread hval, hmiddle, .of_failed hval herr (by rw [hfile])⟩
      | @found count bytes hclear hscript hbytes hval hfile =>
          obtain ⟨htake, hlength⟩ := taken_eq hbytes
          have hshort : (bytes.length : Int) ≤ 2 ^ 21 ∧ (bytes.length : Int) ≤ remainBytes := by
            unfold chunkSize at hsizeLe
            omega
          have hret : 0 ≤ read.val.1 := by
            rw [hval, toInt32_of_lt (show bytes.length < 2 ^ 31 by omega)]
            omega
          have hclosed : middle.world.closed = context.world.closed := by rw [hfile]
          rw [chkLoop_of_found hread hval (by omega)]
          by_cases hempty : bytes = []
          · -- the read that finds the end of the file
            have hrest : context.world.rest = [] := by
              rw [hempty, List.length_nil] at hlength
              exact List.eq_nil_of_length_eq_zero (by omega)
            rw [if_pos hempty]
            refine ⟨_, middle, rfl, hmiddle, .of_last rfl hret le_rfl ?_ hclosed⟩
            rw [leftBytes, hrest]
            split
            · rw [List.take_nil]
              rfl
            · rfl
          · rw [if_neg hempty]
            have hnext : middle.world.rest = context.world.rest.drop bytes.length := by
              rw [hfile]
              exact (List.drop_drop ..).symm
            have hleft : (if bounded then toSsizeT (remainBytes - bytes.length) else remainBytes) =
                if bounded then remainBytes - bytes.length else remainBytes := by
              rw [toSsizeT, Int.bmod_eq_of_le (by omega) (by omega)]
            rw [hleft]
            by_cases hmore : (if bounded then remainBytes - bytes.length else remainBytes) > 0
            · obtain ⟨last, context', hrun, hdisk, hcovers⟩ := ih (chk.update state bytes) hmiddle hmore (by split <;> omega) (by
                rw [hnext, List.length_drop]
                have := List.length_pos_of_ne_nil hempty
                omega)
              rw [if_pos hmore, Exec.bind_of_ok hrun]
              refine ⟨_, context', rfl, hdisk, .of_more hret hcovers ?_ hclosed⟩
              rw [hnext]
              exact leftBytes_step bounded htake hshort.2
            · rw [if_neg hmore]
              refine ⟨_, middle, rfl, hmiddle, .of_last rfl hret (Int.natCast_nonneg _) ?_ hclosed⟩
              cases bounded with
              | false => exact absurd hpos hmore
              | true =>
                  have hend : remainBytes.toNat = bytes.length := by
                    have hnone : ¬remainBytes - bytes.length > 0 := hmore
                    omega
                  show bytes ++ [] = context.world.rest.take remainBytes.toNat
                  rw [List.append_nil, hend, htake]

/-! ### A length that is negative as a count of what remains -/

/-- The first read decides: it fails, or finds all that is left in a buffer of 2 MiB, or so much that what remains wraps
around to a positive count. -/
def LongPartCovered (answers : DiskAnswers) (context : Gfal2Context DiskFile) (dataLength : Nat) : Prop :=
  context.readings.cancel context.cancelReads = true ∨ (∃ errno, answers.read context.world.reads = .error errno) ∨
    ∃ count, answers.read context.world.reads = .ok count ∧ min (max count 1) context.world.rest.length ≤ 2 ^ 21 ∧
      (min (max count 1) context.world.rest.length = context.world.rest.length ∨
        dataLength < 2 ^ 63 + min (max count 1) context.world.rest.length)

section
variable {dataLength : Nat}

theorem toSsizeT_eq {n m : Int} (hle : -2 ^ 63 ≤ m) (hlt : m < 2 ^ 63) (hwrap : n = m ∨ n = m + 2 ^ 64 ∨ n = m - 2 ^ 64) :
    toSsizeT n = m := by
  simp only [toSsizeT, Int.bmod]
  omega

theorem toSsizeT_of_long (hlong : 2 ^ 63 ≤ dataLength) (hlength : dataLength < 2 ^ 64) :
    toSsizeT dataLength = dataLength - 2 ^ 64 :=
  toSsizeT_eq (by omega) (by omega) (.inr (.inl (by omega)))

/-- The size of the first read is beyond what any file has. -/
theorem longSize (hlong : 2 ^ 63 ≤ dataLength) (hlength : dataLength < 2 ^ 64) :
    2 ^ 63 ≤ toSizeT (min chunkSize (toSsizeT dataLength)) := by
  rw [toSsizeT_of_long hlong hlength]
  unfold toSizeT chunkSize
  omega

theorem chkLoop_long (h : OnDisk answers context fd fh slot) (hlong : 2 ^ 63 ≤ dataLength) (hlength : dataLength < 2 ^ 64)
    (hfuel : context.world.rest.length < fuel) (hcovered : LongPartCovered answers context dataLength) :
    ∃ last context', chkLoop chk fd true fuel (toSsizeT dataLength) state context = .ok (last, context') ∧
      OnDisk answers context' fd fh slot ∧
      ChkCovers chk state (context.world.rest.take dataLength) context.world last context'.world := by
  obtain ⟨fuel, rfl⟩ : ∃ n, fuel = n + 1 := ⟨fuel - 1, by omega⟩
  have hsize := longSize hlong hlength
  obtain ⟨read, middle, hread, hmiddle, hcases⟩ := h.read_cases (show toSizeT (min chunkSize (toSsizeT dataLength)) ≠ 0 by omega)
  cases hcases with
  | failed hfails hval herr hfile =>
      obtain ⟨n, hfile⟩ := hfile
      exact ⟨_, middle, chkLoop_of_failed hread hval, hmiddle, .of_failed hval herr (by rw [hfile])⟩
  | @found count bytes hclear hscript hbytes hval hfile =>
      obtain ⟨htake, hlen⟩ := taken_eq hbytes
      obtain ⟨hshort, henough⟩ : bytes.length ≤ 2 ^ 21 ∧
          (bytes.length = context.world.rest.length ∨ dataLength < 2 ^ 63 + bytes.length) := by
        obtain hcancel | ⟨errno, herror⟩ | ⟨other, hother, hfew, henough⟩ := hcovered
        · rw [hclear] at hcancel
          cases hcancel
        · rw [hscript] at herror
          cases herror
        · obtain rfl : count = other := Except.ok.inj (hscript.symm.trans hother)
          omega
      have hret : 0 ≤ read.val.1 := by
        rw [hval, toInt32_of_lt (show bytes.length < 2 ^ 31 by omega)]
        omega
      have hclosed : middle.world.closed = context.world.closed := by rw [hfile]
      rw [chkLoop_of_found hread hval hshort, toSsizeT_of_long hlong hlength]
      by_cases hempty : bytes = []
      · rw [if_pos hempty]
        refine ⟨_, middle, rfl, hmiddle, .of_last rfl hret le_rfl ?_ hclosed⟩
        have hnone : context.world.rest.length = 0 := by
          rw [hempty, List.length_nil] at hlen
          omega
        rw [List.eq_nil_of_length_eq_zero hnone, List.take_nil]
        rfl
      · rw [if_neg hempty, if_pos rfl]
        have hbound : (bytes.length : Int) ≤ 2 ^ 21 := by omega
        by_cases hwraps : dataLength < 2 ^ 63 + bytes.length
        · -- the count of what remains is right again
          have hleft : toSsizeT (dataLength - 2 ^ 64 - bytes.length) = dataLength - bytes.length :=
            toSsizeT_eq (by omega) (by omega) (.inr (.inr (by omega)))
          have hnext : middle.world.rest = context.world.rest.drop bytes.length := by
            rw [hfile]
            exact (List.drop_drop ..).symm
          obtain ⟨last, context', hrun, hdisk, hcovers⟩ := chkLoop_spec chk true fuel (chk.update state bytes)
            hmiddle (show 0 < (dataLength : Int) - bytes.length by omega) (by omega) (by
              rw [hnext, List.length_drop]
              have := List.length_pos_of_ne_nil hempty
              omega)
          rw [hleft, if_pos (by omega), Exec.bind_of_ok hrun]
          refine ⟨_, context', rfl, hdisk, .of_more hret hcovers ?_ hclosed⟩
          rw [hnext]
          exact leftBytes_step true htake (show (bytes.length : Int) ≤ dataLength by omega)
        · have hleft : toSsizeT (dataLength - 2 ^ 64 - bytes.length) = dataLength - 2 ^ 64 - bytes.length :=
            toSsizeT_eq (by omega) (by omega) (.inl rfl)
          rw [hleft, if_neg (by omega)]
          refine ⟨_, middle, rfl, hmiddle, .of_last rfl hret (Int.natCast_nonneg _) ?_ hclosed⟩
          have hall : bytes.length = context.world.rest.length := henough.resolve_right hwraps
          rw [List.take_of_length_le (by omega), ← htake, hall, List.take_length, List.flatten_cons, List.flatten_nil,
            List.append_nil]

/-- Otherwise the loop gives the checksum too little, and no read fails. -/
theorem chkLoop_long_short (h : OnDisk answers context fd fh slot) (hlong : 2 ^ 63 ≤ dataLength)
    (hlength : dataLength < 2 ^ 64) (hleft : ¬LongPartCovered answers context dataLength) {last : ChkRead κ}
    (hrun : chkLoop chk fd true fuel (toSsizeT dataLength) state context = .ok (last, context')) :
    (∀ read ∈ last.reads, ¬read.val.1 < 0) ∧ last.fed.flatten ≠ context.world.rest.take dataLength := by
  cases fuel with
  | zero => cases hrun
  | succ fuel =>
      have hsize := longSize hlong hlength
      obtain ⟨read, middle, hread, -, hcases⟩ :=
        h.read_cases (show toSizeT (min chunkSize (toSsizeT dataLength)) ≠ 0 by omega)
      cases hcases with
      | failed hfails => exact absurd (hfails.elim .inl fun h => .inr (.inl h)) hleft
      | @found count bytes hclear hscript hbytes hval hfile =>
          obtain ⟨htake, hlen⟩ := taken_eq hbytes
          by_cases hshort : bytes.length ≤ 2 ^ 21
          · have hsome : ¬(bytes.length = context.world.rest.length ∨ dataLength < 2 ^ 63 + bytes.length) := by
              intro henough
              exact hleft (.inr (.inr ⟨count, hscript, by omega, by omega⟩))
            have hleft : toSsizeT (dataLength - 2 ^ 64 - bytes.length) = dataLength - 2 ^ 64 - bytes.length :=
              toSsizeT_eq (by omega) (by omega) (.inl rfl)
            have hempty : bytes ≠ [] := by
              rintro rfl
              exact hsome (.inl (by rw [List.length_nil] at hlen ⊢; omega))
            rw [chkLoop_of_found hread hval hshort, toSsizeT_of_long hlong hlength, if_neg hempty, if_pos rfl, hleft,
              if_neg (by omega)] at hrun
            obtain ⟨rfl, rfl⟩ := Exec.ok_inj hrun
            constructor
            · intro other hmem
              rw [List.mem_singleton.mp hmem, hval, toInt32_of_lt (show bytes.length < 2 ^ 31 by omega)]
              exact not_lt_of_ge (Int.natCast_nonneg _)
            · intro hall
              have hcount := congrArg List.length hall
              rw [List.flatten_cons, List.flatten_nil, List.append_nil, List.length_take] at hcount
              omega
          · have hfault : chkLoop chk fd true (fuel + 1) (toSsizeT dataLength) state context = .error .arrayBounds := by
              rw [chkLoop, Exec.bind_of_ok hread]
              dsimp only
              rw [if_pos]
              · rfl
              · unfold chunkSize
                rw [hval]
                show (bytes.length : Int) > 2 ^ 21
                omega
            rw [hfault] at hrun
            cases hrun

end

/-! ### The whole call -/

/-- A call on an opened file closes it, fails if the seek or a read did, and else gave the checksum just the bytes asked
for, whose result it returns. -/
structure ComputesPart (chk : ChksumInterface κ) (answers : DiskAnswers) (fd : Int) (bufferLength : Nat) (asked : List UInt8)
    (file : DiskFile) (outcome : ChkOutcome) (context' : Gfal2Context DiskFile) : Prop where
  closed : context'.world.closed = file.closed + 1
  released : answers.closeFails = none → context'.fdescs.lookup fd = none
  failed : (∃ sought ∈ outcome.seek, sought.val < 0) ∨ (∃ read ∈ outcome.reads, read.val.1 < 0) → outcome.ret.val.1 < 0
  covers : (¬∃ sought ∈ outcome.seek, sought.val < 0) → (¬∃ read ∈ outcome.reads, read.val.1 < 0) →
    outcome.fed.flatten = asked ∧
      outcome.ret.val.2 = chk.getResult (outcome.fed.foldl chk.update chk.init) bufferLength

/-- The call ends, and if it can open the file its checksum is that of the part asked for. -/
def ChecksumsPart (chk : ChksumInterface κ) (answers : DiskAnswers) (keyFuel fuel : Nat) (url : CString) (bufferLength : Nat)
    (startOffset : Int) (dataLength : Nat) (fd : Int) (context middle : Gfal2Context DiskFile) : Prop :=
  ∃ outcome context',
    gfalPluginFileChkCompute chk keyFuel fuel url bufferLength startOffset dataLength context = .ok (outcome, context') ∧
      if 0 < fd then
        ComputesPart chk answers fd bufferLength (askedBytes middle.world.content startOffset.toNat dataLength) middle.world
          outcome context'
      else outcome.ret.val.1 < 0

/-- The seek succeeds and is seen to, and a length from 2^63 on does not matter. -/
structure PartCovered (answers : DiskAnswers) (middle : Gfal2Context DiskFile) (slot : Slot) (startOffset : Int)
    (dataLength : Nat) : Prop where
  clear : middle.readings.cancel middle.cancelReads = false
  seeks : answers.seekFails = none
  positive : 0 ≤ startOffset
  narrow : 0 ≤ toInt32 startOffset
  length : dataLength < 2 ^ 63 ∨
    LongPartCovered answers (middle.afterScoped slot .lseekG { middle.world with pos := startOffset.toNat }) dataLength

section
variable {bufferLength dataLength : Nat} {startOffset : Int}

/-- The seek of the call, and the place it leaves the descriptor in. -/
theorem sought_of_covered (h : OnDisk answers middle fd fh slot) (hclear : middle.readings.cancel middle.cancelReads = false)
    (hseeks : answers.seekFails = none) (hpositive : 0 ≤ startOffset) :
    ∃ err, gfal2Lseek mapPluginIo fd startOffset 0 middle = .ok (⟨toInt32 startOffset, err⟩,
      middle.afterScoped slot .lseekG { middle.world with pos := startOffset.toNat }) := by
  have hanswer : answers.system.lseek fh.fdesc startOffset 0 middle.world =
      ((startOffset, 0), { middle.world with pos := startOffset.toNat }) := by
    show (match answers.seekFails with | some errno => _ | none => _) = _
    rw [hseeks]
    exact if_pos hpositive
  rw [h.lseek hclear, hanswer]
  exact ⟨_, rfl⟩

/-- A seek that does not succeed fails, and leaves the descriptor open. -/
theorem sought_of_failed (h : OnDisk answers middle fd fh slot)
    (hfails : ¬(middle.readings.cancel middle.cancelReads = false ∧ answers.seekFails = none ∧ 0 ≤ startOffset)) :
    ∃ err context', gfal2Lseek mapPluginIo fd startOffset 0 middle = .ok (⟨-1, err⟩, context') ∧
      context'.world.closed = middle.world.closed := by
  cases hclear : middle.readings.cancel middle.cancelReads with
  | true => exact ⟨_, _, scopeCancel_of_cancelled hclear, rfl⟩
  | false =>
      have hanswer : ∃ errno, answers.system.lseek fh.fdesc startOffset 0 middle.world = ((-1, errno), middle.world) := by
        cases hseeks : answers.seekFails with
        | some errno =>
            refine ⟨errno, ?_⟩
            show (match answers.seekFails with | some errno => _ | none => _) = _
            rw [hseeks]
        | none =>
            refine ⟨EINVAL, ?_⟩
            show (match answers.seekFails with | some errno => _ | none => _) = _
            rw [hseeks]
            exact if_neg fun hpos => hfails ⟨hclear, hseeks, hpos⟩
      obtain ⟨errno, hanswer⟩ := hanswer
      rw [h.lseek hclear, hanswer, toInt32_neg_one]
      exact ⟨_, _, rfl, rfl⟩

/-- A file that cannot be opened makes the call fail, also one that is opened without a descriptor for it. -/
theorem chkCompute_of_unopened (chk : ChksumInterface κ) {keyFuel : Nat} {url : CString} {opened : Ret Int}
    (hopen : gfal2Open keyFuel (some url) 0 context = .ok (opened, middle)) (hfails : opened.val ≤ 0) :
    ∃ outcome context', gfalPluginFileChkCompute chk keyFuel fuel url bufferLength startOffset dataLength context =
      .ok (outcome, context') ∧ outcome.ret.val.1 < 0 := by
  have hneg : (-1 : Int) < 0 := by omega
  rw [gfalPluginFileChkCompute, Exec.bind_of_ok hopen]
  obtain hnone | hzero := lt_or_eq_of_le hfails
  · rw [if_pos hnone]
    exact ⟨_, _, rfl, hneg⟩
  · rw [if_neg (by omega), chkOpened]
    obtain ⟨err, context₁, hsought⟩ : ∃ err context₁, gfal2Lseek mapPluginIo opened.val startOffset 0 middle =
        .ok (⟨-1, err⟩, context₁) := by
      rw [gfal2Lseek, if_pos hfails]
      cases hclear : middle.readings.cancel middle.cancelReads with
      | true => exact ⟨_, _, scopeCancel_of_cancelled hclear⟩
      | false => exact ⟨_, _, scopeCancel_of_body hclear rfl⟩
    rw [Exec.bind_of_ok hsought, if_pos hneg]
    exact ⟨_, _, rfl, hneg⟩

theorem chkResult_spec (chk : ChksumInterface κ) (bufferLength : Nat) {last : ChkRead κ}
    (hreported : last.ret < 0 → last.err.isSome) (context : Gfal2Context DiskFile) :
    ∃ ret, chkResult chk bufferLength last context = .ok (ret, context) ∧ (last.ret < 0 → ret.val.1 < 0) ∧
      ret.val.2 = chk.getResult last.state bufferLength := by
  have hneg : (-1 : Int) < 0 := by omega
  unfold chkResult
  cases chk.getResult last.state bufferLength with
  | none => exact ⟨_, rfl, fun _ => hneg, rfl⟩
  | some text =>
      by_cases hret : last.ret < 0
      · obtain ⟨e, he⟩ := Option.isSome_iff_exists.mp (hreported hret)
        rw [he]
        dsimp only
        rw [if_pos hret]
        exact ⟨_, rfl, fun _ => hneg, rfl⟩
      · dsimp only
        rw [if_neg hret]
        exact ⟨_, rfl, fun h => absurd h hret, rfl⟩

variable (h : OnDisk answers middle fd fh slot) (hlength : dataLength < 2 ^ 64)
include h hlength

/-- The loop of the call, from the place that was sought. -/
theorem chkLoop_of_covered
    (hfuel : middle.world.content.length < fuel) (hcovered : PartCovered answers middle slot startOffset dataLength) :
    ∃ last context', chkLoop chk fd (dataLength > 0) fuel (if dataLength > 0 then toSsizeT dataLength else chunkSize) state
        (middle.afterScoped slot .lseekG { middle.world with pos := startOffset.toNat }) = .ok (last, context') ∧
      OnDisk answers context' fd fh slot ∧
      ChkCovers chk state (askedBytes middle.world.content startOffset.toNat dataLength)
        { middle.world with pos := startOffset.toNat } last context'.world := by
  have hdisk := h.afterScoped .lseekG { middle.world with pos := startOffset.toNat }
  have hrest : (middle.afterScoped slot .lseekG { middle.world with pos := startOffset.toNat }).world.rest.length < fuel := by
    show (middle.world.content.drop _).length < fuel
    rw [List.length_drop]
    omega
  rw [askedBytes]
  obtain hzero | hsome := Nat.eq_zero_or_pos dataLength
  · rw [if_neg (by omega), if_pos hzero]
    have hbounded : decide (dataLength > 0) = false := decide_eq_false (by omega)
    rw [hbounded]
    exact chkLoop_spec chk false fuel state hdisk (show (0 : Int) < 2 ^ 21 by omega) (show (2 : Int) ^ 21 < 2 ^ 63 by omega) hrest
  · have hbounded : decide (dataLength > 0) = true := decide_eq_true hsome
    rw [if_pos hsome, if_neg (by omega), hbounded]
    obtain hshort | hlong := lt_or_ge dataLength (2 ^ 63)
    · have hsize : toSsizeT dataLength = dataLength := toSsizeT_eq (by omega) (by omega) (.inl rfl)
      rw [hsize]
      exact chkLoop_spec chk true fuel state hdisk (show (0 : Int) < dataLength by omega)
        (show (dataLength : Int) < 2 ^ 63 by omega) hrest
    · exact chkLoop_long hdisk hlong hlength hrest (hcovered.length.resolve_left (not_lt_of_ge hlong))

theorem chkOpened_of_covered
    (hfuel : middle.world.content.length < fuel) (hcovered : PartCovered answers middle slot startOffset dataLength) :
    ∃ outcome context', chkOpened chk fuel fd bufferLength startOffset dataLength middle = .ok (outcome, context') ∧
      ComputesPart chk answers fd bufferLength (askedBytes middle.world.content startOffset.toNat dataLength) middle.world
        outcome context' := by
  obtain ⟨err, hsought⟩ := sought_of_covered h hcovered.clear hcovered.seeks hcovered.positive
  obtain ⟨last, context₁, hloop, hdisk, hcovers⟩ := chkLoop_of_covered h hlength hfuel hcovered
  obtain ⟨closed, context', hclose, hworld, hreleased⟩ := hdisk.close
  obtain ⟨ret, hret, hneg, htext⟩ := chkResult_spec chk bufferLength hcovers.reported context'
  have hseen : ¬∃ sought ∈ some (⟨toInt32 startOffset, err⟩ : Ret Int), sought.val < 0 := by
    rintro ⟨sought, hmem, hsign⟩
    rw [← Option.some.inj hmem] at hsign
    exact absurd hcovered.narrow (not_le_of_gt hsign)
  rw [chkOpened, Exec.bind_of_ok hsought, if_neg (not_lt_of_ge hcovered.narrow), Exec.bind_of_ok hloop,
    Exec.bind_of_ok hclose, Exec.bind_of_ok hret]
  refine ⟨_, context', rfl, ?_, hreleased, ?_, ?_⟩
  · rw [hworld, hcovers.closed]
  · exact fun hfails => hneg (hcovers.failed.mpr (hfails.resolve_left hseen))
  · intro _ hreads
    refine ⟨hcovers.covers fun hsign => hreads (hcovers.failed.mp hsign), ?_⟩
    rw [← hcovers.fed]
    exact htext

theorem covered_of_chkOpened {outcome : ChkOutcome}
    (hrun : chkOpened chk fuel fd bufferLength startOffset dataLength middle = .ok (outcome, context'))
    (hpart : ComputesPart chk answers fd bufferLength (askedBytes middle.world.content startOffset.toNat dataLength)
      middle.world outcome context') : PartCovered answers middle slot startOffset dataLength := by
  have hclosed := hpart.closed
  by_cases hseeks : middle.readings.cancel middle.cancelReads = false ∧ answers.seekFails = none ∧ 0 ≤ startOffset
  · obtain ⟨hclear, hseeks, hpositive⟩ := hseeks
    obtain ⟨err, hsought⟩ := sought_of_covered h hclear hseeks hpositive
    rw [chkOpened, Exec.bind_of_ok hsought] at hrun
    by_cases hnarrow : toInt32 startOffset < 0
    · rw [if_pos hnarrow] at hrun
      obtain ⟨-, rfl⟩ := Exec.ok_inj hrun
      exact absurd hclosed (by show middle.world.closed ≠ middle.world.closed + 1; omega)
    · refine ⟨hclear, hseeks, hpositive, not_lt.mp hnarrow, ?_⟩
      rw [if_neg hnarrow] at hrun
      by_contra hleft
      obtain ⟨hlong, hleft⟩ := not_or.mp hleft
      have hpos : dataLength > 0 := by omega
      rw [if_pos hpos, decide_eq_true hpos] at hrun
      obtain ⟨last, context₁, hloop, hrun⟩ := Exec.bind_eq_ok.mp hrun
      obtain ⟨closed, context₂, -, hrun⟩ := Exec.bind_eq_ok.mp hrun
      obtain ⟨ret, context₃, -, hrun⟩ := Exec.bind_eq_ok.mp hrun
      obtain ⟨rfl, rfl⟩ := Exec.ok_inj hrun
      obtain ⟨hreads, hshort⟩ := chkLoop_long_short (h.afterScoped .lseekG _) (not_lt.mp hlong) hlength hleft hloop
      refine hshort ?_
      have hasked := (hpart.covers ?_ ?_).1
      · rw [askedBytes, if_neg (by omega)] at hasked
        exact hasked
      · rintro ⟨sought, hmem, hsign⟩
        rw [← Option.some.inj hmem] at hsign
        exact hnarrow hsign
      · rintro ⟨read, hmem, hsign⟩
        exact hreads read hmem hsign
  · obtain ⟨err, context₁, hsought, hworld⟩ := sought_of_failed h hseeks
    rw [chkOpened, Exec.bind_of_ok hsought, if_pos (show (-1 : Int) < 0 by omega)] at hrun
    obtain ⟨-, rfl⟩ := Exec.ok_inj hrun
    rw [hworld] at hclosed
    omega

end

end

/-- The checksum covers just the part asked for, with the descriptor closed, if and only if the file cannot be opened, or the
seek succeeds with a result that is not negative as an `int`, and the length is below 2^63 or the first read settles it. -/
theorem checksum_covers_part_iff {answers : DiskAnswers} {context middle : Gfal2Context DiskFile} {fh : GfalFileHandle}
    {slot : Slot} (chk : ChksumInterface κ) {keyFuel fuel : Nat} {url : CString} (bufferLength : Nat) (startOffset : Int)
    {dataLength : Nat} {opened : Ret Int} (hlength : dataLength < 2 ^ 64)
    (hopen : gfal2Open keyFuel (some url) 0 context = .ok (opened, middle))
    (hdisk : 0 < opened.val → OnDisk answers middle opened.val fh slot) (hfuel : middle.world.content.length < fuel) :
    ChecksumsPart chk answers keyFuel fuel url bufferLength startOffset dataLength opened.val context middle ↔
      opened.val ≤ 0 ∨ PartCovered answers middle slot startOffset dataLength := by
  obtain hfails | hopened := le_or_gt opened.val 0
  · refine iff_of_true ?_ (.inl hfails)
    obtain ⟨outcome, context', hrun, hneg⟩ := chkCompute_of_unopened chk hopen hfails
    exact ⟨outcome, context', hrun, by rw [if_neg (not_lt_of_ge hfails)]; exact hneg⟩
  · rw [or_iff_right (not_le_of_gt hopened)]
    have hcompute : gfalPluginFileChkCompute chk keyFuel fuel url bufferLength startOffset dataLength context =
        chkOpened chk fuel opened.val bufferLength startOffset dataLength middle := by
      rw [gfalPluginFileChkCompute, Exec.bind_of_ok hopen, if_neg (by omega)]
    rw [ChecksumsPart, hcompute]
    simp only [if_pos hopened]
    constructor
    · rintro ⟨outcome, context', hrun, hpart⟩
      exact covered_of_chkOpened (hdisk hopened) hlength hrun hpart
    · exact chkOpened_of_covered (hdisk hopened) hlength hfuel

/-- The file plugin on a file of four bytes, of which a read finds two at most. -/
def diskAnswers : DiskAnswers where
  read _ := .ok 2

def diskHandle : GfalFileHandle := ⟨lit "file_plugin", 7, none⟩

def diskPlugin : GfalPluginInterface DiskFile where
  getName := some (lit "file_plugin")
  checkPluginUrl := some fun _ _ _ => ⟨true, none⟩
  openG := some fun _ _ _ file => (⟨some diskHandle, none⟩, file)
  closeG := some (gfalPluginFileClose diskAnswers.system)
  lseekG := some (gfalPluginFileLseek diskAnswers.system)
  readG := some (gfalPluginFileRead diskAnswers.system)
  writeG := some (gfalPluginFileWrite diskAnswers.system)
  preadG := some (gfalPluginFilePread diskAnswers.system)
  pwriteG := some (gfalPluginFilePwrite diskAnswers.system)

def diskOpts : GfalPluginOpts DiskFile := { pluginList := fun _ => diskPlugin, sortedPlugin := [0], pluginNumber := 1 }

def diskContext : Gfal2Context DiskFile where
  pluginOpt := diskOpts
  readings := { rand := fun _ => 1 }
  world := { content := [1, 2, 3, 4] }

/-- The context once the file is open, under descriptor 1. -/
def diskOpened : Gfal2Context DiskFile :=
  { diskContext with
    cancelReads := 1
    randReads := 1
    fdescs := AList.insert 1 diskHandle ∅
    calls := [(0, .openG)] }

theorem open_diskContext : gfal2Open 1 (some (lit "file:///f")) 0 diskContext = .ok (⟨1, none⟩, diskOpened) := rfl

theorem onDisk_diskOpened : OnDisk diskAnswers diskOpened 1 diskHandle 0 where
  positive := by decide
  bound := AList.lookup_insert _
  belongs context hopts := by
    obtain ⟨opts⟩ := context
    cases (show opts = diskOpts from hopts)
    rfl
  serves := ⟨rfl, rfl, rfl, rfl, rfl, rfl⟩

/-- The bytes of a file, as characters, for their checksum. -/
def plainChksum : ChksumInterface CString where
  init := []
  update state bytes := state ++ bytes.map fun byte => Char.ofNat byte.toNat
  getResult state _ := some state

/-- Three bytes from the second one on, in two reads. -/
theorem checksum_covers_part_inner :
    ChecksumsPart plainChksum diskAnswers 1 5 (lit "file:///f") 64 1 3 1 diskContext diskOpened :=
  (checksum_covers_part_iff plainChksum 64 1 (by decide) open_diskContext (fun _ => onDisk_diskOpened) (by decide)).mpr
    (.inr ⟨rfl, rfl, by decide, by decide, .inl (by decide)⟩)

/-- From an offset of 2^31 on the seek succeeds and passes for a failure, and the descriptor stays open. -/
theorem checksum_from_two_gib_fails : ¬∀ (answers : DiskAnswers) (context middle : Gfal2Context DiskFile)
    (fh : GfalFileHandle) (slot : Slot) (keyFuel fuel : Nat) (url : CString) (startOffset : Int) (dataLength : Nat)
    (opened : Ret Int), dataLength < 2 ^ 64 → gfal2Open keyFuel (some url) 0 context = .ok (opened, middle) →
    OnDisk answers middle opened.val fh slot → middle.world.content.length < fuel →
    ChecksumsPart plainChksum answers keyFuel fuel url 64 startOffset dataLength opened.val context middle := by
  intro hall
  obtain ⟨outcome, context', hrun, hpart⟩ := hall diskAnswers diskContext diskOpened diskHandle 0 1 5 (lit "file:///f")
    (2 ^ 31) 0 ⟨1, none⟩ (by decide) open_diskContext onDisk_diskOpened (by decide)
  rw [gfalPluginFileChkCompute, Exec.bind_of_ok open_diskContext, if_neg (by decide)] at hrun
  rw [if_pos (by decide)] at hpart
  have hnarrow := (covered_of_chkOpened onDisk_diskOpened (by decide) hrun hpart).narrow
  revert hnarrow
  decide

end Gfal2
