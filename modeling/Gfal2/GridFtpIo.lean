import Gfal2.Base.Pieces
import Gfal2.Base.Runs
import Gfal2.PositionalIo

/-! Reads and seeks on a file of the GridFTP plugin that is open for reading. As long as it is not sought elsewhere its bytes come
from the GET that it was opened with; after that, and for a positional read, a block of it is got on its own. A block may come in
pieces, and each of them is put to the start of the buffer. -/

namespace Gfal2

open Base

/-- What the callback of a read is called with: the bytes in the buffer, and whether the end is reached. -/
structure Delivery where
  bytes : List UInt8
  eof : Bool
  deriving DecidableEq

/-- The deliveries on the data channel, for a read of so many bytes of the GET of `open`, and for a partial get. -/
structure DataChannel where
  get : Nat → List Delivery
  partialGet : Int → Int → List Delivery

structure GridFtpStreamState where
  offset : Int := 0
  eof : Bool := false
  deriving DecidableEq

structure GridFtpFileDesc where
  openFlags : Nat
  stream : Option GridFtpStreamState
  currentOffset : Int := 0
  deriving DecidableEq

/-- `is_read_only`, where `O_RDONLY` is 0, `O_WRONLY` is 1 and `O_RDWR` is 2. -/
def isReadOnly (openFlags : Nat) : Bool := openFlags &&& 0 ≠ 0 || openFlags &&& (1 ||| 2) = 0

/-- `is_write_only`, where `O_CREAT` is 64. -/
def isWriteOnly (openFlags : Nat) : Bool := openFlags &&& (1 ||| 64) ≠ 0

/-- The descriptor that `GridFTPModule::open` makes. -/
def gridFtpOpen (flag : Nat) : GridFtpFileDesc := ⟨flag, if isReadOnly flag || isWriteOnly flag then some {} else none, 0⟩

/-- `gfal_griftp_stream_read_done_callback`, until it is done. The bytes of a delivery stand at the start of the buffer. -/
def readDoneCallbacks (expectEof : Bool) :
    List Delivery → GridFtpStreamState → List UInt8 → Option (GridFtpStreamState × List UInt8)
  | [], _, _ => none
  | delivery :: deliveries, stream, buffer =>
      let buffer := delivery.bytes ++ buffer.drop delivery.bytes.length
      let stream := ⟨stream.offset + delivery.bytes.length, delivery.eof⟩
      if !expectEof || delivery.eof then some (stream, buffer) else readDoneCallbacks expectEof deliveries stream buffer

/-- `gridftp_read_stream`: the number of bytes, the buffer and the stream. -/
def gridftpReadStream (stream : GridFtpStreamState) (buffer : List UInt8) (expectEof : Bool) (deliveries : List Delivery) :
    Option (Int × List UInt8 × GridFtpStreamState) :=
  if stream.eof then some (0, buffer, stream)
  else (readDoneCallbacks expectEof deliveries stream buffer).map fun after => (after.1.offset - stream.offset, after.2, after.1)

variable (channel : DataChannel)

def gridftpRwInternalPread (buffer : List UInt8) (offset : Int) : Option (Int × List UInt8) :=
  (gridftpReadStream {} buffer true (channel.partialGet offset (offset + buffer.length))).map fun read => (read.1, read.2.1)

namespace GridFtpFileDesc

variable (desc : GridFtpFileDesc)

/-- `is_not_seeked`, with the stream. -/
def notSeeked : Option GridFtpStreamState := desc.stream.filter fun stream => desc.currentOffset = stream.offset

/-- `GridFTPModule::read`. -/
def read (buffer : List UInt8) : Option ((Int × List UInt8) × GridFtpFileDesc) :=
  match desc.notSeeked.filter fun _ => isReadOnly desc.openFlags with
  | some stream =>
      (gridftpReadStream stream buffer false (channel.get buffer.length)).map fun read =>
        ((read.1, read.2.1), { desc with stream := some read.2.2, currentOffset := desc.currentOffset + read.1 })
  | none =>
      (gridftpRwInternalPread channel buffer desc.currentOffset).map fun read =>
        (read, { desc with currentOffset := desc.currentOffset + read.1 })

def pread (_ : GridFtpFileDesc) (buffer : List UInt8) (offset : Int) : Option (Int × List UInt8) :=
  gridftpRwInternalPread channel buffer offset

def invalidWhence : GError := ⟨lit "GridFTPModule::lseek", EINVAL, lit "Invalid whence"⟩

/-- `GridFTPModule::lseek`, where a GET that is aborted ends as one that is cancelled. -/
def lseek (offset whence : Int) : Ret Int × GridFtpFileDesc :=
  match (if whence = 0 then some offset else if whence = 1 then some (desc.currentOffset + offset) else none) with
  | none => (⟨-1, some invalidWhence⟩, desc)
  | some newOffset =>
      if newOffset = desc.currentOffset then (⟨desc.currentOffset, none⟩, desc)
      else (⟨newOffset, none⟩, { desc with stream := none, currentOffset := newOffset })

end GridFtpFileDesc

/-- A call on the file. Each read has a data channel of its own. -/
inductive GridFtpIoCall where
  | read (buffer : List UInt8) (channel : DataChannel)
  | pread (buffer : List UInt8) (offset : Int) (channel : DataChannel)
  | lseek (offset whence : Int)

/-- The descriptor after a call that returns. -/
def GridFtpIoCall.step : GridFtpIoCall → GridFtpFileDesc → Option GridFtpFileDesc
  | .read buffer channel, desc => (desc.read channel buffer).map fun read => read.2
  | .pread buffer offset channel, desc => (desc.pread channel buffer offset).map fun _ => desc
  | .lseek offset whence, desc => some (desc.lseek offset whence).2

/-! ### The contract -/

section Contract

variable (content : List UInt8)

/-- A read of the GET gets bytes that are next, and all of them at the end of the file; it gets none only at the end or if none
are asked for. -/
structure Streams (offset : Int) (count : Nat) (delivery : Delivery) : Prop where
  next : delivery.bytes = (content.drop offset.toNat).take delivery.bytes.length
  fits : delivery.bytes.length ≤ count
  progress : delivery.bytes = [] → count = 0 ∨ content.length ≤ offset.toNat
  last : delivery.eof = true → content.length ≤ offset.toNat + delivery.bytes.length

/-- A block of the file is delivered in pieces, one after the other. The last one comes with the end. -/
structure DeliversBlock (offset : Int) (count : Nat) (deliveries : List Delivery) : Prop where
  start : 0 ≤ offset
  bytes : deliveries.flatMap Delivery.bytes = (content.drop offset.toNat).take count
  ends : ∃ front last, deliveries = front ++ [last] ∧ last.eof = true ∧ ∀ delivery ∈ front, delivery.eof = false

/-- A seek is from the start or from the current place, and what is asked of the data channel is delivered. -/
def GridFtpIoCall.Served : GridFtpIoCall → GridFtpFileDesc → Prop
  | .read buffer channel, desc =>
      match desc.stream with
      | some stream => stream.eof = false → ∃ delivery deliveries, channel.get buffer.length = delivery :: deliveries ∧
          Streams content desc.currentOffset buffer.length delivery
      | none => DeliversBlock content desc.currentOffset buffer.length
          (channel.partialGet desc.currentOffset (desc.currentOffset + buffer.length))
  | .pread buffer offset channel, _ =>
      DeliversBlock content offset buffer.length (channel.partialGet offset (offset + buffer.length))
  | .lseek _ whence, _ => whence = 0 ∨ whence = 1

/-- So many bytes of the file at an offset stand at the start of the buffer. There are none only at the end, or if none are asked
for. -/
structure ReadsAt (offset : Int) (buffer : List UInt8) (read : Int × List UInt8) (size : Nat) : Prop where
  ret : read.1 = size
  fits : size ≤ buffer.length
  there : size ≤ content.length - offset.toNat
  bytes : read.2.take size = FlatFile.bytesAt ⟨content, 0⟩ size offset.toNat
  progress : size = 0 → buffer.length = 0 ∨ content.length ≤ offset.toNat

/-- The call does what it does on a flat file, whatever stood in its buffer. A read may be short. -/
def GridFtpIoCall.OnFlatFile : GridFtpIoCall → GridFtpFileDesc → Prop
  | .read buffer channel, desc => ∀ memory : List UInt8, memory.length = buffer.length → ∃ result desc' size,
      desc.read channel memory = some (result, desc') ∧ ReadsAt content desc.currentOffset memory result size ∧
        desc'.currentOffset = desc.currentOffset + size
  | .pread buffer offset channel, desc => ∀ memory : List UInt8, memory.length = buffer.length → ∃ result size,
      desc.pread channel memory offset = some result ∧ ReadsAt content offset memory result size
  | .lseek offset whence, desc =>
      let sought := FlatFile.lseek ⟨content, desc.currentOffset.toNat⟩ offset whence
      ((desc.lseek offset whence).1.err = none ↔ sought.1.err = none) ∧
        (sought.1.err = none → (desc.lseek offset whence).1.val = sought.1.val) ∧
        (desc.lseek offset whence).2.currentOffset = sought.2.pos

/-- At most one of the deliveries has bytes. -/
def Undivided (deliveries : List Delivery) : Prop := (filled (deliveries.map Delivery.bytes)).length ≤ 1

/-- A seek does not lead before the start, and a block comes in one piece. -/
def GridFtpIoCall.Whole : GridFtpIoCall → GridFtpFileDesc → Prop
  | .read buffer channel, desc =>
      desc.stream = none → Undivided (channel.partialGet desc.currentOffset (desc.currentOffset + buffer.length))
  | .pread buffer offset channel, _ => Undivided (channel.partialGet offset (offset + buffer.length))
  | .lseek offset whence, desc => 0 ≤ if whence = 0 then offset else desc.currentOffset + offset

end Contract

/-! ### A block -/

section Block

variable {content : List UInt8} {offset : Int} {buffer memory : List UInt8} {deliveries : List Delivery}

/-- The deliveries up to the end stand one over the other. -/
theorem readDoneCallbacks_ends {front : List Delivery} {last : Delivery} (hfront : ∀ delivery ∈ front, delivery.eof = false)
    (hlast : last.eof = true) (stream : GridFtpStreamState) (memory : List UInt8) :
    readDoneCallbacks true (front ++ [last]) stream memory =
      some (⟨stream.offset + ((front ++ [last]).flatMap Delivery.bytes).length, true⟩,
        overlaid memory ((front ++ [last]).map Delivery.bytes)) := by
  induction front generalizing stream memory with
  | nil =>
      simp [readDoneCallbacks, overlaid, hlast]
  | cons delivery front ih =>
      obtain ⟨hdelivery, hrest⟩ := List.forall_mem_cons.mp hfront
      rw [List.cons_append, readDoneCallbacks]
      simp only [hdelivery, Bool.not_true, Bool.or_false, Bool.false_eq_true, if_false]
      rw [ih hrest, List.map_cons, overlaid, List.flatMap_cons, List.length_append]
      simp [Int.add_assoc]

/-- A block that is delivered is read whole, one piece over the other. -/
theorem gridftpRwInternalPread_eq {channel : DataChannel}
    (h : DeliversBlock content offset memory.length (channel.partialGet offset (offset + memory.length))) :
    gridftpRwInternalPread channel memory offset = some (↑((content.drop offset.toNat).take memory.length).length,
      overlaid memory ((channel.partialGet offset (offset + memory.length)).map Delivery.bytes)) := by
  obtain ⟨hstart, hbytes, front, last, hsplit, hlast, hfront⟩ := h
  unfold gridftpRwInternalPread gridftpReadStream
  rw [hsplit] at hbytes ⊢
  simp only [Bool.false_eq_true, if_false, readDoneCallbacks_ends hfront hlast, hbytes, Option.map_some]
  simp

/-- What is read of a block is on the file where all of it stands at the start of the buffer. -/
theorem readsAt_block_iff {read : Int × List UInt8} (h : read.1 = ((content.drop offset.toNat).take buffer.length).length) :
    (∃ size, ReadsAt content offset buffer read size) ↔
      read.2.take ((content.drop offset.toNat).take buffer.length).length = (content.drop offset.toNat).take buffer.length := by
  have hlength : ((content.drop offset.toNat).take buffer.length).length = min buffer.length (content.length - offset.toNat) := by
    rw [List.length_take, List.length_drop]
  have hblock : (content.drop offset.toNat).take buffer.length =
      (content.drop offset.toNat).take (min buffer.length (content.length - offset.toNat)) := by
    rw [List.take_eq_take_iff, List.length_drop]
    omega
  rw [hlength] at h ⊢
  constructor
  · rintro ⟨size, hreads⟩
    have hsize : size = min buffer.length (content.length - offset.toNat) := by
      have hret := hreads.ret
      omega
    rw [hblock, ← hsize]
    exact hreads.bytes
  · intro hbytes
    exact ⟨_, h, Nat.min_le_left _ _, Nat.min_le_right _ _, hbytes.trans hblock, fun hnone => by omega⟩

/-- What is read of a block is on the file, whatever stood in the buffer, just where the block comes in one piece. -/
theorem readsAt_iff {channel : DataChannel}
    (h : DeliversBlock content offset buffer.length (channel.partialGet offset (offset + buffer.length))) :
    (∀ memory : List UInt8, memory.length = buffer.length → ∃ result size,
        gridftpRwInternalPread channel memory offset = some result ∧ ReadsAt content offset memory result size) ↔
      Undivided (channel.partialGet offset (offset + buffer.length)) := by
  have hbytes : Nontrivial UInt8 := ⟨0, 1, by decide⟩
  have hflat : ((channel.partialGet offset (offset + buffer.length)).map Delivery.bytes).flatten =
      (content.drop offset.toNat).take buffer.length := h.bytes
  have hfits : ((channel.partialGet offset (offset + buffer.length)).map Delivery.bytes).flatten.length ≤ buffer.length := by
    rw [hflat]
    exact List.length_take_le _ _
  rw [Undivided, ← overlaid_take_iff hfits, hflat]
  refine forall_congr' fun memory => forall_congr' fun hmemory => ?_
  rw [← hmemory] at h ⊢
  rw [gridftpRwInternalPread_eq h]
  constructor
  · rintro ⟨result, size, hresult, hreads⟩
    cases hresult
    exact (readsAt_block_iff rfl).mp ⟨size, hreads⟩
  · intro hwhole
    obtain ⟨size, hreads⟩ := (@readsAt_block_iff content offset memory (_, _) rfl).mpr hwhole
    exact ⟨_, size, rfl, hreads⟩

end Block

/-! ### One call -/

/-- The GET of a descriptor is at its place, which is not before the start. -/
structure AtPlace (content : List UInt8) (desc : GridFtpFileDesc) : Prop where
  readOnly : isReadOnly desc.openFlags = true
  start : 0 ≤ desc.currentOffset
  flow : ∀ stream ∈ desc.stream, stream.offset = desc.currentOffset ∧
    (stream.eof = true → content.length ≤ desc.currentOffset.toNat)

section Call

variable {content : List UInt8} {desc : GridFtpFileDesc} {buffer memory : List UInt8} {channel : DataChannel}

theorem AtPlace.read_of_stream {stream : GridFtpStreamState} (h : AtPlace content desc) (hstream : desc.stream = some stream) :
    desc.read channel memory = (gridftpReadStream stream memory false (channel.get memory.length)).map fun read =>
      ((read.1, read.2.1), { desc with stream := some read.2.2, currentOffset := desc.currentOffset + read.1 }) := by
  have hplace := (h.flow stream hstream).1
  unfold GridFtpFileDesc.read GridFtpFileDesc.notSeeked
  rw [hstream, Option.filter_some, if_pos (by simpa using hplace.symm), Option.filter_some, if_pos h.readOnly]

theorem read_of_noStream (hstream : desc.stream = none) :
    desc.read channel memory = (gridftpRwInternalPread channel memory desc.currentOffset).map fun read =>
      (read, { desc with currentOffset := desc.currentOffset + read.1 }) := by
  unfold GridFtpFileDesc.read GridFtpFileDesc.notSeeked
  rw [hstream]
  rfl

/-- A read of the GET is one on the file, and leaves the GET at its place. -/
theorem AtPlace.read_stream {stream : GridFtpStreamState} (h : AtPlace content desc) (hstream : desc.stream = some stream)
    (hserved : stream.eof = false → ∃ delivery deliveries, channel.get buffer.length = delivery :: deliveries ∧
      Streams content desc.currentOffset buffer.length delivery) (hmemory : memory.length = buffer.length) :
    ∃ result desc' size, desc.read channel memory = some (result, desc') ∧
      ReadsAt content desc.currentOffset memory result size ∧ desc'.currentOffset = desc.currentOffset + size ∧
        AtPlace content desc' := by
  obtain ⟨hplace, hend⟩ := h.flow stream hstream
  have hstart := h.start
  rw [h.read_of_stream hstream, gridftpReadStream, hmemory]
  cases heof : stream.eof with
  | true =>
      have hzero : desc.currentOffset + 0 = desc.currentOffset := Int.add_zero _
      refine ⟨_, _, 0, rfl, ⟨rfl, Nat.zero_le _, Nat.zero_le _, rfl, fun _ => .inr (hend heof)⟩, rfl, h.readOnly, ?_, ?_⟩
      · exact hzero.symm ▸ hstart
      · rintro _ ⟨⟩
        exact ⟨hplace.trans hzero.symm, fun _ => hzero.symm ▸ hend heof⟩
  | false =>
      obtain ⟨delivery, deliveries, hget, hnext, hfits, hprogress, hlast⟩ := hserved heof
      have hthere : delivery.bytes.length ≤ content.length - desc.currentOffset.toNat := by
        have hlength := congrArg List.length hnext
        rw [List.length_take, List.length_drop] at hlength
        omega
      have hmoved : stream.offset + delivery.bytes.length - stream.offset = delivery.bytes.length := by omega
      have hplaced : (desc.currentOffset + delivery.bytes.length).toNat = desc.currentOffset.toNat + delivery.bytes.length := by
        omega
      rw [hget]
      refine ⟨_, _, delivery.bytes.length, rfl, ⟨hmoved, hmemory ▸ hfits, hthere, ?_, ?_⟩, ?_, h.readOnly, ?_, ?_⟩
      · exact (List.take_left' rfl).trans hnext
      · intro hnone
        exact hmemory ▸ hprogress (List.length_eq_zero_iff.mp hnone)
      · exact congrArg (desc.currentOffset + ·) hmoved
      · dsimp only
        omega
      · rintro _ ⟨⟩
        dsimp only
        rw [hmoved, hplaced, hplace]
        exact ⟨rfl, hlast⟩

/-- A read without the GET is one of a block at the place. -/
theorem read_block_iff (hstream : desc.stream = none) (hserved : DeliversBlock content desc.currentOffset buffer.length
      (channel.partialGet desc.currentOffset (desc.currentOffset + buffer.length))) :
    (GridFtpIoCall.read buffer channel).OnFlatFile content desc ↔
      Undivided (channel.partialGet desc.currentOffset (desc.currentOffset + buffer.length)) := by
  rw [← readsAt_iff hserved]
  refine forall_congr' fun memory => forall_congr' fun hmemory => ?_
  rw [read_of_noStream hstream]
  constructor
  · rintro ⟨result, desc', size, hread, hreads, -⟩
    obtain ⟨read, hblock, hresult⟩ := Option.map_eq_some_iff.mp hread
    cases hresult
    exact ⟨_, size, hblock, hreads⟩
  · rintro ⟨result, size, hread, hreads⟩
    refine ⟨result, _, size, by rw [hread]; rfl, hreads, ?_⟩
    exact congrArg (desc.currentOffset + ·) hreads.ret

/-- Where a seek from the start or from the current place leads. -/
def seekTarget (desc : GridFtpFileDesc) (offset whence : Int) : Int := if whence = 0 then offset else desc.currentOffset + offset

theorem lseek_eq {whence : Int} (hwhence : whence = 0 ∨ whence = 1) (offset : Int) :
    desc.lseek offset whence = (⟨seekTarget desc offset whence, none⟩,
      if seekTarget desc offset whence = desc.currentOffset then desc
      else { desc with stream := none, currentOffset := seekTarget desc offset whence }) := by
  have htarget : (if whence = 0 then some offset else if whence = 1 then some (desc.currentOffset + offset) else none) =
      some (seekTarget desc offset whence) := by
    unfold seekTarget
    rcases hwhence with rfl | rfl <;> rfl
  unfold GridFtpFileDesc.lseek
  rw [htarget]
  dsimp only
  split
  · rename_i hsame
    rw [hsame]
  · rfl

theorem lseek_currentOffset {whence : Int} (hwhence : whence = 0 ∨ whence = 1) (offset : Int) :
    (desc.lseek offset whence).2.currentOffset = seekTarget desc offset whence := by
  rw [lseek_eq hwhence]
  dsimp only
  split
  · rename_i hsame
    exact hsame.symm
  · rfl

/-- A seek is one on the file just where it does not lead before the start. -/
theorem AtPlace.lseek_iff (h : AtPlace content desc) {whence : Int} (hwhence : whence = 0 ∨ whence = 1) (offset : Int) :
    (GridFtpIoCall.lseek offset whence).OnFlatFile content desc ↔ (GridFtpIoCall.lseek offset whence).Whole desc := by
  have hplace : ((desc.currentOffset.toNat : Nat) : Int) = desc.currentOffset := Int.toNat_of_nonneg h.start
  have htarget : FlatFile.target ⟨content, desc.currentOffset.toNat⟩ offset whence = some (seekTarget desc offset whence) := by
    unfold FlatFile.target seekTarget
    dsimp only
    rw [hplace]
    rcases hwhence with rfl | rfl <;> rfl
  change _ ↔ 0 ≤ seekTarget desc offset whence
  unfold GridFtpIoCall.OnFlatFile FlatFile.lseek
  dsimp only
  rw [htarget, lseek_currentOffset hwhence, lseek_eq hwhence]
  dsimp only
  by_cases hstart : 0 ≤ seekTarget desc offset whence
  · rw [if_pos hstart]
    exact iff_of_true ⟨Iff.rfl, fun _ => rfl, (Int.toNat_of_nonneg hstart).symm⟩ hstart
  · rw [if_neg hstart]
    refine iff_of_false ?_ hstart
    rintro ⟨hnone, -⟩
    cases hnone.mp rfl

/-- A call that is served is one on the file just where it is whole. -/
theorem AtPlace.onFlatFile_iff (h : AtPlace content desc) {call : GridFtpIoCall} (hserved : call.Served content desc) :
    call.OnFlatFile content desc ↔ call.Whole desc := by
  cases call with
  | read buffer channel =>
      cases hstream : desc.stream with
      | none =>
          simp only [GridFtpIoCall.Served, hstream] at hserved
          rw [read_block_iff hstream hserved]
          exact ⟨fun hone _ => hone, fun hone => hone hstream⟩
      | some stream =>
          simp only [GridFtpIoCall.Served, hstream] at hserved
          refine iff_of_true (fun memory hmemory => ?_) fun hnone => ?_
          · obtain ⟨result, desc', size, hread, hreads, hplace, -⟩ := h.read_stream hstream hserved hmemory
            exact ⟨result, desc', size, hread, hreads, hplace⟩
          · rw [hstream] at hnone
            cases hnone
  | pread buffer offset channel => exact readsAt_iff hserved
  | lseek offset whence => exact h.lseek_iff hserved offset

/-- A call that is served and is one on the file leaves the GET at its place. -/
theorem AtPlace.step (h : AtPlace content desc) {call : GridFtpIoCall} (hserved : call.Served content desc)
    (hfile : call.OnFlatFile content desc) {desc' : GridFtpFileDesc} (hstep : call.step desc = some desc') :
    AtPlace content desc' := by
  cases call with
  | read buffer channel =>
      obtain ⟨read, hread, rfl⟩ := Option.map_eq_some_iff.mp hstep
      cases hstream : desc.stream with
      | none =>
          obtain ⟨result, after, size, hresult, -, hplace⟩ := hfile buffer rfl
          have hstart := h.start
          rw [hread] at hresult
          cases hresult
          rw [read_of_noStream hstream] at hread
          obtain ⟨block, -, rfl, rfl⟩ := Option.map_eq_some_iff.mp hread
          refine ⟨h.readOnly, ?_, fun stream hmem => ?_⟩
          · rw [hplace]
            omega
          · rw [hstream] at hmem
            cases hmem
      | some stream =>
          simp only [GridFtpIoCall.Served, hstream] at hserved
          obtain ⟨result, after, size, hresult, -, -, hafter⟩ := @AtPlace.read_stream _ _ _ buffer _ _ h hstream hserved rfl
          rw [hread] at hresult
          cases hresult
          exact hafter
  | pread buffer offset channel =>
      obtain ⟨_, -, rfl⟩ := Option.map_eq_some_iff.mp hstep
      exact h
  | lseek offset whence =>
      cases hstep
      have hstart : 0 ≤ seekTarget desc offset whence := (h.lseek_iff hserved offset).mp hfile
      rw [lseek_eq hserved]
      dsimp only
      split
      · exact h
      · exact ⟨h.readOnly, hstart, fun _ hnone => by cases hnone⟩

end Call

theorem atPlace_open (content : List UInt8) {flag : Nat} (hflag : isReadOnly flag = true) : AtPlace content (gridFtpOpen flag) := by
  refine ⟨hflag, Int.le_refl _, ?_⟩
  unfold gridFtpOpen
  rw [hflag]
  rintro _ ⟨⟩
  exact ⟨rfl, fun heof => by cases heof⟩

abbrev ReadFlags := { flag : Nat // isReadOnly flag = true }

/-- Every call of a run on a file that is open for reading does what it does on a flat file, just where no seek leads before the
start, and no block that is got on its own comes in two pieces that have bytes. -/
theorem gridftp_reads_iff (content : List UInt8) (flag : ReadFlags) (calls : List GridFtpIoCall) (last : GridFtpFileDesc) :
    Run GridFtpIoCall.step (fun call desc => call.Served content desc ∧ call.OnFlatFile content desc) (gridFtpOpen flag) calls
        last ↔
      Run GridFtpIoCall.step (fun call desc => call.Served content desc ∧ call.Whole desc) (gridFtpOpen flag) calls last := by
  refine Run.iff_of_invariant (AtPlace content) ?_ ?_ (atPlace_open content flag.2)
  · intro call desc hplace
    exact and_congr_right fun hserved => hplace.onFlatFile_iff hserved
  · rintro call desc desc' ⟨hserved, hfile⟩ hplace hstep
    exact hplace.step hserved hfile hstep

/-- Each byte of a block in a delivery of its own. -/
def bytewise (content : List UInt8) : DataChannel where
  get _ := []
  partialGet first last := ((content.drop first.toNat).take (last - first).toNat).map (⟨[·], false⟩) ++ [⟨[], true⟩]

/-- Behind the first of the bytes 1, 2 and 3 a read of two bytes puts the 3 over the 2. -/
theorem pieces_overlaid :
    let desc := (GridFtpFileDesc.lseek (gridFtpOpen 0) 1 0).2
    let call : GridFtpIoCall := .read [0, 0] (bytewise [1, 2, 3])
    call.Served [1, 2, 3] desc ∧ (desc.read (bytewise [1, 2, 3]) [0, 0]).map Prod.fst = some (2, [3, 0]) ∧
      ¬call.OnFlatFile [1, 2, 3] desc := by
  refine ⟨⟨by decide, rfl, [⟨[2], false⟩, ⟨[3], false⟩], ⟨[], true⟩, rfl, rfl, by decide⟩, rfl, fun h => ?_⟩
  obtain ⟨result, desc', size, hread, hreads, -⟩ := h [0, 0] rfl
  cases hread
  have hsize : size = 2 := (Int.ofNat_inj.mp hreads.ret).symm
  have hbytes := hreads.bytes
  rw [hsize] at hbytes
  exact absurd hbytes (by decide)

end Gfal2
