import Mathlib.Algebra.GroupWithZero.Nat
import Mathlib.Algebra.Ring.Int.Defs
import Mathlib.Data.Fintype.Basic
import Mathlib.Order.Basic
import Mathlib.Tactic.Common

/-! The stream buffer that the directory readers of the GridFTP plugin read their lines from. A refill hands back its first
character as a signed number, so that the byte 0xff at the start of a chunk is taken for the end of the file. -/

namespace Gfal2

/-- The bytes of one read from the data channel. -/
abbrev Chunk := { bytes : List UInt8 // bytes ≠ [] }

/-- The get area of the buffer, and the chunks that the data channel has still to deliver. -/
structure GridFtpStreamBuffer where
  area : List UInt8
  stream : List Chunk

/-- `traits_type::eof()`. -/
def traitsEof : Int := -1

def toIntType (c : UInt8) : Int := c.toNat

def toCharType (c : Int) : UInt8 := UInt8.ofInt c

/-- A `char`, which is signed, as an `int`. -/
def charToInt (c : UInt8) : Int := c.toInt8.toInt

abbrev lineFeed : UInt8 := 10

namespace GridFtpStreamBuffer

/-- The number of bytes that are not read yet. -/
def left (buffer : GridFtpStreamBuffer) : Nat := buffer.area.length + (buffer.stream.map fun chunk => chunk.1.length).sum

/-- `fetch_more`, with the size of the chunk. -/
def fetchMore (buffer : GridFtpStreamBuffer) : Nat × GridFtpStreamBuffer :=
  match buffer.stream with
  | [] => (0, ⟨[], []⟩)
  | chunk :: stream => (chunk.1.length, ⟨chunk.1, stream⟩)

/-- The buffer that is made on a stream. -/
def make (stream : List Chunk) : GridFtpStreamBuffer := (fetchMore ⟨[], stream⟩).2

def underflow (buffer : GridFtpStreamBuffer) : Int × GridFtpStreamBuffer :=
  let (rsize, buffer) := buffer.fetchMore
  if rsize ≤ 0 then (traitsEof, buffer) else (charToInt (buffer.area.headD 0), buffer)

/-- `sgetc` of a stream buffer. -/
def sgetc (buffer : GridFtpStreamBuffer) : Int × GridFtpStreamBuffer :=
  match buffer.area with
  | c :: _ => (toIntType c, buffer)
  | [] => buffer.underflow

/-- `sbumpc` of a stream buffer with a character in its get area. -/
def sbumpc (buffer : GridFtpStreamBuffer) : GridFtpStreamBuffer := { buffer with area := buffer.area.tail }

theorem left_sgetc_le (buffer : GridFtpStreamBuffer) : buffer.sgetc.2.left ≤ buffer.left := by
  obtain ⟨area, stream⟩ := buffer
  cases area with
  | cons c area => exact Nat.le_refl _
  | nil =>
      cases stream with
      | nil => exact Nat.le_refl _
      | cons chunk stream =>
          obtain ⟨bytes, hbytes⟩ := chunk
          simp [sgetc, underflow, fetchMore, left, hbytes]

/-- A character that is got can be passed over. -/
theorem left_sgetc {buffer : GridFtpStreamBuffer} (h : buffer.sgetc.1 ≠ traitsEof) :
    buffer.sgetc.2.sbumpc.left < buffer.left := by
  obtain ⟨area, stream⟩ := buffer
  cases area with
  | cons c area => simp [sgetc, sbumpc, left]
  | nil =>
      cases stream with
      | nil => exact absurd rfl h
      | cons chunk stream =>
          obtain ⟨bytes, hbytes⟩ := chunk
          obtain ⟨c, bytes, rfl⟩ := List.exists_cons_of_ne_nil hbytes
          simp [sgetc, underflow, fetchMore, sbumpc, left]

/-- The loop of `std::getline`, with whether it has come to a line feed. -/
def getlineLoop (buffer : GridFtpStreamBuffer) (line : List UInt8) : List UInt8 × Bool × GridFtpStreamBuffer :=
  if buffer.sgetc.1 = traitsEof then (line, false, buffer.sgetc.2)
  else if buffer.sgetc.1 = toIntType lineFeed then (line, true, buffer.sgetc.2.sbumpc)
  else getlineLoop buffer.sgetc.2.sbumpc (line ++ [toCharType buffer.sgetc.1])
termination_by buffer.left
decreasing_by exact left_sgetc ‹_›

/-- `std::getline` on a stream that is made anew. It fails if it extracts nothing. -/
def getline (buffer : GridFtpStreamBuffer) : Option (List UInt8 × GridFtpStreamBuffer) :=
  let (line, found, buffer) := buffer.getlineLoop []
  if line = [] ∧ found = false then none else some (line, buffer)

/-! ### The loop, by what the buffer holds -/

section Loop

variable {area : List UInt8} {stream : List Chunk} {line : List UInt8}

theorem toCharType_toIntType (c : UInt8) : toCharType (toIntType c) = c := by
  have hfin : ∀ n : Fin 256, toCharType (toIntType (.ofFin n)) = .ofFin n := by decide +kernel
  simpa using hfin c.toFin

theorem toIntType_ne_eof (c : UInt8) : toIntType c ≠ traitsEof := by
  unfold toIntType traitsEof
  omega

theorem toIntType_eq_iff (c d : UInt8) : toIntType c = toIntType d ↔ c = d := by
  unfold toIntType
  rw [Int.ofNat_inj, UInt8.toNat_inj]

/-- The bytes that a `char` takes for the end of the file or for a line feed. -/
theorem charToInt_spec (c : UInt8) :
    (charToInt c = traitsEof ↔ c = 255) ∧ (charToInt c = toIntType lineFeed ↔ c = lineFeed) ∧ toCharType (charToInt c) = c := by
  have hfin : ∀ n : Fin 256, (charToInt (.ofFin n) = traitsEof ↔ UInt8.ofFin n = 255) ∧
      (charToInt (.ofFin n) = toIntType lineFeed ↔ UInt8.ofFin n = lineFeed) ∧
        toCharType (charToInt (.ofFin n)) = .ofFin n := by decide +kernel
  simpa using hfin c.toFin

theorem getlineLoop_end : getlineLoop ⟨[], []⟩ line = (line, false, ⟨[], []⟩) := by
  rw [getlineLoop]
  rfl

theorem getlineLoop_cons (c : UInt8) : getlineLoop ⟨c :: area, stream⟩ line =
    if c = lineFeed then (line, true, ⟨area, stream⟩) else getlineLoop ⟨area, stream⟩ (line ++ [c]) := by
  have hgot : sgetc ⟨c :: area, stream⟩ = (toIntType c, ⟨c :: area, stream⟩) := rfl
  rw [getlineLoop, hgot]
  dsimp only
  rw [if_neg (toIntType_ne_eof c), toCharType_toIntType]
  simp only [toIntType_eq_iff]
  rfl

/-- A chunk that begins with 0xff ends the line, and the others go on with it. -/
theorem getlineLoop_refill (chunk : Chunk) : getlineLoop ⟨[], chunk :: stream⟩ line =
    if chunk.1.head? = some 255 then (line, false, ⟨chunk.1, stream⟩) else getlineLoop ⟨chunk.1, stream⟩ line := by
  obtain ⟨bytes, hbytes⟩ := chunk
  obtain ⟨c, bytes, rfl⟩ := List.exists_cons_of_ne_nil hbytes
  have hgot : sgetc ⟨[], ⟨c :: bytes, hbytes⟩ :: stream⟩ = (charToInt c, ⟨c :: bytes, stream⟩) := by
    simp [sgetc, underflow, fetchMore]
  obtain ⟨heof, hfeed, hchar⟩ := charToInt_spec c
  rw [getlineLoop, hgot]
  dsimp only
  rw [getlineLoop_cons, hchar]
  simp only [heof, hfeed, List.head?_cons, Option.some.injEq]
  rfl

theorem left_getlineLoop_le (buffer : GridFtpStreamBuffer) (line : List UInt8) :
    (buffer.getlineLoop line).2.2.left ≤ buffer.left := by
  induction buffer, line using getlineLoop.induct with
  | case1 buffer line heof =>
      rw [getlineLoop, if_pos heof]
      exact left_sgetc_le buffer
  | case2 buffer line heof hfeed =>
      rw [getlineLoop, if_neg heof, if_pos hfeed]
      exact Nat.le_of_lt (left_sgetc heof)
  | case3 buffer line heof hfeed ih =>
      rw [getlineLoop, if_neg heof, if_neg hfeed]
      exact Nat.le_trans ih (Nat.le_of_lt (left_sgetc heof))

/-- A line that is extracted leaves less to be read. -/
theorem left_getline {buffer buffer' : GridFtpStreamBuffer} (h : buffer.getline = some (line, buffer')) :
    buffer'.left < buffer.left := by
  unfold getline at h
  rw [getlineLoop] at h
  by_cases heof : buffer.sgetc.1 = traitsEof
  · rw [if_pos heof] at h
    simp at h
  · have hlt := left_sgetc heof
    rw [if_neg heof] at h
    by_cases hfeed : buffer.sgetc.1 = toIntType lineFeed
    · rw [if_pos hfeed] at h
      simp only [Bool.true_eq_false, and_false, if_false, Option.some.injEq, Prod.mk.injEq] at h
      rw [← h.2]
      exact hlt
    · have hle := left_getlineLoop_le buffer.sgetc.2.sbumpc ([] ++ [toCharType buffer.sgetc.1])
      rw [if_neg hfeed] at h
      dsimp only at h
      rw [Option.ite_none_left_eq_some, Option.some.injEq, Prod.mk.injEq] at h
      rw [← h.2.2]
      exact Nat.lt_of_le_of_lt hle hlt

end Loop

/-- The lines that are read one after the other, until there is none. -/
def readLines (buffer : GridFtpStreamBuffer) : List (List UInt8) :=
  match _h : buffer.getline with
  | some (line, buffer') => line :: readLines buffer'
  | none => []
termination_by buffer.left
decreasing_by exact left_getline _h

end GridFtpStreamBuffer

open GridFtpStreamBuffer

/-- The whole sequence in one chunk. -/
def oneChunk (chunks : List Chunk) : List Chunk :=
  if h : (chunks.flatMap fun chunk => chunk.1) = [] then [] else [⟨chunks.flatMap fun chunk => chunk.1, h⟩]

/-- The lines do not depend on how the sequence is cut into chunks. -/
def StreamTransparent (chunks : List Chunk) : Prop := readLines (make chunks) = readLines (make (oneChunk chunks))

/-! ### Lines and chunks -/

/-- The lines of a sequence of bytes, of which the first one has begun already. -/
def linesOf (line : List UInt8) : List UInt8 → List (List UInt8)
  | [] => if line = [] then [] else [line]
  | c :: bytes => if c = lineFeed then line :: linesOf [] bytes else linesOf (line ++ [c]) bytes

/-- The lines that are read from a buffer, of which the first one has begun already. -/
def readOn (line : List UInt8) (buffer : GridFtpStreamBuffer) : List (List UInt8) :=
  let got := buffer.getlineLoop line
  if got.1 = [] ∧ got.2.1 = false then [] else got.1 :: readLines got.2.2

theorem readLines_eq (buffer : GridFtpStreamBuffer) : readLines buffer = readOn [] buffer := by
  rw [readLines, readOn]
  split
  · rename_i line buffer' h
    unfold getline at h
    dsimp only at h
    rw [Option.ite_none_left_eq_some, Option.some.injEq, Prod.mk.injEq] at h
    rw [if_neg h.1, h.2.1, h.2.2]
  · rename_i h
    unfold getline at h
    dsimp only at h
    split at h
    · rename_i hnone
      rw [if_pos hnone]
    · cases h

section Lines

variable {line : List UInt8} {area : List UInt8} {stream : List Chunk}

theorem readOn_end : readOn line ⟨[], []⟩ = if line = [] then [] else [line] := by
  have hnone : readLines ⟨[], []⟩ = [] := by
    rw [readLines_eq, readOn, getlineLoop_end]
    rfl
  rw [readOn, getlineLoop_end]
  simp [hnone]

theorem readOn_cons (c : UInt8) : readOn line ⟨c :: area, stream⟩ =
    if c = lineFeed then line :: readOn [] ⟨area, stream⟩ else readOn (line ++ [c]) ⟨area, stream⟩ := by
  rw [readOn, getlineLoop_cons]
  by_cases hc : c = lineFeed
  · simp [hc, readLines_eq]
  · rw [if_neg hc, if_neg hc]
    rfl

theorem readOn_refill (chunk : Chunk) : readOn line ⟨[], chunk :: stream⟩ =
    if chunk.1.head? = some 255 then (if line = [] then [] else line :: readOn [] ⟨chunk.1, stream⟩)
    else readOn line ⟨chunk.1, stream⟩ := by
  rw [readOn, getlineLoop_refill]
  by_cases hc : chunk.1.head? = some 255
  · simp [hc, readLines_eq]
  · rw [if_neg hc, if_neg hc]
    rfl

/-- Where no chunk that comes begins with 0xff, the lines are those of all the bytes. -/
theorem readOn_eq (h : ∀ chunk ∈ stream, chunk.1.head? ≠ some 255) :
    readOn line ⟨area, stream⟩ = linesOf line (area ++ stream.flatMap fun chunk => chunk.1) := by
  induction stream generalizing line area with
  | nil =>
      induction area generalizing line with
      | nil =>
          rw [readOn_end]
          rfl
      | cons c area ih =>
          rw [readOn_cons, ih, ih]
          rfl
  | cons chunk stream ihstream =>
      have hrest : ∀ later ∈ stream, later.1.head? ≠ some 255 := fun later hlater => h later (List.mem_cons_of_mem _ hlater)
      induction area generalizing line with
      | nil =>
          rw [readOn_refill, if_neg (h chunk List.mem_cons_self), ihstream hrest]
          rfl
      | cons c area ih =>
          rw [readOn_cons, ih, ih]
          rfl

theorem exists_prefix_linesOf {bytes : List UInt8} {l : List UInt8} {rest : List (List UInt8)}
    (h : linesOf line bytes = l :: rest) : ∃ more, l = line ++ more := by
  induction bytes generalizing line with
  | nil =>
      rw [linesOf] at h
      split at h
      · cases h
      · cases h
        exact ⟨[], by simp⟩
  | cons c bytes ih =>
      rw [linesOf] at h
      split at h
      · cases h
        exact ⟨[], by simp⟩
      · obtain ⟨more, rfl⟩ := ih h
        exact ⟨c :: more, by simp⟩

theorem linesOf_ne_nil {bytes : List UInt8} (h : line ≠ [] ∨ bytes ≠ []) : linesOf line bytes ≠ [] := by
  induction bytes generalizing line with
  | nil =>
      rcases h with hline | hbytes
      · rw [linesOf, if_neg hline]
        exact List.cons_ne_nil _ _
      · exact absurd rfl hbytes
  | cons c bytes ih =>
      rw [linesOf]
      split
      · exact List.cons_ne_nil _ _
      · exact ih (.inl (by simp))

/-- How lines that are cut short differ from what they should be: the last of them are missing, or one of them is broken in two. -/
def CutShort (lines whole : List (List UInt8)) : Prop :=
  ∃ before, (∃ l rest, lines = before ∧ whole = before ++ l :: rest) ∨
    ∃ l more rest rest', l ≠ [] ∧ lines = before ++ l :: rest ∧ whole = before ++ (l ++ 255 :: more) :: rest'

theorem CutShort.cons {lines whole : List (List UInt8)} (h : CutShort lines whole) (l : List UInt8) :
    CutShort (l :: lines) (l :: whole) := by
  obtain ⟨before, ⟨l', rest, rfl, rfl⟩ | ⟨l', more, rest, rest', hl, rfl, rfl⟩⟩ := h
  · exact ⟨l :: lines, .inl ⟨l', rest, rfl, rfl⟩⟩
  · exact ⟨l :: before, .inr ⟨l', more, rest, rest', hl, rfl, rfl⟩⟩

theorem CutShort.ne {lines whole : List (List UInt8)} (h : CutShort lines whole) : lines ≠ whole := by
  obtain ⟨before, ⟨l, rest, rfl, rfl⟩ | ⟨l, more, rest, rest', hl, rfl, rfl⟩⟩ := h
  · simp
  · simp

/-- A chunk that begins with 0xff cuts the lines short. -/
theorem readOn_cutShort (h : ∃ chunk ∈ stream, chunk.1.head? = some 255) :
    CutShort (readOn line ⟨area, stream⟩) (linesOf line (area ++ stream.flatMap fun chunk => chunk.1)) := by
  induction stream generalizing line area with
  | nil => simp at h
  | cons chunk stream ihstream =>
      induction area generalizing line with
      | nil =>
          rw [readOn_refill]
          by_cases hc : chunk.1.head? = some 255
          · obtain ⟨bytes, hbytes⟩ := List.head?_eq_some_iff.mp hc
            have hwhole : [] ++ (chunk :: stream).flatMap (fun chunk => chunk.1) =
                255 :: (bytes ++ stream.flatMap fun chunk => chunk.1) := by simp [hbytes]
            have hne : linesOf (line ++ [255]) (bytes ++ stream.flatMap fun chunk => chunk.1) ≠ [] :=
              linesOf_ne_nil (.inl (by simp))
            obtain ⟨l, rest, hlines⟩ := List.exists_cons_of_ne_nil hne
            obtain ⟨more, rfl⟩ := exists_prefix_linesOf hlines
            have hfeed : ¬(255 : UInt8) = lineFeed := by decide
            rw [if_pos hc, hwhole, linesOf, if_neg hfeed, hlines]
            by_cases hline : line = []
            · rw [if_pos hline]
              exact ⟨[], .inl ⟨_, _, rfl, rfl⟩⟩
            · rw [if_neg hline]
              refine ⟨[], .inr ⟨line, more, _, rest, hline, rfl, ?_⟩⟩
              rw [List.append_assoc, List.singleton_append, List.nil_append]
          · have hrest : ∃ later ∈ stream, later.1.head? = some 255 := by
              obtain ⟨later, hlater, hhead⟩ := h
              rcases List.mem_cons.mp hlater with rfl | hlater
              · exact absurd hhead hc
              · exact ⟨later, hlater, hhead⟩
            rw [if_neg hc]
            exact ihstream hrest
      | cons c area ih =>
          rw [readOn_cons, List.cons_append, linesOf]
          split
          · exact ih.cons line
          · exact ih

end Lines

theorem readLines_make (chunk : Chunk) (stream : List Chunk) :
    readLines (make (chunk :: stream)) = readOn [] ⟨chunk.1, stream⟩ := readLines_eq _

theorem readLines_oneChunk (chunks : List Chunk) :
    readLines (make (oneChunk chunks)) = linesOf [] (chunks.flatMap fun chunk => chunk.1) := by
  unfold oneChunk
  split
  · rename_i h
    rw [h, readLines_eq]
    exact readOn_end
  · rename_i h
    rw [readLines_make, readOn_eq (by simp)]
    simp

/-- The lines come as they should just where no chunk but the first begins with 0xff. -/
theorem stream_transparent_iff (chunks : List Chunk) :
    StreamTransparent chunks ↔ ∀ chunk ∈ chunks.tail, chunk.1.head? ≠ some 255 := by
  unfold StreamTransparent
  rw [readLines_oneChunk]
  cases chunks with
  | nil =>
      rw [readLines_eq]
      exact iff_of_true readOn_end (by simp)
  | cons chunk stream =>
      rw [readLines_make, List.flatMap_cons, List.tail_cons]
      refine ⟨fun h later hlater hhead => ?_, fun h => readOn_eq h⟩
      exact (readOn_cutShort ⟨later, hlater, hhead⟩).ne h

/-- A line is broken before the byte 0xff. -/
theorem chunk_start_ends_line : ¬∀ chunks, StreamTransparent chunks := by
  intro h
  have hlines := h [⟨[97], by simp⟩, ⟨[255], by simp⟩]
  unfold StreamTransparent at hlines
  rw [readLines_oneChunk, readLines_make, readOn_cons, if_neg (by decide), readOn_refill] at hlines
  have hwhole : linesOf [] [97, 255] = [[97, 255]] := by decide
  simp [hwhole] at hlines

end Gfal2
