import Gfal2.GridFtpCopy
import Gfal2.GridFtpLines
import Gfal2.GridFtpStream
import Gfal2.PluginInterface

/-! The readers of a directory of the GridFTP plugin. Each call of `readdirpp` reads a line of the listing and parses it; a line
that is empty, or that has no name, is taken for the end. -/

namespace Gfal2

open Base GridFtpStreamBuffer

/-- How a call goes wrong: by a fault, or by an exception. -/
inductive ReaddirFailure where
  | fault (fault : Fault)
  | thrown (e : CppException)
  deriving DecidableEq

/-- The characters of some bytes. -/
def charsOf (bytes : List UInt8) : CString := bytes.map fun byte => Char.ofNat byte.toNat

def bytesOf (text : CString) : List UInt8 := text.map fun c => UInt8.ofNat c.toNat

/-- `trim`. -/
def trim (line : CString) : CString := (line.rdropWhile isSpace).dropWhile isSpace

def direntType (st : FtpStat) : FileType :=
  if sIsdir st.stMode then .directory else if sIslnk st.stMode then .symlink else .regular

/-- A reader, by the domain of its errors and by how it parses a line into a buffer for a name. -/
structure GridFtpDirReader where
  quark : GQuark
  parse : CString → FtpStat → Except Fault (Option (FtpStat × CString))

def gridFtpListReader (clock : Clock) (accounts : Accounts) : GridFtpDirReader where
  quark := lit "GridFtpListReader::readdir"
  parse line st := .ok (some (parseStatLine clock accounts line st 256))

def gridFtpMlsdReader (clock : Clock) : GridFtpDirReader where
  quark := lit "GridftpSimpleListReader::readdir"
  parse line st := parseMlstLine clock line st 256

namespace GridFtpDirReader

section Reader

variable (reader : GridFtpDirReader)

def readdirLine (line : CString) (st : FtpStat) : Except ReaddirFailure (Option (FtpStat × Dirent)) :=
  if trim line = [] then .ok none
  else
    match reader.parse ((trim line).takeWhile (· ≠ nul)) st with
    | .error fault => .error (.fault fault)
    | .ok none => .error (.thrown (.core ⟨reader.quark, EINVAL, lit "Error parsing GridFTP line: \x27" ++ trim line ++ lit "\x27"⟩))
    | .ok (some (st, name)) => if name = [] then .ok none else .ok (some (st, ⟨name, direntType st⟩))

def readdirpp (buffer : GridFtpStreamBuffer) (st : FtpStat) :
    Except ReaddirFailure (Option (FtpStat × Dirent)) × GridFtpStreamBuffer :=
  match buffer.getline with
  | none => (.ok none, (buffer.getlineLoop []).2.2)
  | some (line, buffer) => (reader.readdirLine (charsOf line) st, buffer)

theorem left_readdirpp {buffer buffer' : GridFtpStreamBuffer} {st : FtpStat} {entry : FtpStat × Dirent}
    (h : reader.readdirpp buffer st = (.ok (some entry), buffer')) : buffer'.left < buffer.left := by
  unfold readdirpp at h
  split at h
  · cases h
  · rename_i hline
    rw [Prod.mk.injEq] at h
    rw [← h.2]
    exact left_getline hline

/-- The names that repeated calls return until there is no entry, and the failure that ends them. -/
def readdirAll (buffer : GridFtpStreamBuffer) (st : FtpStat) : List CString × Option ReaddirFailure :=
  match _h : reader.readdirpp buffer st with
  | (.ok (some (st, entry)), buffer) => ((entry.dName :: (readdirAll buffer st).1), (readdirAll buffer st).2)
  | (.ok none, _) => ([], none)
  | (.error failure, _) => ([], some failure)
termination_by buffer.left
decreasing_by all_goals exact left_readdirpp _ _h

/-- The names of lines that are read one after the other. -/
def readdirLines : List (List UInt8) → FtpStat → List CString × Option ReaddirFailure
  | [], _ => ([], none)
  | line :: lines, st =>
      match reader.readdirLine (charsOf line) st with
      | .ok (some (st, entry)) => (entry.dName :: (readdirLines lines st).1, (readdirLines lines st).2)
      | .ok none => ([], none)
      | .error failure => ([], some failure)

/-- A call, and the calls behind it. -/
theorem readdirAll_call (buffer : GridFtpStreamBuffer) (st : FtpStat) : reader.readdirAll buffer st =
    match reader.readdirpp buffer st with
    | (.ok (some (st, entry)), buffer) => (entry.dName :: (reader.readdirAll buffer st).1, (reader.readdirAll buffer st).2)
    | (.ok none, _) => ([], none)
    | (.error failure, _) => ([], some failure) := by
  rw [readdirAll]
  split <;> rename_i h <;> rw [h]

/-- The calls see the lines of the buffer. -/
theorem readdirAll_eq (buffer : GridFtpStreamBuffer) (st : FtpStat) :
    reader.readdirAll buffer st = reader.readdirLines (readLines buffer) st := by
  induction buffer using readLines.induct generalizing st with
  | case1 buffer line buffer' h ih =>
      have hlines : readLines buffer = line :: readLines buffer' := by
        rw [readLines]
        split
        · rename_i heq
          rw [h] at heq
          cases heq
          rfl
        · rename_i heq
          rw [h] at heq
          cases heq
      rw [readdirAll_call, hlines, readdirLines, readdirpp, h]
      dsimp only
      split
      · rename_i heq
        rw [Prod.mk.injEq] at heq
        rw [heq.1, ← heq.2, ih]
      · rename_i heq
        rw [Prod.mk.injEq] at heq
        rw [heq.1]
      · rename_i heq
        rw [Prod.mk.injEq] at heq
        rw [heq.1]
  | case2 buffer h =>
      have hlines : readLines buffer = [] := by
        rw [readLines]
        split
        · rename_i heq
          rw [h] at heq
          cases heq
        · rfl
      rw [readdirAll_call, hlines, readdirLines, readdirpp, h]

/-! ### Lines that are entries -/

/-- A line is read as an entry with a name. -/
def Gives (line : List UInt8) (name : CString) : Prop :=
  ∀ st, ∃ st' type, reader.readdirLine (charsOf line) st = .ok (some (st', ⟨name, type⟩))

/-- A line is taken for the end. -/
def Stops (line : List UInt8) : Prop := ∀ st, reader.readdirLine (charsOf line) st = .ok none

/-- A line is not read as an entry with a name. -/
def Misses (line : List UInt8) (name : CString) : Prop :=
  ∀ st st' entry, reader.readdirLine (charsOf line) st = .ok (some (st', entry)) → entry.dName ≠ name

variable {reader : GridFtpDirReader}

theorem readdirLines_gives {line : List UInt8} {name : CString} (h : reader.Gives line name) (lines : List (List UInt8))
    (st : FtpStat) : ∃ st', reader.readdirLines (line :: lines) st =
      (name :: (reader.readdirLines lines st').1, (reader.readdirLines lines st').2) := by
  obtain ⟨st', type, hread⟩ := h st
  refine ⟨st', ?_⟩
  rw [readdirLines, hread]

theorem readdirLines_stops {line : List UInt8} (h : reader.Stops line) (lines : List (List UInt8)) (st : FtpStat) :
    reader.readdirLines (line :: lines) st = ([], none) := by
  rw [readdirLines, h st]

/-- Entries come in their order, and what follows them is read on. -/
theorem readdirLines_append {lines : List (List UInt8)} {names : List CString}
    (h : List.Forall₂ reader.Gives lines names) (rest : List (List UInt8)) (st : FtpStat) :
    ∃ st', reader.readdirLines (lines ++ rest) st =
      (names ++ (reader.readdirLines rest st').1, (reader.readdirLines rest st').2) := by
  induction h generalizing st with
  | nil => exact ⟨st, rfl⟩
  | @cons line name lines names hline hlines ih =>
      obtain ⟨between, hfirst⟩ := readdirLines_gives hline (lines ++ rest) st
      obtain ⟨st', hrest⟩ := ih between
      refine ⟨st', ?_⟩
      rw [List.cons_append, hfirst, hrest]
      rfl

theorem length_readdirLines_le (lines : List (List UInt8)) (st : FtpStat) :
    (reader.readdirLines lines st).1.length ≤ lines.length := by
  induction lines generalizing st with
  | nil => exact Nat.le_refl _
  | cons line lines ih =>
      rw [readdirLines]
      split
      · rename_i st' entry _
        have hle := ih st'
        simpa using hle
      · simp
      · simp

/-- Where as many names come as there are lines, none of them is missed. -/
theorem not_misses_of_readdirLines {front back : List (List UInt8)} {line : List UInt8} {st : FtpStat} {before after : List CString}
    {name : CString} (h : (reader.readdirLines (front ++ line :: back) st).1 = before ++ name :: after)
    (hlength : before.length = front.length) : ¬reader.Misses line name := by
  intro hmiss
  induction front generalizing before st with
  | nil =>
      cases before with
      | cons first before => simp at hlength
      | nil =>
          rw [List.nil_append, List.nil_append, readdirLines] at h
          split at h
          · rename_i st' entry hread
            rw [List.cons.injEq] at h
            exact hmiss st st' entry hread h.1
          · cases h
          · cases h
  | cons first front ih =>
      cases before with
      | nil => simp at hlength
      | cons other before =>
          rw [List.cons_append, readdirLines] at h
          split at h
          · rw [List.cons_append, List.cons.injEq] at h
            exact ih h.2 (by simpa using hlength)
          · cases h
          · cases h

end Reader

end GridFtpDirReader

end Gfal2
