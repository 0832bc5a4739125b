import Gfal2.Base.Buffer
import Gfal2.Base.Calendar
import Gfal2.StatBuffer
import Gfal2.Uri
import Mathlib.Data.List.DropRight

/-! What the GridFTP plugin reads from a line of a listing: the facts of an MLST line, or the columns of a LIST line. Both turn a
time of Greenwich into seconds with the local `mktime`, which they correct by the offset of the time zone. -/

namespace Gfal2

open Base

/-- The time zone and the time of the machine. -/
structure Clock where
  zone : TimeZone
  now : Int

/-- The identifiers that `getpwnam_r` and `getgrnam_r` leave in their structures where they do not fail. -/
structure Accounts where
  uidOf : CString → Option Nat
  gidOf : CString → Option Nat

/-- `struct stat` with the number of links. -/
structure FtpStat extends StatBuffer where
  stNlink : Int := 0
  deriving DecidableEq

/-! ### Numbers -/

/-- `sscanf` of a decimal number with so many characters at most. -/
def scanInt (width : Nat) (text : CString) : Option Int :=
  let digits (text : CString) (width : Nat) : Option Nat :=
    let digits := (text.take width).takeWhile Char.isDigit
    if digits = [] then none else some (Nat.ofDigitChars 10 digits 0)
  match text.dropWhile isSpace with
  | '-' :: rest => (digits rest (width - 1)).map fun n => -(n : Int)
  | '+' :: rest => (digits rest (width - 1)).map fun n => (n : Int)
  | rest => (digits rest width).map fun n => (n : Int)

def isOctal (c : Char) : Bool := '0' ≤ c && c ≤ '7'

/-- `strtoul` with the base 8. -/
def strtoulOctal (text : CString) : Nat :=
  let value (text : CString) : Nat := min (Nat.ofDigitChars 8 (text.takeWhile isOctal) 0) (2 ^ 64 - 1)
  match text.dropWhile isSpace with
  | '-' :: rest => (2 ^ 64 - value rest) % 2 ^ 64
  | '+' :: rest => value rest
  | rest => value rest

/-- The string at a place of the memory, if it is terminated. -/
def cstringAt (memory : Buffer) (p : Nat) : Option CString :=
  if nul ∈ memory.drop p then some ((memory.drop p).takeWhile (· ≠ nul)) else none

/-- The number at a place of the memory. -/
def scanField (mdtm : Buffer) (p width : Nat) : Except (Option Fault) Int :=
  match cstringAt mdtm p with
  | none => throw (some .arrayBounds)
  | some text =>
      match scanInt width text with
      | none => throw none
      | some n => return n

section Clocked

variable (clock : Clock)

/-- `copy_mdtm_to_timet`, on the memory from the time on. Its errors are none. -/
def copyMdtmToTimet (mdtm : Buffer) : Except (Option Fault) Int := do
  let year ← scanField mdtm 0 4
  let mon ← scanField mdtm 4 2
  let mday ← scanField mdtm 6 2
  let hour ← scanField mdtm 8 2
  let min ← scanField mdtm 10 2
  let sec ← scanField mdtm 12 2
  let fileTime := mktime clock.zone
    { tmYear := year - 1900, tmMon := mon - 1, tmMday := mday, tmHour := hour, tmMin := min, tmSec := sec }
  if fileTime = -1 then throw none
  else if clock.now = -1 then throw none
  else
    let gmtNow := mktime clock.zone (gmtime clock.now)
    if gmtNow = -1 then throw none else return Int.bmod (fileTime + (clock.now - gmtNow)) (2 ^ 32)

/-! ### MLST -/

/-- `globus_gass_copy_glob_entry_t`, as far as it is told apart. -/
inductive GlobEntry where
  | file | dir | other
  deriving DecidableEq

/-- A fact with its key in lower case. -/
structure MlstFact where
  key : CString
  value : CString

/-- The facts of a line, each up to a semicolon or to the end. -/
def mlstFacts : CString → Option (List MlstFact)
  | [] => some []
  | c :: facts =>
      let fact := (c :: facts).takeWhile (· ≠ ';')
      if '=' ∈ fact then
        (mlstFacts (((c :: facts).dropWhile (· ≠ ';')).drop 1)).map
          (⟨(fact.takeWhile (· ≠ '=')).map Char.toLower, (fact.dropWhile (· ≠ '=')).drop 1⟩ :: ·)
      else none
termination_by facts => facts.length
decreasing_by
  rw [List.length_drop]
  have hle := (List.dropWhile_suffix (l := c :: facts) (· ≠ ';')).length_le
  rw [List.length_cons] at hle ⊢
  omega

/-- What the loop over the facts keeps. A time is kept with the memory behind it. -/
structure MlstSeen where
  type : GlobEntry := .file
  modeS : Option CString := none
  modifyS : Option Buffer := none
  sizeS : Option CString := none

/-- The memory of facts that were taken apart, before the memory behind them. -/
def factsMemory (facts : List MlstFact) (behind : Buffer) : Buffer :=
  (facts.flatMap fun fact => fact.key ++ nul :: fact.value ++ [nul]) ++ behind

/-- One fact, with the memory behind it. -/
def seeFact (behind : Buffer) (fact : MlstFact) : MlstSeen × FtpStat → MlstSeen × FtpStat
  | (seen, st) =>
      let value := fact.value.map Char.toLower
      if fact.key = lit "type" then
        let type := if value = lit "dir" ∨ value = lit "pdir" ∨ value = lit "cdir" then .dir
          else if value = lit "file" then .file else GlobEntry.other
        ({ seen with type := type }, st)
      else if fact.key = lit "unix.mode" then ({ seen with modeS := some fact.value }, st)
      else if fact.key = lit "modify" then ({ seen with modifyS := some (fact.value ++ nul :: behind) }, st)
      else if fact.key = lit "size" then ({ seen with sizeS := some fact.value }, st)
      else if fact.key = lit "unix.uid" then (seen, { st with stUid := toUInt32 (atol fact.value) })
      else if fact.key = lit "unix.gid" then (seen, { st with stGid := toUInt32 (atol fact.value) })
      else (seen, st)

/-- The loop over the facts. -/
def seeFacts (behind : Buffer) : List MlstFact → MlstSeen × FtpStat → MlstSeen × FtpStat
  | [], state => state
  | fact :: facts, state => seeFacts behind facts (seeFact (factsMemory facts behind) fact state)

/-- The mode of an entry. Where it is not told all of its bits are set. -/
def mlstMode (seen : MlstSeen) : ModeT :=
  match seen.modeS with
  | none => BitVec.allOnes 32
  | some modeS => BitVec.ofNat 32 (strtoulOctal modeS) ||| if seen.type = .dir then sIfdir else sIfreg

def mlstSize (seen : MlstSeen) : Int :=
  ((seen.sizeS.bind fun sizeS => scanInt sizeS.length sizeS).map fun n => max (-2 ^ 63) (min (2 ^ 63 - 1) n)).getD 0

/-- The time of an entry, which is -1 where it is not told. -/
def mlstTime (seen : MlstSeen) : Except Fault Int :=
  match seen.modifyS with
  | none => return -1
  | some modifyS =>
      match copyMdtmToTimet clock modifyS with
      | .ok mdtm => return mdtm
      | .error none => return -1
      | .error (some fault) => throw fault

/-- The name of an MLST line in a buffer of a size: blanks at its end are overwritten, from its own length on. -/
def mlstName (filename : CString) (filenameSize : Nat) : Except Fault CString :=
  if filename.length < filenameSize then return filename.rdropWhile isSpace else throw .arrayBounds

/-- `parse_mlst_line`, with a buffer for the name. A bad line has no result. -/
def parseMlstLine (line : CString) (st : FtpStat) (filenameSize : Nat) : Except Fault (Option (FtpStat × CString)) := do
  match strchr line ' ' with
  | none => return none
  | some space =>
      let filename := line.drop (space + 1)
      let name ← mlstName filename filenameSize
      match mlstFacts (line.take space) with
      | none => return none
      | some facts =>
          let (seen, st) := seeFacts (filename ++ [nul]) facts ({}, st)
          let mtime ← mlstTime clock seen
          return some ({ st with stNlink := 1, stMode := mlstMode seen, stSize := mlstSize seen, stMtime := mtime }, name)

/-! ### LIST -/

def parseLsSubmode (substr : CString) : ModeT :=
  (if substr[0]? = some 'r' then 0o400 else 0) ||| (if substr[1]? = some 'w' then 0o200 else 0) |||
    if substr[2]? = some 'x' then 0o100 else 0

def parseLsMode (modeStr : CString) : ModeT :=
  if modeStr.length ≠ 10 then 0
  else
    let mode : ModeT :=
      match modeStr.head? with
      | some 'd' => sIfdir
      | some '-' => sIfreg
      | some 'l' => sIflnk
      | some 'b' => 0o060000
      | some 'c' => 0o020000
      | some 's' => 0o140000
      | _ => 0
    mode ||| parseLsSubmode (modeStr.drop 1) ||| parseLsSubmode (modeStr.drop 4) >>> 3 ||| parseLsSubmode (modeStr.drop 7) >>> 6

/-- The abbreviations of the months, with which their names begin. -/
def monthNames : List CString :=
  [lit "jan", lit "feb", lit "mar", lit "apr", lit "may", lit "jun", lit "jul", lit "aug", lit "sep", lit "oct", lit "nov", lit "dec"]

/-- `strptime` of `%b`. -/
def strptimeMonth (text : CString) : Option Nat := monthNames.findIdx? fun month => (text.map Char.toLower).take 3 = month

/-- The columns of a line. -/
inductive FtpField where
  | mode | nlinks | owner | group | size | month | day | yearOrTime | name
  deriving DecidableEq

structure StatLine where
  st : FtpStat
  timedef : Tm := {}
  filename : CString := []

/-- One column. -/
def readField (accounts : Accounts) (filenameSize : Nat) (start : CString) (line : StatLine) : FtpField → StatLine
  | .mode => { line with st := { line.st with stMode := parseLsMode start } }
  | .nlinks => { line with st := { line.st with stNlink := atol start } }
  | .owner =>
      if start.head?.any Char.isDigit then { line with st := { line.st with stUid := toUInt32 (atol start) } }
      else { line with st := { line.st with stUid := (accounts.uidOf start).getD line.st.stUid } }
  | .group =>
      if start.head?.any Char.isDigit then { line with st := { line.st with stGid := toUInt32 (atol start) } }
      else { line with st := { line.st with stGid := (accounts.gidOf start).getD line.st.stGid } }
  | .size => { line with st := { line.st with stSize := atol start } }
  | .month =>
      match strptimeMonth start with
      | some month => { line with timedef := { line.timedef with tmMon := month } }
      | none => line
  | .day => { line with timedef := { line.timedef with tmMday := Int.bmod (atol start) (2 ^ 32) } }
  | .yearOrTime =>
      match strchr start ':' with
      | some colon =>
          { line with
            timedef :=
              { line.timedef with
                tmYear := (localtime clock.zone clock.now).tmYear
                tmHour := Int.bmod (atol start) (2 ^ 32)
                tmMin := Int.bmod (atol (start.drop (colon + 1))) (2 ^ 32) } }
      | none => { line with timedef := { line.timedef with tmYear := Int.bmod (atol start) (2 ^ 32) - 1900 } }
  | .name => { line with filename := start.take (filenameSize - 1) }

/-- The loop over the columns, which ends with the line. -/
def readFields (accounts : Accounts) (filenameSize : Nat) : List FtpField → CString → StatLine → StatLine
  | [], _, line => line
  | field :: fields, start, line =>
      let start := start.dropWhile isSpace
      if start = [] then line
      else
        let line := readField clock accounts filenameSize (start.takeWhile fun c => !isSpace c) line field
        let rest := start.dropWhile fun c => !isSpace c
        if rest = [] then line else readFields accounts filenameSize fields (rest.drop 1) line

/-- `parse_stat_line`, with a buffer for the name. -/
def parseStatLine (accounts : Accounts) (buffer : CString) (fstat : FtpStat) (filenameSize : Nat) : FtpStat × CString :=
  let line := readFields clock accounts filenameSize
    [.mode, .nlinks, .owner, .group, .size, .month, .day, .yearOrTime, .name] buffer { st := fstat }
  let gmtNow := mktime clock.zone (gmtime clock.now)
  let mtime := mktime clock.zone line.timedef - (clock.now - gmtNow)
  ({ line.st with stAtime := mtime, stMtime := mtime, stCtime := mtime }, line.filename)

end Clocked

end Gfal2
