import Gfal2.GridFtpTimes
import Mathlib.Tactic.IntervalCases

/-! What the facts of an MLST line encode, and when `parse_mlst_line` reads all of it. The type of an entry and its permissions
are told by two facts, and both are kept in its mode. -/

namespace Gfal2

open Base

/-- The value of a fact, under its key in small letters. The last one counts. -/
def toldValue (key : CString) : List FactText → Option CString
  | [] => none
  | fact :: facts => (toldValue key facts).or (if fact.key.map Char.toLower = key then some fact.value else none)

def octal (digits : CString) : Nat := Nat.ofDigitChars 8 digits 0

/-- A line of facts and a name. Numbers are told in digits, the mode in octal ones, and a time begins with fourteen of them. -/
structure FactsLine where
  facts : List FactText
  name : CString
  nameLine : IsLineText name
  numbers : ∀ fact ∈ facts, fact.key.map Char.toLower ∈ [lit "size", lit "unix.uid", lit "unix.gid"] →
    isDigits fact.value = true
  modes : ∀ fact ∈ facts, fact.key.map Char.toLower = lit "unix.mode" →
    fact.value ≠ [] ∧ ∀ c ∈ fact.value, isOctal c = true
  times : ∀ fact ∈ facts, fact.key.map Char.toLower = lit "modify" → ∀ c ∈ fact.value.take 14, c.isDigit = true

namespace FactsLine

variable (line : FactsLine)

def text : CString := factsText line.facts ++ ' ' :: line.name

def told (key : CString) : Option CString := toldValue key line.facts

/-- The type is `dir`, `cdir` or `pdir`. -/
def IsDir : Prop := ∃ type ∈ line.told (lit "type"), type.map Char.toLower ∈ [lit "dir", lit "pdir", lit "cdir"]

def IsFile : Prop := ∃ type ∈ line.told (lit "type"), type.map Char.toLower = lit "file"

end FactsLine

/-- The time that the fourteen digits of a fact encode. -/
def tmTold (value : CString) : Tm where
  tmYear := decimal (value.take 4) - 1900
  tmMon := decimal ((value.drop 4).take 2) - 1
  tmMday := decimal ((value.drop 6).take 2)
  tmHour := decimal ((value.drop 8).take 2)
  tmMin := decimal ((value.drop 10).take 2)
  tmSec := decimal ((value.drop 12).take 2)

/-- The seconds since the epoch of a time of Greenwich. -/
def timeTold (value : CString) : Int := timegm (tmTold value)

/-- The entry is the one that the facts encode, and the name is the one of the line as far as the buffer goes. -/
structure Encoded (line : FactsLine) (filenameSize : Nat) (st : FtpStat) (name : CString) : Prop where
  dir : sIsdir st.stMode = true ↔ line.IsDir
  reg : sIsreg st.stMode = true ↔ line.IsFile
  permissions : ∀ mode ∈ line.told (lit "unix.mode"), (st.stMode &&& 0o7777).toNat = octal mode % 0o10000
  size : ∀ size ∈ line.told (lit "size"), st.stSize = decimal size
  uid : ∀ uid ∈ line.told (lit "unix.uid"), st.stUid = decimal uid
  gid : ∀ gid ∈ line.told (lit "unix.gid"), st.stGid = decimal gid
  time : ∀ modify ∈ line.told (lit "modify"), st.stMtime = timeTold modify
  name : name = line.name.take (filenameSize - 1)

/-- The line is parsed without a fault, into the entry that it encodes. -/
def ParsesFacts (clock : Clock) (line : FactsLine) (st : FtpStat) (filenameSize : Nat) : Prop :=
  ∃ entry, parseMlstLine clock line.text st filenameSize = .ok (some entry) ∧ Encoded line filenameSize entry.1 entry.2

/-- The four bits of a mode that tell the type of a file, of a number in octal digits. -/
def formatTold (mode : CString) : Nat := min (octal mode) (2 ^ 64 - 1) / 0o10000 % 0o20

/-- The type that is told fits the mode: a directory and a file tell a mode, which has no other type in it; of anything else the
mode has another type in it, or it is not told. -/
structure KindFits (line : FactsLine) : Prop where
  dir : line.IsDir → ∃ mode ∈ line.told (lit "unix.mode"), formatTold mode = 0 ∨ formatTold mode = 4
  file : line.IsFile → ∃ mode ∈ line.told (lit "unix.mode"), formatTold mode = 0 ∨ formatTold mode = 8
  other : ¬line.IsDir → ¬line.IsFile → ∀ mode ∈ line.told (lit "unix.mode"), formatTold mode ≠ 0 ∧ formatTold mode ≠ 8

/-- The time has 32 bits, is not the one that the conversions fail with, and the local standard time is as far from Greenwich at it as
it is now. -/
def TimeFits (clock : Clock) (time : Int) : Prop :=
  -2 ^ 31 ≤ time ∧ time < 2 ^ 31 ∧ if NoTime clock time then time = -1 else clock.zone.standard time = clock.zone.standard clock.now

/-- The name fits the buffer and does not end with a blank, the type fits the mode, and the numbers and the time fit their fields. -/
structure FactsFit (clock : Clock) (line : FactsLine) (filenameSize : Nat) : Prop where
  name : line.name.length < filenameSize
  ends : ∀ c ∈ line.name.getLast?, isSpace c = false
  kind : KindFits line
  permissions : ∀ mode ∈ line.told (lit "unix.mode"), octal mode < 2 ^ 64 ∨ octal mode % 0o10000 = 0o7777
  size : ∀ size ∈ line.told (lit "size"), decimal size < 2 ^ 63
  uid : ∀ uid ∈ line.told (lit "unix.uid"), decimal uid < 2 ^ 32
  gid : ∀ gid ∈ line.told (lit "unix.gid"), decimal gid < 2 ^ 32
  time : ∀ modify ∈ line.told (lit "modify"), TimeFits clock (timeTold modify)

/-! ### The loop -/

section Loop

variable {facts : List FactText} {key value : CString}

theorem toldValue_eq_none (h : toldValue key facts = none) : ∀ fact ∈ facts, fact.key.map Char.toLower ≠ key := by
  induction facts with
  | nil => exact fun _ hmem => absurd hmem List.not_mem_nil
  | cons fact facts ih =>
      rw [toldValue, Option.or_eq_none_iff] at h
      refine List.forall_mem_cons.mpr ⟨fun hkey => ?_, ih h.1⟩
      rw [if_pos hkey] at h
      cases h.2

/-- The fact that counts, with the ones around it. -/
theorem toldValue_split (h : toldValue key facts = some value) :
    ∃ before fact after, facts = before ++ fact :: after ∧ fact.key.map Char.toLower = key ∧ fact.value = value ∧
      ∀ later ∈ after, later.key.map Char.toLower ≠ key := by
  induction facts with
  | nil => cases h
  | cons fact facts ih =>
      rw [toldValue, Option.or_eq_some_iff] at h
      rcases h with hlater | ⟨hnone, hfact⟩
      · obtain ⟨before, found, after, rfl, hfound⟩ := ih hlater
        exact ⟨fact :: before, found, after, rfl, hfound⟩
      · split at hfact
        · rename_i hkey
          exact ⟨[], fact, facts, rfl, hkey, Option.some.inj hfact, toldValue_eq_none hnone⟩
        · cases hfact

/-- A part of the state that only the facts of one key set, each to what is read of its value. -/
theorem seeFacts_told {α : Type} {get : MlstSeen × FtpStat → α} {read : CString → α}
    (hsee : ∀ behind fact state, get (seeFact behind fact state) = if fact.key = key then read fact.value else get state)
    (behind : Buffer) (state : MlstSeen × FtpStat) :
    get (seeFacts behind (facts.map FactText.read) state) = ((toldValue key facts).map read).getD (get state) := by
  induction facts generalizing state with
  | nil => rfl
  | cons fact facts ih =>
      have hread : fact.read.key = fact.key.map Char.toLower := rfl
      rw [List.map_cons, seeFacts, ih, hsee, hread, toldValue]
      cases toldValue key facts with
      | some value => rfl
      | none => split <;> rfl

/-- The type of an entry as a fact tells it. -/
def globEntry (type : CString) : GlobEntry :=
  if type.map Char.toLower ∈ [lit "dir", lit "pdir", lit "cdir"] then .dir
  else if type.map Char.toLower = lit "file" then .file else .other

variable (behind : Buffer) (fact : MlstFact) (state : MlstSeen × FtpStat)

theorem seeFact_modeS : (seeFact behind fact state).1.modeS =
    if fact.key = lit "unix.mode" then some fact.value else state.1.modeS := by
  unfold seeFact
  dsimp only
  by_cases hkey : fact.key = lit "unix.mode"
  · rw [if_pos hkey, hkey, if_neg (by decide), if_pos rfl]
  · rw [if_neg hkey, if_neg hkey]
    repeat' split
    all_goals rfl

theorem seeFact_sizeS : (seeFact behind fact state).1.sizeS = if fact.key = lit "size" then some fact.value else state.1.sizeS := by
  unfold seeFact
  dsimp only
  by_cases hkey : fact.key = lit "size"
  · rw [if_pos hkey, hkey, if_neg (by decide), if_neg (by decide), if_neg (by decide), if_pos rfl]
  · rw [if_neg hkey, if_neg hkey]
    repeat' split
    all_goals rfl

theorem seeFact_type : (seeFact behind fact state).1.type = if fact.key = lit "type" then globEntry fact.value else state.1.type := by
  unfold seeFact
  dsimp only
  by_cases hkey : fact.key = lit "type"
  · rw [if_pos hkey, if_pos hkey]
    simp only [globEntry, List.mem_cons, List.not_mem_nil, or_false]
  · rw [if_neg hkey, if_neg hkey]
    repeat' split
    all_goals rfl

theorem seeFact_stUid : (seeFact behind fact state).2.stUid =
    if fact.key = lit "unix.uid" then toUInt32 (atol fact.value) else state.2.stUid := by
  unfold seeFact
  dsimp only
  by_cases hkey : fact.key = lit "unix.uid"
  · rw [if_pos hkey, hkey, if_neg (by decide), if_neg (by decide), if_neg (by decide), if_neg (by decide), if_pos rfl]
  · rw [if_neg hkey, if_neg hkey]
    repeat' split
    all_goals rfl

theorem seeFact_stGid : (seeFact behind fact state).2.stGid =
    if fact.key = lit "unix.gid" then toUInt32 (atol fact.value) else state.2.stGid := by
  unfold seeFact
  dsimp only
  by_cases hkey : fact.key = lit "unix.gid"
  · rw [if_pos hkey, hkey, if_neg (by decide), if_neg (by decide), if_neg (by decide), if_neg (by decide), if_neg (by decide),
      if_pos rfl]
  · rw [if_neg hkey, if_neg hkey]
    repeat' split
    all_goals rfl

end Loop

/-! ### The mode -/

section Mode

variable (mode : ModeT) (type : BitVec 4)

/-- The four bits of a mode that tell the type of a file. -/
def format : BitVec 4 := mode.extractLsb' 12 4

theorem and_sIfmt : mode &&& sIfmt = (format mode).setWidth 32 <<< 12 := by
  ext i hi
  simp only [format, BitVec.getElem_and, BitVec.getElem_shiftLeft, BitVec.getElem_setWidth, BitVec.getLsbD_extractLsb']
  interval_cases i <;> simp

theorem format_shiftLeft : format (type.setWidth 32 <<< 12) = type := by
  apply BitVec.eq_of_toNat_eq
  have htype := type.isLt
  simp only [format, BitVec.extractLsb'_toNat, BitVec.toNat_shiftLeft, BitVec.toNat_setWidth, Nat.shiftLeft_eq,
    Nat.shiftRight_eq_div_pow]
  omega

theorem and_sIfmt_eq_iff : mode &&& sIfmt = type.setWidth 32 <<< 12 ↔ format mode = type := by
  rw [and_sIfmt]
  constructor
  · intro h
    have hformat := congrArg format h
    rw [format_shiftLeft, format_shiftLeft] at hformat
    exact hformat
  · rintro rfl
    rfl

theorem sIsdir_iff : sIsdir mode = true ↔ format mode = 4 := by
  rw [← and_sIfmt_eq_iff, sIsdir, beq_iff_eq]
  rfl

theorem sIsreg_iff : sIsreg mode = true ↔ format mode = 8 := by
  rw [← and_sIfmt_eq_iff, sIsreg, beq_iff_eq]
  rfl

theorem format_or (other : ModeT) : format (mode ||| other) = format mode ||| format other := BitVec.extractLsb'_or

theorem toNat_format : (format mode).toNat = mode.toNat / 0o10000 % 0o20 := by
  simp [format, BitVec.extractLsb'_toNat, Nat.shiftRight_eq_div_pow]

/-- The bits of the type do not touch the permissions. -/
theorem or_and_permissions {other : ModeT} (h : other &&& 0o7777 = 0) :
    ((mode ||| other) &&& 0o7777).toNat = mode.toNat % 0o10000 := by
  have hother : other.toNat &&& 0o7777 = 0 := by simpa using congrArg BitVec.toNat h
  rw [BitVec.toNat_and, BitVec.toNat_or]
  change (mode.toNat ||| other.toNat) &&& 0o7777 = _
  rw [Nat.and_or_distrib_right, hother, Nat.or_zero]
  exact Nat.and_two_pow_sub_one_eq_mod _ 12

end Mode

/-! ### The values -/

section Values

variable (facts : List FactText) (name : CString) (st : FtpStat)

theorem factsSeen_modeS : (factsSeen facts name st).1.modeS = toldValue (lit "unix.mode") facts := by
  refine (@seeFacts_told facts _ _ (fun state => state.1.modeS) some seeFact_modeS _ _).trans ?_
  cases toldValue (lit "unix.mode") facts <;> rfl

theorem factsSeen_sizeS : (factsSeen facts name st).1.sizeS = toldValue (lit "size") facts := by
  refine (@seeFacts_told facts _ _ (fun state => state.1.sizeS) some seeFact_sizeS _ _).trans ?_
  cases toldValue (lit "size") facts <;> rfl

theorem factsSeen_type : (factsSeen facts name st).1.type = ((toldValue (lit "type") facts).map globEntry).getD .file :=
  @seeFacts_told facts _ _ (fun state => state.1.type) globEntry seeFact_type _ _

theorem factsSeen_stUid :
    (factsSeen facts name st).2.stUid = ((toldValue (lit "unix.uid") facts).map fun uid => toUInt32 (atol uid)).getD st.stUid :=
  @seeFacts_told facts _ _ (fun state => state.2.stUid) (fun uid => toUInt32 (atol uid)) seeFact_stUid _ _

theorem factsSeen_stGid :
    (factsSeen facts name st).2.stGid = ((toldValue (lit "unix.gid") facts).map fun gid => toUInt32 (atol gid)).getD st.stGid :=
  @seeFacts_told facts _ _ (fun state => state.2.stGid) (fun gid => toUInt32 (atol gid)) seeFact_stGid _ _

variable {facts name st} {value : CString}

theorem isDigit_of_isOctal {c : Char} (h : isOctal c = true) : c.isDigit = true := by
  simp only [isOctal, Bool.and_eq_true, decide_eq_true_eq, Char.le_def, UInt32.le_iff_toNat_le] at h
  simp only [Char.isDigit, Bool.and_eq_true, decide_eq_true_eq, ge_iff_le, UInt32.le_iff_toNat_le]
  exact ⟨h.1, h.2.trans (by decide)⟩

/-- A number in octal digits is read up to the greatest one. -/
theorem strtoulOctal_octal (hne : value ≠ []) (h : ∀ c ∈ value, isOctal c = true) :
    strtoulOctal value = min (octal value) (2 ^ 64 - 1) := by
  obtain ⟨c, rest, rfl⟩ := List.exists_cons_of_ne_nil hne
  have hc := isDigit_of_isOctal (h c List.mem_cons_self)
  have hdrop : (c :: rest).dropWhile isSpace = c :: rest := by
    simp [isSpace_of_isDigit hc]
  have htake : (c :: rest).takeWhile isOctal = c :: rest := List.takeWhile_eq_self_iff.mpr h
  unfold strtoulOctal
  rw [hdrop]
  split
  · rename_i heq
    rw [(List.cons.inj heq).1] at hc
    exact absurd hc (by decide)
  · rename_i heq
    rw [(List.cons.inj heq).1] at hc
    exact absurd hc (by decide)
  · dsimp only
    rw [htake]
    rfl

theorem scanInt_decimal (h : isDigits value = true) : scanInt value.length value = some (decimal value : Int) := by
  have hscan := @scanInt_showsNumber value _ ⟨h, rfl⟩ []
  rwa [List.append_nil] at hscan

theorem toUInt32_atol (h : isDigits value = true) : (toUInt32 (atol value) = decimal value ↔ decimal value < 2 ^ 32) := by
  have hatol := @atol_digits value [] h stopsAt_nil
  rw [List.append_nil] at hatol
  rw [hatol]
  unfold toUInt32
  omega

theorem format_ofNat (type : BitVec 4) :
    format (BitVec.ofNat 32 (min (octal value) (2 ^ 64 - 1))) = type ↔ formatTold value = type.toNat := by
  rw [← BitVec.toNat_inj, toNat_format, BitVec.toNat_ofNat, formatTold]
  omega

end Values

section Kind

variable {line : FactsLine} {st : FtpStat}

/-- What the loop over the facts of a line keeps. -/
def FactsLine.seen (line : FactsLine) (st : FtpStat) : MlstSeen × FtpStat := factsSeen line.facts line.name st

theorem FactsLine.octal_of_told {mode : CString} (h : line.told (lit "unix.mode") = some mode) :
    strtoulOctal mode = min (octal mode) (2 ^ 64 - 1) := by
  obtain ⟨before, fact, after, hfacts, hkey, rfl, -⟩ := toldValue_split h
  obtain ⟨hne, hall⟩ := line.modes fact (by rw [hfacts]; exact List.mem_append_right _ List.mem_cons_self) hkey
  exact strtoulOctal_octal hne hall

theorem FactsLine.number_of_told {key value : CString} (h : line.told key = some value)
    (hkey : key ∈ [lit "size", lit "unix.uid", lit "unix.gid"]) : isDigits value = true := by
  obtain ⟨before, fact, after, hfacts, hfact, rfl, -⟩ := toldValue_split h
  exact line.numbers fact (by rw [hfacts]; exact List.mem_append_right _ List.mem_cons_self) (hfact ▸ hkey)

theorem FactsLine.type_eq_dir_iff : (line.seen st).1.type = .dir ↔ line.IsDir := by
  unfold FactsLine.seen FactsLine.IsDir FactsLine.told
  rw [factsSeen_type]
  cases toldValue (lit "type") line.facts with
  | none => simp
  | some type =>
      simp only [Option.map_some, Option.getD_some, globEntry, Option.mem_def, Option.some.injEq, exists_eq_left']
      by_cases hdir : type.map Char.toLower ∈ [lit "dir", lit "pdir", lit "cdir"]
      · rw [if_pos hdir]
        exact iff_of_true rfl hdir
      · rw [if_neg hdir]
        refine iff_of_false ?_ hdir
        split <;> decide

theorem FactsLine.IsFile.not_isDir (h : line.IsFile) : ¬line.IsDir := by
  obtain ⟨type, htype, hfile⟩ := h
  rintro ⟨type', htype', hdir⟩
  cases Option.mem_unique htype htype'
  rw [hfile] at hdir
  exact absurd hdir (by decide)

/-- A mode that is not told has all bits set. -/
theorem mlstMode_of_none (h : line.told (lit "unix.mode") = none) : mlstMode (line.seen st).1 = BitVec.allOnes 32 := by
  rw [mlstMode, FactsLine.seen, factsSeen_modeS, show toldValue _ line.facts = none from h]

theorem mlstMode_of_some {mode : CString} (h : line.told (lit "unix.mode") = some mode) : mlstMode (line.seen st).1 =
      BitVec.ofNat 32 (min (octal mode) (2 ^ 64 - 1)) ||| if (line.seen st).1.type = .dir then sIfdir else sIfreg := by
  rw [← line.octal_of_told h, mlstMode, FactsLine.seen, factsSeen_modeS, show toldValue _ line.facts = some mode from h]

theorem format_mlstMode {mode : CString} (h : line.told (lit "unix.mode") = some mode) :
    format (mlstMode (line.seen st).1) = format (BitVec.ofNat 32 (min (octal mode) (2 ^ 64 - 1))) |||
      if (line.seen st).1.type = .dir then 4 else 8 := by
  rw [mlstMode_of_some h, format_or]
  split <;> rfl

theorem kindFits_of_none (h : line.told (lit "unix.mode") = none) : KindFits line ↔ ¬line.IsDir ∧ ¬line.IsFile := by
  constructor
  · rintro ⟨hdir, hfile, -⟩
    rw [h] at hdir hfile
    exact ⟨fun his => by simpa using hdir his, fun his => by simpa using hfile his⟩
  · rintro ⟨hdir, hfile⟩
    refine ⟨fun his => absurd his hdir, fun his => absurd his hfile, fun _ _ mode hmem => ?_⟩
    rw [h] at hmem
    cases hmem

theorem kindFits_of_some {mode : CString} (h : line.told (lit "unix.mode") = some mode) :
    KindFits line ↔ (line.IsDir → formatTold mode = 0 ∨ formatTold mode = 4) ∧
      (line.IsFile → formatTold mode = 0 ∨ formatTold mode = 8) ∧
      (¬line.IsDir → ¬line.IsFile → formatTold mode ≠ 0 ∧ formatTold mode ≠ 8) := by
  constructor
  · rintro ⟨hdir, hfile, hother⟩
    rw [h] at hdir hfile hother
    exact ⟨fun his => by simpa using hdir his, fun his => by simpa using hfile his, fun hdir hfile => hother hdir hfile mode rfl⟩
  · rintro ⟨hdir, hfile, hother⟩
    refine ⟨fun his => ⟨mode, h, hdir his⟩, fun his => ⟨mode, h, hfile his⟩, fun hdir hfile mode' hmem => ?_⟩
    cases Option.mem_unique hmem h
    exact hother hdir hfile

/-- The type of an entry is the one that is told just where it fits the mode. -/
theorem kindFits_iff :
    (sIsdir (mlstMode (line.seen st).1) = true ↔ line.IsDir) ∧ (sIsreg (mlstMode (line.seen st).1) = true ↔ line.IsFile) ↔
      KindFits line := by
  have hdirs : ∀ type : BitVec 4, (type ||| 4 = 4 ↔ type = 0 ∨ type = 4) ∧ type ||| 4 ≠ 8 := by decide
  have hfiles : ∀ type : BitVec 4, (type ||| 8 = 8 ↔ type = 0 ∨ type = 8) ∧ type ||| 8 ≠ 4 := by decide
  rw [sIsdir_iff, sIsreg_iff]
  cases hmode : line.told (lit "unix.mode") with
  | none =>
      have hformat : format (mlstMode (line.seen st).1) = 15 := by
        rw [mlstMode_of_none hmode]
        decide
      have hdir : ¬(15 : BitVec 4) = 4 := by decide
      have hfile : ¬(15 : BitVec 4) = 8 := by decide
      rw [hformat, kindFits_of_none hmode, iff_false_left hdir, iff_false_left hfile]
  | some mode =>
      have hformat := @format_ofNat mode
      rw [format_mlstMode hmode, kindFits_of_some hmode]
      generalize format (BitVec.ofNat 32 (min (octal mode) (2 ^ 64 - 1))) = type at hformat ⊢
      have hnone : type = 0 ↔ formatTold mode = 0 := hformat 0
      by_cases hdir : line.IsDir
      · have hfile : ¬line.IsFile := fun h => h.not_isDir hdir
        have hsame : type = 4 ↔ formatTold mode = 4 := hformat 4
        rw [if_pos (line.type_eq_dir_iff.mpr hdir), (hdirs type).1, hnone, hsame]
        simpa [hdir, hfile] using fun _ => (hdirs type).2
      · have hsame : type = 8 ↔ formatTold mode = 8 := hformat 8
        rw [if_neg (mt line.type_eq_dir_iff.mp hdir), (hfiles type).1, hnone, hsame]
        by_cases hfile : line.IsFile
        · simpa [hdir, hfile] using fun _ => (hfiles type).2
        · simpa [hdir, hfile] using fun _ _ => (hfiles type).2

end Kind

/-! ### The time and the name -/

section Parsed

variable (clock : Clock) {line : FactsLine} {st : FtpStat} {filenameSize : Nat}

/-- A piece of fourteen digits. -/
theorem isDigits_piece {value : CString} (hlong : 14 ≤ value.length) (hdigits : ∀ c ∈ value.take 14, c.isDigit = true)
    (p : Nat) {width : Nat} (hwidth : 0 < width) (hp : p + width ≤ 14) :
    ((value.drop p).take width).length = width ∧ isDigits ((value.drop p).take width) = true := by
  have hlength : ((value.drop p).take width).length = width := by
    rw [List.length_take, List.length_drop]
    omega
  refine ⟨hlength, isDigits_iff.mpr ⟨fun hnil => ?_, fun c hc => hdigits c ?_⟩⟩
  · rw [hnil, List.length_nil] at hlength
    omega
  · have htake : value.take (p + width) = (value.take 14).take (p + width) := by rw [List.take_take, Nat.min_eq_left hp]
    rw [List.take_drop, htake] at hc
    exact List.mem_of_mem_take (List.mem_of_mem_drop hc)

/-- The digits of a time, taken apart. -/
theorem FactsLine.timeVal {modify : CString} (h : line.told (lit "modify") = some modify) :
    ∃ value : TimeVal (tmTold modify), value.text = modify := by
  obtain ⟨before, fact, after, hfacts, hkey, rfl, -⟩ := toldValue_split h
  have hmem : fact ∈ line.facts := by
    rw [hfacts]
    exact List.mem_append_right _ List.mem_cons_self
  have hpiece := @isDigits_piece fact.value (fact.dated hkey) (line.times fact hmem hkey)
  obtain ⟨hyear, hyears⟩ := hpiece 0 (show 0 < 4 by decide) (by decide)
  obtain ⟨hmon, hmons⟩ := hpiece 4 (show 0 < 2 by decide) (by decide)
  obtain ⟨hmday, hmdays⟩ := hpiece 6 (show 0 < 2 by decide) (by decide)
  obtain ⟨hhour, hhours⟩ := hpiece 8 (show 0 < 2 by decide) (by decide)
  obtain ⟨hmin, hmins⟩ := hpiece 10 (show 0 < 2 by decide) (by decide)
  obtain ⟨hsec, hsecs⟩ := hpiece 12 (show 0 < 2 by decide) (by decide)
  rw [List.drop_zero] at hyear hyears
  refine ⟨⟨fact.value.take 4, (fact.value.drop 4).take 2, (fact.value.drop 6).take 2, (fact.value.drop 8).take 2,
    (fact.value.drop 10).take 2, (fact.value.drop 12).take 2, fact.value.drop 14, ⟨hyear, hyears, ?_⟩, ⟨hmon, hmons, ?_⟩,
    ⟨hmday, hmdays, rfl⟩, ⟨hhour, hhours, rfl⟩, ⟨hmin, hmins, rfl⟩, hsec, hsecs, rfl⟩, ?_⟩
  · exact (Int.sub_add_cancel _ _).symm
  · exact (Int.sub_add_cancel _ _).symm
  · have hstep : ∀ p, (fact.value.drop p).take 2 ++ fact.value.drop (p + 2) = fact.value.drop p := fun p => by
      rw [← List.drop_drop, List.take_append_drop]
    unfold TimeVal.text
    dsimp only
    rw [hstep 12, hstep 10, hstep 8, hstep 6, hstep 4, List.take_append_drop]

theorem mlstTime_of_some {modify : CString} (h : line.told (lit "modify") = some modify) :
    mlstTime clock (line.seen st).1 = .ok (if NoTime clock (timeTold modify) then -1
      else Int.bmod (timeTold modify + clock.shift (timeTold modify)) (2 ^ 32)) := by
  obtain ⟨value, htext⟩ := line.timeVal h
  obtain ⟨before, fact, after, hfacts, hkey, hvalue, hlast⟩ := toldValue_split h
  obtain ⟨rest, hmodify⟩ := @factsSeen_modifyS st before after fact line.name hkey hlast
  have hclean : nul ∉ value.text := by
    intro hmem
    rw [htext, ← hvalue] at hmem
    exact (fact.line.2 nul hmem).2.1 rfl
  have hread := copyMdtmToTimet_text clock value hclean rest
  rw [htext] at hread
  unfold mlstTime FactsLine.seen
  rw [hfacts, hmodify, hvalue]
  dsimp only
  rw [hread, timeTold]
  by_cases hnone : NoTime clock (timegm (tmTold modify))
  · rw [if_pos hnone, if_pos hnone]
    rfl
  · rw [if_neg hnone, if_neg hnone]
    rfl

/-- A time that fits is read as it is: an offset never changes by a distance that 32 bits wrap around by. -/
theorem readTime_iff (time : Int) :
    (if NoTime clock time then -1 else Int.bmod (time + clock.shift time) (2 ^ 32)) = time ↔ TimeFits clock time := by
  have hshift : clock.shift time = clock.zone.standard clock.now - clock.zone.standard time := rfl
  have hnow := clock.zone.bounded clock.now
  have hthen := clock.zone.bounded time
  have hlow := @Int.le_bmod (time + clock.shift time) (2 ^ 32) (by decide)
  have hhigh := @Int.bmod_lt (time + clock.shift time) (2 ^ 32) (by decide)
  have hdiv := Int.bdiv_add_bmod (time + clock.shift time) (2 ^ 32)
  unfold TimeFits
  by_cases hnone : NoTime clock time
  · rw [if_pos hnone, if_pos hnone]
    omega
  · rw [if_neg hnone, if_neg hnone]
    constructor
    · intro hread
      have hexact : Int.bdiv (time + clock.shift time) (2 ^ 32) = 0 := by omega
      rw [hexact] at hdiv
      omega
    · rintro ⟨hfrom, hto, hsame⟩
      rw [Int.bmod_eq_of_le (by omega) (by omega)]
      omega

/-- A name that does not fit the buffer is written behind its end. -/
theorem parseMlstLine_overflow (h : filenameSize ≤ line.name.length) :
    parseMlstLine clock line.text st filenameSize = .error .arrayBounds := by
  have hdrop : line.text.drop ((factsText line.facts).length + 1) = line.name := by
    rw [FactsLine.text, List.append_cons, List.drop_left' (by simp)]
  unfold parseMlstLine
  rw [FactsLine.text, strchr_append (space_notMem_factsText line.facts), ← FactsLine.text]
  dsimp only
  rw [hdrop, mlstName, if_neg (by omega)]
  rfl

theorem rdropWhile_isSpace_iff {name : CString} : name.rdropWhile isSpace = name ↔ ∀ c ∈ name.getLast?, isSpace c = false := by
  rw [List.rdropWhile_eq_self_iff]
  cases name using List.reverseRecOn with
  | nil => simp
  | append_singleton name c => simp

/-- The entry that a line is parsed into, where the name fits. -/
theorem parseMlstLine_seen (h : line.name.length < filenameSize) :
    ∃ mtime, mlstTime clock (line.seen st).1 = .ok mtime ∧ parseMlstLine clock line.text st filenameSize =
      .ok (some ({ (line.seen st).2 with
        stNlink := 1, stMode := mlstMode (line.seen st).1, stSize := mlstSize (line.seen st).1, stMtime := mtime },
        line.name.rdropWhile isSpace)) := by
  obtain ⟨mtime, hmtime⟩ := mlstTime_factsSeen clock line.facts line.name st
  refine ⟨mtime, hmtime, ?_⟩
  rw [FactsLine.text, parseMlstLine_text clock line.facts h, hmtime]
  rfl

theorem permissions_iff {mode : CString} (h : line.told (lit "unix.mode") = some mode) :
    (mlstMode (line.seen st).1 &&& 0o7777).toNat = octal mode % 0o10000 ↔ octal mode < 2 ^ 64 ∨ octal mode % 0o10000 = 0o7777 := by
  have hbits : ((if (line.seen st).1.type = .dir then sIfdir else sIfreg) &&& 0o7777 : ModeT) = 0 := by split <;> decide
  rw [mlstMode_of_some h, or_and_permissions _ hbits, BitVec.toNat_ofNat]
  omega

theorem mlstSize_iff {size : CString} (h : line.told (lit "size") = some size) :
    mlstSize (line.seen st).1 = decimal size ↔ decimal size < 2 ^ 63 := by
  have hseen : (line.seen st).1.sizeS = some size := (factsSeen_sizeS line.facts line.name st).trans h
  rw [mlstSize, hseen, Option.bind_some, scanInt_decimal (line.number_of_told h (by decide))]
  simp only [Option.map_some, Option.getD_some]
  omega

theorem stUid_iff {uid : CString} (h : line.told (lit "unix.uid") = some uid) :
    (line.seen st).2.stUid = decimal uid ↔ decimal uid < 2 ^ 32 := by
  rw [FactsLine.seen, factsSeen_stUid, show toldValue _ line.facts = some uid from h,
    ← toUInt32_atol (line.number_of_told h (by decide))]
  rfl

theorem stGid_iff {gid : CString} (h : line.told (lit "unix.gid") = some gid) :
    (line.seen st).2.stGid = decimal gid ↔ decimal gid < 2 ^ 32 := by
  rw [FactsLine.seen, factsSeen_stGid, show toldValue _ line.facts = some gid from h,
    ← toUInt32_atol (line.number_of_told h (by decide))]
  rfl

end Parsed

/-- A line is parsed into the entry that it encodes just where the name fits the buffer and does not end with a blank, the type fits
the mode, and the numbers and the time fit what they are kept in. -/
theorem mlst_facts_iff (clock : Clock) (line : FactsLine) (st : FtpStat) (filenameSize : Nat) :
    ParsesFacts clock line st filenameSize ↔ FactsFit clock line filenameSize := by
  by_cases hname : line.name.length < filenameSize
  · obtain ⟨mtime, hmtime, hparsed⟩ := @parseMlstLine_seen clock line st filenameSize hname
    have htake : line.name.take (filenameSize - 1) = line.name := List.take_of_length_le (by omega)
    have htime : ∀ modify, line.told (lit "modify") = some modify → (mtime = timeTold modify ↔ TimeFits clock (timeTold modify)) := by
      intro modify hmodify
      rw [mlstTime_of_some clock hmodify] at hmtime
      rw [← readTime_iff clock, ← Except.ok.inj hmtime]
    unfold ParsesFacts
    rw [hparsed]
    constructor
    · rintro ⟨entry, hentry, hencoded⟩
      cases hentry
      exact ⟨hname, rdropWhile_isSpace_iff.mp (hencoded.name.trans htake), kindFits_iff.mp ⟨hencoded.dir, hencoded.reg⟩,
        fun mode h => (permissions_iff h).mp (hencoded.permissions mode h), fun size h => (mlstSize_iff h).mp (hencoded.size size h),
        fun uid h => (stUid_iff h).mp (hencoded.uid uid h), fun gid h => (stGid_iff h).mp (hencoded.gid gid h),
        fun modify h => (htime modify h).mp (hencoded.time modify h)⟩
    · intro h
      obtain ⟨hdir, hreg⟩ := (@kindFits_iff line st).mpr h.kind
      exact ⟨_, rfl, hdir, hreg, fun mode hmode => (permissions_iff hmode).mpr (h.permissions mode hmode),
        fun size hsize => (mlstSize_iff hsize).mpr (h.size size hsize), fun uid huid => (stUid_iff huid).mpr (h.uid uid huid),
        fun gid hgid => (stGid_iff hgid).mpr (h.gid gid hgid),
        fun modify hmodify => (htime modify hmodify).mpr (h.time modify hmodify),
        (rdropWhile_isSpace_iff.mpr h.ends).trans htake.symm⟩
  · refine iff_of_false ?_ fun h => hname h.name
    rintro ⟨entry, hparsed, -⟩
    rw [parseMlstLine_overflow clock (by omega)] at hparsed
    cases hparsed

/-- `type=dir; d` is told to be a directory and is none, and `modify=20400101000000; d` is told to be of the year 2040 and is of
1903. -/
theorem listed_facts_lost :
    let clock : FixedClock := ⟨⟨0, by decide⟩, 1700000000⟩
    let dir : FactText := ⟨lit "type", lit "dir", by decide, by decide, by decide, by decide⟩
    let modify : FactText := ⟨lit "modify", lit "20400101000000", by decide, by decide, by decide, by decide⟩
    ¬ParsesFacts clock ⟨[dir], lit "d", by decide, by decide, by decide, by decide⟩ {} 256 ∧
      ¬ParsesFacts clock ⟨[modify], lit "d", by decide, by decide, by decide, by decide⟩ {} 256 := by
  constructor
  · rintro ⟨entry, hparsed, hencoded⟩
    have hdir := congrArg (Except.map (Option.map fun entry => sIsdir entry.1.stMode)) hparsed
    change _ = Except.ok (some (sIsdir entry.1.stMode)) at hdir
    rw [hencoded.dir.mpr ⟨lit "dir", rfl, by decide⟩] at hdir
    exact absurd hdir (by decide +kernel)
  · rintro ⟨entry, hparsed, hencoded⟩
    have htime := congrArg (Except.map (Option.map fun entry => entry.1.stMtime)) hparsed
    change _ = Except.ok (some entry.1.stMtime) at htime
    rw [hencoded.time (lit "20400101000000") rfl] at htime
    exact absurd htime (by decide +kernel)

end Gfal2
