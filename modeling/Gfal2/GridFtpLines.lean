import Gfal2.GridFtpParsing

/-! The lines that servers write, column by column or fact by fact, and what is read back from them. -/

namespace Gfal2

open Base

/-- A text of bytes without NUL and without a line feed. -/
def IsLineText (text : CString) : Prop := ∀ c ∈ text, c.toNat < 256 ∧ c ≠ nul ∧ c ≠ '\n'

instance (text : CString) : Decidable (IsLineText text) := inferInstanceAs (Decidable (∀ c ∈ text, _))

/-- A text without blanks. -/
structure Word where
  text : CString
  ne : text ≠ []
  solid : ∀ c ∈ text, isSpace c = false
  line : IsLineText text

/-- The blanks between two columns. -/
structure Blanks where
  text : CString
  ne : text ≠ []
  blank : ∀ c ∈ text, isSpace c = true
  line : IsLineText text

structure FileName where
  text : CString
  ne : text ≠ []
  short : text.length ≤ 255
  line : IsLineText text

/-- A column with the blanks behind it. -/
structure Column where
  word : Word
  blanks : Blanks

def Column.text (column : Column) : CString := column.word.text ++ column.blanks.text

/-- The columns of a LIST line in front of the name. -/
structure ListColumns where
  mode : Column
  nlinks : Column
  owner : Column
  group : Column
  size : Column
  month : Column
  day : Column
  yearOrTime : Column

def ListColumns.all (columns : ListColumns) : List Column :=
  [columns.mode, columns.nlinks, columns.owner, columns.group, columns.size, columns.month, columns.day, columns.yearOrTime]

/-- A fact of an MLST line. The time that a file was modified at begins with fourteen characters. -/
structure FactText where
  key : CString
  value : CString
  keyClean : ∀ c ∈ key, isSpace c = false ∧ c ≠ '=' ∧ c ≠ ';'
  valueClean : ∀ c ∈ value, isSpace c = false ∧ c ≠ ';'
  line : IsLineText key ∧ IsLineText value
  dated : key.map Char.toLower = lit "modify" → 14 ≤ value.length

def FactText.text (fact : FactText) : CString := fact.key ++ '=' :: fact.value ++ [';']

def FactText.read (fact : FactText) : MlstFact := ⟨fact.key.map Char.toLower, fact.value⟩

/-! ### Columns -/

section Columns

variable (clock : Clock) (accounts : Accounts) (filenameSize : Nat)

/-- Blanks in front of a column are passed over. -/
theorem readFields_blanks {blanks : CString} (h : ∀ c ∈ blanks, isSpace c = true) (fields : List FtpField) (rest : CString)
    (line : StatLine) : readFields clock accounts filenameSize fields (blanks ++ rest) line =
      readFields clock accounts filenameSize fields rest line := by
  cases fields with
  | nil => rfl
  | cons field fields =>
      rw [readFields, readFields]
      dsimp only
      rw [List.dropWhile_append_of_pos h]

theorem Word.dropWhile_append (word : Word) (rest : CString) : (word.text ++ rest).dropWhile isSpace = word.text ++ rest := by
  obtain ⟨c, text, htext⟩ := List.exists_cons_of_ne_nil word.ne
  have hc : isSpace c = false := word.solid c (htext ▸ List.mem_cons_self)
  rw [htext, List.cons_append, List.dropWhile_cons_of_neg (by simp [hc])]

/-- A column is read, and the blanks behind it do not matter. -/
theorem readFields_column (column : Column) (rest : CString) (field : FtpField) (fields : List FtpField) (line : StatLine) :
    readFields clock accounts filenameSize (field :: fields) (column.text ++ rest) line =
      readFields clock accounts filenameSize fields rest
        (readField clock accounts filenameSize column.word.text line field) := by
  obtain ⟨word, blanks⟩ := column
  obtain ⟨c, more, hblanks⟩ := List.exists_cons_of_ne_nil blanks.ne
  have hc : isSpace c = true := blanks.blank c (hblanks ▸ List.mem_cons_self)
  have hmore : ∀ c ∈ more, isSpace c = true := fun c hc => blanks.blank c (hblanks ▸ List.mem_cons_of_mem _ hc)
  have hsolid : ∀ c ∈ word.text, (!isSpace c) = true := fun c hc => by rw [word.solid c hc, Bool.not_false]
  have htext : word.text ++ blanks.text ++ rest = word.text ++ c :: (more ++ rest) := by
    rw [hblanks, List.append_assoc, List.cons_append]
  have htake : (word.text ++ c :: (more ++ rest)).takeWhile (fun c => !isSpace c) = word.text := by
    rw [List.takeWhile_append_of_pos hsolid, List.takeWhile_cons_of_neg (by simp [hc]), List.append_nil]
  have hdrop : (word.text ++ c :: (more ++ rest)).dropWhile (fun c => !isSpace c) = c :: (more ++ rest) := by
    rw [List.dropWhile_append_of_pos hsolid, List.dropWhile_cons_of_neg (by simp [hc])]
  have hstart := word.dropWhile_append (c :: (more ++ rest))
  dsimp only [Column.text]
  rw [htext, readFields]
  simp only [hstart, htake, hdrop]
  rw [if_neg (by simp), if_neg (List.cons_ne_nil _ _), List.drop_one, List.tail_cons,
    readFields_blanks clock accounts filenameSize hmore]

/-- What the columns in front of the name tell. -/
def ListColumns.read (columns : ListColumns) (fstat : FtpStat) : StatLine :=
  let read := readField clock accounts filenameSize
  let line := read columns.mode.word.text { st := fstat } .mode
  let line := read columns.nlinks.word.text line .nlinks
  let line := read columns.owner.word.text line .owner
  let line := read columns.group.word.text line .group
  let line := read columns.size.word.text line .size
  let line := read columns.month.word.text line .month
  let line := read columns.day.word.text line .day
  read columns.yearOrTime.word.text line .yearOrTime

def ListColumns.text (columns : ListColumns) : CString := columns.all.flatMap Column.text

/-- A line is read column by column, and then its name. -/
theorem readFields_line (columns : ListColumns) (start : CString) (fstat : FtpStat) :
    readFields clock accounts filenameSize [.mode, .nlinks, .owner, .group, .size, .month, .day, .yearOrTime, .name]
        (columns.text ++ start) { st := fstat } =
      readFields clock accounts filenameSize [.name] start (columns.read clock accounts filenameSize fstat) := by
  have htext : columns.text ++ start = columns.mode.text ++ (columns.nlinks.text ++ (columns.owner.text ++ (columns.group.text ++
      (columns.size.text ++ (columns.month.text ++ (columns.day.text ++ (columns.yearOrTime.text ++ start))))))) := by
    simp [ListColumns.text, ListColumns.all]
  rw [htext]
  simp only [readFields_column]
  rfl

end Columns

/-! ### Facts -/

def factsText (facts : List FactText) : CString := facts.flatMap FactText.text

theorem mlstFacts_fact (fact : FactText) (rest : CString) :
    mlstFacts (fact.text ++ rest) = (mlstFacts rest).map (fact.read :: ·) := by
  have htext : fact.text ++ rest = (fact.key ++ '=' :: fact.value) ++ ';' :: rest := by simp [FactText.text]
  have hkey : ∀ c ∈ fact.key, decide (c ≠ '=') = true := fun c hc => by simpa using (fact.keyClean c hc).2.1
  have hfact : ∀ c ∈ fact.key ++ '=' :: fact.value, decide (c ≠ ';') = true := by
    intro c hc
    rcases List.mem_append.mp hc with hkey | hvalue
    · simpa using (fact.keyClean c hkey).2.2
    · rcases List.mem_cons.mp hvalue with rfl | hvalue
      · decide
      · simpa using (fact.valueClean c hvalue).2
  have htake : ((fact.key ++ '=' :: fact.value) ++ ';' :: rest).takeWhile (· ≠ ';') = fact.key ++ '=' :: fact.value := by
    rw [List.takeWhile_append_of_pos hfact, List.takeWhile_cons_of_neg (by decide), List.append_nil]
  have hdrop : ((fact.key ++ '=' :: fact.value) ++ ';' :: rest).dropWhile (· ≠ ';') = ';' :: rest := by
    rw [List.dropWhile_append_of_pos hfact, List.dropWhile_cons_of_neg (by decide)]
  have hname : (fact.key ++ '=' :: fact.value).takeWhile (· ≠ '=') = fact.key := by
    rw [List.takeWhile_append_of_pos hkey, List.takeWhile_cons_of_neg (by decide), List.append_nil]
  have hvalue : (fact.key ++ '=' :: fact.value).dropWhile (· ≠ '=') = '=' :: fact.value := by
    rw [List.dropWhile_append_of_pos hkey, List.dropWhile_cons_of_neg (by decide)]
  rw [htext]
  obtain ⟨c, text, hcons⟩ := List.exists_cons_of_ne_nil (by simp : (fact.key ++ '=' :: fact.value) ++ ';' :: rest ≠ [])
  rw [hcons, mlstFacts, ← hcons, htake, hdrop, if_pos (by simp), hname, hvalue]
  rfl

theorem mlstFacts_text (facts : List FactText) : mlstFacts (factsText facts) = some (facts.map FactText.read) := by
  induction facts with
  | nil =>
      unfold factsText
      rw [List.flatMap_nil, mlstFacts]
      rfl
  | cons fact facts ih =>
      have htext : factsText (fact :: facts) = fact.text ++ factsText facts := List.flatMap_cons
      rw [htext, mlstFacts_fact, ih]
      rfl

theorem space_notMem_factsText (facts : List FactText) : ' ' ∉ factsText facts := by
  intro hmem
  obtain ⟨fact, -, hfact⟩ := List.mem_flatMap.mp hmem
  have hspace : isSpace ' ' = true := rfl
  rcases List.mem_append.mp hfact with htext | hend
  · rcases List.mem_append.mp htext with hkey | hvalue
    · exact absurd (fact.keyClean _ hkey).1 (by simp [hspace])
    · rcases List.mem_cons.mp hvalue with heq | hvalue
      · exact absurd heq (by decide)
      · exact absurd (fact.valueClean _ hvalue).1 (by simp [hspace])
  · exact absurd hend (by decide)

theorem strchr_append {text : CString} {c : Char} (h : c ∉ text) (rest : CString) :
    strchr (text ++ c :: rest) c = some text.length := by
  rw [strchr, List.findIdx?_eq_some_iff_getElem]
  refine ⟨by simp, by simp, fun j hj => ?_⟩
  rw [List.getElem_append_left hj]
  simp only [beq_iff_eq]
  rintro rfl
  exact h (List.getElem_mem hj)

section Facts

variable (clock : Clock) {st : FtpStat} {behind : Buffer}

/-- What the facts of a line tell, with the name behind them. -/
def factsSeen (facts : List FactText) (name : CString) (st : FtpStat) : MlstSeen × FtpStat :=
  seeFacts (name ++ [nul]) (facts.map FactText.read) ({}, st)

/-- A line is read fact by fact, and then its name. -/
theorem parseMlstLine_text (facts : List FactText) {name : CString} {filenameSize : Nat} (hname : name.length < filenameSize) :
    parseMlstLine clock (factsText facts ++ ' ' :: name) st filenameSize =
      (mlstTime clock (factsSeen facts name st).1).map fun mtime =>
        some ({ (factsSeen facts name st).2 with
          stNlink := 1, stMode := mlstMode (factsSeen facts name st).1, stSize := mlstSize (factsSeen facts name st).1,
          stMtime := mtime }, name.rdropWhile isSpace) := by
  have hdrop : (factsText facts ++ ' ' :: name).drop ((factsText facts).length + 1) = name := by
    rw [List.append_cons, List.drop_left' (by simp)]
  have htake : (factsText facts ++ ' ' :: name).take (factsText facts).length = factsText facts := List.take_left' rfl
  unfold parseMlstLine
  rw [strchr_append (space_notMem_factsText facts)]
  dsimp only
  rw [hdrop, htake, mlstFacts_text, mlstName, if_pos hname]
  rfl

theorem seeFact_modifyS (fact : MlstFact) (state : MlstSeen × FtpStat) : (seeFact behind fact state).1.modifyS =
      if fact.key = lit "modify" then some (fact.value ++ nul :: behind) else state.1.modifyS := by
  obtain ⟨seen, st⟩ := state
  unfold seeFact
  dsimp only
  by_cases hmodify : fact.key = lit "modify"
  · rw [if_pos hmodify, hmodify, if_neg (by decide), if_neg (by decide), if_pos rfl]
  · rw [if_neg hmodify]
    repeat' split
    all_goals rfl

/-- The times that are kept of a line: each stands in front of a NUL, and has fourteen characters. -/
theorem seeFacts_dated {facts : List FactText} {state : MlstSeen × FtpStat}
    (h : ∀ memory ∈ state.1.modifyS, ∃ value rest, memory = value ++ nul :: rest ∧ 14 ≤ value.length) :
    ∀ memory ∈ (seeFacts behind (facts.map FactText.read) state).1.modifyS,
      ∃ value rest, memory = value ++ nul :: rest ∧ 14 ≤ value.length := by
  induction facts generalizing state with
  | nil => exact h
  | cons fact facts ih =>
      rw [List.map_cons, seeFacts]
      refine ih fun memory hmemory => ?_
      rw [seeFact_modifyS] at hmemory
      split at hmemory
      · rename_i hkey
        cases hmemory
        exact ⟨fact.value, _, rfl, fact.dated hkey⟩
      · exact h memory hmemory

/-- A line without a time keeps the one that was found before. -/
theorem seeFacts_keeps {facts : List MlstFact} (h : ∀ fact ∈ facts, fact.key ≠ lit "modify") (state : MlstSeen × FtpStat) :
    (seeFacts behind facts state).1.modifyS = state.1.modifyS := by
  induction facts generalizing state with
  | nil => rfl
  | cons fact facts ih =>
      obtain ⟨hfact, hfacts⟩ := List.forall_mem_cons.mp h
      rw [seeFacts, ih hfacts, seeFact_modifyS, if_neg hfact]

theorem seeFacts_append (before after : List MlstFact) (state : MlstSeen × FtpStat) :
    seeFacts behind (before ++ after) state = seeFacts behind after (seeFacts (factsMemory after behind) before state) := by
  induction before generalizing state with
  | nil => rfl
  | cons fact before ih =>
      have hmemory : factsMemory (before ++ after) behind = factsMemory before (factsMemory after behind) := by
        simp [factsMemory]
      rw [List.cons_append, seeFacts, seeFacts, ih, hmemory]

/-- The last time of a line is the one that is kept. -/
theorem factsSeen_modifyS (before after : List FactText) (fact : FactText) (name : CString)
    (hkey : fact.key.map Char.toLower = lit "modify") (hafter : ∀ later ∈ after, later.key.map Char.toLower ≠ lit "modify") :
    ∃ rest, (factsSeen (before ++ fact :: after) name st).1.modifyS = some (fact.value ++ nul :: rest) := by
  have hlater : ∀ later ∈ after.map FactText.read, later.key ≠ lit "modify" := by
    intro later hlater
    obtain ⟨text, htext, rfl⟩ := List.mem_map.mp hlater
    exact hafter text htext
  have hread : fact.read.key = lit "modify" := hkey
  unfold factsSeen
  rw [List.map_append, List.map_cons, seeFacts_append, seeFacts, seeFacts_keeps hlater, seeFact_modifyS, if_pos hread]
  exact ⟨_, rfl⟩

end Facts

/-! ### Times -/

section Times

variable (clock : Clock) {value : List Char}

theorem cstringAt_eq {rest : List Char} {p : Nat} (hp : p ≤ value.length) (hvalue : nul ∉ value) :
    cstringAt (value ++ nul :: rest) p = some (value.drop p) := by
  have hdrop : (value ++ nul :: rest).drop p = value.drop p ++ nul :: rest := List.drop_append_of_le_length hp
  have hclean : ∀ c ∈ value.drop p, decide (c ≠ nul) = true := by
    intro c hc
    apply decide_eq_true
    rintro rfl
    exact hvalue (List.mem_of_mem_drop hc)
  unfold cstringAt
  rw [hdrop, if_pos (by simp), List.takeWhile_append_of_pos hclean, List.takeWhile_cons_of_neg (by simp), List.append_nil]

/-- A place in front of a NUL can be read. -/
theorem cstringAt_isSome {rest : List Char} {p : Nat} (hp : p ≤ value.length) :
    ∃ text, cstringAt (value ++ nul :: rest) p = some text := by
  unfold cstringAt
  rw [List.drop_append_of_le_length hp, if_pos (by simp)]
  exact ⟨_, rfl⟩

/-- Nothing is read outside the memory. -/
def NoFault {α : Type} (result : Except (Option Fault) α) : Prop := ∀ fault, result ≠ .error (some fault)

theorem NoFault.bind {α β : Type} {x : Except (Option Fault) α} {f : α → Except (Option Fault) β} (hx : NoFault x)
    (hf : ∀ a, NoFault (f a)) : NoFault (x >>= f) := by
  intro fault
  cases x with
  | error e =>
      intro h
      cases h
      exact hx fault rfl
  | ok a => exact hf a fault

theorem noFault_throw {α : Type} : NoFault (throw none : Except (Option Fault) α) := fun fault h => by cases h

theorem noFault_pure {α : Type} (a : α) : NoFault (pure a : Except (Option Fault) α) := fun fault h => by cases h

theorem noFault_scanField {rest : List Char} {p : Nat} (hp : p ≤ value.length) (width : Nat) :
    NoFault (scanField (value ++ nul :: rest) p width) := by
  obtain ⟨text, htext⟩ := @cstringAt_isSome value rest p hp
  unfold scanField
  rw [htext]
  dsimp only
  split
  · exact noFault_throw
  · exact noFault_pure _

theorem noFault_copyMdtmToTimet {rest : List Char} (h : 14 ≤ value.length) :
    NoFault (copyMdtmToTimet clock (value ++ nul :: rest)) := by
  unfold copyMdtmToTimet
  apply (noFault_scanField (by omega) 4).bind; intro year
  apply (noFault_scanField (by omega) 2).bind; intro mon
  apply (noFault_scanField (by omega) 2).bind; intro mday
  apply (noFault_scanField (by omega) 2).bind; intro hour
  apply (noFault_scanField (by omega) 2).bind; intro min
  apply (noFault_scanField (by omega) 2).bind; intro sec
  dsimp only
  split
  · exact noFault_throw
  · split
    · exact noFault_throw
    · split
      · exact noFault_throw
      · exact noFault_pure _

/-- The time of a line is read without a fault. -/
theorem mlstTime_factsSeen (facts : List FactText) (name : CString) (st : FtpStat) :
    ∃ mtime, mlstTime clock (factsSeen facts name st).1 = .ok mtime := by
  have hdated : ∀ memory ∈ (factsSeen facts name st).1.modifyS, ∃ value rest, memory = value ++ nul :: rest ∧ 14 ≤ value.length :=
    seeFacts_dated (by simp)
  unfold mlstTime
  cases hseen : (factsSeen facts name st).1.modifyS with
  | none => exact ⟨-1, rfl⟩
  | some memory =>
      obtain ⟨value, rest, rfl, hlength⟩ := hdated memory hseen
      have hread := @noFault_copyMdtmToTimet clock value rest hlength
      dsimp only
      cases hmdtm : copyMdtmToTimet clock (value ++ nul :: rest) with
      | ok mdtm => exact ⟨mdtm, rfl⟩
      | error e =>
          cases e with
          | none => exact ⟨-1, rfl⟩
          | some fault => exact absurd hmdtm (hread fault)

end Times

end Gfal2
