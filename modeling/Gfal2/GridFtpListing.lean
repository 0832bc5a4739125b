import Gfal2.GridFtpBodies
import Gfal2.UriAuthority

/-! Whether the directory readers return every entry of a listing with its full name, however the listing is cut into chunks. -/

namespace Gfal2

open Base GridFtpStreamBuffer GridFtpDirReader

/-! ### Bodies -/

/-- An entry of a listing, whose line is ended by a carriage return or not. -/
structure Listed (ε : Type) where
  entry : ε
  cr : Bool

def lineEnd (cr : Bool) : CString := if cr then ['\r'] else []

structure LinkTarget where
  text : CString
  line : IsLineText text

/-- An entry of a LIST answer. -/
structure LsEntry where
  columns : ListColumns
  name : FileName
  target : Option LinkTarget

/-- What stands behind the name. -/
def LsEntry.behind (entry : LsEntry) : CString := (entry.target.map fun target => lit " -> " ++ target.text).getD []

def LsEntry.text (entry : LsEntry) : CString := entry.columns.text ++ (entry.name.text ++ entry.behind)

/-- The line with the number of blocks. -/
structure TotalLine where
  digits : CString
  isDigits : isDigits digits = true
  cr : Bool

def TotalLine.text (total : TotalLine) : CString := lit "total " ++ (total.digits ++ lineEnd total.cr)

/-- The answer to LIST. -/
structure LsBody where
  total : Option TotalLine
  entries : List (Listed LsEntry)
  openEnd : Bool

structure MlsdEntry where
  facts : List FactText
  name : FileName

def MlsdEntry.text (entry : MlsdEntry) : CString := factsText entry.facts ++ ' ' :: entry.name.text

structure MlsdBody where
  entries : List (Listed MlsdEntry)
  openEnd : Bool

def Listed.lsText (listed : Listed LsEntry) : CString := listed.entry.text ++ lineEnd listed.cr

def Listed.mlsdText (listed : Listed MlsdEntry) : CString := listed.entry.text ++ lineEnd listed.cr

namespace LsBody

def lines (body : LsBody) : List CString := (body.total.map TotalLine.text).toList ++ body.entries.map Listed.lsText

def bytes (body : LsBody) : List UInt8 := bodyBytes body.openEnd (body.lines.map bytesOf)

def names (body : LsBody) : List CString := body.entries.map fun listed => listed.entry.name.text

/-- The bytes up to the end of the last name. -/
def upToNames (body : LsBody) : List UInt8 :=
  closedLines (body.lines.dropLast.map bytesOf) ++
    ((body.entries.getLast?.map fun last => bytesOf (last.entry.columns.text ++ last.entry.name.text)).getD [])

end LsBody

namespace MlsdBody

def bytes (body : MlsdBody) : List UInt8 := bodyBytes body.openEnd (body.entries.map fun listed => bytesOf listed.mlsdText)

def names (body : MlsdBody) : List CString := body.entries.map fun listed => listed.entry.name.text

end MlsdBody

/-! ### Texts and bytes -/

variable {text : CString}

theorem IsLineText.append {more : CString} (h : IsLineText text) (hmore : IsLineText more) : IsLineText (text ++ more) :=
  List.forall_mem_append.mpr ⟨h, hmore⟩

theorem isLineText_lineEnd (cr : Bool) : IsLineText (lineEnd cr) := by
  cases cr <;> decide

theorem IsLineText.of_mem (h : IsLineText text) {part : CString} (hpart : ∀ c ∈ part, c ∈ text) :
    IsLineText part := fun c hc => h c (hpart c hc)

theorem toNat_byteOf {c : Char} (h : c.toNat < 256) : (UInt8.ofNat c.toNat).toNat = c.toNat := by
  rw [UInt8.toNat_ofNat', Nat.mod_eq_of_lt h]

theorem charsOf_bytesOf (h : IsLineText text) : charsOf (bytesOf text) = text := by
  unfold charsOf bytesOf
  rw [List.map_map]
  conv_rhs => rw [← List.map_id text]
  apply List.map_congr_left
  intro c hc
  simp [toNat_byteOf (h c hc).1]

theorem bytesOf_charsOf (bytes : List UInt8) : bytesOf (charsOf bytes) = bytes := by
  unfold charsOf bytesOf
  rw [List.map_map]
  conv_rhs => rw [← List.map_id bytes]
  apply List.map_congr_left
  intro byte _
  simp [toNat_charOf]

/-- The bytes of a line without NUL and without a line feed. -/
theorem bytesOf_clean (h : IsLineText text) : 0 ∉ bytesOf text ∧ lineFeed ∉ bytesOf text := by
  have hbyte : ∀ byte : UInt8, byte ∈ bytesOf text → ∃ c ∈ text, c = Char.ofNat byte.toNat := by
    intro byte hbyte
    obtain ⟨c, hc, rfl⟩ := List.mem_map.mp hbyte
    exact ⟨c, hc, by rw [toNat_byteOf (h c hc).1, Char.ofNat_toNat]⟩
  constructor
  · intro hmem
    obtain ⟨c, hc, rfl⟩ := hbyte 0 hmem
    exact (h _ hc).2.1 rfl
  · intro hmem
    obtain ⟨c, hc, rfl⟩ := hbyte lineFeed hmem
    exact (h _ hc).2.2 rfl

theorem LsEntry.isLineText (entry : LsEntry) : IsLineText entry.text := by
  have hcolumns : IsLineText entry.columns.text := by
    intro c hc
    obtain ⟨column, -, hmem⟩ := List.mem_flatMap.mp hc
    rcases List.mem_append.mp hmem with hword | hblank
    · exact column.word.line c hword
    · exact column.blanks.line c hblank
  have harrow : IsLineText (lit " -> ") := by decide
  have hbehind : IsLineText entry.behind := by
    unfold LsEntry.behind
    cases entry.target with
    | none => exact List.forall_mem_nil _
    | some target => exact harrow.append target.line
  exact hcolumns.append (entry.name.line.append hbehind)

theorem MlsdEntry.isLineText (entry : MlsdEntry) : IsLineText entry.text := by
  have hequals : IsLineText ['='] := by decide
  have hsemicolon : IsLineText [';'] := by decide
  have hspace : IsLineText [' '] := by decide
  have hfacts : IsLineText (factsText entry.facts) := by
    intro c hc
    obtain ⟨fact, -, hmem⟩ := List.mem_flatMap.mp hc
    have hfact : IsLineText fact.text := (fact.line.1.append (hequals.append fact.line.2)).append hsemicolon
    exact hfact c hmem
  exact hfacts.append (hspace.append entry.name.line)

/-! ### Complete listings -/

variable {lines : List (List UInt8)}

section Complete

variable (reader : GridFtpDirReader) (st : FtpStat)

/-- However the bytes are cut into chunks, the calls return the names, and then they report the end. -/
def Complete (bytes : List UInt8) (names : List CString) : Prop :=
  ∀ chunks, chunkBytes chunks = bytes → reader.readdirAll (make chunks) st = (names, none)

variable {reader st} {openEnd : Bool} {names : List CString}

/-- The body as a whole is read as it should be. -/
theorem Complete.whole (h : Complete reader st (bodyBytes openEnd lines) names) (hlines : AreLines lines) :
    reader.readdirLines lines st = (names, none) := by
  by_cases hnil : bodyBytes openEnd lines = []
  · have hread := h [] hnil.symm
    have hnone : lines = [] := by rw [← linesOf_bodyBytes openEnd hlines, hnil, linesOf, if_pos rfl]
    have hempty : readLines (make []) = [] := (readLines_eq _).trans readOn_end
    rw [readdirAll_eq, hempty] at hread
    rw [hnone, hread]
  · have hread := h [⟨bodyBytes openEnd lines, hnil⟩] (by simp [chunkBytes])
    rw [readdirAll_eq, readLines_make, readOn_eq (by simp)] at hread
    rw [← hread]
    simp [linesOf_bodyBytes openEnd hlines]

/-- A body that is divided at a byte 0xff is read as it should be. -/
theorem Complete.divided
    (h : Complete reader st (bodyBytes openEnd lines) names) (hlines : AreLines lines) (hlength : names.length = lines.length)
    {before after : List UInt8} (hsplit : bodyBytes openEnd lines = before ++ 255 :: after) (hbefore : before ≠ []) :
    ∃ front start rest back, lines = front ++ (start ++ 255 :: rest) :: back ∧ start ≠ [] ∧ before = closedLines front ++ start ∧
      (back = [] → after = rest ++ bodyEnd openEnd) ∧
        reader.readdirLines (front ++ start :: (255 :: rest) :: back) st = (names, none) := by
  obtain ⟨front, start, rest, back, hwhole, hfront, hafter, hback⟩ := bodyBytes_split hlines (by decide) hsplit
  have hfronts : AreLines front := fun line hline => hlines line (hwhole ▸ List.mem_append_left _ hline)
  have hstart : lineFeed ∉ start := by
    intro hmem
    refine (hlines (start ++ 255 :: rest) ?_).1 (List.mem_append_left _ hmem)
    exact hwhole ▸ List.mem_append_right _ List.mem_cons_self
  obtain ⟨hread, hopen⟩ := linesOf_begun hfronts hstart
  have hall := h [⟨before, hbefore⟩, ⟨255 :: after, List.cons_ne_nil _ _⟩] (by simp [chunkBytes, hsplit])
  rw [readdirAll_eq, readLines_divided, hfront, hread, hopen, hafter] at hall
  have hbegun : start ≠ [] := by
    intro hnil
    rw [if_pos hnil, if_pos hnil, List.append_nil, List.append_nil] at hall
    have hle := @length_readdirLines_le reader front st
    rw [hall, hlength, hwhole, List.length_append, List.length_cons] at hle
    omega
  rw [if_neg hbegun, if_neg hbegun, List.append_assoc] at hall
  exact ⟨front, start, rest, back, hwhole, hbegun, hfront, hback, hall⟩

/-- Where the byte 0xff is nowhere behind the first byte, all lines are read. -/
theorem readLines_of_uncut (hlines : AreLines lines)
    (h : ∀ before after, bodyBytes openEnd lines = before ++ 255 :: after → before = []) {chunks : List Chunk}
    (hchunks : chunkBytes chunks = bodyBytes openEnd lines) : readLines (make chunks) = lines := by
  obtain hwhole | ⟨before, chunk, later, hbytes, hbefore, -⟩ := readLines_chunks chunks
  · rw [hwhole, hchunks, linesOf_bodyBytes openEnd hlines]
  · exact absurd (h before _ (hchunks ▸ hbytes)) hbefore

theorem Complete.of_gives (h : List.Forall₂ reader.Gives lines names)
    (st : FtpStat) : reader.readdirLines lines st = (names, none) := by
  obtain ⟨st', hread⟩ := readdirLines_append h [] st
  rw [List.append_nil] at hread
  rw [hread, readdirLines, List.append_nil]

end Complete

/-! ### LIST -/

variable {line start : List UInt8}

section List

variable (clock : Clock) (accounts : Accounts) {tail : CString}

/-- Behind a word that ends at a blank the words go on. -/
theorem nthWord_word (k : Nat) {word : CString} (hword : ∀ c ∈ word, isSpace c = false) (hne : word ≠ [])
    (htail : StopsAt (fun c => !isSpace c) tail) : nthWord (k + 1) (word ++ tail) = nthWord k tail := by
  have hsolid : ∀ c ∈ word, (!isSpace c) = true := fun c hc => by rw [hword c hc, Bool.not_false]
  have hstart : (word ++ tail).dropWhile isSpace = word ++ tail := by
    obtain ⟨c, more, rfl⟩ := List.exists_cons_of_ne_nil hne
    rw [List.cons_append, List.dropWhile_cons_of_neg (by simp [hword c List.mem_cons_self])]
  have hstop : tail.dropWhile (fun c => !isSpace c) = tail := by
    cases tail with
    | nil => rfl
    | cons c tail => rw [List.dropWhile_cons_of_neg (by simpa using htail c rfl)]
  rw [nthWord, hstart, List.dropWhile_append_of_pos hsolid, hstop]

theorem nthWord_column (k : Nat) (column : Column) (rest : CString) : nthWord (k + 1) (column.text ++ rest) = nthWord k rest := by
  obtain ⟨word, blanks⟩ := column
  have hstop : StopsAt (fun c => !isSpace c) (blanks.text ++ rest) := by
    obtain ⟨c, more, hblanks⟩ := List.exists_cons_of_ne_nil blanks.ne
    have hc : isSpace c = true := blanks.blank c (hblanks ▸ List.mem_cons_self)
    rw [hblanks, List.cons_append, stopsAt_cons]
    simp [hc]
  have htext : (⟨word, blanks⟩ : Column).text ++ rest = word.text ++ (blanks.text ++ rest) := List.append_assoc _ _ _
  rw [htext, nthWord_word k word.solid word.ne hstop, ← nthWord_dropWhile, List.dropWhile_append_of_pos blanks.blank,
    nthWord_dropWhile]

/-- The ninth word of a line is the first one behind the columns. -/
theorem nthWord_columns (columns : ListColumns) (rest : CString) : nthWord 8 (columns.text ++ rest) = nthWord 0 rest := by
  have htext : columns.text ++ rest = columns.mode.text ++ (columns.nlinks.text ++ (columns.owner.text ++ (columns.group.text ++
      (columns.size.text ++ (columns.month.text ++ (columns.day.text ++ (columns.yearOrTime.text ++ rest))))))) := by
    simp [ListColumns.text, ListColumns.all]
  rw [htext]
  simp only [nthWord_column]

theorem nthWord_zero_solid (text : CString) : ∀ c ∈ nthWord 0 text, isSpace c = false := by
  intro c hc
  simpa using List.mem_takeWhile_imp hc

/-- A name without blanks that a blank stands behind is a word. -/
theorem nthWord_zero_name {name : CString} (hname : ∀ c ∈ name, isSpace c = false) (hne : name ≠ [])
    (htail : StopsAt (fun c => !isSpace c) tail) : nthWord 0 (name ++ tail) = name := by
  have hsolid : ∀ c ∈ name, (!isSpace c) = true := fun c hc => by rw [hname c hc, Bool.not_false]
  have hstart : (name ++ tail).dropWhile isSpace = name ++ tail := by
    obtain ⟨c, more, rfl⟩ := List.exists_cons_of_ne_nil hne
    rw [List.cons_append, List.dropWhile_cons_of_neg (by simp [hname c List.mem_cons_self])]
  rw [nthWord, hstart]
  exact takeWhile_append_of_stopsAt hsolid htail

/-- A blank, or nothing, stands behind a name, and behind a beginning of what stands there. -/
theorem LsEntry.stopsAt_behind (entry : LsEntry) (cr : Bool) (h : tail <+: entry.behind ++ lineEnd cr) :
    StopsAt (fun c => !isSpace c) tail := by
  intro c hc
  obtain ⟨more, rfl⟩ := List.head?_eq_some_iff.mp hc
  obtain ⟨rest, hrest⟩ := h
  have hspace : isSpace ' ' = true ∧ isSpace '\r' = true := by decide
  unfold LsEntry.behind at hrest
  cases htarget : entry.target with
  | none =>
      rw [htarget] at hrest
      cases cr with
      | false => cases hrest
      | true =>
          have hcr : c = '\r' := (List.cons.inj hrest).1
          simp [hcr, hspace.2]
  | some target =>
      rw [htarget] at hrest
      have hblank : c = ' ' := (List.cons.inj hrest).1
      simp [hblank, hspace.1]

/-- A line up to somewhere behind its name gives the name. -/
theorem LsEntry.gives (entry : LsEntry) (cr : Bool) (hname : ∀ c ∈ entry.name.text, isSpace c = false)
    (hline : charsOf line = entry.columns.text ++ (entry.name.text ++ tail)) (hzero : 0 ∉ line)
    (htail : tail <+: entry.behind ++ lineEnd cr) : (gridFtpListReader clock accounts).Gives line entry.name.text := by
  have hword : nthWord 8 (charsOf line) = entry.name.text := by
    rw [hline, nthWord_columns, nthWord_zero_name hname entry.name.ne (entry.stopsAt_behind cr htail)]
  have hread := (gridFtpListReader_line clock accounts hzero).2 (by rw [hword]; exact entry.name.ne)
  rwa [hword, List.take_of_length_le entry.name.short] at hread

theorem Listed.charsOf_lsText (listed : Listed LsEntry) : IsLineText listed.lsText ∧
    charsOf (bytesOf listed.lsText) = listed.entry.columns.text ++ (listed.entry.name.text ++ (listed.entry.behind ++ lineEnd listed.cr)) := by
  have htext : IsLineText listed.lsText := listed.entry.isLineText.append (isLineText_lineEnd _)
  refine ⟨htext, ?_⟩
  rw [charsOf_bytesOf htext, Listed.lsText, LsEntry.text, List.append_assoc, List.append_assoc]

/-- A line that ends before the end of the name misses the name. -/
theorem LsEntry.misses (entry : LsEntry) {c : Char} {rest : CString} (hzero : 0 ∉ line)
    (hline : entry.columns.text ++ (entry.name.text ++ tail) = charsOf line ++ c :: rest)
    (hshort : ¬entry.columns.text ++ entry.name.text <+: charsOf line) :
    (gridFtpListReader clock accounts).Misses line entry.name.text := by
  apply gridFtpListReader_misses clock accounts hzero
  intro heq
  obtain ⟨begun, hbegun, hrest⟩ | ⟨more, hcolumns, -⟩ := List.append_eq_append_iff.mp hline
  · -- the line ends within the name
    obtain ⟨behind, hbehind, -⟩ | ⟨left, hname, hleft⟩ := List.append_eq_append_iff.mp hrest
    · apply hshort
      rw [hbegun, hbehind, ← List.append_assoc]
      exact List.prefix_append _ _
    · have hword : (nthWord 8 (charsOf line)).length ≤ begun.length := by
        rw [hbegun, nthWord_columns, nthWord]
        exact ((List.takeWhile_sublist _).trans (List.dropWhile_sublist _)).length_le
      have hlength := congrArg List.length heq
      rw [hname, List.length_take, List.length_append] at hlength
      have hnil : left = [] := List.eq_nil_of_length_eq_zero (by omega)
      apply hshort
      rw [hbegun, hname, hnil, List.append_nil]
  · -- the line ends within the columns
    have hnone : nthWord 8 (charsOf line) = [] := by
      have hwords := nthWord_columns entry.columns []
      rw [List.append_nil, hcolumns] at hwords
      have hle := nthWord_isPrefix 8 (List.prefix_append (charsOf line) more)
      rw [hwords] at hle
      exact List.prefix_nil.mp hle
    rw [hnone] at heq
    exact entry.name.ne heq.symm

theorem TotalLine.clean (total : TotalLine) : IsLineText total.text ∧ 255 ∉ bytesOf total.text := by
  obtain ⟨-, hdigits⟩ := isDigits_iff.mp total.isDigits
  have hascii : ∀ c ∈ total.text, c.toNat < 128 ∧ c ≠ nul ∧ c ≠ '\n' := by
    have hword : ∀ c ∈ lit "total ", c.toNat < 128 ∧ c ≠ nul ∧ c ≠ '\n' := by decide
    have hend : ∀ c ∈ lineEnd total.cr, c.toNat < 128 ∧ c ≠ nul ∧ c ≠ '\n' := by
      cases total.cr <;> decide
    intro c hc
    rcases List.mem_append.mp hc with hc | hc
    · exact hword c hc
    · rcases List.mem_append.mp hc with hc | hc
      · have hdigit := hdigits c hc
        refine ⟨?_, by rintro rfl; exact absurd hdigit (by decide), by rintro rfl; exact absurd hdigit (by decide)⟩
        simp only [Char.isDigit, Bool.and_eq_true, decide_eq_true_eq, UInt32.le_iff_toNat_le] at hdigit
        exact Nat.lt_of_le_of_lt hdigit.2 (by decide)
      · exact hend c hc
  have hline : IsLineText total.text := fun c hc => ⟨by have := (hascii c hc).1; omega, (hascii c hc).2⟩
  refine ⟨hline, fun hmem => ?_⟩
  obtain ⟨c, hc, hbyte⟩ := List.mem_map.mp hmem
  have hnat := congrArg UInt8.toNat hbyte
  rw [toNat_byteOf (hline c hc).1] at hnat
  have hlt := (hascii c hc).1
  have hfull : (255 : UInt8).toNat = 255 := rfl
  omega

theorem isSpace_lineEnd (cr : Bool) : ∀ c ∈ lineEnd cr, isSpace c = true := by
  cases cr <;> decide

/-- The line with the number of blocks has two words. -/
theorem TotalLine.stops (total : TotalLine) : (gridFtpListReader clock accounts).Stops (bytesOf total.text) := by
  obtain ⟨hne, hdigits⟩ := isDigits_iff.mp total.isDigits
  obtain ⟨hline, -⟩ := total.clean
  have hblank := isSpace_lineEnd total.cr
  have hstop : StopsAt (fun c => !isSpace c) (lineEnd total.cr) := by
    intro c hc
    simp [hblank c (List.mem_of_mem_head? hc)]
  have hspace : StopsAt (fun c => !isSpace c) (' ' :: (total.digits ++ lineEnd total.cr)) := by
    rw [stopsAt_cons]
    decide
  have htext : total.text = lit "total" ++ ' ' :: (total.digits ++ lineEnd total.cr) := rfl
  have hskip : (' ' :: (total.digits ++ lineEnd total.cr)).dropWhile isSpace =
      (total.digits ++ lineEnd total.cr).dropWhile isSpace := rfl
  apply (gridFtpListReader_line clock accounts (bytesOf_clean hline).1).1
  rw [charsOf_bytesOf hline, htext, nthWord_word 7 (by decide) (by decide) hspace, ← nthWord_dropWhile, hskip, nthWord_dropWhile,
    nthWord_word 6 (fun c hc => ?_) hne hstop, nthWord_blank _ hblank]
  exact isSpace_of_isDigit (hdigits c hc)

/-- The lines of some entries. -/
def lsLines (entries : List (Listed LsEntry)) : List (List UInt8) := entries.map fun listed => bytesOf listed.lsText

def lsNames (entries : List (Listed LsEntry)) : List CString := entries.map fun listed => listed.entry.name.text

variable {entries : List (Listed LsEntry)}

theorem lsLines_split {front back : List (List UInt8)}
    (h : lsLines entries = front ++ line :: back) : ∃ before listed after, entries = before ++ listed :: after ∧
      front = lsLines before ∧ line = bytesOf listed.lsText ∧ back = lsLines after := by
  obtain ⟨before, others, rfl, hfront, hothers⟩ := List.map_eq_append_iff.mp h
  obtain ⟨listed, after, rfl, hline, hback⟩ := List.map_eq_cons_iff.mp hothers
  exact ⟨before, listed, after, rfl, hfront.symm, hline.symm, hback.symm⟩

theorem areLines_lsLines (entries : List (Listed LsEntry)) : AreLines (lsLines entries) := by
  intro line hline
  obtain ⟨listed, -, rfl⟩ := List.mem_map.mp hline
  refine ⟨(bytesOf_clean listed.charsOf_lsText.1).2, ?_⟩
  have hname := listed.entry.name.ne
  simp [bytesOf, Listed.lsText, LsEntry.text, hname]

/-- Lines with solid names give their names. -/
theorem lsLines_give (h : ∀ listed ∈ entries, ∀ c ∈ listed.entry.name.text, isSpace c = false) :
    List.Forall₂ (gridFtpListReader clock accounts).Gives (lsLines entries) (lsNames entries) := by
  unfold lsLines lsNames
  rw [List.forall₂_map_left_iff, List.forall₂_map_right_iff, List.forall₂_same]
  intro listed hlisted
  obtain ⟨htext, hchars⟩ := listed.charsOf_lsText
  exact listed.entry.gives clock accounts listed.cr (h listed hlisted) hchars (bytesOf_clean htext).1 List.prefix_rfl

/-- Whether a body can be read as it should be: entries behind a line with a number of blocks are not seen, names are cut off at
blanks, and a byte 0xff must not come before the end of the last name or in front of eight more words. -/
def LsBody.Readable (body : LsBody) : Prop :=
  (body.total.isSome → body.entries = []) ∧
    (∀ listed ∈ body.entries, ∀ c ∈ listed.entry.name.text, isSpace c = false) ∧
      ∀ before after, body.bytes = before ++ 255 :: after → before ≠ [] →
        body.upToNames <+: before ∧ nthWord 8 (charsOf (255 :: after)) = []

variable {clock accounts} {st : FtpStat} {body : LsBody}

theorem LsBody.lines_of_total_none (h : body.total = none) : body.lines.map bytesOf = lsLines body.entries := by
  unfold LsBody.lines lsLines
  rw [h, Option.map_none, Option.toList_none, List.nil_append, List.map_map]
  rfl

/-- A body that is read as it should be has names without blanks. -/
theorem solid_of_complete (h : (gridFtpListReader clock accounts).readdirLines (lsLines entries) st = (lsNames entries, none)) :
    ∀ listed ∈ entries, ∀ c ∈ listed.entry.name.text, isSpace c = false := by
  intro listed hlisted c hc
  by_contra hspace
  obtain ⟨before, after, rfl⟩ := List.append_of_mem hlisted
  obtain ⟨htext, hchars⟩ := listed.charsOf_lsText
  have hread : ((gridFtpListReader clock accounts).readdirLines (lsLines before ++ bytesOf listed.lsText :: lsLines after) st).1 =
      lsNames before ++ listed.entry.name.text :: lsNames after := by
    have hlines : lsLines before ++ bytesOf listed.lsText :: lsLines after = lsLines (before ++ listed :: after) := by
      simp [lsLines]
    rw [hlines, h]
    simp [lsNames]
  refine not_misses_of_readdirLines hread (by simp [lsLines, lsNames]) ?_
  apply gridFtpListReader_misses clock accounts (bytesOf_clean htext).1
  intro heq
  rw [hchars, nthWord_columns] at heq
  rw [← heq] at hc
  exact hspace (nthWord_zero_solid _ c (List.mem_of_mem_take hc))

theorem LsBody.upToNames_of_total_none (h : body.total = none) {before : List (Listed LsEntry)}
    {last : Listed LsEntry} (hentries : body.entries = before ++ [last]) :
    body.upToNames = closedLines (lsLines before) ++ bytesOf (last.entry.columns.text ++ last.entry.name.text) := by
  have hlines : body.lines = before.map Listed.lsText ++ [last.lsText] := by
    unfold LsBody.lines
    rw [h, hentries]
    simp
  unfold LsBody.upToNames lsLines
  rw [hlines, hentries, List.dropLast_concat, List.getLast?_concat, List.map_map]
  rfl

/-- The byte before which a line is cut stands behind the start of the line. -/
theorem Listed.charsOf_cut {listed : Listed LsEntry} {rest : List UInt8} {c : UInt8}
    (h : bytesOf listed.lsText = start ++ c :: rest) :
    listed.entry.columns.text ++ (listed.entry.name.text ++ (listed.entry.behind ++ lineEnd listed.cr)) =
      charsOf start ++ Char.ofNat c.toNat :: charsOf rest ∧ 0 ∉ start ∧ 0 ∉ c :: rest := by
  obtain ⟨htext, hchars⟩ := listed.charsOf_lsText
  have hzero := (bytesOf_clean htext).1
  rw [h] at hzero
  rw [← hchars, h]
  refine ⟨List.map_append, fun hmem => hzero (List.mem_append_left _ hmem), fun hmem => hzero (List.mem_append_right _ hmem)⟩

/-- A line that is cut behind its name gives its name. -/
theorem Listed.gives_cut {listed : Listed LsEntry} (hname : ∀ c ∈ listed.entry.name.text, isSpace c = false)
    {rest : List UInt8} {c : UInt8} (h : bytesOf listed.lsText = start ++ c :: rest)
    (hlong : listed.entry.columns.text ++ listed.entry.name.text <+: charsOf start) :
    (gridFtpListReader clock accounts).Gives start listed.entry.name.text := by
  obtain ⟨hchars, hzero, -⟩ := Listed.charsOf_cut h
  obtain ⟨tail, htail⟩ := hlong
  refine listed.entry.gives clock accounts listed.cr hname (by rw [← htail, List.append_assoc]) hzero ?_
  rw [← htail, ← List.append_assoc, List.append_assoc _ tail, List.append_cancel_left_eq] at hchars
  exact ⟨_, hchars.symm⟩

/-- A body that is read as it should be has no byte 0xff before the end of the last name, nor in front of eight more words. -/
theorem LsBody.cut_of_complete (htotal : body.total = none)
    (h : Complete (gridFtpListReader clock accounts) st body.bytes body.names)
    (hsolid : ∀ listed ∈ body.entries, ∀ c ∈ listed.entry.name.text, isSpace c = false) {before after : List UInt8}
    (hsplit : body.bytes = before ++ 255 :: after) (hbefore : before ≠ []) :
    body.upToNames <+: before ∧ nthWord 8 (charsOf (255 :: after)) = [] := by
  unfold LsBody.bytes at h hsplit
  rw [body.lines_of_total_none htotal] at h hsplit
  obtain ⟨front, start, rest, back, hlines, -, hfront, hafter, hread⟩ :=
    h.divided (areLines_lsLines _) (by simp [LsBody.names, lsLines]) hsplit hbefore
  obtain ⟨first, cut, others, hentries, rfl, hcut, rfl⟩ := lsLines_split hlines
  have hnames : body.names = lsNames first ++ cut.entry.name.text :: lsNames others := by
    simp [LsBody.names, lsNames, hentries]
  have hmem : cut ∈ body.entries := hentries ▸ List.mem_append_right _ List.mem_cons_self
  obtain ⟨hchars, hzero, hzerorest⟩ := Listed.charsOf_cut hcut.symm
  have hlong : cut.entry.columns.text ++ cut.entry.name.text <+: charsOf start := by
    by_contra hshort
    refine not_misses_of_readdirLines (congrArg Prod.fst (hread.trans (by rw [hnames]))) (by simp [lsLines, lsNames]) ?_
    exact cut.entry.misses clock accounts hzero hchars hshort
  have hgives : (gridFtpListReader clock accounts).Gives start cut.entry.name.text :=
    Listed.gives_cut (hsolid cut hmem) hcut.symm hlong
  have hfirst := lsLines_give clock accounts fun listed hlisted => hsolid listed (hentries ▸ List.mem_append_left _ hlisted)
  have hothers := lsLines_give clock accounts fun listed hlisted =>
    hsolid listed (hentries ▸ List.mem_append_right _ (List.mem_cons_of_mem _ hlisted))
  obtain ⟨stFirst, hfirstRead⟩ := readdirLines_append hfirst (start :: (255 :: rest) :: lsLines others) st
  obtain ⟨stCut, hcutRead⟩ := readdirLines_gives hgives ((255 :: rest) :: lsLines others) stFirst
  rw [hfirstRead, hcutRead, hnames, Prod.mk.injEq, List.append_cancel_left_eq, List.cons.injEq] at hread
  obtain ⟨hstops, hsome⟩ := gridFtpListReader_line clock accounts hzerorest
  by_cases hwords : nthWord 8 (charsOf (255 :: rest)) = []
  · rw [readdirLines_stops (hstops hwords)] at hread
    have hnone : others = [] := List.map_eq_nil_iff.mp hread.1.2.symm
    have hend : ∀ c ∈ charsOf (bodyEnd body.openEnd), isSpace c = true := by
      cases body.openEnd <;> decide
    subst hnone
    constructor
    · rw [body.upToNames_of_total_none htotal hentries, hfront]
      refine (List.prefix_append_right_inj _).mpr ?_
      rw [← bytesOf_charsOf start]
      exact hlong.map _
    · rw [hafter rfl, charsOf, ← List.cons_append, List.map_append]
      exact (nthWord_append_blank 8 _ hend).trans hwords
  · obtain ⟨stMore, hmore⟩ := readdirLines_gives (hsome hwords) (lsLines others) stCut
    obtain ⟨_, hothersRead⟩ := readdirLines_append hothers [] stMore
    rw [List.append_nil] at hothersRead
    have hlength := congrArg List.length hread.1.2
    rw [hmore, hothersRead, List.length_cons, List.length_append] at hlength
    omega

theorem count_closedLines (h : AreLines lines) : (closedLines lines).count lineFeed = lines.length := by
  induction lines with
  | nil => rfl
  | cons line lines ih =>
      obtain ⟨⟨hfeed, -⟩, hlines⟩ := List.forall_mem_cons.mp h
      have hbytes : closedLines (line :: lines) = line ++ lineFeed :: closedLines lines := by simp [closedLines]
      rw [hbytes, List.count_append, List.count_cons_self, List.count_eq_zero.mpr hfeed, ih hlines, List.length_cons, Nat.zero_add]

theorem zero_notMem_bodyBytes (openEnd : Bool) (h : ∀ line ∈ lines, 0 ∉ line) : 0 ∉ bodyBytes openEnd lines := by
  induction lines using bodyBytes.induct with
  | case1 => simp [bodyBytes]
  | case2 line =>
      rw [bodyBytes, List.mem_append]
      rintro (hmem | hmem)
      · exact h line List.mem_cons_self hmem
      · exact absurd (mem_bodyEnd hmem) (by decide)
  | case3 line next lines ih =>
      obtain ⟨hline, hlines⟩ := List.forall_mem_cons.mp h
      rw [bodyBytes, List.mem_append, List.mem_cons]
      rintro (hmem | hmem | hmem)
      · exact hline hmem
      · exact absurd hmem (by decide)
      · exact ih hlines hmem

/-- Bytes up to the last name with no more line feeds than entries in front of it. -/
theorem LsBody.last_of_upToNames (htotal : body.total = none) {first others : List (Listed LsEntry)}
    {last : Listed LsEntry} (hentries : body.entries = first ++ last :: others)
    (hlong : body.upToNames <+: closedLines (lsLines first) ++ start) (hfeed : lineFeed ∉ start) : others = [] := by
  obtain ⟨init, final, hinit⟩ : ∃ init final, last :: others = init ++ [final] :=
    ⟨_, _, (List.dropLast_concat_getLast (List.cons_ne_nil last others)).symm⟩
  have hwhole : body.entries = (first ++ init) ++ [final] := by rw [hentries, hinit, List.append_assoc]
  have hcount := hlong.sublist.count_le lineFeed
  rw [body.upToNames_of_total_none htotal hwhole, List.count_append, List.count_append,
    count_closedLines (areLines_lsLines _), count_closedLines (areLines_lsLines _), List.count_eq_zero.mpr hfeed] at hcount
  have hlength := congrArg List.length hinit
  simp only [lsLines, List.length_map, List.length_append, List.length_cons, List.length_nil] at hcount hlength
  exact List.eq_nil_of_length_eq_zero (by omega)

theorem Listed.isLineText_upToName (listed : Listed LsEntry) :
    IsLineText (listed.entry.columns.text ++ listed.entry.name.text) := by
  refine listed.entry.isLineText.of_mem fun c hc => ?_
  unfold LsEntry.text
  rw [← List.append_assoc]
  exact List.mem_append_left _ hc

/-- The line with the number of blocks stands in front of the entries, and has no byte 0xff. -/
theorem LsBody.lines_of_total {total : TotalLine} (h : body.total = some total) :
    body.lines.map bytesOf = bytesOf total.text :: lsLines body.entries ∧ AreLines (bytesOf total.text :: lsLines body.entries) ∧
      (body.entries = [] → 255 ∉ body.bytes) := by
  obtain ⟨hline, hbyte⟩ := total.clean
  have hlines : body.lines.map bytesOf = bytesOf total.text :: lsLines body.entries := by
    unfold LsBody.lines lsLines
    rw [h, List.map_append, List.map_map]
    rfl
  refine ⟨hlines, List.forall_mem_cons.mpr ⟨⟨(bytesOf_clean hline).2, by simp [bytesOf, TotalLine.text, lit]⟩, ?_⟩, ?_⟩
  · exact areLines_lsLines _
  · intro hentries hmem
    have hnone : lsLines [] = [] := rfl
    rw [LsBody.bytes, hlines, hentries, hnone, bodyBytes, List.mem_append] at hmem
    rcases hmem with hmem | hmem
    · exact hbyte hmem
    · exact absurd (mem_bodyEnd hmem) (by decide)

/-- A line that is cut behind the last name gives that name, and what is left of it is taken for the end. -/
theorem LsBody.complete_of_readable (h : body.Readable) :
    Complete (gridFtpListReader clock accounts) st body.bytes body.names := by
  obtain ⟨htotal, hsolid, hcut⟩ := h
  intro chunks hchunks
  rw [readdirAll_eq]
  cases hkind : body.total with
  | some total =>
      have hentries := htotal (by rw [hkind]; rfl)
      obtain ⟨hlines, hare, hbyte⟩ := body.lines_of_total hkind
      have hnames : body.names = [] := by simp [LsBody.names, hentries]
      have hread : readLines (make chunks) = bytesOf total.text :: lsLines body.entries := by
        refine readLines_of_uncut hare (fun before after hsplit => ?_) (hchunks.trans (by rw [LsBody.bytes, hlines]))
        refine absurd ?_ (hbyte hentries)
        rw [LsBody.bytes, hlines, hsplit]
        exact List.mem_append_right _ List.mem_cons_self
      rw [hread, readdirLines_stops (total.stops clock accounts), hnames]
  | none =>
      have hgive := lsLines_give clock accounts hsolid
      have hbytes : body.bytes = bodyBytes body.openEnd (lsLines body.entries) := by
        rw [LsBody.bytes, body.lines_of_total_none hkind]
      obtain hwhole | ⟨before, chunk, later, hsplit, hbefore, hread⟩ := readLines_chunks chunks
      · rw [hwhole, hchunks, hbytes, linesOf_bodyBytes _ (areLines_lsLines _)]
        exact Complete.of_gives hgive st
      · rw [hchunks] at hsplit
        obtain ⟨hlong, hwords⟩ := hcut before _ hsplit hbefore
        rw [hbytes] at hsplit
        obtain ⟨front, start, rest, back, hlines, hfront, -, -⟩ := bodyBytes_split (areLines_lsLines _) (by decide) hsplit
        obtain ⟨first, last, others, hentries, rfl, hlast, rfl⟩ := lsLines_split hlines
        have hmem : last ∈ body.entries := hentries ▸ List.mem_append_right _ List.mem_cons_self
        have hfeed : lineFeed ∉ start := fun hfeed =>
          (bytesOf_clean last.charsOf_lsText.1).2 (hlast ▸ List.mem_append_left _ hfeed)
        have hnone : others = [] := body.last_of_upToNames hkind hentries (hfront ▸ hlong) hfeed
        subst hnone
        rw [body.upToNames_of_total_none hkind hentries, hfront, List.prefix_append_right_inj] at hlong
        have hgives : (gridFtpListReader clock accounts).Gives start last.entry.name.text := by
          refine Listed.gives_cut (hsolid last hmem) hlast.symm ?_
          rw [← charsOf_bytesOf (last.isLineText_upToName)]
          exact hlong.map _
        have hbegun : start ≠ [] := by
          intro hnil
          rw [hnil, List.prefix_nil] at hlong
          have hname := last.entry.name.ne
          simp [bytesOf, hname] at hlong
        obtain ⟨hfirstRead, hopen⟩ := linesOf_begun (areLines_lsLines first) hfeed
        rw [hread, hfront, hfirstRead, hopen, if_neg hbegun, if_neg hbegun]
        have hnames : body.names = lsNames first ++ [last.entry.name.text] := by
          simp [LsBody.names, lsNames, hentries]
        have hfirst : List.Forall₂ (gridFtpListReader clock accounts).Gives (lsLines first ++ [start]) body.names := by
          rw [hnames]
          refine List.rel_append (lsLines_give clock accounts fun listed hlisted => ?_) (.cons hgives .nil)
          exact hsolid listed (hentries ▸ List.mem_append_left _ hlisted)
        obtain ⟨st', hall⟩ := readdirLines_append hfirst (readOn [] ⟨255 :: chunk, later⟩) st
        rw [hall]
        obtain hend | ⟨piece, rest', hpiece, hwithin⟩ := @readOn_first [] (255 :: chunk) later
        · rw [hend, readdirLines, List.append_nil]
        · have hzero : 0 ∉ ([] ++ piece : List UInt8) := by
            intro hmem
            refine zero_notMem_bodyBytes body.openEnd ?_ (hsplit ▸ List.mem_append_right _ (hwithin.sublist.mem hmem))
            intro line hline
            obtain ⟨listed, -, rfl⟩ := List.mem_map.mp hline
            exact (bytesOf_clean listed.charsOf_lsText.1).1
          have hfew : nthWord 8 (charsOf ([] ++ piece)) = [] := by
            have hle := nthWord_isPrefix 8 (hwithin.map fun byte => Char.ofNat byte.toNat)
            exact List.prefix_nil.mp (hwords ▸ hle)
          rw [hpiece, readdirLines_stops ((gridFtpListReader_line clock accounts hzero).1 hfew), List.append_nil]

end List

/-- The names of a LIST answer are complete just where it can be read as it should be. -/
theorem LsBody.complete_iff {clock : Clock} {accounts : Accounts} {st : FtpStat} (body : LsBody) :
    Complete (gridFtpListReader clock accounts) st body.bytes body.names ↔ body.Readable := by
  refine ⟨fun h => ?_, LsBody.complete_of_readable⟩
  cases hkind : body.total with
  | some total =>
      obtain ⟨hlines, hare, hbyte⟩ := body.lines_of_total hkind
      have hread := h
      unfold LsBody.bytes at hread
      rw [hlines] at hread
      have hnames := hread.whole hare
      rw [readdirLines_stops (total.stops clock accounts), Prod.mk.injEq] at hnames
      have hentries : body.entries = [] := List.map_eq_nil_iff.mp hnames.1.symm
      refine ⟨fun _ => hentries, by simp [hentries], fun before after hsplit hbefore => absurd ?_ (hbyte hentries)⟩
      rw [hsplit]
      exact List.mem_append_right _ List.mem_cons_self
  | none =>
      have hlines := body.lines_of_total_none hkind
      have hwhole := h
      unfold LsBody.bytes at hwhole
      rw [hlines] at hwhole
      have hsolid := solid_of_complete (hwhole.whole (areLines_lsLines _))
      exact ⟨fun hsome => by simp [hkind] at hsome, hsolid, fun before after hsplit hbefore =>
        body.cut_of_complete hkind h hsolid hsplit hbefore⟩

/-! ### MLSD -/

section Mlsd

variable (clock : Clock)

/-- A line with facts begins with no blank. -/
theorem factsText_cons {facts : List FactText} (h : facts ≠ []) : ∃ c text, factsText facts = c :: text ∧ isSpace c = false := by
  obtain ⟨fact, facts, rfl⟩ := List.exists_cons_of_ne_nil h
  have htext : factsText (fact :: facts) = fact.key ++ ('=' :: fact.value ++ [';'] ++ factsText facts) := by
    simp [factsText, FactText.text]
  rw [htext]
  cases hkey : fact.key with
  | nil => exact ⟨'=', _, rfl, by decide⟩
  | cons c key => exact ⟨c, _, rfl, (fact.keyClean c (hkey ▸ List.mem_cons_self)).1⟩

theorem Listed.charsOf_mlsdText (listed : Listed MlsdEntry) : IsLineText listed.mlsdText ∧
    charsOf (bytesOf listed.mlsdText) = factsText listed.entry.facts ++ ' ' :: (listed.entry.name.text ++ lineEnd listed.cr) := by
  have htext : IsLineText listed.mlsdText := listed.entry.isLineText.append (isLineText_lineEnd _)
  refine ⟨htext, ?_⟩
  rw [charsOf_bytesOf htext, Listed.mlsdText, MlsdEntry.text, List.append_assoc, List.cons_append]

/-- A line with a fact, whose name ends with no blank, gives the name. -/
theorem MlsdEntry.gives (listed : Listed MlsdEntry) (hfacts : listed.entry.facts ≠ [])
    (hname : isSpace (listed.entry.name.text.getLast listed.entry.name.ne) = false) :
    (gridFtpMlsdReader clock).Gives (bytesOf listed.mlsdText) listed.entry.name.text := by
  obtain ⟨htext, hchars⟩ := listed.charsOf_mlsdText
  obtain ⟨c, text, hcons, hc⟩ := factsText_cons hfacts
  have hkept : (factsText listed.entry.facts ++ ' ' :: listed.entry.name.text).rdropWhile isSpace =
      factsText listed.entry.facts ++ ' ' :: listed.entry.name.text := by
    rw [List.rdropWhile_eq_self_iff]
    intro hne
    rw [List.getLast_append_of_ne_nil _ (List.cons_ne_nil _ _), List.getLast_cons listed.entry.name.ne, hname]
    exact Bool.false_ne_true
  have htrim : trim (charsOf (bytesOf listed.mlsdText)) = factsText listed.entry.facts ++ ' ' :: listed.entry.name.text := by
    have hend : factsText listed.entry.facts ++ ' ' :: (listed.entry.name.text ++ lineEnd listed.cr) =
        factsText listed.entry.facts ++ ' ' :: listed.entry.name.text ++ lineEnd listed.cr := by simp
    have hstart := @trim_eq (text ++ ' ' :: (listed.entry.name.text ++ lineEnd listed.cr)) c hc
    rw [← List.cons_append, ← hcons, hend, rdropWhile_append_blank _ (isSpace_lineEnd _), hkept] at hstart
    rw [hchars, hend, hstart]
  have hclean : nul ∉ charsOf (bytesOf listed.mlsdText) := nul_notMem_charsOf (bytesOf_clean htext).1
  have hlast : listed.entry.name.text.rdropWhile isSpace = listed.entry.name.text := by
    rw [List.rdropWhile_eq_self_iff]
    intro hne
    rw [hname]
    exact Bool.false_ne_true
  intro st
  obtain ⟨mtime, hmtime⟩ := mlstTime_factsSeen clock listed.entry.facts listed.entry.name.text st
  have hshort := listed.entry.name.short
  have hread := @parseMlstLine_text clock st listed.entry.facts listed.entry.name.text 256 (by omega)
  unfold GridFtpDirReader.readdirLine gridFtpMlsdReader
  dsimp only
  rw [takeWhile_trim hclean, htrim, if_neg (by simp), hread, hmtime, hlast]
  exact ⟨_, _, if_neg listed.entry.name.ne⟩

/-- A line without a fact is taken apart within its name. -/
theorem MlsdEntry.misses_facts (listed : Listed MlsdEntry) (hfacts : listed.entry.facts = []) :
    (gridFtpMlsdReader clock).Misses (bytesOf listed.mlsdText) listed.entry.name.text := by
  intro st st' entry hread heq
  obtain ⟨htext, hchars⟩ := listed.charsOf_mlsdText
  obtain ⟨facts, behind, htrim, -, hname⟩ := gridFtpMlsdReader_name clock (bytesOf_clean htext).1 hread
  have hwhole : trim (charsOf (bytesOf listed.mlsdText)) = trim listed.entry.name.text := by
    have hnone : factsText [] = [] := rfl
    rw [hchars, hfacts, hnone, List.nil_append, trim_blank_cons (by decide)]
    unfold trim
    rw [rdropWhile_append_blank _ (isSpace_lineEnd _)]
  have hle := length_trim_le listed.entry.name.text
  have hshort := (List.rdropWhile_prefix isSpace behind).length_le
  rw [← hwhole, htrim, List.length_append, List.length_cons] at hle
  rw [← hname, heq] at hshort
  omega

/-- Blanks at the end of a name are not read. -/
theorem MlsdEntry.misses_blank (listed : Listed MlsdEntry)
    (hname : isSpace (listed.entry.name.text.getLast listed.entry.name.ne) = true) :
    (gridFtpMlsdReader clock).Misses (bytesOf listed.mlsdText) listed.entry.name.text := by
  intro st st' entry hread heq
  obtain ⟨htext, -⟩ := listed.charsOf_mlsdText
  obtain ⟨facts, behind, -, -, hread⟩ := gridFtpMlsdReader_name clock (bytesOf_clean htext).1 hread
  have hne : behind.rdropWhile isSpace ≠ [] := by
    rw [← hread, heq]
    exact listed.entry.name.ne
  have hlast := List.rdropWhile_last_not isSpace behind hne
  apply hlast
  simp only [← hread, heq]
  exact hname

/-- A line that ends before its own end misses the name. -/
theorem MlsdEntry.misses_cut (listed : Listed MlsdEntry) (hfacts : listed.entry.facts ≠ []) {rest : List UInt8}
    (hcut : bytesOf listed.mlsdText = start ++ 255 :: rest) (hstart : start ≠ []) :
    (gridFtpMlsdReader clock).Misses start listed.entry.name.text := by
  intro st st' entry hread heq
  obtain ⟨htext, hchars⟩ := listed.charsOf_mlsdText
  have hzero : 0 ∉ start := fun hmem => (bytesOf_clean htext).1 (hcut ▸ List.mem_append_left _ hmem)
  obtain ⟨facts, behind, htrim, hspace, hname⟩ := gridFtpMlsdReader_name clock hzero hread
  obtain ⟨c, text, hcons, hc⟩ := factsText_cons hfacts
  have hsplit : charsOf start ++ charsOf (255 :: rest) =
      factsText listed.entry.facts ++ ' ' :: (listed.entry.name.text ++ lineEnd listed.cr) := by
    rw [← hchars, hcut]
    exact List.map_append.symm
  -- no blank is cut off in front, so that the first space is the one behind the facts
  have hfirst : ∃ more, charsOf start = c :: more := by
    obtain ⟨byte, bytes, rfl⟩ := List.exists_cons_of_ne_nil hstart
    rw [hcons] at hsplit
    exact ⟨charsOf bytes, congrArg (· :: charsOf bytes) (List.cons.inj hsplit).1⟩
  obtain ⟨more, hmore⟩ := hfirst
  have hbegun : facts ++ ' ' :: behind <+: charsOf start := by
    rw [← htrim, hmore, trim_eq hc]
    exact List.rdropWhile_prefix _ _
  obtain ⟨blanks, hblanks⟩ := hbegun
  rw [← hblanks, List.append_assoc, List.append_assoc, List.cons_append] at hsplit
  have hbehind : behind ++ blanks ++ charsOf (255 :: rest) = listed.entry.name.text ++ lineEnd listed.cr := by
    have hhere := strchr_append hspace (behind ++ (blanks ++ charsOf (255 :: rest)))
    rw [hsplit, strchr_append (space_notMem_factsText _), Option.some.injEq] at hhere
    have hrest := (List.append_inj hsplit hhere.symm).2
    rw [List.append_assoc]
    exact (List.cons.inj hrest).2
  have hlength := (List.rdropWhile_prefix isSpace behind).length_le
  rw [← hname, heq] at hlength
  have hmem : Char.ofNat 255 ∈ lineEnd listed.cr := by
    obtain ⟨more, hlonger, hend⟩ | ⟨more, hlonger, hend⟩ := List.append_eq_append_iff.mp hbehind
    · have hnil : more = [] := by
        have hsum := congrArg List.length hlonger
        rw [List.length_append, List.length_append] at hsum
        exact List.eq_nil_of_length_eq_zero (by omega)
      rw [hnil, List.nil_append] at hend
      rw [← hend]
      exact List.mem_cons_self
    · rw [hend]
      exact List.mem_append_right _ List.mem_cons_self
  exact absurd (isSpace_lineEnd listed.cr _ hmem) (by decide)

def mlsdLines (entries : List (Listed MlsdEntry)) : List (List UInt8) := entries.map fun listed => bytesOf listed.mlsdText

def mlsdNames (entries : List (Listed MlsdEntry)) : List CString := entries.map fun listed => listed.entry.name.text

theorem areLines_mlsdLines (entries : List (Listed MlsdEntry)) : AreLines (mlsdLines entries) := by
  intro line hline
  obtain ⟨listed, -, rfl⟩ := List.mem_map.mp hline
  refine ⟨(bytesOf_clean listed.charsOf_mlsdText.1).2, ?_⟩
  simp [bytesOf, Listed.mlsdText, MlsdEntry.text]

/-- Whether a body can be read as it should be: every line has a fact, no name ends with a blank, and the byte 0xff is nowhere
behind the first byte. -/
def MlsdBody.Readable (body : MlsdBody) : Prop :=
  (∀ listed ∈ body.entries, listed.entry.facts ≠ []) ∧
    (∀ listed ∈ body.entries, isSpace (listed.entry.name.text.getLast listed.entry.name.ne) = false) ∧
      ∀ before after, body.bytes = before ++ 255 :: after → before = []

variable {clock} {st : FtpStat}

/-- The name of each line is read, where as many names come as there are lines. -/
theorem mlsd_not_misses {front back : List (List UInt8)} {before after : List (Listed MlsdEntry)}
    {listed : Listed MlsdEntry} (hfront : front = mlsdLines before)
    (h : (gridFtpMlsdReader clock).readdirLines (front ++ line :: back) st = (mlsdNames (before ++ listed :: after), none)) :
    ¬(gridFtpMlsdReader clock).Misses line listed.entry.name.text := by
  have hnames : mlsdNames (before ++ listed :: after) = mlsdNames before ++ listed.entry.name.text :: mlsdNames after := by
    simp [mlsdNames]
  exact not_misses_of_readdirLines (congrArg Prod.fst (h.trans (by rw [hnames]))) (by simp [hfront, mlsdLines, mlsdNames])

/-- The names of an MLSD answer are complete just where it can be read as it should be. -/
theorem MlsdBody.complete_iff (body : MlsdBody) : Complete (gridFtpMlsdReader clock) st body.bytes body.names ↔ body.Readable := by
  constructor
  · intro h
    have hwhole := Complete.whole h (areLines_mlsdLines _)
    have hread : ∀ listed ∈ body.entries,
        ¬(gridFtpMlsdReader clock).Misses (bytesOf listed.mlsdText) listed.entry.name.text := by
      intro listed hlisted
      obtain ⟨before, after, hentries⟩ := List.append_of_mem hlisted
      have hlines : mlsdLines body.entries = mlsdLines before ++ bytesOf listed.mlsdText :: mlsdLines after := by
        simp [mlsdLines, hentries]
      have hbody : (gridFtpMlsdReader clock).readdirLines (mlsdLines before ++ bytesOf listed.mlsdText :: mlsdLines after) st =
          (mlsdNames (before ++ listed :: after), none) := by
        rw [← hlines, ← hentries]
        exact hwhole
      exact mlsd_not_misses rfl hbody
    have hfacts : ∀ listed ∈ body.entries, listed.entry.facts ≠ [] := fun listed hlisted hnil =>
      hread listed hlisted (MlsdEntry.misses_facts clock listed hnil)
    refine ⟨hfacts, fun listed hlisted => ?_, fun before after hsplit => ?_⟩
    · by_contra hblank
      exact hread listed hlisted (MlsdEntry.misses_blank clock listed (by simpa using hblank))
    · by_contra hbefore
      obtain ⟨front, start, rest, back, hlines, hstart, -, -, hcut⟩ :=
        Complete.divided h (areLines_mlsdLines _) (by simp [MlsdBody.names]) hsplit hbefore
      obtain ⟨first, others, hentries, hfirst, hothers⟩ := List.map_eq_append_iff.mp hlines
      obtain ⟨listed, after', rfl, hline, -⟩ := List.map_eq_cons_iff.mp hothers
      have hmem : listed ∈ body.entries := hentries ▸ List.mem_append_right _ List.mem_cons_self
      have hbody : (gridFtpMlsdReader clock).readdirLines (front ++ start :: (255 :: rest) :: back) st =
          (mlsdNames (first ++ listed :: after'), none) := by
        rw [← hentries]
        exact hcut
      exact mlsd_not_misses hfirst.symm hbody (MlsdEntry.misses_cut clock listed (hfacts listed hmem) hline hstart)
  · rintro ⟨hfacts, hnames, hbytes⟩ chunks hchunks
    rw [readdirAll_eq, readLines_of_uncut (areLines_mlsdLines _) hbytes hchunks]
    refine Complete.of_gives ?_ st
    unfold mlsdLines MlsdBody.names
    rw [List.forall₂_map_left_iff, List.forall₂_map_right_iff, List.forall₂_same]
    exact fun listed hlisted => MlsdEntry.gives clock listed (hfacts listed hlisted) (hnames listed hlisted)

end Mlsd

/-- Repeated calls return every entry of a listing with its full name just where the listing can be read as it should be. -/
theorem listings_complete_iff (clock : Clock) (accounts : Accounts) (st : FtpStat) :
    (∀ body : LsBody, Complete (gridFtpListReader clock accounts) st body.bytes body.names ↔ body.Readable) ∧
      ∀ body : MlsdBody, Complete (gridFtpMlsdReader clock) st body.bytes body.names ↔ body.Readable :=
  ⟨LsBody.complete_iff, MlsdBody.complete_iff⟩

/-- A name is cut off at its space, and behind a line with the number of blocks nothing is seen. -/
theorem listed_name_cut_off :
    let reader := gridFtpListReader ⟨FixedZone.timeZone ⟨0, by decide⟩, 0⟩ ⟨fun _ => none, fun _ => none⟩
    reader.readdirAll (make [⟨bytesOf (lit "-rw-r--r-- 1 0 0 0 Jan  1 2020 a b\r\n"), by decide⟩]) {} = ([lit "a"], none) ∧
      reader.readdirAll (make [⟨bytesOf (lit "total 1\r\n-rw-r--r-- 1 0 0 0 Jan  1 2020 a\r\n"), by decide⟩]) {} = ([], none) := by
  decide +kernel

end Gfal2
