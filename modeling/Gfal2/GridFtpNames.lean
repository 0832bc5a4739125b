import Gfal2.GridFtpDirReaders

/-! The names that the directory readers take from a line. The name of a LIST line is its ninth word, and a line without a ninth
word is taken for the end; of the name of an MLSD line the blanks at the end are cut off. -/

namespace Gfal2

open Base

/-! ### Words -/

/-- The word with a number, from 0 on. -/
def nthWord : Nat → CString → CString
  | 0, text => (text.dropWhile isSpace).takeWhile fun c => !isSpace c
  | k + 1, text => nthWord k ((text.dropWhile isSpace).dropWhile fun c => !isSpace c)

theorem nthWord_dropWhile (k : Nat) (text : CString) : nthWord k (text.dropWhile isSpace) = nthWord k text := by
  cases k with
  | zero => rw [nthWord, nthWord, List.dropWhile_idempotent]
  | succ k => rw [nthWord, nthWord, List.dropWhile_idempotent]

theorem nthWord_nil (k : Nat) : nthWord k [] = [] := by
  induction k with
  | zero => rfl
  | succ k ih => exact ih

variable {text : CString}

theorem dropWhile_eq_nil (h : ∀ c ∈ text, isSpace c = true) : text.dropWhile isSpace = [] := by
  rw [List.dropWhile_eq_nil_iff]
  exact h

theorem nthWord_blank (k : Nat) (h : ∀ c ∈ text, isSpace c = true) : nthWord k text = [] := by
  rw [← nthWord_dropWhile, dropWhile_eq_nil h, nthWord_nil]

theorem IsPrefix.dropWhile {more : CString} (h : text <+: more) (p : Char → Bool) : text.dropWhile p <+: more.dropWhile p := by
  obtain ⟨rest, rfl⟩ := h
  rw [List.dropWhile_append]
  split
  · rename_i hnil
    rw [List.isEmpty_iff.mp hnil]
    exact List.nil_prefix
  · exact List.prefix_append _ _

theorem IsPrefix.takeWhile {more : CString} (h : text <+: more) (p : Char → Bool) : text.takeWhile p <+: more.takeWhile p := by
  obtain ⟨rest, rfl⟩ := h
  rw [List.takeWhile_append]
  split
  · exact (List.takeWhile_prefix p).trans (List.prefix_append _ _)
  · exact List.prefix_rfl

/-- A word of a beginning of a text is the beginning of a word. -/
theorem nthWord_isPrefix (k : Nat) {more : CString} (h : text <+: more) : nthWord k text <+: nthWord k more := by
  induction k generalizing text more with
  | zero => exact IsPrefix.takeWhile (IsPrefix.dropWhile h _) _
  | succ k ih => exact ih (IsPrefix.dropWhile (IsPrefix.dropWhile h _) _)

/-- Blanks at the end make no word. -/
theorem nthWord_append_blank (k : Nat) (text : CString) {blanks : CString} (h : ∀ c ∈ blanks, isSpace c = true) :
    nthWord k (text ++ blanks) = nthWord k text := by
  have hstop : ∀ text : CString, (text ++ blanks).takeWhile (fun c => !isSpace c) = text.takeWhile fun c => !isSpace c := by
    intro text
    have hnone : blanks.takeWhile (fun c => !isSpace c) = [] := by
      cases blanks with
      | nil => rfl
      | cons c blanks => simp [h c List.mem_cons_self]
    rw [List.takeWhile_append]
    split
    · rename_i hall
      rw [hnone, List.append_nil]
      exact (List.Sublist.eq_of_length (List.takeWhile_prefix _).sublist hall).symm
    · rfl
  induction k generalizing text with
  | zero =>
      rw [nthWord, nthWord, List.dropWhile_append]
      split
      · rename_i hnil
        rw [List.isEmpty_iff.mp hnil, dropWhile_eq_nil h]
      · exact hstop _
  | succ k ih =>
      rw [nthWord, nthWord, List.dropWhile_append]
      split
      · rename_i hnil
        rw [List.isEmpty_iff.mp hnil, dropWhile_eq_nil h]
      · rw [List.dropWhile_append]
        split
        · rename_i hnil
          have hrest : ∀ c ∈ blanks.dropWhile (fun c => !isSpace c), isSpace c = true := fun c hc =>
            h c ((List.dropWhile_sublist _).mem hc)
          rw [List.isEmpty_iff.mp hnil, nthWord_blank k hrest, nthWord_nil]
        · exact ih _

theorem nthWord_trim (k : Nat) (text : CString) : nthWord k (trim text) = nthWord k text := by
  have hblank : ∀ c ∈ (text.reverse.takeWhile isSpace).reverse, isSpace c = true := by
    intro c hc
    exact List.mem_takeWhile_imp (List.mem_reverse.mp hc)
  have htext : text = text.rdropWhile isSpace ++ (text.reverse.takeWhile isSpace).reverse := by
    rw [List.rdropWhile, ← List.reverse_append, List.takeWhile_append_dropWhile, List.reverse_reverse]
  unfold trim
  rw [nthWord_dropWhile]
  conv_rhs => rw [htext]
  rw [nthWord_append_blank k _ hblank]

/-! ### The name of a LIST line -/

variable {line : List UInt8}

section List

variable (clock : Clock) (accounts : Accounts)

/-- The name is the word behind the other columns. -/
theorem readFields_filename {fields : List FtpField} (h : FtpField.name ∉ fields) (text : CString) (line : StatLine) :
    (readFields clock accounts 256 (fields ++ [.name]) text line).filename =
      if nthWord fields.length text = [] then line.filename else (nthWord fields.length text).take 255 := by
  have hword : ∀ {start : CString}, start.dropWhile isSpace = start → start ≠ [] → start.takeWhile (fun c => !isSpace c) ≠ [] := by
    intro start hstart hne hnil
    obtain ⟨c, more, rfl⟩ := List.exists_cons_of_ne_nil hne
    by_cases hc : isSpace c
    · have hlength := congrArg List.length hstart
      rw [List.dropWhile_cons_of_pos hc, List.length_cons] at hlength
      have hle := (List.dropWhile_sublist (l := more) isSpace).length_le
      omega
    · simp [hc] at hnil
  induction fields generalizing text line with
  | nil =>
      rw [List.nil_append, readFields, List.length_nil, nthWord]
      dsimp only
      by_cases hnil : text.dropWhile isSpace = []
      · rw [if_pos hnil, hnil]
        rfl
      · rw [if_neg hnil, if_neg (hword (List.dropWhile_idempotent _ _) hnil)]
        split
        · rfl
        · rw [readFields]
          rfl
  | cons field fields ih =>
      obtain ⟨hfield, hfields⟩ := not_or.mp (mt List.mem_cons.mpr h)
      have hkeeps : ∀ start line, (readField clock accounts 256 start line field).filename = line.filename := by
        intro start line
        cases field with
        | name => exact absurd rfl hfield
        | owner =>
            unfold readField
            dsimp only
            split <;> rfl
        | group =>
            unfold readField
            dsimp only
            split <;> rfl
        | month =>
            unfold readField
            dsimp only
            split <;> rfl
        | yearOrTime =>
            unfold readField
            dsimp only
            split <;> rfl
        | _ => rfl
      rw [List.cons_append, readFields, List.length_cons, nthWord]
      dsimp only
      by_cases hnil : text.dropWhile isSpace = []
      · rw [if_pos hnil, hnil, List.dropWhile_nil, nthWord_nil, if_pos rfl]
      · rw [if_neg hnil]
        split
        · rename_i hrest
          rw [hrest, nthWord_nil, if_pos rfl, hkeeps]
        · rename_i hrest
          obtain ⟨c, rest, hcons⟩ := List.exists_cons_of_ne_nil hrest
          have hc : isSpace c = true := by
            have hhead := List.head_dropWhile_not (fun c => !isSpace c) hrest
            simpa [hcons] using hhead
          rw [hcons, List.drop_one, List.tail_cons, ih hfields, hkeeps, ← nthWord_dropWhile _ (c :: rest),
            List.dropWhile_cons_of_pos hc, nthWord_dropWhile]

theorem parseStatLine_name (text : CString) (st : FtpStat) :
    (parseStatLine clock accounts text st 256).2 = (nthWord 8 text).take 255 := by
  have hname := @readFields_filename clock accounts [.mode, .nlinks, .owner, .group, .size, .month, .day, .yearOrTime] (by decide) text { st := st }
  unfold parseStatLine
  refine hname.trans ?_
  rw [List.length_cons]
  split
  · rename_i hnil
    have hnone : nthWord 8 text = [] := hnil
    rw [hnone]
    rfl
  · rfl

theorem toNat_charOf (byte : UInt8) : (Char.ofNat byte.toNat).toNat = byte.toNat := by
  have hbytes : ∀ n : Fin 256, (Char.ofNat n.1).toNat = n.1 := by decide +kernel
  exact hbytes byte.toFin

theorem nul_notMem_charsOf {bytes : List UInt8} (h : 0 ∉ bytes) : nul ∉ charsOf bytes := by
  intro hmem
  obtain ⟨byte, hbyte, hchar⟩ := List.mem_map.mp hmem
  have hzero : byte.toNat = (0 : UInt8).toNat := by
    rw [← toNat_charOf, hchar]
    rfl
  exact h (UInt8.toNat_inj.mp hzero ▸ hbyte)

theorem takeWhile_trim {line : CString} (h : nul ∉ line) : (trim line).takeWhile (· ≠ nul) = trim line := by
  rw [List.takeWhile_eq_self_iff]
  intro c hc
  apply decide_eq_true
  rintro rfl
  exact h ((List.rdropWhile_prefix _ _).sublist.mem ((List.dropWhile_sublist _).mem hc))

/-- A line with a ninth word is an entry of its name, and another one is taken for the end. -/
theorem gridFtpListReader_line (h : 0 ∉ line) : (nthWord 8 (charsOf line) = [] → (gridFtpListReader clock accounts).Stops line) ∧
      (nthWord 8 (charsOf line) ≠ [] →
        (gridFtpListReader clock accounts).Gives line ((nthWord 8 (charsOf line)).take 255)) := by
  have hread : ∀ st, (parseStatLine clock accounts (trim (charsOf line)) st 256).2 = (nthWord 8 (charsOf line)).take 255 := by
    intro st
    rw [parseStatLine_name, nthWord_trim]
  constructor
  · intro hnone st
    unfold GridFtpDirReader.readdirLine
    split
    · rfl
    · unfold gridFtpListReader
      dsimp only
      rw [takeWhile_trim (nul_notMem_charsOf h), hread, hnone]
      rfl
  · intro hsome st
    have htrim : trim (charsOf line) ≠ [] := by
      intro hnil
      apply hsome
      rw [← nthWord_trim, hnil, nthWord_nil]
    have htake : (nthWord 8 (charsOf line)).take 255 ≠ [] := by
      intro hnil
      rw [List.take_eq_nil_iff] at hnil
      exact hsome (hnil.resolve_left (by decide))
    unfold GridFtpDirReader.readdirLine
    rw [if_neg htrim]
    unfold gridFtpListReader
    dsimp only
    rw [takeWhile_trim (nul_notMem_charsOf h), hread, if_neg htake]
    exact ⟨_, _, rfl⟩

theorem Stops.misses {reader : GridFtpDirReader} (h : reader.Stops line) (name : CString) : reader.Misses line name := by
  intro st st' entry hread
  rw [h st] at hread
  cases hread

theorem Gives.misses {reader : GridFtpDirReader} {name other : CString} (h : reader.Gives line name)
    (hne : name ≠ other) : reader.Misses line other := by
  intro st st' entry hread
  obtain ⟨st'', type, hgives⟩ := h st
  rw [hread] at hgives
  cases hgives
  exact hne

/-- A line without a name as its ninth word does not give that name. -/
theorem gridFtpListReader_misses {name : CString} (h : 0 ∉ line)
    (hname : (nthWord 8 (charsOf line)).take 255 ≠ name) : (gridFtpListReader clock accounts).Misses line name := by
  obtain ⟨hstops, hgives⟩ := gridFtpListReader_line clock accounts h
  by_cases hnone : nthWord 8 (charsOf line) = []
  · exact Stops.misses (hstops hnone) name
  · exact Gives.misses (hgives hnone) hname

end List

/-! ### The name of an MLSD line -/

section Mlsd

variable (clock : Clock)

theorem rdropWhile_append_blank (text : CString) {blanks : CString} (h : ∀ c ∈ blanks, isSpace c = true) :
    (text ++ blanks).rdropWhile isSpace = text.rdropWhile isSpace := by
  have hreverse : ∀ c ∈ blanks.reverse, isSpace c = true := fun c hc => h c (List.mem_reverse.mp hc)
  unfold List.rdropWhile
  rw [List.reverse_append, List.dropWhile_append_of_pos hreverse]

/-- Blanks around a text are trimmed. -/
theorem trim_blank_cons {c : Char} (hc : isSpace c = true) (text : CString) : trim (c :: text) = trim text := by
  unfold trim List.rdropWhile
  rw [List.reverse_cons, List.dropWhile_append]
  split
  · rename_i hnil
    rw [List.isEmpty_iff.mp hnil, List.dropWhile_cons_of_pos hc]
    rfl
  · rw [List.reverse_append, List.reverse_singleton, List.singleton_append, List.dropWhile_cons_of_pos hc]

theorem length_trim_le (text : CString) : (trim text).length ≤ text.length :=
  ((List.dropWhile_sublist _).trans (List.rdropWhile_prefix _ _).sublist).length_le

/-- What is cut off in front of a line that begins with no blank is nothing. -/
theorem trim_eq {c : Char} (hc : isSpace c = false) : trim (c :: text) = (c :: text).rdropWhile isSpace := by
  have hne : (c :: text).rdropWhile isSpace ≠ [] := by
    rw [Ne, List.rdropWhile_eq_nil_iff]
    intro hall
    simp [hall c List.mem_cons_self] at hc
  obtain ⟨d, more, hcons⟩ := List.exists_cons_of_ne_nil hne
  have hd : d = c := by
    have hstart := List.rdropWhile_prefix isSpace (c :: text)
    rw [hcons, List.cons_prefix_cons] at hstart
    exact hstart.1
  unfold trim
  rw [hcons, hd, List.dropWhile_cons_of_neg (by simp [hc])]

/-- The name is what stands behind the first space, without the blanks at its end. -/
theorem parseMlstLine_name {line name : CString} {st st' : FtpStat}
    (h : parseMlstLine clock line st 256 = .ok (some (st', name))) :
    ∃ facts behind, line = facts ++ ' ' :: behind ∧ ' ' ∉ facts ∧ name = behind.rdropWhile isSpace := by
  unfold parseMlstLine at h
  cases hspace : strchr line ' ' with
  | none =>
      rw [hspace] at h
      cases h
  | some space =>
      rw [hspace] at h
      dsimp only at h
      obtain ⟨hlt, hchar, hfirst⟩ := List.findIdx?_eq_some_iff_getElem.mp hspace
      have hsplit : line = line.take space ++ ' ' :: line.drop (space + 1) := by
        conv_lhs => rw [← List.take_append_drop space line]
        have hget : (line)[space] = ' ' := by simpa using hchar
        rw [List.drop_eq_getElem_cons hlt, hget]
      refine ⟨_, _, hsplit, ?_, ?_⟩
      · intro hmem
        obtain ⟨j, hj, hget⟩ := List.mem_take_iff_getElem.mp hmem
        have hnot := hfirst j (by omega)
        simp [hget] at hnot
      · unfold mlstName at h
        split at h
        · cases hfacts : mlstFacts (line.take space) with
          | none =>
              rw [hfacts] at h
              cases h
          | some facts =>
              rw [hfacts] at h
              dsimp only at h
              cases hmtime : mlstTime clock (seeFacts (line.drop (space + 1) ++ [nul]) facts ({}, st)).1 with
              | error fault =>
                  simp [hmtime] at h
              | ok mtime =>
                  simp [hmtime] at h
                  exact h.2.symm
        · cases h

/-- The name that is read of a line. -/
theorem gridFtpMlsdReader_name (hzero : 0 ∉ line) {st st' : FtpStat} {entry : Dirent}
    (h : (gridFtpMlsdReader clock).readdirLine (charsOf line) st = .ok (some (st', entry))) :
    ∃ facts behind, trim (charsOf line) = facts ++ ' ' :: behind ∧ ' ' ∉ facts ∧ entry.dName = behind.rdropWhile isSpace := by
  unfold GridFtpDirReader.readdirLine at h
  split at h
  · cases h
  · rw [takeWhile_trim (nul_notMem_charsOf hzero)] at h
    unfold gridFtpMlsdReader at h
    dsimp only at h
    split at h
    · cases h
    · cases h
    · rename_i stRead name hread
      split at h
      · cases h
      · cases h
        exact parseMlstLine_name clock hread

end Mlsd

end Gfal2
