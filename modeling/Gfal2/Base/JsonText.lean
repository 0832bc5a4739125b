import Gfal2.Base.Json
import Mathlib.Tactic.Common
import Mathlib.Data.List.TakeWhile

/-! Reading JSON texts. A reader takes a value from the front of a text and leaves the rest. The one for
documents goes down a bounded number of levels; what it reads at some bound it reads at every higher one, and
whatever follows the text. -/

namespace Base

/-- What is read from the front of a text, and the rest. -/
abbrev Reader (α : Type) := CString → Option (α × CString)

namespace Json

variable {α : Type}

/-! ### Blanks and strings -/

def isSpace (c : Char) : Bool := c = ' ' || c = '\t' || c = '\n' || c = '\r'

def skipSpace (s : CString) : CString := s.dropWhile isSpace

/-- The text of a string as it is written, up to the quote that ends it. -/
def splitString : Reader CString
  | [] => none
  | c :: rest =>
      if c = '"' then some ([], rest)
      else if c = '\\' then
        match rest with
        | [] => none
        | e :: rest => (splitString rest).map fun read => (c :: e :: read.1, read.2)
      else if c.toNat < 0x20 then none
      else (splitString rest).map fun read => (c :: read.1, read.2)

def shortEscape (c : Char) : Option Char :=
  match c with
  | '"' => some '"'
  | '\\' => some '\\'
  | '/' => some '/'
  | 'b' => some '\x08'
  | 'f' => some '\x0c'
  | 'n' => some '\n'
  | 'r' => some '\r'
  | 't' => some '\t'
  | _ => none

def hexDigit (c : Char) : Option Nat :=
  if c.isDigit then some (c.toNat - '0'.toNat)
  else if 'a' ≤ c ∧ c ≤ 'f' then some (c.toNat - 'a'.toNat + 10)
  else if 'A' ≤ c ∧ c ≤ 'F' then some (c.toNat - 'A'.toNat + 10)
  else none

/-- The code unit that four hexadecimal digits write. -/
def codeUnit (s : CString) : Option Nat :=
  if (s.take 4).length = 4 ∧ ∀ c ∈ s.take 4, (hexDigit c).isSome then
    some ((s.take 4).foldl (fun value c => 16 * value + (hexDigit c).getD 0) 0)
  else none

/-- The low surrogate that is escaped at the front of a text. -/
def lowSurrogate (s : CString) : Option Nat :=
  if s.take 2 = ['\\', 'u'] then (codeUnit (s.drop 2)).filter fun unit => 0xDC00 ≤ unit ∧ unit < 0xE000 else none

/-- The character of a code point, and the replacement character for half of a pair. -/
def charOf (point : Nat) : Char := if point.isValidChar then Char.ofNat point else '\uFFFD'

/-- The string that a text between quotes stands for. -/
def unescape : Nat → CString → Option CString
  | _, [] => some []
  | 0, _ :: _ => none
  | fuel + 1, c :: rest =>
      if c ≠ '\\' then (unescape fuel rest).map (c :: ·)
      else
        match rest with
        | [] => none
        | e :: rest =>
            match shortEscape e with
            | some c => (unescape fuel rest).map (c :: ·)
            | none =>
                if e = 'u' then
                  match codeUnit rest with
                  | none => none
                  | some unit =>
                      match (if 0xD800 ≤ unit ∧ unit < 0xDC00 then lowSurrogate (rest.drop 4) else none) with
                      | some low =>
                          (unescape fuel (rest.drop 10)).map
                            (charOf (0x10000 + (unit - 0xD800) * 0x400 + (low - 0xDC00)) :: ·)
                      | none => (unescape fuel (rest.drop 4)).map (charOf unit :: ·)
                else none

/-- A string, after the quote that begins it. -/
def readString : Reader CString := fun s =>
  (splitString s).bind fun split => (unescape split.1.length split.1).map fun text => (text, split.2)

/-! ### Numbers and words -/

def isNumberChar (c : Char) : Bool := c.isDigit || c = '-' || c = '+' || c = '.' || c = 'e' || c = 'E'

/-- The end of a number: nothing, or an exponent. -/
def isExponent : CString → Bool
  | [] => true
  | c :: rest =>
      let digits := if rest.head? = some '+' ∨ rest.head? = some '-' then rest.drop 1 else rest
      (c = 'e' || c = 'E') && digits ≠ [] && digits.all Char.isDigit

/-- The text of a number: a sign, digits without a leading zero, a fraction and an exponent. -/
def isNumber (text : CString) : Bool :=
  let unsigned := if text.head? = some '-' then text.drop 1 else text
  let digits := unsigned.takeWhile Char.isDigit
  let rest := unsigned.dropWhile Char.isDigit
  digits ≠ [] && (digits.head? ≠ some '0' || digits = ['0']) &&
    if rest.head? = some '.' then
      (rest.drop 1).takeWhile Char.isDigit ≠ [] && isExponent ((rest.drop 1).dropWhile Char.isDigit)
    else isExponent rest

def readNumber : Reader Json := fun s =>
  if isNumber (s.takeWhile isNumberChar) then some (.number (s.takeWhile isNumberChar), s.dropWhile isNumberChar) else none

def readWord (word : CString) (value : Json) : Reader Json := fun s =>
  if word <+: s then some (value, s.drop word.length) else none

/-! ### Documents -/

/-- Elements with commas between them, at least one, up to the character that closes them. -/
def readSeq (element : Reader α) (close : Char) : Nat → Reader (List α)
  | 0, _ => none
  | fuel + 1, s =>
      (element s).bind fun read =>
        match skipSpace read.2 with
        | [] => none
        | c :: rest =>
            if c = ',' then (readSeq element close fuel rest).map fun others => (read.1 :: others.1, others.2)
            else if c = close then some ([read.1], rest)
            else none

/-- As many elements as there are. -/
def readListing (element : Reader α) (close : Char) (fuel : Nat) : Reader (List α) := fun s =>
  if (skipSpace s).head? = some close then some ([], (skipSpace s).drop 1) else readSeq element close fuel s

/-- A key with its value. -/
def readMember (value : Reader Json) : Reader (CString × Json) := fun s =>
  match skipSpace s with
  | [] => none
  | c :: rest =>
      if c = '"' then
        (readString rest).bind fun key =>
          match skipSpace key.2 with
          | [] => none
          | c :: rest => if c = ':' then (value rest).map fun read => ((key.1, read.1), read.2) else none
      else none

def readValue : Nat → Reader Json
  | 0, _ => none
  | fuel + 1, s =>
      match skipSpace s with
      | [] => none
      | c :: rest =>
          if c = '"' then (readString rest).map fun read => (.string read.1, read.2)
          else if c = '[' then
            (readListing (readValue fuel) ']' fuel rest).map fun read => (.array read.1, read.2)
          else if c = '{' then
            (readListing (readMember (readValue fuel)) '}' fuel rest).map fun read => (.object read.1, read.2)
          else if c = 't' then readWord ['r', 'u', 'e'] (.bool true) rest
          else if c = 'f' then readWord ['a', 'l', 's', 'e'] (.bool false) rest
          else if c = 'n' then readWord ['u', 'l', 'l'] .null rest
          else readNumber (c :: rest)

/-- The document that a text denotes, if it is one with nothing but blanks around it. -/
def parse (text : CString) : Option Json :=
  (readValue (text.length + 1) text).bind fun read => if skipSpace read.2 = [] then some read.1 else none

/-! ### What follows a text -/

/-- A text that begins with nothing a number could go on with. -/
def StopsNumber (t : CString) : Prop := ∀ c ∈ t.head?, isNumberChar c = false

theorem stopsNumber_nil : StopsNumber [] := by simp [StopsNumber]

theorem stopsNumber_cons {c : Char} (h : isNumberChar c = false) (t : CString) : StopsNumber (c :: t) := by
  simpa [StopsNumber] using h

variable {rest s : CString}

theorem skipSpace_append {c : Char} (h : skipSpace s = c :: rest) (t : CString) : skipSpace (s ++ t) = c :: (rest ++ t) := by
  unfold skipSpace at h ⊢
  rw [List.dropWhile_append, h]
  rfl

theorem length_skipSpace_le (s : CString) : (skipSpace s).length ≤ s.length :=
  (List.dropWhile_sublist isSpace).length_le

theorem skipSpace_of_blank (h : skipSpace s = []) (t : CString) : skipSpace (s ++ t) = skipSpace t := by
  unfold skipSpace at h ⊢
  rw [List.dropWhile_append, h]
  rfl

/-- What one reader reads with a consumption below a bound another one reads whatever follows. -/
def Follows (t : CString) (bound : Nat) (read read' : Reader α) : Prop :=
  ∀ s a rest, read s = some (a, rest) → s.length < bound + rest.length → read' (s ++ t) = some (a, rest ++ t)

/-- What is read is not empty. -/
def Shortens (read : Reader α) : Prop := ∀ s a rest, read s = some (a, rest) → rest.length < s.length

theorem splitString_quote (s : CString) : splitString ('"' :: s) = some ([], s) := by
  rw [splitString.eq_def]
  simp

theorem splitString_escape (e : Char) (s : CString) :
    splitString ('\\' :: e :: s) = (splitString s).map fun read => ('\\' :: e :: read.1, read.2) := rfl

theorem splitString_plain {c : Char} (hquote : c ≠ '"') (hescape : c ≠ '\\') (hcontrol : ¬c.toNat < 0x20) (s : CString) :
    splitString (c :: s) = (splitString s).map fun read => (c :: read.1, read.2) := by
  rw [splitString.eq_def]
  simp [hquote, hescape, hcontrol]

/-- The string is what stands before the quote that ends it, and it is found whatever follows. -/
theorem splitString_spec {raw : CString} (h : splitString s = some (raw, rest)) :
    s = raw ++ '"' :: rest ∧ ∀ t, splitString (s ++ t) = some (raw, rest ++ t) := by
  fun_induction splitString s generalizing raw rest with
  | case1 => cases h
  | case2 s =>
      cases h
      exact ⟨rfl, fun t => splitString_quote _⟩
  | case3 => cases h
  | case4 e s _ ih =>
      obtain ⟨⟨raw', rest'⟩, hread, heq⟩ := Option.map_eq_some_iff.mp h
      cases heq
      obtain ⟨hs, happend⟩ := ih hread
      refine ⟨by rw [hs]; rfl, fun t => ?_⟩
      rw [List.cons_append, List.cons_append, splitString_escape, happend]
      rfl
  | case5 => cases h
  | case6 c s hquote hescape hcontrol ih =>
      obtain ⟨⟨raw', rest'⟩, hread, heq⟩ := Option.map_eq_some_iff.mp h
      cases heq
      obtain ⟨hs, happend⟩ := ih hread
      refine ⟨by rw [hs]; rfl, fun t => ?_⟩
      rw [List.cons_append, splitString_plain hquote hescape hcontrol, happend]
      rfl

/-- A text that a string is written as it is. -/
def Plain (s : CString) : Prop := ∀ c ∈ s, c ≠ '"' ∧ c ≠ '\\' ∧ ¬c.toNat < 0x20

theorem splitString_of_plain (h : Plain s) (rest : CString) : splitString (s ++ '"' :: rest) = some (s, rest) := by
  induction s with
  | nil => exact splitString_quote rest
  | cons c s ih =>
      obtain ⟨hquote, hescape, hcontrol⟩ := h c List.mem_cons_self
      rw [List.cons_append, splitString_plain hquote hescape hcontrol, ih fun d hd => h d (List.mem_cons_of_mem _ hd)]
      rfl

/-- What is split off without a backslash is plain. -/
theorem plain_of_splitString {raw : CString} (h : splitString s = some (raw, rest)) (hescape : '\\' ∉ raw) : Plain raw := by
  fun_induction splitString s generalizing raw rest with
  | case1 => cases h
  | case2 s =>
      cases h
      exact fun c hc => absurd hc List.not_mem_nil
  | case3 => cases h
  | case4 e s _ ih =>
      obtain ⟨⟨raw', rest'⟩, hread, heq⟩ := Option.map_eq_some_iff.mp h
      cases heq
      exact absurd List.mem_cons_self hescape
  | case5 => cases h
  | case6 c s hquote hescape' hcontrol ih =>
      obtain ⟨⟨raw', rest'⟩, hread, heq⟩ := Option.map_eq_some_iff.mp h
      cases heq
      intro d hd
      rcases List.mem_cons.mp hd with rfl | hd
      · exact ⟨hquote, hescape', hcontrol⟩
      · exact ih hread (fun hmem => hescape (List.mem_cons_of_mem _ hmem)) d hd

/-! ### Escapes -/

theorem unescape_of_plain (h : '\\' ∉ s) : unescape s.length s = some s := by
  induction s with
  | nil => rfl
  | cons c s ih =>
      obtain ⟨hne, hs⟩ := not_or.mp (mt List.mem_cons.mpr h)
      rw [List.length_cons, unescape.eq_def]
      simp [Ne.symm hne, ih hs]

theorem codeUnit_blanks {unit : Nat} (h : codeUnit s = some unit) : (s.drop 4).count ' ' = s.count ' ' := by
  rw [codeUnit, Option.ite_none_right_eq_some] at h
  have hnone : (s.take 4).count ' ' = 0 := by
    refine List.count_eq_zero.mpr fun hmem => ?_
    exact absurd (h.1.2 ' ' hmem) (by decide)
  have hsplit : (s.take 4 ++ s.drop 4).count ' ' = (s.take 4).count ' ' + (s.drop 4).count ' ' := List.count_append
  rw [List.take_append_drop, hnone] at hsplit
  omega

theorem lowSurrogate_blanks {low : Nat} (h : lowSurrogate s = some low) : (s.drop 6).count ' ' = s.count ' ' := by
  rw [lowSurrogate, Option.ite_none_right_eq_some] at h
  obtain ⟨hescape, hlow⟩ := h
  have hunit := codeUnit_blanks (Option.eq_some_of_filter_eq_some hlow)
  rw [List.drop_drop] at hunit
  have hsplit : (s.take 2 ++ s.drop 2).count ' ' = (s.take 2).count ' ' + (s.drop 2).count ' ' := List.count_append
  rw [List.take_append_drop, hescape] at hsplit
  rw [hunit, hsplit]
  simp

/-- An escape makes a text shorter, and keeps its blanks. -/
theorem unescape_spec {fuel : Nat} {raw text : CString} (h : unescape fuel raw = some text) :
    text.length ≤ raw.length ∧ (text.length = raw.length → '\\' ∉ raw) ∧ raw.count ' ' ≤ text.count ' ' := by
  fun_induction unescape fuel raw generalizing text with
  | case1 =>
      cases h
      simp
  | case2 => cases h
  | case3 fuel c rest hplain ih =>
      obtain ⟨text', hread, rfl⟩ := Option.map_eq_some_iff.mp h
      obtain ⟨hlength, hequal, hblanks⟩ := ih hread
      refine ⟨by simpa using hlength, fun heq hmem => ?_, ?_⟩
      · rcases List.mem_cons.mp hmem with rfl | hmem
        · exact hplain rfl
        · exact hequal (by simpa using heq) hmem
      · rw [List.count_cons, List.count_cons]
        omega
  | case4 => cases h
  | case5 fuel c hescape e rest c' hshort ih =>
      obtain ⟨text', hread, rfl⟩ := Option.map_eq_some_iff.mp h
      obtain ⟨hlength, -, hblanks⟩ := ih hread
      have hc : c = '\\' := not_not.mp hescape
      have he : e ≠ ' ' := by
        rintro rfl
        cases hshort
      have hcount : (c :: e :: rest).count ' ' = rest.count ' ' := by simp [hc, he]
      rw [hcount, List.count_cons]
      simp only [List.length_cons]
      exact ⟨by omega, fun heq => by omega, by omega⟩
  | case6 => cases h
  | case7 fuel c hescape rest unit hunit low hlow _ ih =>
      obtain ⟨text', hread, rfl⟩ := Option.map_eq_some_iff.mp h
      obtain ⟨hlength, -, hblanks⟩ := ih hread
      have hpair : (rest.drop 10).count ' ' = rest.count ' ' := by
        have hdrop := lowSurrogate_blanks (Option.ite_none_right_eq_some.mp hlow).2
        rw [List.drop_drop, codeUnit_blanks hunit] at hdrop
        exact hdrop
      have hcount : (c :: 'u' :: rest).count ' ' = rest.count ' ' := by simp [not_not.mp hescape]
      rw [List.length_drop] at hlength
      rw [hcount, ← hpair, List.count_cons]
      simp only [List.length_cons]
      exact ⟨by omega, fun heq => by omega, by omega⟩
  | case8 fuel c hescape rest unit hunit hlow _ ih =>
      obtain ⟨text', hread, rfl⟩ := Option.map_eq_some_iff.mp h
      obtain ⟨hlength, -, hblanks⟩ := ih hread
      have hcount : (c :: 'u' :: rest).count ' ' = rest.count ' ' := by simp [not_not.mp hescape]
      rw [List.length_drop] at hlength
      rw [hcount, ← codeUnit_blanks hunit, List.count_cons]
      simp only [List.length_cons]
      exact ⟨by omega, fun heq => by omega, by omega⟩
  | case9 => cases h

/-! ### Strings -/

theorem readString_append {text : CString} (h : readString s = some (text, rest)) (t : CString) :
    readString (s ++ t) = some (text, rest ++ t) := by
  obtain ⟨⟨raw, rest'⟩, hsplit, hread⟩ := Option.bind_eq_some_iff.mp h
  obtain ⟨text', htext, heq⟩ := Option.map_eq_some_iff.mp hread
  cases heq
  rw [readString, (splitString_spec hsplit).2 t, Option.bind_some, htext]
  rfl

theorem shortens_readString : Shortens readString := by
  intro s text rest h
  obtain ⟨⟨raw, rest'⟩, hsplit, hread⟩ := Option.bind_eq_some_iff.mp h
  obtain ⟨text', htext, heq⟩ := Option.map_eq_some_iff.mp hread
  cases heq
  rw [(splitString_spec hsplit).1, List.length_append, List.length_cons]
  dsimp only
  omega

theorem readString_of_plain (h : Plain s) (rest : CString) : readString (s ++ '"' :: rest) = some (s, rest) := by
  rw [readString, splitString_of_plain h, Option.bind_some, unescape_of_plain fun hmem => (h _ hmem).2.1 rfl]
  rfl

/-- Every quote in a text stands after a blank. -/
def SpacedQuotes (t : CString) : Prop := ∀ before after, t = before ++ '"' :: after → ' ' ∈ before

/-- A text that is read as itself between two quotes is plain, and read up to the second of them. -/
theorem plain_of_readString {t : CString} (hspaced : SpacedQuotes t)
    (h : readString (s ++ '"' :: t) = some (s, rest)) : Plain s ∧ rest = t := by
  obtain ⟨⟨raw, rest'⟩, hsplit, hread⟩ := Option.bind_eq_some_iff.mp h
  obtain ⟨text, htext, heq⟩ := Option.map_eq_some_iff.mp hread
  cases heq
  dsimp only at htext ⊢
  obtain ⟨hlength, hequal, hblanks⟩ := unescape_spec htext
  have hsame := (splitString_spec hsplit).1
  rcases List.append_eq_append_iff.mp hsame with ⟨more, hraw, htail⟩ | ⟨more, hs, htail⟩
  · cases more with
    | nil =>
        rw [List.append_nil] at hraw
        subst hraw
        exact ⟨plain_of_splitString hsplit (hequal rfl), (List.cons.inj htail).2.symm⟩
    | cons c before =>
        -- the quote was taken into the string, and a blank after it has come out once too often
        rw [List.cons_append] at htail
        obtain ⟨rfl, ht⟩ := List.cons.inj htail
        have hmem := hspaced before rest' ht
        have hpos := List.count_pos_iff.mpr hmem
        rw [hraw, List.count_append, List.count_cons_of_ne (by decide)] at hblanks
        omega
  · have hmore : more = [] := by
      rw [hs, List.length_append] at hlength
      exact List.length_eq_zero_iff.mp (by omega)
    subst hmore
    rw [List.append_nil] at hs
    subst hs
    exact ⟨plain_of_splitString hsplit (hequal rfl), (List.cons.inj htail).2⟩

/-! ### Readers -/

section Readers

variable {t : CString} {bound : Nat}

theorem length_of_skipSpace {c : Char} (h : skipSpace s = c :: rest) : rest.length < s.length := by
  have hle := length_skipSpace_le s
  rw [h, List.length_cons] at hle
  exact hle

theorem readNumber_append {v : Json} (ht : StopsNumber t) (h : readNumber s = some (v, rest)) :
    readNumber (s ++ t) = some (v, rest ++ t) := by
  have htake : t.takeWhile isNumberChar = [] := by
    cases t with
    | nil => rfl
    | cons c t => exact List.takeWhile_cons_of_neg (by simpa using ht c rfl)
  have hdrop : t.dropWhile isNumberChar = t := by
    cases t with
    | nil => rfl
    | cons c t => exact List.dropWhile_cons_of_neg (by simpa using ht c rfl)
  have htext : (s ++ t).takeWhile isNumberChar = s.takeWhile isNumberChar := by
    rw [List.takeWhile_append, htake]
    split
    · rename_i hall
      rw [List.append_nil]
      exact (List.takeWhile_prefix _).eq_of_length hall |>.symm
    · rfl
  have hrest : (s ++ t).dropWhile isNumberChar = s.dropWhile isNumberChar ++ t := by
    rw [List.dropWhile_append, hdrop]
    split
    · rename_i hempty
      rw [List.isEmpty_iff.mp hempty]
      rfl
    · rfl
  rw [readNumber, Option.ite_none_right_eq_some] at h
  obtain ⟨hnumber, heq⟩ := h
  cases heq
  rw [readNumber, htext, hrest, if_pos hnumber]

theorem shortens_readNumber : Shortens readNumber := by
  intro s v rest h
  rw [readNumber, Option.ite_none_right_eq_some] at h
  obtain ⟨hnumber, heq⟩ := h
  cases heq
  have hne : s.takeWhile isNumberChar ≠ [] := by
    intro hnil
    rw [hnil] at hnumber
    exact absurd hnumber (by decide)
  have hlength := congrArg List.length (List.takeWhile_append_dropWhile (p := isNumberChar) (l := s))
  rw [List.length_append] at hlength
  have hpos := List.length_pos_iff.mpr hne
  omega

theorem readWord_append {word : CString} {value v : Json} (h : readWord word value s = some (v, rest)) :
    readWord word value (s ++ t) = some (v, rest ++ t) := by
  rw [readWord, Option.ite_none_right_eq_some] at h
  obtain ⟨hword, heq⟩ := h
  cases heq
  rw [readWord, if_pos (hword.trans (List.prefix_append s t)), List.drop_append_of_le_length hword.length_le]

theorem length_readWord {word : CString} {value v : Json} (h : readWord word value s = some (v, rest)) :
    rest.length ≤ s.length := by
  rw [readWord, Option.ite_none_right_eq_some] at h
  cases h.2
  exact (List.drop_sublist _ _).length_le

variable {element element' : Reader α} {close : Char}

theorem shortens_readSeq (hshort : Shortens element) (fuel : Nat) : Shortens (readSeq element close fuel) := by
  induction fuel with
  | zero =>
      intro s a rest h
      cases h
  | succ fuel ih =>
      intro s as rest h
      obtain ⟨⟨a, after⟩, hread, h⟩ := Option.bind_eq_some_iff.mp h
      have hone := hshort s a after hread
      cases hskip : skipSpace after with
      | nil => simp [hskip] at h
      | cons c more =>
          have htwo := length_of_skipSpace hskip
          simp only [hskip] at h
          split at h
          · obtain ⟨⟨others, last⟩, hothers, heq⟩ := Option.map_eq_some_iff.mp h
            cases heq
            have hthree := ih more others last hothers
            dsimp only
            omega
          · rw [Option.ite_none_right_eq_some] at h
            cases h.2
            omega

/-- A sequence is read with any bound above its length, with a reader that follows for its elements. -/
theorem readSeq_follows (hshort : Shortens element) (hfollows : Follows t bound element element') (fuel : Nat)
    {fuel' : Nat} {as : List α} (h : readSeq element close fuel s = some (as, rest))
    (hbound : s.length ≤ bound + rest.length) (hfuel : s.length < fuel' + rest.length) :
    readSeq element' close fuel' (s ++ t) = some (as, rest ++ t) := by
  induction fuel generalizing s as rest fuel' with
  | zero => cases h
  | succ fuel ih =>
      have hlength := shortens_readSeq hshort _ _ _ _ h
      obtain ⟨fuel', rfl⟩ : ∃ n, fuel' = n + 1 := ⟨fuel' - 1, by omega⟩
      obtain ⟨⟨a, after⟩, hread, h⟩ := Option.bind_eq_some_iff.mp h
      have hone := hshort s a after hread
      rw [readSeq]
      cases hskip : skipSpace after with
      | nil => simp [hskip] at h
      | cons c more =>
          have htwo := length_of_skipSpace hskip
          simp only [hskip] at h
          split at h
          · rename_i hcomma
            obtain ⟨⟨others, last⟩, hothers, heq⟩ := Option.map_eq_some_iff.mp h
            cases heq
            have hthree := shortens_readSeq hshort _ _ _ _ hothers
            dsimp only at hbound hfuel hthree ⊢
            rw [hfollows s a after hread (by omega), Option.bind_some]
            dsimp only
            rw [skipSpace_append hskip]
            dsimp only
            rw [if_pos hcomma, ih hothers (by omega) (by omega)]
            rfl
          · rename_i hcomma
            rw [Option.ite_none_right_eq_some] at h
            obtain ⟨hclose, heq⟩ := h
            cases heq
            rw [hfollows s a after hread (by omega), Option.bind_some]
            dsimp only
            rw [skipSpace_append hskip]
            dsimp only
            rw [if_neg hcomma, if_pos hclose]

theorem shortens_readListing (hshort : Shortens element) (fuel : Nat) : Shortens (readListing element close fuel) := by
  intro s as rest h
  unfold readListing at h
  split at h
  · rename_i hclose
    cases h
    cases hskip : skipSpace s with
    | nil => simp [hskip] at hclose
    | cons c more => exact length_of_skipSpace hskip
  · exact shortens_readSeq hshort fuel s as rest h

theorem readListing_follows (hshort : Shortens element) (hblank : ∀ s, skipSpace s = [] → element s = none)
    (hfollows : Follows t bound element element') (fuel : Nat) {as : List α}
    (h : readListing element close fuel s = some (as, rest)) (hbound : s.length < bound + rest.length) :
    readListing element' close bound (s ++ t) = some (as, rest ++ t) := by
  unfold readListing at h ⊢
  cases hskip : skipSpace s with
  | nil =>
      cases fuel with
      | zero => simp [hskip, readSeq] at h
      | succ fuel => simp [hskip, readSeq, hblank s hskip] at h
  | cons c more =>
      rw [hskip] at h
      rw [skipSpace_append hskip]
      split at h
      · rename_i hclose
        cases h
        exact if_pos hclose
      · rename_i hclose
        refine (if_neg hclose).trans ?_
        exact readSeq_follows hshort hfollows fuel h hbound.le hbound

variable {value value' : Reader Json}

theorem shortens_readMember (hshort : Shortens value) : Shortens (readMember value) := by
  intro s member rest h
  unfold readMember at h
  cases hskip : skipSpace s with
  | nil => simp [hskip] at h
  | cons c more =>
      have hone := length_of_skipSpace hskip
      simp only [hskip] at h
      rw [Option.ite_none_right_eq_some] at h
      obtain ⟨⟨key, after⟩, hkey, h⟩ := Option.bind_eq_some_iff.mp h.2
      have htwo := shortens_readString _ _ _ hkey
      cases hcolon : skipSpace after with
      | nil => simp [hcolon] at h
      | cons d left =>
          have hthree := length_of_skipSpace hcolon
          simp only [hcolon] at h
          rw [Option.ite_none_right_eq_some] at h
          obtain ⟨⟨v, last⟩, hvalue, heq⟩ := Option.map_eq_some_iff.mp h.2
          cases heq
          have hfour := hshort _ _ _ hvalue
          dsimp only
          omega

theorem readMember_blank (h : skipSpace s = []) : readMember value s = none := by
  unfold readMember
  rw [h]

theorem readMember_follows (hfollows : Follows t bound value value') :
    Follows t bound (readMember value) (readMember value') := by
  intro s member rest h hbound
  unfold readMember at h ⊢
  cases hskip : skipSpace s with
  | nil => simp [hskip] at h
  | cons c more =>
      have hone := length_of_skipSpace hskip
      simp only [hskip] at h
      rw [Option.ite_none_right_eq_some] at h
      obtain ⟨hquote, h⟩ := h
      obtain ⟨⟨key, after⟩, hkey, h⟩ := Option.bind_eq_some_iff.mp h
      have htwo := shortens_readString _ _ _ hkey
      rw [skipSpace_append hskip]
      dsimp only
      rw [if_pos hquote, readString_append hkey, Option.bind_some]
      dsimp only
      cases hcolon : skipSpace after with
      | nil => simp [hcolon] at h
      | cons d left =>
          have hthree := length_of_skipSpace hcolon
          simp only [hcolon] at h
          rw [Option.ite_none_right_eq_some] at h
          obtain ⟨hsep, h⟩ := h
          obtain ⟨⟨v, last⟩, hvalue, heq⟩ := Option.map_eq_some_iff.mp h
          cases heq
          dsimp only at hbound
          rw [skipSpace_append hcolon]
          dsimp only
          rw [if_pos hsep, hfollows left v last hvalue (by omega)]
          rfl

end Readers

/-! ### Documents -/

theorem readValue_blank (fuel : Nat) (h : skipSpace s = []) : readValue fuel s = none := by
  cases fuel with
  | zero => rfl
  | succ fuel =>
      unfold readValue
      rw [h]

theorem shortens_readValue (fuel : Nat) : Shortens (readValue fuel) := by
  induction fuel with
  | zero =>
      intro s v rest h
      cases h
  | succ fuel ih =>
      intro s v rest h
      unfold readValue at h
      cases hskip : skipSpace s with
      | nil => simp [hskip] at h
      | cons c more =>
          have hone := length_of_skipSpace hskip
          simp only [hskip] at h
          split_ifs at h
          · obtain ⟨⟨text, last⟩, hread, heq⟩ := Option.map_eq_some_iff.mp h
            cases heq
            exact (shortens_readString _ _ _ hread).trans hone
          · obtain ⟨⟨items, last⟩, hread, heq⟩ := Option.map_eq_some_iff.mp h
            cases heq
            exact (shortens_readListing ih fuel _ _ _ hread).trans hone
          · obtain ⟨⟨members, last⟩, hread, heq⟩ := Option.map_eq_some_iff.mp h
            cases heq
            exact (shortens_readListing (shortens_readMember ih) fuel _ _ _ hread).trans hone
          · exact (length_readWord h).trans_lt hone
          · exact (length_readWord h).trans_lt hone
          · exact (length_readWord h).trans_lt hone
          · have hread := shortens_readNumber _ _ _ h
            rw [List.length_cons] at hread
            omega

/-- A document is read with any bound above its length, whatever follows that is no part of a number. -/
theorem readValue_follows {t : CString} (ht : StopsNumber t) (fuel fuel' : Nat) :
    Follows t fuel' (readValue fuel) (readValue fuel') := by
  induction fuel generalizing fuel' with
  | zero =>
      intro s v rest h
      cases h
  | succ fuel ih =>
      intro s v rest h hbound
      have hlength := shortens_readValue _ _ _ _ h
      obtain ⟨fuel', rfl⟩ : ∃ n, fuel' = n + 1 := ⟨fuel' - 1, by omega⟩
      unfold readValue at h ⊢
      cases hskip : skipSpace s with
      | nil => simp [hskip] at h
      | cons c more =>
          have hone := length_of_skipSpace hskip
          rw [skipSpace_append hskip]
          simp only [hskip] at h ⊢
          split_ifs at h ⊢
          · obtain ⟨⟨text, last⟩, hread, heq⟩ := Option.map_eq_some_iff.mp h
            cases heq
            rw [readString_append hread]
            rfl
          · obtain ⟨⟨items, last⟩, hread, heq⟩ := Option.map_eq_some_iff.mp h
            cases heq
            dsimp only at hbound
            rw [readListing_follows (shortens_readValue fuel) (fun _ => readValue_blank fuel) (ih fuel') fuel hread
              (by omega)]
            rfl
          · obtain ⟨⟨members, last⟩, hread, heq⟩ := Option.map_eq_some_iff.mp h
            cases heq
            dsimp only at hbound
            rw [readListing_follows (shortens_readMember (shortens_readValue fuel)) (fun _ => readMember_blank)
              (readMember_follows (ih fuel')) fuel hread (by omega)]
            rfl
          · exact readWord_append h
          · exact readWord_append h
          · exact readWord_append h
          · exact readNumber_append ht h

end Json

end Base
