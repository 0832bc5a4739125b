import Gfal2.Base.Utf8

/-! `gfal2_utf8escape_string`: a text with bytes that are not UTF-8 and with control characters is written so that it
is UTF-8 and can be read back. -/

namespace Gfal2

open Base

/-- `\`. -/
def backslash : UInt8 := 0x5c

def lowerHexDigit (n : Nat) : UInt8 := UInt8.ofNat (if n < 10 then 0x30 + n else 0x57 + n)

/-- The format `\\x%02x`. -/
def hexEscape (n : Nat) : Bytes := [backslash, 0x78, lowerHexDigit (n / 16), lowerHexDigit (n % 16)]

/-- How a control character or a backslash is written. -/
def escapedChar (uchar : Nat) : Bytes :=
  match uchar with
  | 0x08 => [backslash, 0x62]
  | 0x0c => [backslash, 0x66]
  | 0x0a => [backslash, 0x6e]
  | 0x0d => [backslash, 0x72]
  | 0x09 => [backslash, 0x74]
  | 0x5c => [backslash, backslash]
  | uchar => hexEscape uchar

/-- Whether a character is found in the list of those to leave alone, which may be a null pointer. -/
def ignored (ignore : Option Bytes) (uchar : Nat) : Bool :=
  match ignore with
  | none => false
  | some ignore => ignore.any (·.toNat = uchar)

/-- What one round of the loop appends for the text that is left, and how far it moves on. -/
def escapeFirst (ignore : Option Bytes) (p : Bytes) : Bytes × Nat :=
  let first := p.headD 0
  let uchar := getCharValidated p
  if uchar = malformedSequence ∨ uchar = partialSequence then (hexEscape first.toNat, 1)
  else if (uchar < 32 ∨ uchar = 0x5c) ∧ (uchar = 0 ∨ !ignored ignore uchar) then (escapedChar uchar, utf8Skip first)
  else (unicharToUtf8 uchar, utf8Skip first)

/-- The loop of `gfal2_utf8escape_string`. -/
def escapeLoop (ignore : Option Bytes) : Nat → Bytes → Bytes
  | 0, _ => []
  | _, [] => []
  | fuel + 1, p => (escapeFirst ignore p).1 ++ escapeLoop ignore fuel (p.drop (escapeFirst ignore p).2)

/-- `gfal2_utf8escape_string`. No round of the loop stays where it is. -/
def gfal2Utf8escapeString (str : Bytes) (ignore : Option Bytes) : Bytes := escapeLoop ignore str.length str

/-! ### The ways to write a piece of the text -/

/-- A text and how it is written, piece by piece. -/
inductive Escapes (ignore : Option Bytes) : Bytes → Bytes → Prop where
  | nil : Escapes ignore [] []
  | byte (b : UInt8) {str out : Bytes} (hrest : Escapes ignore str out) :
      Escapes ignore (b :: str) (hexEscape b.toNat ++ out)
  | control (uchar : Nat) {str out : Bytes} (hcontrol : uchar < 32 ∨ uchar = 0x5c) (hrest : Escapes ignore str out) :
      Escapes ignore (UInt8.ofNat uchar :: str) (escapedChar uchar ++ out)
  | char (c : Char) {str out : Bytes} (hbackslash : c.toNat ≠ 0x5c)
      (hignored : c.toNat < 32 → c.toNat ≠ 0 ∧ ignored ignore c.toNat = true) (hrest : Escapes ignore str out) :
      Escapes ignore (String.utf8EncodeChar c ++ str) (String.utf8EncodeChar c ++ out)

variable {ignore : Option Bytes}

theorem marks_ne (c : Char) : ¬(c.toNat = malformedSequence ∨ c.toNat = partialSequence) := by
  have hlt := toNat_lt_unicode c
  unfold malformedSequence partialSequence
  omega

section Ignored

variable (hignore : ∀ bytes, ignore = some bytes → backslash ∉ bytes)
include hignore

theorem ignored_backslash : ignored ignore 0x5c = false := by
  cases ignore with
  | none => rfl
  | some bytes =>
      refine List.any_eq_false.mpr fun b hb hsame => hignore bytes rfl ?_
      have hbackslash : b = backslash := UInt8.toNat_inj.mp (of_decide_eq_true hsame)
      exact hbackslash ▸ hb

/-- Each round writes what it moves over. -/
theorem escapeFirst_spec (b : UInt8) (rest : Bytes) :
    ((b :: rest).drop (escapeFirst ignore (b :: rest)).2).length < (b :: rest).length ∧
      ∀ out, Escapes ignore ((b :: rest).drop (escapeFirst ignore (b :: rest)).2) out →
        Escapes ignore (b :: rest) ((escapeFirst ignore (b :: rest)).1 ++ out) := by
  have hbyte : getCharValidated (b :: rest) = malformedSequence ∨ getCharValidated (b :: rest) = partialSequence →
      escapeFirst ignore (b :: rest) = (hexEscape b.toNat, 1) := by
    intro hmark
    unfold escapeFirst
    exact if_pos hmark
  obtain hmark | hmark | ⟨c, hread, hzero, htext⟩ := getCharValidated_spec b rest
  · rw [hbyte (.inl hmark)]
    exact ⟨Nat.lt_succ_self _, fun out hrest => .byte b hrest⟩
  · rw [hbyte (.inr hmark)]
    exact ⟨Nat.lt_succ_self _, fun out hrest => .byte b hrest⟩
  · have hmove : ((b :: rest).drop (utf8Skip b)).length < (b :: rest).length := by
      have hlength := congrArg List.length htext
      rw [List.length_append] at hlength
      have hpos := utf8EncodeChar_length_pos c
      omega
    by_cases hescape : (c.toNat < 32 ∨ c.toNat = 0x5c) ∧ (c.toNat = 0 ∨ !ignored ignore c.toNat)
    · have hfirst : escapeFirst ignore (b :: rest) = (escapedChar c.toNat, utf8Skip b) := by
        unfold escapeFirst
        dsimp only
        rw [hread, if_neg (marks_ne c), if_pos hescape]
        rfl
      have hascii : String.utf8EncodeChar c = [UInt8.ofNat c.toNat] := utf8EncodeChar_of_lt (by omega)
      rw [hfirst]
      refine ⟨hmove, fun out hrest => ?_⟩
      rw [htext, hascii]
      exact .control c.toNat hescape.1 hrest
    · have hfirst : escapeFirst ignore (b :: rest) = (String.utf8EncodeChar c, utf8Skip b) := by
        unfold escapeFirst
        dsimp only
        rw [hread, if_neg (marks_ne c), if_neg hescape, unicharToUtf8_eq]
        rfl
      have hbackslash : c.toNat ≠ 0x5c := by
        intro hc
        refine hescape ⟨.inr hc, .inr ?_⟩
        rw [hc, ignored_backslash hignore]
        rfl
      have hleft : c.toNat < 32 → c.toNat ≠ 0 ∧ ignored ignore c.toNat = true := by
        intro hlt
        refine ⟨hzero, ?_⟩
        by_contra hnot
        exact hescape ⟨.inl hlt, .inr (by rw [Bool.not_eq_true] at hnot; rw [hnot]; rfl)⟩
      rw [hfirst]
      refine ⟨hmove, fun out hrest => ?_⟩
      have hchar := Escapes.char c hbackslash hleft hrest
      rwa [← htext] at hchar

theorem escapes_escapeLoop {fuel : Nat} {p : Bytes} (hfuel : p.length ≤ fuel) : Escapes ignore p (escapeLoop ignore fuel p) := by
  induction fuel generalizing p with
  | zero =>
      rw [List.length_eq_zero_iff.mp (Nat.le_zero.mp hfuel)]
      exact .nil
  | succ fuel ih =>
      cases p with
      | nil => exact .nil
      | cons b rest =>
          obtain ⟨hmove, hround⟩ := escapeFirst_spec hignore b rest
          exact hround _ (ih (by omega))

end Ignored

/-! ### Reading the written text back -/

def lowerHexValue (digit : UInt8) : Nat := if digit.toNat < 0x3a then digit.toNat - 0x30 else digit.toNat - 0x57

def escapedByte (letter : UInt8) : UInt8 :=
  match letter with
  | 0x62 => 0x08
  | 0x66 => 0x0c
  | 0x6e => 0x0a
  | 0x72 => 0x0d
  | 0x74 => 0x09
  | letter => letter

/-- The text that was written. -/
def utf8unescape : Bytes → Bytes
  | [] => []
  | 0x5c :: 0x78 :: high :: low :: rest => UInt8.ofNat (lowerHexValue high * 16 + lowerHexValue low) :: utf8unescape rest
  | 0x5c :: letter :: rest => escapedByte letter :: utf8unescape rest
  | b :: rest => b :: utf8unescape rest

theorem lowerHexValue_lowerHexDigit {n : Nat} (h : n < 16) : lowerHexValue (lowerHexDigit n) = n := by
  revert n
  decide

theorem utf8unescape_hexEscape {n : Nat} (h : n < 256) (rest : Bytes) :
    utf8unescape (hexEscape n ++ rest) = UInt8.ofNat n :: utf8unescape rest := by
  show utf8unescape (0x5c :: 0x78 :: lowerHexDigit (n / 16) :: lowerHexDigit (n % 16) :: rest) = _
  rw [utf8unescape, lowerHexValue_lowerHexDigit (by omega), lowerHexValue_lowerHexDigit (by omega), Nat.mul_comm,
    Nat.div_add_mod]

theorem utf8unescape_escapedChar {uchar : Nat} (h : uchar < 32 ∨ uchar = 0x5c) (rest : Bytes) :
    utf8unescape (escapedChar uchar ++ rest) = UInt8.ofNat uchar :: utf8unescape rest := by
  unfold escapedChar
  split
  · rfl
  · rfl
  · rfl
  · rfl
  · rfl
  · rfl
  · exact utf8unescape_hexEscape (by omega) rest

theorem utf8unescape_cons {b : UInt8} (h : backslash ≠ b) (rest : Bytes) :
    utf8unescape (b :: rest) = b :: utf8unescape rest := by
  have hb : b ≠ 0x5c := fun heq => h heq.symm
  rw [utf8unescape]
  · exact fun _ _ _ heq => absurd heq hb
  · exact fun _ _ heq => absurd heq hb

theorem utf8unescape_append {text : Bytes} (h : backslash ∉ text) (rest : Bytes) :
    utf8unescape (text ++ rest) = text ++ utf8unescape rest := by
  induction text with
  | nil => rfl
  | cons b text ih =>
      rw [List.mem_cons, not_or] at h
      rw [List.cons_append, utf8unescape_cons h.1, ih h.2]
      rfl

/-- A character other than a backslash has none in its bytes. -/
theorem backslash_notMem {c : Char} (h : c.toNat ≠ 0x5c) : backslash ∉ String.utf8EncodeChar c := by
  intro hmem
  by_cases hascii : c.toNat < 0x80
  · rw [utf8EncodeChar_of_lt hascii, List.mem_singleton] at hmem
    have hvalue := congrArg UInt8.toNat hmem
    rw [UInt8.toNat_ofNat', Nat.mod_eq_of_lt (by omega)] at hvalue
    exact h hvalue.symm
  · have hbyte := le_of_mem_utf8EncodeChar (Nat.not_lt.mp hascii) _ hmem
    exact absurd hbyte (by decide)

theorem Escapes.unescape {str out : Bytes} (h : Escapes ignore str out) : utf8unescape out = str := by
  induction h with
  | nil => rfl
  | byte b hrest ih => rw [utf8unescape_hexEscape b.toNat_lt, ih, UInt8.ofNat_toNat]
  | control uchar hcontrol hrest ih => rw [utf8unescape_escapedChar hcontrol, ih]
  | char c hbackslash hignored hrest ih => rw [utf8unescape_append (backslash_notMem hbackslash), ih]

/-! ### What the written text is -/

/-- A UTF-8 text without NUL, and with no control character but those in the list. -/
def CleanUtf8 (ignore : Option Bytes) (text : Bytes) : Prop :=
  ∃ chars, text = utf8Encode chars ∧ ∀ c ∈ chars, c.toNat < 0x20 → c.toNat ≠ 0 ∧ ignored ignore c.toNat = true

theorem CleanUtf8.append {left right : Bytes} (hleft : CleanUtf8 ignore left) (hright : CleanUtf8 ignore right) :
    CleanUtf8 ignore (left ++ right) := by
  obtain ⟨chars, rfl, hchars⟩ := hleft
  obtain ⟨chars', rfl, hchars'⟩ := hright
  exact ⟨chars ++ chars', (utf8Encode_append chars chars').symm, List.forall_mem_append.mpr ⟨hchars, hchars'⟩⟩

theorem cleanUtf8_of_printable {text : Bytes} (h : ∀ b ∈ text, 0x20 ≤ b.toNat ∧ b.toNat < 0x80) : CleanUtf8 ignore text := by
  refine ⟨_, ascii_eq_utf8Encode fun b hb => (h b hb).2, fun c hc hlt => ?_⟩
  obtain ⟨b, hb, rfl⟩ := List.mem_map.mp hc
  rw [toNat_ofNat_of_ascii (h b hb).2] at hlt
  exact absurd (h b hb).1 (Nat.not_le.mpr hlt)

theorem lowerHexDigit_printable {n : Nat} (h : n < 16) : 0x20 ≤ (lowerHexDigit n).toNat ∧ (lowerHexDigit n).toNat < 0x80 := by
  revert n
  decide

theorem hexEscape_printable {n : Nat} (h : n < 256) : ∀ b ∈ hexEscape n, 0x20 ≤ b.toNat ∧ b.toNat < 0x80 := by
  unfold hexEscape
  simp only [List.forall_mem_cons]
  exact ⟨by decide, by decide, lowerHexDigit_printable (by omega), lowerHexDigit_printable (by omega),
    fun b hb => absurd hb List.not_mem_nil⟩

theorem escapedChar_printable {uchar : Nat} (h : uchar < 32 ∨ uchar = 0x5c) :
    ∀ b ∈ escapedChar uchar, 0x20 ≤ b.toNat ∧ b.toNat < 0x80 := by
  unfold escapedChar
  split
  · decide
  · decide
  · decide
  · decide
  · decide
  · decide
  · exact hexEscape_printable (by omega)

theorem Escapes.clean {str out : Bytes} (h : Escapes ignore str out) : CleanUtf8 ignore out := by
  induction h with
  | nil => exact ⟨[], rfl, List.forall_mem_nil _⟩
  | byte b hrest ih => exact (cleanUtf8_of_printable (hexEscape_printable b.toNat_lt)).append ih
  | control uchar hcontrol hrest ih => exact (cleanUtf8_of_printable (escapedChar_printable hcontrol)).append ih
  | char c hbackslash hignored hrest ih =>
      refine CleanUtf8.append ⟨[c], (List.append_nil _).symm, fun other hother => ?_⟩ ih
      rw [List.mem_singleton.mp hother]
      exact hignored

/-- With a list that has no backslash, what is written is UTF-8, has no control character outside the list, and
tells the text it was written for. -/
theorem utf8escape_faithful (ignore : Option Bytes) (hignore : ∀ bytes, ignore = some bytes → backslash ∉ bytes) :
    (∀ str, CleanUtf8 ignore (gfal2Utf8escapeString str ignore)) ∧
      Function.Injective fun str => gfal2Utf8escapeString str ignore := by
  have hescapes : ∀ str, Escapes ignore str (gfal2Utf8escapeString str ignore) :=
    fun str => escapes_escapeLoop hignore le_rfl
  refine ⟨fun str => (hescapes str).clean, ?_⟩
  intro str str' hsame
  dsimp only at hsame
  calc str = utf8unescape (gfal2Utf8escapeString str ignore) := (hescapes str).unescape.symm
    _ = utf8unescape (gfal2Utf8escapeString str' ignore) := congrArg utf8unescape hsame
    _ = str' := (hescapes str').unescape

/-- With line breaks left alone. -/
theorem utf8escape_faithful_lines :
    CleanUtf8 (some [0x0a]) (gfal2Utf8escapeString [0x0a, 0x00, 0xc3, 0xa9, 0xc3, 0x5c] (some [0x0a])) ∧
      Function.Injective fun str => gfal2Utf8escapeString str (some [0x0a]) := by
  have hfaithful := utf8escape_faithful (some [0x0a]) (by
    rintro bytes hbytes
    cases hbytes
    decide)
  exact ⟨hfaithful.1 _, hfaithful.2⟩

-- A NUL, a character of two bytes, the first byte of another one, and a backslash.
example : gfal2Utf8escapeString [0x0a, 0x00, 0xc3, 0xa9, 0xc3, 0x5c] (some [0x0a]) =
    [0x0a, 0x5c, 0x78, 0x30, 0x30, 0xc3, 0xa9, 0x5c, 0x78, 0x63, 0x33, 0x5c, 0x5c] := by
  decide

end Gfal2
