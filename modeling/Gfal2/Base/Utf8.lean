import Mathlib.Algebra.Group.Nat.Defs
import Mathlib.Data.Char
import Mathlib.Data.List.Basic

/-! UTF-8 text in bytes, read and written one character at a time. A reader gets a code point, or one of two marks for
a sequence that is cut off or malformed; it takes neither overlong forms nor surrogates, nor the character NUL. -/

namespace Base

abbrev Bytes := List UInt8

/-- The marks for what is no character, unsigned words beyond all code points. -/
def partialSequence : Nat := 2 ^ 32 - 2

def malformedSequence : Nat := 2 ^ 32 - 1

/-- The length of the character that a byte begins. -/
def utf8Skip (b : UInt8) : Nat :=
  if b.toNat < 0xc0 then 1
  else if b.toNat < 0xe0 then 2
  else if b.toNat < 0xf0 then 3
  else if b.toNat < 0xf8 then 4
  else if b.toNat < 0xfc then 5
  else if b.toNat < 0xfe then 6
  else 1

/-- What a leading byte of a longer character says: the number of bytes, its own bits of the code point, and the least
code point that needs so many bytes. -/
def leadingByte (b : Nat) : Option (Nat × Nat × Nat) :=
  if b < 0xc0 then none
  else if b < 0xe0 then some (2, b % 32, 2 ^ 7)
  else if b < 0xf0 then some (3, b % 16, 2 ^ 11)
  else if b < 0xf8 then some (4, b % 8, 2 ^ 16)
  else if b < 0xfc then some (5, b % 4, 2 ^ 21)
  else if b < 0xfe then some (6, b % 2, 2 ^ 26)
  else none

/-- The code point once its other bytes are read. -/
def readTail (wc : Nat) : Bytes → Nat
  | [] => wc
  | b :: rest =>
      if b.toNat / 64 = 2 then readTail (wc * 64 + b.toNat % 64) rest
      else if b ≠ 0 then malformedSequence else partialSequence

/-- The first code point of a text, whether or not it is one of Unicode. -/
def getCharExtended : Bytes → Nat
  | [] => partialSequence
  | b :: rest =>
      if b.toNat < 0x80 then b.toNat
      else
        match leadingByte b.toNat with
        | none => malformedSequence
        | some (len, wc, minCode) =>
            if rest.length + 1 < len then
              if rest.all (fun b => b.toNat / 64 = 2) then partialSequence else malformedSequence
            else if readTail wc (rest.take (len - 1)) < minCode then malformedSequence
            else readTail wc (rest.take (len - 1))

def unicodeValid (c : Nat) : Bool := c < 0x110000 && !(0xd800 ≤ c && c < 0xe000)

/-- The first character of a text that is not empty. -/
def getCharValidated (text : Bytes) : Nat :=
  if getCharExtended text = 0 then partialSequence
  else if 2 ^ 31 ≤ getCharExtended text then getCharExtended text
  else if unicodeValid (getCharExtended text) then getCharExtended text
  else malformedSequence

/-- The last bytes of a character, six bits in each. -/
def tailBytes : Nat → Nat → Bytes
  | 0, _ => []
  | n + 1, c => UInt8.ofNat (c / 64 ^ n % 64 + 0x80) :: tailBytes n c

def unicharToUtf8 (c : Nat) : Bytes :=
  let leading := fun first n : Nat => UInt8.ofNat (c / 64 ^ n + first) :: tailBytes n c
  if c < 0x80 then leading 0 0
  else if c < 0x800 then leading 0xc0 1
  else if c < 0x10000 then leading 0xe0 2
  else if c < 0x200000 then leading 0xf0 3
  else if c < 0x4000000 then leading 0xf8 4
  else leading 0xfc 5

/-- The bytes of a list of characters. -/
def utf8Encode (chars : List Char) : Bytes := chars.flatMap String.utf8EncodeChar

/-! ### Writing a character -/

variable {b : UInt8}

theorem ofNat_eq_of_toNat {n : Nat} (h : n = b.toNat) : UInt8.ofNat n = b := by
  rw [h]
  exact UInt8.ofNat_toNat

theorem toNat_lt_unicode (c : Char) : c.toNat < 0x110000 := by
  rcases c.valid with h | ⟨-, h⟩
  · show c.val.toNat < _
    omega
  · exact h

theorem unicharToUtf8_eq (c : Char) : unicharToUtf8 c.toNat = String.utf8EncodeChar c := by
  have hlt := toNat_lt_unicode c
  have hval : c.val.toNat = c.toNat := rfl
  unfold unicharToUtf8 String.utf8EncodeChar
  dsimp only
  rw [hval]
  generalize c.toNat = v at hlt
  by_cases h1 : v < 0x80
  · rw [if_pos h1, if_pos (by omega)]
    simp [tailBytes]
  by_cases h2 : v < 0x800
  · rw [if_neg h1, if_pos h2, if_neg (by omega), if_pos (by omega)]
    simp only [tailBytes, Nat.reducePow, Nat.div_one]
    rw [Nat.mod_eq_of_lt (by omega : v / 64 < 0x20)]
  by_cases h3 : v < 0x10000
  · rw [if_neg h1, if_neg h2, if_pos h3, if_neg (by omega), if_neg (by omega), if_pos (by omega)]
    simp only [tailBytes, Nat.reducePow, Nat.div_one]
    rw [Nat.mod_eq_of_lt (by omega : v / 4096 < 0x10)]
  · rw [if_neg h1, if_neg h2, if_neg h3, if_pos (by omega), if_neg (by omega), if_neg (by omega), if_neg (by omega)]
    simp only [tailBytes, Nat.reducePow, Nat.div_one]
    rw [Nat.mod_eq_of_lt (by omega : v / 262144 < 0x08)]

theorem utf8EncodeChar_of_lt {c : Char} (h : c.toNat < 0x80) : String.utf8EncodeChar c = [UInt8.ofNat c.toNat] := by
  rw [← unicharToUtf8_eq]
  unfold unicharToUtf8
  rw [if_pos h]
  simp only [tailBytes, Nat.reducePow, Nat.div_one, Nat.add_zero]

theorem utf8EncodeChar_length_pos (c : Char) : 0 < (String.utf8EncodeChar c).length := by
  rw [String.length_utf8EncodeChar]
  exact c.utf8Size_pos

/-- The bytes of a longer character are all beyond ASCII. -/
theorem le_of_mem_utf8EncodeChar {c : Char} (h : 0x80 ≤ c.toNat) : ∀ b ∈ String.utf8EncodeChar c, 0x80 ≤ b.toNat := by
  have hlt := toNat_lt_unicode c
  have hval : c.val.toNat = c.toNat := rfl
  unfold String.utf8EncodeChar
  dsimp only
  rw [hval, if_neg (by omega)]
  split
  · simp only [List.forall_mem_cons, UInt8.toNat_ofNat']
    exact ⟨by omega, by omega, fun b hb => absurd hb List.not_mem_nil⟩
  · split
    · simp only [List.forall_mem_cons, UInt8.toNat_ofNat']
      exact ⟨by omega, by omega, by omega, fun b hb => absurd hb List.not_mem_nil⟩
    · simp only [List.forall_mem_cons, UInt8.toNat_ofNat']
      exact ⟨by omega, by omega, by omega, by omega, fun b hb => absurd hb List.not_mem_nil⟩

theorem toNat_ofNat_of_ascii {n : Nat} (h : n < 0x80) : (Char.ofNat n).toNat = n := by
  revert n
  decide

/-- Bytes of ASCII are characters themselves. -/
theorem ascii_eq_utf8Encode {text : Bytes} (h : ∀ b ∈ text, b.toNat < 0x80) :
    text = utf8Encode (text.map fun b => Char.ofNat b.toNat) := by
  induction text with
  | nil => rfl
  | cons b rest ih =>
      obtain ⟨hb, hrest⟩ := List.forall_mem_cons.mp h
      have hchar := toNat_ofNat_of_ascii hb
      unfold utf8Encode at ih ⊢
      rw [List.map_cons, List.flatMap_cons, utf8EncodeChar_of_lt (by omega), hchar, UInt8.ofNat_toNat, ← ih hrest]
      rfl

theorem utf8Encode_append (chars chars' : List Char) : utf8Encode (chars ++ chars') = utf8Encode chars ++ utf8Encode chars' :=
  List.flatMap_append

/-! ### Reading a character -/

/-- A code point is a mark, or within the bits that its bytes have room for. -/
theorem readTail_bound (wc : Nat) (tail : Bytes) :
    readTail wc tail = malformedSequence ∨ readTail wc tail = partialSequence ∨
      readTail wc tail < (wc + 1) * 64 ^ tail.length := by
  induction tail generalizing wc with
  | nil =>
      rw [readTail, List.length_nil]
      exact .inr (.inr (by omega))
  | cons b rest ih =>
      rw [readTail, List.length_cons, Nat.pow_succ]
      split
      · obtain hmark | hmark | hlt := ih (wc * 64 + b.toNat % 64)
        · exact .inl hmark
        · exact .inr (.inl hmark)
        · refine .inr (.inr (Nat.lt_of_lt_of_le hlt ?_))
          calc (wc * 64 + b.toNat % 64 + 1) * 64 ^ rest.length
              ≤ ((wc + 1) * 64) * 64 ^ rest.length := Nat.mul_le_mul_right _ (by omega)
            _ = (wc + 1) * (64 ^ rest.length * 64) := by rw [Nat.mul_assoc, Nat.mul_comm 64]
      · split
        · exact .inl rfl
        · exact .inr (.inl rfl)

theorem readTail_lt {wc : Nat} {tail : Bytes} (h : readTail wc tail < 2 ^ 31) : ∀ b ∈ tail, b.toNat / 64 = 2 := by
  induction tail generalizing wc with
  | nil => exact fun b hb => absurd hb List.not_mem_nil
  | cons b rest ih =>
      rw [readTail] at h
      by_cases hb : b.toNat / 64 = 2
      · rw [if_pos hb] at h
        exact List.forall_mem_cons.mpr ⟨hb, ih h⟩
      · rw [if_neg hb] at h
        exfalso
        revert h
        split <;> decide

theorem lt_of_unicodeValid {c : Nat} (h : unicodeValid c = true) : c < 0x110000 := by
  unfold unicodeValid at h
  rw [Bool.and_eq_true, decide_eq_true_eq] at h
  exact h.1

variable {minCode : Nat}

theorem length_of_leadingByte {b len wc : Nat} (h : leadingByte b = some (len, wc, minCode)) :
    0xc0 ≤ b ∧ (b < 0xe0 ∧ len = 2 ∧ wc = b % 32 ∧ minCode = 2 ^ 7 ∨
      0xe0 ≤ b ∧ b < 0xf0 ∧ len = 3 ∧ wc = b % 16 ∧ minCode = 2 ^ 11 ∨
      0xf0 ≤ b ∧ b < 0xf8 ∧ len = 4 ∧ wc = b % 8 ∧ minCode = 2 ^ 16 ∨
      2 ^ 21 ≤ minCode) := by
  unfold leadingByte at h
  split at h
  · cases h
  · rename_i hb
    refine ⟨by omega, ?_⟩
    split at h
    · cases h
      exact .inl ⟨by omega, rfl, rfl, rfl⟩
    · split at h
      · cases h
        exact .inr (.inl ⟨by omega, by omega, rfl, rfl, rfl⟩)
      · split at h
        · cases h
          exact .inr (.inr (.inl ⟨by omega, by omega, rfl, rfl, rfl⟩))
        · split at h
          · cases h
            exact .inr (.inr (.inr le_rfl))
          · split at h
            · cases h
              exact .inr (.inr (.inr (by decide)))
            · cases h

theorem utf8Skip_of_lt_c0 (h : b.toNat < 0xc0) : utf8Skip b = 1 := if_pos h

theorem utf8Skip_of_lt (hge : 0xc0 ≤ b.toNat) (hlt : b.toNat < 0xe0) : utf8Skip b = 2 := by
  unfold utf8Skip
  rw [if_neg (by omega), if_pos hlt]

theorem utf8Skip_of_lt_f0 (hge : 0xe0 ≤ b.toNat) (hlt : b.toNat < 0xf0) : utf8Skip b = 3 := by
  unfold utf8Skip
  rw [if_neg (by omega), if_neg (by omega), if_pos hlt]

theorem utf8Skip_of_lt_f8 (hge : 0xf0 ≤ b.toNat) (hlt : b.toNat < 0xf8) : utf8Skip b = 4 := by
  unfold utf8Skip
  rw [if_neg (by omega), if_neg (by omega), if_neg (by omega), if_pos hlt]

/-- The code point that is read from a leading byte and its tail, written again. -/
theorem write_readTail {tail : Bytes} {len wc : Nat}
    (hlead : leadingByte b.toNat = some (len, wc, minCode)) (hlength : tail.length = len - 1)
    (hvalid : unicodeValid (readTail wc tail) = true) (hmin : minCode ≤ readTail wc tail) :
    unicharToUtf8 (readTail wc tail) = b :: tail ∧ utf8Skip b = len := by
  have hcode := lt_of_unicodeValid hvalid
  have htail := readTail_lt (lt_trans hcode (by decide))
  obtain ⟨hb, ⟨hlt, rfl, rfl, rfl⟩ | ⟨hge, hlt, rfl, rfl, rfl⟩ | ⟨hge, hlt, rfl, rfl, rfl⟩ | hbig⟩ :=
    length_of_leadingByte hlead
  · obtain ⟨x, rfl⟩ := List.length_eq_one_iff.mp hlength
    have hx := htail x List.mem_cons_self
    have hread : readTail (b.toNat % 32) [x] = b.toNat % 32 * 64 + x.toNat % 64 := by
      rw [readTail, if_pos hx, readTail]
    rw [hread] at hmin ⊢
    refine ⟨?_, utf8Skip_of_lt (by omega) (by omega)⟩
    unfold unicharToUtf8
    rw [if_neg (by omega), if_pos (by omega)]
    simp only [tailBytes, Nat.reducePow, Nat.div_one]
    rw [ofNat_eq_of_toNat (b := b) (by omega), ofNat_eq_of_toNat (b := x) (by omega)]
  · obtain ⟨x, y, rfl⟩ := List.length_eq_two.mp hlength
    have hx := htail x List.mem_cons_self
    have hy := htail y (List.mem_cons_of_mem _ List.mem_cons_self)
    have hread : readTail (b.toNat % 16) [x, y] = (b.toNat % 16 * 64 + x.toNat % 64) * 64 + y.toNat % 64 := by
      rw [readTail, if_pos hx, readTail, if_pos hy, readTail]
    rw [hread] at hmin ⊢
    refine ⟨?_, utf8Skip_of_lt_f0 (by omega) (by omega)⟩
    unfold unicharToUtf8
    rw [if_neg (by omega), if_neg (by omega), if_pos (by omega)]
    simp only [tailBytes, Nat.reducePow, Nat.div_one]
    rw [ofNat_eq_of_toNat (b := b) (by omega), ofNat_eq_of_toNat (b := x) (by omega),
      ofNat_eq_of_toNat (b := y) (by omega)]
  · obtain ⟨x, y, z, rfl⟩ := List.length_eq_three.mp hlength
    have hx := htail x List.mem_cons_self
    have hy := htail y (List.mem_cons_of_mem _ List.mem_cons_self)
    have hz := htail z (List.mem_cons_of_mem _ (List.mem_cons_of_mem _ List.mem_cons_self))
    have hread : readTail (b.toNat % 8) [x, y, z] =
        ((b.toNat % 8 * 64 + x.toNat % 64) * 64 + y.toNat % 64) * 64 + z.toNat % 64 := by
      rw [readTail, if_pos hx, readTail, if_pos hy, readTail, if_pos hz, readTail]
    rw [hread] at hmin hcode ⊢
    refine ⟨?_, utf8Skip_of_lt_f8 (by omega) (by omega)⟩
    unfold unicharToUtf8
    rw [if_neg (by omega), if_neg (by omega), if_neg (by omega), if_pos (by omega)]
    simp only [tailBytes, Nat.reducePow, Nat.div_one]
    rw [ofNat_eq_of_toNat (b := b) (by omega), ofNat_eq_of_toNat (b := x) (by omega),
      ofNat_eq_of_toNat (b := y) (by omega), ofNat_eq_of_toNat (b := z) (by omega)]
  · omega

theorem lt_two_pow_of_unicodeValid {c : Nat} (h : unicodeValid c = true) : c < 2 ^ 31 :=
  lt_trans (lt_of_unicodeValid h) (by decide)

/-- A code point that is read from the front of a text is written as the bytes that are skipped for it. -/
theorem getCharExtended_spec {rest : Bytes} (h : unicodeValid (getCharExtended (b :: rest)) = true) :
    b :: rest = unicharToUtf8 (getCharExtended (b :: rest)) ++ (b :: rest).drop (utf8Skip b) := by
  have hlt := lt_two_pow_of_unicodeValid h
  rw [getCharExtended] at h hlt ⊢
  by_cases hascii : b.toNat < 0x80
  · rw [if_pos hascii, utf8Skip_of_lt_c0 (by omega)]
    unfold unicharToUtf8
    rw [if_pos hascii]
    simp only [tailBytes, Nat.reducePow, Nat.div_one, Nat.add_zero, UInt8.ofNat_toNat]
    rfl
  · rw [if_neg hascii] at h hlt ⊢
    cases hlead : leadingByte b.toNat with
    | none =>
        rw [hlead] at hlt
        dsimp only at hlt
        exact absurd hlt (by decide)
    | some leading =>
        obtain ⟨len, wc, minCode⟩ := leading
        rw [hlead] at h hlt
        dsimp only at h hlt ⊢
        by_cases hshort : rest.length + 1 < len
        · rw [if_pos hshort] at hlt
          exfalso
          revert hlt
          split <;> decide
        · rw [if_neg hshort] at h hlt ⊢
          by_cases hmin : readTail wc (rest.take (len - 1)) < minCode
          · rw [if_pos hmin] at hlt
            exact absurd hlt (by decide)
          · rw [if_neg hmin] at h ⊢
            have hlength : (rest.take (len - 1)).length = len - 1 := by
              rw [List.length_take]
              omega
            obtain ⟨hwrite, hskip⟩ := write_readTail hlead hlength h (Nat.not_lt.mp hmin)
            have hpos : 0 < len := by
              obtain ⟨-, ⟨-, hlen, -⟩ | ⟨-, -, hlen, -⟩ | ⟨-, -, hlen, -⟩ | hbig⟩ := length_of_leadingByte hlead
              · omega
              · omega
              · omega
              · have hcode := lt_of_unicodeValid h
                omega
            obtain ⟨n, rfl⟩ := Nat.exists_eq_add_one.mpr hpos
            rw [hwrite, hskip, List.drop_succ_cons, List.cons_append]
            exact congrArg (b :: ·) (List.take_append_drop _ _).symm

theorem leadingByte_room {b len wc : Nat} (h : leadingByte b = some (len, wc, minCode)) : (wc + 1) * 64 ^ (len - 1) ≤ 2 ^ 31 := by
  unfold leadingByte at h
  split at h
  · cases h
  · split at h
    · cases h
      omega
    · split at h
      · cases h
        omega
      · split at h
        · cases h
          omega
        · split at h
          · cases h
            omega
          · split at h
            · cases h
              omega
            · cases h

/-- Beyond 31 bits there are only the marks. -/
theorem getCharExtended_mark {text : Bytes} (h : 2 ^ 31 ≤ getCharExtended text) :
    getCharExtended text = malformedSequence ∨ getCharExtended text = partialSequence := by
  cases text with
  | nil => exact .inr rfl
  | cons b rest =>
      rw [getCharExtended] at h ⊢
      by_cases hascii : b.toNat < 0x80
      · rw [if_pos hascii] at h
        omega
      · rw [if_neg hascii] at h ⊢
        cases hlead : leadingByte b.toNat with
        | none => exact .inl rfl
        | some leading =>
            obtain ⟨len, wc, minCode⟩ := leading
            rw [hlead] at h
            dsimp only at h ⊢
            by_cases hshort : rest.length + 1 < len
            · rw [if_pos hshort]
              split
              · exact .inr rfl
              · exact .inl rfl
            · rw [if_neg hshort] at h ⊢
              by_cases hmin : readTail wc (rest.take (len - 1)) < minCode
              · rw [if_pos hmin]
                exact .inl rfl
              · rw [if_neg hmin] at h ⊢
                have hlength : (rest.take (len - 1)).length = len - 1 := by
                  rw [List.length_take]
                  omega
                have hroom := leadingByte_room hlead
                obtain hmark | hmark | hlt := readTail_bound wc (rest.take (len - 1))
                · exact .inl hmark
                · exact .inr hmark
                · rw [hlength] at hlt
                  omega

theorem exists_char {c : Nat} (h : unicodeValid c = true) : ∃ char : Char, char.toNat = c := by
  unfold unicodeValid at h
  rw [Bool.and_eq_true, decide_eq_true_eq, Bool.not_eq_true', Bool.and_eq_false_iff, decide_eq_false_iff_not,
    decide_eq_false_iff_not] at h
  have hvalid : c.isValidChar := by
    obtain ⟨hlt, hlow | hhigh⟩ := h
    · exact .inl (by omega)
    · by_cases hlow : c < 0xd800
      · exact .inl hlow
      · exact .inr ⟨by omega, hlt⟩
  exact ⟨Char.ofNatAux c hvalid, rfl⟩

/-- What is read from the front of a text is a mark, or a character that the text begins with. -/
theorem getCharValidated_spec (b : UInt8) (rest : Bytes) :
    getCharValidated (b :: rest) = malformedSequence ∨ getCharValidated (b :: rest) = partialSequence ∨
      ∃ c : Char, getCharValidated (b :: rest) = c.toNat ∧ c.toNat ≠ 0 ∧
        b :: rest = String.utf8EncodeChar c ++ (b :: rest).drop (utf8Skip b) := by
  unfold getCharValidated
  by_cases hzero : getCharExtended (b :: rest) = 0
  · rw [if_pos hzero]
    exact .inr (.inl rfl)
  · rw [if_neg hzero]
    by_cases hbig : 2 ^ 31 ≤ getCharExtended (b :: rest)
    · rw [if_pos hbig]
      obtain hmark | hmark := getCharExtended_mark hbig
      · exact .inl hmark
      · exact .inr (.inl hmark)
    · rw [if_neg hbig]
      by_cases hvalid : unicodeValid (getCharExtended (b :: rest)) = true
      · rw [if_pos hvalid]
        obtain ⟨c, hc⟩ := exists_char hvalid
        refine .inr (.inr ⟨c, hc.symm, hc ▸ hzero, ?_⟩)
        rw [← unicharToUtf8_eq, hc]
        exact getCharExtended_spec hvalid
      · rw [if_neg hvalid]
        exact .inl rfl

end Base
