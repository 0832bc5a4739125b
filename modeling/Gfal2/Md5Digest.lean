import Gfal2.Md5

/-! What MD5 is, apart from the way the library takes in the bytes: the digest of the padded message under a compression function in 64
operations that are told apart by tables. -/

namespace Gfal2

open Base

namespace Rfc1321

/-! ### The compression function -/

def f (x y z : Md5Word) : Md5Word := (x &&& y) ||| (~~~x &&& z)

def g (x y z : Md5Word) : Md5Word := (x &&& z) ||| (y &&& ~~~z)

def h (x y z : Md5Word) : Md5Word := x ^^^ y ^^^ z

def i (x y z : Md5Word) : Md5Word := y ^^^ (x ||| ~~~z)

def function (n : Nat) : Md5Word → Md5Word → Md5Word → Md5Word :=
  match n / 16 with
  | 0 => f
  | 1 => g
  | 2 => h
  | _ => i

/-- The word of the block that an operation takes. -/
def place (n : Nat) : Nat :=
  match n / 16 with
  | 0 => n % 16
  | 1 => (5 * n + 1) % 16
  | 2 => (3 * n + 5) % 16
  | _ => 7 * n % 16

/-- How far an operation rotates. -/
def shift (n : Nat) : Nat := ([[7, 12, 17, 22], [5, 9, 14, 20], [4, 11, 16, 23], [6, 10, 15, 21]].getD (n / 16) []).getD (n % 4) 0

def sines : List Md5Word :=
  [0xd76aa478, 0xe8c7b756, 0x242070db, 0xc1bdceee, 0xf57c0faf, 0x4787c62a, 0xa8304613, 0xfd469501,
    0x698098d8, 0x8b44f7af, 0xffff5bb1, 0x895cd7be, 0x6b901122, 0xfd987193, 0xa679438e, 0x49b40821,
    0xf61e2562, 0xc040b340, 0x265e5a51, 0xe9b6c7aa, 0xd62f105d, 0x02441453, 0xd8a1e681, 0xe7d3fbc8,
    0x21e1cde6, 0xc33707d6, 0xf4d50d87, 0x455a14ed, 0xa9e3e905, 0xfcefa3f8, 0x676f02d9, 0x8d2a4c8a,
    0xfffa3942, 0x8771f681, 0x6d9d6122, 0xfde5380c, 0xa4beea44, 0x4bdecfa9, 0xf6bb4b60, 0xbebfbc70,
    0x289b7ec6, 0xeaa127fa, 0xd4ef3085, 0x04881d05, 0xd9d4d039, 0xe6db99e5, 0x1fa27cf8, 0xc4ac5665,
    0xf4292244, 0x432aff97, 0xab9423a7, 0xfc93a039, 0x655b59c3, 0x8f0ccc92, 0xffeff47d, 0x85845dd1,
    0x6fa87e4f, 0xfe2ce6e0, 0xa3014314, 0x4e0811a1, 0xf7537e82, 0xbd3af235, 0x2ad7d2bb, 0xeb86d391]

/-- An operation on words that change their places. -/
def operation (fn : Md5Word → Md5Word → Md5Word → Md5Word) (x t : Md5Word) (s : Nat) (words : Md5Words) : Md5Words :=
  ⟨words.d, words.b + (words.a + fn words.b words.c words.d + x + t).rotateLeft s, words.b, words.c⟩

def operations (get : Nat → Md5Word) (words : Md5Words) : Md5Words :=
  (List.range 64).foldl (fun words n => operation (function n) (get (place n)) (sines.getD n 0) (shift n) words) words

def compress (words : Md5Words) (block : List UInt8) : Md5Words := Md5.addWords (operations (Md5.get block) words) words

/-! ### The digest -/

/-- The number of bits, in eight bytes. -/
def padding : LengthPadding UInt8 64 where
  mark := 0x80
  filler := 0
  width := 8
  encode n := Md5.toBytes 8 (8 * n)
  length_encode _ := rfl
  positive := by decide

/-- The digest of a message. -/
def md5 (message : List UInt8) : List UInt8 := Md5Words.bytes (padding.digest compress md5Start message)

end Rfc1321

/-! ### The operations of the library -/

namespace Md5

theorem f_eq : f = Rfc1321.f := by
  funext x y z
  ext n
  simp only [f, Rfc1321.f, BitVec.getElem_xor, BitVec.getElem_and, BitVec.getElem_or, BitVec.getElem_not]
  cases x[n] <;> cases y[n] <;> cases z[n] <;> rfl

theorem g_eq : g = Rfc1321.g := by
  funext x y z
  ext n
  simp only [g, Rfc1321.g, BitVec.getElem_xor, BitVec.getElem_and, BitVec.getElem_or, BitVec.getElem_not]
  cases x[n] <;> cases y[n] <;> cases z[n] <;> rfl

theorem h2_eq : h2 = h := by
  funext x y z
  exact (BitVec.xor_assoc x y z).symm

variable {fn fn₂ fn₃ fn₄ : Md5Word → Md5Word → Md5Word → Md5Word} {s s₂ s₃ s₄ : Nat}

theorem step_eq (a b c d x t : Md5Word) (hs : s < 32) : step fn a b c d x t s = b + (a + fn b c d + x + t).rotateLeft s := by
  have hmask (word : Md5Word) : word &&& 0xffffffff = word := BitVec.and_allOnes
  rw [step, hmask, BitVec.rotateLeft_def, Nat.mod_eq_of_lt hs, BitVec.add_comm]

/-- Four operations bring the words back to their places. -/
theorem steps_eq (x x₂ x₃ x₄ t t₂ t₃ t₄ : Md5Word) (hs : s < 32) (hs₂ : s₂ < 32) (hs₃ : s₃ < 32) (hs₄ : s₄ < 32)
    (words : Md5Words) : stepB fn₄ x₄ t₄ s₄ (stepC fn₃ x₃ t₃ s₃ (stepD fn₂ x₂ t₂ s₂ (stepA fn x t s words))) =
      Rfc1321.operation fn₄ x₄ t₄ s₄ (Rfc1321.operation fn₃ x₃ t₃ s₃ (Rfc1321.operation fn₂ x₂ t₂ s₂
        (Rfc1321.operation fn x t s words))) := by
  simp only [stepA, stepB, stepC, stepD, step_eq _ _ _ _ _ _ hs, step_eq _ _ _ _ _ _ hs₂, step_eq _ _ _ _ _ _ hs₃,
    step_eq _ _ _ _ _ _ hs₄, Rfc1321.operation]

theorem rounds_eq (get : Nat → Md5Word) (words : Md5Words) :
    round4 get (round3 get (round2 get (round1 get words))) = Rfc1321.operations get words := by
  rw [round4, round3, round2, round1, h2_eq, f_eq, g_eq]
  simp (disch := decide) only [steps_eq]
  rfl

theorem turn_eq : turn = Rfc1321.compress := by
  funext words block
  rw [turn, rounds_eq, Rfc1321.compress]

/-! ### Numbers in bytes -/

theorem toBytes_mod (width n : Nat) : toBytes width (n % 256 ^ width) = toBytes width n := by
  induction width generalizing n with
  | zero => rfl
  | succ width ih =>
      have hlow : n % 256 ^ (width + 1) % 256 = n % 256 := Nat.mod_mod_of_dvd _ ⟨256 ^ width, Nat.pow_succ'⟩
      have hbyte : UInt8.ofNat (n % 256 ^ (width + 1)) = UInt8.ofNat n := by
        apply UInt8.toNat_inj.mp
        rw [UInt8.toNat_ofNat', UInt8.toNat_ofNat']
        exact hlow
      have hrest : n % 256 ^ (width + 1) / 256 = n / 256 % 256 ^ width := by
        rw [Nat.pow_succ', Nat.mod_mul_right_div_self]
      rw [toBytes, toBytes, hbyte, hrest, ih]

theorem length_toBytes (width n : Nat) : (toBytes width n).length = width := by
  induction width generalizing n with
  | zero => rfl
  | succ width ih => rw [toBytes, List.length_cons, ih]

theorem bytes_eq (word : Md5Word) : Md5Word.bytes word = toBytes 4 word.toNat := by
  simp [Md5Word.bytes, toBytes, Nat.shiftRight_eq_div_pow, Nat.div_div_eq_div_mul]

/-- The counters in bytes are the number of bits. -/
theorem counter_bytes {lo hi : Md5Word} {n : Nat} (hlo : lo.toNat = n % 2 ^ 29) (hhi : hi.toNat = n / 2 ^ 29 % 2 ^ 32) :
    Md5Word.bytes (lo <<< 3) ++ Md5Word.bytes hi = toBytes 8 (8 * n) := by
  have hshift : (lo <<< 3).toNat = 8 * n % 256 ^ 4 := by
    rw [BitVec.toNat_shiftLeft, Nat.shiftLeft_eq, hlo]
    omega
  have hrest : hi.toNat = 8 * n / 256 / 256 / 256 / 256 % 256 ^ 4 := by
    rw [hhi]
    omega
  rw [bytes_eq, bytes_eq, hshift, hrest, toBytes_mod, toBytes_mod]
  rfl

end Md5

/-! ### The context -/

/-- The context has taken in a message. -/
structure Md5Ctx.Holds (ctx : Md5Ctx) (taken : List UInt8) : Prop where
  words : ctx.words = (blocks 64 taken).foldl Rfc1321.compress md5Start
  kept : ctx.buffer.1.take ctx.used = leftover 64 taken
  lo : ctx.lo.toNat = taken.length % 2 ^ 29
  hi : ctx.hi.toNat = taken.length / 2 ^ 29 % 2 ^ 32

section Context

variable {ctx : Md5Ctx} {taken data : List UInt8} {buffer : Md5Buffer} {place : Nat} {bytes : List UInt8}

theorem md5Body_eq (n : Nat) (words : Md5Words) (ptr : List UInt8) :
    md5Body n words ptr = (takeBlocks 64 n ptr).foldl Rfc1321.compress words := by
  induction n generalizing words ptr with
  | zero => rfl
  | succ n ih => rw [md5Body, takeBlocks, List.foldl_cons, ih, Md5.turn_eq]

theorem memcpy_take (hfits : place + bytes.length ≤ 64) :
    (buffer.memcpy place bytes hfits).1.take (place + bytes.length) = buffer.1.take place ++ bytes := by
  have hbuffer := buffer.2
  apply List.take_left'
  rw [List.length_append, List.length_take]
  omega

/-- A copy up to the end of the buffer. -/
theorem memcpy_whole (hfits : place + bytes.length ≤ 64) (hend : place + bytes.length = 64) :
    (buffer.memcpy place bytes hfits).1 = buffer.1.take place ++ bytes := by
  have hwhole := @memcpy_take buffer place bytes hfits
  rwa [List.take_of_length_le (by rw [(buffer.memcpy place bytes hfits).2, hend])] at hwhole

theorem Md5Ctx.Holds.used (h : ctx.Holds taken) : ctx.used = taken.length % 64 := by
  rw [Md5Ctx.used_eq, h.lo]
  omega

theorem holds_init (buffer : Md5Buffer) : (gfal2Md5Init buffer).Holds [] where
  words := rfl
  kept := by
    have hused : (gfal2Md5Init buffer).used = 0 := Md5Ctx.used_eq _
    rw [hused, List.take_zero]
    rfl
  lo := rfl
  hi := rfl

/-- The counters go on with the number of bytes. -/
theorem Md5Ctx.Holds.count (h : ctx.Holds taken) (size : Nat) : (ctx.count size).lo.toNat = (taken.length + size) % 2 ^ 29 ∧
      (ctx.count size).hi.toNat = (taken.length + size) / 2 ^ 29 % 2 ^ 32 := by
  have hmask : (ctx.lo.toNat + size) % 2 ^ 64 &&& 0x1fffffff = (taken.length + size) % 2 ^ 29 := by
    rw [show 0x1fffffff = 2 ^ 29 - 1 from rfl, Nat.and_two_pow_sub_one_eq_mod, h.lo]
    omega
  have hlo : (ctx.count size).lo.toNat = (taken.length + size) % 2 ^ 29 := by
    show (BitVec.ofNat 32 _).toNat = _
    rw [hmask, BitVec.toNat_ofNat]
    omega
  refine ⟨hlo, ?_⟩
  have hcarry : (ctx.count size).lo < ctx.lo ↔ 2 ^ 29 ≤ taken.length % 2 ^ 29 + size % 2 ^ 29 := by
    rw [BitVec.lt_def, hlo, h.lo]
    omega
  show ((if (ctx.count size).lo < ctx.lo then ctx.hi + 1 else ctx.hi) + BitVec.ofNat 32 (size >>> 29)).toNat = _
  have hhi := h.hi
  rw [Nat.shiftRight_eq_div_pow, BitVec.toNat_add, BitVec.toNat_ofNat]
  by_cases hover : 2 ^ 29 ≤ taken.length % 2 ^ 29 + size % 2 ^ 29
  · rw [if_pos (hcarry.mpr hover), BitVec.toNat_add, hhi]
    show ((_ + 1) % 2 ^ 32 + _) % 2 ^ 32 = _
    omega
  · rw [if_neg (mt hcarry.mp hover), hhi]
    omega

/-- The end of an update, with the bytes before it in whole blocks. -/
theorem holds_md5UpdateWhole {before : Md5Ctx} (hwords : before.words = (blocks 64 taken).foldl Rfc1321.compress md5Start)
    (hwhole : leftover 64 taken = []) (hlo : before.lo.toNat = (taken ++ data).length % 2 ^ 29)
    (hhi : before.hi.toNat = (taken ++ data).length / 2 ^ 29 % 2 ^ 32) : (md5UpdateWhole before data).Holds (taken ++ data) := by
  have hblocks : (md5UpdateWhole before data).words = (blocks 64 data).foldl Rfc1321.compress before.words := by
    show (if data.length ≥ 64 then md5Body (data.length / 64) before.words data else before.words) = _
    split
    case isTrue => exact md5Body_eq _ _ _
    case isFalse hshort => rw [blocks_of_lt (by omega), List.foldl_nil]
  have hrest : (leftover 64 data).length = (taken ++ data).length % 64 := by
    have htaken := congrArg List.length hwhole
    rw [length_leftover, List.length_nil] at htaken
    rw [length_leftover, List.length_append]
    omega
  refine ⟨?_, ?_, hlo, hhi⟩
  · rw [hblocks, hwords, blocks_append (by decide), hwhole, List.nil_append, List.foldl_append]
  · have hused : (md5UpdateWhole before data).used = 0 + (leftover 64 data).length := by
      rw [Md5Ctx.used_eq, Nat.zero_add, hrest]
      show before.lo.toNat % 64 = _
      omega
    have hfits : 0 + (leftover 64 data).length ≤ 64 := by omega
    rw [hused, leftover_append (by decide), hwhole, List.nil_append]
    exact memcpy_take hfits

/-- An update takes in its bytes. -/
theorem Md5Ctx.Holds.update (h : ctx.Holds taken) (data : List UInt8) : (gfal2Md5Update ctx data).Holds (taken ++ data) := by
  obtain ⟨hlo, hhi⟩ := h.count data.length
  rw [← List.length_append] at hlo hhi
  have hkept : (leftover 64 taken).length = ctx.used := by rw [length_leftover, h.used]
  unfold gfal2Md5Update
  by_cases hused : ctx.used = 0
  · rw [if_neg (by simpa using hused)]
    exact holds_md5UpdateWhole h.words (List.length_eq_zero_iff.mp (hkept.trans hused)) hlo hhi
  · rw [if_pos hused]
    have hlt := ctx.used_lt
    by_cases hsize : data.length < 64 - ctx.used
    · -- the bytes that are kept are no block yet
      rw [dif_pos hsize]
      have hshort : (leftover 64 taken ++ data).length < 64 := by
        rw [List.length_append, hkept]
        omega
      refine ⟨?_, ?_, hlo, hhi⟩
      · rw [blocks_append (by decide), blocks_of_lt hshort, List.append_nil]
        exact h.words
      · have hcounted : (ctx.count data.length).lo.toNat % 64 = ctx.used + data.length := by
          rw [hlo, List.length_append, h.used]
          have := h.used
          omega
        rw [leftover_append (by decide), leftover_of_lt hshort, Md5Ctx.used_eq]
        show List.take ((ctx.count data.length).lo.toNat % 64) _ = _
        rw [hcounted, memcpy_take, h.kept]
    · -- they are filled up to a block
      rw [dif_neg hsize]
      have hfirst : (data.take (64 - ctx.used)).length = 64 - ctx.used := List.length_take_of_le (by omega)
      have hfilled := @memcpy_whole ctx.buffer ctx.used (data.take (64 - ctx.used)) (by omega) (by omega)
      rw [h.kept] at hfilled
      have hblock : (leftover 64 taken ++ data.take (64 - ctx.used)).length = 64 := by
        rw [List.length_append, hkept, hfirst]
        omega
      have hblocks : blocks 64 (taken ++ data.take (64 - ctx.used)) =
          blocks 64 taken ++ [leftover 64 taken ++ data.take (64 - ctx.used)] := by
        rw [blocks_append (by decide)]
        have hone := blocks_append_of_block [] (by decide) hblock
        rw [List.append_nil] at hone
        rw [hone]
        rfl
      have hparts : taken ++ data = taken ++ data.take (64 - ctx.used) ++ data.drop (64 - ctx.used) := by
        rw [List.append_assoc, List.take_append_drop]
      rw [hparts] at hlo hhi ⊢
      dsimp only
      refine holds_md5UpdateWhole ?_ ?_ hlo hhi
      · show md5Body 1 ctx.words _ = _
        rw [md5Body_eq, hblocks, List.foldl_append, ← h.words]
        show Rfc1321.compress ctx.words (List.take 64 (ctx.buffer.memcpy _ _ _).1) = Rfc1321.compress ctx.words _
        rw [hfilled, List.take_of_length_le hblock.le]
      · rw [← List.length_eq_zero_iff, length_leftover, List.length_append, hfirst]
        have := h.used
        omega

theorem Md5Ctx.Holds.updates (h : ctx.Holds taken) (chunks : List (List UInt8)) :
    (chunks.foldl gfal2Md5Update ctx).Holds (taken ++ chunks.flatten) := by
  induction chunks generalizing ctx taken with
  | nil => rwa [List.foldl_nil, List.flatten_nil, List.append_nil]
  | cons chunk chunks ih =>
      rw [List.foldl_cons, List.flatten_cons, ← List.append_assoc]
      exact ih (h.update chunk)

theorem memcpy_take_of_take {kept : List UInt8} (hfits : place + bytes.length ≤ 64) (hkept : buffer.1.take place = kept) {n : Nat}
    (hn : n = place + bytes.length) : (buffer.memcpy place bytes hfits).1.take n = kept ++ bytes := by
  rw [hn, memcpy_take, hkept]

/-- The last block: what is kept, fillers, and the number of bits. -/
theorem md5Close_eq {kept : List UInt8} {used : Nat} (hused : used ≤ 56) (hkept : buffer.1.take used = kept) {lo hi : Md5Word} {n : Nat}
    (hlo : lo.toNat = n % 2 ^ 29) (hhi : hi.toNat = n / 2 ^ 29 % 2 ^ 32) (words : Md5Words) :
    md5Close words buffer used hused lo hi =
      Rfc1321.compress words (kept ++ List.replicate (56 - used) 0 ++ Md5.toBytes 8 (8 * n)) := by
  have hzeros : 64 - used - 8 = 56 - used := by omega
  have hfilled := @memcpy_take_of_take buffer used (List.replicate (64 - used - 8) 0) _
    (by rw [List.length_replicate]; omega) hkept 56 (by rw [List.length_replicate]; omega)
  unfold md5Close
  rw [md5Body_eq]
  show Rfc1321.compress words (List.take 64 (Md5Buffer.memcpy _ 56 _ _).1) = _
  rw [memcpy_take_of_take _ hfilled (by simp [Md5Word.bytes]), Md5.counter_bytes hlo hhi, hzeros]

/-- The final digest is that of the message taken in. -/
theorem Md5Ctx.Holds.final (h : ctx.Holds taken) : gfal2Md5Final ctx = Rfc1321.md5 taken := by
  have hlt := ctx.used_lt
  have hkept : (leftover 64 taken).length = ctx.used := by rw [length_leftover, h.used]
  have hmarked : (ctx.buffer.memcpy ctx.used [0x80] hlt).1.take (ctx.used + 1) = leftover 64 taken ++ [0x80] := by
    rw [memcpy_take_of_take _ h.kept (by rfl)]
  have hfillers : Rfc1321.padding.fillers taken.length = if ctx.used < 56 then 55 - ctx.used else 119 - ctx.used := by
    show (64 - (taken.length + 1 + 8) % 64) % 64 = _
    have hused := h.used
    split <;> omega
  have hlength : (Rfc1321.padding.encode taken.length).length = 8 := Rfc1321.padding.length_encode _
  have hpad : Rfc1321.padding.pad taken = taken ++ ([0x80] ++ (List.replicate (Rfc1321.padding.fillers taken.length) 0 ++
      Md5.toBytes 8 (8 * taken.length))) := by
    rw [LengthPadding.pad, List.append_assoc]
    rfl
  rw [Rfc1321.md5, LengthPadding.digest, hpad, blocks_append (by decide), List.foldl_append, ← h.words, gfal2Md5Final]
  dsimp only
  congr 1
  by_cases hshort : 64 - (ctx.used + 1) < 8
  · -- the length takes a block of its own
    rw [dif_pos hshort, hfillers, if_neg (by omega)]
    have hsplit : List.replicate (119 - ctx.used) (0 : UInt8) = List.replicate (64 - (ctx.used + 1)) 0 ++ List.replicate 56 0 := by
      rw [List.replicate_append_replicate]
      congr 1
      omega
    have hfirst : (leftover 64 taken ++ [0x80] ++ List.replicate (64 - (ctx.used + 1)) 0).length = 64 := by
      simp [hkept]
      omega
    have hfilled := @memcpy_take_of_take (ctx.buffer.memcpy ctx.used [0x80] hlt) (ctx.used + 1)
      (List.replicate (64 - (ctx.used + 1)) 0) _ (by rw [List.length_replicate]; omega) hmarked 64 (by rw [List.length_replicate]; omega)
    have hlast : (([] : List UInt8) ++ List.replicate (56 - 0) 0 ++ Md5.toBytes 8 (8 * taken.length)).length = 64 := rfl
    have hblocks : blocks 64 (leftover 64 taken ++ ([0x80] ++ (List.replicate (119 - ctx.used) 0 ++ Md5.toBytes 8 (8 * taken.length)))) =
        [leftover 64 taken ++ [0x80] ++ List.replicate (64 - (ctx.used + 1)) 0,
          [] ++ List.replicate (56 - 0) 0 ++ Md5.toBytes 8 (8 * taken.length)] := by
      have hone := blocks_append_of_block [] (by decide) hlast
      rw [List.append_nil] at hone
      rw [hsplit, List.append_assoc (List.replicate _ _), ← List.append_assoc [0x80], ← List.append_assoc (leftover 64 taken),
        ← List.append_assoc (leftover 64 taken), blocks_append_of_block _ (by decide) hfirst]
      exact congrArg _ hone
    rw [md5Close_eq _ List.take_zero h.lo h.hi, md5Body_eq, hblocks]
    show Rfc1321.compress (Rfc1321.compress ctx.words (List.take 64 (Md5Buffer.memcpy _ _ _ _).1)) _ = _
    rw [hfilled]
    rfl
  · rw [dif_neg hshort, hfillers, if_pos (by omega)]
    have hwhole : (leftover 64 taken ++ [0x80] ++ List.replicate (56 - (ctx.used + 1)) 0 ++
        Md5.toBytes 8 (8 * taken.length)).length = 64 := by
      simp [hkept, Md5.length_toBytes]
      omega
    have hblocks : blocks 64 (leftover 64 taken ++ ([0x80] ++ (List.replicate (55 - ctx.used) 0 ++ Md5.toBytes 8 (8 * taken.length)))) =
        [leftover 64 taken ++ [0x80] ++ List.replicate (56 - (ctx.used + 1)) 0 ++ Md5.toBytes 8 (8 * taken.length)] := by
      have hone := blocks_append_of_block [] (by decide) hwhole
      have hzeros : 56 - (ctx.used + 1) = 55 - ctx.used := by omega
      rw [List.append_nil, hzeros] at hone
      rw [← List.append_assoc [0x80], ← List.append_assoc (leftover 64 taken), ← List.append_assoc (leftover 64 taken), hzeros]
      exact hone
    rw [md5Close_eq _ hmarked h.lo h.hi, hblocks]
    rfl

end Context

/-- The digest is that of all the bytes, however they are cut, whatever was in the buffer before. -/
theorem md5_of_chunks (buffer : Md5Buffer) (chunks : List (List UInt8)) :
    gfal2Md5Final (chunks.foldl gfal2Md5Update (gfal2Md5Init buffer)) = Rfc1321.md5 chunks.flatten :=
  ((holds_init buffer).updates chunks).final

example : gfal2Md5Final (gfal2Md5Init ⟨List.replicate 64 7, rfl⟩) =
    [0xd4, 0x1d, 0x8c, 0xd9, 0x8f, 0x00, 0xb2, 0x04, 0xe9, 0x80, 0x09, 0x98, 0xec, 0xf8, 0x42, 0x7e] := by decide +kernel

end Gfal2
