import Gfal2.Base.BlockHash
import Gfal2.Base.CString

/-! MD5 as the library computes it: a context takes in bytes, of which it keeps those that are not a whole block yet, and is closed
with the length of all of them. -/

namespace Gfal2

open Base

/-- `gfal2_md5_u32plus`. -/
abbrev Md5Word := BitVec 32

/-- The words `a` to `d` of `GFAL_MD5_CTX`. -/
@[ext]
structure Md5Words where
  a : Md5Word
  b : Md5Word
  c : Md5Word
  d : Md5Word
  deriving DecidableEq

/-! ### The transformation -/

namespace Md5

/-- `F`. -/
def f (x y z : Md5Word) : Md5Word := z ^^^ (x &&& (y ^^^ z))

/-- `G`. -/
def g (x y z : Md5Word) : Md5Word := y ^^^ (z &&& (x ^^^ y))

/-- `H`. -/
def h (x y z : Md5Word) : Md5Word := (x ^^^ y) ^^^ z

/-- `H2`. -/
def h2 (x y z : Md5Word) : Md5Word := x ^^^ (y ^^^ z)

/-- `I`. -/
def i (x y z : Md5Word) : Md5Word := y ^^^ (x ||| ~~~z)

/-- `STEP`: the new value of its first word. -/
def step (fn : Md5Word → Md5Word → Md5Word → Md5Word) (a b c d x t : Md5Word) (s : Nat) : Md5Word :=
  let a := a + fn b c d + x + t
  let a := (a <<< s) ||| ((a &&& 0xffffffff) >>> (32 - s))
  a + b

section Steps

variable (fn : Md5Word → Md5Word → Md5Word → Md5Word) (x t : Md5Word) (s : Nat) (words : Md5Words)

/-- `STEP` on `a, b, c, d`. -/
def stepA : Md5Words := { words with a := step fn words.a words.b words.c words.d x t s }

/-- `STEP` on `d, a, b, c`. -/
def stepD : Md5Words := { words with d := step fn words.d words.a words.b words.c x t s }

/-- `STEP` on `c, d, a, b`. -/
def stepC : Md5Words := { words with c := step fn words.c words.d words.a words.b x t s }

/-- `STEP` on `b, c, d, a`. -/
def stepB : Md5Words := { words with b := step fn words.b words.c words.d words.a x t s }

end Steps

/-- A number from its bytes, the lowest first. -/
def ofBytes : List UInt8 → Nat
  | [] => 0
  | byte :: bytes => byte.toNat + 256 * ofBytes bytes

/-- So many bytes of a number, the lowest first. -/
def toBytes : Nat → Nat → List UInt8
  | 0, _ => []
  | width + 1, n => UInt8.ofNat n :: toBytes width (n / 256)

/-- `SET` and `GET`: the word at a place of a block. -/
def get (ptr : List UInt8) (n : Nat) : Md5Word := BitVec.ofNat 32 (ofBytes ((ptr.drop (n * 4)).take 4))

section Rounds

variable (get : Nat → Md5Word) (words : Md5Words)

def round1 : Md5Words :=
  words
  |> stepA f (get 0) 0xd76aa478 7
  |> stepD f (get 1) 0xe8c7b756 12
  |> stepC f (get 2) 0x242070db 17
  |> stepB f (get 3) 0xc1bdceee 22
  |> stepA f (get 4) 0xf57c0faf 7
  |> stepD f (get 5) 0x4787c62a 12
  |> stepC f (get 6) 0xa8304613 17
  |> stepB f (get 7) 0xfd469501 22
  |> stepA f (get 8) 0x698098d8 7
  |> stepD f (get 9) 0x8b44f7af 12
  |> stepC f (get 10) 0xffff5bb1 17
  |> stepB f (get 11) 0x895cd7be 22
  |> stepA f (get 12) 0x6b901122 7
  |> stepD f (get 13) 0xfd987193 12
  |> stepC f (get 14) 0xa679438e 17
  |> stepB f (get 15) 0x49b40821 22

def round2 : Md5Words :=
  words
  |> stepA g (get 1) 0xf61e2562 5
  |> stepD g (get 6) 0xc040b340 9
  |> stepC g (get 11) 0x265e5a51 14
  |> stepB g (get 0) 0xe9b6c7aa 20
  |> stepA g (get 5) 0xd62f105d 5
  |> stepD g (get 10) 0x02441453 9
  |> stepC g (get 15) 0xd8a1e681 14
  |> stepB g (get 4) 0xe7d3fbc8 20
  |> stepA g (get 9) 0x21e1cde6 5
  |> stepD g (get 14) 0xc33707d6 9
  |> stepC g (get 3) 0xf4d50d87 14
  |> stepB g (get 8) 0x455a14ed 20
  |> stepA g (get 13) 0xa9e3e905 5
  |> stepD g (get 2) 0xfcefa3f8 9
  |> stepC g (get 7) 0x676f02d9 14
  |> stepB g (get 12) 0x8d2a4c8a 20

def round3 : Md5Words :=
  words
  |> stepA h (get 5) 0xfffa3942 4
  |> stepD h2 (get 8) 0x8771f681 11
  |> stepC h (get 11) 0x6d9d6122 16
  |> stepB h2 (get 14) 0xfde5380c 23
  |> stepA h (get 1) 0xa4beea44 4
  |> stepD h2 (get 4) 0x4bdecfa9 11
  |> stepC h (get 7) 0xf6bb4b60 16
  |> stepB h2 (get 10) 0xbebfbc70 23
  |> stepA h (get 13) 0x289b7ec6 4
  |> stepD h2 (get 0) 0xeaa127fa 11
  |> stepC h (get 3) 0xd4ef3085 16
  |> stepB h2 (get 6) 0x04881d05 23
  |> stepA h (get 9) 0xd9d4d039 4
  |> stepD h2 (get 12) 0xe6db99e5 11
  |> stepC h (get 15) 0x1fa27cf8 16
  |> stepB h2 (get 2) 0xc4ac5665 23

def round4 : Md5Words :=
  words
  |> stepA i (get 0) 0xf4292244 6
  |> stepD i (get 7) 0x432aff97 10
  |> stepC i (get 14) 0xab9423a7 15
  |> stepB i (get 5) 0xfc93a039 21
  |> stepA i (get 12) 0x655b59c3 6
  |> stepD i (get 3) 0x8f0ccc92 10
  |> stepC i (get 10) 0xffeff47d 15
  |> stepB i (get 1) 0x85845dd1 21
  |> stepA i (get 8) 0x6fa87e4f 6
  |> stepD i (get 15) 0xfe2ce6e0 10
  |> stepC i (get 6) 0xa3014314 15
  |> stepB i (get 13) 0x4e0811a1 21
  |> stepA i (get 4) 0xf7537e82 6
  |> stepD i (get 11) 0xbd3af235 10
  |> stepC i (get 2) 0x2ad7d2bb 15
  |> stepB i (get 9) 0xeb86d391 21

end Rounds

def addWords (words saved : Md5Words) : Md5Words :=
  ⟨words.a + saved.a, words.b + saved.b, words.c + saved.c, words.d + saved.d⟩

/-- A turn of the loop of `body`. -/
def turn (saved : Md5Words) (ptr : List UInt8) : Md5Words :=
  addWords (round4 (get ptr) (round3 (get ptr) (round2 (get ptr) (round1 (get ptr) saved)))) saved

end Md5

/-- `body`, over so many blocks. -/
def md5Body : Nat → Md5Words → List UInt8 → Md5Words
  | 0, words, _ => words
  | n + 1, words, ptr => md5Body n (Md5.turn words (ptr.take 64)) (ptr.drop 64)

/-! ### The context -/

/-- The field `buffer` of `GFAL_MD5_CTX`. -/
abbrev Md5Buffer := { bytes : List UInt8 // bytes.length = 64 }

/-- A copy into the buffer that stays inside. -/
def Md5Buffer.memcpy (buffer : Md5Buffer) (place : Nat) (bytes : List UInt8) (hfits : place + bytes.length ≤ 64) : Md5Buffer :=
  ⟨buffer.1.take place ++ bytes ++ buffer.1.drop (place + bytes.length), by
    have hbuffer := buffer.2
    rw [List.length_append, List.length_append, List.length_take, List.length_drop]
    omega⟩

structure Md5Ctx where
  lo : Md5Word
  hi : Md5Word
  words : Md5Words
  buffer : Md5Buffer

/-- The words of `gfal2_md5_init`. -/
def md5Start : Md5Words := ⟨0x67452301, 0xefcdab89, 0x98badcfe, 0x10325476⟩

/-- `gfal2_md5_init`. The buffer is left as it is. -/
def gfal2Md5Init (buffer : Md5Buffer) : Md5Ctx := ⟨0, 0, md5Start, buffer⟩

/-- The bytes that are kept, `used`. -/
def Md5Ctx.used (ctx : Md5Ctx) : Nat := (ctx.lo &&& 0x3f).toNat

theorem Md5Ctx.used_eq (ctx : Md5Ctx) : ctx.used = ctx.lo.toNat % 64 := by
  rw [Md5Ctx.used, BitVec.toNat_and]
  exact Nat.and_two_pow_sub_one_eq_mod ctx.lo.toNat 6

theorem Md5Ctx.used_lt (ctx : Md5Ctx) : ctx.used < 64 := by
  rw [used_eq]
  exact Nat.mod_lt _ (by omega)

/-- The counters of `gfal2_md5_update`, of which the lower one has 29 bits. -/
def Md5Ctx.count (ctx : Md5Ctx) (size : Nat) : Md5Ctx :=
  let lo : Md5Word := BitVec.ofNat 32 ((ctx.lo.toNat + size) % 2 ^ 64 &&& 0x1fffffff)
  let hi := if lo < ctx.lo then ctx.hi + 1 else ctx.hi
  { ctx with lo := lo, hi := hi + BitVec.ofNat 32 (size >>> 29) }

/-- The end of `gfal2_md5_update`, where no bytes are kept: the whole blocks, and the rest into the buffer. -/
def md5UpdateWhole (ctx : Md5Ctx) (data : List UInt8) : Md5Ctx :=
  let size := data.length
  { ctx with
    words := if size ≥ 64 then md5Body (size / 64) ctx.words data else ctx.words
    buffer := ctx.buffer.memcpy 0 (data.drop (64 * (size / 64))) (by rw [List.length_drop]; omega) }

def gfal2Md5Update (ctx : Md5Ctx) (data : List UInt8) : Md5Ctx :=
  let counted := ctx.count data.length
  let used := ctx.used
  if used ≠ 0 then
    let available := 64 - used
    if hsize : data.length < available then
      { counted with buffer := ctx.buffer.memcpy used data (by omega) }
    else
      let filled := ctx.buffer.memcpy used (data.take available) (by
        have hused := ctx.used_lt
        rw [List.length_take]
        omega)
      md5UpdateWhole { counted with words := md5Body 1 ctx.words filled.1, buffer := filled } (data.drop available)
  else md5UpdateWhole counted data

def Md5Word.bytes (word : Md5Word) : List UInt8 :=
  [UInt8.ofNat word.toNat, UInt8.ofNat (word >>> 8).toNat, UInt8.ofNat (word >>> 16).toNat, UInt8.ofNat (word >>> 24).toNat]

/-- The digest that `gfal2_md5_final` leaves. -/
def Md5Words.bytes (words : Md5Words) : List UInt8 :=
  Md5Word.bytes words.a ++ Md5Word.bytes words.b ++ Md5Word.bytes words.c ++ Md5Word.bytes words.d

/-- The end of `gfal2_md5_final`: fillers from a place of the buffer on, and the length. -/
def md5Close (words : Md5Words) (buffer : Md5Buffer) (used : Nat) (hused : used ≤ 56) (lo hi : Md5Word) : Md5Words :=
  let filled := buffer.memcpy used (List.replicate (64 - used - 8) 0) (by rw [List.length_replicate]; omega)
  let closed := filled.memcpy 56 (Md5Word.bytes (lo <<< 3) ++ Md5Word.bytes hi) (by simp [Md5Word.bytes])
  md5Body 1 words closed.1

def gfal2Md5Final (ctx : Md5Ctx) : List UInt8 :=
  let marked := ctx.buffer.memcpy ctx.used [0x80] ctx.used_lt
  let used := ctx.used + 1
  let available := 64 - used
  Md5Words.bytes <|
    if hshort : available < 8 then
      let filled := marked.memcpy used (List.replicate available 0) (by
        have hused := ctx.used_lt
        rw [List.length_replicate]
        omega)
      md5Close (md5Body 1 ctx.words filled.1) filled 0 (by omega) ctx.lo ctx.hi
    else md5Close ctx.words marked used (by omega) ctx.lo ctx.hi

end Gfal2
