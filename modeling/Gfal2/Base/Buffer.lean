import Gfal2.Base.CString
import Mathlib.Tactic.Common

/-! A buffer of characters of a fixed length. An access outside it has no result, and what is stored in it leaves the
rest as it was. -/

namespace Base

abbrev Buffer := List Char

/-- The character that ends a string. -/
def nul : Char := Char.ofNat 0

/-- A string without NUL, as C knows it. -/
abbrev CText := { s : CString // nul ∉ s }

/-- The storage of a string, with the NUL that ends it. -/
def CText.storage (s : CText) : Buffer := s.1 ++ [nul]

namespace Buffer

def load (buff : Buffer) (i : Nat) : Option Char := buff[i]?

def store (buff : Buffer) (i : Nat) (c : Char) : Option Buffer := if i < buff.length then some (buff.set i c) else none

/-- Characters one after the other. -/
def storeAll (buff : Buffer) (i : Nat) : List Char → Option Buffer
  | [] => some buff
  | c :: text => (buff.store i c).bind fun buff => buff.storeAll (i + 1) text

/-- `memcpy` from the start of another buffer. -/
def memcpy (buff : Buffer) (i : Nat) (src : Buffer) (n : Nat) : Option Buffer :=
  if n ≤ src.length then buff.storeAll i (src.take n) else none

/-- A string cut off to a size that counts its NUL. With no size nothing is stored. -/
def strlcpy (buff : Buffer) (i : Nat) (src : CString) (size : Nat) : Option Buffer :=
  if size = 0 then some buff else buff.storeAll i (src.take (size - 1) ++ [nul])

/-- The length of a string, of which at most so many characters are looked at. -/
def strnlen (buff : Buffer) (i : Nat) : Nat → Option Nat
  | 0 => some 0
  | n + 1 => (buff.load i).bind fun c => if c = nul then some 0 else (buff.strnlen (i + 1) n).map (· + 1)

variable {buff : Buffer} {i : Nat} {text : List Char}

theorem store_eq (h : i < buff.length) (c : Char) : buff.store i c = some (buff.set i c) := if_pos h

/-- Text that fits is stored in its place. -/
theorem storeAll_eq (h : i + text.length ≤ buff.length) :
    buff.storeAll i text = some (buff.take i ++ text ++ buff.drop (i + text.length)) := by
  induction text generalizing buff i with
  | nil =>
      rw [storeAll, List.append_nil, List.length_nil, Nat.add_zero, List.take_append_drop]
  | cons c text ih =>
      rw [List.length_cons] at h
      have hi : i < buff.length := by omega
      have hlength : (buff.set i c).length = buff.length := List.length_set
      rw [storeAll, store_eq hi, Option.bind_some, ih (by omega)]
      have htake : (buff.set i c).take (i + 1) = buff.take i ++ [c] := by
        rw [List.set_eq_take_append_cons_drop, if_pos hi, List.append_cons]
        exact List.take_left' (by rw [List.length_append, List.length_take, List.length_singleton]; omega)
      have hdrop : (buff.set i c).drop (i + 1 + text.length) = buff.drop (i + (text.length + 1)) := by
        rw [List.drop_set_of_lt (by omega)]
        congr 1
        omega
      rw [htake, hdrop, List.length_cons, List.append_assoc, List.append_assoc, List.append_assoc]
      rfl

theorem length_storeAll {buff' : Buffer} (h : buff.storeAll i text = some buff') : buff'.length = buff.length := by
  induction text generalizing buff i with
  | nil =>
      cases h
      rfl
  | cons c text ih =>
      obtain ⟨next, hstore, hrest⟩ := Option.bind_eq_some_iff.mp h
      unfold store at hstore
      rw [Option.ite_none_right_eq_some] at hstore
      cases hstore.2
      rw [ih hrest, List.length_set]

/-- Text that does not fit is not stored. -/
theorem storeAll_eq_none (htext : text ≠ []) (h : buff.length < i + text.length) : buff.storeAll i text = none := by
  induction text generalizing buff i with
  | nil => exact absurd rfl htext
  | cons c text ih =>
      rw [List.length_cons] at h
      rw [storeAll, store]
      split
      · have hrest : text ≠ [] := by
          rintro rfl
          rw [List.length_nil] at h
          omega
        exact ih hrest (by rw [List.length_set]; omega)
      · rfl

theorem storeAll_isSome (h : i + text.length ≤ buff.length) :
    ∃ buff', buff.storeAll i text = some buff' ∧ buff'.length = buff.length :=
  ⟨_, storeAll_eq h, length_storeAll (storeAll_eq h)⟩

/-- A copy stays within the size it is given. -/
theorem strlcpy_isSome {size : Nat} (src : CString) (h : i + size ≤ buff.length) :
    ∃ buff', buff.strlcpy i src size = some buff' ∧ buff'.length = buff.length := by
  unfold strlcpy
  split
  · exact ⟨buff, rfl, rfl⟩
  · refine storeAll_isSome ?_
    rw [List.length_append, List.length_take, List.length_singleton]
    omega

/-- A string that is shorter than the size is copied with its NUL. -/
theorem strlcpy_eq {src : CString} {size : Nat} (hsrc : src.length < size) (h : i + size ≤ buff.length) :
    buff.strlcpy i src size = some (buff.take i ++ (src ++ [nul]) ++ buff.drop (i + (src.length + 1))) := by
  have hlength : (src ++ [nul]).length = src.length + 1 := by rw [List.length_append, List.length_singleton]
  unfold strlcpy
  rw [if_neg (by omega), List.take_of_length_le (by omega), storeAll_eq (by omega), hlength]

theorem strnlen_isSome {n : Nat} (h : i + n ≤ buff.length) : ∃ k ≤ n, buff.strnlen i n = some k := by
  induction n generalizing i with
  | zero => exact ⟨0, le_rfl, rfl⟩
  | succ n ih =>
      rw [strnlen, load, List.getElem?_eq_getElem (by omega), Option.bind_some]
      split
      · exact ⟨0, Nat.zero_le _, rfl⟩
      · obtain ⟨k, hk, hlength⟩ := ih (i := i + 1) (by omega)
        rw [hlength]
        exact ⟨k + 1, Nat.succ_le_succ hk, rfl⟩

/-- The length of a string without NUL that is followed by one, as far as it is looked at. -/
theorem strnlen_min {before after : List Char} {text : CString} (n : Nat) (htext : nul ∉ text) :
    strnlen (before ++ (text ++ nul :: after)) before.length n = some (min text.length n) := by
  induction text generalizing before n with
  | nil =>
      cases n with
      | zero => simp [strnlen]
      | succ n => simp [strnlen, load]
  | cons c text ih =>
      rw [List.mem_cons, not_or] at htext
      cases n with
      | zero => simp [strnlen]
      | succ n =>
          have hrest := @ih (before ++ [c]) n htext.2
          have hload : load (before ++ (c :: text ++ nul :: after)) before.length = some c := by simp [load]
          rw [List.length_append, List.length_singleton, List.append_assoc] at hrest
          rw [strnlen, hload, Option.bind_some, if_neg (Ne.symm htext.1), List.length_cons, Nat.add_min_add_right]
          exact congrArg (Option.map (· + 1)) hrest

theorem strnlen_eq {before after : List Char} {text : CString} {n : Nat} (htext : nul ∉ text) (hn : text.length < n) :
    strnlen (before ++ (text ++ nul :: after)) before.length n = some text.length := by
  rw [strnlen_min n htext, Nat.min_eq_left hn.le]

theorem strnlen_storage (text : CText) (n : Nat) : strnlen text.storage 0 n = some (min text.1.length n) :=
  @strnlen_min [] [] text.1 n text.2

/-- A part of a string is copied where it fits. -/
theorem memcpy_eq {src : Buffer} {n : Nat} (hsrc : n ≤ src.length) (h : i + n ≤ buff.length) :
    buff.memcpy i src n = some (buff.take i ++ src.take n ++ buff.drop (i + n)) := by
  have hlength : (src.take n).length = n := List.length_take_of_le hsrc
  rw [memcpy, if_pos hsrc, storeAll_eq (by omega), hlength]

theorem length_memcpy {src buff' : Buffer} {n : Nat} (h : buff.memcpy i src n = some buff') : buff'.length = buff.length := by
  unfold memcpy at h
  rw [Option.ite_none_right_eq_some] at h
  exact length_storeAll h.2

theorem length_store {c : Char} {buff' : Buffer} (h : buff.store i c = some buff') : i < buff.length ∧ buff'.length = buff.length := by
  unfold store at h
  rw [Option.ite_none_right_eq_some] at h
  cases h.2
  exact ⟨h.1, List.length_set⟩

theorem store_append {before after : Buffer} {old : Char} (c : Char) :
    store (before ++ old :: after) before.length c = some (before ++ c :: after) := by
  rw [store_eq (by simp), List.set_append_right _ _ le_rfl, Nat.sub_self, List.set_cons_zero]

theorem memcpy_append {before room after : Buffer} {src : Buffer} {n : Nat} (hsrc : n ≤ src.length) (hroom : room.length = n) :
    memcpy (before ++ (room ++ after)) before.length src n = some (before ++ (src.take n ++ after)) := by
  rw [memcpy_eq hsrc (by simp; omega)]
  simp [hroom, ← List.drop_drop]

end Buffer

end Base
