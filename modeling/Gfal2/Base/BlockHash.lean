import Mathlib.Data.List.Induction

/-! Functions of a message that is taken block by block: a compression function is folded over the blocks of the padded message, and it
does not matter how the message comes in. -/

namespace Base

/-! ### Blocks -/

section Blocks

variable {α : Type} (size : Nat)

/-- So many blocks from the start of a list. -/
def takeBlocks : Nat → List α → List (List α)
  | 0, _ => []
  | n + 1, xs => xs.take size :: takeBlocks n (xs.drop size)

def blocks (xs : List α) : List (List α) := takeBlocks size (xs.length / size) xs

/-- What is left behind the last block that is whole. -/
def leftover (xs : List α) : List α := xs.drop (size * (xs.length / size))

variable {size} {xs : List α}

theorem takeBlocks_append_left {n : Nat} (ys : List α) (h : size * n ≤ xs.length) :
    takeBlocks size n (xs ++ ys) = takeBlocks size n xs := by
  induction n generalizing xs with
  | zero => rfl
  | succ n ih =>
      rw [Nat.mul_succ] at h
      rw [takeBlocks, takeBlocks, List.take_append_of_le_length (by omega), List.drop_append_of_le_length (by omega),
        ih (by rw [List.length_drop]; omega)]

theorem takeBlocks_add (m n : Nat) (xs : List α) :
    takeBlocks size (m + n) xs = takeBlocks size m xs ++ takeBlocks size n (xs.drop (size * m)) := by
  induction m generalizing xs with
  | zero => simp [takeBlocks]
  | succ m ih =>
      have hdrop : (xs.drop size).drop (size * m) = xs.drop (size * (m + 1)) := by
        rw [List.drop_drop, Nat.mul_succ, Nat.add_comm]
      rw [Nat.add_right_comm, takeBlocks, takeBlocks, ih, hdrop, List.cons_append]

theorem length_leftover (xs : List α) : (leftover size xs).length = xs.length % size := by
  rw [leftover, List.length_drop, Nat.mod_eq_sub_mul_div]

theorem blocks_of_lt (h : xs.length < size) : blocks size xs = [] := by
  rw [blocks, Nat.div_eq_of_lt h]
  rfl

theorem leftover_of_lt (h : xs.length < size) : leftover size xs = xs := by
  rw [leftover, Nat.div_eq_of_lt h, Nat.mul_zero, List.drop_zero]

/-- The whole blocks of a list that another one follows begin with its own. -/
theorem length_append_div (hsize : 0 < size) (xs ys : List α) :
    (xs ++ ys).length / size = xs.length / size + (leftover size xs ++ ys).length / size := by
  have hlength : (xs ++ ys).length = (leftover size xs ++ ys).length + size * (xs.length / size) := by
    have hdivide := Nat.mod_add_div xs.length size
    rw [List.length_append, List.length_append, length_leftover]
    omega
  rw [hlength, Nat.add_mul_div_left _ _ hsize, Nat.add_comm]

theorem drop_append_leftover (xs ys : List α) : (xs ++ ys).drop (size * (xs.length / size)) = leftover size xs ++ ys := by
  rw [leftover, List.drop_append_of_le_length (Nat.mul_div_le _ _)]

theorem blocks_append (hsize : 0 < size) (xs ys : List α) :
    blocks size (xs ++ ys) = blocks size xs ++ blocks size (leftover size xs ++ ys) := by
  rw [blocks, length_append_div hsize, takeBlocks_add, takeBlocks_append_left _ (Nat.mul_div_le _ _), drop_append_leftover]
  rfl

theorem leftover_append (hsize : 0 < size) (xs ys : List α) :
    leftover size (xs ++ ys) = leftover size (leftover size xs ++ ys) := by
  rw [leftover, length_append_div hsize, Nat.mul_add, ← List.drop_drop, drop_append_leftover]
  rfl

theorem blocks_append_of_block (ys : List α) (hsize : 0 < size) (h : xs.length = size) :
    blocks size (xs ++ ys) = xs :: blocks size ys := by
  have hlength : (xs ++ ys).length / size = ys.length / size + 1 := by
    rw [List.length_append, h, Nat.add_comm, Nat.add_div_right _ hsize]
  rw [blocks, hlength, takeBlocks, List.take_left' h, List.drop_left' h]
  rfl

end Blocks

/-! ### Padding by the length -/

section Padding

variable {α S : Type}

/-- A padding to whole blocks: a mark, fillers, and the length of the message in so many elements. -/
structure LengthPadding (α : Type) (size : Nat) where
  mark : α
  filler : α
  width : Nat
  encode : Nat → List α
  length_encode : ∀ n, (encode n).length = width
  positive : 0 < size

variable {size : Nat} (padding : LengthPadding α size)

namespace LengthPadding

/-- How many fillers a message of a length takes. -/
def fillers (n : Nat) : Nat := (size - (n + 1 + padding.width) % size) % size

def pad (message : List α) : List α :=
  message ++ padding.mark :: List.replicate (padding.fillers message.length) padding.filler ++ padding.encode message.length

/-- The digest under a compression function. -/
def digest (compress : S → List α → S) (start : S) (message : List α) : S :=
  (blocks size (padding.pad message)).foldl compress start

end LengthPadding

end Padding

end Base
