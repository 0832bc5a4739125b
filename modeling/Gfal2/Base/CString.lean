import Mathlib.Algebra.GroupWithZero.Nat
import Mathlib.Algebra.Ring.Int.Defs
import Mathlib.Data.List.Lex
import Mathlib.Order.Lattice
import Mathlib.Data.Char

/-! C strings as character lists, with the comparison functions of the C library and the order they
realise. Only the sign of a comparison is specified, so the functions return -1, 0 or 1. -/

namespace Base

/-- A C string: its characters before the terminating NUL. -/
abbrev CString := List Char

instance cstringLawfulBEq : LawfulBEq CString := inferInstance

/-- The characters of a literal. -/
abbrev lit (text : String) : CString := text.toList

-- What holds of the characters of a text is checked on that text, not on every character there is.
instance (priority := 2000) decidableForallMem {α : Type*} {p : α → Prop} [DecidablePred p] (l : List α) :
    Decidable (∀ a ∈ l, p a) :=
  List.decidableBAll p l

def strcmp : CString → CString → Int
  | [], [] => 0
  | [], _ :: _ => -1
  | _ :: _, [] => 1
  | a :: as, b :: bs => if a = b then strcmp as bs else if a < b then -1 else 1

/-- `strcmp` on at most the first `n` characters of each string. -/
def strncmp (left right : CString) (n : Nat) : Int := strcmp (left.take n) (right.take n)

/-- The comparison of the C locale without regard to case, on at most `n` characters. -/
def strncasecmp (left right : CString) (n : Nat) : Int :=
  strncmp (left.map Char.toLower) (right.map Char.toLower) n

/-- The index of the first occurrence. -/
def strchr (s : CString) (c : Char) : Option Nat := s.findIdx? (· == c)

/-- The index of the last occurrence. -/
def strrchr (s : CString) (c : Char) : Option Nat :=
  (s.reverse.findIdx? (· == c)).map fun back => s.length - 1 - back

/-- Whether the second string occurs in the first. -/
def strstr (s part : CString) : Bool := s.tails.any (part.isPrefixOf ·)

theorem strcmp_self (s : CString) : strcmp s s = 0 := by
  induction s with
  | nil => rfl
  | cons c s ih => rw [strcmp, if_pos rfl, ih]

theorem strcmp_lt_zero_iff (left right : CString) : strcmp left right < 0 ↔ left < right := by
  induction left generalizing right with
  | nil =>
      cases right with
      | nil => simp [strcmp]
      | cons b bs => simp [strcmp]
  | cons a as ih =>
      cases right with
      | nil => simp [strcmp]
      | cons b bs =>
          rw [strcmp, List.cons_lt_cons_iff]
          by_cases heq : a = b
          · subst heq
            simp [ih]
          · by_cases hlt : a < b
            · simp [heq, hlt]
            · simp [heq, hlt]

theorem strcmp_eq_zero_iff (left right : CString) : strcmp left right = 0 ↔ left = right := by
  induction left generalizing right with
  | nil => cases right <;> simp [strcmp]
  | cons a as ih =>
      cases right with
      | nil => simp [strcmp]
      | cons b bs =>
          rw [strcmp, List.cons.injEq]
          by_cases heq : a = b
          · simp [heq, ih]
          · by_cases hlt : a < b
            · simp [heq, hlt]
            · simp [heq, hlt]

theorem strcmp_gt_zero_iff (left right : CString) : 0 < strcmp left right ↔ right < left := by
  have hlt := strcmp_lt_zero_iff left right
  have heq := strcmp_eq_zero_iff left right
  rcases lt_trichotomy left right with h | h | h
  · exact iff_of_false (by have := hlt.mpr h; omega) (lt_asymm h)
  · exact iff_of_false (by have := heq.mpr h; omega) (by rw [h]; exact lt_irrefl _)
  · refine iff_of_true ?_ h
    have h1 : ¬strcmp left right < 0 := fun hneg => lt_asymm h (hlt.mp hneg)
    have h2 : strcmp left right ≠ 0 := fun hzero => (ne_of_lt h).symm (heq.mp hzero)
    omega

/-- Comparing over the length of the first string asks whether it begins the second. -/
theorem strncmp_length_eq_zero_iff (start s : CString) : strncmp start s start.length = 0 ↔ start <+: s := by
  rw [strncmp, strcmp_eq_zero_iff, List.take_length]
  exact ⟨fun h => h ▸ List.take_prefix _ _, List.prefix_iff_eq_take.mp⟩

/-- A proper beginning of a string is smaller than the string. -/
theorem lt_of_isPrefix_of_length_lt {start s : CString} (h : start <+: s)
    (hlength : start.length < s.length) : start < s := by
  obtain ⟨rest, rfl⟩ := h
  cases rest with
  | nil => simp at hlength
  | cons c rest =>
      induction start with
      | nil => simp
      | cons a start ih =>
          rw [List.cons_append, List.cons_lt_cons_iff]
          exact Or.inr ⟨rfl, ih (by simp)⟩

end Base
