import Mathlib.Data.List.Perm.Basic
import Mathlib.Data.List.Sort
import Mathlib.Order.Defs.LinearOrder

/-! GLib lists ordered by a comparison function. A comparison that orders the entries by a key in a
linear order keeps a strictly sorted list strictly sorted under sorted insertion, and GLib's sort
leaves entries of equal keys in the order they had. GLib arrays of pointers are lists too; taking an
entry out of one by moving the last entry into its place loses no other entry. -/

namespace Base

variable {α κ : Type*} [LinearOrder κ]

/-- `cmp` is the three-way comparison of the entries' keys. -/
structure Compares (cmp : α → α → Int) (key : α → κ) : Prop where
  lt_zero_iff : ∀ a b, cmp a b < 0 ↔ key a < key b
  eq_zero_iff : ∀ a b, cmp a b = 0 ↔ key a = key b

/-- `g_list_insert_sorted`: before the first entry that the new one does not exceed. -/
def gListInsertSorted (l : List α) (x : α) (cmp : α → α → Int) : List α :=
  l.orderedInsert (fun a b => cmp a b ≤ 0) x

/-- `g_list_sort`, which is a stable sort. -/
def gListSort (l : List α) (cmp : α → α → Int) : List α := l.insertionSort fun a b => cmp a b ≤ 0

variable {cmp : α → α → Int} {key : α → κ} {l : List α}

theorem Compares.le_zero_iff (h : Compares cmp key) (a b : α) : cmp a b ≤ 0 ↔ key a ≤ key b := by
  rw [le_iff_lt_or_eq, le_iff_lt_or_eq, h.lt_zero_iff, h.eq_zero_iff]

theorem mem_gListInsertSorted {x y : α} : y ∈ gListInsertSorted l x cmp ↔ y = x ∨ y ∈ l := by
  rw [gListInsertSorted, List.mem_orderedInsert]

theorem perm_gListSort (l : List α) : (gListSort l cmp).Perm l := List.perm_insertionSort _ l

/-- Inserting an entry with a new key keeps the keys strictly ascending. -/
theorem pairwise_gListInsertSorted (h : Compares cmp key) {x : α}
    (hsorted : l.Pairwise fun a b => key a < key b) (hnew : ∀ a ∈ l, key a ≠ key x) :
    (gListInsertSorted l x cmp).Pairwise fun a b => key a < key b := by
  induction l with
  | nil => simp [gListInsertSorted]
  | cons a l ih =>
      obtain ⟨hhead, htail⟩ := List.pairwise_cons.mp hsorted
      have hne : key a ≠ key x := hnew a List.mem_cons_self
      rw [gListInsertSorted, List.orderedInsert_cons]
      split_ifs with hle
      · have hlt : key x < key a := lt_of_le_of_ne ((h.le_zero_iff x a).mp hle) hne.symm
        refine List.pairwise_cons.mpr ⟨?_, hsorted⟩
        intro b hb
        rcases List.mem_cons.mp hb with rfl | hb
        · exact hlt
        · exact hlt.trans (hhead b hb)
      · have hlt : key a < key x := lt_of_not_ge fun hge => hle ((h.le_zero_iff x a).mpr hge)
        refine List.pairwise_cons.mpr ⟨?_, ih htail fun b hb => hnew b (List.mem_cons_of_mem _ hb)⟩
        intro b hb
        rcases mem_gListInsertSorted.mp hb with rfl | hb
        · exact hlt
        · exact hhead b hb

/-- The entry that is found is the one that is erased. -/
theorem perm_cons_eraseP {p : α → Bool} {a : α} (h : l.find? p = some a) : l.Perm (a :: l.eraseP p) := by
  obtain ⟨ha, before, after, rfl, hbefore⟩ := List.find?_eq_some_iff_append.mp h
  rw [List.eraseP_append_right _ fun b hb => by simpa using hbefore b hb, List.eraseP_cons_of_pos ha]
  exact List.perm_middle

/-- With distinct keys, deleting the first entry of a key deletes every entry of it. -/
theorem eraseP_eq_filter {p : α → Bool} (huniq : l.Pairwise fun a b => ¬(p a = true ∧ p b = true)) :
    l.eraseP p = l.filter fun a => !p a := by
  induction l with
  | nil => rfl
  | cons a l ih =>
      obtain ⟨hhead, htail⟩ := List.pairwise_cons.mp huniq
      cases ha : p a with
      | false => simp [ha, ih htail]
      | true =>
          have hrest : l.filter (fun b => !p b) = l := by
            rw [List.filter_eq_self]
            intro b hb
            have := hhead b hb
            simp only [ha, true_and, Bool.not_eq_true] at this
            simp [this]
          simp [ha, hrest]

/-- Entries ordered by key, and by `before` where the keys agree. -/
def StablySorted (key : α → κ) (before : α → α → Prop) (l : List α) : Prop :=
  l.Pairwise fun a b => key a < key b ∨ key a = key b ∧ before a b

theorem stablySorted_orderedInsert (h : Compares cmp key) {before : α → α → Prop} {x : α}
    (hsorted : StablySorted key before l) (hbefore : ∀ a ∈ l, before x a) :
    StablySorted key before (gListInsertSorted l x cmp) := by
  induction l with
  | nil => simp [gListInsertSorted, StablySorted]
  | cons a l ih =>
      obtain ⟨hhead, htail⟩ := List.pairwise_cons.mp hsorted
      rw [gListInsertSorted, List.orderedInsert_cons]
      split_ifs with hle
      · have hxa : key x ≤ key a := (h.le_zero_iff x a).mp hle
        refine List.pairwise_cons.mpr ⟨?_, hsorted⟩
        intro b hb
        have hab : key a ≤ key b := by
          rcases List.mem_cons.mp hb with rfl | hb'
          · exact le_rfl
          · rcases hhead b hb' with hlt | ⟨heq, -⟩
            · exact hlt.le
            · exact heq.le
        rcases lt_or_eq_of_le (hxa.trans hab) with hlt | heq
        · exact Or.inl hlt
        · exact Or.inr ⟨heq, hbefore b hb⟩
      · have hlt : key a < key x := lt_of_not_ge fun hge => hle ((h.le_zero_iff x a).mpr hge)
        refine List.pairwise_cons.mpr
          ⟨?_, ih htail fun b hb => hbefore b (List.mem_cons_of_mem _ hb)⟩
        intro b hb
        rcases mem_gListInsertSorted.mp hb with rfl | hb
        · exact Or.inl hlt
        · exact hhead b hb

/-- GLib's sort orders by key and is stable. -/
theorem stablySorted_gListSort (h : Compares cmp key) {before : α → α → Prop}
    (hl : l.Pairwise before) : StablySorted key before (gListSort l cmp) := by
  induction l with
  | nil => exact List.Pairwise.nil
  | cons a l ih =>
      obtain ⟨hhead, htail⟩ := List.pairwise_cons.mp hl
      refine stablySorted_orderedInsert h (ih htail) fun b hb => hhead b ?_
      exact (perm_gListSort l).mem_iff.mp hb

/-- `g_ptr_array_remove_index_fast`: the last entry takes the place of the one removed. -/
def gPtrArrayRemoveIndexFast (l : List α) (i : Nat) : List α :=
  match l.getLast? with
  | some last => (l.set i last).dropLast
  | none => []

theorem perm_gPtrArrayRemoveIndexFast {i : Nat} (hi : i < l.length) : (gPtrArrayRemoveIndexFast l i).Perm (l.eraseIdx i) := by
  obtain ⟨front, last, rfl⟩ := (List.eq_nil_or_concat' l).resolve_left (List.ne_nil_of_length_pos (by omega))
  rw [gPtrArrayRemoveIndexFast, List.getLast?_concat]
  show List.Perm ((front ++ [last]).set i last).dropLast ((front ++ [last]).eraseIdx i)
  by_cases hlast : i < front.length
  · rw [List.set_append_left _ _ hlast, List.dropLast_concat, List.eraseIdx_append_of_lt_length hlast]
    exact (List.set_perm_cons_eraseIdx hlast last).trans (List.perm_append_singleton _ _).symm
  · have hi : i = front.length := by rw [List.length_append, List.length_singleton] at hi; omega
    rw [hi, List.set_append_right _ _ le_rfl, List.eraseIdx_append_of_length_le le_rfl]
    simp

end Base
