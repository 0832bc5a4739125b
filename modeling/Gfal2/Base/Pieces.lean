import Mathlib.Data.List.Basic

/-! A list cut into nonempty pieces whose sizes a numbered sequence of answers decides, and what a receiver
keeps of the pieces when it takes only the beginning of each. The whole list is kept exactly if every
piece is. A receiver that puts each piece over the one before keeps the whole list exactly if it comes in one. -/

namespace Base

variable {α : Type}

/-- Cut the list into pieces, the first of them numbered `i`; each has the size asked for, but at least one
element and at most what is left. -/
def pieces (size : Nat → Nat) : Nat → List α → List (List α)
  | _, [] => []
  | i, a :: l => (a :: l.take (size i - 1)) :: pieces size (i + 1) (l.drop (size i - 1))
termination_by _ l => l.length
decreasing_by
  rw [List.length_drop, List.length_cons]
  omega

@[simp] theorem pieces_nil (size : Nat → Nat) (i : Nat) : pieces size i ([] : List α) = [] := by
  rw [pieces]

theorem pieces_of_ne_nil {size : Nat → Nat} {i : Nat} {l : List α} (hl : l ≠ []) (hsize : 0 < size i) :
    pieces size i l = l.take (size i) :: pieces size (i + 1) (l.drop (size i)) := by
  obtain ⟨a, l, rfl⟩ := List.exists_cons_of_ne_nil hl
  obtain ⟨k, hk⟩ : ∃ k, size i = k + 1 := ⟨size i - 1, by omega⟩
  rw [pieces, hk, List.take_succ_cons, List.drop_succ_cons, Nat.add_sub_cancel]

theorem flatten_pieces (size : Nat → Nat) (i : Nat) (l : List α) : (pieces size i l).flatten = l := by
  fun_induction pieces size i l with
  | case1 => rfl
  | case2 i a l ih => rw [List.flatten_cons, ih, List.cons_append, List.take_append_drop]

/-- Of each piece, the first of them numbered `i`, as many elements as the receiver takes. -/
def taken (takes : Nat → Nat) : Nat → List (List α) → List α
  | _, [] => []
  | i, piece :: rest => piece.take (takes i) ++ taken takes (i + 1) rest

theorem length_taken_le (takes : Nat → Nat) (i : Nat) (ps : List (List α)) :
    (taken takes i ps).length ≤ ps.flatten.length := by
  induction ps generalizing i with
  | nil => exact Nat.le_refl _
  | cons piece rest ih =>
      rw [taken, List.length_append, List.flatten_cons, List.length_append]
      exact Nat.add_le_add (List.length_take_le' _ _) (ih (i + 1))

/-- The whole is kept exactly if each piece is. -/
theorem taken_eq_flatten_iff (takes : Nat → Nat) (i : Nat) (ps : List (List α)) :
    taken takes i ps = ps.flatten ↔ ∀ j (h : j < ps.length), ps[j].length ≤ takes (i + j) := by
  induction ps generalizing i with
  | nil => exact iff_of_true rfl fun j h => absurd h (Nat.not_lt_zero j)
  | cons piece rest ih =>
      have hsplit : taken takes i (piece :: rest) = (piece :: rest).flatten ↔
          piece.length ≤ takes i ∧ taken takes (i + 1) rest = rest.flatten := by
        rw [taken, List.flatten_cons]
        constructor
        · intro heq
          -- neither side can make up for what the other leaves out
          have hlength := congrArg List.length heq
          have hrest := length_taken_le takes (i + 1) rest
          rw [List.length_append, List.length_append, List.length_take] at hlength
          have hpiece : piece.length ≤ takes i := by omega
          rw [List.take_of_length_le hpiece] at heq
          exact ⟨hpiece, List.append_cancel_left heq⟩
        · rintro ⟨hpiece, hrest⟩
          rw [List.take_of_length_le hpiece, hrest]
      rw [hsplit, ih (i + 1)]
      constructor
      · rintro ⟨hpiece, hrest⟩ j hj
        cases j with
        | zero => exact hpiece
        | succ j =>
            have h := hrest j (Nat.lt_of_succ_lt_succ hj)
            rwa [show i + 1 + j = i + (j + 1) by omega] at h
      · intro hall
        refine ⟨hall 0 (Nat.zero_lt_succ _), fun j hj => ?_⟩
        rw [show i + 1 + j = i + (j + 1) by omega]
        exact hall (j + 1) (Nat.succ_lt_succ hj)

/-! ### One over the other -/

/-- The memory after pieces that are all put to its start. -/
def overlaid (memory : List α) : List (List α) → List α
  | [] => memory
  | piece :: rest => overlaid (piece ++ memory.drop piece.length) rest

/-- The pieces that are not empty. -/
def filled (ps : List (List α)) : List (List α) := ps.filter fun piece => !piece.isEmpty

theorem length_filled_le (ps : List (List α)) : (filled ps).length ≤ ps.flatten.length := by
  induction ps with
  | nil => exact Nat.le_refl _
  | cons piece rest ih =>
      rw [List.flatten_cons, List.length_append]
      cases piece with
      | nil => exact Nat.le_trans ih (Nat.le_add_left _ _)
      | cons a piece =>
          have hcons : filled ((a :: piece) :: rest) = (a :: piece) :: filled rest := rfl
          rw [hcons, List.length_cons, List.length_cons]
          omega

variable {ps : List (List α)}

/-- A piece leaves room for an element of each of the others. -/
theorem length_piece_le {piece : List α} (h : piece ∈ ps) : piece.length + (filled ps).length ≤ ps.flatten.length + 1 := by
  obtain ⟨before, after, rfl⟩ := List.append_of_mem h
  have hbefore := length_filled_le before
  have hafter := length_filled_le after
  have hpiece : (filled [piece]).length ≤ 1 := List.length_filter_le _ _
  have hsplit : filled (before ++ piece :: after) = filled before ++ (filled [piece] ++ filled after) := by
    simp only [filled, ← List.filter_append, List.singleton_append]
  rw [hsplit, List.flatten_append, List.flatten_cons]
  simp only [List.length_append]
  omega

/-- What no piece reaches is left as it was. -/
theorem overlaid_getElem? {i : Nat} (h : ∀ piece ∈ ps, piece.length ≤ i) (memory : List α) :
    (overlaid memory ps)[i]? = memory[i]? := by
  induction ps generalizing memory with
  | nil => rfl
  | cons piece rest ih =>
      obtain ⟨hpiece, hrest⟩ := List.forall_mem_cons.mp h
      rw [overlaid, ih hrest, List.getElem?_append_right hpiece, List.getElem?_drop]
      congr 1
      omega

theorem overlaid_of_filled_eq_nil (h : filled ps = []) (memory : List α) : overlaid memory ps = memory ∧ ps.flatten = [] := by
  induction ps generalizing memory with
  | nil => exact ⟨rfl, rfl⟩
  | cons piece rest ih =>
      cases piece with
      | nil => exact ih h memory
      | cons a piece => cases h

/-- One piece stands where it was put. -/
theorem overlaid_of_length_filled_le (h : (filled ps).length ≤ 1) (memory : List α) :
    overlaid memory ps = ps.flatten ++ memory.drop ps.flatten.length := by
  induction ps generalizing memory with
  | nil => rfl
  | cons piece rest ih =>
      cases piece with
      | nil => exact ih h memory
      | cons a piece =>
          have hcons : filled ((a :: piece) :: rest) = (a :: piece) :: filled rest := rfl
          rw [hcons, List.length_cons] at h
          obtain ⟨hrest, hflat⟩ := overlaid_of_filled_eq_nil (List.length_eq_zero_iff.mp (by omega : (filled rest).length = 0))
            (a :: piece ++ memory.drop (a :: piece).length)
          rw [overlaid, hrest, List.flatten_cons, hflat, List.append_nil]

/-- The whole stands at the start of every memory exactly if at most one piece has anything in it. -/
theorem overlaid_take_iff [Nontrivial α] {n : Nat} (hn : ps.flatten.length ≤ n) :
    (∀ memory : List α, memory.length = n → (overlaid memory ps).take ps.flatten.length = ps.flatten) ↔
      (filled ps).length ≤ 1 := by
  constructor
  · intro hwhole
    by_contra hmany
    have hfilled := length_filled_le ps
    -- the last place is behind every piece, and what is there can be anything else
    have hlast : ps.flatten.length - 1 < ps.flatten.length := by omega
    obtain ⟨other, hother⟩ := exists_ne (ps.flatten[ps.flatten.length - 1])
    have hget := congrArg (·[ps.flatten.length - 1]?) (hwhole (List.replicate n other) List.length_replicate)
    have hbehind : ∀ piece ∈ ps, piece.length ≤ ps.flatten.length - 1 := fun piece hpiece => by
      have hle := length_piece_le hpiece
      omega
    simp only [List.getElem?_take_of_lt hlast, overlaid_getElem? hbehind, List.getElem?_eq_getElem hlast,
      List.getElem?_replicate_of_lt (show ps.flatten.length - 1 < n by omega)] at hget
    exact hother (Option.some.inj hget)
  · intro hone memory _
    rw [overlaid_of_length_filled_le hone, List.take_left' rfl]

end Base
