import Mathlib.Data.Multiset.AddSub

/-! A ledger of what is opened and closed under keys. It can be settled if nothing is closed that is not open; what
is open at its end is then known. -/

namespace Base

/-- Something is opened or closed. -/
inductive LedgerEntry (κ : Type*) where
  | opened (key : κ)
  | closed (key : κ)
  deriving DecidableEq

variable {κ : Type*} [DecidableEq κ]

/-- What is open after the entries, or nothing if one of them closes what is not open. -/
def settle : Multiset κ → List (LedgerEntry κ) → Option (Multiset κ)
  | pending, [] => some pending
  | pending, .opened key :: rest => settle (key ::ₘ pending) rest
  | pending, .closed key :: rest => if key ∈ pending then settle (pending.erase key) rest else none

theorem settle_append (pending : Multiset κ) (first last : List (LedgerEntry κ)) :
    settle pending (first ++ last) = (settle pending first).bind fun middle => settle middle last := by
  induction first generalizing pending with
  | nil => rfl
  | cons entry rest ih =>
      cases entry with
      | opened key => exact ih _
      | closed key =>
          rw [List.cons_append, settle, settle]
          split
          · exact ih _
          · rfl

/-- What is opened is open. -/
theorem settle_opened (pending : Multiset κ) (keys : List κ) : settle pending (keys.map .opened) = some (↑keys + pending) := by
  induction keys generalizing pending with
  | nil => simp [settle]
  | cons key rest ih =>
      rw [List.map_cons, settle, ih, ← Multiset.cons_coe, Multiset.cons_add, Multiset.add_cons]

/-- What is closed was open. -/
theorem settle_closed_iff {pending final : Multiset κ} {keys : List κ} :
    settle pending (keys.map .closed) = some final ↔ pending = ↑keys + final := by
  induction keys generalizing pending with
  | nil =>
      rw [List.map_nil, settle, Option.some_inj]
      simp
  | cons key rest ih =>
      rw [List.map_cons, settle, ← Multiset.cons_coe, Multiset.cons_add]
      split
      case isTrue hmem =>
          rw [ih]
          constructor
          · intro h
            rw [← h, Multiset.cons_erase hmem]
          · rintro rfl
            exact Multiset.erase_cons_head key _
      case isFalse hmem =>
          refine iff_of_false (fun h => by cases h) ?_
          rintro rfl
          exact hmem (Multiset.mem_cons_self key _)

/-- A ledger that closes only after it has opened leaves open what was open just when it closes what it has opened. -/
theorem settle_opened_closed_iff {pending : Multiset κ} {keys closing : List κ} :
    settle pending (keys.map .opened ++ closing.map .closed) = some pending ↔ keys.Perm closing := by
  rw [settle_append, settle_opened, Option.bind_some, settle_closed_iff, Multiset.add_left_inj, Multiset.coe_eq_coe]

end Base
