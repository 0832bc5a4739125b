import Gfal2.Base.CString
import Mathlib.Data.List.AList

/-! The cache of items under string keys: an item that is added is given out twice, and a key that is there keeps its item. -/

namespace Gfal2

open Base

structure InternalItem (α : Type) where
  refCount : Int
  item : α
  deriving DecidableEq

/-- The table of a `GSimpleCache` of items `α`. -/
abbrev GSimpleCache (α : Type) := AList (fun _ : CString => InternalItem α)

namespace GSimpleCache

variable {α : Type} (cache : GSimpleCache α) (key : CString)

def item? : Option α := (cache.lookup key).map InternalItem.item

def manageSpace (maxNumberItem : Nat) : GSimpleCache α := if cache.entries.length ≥ maxNumberItem then ∅ else cache

def addItemKstr (maxNumberItem : Nat) (item : α) : GSimpleCache α :=
  match cache.lookup key with
  | none => (cache.manageSpace maxNumberItem).insert key ⟨2, item⟩
  | some found => cache.insert key { found with refCount := found.refCount + 1 }

def removeKstr : GSimpleCache α := cache.erase key

def takeOneKstr : Option α × GSimpleCache α :=
  match cache.lookup key with
  | none => (none, cache)
  | some found =>
      (some found.item,
        if found.refCount - 1 ≤ 0 then cache.removeKstr key else cache.insert key { found with refCount := found.refCount - 1 })

variable {cache key} {other : CString} {item value : α} {maxNumberItem : Nat}

@[simp] theorem item?_empty : (∅ : GSimpleCache α).item? other = none := by simp [item?]

/-- What is found after an item was added was there before, or is that item. -/
theorem item?_addItemKstr (h : (cache.addItemKstr key maxNumberItem item).item? other = some value) :
    cache.item? other = some value ∨ (cache.item? other = none ∧ other = key ∧ value = item) := by
  rw [addItemKstr] at h
  cases hfound : cache.lookup key with
  | none =>
      rw [hfound] at h
      by_cases hother : other = key
      · subst hother
        refine .inr ⟨by rw [item?, hfound, Option.map_none], by trivial, ?_⟩
        rw [item?, AList.lookup_insert, Option.map_some] at h
        exact (Option.some.inj h).symm
      · rw [item?, AList.lookup_insert_ne hother, manageSpace] at h
        split at h
        · simp at h
        · exact .inl h
  | some found =>
      rw [hfound] at h
      by_cases hother : other = key
      · subst hother
        rw [item?, AList.lookup_insert, Option.map_some] at h
        exact .inl (by rw [item?, hfound, Option.map_some, ← h])
      · rw [item?, AList.lookup_insert_ne hother] at h
        exact .inl h

/-- What is found after a key was removed was there before, under another key. -/
theorem item?_removeKstr (h : (cache.removeKstr key).item? other = some value) : cache.item? other = some value ∧ other ≠ key := by
  by_cases hother : other = key
  · subst hother
    rw [removeKstr, item?, AList.lookup_erase, Option.map_none] at h
    cases h
  · rw [removeKstr, item?, AList.lookup_erase_ne hother] at h
    exact ⟨h, hother⟩

theorem takeOneKstr_fst : (cache.takeOneKstr key).1 = cache.item? key := by
  rw [takeOneKstr, item?]
  cases cache.lookup key <;> rfl

/-- What is found after an item was given out was there before. -/
theorem item?_takeOneKstr (h : (cache.takeOneKstr key).2.item? other = some value) : cache.item? other = some value := by
  rw [takeOneKstr] at h
  cases hfound : cache.lookup key with
  | none =>
      rw [hfound] at h
      exact h
  | some found =>
      rw [hfound] at h
      dsimp only at h
      split at h
      · exact (item?_removeKstr h).1
      · by_cases hother : other = key
        · subst hother
          rw [item?, AList.lookup_insert, Option.map_some] at h
          rw [item?, hfound, Option.map_some, ← h]
        · rw [item?, AList.lookup_insert_ne hother] at h
          exact h

end GSimpleCache

end Gfal2
