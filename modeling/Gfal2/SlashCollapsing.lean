import Gfal2.Base.Buffer
import Gfal2.TapeBodies
import Gfal2.XrootdPolling

/-! The two functions that collapse slashes, in memory. One pushes the characters of a path onto a stack in a copy of it,
the other moves them to the front of the string they stand in. They agree on the paths of which both come to an end:
the one counts in `int`, and the other steps over a first character. -/

namespace Gfal2

open Base

def strlen : Buffer → Option Nat
  | [] => none
  | c :: rest => if c = nul then some 0 else (strlen rest).map (· + 1)

/-- An increment of an `int`. -/
def incrementInt (i : Nat) : Option Nat := if i + 1 < 2 ^ 31 then some (i + 1) else none

/-- `collapsed[pos++] = c`. -/
def pushCollapsed (c : Char) (collapsed : Buffer) (pos : Nat) : Option (Buffer × Nat) := do
  let next ← incrementInt pos
  let collapsed ← collapsed.store pos c
  return (collapsed, next)

/-- One character of the path. -/
def collapseStep (c : Char) (collapsed : Buffer) (pos : Nat) : Option (Buffer × Nat) := do
  if c ≠ '/' then pushCollapsed c collapsed pos
  else if pos = 0 then pushCollapsed c collapsed pos
  else
    let top ← collapsed.load (pos - 1)
    if top ≠ '/' then pushCollapsed c collapsed pos else return (collapsed, pos)

/-- The passes of the loop of `gfal2_path_collapse_slashes` from the index `i` on. -/
def collapsePasses (path : Buffer) : Nat → Nat → Buffer → Nat → Option (Buffer × Nat)
  | 0, _, collapsed, pos => some (collapsed, pos)
  | passes + 1, i, collapsed, pos => do
      let c ← path.load i
      let (collapsed, pos) ← collapseStep c collapsed pos
      let i ← incrementInt i
      collapsePasses path passes i collapsed pos

/-- `gfal2_path_collapse_slashes` on the storage of a path, with the storage it returns. -/
def collapseSlashesCopy (path : Buffer) : Option Buffer := do
  let len ← strlen path
  let (collapsed, pos) ← collapsePasses path len 0 (List.replicate (len + 1) nul) 0
  let collapsed ← collapsed.store pos nul
  return collapsed.take (pos + 1)

/-- An increment of an iterator, which stays within the string. -/
def advanceIterator (path : Buffer) (itr : Nat) : Option Nat := if itr < path.length then some (itr + 1) else none

/-- What the loop of `collapse_slashes` does between two increments of `itr`. -/
def compactStep (itr store : Nat) (path : Buffer) : Option (Buffer × Nat) := do
  let kept ← path.load store
  let c ← path.load itr
  if kept ≠ '/' ∨ c ≠ '/' then
    let store ← advanceIterator path store
    let path ← path.store store c
    return (path, store)
  else return (path, store)

/-- The passes of the loop of `collapse_slashes` from the iterator `itr` on. -/
def compactPasses : Nat → Nat → Nat → Buffer → Option (Buffer × Nat)
  | 0, _, store, path => some (path, store)
  | passes + 1, itr, store, path => do
      let (path, store) ← compactStep itr store path
      let itr ← advanceIterator path itr
      compactPasses passes itr store path

/-- `collapse_slashes` on the characters of a `std::string`. -/
def collapseSlashesInPlace (path : Buffer) : Option Buffer := do
  let itr ← advanceIterator path 0
  let (path, store) ← compactPasses (path.length - itr) itr 0 path
  return if path.length ≠ store + 1 then path.take (store + 1) else path

/-! ### What is to be made of a path -/

/-- A path with one slash for every run of them. -/
def slashRunsReplaced : CString → CString
  | [] => []
  | c :: rest => if c = '/' then c :: slashRunsReplaced (rest.dropWhile (· = '/')) else c :: slashRunsReplaced rest
termination_by path => path.length
decreasing_by
  · exact Nat.lt_succ_of_le (List.dropWhile_suffix _).length_le
  · exact Nat.lt_succ_self _

/-- Both functions make the same canonical form of a path, and tell the paths apart that differ in more than
repeated slashes. -/
def SlashesCollapsed (s : CText) : Prop :=
  ∃ r : CText, collapseSlashesCopy s.storage = some r.storage ∧ collapseSlashesInPlace s.1 = some r.1 ∧
    (r.1.IsChain fun c d => ¬(c = '/' ∧ d = '/')) ∧
    collapseSlashesCopy r.storage = some r.storage ∧ collapseSlashesInPlace r.1 = some r.1 ∧
    (∀ t r' : CText, collapseSlashesCopy t.storage = some r'.storage →
      (r = r' ↔ slashRunsReplaced s.1 = slashRunsReplaced t.1)) ∧
    ∀ t r' : CText, collapseSlashesInPlace t.1 = some r'.1 → (r = r' ↔ slashRunsReplaced s.1 = slashRunsReplaced t.1)

/-! ### The canonical form -/

theorem destutter'_slash (rest : CString) :
    rest.destutter' (fun c d => ¬(c = '/' ∧ d = '/')) '/' = '/' :: slashCollapsed (rest.dropWhile (· = '/')) := by
  induction rest with
  | nil => rfl
  | cons d rest ih =>
      by_cases hd : d = '/'
      · rw [List.destutter'_cons_neg _ (by simp [hd]), ih, List.dropWhile_cons_of_pos (by simpa using hd)]
      · rw [List.destutter'_cons_pos _ (by simp [hd]), List.dropWhile_cons_of_neg (by simpa using hd)]
        rfl

variable {c : Char}

theorem destutter'_of_ne (hc : c ≠ '/') (rest : CString) :
    rest.destutter' (fun c d => ¬(c = '/' ∧ d = '/')) c = c :: slashCollapsed rest := by
  cases rest with
  | nil => rfl
  | cons d rest =>
      rw [List.destutter'_cons_pos _ (by simp [hc])]
      rfl

theorem slashRunsReplaced_eq (path : CString) : slashRunsReplaced path = slashCollapsed path := by
  induction path using slashRunsReplaced.induct with
  | case1 => rw [slashRunsReplaced, slashCollapsed, List.destutter_nil]
  | case2 rest ih =>
      rw [slashRunsReplaced, if_pos rfl, ih, ← destutter'_slash]
      rfl
  | case3 c rest hc ih =>
      rw [slashRunsReplaced, if_neg hc, ih, ← destutter'_of_ne hc]
      rfl

theorem mem_slashCollapsed {path : CString} (h : c ∈ slashCollapsed path) : c ∈ path :=
  (List.destutter_sublist _ path).subset h

/-- The canonical form of a string without NUL. -/
def collapsedText (s : CText) : CText := ⟨slashCollapsed s.1, fun h => s.2 (mem_slashCollapsed h)⟩

theorem length_slashCollapsed_le (path : CString) : (slashCollapsed path).length ≤ path.length :=
  (List.destutter_sublist _ path).length_le

theorem slashCollapsed_idem (path : CString) : slashCollapsed (slashCollapsed path) = slashCollapsed path :=
  List.destutter_idem path _

theorem slashCollapsed_ne_nil {path : CString} (h : path ≠ []) : slashCollapsed path ≠ [] :=
  fun hnil => h ((List.destutter_eq_nil _).mp hnil)

theorem collapseStored_eq (stored rest : CString) : collapseStored stored rest = collapseOnto stored rest := by
  induction rest generalizing stored with
  | nil => rfl
  | cons c rest ih =>
      rw [collapseStored, collapseOnto, ih, ih]
      by_cases hc : c = '/'
      · simp [hc]
      · simp [hc]

theorem collapseStored_singleton (c : Char) (rest : CString) : collapseStored [c] rest = slashCollapsed (c :: rest) := by
  rw [collapseStored_eq, collapseOnto_cons]
  rfl

/-! ### The copy -/

theorem strlen_storage (s : CText) : strlen s.storage = some s.1.length := by
  obtain ⟨s, hs⟩ := s
  unfold CText.storage
  dsimp only
  induction s with
  | nil => rfl
  | cons c s ih =>
      rw [List.mem_cons, not_or] at hs
      rw [List.cons_append, strlen, if_neg (Ne.symm hs.1), ih hs.2]
      rfl

section Copy

variable {stack : CString} {room : Nat}

/-- The stack in its copy, with room above it. -/
def stacked (stack : CString) (room : Nat) : Buffer := stack.reverse ++ List.replicate room nul

theorem pushCollapsed_eq (c : Char) (hstack : stack.length + 1 < 2 ^ 31) :
    pushCollapsed c (stacked stack (room + 1)) stack.length = some (stacked (c :: stack) room, stack.length + 1) := by
  have hlength : stack.length < (stacked stack (room + 1)).length := by simp [stacked]
  unfold pushCollapsed incrementInt
  rw [if_pos hstack, Buffer.store_eq hlength]
  refine congrArg some (Prod.ext ?_ rfl)
  unfold stacked
  rw [List.set_append_right _ _ (by simp)]
  simp [List.replicate_succ]

/-- A character is pushed unless it is a slash and the top of the stack is one. -/
theorem collapseStep_eq (c : Char) (hstack : stack.length + 1 < 2 ^ 31) :
    collapseStep c (stacked stack (room + 1)) stack.length =
      some (if c = '/' ∧ stack.head? = some '/' then (stacked stack (room + 1), stack.length)
        else (stacked (c :: stack) room, stack.length + 1)) := by
  unfold collapseStep
  by_cases hc : c = '/'
  · cases stack with
    | nil => simpa [hc] using @pushCollapsed_eq [] room '/' (by simp)
    | cons top stack =>
        have hload : (stacked (top :: stack) (room + 1)).load stack.length = some top := by
          simp [stacked, Buffer.load]
        by_cases htop : top = '/'
        · simp [hc, htop] at hload ⊢
          simp [hload]
        · have hpush := @pushCollapsed_eq _ room c hstack
          simp only [List.length_cons] at hpush
          simp [hc, htop] at hpush ⊢
          simp [hload, htop, hpush]
  · simpa [hc] using @pushCollapsed_eq _ room c hstack

theorem collapseOnto_cons_eq (stack : CString) (c : Char) (rest : CString) :
    collapseOnto stack (c :: rest) = if c = '/' ∧ stack.head? = some '/' then collapseOnto stack rest
      else collapseOnto (c :: stack) rest := by
  rw [collapseOnto]
  by_cases hc : c = '/'
  · by_cases htop : stack.head? = some '/' <;> simp [hc, htop]
  · simp [hc]

/-- The loop leaves the characters that the stack is to hold in the copy, with the room that is left after them. -/
theorem collapsePasses_eq {before rest after : CString} (hrest : before.length + rest.length < 2 ^ 31)
    (hstack : stack.length ≤ before.length) :
    ∃ room', collapsePasses (before ++ (rest ++ after)) rest.length before.length (stacked stack (rest.length + room))
        stack.length = some (collapseOnto stack rest ++ List.replicate (room' + room) nul, (collapseOnto stack rest).length) := by
  induction rest generalizing before stack room with
  | nil => exact ⟨0, by simp [collapsePasses, stacked, collapseOnto]⟩
  | cons c rest ih =>
      rw [List.length_cons] at hrest
      have hload : Buffer.load (before ++ (c :: rest ++ after)) before.length = some c := by simp [Buffer.load]
      have hstep := @collapseStep_eq stack (rest.length + room) c (by omega)
      have hsplit : before ++ (c :: rest ++ after) = (before ++ [c]) ++ (rest ++ after) := by simp
      have hlength : (before ++ [c]).length = before.length + 1 := by simp
      have hnext : incrementInt before.length = some (before ++ [c]).length := by
        rw [incrementInt, if_pos (by omega), hlength]
      have hroom : (c :: rest).length + room = rest.length + room + 1 := by
        rw [List.length_cons]
        omega
      rw [List.length_cons, collapsePasses, hload, Option.bind_eq_bind, Option.bind_some, ← @List.length_cons _ c rest,
        hroom, hstep, collapseOnto_cons_eq]
      split
      · -- the slash is left out, and its room stays
        obtain ⟨room', hpasses⟩ := @ih stack (room + 1) (before ++ [c])
          (by omega) (by omega)
        refine ⟨room' + 1, ?_⟩
        have hleft : rest.length + room + 1 = rest.length + (room + 1) := by omega
        simp only [Option.bind_eq_bind, Option.bind_some, hnext]
        rw [hsplit, hleft, hpasses]
        congr 4
        omega
      · obtain ⟨room', hpasses⟩ := @ih (c :: stack) room (before ++ [c])
          (by omega) (by rw [List.length_cons]; omega)
        refine ⟨room', ?_⟩
        simp only [Option.bind_eq_bind, Option.bind_some, hnext]
        rw [hsplit]
        exact hpasses

end Copy

theorem collapsePasses_lt {path collapsed : Buffer} {passes i pos : Nat} {out : Buffer × Nat}
    (h : collapsePasses path passes i collapsed pos = some out) : passes = 0 ∨ i + passes < 2 ^ 31 := by
  induction passes generalizing i collapsed pos with
  | zero => exact .inl rfl
  | succ passes ih =>
      right
      obtain ⟨c, -, h⟩ := Option.bind_eq_some_iff.mp h
      obtain ⟨⟨collapsed, pos⟩, -, h⟩ := Option.bind_eq_some_iff.mp h
      obtain ⟨next, hnext, h⟩ := Option.bind_eq_some_iff.mp h
      unfold incrementInt at hnext
      rw [Option.ite_none_right_eq_some] at hnext
      obtain ⟨hlt, heq⟩ := hnext
      cases heq
      rcases ih h with hdone | hrest <;> omega

/-- The copy holds the canonical form, of a path that an `int` counts. -/
theorem collapseSlashesCopy_storage {s : CText} (h : s.1.length < 2 ^ 31) :
    collapseSlashesCopy s.storage = some (collapsedText s).storage := by
  obtain ⟨room, hpasses⟩ := @collapsePasses_eq [] 1 [] s.1 [nul]
    (by simpa using h) le_rfl
  have hroom : stacked [] (s.1.length + 1) = List.replicate (s.1.length + 1) nul := rfl
  rw [List.nil_append, hroom, List.length_nil] at hpasses
  have hcollapsed : collapseOnto [] s.1 = (collapsedText s).1 := gfal2PathCollapseSlashes_eq s.1
  rw [hcollapsed] at hpasses
  unfold collapseSlashesCopy
  rw [strlen_storage, Option.bind_eq_bind, Option.bind_some]
  unfold CText.storage
  rw [hpasses, Option.bind_eq_bind, Option.bind_some]
  dsimp only
  rw [Buffer.store_eq (by simp), Option.bind_eq_bind, Option.bind_some, List.set_append_right _ _ le_rfl,
    Nat.sub_self, List.replicate_succ, List.set_cons_zero, List.append_cons]
  refine congrArg some (List.take_left' ?_)
  rw [List.length_append, List.length_singleton]

theorem collapseSlashesCopy_lt {s : CText} {r : Buffer} (h : collapseSlashesCopy s.storage = some r) :
    s.1.length < 2 ^ 31 := by
  unfold collapseSlashesCopy at h
  rw [strlen_storage, Option.bind_eq_bind, Option.bind_some] at h
  obtain ⟨out, hpasses, -⟩ := Option.bind_eq_some_iff.mp h
  rcases collapsePasses_lt hpasses with hempty | hlt <;> omega

/-! ### In place -/

section InPlace

variable {path : Buffer} {itr store : Nat} {stored rest : CString}

/-- Below the two iterators stand the characters that were stored, and from the second on those that are still to be read. -/
structure Compacting (path : Buffer) (itr store : Nat) (stored rest : CString) : Prop where
  stored_eq : path.take (store + 1) = stored.reverse
  rest_eq : path.drop itr = rest
  lt : store < itr
  le : itr ≤ path.length

theorem Compacting.load_store (h : Compacting path itr store stored rest) :
    ∃ top, path.load store = some top ∧ stored.head? = some top := by
  have hlt : store < path.length := h.lt.trans_le h.le
  refine ⟨path[store], List.getElem?_eq_getElem hlt, ?_⟩
  rw [← List.reverse_reverse stored, ← h.stored_eq, List.head?_reverse, List.getLast?_take]
  simp [hlt]

section Loads

variable (h : Compacting path itr store stored (c :: rest))
include h

theorem Compacting.load_itr : path.load itr = some c ∧ itr < path.length := by
  have hlt : itr < path.length := by
    by_contra hge
    have hnil := h.rest_eq
    rw [List.drop_eq_nil_of_le (by omega)] at hnil
    cases hnil
  refine ⟨?_, hlt⟩
  have hdrop := h.rest_eq
  rw [List.drop_eq_getElem_cons hlt] at hdrop
  rw [Buffer.load, List.getElem?_eq_getElem hlt, (List.cons.inj hdrop).1]

theorem Compacting.skip : Compacting path (itr + 1) store stored rest where
  stored_eq := h.stored_eq
  rest_eq := by
    have hdrop := congrArg List.tail h.rest_eq
    rwa [List.tail_drop] at hdrop
  lt := Nat.lt_succ_of_lt h.lt
  le := h.load_itr.2

theorem Compacting.keep : Compacting (path.set (store + 1) c) (itr + 1) (store + 1) (c :: stored) rest where
  stored_eq := by
    have hlt : store + 1 < path.length := (Nat.succ_le_of_lt h.lt).trans_lt h.load_itr.2
    rw [List.set_eq_take_append_cons_drop, if_pos hlt, h.stored_eq, List.reverse_cons]
    have hlength : (stored.reverse ++ [c]).length = store + 1 + 1 := by
      rw [List.length_append, ← h.stored_eq, List.length_take, List.length_singleton]
      omega
    rw [List.append_cons, ← hlength]
    exact List.take_left' rfl
  rest_eq := by
    rw [List.drop_set_of_lt (Nat.succ_lt_succ h.lt)]
    exact h.skip.rest_eq
  lt := Nat.succ_lt_succ h.lt
  le := by
    rw [List.length_set]
    exact h.load_itr.2

end Loads

/-- The loop compacts what it has still to read onto what is stored. -/
theorem compactPasses_eq (h : Compacting path itr store stored rest) :
    ∃ path' store', compactPasses rest.length itr store path = some (path', store') ∧
      path'.take (store' + 1) = collapseStored stored rest ∧ store' < path'.length := by
  induction rest generalizing path itr store stored with
  | nil => exact ⟨path, store, rfl, by rw [h.stored_eq, collapseStored], h.lt.trans_le h.le⟩
  | cons c rest ih =>
      obtain ⟨top, hkept, htop⟩ := h.load_store
      obtain ⟨hload, hlt⟩ := h.load_itr
      have hstore : store + 1 < path.length := (Nat.succ_le_of_lt h.lt).trans_lt hlt
      rw [List.length_cons, compactPasses, compactStep, hkept, hload, collapseStored, htop]
      simp only [Option.bind_eq_bind, Option.bind_some, ne_eq, Option.some.injEq]
      split
      · obtain ⟨path', store', hpasses, htake, hend⟩ := ih h.keep
        refine ⟨path', store', ?_, htake, hend⟩
        rw [advanceIterator, if_pos (by omega), Option.bind_some, Buffer.store_eq hstore, Option.bind_some]
        show (advanceIterator (path.set (store + 1) c) itr).bind _ = _
        rw [advanceIterator, if_pos (by rwa [List.length_set]), Option.bind_some, hpasses]
      · obtain ⟨path', store', hpasses, htake, hend⟩ := ih h.skip
        refine ⟨path', store', ?_, htake, hend⟩
        show (advanceIterator path itr).bind _ = _
        rw [advanceIterator, if_pos hlt, Option.bind_some, hpasses]

end InPlace

theorem collapseSlashesInPlace_nil : collapseSlashesInPlace [] = none := rfl

/-- The string is compacted to the canonical form, unless it is empty. -/
theorem collapseSlashesInPlace_eq {path : CString} (h : path ≠ []) :
    collapseSlashesInPlace path = some (slashCollapsed path) := by
  obtain ⟨c, rest, rfl⟩ := List.exists_cons_of_ne_nil h
  have hstart : Compacting (c :: rest) 1 0 [c] rest := ⟨rfl, rfl, Nat.zero_lt_one, by simp⟩
  obtain ⟨path', store', hpasses, htake, hend⟩ := compactPasses_eq hstart
  rw [collapseStored_singleton] at htake
  have hpasses' : compactPasses ((c :: rest).length - 1) 1 0 (c :: rest) = some (path', store') := hpasses
  unfold collapseSlashesInPlace advanceIterator
  rw [if_pos (by simp), Option.bind_eq_bind, Option.bind_some, hpasses']
  refine congrArg some ?_
  split
  · exact htake
  · rename_i hlength
    rw [← htake, ← not_not.mp hlength, List.take_length]

/-! ### Both -/

theorem collapsed_eq_iff (s t : CText) : collapsedText s = collapsedText t ↔ slashRunsReplaced s.1 = slashRunsReplaced t.1 := by
  rw [Subtype.ext_iff, slashRunsReplaced_eq, slashRunsReplaced_eq]
  exact Iff.rfl

/-- The slashes are collapsed as they should just for the paths with a first character that an `int` counts. -/
theorem slashes_collapsed_iff (s : CText) : SlashesCollapsed s ↔ s.1 ≠ [] ∧ s.1.length < 2 ^ 31 := by
  constructor
  · rintro ⟨r, hcopy, hplace, -⟩
    refine ⟨fun hempty => ?_, collapseSlashesCopy_lt hcopy⟩
    rw [hempty, collapseSlashesInPlace_nil] at hplace
    cases hplace
  · rintro ⟨hne, hlt⟩
    have hcopied : ∀ t r' : CText, collapseSlashesCopy t.storage = some r'.storage → r' = collapsedText t := by
      intro t r' ht
      rw [collapseSlashesCopy_storage (collapseSlashesCopy_lt ht)] at ht
      exact Subtype.ext (List.append_cancel_right (Option.some.inj ht)).symm
    have hplaced : ∀ t r' : CText, collapseSlashesInPlace t.1 = some r'.1 → r' = collapsedText t := by
      intro t r' ht
      have htne : t.1 ≠ [] := by
        intro hempty
        rw [hempty, collapseSlashesInPlace_nil] at ht
        cases ht
      rw [collapseSlashesInPlace_eq htne] at ht
      exact Subtype.ext (Option.some.inj ht).symm
    have hidem : collapsedText (collapsedText s) = collapsedText s := Subtype.ext (slashCollapsed_idem s.1)
    refine ⟨collapsedText s, collapseSlashesCopy_storage hlt, collapseSlashesInPlace_eq hne, List.isChain_destutter _ _,
      ?_, ?_, ?_, ?_⟩
    · rw [collapseSlashesCopy_storage ((length_slashCollapsed_le s.1).trans_lt hlt), hidem]
    · have hplace := collapseSlashesInPlace_eq (slashCollapsed_ne_nil hne)
      rwa [slashCollapsed_idem] at hplace
    · intro t r' ht
      rw [hcopied t r' ht, collapsed_eq_iff]
    · intro t r' ht
      rw [hplaced t r' ht, collapsed_eq_iff]

/-- The iterator is moved past the end of the empty string. -/
theorem empty_string_stepped_over : collapseSlashesInPlace [] = none ∧ ¬∀ s : CText, SlashesCollapsed s := by
  refine ⟨rfl, fun h => ?_⟩
  obtain ⟨r, -, hplace, -⟩ := h ⟨[], List.not_mem_nil⟩
  cases hplace

end Gfal2
