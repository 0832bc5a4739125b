import Gfal2.Base.Tokens
import Mathlib.Data.Finset.Basic
import Mathlib.Data.List.DropRight

/-! Directory trees: finite sets of paths closed under parents, with the creation of one directory, and
how a tree may grow towards a path. A path is a list of names; the names of a string are what stands
between its slashes, so repeated and trailing slashes do not count. -/

namespace Base

/-- A finite set of directories that holds the root and the parent of each of its members. -/
structure PathTree (α : Type) [DecidableEq α] where
  dirs : Finset (List α)
  root_mem : [] ∈ dirs
  parent_mem : ∀ path ∈ dirs, path.dropLast ∈ dirs

/-- The three answers to the request for a directory. -/
inductive MkdirOutcome (α : Type) [DecidableEq α] where
  | existing
  | parentMissing
  | made (tree : PathTree α)

namespace PathTree

variable {α : Type} [DecidableEq α]

instance : Membership (List α) (PathTree α) := ⟨fun tree path => path ∈ tree.dirs⟩

instance (tree : PathTree α) (path : List α) : Decidable (path ∈ tree) :=
  inferInstanceAs (Decidable (path ∈ tree.dirs))

/-- The tree with the root only. -/
def bare : PathTree α := ⟨{[]}, by simp, by simp⟩

/-- Add a directory whose parent is there. -/
def add (tree : PathTree α) (path : List α) (hparent : path.dropLast ∈ tree) : PathTree α where
  dirs := insert path tree.dirs
  root_mem := Finset.mem_insert_of_mem tree.root_mem
  parent_mem := by
    intro other hother
    rcases Finset.mem_insert.mp hother with rfl | hmem
    · exact Finset.mem_insert_of_mem hparent
    · exact Finset.mem_insert_of_mem (tree.parent_mem other hmem)

/-- Make one directory. -/
def mkdir (tree : PathTree α) (path : List α) : MkdirOutcome α :=
  if path ∈ tree then .existing
  else if hparent : path.dropLast ∈ tree then .made (tree.add path hparent)
  else .parentMissing

theorem nil_mem (tree : PathTree α) : [] ∈ tree := tree.root_mem

variable {path : List α} {tree : PathTree α}

theorem mem_add {other : List α} {hparent : path.dropLast ∈ tree} :
    other ∈ tree.add path hparent ↔ other = path ∨ other ∈ tree := Finset.mem_insert

theorem mkdir_of_mem (h : path ∈ tree) : tree.mkdir path = .existing :=
  if_pos h

theorem mkdir_of_parent (h : path ∉ tree) (hparent : path.dropLast ∈ tree) : tree.mkdir path = .made (tree.add path hparent) := by
  rw [mkdir, if_neg h, dif_pos hparent]

theorem mkdir_of_orphan (h : path.dropLast ∉ tree) : tree.mkdir path = .parentMissing := by
  have hpath : path ∉ tree := fun hmem => h (tree.parent_mem path hmem)
  rw [mkdir, if_neg hpath, dif_neg h]

/-- From the first tree to the second no directory went away, and every new one is the given path or
an ancestor of it. -/
structure GrowsTo (tree tree' : PathTree α) (path : List α) : Prop where
  kept : ∀ other ∈ tree, other ∈ tree'
  added : ∀ other ∈ tree', other ∉ tree → other <+: path

theorem GrowsTo.refl (tree : PathTree α) (path : List α) : tree.GrowsTo tree path :=
  ⟨fun _ h => h, fun _ h hnot => absurd h hnot⟩

theorem GrowsTo.trans {first second third : PathTree α} (h : first.GrowsTo second path)
    (h' : second.GrowsTo third path) : first.GrowsTo third path := by
  refine ⟨fun other hmem => h'.kept other (h.kept other hmem), fun other hmem hnot => ?_⟩
  by_cases hsecond : other ∈ second
  · exact h.added other hsecond hnot
  · exact h'.added other hmem hsecond

theorem GrowsTo.extend {tree' : PathTree α} {longer : List α} (h : tree.GrowsTo tree' path)
    (hpath : path <+: longer) : tree.GrowsTo tree' longer :=
  ⟨h.kept, fun other hmem hnot => (h.added other hmem hnot).trans hpath⟩

theorem growsTo_add (tree : PathTree α) (path : List α) (hparent : path.dropLast ∈ tree) :
    tree.GrowsTo (tree.add path hparent) path := by
  refine ⟨fun other hmem => mem_add.mpr (Or.inr hmem), fun other hmem hnot => ?_⟩
  rcases mem_add.mp hmem with rfl | hmem
  · exact List.prefix_rfl
  · exact absurd hmem hnot

end PathTree

/-! ### The names of a string -/

/-- The nonempty pieces between slashes. -/
def components (s : CString) : List CString := (s.splitOnP (· == '/')).filter (· ≠ [])

@[simp] theorem components_nil : components [] = [] := rfl

theorem components_eq_words (s : CString) : components s = words '/' s := rfl

theorem components_append_slash (s rest : CString) :
    components (s ++ '/' :: rest) = components s ++ components rest := words_append_delim s rest

theorem components_slash (s : CString) : components ('/' :: s) = components s :=
  components_append_slash [] s

/-- A string without slashes is one name. -/
theorem components_of_noSlash {s : CString} (hne : s ≠ []) (h : ∀ c ∈ s, c ≠ '/') : components s = [s] :=
  words_of_notMem hne fun hmem => h '/' hmem rfl

theorem components_of_slashes {s : CString} (h : ∀ c ∈ s, c = '/') : components s = [] := by
  rw [components_eq_words, ← List.append_nil s, words_append_of_delims [] h]
  rfl

theorem components_append_slashes (s : CString) {rest : CString} (h : ∀ c ∈ rest, c = '/') :
    components (s ++ rest) = components s := by
  cases rest with
  | nil => rw [List.append_nil]
  | cons c rest =>
      obtain ⟨rfl, hrest⟩ := List.forall_mem_cons.mp h
      rw [components_append_slash, components_of_slashes hrest, List.append_nil]

/-- The names of a string hold all its characters but the slashes. -/
theorem flatten_components (s : CString) : (components s).flatten = s.filter (· ≠ '/') := flatten_words s

/-- A beginning of a string that has all the names of the string, and maybe more, has the same names. -/
theorem components_eq_of_start {start s : CString} (hstart : start <+: s)
    (h : components s <+: components start) : components start = components s := by
  have hlength := (hstart.sublist.filter fun c => decide (c ≠ '/')).length_le
  rw [← flatten_components, ← flatten_components] at hlength
  obtain ⟨extra, hextra⟩ := h
  rw [← hextra, List.flatten_append, List.length_append] at hlength
  have hflat : extra.flatten = [] := List.length_eq_zero_iff.mp (by omega)
  have hnil : extra = [] := by
    refine List.eq_nil_iff_forall_not_mem.mpr fun piece hpiece => ?_
    have hempty : piece = [] := List.flatten_eq_nil_iff.mp hflat piece hpiece
    have hmem : piece ∈ components start := hextra ▸ List.mem_append_right _ hpiece
    rw [components, List.mem_filter] at hmem
    simp [hempty] at hmem
  rw [← hextra, hnil, List.append_nil]

end Base
