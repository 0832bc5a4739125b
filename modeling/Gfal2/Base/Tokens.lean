import Gfal2.Base.CString
import Mathlib.Data.List.TakeWhile
import Mathlib.Tactic.Common

/-! The tokens of a string that one character delimits: the nonempty pieces between the delimiters, and `strtok_r`,
whose calls give them one after the other. -/

namespace Base

/-- The nonempty pieces between the delimiters. -/
def words (delim : Char) (s : CString) : List CString := (s.splitOnP (· == delim)).filter (· ≠ [])

section Words

variable {delim : Char}

theorem words_append_delim (s rest : CString) : words delim (s ++ delim :: rest) = words delim s ++ words delim rest := by
  rw [words, List.splitOnP_append_cons s rest (by simp), List.filter_append]
  rfl

theorem words_delim (s : CString) : words delim (delim :: s) = words delim s := words_append_delim [] s

/-- A string without delimiters is one word. -/
theorem words_of_notMem {s : CString} (hne : s ≠ []) (h : delim ∉ s) : words delim s = [s] := by
  have hno : ∀ c ∈ s, (c == delim) = false := fun c hc => beq_eq_false_iff_ne.mpr (ne_of_mem_of_not_mem hc h)
  rw [words, List.splitOnP_eq_singleton hno]
  simp [hne]

theorem words_append_of_delims {delims : CString} (s : CString) (h : ∀ c ∈ delims, c = delim) :
    words delim (delims ++ s) = words delim s := by
  induction delims with
  | nil => rfl
  | cons c delims ih =>
      obtain ⟨rfl, hrest⟩ := List.forall_mem_cons.mp h
      rw [List.cons_append, words_delim, ih hrest]

/-- The words of a string hold all its characters but the delimiters. -/
theorem flatten_words (s : CString) : (words delim s).flatten = s.filter (· ≠ delim) := by
  have hpieces : ∀ pieces : List CString, (pieces.filter (· ≠ [])).flatten = pieces.flatten := by
    intro pieces
    induction pieces with
    | nil => rfl
    | cons piece pieces ih => cases piece <;> simpa using ih
  rw [words, hpieces]
  induction s with
  | nil => rfl
  | cons c s ih =>
      rw [List.splitOnP_cons_eq_if_modifyHead]
      by_cases hc : c = delim
      · simp [hc, ih]
      · obtain ⟨piece, pieces, hsplit⟩ := List.exists_cons_of_ne_nil (List.splitOnP_ne_nil (· == delim) s)
        rw [hsplit] at ih ⊢
        simpa [hc] using ih

theorem mem_of_mem_words {s word : CString} (hword : word ∈ words delim s) {c : Char} (hc : c ∈ word) : c ∈ s := by
  have hmem : c ∈ (words delim s).flatten := List.mem_flatten_of_mem hword hc
  rw [flatten_words] at hmem
  exact (List.mem_filter.mp hmem).1

theorem length_le_of_mem_words {s word : CString} (hword : word ∈ words delim s) : word.length ≤ s.length := by
  have hflat : word.length ≤ (words delim s).flatten.length := (List.sublist_flatten_of_mem hword).length_le
  rw [flatten_words] at hflat
  exact hflat.trans (List.length_filter_le _ _)

end Words

/-- `strtok_r` with one delimiter: the next token, and the text where the next call begins. -/
def strtokR (delim : Char) (save : CString) : Option (CString × CString) :=
  let text := save.dropWhile (· == delim)
  if text = [] then none else some (text.takeWhile (· != delim), (text.dropWhile (· != delim)).drop 1)

theorem strtokR_cases (delim : Char) (save : CString) : (strtokR delim save = none ∧ words delim save = []) ∨
      ∃ token rest, strtokR delim save = some (token, rest) ∧ rest.length < save.length ∧
        words delim save = token :: words delim rest := by
  have hdelims : ∀ c ∈ save.takeWhile (· == delim), c = delim := fun c hc => by simpa using List.mem_takeWhile_imp hc
  have hsplit : words delim save = words delim (save.dropWhile (· == delim)) := by
    rw [← words_append_of_delims (save.dropWhile (· == delim)) hdelims, List.takeWhile_append_dropWhile]
  have hle : (save.dropWhile (· == delim)).length ≤ save.length := (List.dropWhile_sublist _).length_le
  cases htext : save.dropWhile (· == delim) with
  | nil =>
      refine .inl ⟨by rw [strtokR, htext, if_pos rfl], ?_⟩
      rw [hsplit, htext]
      rfl
  | cons c text =>
      have hc : (c == delim) = false := by
        have := List.head?_dropWhile_not (· == delim) save
        rw [htext] at this
        simpa using this
      have hne : (c :: text).takeWhile (· != delim) ≠ [] := by
        rw [List.takeWhile_cons_of_pos (by simpa using hc)]
        exact List.cons_ne_nil _ _
      have hnot : delim ∉ (c :: text).takeWhile (· != delim) := fun h => by simpa using List.mem_takeWhile_imp h
      refine .inr ⟨_, _, by rw [strtokR, htext, if_neg (List.cons_ne_nil _ _)], ?_, ?_⟩
      · have htoken := congrArg List.length (List.takeWhile_append_dropWhile (p := (· != delim)) (l := c :: text))
        have hpos := List.length_pos_of_ne_nil hne
        rw [List.length_append] at htoken
        rw [htext] at hle
        rw [List.length_drop]
        omega
      · rw [hsplit, htext]
        conv_lhs => rw [← List.takeWhile_append_dropWhile (p := (· != delim)) (l := c :: text)]
        cases hrest : (c :: text).dropWhile (· != delim) with
        | nil =>
            rw [List.append_nil, words_of_notMem hne hnot]
            rfl
        | cons d rest =>
            obtain rfl : d = delim := by
              have := List.head?_dropWhile_not (· != delim) (c :: text)
              rw [hrest] at this
              simpa using this
            rw [words_append_delim, words_of_notMem hne hnot]
            rfl

/-- The tokens that `strtok_r` gives until it gives none. -/
def tokens (delim : Char) (save : CString) : List CString :=
  match _h : strtokR delim save with
  | none => []
  | some (token, rest) => token :: tokens delim rest
termination_by save.length
decreasing_by
  rcases strtokR_cases delim save with ⟨hnone, -⟩ | ⟨token', rest', hsome, hlt, -⟩
  · rw [hnone] at _h
    cases _h
  · rw [hsome] at _h
    cases _h
    exact hlt

theorem tokens_eq_words (delim : Char) (save : CString) : tokens delim save = words delim save := by
  fun_induction tokens delim save with
  | case1 save hnone =>
      rcases strtokR_cases delim save with ⟨-, hwords⟩ | ⟨token, rest, hsome, -, -⟩
      · exact hwords.symm
      · rw [hsome] at hnone
        cases hnone
  | case2 save token rest hsome ih =>
      rcases strtokR_cases delim save with ⟨hnone, -⟩ | ⟨token', rest', hsome', -, hwords⟩
      · rw [hnone] at hsome
        cases hsome
      · rw [hsome'] at hsome
        cases hsome
        rw [hwords, ih]

end Base
