import Gfal2.Uri
import Mathlib.Data.List.TakeWhile

/-! What parsing makes of a string. The first expression matches every string, to its end: scheme,
authority, path, query and fragment are together the string. -/

namespace Gfal2

open Base Regex

/-! ### Texts and where they stop -/

theorem noneOf_eq_false {chars : CString} {c : Char} : noneOf chars c = false ↔ c ∈ chars := by
  simp [noneOf]

theorem noneOf_eq_true {chars : CString} {c : Char} : noneOf chars c = true ↔ c ∉ chars := by
  simp [noneOf]

/-- The string is empty or its first character is not in the class. -/
def StopsAt (p : Char → Bool) (s : CString) : Prop := ∀ c ∈ s.head?, p c = false

variable {p : Char → Bool}

theorem takeWhile_append_of_stopsAt {a b : CString} (ha : ∀ c ∈ a, p c = true) (hb : StopsAt p b) : (a ++ b).takeWhile p = a := by
  rw [List.takeWhile_append_of_pos ha]
  cases b with
  | nil => simp
  | cons c b => simp [hb c rfl]

/-- A text in a class that is followed by something else can be told from the whole. -/
theorem append_inj_of_stopsAt {a a' b b' : CString} (ha : ∀ c ∈ a, p c = true)
    (ha' : ∀ c ∈ a', p c = true) (hb : StopsAt p b) (hb' : StopsAt p b') (h : a ++ b = a' ++ b') : a = a' ∧ b = b' := by
  have htake : a = a' := by
    rw [← takeWhile_append_of_stopsAt ha hb, h, takeWhile_append_of_stopsAt ha' hb']
  subst htake
  exact ⟨rfl, List.append_cancel_left h⟩

theorem stopsAt_nil : StopsAt p [] := fun _ h => by cases h

theorem stopsAt_cons {c : Char} {s : CString} : StopsAt p (c :: s) ↔ p c = false := by
  simp [StopsAt]

@[simp] theorem component_none (before after : CString) : component before none after = [] := rfl

@[simp] theorem component_some (before text after : CString) :
    component before (some text) after = before ++ text ++ after := rfl

/-! ### Captures as texts -/

@[simp] theorem strdupmatch_default (u : CString) : strdupmatch u {} = none := rfl

theorem strdupmatch_of_append (pre text post : CString) :
    strdupmatch (pre ++ text ++ post) ⟨pre.length, (pre.length : Int) + text.length⟩ = some text := by
  have hlength : ((pre.length : Int) + text.length - pre.length).toNat = text.length := by omega
  simp [strdupmatch, hlength]

/-- Where the text of an optional group lies that begins at a position. -/
def lies (text : Option CString) (start : Nat) : Option Regmatch := text.map fun s => ⟨start, start + s.length⟩

theorem strdupmatch_lies (pre before after post : CString) {u : CString} {text : Option CString} {start : Nat}
    (hu : u = pre ++ (component before text after ++ post)) (hstart : start = pre.length + before.length) :
    strdupmatch u ((lies text start).getD {}) = text := by
  cases text with
  | none => rfl
  | some s =>
      have hu' : u = (pre ++ before) ++ s ++ (after ++ post) := by simp [hu]
      have hstart' : start = (pre ++ before).length := by simp [hstart]
      rw [hu', hstart']
      exact strdupmatch_of_append (pre ++ before) s (after ++ post)

/-! ### The pieces of a string -/

/-- A string taken apart at the delimiters of the syntax. -/
structure UriPieces where
  scheme : Option CString
  authority : Option CString
  path : CString
  query : Option CString
  fragment : Option CString

namespace UriPieces

/-- The query and the fragment with their delimiters. -/
def tail (pieces : UriPieces) : CString :=
  component (lit "?") pieces.query [] ++ component (lit "#") pieces.fragment []

def text (pieces : UriPieces) : CString :=
  component [] pieces.scheme (lit ":") ++ (component (lit "//") pieces.authority [] ++ (pieces.path ++ pieces.tail))

/-- No piece has a delimiter that would end it. -/
structure Valid (pieces : UriPieces) : Prop where
  scheme : ∀ s ∈ pieces.scheme, s ≠ [] ∧ ∀ c ∈ s, noneOf (lit ":/?#") c = true
  authority : ∀ s ∈ pieces.authority, ∀ c ∈ s, noneOf (lit "/?#") c = true
  path : ∀ c ∈ pieces.path, noneOf (lit "?#") c = true
  query : ∀ s ∈ pieces.query, ∀ c ∈ s, noneOf (lit "#") c = true

/-- A scheme and an authority are there where they can be, and the authority is as long as it can be. -/
structure Foremost (pieces : UriPieces) : Prop where
  scheme : pieces.scheme = none → ∀ s w, s ≠ [] → (∀ c ∈ s, noneOf (lit ":/?#") c = true) →
    pieces.text ≠ s ++ lit ":" ++ w
  authority : ∀ w, component (lit "//") pieces.authority [] ++ (pieces.path ++ pieces.tail) = lit "//" ++ w →
    pieces.authority = some (w.takeWhile (noneOf (lit "/?#")))

end UriPieces

theorem scheme_piece {a : CString} (ha : a ∈ schemeRegex.lang) (start : Nat) : ∃ scheme, a = component [] scheme (lit ":") ∧
      (∀ s ∈ scheme, s ≠ [] ∧ ∀ c ∈ s, noneOf (lit ":/?#") c = true) ∧
      capture 2 (schemeRegex.assign start a) = lies scheme start := by
  obtain ⟨hgroup, hassign⟩ | ⟨rfl, hassign⟩ := assign_opt ha start
  · obtain ⟨s, rfl, hs, hseq⟩ := assign_seq_chr hgroup start
    refine ⟨some s, rfl, ?_, ?_⟩
    · intro s' hs'
      cases hs'
      exact mem_plus_cls.mp hs
    · rw [schemeRegex, hassign, capture_group_ne (by decide), hseq, capture_group (by decide)]
      rfl
  · refine ⟨none, rfl, by simp, ?_⟩
    rw [schemeRegex, hassign]
    rfl

theorem slashes_piece {b : CString} (hb : b ∈ slashesRegex.lang) (start : Nat) :
    ∃ authority, b = component (lit "//") authority [] ∧
      (∀ s ∈ authority, ∀ c ∈ s, noneOf (lit "/?#") c = true) ∧
      capture 4 (slashesRegex.assign start b) = lies authority (start + 2) := by
  obtain ⟨hgroup, hassign⟩ | ⟨rfl, hassign⟩ := assign_opt hb start
  · obtain ⟨_, rfl, hrest, hseq⟩ := assign_chr_seq hgroup start
    obtain ⟨s, rfl, hs, hseq'⟩ := assign_chr_seq hrest (start + 1)
    refine ⟨some s, (List.append_nil _).symm, ?_, ?_⟩
    · intro s' hs'
      cases hs'
      exact mem_star_cls.mp hs
    · rw [slashesRegex, hassign, capture_group_ne (by decide), hseq, hseq', capture_group (by decide)]
      rfl
  · refine ⟨none, rfl, by simp, ?_⟩
    rw [slashesRegex, hassign]
    rfl

theorem query_piece {d : CString} (hd : d ∈ queryRegex.lang) (start : Nat) :
    ∃ query, d = component (lit "?") query [] ∧ (∀ s ∈ query, ∀ c ∈ s, noneOf (lit "#") c = true) ∧
      capture 7 (queryRegex.assign start d) = lies query (start + 1) := by
  obtain ⟨hgroup, hassign⟩ | ⟨rfl, hassign⟩ := assign_opt hd start
  · obtain ⟨s, rfl, hs, hseq⟩ := assign_chr_seq hgroup start
    refine ⟨some s, (List.append_nil _).symm, ?_, ?_⟩
    · intro s' hs'
      cases hs'
      exact mem_star_cls.mp hs
    · rw [queryRegex, hassign, capture_group_ne (by decide), hseq, capture_group (by decide)]
      rfl
  · refine ⟨none, rfl, by simp, ?_⟩
    rw [queryRegex, hassign]
    rfl

theorem fragment_piece {e : CString} (he : e ∈ fragmentRegex.lang) (start : Nat) :
    ∃ fragment, e = component (lit "#") fragment [] ∧
      capture 9 (fragmentRegex.assign start e) = lies fragment (start + 1) := by
  obtain ⟨hgroup, hassign⟩ | ⟨rfl, hassign⟩ := assign_opt he start
  · obtain ⟨s, rfl, -, hseq⟩ := assign_chr_seq hgroup start
    refine ⟨some s, (List.append_nil _).symm, ?_⟩
    rw [fragmentRegex, hassign, capture_group_ne (by decide), hseq, capture_group (by decide)]
    rfl
  · refine ⟨none, rfl, ?_⟩
    rw [fragmentRegex, hassign]
    rfl

theorem mem_fragmentRegex (s : CString) : '#' :: s ∈ fragmentRegex.lang :=
  mem_opt.mpr (.inl (append_mem_seq (mem_chr.mpr rfl) (mem_star_cls.mpr fun _ _ => rfl)))

theorem mem_queryRegex {s : CString} (hs : ∀ c ∈ s, noneOf (lit "#") c = true) : '?' :: s ∈ queryRegex.lang :=
  mem_opt.mpr (.inl (append_mem_seq (mem_chr.mpr rfl) (mem_star_cls.mpr hs)))

theorem nil_mem_opt (r : Regex Char) : [] ∈ (Regex.opt r).lang := mem_opt.mpr (.inr rfl)

theorem stopsAt_dropWhile (p : Char → Bool) (s : CString) : StopsAt p (s.dropWhile p) := by
  intro c hc
  have hnot := List.head?_dropWhile_not p s
  rw [Option.mem_def.mp hc] at hnot
  simpa using hnot

/-- From anywhere after the authority on, a string is a path with a query and a fragment. -/
theorem mem_tailRegex (s : CString) : s ∈ (Regex.seq pathRegex (.seq queryRegex fragmentRegex)).lang := by
  have hpath : s.takeWhile (noneOf (lit "?#")) ∈ pathRegex.lang :=
    mem_star_cls.mpr fun c hc => List.mem_takeWhile_imp hc
  have hfragment : ∀ t, StopsAt (noneOf (lit "#")) t → t ∈ fragmentRegex.lang := by
    intro t ht
    cases t with
    | nil => exact nil_mem_opt _
    | cons c t =>
        have hc : c = '#' := List.mem_singleton.mp (noneOf_eq_false.mp (stopsAt_cons.mp ht))
        exact hc ▸ mem_fragmentRegex t
  rw [← List.takeWhile_append_dropWhile (p := noneOf (lit "?#")) (l := s)]
  refine append_mem_seq hpath ?_
  have hstop := stopsAt_dropWhile (noneOf (lit "?#")) s
  cases hrest : s.dropWhile (noneOf (lit "?#")) with
  | nil => exact append_mem_seq (nil_mem_opt _) (nil_mem_opt _)
  | cons c t =>
      rw [hrest] at hstop
      have hc : c = '?' ∨ c = '#' := List.mem_pair.mp (noneOf_eq_false.mp (stopsAt_cons.mp hstop))
      rcases hc with rfl | rfl
      · rw [← List.takeWhile_append_dropWhile (p := noneOf (lit "#")) (l := t), ← List.cons_append]
        exact append_mem_seq (mem_queryRegex fun c hc => List.mem_takeWhile_imp hc)
          (hfragment _ (stopsAt_dropWhile _ t))
      · exact append_mem_seq (nil_mem_opt _) (mem_fragmentRegex t)

theorem mem_slashesRegex {s : CString} (hs : ∀ c ∈ s, noneOf (lit "/?#") c = true) :
    '/' :: '/' :: s ∈ slashesRegex.lang := by
  have hslash : ['/'] ∈ (Regex.chr '/').lang := mem_chr.mpr rfl
  exact mem_opt.mpr (.inl (append_mem_seq hslash (append_mem_seq hslash (mem_star_cls.mpr hs))))

theorem mem_schemeRegex {s : CString} (hne : s ≠ []) (hs : ∀ c ∈ s, noneOf (lit ":/?#") c = true) :
    s ++ lit ":" ∈ schemeRegex.lang :=
  mem_opt.mpr (.inl (append_mem_seq (mem_plus_cls.mpr ⟨hne, hs⟩) (mem_chr.mpr rfl)))

theorem nil_mem_schemeRegex : [] ∈ schemeRegex.lang := nil_mem_opt _

theorem mem_restRegex (s : CString) : s ∈ (Regex.seq slashesRegex (.seq pathRegex (.seq queryRegex fragmentRegex))).lang :=
  append_mem_seq (nil_mem_opt _) (mem_tailRegex s)

theorem mem_uriRegex (s : CString) : s ∈ uriRegex.lang := append_mem_seq nil_mem_schemeRegex (mem_restRegex s)

/-- A text in a class that begins a string is at most what the class takes of it. -/
theorem eq_takeWhile_of_length_le {a b w : CString} (ha : ∀ c ∈ a, p c = true) (h : a ++ b = w)
    (hlength : (w.takeWhile p).length ≤ a.length) : a = w.takeWhile p := by
  subst h
  rw [List.takeWhile_append_of_pos ha] at hlength ⊢
  have hnil : b.takeWhile p = [] := by
    rw [List.length_append] at hlength
    exact List.length_eq_zero_iff.mp (by omega)
  rw [hnil, List.append_nil]

theorem capture_pieces {n : Nat} (hn : n ≠ 0) (range : Regmatch) (a b c d e : Captures) :
    capture n ((0, range) :: (a ++ (b ++ (c ++ (d ++ e))))) =
      ((((capture n e).or (capture n d)).or (capture n c)).or (capture n b)).or (capture n a) := by
  rw [capture, if_neg (Ne.symm hn), Option.or_none, capture_append, capture_append, capture_append, capture_append]

/-- The first expression matches the whole string and takes it apart. -/
theorem regexec_uriRegex (u : CString) : ∃ pieces : UriPieces, pieces.Valid ∧ pieces.Foremost ∧ pieces.text = u ∧
    ∃ pmatch, uriRegex.regexec u = some pmatch ∧ strdupmatch u (pmatch 2) = pieces.scheme ∧
      pmatch 4 = (lies pieces.authority ((component [] pieces.scheme (lit ":")).length + 2)).getD {} ∧
      strdupmatch u (pmatch 4) = pieces.authority ∧ strdupmatch u (pmatch 5) = some pieces.path ∧
      strdupmatch u (pmatch 7) = pieces.query ∧ strdupmatch u (pmatch 9) = pieces.fragment := by
  obtain ⟨m, rest, hm, hmem, hlongest, hregexec⟩ := regexec_eq_some (mem_uriRegex []) u
  have hrest : rest = [] := by
    have hle := hlongest u [] (List.append_nil u) (mem_uriRegex u)
    rw [← hm, List.length_append] at hle
    exact List.length_eq_zero_iff.mp (by omega)
  rw [hrest, List.append_nil] at hm
  subst hm
  obtain ⟨a, b₀, hab, ha, hb₀, hassign, hfirst⟩ := assign_seq hmem 0
  obtain ⟨b, c₀, hbc, hb, hc₀, hassign₁, hsecond⟩ := assign_seq hb₀ (0 + a.length)
  obtain ⟨c, d₀, hcd, hc, hd₀, hassign₂, -⟩ := assign_seq hc₀ (0 + a.length + b.length)
  obtain ⟨d, e, hde, hd, he, hassign₃, -⟩ := assign_seq hd₀ (0 + a.length + b.length + c.length)
  obtain ⟨fragment, rfl, hcapture₉⟩ := fragment_piece he (0 + a.length + b.length + c.length + d.length)
  obtain ⟨query, rfl, hquery, hcapture₇⟩ := query_piece hd (0 + a.length + b.length + c.length)
  obtain ⟨authority, rfl, hauthority, hcapture₄⟩ := slashes_piece hb (0 + a.length)
  obtain ⟨scheme, rfl, hscheme, hcapture₂⟩ := scheme_piece ha 0
  have htext : (⟨scheme, authority, c, query, fragment⟩ : UriPieces).text = m := by
    rw [← hab, ← hbc, ← hcd, ← hde]
    rfl
  refine ⟨⟨scheme, authority, c, query, fragment⟩, ⟨hscheme, hauthority, mem_star_cls.mp hc, hquery⟩, ?_, htext, _,
    hregexec, ?_⟩
  · constructor
    · rintro rfl s w hne hs htext'
      rw [htext, List.append_assoc] at htext'
      have hle := hfirst (s ++ lit ":") w (by rw [htext', List.append_assoc]) (mem_schemeRegex hne hs) (mem_restRegex w)
      simp at hle
    · intro w hw
      have hb₀w : '/' :: '/' :: w = b₀ := by
        rw [← hbc, ← hcd, ← hde]
        exact hw.symm
      have hle := hsecond ('/' :: '/' :: w.takeWhile (noneOf (lit "/?#"))) (w.dropWhile (noneOf (lit "/?#")))
        (by rw [← hb₀w, List.cons_append, List.cons_append, List.takeWhile_append_dropWhile])
        (mem_slashesRegex fun c hc => List.mem_takeWhile_imp hc) (mem_tailRegex _)
      cases authority with
      | none => simp at hle
      | some y =>
          have hy : y ++ (c ++ (component (lit "?") query [] ++ component (lit "#") fragment [])) = w := by
            simpa [UriPieces.tail] using hw
          refine congrArg some (eq_takeWhile_of_length_le (hauthority y rfl) hy ?_)
          have htwo : (lit "//").length = 2 := rfl
          simp only [component_some, List.length_append, List.length_cons, List.length_nil, htwo] at hle
          omega
  · have hnone : ∀ {n : Nat} {r : Regex Char} {start : Nat} {s : CString}, n ∉ r.groups →
        capture n (r.assign start s) = none := fun hn => capture_assign_of_notMem hn _ _
    have huri : uriRegex.assign 0 m = _ :=
      hassign.trans (congrArg _ (hassign₁.trans (congrArg _ (hassign₂.trans (congrArg _ hassign₃)))))
    have hpath : capture 5 (pathRegex.assign _ c) = lies (some c) _ := capture_group (by decide)
      (0 + (component [] scheme (lit ":")).length + (component (lit "//") authority []).length) c
    have hauthority : capture 4 ((0, ⟨0, m.length⟩) :: uriRegex.assign 0 m) =
        lies authority ((component [] scheme (lit ":")).length + 2) := by
      rw [huri, capture_pieces (by decide), hcapture₄, hnone (by decide), hnone (by decide), hnone (by decide),
        hnone (by decide), Nat.zero_add]
      simp
    have hm : m = component [] scheme (lit ":") ++ (component (lit "//") authority [] ++
        (c ++ (component (lit "?") query [] ++ component (lit "#") fragment []))) := by
      rw [← hab, ← hbc, ← hcd, ← hde]
    refine ⟨?_, congrArg (Option.getD · {}) hauthority, ?_, ?_, ?_, ?_⟩
    · dsimp only
      rw [huri, capture_pieces (by decide), hcapture₂, hnone (by decide), hnone (by decide), hnone (by decide),
        hnone (by decide)]
      exact strdupmatch_lies [] [] (lit ":") b₀ (by simp [hab]) rfl
    · dsimp only
      rw [hauthority]
      exact strdupmatch_lies (component [] scheme (lit ":")) (lit "//") [] c₀ (by rw [← hab, ← hbc]) rfl
    · dsimp only
      rw [huri, capture_pieces (by decide), hpath, hnone (by decide), hnone (by decide), hnone (by decide),
        hnone (by decide), Option.or_none, Option.or_none]
      apply strdupmatch_lies (component [] scheme (lit ":") ++ component (lit "//") authority []) [] [] d₀
      · rw [hm, ← hde, component_some]
        simp only [List.append_assoc, List.nil_append, List.append_nil]
      · simp only [List.length_append, Nat.zero_add]
        rfl
    · dsimp only
      rw [huri, capture_pieces (by decide), hcapture₇, hnone (by decide), hnone (by decide), hnone (by decide),
        hnone (by decide), Option.or_none, Option.or_none, Option.or_none]
      apply strdupmatch_lies (component [] scheme (lit ":") ++ component (lit "//") authority [] ++ c) (lit "?") []
        (component (lit "#") fragment [])
      · rw [hm]
        simp only [List.append_assoc]
      · simp only [List.length_append, Nat.zero_add]
        rfl
    · dsimp only
      rw [huri, capture_pieces (by decide), hcapture₉, hnone (by decide), hnone (by decide), hnone (by decide),
        hnone (by decide), Option.or_none, Option.or_none, Option.or_none, Option.or_none]
      apply strdupmatch_lies (component [] scheme (lit ":") ++ component (lit "//") authority [] ++ c ++
        component (lit "?") query []) (lit "#") [] []
      · rw [hm]
        simp only [List.append_assoc, List.append_nil]
      · simp only [List.length_append, Nat.zero_add]
        rfl

/-- The fields that parsing sets before it looks at the authority. -/
def UriPieces.fields (pieces : UriPieces) (original : CString) : Gfal2Uri :=
  { scheme := pieces.scheme
    path := some pieces.path
    query := pieces.query
    fragment := pieces.fragment
    original := original }

/-- Parsing takes every string apart at its delimiters, and then its authority. -/
theorem gfal2ParseUri_spec (u : CString) : ∃ pieces : UriPieces, pieces.Valid ∧ pieces.Foremost ∧ pieces.text = u ∧
    gfal2ParseUri u =
      match pieces.authority with
      | none => ⟨some (pieces.fields u), none⟩
      | some [] => ⟨some { pieces.fields u with host := some [] }, none⟩
      | some authority => parseAuthority (pieces.fields u) authority := by
  obtain ⟨pieces, hvalid, hforemost, htext, pmatch, hregexec, h2, hrange, h4, h5, h7, h9⟩ := regexec_uriRegex u
  refine ⟨pieces, hvalid, hforemost, htext, ?_⟩
  unfold gfal2ParseUri
  rw [hregexec]
  dsimp only
  rw [h2, h4, h5, h7, h9, hrange]
  cases hauthority : pieces.authority with
  | none => rfl
  | some authority =>
      have hso : ((lies (some authority) ((component [] pieces.scheme (lit ":")).length + 2)).getD {}).rmSo =
          ((component [] pieces.scheme (lit ":")).length + 2 : Nat) := rfl
      have heo : ((lies (some authority) ((component [] pieces.scheme (lit ":")).length + 2)).getD {}).rmEo =
          ((component [] pieces.scheme (lit ":")).length + 2 : Nat) + (authority.length : Int) := rfl
      rw [hso, heo, if_neg (by omega)]
      cases authority with
      | nil => rw [if_pos (by simp)]; rfl
      | cons c authority => rw [if_neg (by simp; omega)]; rfl

end Gfal2
