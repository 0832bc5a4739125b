import Mathlib.Computability.Language
import Mathlib.Data.Nat.Find

/-! Extended regular expressions with numbered groups and the match the POSIX rules choose: the longest
one, and in it for each concatenation from the left the longest first part. A pattern is matched at the
beginning of the string, or searched for from there on. -/

namespace Base

/-- An expression over characters `α`; `group` is a parenthesis with its number. -/
inductive Regex (α : Type) where
  | eps
  | cls (p : α → Bool)
  | seq (r r' : Regex α)
  | alt (r r' : Regex α)
  | star (r : Regex α)
  | group (n : Nat) (r : Regex α)

/-- `regmatch_t`: where a group begins and ends, `-1` both if it takes no part. -/
structure Regmatch where
  rmSo : Int := -1
  rmEo : Int := -1
  deriving DecidableEq

namespace Regex

variable {α : Type}

def opt (r : Regex α) : Regex α := alt r eps

def plus (r : Regex α) : Regex α := seq r (star r)

def chr [DecidableEq α] (c : α) : Regex α := cls fun c' => decide (c' = c)

/-! ### The language -/

def lang : Regex α → Language α
  | eps => 1
  | cls p => ({s | ∃ c, p c = true ∧ s = [c]} : Set (List α))
  | seq r r' => r.lang * r'.lang
  | alt r r' => r.lang + r'.lang
  | star r => KStar.kstar r.lang
  | group _ r => r.lang

variable {r r' : Regex α} {s : List α}

theorem mem_seq : s ∈ (seq r r').lang ↔ ∃ a ∈ r.lang, ∃ b ∈ r'.lang, a ++ b = s := Language.mem_mul

theorem append_mem_seq {a b : List α} (ha : a ∈ r.lang) (hb : b ∈ r'.lang) :
    a ++ b ∈ (seq r r').lang := Language.append_mem_mul ha hb

theorem mem_alt : s ∈ (alt r r').lang ↔ s ∈ r.lang ∨ s ∈ r'.lang :=
  Language.mem_add _ _ s

theorem mem_opt : s ∈ (opt r).lang ↔ s ∈ r.lang ∨ s = [] :=
  Language.mem_add _ _ s

theorem mem_cls {p : α → Bool} : s ∈ (cls p).lang ↔ ∃ c, p c = true ∧ s = [c] := Iff.rfl

theorem mem_chr [DecidableEq α] {c : α} : s ∈ (chr c).lang ↔ s = [c] := by
  simp [chr, mem_cls]

theorem mem_star_cls {p : α → Bool} : s ∈ (star (cls p)).lang ↔ ∀ c ∈ s, p c = true := by
  constructor
  · intro h
    obtain ⟨pieces, rfl, hpieces⟩ := Language.mem_kstar.mp h
    intro c hc
    obtain ⟨piece, hpiece, hc⟩ := List.mem_flatten.mp hc
    obtain ⟨c', hp, rfl⟩ := mem_cls.mp (hpieces piece hpiece)
    rw [List.mem_singleton.mp hc]
    exact hp
  · intro h
    refine Language.mem_kstar.mpr ⟨s.map fun c => [c], ?_, ?_⟩
    · exact (List.flatMap_singleton' s).symm
    · intro piece hpiece
      obtain ⟨c, hc, rfl⟩ := List.mem_map.mp hpiece
      exact ⟨c, h c hc, rfl⟩

theorem mem_plus_cls {p : α → Bool} : s ∈ (plus (cls p)).lang ↔ s ≠ [] ∧ ∀ c ∈ s, p c = true := by
  constructor
  · intro h
    obtain ⟨a, ha, b, hb, rfl⟩ := mem_seq.mp h
    obtain ⟨c, hc, rfl⟩ := mem_cls.mp ha
    refine ⟨by simp, ?_⟩
    simpa [hc] using mem_star_cls.mp hb
  · rintro ⟨hne, hall⟩
    obtain ⟨c, s, rfl⟩ := List.exists_cons_of_ne_nil hne
    obtain ⟨hc, hs⟩ := List.forall_mem_cons.mp hall
    exact append_mem_seq (mem_cls.mpr ⟨c, hc, rfl⟩) (mem_star_cls.mpr hs)

/-- Every character that a class of the expression admits satisfies `p`. -/
def Over (p : α → Prop) : Regex α → Prop
  | eps => True
  | cls q => ∀ c, q c = true → p c
  | seq r r' | alt r r' => r.Over p ∧ r'.Over p
  | star r | group _ r => r.Over p

theorem forall_mem_of_over {p : α → Prop} (hr : r.Over p) (hs : s ∈ r.lang) : ∀ c ∈ s, p c := by
  induction r generalizing s with
  | eps =>
      obtain rfl : s = [] := hs
      simp
  | cls q =>
      obtain ⟨c, hc, rfl⟩ := mem_cls.mp hs
      simpa using hr c hc
  | seq r r' ih ih' =>
      obtain ⟨a, ha, b, hb, rfl⟩ := mem_seq.mp hs
      exact List.forall_mem_append.mpr ⟨ih hr.1 ha, ih' hr.2 hb⟩
  | alt r r' ih ih' =>
      rcases mem_alt.mp hs with hs | hs
      · exact ih hr.1 hs
      · exact ih' hr.2 hs
  | star r ih =>
      obtain ⟨pieces, rfl, hpieces⟩ := Language.mem_kstar.mp hs
      intro c hc
      obtain ⟨piece, hpiece, hc⟩ := List.mem_flatten.mp hc
      exact ih hr (hpieces piece hpiece) c hc
  | group n r ih => exact ih hr hs

/-! ### Deciding the language -/

/-- Whether the string is pieces that are accepted, none of them empty; the fuel bounds their number. -/
def acceptsStar (ok : List α → Bool) : Nat → List α → Bool
  | _, [] => true
  | 0, _ :: _ => false
  | fuel + 1, c :: s =>
      (List.range (s.length + 1)).any fun k => ok ((c :: s).take (k + 1)) && acceptsStar ok fuel ((c :: s).drop (k + 1))

def accepts : Regex α → List α → Bool
  | eps, s => s.isEmpty
  | cls p, s => match s with
      | [c] => p c
      | _ => false
  | seq r r', s => (List.range (s.length + 1)).any fun k => r.accepts (s.take k) && r'.accepts (s.drop k)
  | alt r r', s => r.accepts s || r'.accepts s
  | star r, s => acceptsStar r.accepts s.length s
  | group _ r, s => r.accepts s

theorem acceptsStar_iff {ok : List α → Bool} {fuel : Nat} (hfuel : s.length ≤ fuel) : acceptsStar ok fuel s = true ↔
      ∃ pieces : List (List α), s = pieces.flatten ∧ ∀ piece ∈ pieces, ok piece = true ∧ piece ≠ [] := by
  induction fuel generalizing s with
  | zero =>
      obtain rfl := List.length_eq_zero_iff.mp (Nat.le_zero.mp hfuel)
      exact iff_of_true rfl ⟨[], rfl, by simp⟩
  | succ fuel ih =>
      cases s with
      | nil => exact iff_of_true rfl ⟨[], rfl, by simp⟩
      | cons c s =>
          have hlength : s.length ≤ fuel := by simpa using hfuel
          have hrest : ∀ k, ((c :: s).drop (k + 1)).length ≤ fuel := by
            intro k
            simp only [List.drop_succ_cons, List.length_drop]
            omega
          simp only [acceptsStar, List.any_eq_true, List.mem_range, Bool.and_eq_true]
          constructor
          · rintro ⟨k, hk, hhead, htail⟩
            obtain ⟨pieces, hjoin, hpieces⟩ := (ih (hrest k)).mp htail
            refine ⟨(c :: s).take (k + 1) :: pieces, ?_, ?_⟩
            · rw [List.flatten_cons, ← hjoin, List.take_append_drop]
            · intro piece hpiece
              rcases List.mem_cons.mp hpiece with rfl | hpiece
              · exact ⟨hhead, by simp⟩
              · exact hpieces piece hpiece
          · rintro ⟨pieces, hjoin, hpieces⟩
            cases pieces with
            | nil => simp at hjoin
            | cons piece pieces =>
                obtain ⟨⟨hhead, hne⟩, htail⟩ := List.forall_mem_cons.mp hpieces
                obtain ⟨d, piece, rfl⟩ := List.exists_cons_of_ne_nil hne
                rw [List.flatten_cons] at hjoin
                have hlen : piece.length < s.length + 1 := by
                  have := congrArg List.length hjoin
                  simp at this
                  omega
                refine ⟨piece.length, hlen, ?_, ?_⟩
                · rw [hjoin, List.take_left' (by simp)]
                  exact hhead
                · refine (ih (hrest _)).mpr ⟨pieces, ?_, htail⟩
                  rw [hjoin, List.drop_left' (by simp)]

theorem accepts_iff (r : Regex α) (s : List α) : r.accepts s = true ↔ s ∈ r.lang := by
  induction r generalizing s with
  | eps => simp [accepts, lang, Language.mem_one]
  | cls p =>
      rw [mem_cls]
      match s with
      | [] => simp [accepts]
      | [c] => simp [accepts]
      | _ :: _ :: _ => simp [accepts]
  | seq r r' ih ih' =>
      simp only [accepts, List.any_eq_true, List.mem_range, Bool.and_eq_true, ih, ih', mem_seq]
      constructor
      · rintro ⟨k, -, hleft, hright⟩
        exact ⟨_, hleft, _, hright, List.take_append_drop k s⟩
      · rintro ⟨a, ha, b, hb, rfl⟩
        exact ⟨a.length, by rw [List.length_append]; omega, by simpa using ha, by simpa using hb⟩
  | alt r r' ih ih' => simp [accepts, ih, ih', mem_alt]
  | star r ih =>
      rw [accepts, acceptsStar_iff le_rfl, lang, Language.kstar_def_nonempty]
      simp only [ih]
      rfl
  | group n r ih => exact ih s

instance (r : Regex α) (s : List α) : Decidable (s ∈ r.lang) := decidable_of_iff _ (r.accepts_iff s)

/-! ### The match -/

/-- The groups that take part, with the last iteration of a repeated one last. -/
abbrev Captures := List (Nat × Regmatch)

/-- How much of the string the first part of a concatenation takes: as much as it can. -/
def splitAt (ok ok' : List α → Bool) (s : List α) : Nat :=
  Nat.findGreatest (fun k => ok (s.take k) = true ∧ ok' (s.drop k) = true) s.length

def assignStar (ok : List α → Bool) (assignOne : Nat → List α → Captures) : Nat → Nat → List α → Captures
  | 0, _, _ => []
  | _, _, [] => []
  | fuel + 1, start, c :: s =>
      let k := splitAt (fun t => !t.isEmpty && ok t) (fun t => acceptsStar ok t.length t) (c :: s)
      assignOne start ((c :: s).take k) ++ assignStar ok assignOne fuel (start + k) ((c :: s).drop k)

/-- Where the groups lie in a string of the language that begins at `start`. -/
def assign : Regex α → Nat → List α → Captures
  | eps, _, _ => []
  | cls _, _, _ => []
  | seq r r', start, s =>
      let k := splitAt r.accepts r'.accepts s
      r.assign start (s.take k) ++ r'.assign (start + k) (s.drop k)
  | alt r r', start, s => if r.accepts s then r.assign start s else r'.assign start s
  | star r, start, s => assignStar r.accepts r.assign s.length start s
  | group n r, start, s => (n, ⟨start, start + s.length⟩) :: r.assign start s

/-- The last capture of a group. -/
def capture (n : Nat) : Captures → Option Regmatch
  | [] => none
  | (m, range) :: rest => (capture n rest).or (if m = n then some range else none)

/-- `regexec` with a pattern that begins with `^`: nothing if no beginning of the string matches. -/
def regexec (r : Regex α) (s : List α) : Option (Nat → Regmatch) :=
  let k := Nat.findGreatest (fun k => r.accepts (s.take k) = true) s.length
  if r.accepts (s.take k) then
    let captures := (0, ⟨0, k⟩) :: r.assign 0 (s.take k)
    some fun n => (capture n captures).getD {}
  else none

theorem capture_append (n : Nat) (left right : Captures) :
    capture n (left ++ right) = (capture n right).or (capture n left) := by
  induction left with
  | nil => simp [capture]
  | cons entry left ih =>
      obtain ⟨m, range⟩ := entry
      simp only [List.cons_append, capture, ih, Option.or_assoc]

/-- The numbers of the groups of an expression. -/
def groups : Regex α → List Nat
  | eps | cls _ => []
  | seq r r' | alt r r' => r.groups ++ r'.groups
  | star r => r.groups
  | group n r => n :: r.groups

theorem capture_assignStar {n : Nat} {ok : List α → Bool} {assignOne : Nat → List α → Captures}
    (hone : ∀ start s, capture n (assignOne start s) = none) (fuel start : Nat) (s : List α) :
    capture n (assignStar ok assignOne fuel start s) = none := by
  induction fuel generalizing start s with
  | zero => rfl
  | succ fuel ih =>
      cases s with
      | nil => rfl
      | cons c s => simp only [assignStar, capture_append, hone, ih, Option.or_none]

/-- A group that is not in the expression takes no part. -/
theorem capture_assign_of_notMem {n : Nat} (hn : n ∉ r.groups) (start : Nat) (s : List α) :
    capture n (r.assign start s) = none := by
  induction r generalizing start s with
  | eps | cls => rfl
  | seq r r' ih ih' =>
      simp only [groups, List.mem_append, not_or] at hn
      simp only [assign, capture_append, ih hn.1, ih' hn.2, Option.or_none]
  | alt r r' ih ih' =>
      simp only [groups, List.mem_append, not_or] at hn
      rw [assign]
      split
      · exact ih hn.1 start s
      · exact ih' hn.2 start s
  | star r ih => exact capture_assignStar (ih hn) _ start s
  | group m r ih =>
      simp only [groups, List.mem_cons, not_or] at hn
      simp only [assign, capture, ih hn.2, if_neg (Ne.symm hn.1), Option.or_none]

/-- A concatenation is taken apart where its first part is longest. -/
theorem assign_seq (hs : s ∈ (seq r r').lang) (start : Nat) : ∃ a b, a ++ b = s ∧ a ∈ r.lang ∧ b ∈ r'.lang ∧
      (seq r r').assign start s = r.assign start a ++ r'.assign (start + a.length) b ∧
      ∀ a' b', a' ++ b' = s → a' ∈ r.lang → b' ∈ r'.lang → a'.length ≤ a.length := by
  obtain ⟨a₀, ha₀, b₀, hb₀, rfl⟩ := mem_seq.mp hs
  let s := a₀ ++ b₀
  let ok := fun k => r.accepts (s.take k) = true ∧ r'.accepts (s.drop k) = true
  have hsplit : ∀ a b, a ++ b = s → a ∈ r.lang → b ∈ r'.lang → a.length ≤ s.length ∧ ok a.length := by
    intro a b hab ha hb
    simp only [ok, accepts_iff, ← hab, List.take_left', List.drop_left', List.length_append]
    exact ⟨by omega, ha, hb⟩
  let k := Nat.findGreatest ok s.length
  have hk : ok k := by
    obtain ⟨hle, hok⟩ := hsplit a₀ b₀ rfl ha₀ hb₀
    exact Nat.findGreatest_spec hle hok
  have hle : k ≤ s.length := Nat.findGreatest_le _
  refine ⟨s.take k, s.drop k, List.take_append_drop k s, (r.accepts_iff _).mp hk.1, (r'.accepts_iff _).mp hk.2, ?_, ?_⟩
  · rw [List.length_take_of_le hle]
    rfl
  · intro a b hab ha hb
    obtain ⟨hab', hok⟩ := hsplit a b hab ha hb
    rw [List.length_take_of_le hle]
    by_contra hlt
    exact Nat.findGreatest_is_greatest (Nat.lt_of_not_le hlt) hab' hok

theorem assign_alt_left (r' : Regex α) (hs : s ∈ r.lang) (start : Nat) : (alt r r').assign start s = r.assign start s := by
  rw [assign, if_pos ((r.accepts_iff s).mpr hs)]

/-- An optional part is there if it can be. -/
theorem assign_opt (hs : s ∈ (opt r).lang) (start : Nat) :
    (s ∈ r.lang ∧ (opt r).assign start s = r.assign start s) ∨ (s = [] ∧ (opt r).assign start s = []) := by
  by_cases hr : s ∈ r.lang
  · exact .inl ⟨hr, assign_alt_left eps hr start⟩
  · refine .inr ⟨(mem_opt.mp hs).resolve_left hr, ?_⟩
    rw [opt, assign, if_neg fun h => hr ((r.accepts_iff s).mp h), assign]

theorem assign_chr_seq [DecidableEq α] {c : α} (hs : s ∈ (seq (chr c) r).lang) (start : Nat) :
    ∃ b, s = c :: b ∧ b ∈ r.lang ∧ (seq (chr c) r).assign start s = r.assign (start + 1) b := by
  obtain ⟨a, b, rfl, ha, hb, hassign, -⟩ := assign_seq hs start
  obtain rfl := mem_chr.mp ha
  exact ⟨b, rfl, hb, hassign⟩

theorem assign_seq_chr [DecidableEq α] {c : α} (hs : s ∈ (seq r (chr c)).lang) (start : Nat) :
    ∃ a, s = a ++ [c] ∧ a ∈ r.lang ∧ (seq r (chr c)).assign start s = r.assign start a := by
  obtain ⟨a, b, rfl, ha, hb, hassign, -⟩ := assign_seq hs start
  obtain rfl := mem_chr.mp hb
  exact ⟨a, rfl, ha, hassign.trans (List.append_nil _)⟩

theorem capture_group {n : Nat} (hn : n ∉ r.groups) (start : Nat) (s : List α) :
    capture n ((group n r).assign start s) = some ⟨start, start + s.length⟩ := by
  rw [assign, capture, capture_assign_of_notMem hn, if_pos rfl, Option.none_or]

theorem capture_group_ne {n m : Nat} (hne : m ≠ n) (start : Nat) (s : List α) :
    capture n ((group m r).assign start s) = capture n (r.assign start s) := by
  rw [assign, capture, if_neg hne, Option.or_none]

/-- The longest beginning of the string that is in the language is matched. -/
theorem regexec_eq_some (hnil : [] ∈ r.lang) (s : List α) :
    ∃ m rest, m ++ rest = s ∧ m ∈ r.lang ∧ (∀ m' rest', m' ++ rest' = s → m' ∈ r.lang → m'.length ≤ m.length) ∧
      regexec r s = some fun n => (capture n ((0, ⟨0, m.length⟩) :: r.assign 0 m)).getD {} := by
  let ok := fun k => r.accepts (s.take k) = true
  let k := Nat.findGreatest ok s.length
  have hk : ok k := Nat.findGreatest_spec (Nat.zero_le _) ((r.accepts_iff _).mpr hnil)
  have hle : k ≤ s.length := Nat.findGreatest_le _
  refine ⟨s.take k, s.drop k, List.take_append_drop k s, (r.accepts_iff _).mp hk, ?_, ?_⟩
  · intro m rest hm hmem
    rw [List.length_take_of_le hle]
    by_contra hlt
    have hlength : m.length ≤ s.length := by
      rw [← hm, List.length_append]
      omega
    refine Nat.findGreatest_is_greatest (Nat.lt_of_not_le hlt) hlength ?_
    show r.accepts (s.take m.length) = true
    rw [← hm, List.take_left' rfl]
    exact (r.accepts_iff m).mpr hmem
  · rw [List.length_take_of_le hle]
    exact if_pos hk

/-! ### The search -/

/-- The longest match at the beginning of a string that begins at `start`. -/
def matchAt (r : Regex α) (start : Nat) (s : List α) : Option (Nat → Regmatch) :=
  let k := Nat.findGreatest (fun k => r.accepts (s.take k) = true) s.length
  if r.accepts (s.take k) then
    some fun n => (capture n ((0, ⟨start, start + k⟩) :: r.assign start (s.take k))).getD {}
  else none

/-- `regexec` with a pattern that is not anchored: the match begins as far left as it can. -/
def search (r : Regex α) : Nat → List α → Option (Nat → Regmatch)
  | start, [] => r.matchAt start []
  | start, c :: s =>
      match r.matchAt start (c :: s) with
      | some found => some found
      | none => r.search (start + 1) s

/-- Where the groups of a match lie that begins at `start`. -/
def ranges (r : Regex α) (start : Nat) (m : List α) (n : Nat) : Regmatch :=
  (capture n ((0, ⟨start, (start : Int) + m.length⟩) :: r.assign start m)).getD {}

theorem ranges_of_ne (r : Regex α) (start : Nat) (m : List α) {n : Nat} (hn : n ≠ 0) :
    r.ranges start m n = (capture n (r.assign start m)).getD {} := by
  rw [ranges, capture, if_neg (Ne.symm hn), Option.or_none]

theorem ranges_zero (hr : 0 ∉ r.groups) (start : Nat) (m : List α) : r.ranges start m 0 = ⟨start, (start : Int) + m.length⟩ := by
  rw [ranges, capture, capture_assign_of_notMem hr, if_pos rfl]
  rfl

theorem matchAt_cases (r : Regex α) (start : Nat) (s : List α) :
    (r.matchAt start s = none ∧ ∀ m rest, m ++ rest = s → m ∉ r.lang) ∨
      ∃ m rest, m ++ rest = s ∧ m ∈ r.lang ∧ r.matchAt start s = some (r.ranges start m) := by
  let ok := fun k => r.accepts (s.take k) = true
  let k := Nat.findGreatest ok s.length
  have hle : k ≤ s.length := Nat.findGreatest_le _
  by_cases hk : ok k
  · refine .inr ⟨s.take k, s.drop k, List.take_append_drop k s, (r.accepts_iff _).mp hk, ?_⟩
    unfold ranges
    rw [List.length_take_of_le hle]
    exact if_pos hk
  · refine .inl ⟨if_neg hk, ?_⟩
    rintro m rest rfl hm
    have hlength : m.length ≤ (m ++ rest).length := by
      rw [List.length_append]
      omega
    refine hk (Nat.findGreatest_spec hlength ?_)
    show r.accepts ((m ++ rest).take m.length) = true
    rw [List.take_left' rfl]
    exact (r.accepts_iff m).mpr hm

/-- A search finds a match that begins as far left as any, if there is one. -/
theorem search_cases (r : Regex α) (start : Nat) (s : List α) :
    (r.search start s = none ∧ ∀ before m rest, before ++ (m ++ rest) = s → m ∉ r.lang) ∨
      ∃ before m rest, before ++ (m ++ rest) = s ∧ m ∈ r.lang ∧
        (∀ before' m' rest', before' ++ (m' ++ rest') = s → m' ∈ r.lang → before.length ≤ before'.length) ∧
        r.search start s = some (r.ranges (start + before.length) m) := by
  induction s generalizing start with
  | nil =>
      rw [search]
      rcases r.matchAt_cases start [] with ⟨hnone, hall⟩ | ⟨m, rest, hm, hmem, hfound⟩
      · refine .inl ⟨hnone, fun before m rest h => hall m rest (List.append_eq_nil_iff.mp h).2⟩
      · exact .inr ⟨[], m, rest, hm, hmem, fun _ _ _ _ _ => Nat.zero_le _, hfound⟩
  | cons c s ih =>
      rw [search]
      rcases r.matchAt_cases start (c :: s) with ⟨hnone, hall⟩ | ⟨m, rest, hm, hmem, hfound⟩
      · rw [hnone]
        rcases ih (start + 1) with ⟨hrest, hnowhere⟩ | ⟨before, m, rest, hm, hmem, hleft, hfound⟩
        · refine .inl ⟨hrest, fun before m rest h => ?_⟩
          cases before with
          | nil => exact hall m rest h
          | cons b before => exact hnowhere before m rest (List.cons.inj h).2
        · refine .inr ⟨c :: before, m, rest, congrArg (c :: ·) hm, hmem, fun before' m' rest' h hmem' => ?_, ?_⟩
          · cases before' with
            | nil => exact absurd hmem' (hall m' rest' h)
            | cons b before' =>
                rw [List.length_cons, List.length_cons]
                exact Nat.succ_le_succ (hleft before' m' rest' (List.cons.inj h).2 hmem')
          · have hstart : start + (before.length + 1) = start + 1 + before.length := by omega
            rw [List.length_cons, hstart]
            exact hfound
      · rw [hfound]
        exact .inr ⟨[], m, rest, hm, hmem, fun _ _ _ _ _ => Nat.zero_le _, rfl⟩

end Regex

end Base
