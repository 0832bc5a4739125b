import Gfal2.GridFtpPasv

/-! What becomes of the replies for passive mode that servers write: an address and a port as six numbers between commas, or as an
address and a port between bars. -/

namespace Gfal2

open Base Regex

/-- Text without a character that delimits something in a reply. -/
structure PlainText where
  text : CString
  plain : ∀ c ∈ text, c ∉ lit "(),|"

/-- An IPv4 address and a port, in octets. -/
structure HostPort where
  h1 : Fin 256
  h2 : Fin 256
  h3 : Fin 256
  h4 : Fin 256
  p1 : Fin 256
  p2 : Fin 256

namespace HostPort

variable (host : HostPort)

def numbers : List CString :=
  [Nat.toDigits 10 host.h1, Nat.toDigits 10 host.h2, Nat.toDigits 10 host.h3, Nat.toDigits 10 host.h4,
    Nat.toDigits 10 host.p1, Nat.toDigits 10 host.p2]

/-- The text between the parentheses. -/
def text : CString := (lit ",").intercalate host.numbers

def address : PassiveAddress where
  ip := ipv4Text host.h1 host.h2 host.h3 host.h4
  port := host.p1 * 256 + host.p2

end HostPort

def numbersReply (code : CString) (before : PlainText) (host : HostPort) (after : PlainText) : CString :=
  code ++ before.text ++ lit "(" ++ (host.text ++ lit ")" ++ after.text)

/-! ### Texts that are taken apart -/

/-- Digits at the end of a text can be told from the whole where no digit is before them. -/
theorem append_inj_of_digits {a a' b b' : CString} (ha : StopsAt Char.isDigit a.reverse) (ha' : StopsAt Char.isDigit a'.reverse)
    (hb : ∀ c ∈ b, c.isDigit = true) (hb' : ∀ c ∈ b', c.isDigit = true) (h : a ++ b = a' ++ b') : a = a' ∧ b = b' := by
  have hreverse := congrArg List.reverse h
  rw [List.reverse_append, List.reverse_append] at hreverse
  obtain ⟨hleft, hright⟩ := append_inj_of_stopsAt (fun c hc => hb c (List.mem_reverse.mp hc))
    (fun c hc => hb' c (List.mem_reverse.mp hc)) ha ha' hreverse
  exact ⟨List.reverse_injective hright, List.reverse_injective hleft⟩

theorem stopsAt_reverse_append {s : CString} (hne : s ≠ []) (hs : ∀ c ∈ s, c.isDigit = false) (before : CString) :
    StopsAt Char.isDigit (before ++ s).reverse := by
  obtain ⟨c, rest, hreverse⟩ := List.exists_cons_of_ne_nil (mt List.reverse_eq_nil_iff.mp hne)
  have hc : c ∈ s := List.mem_reverse.mp (hreverse ▸ List.mem_cons_self)
  rw [List.reverse_append, hreverse]
  exact stopsAt_cons.mpr (hs c hc)

theorem notMem_of_isDigits {s : CString} {c : Char} (hs : isDigits s = true) (hc : c.isDigit = false) : c ∉ s := by
  intro hmem
  have := (isDigits_iff.mp hs).2 c hmem
  rw [hc] at this
  cases this

variable {parts : List CString}

theorem count_intercalate {d : Char} (hparts : ∀ p ∈ parts, d ∉ p) : ([d].intercalate parts).count d = parts.length - 1 := by
  induction parts with
  | nil => rfl
  | cons p parts ih =>
      obtain ⟨hp, hrest⟩ := List.forall_mem_cons.mp hparts
      cases parts with
      | nil =>
          rw [List.intercalate_singleton, List.count_eq_zero_of_not_mem hp]
          rfl
      | cons p' parts =>
          rw [List.intercalate_cons_cons, List.count_append, List.count_append, ih hrest, List.count_eq_zero_of_not_mem hp]
          simp
          omega

theorem notMem_intercalate {c d : Char} (hne : c ≠ d) (hparts : ∀ p ∈ parts, c ∉ p) : c ∉ [d].intercalate parts := by
  induction parts with
  | nil => exact List.not_mem_nil
  | cons p parts ih =>
      obtain ⟨hp, hrest⟩ := List.forall_mem_cons.mp hparts
      cases parts with
      | nil =>
          rw [List.intercalate_singleton]
          exact hp
      | cons p' parts =>
          rw [List.intercalate_cons_cons]
          simp only [List.mem_append, List.mem_singleton, not_or]
          exact ⟨⟨hp, hne⟩, ih hrest⟩

section Fields

variable {d : Char} {u u' w w' : CString}

/-- The first of the parts between separators, with what is before it, and the parts after it. -/
theorem first_field {p p' q q' : CString} {ps ps' : List CString} (hp : d ∉ u ++ p) (hp' : d ∉ u' ++ p')
    (h : u ++ ([d].intercalate (p :: q :: ps) ++ w) = u' ++ ([d].intercalate (p' :: q' :: ps') ++ w')) :
    u ++ p = u' ++ p' ∧ [d].intercalate (q :: ps) ++ w = [d].intercalate (q' :: ps') ++ w' := by
  rw [List.intercalate_cons_cons, List.intercalate_cons_cons] at h
  simp only [← List.append_assoc] at h
  simp only [List.append_assoc _ [d], List.append_assoc _ _ w, List.append_assoc _ _ w', List.singleton_append] at h
  have hclass : ∀ s : CString, d ∉ s → ∀ c ∈ s, (c != d) = true := fun s hs c hc => by simpa using ne_of_mem_of_not_mem hc hs
  obtain ⟨hfirst, hrest⟩ := append_inj_of_stopsAt (hclass _ hp) (hclass _ hp') (stopsAt_cons.mpr (by simp))
    (stopsAt_cons.mpr (by simp)) h
  exact ⟨hfirst, List.cons.inj hrest |>.2⟩

/-- From each of the parts on, both texts are the same. -/
theorem drop_fields {parts' : List CString} (hparts : ∀ p ∈ parts, d ∉ p) (hparts' : ∀ p ∈ parts', d ∉ p)
    (hlength : parts.length = parts'.length) (h : [d].intercalate parts ++ w = [d].intercalate parts' ++ w') {j : Nat}
    (hj : j < parts.length) : [d].intercalate (parts.drop j) ++ w = [d].intercalate (parts'.drop j) ++ w' := by
  induction j generalizing parts parts' with
  | zero => exact h
  | succ j ih =>
      obtain ⟨p, parts, rfl⟩ := List.exists_cons_of_length_pos (by omega : 0 < parts.length)
      obtain ⟨p', parts', rfl⟩ := List.exists_cons_of_length_pos (by omega : 0 < parts'.length)
      rw [List.length_cons] at hj hlength
      rw [List.length_cons] at hlength
      obtain ⟨q, parts, rfl⟩ := List.exists_cons_of_length_pos (by omega : 0 < parts.length)
      obtain ⟨q', parts', rfl⟩ := List.exists_cons_of_length_pos (by omega : 0 < parts'.length)
      obtain ⟨hp, hrest⟩ := List.forall_mem_cons.mp hparts
      obtain ⟨hp', hrest'⟩ := List.forall_mem_cons.mp hparts'
      have htail := (@first_field d [] [] w w' _ _ _ _ _ _ hp hp' h).2
      exact ih hrest hrest' (by omega) htail (by omega)

end Fields

/-! ### Numbers between commas -/

namespace HostPort

variable {host : HostPort}

theorem isDigits_of_mem_numbers {number : CString} (h : number ∈ host.numbers) : isDigits number = true := by
  simp only [numbers, List.mem_cons, List.not_mem_nil, or_false] at h
  rcases h with rfl | rfl | rfl | rfl | rfl | rfl <;> exact isDigits_toDigits _

end HostPort

theorem comma_notMem_of_isDigits {s : CString} (hs : isDigits s = true) : ',' ∉ s := notMem_of_isDigits hs (by decide)

/-- A number in front of a comma or of the last parenthesis. -/
theorem read_number (n : Fin 256) (more : List CString) (foot : CString) :
    toUInt32 (atol ((lit ",").intercalate (Nat.toDigits 10 n :: more) ++ ')' :: foot)) = n := by
  have hport : portOf (Nat.toDigits 10 n) = n := by
    have hlt := n.isLt
    rw [portOf, decimal, Nat.ofDigitChars_ten_toDigits]
    omega
  cases more with
  | nil =>
      rw [List.intercalate_singleton, toUInt32_atol_digits (isDigits_toDigits n) (stopsAt_cons.mpr (by decide)), hport]
  | cons next more =>
      rw [List.intercalate_cons_cons, List.append_assoc, List.append_assoc]
      exact (toUInt32_atol_digits (isDigits_toDigits n) (stopsAt_cons.mpr (by decide))).trans hport

variable {m rest : CString}

section NumbersReply

variable {code : CString} {before after : PlainText} {host : HostPort}

theorem numbersReply_eq : numbersReply code before host after =
    code ++ before.text ++ lit "(" ++ ([','].intercalate host.numbers ++ ')' :: after.text) := by
  rw [numbersReply, HostPort.text, List.append_assoc _ (lit ")")]
  rfl

/-- Numbers between commas that are in the reply are its numbers, where the first of them may lack digits. -/
theorem fields_of_numbersReply (hcode : ',' ∉ code) {u w p q : CString} (hlength : parts.length = 4)
    (hparts : ∀ part ∈ p :: q :: parts, isDigits part = true)
    (h : u ++ ([','].intercalate (p :: q :: parts) ++ w) = numbersReply code before host after) :
    u ++ p = code ++ before.text ++ lit "(" ++ Nat.toDigits 10 host.h1 ∧
      [','].intercalate (q :: parts) ++ w = [','].intercalate host.numbers.tail ++ ')' :: after.text := by
  have hcommas : ∀ part ∈ p :: q :: parts, ',' ∉ part := fun part hpart => comma_notMem_of_isDigits (hparts part hpart)
  have hcommas' : ∀ number ∈ host.numbers, ',' ∉ number :=
    fun number hnumber => comma_notMem_of_isDigits (HostPort.isDigits_of_mem_numbers hnumber)
  have hopen : ',' ∉ lit "(" := by decide
  have hbefore : ',' ∉ code ++ before.text ++ lit "(" := by
    have hplain : ',' ∉ before.text := fun h => before.plain ',' h (by decide)
    simp only [List.mem_append, not_or]
    exact ⟨⟨hcode, hplain⟩, hopen⟩
  have hafter : ',' ∉ ')' :: after.text := by
    have hplain : ',' ∉ after.text := fun h => after.plain ',' h (by decide)
    simp [hplain]
  rw [numbersReply_eq] at h
  -- the reply has no other commas
  have hu : ',' ∉ u := by
    have hfive : ([','].intercalate (p :: q :: parts)).count ',' = 5 := by
      rw [count_intercalate hcommas, List.length_cons, List.length_cons, hlength]
    have hfive' : ([','].intercalate host.numbers).count ',' = 5 := count_intercalate hcommas'
    have hcount := congrArg (List.count ',') h
    simp only [List.count_append, hfive, hfive', List.count_eq_zero_of_not_mem hafter] at hcount
    have hzero := List.count_eq_zero_of_not_mem hbefore
    simp only [List.count_append] at hzero
    exact List.count_eq_zero.mp (by omega)
  have hp : ',' ∉ u ++ p := by
    rw [List.mem_append]
    exact not_or.mpr ⟨hu, hcommas p List.mem_cons_self⟩
  have hp' : ',' ∉ code ++ before.text ++ lit "(" ++ Nat.toDigits 10 host.h1 := by
    rw [List.mem_append]
    exact not_or.mpr ⟨hbefore, comma_notMem_of_isDigits (isDigits_toDigits _)⟩
  exact first_field hp hp' h

/-- In a reply with six numbers, a match of numbers is a match of these, but that it may begin behind the first digit of the first. -/
theorem numbers_found {tail : Regex Char} (htail : tail.groups = []) (hcode : ',' ∉ code) {u : CString}
    (hm : m ∈ (numbersRegex tail [1, 2, 3, 4, 5, 6]).lang) (hresp : u ++ (m ++ rest) = numbersReply code before host after) :
    ∃ p more, m = p ++ more ∧ isDigits p = true ∧ u ++ p = code ++ before.text ++ lit "(" ++ Nat.toDigits 10 host.h1 ∧
      ∀ j < 6, (j = 0 → p = Nat.toDigits 10 host.h1) → ∃ k : Nat,
        ((capture (j + 1) ((numbersRegex tail [1, 2, 3, 4, 5, 6]).assign u.length m)).getD {}).rmSo = k ∧
          (numbersReply code before host after).drop k = [','].intercalate (host.numbers.drop j) ++ ')' :: after.text := by
  obtain ⟨parts, t, hlength, hmatch, -, hparts, hgroups⟩ :=
    assign_numbersRegex (by rw [htail]; decide) (List.cons_ne_nil _ _) hm u.length
  obtain ⟨p, parts, rfl⟩ := List.exists_cons_of_length_eq_add_one hlength
  obtain ⟨q, parts, rfl⟩ := List.exists_cons_of_length_eq_add_one (Nat.succ.inj hlength)
  have hfour : parts.length = 4 := by simpa using hlength
  have hjoin : u ++ ([','].intercalate (p :: q :: parts) ++ (t ++ rest)) = numbersReply code before host after := by
    rw [← hresp, hmatch, List.append_assoc]
    rfl
  obtain ⟨hfirst, hrest⟩ := fields_of_numbersReply hcode hfour hparts hjoin
  refine ⟨p, [','] ++ [','].intercalate (q :: parts) ++ t, ?_, hparts p List.mem_cons_self, hfirst, fun j hj hzero => ?_⟩
  · rw [hmatch, List.intercalate_cons_cons, List.append_assoc, List.append_assoc, List.append_assoc]
    rfl
  · obtain ⟨pre, range, hpre, hrange, hso⟩ := hgroups j hj
    have hid : ∀ i (hi : i < [1, 2, 3, 4, 5, 6].length), [1, 2, 3, 4, 5, 6][i] = i + 1 := by decide
    have hsame : [','].intercalate ((p :: q :: parts).drop j) ++ (t ++ rest) =
        [','].intercalate (host.numbers.drop j) ++ ')' :: after.text := by
      cases j with
      | zero =>
          have heq := hzero rfl
          have hnumbers : host.numbers = Nat.toDigits 10 host.h1 :: host.numbers.tail := rfl
          have hrest' : host.numbers.tail ≠ [] := List.cons_ne_nil _ _
          rw [List.drop_zero, List.drop_zero, hnumbers, List.intercalate_cons_cons, List.intercalate_cons_of_ne_nil hrest', heq,
            List.append_assoc, hrest]
          simp only [List.append_assoc]
      | succ j =>
          refine drop_fields (fun part hpart => comma_notMem_of_isDigits (hparts part (List.mem_cons_of_mem _ hpart)))
            (fun number hnumber => comma_notMem_of_isDigits (HostPort.isDigits_of_mem_numbers (List.mem_of_mem_tail hnumber)))
            ?_ hrest ?_
          · rw [List.length_cons, hfour]
            rfl
          · rw [List.length_cons, hfour]
            exact Nat.lt_of_succ_lt_succ hj
    refine ⟨u.length + pre.length, ?_, ?_⟩
    · rw [← hid j hj, hrange]
      exact hso
    · have hdrop : u ++ (m ++ rest) = u ++ pre ++ ([','].intercalate ((p :: q :: parts).drop j) ++ (t ++ rest)) := by
        conv_lhs => rw [hpre]
        simp only [List.append_assoc]
        rfl
      rw [← hresp, hdrop, List.drop_left' List.length_append, hsame]

/-- The value of a group that begins where one of the numbers does. -/
theorem numberAt_eq {resp foot : CString} {found : Nat → Regmatch} {n k : Nat} {value : Fin 256} {more : List CString}
    (hso : (found n).rmSo = k) (hdrop : resp.drop k = [','].intercalate (Nat.toDigits 10 value :: more) ++ ')' :: foot) :
    numberAt resp found n = value := by
  rw [numberAt, hso, Int.toNat_natCast, hdrop]
  exact read_number value more foot

theorem length_ipv4Text_le (a b c d : Fin 256) : (ipv4Text a b c d).length ≤ ipSize - 1 := by
  have hthree : ∀ n : Fin 256, (Nat.toDigits 10 n).length ≤ 3 := fun n =>
    (Nat.length_toDigits_le_iff (by decide) (by decide)).mpr (by omega)
  have := hthree a
  have := hthree b
  have := hthree c
  have := hthree d
  simp only [ipv4Text, List.intercalate_cons_cons, List.intercalate_singleton, List.length_append]
  show _ ≤ 64
  have hdot : (lit ".").length = 1 := rfl
  omega

/-- What is read from six groups that have numbers. -/
theorem readIpv4_eq {resp : CString} {found : Nat → Regmatch} {first : Nat} {a b c d e f : Fin 256}
    (h0 : numberAt resp found first = a) (h1 : numberAt resp found (first + 1) = b) (h2 : numberAt resp found (first + 2) = c)
    (h3 : numberAt resp found (first + 3) = d) (h4 : numberAt resp found (first + 4) = e)
    (h5 : numberAt resp found (first + 5) = f) :
    readIpv4 resp found first = (HostPort.mk a b c d e f).address := by
  have hport : (e.1 * 256 + f.1) % 2 ^ 32 = e.1 * 256 + f.1 := by omega
  rw [readIpv4, h0, h1, h2, h3, h4, h5, List.take_of_length_le (length_ipv4Text_le a b c d), hport]
  rfl

/-! ### The reply with code 227 -/

/-- `(host)` after some text, with code 227. -/
abbrev reply227 (before : PlainText) (host : HostPort) (after : PlainText) : CString := numbersReply (lit "227 ") before host after

theorem groups_closing : (Regex.opt (.chr ')')).groups = [] := rfl

/-- The expression for six numbers, with the parenthesis that may close them. -/
abbrev sixNumbers : Regex Char := numbersRegex (.opt (.chr ')')) [1, 2, 3, 4, 5, 6]

/-- A match with code 227: its code, text without digits, and the numbers, where the groups are. -/
theorem pasvRegex_match (hm : m ∈ pasvRegex.lang) (start : Nat) :
    ∃ x mid paren nums, (x = '1' ∨ x = '2') ∧ mid ≠ [] ∧ (∀ c ∈ mid, beforeNumbers c = true) ∧
      (paren = [] ∨ paren = ['(']) ∧ nums ∈ sixNumbers.lang ∧ m = x :: '2' :: '7' :: ' ' :: (mid ++ paren) ++ nums ∧
      ∀ n, capture n (pasvRegex.assign start m) =
        capture n (sixNumbers.assign (start + (x :: '2' :: '7' :: ' ' :: (mid ++ paren)).length) nums) := by
  obtain ⟨a, b, rfl, ha, hb, hassign, -⟩ := assign_seq hm start
  obtain ⟨x, hx, rfl⟩ := mem_cls.mp ha
  obtain ⟨c, rfl, hc, hassign₁⟩ := assign_chr_seq hb (start + 1)
  obtain ⟨d, rfl, hd, hassign₂⟩ := assign_chr_seq hc (start + 1 + 1)
  obtain ⟨e, rfl, he, hassign₃⟩ := assign_chr_seq hd (start + 1 + 1 + 1)
  obtain ⟨mid, f, rfl, hmid, hf, hassign₄, -⟩ := assign_seq he (start + 1 + 1 + 1 + 1)
  obtain ⟨paren, nums, rfl, hparen, hnums, hassign₅, -⟩ := assign_seq hf (start + 1 + 1 + 1 + 1 + mid.length)
  obtain ⟨hne, hall⟩ := mem_plus_cls.mp hmid
  refine ⟨x, mid, paren, nums, by simpa using hx, hne, hall, ?_, hnums, ?_, fun n => ?_⟩
  · exact (mem_opt.mp hparen).symm.imp_right fun h => mem_chr.mp h
  · simp only [List.cons_append, List.nil_append, List.append_assoc]
  · have hstart : start + 1 + 1 + 1 + 1 + mid.length + paren.length =
        start + (x :: '2' :: '7' :: ' ' :: (mid ++ paren)).length := by
      simp only [List.length_cons, List.length_append]
      omega
    have hmidgroups : n ∉ (Regex.plus (.cls beforeNumbers)).groups := List.not_mem_nil
    have hparengroups : n ∉ (Regex.opt (.chr '(')).groups := List.not_mem_nil
    rw [pasvRegex, hassign]
    show capture n (_ ++ _) = _
    rw [capture_append, List.length_singleton, hassign₁, hassign₂, hassign₃, hassign₄, capture_append, hassign₅,
      capture_append, capture_assign_of_notMem hmidgroups, capture_assign_of_notMem hparengroups, Option.or_none,
      Option.or_none, hstart]
    exact Option.or_none

theorem isDigit_of_beforeNumbers {c : Char} (hc : beforeNumbers c = true) : c.isDigit = false := by
  simpa using (Bool.and_eq_true_iff.mp hc).2

/-- In a reply with code 227, the numbers that are matched are all of the reply. -/
theorem pasv_found {u : CString} (hm : m ∈ pasvRegex.lang) (hresp : u ++ (m ++ rest) = reply227 before host after) :
    (∃ x mid, lit "227 " ++ before.text = u ++ x :: '2' :: '7' :: ' ' :: mid ∧ (x = '1' ∨ x = '2') ∧
      ∀ c ∈ mid, beforeNumbers c = true) ∧
      readIpv4 (reply227 before host after) (pasvRegex.ranges u.length m) 1 = host.address := by
  obtain ⟨x, mid, paren, nums, hx, hne, hall, hparen, hnums, rfl, hgroups⟩ := pasvRegex_match hm u.length
  have hbefore : ∀ c ∈ mid ++ paren, beforeNumbers c = true := by
    refine List.forall_mem_append.mpr ⟨hall, fun c hc => ?_⟩
    rcases hparen with rfl | rfl
    · cases hc
    · rw [List.mem_singleton.mp hc]
      rfl
  have hne' : mid ++ paren ≠ [] := List.append_ne_nil_of_left_ne_nil hne paren
  have hcode : ',' ∉ lit "227 " := by decide
  have hsplit : u ++ (x :: '2' :: '7' :: ' ' :: (mid ++ paren)) ++ (nums ++ rest) = reply227 before host after := by
    rw [← hresp]
    simp only [List.append_assoc, List.cons_append]
  obtain ⟨p, more, hp, hdigits, hfirst, hfields⟩ := numbers_found groups_closing hcode hnums hsplit
  have hstop : StopsAt Char.isDigit (u ++ (x :: '2' :: '7' :: ' ' :: (mid ++ paren))).reverse := by
    have hjoin : u ++ (x :: '2' :: '7' :: ' ' :: (mid ++ paren)) = u ++ [x, '2', '7', ' '] ++ (mid ++ paren) := by
      rw [List.append_assoc]
      rfl
    rw [hjoin]
    exact stopsAt_reverse_append hne' (fun c hc => isDigit_of_beforeNumbers (hbefore c hc)) _
  have hopen : StopsAt Char.isDigit (lit "227 " ++ before.text ++ lit "(").reverse :=
    stopsAt_reverse_append (List.cons_ne_nil _ _) (by decide) _
  obtain ⟨hleft, hnumber⟩ := append_inj_of_digits hstop hopen (isDigits_iff.mp hdigits).2
    (isDigits_iff.mp (isDigits_toDigits _)).2 hfirst
  constructor
  · -- the last character before the numbers is the parenthesis
    refine ⟨x, (mid ++ paren).dropLast, ?_, hx, fun c hc => hbefore c (List.mem_of_mem_dropLast hc)⟩
    have hlast : u ++ (x :: '2' :: '7' :: ' ' :: (mid ++ paren)) =
        u ++ (x :: '2' :: '7' :: ' ' :: (mid ++ paren).dropLast) ++ [(mid ++ paren).getLast hne'] := by
      conv_lhs => rw [← List.dropLast_append_getLast hne']
      simp only [List.append_assoc, List.cons_append]
    rw [hlast] at hleft
    exact (List.append_inj' hleft rfl).1.symm
  · let found := pasvRegex.ranges u.length (x :: '2' :: '7' :: ' ' :: (mid ++ paren) ++ nums)
    have hnumber : ∀ n, n < 6 → ∃ k : Nat, (found (n + 1)).rmSo = k ∧
        (reply227 before host after).drop k = [','].intercalate (host.numbers.drop n) ++ ')' :: after.text := by
      intro n hn
      obtain ⟨k, hso, hdrop⟩ := hfields n hn fun _ => hnumber
      refine ⟨k, ?_, hdrop⟩
      have hrange := ranges_of_ne pasvRegex u.length (x :: '2' :: '7' :: ' ' :: (mid ++ paren) ++ nums) (Nat.succ_ne_zero n)
      rw [hgroups, ← List.length_append] at hrange
      exact (congrArg Regmatch.rmSo hrange).trans hso
    have hvalue : ∀ n, n < 6 → ∀ (value : Fin 256) more, host.numbers.drop n = Nat.toDigits 10 value :: more →
        numberAt (reply227 before host after) found (n + 1) = value := by
      intro n hn value more hdrop
      obtain ⟨k, hso, hrest⟩ := hnumber n hn
      rw [hdrop] at hrest
      exact numberAt_eq hso hrest
    exact readIpv4_eq (hvalue 0 (by decide) _ _ rfl) (hvalue 1 (by decide) _ _ rfl) (hvalue 2 (by decide) _ _ rfl)
      (hvalue 3 (by decide) _ _ rfl) (hvalue 4 (by decide) _ _ rfl) (hvalue 5 (by decide) _ _ rfl)

/-- The text before the numbers can be read: behind some `127 ` or `227 ` there is neither a digit nor an opening bracket. -/
def ReadsBefore (before : PlainText) : Prop :=
  ∃ u x mid, lit "227 " ++ before.text = u ++ x :: '2' :: '7' :: ' ' :: mid ∧ (x = '1' ∨ x = '2') ∧
    ∀ c ∈ mid, beforeNumbers c = true

theorem parse27_reply_iff : parse27 (reply227 before host after) = some host.address ↔ ReadsBefore before := by
  unfold parse27
  rcases pasvRegex.search_cases 0 (reply227 before host after) with ⟨hnone, hnowhere⟩ | ⟨u, m, rest, hresp, hm, -, hfound⟩
  · rw [hnone, Option.map_none]
    refine iff_of_false (by simp) ?_
    rintro ⟨u, x, mid, hsplit, hx, hmid⟩
    -- the parenthesis goes with the text, and the numbers match up to the other one
    have hnumbers : [','].intercalate host.numbers ++ lit ")" ∈ sixNumbers.lang :=
      mem_numbersRegex rfl (fun _ => HostPort.isDigits_of_mem_numbers) (mem_opt.mpr (.inl (mem_chr.mpr rfl)))
    have hopen : mid ++ lit "(" ∈ (Regex.plus (.cls beforeNumbers)).lang := by
      refine mem_plus_cls.mpr ⟨by simp, List.forall_mem_append.mpr ⟨hmid, ?_⟩⟩
      decide
    have hmatch : [x] ++ (['2'] ++ (['7'] ++ ([' '] ++ (mid ++ lit "(" ++ ([] ++ ([','].intercalate host.numbers ++ lit ")")))))) ∈
        pasvRegex.lang :=
      append_mem_seq (mem_cls.mpr ⟨x, by simpa using hx, rfl⟩) (append_mem_seq (mem_chr.mpr rfl) (append_mem_seq (mem_chr.mpr rfl)
        (append_mem_seq (mem_chr.mpr rfl) (append_mem_seq hopen (append_mem_seq (nil_mem_opt _) hnumbers)))))
    refine hnowhere u _ after.text ?_ hmatch
    show _ = numbersReply (lit "227 ") before host after
    rw [numbersReply_eq, hsplit]
    simp only [List.append_assoc, List.cons_append, List.nil_append]
    rfl
  · obtain ⟨hreads, hread⟩ := pasv_found hm hresp
    rw [hfound, Option.map_some, Nat.zero_add, hread]
    exact iff_of_true rfl ⟨u, hreads⟩

/-! ### The reply with code 229 and numbers -/

abbrev reply229 (before : PlainText) (host : HostPort) (after : PlainText) : CString := numbersReply (lit "229 ") before host after

theorem bar_notMem_numbersReply (hcode : '|' ∉ code) : '|' ∉ numbersReply code before host after := by
  have hbefore : '|' ∉ before.text := fun h => before.plain '|' h (by decide)
  have hafter : '|' ∉ after.text := fun h => after.plain '|' h (by decide)
  have hopen : '|' ∉ lit "(" := by decide
  have hnumbers : '|' ∉ [','].intercalate host.numbers :=
    notMem_intercalate (by decide) fun number h => notMem_of_isDigits (HostPort.isDigits_of_mem_numbers h) (by decide)
  rw [numbersReply_eq]
  simp only [List.mem_append, List.mem_cons, not_or]
  exact ⟨⟨⟨hcode, hbefore⟩, hopen⟩, hnumbers, by decide, hafter⟩

/-- There are no bars in such a reply. -/
theorem parse29Ipv6_numbersReply : parse29Ipv6 (reply229 before host after) = none := by
  unfold parse29Ipv6
  rcases barsRegex.search_cases 0 (reply229 before host after) with ⟨hnone, -⟩ | ⟨u, m, rest, hresp, hm, -, -⟩
  · rw [hnone, Option.map_none]
  · obtain ⟨a, ha, b, -, rfl⟩ := mem_seq.mp hm
    obtain rfl := mem_chr.mp ha
    have hbar : '|' ∈ reply229 before host after := by
      rw [← hresp]
      simp
    exact absurd hbar (bar_notMem_numbersReply (by decide))

/-- The leftmost match of numbers begins where the numbers do. -/
theorem commas_found {u : CString} (hm : m ∈ commasRegex.lang) (hresp : u ++ (m ++ rest) = reply229 before host after)
    (hleft : u.length ≤ (lit "229 " ++ before.text ++ lit "(").length) {n : Nat} (hn : n < 6) :
    (∃ k : Nat, (commasRegex.ranges u.length m (n + 1)).rmSo = k ∧
      (reply229 before host after).drop k = [','].intercalate (host.numbers.drop n) ++ ')' :: after.text) ∧
      u = lit "229 " ++ before.text ++ lit "(" := by
  obtain ⟨p, more, -, hdigits, hfirst, hfields⟩ := numbers_found rfl (by decide) hm hresp
  obtain ⟨d, hd⟩ : u <+: lit "229 " ++ before.text ++ lit "(" :=
    List.prefix_of_prefix_length_le (hfirst ▸ List.prefix_append u p) (List.prefix_append _ _) hleft
  have hp : p = d ++ Nat.toDigits 10 host.h1 := by
    rw [← hd, List.append_assoc] at hfirst
    exact List.append_cancel_left hfirst
  have hnil : d = [] := by
    rcases List.eq_nil_or_concat d with hnil | ⟨init, c, rfl⟩
    · exact hnil
    · rw [List.concat_eq_append, ← List.append_assoc] at hd
      obtain ⟨-, hlast⟩ := List.append_inj' hd rfl
      have hc : c ∈ p := by
        rw [hp, List.concat_eq_append]
        simp
      have hdigit := (isDigits_iff.mp hdigits).2 c hc
      obtain rfl : c = '(' := (List.cons.inj hlast).1
      cases hdigit
  rw [hnil, List.append_nil] at hd
  rw [hnil, List.nil_append] at hp
  refine ⟨?_, hd⟩
  rw [ranges_of_ne _ _ _ (Nat.succ_ne_zero n)]
  exact hfields n hn fun _ => hp

/-- The groups are counted from the whole match on, so that the first number is read twice and the last not at all. -/
theorem parse29Ipv4_numbersReply : parse29Ipv4 (reply229 before host after) =
      some (HostPort.mk host.h1 host.h1 host.h2 host.h3 host.h4 host.p1).address := by
  have hresp : lit "229 " ++ before.text ++ lit "(" ++ ([','].intercalate host.numbers ++ [] ++ ')' :: after.text) =
      reply229 before host after := by
    rw [List.append_nil]
    exact numbersReply_eq.symm
  have hmatch : [','].intercalate host.numbers ++ [] ∈ commasRegex.lang :=
    mem_numbersRegex rfl (fun _ => HostPort.isDigits_of_mem_numbers) rfl
  unfold parse29Ipv4
  rcases commasRegex.search_cases 0 (reply229 before host after) with
    ⟨-, hnowhere⟩ | ⟨u, m, rest, hsplit, hm, hleftmost, hfound⟩
  · exact absurd hmatch (hnowhere _ _ _ hresp)
  · have hleft := hleftmost _ _ _ hresp hmatch
    have hvalue : ∀ n, n < 6 → ∀ (value : Fin 256) more, host.numbers.drop n = Nat.toDigits 10 value :: more →
        numberAt (reply229 before host after) (commasRegex.ranges u.length m) (n + 1) = value := by
      intro n hn value more hdrop
      obtain ⟨⟨k, hso, hrest⟩, -⟩ := commas_found hm hsplit hleft hn
      rw [hdrop] at hrest
      exact numberAt_eq hso hrest
    have hwhole : numberAt (reply229 before host after) (commasRegex.ranges u.length m) 0 = host.h1 := by
      have hu := (commas_found hm hsplit hleft (show 0 < 6 by decide)).2
      have hso : (commasRegex.ranges u.length m 0).rmSo = (u.length : Nat) := by
        rw [ranges_zero (by decide)]
      have hdrop : (reply229 before host after).drop u.length = [','].intercalate host.numbers ++ ')' :: after.text := by
        rw [← hresp, hu, List.drop_left' rfl, List.append_nil]
      exact numberAt_eq hso hdrop
    rw [hfound, Option.map_some, Nat.zero_add]
    exact congrArg some (readIpv4_eq hwhole (hvalue 0 (by decide) _ _ rfl) (hvalue 1 (by decide) _ _ rfl)
      (hvalue 2 (by decide) _ _ rfl) (hvalue 3 (by decide) _ _ rfl) (hvalue 4 (by decide) _ _ rfl))

theorem ipv4Text_injective {a b c d a' b' c' d' : Fin 256} (h : ipv4Text a b c d = ipv4Text a' b' c' d') :
    a = a' ∧ b = b' ∧ c = c' ∧ d = d' := by
  have hdigits : ∀ x y z w : Fin 256, ∀ p ∈ [Nat.toDigits 10 x.1, Nat.toDigits 10 y.1, Nat.toDigits 10 z.1, Nat.toDigits 10 w.1],
      '.' ∉ p := by
    intro x y z w p hp
    simp only [List.mem_cons, List.not_mem_nil, or_false] at hp
    rcases hp with rfl | rfl | rfl | rfl <;> exact notMem_of_isDigits (isDigits_toDigits _) (by decide)
  have hvalue : ∀ x y : Fin 256, Nat.toDigits 10 x.1 = Nat.toDigits 10 y.1 → x = y := by
    intro x y hxy
    have hread := congrArg (Nat.ofDigitChars 10 · 0) hxy
    simp only [Nat.ofDigitChars_ten_toDigits] at hread
    exact Fin.ext hread
  have hparts := congrArg (List.splitOn '.') h
  rw [ipv4Text, ipv4Text] at hparts
  have hsplit := List.splitOn_intercalate '.' (hdigits a b c d) (List.cons_ne_nil _ _)
  have hsplit' := List.splitOn_intercalate '.' (hdigits a' b' c' d') (List.cons_ne_nil _ _)
  have hlists := hsplit.symm.trans (hparts.trans hsplit')
  simp only [List.cons.injEq, and_true] at hlists
  exact ⟨hvalue _ _ hlists.1, hvalue _ _ hlists.2.1, hvalue _ _ hlists.2.2.1, hvalue _ _ hlists.2.2.2⟩

/-- The reply is read as what it says only if all its numbers are the same. -/
theorem parse29_numbersReply_iff : parse29 (reply229 before host after) = some host.address ↔
      host.h1 = host.h2 ∧ host.h2 = host.h3 ∧ host.h3 = host.h4 ∧ host.h4 = host.p1 ∧ host.p1 = host.p2 := by
  rw [parse29, parse29Ipv6_numbersReply, Option.none_or, parse29Ipv4_numbersReply, Option.some.injEq]
  constructor
  · intro h
    obtain ⟨-, h12, h23, h34⟩ := ipv4Text_injective (congrArg PassiveAddress.ip h)
    have hport : host.h4.1 * 256 + host.p1.1 = host.p1.1 * 256 + host.p2.1 := congrArg PassiveAddress.port h
    exact ⟨h12, h23, h34, Fin.ext (by omega), Fin.ext (by omega)⟩
  · rintro ⟨h12, h23, h34, h45, h56⟩
    simp only [HostPort.address, h12, h23, h34, h45, h56]

end NumbersReply

/-! ### The reply with code 229 and bars -/

/-- A reply that names a protocol, an address and a port. The protocol and the address may be empty. -/
structure BarsReply where
  before : PlainText
  proto : CString
  address : CString
  port : Fin 65536
  after : PlainText
  proto_digits : ∀ c ∈ proto, c.isDigit = true
  bar_notMem_address : '|' ∉ address

namespace BarsReply

variable (reply : BarsReply)

def fields : List CString :=
  [lit "229 " ++ reply.before.text ++ lit "(", reply.proto, reply.address, Nat.toDigits 10 reply.port, lit ")" ++ reply.after.text]

def text : CString := ['|'].intercalate reply.fields

/-- Whether the protocol is taken for the one of IPv6. -/
def isIpv6 : Bool := decide (longToInt (min (2 ^ 63 - 1) (decimal reply.proto) : Nat) = 2)

theorem bar_notMem_fields : ∀ field ∈ reply.fields, '|' ∉ field := by
  have hbefore : '|' ∉ reply.before.text := fun h => reply.before.plain '|' h (by decide)
  have hafter : '|' ∉ reply.after.text := fun h => reply.after.plain '|' h (by decide)
  have hcode : '|' ∉ lit "229 " := by decide
  have hopen : '|' ∉ lit "(" := by decide
  have hclose : '|' ∉ lit ")" := by decide
  have hproto : '|' ∉ reply.proto := fun h => absurd (reply.proto_digits '|' h) (by decide)
  have hport : '|' ∉ Nat.toDigits 10 reply.port := notMem_of_isDigits (isDigits_toDigits _) (by decide)
  have haddress := reply.bar_notMem_address
  simp only [fields, List.forall_mem_cons, List.mem_append, not_or]
  exact ⟨⟨⟨hcode, hbefore⟩, hopen⟩, hproto, haddress, hport, ⟨hclose, hafter⟩, by simp⟩

end BarsReply

/-- A match between bars, and where its groups are. -/
theorem barsRegex_match (hm : m ∈ barsRegex.lang) (start : Nat) :
    ∃ n a p, (∀ c ∈ n, c.isDigit = true) ∧ '|' ∉ a ∧ isDigits p = true ∧
      m = '|' :: (n ++ '|' :: (a ++ '|' :: (p ++ ['|']))) ∧
      capture 1 (barsRegex.assign start m) = some ⟨(start + 1 : Nat), (start + 1 : Nat) + n.length⟩ ∧
      capture 2 (barsRegex.assign start m) =
        some ⟨(start + 1 + n.length + 1 : Nat), (start + 1 + n.length + 1 : Nat) + a.length⟩ ∧
      capture 3 (barsRegex.assign start m) = some ⟨(start + 1 + n.length + 1 + a.length + 1 : Nat),
        (start + 1 + n.length + 1 + a.length + 1 : Nat) + p.length⟩ := by
  obtain ⟨b, rfl, hb, hassign⟩ := assign_chr_seq hm start
  obtain ⟨n, c, rfl, hn, hc, hassign₁, -⟩ := assign_seq hb (start + 1)
  obtain ⟨d, rfl, hd, hassign₂⟩ := assign_chr_seq hc (start + 1 + n.length)
  obtain ⟨a, e, rfl, ha, he, hassign₃, -⟩ := assign_seq hd (start + 1 + n.length + 1)
  obtain ⟨f, rfl, hf, hassign₄⟩ := assign_chr_seq he (start + 1 + n.length + 1 + a.length)
  obtain ⟨p, rfl, hp, hassign₅⟩ := assign_seq_chr hf (start + 1 + n.length + 1 + a.length + 1)
  have hdigits : ∀ k, k ∉ (Regex.star (.cls Char.isDigit)).groups := fun _ => List.not_mem_nil
  have hbars : ∀ k, k ∉ (Regex.star (.cls (noneOf (lit "|")))).groups := fun _ => List.not_mem_nil
  have hnumber : ∀ k, k ∉ (Regex.plus (.cls Char.isDigit)).groups := fun _ => List.not_mem_nil
  refine ⟨n, a, p, mem_star_cls.mp hn, ?_, isDigits_iff.mpr (mem_plus_cls.mp hp), rfl, ?_, ?_, ?_⟩
  · intro hmem
    have := noneOf_eq_true.mp (mem_star_cls.mp ha '|' hmem)
    exact this (by decide)
  · rw [barsRegex, hassign, hassign₁, hassign₂, hassign₃, hassign₄, hassign₅, capture_append, capture_append, numberRegex,
      capture_group_ne (by decide), capture_assign_of_notMem (hnumber 1), capture_group_ne (by decide),
      capture_assign_of_notMem (hbars 1), Option.none_or, Option.none_or]
    exact capture_group (hdigits 1) _ n
  · rw [barsRegex, hassign, hassign₁, hassign₂, hassign₃, hassign₄, hassign₅, capture_append, capture_append, numberRegex,
      capture_group_ne (by decide), capture_assign_of_notMem (hnumber 2), capture_group (hbars 2)]
    rfl
  · rw [barsRegex, hassign, hassign₁, hassign₂, hassign₃, hassign₄, hassign₅, capture_append, capture_append, numberRegex,
      capture_group (hnumber 3)]
    rfl

namespace BarsReply

variable {reply : BarsReply}

/-- The fields of a match are those of the reply, as there are no more bars in it. -/
theorem fields_of_match {u n a p : CString} (hn : ∀ c ∈ n, c.isDigit = true) (ha : '|' ∉ a) (hp : isDigits p = true)
    (h : u ++ ('|' :: (n ++ '|' :: (a ++ '|' :: (p ++ ['|']))) ++ rest) = reply.text) : [u, n, a, p, rest] = reply.fields := by
  have hn' : '|' ∉ n := fun hmem => absurd (hn '|' hmem) (by decide)
  have hp' : '|' ∉ p := notMem_of_isDigits hp (by decide)
  have hcount := congrArg (List.count '|') h
  rw [text, count_intercalate reply.bar_notMem_fields] at hcount
  simp only [List.count_append, List.count_cons_self, List.count_nil, List.count_eq_zero_of_not_mem hn',
    List.count_eq_zero_of_not_mem ha, List.count_eq_zero_of_not_mem hp', fields, List.length_cons, List.length_nil] at hcount
  have hu : '|' ∉ u := List.count_eq_zero.mp (by omega)
  have hrest : '|' ∉ rest := List.count_eq_zero.mp (by omega)
  have hall : ∀ field ∈ [u, n, a, p, rest], '|' ∉ field := by
    simp only [List.forall_mem_cons]
    exact ⟨hu, hn', ha, hp', hrest, by simp⟩
  have hjoin : ['|'].intercalate [u, n, a, p, rest] = ['|'].intercalate reply.fields := by
    rw [← text, ← h]
    simp only [List.intercalate_cons_cons, List.intercalate_singleton, List.append_assoc, List.cons_append, List.nil_append]
  have hsplit := congrArg (List.splitOn '|') hjoin
  rwa [List.splitOn_intercalate '|' hall (List.cons_ne_nil _ _),
    List.splitOn_intercalate '|' reply.bar_notMem_fields (List.cons_ne_nil _ _)] at hsplit

theorem text_eq : reply.text = lit "229 " ++ reply.before.text ++ lit "(" ++ '|' :: (reply.proto ++ '|' :: (reply.address ++ '|' ::
    (Nat.toDigits 10 reply.port ++ '|' :: (lit ")" ++ reply.after.text)))) := by
  rw [text, fields]
  simp only [List.intercalate_cons_cons, List.intercalate_singleton, List.append_assoc, List.cons_append, List.nil_append]

theorem proto_reads (more : CString) :
    decide (reply.proto.length ≠ 0 ∧ longToInt (atol (reply.proto ++ '|' :: more)) = 2) = reply.isIpv6 := by
  by_cases hempty : reply.proto = []
  · have hzero : longToInt (min (2 ^ 63 - 1) (decimal []) : Nat) = 0 := by decide
    rw [isIpv6, hempty, hzero]
    rfl
  · have hdigits : isDigits reply.proto = true := isDigits_iff.mpr ⟨hempty, reply.proto_digits⟩
    have hlength : reply.proto.length ≠ 0 := fun h => hempty (List.length_eq_zero_iff.mp h)
    rw [atol_digits hdigits (stopsAt_cons.mpr (by decide)), isIpv6]
    simp only [hlength, ne_eq, not_false_eq_true, true_and]

theorem mem_barsRegex (reply : BarsReply) :
    '|' :: (reply.proto ++ '|' :: (reply.address ++ '|' :: (Nat.toDigits 10 reply.port ++ ['|']))) ∈ barsRegex.lang := by
  have haddress : ∀ c ∈ reply.address, noneOf (lit "|") c = true := by
    intro c hc
    refine noneOf_eq_true.mpr fun hbar => ?_
    obtain rfl : c = '|' := List.mem_singleton.mp hbar
    exact reply.bar_notMem_address hc
  exact append_mem_seq (mem_chr.mpr rfl) (append_mem_seq (mem_star_cls.mpr reply.proto_digits) (append_mem_seq (mem_chr.mpr rfl)
    (append_mem_seq (mem_star_cls.mpr haddress) (append_mem_seq (mem_chr.mpr rfl) (append_mem_seq
      (mem_plus_cls.mpr (isDigits_iff.mp (isDigits_toDigits _))) (mem_chr.mpr rfl))))))

/-- The address is put into the array as if nothing came after it. -/
theorem barsIp_append (isIpv6 : Bool) (address more : CString) :
    barsIp isIpv6 (address ++ more) address.length = barsIp isIpv6 address address.length := by
  unfold barsIp
  rw [List.take_append_of_le_length (Nat.min_le_left _ _),
    List.take_append_of_le_length ((Nat.sub_le _ _).trans (Nat.min_le_left _ _))]

theorem read_port (n : Fin 65536) (more : CString) : toUInt32 (atol (Nat.toDigits 10 n ++ '|' :: more)) = n := by
  have hlt := n.isLt
  rw [toUInt32_atol_digits (isDigits_toDigits n) (stopsAt_cons.mpr (by decide)), portOf, decimal, Nat.ofDigitChars_ten_toDigits]
  omega

/-- What the reply is read as. -/
theorem parse29_text :
    parse29 reply.text = some ⟨barsIp reply.isIpv6 reply.address reply.address.length, reply.port, reply.isIpv6⟩ := by
  rw [parse29, parse29Ipv6]
  rcases barsRegex.search_cases 0 reply.text with ⟨-, hnowhere⟩ | ⟨u, m, rest, hsplit, hm, -, hfound⟩
  · refine absurd (mem_barsRegex reply) (hnowhere (lit "229 " ++ reply.before.text ++ lit "(") _ (lit ")" ++ reply.after.text) ?_)
    rw [text_eq]
    simp only [List.append_assoc, List.cons_append, List.nil_append]
  · obtain ⟨n, a, p, hn, ha, hp, rfl, h1, h2, h3⟩ := barsRegex_match hm u.length
    have hfields := fields_of_match hn ha hp hsplit
    simp only [fields, List.cons.injEq, and_true] at hfields
    obtain ⟨-, rfl, rfl, rfl, -⟩ := hfields
    -- what is read from each group on
    let afterAddress := '|' :: (Nat.toDigits 10 reply.port ++ '|' :: rest)
    have hd1 : reply.text.drop (u.length + 1) = reply.proto ++ '|' :: (reply.address ++ afterAddress) := by
      have hjoin : reply.text = u ++ ['|'] ++ (reply.proto ++ '|' :: (reply.address ++ afterAddress)) := by
        rw [← hsplit]
        simp only [List.append_assoc, List.cons_append, List.nil_append, afterAddress]
      rw [hjoin, List.drop_left' (by rw [List.length_append, List.length_singleton])]
    have hd2 : reply.text.drop (u.length + 1 + reply.proto.length + 1) = reply.address ++ afterAddress := by
      rw [Nat.add_assoc, ← List.drop_drop, hd1, List.append_cons,
        List.drop_left' (by rw [List.length_append, List.length_singleton])]
    have hd3 : reply.text.drop (u.length + 1 + reply.proto.length + 1 + reply.address.length + 1) =
        Nat.toDigits 10 reply.port ++ '|' :: rest := by
      rw [Nat.add_assoc _ reply.address.length, ← List.drop_drop, hd2, List.append_cons,
        List.drop_left' (by rw [List.length_append, List.length_singleton])]
    have hlength : ∀ k l : Nat, ((k : Int) + l - k).toNat = l := by omega
    have hproto : ∀ k : Nat, ((k : Int) + reply.proto.length ≠ k) = (reply.proto.length ≠ 0) := fun k => propext (by omega)
    rw [hfound, Option.map_some, Option.some_or, Nat.zero_add]
    simp only [numberAt, ranges_of_ne _ _ _ (show 1 ≠ 0 by decide), ranges_of_ne _ _ _ (show 2 ≠ 0 by decide),
      ranges_of_ne _ _ _ (show 3 ≠ 0 by decide), h1, h2, h3, Option.getD_some, Int.toNat_natCast, hd1, hd2, hd3, hlength, hproto,
      proto_reads, barsIp_append, read_port]

/-- The address and the port as they are, but that brackets stand around an IPv6 address. -/
def decoded (reply : BarsReply) : PassiveAddress where
  ip := if reply.isIpv6 ∧ reply.address ≠ [] then lit "[" ++ reply.address ++ lit "]" else reply.address
  port := reply.port
  isIpv6 := reply.isIpv6

/-- An address is kept if it is one of IPv6 that the array has room for: of another one the last character is lost. -/
theorem parse29_text_iff : parse29 reply.text = some reply.decoded ↔
    reply.address = [] ∨ (reply.isIpv6 = true ∧ reply.address.length ≤ 62) := by
  rw [parse29_text, Option.some.injEq, decoded, PassiveAddress.mk.injEq]
  simp only [and_true]
  by_cases hempty : reply.address = []
  · rw [hempty]
    simp [barsIp]
  · have hpos := List.length_pos_of_ne_nil hempty
    have hopen : (lit "[").length = 1 := rfl
    have hclose : (lit "]").length = 1 := rfl
    have hsize : ipSize = 65 := rfl
    rw [barsIp, if_neg (by omega)]
    by_cases hipv6 : reply.isIpv6 = true
    · rw [if_pos hipv6, if_pos ⟨hipv6, hempty⟩]
      simp only [hempty, hipv6, false_or, true_and]
      constructor
      · intro h
        have hlength := congrArg List.length h
        simp only [List.length_take, List.length_append, hopen, hclose] at hlength
        omega
      · intro hlength
        have hfits : reply.address.take (min reply.address.length ipSize) = reply.address :=
          List.take_of_length_le (by omega)
        have hwhole : (lit "[" ++ reply.address ++ lit "]").length ≤ ipSize - 1 := by
          simp only [List.length_append, hopen, hclose]
          omega
        rw [hfits, List.take_of_length_le hwhole]
    · rw [if_neg hipv6, if_neg (fun h => hipv6 h.1)]
      refine iff_of_false (fun h => ?_) (fun h => h.elim hempty fun h => hipv6 h.1)
      have hlength := congrArg List.length h
      rw [List.length_take] at hlength
      omega

/-- Without the brackets, only an address that is absent is handed out as it is. -/
theorem parse29_text_address_iff (haddress : '[' ∉ reply.address) {isIpv6 : Bool} :
    parse29 reply.text = some ⟨reply.address, reply.port, isIpv6⟩ ↔ reply.address = [] ∧ reply.isIpv6 = isIpv6 := by
  rw [parse29_text, Option.some.injEq, PassiveAddress.mk.injEq]
  refine ⟨fun h => ⟨?_, h.2.2⟩, fun h => ⟨?_, rfl, h.2⟩⟩
  · by_contra hempty
    have hpos := List.length_pos_of_ne_nil hempty
    have hip := h.1
    rw [barsIp, if_neg (by omega)] at hip
    by_cases hipv6 : reply.isIpv6 = true
    · rw [if_pos hipv6] at hip
      refine haddress ?_
      rw [← hip]
      exact List.mem_cons_self
    · rw [if_neg hipv6] at hip
      have hlength := congrArg List.length hip
      rw [List.length_take] at hlength
      omega
  · rw [h.1]
    rfl

end BarsReply

/-- A reply that says that a data channel is ready. -/
abbrev ready (code : Nat) (text : CString) : FtpResponse := ⟨.positiveCompletionReply, code, text⟩

theorem pasvResponse_ready_227 (text : CString) : pasvResponse (ready 227 text) = parse27 text := by
  simp only [pasvResponse, Nat.reduceMod]

theorem pasvResponse_ready_229 (text : CString) : pasvResponse (ready 229 text) = parse29 text := by
  simp only [pasvResponse, Nat.reduceMod]

/-- When a reply is decoded to what it encodes: with code 227 if the text before the numbers can be read, with code 229 and numbers if
these are all the same, and with code 229 and bars if there is no address, or one of IPv6 that the array has room for. -/
theorem passive_replies_decode_iff (before after : PlainText) (host : HostPort) (reply : BarsReply) :
    (pasvResponse (ready 227 (reply227 before host after)) = some host.address ↔ ReadsBefore before) ∧
      (pasvResponse (ready 229 (reply229 before host after)) = some host.address ↔
        host.h1 = host.h2 ∧ host.h2 = host.h3 ∧ host.h3 = host.h4 ∧ host.h4 = host.p1 ∧ host.p1 = host.p2) ∧
      (pasvResponse (ready 229 reply.text) = some reply.decoded ↔
        reply.address = [] ∨ (reply.isIpv6 = true ∧ reply.address.length ≤ 62)) ∧
      ('[' ∉ reply.address →
        (pasvResponse (ready 229 reply.text) = some ⟨reply.address, reply.port, reply.isIpv6⟩ ↔ reply.address = [])) := by
  refine ⟨?_, ?_, ?_, fun haddress => ?_⟩
  · rw [pasvResponse_ready_227]
    exact parse27_reply_iff
  · rw [pasvResponse_ready_229]
    exact parse29_numbersReply_iff
  · rw [pasvResponse_ready_229]
    exact BarsReply.parse29_text_iff
  · rw [pasvResponse_ready_229, BarsReply.parse29_text_address_iff haddress]
    exact and_iff_left rfl

/-- `229 Entering Passive Mode (1,2,3,4,5,6)` is read as port 1029 of 1.1.2.3. -/
theorem first_octet_read_twice :
    pasvResponse (ready 229 (reply229 ⟨lit "Entering Passive Mode ", by decide⟩ ⟨1, 2, 3, 4, 5, 6⟩ ⟨[], by decide⟩)) =
      some ⟨lit "1.1.2.3", 1029, false⟩ ∧
      (HostPort.mk 1 2 3 4 5 6).address = ⟨lit "1.2.3.4", 1286, false⟩ := by
  constructor
  · rw [pasvResponse_ready_229, parse29, parse29Ipv6_numbersReply, Option.none_or, parse29Ipv4_numbersReply]
    rfl
  · rfl

end Gfal2
