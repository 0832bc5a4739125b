import Gfal2.UriParsing

/-! What parsing makes of an authority: userinfo, host and port as far as the expression matches. Its end
is not looked at, so that a rest that does not match is dropped without an error. -/

namespace Gfal2

open Base Regex

/-! ### The parts of the expression -/

def isDigits (s : CString) : Bool := s ≠ [] && s.all Char.isDigit

theorem isDigits_iff {s : CString} : isDigits s = true ↔ s ≠ [] ∧ ∀ c ∈ s, c.isDigit = true := by
  simp [isDigits]

/-- The decimal value of a string of digits. -/
def decimal (digits : CString) : Nat := Nat.ofDigitChars 10 digits 0

/-- The port that parsing takes from the digits. -/
def portOf (digits : CString) : Nat := min (2 ^ 63 - 1) (decimal digits) % 2 ^ 32

theorem userinfo_piece {a : CString} (ha : a ∈ userinfoRegex.lang) (start : Nat) :
    ∃ userinfo, a = component [] userinfo (lit "@") ∧
      capture 2 (userinfoRegex.assign start a) = lies userinfo start := by
  obtain ⟨hgroup, hassign⟩ | ⟨rfl, hassign⟩ := assign_opt ha start
  · obtain ⟨s, rfl, -, hseq⟩ := assign_seq_chr hgroup start
    refine ⟨some s, rfl, ?_⟩
    rw [userinfoRegex, hassign, capture_group_ne (by decide), hseq, capture_group (by decide)]
    rfl
  · refine ⟨none, rfl, ?_⟩
    rw [userinfoRegex, hassign]
    rfl

/-- A host that is there is not empty. -/
theorem nil_notMem_hostRegex : [] ∉ (Regex.group 3 (.alt nameRegex bracketRegex)).lang := by decide +kernel

theorem host_piece {b : CString} (hb : b ∈ hostRegex.lang) (start : Nat) :
    ∃ host, b = component [] host [] ∧ host ≠ some [] ∧ capture 3 (hostRegex.assign start b) = lies host start := by
  obtain ⟨hgroup, hassign⟩ | ⟨rfl, hassign⟩ := assign_opt hb start
  · refine ⟨some b, (List.append_nil b).symm, ?_, ?_⟩
    · rintro ⟨⟩
      exact nil_notMem_hostRegex hgroup
    · rw [hostRegex, hassign, capture_group (by decide)]
      rfl
  · refine ⟨none, rfl, by simp, ?_⟩
    rw [hostRegex, hassign]
    rfl

theorem port_piece {c : CString} (hc : c ∈ portRegex.lang) (start : Nat) :
    ∃ port, c = component (lit ":") port [] ∧ (∀ digits ∈ port, isDigits digits = true) ∧
      capture 7 (portRegex.assign start c) = (port.map fun digits => ⟨start, start + (digits.length + 1 : Nat)⟩) := by
  obtain ⟨hgroup, hassign⟩ | ⟨rfl, hassign⟩ := assign_opt hc start
  · obtain ⟨digits, rfl, hdigits, -⟩ := assign_chr_seq hgroup start
    refine ⟨some digits, (List.append_nil _).symm, ?_, ?_⟩
    · intro digits' hdigits'
      cases hdigits'
      exact isDigits_iff.mpr (mem_plus_cls.mp hdigits)
    · rw [portRegex, hassign, capture_group (by decide)]
      rfl
  · refine ⟨none, rfl, by simp, ?_⟩
    rw [portRegex, hassign]
    rfl

theorem isSpace_of_isDigit {c : Char} (hc : c.isDigit = true) : isSpace c = false := by
  have hle : '0' ≤ c := by
    simp [Char.isDigit] at hc
    exact hc.1
  have hne : c ≠ ' ' := by
    rintro rfl
    exact absurd hc (by decide)
  have hlt : ¬ c ≤ '\r' := fun h => absurd (le_trans hle h) (by decide)
  simp [isSpace, hne, hlt]

variable {digits : CString}

/-- `atol` of digits reads all of them. -/
theorem atol_digits {rest : CString} (hdigits : isDigits digits = true) (hrest : StopsAt Char.isDigit rest) :
    atol (digits ++ rest) = min (2 ^ 63 - 1) (decimal digits) := by
  obtain ⟨hne, hall⟩ := isDigits_iff.mp hdigits
  obtain ⟨c, digits, rfl⟩ := List.exists_cons_of_ne_nil hne
  have hc := hall c List.mem_cons_self
  have hdrop : (c :: digits ++ rest).dropWhile isSpace = c :: digits ++ rest := by
    simp [isSpace_of_isDigit hc]
  have hvalue : digitsValue (c :: digits ++ rest) = decimal (c :: digits) := by
    rw [digitsValue, takeWhile_append_of_stopsAt hall hrest]
    rfl
  rw [atol, hdrop]
  split
  · rename_i heq
    obtain rfl : c = '-' := by simpa using congrArg List.head? heq
    exact absurd hc (by decide)
  · rename_i heq
    obtain rfl : c = '+' := by simpa using congrArg List.head? heq
    exact absurd hc (by decide)
  · rw [hvalue]
    omega

theorem toUInt32_atol_digits {rest : CString} (hdigits : isDigits digits = true)
    (hrest : StopsAt Char.isDigit rest) : toUInt32 (atol (digits ++ rest)) = portOf digits := by
  rw [atol_digits hdigits hrest, toUInt32, portOf]
  omega

theorem nil_mem_authorityRegex : [] ∈ authorityRegex.lang :=
  append_mem_seq (nil_mem_opt _) (append_mem_seq (nil_mem_opt _) (nil_mem_opt _))

theorem mem_portRegex (hdigits : isDigits digits = true) : lit ":" ++ digits ∈ portRegex.lang :=
  mem_opt.mpr (.inl (append_mem_seq (mem_chr.mpr rfl) (mem_plus_cls.mpr (isDigits_iff.mp hdigits))))

/-! ### The match -/

/-- What the second expression makes of an authority: `matched` is the longest beginning in its language,
and `rest` is not looked at. -/
structure AuthorityMatch (authority : CString) where
  userinfo : Option CString
  host : Option CString
  port : Option CString
  rest : CString
  userinfo_mem : component [] userinfo (lit "@") ∈ userinfoRegex.lang
  host_mem : component [] host [] ∈ hostRegex.lang
  port_digits : ∀ digits ∈ port, isDigits digits = true
  text : component [] userinfo (lit "@") ++ (component [] host [] ++ (component (lit ":") port [] ++ rest)) = authority
  longest : ∀ matched rest', matched ++ rest' = authority → matched ∈ authorityRegex.lang → rest.length ≤ rest'.length

namespace AuthorityMatch

variable {authority : CString} (m : AuthorityMatch authority)

def beforePort : CString := component [] m.userinfo (lit "@") ++ component [] m.host []

/-- Where a port with these digits lies. -/
def portRange (digits : CString) : Regmatch :=
  ⟨m.beforePort.length, m.beforePort.length + (digits.length + 1 : Nat)⟩

theorem port_mem : component (lit ":") m.port [] ∈ portRegex.lang := by
  cases hport : m.port with
  | none => exact nil_mem_opt _
  | some digits =>
      rw [component_some, List.append_nil]
      exact mem_portRegex (m.port_digits digits hport)

theorem matched_mem : component [] m.userinfo (lit "@") ++ (component [] m.host [] ++ component (lit ":") m.port []) ∈
    authorityRegex.lang := append_mem_seq m.userinfo_mem (append_mem_seq m.host_mem m.port_mem)

/-- Nothing is dropped just when the expression matches the authority to its end. -/
theorem rest_eq_nil_iff : m.rest = [] ↔ authority ∈ authorityRegex.lang := by
  constructor
  · intro hrest
    rw [← m.text, hrest, List.append_nil]
    exact m.matched_mem
  · intro hmem
    have hle := m.longest authority [] (List.append_nil _) hmem
    exact List.length_eq_zero_iff.mp (Nat.le_zero.mp hle)

/-- The port is matched as far as it goes. -/
theorem eq_nil_of_longer_port (more tail : CString) (hrest : m.rest = more ++ tail)
    (hport : component (lit ":") m.port [] ++ more ∈ portRegex.lang) : more = [] := by
  have hmem : component [] m.userinfo (lit "@") ++ (component [] m.host [] ++
      (component (lit ":") m.port [] ++ more)) ∈ authorityRegex.lang :=
    append_mem_seq m.userinfo_mem (append_mem_seq m.host_mem hport)
  have htext := m.text
  rw [hrest] at htext
  have hle := m.longest _ tail (by simpa only [List.append_assoc] using htext) hmem
  rw [hrest, List.length_append] at hle
  exact List.length_eq_zero_iff.mp (by omega)

theorem stopsAt_rest (hport : m.port = some digits) : StopsAt Char.isDigit m.rest := by
  obtain ⟨hne, hall⟩ := isDigits_iff.mp (m.port_digits digits hport)
  cases hrest : m.rest with
  | nil => exact stopsAt_nil
  | cons c tail =>
      rw [stopsAt_cons]
      by_contra hdigit
      have hlonger : isDigits (digits ++ [c]) = true := by
        refine isDigits_iff.mpr ⟨by simp, List.forall_mem_append.mpr ⟨hall, ?_⟩⟩
        simpa using hdigit
      have hnil := m.eq_nil_of_longer_port [c] tail hrest (by
        rw [hport, component_some, List.append_nil, List.append_assoc]
        exact mem_portRegex hlonger)
      cases hnil

end AuthorityMatch

theorem capture_three {n : Nat} (hn : n ≠ 0) (range : Regmatch) (a b c : Captures) :
    capture n ((0, range) :: (a ++ (b ++ c))) = ((capture n c).or (capture n b)).or (capture n a) := by
  rw [capture, if_neg (Ne.symm hn), Option.or_none, capture_append, capture_append]

theorem regexec_authorityRegex (authority : CString) : ∃ m : AuthorityMatch authority, m.host ≠ some [] ∧ ∃ authmatch,
    authorityRegex.regexec authority = some authmatch ∧ strdupmatch authority (authmatch 2) = m.userinfo ∧
      strdupmatch authority (authmatch 3) = m.host ∧ authmatch 7 = (m.port.map m.portRange).getD {} := by
  obtain ⟨matched, rest, hmatched, hmem, hlongest, hregexec⟩ := regexec_eq_some nil_mem_authorityRegex authority
  obtain ⟨a, b₀, hab, ha, hb₀, hassign, -⟩ := assign_seq hmem 0
  obtain ⟨b, c, hbc, hb, hc, hassign₁, -⟩ := assign_seq hb₀ (0 + a.length)
  obtain ⟨userinfo, rfl, hcapture₂⟩ := userinfo_piece ha 0
  obtain ⟨host, rfl, hhost, hcapture₃⟩ := host_piece hb (0 + (component [] userinfo (lit "@")).length)
  obtain ⟨port, rfl, hport, hcapture₇⟩ := port_piece hc
    (0 + (component [] userinfo (lit "@")).length + (component [] host []).length)
  have htext : component [] userinfo (lit "@") ++ (component [] host [] ++ (component (lit ":") port [] ++ rest)) =
      authority := by
    rw [← hmatched, ← hab, ← hbc]
    simp only [List.append_assoc]
  have hlongest' : ∀ m' rest', m' ++ rest' = authority → m' ∈ authorityRegex.lang → rest.length ≤ rest'.length := by
    intro m' rest' hm' hmem'
    have hle := hlongest m' rest' hm' hmem'
    have hlength := congrArg List.length (hmatched.trans hm'.symm)
    rw [List.length_append, List.length_append] at hlength
    omega
  refine ⟨⟨userinfo, host, port, rest, ha, hb, hport, htext, hlongest'⟩, hhost, _, hregexec, ?_⟩
  have hnone : ∀ {n : Nat} {r : Regex Char} {start : Nat} {s : CString}, n ∉ r.groups →
      capture n (r.assign start s) = none := fun hn => capture_assign_of_notMem hn _ _
  have hauthority : authorityRegex.assign 0 matched = _ := hassign.trans (congrArg _ hassign₁)
  refine ⟨?_, ?_, ?_⟩
  · dsimp only
    rw [hauthority, capture_three (by decide), hcapture₂, hnone (by decide), hnone (by decide)]
    exact strdupmatch_lies [] [] (lit "@") _ htext.symm rfl
  · dsimp only
    rw [hauthority, capture_three (by decide), hcapture₃, hnone (by decide), hnone (by decide), Option.or_none]
    exact strdupmatch_lies (component [] userinfo (lit "@")) [] [] _ htext.symm (by simp)
  · dsimp only
    rw [hauthority, capture_three (by decide), hcapture₇, hnone (by decide), hnone (by decide), Option.or_none,
      Option.or_none, Nat.zero_add, ← List.length_append]
    rfl

/-- Every authority is taken without an error, as far as the expression matches it. -/
theorem parseAuthority_spec (authority : CString) : ∃ m : AuthorityMatch authority, m.host ≠ some [] ∧ ∀ parsed : Gfal2Uri,
    parseAuthority parsed authority =
      ⟨some { parsed with
        userinfo := m.userinfo
        host := m.host
        port := (m.port.map portOf).getD parsed.port }, none⟩ := by
  obtain ⟨m, hhost, authmatch, hregexec, h2, h3, h7⟩ := regexec_authorityRegex authority
  refine ⟨m, hhost, fun parsed => ?_⟩
  unfold parseAuthority
  rw [hregexec]
  dsimp only
  rw [h2, h3, h7]
  cases hport : m.port with
  | none => rfl
  | some digits =>
      have hso : (((some digits).map m.portRange).getD {}).rmSo = (m.beforePort.length : Int) := rfl
      have htext : m.beforePort ++ [':'] ++ (digits ++ m.rest) = authority := by
        refine Eq.trans ?_ m.text
        rw [hport, component_some, AuthorityMatch.beforePort]
        simp [lit]
      have hdrop : authority.drop ((m.beforePort.length : Int) + 1).toNat = digits ++ m.rest :=
        (congrArg (List.drop _) htext.symm).trans (List.drop_left' (by simp))
      rw [hso, if_pos (by omega), hdrop, toUInt32_atol_digits (m.port_digits digits hport) (m.stopsAt_rest hport)]
      rfl

/-! ### The port at the end of an authority -/

/-- A host with a port after it cannot be taken for a host that ends with a colon and digits. -/
def HostLike (host : CString) : Prop := ':' ∉ host ∨ ∃ text, host = text ++ [']']

theorem ne_colon_of_nameRegex : nameRegex.Over fun c => c ≠ ':' := by
  have halnum : ∀ c : Char, c.isAlphanum = true → c ≠ ':' := by
    rintro c hc rfl
    exact absurd hc (by decide)
  have hword : ∀ c : Char, isWord c = true → c ≠ ':' := by
    rintro c hc rfl
    exact absurd hc (by decide)
  have hdot : ∀ c : Char, decide (c = '.') = true → c ≠ ':' := by
    rintro c hc rfl
    exact absurd hc (by decide)
  exact ⟨halnum, hword, hdot, hword, hword⟩

theorem hostLike_of_mem {host : CString} (hmem : host ∈ hostRegex.lang) : HostLike host := by
  rcases mem_opt.mp hmem with hgroup | rfl
  · rcases mem_alt.mp hgroup with hname | hbracket
    · exact .inl fun hcolon => forall_mem_of_over ne_colon_of_nameRegex hname ':' hcolon rfl
    · obtain ⟨a, -, b, hb, rfl⟩ := mem_seq.mp hbracket
      obtain ⟨b, -, c, hc, rfl⟩ := mem_seq.mp hb
      obtain rfl := mem_chr.mp hc
      exact .inr ⟨a ++ b, (List.append_assoc _ _ _).symm⟩
  · exact .inl (by simp)

theorem ne_of_isDigit {c d : Char} (hc : c.isDigit = true) (hd : d.isDigit = false) : c ≠ d := by
  rintro rfl
  exact absurd (hc.symm.trans hd) (by decide)

/-- Without a port an authority does not end with a colon and digits. -/
theorem no_port_at_end (userinfo : Option CString) {host before : CString} (hhost : HostLike host)
    (hdigits : isDigits digits = true) : component [] userinfo (lit "@") ++ host ≠ before ++ ':' :: digits := by
  intro h
  obtain ⟨hne, hall⟩ := isDigits_iff.mp hdigits
  rcases hhost with hcolon | ⟨text, rfl⟩
  · cases userinfo with
    | none =>
        rw [component_none, List.nil_append] at h
        exact hcolon (by simp [h])
    | some userinfo =>
        have h' : userinfo ++ '@' :: host = before ++ ':' :: digits := by simpa [lit] using h
        rcases List.append_eq_append_iff.mp h' with ⟨middle, -, hmiddle⟩ | ⟨middle, -, hmiddle⟩
        · rcases List.cons_eq_append_iff.mp hmiddle with ⟨-, hcons⟩ | ⟨middle, -, hcons⟩
          · cases hcons
          · exact hcolon (by simp [hcons])
        · rcases List.cons_eq_append_iff.mp hmiddle with ⟨-, hcons⟩ | ⟨middle, -, hcons⟩
          · cases hcons
          · exact absurd (hall '@' (by simp [hcons])) (by decide)
  · rw [← List.dropLast_append_getLast hne] at h
    have hlast := congrArg List.getLast? h
    simp only [List.getLast?_append, List.getLast?_cons, Option.some_or] at hlast
    simp at hlast
    exact absurd (hall _ (List.getLast_mem hne)) (by rw [← hlast]; decide)

/-- A port is there just when the authority ends with a colon and its digits. -/
theorem port_at_end_iff (userinfo : Option CString) {host : CString} {port : Option CString}
    (hhost : HostLike host) (hport : ∀ digits ∈ port, isDigits digits = true) (hdigits : isDigits digits = true) :
    (∃ before, component [] userinfo (lit "@") ++ (host ++ component (lit ":") port []) = before ++ ':' :: digits) ↔
      port = some digits := by
  constructor
  · rintro ⟨before, h⟩
    rw [← List.append_assoc] at h
    cases port with
    | none =>
        rw [component_none, List.append_nil] at h
        exact (no_port_at_end userinfo hhost hdigits h).elim
    | some ds =>
        have hrev : ds.reverse ++ ':' :: (component [] userinfo (lit "@") ++ host).reverse =
            digits.reverse ++ ':' :: before.reverse := by
          have := congrArg List.reverse h
          simpa [lit] using this
        have hall := (isDigits_iff.mp (hport ds rfl)).2
        have hall' := (isDigits_iff.mp hdigits).2
        have heq := (append_inj_of_stopsAt (p := Char.isDigit) (by simpa using hall) (by simpa using hall')
          (stopsAt_cons.mpr rfl) (stopsAt_cons.mpr rfl) hrev).1
        rw [List.reverse_inj.mp heq]
  · rintro rfl
    refine ⟨component [] userinfo (lit "@") ++ host, ?_⟩
    simp [lit]

/-! ### The port as text -/

theorem showInt_of_lt {port : Nat} (hport : port < 2 ^ 31) : showInt (Int.bmod port (2 ^ 32)) = Nat.toDigits 10 port := by
  have hmod : Int.bmod port (2 ^ 32) = port := by
    rw [Int.bmod_def]
    omega
  rw [showInt, hmod, if_neg (by omega), Int.toNat_natCast]

theorem portText_of_lt {port : Nat} (hport : port < 2 ^ 31) : portText port = ':' :: Nat.toDigits 10 port := by
  have hlength : (Nat.toDigits 10 port).length ≤ 10 := by
    rw [Nat.length_toDigits_le_iff (by decide) (by decide)]
    omega
  rw [portText, showInt_of_lt hport]
  exact List.take_of_length_le (by rw [List.length_cons]; omega)

/-- Ports that are negative as a signed number are not written as digits. -/
theorem portText_cases {port : Nat} (hlt : port < 2 ^ 32) :
    portText port = ':' :: Nat.toDigits 10 port ∨ ∃ text, portText port = ':' :: '-' :: text := by
  by_cases hport : port < 2 ^ 31
  · exact .inl (portText_of_lt hport)
  · right
    have hneg : Int.bmod port (2 ^ 32) < 0 := by
      rw [Int.bmod_def]
      omega
    rw [portText, showInt, if_pos hneg, List.take_succ_cons, List.take_succ_cons]
    exact ⟨_, rfl⟩

theorem isDigits_toDigits (n : Nat) : isDigits (Nat.toDigits 10 n) = true :=
  isDigits_iff.mpr ⟨Nat.toDigits_ne_nil, fun _ hc => Nat.isDigit_of_mem_toDigits (by decide) (by decide) hc⟩

namespace AuthorityMatch

variable {authority : CString} (m : AuthorityMatch authority)

/-- If the rest of an authority reads as a port, then the match has it. -/
theorem port_eq_of_rest_eq {port : Option CString} (hport : ∀ digits ∈ port, isDigits digits = true)
    (h : component (lit ":") m.port [] ++ m.rest = component (lit ":") port []) : m.rest = [] ∧ m.port = port := by
  cases hm : m.port with
  | none =>
      rw [hm, component_none, List.nil_append] at h
      cases port with
      | none => exact ⟨h, rfl⟩
      | some digits =>
          rw [component_some, List.append_nil] at h
          have hnil := m.eq_nil_of_longer_port m.rest [] (by simp)
            (by rw [hm, component_none, List.nil_append, h]; exact mem_portRegex (hport digits rfl))
          rw [hnil] at h
          cases h
  | some digits =>
      rw [hm] at h
      cases port with
      | none => cases h
      | some digits' =>
          have h' : digits ++ m.rest = digits' ++ [] := by simpa [lit] using h
          obtain ⟨rfl, hrest⟩ := append_inj_of_stopsAt (isDigits_iff.mp (m.port_digits digits hm)).2
            (isDigits_iff.mp (hport digits' rfl)).2 (m.stopsAt_rest hm) stopsAt_nil h'
          exact ⟨hrest, rfl⟩

theorem port_at_end_iff (hmem : authority ∈ authorityRegex.lang) (hdigits : isDigits digits = true) :
    (∃ before, authority = before ++ ':' :: digits) ↔ m.port = some digits := by
  have htext := m.text
  rw [m.rest_eq_nil_iff.mpr hmem, List.append_nil] at htext
  rw [← Gfal2.port_at_end_iff m.userinfo (hostLike_of_mem m.host_mem) m.port_digits hdigits, htext]

end AuthorityMatch

/-- No string is refused. -/
theorem gfal2ParseUri_total (u : CString) : ∃ parsed, gfal2ParseUri u = ⟨some parsed, none⟩ := by
  obtain ⟨pieces, -, -, -, hparse⟩ := gfal2ParseUri_spec u
  cases hauthority : pieces.authority with
  | none =>
      rw [hauthority] at hparse
      exact ⟨_, hparse⟩
  | some authority =>
      rw [hauthority] at hparse
      cases authority with
      | nil => exact ⟨_, hparse⟩
      | cons c authority =>
          obtain ⟨m, -, hm⟩ := parseAuthority_spec (c :: authority)
          exact ⟨_, hparse.trans (hm _)⟩

end Gfal2
