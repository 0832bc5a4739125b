import Gfal2.UriAuthority

/-! Parsing and joining a URI. Everything but the authority is kept as it stands, so that a URI comes back
from its fields just when the expression for the authority matches all of it. -/

namespace Gfal2

open Base Regex

/-! ### One way to take a string apart -/

variable {before : CString}

theorem component_nil_of_empty {text : Option CString} (hne : before ≠ []) (h : component before text [] = []) : text = none := by
  cases text with
  | none => rfl
  | some text =>
      rw [component_some, List.append_nil] at h
      exact absurd (List.append_eq_nil_iff.mp h).1 hne

theorem component_injective {text text' : Option CString} (hne : before ≠ [])
    (h : component before text [] = component before text' []) : text = text' := by
  cases text with
  | none => exact (component_nil_of_empty hne h.symm).symm
  | some text =>
      cases text' with
      | none => exact component_nil_of_empty hne h
      | some text' => simpa using h

namespace UriPieces

theorem stopsAt_fragment (fragment : Option CString) : StopsAt (noneOf (lit "#")) (component (lit "#") fragment []) := by
  cases fragment with
  | none => exact stopsAt_nil
  | some fragment => exact stopsAt_cons.mpr (noneOf_eq_false.mpr (List.mem_singleton.mpr rfl))

theorem stopsAt_tail (pieces : UriPieces) : StopsAt (noneOf (lit "?#")) pieces.tail := by
  unfold tail
  cases pieces.query with
  | some query => exact stopsAt_cons.mpr (noneOf_eq_false.mpr (List.mem_pair.mpr (.inl rfl)))
  | none =>
      cases pieces.fragment with
      | none => exact stopsAt_nil
      | some fragment => exact stopsAt_cons.mpr (noneOf_eq_false.mpr (List.mem_pair.mpr (.inr rfl)))

variable {pieces' : UriPieces}

theorem tail_injective {pieces : UriPieces} (hquery : ∀ s ∈ pieces.query, ∀ c ∈ s, noneOf (lit "#") c = true)
    (hquery' : ∀ s ∈ pieces'.query, ∀ c ∈ s, noneOf (lit "#") c = true) (h : pieces.tail = pieces'.tail) :
    pieces.query = pieces'.query ∧ pieces.fragment = pieces'.fragment := by
  have hhash : lit "#" ≠ [] := List.cons_ne_nil _ _
  -- a tail without a query is empty or begins with the delimiter of the fragment
  have hnone : ∀ (fragment : Option CString) (query : CString) (rest : CString),
      component (lit "#") fragment [] ≠ lit "?" ++ query ++ [] ++ rest := by
    intro fragment query rest h
    cases fragment with
    | none => cases h
    | some fragment => cases congrArg List.head? h
  unfold tail at h
  cases hq : pieces.query with
  | none =>
      cases hq' : pieces'.query with
      | none =>
          rw [hq, hq'] at h
          exact ⟨rfl, component_injective hhash h⟩
      | some query' =>
          rw [hq, hq'] at h
          exact absurd h (hnone _ _ _)
  | some query =>
      cases hq' : pieces'.query with
      | none =>
          rw [hq, hq'] at h
          exact absurd h.symm (hnone _ _ _)
      | some query' =>
          rw [hq, hq'] at h
          have h' : query ++ component (lit "#") pieces.fragment [] = query' ++ component (lit "#") pieces'.fragment [] := by
            simpa using h
          obtain ⟨rfl, hfragment⟩ := append_inj_of_stopsAt (hquery query hq) (hquery' query' hq') (stopsAt_fragment _)
            (stopsAt_fragment _) h'
          exact ⟨rfl, component_injective hhash hfragment⟩

/-- What follows the scheme. -/
def rest (pieces : UriPieces) : CString :=
  component (lit "//") pieces.authority [] ++ (pieces.path ++ pieces.tail)

theorem text_of_scheme {pieces : UriPieces} {s : CString} (hs : pieces.scheme = some s) :
    pieces.text = s ++ ':' :: pieces.rest := by
  rw [text, hs, component_some, List.nil_append, List.append_assoc]
  rfl

theorem stopsAt_colon (w : CString) : StopsAt (noneOf (lit ":/?#")) (':' :: w) :=
  stopsAt_cons.mpr (noneOf_eq_false.mpr List.mem_cons_self)

/-- Without a scheme a string does not begin with one. -/
theorem scheme_eq_none {pieces : UriPieces} (hforemost : pieces.Foremost) (hvalid' : pieces'.Valid)
    (h : pieces.text = pieces'.text) (hnone : pieces.scheme = none) : pieces'.scheme = none := by
  cases hs' : pieces'.scheme with
  | none => rfl
  | some s' =>
      obtain ⟨hne, hall⟩ := hvalid'.scheme s' hs'
      have htext : pieces.text = s' ++ lit ":" ++ pieces'.rest := by
        rw [h, text, hs']
        rfl
      exact absurd htext (hforemost.scheme hnone s' _ hne hall)

theorem scheme_eq {pieces : UriPieces} (hvalid : pieces.Valid) (hforemost : pieces.Foremost)
    (hvalid' : pieces'.Valid) (hforemost' : pieces'.Foremost) (h : pieces.text = pieces'.text) :
    pieces.scheme = pieces'.scheme := by
  cases hs : pieces.scheme with
  | none => exact (scheme_eq_none hforemost hvalid' h hs).symm
  | some s =>
      cases hs' : pieces'.scheme with
      | none => exact hs.symm.trans (scheme_eq_none hforemost' hvalid h.symm hs')
      | some s' =>
          rw [text_of_scheme hs, text_of_scheme hs'] at h
          rw [(append_inj_of_stopsAt (hvalid.scheme s hs).2 (hvalid'.scheme s' hs').2 (stopsAt_colon _)
            (stopsAt_colon _) h).1]

theorem authority_eq {pieces : UriPieces} (hforemost : pieces.Foremost) (hforemost' : pieces'.Foremost)
    (h : pieces.rest = pieces'.rest) : pieces.authority = pieces'.authority := by
  -- an authority is seen at the slashes before it
  have hslashes : ∀ {pieces : UriPieces} {a : CString}, pieces.authority = some a →
      pieces.rest = lit "//" ++ (a ++ (pieces.path ++ pieces.tail)) := by
    intro pieces a ha
    rw [rest, ha, component_some, List.append_nil, List.append_assoc]
  cases ha : pieces.authority with
  | some a =>
      rw [← ha, hforemost.authority _ (hslashes ha), hforemost'.authority _ (h.symm.trans (hslashes ha))]
  | none =>
      cases ha' : pieces'.authority with
      | none => rfl
      | some a' =>
          have hnone := hforemost.authority _ (h.trans (hslashes ha'))
          rw [ha] at hnone
          cases hnone

/-- A string is taken apart in one way only. -/
theorem eq_of_text_eq {pieces : UriPieces} (hvalid : pieces.Valid) (hforemost : pieces.Foremost)
    (hvalid' : pieces'.Valid) (hforemost' : pieces'.Foremost) (h : pieces.text = pieces'.text) : pieces = pieces' := by
  have hscheme := scheme_eq hvalid hforemost hvalid' hforemost' h
  rw [text, text, hscheme] at h
  have hrest := List.append_cancel_left h
  have hauthority := authority_eq hforemost hforemost' hrest
  rw [hauthority] at hrest
  obtain ⟨hpath, htail⟩ := append_inj_of_stopsAt hvalid.path hvalid'.path pieces.stopsAt_tail pieces'.stopsAt_tail
    (List.append_cancel_left hrest)
  obtain ⟨hquery, hfragment⟩ := tail_injective hvalid.query hvalid'.query htail
  cases pieces
  cases pieces'
  cases hscheme
  cases hauthority
  cases hpath
  cases hquery
  cases hfragment
  rfl

end UriPieces

/-- What stands after a scheme with its colon, or the string if there is none. -/
def afterScheme (u : CString) : CString :=
  match u.takeWhile (noneOf (lit ":/?#")), u.dropWhile (noneOf (lit ":/?#")) with
  | _ :: _, ':' :: rest => rest
  | _, _ => u

/-- The authority of a string: what stands between two slashes after the scheme and the next delimiter. -/
def authorityOf (u : CString) : Option CString :=
  match afterScheme u with
  | '/' :: '/' :: rest => some (rest.takeWhile (noneOf (lit "/?#")))
  | _ => none

namespace UriPieces

theorem afterScheme_text {pieces : UriPieces} (hvalid : pieces.Valid) (hforemost : pieces.Foremost) :
    afterScheme pieces.text = pieces.rest := by
  unfold afterScheme
  cases hs : pieces.scheme with
  | some s =>
      obtain ⟨hne, hall⟩ := hvalid.scheme s hs
      obtain ⟨c, s, rfl⟩ := List.exists_cons_of_ne_nil hne
      have hdrop : pieces.text.dropWhile (noneOf (lit ":/?#")) = ':' :: pieces.rest := by
        rw [text_of_scheme hs, List.dropWhile_append_of_pos hall]
        rfl
      rw [hdrop, text_of_scheme hs, takeWhile_append_of_stopsAt hall (stopsAt_colon _)]
      rfl
  | none =>
      have htext : pieces.text = pieces.rest := by
        rw [text, hs]
        rfl
      split
      · rename_i c s w htake hdrop
        refine absurd ?_ (hforemost.scheme hs (c :: s) w (List.cons_ne_nil _ _) ?_)
        · rw [← htake, List.append_assoc]
          exact (List.takeWhile_append_dropWhile.symm).trans (congrArg _ hdrop)
        · intro d hd
          rw [← htake] at hd
          exact List.mem_takeWhile_imp hd
      · exact htext

theorem authorityOf_text {pieces : UriPieces} (hvalid : pieces.Valid) (hforemost : pieces.Foremost) :
    authorityOf pieces.text = pieces.authority := by
  rw [authorityOf, afterScheme_text hvalid hforemost]
  split
  · rename_i rest hrest
    exact (hforemost.authority rest hrest).symm
  · rename_i hnone
    cases ha : pieces.authority with
    | none => rfl
    | some a =>
        rw [UriPieces.rest, ha] at hnone
        exact (hnone _ rfl).elim

end UriPieces

/-! ### Characters that are accounted for -/

/-- The whole authority is matched, and its port fits the field for it. -/
def AuthorityFits (authority : CString) : Prop :=
  authority ∈ authorityRegex.lang ∧
    ∀ before digits, authority = before ++ ':' :: digits → isDigits digits = true → decimal digits < 2 ^ 32

/-- The authority is userinfo, host and port of the parsed URI with their delimiters. -/
def AuthorityAccounted (parsed : Gfal2Uri) : Option CString → Prop
  | none => parsed.userinfo = none ∧ parsed.host = none ∧ parsed.port = 0
  | some authority => ∃ port : Option CString, (∀ digits ∈ port, isDigits digits = true) ∧
      parsed.port = (port.map decimal).getD 0 ∧
      authority = component [] parsed.userinfo (lit "@") ++ (component [] parsed.host [] ++ component (lit ":") port [])

/-- The string is the fields of the parsed URI with their delimiters. -/
def Accounted (u : CString) (parsed : Gfal2Uri) : Prop :=
  ∃ pieces : UriPieces, pieces.text = u ∧ parsed.scheme = pieces.scheme ∧ parsed.path = some pieces.path ∧
    parsed.query = pieces.query ∧ parsed.fragment = pieces.fragment ∧ AuthorityAccounted parsed pieces.authority

theorem portOf_lt (digits : CString) : portOf digits < 2 ^ 32 := Nat.mod_lt _ (by decide)

theorem portOf_eq {digits : CString} (hlt : decimal digits < 2 ^ 32) : portOf digits = decimal digits := by
  unfold portOf
  omega

def joinedPort (port : Nat) : CString := if port ≠ 0 then portText port else []

variable {parsed : Gfal2Uri}

namespace AuthorityMatch

variable {authority : CString} (m : AuthorityMatch authority)

theorem accounted_iff (huserinfo : parsed.userinfo = m.userinfo) (hhost : parsed.host = m.host)
    (hport : parsed.port = (m.port.map portOf).getD 0) :
    AuthorityAccounted parsed (some authority) ↔ AuthorityFits authority := by
  constructor
  · rintro ⟨port, hdigits, hvalue, htext⟩
    have hrest : component (lit ":") m.port [] ++ m.rest = component (lit ":") port [] := by
      rw [huserinfo, hhost] at htext
      exact List.append_cancel_left (List.append_cancel_left (m.text.trans htext))
    obtain ⟨hnil, hmport⟩ := m.port_eq_of_rest_eq hdigits hrest
    have hmem := m.rest_eq_nil_iff.mp hnil
    refine ⟨hmem, fun before digits hend hall => ?_⟩
    have hsome : m.port = some digits := (m.port_at_end_iff hmem hall).mp ⟨before, hend⟩
    have hlt := portOf_lt digits
    rw [hsome] at hmport hport
    rw [← hmport, hport] at hvalue
    simp at hvalue
    omega
  · rintro ⟨hmem, hlt⟩
    have hnil := m.rest_eq_nil_iff.mpr hmem
    refine ⟨m.port, m.port_digits, ?_, ?_⟩
    · rw [hport]
      cases hm : m.port with
      | none => rfl
      | some digits =>
          obtain ⟨before, hend⟩ := (m.port_at_end_iff hmem (m.port_digits digits hm)).mpr hm
          exact portOf_eq (hlt before digits hend (m.port_digits digits hm))
    · rw [huserinfo, hhost]
      simpa [hnil] using m.text.symm

/-- What joining writes after the host is nothing or a number, so that nothing of a rest is in it. -/
theorem port_of_joinedPort_eq (h : joinedPort ((m.port.map portOf).getD 0) = component (lit ":") m.port [] ++ m.rest) :
    m.rest = [] ∧ ∀ digits ∈ m.port, Nat.toDigits 10 (decimal digits) = digits := by
  cases hm : m.port with
  | none =>
      rw [hm, component_none, List.nil_append] at h
      exact ⟨h.symm, by simp⟩
  | some digits =>
      rw [hm] at h
      by_cases hzero : portOf digits = 0
      · simp only [Option.map_some, Option.getD_some] at h
        rw [hzero] at h
        cases h
      · simp only [Option.map_some, Option.getD_some, joinedPort, if_pos hzero] at h
        rcases portText_cases (portOf_lt digits) with hdigits | ⟨text, hminus⟩
        · have hsame : component (lit ":") m.port [] ++ m.rest =
              component (lit ":") (some (Nat.toDigits 10 (portOf digits))) [] := by
            rw [hm, ← h, hdigits, component_some, List.append_nil]
            rfl
          obtain ⟨hrest, hport⟩ := m.port_eq_of_rest_eq (by simp [isDigits_toDigits]) hsame
          refine ⟨hrest, ?_⟩
          rintro _ ⟨⟩
          rw [hm, Option.some_inj] at hport
          rw [hport, decimal, Nat.ofDigitChars_ten_toDigits]
        · obtain ⟨hne, hall⟩ := isDigits_iff.mp (m.port_digits digits hm)
          obtain ⟨c, digits, rfl⟩ := List.exists_cons_of_ne_nil hne
          have hcons : ':' :: '-' :: text = ':' :: c :: (digits ++ [] ++ m.rest) := hminus.symm.trans h
          have hhead : '-' = c := (List.cons.inj (List.cons.inj hcons).2).1
          exact absurd (hall c List.mem_cons_self) (by rw [← hhead]; decide)

end AuthorityMatch

theorem ne_at_of_hostRegex : hostRegex.Over fun c => c ≠ '@' := by
  have halnum : ∀ c : Char, c.isAlphanum = true → c ≠ '@' := by
    rintro c hc rfl
    exact absurd hc (by decide)
  have hword : ∀ c : Char, isWord c = true → c ≠ '@' := by
    rintro c hc rfl
    exact absurd hc (by decide)
  have haddress : ∀ c : Char, (c.isAlphanum || decide (c = ':')) = true → c ≠ '@' := by
    rintro c hc rfl
    exact absurd hc (by decide)
  have hmark : ∀ mark : Char, mark ≠ '@' → ∀ c : Char, decide (c = mark) = true → c ≠ '@' := by
    rintro mark hmark c hc rfl
    exact hmark (of_decide_eq_true hc).symm
  exact ⟨⟨⟨halnum, hword, hmark '.' (by decide), hword, hword⟩, hmark '[' (by decide), ⟨haddress, haddress⟩,
    hmark ']' (by decide)⟩, trivial⟩

/-! ### URIs of the standard -/

def isUnreserved (c : Char) : Bool := c.isAlphanum || (lit "-._~").contains c

/-- The characters of a name; `%` stands for the encoded ones. -/
def isRegNameChar (c : Char) : Bool := isUnreserved c || (lit "%!$&'()*+,;=").contains c

def isUserinfoChar (c : Char) : Bool := isRegNameChar c || c = ':'

def isPathChar (c : Char) : Bool := isUserinfoChar c || c = '@' || c = '/'

def isQueryChar (c : Char) : Bool := isPathChar c || c = '?'

def isSchemeChar (c : Char) : Bool := c.isAlphanum || (lit "+-.").contains c

def isAddressChar (c : Char) : Bool := c.isDigit || ('a' ≤ c && c ≤ 'f') || ('A' ≤ c && c ≤ 'F') || c = ':' || c = '.'

/-- A name or a dotted address. -/
def IsName (host : CString) : Prop := host ≠ [] ∧ ∀ c ∈ host, isRegNameChar c = true

def IsBracketed (host : CString) : Prop :=
  ∃ address, host = '[' :: address ++ [']'] ∧ address ≠ [] ∧ ∀ c ∈ address, isAddressChar c = true

structure AbsoluteUri where
  scheme : CString
  userinfo : Option CString
  host : CString
  port : Option CString
  path : CString
  query : Option CString
  fragment : Option CString
  scheme_chars : (∃ c ∈ scheme.head?, c.isAlpha = true) ∧ ∀ c ∈ scheme, isSchemeChar c = true
  userinfo_chars : ∀ s ∈ userinfo, ∀ c ∈ s, isUserinfoChar c = true
  host_chars : IsName host ∨ IsBracketed host
  port_value : ∀ digits ∈ port, isDigits digits = true ∧ 1 ≤ decimal digits ∧ decimal digits ≤ 65535
  path_chars : (∀ c ∈ path.head?, c = '/') ∧ ∀ c ∈ path, isPathChar c = true
  query_chars : ∀ s ∈ query, ∀ c ∈ s, isQueryChar c = true
  fragment_chars : ∀ s ∈ fragment, ∀ c ∈ s, isQueryChar c = true

namespace AbsoluteUri

def authority (uri : AbsoluteUri) : CString :=
  component [] uri.userinfo (lit "@") ++ (uri.host ++ component (lit ":") uri.port [])

def pieces (uri : AbsoluteUri) : UriPieces :=
  ⟨some uri.scheme, some uri.authority, uri.path, uri.query, uri.fragment⟩

def text (uri : AbsoluteUri) : CString := uri.pieces.text

variable (uri : AbsoluteUri)

/-- A class without the delimiters keeps a text away from them. -/
theorem noneOf_of_class {p : Char → Bool} {chars s : CString} (hchars : ∀ c ∈ chars, p c = false)
    (hs : ∀ c ∈ s, p c = true) : ∀ c ∈ s, noneOf chars c = true := by
  intro c hc
  rw [noneOf_eq_true]
  intro hmem
  exact absurd ((hs c hc).symm.trans (hchars c hmem)) (by decide)

theorem forall_component {p : Char → Prop} {after : CString} {text : Option CString} (hbefore : ∀ c ∈ before, p c)
    (htext : ∀ s ∈ text, ∀ c ∈ s, p c) (hafter : ∀ c ∈ after, p c) : ∀ c ∈ component before text after, p c := by
  cases text with
  | none => simp
  | some s =>
      rw [component_some]
      exact List.forall_mem_append.mpr ⟨List.forall_mem_append.mpr ⟨hbefore, htext s rfl⟩, hafter⟩

theorem authority_chars : ∀ c ∈ uri.authority, noneOf (lit "/?#") c = true := by
  have huserinfo : ∀ c ∈ component [] uri.userinfo (lit "@"), noneOf (lit "/?#") c = true :=
    forall_component (by simp) (fun s hs => noneOf_of_class (by decide) (uri.userinfo_chars s hs)) (by decide)
  have hport : ∀ c ∈ component (lit ":") uri.port [], noneOf (lit "/?#") c = true := by
    refine forall_component (by decide) (fun digits hdigits => ?_) (by simp)
    exact noneOf_of_class (p := Char.isDigit) (by decide) (isDigits_iff.mp (uri.port_value digits hdigits).1).2
  have hhost : ∀ c ∈ uri.host, noneOf (lit "/?#") c = true := by
    rcases uri.host_chars with ⟨-, hall⟩ | ⟨address, hhost, -, hall⟩
    · exact noneOf_of_class (by decide) hall
    · have haddress : ∀ c ∈ address, noneOf (lit "/?#") c = true := noneOf_of_class (by decide) hall
      rw [hhost]
      exact List.forall_mem_append.mpr ⟨List.forall_mem_cons.mpr ⟨by decide, haddress⟩, by decide⟩
  exact List.forall_mem_append.mpr ⟨huserinfo, List.forall_mem_append.mpr ⟨hhost, hport⟩⟩

theorem pieces_valid : uri.pieces.Valid where
  scheme := by
    rintro s ⟨⟩
    obtain ⟨⟨c, hc, -⟩, hall⟩ := uri.scheme_chars
    refine ⟨fun hnil => ?_, noneOf_of_class (by decide) hall⟩
    rw [hnil] at hc
    cases hc
  authority := by
    rintro s ⟨⟩
    exact uri.authority_chars
  path := noneOf_of_class (by decide) uri.path_chars.2
  query := fun s hs => noneOf_of_class (by decide) (uri.query_chars s hs)

theorem pieces_foremost : uri.pieces.Foremost where
  scheme := by simp [pieces]
  authority := by
    intro w hw
    have hw' : uri.authority ++ (uri.path ++ uri.pieces.tail) = w := by simpa [pieces] using hw
    have hstop : StopsAt (noneOf (lit "/?#")) (uri.path ++ uri.pieces.tail) := by
      cases hpath : uri.path with
      | cons c path =>
          obtain rfl : c = '/' := uri.path_chars.1 c (by simp [hpath])
          exact stopsAt_cons.mpr (by decide)
      | nil =>
          intro c hc
          have hmem := noneOf_eq_false.mp (uri.pieces.stopsAt_tail c hc)
          exact noneOf_eq_false.mpr (List.mem_cons_of_mem _ hmem)
    rw [← hw', takeWhile_append_of_stopsAt uri.authority_chars hstop]
    rfl

theorem host_ne_nil : uri.host ≠ [] := by
  rcases uri.host_chars with ⟨hne, -⟩ | ⟨address, hhost, -⟩
  · exact hne
  · simp [hhost]

theorem authority_ne_nil : uri.authority ≠ [] := by
  simp [authority, uri.host_ne_nil]

theorem hostLike : HostLike uri.host := by
  rcases uri.host_chars with ⟨-, hall⟩ | ⟨address, hhost, -⟩
  · refine .inl fun hcolon => ?_
    exact absurd (hall ':' hcolon) (by decide)
  · exact .inr ⟨'[' :: address, hhost⟩

/-- A URI is taken apart as it was put together, and then its authority is parsed. -/
theorem gfal2ParseUri_text : gfal2ParseUri uri.text = parseAuthority (uri.pieces.fields uri.text) uri.authority := by
  obtain ⟨pieces, hvalid, hforemost, htext, hparse⟩ := gfal2ParseUri_spec uri.text
  obtain rfl := UriPieces.eq_of_text_eq hvalid hforemost uri.pieces_valid uri.pieces_foremost htext
  have hauthority : uri.pieces.authority = some uri.authority := rfl
  obtain ⟨c, a, hcons⟩ := List.exists_cons_of_ne_nil uri.authority_ne_nil
  rw [hparse, hauthority, hcons]

theorem gfal2JoinUri_eq_iff (m : AuthorityMatch uri.authority) (port : Nat) :
    let parsed : Gfal2Uri := { uri.pieces.fields uri.text with userinfo := m.userinfo, host := m.host, port := port }
    gfal2JoinUri parsed = some uri.text ↔ ¬parsed.HasAll ∧ joinedPort port = component (lit ":") m.port [] ++ m.rest := by
  intro parsed
  let before := uri.scheme ++ lit "://" ++ component [] m.userinfo (lit "@") ++ component [] m.host []
  let after := uri.path ++ uri.pieces.tail
  have hjoin : (uriComponents parsed).flatten = before ++ joinedPort port ++ after := by
    rw [flatten_uriComponents]
    simp [parsed, before, after, UriPieces.tail, UriPieces.fields, pieces, joinedPort]
  have hslashes : lit "://" = lit ":" ++ lit "//" := rfl
  have htext : uri.text = before ++ (component (lit ":") m.port [] ++ m.rest) ++ after := by
    rw [text, UriPieces.text]
    simp only [pieces, before, after, hslashes, ← m.text, component_some, UriPieces.tail, List.append_assoc,
      List.nil_append, List.append_nil]
  rw [gfal2JoinUri_eq_some_iff, hjoin, htext, List.append_left_inj, List.append_right_inj]

/-- With the port that is matched, userinfo and host are there as they were written. -/
theorem present_iff (m : AuthorityMatch uri.authority) (hmem : uri.authority ∈ authorityRegex.lang) (hport : m.port = uri.port) :
    (m.userinfo ≠ none ↔ uri.userinfo ≠ none) ∧ m.host ≠ none := by
  have htext : component [] m.userinfo (lit "@") ++ component [] m.host [] =
      component [] uri.userinfo (lit "@") ++ uri.host := by
    have hboth := m.text.trans (show uri.authority = _ ++ (uri.host ++ component (lit ":") uri.port []) from rfl)
    rw [m.rest_eq_nil_iff.mpr hmem, List.append_nil, hport, ← List.append_assoc, ← List.append_assoc] at hboth
    exact List.append_cancel_right hboth
  have hhost : ∀ c ∈ uri.host, c ≠ '@' := by
    rintro c hc rfl
    rcases uri.host_chars with ⟨-, hall⟩ | ⟨address, haddress, -, hall⟩
    · exact absurd (hall _ hc) (by decide)
    · rw [haddress] at hc
      simp only [List.mem_append, List.mem_cons, List.not_mem_nil, or_false] at hc
      rcases hc with (hc | hc) | hc
      · exact absurd hc (by decide)
      · exact absurd (hall _ hc) (by decide)
      · exact absurd hc (by decide)
  have hat : ∀ {userinfo : Option CString} {host : CString}, (∀ c ∈ host, c ≠ '@') →
      ('@' ∈ component [] userinfo (lit "@") ++ host ↔ userinfo ≠ none) := by
    intro userinfo host hhost
    cases userinfo with
    | none => simpa using fun hin => hhost _ hin rfl
    | some text => simp [lit]
  refine ⟨?_, fun hnone => ?_⟩
  · rw [← hat (forall_mem_of_over ne_at_of_hostRegex m.host_mem), htext, hat hhost]
  · obtain ⟨front, c, hend⟩ := List.eq_nil_or_concat uri.host |>.resolve_left uri.host_ne_nil
    rw [hnone, hend, component_none, List.append_nil] at htext
    cases hm : m.userinfo with
    | none => simp [hm] at htext
    | some text =>
        rw [hm, component_some, List.concat_eq_append, ← List.append_assoc] at htext
        have hc : lit "@" = [c] := (List.append_inj' htext rfl).2
        exact hhost c (by simp [hend]) (List.head_eq_of_cons_eq hc).symm

/-- All that a URI can have, so that the strings that are joined do not fit their array. -/
def HasAll : Prop := uri.userinfo ≠ none ∧ uri.port ≠ none ∧ uri.query ≠ none ∧ uri.fragment ≠ none

theorem port_eq_of_mem (m : AuthorityMatch uri.authority) (hmem : uri.authority ∈ authorityRegex.lang) : m.port = uri.port := by
  have hport : ∀ digits, isDigits digits = true → (m.port = some digits ↔ uri.port = some digits) := by
    intro digits hdigits
    rw [← m.port_at_end_iff hmem hdigits, ← port_at_end_iff uri.userinfo uri.hostLike
      (fun ds hds => (uri.port_value ds hds).1) hdigits]
    rfl
  cases hm : m.port with
  | some digits => exact ((hport digits (m.port_digits digits hm)).mp hm).symm
  | none =>
      cases hu : uri.port with
      | none => rfl
      | some digits => exact absurd ((hport digits (uri.port_value digits hu).1).mpr hu) (by simp [hm])

theorem portOf_port {digits : CString} (hu : uri.port = some digits) : portOf digits = decimal digits ∧ 0 < decimal digits := by
  obtain ⟨-, hpos, hle⟩ := uri.port_value digits hu
  exact ⟨portOf_eq (by omega), hpos⟩

/-- Ports that are joined as they were read are those without leading zeros. -/
theorem joinedPort_eq_iff (m : AuthorityMatch uri.authority) :
    joinedPort ((m.port.map portOf).getD 0) = component (lit ":") m.port [] ++ m.rest ↔
      uri.authority ∈ authorityRegex.lang ∧ ∀ digits ∈ uri.port, Nat.toDigits 10 (decimal digits) = digits := by
  constructor
  · intro h
    obtain ⟨hnil, hcanonical⟩ := m.port_of_joinedPort_eq h
    have hmem := m.rest_eq_nil_iff.mp hnil
    exact ⟨hmem, uri.port_eq_of_mem m hmem ▸ hcanonical⟩
  · rintro ⟨hmem, hcanonical⟩
    rw [m.rest_eq_nil_iff.mpr hmem, List.append_nil, uri.port_eq_of_mem m hmem]
    cases hu : uri.port with
    | none => rfl
    | some digits =>
        have hle := (uri.port_value digits hu).2.2
        obtain ⟨hvalue, hpos⟩ := uri.portOf_port hu
        simp only [Option.map_some, Option.getD_some]
        rw [hvalue, joinedPort, if_pos (by omega), portText_of_lt (by omega), hcanonical digits hu, component_some,
          List.append_nil]
        rfl

theorem hasAll_iff (m : AuthorityMatch uri.authority) (hmem : uri.authority ∈ authorityRegex.lang) :
    Gfal2Uri.HasAll { uri.pieces.fields uri.text with
      userinfo := m.userinfo, host := m.host, port := (m.port.map portOf).getD 0 } ↔ uri.HasAll := by
  have hsame := uri.port_eq_of_mem m hmem
  obtain ⟨huserinfo, hhost⟩ := uri.present_iff m hmem hsame
  have hport : (uri.port.map portOf).getD 0 ≠ 0 ↔ uri.port ≠ none := by
    cases hu : uri.port with
    | none => simp
    | some digits =>
        obtain ⟨hvalue, hpos⟩ := uri.portOf_port hu
        simp only [Option.map_some, Option.getD_some, hvalue]
        simp
        omega
  rw [Gfal2Uri.HasAll, HasAll, ← hport, ← huserinfo, hsame]
  simp [UriPieces.fields, pieces, hhost, and_assoc]

end AbsoluteUri

/-- With the other fields as they stand, only the authority is in question. -/
theorem accounted_iff_authority {pieces : UriPieces} {userinfo host : Option CString} {port : Nat}
    (hparsed : parsed = { pieces.fields pieces.text with userinfo := userinfo, host := host, port := port }) :
    Accounted pieces.text parsed ↔ AuthorityAccounted parsed pieces.authority := by
  constructor
  · rintro ⟨pieces', htext, hscheme, hpath, hquery, hfragment, haccounted⟩
    have hscheme' : pieces'.scheme = pieces.scheme := by rw [← hscheme, hparsed]; rfl
    have hpath' : pieces'.path = pieces.path := Option.some.inj (by rw [← hpath, hparsed]; rfl)
    have hquery' : pieces'.query = pieces.query := by rw [← hquery, hparsed]; rfl
    have hfragment' : pieces'.fragment = pieces.fragment := by rw [← hfragment, hparsed]; rfl
    rw [UriPieces.text, UriPieces.text, UriPieces.tail, UriPieces.tail, hscheme', hpath', hquery', hfragment'] at htext
    have hauthority := List.append_cancel_right (List.append_cancel_left htext)
    rw [← component_injective (List.cons_ne_nil _ _) hauthority]
    exact haccounted
  · intro haccounted
    subst hparsed
    exact ⟨pieces, rfl, rfl, rfl, rfl, rfl, haccounted⟩

theorem nil_fits : AuthorityFits [] := by
  refine ⟨nil_mem_authorityRegex, fun before digits h => ?_⟩
  simp at h

/-- A parsed string is accounted for just when its authority fits. -/
theorem accounted_iff_fits {u : CString} (h : gfal2ParseUri u = ⟨some parsed, none⟩) :
    Accounted u parsed ↔ ∀ authority ∈ authorityOf u, AuthorityFits authority := by
  obtain ⟨pieces, hvalid, hforemost, rfl, hparse⟩ := gfal2ParseUri_spec u
  rw [h] at hparse
  rw [UriPieces.authorityOf_text hvalid hforemost]
  split at hparse
  · rename_i ha
    have hparsed := Option.some.inj (congrArg Ret.val hparse)
    rw [accounted_iff_authority hparsed, ha, hparsed]
    exact iff_of_true ⟨rfl, rfl, rfl⟩ (by simp)
  · rename_i ha
    have hparsed := Option.some.inj (congrArg Ret.val hparse)
    rw [accounted_iff_authority hparsed, ha, hparsed]
    exact iff_of_true ⟨none, by simp, rfl, rfl⟩ (by simpa using nil_fits)
  · rename_i authority _ ha
    obtain ⟨m, -, hm⟩ := parseAuthority_spec authority
    have hparsed := Option.some.inj (congrArg Ret.val (hparse.trans (hm _)))
    rw [accounted_iff_authority hparsed, ha, m.accounted_iff (by rw [hparsed]) (by rw [hparsed]) (by rw [hparsed]; rfl)]
    simp

/-- An address in brackets that ends in the dotted form. -/
def dottedAddressUri : AbsoluteUri where
  scheme := lit "https"
  userinfo := none
  host := lit "[::1.2.3.4]"
  port := none
  path := lit "/p"
  query := none
  fragment := none
  scheme_chars := ⟨⟨'h', rfl, rfl⟩, by decide⟩
  userinfo_chars := by simp
  host_chars := .inr ⟨lit "::1.2.3.4", by decide⟩
  port_value := by simp
  path_chars := ⟨fun c hc => (Option.some.inj hc).symm, by decide⟩
  query_chars := by simp
  fragment_chars := by simp

/-- A URI comes back from its fields just when its authority fits, its port is written without leading zeros and not all
components are there, and a string that is parsed is accounted for just when its authority fits. -/
theorem uri_round_trip_iff_authority_fits (uri : AbsoluteUri) (u : CString) (parsed : Gfal2Uri) :
    (∃ parsed, gfal2ParseUri uri.text = ⟨some parsed, none⟩ ∧
      (gfal2JoinUri parsed = some uri.text ↔ AuthorityFits uri.authority ∧
        (∀ digits ∈ uri.port, Nat.toDigits 10 (decimal digits) = digits) ∧ ¬uri.HasAll)) ∧
      (gfal2ParseUri u = ⟨some parsed, none⟩ →
        (Accounted u parsed ↔ ∀ authority ∈ authorityOf u, AuthorityFits authority)) := by
  refine ⟨?_, fun h => accounted_iff_fits h⟩
  obtain ⟨m, -, hm⟩ := parseAuthority_spec uri.authority
  refine ⟨_, uri.gfal2ParseUri_text.trans (hm _), (uri.gfal2JoinUri_eq_iff m _).trans ?_⟩
  refine (and_congr_right fun _ => uri.joinedPort_eq_iff m).trans ?_
  constructor
  · rintro ⟨hroom, hmem, hcanonical⟩
    refine ⟨⟨hmem, ?_⟩, hcanonical, fun hall => hroom ((uri.hasAll_iff m hmem).mpr hall)⟩
    intro before digits hend hdigits
    have hport : uri.port = some digits := (port_at_end_iff uri.userinfo uri.hostLike
      (fun ds hds => (uri.port_value ds hds).1) hdigits).mp ⟨before, hend⟩
    have hle := (uri.port_value digits hport).2.2
    omega
  · rintro ⟨⟨hmem, -⟩, hcanonical, hroom⟩
    exact ⟨fun hall => hroom ((uri.hasAll_iff m hmem).mp hall), hmem, hcanonical⟩

theorem uri_round_trip_of_plain_host : gfal2ParseUri (lit "http://host/p") =
        ⟨some { scheme := some (lit "http"), host := some (lit "host"), path := some (lit "/p"),
                original := lit "http://host/p" }, none⟩ ∧
      (Accounted (lit "http://host/p")
          { scheme := some (lit "http"), host := some (lit "host"), path := some (lit "/p"),
            original := lit "http://host/p" } ↔
        ∀ authority ∈ authorityOf (lit "http://host/p"), AuthorityFits authority) :=
  have hparse : gfal2ParseUri (lit "http://host/p") =
      ⟨some { scheme := some (lit "http"), host := some (lit "host"), path := some (lit "/p"),
              original := lit "http://host/p" }, none⟩ := by decide +kernel
  ⟨hparse, (uri_round_trip_iff_authority_fits dottedAddressUri _ _).2 hparse⟩

/-- Of that authority nothing is kept, and parsing reports no error. -/
theorem dotted_address_dropped : dottedAddressUri.text = lit "https://[::1.2.3.4]/p" ∧
      gfal2ParseUri dottedAddressUri.text =
        ⟨some { scheme := some (lit "https"), path := some (lit "/p"), original := dottedAddressUri.text }, none⟩ ∧
      gfal2JoinUri { scheme := some (lit "https"), path := some (lit "/p"), original := dottedAddressUri.text } =
        some (lit "https:///p") ∧
      ¬ Accounted dottedAddressUri.text
        { scheme := some (lit "https"), path := some (lit "/p"), original := dottedAddressUri.text } := by
  have hparse : gfal2ParseUri dottedAddressUri.text =
      ⟨some { scheme := some (lit "https"), path := some (lit "/p"), original := dottedAddressUri.text }, none⟩ := by
    rw [AbsoluteUri.gfal2ParseUri_text]
    decide +kernel
  have hauthority : authorityOf dottedAddressUri.text = some (lit "[::1.2.3.4]") := by decide +kernel
  have htext : dottedAddressUri.text = lit "https://[::1.2.3.4]/p" := by decide +kernel
  have hdropped : lit "[::1.2.3.4]" ∉ authorityRegex.lang := by decide +kernel
  refine ⟨htext, hparse, ?_, ?_⟩
  · decide +kernel
  · intro haccounted
    exact hdropped ((accounted_iff_fits hparse).mp haccounted _ hauthority).1

end Gfal2
