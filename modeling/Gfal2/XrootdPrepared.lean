import Gfal2.UriRoundTrip
import Gfal2.Xrootd

/-! What becomes of a URL that is prepared for XRootD. It is taken apart, its path decoded, and put together again, so that a
delimiter that was encoded in the path is one of the URL when it is read the next time. -/

namespace Gfal2

open Base Regex

/-! ### Reading an authority again -/

/-- What parsing takes from an authority. -/
def AuthorityRead (parsed : Gfal2Uri) : Option CString → Prop
  | none => parsed.userinfo = none ∧ parsed.host = none ∧ parsed.port = 0
  | some [] => parsed.userinfo = none ∧ parsed.host = some [] ∧ parsed.port = 0
  | some (c :: authority) => ∃ m : AuthorityMatch (c :: authority), m.host ≠ some [] ∧ parsed.userinfo = m.userinfo ∧
      parsed.host = m.host ∧ parsed.port = (m.port.map portOf).getD 0

/-- The string is taken apart into the pieces, and these are what parsing takes from it. -/
structure ReadAs (u : CString) (parsed : Gfal2Uri) (pieces : UriPieces) : Prop where
  valid : pieces.Valid
  foremost : pieces.Foremost
  text : pieces.text = u
  scheme : parsed.scheme = pieces.scheme
  path : parsed.path = some pieces.path
  query : parsed.query = pieces.query
  fragment : parsed.fragment = pieces.fragment
  authority : AuthorityRead parsed pieces.authority

theorem exists_readAs {u : CString} {parsed : Gfal2Uri} (h : gfal2ParseUri u = ⟨some parsed, none⟩) :
    ∃ pieces : UriPieces, ReadAs u parsed pieces := by
  obtain ⟨pieces, hvalid, hforemost, htext, hparse⟩ := gfal2ParseUri_spec u
  rw [h] at hparse
  split at hparse
  · rename_i ha
    have hparsed := Option.some.inj (congrArg Ret.val hparse)
    subst hparsed
    exact ⟨pieces, hvalid, hforemost, htext, rfl, rfl, rfl, rfl, by rw [ha]; exact ⟨rfl, rfl, rfl⟩⟩
  · rename_i ha
    have hparsed := Option.some.inj (congrArg Ret.val hparse)
    subst hparsed
    exact ⟨pieces, hvalid, hforemost, htext, rfl, rfl, rfl, rfl, by rw [ha]; exact ⟨rfl, rfl, rfl⟩⟩
  · rename_i authority hnil ha
    obtain ⟨m, hhost, hm⟩ := parseAuthority_spec authority
    have hparsed := Option.some.inj (congrArg Ret.val (hparse.trans (hm _)))
    obtain ⟨c, authority, rfl⟩ := List.exists_cons_of_ne_nil hnil
    subst hparsed
    exact ⟨pieces, hvalid, hforemost, htext, rfl, rfl, rfl, rfl, by rw [ha]; exact ⟨m, hhost, rfl, rfl, rfl⟩⟩

def joinedAuthority (uri : Gfal2Uri) : CString :=
  component [] uri.userinfo (lit "@") ++ (component [] uri.host [] ++ joinedPort uri.port)

theorem flatten_uriComponents_eq (uri : Gfal2Uri) :
    (uriComponents uri).flatten = component [] uri.scheme (lit "://") ++ (joinedAuthority uri ++ (component [] uri.path [] ++
      (component (lit "?") uri.query [] ++ component (lit "#") uri.fragment []))) := by
  rw [flatten_uriComponents, joinedAuthority, joinedPort]
  simp only [List.append_assoc]

theorem delimiter_notMem_hostRegex : hostRegex.Over fun c => noneOf (lit "/?#") c = true := by
  have hplain : ∀ {p : Char → Bool}, (∀ c ∈ lit "/?#", p c = false) → ∀ c, p c = true → noneOf (lit "/?#") c = true := by
    intro p hp c hc
    rw [noneOf_eq_true]
    intro hmem
    rw [hp c hmem] at hc
    cases hc
  have halnum := hplain (p := Char.isAlphanum) (by decide)
  have hword := hplain (p := isWord) (by decide)
  have haddress := hplain (p := fun c => c.isAlphanum || decide (c = ':')) (by decide)
  have hmark : ∀ mark : Char, mark ∉ lit "/?#" → ∀ c : Char, decide (c = mark) = true → noneOf (lit "/?#") c = true := by
    intro mark hmark c hc
    rw [of_decide_eq_true hc]
    exact noneOf_eq_true.mpr hmark
  exact ⟨⟨⟨halnum, hword, hmark '.' (by decide), hword, hword⟩, hmark '[' (by decide), ⟨haddress, haddress⟩,
    hmark ']' (by decide)⟩, trivial⟩

theorem at_notMem_userinfo {userinfo : Option CString} (hmem : component [] userinfo (lit "@") ∈ userinfoRegex.lang) :
    ∀ text ∈ userinfo, ∀ c ∈ text, noneOf (lit "@") c = true := by
  rintro text ⟨⟩
  rcases mem_opt.mp hmem with hgroup | hnil
  · obtain ⟨a, ha, b, hb, hab⟩ := mem_seq.mp hgroup
    obtain rfl := mem_chr.mp hb
    have heq : text = a := List.append_cancel_right hab.symm
    rw [heq]
    exact mem_star_cls.mp ha
  · exact absurd hnil (by simp [lit])

/-- An authority is read in one way if the expression matches it to its end. -/
theorem AuthorityMatch.unique {userinfo host port : Option CString} {authority : CString} (m : AuthorityMatch authority)
    (hmhost : m.host ≠ some [])
    (htext : authority = component [] userinfo (lit "@") ++ (component [] host [] ++ component (lit ":") port []))
    (huserinfo : component [] userinfo (lit "@") ∈ userinfoRegex.lang) (hhost : component [] host [] ∈ hostRegex.lang)
    (hne : host ≠ some []) (hport : ∀ digits ∈ port, isDigits digits = true) :
    m.userinfo = userinfo ∧ m.host = host ∧ m.port = port := by
  have hportmem : component (lit ":") port [] ∈ portRegex.lang := by
    cases port with
    | none => exact nil_mem_opt _
    | some digits =>
        rw [component_some, List.append_nil]
        exact mem_portRegex (hport digits rfl)
  have hmem : authority ∈ authorityRegex.lang := by
    rw [htext]
    exact append_mem_seq huserinfo (append_mem_seq hhost hportmem)
  have hmtext := m.text
  rw [m.rest_eq_nil_iff.mpr hmem, List.append_nil] at hmtext
  -- the port is what stands after the last colon, if only digits do
  have hports : m.port = port := by
    cases hp : port with
    | some digits =>
        refine (m.port_at_end_iff hmem (hport digits hp)).mp ⟨component [] userinfo (lit "@") ++ component [] host [], ?_⟩
        rw [htext, hp, component_some, List.append_nil, List.append_assoc]
        rfl
    | none =>
        cases hm : m.port with
        | none => rfl
        | some digits =>
            obtain ⟨before, hend⟩ := (m.port_at_end_iff hmem (m.port_digits digits hm)).mpr hm
            rw [htext, hp, component_none, List.append_nil] at hend
            exact (no_port_at_end userinfo (hostLike_of_mem hhost) (m.port_digits digits hm) hend).elim
  have hparts : component [] m.userinfo (lit "@") ++ component [] m.host [] =
      component [] userinfo (lit "@") ++ component [] host [] := by
    have hboth := hmtext.trans htext
    rw [hports, ← List.append_assoc, ← List.append_assoc] at hboth
    exact List.append_cancel_right hboth
  have hhosts : ∀ {host host' : Option CString}, host ≠ some [] → host' ≠ some [] →
      component [] host [] = component [] host' [] → host = host' := by
    intro host host' hne hne' h
    cases host with
    | none =>
        cases host' with
        | none => rfl
        | some text =>
            rw [component_none, component_some, List.nil_append, List.append_nil] at h
            exact absurd (congrArg some h.symm) hne'
    | some text =>
        cases host' with
        | none =>
            rw [component_none, component_some, List.nil_append, List.append_nil] at h
            exact absurd (congrArg some h) hne
        | some text' =>
            rw [component_some, component_some, List.nil_append, List.append_nil, List.nil_append, List.append_nil] at h
            rw [h]
  have hat : ∀ {host : Option CString}, component [] host [] ∈ hostRegex.lang → '@' ∉ component [] host [] :=
    fun hmem hin => forall_mem_of_over ne_at_of_hostRegex hmem '@' hin rfl
  have hnone : ∀ {text : CString} {host host' : Option CString}, component [] host' [] ∈ hostRegex.lang →
      component [] (some text) (lit "@") ++ component [] host [] ≠ component [] none (lit "@") ++ component [] host' [] := by
    intro text host host' hmem' h
    rw [component_none, List.nil_append] at h
    exact hat hmem' (by rw [← h, component_some]; simp [lit])
  have huserinfos : m.userinfo = userinfo := by
    cases hm : m.userinfo with
    | none =>
        cases userinfo with
        | none => rfl
        | some text =>
            rw [hm] at hparts
            exact absurd hparts.symm (hnone m.host_mem)
    | some text =>
        cases userinfo with
        | none =>
            rw [hm] at hparts
            exact absurd hparts (hnone hhost)
        | some text' =>
            rw [hm, component_some, component_some, List.nil_append, List.nil_append, List.append_assoc, List.append_assoc] at hparts
            rw [(append_inj_of_stopsAt (at_notMem_userinfo (hm ▸ m.userinfo_mem) text rfl)
              (at_notMem_userinfo huserinfo text' rfl) (stopsAt_cons.mpr (by decide)) (stopsAt_cons.mpr (by decide)) hparts).1]
  refine ⟨huserinfos, ?_, hports⟩
  rw [huserinfos] at hparts
  exact hhosts hmhost hne (List.append_cancel_left hparts)

variable {authority : Option CString}

section Read

variable {uri : Gfal2Uri} (hread : AuthorityRead uri authority)
include hread

/-- What is read of an authority are parts of the expression for it, or nothing. -/
theorem parts_of_authorityRead :
    component [] uri.userinfo (lit "@") ∈ userinfoRegex.lang ∧ component [] uri.host [] ∈ hostRegex.lang ∧
      uri.port < 2 ^ 32 ∧ (uri.host = some [] → uri.userinfo = none ∧ uri.port = 0) := by
  match authority, hread with
  | none, ⟨huserinfo, hhost, hport⟩ =>
      rw [huserinfo, hhost, hport]
      exact ⟨nil_mem_opt _, nil_mem_opt _, by decide, fun _ => ⟨rfl, rfl⟩⟩
  | some [], ⟨huserinfo, hhost, hport⟩ =>
      rw [huserinfo, hhost, hport]
      exact ⟨nil_mem_opt _, nil_mem_opt _, by decide, fun _ => ⟨rfl, rfl⟩⟩
  | some (_ :: _), ⟨m, hne, huserinfo, hhost, hport⟩ =>
      rw [huserinfo, hhost, hport]
      refine ⟨m.userinfo_mem, m.host_mem, ?_, fun h => absurd h hne⟩
      cases m.port with
      | none => decide
      | some digits => exact portOf_lt digits

/-- Nothing is written for the authority if there is nothing to be written. -/
theorem joinedAuthority_eq_nil :
    joinedAuthority uri = [] ↔ uri.userinfo = none ∧ (uri.host = none ∨ uri.host = some []) ∧ uri.port = 0 := by
  constructor
  · intro hjoined
    obtain ⟨-, -, hport, -⟩ := parts_of_authorityRead hread
    obtain ⟨hnouserinfo, hrest⟩ := List.append_eq_nil_iff.mp hjoined
    obtain ⟨hnohost, hnoport⟩ := List.append_eq_nil_iff.mp hrest
    refine ⟨?_, ?_, ?_⟩
    · cases hui : uri.userinfo with
      | none => rfl
      | some text => simp [hui, lit] at hnouserinfo
    · cases huh : uri.host with
      | none => exact Or.inl rfl
      | some text =>
          rw [huh, component_some, List.nil_append, List.append_nil] at hnohost
          exact Or.inr (congrArg some hnohost)
    · by_contra hne
      rw [joinedPort, if_pos hne] at hnoport
      rcases portText_cases hport with h | ⟨text, h⟩ <;> simp [h] at hnoport
  · rintro ⟨huserinfo, hhost | hhost, hport⟩ <;> rw [joinedAuthority, huserinfo, hhost, hport] <;> rfl

/-- The fields of a joined authority come back if there is one, and its port is written as a number. -/
theorem joinedAuthority_comes_back {prepared : Gfal2Uri} (hprepared : AuthorityRead prepared (some (joinedAuthority uri))) :
    (prepared.userinfo = uri.userinfo ∧ prepared.host = uri.host ∧ prepared.port = uri.port) ↔
      (uri.userinfo ≠ none ∨ uri.host ≠ none ∨ uri.port ≠ 0) ∧ uri.port < 2 ^ 31 := by
  obtain ⟨huserinfo, hhost, hport, hempty⟩ := parts_of_authorityRead hread
  cases hjoined : joinedAuthority uri with
  | nil =>
      obtain ⟨hu, hh, hp⟩ := (joinedAuthority_eq_nil hread).mp hjoined
      rw [hjoined] at hprepared
      obtain ⟨hu', hh', hp'⟩ := hprepared
      rw [hu, hu', hh', hp, hp']
      rcases hh with hh | hh <;> simp [hh]
  | cons c authority =>
      rw [hjoined] at hprepared
      obtain ⟨m, hmhost, hu', hh', hp'⟩ := hprepared
      have hnehost : uri.host ≠ some [] := by
        intro h
        obtain ⟨hu, hp⟩ := hempty h
        rw [joinedAuthority, hu, h, hp] at hjoined
        cases hjoined
      have hthere : uri.userinfo ≠ none ∨ uri.host ≠ none ∨ uri.port ≠ 0 := by
        by_contra hnone
        push Not at hnone
        rw [joinedAuthority, hnone.1, hnone.2.1, hnone.2.2] at hjoined
        cases hjoined
      by_cases hlt : uri.port < 2 ^ 31
      · refine iff_of_true ?_ ⟨hthere, hlt⟩
        have htext : c :: authority = component [] uri.userinfo (lit "@") ++ (component [] uri.host [] ++
            component (lit ":") (if uri.port = 0 then none else some (Nat.toDigits 10 uri.port)) []) := by
          rw [← hjoined, joinedAuthority, joinedPort]
          by_cases hzero : uri.port = 0
          · rw [if_neg (by simpa using hzero), if_pos hzero, component_none]
          · rw [if_pos hzero, if_neg hzero, portText_of_lt hlt, component_some, List.append_nil]
            rfl
        have hdigits : ∀ digits ∈ (if uri.port = 0 then none else some (Nat.toDigits 10 uri.port)), isDigits digits = true := by
          intro digits hmem
          split at hmem
          · cases hmem
          · cases hmem
            exact isDigits_toDigits _
        obtain ⟨hmu, hmh, hmp⟩ := m.unique hmhost htext huserinfo hhost hnehost hdigits
        refine ⟨hu'.trans hmu, hh'.trans hmh, ?_⟩
        rw [hp', hmp]
        by_cases hzero : uri.port = 0
        · rw [if_pos hzero, hzero]
          rfl
        · rw [if_neg hzero, Option.map_some, Option.getD_some, portOf, decimal, Nat.ofDigitChars_ten_toDigits]
          omega
      · refine iff_of_false ?_ fun h => hlt h.2
        rintro ⟨hu, hh, hp⟩
        obtain ⟨text, hminus⟩ : ∃ text, portText uri.port = ':' :: '-' :: text := by
          have hneg : Int.bmod uri.port (2 ^ 32) < 0 := by
            rw [Int.bmod_def]
            omega
          rw [portText, showInt, if_pos hneg, List.take_succ_cons, List.take_succ_cons]
          exact ⟨_, rfl⟩
        have hmtext := m.text.trans hjoined.symm
        rw [← hu', ← hh', hu, hh, joinedAuthority, joinedPort, if_pos (by omega), hminus] at hmtext
        have hafter := List.append_cancel_left (List.append_cancel_left hmtext)
        cases hmport : m.port with
        | none =>
            rw [hmport, Option.map_none, Option.getD_none] at hp'
            omega
        | some digits =>
            obtain ⟨hne, hall⟩ := isDigits_iff.mp (m.port_digits digits hmport)
            obtain ⟨d, digits, rfl⟩ := List.exists_cons_of_ne_nil hne
            rw [hmport, component_some, List.append_nil] at hafter
            have hhead : d = '-' := (List.cons.inj (List.cons.inj hafter).2).1
            exact absurd (hall d List.mem_cons_self) (by rw [hhead]; decide)

/-- No character of a joined authority ends it. -/
theorem joinedAuthority_chars (hchars : ∀ s ∈ authority, ∀ c ∈ s, noneOf (lit "/?#") c = true) :
    ∀ c ∈ joinedAuthority uri, noneOf (lit "/?#") c = true := by
  have hdigit : ∀ n : Nat, ∀ c ∈ Nat.toDigits 10 n, noneOf (lit "/?#") c = true := by
    intro n c hc
    have hisDigit : c.isDigit = true := (isDigits_iff.mp (isDigits_toDigits n)).2 c hc
    rw [noneOf_eq_true]
    intro hmem
    have hnone : ∀ d ∈ lit "/?#", d.isDigit = false := by decide
    rw [hnone c hmem] at hisDigit
    cases hisDigit
  have hport : ∀ port : Nat, ∀ c ∈ joinedPort port, noneOf (lit "/?#") c = true := by
    intro port c hc
    rw [joinedPort] at hc
    split at hc
    · have hcons := List.mem_of_mem_take hc
      rcases List.mem_cons.mp hcons with rfl | hshow
      · decide
      · rw [showInt] at hshow
        split at hshow
        · rcases List.mem_cons.mp hshow with rfl | hshow
          · decide
          · exact hdigit _ c hshow
        · exact hdigit _ c hshow
    · cases hc
  intro c hc
  rcases List.mem_append.mp hc with hc | hc
  · rcases authority with _ | _ | ⟨first, rest⟩
    · obtain ⟨huserinfo, -⟩ := hread
      rw [huserinfo] at hc
      cases hc
    · obtain ⟨huserinfo, -⟩ := hread
      rw [huserinfo] at hc
      cases hc
    · obtain ⟨m, -, huserinfo, -⟩ := hread
      refine hchars _ rfl c ?_
      rw [← m.text, ← huserinfo]
      exact List.mem_append_left _ hc
  · rcases List.mem_append.mp hc with hc | hc
    · rcases authority with _ | _ | ⟨first, rest⟩
      · obtain ⟨-, hhost, -⟩ := hread
        rw [hhost] at hc
        cases hc
      · obtain ⟨-, hhost, -⟩ := hread
        rw [hhost] at hc
        cases hc
      · obtain ⟨m, -, -, hhost, -⟩ := hread
        rw [hhost] at hc
        exact forall_mem_of_over delimiter_notMem_hostRegex m.host_mem c hc
    · exact hport _ c hc

end Read

/-! ### What a prepared URL is to be -/

/-- The configuration asks for paths to be normalised. -/
def XrootdContext.normalizes (context : XrootdContext) : Bool :=
  gfal2GetOptBooleanWithDefault context.config xrootdConfigGroup (lit "NORMALIZE_PATH") true

def atLeastThreeSlashes (path : CString) : CString :=
  if (lit "///").isPrefixOf path then path else lit "///" ++ path.dropWhile (· = '/')

/-- The decoded path, normalised if that is asked for. -/
def wantedPath (context : XrootdContext) (path : CString) : CString :=
  urldecodeChars (if context.normalizes then atLeastThreeSlashes path else path)

/-- The query with the additional arguments at its end. -/
def wantedQuery (context : XrootdContext) (url : CString) (query : Option CString) : Option CString :=
  if queryArgs context url = [] then query
  else some (query.elim (queryArgs context url) fun query => query ++ lit "&" ++ queryArgs context url)

/-- The URL that is prepared fits the array of its components, and names the same resource. -/
def KeepsResource (context : XrootdContext) (url : CString) : Prop :=
  ∃ uri prepared, gfal2ParseUri url = ⟨some uri, none⟩ ∧ gfal2ParseUri (prepareUrl context url) = ⟨some prepared, none⟩ ∧
    (∀ joined ∈ preparedUri context url, gfal2JoinUri joined ≠ none) ∧
    prepared.scheme = uri.scheme ∧ (prepared.userinfo = uri.userinfo ∧ prepared.host = uri.host ∧ prepared.port = uri.port) ∧
    prepared.path = uri.path.map (wantedPath context) ∧ prepared.query = wantedQuery context url uri.query

/-- A character that neither ends the path of a URL nor a string. -/
def isPlainPathChar (c : Char) : Bool := noneOf (lit "?#") c && c ≠ Char.ofNat 0

/-- No delimiter is encoded in the path and none stands in the additional arguments; a URL with a scheme has an authority with a
port that is written as a number, and a path if this is normalised, and not all that a URL can have; one without a scheme has no
authority, and its path is not read as a scheme or an authority. -/
def PreparesPlainly (context : XrootdContext) (url : CString) : Prop :=
  ∃ uri path, gfal2ParseUri url = ⟨some uri, none⟩ ∧ uri.path = some path ∧
    (∀ c ∈ urldecodeChars path, isPlainPathChar c = true) ∧ '#' ∉ queryArgs context url ∧
    match uri.scheme with
    | some _ => (uri.userinfo ≠ none ∨ uri.host ≠ none ∨ uri.port ≠ 0) ∧ uri.port < 2 ^ 31 ∧
        (context.normalizes = true → path ≠ []) ∧
        ¬(uri.userinfo ≠ none ∧ uri.host ≠ none ∧ uri.port ≠ 0 ∧
          (uri.query ≠ none ∨ queryArgs context url ≠ []) ∧ uri.fragment ≠ none)
    | none => uri.userinfo = none ∧ uri.host = none ∧ uri.port = 0 ∧ context.normalizes = false ∧
        ¬lit "//" <+: urldecodeChars path ∧
        ¬∃ scheme rest, scheme ≠ [] ∧ (∀ c ∈ scheme, noneOf (lit ":/?#") c = true) ∧
          urldecodeChars path = scheme ++ ':' :: rest

/-! ### The path -/

/-- What `normalize_path` makes of a path. -/
def paddedPath (path : CString) : CString :=
  if (lit "///").isPrefixOf path then path
  else if (lit "//").isPrefixOf path then lit "/" ++ path
  else lit "//" ++ path

/-- The path that is put into the URL. -/
def preparedPath (context : XrootdContext) (path : CString) : CString :=
  gfal2Urldecode (if context.normalizes then paddedPath path else path)

section Parsed

variable {context : XrootdContext} {url path : CString} {uri : Gfal2Uri} (h : gfal2ParseUri url = ⟨some uri, none⟩)
  (hpath : uri.path = some path)
include h hpath

theorem preparedUri_eq : preparedUri context url =
      some { uri with path := some (preparedPath context path), query := wantedQuery context url uri.query } := by
  have hfill : ∀ uri : Gfal2Uri, fillQuery context url uri = { uri with query := wantedQuery context url uri.query } := by
    intro uri
    rw [fillQuery, wantedQuery]
    split
    · rfl
    · rfl
  rw [preparedUri, h]
  dsimp only
  rw [preparedPath, XrootdContext.normalizes]
  cases gfal2GetOptBooleanWithDefault context.config xrootdConfigGroup (lit "NORMALIZE_PATH") true with
  | true =>
      rw [if_pos rfl, if_pos rfl, hfill, normalizePath, hpath]
      rfl
  | false =>
      rw [if_neg (by simp), if_neg (by simp), hfill, hpath]
      rfl

/-- The strings to be joined fit their array unless the URI has all that one can have. -/
theorem joins_iff : (∀ joined ∈ preparedUri context url, gfal2JoinUri joined ≠ none) ↔
      (uri.scheme ≠ none → ¬(uri.userinfo ≠ none ∧ uri.host ≠ none ∧ uri.port ≠ 0 ∧
        (uri.query ≠ none ∨ queryArgs context url ≠ []) ∧ uri.fragment ≠ none)) := by
  have hquery : wantedQuery context url uri.query ≠ none ↔ uri.query ≠ none ∨ queryArgs context url ≠ [] := by
    rw [wantedQuery]
    split
    case isTrue hargs => simp [hargs]
    case isFalse hargs => simp [hargs]
  rw [preparedUri_eq h hpath, ← hquery]
  simp [gfal2JoinUri, ← not_le, uriComponents_length_iff, Gfal2Uri.HasAll, and_assoc]

theorem prepareUrl_eq (hjoins : ∀ joined ∈ preparedUri context url, gfal2JoinUri joined ≠ none) :
    prepareUrl context url = component [] uri.scheme (lit "://") ++ (joinedAuthority uri ++ (preparedPath context path ++
      (component (lit "?") (wantedQuery context url uri.query) [] ++ component (lit "#") uri.fragment []))) := by
  have hprepared := @preparedUri_eq context _ _ _ h hpath
  obtain ⟨joined, hjoined⟩ := Option.ne_none_iff_exists'.mp (hjoins _ hprepared)
  rw [prepareUrl, hprepared]
  dsimp only
  rw [hjoined, Option.getD_some, ← (gfal2JoinUri_eq_some_iff.mp hjoined).2, flatten_uriComponents_eq]
  dsimp only
  rw [component_some, List.nil_append, List.append_nil]
  rfl

end Parsed

theorem urldecodeChars_slash (path : CString) : urldecodeChars ('/' :: path) = '/' :: urldecodeChars path := by
  rw [urldecodeChars]
  simp

theorem urldecodeChars_slashes (n : Nat) (path : CString) :
    urldecodeChars (List.replicate n '/' ++ path) = List.replicate n '/' ++ urldecodeChars path := by
  induction n with
  | zero => rfl
  | succ n ih => rw [List.replicate_succ, List.cons_append, urldecodeChars_slash, ih, List.cons_append]

/-- Slashes are put before a path. -/
theorem exists_paddedPath (path : CString) : ∃ n, n ≤ 2 ∧ paddedPath path = List.replicate n '/' ++ path := by
  rw [paddedPath]
  split
  · exact ⟨0, by decide, rfl⟩
  · split
    · exact ⟨1, by decide, rfl⟩
    · exact ⟨2, by decide, rfl⟩

/-- A path that begins with a slash is normalised. -/
theorem paddedPath_of_slash (path : CString) : paddedPath ('/' :: path) = atLeastThreeSlashes ('/' :: path) := by
  rw [paddedPath, atLeastThreeSlashes]
  split
  · rfl
  · rename_i hthree
    cases path with
    | nil => decide
    | cons c rest =>
        by_cases hc : c = '/'
        · subst hc
          have hrest : rest.dropWhile (· = '/') = rest := by
            cases rest with
            | nil => rfl
            | cons d rest =>
                have hd : d ≠ '/' := by
                  rintro rfl
                  exact hthree (by simp [lit, List.isPrefixOf])
                simp [hd]
          rw [if_pos (by simp [lit])]
          simp [lit, hrest]
        · rw [if_neg (by simp [lit, Ne.symm hc])]
          simp [lit, hc]

theorem takeWhile_takeWhile_eq_iff {p q : Char → Bool} {s : CString} :
    (s.takeWhile p).takeWhile q = s ↔ ∀ c ∈ s, q c = true ∧ p c = true := by
  constructor
  · intro h
    have hbegins : s.takeWhile p = s := by
      refine (List.takeWhile_prefix p).eq_of_length (le_antisymm (List.takeWhile_prefix p).length_le ?_)
      calc s.length = ((s.takeWhile p).takeWhile q).length := by rw [h]
        _ ≤ (s.takeWhile p).length := (List.takeWhile_prefix q).length_le
    rw [hbegins] at h
    exact fun c hc => ⟨List.takeWhile_eq_self_iff.mp h c hc, List.takeWhile_eq_self_iff.mp hbegins c hc⟩
  · intro hall
    rw [List.takeWhile_eq_self_iff.mpr fun c hc => (hall c hc).2, List.takeWhile_eq_self_iff.mpr fun c hc => (hall c hc).1]

section Slashed

variable {context : XrootdContext} {path : CString} (hslash : path = [] ∨ ∃ rest, path = '/' :: rest)
include hslash

/-- A path that begins with a slash, if it is not empty, is put into the URL as it is to be, and is read from there, just when
no delimiter is encoded in it and there is one if it is normalised. -/
theorem read_path_iff : (preparedPath context path).takeWhile (noneOf (lit "?#")) = wantedPath context path ↔
      (∀ c ∈ urldecodeChars path, isPlainPathChar c = true) ∧ (context.normalizes = true → path ≠ []) := by
  have hplain : ∀ c, isPlainPathChar c = true ↔ noneOf (lit "?#") c = true ∧ decide (c ≠ Char.ofNat 0) = true := fun c => by
    rw [isPlainPathChar, Bool.and_eq_true]
  have hslashPlain : isPlainPathChar '/' = true := by decide
  rw [preparedPath, wantedPath, gfal2Urldecode]
  cases hnormalizes : context.normalizes with
  | false =>
      rw [if_neg (by simp), if_neg (by simp), takeWhile_takeWhile_eq_iff]
      simp only [hplain, Bool.false_eq_true, false_implies, and_true]
  | true =>
      rw [if_pos rfl, if_pos rfl]
      rcases hslash with rfl | ⟨rest, rfl⟩
      · refine iff_of_false ?_ fun h => h.2 rfl rfl
        decide
      · obtain ⟨n, -, hpadded⟩ := exists_paddedPath ('/' :: rest)
        rw [← paddedPath_of_slash, takeWhile_takeWhile_eq_iff, hpadded, urldecodeChars_slashes]
        simp only [← hplain, List.mem_append, List.mem_replicate]
        constructor
        · exact fun h => ⟨fun c hc => h c (Or.inr hc), fun _ => by simp⟩
        · rintro ⟨h, -⟩ c (⟨-, rfl⟩ | hc)
          · exact hslashPlain
          · exact h c hc

/-- Then it is put into the URL as it is. -/
theorem preparedPath_of_plain (hplain : ∀ c ∈ urldecodeChars path, isPlainPathChar c = true) (hpath : context.normalizes = true → path ≠ []) :
    preparedPath context path = wantedPath context path := by
  have hread := (read_path_iff hslash).mpr ⟨hplain, hpath⟩
  have hle : (wantedPath context path).length ≤ (preparedPath context path).length := by
    rw [← hread]
    exact (List.takeWhile_prefix _).length_le
  have hge : (preparedPath context path).length ≤ (wantedPath context path).length := by
    rw [preparedPath, wantedPath, gfal2Urldecode]
    cases hnormalizes : context.normalizes with
    | false => exact (List.takeWhile_prefix _).length_le
    | true =>
        rcases hslash with rfl | ⟨rest, rfl⟩
        · exact absurd rfl (hpath hnormalizes)
        · rw [if_pos rfl, if_pos rfl, paddedPath_of_slash]
          exact (List.takeWhile_prefix _).length_le
  have hbegins : wantedPath context path <+: preparedPath context path := by
    rw [← hread]
    exact List.takeWhile_prefix _
  exact (hbegins.eq_of_length (le_antisymm hle hge)).symm

/-- What is put into the URL begins with a slash, if it is not empty, when the path does. -/
theorem preparedPath_slash : preparedPath context path = [] ∨ ∃ rest, preparedPath context path = '/' :: rest := by
  have hdecoded : ∀ rest, ∃ rest', gfal2Urldecode ('/' :: rest) = '/' :: rest' := fun rest => by
    rw [gfal2Urldecode, urldecodeChars_slash, List.takeWhile_cons_of_pos (by decide)]
    exact ⟨_, rfl⟩
  rw [preparedPath]
  rcases hslash with rfl | ⟨rest, rfl⟩
  · cases context.normalizes with
    | false => exact Or.inl rfl
    | true => exact Or.inr (hdecoded (lit "/"))
  · refine Or.inr ?_
    split
    · obtain ⟨n, -, hpadded⟩ := exists_paddedPath ('/' :: rest)
      cases n with
      | zero =>
          rw [hpadded]
          exact hdecoded rest
      | succ n =>
          rw [hpadded, List.replicate_succ, List.cons_append]
          exact hdecoded _
    · exact hdecoded rest

end Slashed

/-! ### Reading the prepared URL -/

/-- Less is put into the URL than is to be. -/
theorem preparedPath_length_le (context : XrootdContext) (path : CString) :
    (preparedPath context path).length ≤ (wantedPath context path).length := by
  refine (List.takeWhile_prefix _).length_le.trans ?_
  rw [wantedPath]
  cases context.normalizes with
  | false => exact le_rfl
  | true =>
      rw [if_pos rfl, if_pos rfl]
      cases path with
      | nil => decide
      | cons c rest =>
          by_cases hc : c = '/'
          · rw [hc, paddedPath_of_slash]
          · have hpadded : paddedPath (c :: rest) = List.replicate 2 '/' ++ (c :: rest) := by
              rw [paddedPath, if_neg (by simp [lit, Ne.symm hc]), if_neg (by simp [lit, Ne.symm hc])]
              rfl
            have hthree : atLeastThreeSlashes (c :: rest) = List.replicate 3 '/' ++ (c :: rest) := by
              rw [atLeastThreeSlashes, if_neg (by simp [lit, Ne.symm hc]), List.dropWhile_cons_of_neg (by simpa using hc)]
              rfl
            rw [hpadded, hthree, urldecodeChars_slashes, urldecodeChars_slashes]
            simp

theorem takeWhile_append_stops {p : Char → Bool} {a b : CString} (hb : StopsAt p b) : (a ++ b).takeWhile p = a.takeWhile p := by
  induction a with
  | nil =>
      cases b with
      | nil => rfl
      | cons c b => exact List.takeWhile_cons_of_neg (by simp [stopsAt_cons.mp hb])
  | cons c a ih =>
      rw [List.cons_append, List.takeWhile_cons, List.takeWhile_cons, ih]

/-- The additional arguments have no delimiter just when the whole query has none. -/
theorem wantedQuery_plain_iff {context : XrootdContext} {url : CString} {query : Option CString}
    (hquery : ∀ s ∈ query, ∀ c ∈ s, noneOf (lit "#") c = true) :
    (∀ s ∈ wantedQuery context url query, ∀ c ∈ s, noneOf (lit "#") c = true) ↔ '#' ∉ queryArgs context url := by
  have hplain : ∀ c : Char, noneOf (lit "#") c = true ↔ c ≠ '#' := fun c => by
    rw [noneOf_eq_true]
    exact List.mem_singleton.not
  rw [wantedQuery]
  split
  · rename_i hnone
    rw [hnone]
    exact iff_of_true hquery List.not_mem_nil
  · cases query with
    | none =>
        simp only [Option.elim_none, Option.mem_some_iff, forall_eq', hplain]
        exact ⟨fun h hmem => h _ hmem rfl, fun h c hc heq => h (heq ▸ hc)⟩
    | some query =>
        simp only [Option.elim_some, Option.mem_some_iff, forall_eq', hplain]
        constructor
        · exact fun h hmem => h '#' (List.mem_append_right _ hmem) rfl
        · intro h c hc
          rcases List.mem_append.mp hc with hc | hc
          · rcases List.mem_append.mp hc with hc | hc
            · exact (hplain c).mp (hquery query rfl c hc)
            · rintro rfl
              exact absurd hc (by decide)
          · exact fun heq => h (heq ▸ hc)

section Reading

variable {context : XrootdContext} {url : CString} {uri prepared : Gfal2Uri} {given read : UriPieces}

/-- The fields of the prepared URL are what they are to be. -/
def SameResource (context : XrootdContext) (url : CString) (uri prepared : Gfal2Uri) : Prop :=
  prepared.scheme = uri.scheme ∧ (prepared.userinfo = uri.userinfo ∧ prepared.host = uri.host ∧ prepared.port = uri.port) ∧
    prepared.path = uri.path.map (wantedPath context) ∧ prepared.query = wantedQuery context url uri.query

/-- The query and the fragment that are put into the URL. -/
def preparedTail (context : XrootdContext) (url : CString) (uri : Gfal2Uri) : CString :=
  component (lit "?") (wantedQuery context url uri.query) [] ++ component (lit "#") uri.fragment []

theorem stopsAt_preparedTail : StopsAt (noneOf (lit "?#")) (preparedTail context url uri) :=
  UriPieces.stopsAt_tail ⟨none, none, [], wantedQuery context url uri.query, uri.fragment⟩

theorem stopsAt_of_more {p q : Char → Bool} {s : CString} (himp : ∀ c, p c = true → q c = true) (h : StopsAt q s) : StopsAt p s := by
  intro c hc
  have hq := h c hc
  cases hp : p c with
  | false => rfl
  | true => rw [himp c hp] at hq; cases hq

theorem noneOf_delimiters {c : Char} (hc : noneOf (lit "/?#") c = true) : noneOf (lit "?#") c = true :=
  noneOf_eq_true.mpr fun hmem => noneOf_eq_true.mp hc (List.mem_cons_of_mem _ hmem)

/-- Where the path and the tail of the prepared URL are read from the text that was put there for them, they are as they are to
be just when no delimiter is in the way. -/
theorem read_path_and_query_iff (hgiven : ReadAs url uri given) (hread : ReadAs (prepareUrl context url) prepared read)
    (hslash : given.path = [] ∨ ∃ rest, given.path = '/' :: rest)
    (hrest : read.path ++ read.tail = preparedPath context given.path ++ preparedTail context url uri) :
    prepared.path = uri.path.map (wantedPath context) ∧ prepared.query = wantedQuery context url uri.query ↔
      (∀ c ∈ urldecodeChars given.path, isPlainPathChar c = true) ∧ '#' ∉ queryArgs context url ∧
        (context.normalizes = true → given.path ≠ []) := by
  have hpath : read.path = (preparedPath context given.path).takeWhile (noneOf (lit "?#")) := by
    have htake := congrArg (List.takeWhile (noneOf (lit "?#"))) hrest
    rw [takeWhile_append_of_stopsAt hread.valid.path read.stopsAt_tail, takeWhile_append_stops stopsAt_preparedTail] at htake
    exact htake
  have hquery : ∀ s ∈ uri.query, ∀ c ∈ s, noneOf (lit "#") c = true := by
    rw [hgiven.query]
    exact hgiven.valid.query
  have hwanted : prepared.path = uri.path.map (wantedPath context) ↔
      (∀ c ∈ urldecodeChars given.path, isPlainPathChar c = true) ∧ (context.normalizes = true → given.path ≠ []) := by
    rw [hread.path, hgiven.path, Option.map_some, Option.some_inj, hpath, read_path_iff hslash]
  rw [hwanted]
  constructor
  · rintro ⟨⟨hplain, hne⟩, hsame⟩
    refine ⟨hplain, (wantedQuery_plain_iff hquery).mp ?_, hne⟩
    rw [← hsame, hread.query]
    exact hread.valid.query
  · rintro ⟨hplain, hargs, hne⟩
    refine ⟨⟨hplain, hne⟩, ?_⟩
    have hwhole : read.path = preparedPath context given.path := by
      rw [hpath, read_path_iff hslash |>.mpr ⟨hplain, hne⟩, preparedPath_of_plain hslash hplain hne]
    rw [hwhole] at hrest
    let wanted : UriPieces := ⟨none, none, [], wantedQuery context url uri.query, uri.fragment⟩
    have htail : read.tail = wanted.tail := List.append_cancel_left hrest
    rw [hread.query]
    exact (UriPieces.tail_injective hread.valid.query ((wantedQuery_plain_iff hquery).mpr hargs) htail).1

/-- The path of a URL with an authority begins with a slash, if it is not empty. -/
theorem slash_of_authority {pieces : UriPieces} (hvalid : pieces.Valid) (hforemost : pieces.Foremost) {authority : CString}
    (ha : pieces.authority = some authority) : pieces.path = [] ∨ ∃ rest, pieces.path = '/' :: rest := by
  cases hpath : pieces.path with
  | nil => exact Or.inl rfl
  | cons c rest =>
      by_cases hc : c = '/'
      · exact Or.inr ⟨rest, by rw [hc]⟩
      · exfalso
        have htext : component (lit "//") pieces.authority [] ++ (pieces.path ++ pieces.tail) =
            lit "//" ++ (authority ++ (c :: (rest ++ pieces.tail))) := by
          rw [ha, hpath, component_some, List.append_nil, List.append_assoc]
          rfl
        have hlongest := hforemost.authority _ htext
        have hin : noneOf (lit "/?#") c = true := by
          have hplain := hvalid.path c (by rw [hpath]; exact List.mem_cons_self)
          rw [noneOf_eq_true] at hplain ⊢
          exact fun hmem => (List.mem_cons.mp hmem).elim hc hplain
        rw [ha, Option.some_inj, List.takeWhile_append_of_pos (hvalid.authority authority ha), List.takeWhile_cons_of_pos hin] at hlongest
        have hlength := congrArg List.length hlongest
        rw [List.length_append, List.length_cons] at hlength
        omega

/-- A prepared URL with a scheme. -/
theorem sameResource_of_scheme (hgiven : ReadAs url uri given) (hread : ReadAs (prepareUrl context url) prepared read)
    (h : gfal2ParseUri url = ⟨some uri, none⟩) {scheme : CString} (hscheme : uri.scheme = some scheme)
    (hjoins : ∀ joined ∈ preparedUri context url, gfal2JoinUri joined ≠ none) :
    SameResource context url uri prepared ↔
      (∀ c ∈ urldecodeChars given.path, isPlainPathChar c = true) ∧ '#' ∉ queryArgs context url ∧
        (uri.userinfo ≠ none ∨ uri.host ≠ none ∨ uri.port ≠ 0) ∧ uri.port < 2 ^ 31 ∧
        (context.normalizes = true → given.path ≠ []) := by
  have htext : read.text = scheme ++ ':' :: (lit "//" ++ (joinedAuthority uri ++
      (preparedPath context given.path ++ preparedTail context url uri))) := by
    rw [hread.text, prepareUrl_eq h hgiven.path hjoins, hscheme, component_some, List.nil_append, List.append_assoc]
    rfl
  obtain ⟨hne, hchars⟩ := hgiven.valid.scheme scheme (hgiven.scheme ▸ hscheme)
  have hreadScheme : read.scheme = some scheme := by
    cases hs : read.scheme with
    | none =>
        have htext' : read.text = scheme ++ lit ":" ++ (lit "//" ++ (joinedAuthority uri ++
            (preparedPath context given.path ++ preparedTail context url uri))) := by
          rw [htext, List.append_assoc]
          rfl
        exact absurd htext' (hread.foremost.scheme hs scheme _ hne hchars)
    | some scheme' =>
        rw [UriPieces.text_of_scheme hs] at htext
        rw [(append_inj_of_stopsAt (hread.valid.scheme scheme' hs).2 hchars (UriPieces.stopsAt_colon _)
          (UriPieces.stopsAt_colon _) htext).1]
  have hrest : component (lit "//") read.authority [] ++ (read.path ++ read.tail) = lit "//" ++ (joinedAuthority uri ++
      (preparedPath context given.path ++ preparedTail context url uri)) := by
    rw [UriPieces.text_of_scheme hreadScheme] at htext
    exact (List.cons.inj (List.append_cancel_left htext)).2
  have hauthority := hread.foremost.authority _ hrest
  have hchars' := joinedAuthority_chars hgiven.authority hgiven.valid.authority
  rw [List.takeWhile_append_of_pos hchars'] at hauthority
  by_cases hslash : given.path = [] ∨ ∃ rest, given.path = '/' :: rest
  · -- the authority ends where it ended in the URL
    have hstops : StopsAt (noneOf (lit "/?#")) (preparedPath context given.path ++ preparedTail context url uri) := by
      have hprepared : preparedPath context given.path = [] ∨ ∃ rest, preparedPath context given.path = '/' :: rest :=
        preparedPath_slash hslash
      rcases hprepared with hnil | ⟨rest, hcons⟩
      · rw [hnil, List.nil_append]
        exact stopsAt_of_more (fun c => noneOf_delimiters) stopsAt_preparedTail
      · rw [hcons, List.cons_append]
        exact stopsAt_cons.mpr (by decide)
    have hnothing : (preparedPath context given.path ++ preparedTail context url uri).takeWhile (noneOf (lit "/?#")) = [] := by
      cases hlist : preparedPath context given.path ++ preparedTail context url uri with
      | nil => rfl
      | cons c rest =>
          rw [hlist, stopsAt_cons] at hstops
          exact List.takeWhile_cons_of_neg (by simp [hstops])
    rw [hnothing, List.append_nil] at hauthority
    have hreadAuthority := hread.authority
    rw [hauthority] at hreadAuthority
    rw [hauthority, component_some, List.append_nil, List.append_assoc] at hrest
    have hafter := List.append_cancel_left (List.append_cancel_left hrest)
    have hfields := joinedAuthority_comes_back hgiven.authority hreadAuthority
    have hlater := read_path_and_query_iff hgiven hread hslash hafter
    rw [SameResource, hfields, hlater, hread.scheme, hreadScheme, hscheme]
    exact ⟨fun ⟨_, ⟨hthere, hlt⟩, hplain, hargs, hne⟩ => ⟨hplain, hargs, hthere, hlt, hne⟩,
      fun ⟨hplain, hargs, hthere, hlt, hne⟩ => ⟨rfl, ⟨hthere, hlt⟩, hplain, hargs, hne⟩⟩
  · -- without an authority, what stands first is taken for one
    have hnoauthority : given.authority = none := by
      cases ha : given.authority with
      | none => rfl
      | some authority => exact absurd (slash_of_authority hgiven.valid hgiven.foremost ha) hslash
    have hnothing := hgiven.authority
    rw [hnoauthority] at hnothing
    obtain ⟨hu, hh, hp⟩ := hnothing
    have hjoined : joinedAuthority uri = [] := (joinedAuthority_eq_nil hgiven.authority).mpr ⟨hu, Or.inl hh, hp⟩
    refine iff_of_false ?_ fun hfits => hfits.2.2.1.elim (absurd hu) fun hor => hor.elim (absurd hh) (absurd hp)
    rintro ⟨-, ⟨-, hhost, -⟩, hpath, -⟩
    rw [hjoined, List.nil_append] at hauthority hrest
    have hreadAuthority := hread.authority
    have hlength : (preparedPath context given.path).length ≤ read.path.length := by
      rw [hread.path, hgiven.path, Option.map_some, Option.some_inj] at hpath
      rw [hpath]
      exact preparedPath_length_le context given.path
    rw [hauthority] at hreadAuthority hrest
    cases htake : (preparedPath context given.path ++ preparedTail context url uri).takeWhile (noneOf (lit "/?#")) with
    | nil =>
        rw [htake] at hreadAuthority
        rw [hreadAuthority.2.1, hh] at hhost
        cases hhost
    | cons c authority =>
        rw [htake, component_some, List.append_nil, List.append_assoc] at hrest
        have hboth := congrArg (List.takeWhile (noneOf (lit "?#"))) (List.append_cancel_left hrest)
        have hplain : ∀ d ∈ c :: authority, noneOf (lit "?#") d = true := fun d hd =>
          noneOf_delimiters (List.mem_takeWhile_imp (htake ▸ hd))
        rw [List.takeWhile_append_of_pos hplain, takeWhile_append_of_stopsAt hread.valid.path read.stopsAt_tail,
          takeWhile_append_stops stopsAt_preparedTail] at hboth
        have hle := (List.takeWhile_prefix (p := noneOf (lit "?#")) (l := preparedPath context given.path)).length_le
        rw [← hboth, List.length_append, List.length_cons] at hle
        omega

/-- A prepared URL without a scheme. -/
theorem sameResource_of_no_scheme (hgiven : ReadAs url uri given) (hread : ReadAs (prepareUrl context url) prepared read)
    (h : gfal2ParseUri url = ⟨some uri, none⟩) (hscheme : uri.scheme = none)
    (hjoins : ∀ joined ∈ preparedUri context url, gfal2JoinUri joined ≠ none) :
    SameResource context url uri prepared ↔
      (∀ c ∈ urldecodeChars given.path, isPlainPathChar c = true) ∧ '#' ∉ queryArgs context url ∧
        uri.userinfo = none ∧ uri.host = none ∧ uri.port = 0 ∧ context.normalizes = false ∧
        ¬lit "//" <+: urldecodeChars given.path ∧
        ¬∃ scheme rest, scheme ≠ [] ∧ (∀ c ∈ scheme, noneOf (lit ":/?#") c = true) ∧
          urldecodeChars given.path = scheme ++ ':' :: rest := by
  have htext : read.text = joinedAuthority uri ++ (preparedPath context given.path ++ preparedTail context url uri) := by
    rw [hread.text, prepareUrl_eq h hgiven.path hjoins, hscheme, component_none, List.nil_append]
    rfl
  have hnothing : read.authority = none → prepared.userinfo = none ∧ prepared.host = none ∧ prepared.port = 0 := by
    intro ha
    have hauthority := hread.authority
    rw [ha] at hauthority
    exact hauthority
  constructor
  · rintro ⟨hreadScheme, ⟨hu, hh, hp⟩, hpath, hquery⟩
    rw [hread.scheme, hscheme] at hreadScheme
    have hrest : component (lit "//") read.authority [] ++ (read.path ++ read.tail) =
        joinedAuthority uri ++ (preparedPath context given.path ++ preparedTail context url uri) := by
      rw [← htext, UriPieces.text, hreadScheme, component_none, List.nil_append]
    have hjoined : joinedAuthority uri = [] := by
      cases hj : joinedAuthority uri with
      | nil => rfl
      | cons c authority =>
          have hc := joinedAuthority_chars hgiven.authority hgiven.valid.authority c (by rw [hj]; exact List.mem_cons_self)
          have hnone : read.authority = none := by
            cases ha : read.authority with
            | none => rfl
            | some a =>
                rw [ha, hj, component_some, List.append_nil] at hrest
                have hhead : '/' = c := (List.cons.inj hrest).1
                exact absurd hc (by rw [← hhead]; decide)
          obtain ⟨hu', hh', hp'⟩ := hnothing hnone
          exact hj.symm.trans ((joinedAuthority_eq_nil hgiven.authority).mpr
            ⟨hu.symm.trans hu', Or.inl (hh.symm.trans hh'), hp.symm.trans hp'⟩)
    rw [hjoined, List.nil_append] at hrest
    -- the path that is read is as long as that which was put there, so that no slashes were taken from it
    have hwanted : read.path = wantedPath context given.path := by
      rw [hread.path, hgiven.path, Option.map_some, Option.some_inj] at hpath
      exact hpath
    have hnone : read.authority = none := by
      cases ha : read.authority with
      | none => rfl
      | some a =>
          exfalso
          rw [ha, component_some, List.append_nil, List.append_assoc] at hrest
          have hplain : ∀ d ∈ a, noneOf (lit "?#") d = true := fun d hd => noneOf_delimiters (hread.valid.authority a ha d hd)
          have hboth := congrArg (List.takeWhile (noneOf (lit "?#"))) hrest
          rw [List.takeWhile_append_of_pos (by decide), List.takeWhile_append_of_pos hplain,
            takeWhile_append_of_stopsAt hread.valid.path read.stopsAt_tail, takeWhile_append_stops stopsAt_preparedTail] at hboth
          have hle := (List.takeWhile_prefix (p := noneOf (lit "?#")) (l := preparedPath context given.path)).length_le
          rw [← hboth, List.length_append, List.length_append, hwanted] at hle
          have hless := preparedPath_length_le context given.path
          have htwo : (lit "//").length = 2 := rfl
          omega
    obtain ⟨hu', hh', hp'⟩ := hnothing hnone
    have hnoslashes : ∀ w, preparedPath context given.path ++ preparedTail context url uri ≠ lit "//" ++ w := by
      intro w hw
      have hsome := hread.foremost.authority w (hrest.trans hw)
      rw [hnone] at hsome
      cases hsome
    have hnormalizes : context.normalizes = false := by
      by_contra hnormalizes
      rw [Bool.not_eq_false] at hnormalizes
      have hpadded : ∃ rest, paddedPath given.path = '/' :: '/' :: rest := by
        rw [paddedPath]
        split
        case isTrue hthree =>
            obtain ⟨rest, hrest⟩ := List.isPrefixOf_iff_prefix.mp hthree
            exact ⟨'/' :: rest, hrest.symm⟩
        case isFalse =>
            split
            case isTrue htwo => exact ⟨'/' :: given.path.drop 2, by
              obtain ⟨rest, hrest⟩ := List.isPrefixOf_iff_prefix.mp htwo
              rw [← hrest]
              rfl⟩
            case isFalse => exact ⟨given.path, rfl⟩
      obtain ⟨rest, hpadded⟩ := hpadded
      have hprepared : preparedPath context given.path = '/' :: '/' :: gfal2Urldecode rest := by
        rw [preparedPath, hnormalizes, if_pos rfl, hpadded, gfal2Urldecode, urldecodeChars_slash, urldecodeChars_slash,
          List.takeWhile_cons_of_pos (by decide), List.takeWhile_cons_of_pos (by decide)]
        rfl
      exact hnoslashes (gfal2Urldecode rest ++ preparedTail context url uri) (by rw [hprepared]; rfl)
    have hdecoded : wantedPath context given.path = urldecodeChars given.path := by
      rw [wantedPath, hnormalizes, if_neg (by simp)]
    rw [hnone, component_none, List.nil_append] at hrest
    have hplain : ∀ c ∈ urldecodeChars given.path, isPlainPathChar c = true := by
      have htake := congrArg (List.takeWhile (noneOf (lit "?#"))) hrest
      rw [takeWhile_append_of_stopsAt hread.valid.path read.stopsAt_tail, takeWhile_append_stops stopsAt_preparedTail, hwanted,
        hdecoded, preparedPath, hnormalizes, if_neg (by simp), gfal2Urldecode] at htake
      intro c hc
      have hboth := takeWhile_takeWhile_eq_iff.mp htake.symm c hc
      rw [isPlainPathChar, hboth.1, hboth.2]
      rfl
    have hput : preparedPath context given.path = urldecodeChars given.path := by
      rw [preparedPath, hnormalizes, if_neg (by simp), gfal2Urldecode, List.takeWhile_eq_self_iff]
      intro c hc
      exact (Bool.and_eq_true _ _ ▸ hplain c hc : _ ∧ _).2
    refine ⟨hplain, ?_, hu.symm.trans hu', hh.symm.trans hh', hp.symm.trans hp', hnormalizes, ?_, ?_⟩
    · have hplainQuery : ∀ s ∈ uri.query, ∀ c ∈ s, noneOf (lit "#") c = true := hgiven.query ▸ hgiven.valid.query
      refine (wantedQuery_plain_iff hplainQuery).mp ?_
      rw [← hquery, hread.query]
      exact hread.valid.query
    · rintro ⟨rest, hrest'⟩
      exact hnoslashes (rest ++ preparedTail context url uri) (by rw [hput, ← hrest', List.append_assoc])
    · rintro ⟨scheme, rest, hne, hchars, hrest'⟩
      refine hread.foremost.scheme hreadScheme scheme (rest ++ preparedTail context url uri) hne hchars ?_
      rw [htext, hjoined, hput, hrest']
      simp [lit]
  · rintro ⟨hplain, hargs, hu, hh, hp, hnormalizes, hnoslashes, hnoscheme⟩
    have hjoined : joinedAuthority uri = [] := (joinedAuthority_eq_nil hgiven.authority).mpr ⟨hu, Or.inl hh, hp⟩
    have hput : preparedPath context given.path = urldecodeChars given.path := by
      rw [preparedPath, hnormalizes, if_neg (by simp), gfal2Urldecode, List.takeWhile_eq_self_iff]
      intro c hc
      exact (Bool.and_eq_true _ _ ▸ hplain c hc : _ ∧ _).2
    rw [hjoined, List.nil_append, hput] at htext
    have htail : ∀ c ∈ (preparedTail context url uri).head?, c ∈ lit "?#" := fun c hc =>
      noneOf_eq_false.mp (stopsAt_preparedTail c hc)
    have hreadScheme : read.scheme = none := by
      cases hs : read.scheme with
      | none => rfl
      | some scheme =>
          exfalso
          obtain ⟨hne, hchars⟩ := hread.valid.scheme scheme hs
          rw [UriPieces.text_of_scheme hs] at htext
          rcases List.append_eq_append_iff.mp htext.symm with ⟨middle, hmiddle, hafter⟩ | ⟨middle, hmiddle, hafter⟩
          · cases middle with
            | nil =>
                rw [List.nil_append] at hafter
                have hin := htail ':' (by rw [hafter]; rfl)
                exact absurd hin (by decide)
            | cons c middle =>
                have hin := htail c (by rw [hafter]; rfl)
                have hc := hchars c (by rw [hmiddle]; exact List.mem_append_right _ List.mem_cons_self)
                rw [noneOf_eq_true] at hc
                exact hc (List.mem_cons_of_mem _ (List.mem_cons_of_mem _ hin))
          · cases middle with
            | nil =>
                rw [List.nil_append] at hafter
                have hin := htail ':' (by rw [← hafter]; rfl)
                exact absurd hin (by decide)
            | cons c middle =>
                obtain ⟨rfl, -⟩ := List.cons.inj hafter
                exact hnoscheme ⟨scheme, middle, hne, hchars, hmiddle⟩
    have hrest : component (lit "//") read.authority [] ++ (read.path ++ read.tail) =
        urldecodeChars given.path ++ preparedTail context url uri := by
      rw [← htext, UriPieces.text, hreadScheme, component_none, List.nil_append]
    have hnone : read.authority = none := by
      cases ha : read.authority with
      | none => rfl
      | some a =>
          exfalso
          rw [ha, component_some, List.append_nil, List.append_assoc] at hrest
          have hfirst : '/' :: '/' :: (a ++ (read.path ++ read.tail)) = urldecodeChars given.path ++ preparedTail context url uri := hrest
          cases hd : urldecodeChars given.path with
          | nil =>
              rw [hd, List.nil_append] at hfirst
              exact absurd (htail '/' (by rw [← hfirst]; rfl)) (by decide)
          | cons c decoded =>
              rw [hd] at hfirst
              obtain ⟨rfl, hsecond⟩ := List.cons.inj hfirst
              cases decoded with
              | nil =>
                  have hhead : (preparedTail context url uri).head? = some '/' := congrArg List.head? hsecond.symm
                  exact absurd (htail '/' hhead) (by decide)
              | cons d decoded =>
                  obtain ⟨rfl, -⟩ := List.cons.inj hsecond
                  exact hnoslashes (by rw [hd]; exact ⟨decoded, rfl⟩)
    rw [hnone, component_none, List.nil_append] at hrest
    have hpath : read.path = urldecodeChars given.path := by
      have htake := congrArg (List.takeWhile (noneOf (lit "?#"))) hrest
      rw [takeWhile_append_of_stopsAt hread.valid.path read.stopsAt_tail, takeWhile_append_stops stopsAt_preparedTail] at htake
      rw [htake, List.takeWhile_eq_self_iff]
      intro c hc
      exact (Bool.and_eq_true _ _ ▸ hplain c hc : _ ∧ _).1
    obtain ⟨hu', hh', hp'⟩ := hnothing hnone
    refine ⟨hread.scheme.trans (hreadScheme.trans hscheme.symm), ⟨hu'.trans hu.symm, hh'.trans hh.symm, hp'.trans hp.symm⟩, ?_, ?_⟩
    · rw [hread.path, hgiven.path, Option.map_some, wantedPath, hnormalizes, if_neg (by simp), hpath]
    · have hplainQuery : ∀ s ∈ uri.query, ∀ c ∈ s, noneOf (lit "#") c = true := hgiven.query ▸ hgiven.valid.query
      let wanted : UriPieces := ⟨none, none, [], wantedQuery context url uri.query, uri.fragment⟩
      rw [hpath] at hrest
      have htails : read.tail = wanted.tail := List.append_cancel_left hrest
      rw [hread.query]
      exact (UriPieces.tail_injective hread.valid.query ((wantedQuery_plain_iff hplainQuery).mpr hargs) htails).1

end Reading

/-- The path of a URL, as parsing reads it. -/
def pathOf (url : CString) : Option CString := (gfal2ParseUri url).val.bind (·.path)

/-- The file a URL names at its endpoint: its decoded path, without the slashes in front. -/
def fileOf (url : CString) : Option CString := (pathOf url).map fun path => (urldecodeChars path).dropWhile (· = '/')

theorem keepsResource_iff (context : XrootdContext) (url : CString) : KeepsResource context url ↔ PreparesPlainly context url := by
  obtain ⟨uri, huri⟩ := gfal2ParseUri_total url
  obtain ⟨prepared, hprepared⟩ := gfal2ParseUri_total (prepareUrl context url)
  obtain ⟨given, hgiven⟩ := exists_readAs huri
  obtain ⟨read, hread⟩ := exists_readAs hprepared
  have hkeeps : KeepsResource context url ↔
      (∀ joined ∈ preparedUri context url, gfal2JoinUri joined ≠ none) ∧ SameResource context url uri prepared := by
    constructor
    · rintro ⟨uri', prepared', huri', hprepared', hboth⟩
      rw [huri] at huri'
      rw [hprepared] at hprepared'
      cases huri'
      cases hprepared'
      exact hboth
    · exact fun hboth => ⟨uri, prepared, huri, hprepared, hboth⟩
  have hjoins := @joins_iff context _ _ _ huri hgiven.path
  rw [hkeeps]
  constructor
  · rintro ⟨hfits, hsame⟩
    refine ⟨uri, given.path, huri, hgiven.path, ?_⟩
    cases hscheme : uri.scheme with
    | some scheme =>
        obtain ⟨hplain, hargs, hread, hport, hpath⟩ := (sameResource_of_scheme hgiven hread huri hscheme hfits).mp hsame
        exact ⟨hplain, hargs, hread, hport, hpath, hjoins.mp hfits (by simp [hscheme])⟩
    | none => exact (sameResource_of_no_scheme hgiven hread huri hscheme hfits).mp hsame
  · rintro ⟨uri', path, huri', hpath, hplain, hargs, hrest⟩
    rw [huri] at huri'
    cases huri'
    rw [hgiven.path, Option.some_inj] at hpath
    subst hpath
    cases hscheme : uri.scheme with
    | some scheme =>
        rw [hscheme] at hrest
        obtain ⟨hauthority, hport, hpath, hall⟩ := hrest
        have hfits := hjoins.mpr fun _ => hall
        exact ⟨hfits, (sameResource_of_scheme hgiven hread huri hscheme hfits).mpr ⟨hplain, hargs, hauthority, hport, hpath⟩⟩
    | none =>
        rw [hscheme] at hrest
        have hfits := hjoins.mpr (absurd hscheme)
        exact ⟨hfits, (sameResource_of_no_scheme hgiven hread huri hscheme hfits).mpr ⟨hplain, hargs, hrest⟩⟩

/-- A URL that is prepared names the same resource just when no delimiter is in the way and its components fit their array; two of
those with one path name one file. -/
theorem prepared_url_keeps_resource_iff (context : XrootdContext) (url : CString) :
    (KeepsResource context url ↔ PreparesPlainly context url) ∧
      ∀ url', PreparesPlainly context url → PreparesPlainly context url' →
        pathOf (prepareUrl context url) = pathOf (prepareUrl context url') → fileOf url = fileOf url' := by
  refine ⟨keepsResource_iff context url, fun url' hurl hurl' hpaths => ?_⟩
  have hslashes : ∀ (n : Nat) (path : CString), (urldecodeChars (List.replicate n '/' ++ path)).dropWhile (· = '/') =
      (urldecodeChars path).dropWhile (· = '/') := fun n path => by
    rw [urldecodeChars_slashes, List.dropWhile_append_of_pos]
    exact fun c hc => by simp [(List.mem_replicate.mp hc).2]
  have hwanted : ∀ path, (wantedPath context path).dropWhile (· = '/') = (urldecodeChars path).dropWhile (· = '/') := by
    intro path
    rw [wantedPath]
    split
    · rw [atLeastThreeSlashes]
      split
      · rfl
      · have hleft : path = List.replicate (path.takeWhile (· = '/')).length '/' ++ path.dropWhile (· = '/') := by
          conv_lhs => rw [← List.takeWhile_append_dropWhile (p := (· = '/')) (l := path)]
          congr 1
          refine List.eq_replicate_iff.mpr ⟨rfl, fun c hc => ?_⟩
          simpa using List.mem_takeWhile_imp hc
        have hthree : lit "///" = List.replicate 3 '/' := rfl
        calc (urldecodeChars (lit "///" ++ path.dropWhile (· = '/'))).dropWhile (· = '/')
          _ = (urldecodeChars (path.dropWhile (· = '/'))).dropWhile (· = '/') := by rw [hthree, hslashes]
          _ = (urldecodeChars path).dropWhile (· = '/') := by
            conv_rhs => rw [hleft, hslashes]
    · rfl
  have hfile : ∀ {url : CString}, PreparesPlainly context url →
      (pathOf (prepareUrl context url)).map (·.dropWhile (· = '/')) = fileOf url := by
    intro url hurl
    obtain ⟨uri, prepared, huri, hprepared, -, -, -, hpath, -⟩ := (keepsResource_iff context url).mpr hurl
    rw [fileOf, pathOf, pathOf, huri, hprepared]
    show prepared.path.map _ = uri.path.map _
    rw [hpath, Option.map_map]
    exact Option.map_congr fun path _ => hwanted path
  rw [← hfile hurl, ← hfile hurl', hpaths]

theorem prepared_url_keeps_resource_plain : KeepsResource {} (lit "root://h/%20") ∧
    fileOf (lit "root://h/%20") = fileOf (lit "root://h//%20") := by
  have hplainly : ∀ path ∈ [lit "/%20", lit "//%20"], PreparesPlainly {} (lit "root://h" ++ path) := by
    intro path hpath
    refine ⟨{ scheme := some (lit "root"), host := some (lit "h"), path := some path, original := lit "root://h" ++ path },
      path, ?_, rfl, ?_, List.not_mem_nil, Or.inr (Or.inl (by simp)), Nat.two_pow_pos 31, ?_, by simp⟩ <;>
      revert path <;> decide +kernel
  have hboth := prepared_url_keeps_resource_iff {} (lit "root://h/%20")
  have hone := hplainly (lit "/%20") (by simp)
  exact ⟨hboth.1.mpr hone, hboth.2 (lit "root://h//%20") hone (hplainly (lit "//%20") (by simp)) (by decide +kernel)⟩

/-- A question mark that is encoded in a path becomes the beginning of the query. -/
theorem encoded_question_mark_ends_path : ¬∀ (context : XrootdContext) (url : CString), KeepsResource context url ∧
    ∀ url', pathOf (prepareUrl context url) = pathOf (prepareUrl context url') → fileOf url = fileOf url' := by
  intro hall
  have hfiles := (hall {} (lit "root://h/%3F")).2 (lit "root://h/") (by decide +kernel)
  revert hfiles
  decide +kernel

end Gfal2
