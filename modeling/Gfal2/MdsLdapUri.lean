import Gfal2.Base.Buffer
import Gfal2.Base.Tokens
import Gfal2.MdsEndpoints

/-! The text of `ldap://` addresses that the setting of the BDII is made into, in a buffer of the caller. The position that is
written to advances by the lengths of the texts, not by what of them is stored. -/

namespace Gfal2

open Base

/-- `+=` on a `size_t`. -/
def addSize (i n : Nat) : Nat := (i + n) % 2 ^ 64

/-- The difference of two values of type `size_t`. -/
def subSize (size i : Nat) : Nat := (size + (2 ^ 64 - i % 2 ^ 64)) % 2 ^ 64

/-- `i += g_strlcpy(buff + i, text, s_buff - i)`. -/
def appendText (sBuff : Nat) (text : CString) (i : Nat) (buff : Buffer) : Option (Nat × Buffer) := do
  let buff ← buff.strlcpy i text (subSize sBuff i)
  return (addSize i text.length, buff)

/-- The loop over the names of a setting. -/
def appendUris (sBuff : Nat) : List CString → Nat → Buffer → Option (Nat × Buffer)
  | [], i, buff => some (i, buff)
  | token :: rest, i, buff =>
      if i < sBuff then do
        let (i, buff) ← appendText sBuff (lit "ldap://") i buff
        let (i, buff) ← appendText sBuff token i buff
        let (i, buff) ← appendText sBuff (lit ",") i buff
        appendUris sBuff rest i buff
      else some (i, buff)

def noBdii : GError :=
  mdsError EINVAL (lit " no valid value for BDII found: please, configure the plugin properly, " ++
    lit "or try setting in the environment LCG_GFAL_INFOSYS")

/-- `gfal_mds_get_ldapuri`, for the setting in the environment and the one in the configuration. -/
def gfalMdsGetLdapuri (environment configured : Option CString) (buff : Buffer) (sBuff : Nat) : Option (Except GError Buffer) :=
  match environment.or configured with
  | none => some (.error noBdii)
  | some [] => some (.error noBdii)
  | some (c :: setting) => do
      let buff ← buff.store 0 nul
      let (i, buff) ← appendUris sBuff (tokens ',' (c :: setting)) 0 buff
      -- the comma after the last address
      let buff ← buff.store (subSize i 1) nul
      return .ok buff

/-! ### What is stored -/

section Text

variable {buff : Buffer} {i : Nat} (text : CString)

theorem addSize_eq {n : Nat} (h : i + n < 2 ^ 64) : addSize i n = i + n := Nat.mod_eq_of_lt h

theorem subSize_eq {size : Nat} (hle : i ≤ size) (hsize : size < 2 ^ 64) : subSize size i = size - i := by
  unfold subSize
  omega

/-- Text that reaches into the buffer leaves what is before it, and it is there in full if its end is in the buffer. -/
theorem appendText_eq (hi : i ≤ buff.length) (hbuff : buff.length < 2 ^ 63) (htext : text.length < 2 ^ 63) :
    ∃ buff', appendText buff.length text i buff = some (i + text.length, buff') ∧ buff'.length = buff.length ∧
      buff'.take i = buff.take i ∧ (i + text.length < buff.length → buff'.take (i + text.length) = buff.take i ++ text) := by
  obtain ⟨buff', hstore, hlength⟩ := Buffer.strlcpy_isSome text (show i + (buff.length - i) ≤ buff.length by omega)
  refine ⟨buff', ?_, hlength, ?_, fun hend => ?_⟩
  · rw [appendText, subSize_eq hi (by omega), hstore, addSize_eq (by omega)]
    rfl
  · unfold Buffer.strlcpy at hstore
    by_cases hzero : buff.length - i = 0
    · rw [if_pos hzero] at hstore
      cases hstore
      rfl
    · rw [if_neg hzero, Buffer.storeAll_eq (by simp; omega)] at hstore
      cases hstore
      rw [List.append_assoc, List.take_left' (List.length_take_of_le hi)]
  · rw [Buffer.strlcpy_eq (by omega) (by omega)] at hstore
    cases hstore
    rw [← List.append_assoc, List.append_assoc, List.take_left']
    rw [List.length_append, List.length_take_of_le hi]

/-- Past the end of the buffer, what is left of it counts as large. -/
theorem appendText_eq_none (hi : buff.length < i) (hlarge : i < 2 ^ 64) : appendText buff.length text i buff = none := by
  have hsize : subSize buff.length i ≠ 0 := by
    unfold subSize
    omega
  have hnone : buff.strlcpy i text (subSize buff.length i) = none := by
    rw [Buffer.strlcpy, if_neg hsize]
    exact Buffer.storeAll_eq_none (by simp) (by omega)
  rw [appendText, hnone]
  rfl

end Text

/-! ### The whole list -/

/-- What the addresses of some names take, a comma after each. -/
def uriLength (names : List CString) : Nat := (names.map fun name => name.length + 8).sum

/-- The addresses, with a comma between them. -/
def ldapUris (names : List CString) : CString := (lit ",").intercalate (names.map (lit "ldap://" ++ ·))

theorem length_scheme : (lit "ldap://").length = 7 := rfl

theorem length_comma : (lit ",").length = 1 := rfl

theorem uriLength_cons (name : CString) (names : List CString) : uriLength (name :: names) = name.length + 8 + uriLength names := rfl

theorem uriLength_append (left right : List CString) : uriLength (left ++ right) = uriLength left + uriLength right := by
  rw [uriLength, List.map_append, List.sum_append]
  rfl

theorem uriLength_pos {names : List CString} (h : names ≠ []) : 0 < uriLength names := by
  obtain ⟨name, names, rfl⟩ := List.exists_cons_of_ne_nil h
  rw [uriLength_cons]
  omega

theorem ldapUris_singleton (name : CString) : ldapUris [name] = lit "ldap://" ++ name := by
  rw [ldapUris, List.map_singleton, List.intercalate_singleton]

theorem ldapUris_cons {name : CString} {names : List CString} (h : names ≠ []) :
    ldapUris (name :: names) = lit "ldap://" ++ name ++ lit "," ++ ldapUris names := by
  rw [ldapUris, List.map_cons, List.intercalate_cons_of_ne_nil (by simpa using h)]
  rfl

/-- The list is shorter by the comma that is removed. -/
theorem length_ldapUris {names : List CString} (h : names ≠ []) : (ldapUris names).length + 1 = uriLength names := by
  induction names with
  | nil => exact absurd rfl h
  | cons name names ih =>
      cases names with
      | nil =>
          rw [ldapUris_singleton, List.length_append, length_scheme, uriLength_cons]
          show 7 + name.length + 1 = name.length + 8 + 0
          omega
      | cons next names =>
          have hrest := ih (List.cons_ne_nil next names)
          rw [ldapUris_cons (List.cons_ne_nil _ _), List.length_append, List.length_append, List.length_append, length_scheme,
            length_comma, uriLength_cons]
          omega

section Loop

variable {buff : Buffer} {i : Nat} {token : CString} (rest : List CString)

/-- An address that fits with its comma, of which the last may be the place of the NUL. -/
theorem appendUris_cons_of_fits (hbuff : buff.length < 2 ^ 63) (hfits : i + (token.length + 8) ≤ buff.length) :
    ∃ buff', appendUris buff.length (token :: rest) i buff = appendUris buff.length rest (i + (token.length + 8)) buff' ∧
      buff'.length = buff.length ∧
      buff'.take (i + (token.length + 7)) = buff.take i ++ (lit "ldap://" ++ token) ∧
      (i + (token.length + 8) < buff.length →
        buff'.take (i + (token.length + 8)) = buff.take i ++ (lit "ldap://" ++ token ++ lit ",")) := by
  obtain ⟨first, hfirst, hlength₁, -, htake₁⟩ :=
    appendText_eq (lit "ldap://") (show i ≤ buff.length by omega) hbuff (length_scheme.trans_lt (by omega))
  obtain ⟨second, hsecond, hlength₂, -, htake₂⟩ :=
    appendText_eq token (show i + 7 ≤ first.length by omega) (by omega) (by omega)
  obtain ⟨third, hthird, hlength₃, hbefore₃, htake₃⟩ :=
    appendText_eq (lit ",") (show i + 7 + token.length ≤ second.length by omega) (by omega)
      (length_comma.trans_lt (by omega))
  rw [length_scheme] at hfirst htake₁
  rw [length_comma] at hthird htake₃
  rw [hlength₁] at hsecond htake₂
  rw [hlength₂, hlength₁] at hthird htake₃
  have hsum : i + 7 + token.length = i + (token.length + 7) := by omega
  have hwritten : second.take (i + 7 + token.length) = buff.take i ++ (lit "ldap://" ++ token) := by
    rw [htake₂ (by omega), htake₁ (by omega), List.append_assoc]
  refine ⟨third, ?_, by omega, ?_, fun hlt => ?_⟩
  · rw [appendUris, if_pos (by omega)]
    simp only [hfirst, hsecond, hthird, Option.bind_eq_bind, Option.bind_some]
    congr 1
    omega
  · rw [← hsum, hbefore₃, hwritten]
  · have hend : i + (token.length + 8) = i + 7 + token.length + 1 := by omega
    rw [hend, htake₃ (by omega), hwritten, List.append_assoc, List.append_assoc]

/-- An address that does not fit leads out of the buffer, at the latest with the comma. -/
theorem appendUris_cons_of_exceeds (hbuff : buff.length < 2 ^ 63) (htoken : token.length < 2 ^ 63) (hi : i < buff.length)
    (hexceeds : buff.length < i + (token.length + 8)) :
    appendUris buff.length (token :: rest) i buff = none ∨
      ∃ buff', appendUris buff.length (token :: rest) i buff = some (buff.length + 1, buff') ∧ buff'.length = buff.length := by
  obtain ⟨first, hfirst, hlength₁, -, -⟩ :=
    appendText_eq (lit "ldap://") (show i ≤ buff.length by omega) hbuff (length_scheme.trans_lt (by omega))
  rw [length_scheme] at hfirst
  rw [appendUris, if_pos hi]
  simp only [hfirst, Option.bind_eq_bind, Option.bind_some]
  by_cases houtside : buff.length < i + 7
  · left
    rw [← hlength₁, appendText_eq_none _ (by omega) (by omega)]
    rfl
  · obtain ⟨second, hsecond, hlength₂, -, -⟩ :=
      appendText_eq token (show i + 7 ≤ first.length by omega) (by omega) htoken
    rw [hlength₁] at hsecond
    simp only [hsecond, Option.bind_some]
    by_cases hname : buff.length < i + 7 + token.length
    · left
      rw [← hlength₁, ← hlength₂, appendText_eq_none _ (by omega) (by omega)]
      rfl
    · right
      obtain ⟨third, hthird, hlength₃, -, -⟩ :=
        appendText_eq (lit ",") (show i + 7 + token.length ≤ second.length by omega) (by omega)
          (length_comma.trans_lt (by omega))
      rw [hlength₂, hlength₁, length_comma] at hthird
      refine ⟨third, ?_, by omega⟩
      simp only [hthird, Option.bind_some]
      have hend : i + 7 + token.length + 1 = buff.length + 1 := by omega
      rw [hend]
      cases rest with
      | nil => rfl
      | cons next rest => rw [appendUris, if_neg (by omega)]

end Loop

/-- Whether the loop ends inside a buffer of a size: at the end of the list, or where the first addresses fill the buffer. -/
def EndsWithin (names : List CString) (size : Nat) : Prop :=
  names ≠ [] ∧ ∃ shown, shown <+: names ∧ uriLength shown ≤ size ∧ (shown = names ∨ uriLength shown = size)

section Run

variable {buff : Buffer} {i : Nat}

/-- Addresses up to the end of the list, or up to the end of the buffer, are written with commas between them. -/
theorem appendUris_of_fits (hbuff : buff.length < 2 ^ 63) {shown rest : List CString} (hshown : shown ≠ [])
    (hfits : i + uriLength shown ≤ buff.length) (hend : rest = [] ∨ i + uriLength shown = buff.length) :
    ∃ buff', appendUris buff.length (shown ++ rest) i buff = some (i + uriLength shown, buff') ∧ buff'.length = buff.length ∧
      buff'.take (i + uriLength shown - 1) = buff.take i ++ ldapUris shown := by
  induction shown generalizing i buff with
  | nil => exact absurd rfl hshown
  | cons name shown ih =>
      rw [uriLength_cons] at hfits hend ⊢
      obtain ⟨next, hstep, hlength, htake, hcomma⟩ :=
        appendUris_cons_of_fits (shown ++ rest) hbuff (show i + (name.length + 8) ≤ buff.length by omega)
      rw [List.cons_append, hstep]
      by_cases hlast : shown = []
      · subst hlast
        have hzero : uriLength [] = 0 := rfl
        rw [hzero, Nat.add_zero] at hend ⊢
        have hstop : appendUris buff.length ([] ++ rest) (i + (name.length + 8)) next = some (i + (name.length + 8), next) := by
          rw [List.nil_append]
          cases rest with
          | nil => rfl
          | cons other rest =>
              have hfull := hend.resolve_left (List.cons_ne_nil _ _)
              rw [appendUris, if_neg (by omega)]
        exact ⟨next, hstop, hlength, by rw [ldapUris_singleton]; exact htake⟩
      · have hpos := uriLength_pos hlast
        have hsum : i + (name.length + 8) + uriLength shown = i + (name.length + 8 + uriLength shown) := by omega
        rw [← hsum] at hfits hend ⊢
        rw [← hlength] at hbuff hfits hend
        obtain ⟨buff', hrun, hlength', htake'⟩ := ih hbuff hlast hfits hend
        rw [hlength] at hrun
        refine ⟨buff', hrun, hlength'.trans hlength, ?_⟩
        rw [htake', hcomma (by omega), ldapUris_cons hlast, List.append_assoc]

/-- Where neither the list nor some first addresses end within the buffer, an access is outside it, or the position is. -/
theorem appendUris_of_exceeds (hbuff : buff.length < 2 ^ 63) {names : List CString} (hnames : ∀ name ∈ names, name.length < 2 ^ 63)
    (hi : i < buff.length) (hexceeds : buff.length < i + uriLength names)
    (hnever : ∀ shown, shown <+: names → i + uriLength shown ≠ buff.length) :
    appendUris buff.length names i buff = none ∨
      ∃ buff', appendUris buff.length names i buff = some (buff.length + 1, buff') ∧ buff'.length = buff.length := by
  induction names generalizing i buff with
  | nil =>
      have hzero : uriLength [] = 0 := rfl
      omega
  | cons name names ih =>
      obtain ⟨hname, hrest⟩ := List.forall_mem_cons.mp hnames
      rw [uriLength_cons] at hexceeds
      by_cases hfits : i + (name.length + 8) ≤ buff.length
      · obtain ⟨next, hstep, hlength, -, -⟩ := appendUris_cons_of_fits names hbuff hfits
        have hne : i + (name.length + 8) ≠ buff.length := hnever [name] (List.prefix_append [name] names)
        rw [hstep, ← hlength]
        refine ih (by omega) hrest (by omega) (by omega) fun shown hshown => ?_
        have hmore := hnever (name :: shown) ((List.prefix_cons_inj name).mpr hshown)
        rw [uriLength_cons] at hmore
        omega
      · exact appendUris_cons_of_exceeds names hbuff hname hi (by omega)

end Run

/-! ### The settings -/

/-- A setting, which is stored as any object of a program: in less than half of the address space. -/
structure BdiiSetting where
  text : CString
  nul_notMem : nul ∉ text
  length_lt : text.length < 2 ^ 63

/-- The array of a caller. -/
structure UriBuffer where
  buff : Buffer
  length_pos : 0 < buff.length
  length_lt : buff.length < 2 ^ 63

namespace BdiiSetting

/-- The names that are not empty, in their order. -/
def names (setting : BdiiSetting) : List CString := words ',' setting.text

theorem length_lt_of_mem_names {setting : BdiiSetting} {name : CString} (hname : name ∈ setting.names) : name.length < 2 ^ 63 :=
  (length_le_of_mem_words hname).trans_lt setting.length_lt

theorem nul_notMem_ldapUris {setting : BdiiSetting} {shown : List CString} (hshown : ∀ name ∈ shown, name ∈ setting.names) :
    nul ∉ ldapUris shown := by
  have hscheme : nul ∉ lit "ldap://" := by decide
  have hcomma : nul ∉ lit "," := by decide
  induction shown with
  | nil => exact List.not_mem_nil
  | cons name shown ih =>
      obtain ⟨hmem, hrest⟩ := List.forall_mem_cons.mp hshown
      have hname : nul ∉ name := fun h => setting.nul_notMem (mem_of_mem_words hmem h)
      by_cases hlast : shown = []
      · subst hlast
        rw [ldapUris_singleton, List.mem_append]
        exact not_or.mpr ⟨hscheme, hname⟩
      · rw [ldapUris_cons hlast]
        simp only [List.mem_append, not_or]
        exact ⟨⟨⟨hscheme, hname⟩, hcomma⟩, ih hrest⟩

end BdiiSetting

/-- What the buffer is to hold after the call. -/
structure ListsBdiis (setting : BdiiSetting) (size : Nat) (buff : Buffer) : Prop where
  length_eq : buff.length = size
  terminated : nul ∈ buff
  complete : (ldapUris setting.names).length < size → buff.takeWhile (· ≠ nul) = ldapUris setting.names

section Call

variable (environment configured : Option BdiiSetting) (room : UriBuffer)

/-- The call with a buffer of the caller. -/
def callLdapuri : Option (Except GError Buffer) :=
  gfalMdsGetLdapuri (environment.map (·.text)) (configured.map (·.text)) room.buff room.buff.length

/-- Without a setting, or with an empty one, the call fails; with another, it stays within the buffer and makes the list. -/
def BuildsList : Prop :=
  match (environment.or configured).filter (·.text ≠ []) with
  | none => callLdapuri environment configured room = some (.error noBdii)
  | some setting => ∃ buff, callLdapuri environment configured room = some (.ok buff) ∧ ListsBdiis setting room.buff.length buff

variable {environment configured room} {setting : BdiiSetting}

theorem callLdapuri_of_empty (h : (environment.or configured).filter (·.text ≠ []) = none) :
    callLdapuri environment configured room = some (.error noBdii) := by
  rw [callLdapuri, gfalMdsGetLdapuri, ← Option.map_or]
  cases hsetting : environment.or configured with
  | none => rfl
  | some setting =>
      rw [hsetting] at h
      have hempty : setting.text = [] := by simpa [Option.filter] using h
      rw [Option.map_some, hempty]

variable (hsetting : environment.or configured = some setting) (hne : setting.text ≠ [])
include hsetting hne

theorem callLdapuri_of_setting : callLdapuri environment configured room =
      (appendUris room.buff.length setting.names 0 (room.buff.set 0 nul)).bind fun last =>
        (last.2.store (subSize last.1 1) nul).bind fun buff => some (.ok buff) := by
  obtain ⟨c, rest, htext⟩ := List.exists_cons_of_ne_nil hne
  rw [callLdapuri, gfalMdsGetLdapuri, ← Option.map_or, hsetting, Option.map_some, htext]
  simp only [Buffer.store_eq room.length_pos, tokens_eq_words, ← htext, Option.bind_eq_bind, Option.bind_some]
  rfl

/-- The list that a buffer has room for, or as much of it as fills the buffer. -/
theorem lists_of_endsWithin (hends : EndsWithin setting.names room.buff.length) :
    ∃ buff, callLdapuri environment configured room = some (.ok buff) ∧ ListsBdiis setting room.buff.length buff := by
  obtain ⟨hnames, shown, ⟨rest, hrest⟩, hfits, hwhich⟩ := hends
  have hpos := room.length_pos
  have hlt := room.length_lt
  have hshown : shown ≠ [] := by
    rintro rfl
    have hzero : uriLength [] = 0 := rfl
    rcases hwhich with h | h
    · exact hnames h.symm
    · omega
  have hend : rest = [] ∨ 0 + uriLength shown = (room.buff.set 0 nul).length := by
    rw [Nat.zero_add, List.length_set]
    refine hwhich.imp_left fun h => ?_
    rw [h] at hrest
    exact List.self_eq_append_right.mp hrest.symm
  obtain ⟨buff, hrun, hlength, htake⟩ :=
    appendUris_of_fits (by rw [List.length_set]; exact hlt) hshown (by rw [Nat.zero_add, List.length_set]; exact hfits) hend
  rw [List.length_set] at hrun hlength
  rw [Nat.zero_add] at hrun htake
  rw [hrest] at hrun
  have hlen := length_ldapUris hshown
  have hlast : uriLength shown - 1 < buff.length := by omega
  have hsub : subSize (uriLength shown) 1 = uriLength shown - 1 := subSize_eq (by omega) (by omega)
  have hbuff : buff.set (uriLength shown - 1) nul = ldapUris shown ++ nul :: buff.drop (uriLength shown - 1 + 1) := by
    rw [List.set_eq_take_append_cons_drop, if_pos hlast, htake]
    rfl
  refine ⟨buff.set (uriLength shown - 1) nul, ?_, ?_, ?_, fun hroom => ?_⟩
  · rw [callLdapuri_of_setting hsetting hne, hrun, Option.bind_some, hsub, Buffer.store_eq hlast]
    rfl
  · rw [List.length_set, hlength]
  · rw [hbuff]
    exact List.mem_append_right _ List.mem_cons_self
  · have hall : shown = setting.names := by
      rcases hwhich with h | h
      · exact h
      · -- a name that is not shown would not fit
        have hsum := congrArg uriLength hrest
        have hwhole := length_ldapUris hnames
        rw [uriLength_append] at hsum
        have hnone : rest = [] := by
          by_contra hsome
          have := uriLength_pos hsome
          omega
        rw [hnone, List.append_nil] at hrest
        exact hrest
    have hno : nul ∉ ldapUris shown := BdiiSetting.nul_notMem_ldapUris fun name hname => hall ▸ hname
    rw [hbuff, List.takeWhile_append_of_pos fun c hc => by simpa using ne_of_mem_of_not_mem hc hno, ← hall]
    simp

/-- Commas alone make the call store before its buffer, and a list that is cut off within an address behind it. -/
theorem callLdapuri_of_not_endsWithin
    (hends : ¬EndsWithin setting.names room.buff.length) : callLdapuri environment configured room = none := by
  have hpos := room.length_pos
  have hlt := room.length_lt
  have hlength : (room.buff.set 0 nul).length = room.buff.length := List.length_set
  rw [callLdapuri_of_setting hsetting hne]
  by_cases hnames : setting.names = []
  · have hbefore : subSize 0 1 = 2 ^ 64 - 1 := rfl
    have hstore : Buffer.store (room.buff.set 0 nul) (2 ^ 64 - 1) nul = none := if_neg (by omega)
    rw [hnames, appendUris, Option.bind_some, hbefore, hstore]
    rfl
  · have hexceeds : (room.buff.set 0 nul).length < 0 + uriLength setting.names := by
      by_contra hfits
      exact hends ⟨hnames, setting.names, List.prefix_rfl, by omega, .inl rfl⟩
    have hnever : ∀ shown, shown <+: setting.names → 0 + uriLength shown ≠ (room.buff.set 0 nul).length := by
      intro shown hshown hfull
      exact hends ⟨hnames, shown, hshown, by omega, .inr (by omega)⟩
    have hrun := appendUris_of_exceeds (by omega) (fun _ => BdiiSetting.length_lt_of_mem_names) (by omega) hexceeds hnever
    rw [hlength] at hrun
    rcases hrun with hnone | ⟨buff, hsome, hbuff⟩
    · rw [hnone]
      rfl
    · have hafter : subSize (room.buff.length + 1) 1 = room.buff.length := subSize_eq (by omega) (by omega)
      have hstore : buff.store room.buff.length nul = none := if_neg (by omega)
      rw [hsome, Option.bind_some, hafter, hstore]
      rfl

end Call

/-- The list is built within the buffer exactly if there is a name in it, and the loop ends inside the buffer. -/
theorem ldapuri_in_bounds_iff (environment configured : Option BdiiSetting) (room : UriBuffer) :
    BuildsList environment configured room ↔
      ∀ setting ∈ environment.or configured, setting.text ≠ [] → EndsWithin setting.names room.buff.length := by
  unfold BuildsList
  cases hsetting : (environment.or configured).filter (·.text ≠ []) with
  | none =>
      refine iff_of_true (callLdapuri_of_empty hsetting) fun setting hmem hne => ?_
      rw [Option.mem_def.mp hmem] at hsetting
      simp [Option.filter, hne] at hsetting
  | some setting =>
      obtain ⟨hsome, hne⟩ := Option.filter_eq_some_iff.mp hsetting
      have hne : setting.text ≠ [] := of_decide_eq_true hne
      constructor
      · rintro ⟨buff, hcall, -⟩ other hother -
        obtain rfl : setting = other := Option.some.inj (hsome.symm.trans hother)
        by_contra hends
        rw [callLdapuri_of_not_endsWithin hsome hne hends] at hcall
        cases hcall
      · intro h
        exact lists_of_endsWithin hsome hne (h setting hsome hne)

/-- A comma alone, with the buffer that is given for it. -/
theorem comma_stored_before_buffer : ¬BuildsList none (some ⟨lit ",", by decide, by decide⟩)
      ⟨List.replicate urlMaxLen nul, by rw [List.length_replicate]; decide, by rw [List.length_replicate]; decide⟩ := by
  have hnames : words ',' (lit ",") = [] := words_delim []
  have hnone := fun room => @callLdapuri_of_not_endsWithin none _ room ⟨lit ",", by decide, by decide⟩ rfl
    (List.cons_ne_nil _ _) fun h => h.1 hnames
  rintro ⟨buff, hcall, -⟩
  rw [hnone] at hcall
  cases hcall

end Gfal2
