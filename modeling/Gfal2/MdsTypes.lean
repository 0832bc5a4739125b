import Mathlib.Data.Set.Finite.Lattice
import Gfal2.MdsDiscovery

/-! The types that are reported of the endpoints of a host. What the BDII answers is always reported right. -/

namespace Gfal2

open Base

/-! ### What should be reported -/

/-- An attribute of an LDAP entry begins with a value. -/
def HasText (entry : LdapEntry) (attr text : CString) : Prop := ∃ others, (attr, text :: others) ∈ entry

/-- The beginning of the versions of a type of SRM endpoint. -/
def versionStart (type : MdsTypeEndpoint) : CString := if type = .srmv2 then lit "2." else lit "1."

/-- An LDAP entry for an SRM endpoint of a type, with its URL as far as a slot reaches. -/
def LdapEndpoint (entry : LdapEntry) (type : MdsTypeEndpoint) (url : CString) : Prop :=
  ∃ name version endpoint, HasText entry (lit "GlueServiceType") name ∧ HasText entry (lit "GlueServiceVersion") version ∧
    HasText entry (lit "GlueServiceEndpoint") endpoint ∧ sameText (name.take 3) (lit "srm") = true ∧
      version.take 2 = versionStart type ∧ url = endpoint.take (urlMaxLen - 1)

/-- An entry of a cache for an endpoint of a type, with its URL as far as a slot reaches. -/
def CachedEndpoint (cache : List CacheEntry) (type : MdsTypeEndpoint) (url : CString) : Prop :=
  ∃ entry ∈ cache, entry.mdsType = type ∧ url = entry.endpoint.take (urlMaxLen - 1)

/-- There is an endpoint of a type: in the cache, or in the BDII if nothing in the cache begins with the host. -/
def KnownEndpoint (cache : List CacheEntry) (search : CString → Except GError (List LdapEntry)) (host : CString)
    (type : MdsTypeEndpoint) (url : CString) : Prop :=
  if cache.any (CacheEntry.begins host) then CachedEndpoint cache type url
  else ∃ entries, search host = .ok entries ∧ ∃ entry ∈ entries, LdapEndpoint entry type url

/-- Only endpoints of version 2 are reported as such, and only endpoints of version 1 as the others. -/
def ReportsTypes (select : SelectSingleNode) (cache : List CacheEntry) (search : CString → Except GError (List LdapEntry))
    (host : CString) : Prop :=
  ∀ tabend : List GfalMdsEndpoint, tabend.length = mdsMaxSrmEndpoint → ∃ answer,
    gfalMdsGetSeTypesAndEndpoints select (some cache) search host tabend = some answer ∧
      answer.seEndpoints.length = answer.seTypes.length ∧ ∀ reported ∈ answer.seEndpoints.zip answer.seTypes,
        (reported.2 = lit "srm_v2" → KnownEndpoint cache search host .srmv2 reported.1) ∧
          (reported.2 = lit "srm_v1" → KnownEndpoint cache search host .srmv1 reported.1)

def reportedType (type : MdsTypeEndpoint) : MdsTypeEndpoint := if type = .srmv2 then .srmv2 else .srmv1

/-- What an entry is looked up as has a text and a known type, and is an SRM endpoint of the type that is reported for it. -/
def SafelyReported (select : SelectSingleNode) (cache : List CacheEntry) (entry : CacheEntry) : Prop :=
  ∃ found, FoundAs select cache entry found ∧ found.endpoint ≠ [] ∧ found.mdsType ≠ .unknownEndpointType ∧
    CachedEndpoint cache (reportedType found.mdsType) (found.endpoint.take (urlMaxLen - 1))

/-! ### The BDII -/

section Bdii

theorem eq_of_strncmp {a attr : CString} (hlength : attr.length < urlMaxLen)
    (h : strncmp a attr urlMaxLen = 0) : a = attr := by
  have htake : a.take urlMaxLen = attr := by
    rw [(strcmp_eq_zero_iff _ _).mp h, List.take_of_length_le hlength.le]
  have hshort : a.length ≤ urlMaxLen := by
    have hmin := congrArg List.length htake
    rw [List.length_take] at hmin
    omega
  rwa [List.take_of_length_le hshort] at htake

/-- What was read of an attribute: nothing, or a first value of it as far as the buffer reaches. -/
def ReadOf (entry : LdapEntry) (attr text : CString) : Prop :=
  text = [] ∨ ∃ value, HasText entry attr value ∧ text = value.take urlMaxLen

/-- What was read of an entry. -/
structure SrmInformation.Of (entry : LdapEntry) (info : SrmInformation) : Prop where
  name : ReadOf entry (lit "GlueServiceType") info.name
  version : ReadOf entry (lit "GlueServiceVersion") info.version
  endpoint : ReadOf entry (lit "GlueServiceEndpoint") info.endpoint

variable {entry : LdapEntry}

theorem readAttributes_of {rest : LdapEntry} {info info' : SrmInformation} (hrest : rest ⊆ entry) (hinfo : info.Of entry)
    (h : readAttributes rest info = .ok info') : info'.Of entry := by
  induction rest generalizing info with
  | nil =>
      cases h
      exact hinfo
  | cons attr rest ih =>
      obtain ⟨a, values⟩ := attr
      obtain ⟨hmem, hsubset⟩ := List.cons_subset.mp hrest
      cases values with
      | nil => exact ih hsubset hinfo h
      | cons value others =>
          have hread : ∀ name : CString, name.length < urlMaxLen → strncmp a name urlMaxLen = 0 →
              ReadOf entry name (value.take urlMaxLen) := by
            intro name hlength hname
            rw [eq_of_strncmp hlength hname] at hmem
            exact .inr ⟨value, ⟨others, hmem⟩, rfl⟩
          unfold readAttributes at h
          by_cases hversion : strncmp a (lit "GlueServiceVersion") urlMaxLen = 0
          · rw [if_pos hversion] at h
            refine ih hsubset ?_ h
            exact ⟨hinfo.name, hread _ (by decide) hversion, hinfo.endpoint⟩
          · rw [if_neg hversion] at h
            by_cases hendpoint : strncmp a (lit "GlueServiceEndpoint") urlMaxLen = 0
            · rw [if_pos hendpoint] at h
              refine ih hsubset ?_ h
              exact ⟨hinfo.name, hinfo.version, hread _ (by decide) hendpoint⟩
            · rw [if_neg hendpoint] at h
              by_cases hname : strncmp a (lit "GlueServiceType") urlMaxLen = 0
              · rw [if_pos hname] at h
                refine ih hsubset ?_ h
                exact ⟨hread _ (by decide) hname, hinfo.version, hinfo.endpoint⟩
              · rw [if_neg hname] at h
                cases h

theorem ReadOf.hasText {attr text : CString} (h : ReadOf entry attr text) (hne : text ≠ []) :
    ∃ value, HasText entry attr value ∧ text = value.take urlMaxLen :=
  h.resolve_left hne

theorem except_bind_eq_ok {E α β : Type} {first : Except E α} {next : α → Except E β} {value : β} (h : first >>= next = .ok value) :
    ∃ middle, first = .ok middle ∧ next middle = .ok value := by
  cases first with
  | error e => cases h
  | ok middle => exact ⟨middle, rfl, h⟩

theorem srmVersionType_spec {version : CString} {type : MdsTypeEndpoint} (h : srmVersionType version = .ok type) :
    (type = .srmv2 ∨ type = .srmv1) ∧ version.take 2 = versionStart type := by
  unfold srmVersionType at h
  by_cases hone : strncmp version (lit "1.") 2 = 0
  · rw [if_pos hone] at h
    cases h
    exact ⟨.inr rfl, (strcmp_eq_zero_iff _ _).mp hone⟩
  · rw [if_neg hone] at h
    by_cases htwo : strncmp version (lit "2.") 2 = 0
    · rw [if_pos htwo] at h
      cases h
      exact ⟨.inl rfl, (strcmp_eq_zero_iff _ _).mp htwo⟩
    · rw [if_neg htwo] at h
      cases h

theorem structBuilder_spec {info : SrmInformation} (hinfo : info.Of entry) {endpoint : GfalMdsEndpoint}
    (h : gfalMdsSrmEndpointStructBuilder info = .ok endpoint) :
    (endpoint.type = .srmv2 ∨ endpoint.type = .srmv1) ∧ LdapEndpoint entry endpoint.type endpoint.url := by
  unfold gfalMdsSrmEndpointStructBuilder at h
  by_cases hname : strncasecmp info.name (lit "SRM") 3 = 0
  · rw [if_neg (not_not.mpr hname)] at h
    obtain ⟨type, htype, hrest⟩ := except_bind_eq_ok h
    have hurl : strstr info.endpoint (lit ":/") = true := by
      by_contra hnone
      rw [if_neg hnone] at hrest
      cases hrest
    rw [if_pos hurl] at hrest
    cases hrest
    obtain ⟨hknown, hstart⟩ := srmVersionType_spec htype
    have hlower : (info.name.map Char.toLower).take 3 = (lit "srm") := (strcmp_eq_zero_iff _ _).mp hname
    obtain ⟨name, hhasName, hnameText⟩ := hinfo.name.hasText (by
      rintro hnil
      rw [hnil] at hlower
      cases hlower)
    obtain ⟨version, hhasVersion, hversionText⟩ := hinfo.version.hasText (by
      rintro hnil
      rw [hnil] at hstart
      rcases hknown with rfl | rfl <;> cases hstart)
    obtain ⟨text, hhasEndpoint, hendpointText⟩ := hinfo.endpoint.hasText (by
      rintro hnil
      rw [hnil] at hurl
      cases hurl)
    refine ⟨hknown, name, version, text, hhasName, hhasVersion, hhasEndpoint, ?_, ?_, ?_⟩
    · rw [hnameText, ← List.map_take, List.take_take] at hlower
      exact decide_eq_true hlower
    · rw [← hstart, hversionText, List.take_take]
      rfl
    · change info.endpoint.take (urlMaxLen - 1) = _
      rw [hendpointText, List.take_take]
      rfl
  · rw [if_pos hname] at h
    cases h

theorem convertEntry_spec {value : GfalMdsEndpoint} (h : gfalMdsConvertEntryToSrmInformation entry = .ok (some value)) :
    (value.type = .srmv2 ∨ value.type = .srmv1) ∧ LdapEndpoint entry value.type value.url := by
  obtain ⟨info, hinfo, hrest⟩ := except_bind_eq_ok h
  have hof : info.Of entry := readAttributes_of (List.Subset.refl _) ⟨.inl rfl, .inl rfl, .inl rfl⟩ hinfo
  by_cases hcount : info.count > 0
  · rw [if_pos hcount] at hrest
    obtain ⟨endpoint, hendpoint, hvalue⟩ := except_bind_eq_ok hrest
    cases hvalue
    exact structBuilder_spec hof hendpoint
  · rw [if_neg hcount] at hrest
    cases hrest

/-- What is stored of the entries of a result are endpoints of the types that they are stored with. -/
theorem convertEntries_spec {entries : List LdapEntry} {slots : Nat} {values : List GfalMdsEndpoint}
    (h : convertEntries entries slots = .ok values) :
    ∀ value ∈ values, (value.type = .srmv2 ∨ value.type = .srmv1) ∧ ∃ entry ∈ entries, LdapEndpoint entry value.type value.url := by
  induction entries generalizing slots values with
  | nil =>
      cases h
      exact nofun
  | cons entry entries ih =>
      unfold convertEntries at h
      by_cases hslots : slots = 0
      · rw [if_pos hslots] at h
        cases h
        exact nofun
      · rw [if_neg hslots] at h
        have hlift : ∀ {values : List GfalMdsEndpoint} {slots : Nat}, convertEntries entries slots = .ok values →
            ∀ value ∈ values, (value.type = .srmv2 ∨ value.type = .srmv1) ∧
              ∃ other ∈ entry :: entries, LdapEndpoint other value.type value.url := by
          intro values slots hvalues value hvalue
          obtain ⟨htype, other, hother, hendpoint⟩ := ih hvalues value hvalue
          exact ⟨htype, other, List.mem_cons_of_mem _ hother, hendpoint⟩
        obtain ⟨converted, hconverted, hrest⟩ := except_bind_eq_ok h
        cases converted with
        | none => exact hlift hrest
        | some endpoint =>
            obtain ⟨others, hothers, hvalues⟩ := except_bind_eq_ok hrest
            cases hvalues
            refine List.forall_mem_cons.mpr ⟨?_, hlift hothers⟩
            obtain ⟨htype, hendpoint⟩ := convertEntry_spec hconverted
            exact ⟨htype, entry, List.mem_cons_self, hendpoint⟩

end Bdii

/-! ### The types -/

section Types

variable {select : SelectSingleNode} {cache : List CacheEntry} {search : CString → Except GError (List LdapEntry)} {host : CString}

/-- What is reported of filled slots is right if each is an endpoint of the type that is reported for it. -/
def SlotsRight (cache : List CacheEntry) (search : CString → Except GError (List LdapEntry)) (host : CString)
    (slots : List GfalMdsEndpoint) : Prop :=
  ∀ value ∈ slots, KnownEndpoint cache search host (reportedType value.type) value.url

theorem seTypeName_eq_iff (type : MdsTypeEndpoint) :
    (seTypeName type = lit "srm_v2" ↔ reportedType type = .srmv2) ∧ (seTypeName type = lit "srm_v1" ↔ reportedType type = .srmv1) := by
  unfold seTypeName reportedType
  split <;> decide

theorem reportedType_cases (type : MdsTypeEndpoint) : reportedType type = .srmv2 ∨ reportedType type = .srmv1 := by
  unfold reportedType
  split
  · exact .inl rfl
  · exact .inr rfl

theorem zip_right_iff {slots : List GfalMdsEndpoint} : (∀ reported ∈ (slots.map (·.url)).zip (slots.map (seTypeName ·.type)),
        (reported.2 = lit "srm_v2" → KnownEndpoint cache search host .srmv2 reported.1) ∧
          (reported.2 = lit "srm_v1" → KnownEndpoint cache search host .srmv1 reported.1)) ↔
      SlotsRight cache search host slots := by
  unfold SlotsRight
  rw [List.zip_map', List.forall_mem_map]
  refine forall₂_congr fun value _ => ?_
  rw [(seTypeName_eq_iff value.type).1, (seTypeName_eq_iff value.type).2]
  constructor
  · intro h
    rcases reportedType_cases value.type with htype | htype
    · rw [htype]
      exact h.1 htype
    · rw [htype]
      exact h.2 htype
  · intro h
    constructor
    · intro htype
      rwa [htype] at h
    · intro htype
      rwa [htype] at h

/-- What is reported is right just where the slots that are filled are. -/
theorem reportsTypes_iff_slots : ReportsTypes select cache search host ↔
    ∀ tabend : List GfalMdsEndpoint, tabend.length = mdsMaxSrmEndpoint → ∃ outcome,
      gfalMdsResolveSrmEndpoint select (some cache) search host tabend = some outcome ∧
        ∀ slots, outcome = .ok slots → SlotsRight cache search host slots := by
  refine forall₂_congr fun tabend _ => ?_
  unfold gfalMdsGetSeTypesAndEndpoints
  cases gfalMdsResolveSrmEndpoint select (some cache) search host tabend with
  | none => exact iff_of_false nofun nofun
  | some outcome =>
      cases outcome with
      | error e => exact iff_of_true ⟨_, rfl, rfl, nofun⟩ ⟨_, rfl, nofun⟩
      | ok slots =>
          have hanswer : ∃ ret, (if slots = [] then some { ret := -1 }
              else some { ret := 0, seTypes := slots.map (seTypeName ·.type), seEndpoints := slots.map (·.url) }) =
                some (⟨ret, slots.map (seTypeName ·.type), slots.map (·.url), none⟩ : SeTypesAndEndpoints) := by
            by_cases hslots : slots = []
            · subst hslots
              exact ⟨-1, rfl⟩
            · exact ⟨0, if_neg hslots⟩
          obtain ⟨ret, hanswer⟩ := hanswer
          change (∃ answer, (if slots = [] then some _ else some _) = some answer ∧ _) ↔ _
          rw [hanswer]
          simp only [Option.some.injEq, exists_eq_left', Except.ok.injEq, forall_eq', List.length_map, true_and]
          exact zip_right_iff

theorem begins_take_eq_nil_iff : (cache.filter (CacheEntry.begins host)).take mdsMaxSrmEndpoint = [] ↔
    cache.any (CacheEntry.begins host) = false := by
  rw [List.take_eq_nil_iff, List.filter_eq_nil_iff, List.any_eq_false]
  exact or_iff_right (by decide)

/-- The BDII reports what it has. -/
theorem bdii_right (hnone : cache.any (CacheEntry.begins host) = false) {slots : Nat} {values : List GfalMdsEndpoint}
    (h : gfalMdsBdiiGetSrmEndpoint search host slots = .ok values) : SlotsRight cache search host values := by
  obtain ⟨entries, hentries, hrest⟩ := except_bind_eq_ok h
  have hconverted : convertEntries entries slots = .ok values := by
    unfold gfalMdsGetSrmTypesEndpoint at hrest
    split at hrest
    · cases hrest
    · exact hrest
  intro value hvalue
  obtain ⟨htype, entry, hentry, hendpoint⟩ := convertEntries_spec hconverted value hvalue
  have hsame : reportedType value.type = value.type := by
    rcases htype with htype | htype <;> rw [htype] <;> rfl
  unfold KnownEndpoint
  rw [if_neg (by rw [hnone]; exact Bool.false_ne_true), hsame]
  exact ⟨entries, hentries, entry, hentry, hendpoint⟩

/-- A value is right if it is what is stored for an entry that is safely reported. -/
theorem safelyReported_iff {entry : CacheEntry} : SafelyReported select cache entry ↔
    ∃ value, Stores select cache entry value ∧ CachedEndpoint cache (reportedType value.type) value.url := by
  unfold SafelyReported Stores
  simp only [CacheEntry.slot?_eq_some]
  constructor
  · rintro ⟨found, hfound, hne, hknown, hendpoint⟩
    exact ⟨_, ⟨found, hfound, hne, hknown, rfl⟩, hendpoint⟩
  · rintro ⟨value, ⟨found, hfound, hne, hknown, rfl⟩, hendpoint⟩
    exact ⟨found, hfound, hne, hknown, hendpoint⟩

/-- Values are chosen for the elements of a list one by one. -/
theorem forall_mem_exists_iff {α β : Type} {related : α → β → Prop} {p : β → Prop} {l : List α} :
    (∀ a ∈ l, ∃ b, related a b ∧ p b) ↔ ∃ values, List.Forall₂ related l values ∧ ∀ b ∈ values, p b := by
  induction l with
  | nil => exact iff_of_true nofun ⟨[], .nil, nofun⟩
  | cons a l ih =>
      rw [List.forall_mem_cons, ih]
      constructor
      · rintro ⟨⟨b, hrelated, hb⟩, values, hvalues, hall⟩
        exact ⟨b :: values, .cons hrelated hvalues, List.forall_mem_cons.mpr ⟨hb, hall⟩⟩
      · rintro ⟨_, hvalues, hall⟩
        cases hvalues with
        | cons hrelated hrest =>
            obtain ⟨hb, hothers⟩ := List.forall_mem_cons.mp hall
            exact ⟨⟨_, hrelated, hb⟩, _, hrest, hothers⟩

/-- What is found in the cache is what is resolved. -/
theorem resolve_of_lookUp {tabend : List GfalMdsEndpoint} {stored : List (Option GfalMdsEndpoint)}
    (hlookUp : lookUp select cache ((cache.filter (CacheEntry.begins host)).take tabend.length) = some stored)
    (hne : stored ≠ []) : gfalMdsResolveSrmEndpoint select (some cache) search host tabend =
      some (.ok ((overlay stored tabend).take stored.length)) := by
  unfold gfalMdsResolveSrmEndpoint
  rw [gfalMdsCacheResolveEndpoint_eq, hlookUp]
  exact if_pos (List.length_pos_iff.mpr hne)

/-- There is a text that no entry has. -/
theorem exists_unknown_url (cache : List CacheEntry) : ∃ url : CString, ∀ type, ¬CachedEndpoint cache type url := by
  obtain ⟨url, hurl⟩ := Infinite.exists_notMem_finset (cache.map fun entry => entry.endpoint.take (urlMaxLen - 1)).toFinset
  refine ⟨url, fun type => ?_⟩
  rintro ⟨entry, hentry, -, rfl⟩
  exact hurl (List.mem_toFinset.mpr (List.mem_map_of_mem hentry))

/-- The types are right just where the first entries that begin with the host are safely reported. -/
theorem reportsTypes_iff (hselect : SelectsFirst select) : ReportsTypes select cache search host ↔
    ∀ entry ∈ (cache.filter (CacheEntry.begins host)).take mdsMaxSrmEndpoint, SafelyReported select cache entry := by
  rw [reportsTypes_iff_slots]
  simp only [safelyReported_iff]
  by_cases hnone : cache.any (CacheEntry.begins host) = false
  · have hempty := begins_take_eq_nil_iff.mpr hnone
    rw [hempty]
    refine iff_of_true (fun tabend hlength => ?_) nofun
    unfold gfalMdsResolveSrmEndpoint
    rw [gfalMdsCacheResolveEndpoint_eq, hlength, hempty]
    exact ⟨_, rfl, fun values hvalues => bdii_right hnone hvalues⟩
  · have hany : cache.any (CacheEntry.begins host) = true := Bool.eq_true_of_not_eq_false hnone
    have hbegun := mt begins_take_eq_nil_iff.mp hnone
    have hright : ∀ slots, SlotsRight cache search host slots ↔
        ∀ value ∈ slots, CachedEndpoint cache (reportedType value.type) value.url := by
      intro slots
      exact forall₂_congr fun value _ => iff_of_eq (if_pos hany)
    simp only [hright]
    rw [forall_mem_exists_iff]
    constructor
    · intro h
      -- a table of slots that would not be right
      obtain ⟨url, hurl⟩ := exists_unknown_url cache
      obtain ⟨outcome, hrun, hslots⟩ := h (List.replicate mdsMaxSrmEndpoint ⟨url, .webDav⟩) List.length_replicate
      cases hlookUp : lookUp select cache ((cache.filter (CacheEntry.begins host)).take mdsMaxSrmEndpoint) with
      | none =>
          unfold gfalMdsResolveSrmEndpoint at hrun
          rw [gfalMdsCacheResolveEndpoint_eq, List.length_replicate, hlookUp] at hrun
          cases hrun
      | some stored =>
          have hcount := length_lookUp hlookUp
          have hne : stored ≠ [] := by
            rintro rfl
            exact hbegun (List.length_eq_zero_iff.mp hcount.symm)
          obtain ⟨more, hmore⟩ : ∃ more, mdsMaxSrmEndpoint = stored.length + more :=
            Nat.exists_eq_add_of_le (hcount ▸ List.length_take_le _ _)
          rw [resolve_of_lookUp (by rw [List.length_replicate]; exact hlookUp) hne] at hrun
          have hfilled := hslots _ (Option.some.inj hrun).symm
          rw [hmore, overlay_replicate] at hfilled
          have hall := eq_map_some (fun hnone => hurl _ (hfilled _ (List.mem_map_of_mem hnone))) ⟨url, .webDav⟩
          rw [hall, lookUp_eq_some_iff hselect] at hlookUp
          exact ⟨_, hlookUp, hfilled⟩
    · rintro ⟨values, hvalues, hall⟩ tabend hlength
      have hcount := hvalues.length_eq
      have hne : values.map some ≠ [] := by
        rintro hnil
        rw [List.map_eq_nil_iff.mp hnil, List.length_nil] at hcount
        exact hbegun (List.length_eq_zero_iff.mp hcount)
      have hfits : values.length ≤ tabend.length := by
        rw [← hcount, hlength]
        exact List.length_take_le _ _
      refine ⟨_, resolve_of_lookUp (by rw [hlength]; exact (lookUp_eq_some_iff hselect).mpr hvalues) hne, fun slots hslots => ?_⟩
      cases hslots
      rw [overlay_eq rfl hfits, List.length_map, List.take_left]
      exact hall

end Types

/-- Discovery is exact just where the entries that begin with the host are of it, known, and found by their texts as what they are, and the
types are reported right just where what the first of them are found as are SRM endpoints of the versions that are reported. -/
theorem endpoint_discovery_exact_iff (select : SelectSingleNode) (hselect : SelectsFirst select) (cache : List CacheEntry)
    (search : CString → Except GError (List LdapEntry)) (host : CString) :
    (DiscoversExactly select cache host ↔ ∀ entry ∈ cache, entry.begins host = true → SafeEntry select cache host entry) ∧
      (ReportsTypes select cache search host ↔
        ∀ entry ∈ (cache.filter (CacheEntry.begins host)).take mdsMaxSrmEndpoint, SafelyReported select cache entry) :=
  ⟨discoversExactly_iff hselect, reportsTypes_iff hselect⟩

/-- Queries for texts, where a text with an apostrophe makes one that is not well formed. -/
def selectByText : SelectSingleNode := fun cache query =>
  let text := (query.drop 17).dropLast.dropLast
  if '\'' ∈ text then none else some (cache.find? (·.endpoint = text))

theorem selectsFirst_selectByText : SelectsFirst selectByText := by
  intro cache text hquote
  have htext : ((endpointQuery text).drop 17).dropLast.dropLast = text := by
    have hdrop : (endpointQuery text).drop 17 = text ++ lit "\x27" ++ lit "]" := by
      unfold endpointQuery
      rw [List.append_assoc, List.drop_left' (by decide), List.append_assoc]
      rfl
    rw [hdrop]
    change (text ++ ['\x27'] ++ [']']).dropLast.dropLast = text
    rw [List.dropLast_concat, List.dropLast_concat]
  unfold selectByText
  dsimp only
  rw [htext, if_neg hquote]

def twoVersions : List CacheEntry :=
  [⟨lit "httpg://test.domain.com:8442/srm/managerv2", lit "SRM", lit "2.2.0"⟩,
    ⟨lit "httpg://test.domain.com:8443/srm/managerv1", lit "SRM", lit "1.1"⟩]

def noEntries : CString → Except GError (List LdapEntry) := fun _ => .ok []

theorem two_versions_discovered : DiscoversExactly selectByText twoVersions (lit "test.domain.com") ∧
    ReportsTypes selectByText twoVersions noEntries (lit "test.domain.com") := by
  have hfound : ∀ entry ∈ twoVersions, FoundAs selectByText twoVersions entry entry := by
    unfold FoundAs
    decide
  have hiff := endpoint_discovery_exact_iff selectByText selectsFirst_selectByText twoVersions noEntries (lit "test.domain.com")
  have hsafe : ∀ entry ∈ twoVersions, sameText (hostOf (hostnameOf entry.endpoint)) (lit "test.domain.com") = true ∧
      entry.mdsType ≠ .unknownEndpointType ∧ entry.endpoint ≠ [] ∧ entry.endpoint.length < urlMaxLen ∧
        entry.endpoint.take (urlMaxLen - 1) = entry.endpoint := by
    decide
  refine ⟨hiff.1.mpr fun entry hentry _ => ?_, hiff.2.mpr fun entry hentry => ?_⟩
  · obtain ⟨hhost, hknown, hne, hshort, htext⟩ := hsafe entry hentry
    exact ⟨hhost, hknown, hne, hshort, entry, hfound entry hentry, htext, rfl⟩
  · have hmem : entry ∈ twoVersions := List.mem_of_mem_filter (List.mem_of_mem_take hentry)
    obtain ⟨-, hknown, hne, -, -⟩ := hsafe entry hmem
    have htype : ∀ entry ∈ twoVersions, reportedType entry.mdsType = entry.mdsType := by decide
    refine ⟨entry, hfound entry hmem, hne, hknown, entry, hmem, ?_, rfl⟩
    rw [htype entry hmem]

/-- An endpoint of another host is discovered that begins with the host, a slot is counted in which nothing is stored, and an
endpoint for WebDAV is reported as one of SRM. -/
theorem second_host_discovered :
    (gfalMdsCacheResolveEndpoint selectByText (some [⟨lit "httpg://second/srm", lit "SRM", lit "2.2"⟩]) (lit "se") [⟨[], .srmv1⟩] =
        some (1, [⟨lit "httpg://second/srm", .srmv2⟩]) ∧
      ¬DiscoversExactly selectByText [⟨lit "httpg://second/srm", lit "SRM", lit "2.2"⟩] (lit "se")) ∧
    (gfalMdsCacheResolveEndpoint selectByText (some [⟨lit "httpg://se/srm", lit "SRM", lit "3.0"⟩]) (lit "se") [⟨[], .srmv1⟩] =
        some (1, [⟨[], .srmv1⟩]) ∧
      ¬DiscoversExactly selectByText [⟨lit "httpg://se/srm", lit "SRM", lit "3.0"⟩] (lit "se")) ∧
    ((gfalMdsGetSeTypesAndEndpoints selectByText (some [⟨lit "https://se/", lit "webdav", []⟩]) noEntries (lit "se")
          (List.replicate mdsMaxSrmEndpoint ⟨[], .srmv1⟩)).map (fun answer => (answer.seEndpoints, answer.seTypes)) =
        some ([lit "https://se/"], [lit "srm_v1"]) ∧
      ¬ReportsTypes selectByText [⟨lit "https://se/", lit "webdav", []⟩] noEntries (lit "se")) := by
  refine ⟨⟨by decide, fun h => ?_⟩, ⟨by decide, fun h => ?_⟩, by decide, fun h => ?_⟩
  · have hsafe := (discoversExactly_iff selectsFirst_selectByText).mp h _ List.mem_cons_self (by decide)
    exact absurd hsafe.host (by decide)
  · have hsafe := (discoversExactly_iff selectsFirst_selectByText).mp h _ List.mem_cons_self (by decide)
    exact absurd hsafe.known (by decide)
  · obtain ⟨found, hfound, -, -, hcached⟩ := (reportsTypes_iff selectsFirst_selectByText).mp h _ List.mem_cons_self
    obtain ⟨entry, hentry, htype, -⟩ := hcached
    rw [List.mem_singleton.mp hentry] at htype
    rcases reportedType_cases found.mdsType with hreported | hreported
    · rw [hreported] at htype
      exact absurd htype (by decide)
    · rw [hreported] at htype
      exact absurd htype (by decide)

end Gfal2
