import Mathlib.Data.Fintype.EquivFin
import Gfal2.MdsEndpoints

/-! Discovery is exact for a host just where each entry of the cache that begins with it is of that host and is found again by its
text, and the types that are reported are right just where no entry for WebDAV is among those. -/

namespace Gfal2

open Base

/-! ### What should be discovered -/

/-- The host at the beginning of an authority without user information: what is in brackets, or what there is in front of a port. -/
def hostOf : CString → CString
  | '[' :: rest => '[' :: rest.takeWhile (· ≠ ']') ++ (rest.dropWhile (· ≠ ']')).take 1
  | authority => authority.takeWhile (· ∉ lit ":/?#")

namespace CacheEntry

def mdsType (entry : CacheEntry) : MdsTypeEndpoint := gfalMdsCacheType entry.type entry.version

/-- An entry of a host whose type and version are known. -/
def Wanted (host : CString) (entry : CacheEntry) : Prop :=
  sameText (hostOf (hostnameOf entry.endpoint)) host = true ∧ entry.mdsType ≠ .unknownEndpointType

instance (host : CString) : DecidablePred (Wanted host) := fun _ => inferInstanceAs (Decidable (_ ∧ _))

def slot (entry : CacheEntry) : GfalMdsEndpoint := ⟨entry.endpoint, entry.mdsType⟩

end CacheEntry

/-- Whatever a table holds, as many of its slots as there are entries of the host to put there are filled with these. -/
def DiscoversExactly (select : SelectSingleNode) (cache : List CacheEntry) (host : CString) : Prop :=
  ∀ endpoints : List GfalMdsEndpoint, ∃ n endpoints',
    gfalMdsCacheResolveEndpoint select (some cache) host endpoints = some (n, endpoints') ∧ n ≤ endpoints.length ∧
      endpoints'.length = endpoints.length ∧
        endpoints'.take n = ((cache.filter (CacheEntry.Wanted host)).take endpoints.length).map CacheEntry.slot

/-- A query for a text without an apostrophe selects the first of the entries with that text. -/
def SelectsFirst (select : SelectSingleNode) : Prop :=
  ∀ (cache : List CacheEntry) (text : CString), '\'' ∉ text →
    select cache (endpointQuery text) = some (cache.find? (·.endpoint = text))

/-- What an entry is looked up as: the first with its text, or what a query with an apostrophe in it selects. -/
def FoundAs (select : SelectSingleNode) (cache : List CacheEntry) (entry found : CacheEntry) : Prop :=
  if '\'' ∈ entry.endpoint then select cache (endpointQuery entry.endpoint) = some (some found)
  else cache.find? (·.endpoint = entry.endpoint) = some found

def Stores (select : SelectSingleNode) (cache : List CacheEntry) (entry : CacheEntry) (value : GfalMdsEndpoint) : Prop :=
  ∃ found, FoundAs select cache entry found ∧ found.slot? = some value

/-- An entry that begins with a host and comes into the table as what it is. -/
structure SafeEntry (select : SelectSingleNode) (cache : List CacheEntry) (host : CString) (entry : CacheEntry) : Prop where
  host : sameText (hostOf (hostnameOf entry.endpoint)) host = true
  known : entry.mdsType ≠ .unknownEndpointType
  nonempty : entry.endpoint ≠ []
  short : entry.endpoint.length < urlMaxLen
  found : ∃ found, FoundAs select cache entry found ∧ found.endpoint.take (urlMaxLen - 1) = entry.endpoint ∧
    found.mdsType = entry.mdsType

/-! ### The table -/

/-- Slots in which values are stored, and which keep what they hold where there is none. -/
def overlay : List (Option GfalMdsEndpoint) → List GfalMdsEndpoint → List GfalMdsEndpoint
  | value :: values, old :: slots => value.getD old :: overlay values slots
  | _, slots => slots

def lookUp (select : SelectSingleNode) (cache : List CacheEntry) : List CacheEntry → Option (List (Option GfalMdsEndpoint))
  | [] => some []
  | entry :: entries => do
      let found ← select cache (endpointQuery entry.endpoint)
      let others ← lookUp select cache entries
      return (found.getD ⟨[], [], []⟩).slot? :: others

section Table

variable {select : SelectSingleNode} {cache : List CacheEntry} {host : CString} {entry : CacheEntry}
  {stored : List (Option GfalMdsEndpoint)}

theorem length_lookUp {entries : List CacheEntry}
    (h : lookUp select cache entries = some stored) : stored.length = entries.length := by
  induction entries generalizing stored with
  | nil =>
      cases h
      rfl
  | cons entry entries ih =>
      obtain ⟨found, -, hrest⟩ := Option.bind_eq_some_iff.mp h
      obtain ⟨others, hothers, hlast⟩ := Option.bind_eq_some_iff.mp hrest
      cases hlast
      rw [List.length_cons, List.length_cons, ih hothers]

theorem gfalMdsCacheInsert_eq (before slots : List GfalMdsEndpoint) (old : GfalMdsEndpoint) (entry : Option CacheEntry) :
    gfalMdsCacheInsert (before ++ old :: slots) before.length entry =
      before ++ [((entry.getD ⟨[], [], []⟩).slot?).getD old] ++ slots := by
  unfold gfalMdsCacheInsert
  rw [if_neg (by simp)]
  cases (entry.getD ⟨[], [], []⟩).slot? with
  | none => simp
  | some slot => simp

/-- The loop stops at the end of the table, and looks up those entries that begin with the host. -/
theorem resolveEntries_eq (entries : List CacheEntry) (before slots : List GfalMdsEndpoint) :
    resolveEntries select cache host entries before.length (before ++ slots) =
      (lookUp select cache ((entries.filter (CacheEntry.begins host)).take slots.length)).map fun stored =>
        (before.length + stored.length, before ++ overlay stored slots) := by
  induction entries generalizing before slots with
  | nil => simp [resolveEntries, lookUp, overlay]
  | cons entry entries ih =>
      unfold resolveEntries
      cases slots with
      | nil => simp [lookUp, overlay]
      | cons old slots =>
          rw [if_pos (by simp)]
          by_cases hbegins : entry.begins host = true
          · rw [if_pos hbegins, List.filter_cons_of_pos hbegins, List.length_cons, List.take_succ_cons, lookUp]
            cases select cache (endpointQuery entry.endpoint) with
            | none => rfl
            | some found =>
                have hnext := ih (before ++ [((found.getD ⟨[], [], []⟩).slot?).getD old]) slots
                rw [List.length_append, List.length_singleton, ← gfalMdsCacheInsert_eq] at hnext
                refine hnext.trans ?_
                cases lookUp select cache ((entries.filter (CacheEntry.begins host)).take slots.length) with
                | none => rfl
                | some others => simp [overlay]; omega
          · rw [if_neg hbegins, List.filter_cons_of_neg hbegins]
            exact ih before (old :: slots)

theorem overlay_eq {values slots : List GfalMdsEndpoint} (h : stored = values.map some)
    (hlength : values.length ≤ slots.length) : overlay stored slots = values ++ slots.drop values.length := by
  subst h
  induction values generalizing slots with
  | nil => rfl
  | cons value values ih =>
      cases slots with
      | nil => simp at hlength
      | cons old slots =>
          rw [List.map_cons, overlay, ih (by simpa using hlength)]
          rfl

theorem length_overlay (stored : List (Option GfalMdsEndpoint)) (slots : List GfalMdsEndpoint) :
    (overlay stored slots).length = slots.length := by
  induction stored generalizing slots with
  | nil => rfl
  | cons value stored ih =>
      cases slots with
      | nil => rfl
      | cons old slots => rw [overlay, List.length_cons, List.length_cons, ih]

theorem overlay_replicate (stored : List (Option GfalMdsEndpoint)) (old : GfalMdsEndpoint) (n : Nat) :
    (overlay stored (List.replicate (stored.length + n) old)).take stored.length = stored.map (·.getD old) := by
  induction stored with
  | nil => rfl
  | cons value stored ih =>
      rw [List.length_cons, Nat.add_right_comm, List.replicate_succ, overlay, List.take_succ_cons, ih, List.map_cons]

/-- Values of which none is missing. -/
theorem eq_map_some (h : none ∉ stored) (old : GfalMdsEndpoint) : stored = (stored.map (·.getD old)).map some := by
  have hkept : ∀ value ∈ stored, (some ∘ fun value : Option GfalMdsEndpoint => value.getD old) value = id value := by
    intro value hvalue
    cases value with
    | none => exact absurd hvalue h
    | some value => rfl
  rw [List.map_map, List.map_congr_left hkept, List.map_id]

theorem hostOf_begins (authority : CString) : hostOf authority <+: authority := by
  unfold hostOf
  split
  · rename_i rest
    refine ⟨(rest.dropWhile (· ≠ ']')).drop 1, ?_⟩
    rw [List.cons_append, List.cons_append, List.append_assoc, List.take_append_drop, List.takeWhile_append_dropWhile]
  · exact List.takeWhile_prefix _

/-- An entry of a host begins with it. -/
theorem CacheEntry.begins_of_host (h : sameText (hostOf (hostnameOf entry.endpoint)) host = true) : entry.begins host = true := by
  have hsame : (hostOf (hostnameOf entry.endpoint)).map Char.toLower = host.map Char.toLower := of_decide_eq_true h
  have hprefix := (hostOf_begins (hostnameOf entry.endpoint)).map Char.toLower
  rw [hsame] at hprefix
  refine decide_eq_true ?_
  unfold strncasecmp strncmp
  rw [strcmp_eq_zero_iff, List.take_of_length_le (List.length_map _).le, List.prefix_iff_eq_take.mp hprefix, List.length_map]

theorem foundAs_iff (hselect : SelectsFirst select) {found : CacheEntry} :
    FoundAs select cache entry found ↔ select cache (endpointQuery entry.endpoint) = some (some found) := by
  unfold FoundAs
  split
  · rfl
  · rename_i hquote
    rw [hselect cache _ hquote, Option.some.injEq]

theorem CacheEntry.slot?_eq_some {value : GfalMdsEndpoint} : entry.slot? = some value ↔
    entry.endpoint ≠ [] ∧ entry.mdsType ≠ .unknownEndpointType ∧
      value = ⟨entry.endpoint.take (urlMaxLen - 1), entry.mdsType⟩ := by
  unfold CacheEntry.slot? CacheEntry.mdsType
  dsimp only
  split
  · rename_i hstored
    rw [Option.some.injEq, and_iff_right hstored.1, and_iff_right hstored.2, eq_comm]
  · rename_i hstored
    exact iff_of_false nofun fun h => hstored ⟨h.1, h.2.1⟩

theorem CacheEntry.slot?_eq_slot {found : CacheEntry} : found.slot? = some entry.slot ↔
    found.endpoint ≠ [] ∧ found.mdsType ≠ .unknownEndpointType ∧ found.endpoint.take (urlMaxLen - 1) = entry.endpoint ∧
      found.mdsType = entry.mdsType := by
  rw [slot?_eq_some, slot, GfalMdsEndpoint.mk.injEq, eq_comm (a := entry.endpoint), eq_comm (a := entry.mdsType)]

/-- An entry is safe if it is wanted and is looked up as what is stored of it. -/
theorem safeEntry_iff : SafeEntry select cache host entry ↔ entry.Wanted host ∧ Stores select cache entry entry.slot := by
  unfold Stores
  simp only [CacheEntry.slot?_eq_slot]
  constructor
  · intro h
    obtain ⟨found, hfound, htext, htype⟩ := h.found
    refine ⟨⟨h.host, h.known⟩, found, hfound, ?_, ?_, htext, htype⟩
    · rintro hnil
      rw [hnil] at htext
      exact h.nonempty htext.symm
    · rw [htype]
      exact h.known
  · rintro ⟨⟨hhost, hknown⟩, found, hfound, hne, -, htext, htype⟩
    have hlength : min 2047 found.endpoint.length = entry.endpoint.length := List.length_take.symm.trans (congrArg List.length htext)
    have hpos := List.length_pos_iff.mpr hne
    refine ⟨hhost, hknown, ?_, (by omega : entry.endpoint.length < 2048), found, hfound, htext, htype⟩
    rintro hnil
    rw [hnil, List.length_nil] at hlength
    omega

/-- Something is stored for each of the entries. -/
theorem lookUp_eq_some_iff (hselect : SelectsFirst select) {entries : List CacheEntry} {values : List GfalMdsEndpoint} :
    lookUp select cache entries = some (values.map some) ↔ List.Forall₂ (Stores select cache) entries values := by
  induction entries generalizing values with
  | nil =>
      rw [List.forall₂_nil_left_iff]
      cases values with
      | nil => exact iff_of_true rfl rfl
      | cons value values => exact iff_of_false nofun nofun
  | cons entry entries ih =>
      constructor
      · intro h
        obtain ⟨found, hfound, hrest⟩ := Option.bind_eq_some_iff.mp h
        obtain ⟨others, hothers, hlast⟩ := Option.bind_eq_some_iff.mp hrest
        cases values with
        | nil => cases hlast
        | cons value values =>
            obtain ⟨hhead, htail⟩ := List.cons.inj (Option.some.inj hlast)
            rw [htail] at hothers
            refine .cons ?_ (ih.mp hothers)
            cases found with
            | none => cases hhead
            | some found => exact ⟨found, (foundAs_iff hselect).mpr hfound, hhead⟩
      · intro h
        cases h with
        | cons hhead htail =>
            obtain ⟨found, hfound, hslot⟩ := hhead
            rw [lookUp, (foundAs_iff hselect).mp hfound, ih.mpr htail]
            change some (found.slot? :: _) = _
            rw [hslot]
            rfl

/-- All of the entries are stored as what they are. -/
theorem lookUp_eq_slots_iff (hselect : SelectsFirst select) (entries : List CacheEntry) :
    lookUp select cache entries = some ((entries.map CacheEntry.slot).map some) ↔
      ∀ entry ∈ entries, Stores select cache entry entry.slot := by
  rw [lookUp_eq_some_iff hselect, List.forall₂_map_right_iff, List.forall₂_same]

/-- The entries that begin with the host are looked up, as far as the table reaches. -/
theorem gfalMdsCacheResolveEndpoint_eq (endpoints : List GfalMdsEndpoint) :
    gfalMdsCacheResolveEndpoint select (some cache) host endpoints =
      (lookUp select cache ((cache.filter (CacheEntry.begins host)).take endpoints.length)).map fun stored =>
        (stored.length, overlay stored endpoints) := by
  have h := @resolveEntries_eq select cache host cache [] endpoints
  simp only [List.length_nil, Nat.zero_add, List.nil_append] at h
  exact h

/-- Discovery is exact just where the entries that begin with the host are safe. -/
theorem discoversExactly_iff (hselect : SelectsFirst select) :
    DiscoversExactly select cache host ↔ ∀ entry ∈ cache, entry.begins host = true → SafeEntry select cache host entry := by
  have hsub : (cache.filter (CacheEntry.Wanted host)).Sublist (cache.filter (CacheEntry.begins host)) :=
    List.monotone_filter_right cache fun entry hwanted => CacheEntry.begins_of_host (of_decide_eq_true hwanted).1
  unfold DiscoversExactly
  simp only [gfalMdsCacheResolveEndpoint_eq, safeEntry_iff]
  constructor
  · intro h
    -- a table of slots that no entry has
    obtain ⟨n, endpoints', hrun, -, -, hslots⟩ := h (List.replicate cache.length ⟨[], .unknownEndpointType⟩)
    have hlength : (cache.filter (CacheEntry.begins host)).length ≤ cache.length := List.length_filter_le _ _
    rw [List.length_replicate, List.take_of_length_le hlength] at hrun
    rw [List.length_replicate, List.take_of_length_le (List.length_filter_le _ _)] at hslots
    obtain ⟨stored, hstored, hend⟩ := Option.map_eq_some_iff.mp hrun
    have hcount := length_lookUp hstored
    cases hend
    obtain ⟨more, hmore⟩ : ∃ more, cache.length = stored.length + more := ⟨cache.length - stored.length, by omega⟩
    rw [hmore, overlay_replicate] at hslots
    have hsame : cache.filter (CacheEntry.Wanted host) = cache.filter (CacheEntry.begins host) := by
      refine hsub.eq_of_length ?_
      have hlengths := congrArg List.length hslots
      rw [List.length_map, List.length_map] at hlengths
      omega
    have hall : stored = ((cache.filter (CacheEntry.begins host)).map CacheEntry.slot).map some := by
      rw [← hsame, ← hslots]
      refine eq_map_some (fun hnone => ?_) _
      have hmem := List.mem_map_of_mem (f := (·.getD (⟨[], .unknownEndpointType⟩ : GfalMdsEndpoint))) hnone
      rw [hslots] at hmem
      obtain ⟨entry, hentry, hslot⟩ := List.mem_map.mp hmem
      exact (of_decide_eq_true (List.mem_filter.mp hentry).2).2 (congrArg GfalMdsEndpoint.type hslot)
    rw [hall, lookUp_eq_slots_iff hselect] at hstored
    intro entry hentry hbegins
    have hmem : entry ∈ cache.filter (CacheEntry.begins host) := List.mem_filter.mpr ⟨hentry, hbegins⟩
    refine ⟨?_, hstored entry hmem⟩
    rw [← hsame] at hmem
    exact of_decide_eq_true (List.mem_filter.mp hmem).2
  · intro h endpoints
    have hsame : cache.filter (CacheEntry.begins host) = cache.filter (CacheEntry.Wanted host) := by
      refine List.filter_congr fun entry hentry => Bool.eq_iff_iff.mpr ?_
      exact ⟨fun hbegins => decide_eq_true (h entry hentry hbegins).1,
        fun hwanted => CacheEntry.begins_of_host (of_decide_eq_true hwanted).1⟩
    have hsafe : ∀ entry ∈ (cache.filter (CacheEntry.begins host)).take endpoints.length,
        Stores select cache entry entry.slot := by
      intro entry hentry
      obtain ⟨hmem, hbegins⟩ := List.mem_filter.mp (List.mem_of_mem_take hentry)
      exact (h entry hmem hbegins).2
    have hfits : (((cache.filter (CacheEntry.begins host)).take endpoints.length).map CacheEntry.slot).length ≤ endpoints.length := by
      rw [List.length_map]
      exact List.length_take_le _ _
    rw [(lookUp_eq_slots_iff hselect _).mpr hsafe, ← hsame]
    refine ⟨_, _, rfl, ?_, length_overlay _ _, ?_⟩
    · rw [List.length_map]
      exact hfits
    · rw [overlay_eq rfl hfits, List.length_map, List.take_left]

end Table

end Gfal2
