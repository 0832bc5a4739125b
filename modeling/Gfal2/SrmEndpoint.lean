import Gfal2.SrmCredentials

/-! How the SRM plugin chooses an endpoint among those the BDII lists, and what it writes to the buffer of its caller
on the way. -/

namespace Gfal2

open Base

/-! ### The choice -/

/-- The first entry of a protocol. -/
def firstEndpoint (entries : List (CString × CString)) (protocol : GfalSrmProto) : Option CString :=
  (entries.find? fun entry => gfalConvertProtoFromBdii entry.1 = protocol).map Prod.snd

/-- What should be chosen: the first endpoint of the most preferred of the known protocols that are listed. -/
def preferredEndpoint (srmProtoType : GfalSrmProto) (entries : List (CString × CString)) :
    Option (CString × GfalSrmProto) :=
  ([srmProtoType, .srmv2, .srm].filter (· ≠ .errorUnknown)).findSome? fun protocol =>
    (firstEndpoint entries protocol).map fun endpoint => (endpoint, protocol)

/-- The choice is the preferred one, and there is none just when no listed type is a known protocol. -/
def SelectsPreferred (srmProtoType : GfalSrmProto) (entries : List (CString × CString)) (sBuff : Nat) : Prop :=
  match selectBestProtocolAndEndpoint srmProtoType entries sBuff with
  | .ok chosen => preferredEndpoint srmProtoType entries = some chosen
  | .error _ => ∀ entry ∈ entries, gfalConvertProtoFromBdii entry.1 = .errorUnknown

theorem walkEntries_eq (preferred : GfalSrmProto) (entries : List (CString × CString)) :
    (walkEntries preferred entries).1 = firstEndpoint entries preferred ∧
      (firstEndpoint entries preferred = none → (walkEntries preferred entries).2 = []) := by
  induction entries with
  | nil => exact ⟨rfl, fun _ => rfl⟩
  | cons entry rest ih =>
      unfold firstEndpoint at ih ⊢
      rw [walkEntries, List.find?_cons]
      by_cases h : preferred = gfalConvertProtoFromBdii entry.1
      · rw [if_pos h, decide_eq_true h.symm]
        exact ⟨rfl, fun hnone => by cases hnone⟩
      · have hne : ¬gfalConvertProtoFromBdii entry.1 = preferred := fun heq => h heq.symm
        rw [if_neg h, decide_eq_false hne]
        exact ih

theorem walkPreferences_nil (preferences : List GfalSrmProto) : walkPreferences preferences [] = none := by
  induction preferences with
  | nil => rfl
  | cons preferred preferences ih =>
      rw [walkPreferences]
      split
      · rfl
      · exact ih

/-- The cursors are at the end of the list once the first preference is not found. -/
theorem walkPreferences_cons (preferred : GfalSrmProto) (preferences : List GfalSrmProto)
    (entries : List (CString × CString)) :
    walkPreferences (preferred :: preferences) entries =
      if preferred = .errorUnknown then none
      else (firstEndpoint entries preferred).map fun endpoint => (endpoint, preferred) := by
  rw [walkPreferences]
  split
  · rfl
  · obtain ⟨hfirst, hrest⟩ := walkEntries_eq preferred entries
    cases hwalk : walkEntries preferred entries with
    | mk found rest =>
        rw [hwalk] at hfirst hrest
        rw [← hfirst]
        cases found with
        | some endpoint => rfl
        | none =>
            have hend : rest = [] := hrest hfirst.symm
            dsimp only
            rw [hend, walkPreferences_nil]
            rfl

/-- The default protocol is known and listed, and its first endpoint fits the buffer. -/
def DefaultListed (srmProtoType : GfalSrmProto) (entries : List (CString × CString)) (sBuff : Nat) : Prop :=
  srmProtoType ≠ .errorUnknown ∧ ∃ endpoint, firstEndpoint entries srmProtoType = some endpoint ∧ endpoint.length < sBuff

variable {endpoint : CString}

theorem exists_of_firstEndpoint {entries : List (CString × CString)} {protocol : GfalSrmProto}
    (h : firstEndpoint entries protocol = some endpoint) :
    ∃ entry ∈ entries, gfalConvertProtoFromBdii entry.1 = protocol := by
  obtain ⟨entry, hfind, -⟩ := Option.map_eq_some_iff.mp h
  have hprotocol := List.find?_some hfind
  exact ⟨entry, List.mem_of_find?_eq_some hfind, of_decide_eq_true hprotocol⟩

theorem preferredEndpoint_of_default {srmProtoType : GfalSrmProto} {entries : List (CString × CString)}
    (hknown : srmProtoType ≠ .errorUnknown)
    (hfirst : firstEndpoint entries srmProtoType = some endpoint) :
    preferredEndpoint srmProtoType entries = some (endpoint, srmProtoType) := by
  have hfilter : [srmProtoType, .srmv2, .srm].filter (· ≠ .errorUnknown) =
      srmProtoType :: [GfalSrmProto.srmv2, .srm].filter (· ≠ .errorUnknown) :=
    List.filter_cons_of_pos (by simpa using hknown)
  unfold preferredEndpoint
  rw [hfilter, List.findSome?_cons, hfirst]
  rfl

theorem take_eq_self_iff {sBuff : Nat} (hbuff : sBuff ≠ 0) : endpoint.take (sBuff - 1) = endpoint ↔ endpoint.length < sBuff := by
  rw [List.take_eq_self_iff]
  omega

theorem selectsPreferred_iff (srmProtoType : GfalSrmProto) (entries : List (CString × CString)) (sBuff : Nat) :
    SelectsPreferred srmProtoType entries sBuff ↔
      (∀ entry ∈ entries, gfalConvertProtoFromBdii entry.1 = .errorUnknown) ∨ DefaultListed srmProtoType entries sBuff := by
  unfold SelectsPreferred selectBestProtocolAndEndpoint
  by_cases hbuff : sBuff = 0
  · rw [if_pos hbuff]
    refine ⟨Or.inl, fun h => h.resolve_right ?_⟩
    rintro ⟨-, endpoint, -, hlength⟩
    omega
  · rw [if_neg hbuff, walkPreferences_cons]
    by_cases hknown : srmProtoType = .errorUnknown
    · rw [if_pos hknown]
      exact ⟨Or.inl, fun h => h.resolve_right fun hdefault => hdefault.1 hknown⟩
    · rw [if_neg hknown]
      cases hfirst : firstEndpoint entries srmProtoType with
      | none =>
          refine ⟨Or.inl, fun h => h.resolve_right ?_⟩
          rintro ⟨-, endpoint, hsome, -⟩
          rw [hfirst] at hsome
          cases hsome
      | some endpoint =>
          dsimp only [Option.map_some]
          rw [preferredEndpoint_of_default hknown hfirst, Option.some_inj, Prod.mk.injEq, eq_comm,
            take_eq_self_iff hbuff, and_iff_left rfl]
          constructor
          · intro hlength
            exact .inr ⟨hknown, endpoint, hfirst, hlength⟩
          · rintro (hnone | ⟨-, endpoint', hsome, hlength⟩)
            · obtain ⟨entry, hentry, hprotocol⟩ := exists_of_firstEndpoint hfirst
              rw [hnone entry hentry] at hprotocol
              exact absurd hprotocol.symm hknown
            · rw [hfirst] at hsome
              cases hsome
              exact hlength

/-! ### The buffer -/

abbrev BufferStores := List (Nat × List Char)

/-- A string with its terminating NUL. -/
def storedString (text : CString) : BufferStores := [(0, text ++ [Char.ofNat 0])]

def StoredInside (sBuff : Nat) (stores : BufferStores) : Prop := ∀ store ∈ stores, store.1 + store.2.length ≤ sBuff

/-- A call of `gfal_srm_guess_service_endpoint` with what it stores. -/
def guessEndpoint (surl : CString) (sBuff : Nat) : Except GError CString × BufferStores :=
  match gfalSrmGuessServiceEndpoint surl sBuff with
  | .ok endpoint => (.ok endpoint, storedString endpoint)
  | .error e => (.error e, [])

/-- A call of `gfal_get_fullendpointG` with what it stores: the scheme, and then the rest. -/
def fullEndpoint (surl : CString) (sBuff : Nat) : Except GError CString × BufferStores :=
  match gfalGetFullendpoint surl sBuff with
  | .ok endpoint => (.ok endpoint, [(0, endpoint.take 8), (8, endpoint.drop 8 ++ [Char.ofNat 0])])
  | .error e => (.error e, [])

/-- `gfal_srm_determine_endpoint` for a buffer of any size. The choice from the list of the BDII is made for a buffer
of `GFAL_URL_MAX_LEN`. -/
def determineEndpoint (opts : SrmOpts) (answers : ContextAnswers) (surl : CString) (sBuff : Nat) :
    Except GError CString × BufferStores :=
  if sBuff = 0 then (.error ⟨gfal2GetCoreQuark, EINVAL, lit "[gfal_srm_determine_endpoint] invalid value in params"⟩, [])
  else if gfalCheckFullendpointInSurl surl then fullEndpoint surl sBuff
  else if ¬gfal2GetOptBooleanWithDefault opts.config (lit "BDII") (lit "ENABLED") true then guessEndpoint surl sBuff
  else
    match (gfal2ParseUri surl).val with
    | none => guessEndpoint surl sBuff
    | some parsed =>
        match answers.bdii parsed.host with
        | .error _ => guessEndpoint surl sBuff
        | .ok entries =>
            match selectBestProtocolAndEndpoint opts.srmProtoType entries 2048 with
            | .ok (endpoint, _) => (.ok endpoint, storedString endpoint)
            | .error _ => guessEndpoint surl sBuff

/-- An endpoint that is taken from the list of the BDII fits the buffer, whose size is not asked for. -/
def BdiiEndpointFits (opts : SrmOpts) (answers : ContextAnswers) (surl : CString) (sBuff : Nat) : Prop :=
  sBuff ≠ 0 → gfalCheckFullendpointInSurl surl = false →
    gfal2GetOptBooleanWithDefault opts.config (lit "BDII") (lit "ENABLED") true = true →
    ∀ parsed entries endpoint, (gfal2ParseUri surl).val = some parsed → answers.bdii parsed.host = .ok entries →
      opts.srmProtoType ≠ .errorUnknown → firstEndpoint entries opts.srmProtoType = some endpoint →
      min endpoint.length 2047 < sBuff

theorem storedInside_storedString {sBuff : Nat} (text : CString) :
    StoredInside sBuff (storedString text) ↔ text.length < sBuff := by
  unfold StoredInside storedString
  rw [List.forall_mem_singleton, List.length_append, List.length_singleton, Nat.zero_add]
  exact Nat.succ_le_iff

theorem storedInside_guessEndpoint (surl : CString) {sBuff : Nat} (hbuff : sBuff ≠ 0) :
    StoredInside sBuff (guessEndpoint surl sBuff).2 := by
  unfold guessEndpoint
  cases hguess : gfalSrmGuessServiceEndpoint surl sBuff with
  | error e => exact List.forall_mem_nil _
  | ok endpoint =>
      dsimp only
      rw [storedInside_storedString]
      unfold gfalSrmGuessServiceEndpoint at hguess
      split at hguess
      · cases hguess
        exact Nat.lt_of_le_of_lt (List.length_take_le _ _) (by omega)
      · cases hguess

theorem storedInside_fullEndpoint (surl : CString) (sBuff : Nat) : StoredInside sBuff (fullEndpoint surl sBuff).2 := by
  unfold fullEndpoint
  cases hfull : gfalGetFullendpoint surl sBuff with
  | error e => exact List.forall_mem_nil _
  | ok endpoint =>
      unfold gfalGetFullendpoint at hfull
      split at hfull
      · cases hfull
      · split at hfull
        · rename_i sfn _ hroom
          cases hfull
          have hscheme : (lit "httpg://").length = 8 := rfl
          unfold StoredInside
          simp only [List.forall_mem_cons, List.length_take, List.length_append, List.length_drop, List.length_singleton,
            hscheme]
          exact ⟨by omega, by omega, List.forall_mem_nil _⟩
        · cases hfull

theorem storedInside_iff (opts : SrmOpts) (answers : ContextAnswers) (surl : CString) (sBuff : Nat) :
    StoredInside sBuff (determineEndpoint opts answers surl sBuff).2 ↔ BdiiEndpointFits opts answers surl sBuff := by
  unfold determineEndpoint BdiiEndpointFits
  by_cases hbuff : sBuff = 0
  · rw [if_pos hbuff]
    exact iff_of_true (List.forall_mem_nil _) fun hne => absurd hbuff hne
  rw [if_neg hbuff]
  by_cases hfull : gfalCheckFullendpointInSurl surl = true
  · rw [if_pos hfull]
    refine iff_of_true (storedInside_fullEndpoint surl sBuff) fun _ hnot => ?_
    rw [hfull] at hnot
    cases hnot
  rw [if_neg hfull]
  by_cases hbdii : gfal2GetOptBooleanWithDefault opts.config (lit "BDII") (lit "ENABLED") true = true
  · rw [if_neg (not_not.mpr hbdii)]
    have hguess := storedInside_guessEndpoint surl hbuff
    cases hparse : (gfal2ParseUri surl).val with
    | none => exact iff_of_true hguess fun _ _ _ _ _ _ hsome => by cases hsome
    | some parsed =>
        dsimp only
        cases hanswer : answers.bdii parsed.host with
        | error e =>
            refine iff_of_true hguess fun _ _ _ parsed' entries endpoint hsome hentries => ?_
            cases hsome
            rw [hanswer] at hentries
            cases hentries
        | ok entries =>
            dsimp only
            have hfits : (sBuff ≠ 0 → gfalCheckFullendpointInSurl surl = false →
                gfal2GetOptBooleanWithDefault opts.config (lit "BDII") (lit "ENABLED") true = true →
                ∀ parsed' entries' endpoint, some parsed = some parsed' → answers.bdii parsed'.host = .ok entries' →
                  opts.srmProtoType ≠ .errorUnknown → firstEndpoint entries' opts.srmProtoType = some endpoint →
                  min endpoint.length 2047 < sBuff) ↔
                ∀ endpoint, opts.srmProtoType ≠ .errorUnknown →
                  firstEndpoint entries opts.srmProtoType = some endpoint → min endpoint.length 2047 < sBuff := by
              constructor
              · intro h endpoint
                exact h hbuff (Bool.eq_false_iff.mpr hfull) hbdii parsed entries endpoint rfl hanswer
              · intro h _ _ _ parsed' entries' endpoint hsome hentries
                cases hsome
                rw [hanswer] at hentries
                cases hentries
                exact h endpoint
            rw [hfits]
            unfold selectBestProtocolAndEndpoint
            rw [if_neg (by decide), walkPreferences_cons]
            by_cases hknown : opts.srmProtoType = .errorUnknown
            · rw [if_pos hknown]
              exact iff_of_true hguess fun _ hne => absurd hknown hne
            · rw [if_neg hknown]
              cases hfirst : firstEndpoint entries opts.srmProtoType with
              | none => exact iff_of_true hguess fun _ _ hsome => by cases hsome
              | some endpoint =>
                  dsimp only [Option.map_some]
                  rw [storedInside_storedString, List.length_take, Nat.min_comm]
                  constructor
                  · intro hlength endpoint' _ hsome
                    cases hsome
                    exact hlength
                  · intro h
                    exact h endpoint hknown rfl
  · rw [if_pos hbdii]
    exact iff_of_true (storedInside_guessEndpoint surl hbuff) fun _ _ henabled => absurd henabled hbdii

/-- What is found for the buffer that a request for a context gives. -/
theorem determineEndpoint_eq (opts : SrmOpts) (answers : ContextAnswers) (surl : CString) :
    (determineEndpoint opts answers surl 2048).1 = gfalSrmDetermineEndpoint opts answers surl := by
  have hguess : (guessEndpoint surl 2048).1 = gfalSrmGuessServiceEndpoint surl 2048 := by
    unfold guessEndpoint
    cases gfalSrmGuessServiceEndpoint surl 2048 <;> rfl
  have hfull : (fullEndpoint surl 2048).1 = gfalGetFullendpoint surl 2048 := by
    unfold fullEndpoint
    cases gfalGetFullendpoint surl 2048 <;> rfl
  unfold determineEndpoint gfalSrmDetermineEndpoint
  rw [if_neg (by decide)]
  split
  · exact hfull
  · split
    · exact hguess
    · unfold gfalGetEndpointFromBdii
      cases gfal2ParseUri surl with
      | mk parsed err =>
          cases parsed with
          | none => exact hguess
          | some parsed =>
              dsimp only
              cases answers.bdii parsed.host with
              | error e => exact hguess
              | ok entries =>
                  dsimp only
                  cases selectBestProtocolAndEndpoint opts.srmProtoType entries 2048 with
                  | error e => exact hguess
                  | ok chosen => rfl

/-- The choice is the preferred endpoint just when no known protocol is listed, or the default one is and its first
endpoint fits the buffer; and nothing is stored beyond the buffer just when the endpoint taken from the list of the
BDII fits it. -/
theorem endpoint_choice_iff (opts : SrmOpts) (answers : ContextAnswers) (surl : CString) (srmProtoType : GfalSrmProto)
    (entries : List (CString × CString)) (sBuff : Nat) :
    (SelectsPreferred srmProtoType entries sBuff ↔
        (∀ entry ∈ entries, gfalConvertProtoFromBdii entry.1 = .errorUnknown) ∨
          DefaultListed srmProtoType entries sBuff) ∧
      (StoredInside sBuff (determineEndpoint opts answers surl sBuff).2 ↔ BdiiEndpointFits opts answers surl sBuff) :=
  ⟨selectsPreferred_iff srmProtoType entries sBuff, storedInside_iff opts answers surl sBuff⟩

/-- A site that lists version 1 alone is found no endpoint, though its type is known. -/
theorem listed_version_one_not_selected :
    selectBestProtocolAndEndpoint .srmv2 [(lit "srm_v1", lit "httpg://h/srm/v1")] 2048 =
        .error ⟨srmQuark, EINVAL, lit "cannot obtain a valid protocol from the bdii response, fatal error"⟩ ∧
      preferredEndpoint .srmv2 [(lit "srm_v1", lit "httpg://h/srm/v1")] = some (lit "httpg://h/srm/v1", .srm) ∧
      ¬SelectsPreferred .srmv2 [(lit "srm_v1", lit "httpg://h/srm/v1")] 2048 := by
  refine ⟨by decide, by decide, fun h => ?_⟩
  exact absurd (h _ List.mem_cons_self) (by decide)

end Gfal2
