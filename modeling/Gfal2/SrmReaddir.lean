import Gfal2.SrmLocks
import Gfal2.UriRoundTrip
import Mathlib.Data.List.DropRight

/-! Repeated calls that read a directory of a storage service. The handle is a cursor over the chunk that came last, the
number of the chunk's first entry is kept beside it, and a directory that is too big is listed anew in chunks. A run of
calls is followed by the number of the entry that comes next. -/

namespace Gfal2

open Base
open Base.Exec

/-! ### The parameters of a listing -/

/-- The pairs that name the first entry and the number of entries, as far as they are given. -/
def listingParameters (offset count : Option Nat) : List CString :=
  (offset.map fun n => lit "offset=" ++ Nat.toDigits 10 n).toList ++ (count.map fun n => lit "count=" ++ Nat.toDigits 10 n).toList

/-- What stands behind the path of a directory. -/
def listingSuffix (offset count : Option Nat) : CString := (listingParameters offset count).flatMap (';' :: ·)

/-- The `int` that `atoi` makes of the decimal text of a number, and 0 where there is none. -/
def readNumber (n : Option Nat) : Int := Int.bmod ((min (2 ^ 63 - 1) (n.getD 0) : Nat) : Int) (2 ^ 32)

/-- A handle after its parameters are read. -/
def SrmOpendirHandle.withRange (oh : SrmOpendirHandle) (offset count : Int) : SrmOpendirHandle :=
  { oh with chunkOffset := offset, chunkSize := count, isChunkedListing := decide (offset ≠ 0 ∨ count ≠ 0) }

theorem signedAtoi_toDigits (n : Nat) : signedAtoi (Nat.toDigits 10 n) = readNumber (some n) := by
  have hdigits : isDigits (Nat.toDigits 10 n) = true :=
    isDigits_iff.mpr ⟨Nat.toDigits_ne_nil, fun c hc => Nat.isDigit_of_mem_toDigits (by decide) (by decide) hc⟩
  have hread : atol (Nat.toDigits 10 n ++ []) = _ := atol_digits hdigits stopsAt_nil
  rw [List.append_nil] at hread
  rw [decimal, Nat.ofDigitChars_ten_toDigits] at hread
  exact congrArg (fun value => Int.bmod value (2 ^ 32)) hread

theorem not_mem_number {key : CString} (hkey : ';' ∉ key) (n : Nat) : ';' ∉ key ++ Nat.toDigits 10 n := by
  intro hmem
  obtain hmem | hmem := List.mem_append.mp hmem
  · exact hkey hmem
  · exact absurd (Nat.isDigit_of_mem_toDigits (by decide) (by decide) hmem) (by decide)

theorem opendirParameter_pair (oh : SrmOpendirHandle) {key : CString} (value : CString) (hkey : '=' ∉ key) :
    opendirParameter oh (key ++ '=' :: value) =
      if key.map Char.toLower = lit "offset" then { oh with chunkOffset := signedAtoi value }
      else if key.map Char.toLower = lit "count" then { oh with chunkSize := signedAtoi value }
      else oh := by
  have hne : ∀ c ∈ key, decide (c ≠ '=') = true := fun c hc => decide_eq_true fun heq => hkey (heq ▸ hc)
  have hstop : StopsAt (fun c => decide (c ≠ '=')) ('=' :: value) := by
    intro c hc
    obtain rfl : '=' = c := Option.some.inj hc
    rfl
  have hkept : (key ++ '=' :: value).takeWhile (fun c => decide (c ≠ '=')) = key := takeWhile_append_of_stopsAt hne hstop
  have hdropped : (key ++ '=' :: value).dropWhile (fun c => decide (c ≠ '=')) = '=' :: value := by
    rw [List.dropWhile_append_of_pos hne]
    rfl
  rw [opendirParameter, if_pos (by simp), hkept, hdropped]
  rfl

theorem opendirParameter_offset (oh : SrmOpendirHandle) (n : Nat) :
    opendirParameter oh (lit "offset=" ++ Nat.toDigits 10 n) = { oh with chunkOffset := readNumber (some n) } := by
  rw [← signedAtoi_toDigits]
  exact @opendirParameter_pair oh (lit "offset") _ (by decide)

theorem opendirParameter_count (oh : SrmOpendirHandle) (n : Nat) :
    opendirParameter oh (lit "count=" ++ Nat.toDigits 10 n) = { oh with chunkSize := readNumber (some n) } := by
  rw [← signedAtoi_toDigits]
  exact @opendirParameter_pair oh (lit "count") _ (by decide)

/-- The parameters of a path are read as the numbers that it names. -/
theorem parseOpendirParameters_suffix (offset count : Option Nat) {oh : SrmOpendirHandle} (hoffset : oh.chunkOffset = 0)
    (hsize : oh.chunkSize = 0) (hwhole : oh.isChunkedListing = false) :
    parseOpendirParameters ((listingSuffix offset count).drop 1) oh = oh.withRange (readNumber offset) (readNumber count) := by
  have hsplit : (((listingSuffix offset count).drop 1).splitOn ';').filter (· ≠ []) = listingParameters offset count := by
    have hoffset : ∀ n, ';' ∉ lit "offset=" ++ Nat.toDigits 10 n := not_mem_number (by decide)
    have hcount : ∀ n, ';' ∉ lit "count=" ++ Nat.toDigits 10 n := not_mem_number (by decide)
    cases offset with
    | none =>
        cases count with
        | none => rfl
        | some c => simp [listingSuffix, listingParameters, List.splitOn_eq_singleton (hcount c)]
    | some o =>
        cases count with
        | none => simp [listingSuffix, listingParameters, List.splitOn_eq_singleton (hoffset o)]
        | some c =>
            have hdrop : (listingSuffix (some o) (some c)).drop 1 =
                (lit "offset=" ++ Nat.toDigits 10 o) ++ ';' :: (lit "count=" ++ Nat.toDigits 10 c) := by
              simp [listingSuffix, listingParameters]
            rw [hdrop, List.splitOn_append_cons_self_of_not_mem (hoffset o), List.splitOn_eq_singleton (hcount c)]
            simp [listingParameters]
  have hnone : readNumber none = 0 := by decide
  have hread : (listingParameters offset count).foldl opendirParameter oh =
      { oh with chunkOffset := readNumber offset, chunkSize := readNumber count } := by
    obtain ⟨easy, surl, chunked, chunkOffset, chunkSize, statuses, index⟩ := oh
    dsimp only at hoffset hsize
    subst hoffset hsize
    cases offset <;> cases count <;>
      simp only [listingParameters, Option.map_none, Option.map_some, Option.toList_none, Option.toList_some, List.nil_append,
        List.append_nil, List.foldl_nil, List.foldl_cons, List.cons_append, opendirParameter_offset, opendirParameter_count, hnone]
  rw [parseOpendirParameters, hsplit, hread, SrmOpendirHandle.withRange]
  dsimp only
  by_cases hrange : readNumber offset ≠ 0 ∨ readNumber count ≠ 0
  · rw [if_pos hrange, decide_eq_true hrange]
  · rw [if_neg hrange, decide_eq_false hrange, hwhole]

theorem dropWhile_of_stopsAt {p : Char → Bool} {s : CString} (h : StopsAt p s) : s.dropWhile p = s := by
  cases s with
  | nil => rfl
  | cons c s => rw [List.dropWhile_cons_of_neg (by rw [h c rfl]; decide)]

theorem listingSuffix_stops (offset count : Option Nat) : StopsAt (fun c => decide (c ≠ ';')) (listingSuffix offset count) := by
  intro c hc
  cases offset <;> cases count <;> simp [listingSuffix, listingParameters] at hc <;> simp [← hc]

variable {servers : SrmServers} {context left : Gfal2Context SrmWorld}

/-- The handle of a directory that is open: the path goes without its parameters and its last slashes. -/
theorem opendir_handle {surl dir : CString} {offset count : Option Nat} {oh : SrmOpendirHandle}
    (hpath : gfal2SrmGetDecodedPath surl = dir ++ listingSuffix offset count) (hdir : ';' ∉ dir)
    (h : (gfalSrmOpendirG servers surl).run context = .ok (.ok oh, left)) :
    ∃ easy : GfalSrmEasy, easy.srmContext.isSome = true ∧
      oh = SrmOpendirHandle.withRange { easy := easy, surl := dir.rdropWhile (· == '/') } (readNumber offset) (readNumber count) := by
  obtain ⟨⟨val, err⟩, entered, hmade, h⟩ := bind_eq_ok.mp h
  cases val with
  | none => cases h
  | some easy =>
      have heasy : easy.path = gfal2SrmGetDecodedPath surl :=
        gfalSrmIfceEasyContext_path (congrArg Ret.val (srmEasyContext_eq_ok hmade).1).symm
      obtain ⟨opened, asked, hopened, h⟩ := bind_eq_ok.mp h
      cases hsome : easy.srmContext with
      | none =>
          rw [gfalSrmOpendirInternal, gfalStatGSrmv2GenericInternal, hsome] at hopened
          cases hopened
          cases h
      | some found =>
          refine ⟨easy, by rw [hsome]; rfl, ?_⟩
          have hne : ∀ c ∈ dir, decide (c ≠ ';') = true := fun c hc => decide_eq_true fun heq => hdir (heq ▸ hc)
          have htake : easy.path.takeWhile (· ≠ ';') = dir := by
            rw [heasy, hpath]
            exact takeWhile_append_of_stopsAt hne (listingSuffix_stops offset count)
          have hdrop : easy.path.dropWhile (· ≠ ';') = listingSuffix offset count := by
            rw [heasy, hpath, List.dropWhile_append_of_pos hne]
            exact dropWhile_of_stopsAt (listingSuffix_stops offset count)
          have hstat := @gfalStatG_run easy servers entered (by rw [hsome]; rfl) dir
          rw [gfalSrmOpendirInternal, htake, hdrop] at hopened
          obtain ⟨found, asked', hfound, hopened⟩ := bind_eq_ok.mp hopened
          cases hstat.symm.trans hfound
          cases hanswer : statAnswer servers dir entered.world.made with
          | error e =>
              rw [hanswer] at hopened
              cases hopened
              cases h
          | ok xstat =>
              rw [hanswer] at hopened
              simp only [ExceptT.bindCont] at hopened
              split at hopened
              · cases hopened
                cases h
                exact parseOpendirParameters_suffix offset count rfl rfl rfl
              · cases hopened
                cases h

/-! ### The entries -/

/-- What stands behind the last slash of the SURL of an entry. -/
def entryName (surl : CString) : CString := surl.rtakeWhile (· ≠ '/')

/-- An entry as it is handed out. -/
def direntOf (status : MdFileStatus) : Dirent × StatBuffer :=
  (⟨entryName status.surl,
    if sIsdir status.stat.stMode then .directory else if sIslnk status.stat.stMode then .symlink else .regular⟩, status.stat)

theorem entryNames_snd (parentSurl surl : CString) : (entryNames parentSurl surl).2 = (entryName surl).take 2047 := by
  have hfirst : ∀ s : CString, s.takeWhile (· ≠ '/') = s.take (s.findIdx (· == '/')) := by
    intro s
    rw [List.takeWhile_eq_take_findIdx_not]
    refine congrArg (fun p => s.take (s.findIdx p)) (funext fun c => ?_)
    by_cases hc : c = '/' <;> simp [hc]
  rw [entryName, List.rtakeWhile, hfirst, entryNames, strrchr]
  cases hfound : surl.reverse.findIdx? (· == '/') with
  | none =>
      have hall : surl.reverse.findIdx (· == '/') = surl.reverse.length :=
        List.findIdx_eq_length.mpr (List.findIdx?_eq_none_iff.mp hfound)
      rw [hall, List.take_length, List.reverse_reverse]
      rfl
  | some back =>
      obtain ⟨hlt, hback⟩ := List.findIdx?_eq_some_iff_findIdx_eq.mp hfound
      rw [List.length_reverse] at hlt
      have hplace : surl.length - 1 - back + 1 = surl.length - back := by omega
      have hname : (surl.reverse.take back).reverse = surl.drop (surl.length - back) := by
        rw [List.take_reverse, List.reverse_reverse]
      rw [hback, hname, ← hplace]
      rfl

theorem convert_run (parentSurl : CString) {status : MdFileStatus} (hname : (entryName status.surl).length < 256) :
    ∃ left, gfalSrmReaddirConvertResult parentSurl status context = .ok (direntOf status, left) := by
  have hname' : (entryNames parentSurl status.surl).2 = entryName status.surl := by
    rw [entryNames_snd, List.take_of_length_le (by omega)]
  unfold gfalSrmReaddirConvertResult direntOf
  cases hnames : entryNames parentSurl status.surl with
  | mk key name =>
      rw [hnames] at hname'
      dsimp only at hname' ⊢
      rw [hname', if_neg (by omega)]
      exact ⟨_, rfl⟩

theorem convert_fault (parentSurl : CString) {status : MdFileStatus} (hname : 256 ≤ (entryName status.surl).length) :
    gfalSrmReaddirConvertResult parentSurl status context = .error .arrayBounds := by
  have hlong : (entryNames parentSurl status.surl).2.length ≥ 256 := by
    rw [entryNames_snd, List.length_take]
    omega
  unfold gfalSrmReaddirConvertResult
  cases hnames : entryNames parentSurl status.surl with
  | mk key name =>
      rw [hnames] at hlong
      dsimp only at hlong ⊢
      rw [if_pos hlong]
      rfl

/-! ### A service that lists a directory -/

def HoldsEntries (answer : Except GError DirectoryListing) (entries : List MdFileStatus) : Prop :=
  ∃ listing, answer = .ok listing ∧ listing.status = 0 ∧ listing.subpaths = entries

def listingError : Except GError DirectoryListing → Option GError
  | .error e => some e
  | .ok listing => if listing.status ≠ 0 then some (srmIfceError listing.status listing.explanation) else none

/-- A service that answers with the entries from a place on, as many as are asked for or all that there are. It may
find the whole directory too big, and it knows no place before the first entry. -/
structure ListsDirectory (servers : SrmServers) (surl : CString) (entries : List MdFileStatus)
    (tooBig : SrmHistory → Prop) : Prop where
  part : ∀ (offset count : Nat) history, 0 < count →
    HoldsEntries (servers.listing surl offset count history) ((entries.drop offset).take count)
  rest : ∀ (offset : Nat) history, offset ≠ 0 ∨ ¬tooBig history →
    HoldsEntries (servers.listing surl offset 0 history) (entries.drop offset)
  big : ∀ history, tooBig history → ∃ e, listingError (servers.listing surl 0 0 history) = some e ∧ e.code = EFBIG
  refused : ∀ (offset count : Int) history, offset < 0 ∨ count < 0 →
    ∃ e, listingError (servers.listing surl offset count history) = some e

/-! ### One call -/

variable {oh : SrmOpendirHandle} {entry : Option (Dirent × StatBuffer)}

/-- The handle after an entry is handed out. -/
def SrmOpendirHandle.advanced (oh : SrmOpendirHandle) : SrmOpendirHandle :=
  if oh.isChunkedListing ∧ ((oh.responseIndex + 1 : Nat) : Int) ≥ oh.chunkSize then
    { oh with
      responseIndex := oh.responseIndex + 1
      chunkOffset := Int.bmod (oh.chunkOffset + oh.chunkSize) (2 ^ 32)
      srmFileStatuses := none }
  else { oh with responseIndex := oh.responseIndex + 1 }

theorem nextEntry_end (h : oh.srmFileStatuses.bind (·.subpaths[oh.responseIndex]?) = none) :
    nextEntry oh context = .ok ((.ok none, oh), context) := by
  rw [nextEntry, h]
  rfl

theorem nextEntry_fault {status : MdFileStatus} (h : oh.srmFileStatuses.bind (·.subpaths[oh.responseIndex]?) = some status)
    (hname : 256 ≤ (entryName status.surl).length) : nextEntry oh context = .error .arrayBounds := by
  rw [nextEntry, h]
  exact bind_of_error (convert_fault oh.surl hname)

theorem nextEntry_entry (context : Gfal2Context SrmWorld) {status : MdFileStatus} (h : oh.srmFileStatuses.bind (·.subpaths[oh.responseIndex]?) = some status)
    (hname : (entryName status.surl).length < 256) :
    ∃ left, nextEntry oh context = .ok ((.ok (some (direntOf status)), oh.advanced), left) := by
  obtain ⟨left, hconvert⟩ := convert_run oh.surl hname
  refine ⟨left, ?_⟩
  rw [nextEntry, h]
  refine (bind_of_ok hconvert).trans ?_
  unfold SrmOpendirHandle.advanced
  dsimp only
  split <;> rfl

/-- What is there is handed out without an error. -/
theorem nextEntry_cases : (∃ entry next left, nextEntry oh context = .ok ((.ok entry, next), left)) ∨
    ∃ reason, nextEntry oh context = .error reason := by
  cases hlookup : oh.srmFileStatuses.bind (·.subpaths[oh.responseIndex]?) with
  | none => exact .inl ⟨_, _, _, nextEntry_end hlookup⟩
  | some status =>
      by_cases hname : (entryName status.surl).length < 256
      · obtain ⟨left, hentry⟩ := nextEntry_entry context hlookup hname
        exact .inl ⟨_, _, left, hentry⟩
      · exact .inr ⟨_, nextEntry_fault hlookup (by omega)⟩

/-- A listing is asked for once, from the place that the handle has. -/
theorem readdirInternal_run (hsome : oh.easy.srmContext.isSome = true) :
    ∃ asked, gfalSrmReaddirInternal servers oh context = .ok (
      (match servers.listing oh.surl oh.chunkOffset oh.chunkSize context.world.made with
        | .error e => (.error e, { oh with responseIndex := 0 })
        | .ok listing =>
            if listing.status ≠ 0 then (.error (srmIfceError listing.status listing.explanation), { oh with responseIndex := 0 })
            else (.ok (), { oh with responseIndex := 0, srmFileStatuses := some listing })), asked) := by
  have hcall : ∃ asked, oh.easy.call (servers.listing oh.surl oh.chunkOffset oh.chunkSize)
      (fun _ => .listing oh.surl oh.chunkOffset oh.chunkSize) context =
      .ok (servers.listing oh.surl oh.chunkOffset oh.chunkSize context.world.made, asked) := by
    rw [GfalSrmEasy.call, if_pos hsome]
    exact ⟨_, rfl⟩
  obtain ⟨asked, hcall⟩ := hcall
  refine ⟨asked, (bind_of_ok hcall).trans ?_⟩
  cases servers.listing oh.surl oh.chunkOffset oh.chunkSize context.world.made with
  | error e => rfl
  | ok listing =>
      dsimp only
      split <;> rfl

theorem pipeline_of_none (hnone : oh.srmFileStatuses = none) :
    gfalSrmReaddirPipeline servers oh = gfalSrmReaddirInternal servers oh >>= fun answer =>
      match answer with
      | (.error e, oh) => pure (.error e, oh)
      | (.ok (), oh) => nextEntry oh := by
  cases oh
  cases hnone
  rfl

/-- A handle whose listing is answered hands out the first entry of it. -/
theorem pipeline_of_holds {entries : List MdFileStatus} (hsome : oh.easy.srmContext.isSome = true)
    (hnone : oh.srmFileStatuses = none)
    (h : HoldsEntries (servers.listing oh.surl oh.chunkOffset oh.chunkSize context.world.made) entries) :
    ∃ listing asked, listing.subpaths = entries ∧ gfalSrmReaddirPipeline servers oh context =
      nextEntry { oh with responseIndex := 0, srmFileStatuses := some listing } asked := by
  obtain ⟨listing, hanswer, hstatus, hentries⟩ := h
  obtain ⟨asked, hinternal⟩ := @readdirInternal_run servers context oh hsome
  rw [hanswer] at hinternal
  simp only [if_neg (not_not.mpr hstatus)] at hinternal
  refine ⟨listing, asked, hentries, ?_⟩
  rw [pipeline_of_none hnone]
  exact bind_of_ok hinternal

theorem pipeline_of_error {e : GError} (hsome : oh.easy.srmContext.isSome = true) (hnone : oh.srmFileStatuses = none)
    (h : listingError (servers.listing oh.surl oh.chunkOffset oh.chunkSize context.world.made) = some e) :
    ∃ asked, gfalSrmReaddirPipeline servers oh context = .ok ((.error e, { oh with responseIndex := 0 }), asked) := by
  obtain ⟨asked, hinternal⟩ := @readdirInternal_run servers context oh hsome
  refine ⟨asked, ?_⟩
  rw [pipeline_of_none hnone]
  cases hanswer : servers.listing oh.surl oh.chunkOffset oh.chunkSize context.world.made with
  | error reported =>
      rw [hanswer] at h hinternal
      cases h
      exact bind_of_ok hinternal
  | ok listing =>
      rw [hanswer, listingError] at h
      rw [hanswer] at hinternal
      by_cases hstatus : listing.status ≠ 0
      · rw [if_pos hstatus] at h
        simp only [if_pos hstatus] at hinternal
        cases h
        exact bind_of_ok hinternal
      · rw [if_neg hstatus] at h
        cases h

theorem pipeline_of_statuses {listing : DirectoryListing} (h : oh.srmFileStatuses = some listing) :
    gfalSrmReaddirPipeline servers oh context = nextEntry oh context := by
  rw [gfalSrmReaddirPipeline, h]

variable {oh' : SrmOpendirHandle}

theorem readdirpp_of_ok (h : gfalSrmReaddirPipeline servers oh context = .ok ((.ok entry, oh'), left)) :
    gfalSrmReaddirppG servers oh context = .ok ((.ok entry, oh'), left) := by
  rw [gfalSrmReaddirppG, bind_of_ok h]
  rfl

theorem readdirpp_of_fault {reason : Fault} (h : gfalSrmReaddirPipeline servers oh context = .error reason) :
    gfalSrmReaddirppG servers oh context = .error reason := by
  rw [gfalSrmReaddirppG, bind_of_error h]

/-- A chunk that can not be had is an error. -/
theorem readdirpp_of_chunk_error {e : GError}
    (h : gfalSrmReaddirPipeline servers oh context = .ok ((.error e, oh'), left)) (hchunked : oh'.isChunkedListing = true) :
    ∃ e', gfalSrmReaddirppG servers oh context = .ok ((.error e', oh'), left) := by
  rw [gfalSrmReaddirppG, bind_of_ok h]
  by_cases hbig : e.code = EFBIG
  · simp only [if_pos hbig, if_pos hchunked]
    exact ⟨_, rfl⟩
  · simp only [if_neg hbig]
    exact ⟨_, rfl⟩

/-! ### Repeated calls -/

/-- The handle after so many calls, each of them made in the context that has its number. -/
def handleAfter (servers : SrmServers) (contexts : Nat → Gfal2Context SrmWorld) (oh : SrmOpendirHandle) :
    Nat → Except Fault SrmOpendirHandle
  | 0 => .ok oh
  | n + 1 => do
      let oh ← handleAfter servers contexts oh n
      let ((_, oh), _) ← gfalSrmReaddirppG servers oh (contexts n)
      return oh

/-- What a call hands back after so many calls before it. -/
def readdirppAnswer (servers : SrmServers) (contexts : Nat → Gfal2Context SrmWorld) (oh : SrmOpendirHandle) (n : Nat) :
    Except Fault (Except GError (Option (Dirent × StatBuffer))) := do
  let oh ← handleAfter servers contexts oh n
  let ((answer, _), _) ← gfalSrmReaddirppG servers oh (contexts n)
  return answer

/-- The calls hand out the entries in order, and then nothing for ever. -/
def ListsFrom (servers : SrmServers) (contexts : Nat → Gfal2Context SrmWorld) (oh : SrmOpendirHandle)
    (entries : List MdFileStatus) : Prop :=
  ∀ n, readdirppAnswer servers contexts oh n = .ok (.ok (entries[n]?.map direntOf))

variable {contexts : Nat → Gfal2Context SrmWorld} {entries : List MdFileStatus}

/-- The call hands this out, and leaves that handle. -/
def HandsOut (servers : SrmServers) (oh : SrmOpendirHandle) (context : Gfal2Context SrmWorld)
    (entry : Option (Dirent × StatBuffer)) (next : SrmOpendirHandle) : Prop :=
  ∃ left, gfalSrmReaddirppG servers oh context = .ok ((.ok entry, next), left)

/-- The calls list the entries if each of them does its part and keeps what the next one needs. -/
theorem listsFrom_of_steps (Inv : Nat → SrmOpendirHandle → Prop) (hinit : Inv 0 oh)
    (hstep : ∀ n oh, Inv n oh → ∃ next, HandsOut servers oh (contexts n) (entries[n]?.map direntOf) next ∧ Inv (n + 1) next) :
    ListsFrom servers contexts oh entries := by
  have hinv : ∀ n, ∃ reached, handleAfter servers contexts oh n = .ok reached ∧ Inv n reached := by
    intro n
    induction n with
    | zero => exact ⟨oh, rfl, hinit⟩
    | succ n ih =>
        obtain ⟨reached, hreached, hinv⟩ := ih
        obtain ⟨next, ⟨left, hcall⟩, hnext⟩ := hstep n reached hinv
        refine ⟨next, ?_, hnext⟩
        rw [handleAfter, hreached]
        change (gfalSrmReaddirppG servers reached (contexts n) >>= _) = _
        rw [hcall]
        rfl
  intro n
  obtain ⟨reached, hreached, hinv⟩ := hinv n
  obtain ⟨next, ⟨left, hcall⟩, -⟩ := hstep n reached hinv
  rw [readdirppAnswer, hreached]
  change (gfalSrmReaddirppG servers reached (contexts n) >>= _) = _
  rw [hcall]
  rfl

section Listing

variable (h : ListsFrom servers contexts oh entries)
include h

/-- A call among those that list the entries. -/
theorem ListsFrom.call {n : Nat} {reached : SrmOpendirHandle} (hreached : handleAfter servers contexts oh n = .ok reached) :
    ∃ next, HandsOut servers reached (contexts n) (entries[n]?.map direntOf) next ∧
      handleAfter servers contexts oh (n + 1) = .ok next := by
  have hanswer := h n
  rw [readdirppAnswer, hreached] at hanswer
  change (gfalSrmReaddirppG servers reached (contexts n) >>= _) = _ at hanswer
  have hnext : handleAfter servers contexts oh (n + 1) =
      (gfalSrmReaddirppG servers reached (contexts n) >>= fun answer => pure answer.1.2) := by
    rw [handleAfter, hreached]
    rfl
  cases hrun : gfalSrmReaddirppG servers reached (contexts n) with
  | error reason =>
      rw [hrun] at hanswer
      cases hanswer
  | ok answer =>
      obtain ⟨⟨answer, next⟩, left⟩ := answer
      rw [hrun] at hanswer hnext
      cases hanswer
      exact ⟨next, ⟨left, hrun⟩, hnext⟩

/-- Calls that list the entries do their part one after the other. -/
theorem ListsFrom.steps (Inv : Nat → SrmOpendirHandle → Prop) (hinit : Inv 0 oh)
    (hstep : ∀ n oh next, Inv n oh → HandsOut servers oh (contexts n) (entries[n]?.map direntOf) next → Inv (n + 1) next) (n : Nat) :
    ∃ reached next, Inv n reached ∧ HandsOut servers reached (contexts n) (entries[n]?.map direntOf) next := by
  have hinv : ∀ n, ∃ reached, handleAfter servers contexts oh n = .ok reached ∧ Inv n reached := by
    intro n
    induction n with
    | zero => exact ⟨oh, rfl, hinit⟩
    | succ n ih =>
        obtain ⟨reached, hreached, hinv⟩ := ih
        obtain ⟨next, hhands, hafter⟩ := h.call hreached
        exact ⟨next, hafter, hstep n reached next hinv hhands⟩
  obtain ⟨reached, hreached, hinv⟩ := hinv n
  obtain ⟨next, hhands, -⟩ := h.call hreached
  exact ⟨reached, next, hinv, hhands⟩

/-- What is listed depends on the handle only through its first call. -/
theorem ListsFrom.of_first {contexts' : Nat → Gfal2Context SrmWorld} (hlater : ∀ n, contexts (n + 1) = contexts' (n + 1))
    (hfirst : gfalSrmReaddirppG servers oh (contexts 0) = gfalSrmReaddirppG servers oh' (contexts' 0)) :
    ListsFrom servers contexts' oh' entries := by
  refine listsFrom_of_steps (fun n reached => match n with
    | 0 => reached = oh'
    | n + 1 => handleAfter servers contexts oh (n + 1) = .ok reached) rfl fun n reached hinv => ?_
  cases n with
  | zero =>
      obtain ⟨next, ⟨left, hrun⟩, hafter⟩ := h.call (n := 0) rfl
      rw [hfirst] at hrun
      exact ⟨next, ⟨left, (congrArg (gfalSrmReaddirppG servers · (contexts' 0)) hinv).trans hrun⟩, hafter⟩
  | succ n =>
      obtain ⟨next, hhands, hafter⟩ := h.call hinv
      exact ⟨next, hlater n ▸ hhands, hafter⟩

theorem ListsFrom.first : ∃ next, HandsOut servers oh (contexts 0) (entries[0]?.map direntOf) next := by
  obtain ⟨reached, next, hreached, hhands⟩ := h.steps (fun n reached => n = 0 → reached = oh) (fun _ => rfl)
    (fun n oh next _ _ hzero => by omega) 0
  exact ⟨next, hreached rfl ▸ hhands⟩

end Listing

theorem HandsOut.unique {entry' : Option (Dirent × StatBuffer)} {next next' : SrmOpendirHandle}
    (h : HandsOut servers oh context entry next) (h' : HandsOut servers oh context entry' next') : entry = entry' ∧ next = next' := by
  obtain ⟨left, h⟩ := h
  obtain ⟨left', h'⟩ := h'
  rw [h] at h'
  cases h'
  exact ⟨rfl, rfl⟩

theorem not_handsOut_of_error {e : GError} {failed next : SrmOpendirHandle}
    (h : gfalSrmReaddirppG servers oh context = .ok ((.error e, failed), left)) : ¬HandsOut servers oh context entry next := by
  rintro ⟨left', h'⟩
  rw [h] at h'
  cases h'

theorem not_handsOut_of_fault {reason : Fault} {next : SrmOpendirHandle}
    (h : gfalSrmReaddirppG servers oh context = .error reason) : ¬HandsOut servers oh context entry next := by
  rintro ⟨left', h'⟩
  rw [h] at h'
  cases h'

variable {surl : CString} {tooBig : SrmHistory → Prop} {start size i : Nat}

/-- One call of a handle from which this entry comes next. A name that is too long is written past its buffer. -/
def Steps (servers : SrmServers) (context : Gfal2Context SrmWorld) (oh : SrmOpendirHandle) (next : SrmOpendirHandle → Prop) :
    Option MdFileStatus → Prop
  | none => ∃ oh', HandsOut servers oh context none oh' ∧ next oh'
  | some status =>
      (256 ≤ (entryName status.surl).length → gfalSrmReaddirppG servers oh context = .error .arrayBounds) ∧
      ((entryName status.surl).length < 256 → ∃ oh', HandsOut servers oh context (some (direntOf status)) oh' ∧ next oh')

variable {next : SrmOpendirHandle → Prop}

/-- An entry that is handed out is the one that comes next. -/
theorem Steps.unique {found : Option MdFileStatus}
    (h : Steps servers context oh next found) (hhands : HandsOut servers oh context entry oh') :
    entry = found.map direntOf ∧ (∀ status ∈ found, (entryName status.surl).length < 256) ∧ next oh' := by
  cases found with
  | none =>
      obtain ⟨oh'', hhands', hnext⟩ := h
      obtain ⟨rfl, rfl⟩ := hhands.unique hhands'
      exact ⟨rfl, (fun status hstatus => by cases hstatus), hnext⟩
  | some status =>
      obtain ⟨hlong, hshort⟩ := h
      have hname : (entryName status.surl).length < 256 := by
        by_contra hname
        exact not_handsOut_of_fault (hlong (by omega)) hhands
      obtain ⟨oh'', hhands', hnext⟩ := hshort hname
      obtain ⟨rfl, rfl⟩ := hhands.unique hhands'
      exact ⟨rfl, (fun status hstatus => by cases hstatus; exact hname), hnext⟩

theorem drop_eq_drop_iff {α : Type} (l : List α) (m n : Nat) : l.drop m = l.drop n ↔ l.length - m = l.length - n := by
  constructor
  · intro h
    rw [← List.length_drop, ← List.length_drop, h]
  · intro h
    by_cases hm : m < l.length
    · rw [show m = n by omega]
    · rw [List.drop_eq_nil_of_le (by omega), List.drop_eq_nil_of_le (by omega)]

/-- A cursor over the entries from one place on lists the entries from another place on if as many are left and all names
are short enough. -/
theorem listsFrom_iff_of_steps {o : Nat} (Inv : Nat → SrmOpendirHandle → Prop) (hinit : Inv 0 oh)
    (hstep : ∀ n oh, Inv n oh → Steps servers (contexts n) oh (Inv (n + 1)) (entries.drop start)[n]?) :
    ListsFrom servers contexts oh (entries.drop o) ↔ entries.length - o = entries.length - start ∧
      ∀ entry ∈ entries.drop o, (entryName entry.surl).length < 256 := by
  constructor
  · intro hlists
    have hcalls := hlists.steps Inv hinit fun n oh next hinv hhands => ((hstep n oh hinv).unique hhands).2.2
    have hentries : ∀ n : Nat, (entries.drop o)[n]?.map direntOf = (entries.drop start)[n]?.map direntOf := by
      intro n
      obtain ⟨reached, next, hinv, hhands⟩ := hcalls n
      exact ((hstep n reached hinv).unique hhands).1
    have hlength : entries.length - o = entries.length - start := by
      have hmaps : (entries.drop o).map direntOf = (entries.drop start).map direntOf :=
        List.ext_getElem? fun n => by rw [List.getElem?_map, List.getElem?_map, hentries n]
      simpa using congrArg List.length hmaps
    refine ⟨hlength, fun entry hentry => ?_⟩
    rw [(drop_eq_drop_iff entries o start).mpr hlength] at hentry
    obtain ⟨n, hn⟩ := List.mem_iff_getElem?.mp hentry
    obtain ⟨reached, next, hinv, hhands⟩ := hcalls n
    exact ((hstep n reached hinv).unique hhands).2.1 entry hn
  · intro ⟨hlength, hnames⟩
    rw [(drop_eq_drop_iff entries o start).mpr hlength] at hnames ⊢
    refine listsFrom_of_steps Inv hinit fun n oh hinv => ?_
    have hsteps := hstep n oh hinv
    cases hfound : (entries.drop start)[n]? with
    | none =>
        rw [hfound] at hsteps
        exact hsteps
    | some status =>
        rw [hfound] at hsteps
        exact hsteps.2 (hnames status (List.mem_of_getElem? hfound))

/-! ### Chunks -/

/-- The handle of a listing in chunks, of which the entry with this number comes next. The number that a chunk begins
with is kept as an `int`. -/
structure Reading (surl : CString) (entries : List MdFileStatus) (start size i : Nat) (oh : SrmOpendirHandle) : Prop where
  context : oh.easy.srmContext.isSome = true
  surl_eq : oh.surl = surl
  chunked : oh.isChunkedListing = true
  size_eq : oh.chunkSize = size
  place : (∃ k, oh.srmFileStatuses = none ∧ i = start + k * size ∧ i < 2 ^ 32 ∧ oh.chunkOffset = Int.bmod i (2 ^ 32)) ∨
    ∃ listing offset k, oh.srmFileStatuses = some listing ∧ listing.subpaths = (entries.drop offset).take size ∧
      offset = start + k * size ∧ offset < 2 ^ 31 ∧ oh.chunkOffset = offset ∧ i = offset + oh.responseIndex ∧ oh.responseIndex < size

theorem bmod_of_lt (h : i < 2 ^ 31) : Int.bmod i (2 ^ 32) = i := Int.bmod_eq_of_le (by omega) (by omega)

theorem bmod_neg_of_le (h : 2 ^ 31 ≤ i) (hlt : i < 2 ^ 32) : Int.bmod i (2 ^ 32) < 0 := by
  rw [Int.bmod_def, if_neg (by omega)]
  omega

/-- A chunk whose first number is no `int` can not be asked for. -/
theorem Reading.wraps (context : Gfal2Context SrmWorld) (h : Reading surl entries start size i oh) (hserves : ListsDirectory servers surl entries tooBig)
    (hnone : oh.srmFileStatuses = none) (hwrap : 2 ^ 31 ≤ i) :
    ∃ e next left, gfalSrmReaddirppG servers oh context = .ok ((.error e, next), left) := by
  obtain ⟨k, -, -, hlt, hoffset⟩ | ⟨listing, offset, k, hsome, -⟩ := h.place
  · have hneg : oh.chunkOffset < 0 := by
      rw [hoffset]
      exact bmod_neg_of_le hwrap hlt
    obtain ⟨e, he⟩ := hserves.refused oh.chunkOffset oh.chunkSize context.world.made (.inl hneg)
    rw [← h.surl_eq] at he
    obtain ⟨asked, hasked⟩ := pipeline_of_error h.context hnone he
    obtain ⟨e', he'⟩ := readdirpp_of_chunk_error hasked h.chunked
    exact ⟨e', _, _, he'⟩
  · rw [hnone] at hsome
    cases hsome

/-- Otherwise the entries are there before one of them is handed out. -/
theorem Reading.pipeline (context : Gfal2Context SrmWorld) (h : Reading surl entries start size i oh) (hserves : ListsDirectory servers surl entries tooBig)
    (hsize : 0 < size) (hfits : oh.srmFileStatuses = none → i < 2 ^ 31) :
    ∃ filled asked, Reading surl entries start size i filled ∧ filled.srmFileStatuses ≠ none ∧
      gfalSrmReaddirPipeline servers oh context = nextEntry filled asked := by
  obtain ⟨k, hnone, hplace, -, hoffset⟩ | ⟨listing, offset, k, hsome, hrest⟩ := h.place
  · have hlt := hfits hnone
    rw [bmod_of_lt hlt] at hoffset
    have hanswer := hserves.part i size context.world.made hsize
    rw [← h.surl_eq, ← hoffset, ← h.size_eq] at hanswer
    obtain ⟨listing, asked, hentries, hrun⟩ := pipeline_of_holds h.context hnone hanswer
    refine ⟨{ oh with responseIndex := 0, srmFileStatuses := some listing }, asked,
      ⟨h.context, h.surl_eq, h.chunked, h.size_eq, .inr ?_⟩, (fun heq => by cases heq), hrun⟩
    exact ⟨listing, i, k, rfl, hentries, hplace, hlt, hoffset, rfl, hsize⟩
  · exact ⟨oh, context, h, (fun heq => by rw [heq] at hsome; cases hsome), pipeline_of_statuses hsome⟩

theorem Reading.advanced (h : Reading surl entries start size i oh) (hsize : size < 2 ^ 31)
    (hfilled : oh.srmFileStatuses ≠ none) : Reading surl entries start size (i + 1) oh.advanced := by
  obtain ⟨k, hnone, -⟩ | ⟨listing, offset, k, hsome, hentries, hplace, hlt, hoffset, hi, hindex⟩ := h.place
  · exact absurd hnone hfilled
  · unfold SrmOpendirHandle.advanced
    rw [h.size_eq, h.chunked]
    by_cases hend : ((oh.responseIndex + 1 : Nat) : Int) ≥ size
    · rw [if_pos ⟨rfl, hend⟩]
      have hnext : i + 1 = offset + size := by omega
      refine ⟨h.context, h.surl_eq, rfl, rfl, .inl ⟨k + 1, rfl, ?_, by omega, ?_⟩⟩
      · rw [hnext, hplace, Nat.add_mul]
        omega
      · have hsum : oh.chunkOffset + (size : Int) = (i + 1 : Nat) := by omega
        exact congrArg (fun value => Int.bmod value (2 ^ 32)) hsum
    · rw [if_neg fun hboth => hend hboth.2]
      exact ⟨h.context, h.surl_eq, rfl, rfl, .inr ⟨listing, offset, k, hsome, hentries, hplace, hlt, hoffset, by dsimp only; omega,
        by dsimp only; omega⟩⟩

/-- The entry that comes next, of a handle that has its chunk. -/
theorem Reading.lookup (h : Reading surl entries start size i oh) (hfilled : oh.srmFileStatuses ≠ none) :
    oh.srmFileStatuses.bind (·.subpaths[oh.responseIndex]?) = entries[i]? := by
  obtain ⟨k, hnone, -⟩ | ⟨listing, offset, k, hsome, hentries, -, -, -, hi, hindex⟩ := h.place
  · exact absurd hnone hfilled
  · rw [hsome, Option.bind_some, hentries, List.getElem?_take_of_lt hindex, List.getElem?_drop, hi]

/-- One call, once the handle has what comes next. -/
theorem steps_of_lookup {filled : SrmOpendirHandle} {asked : Gfal2Context SrmWorld} {found : Option MdFileStatus}
    (hlookup : filled.srmFileStatuses.bind (·.subpaths[filled.responseIndex]?) = found)
    (hrun : gfalSrmReaddirPipeline servers oh context = nextEntry filled asked)
    (hstays : found = none → next filled) (hmoves : found ≠ none → next filled.advanced) : Steps servers context oh next found := by
  cases found with
  | none =>
      rw [nextEntry_end hlookup] at hrun
      exact ⟨filled, ⟨_, readdirpp_of_ok hrun⟩, hstays rfl⟩
  | some status =>
      refine ⟨fun hlong => ?_, fun hshort => ?_⟩
      · rw [nextEntry_fault hlookup hlong] at hrun
        exact readdirpp_of_fault hrun
      · obtain ⟨left, hentry⟩ := nextEntry_entry asked hlookup hshort
        rw [hentry] at hrun
        exact ⟨_, ⟨left, readdirpp_of_ok hrun⟩, hmoves (Option.some_ne_none status)⟩

/-- One call, where the chunk can be had. -/
theorem Reading.step (h : Reading surl entries start size i oh)
    (hserves : ListsDirectory servers surl entries tooBig) (hpos : 0 < size) (hsize : size < 2 ^ 31)
    (hfits : oh.srmFileStatuses = none → i < 2 ^ 31)
    (hstays : entries[i]? = none → ∀ oh', Reading surl entries start size i oh' → next oh')
    (hmoves : entries[i]? ≠ none → ∀ oh', Reading surl entries start size (i + 1) oh' → next oh') :
    Steps servers context oh next entries[i]? := by
  obtain ⟨filled, asked, hreading, hfilled, hrun⟩ := h.pipeline context hserves hpos hfits
  exact steps_of_lookup (hreading.lookup hfilled) hrun (fun h => hstays h filled hreading)
    fun h => hmoves h _ (hreading.advanced hsize hfilled)

/-- No chunk of the directory begins behind the largest `int`. -/
def ChunksFit (start size length : Nat) : Prop := ∀ k, start + k * size ≤ length → start + k * size < 2 ^ 31

/-- The number of the entry that comes next after so many calls. -/
def placeAfter (start length n : Nat) : Nat := min (start + n) (max start length)

theorem placeAfter_entry (n : Nat) : entries[placeAfter start entries.length n]? = (entries.drop start)[n]? := by
  rw [List.getElem?_drop, placeAfter]
  by_cases hin : start + n < entries.length
  · rw [min_eq_left (by omega)]
  · rw [List.getElem?_eq_none (by omega), List.getElem?_eq_none (by omega)]

theorem placeAfter_stays {n : Nat} (h : entries[placeAfter start entries.length n]? = none) :
    placeAfter start entries.length (n + 1) = placeAfter start entries.length n := by
  rw [placeAfter_entry, List.getElem?_eq_none_iff, List.length_drop] at h
  unfold placeAfter
  omega

theorem placeAfter_moves {n : Nat} (h : entries[placeAfter start entries.length n]? ≠ none) :
    placeAfter start entries.length (n + 1) = placeAfter start entries.length n + 1 := by
  rw [placeAfter_entry, ne_eq, List.getElem?_eq_none_iff, List.length_drop] at h
  unfold placeAfter
  omega

/-- As long as the chunks fit, a chunk that is not there yet can be had. -/
theorem Reading.fits {n length : Nat} (h : Reading surl entries start size (placeAfter start length n) oh) (hstart : start < 2 ^ 31)
    (hfit : ChunksFit start size length) (hnone : oh.srmFileStatuses = none) : placeAfter start length n < 2 ^ 31 := by
  obtain ⟨k, -, hplace, -⟩ | ⟨listing, offset, k, hsome, -⟩ := h.place
  · by_cases hin : start + k * size ≤ length
    · rw [hplace]
      exact hfit k hin
    · unfold placeAfter at hplace ⊢
      omega
  · rw [hnone] at hsome
    cases hsome

/-- Between two calls the place moves on by the entry that is handed out. -/
theorem Reading.steps {n : Nat} (h : Reading surl entries start size (placeAfter start entries.length n) oh)
    (hserves : ListsDirectory servers surl entries tooBig) (hpos : 0 < size) (hsize : size < 2 ^ 31)
    (hfits : oh.srmFileStatuses = none → placeAfter start entries.length n < 2 ^ 31) :
    Steps servers context oh (Reading surl entries start size (placeAfter start entries.length (n + 1))) (entries.drop start)[n]? := by
  rw [← placeAfter_entry]
  refine h.step hserves hpos hsize hfits (fun hnone oh' hreading => ?_) fun hsome oh' hreading => ?_
  · exact placeAfter_stays hnone ▸ hreading
  · exact placeAfter_moves hsome ▸ hreading

/-- The entries can not be listed if a chunk begins behind the largest `int`. -/
theorem ListsFrom.chunksFit {target : List MdFileStatus} (hlists : ListsFrom servers contexts oh target)
    (hserves : ListsDirectory servers surl entries tooBig) (hpos : 0 < size) (hsize : size < 2 ^ 31)
    (hinit : Reading surl entries start size (placeAfter start entries.length 0) oh) : ChunksFit start size entries.length := by
  have hfits : ∀ {n oh entry next}, Reading surl entries start size (placeAfter start entries.length n) oh →
      HandsOut servers oh (contexts n) entry next → oh.srmFileStatuses = none → placeAfter start entries.length n < 2 ^ 31 := by
    intro n oh entry next hreading hhands hnone
    by_contra hwrap
    obtain ⟨e, failed, left, herror⟩ := hreading.wraps (contexts n) hserves hnone (by omega)
    exact not_handsOut_of_error herror hhands
  intro k hk
  obtain ⟨reached, next, hreading, hhands⟩ := hlists.steps
    (fun n oh => Reading surl entries start size (placeAfter start entries.length n) oh) hinit
    (fun n oh next hreading hhands => ((hreading.steps hserves hpos hsize (hfits hreading hhands)).unique hhands).2.2) (k * size)
  have hlt := hfits hreading hhands
  have hplace : placeAfter start entries.length (k * size) = start + k * size := by
    unfold placeAfter
    omega
  rw [hplace] at hreading hlt
  obtain ⟨-, hnone, -⟩ | ⟨listing, offset, k', -, -, hoffset, hbelow, -, hi, hindex⟩ := hreading.place
  · exact hlt hnone
  · -- The chunk that is there begins with this entry.
    have hsum : k * size = k' * size + reached.responseIndex := by omega
    have hzero : reached.responseIndex = 0 := by
      have hmod := congrArg (· % size) hsum
      simp only [Nat.mul_mod_left, Nat.mul_add_mod_self_right, Nat.mod_eq_of_lt hindex] at hmod
      exact hmod.symm
    omega

/-- A listing in chunks. -/
theorem chunks_list_iff {o : Nat} (hserves : ListsDirectory servers surl entries tooBig) (hpos : 0 < size) (hsize : size < 2 ^ 31)
    (hstart : start < 2 ^ 31) (h : Reading surl entries start size start oh) :
    ListsFrom servers contexts oh (entries.drop o) ↔ (entries.length - o = entries.length - start ∧
      ∀ entry ∈ entries.drop o, (entryName entry.surl).length < 256) ∧ ChunksFit start size entries.length := by
  have hinit : Reading surl entries start size (placeAfter start entries.length 0) oh := by
    have hzero : placeAfter start entries.length 0 = start := by
      unfold placeAfter
      omega
    exact hzero.symm ▸ h
  have hfitting : ChunksFit start size entries.length → (ListsFrom servers contexts oh (entries.drop o) ↔
      entries.length - o = entries.length - start ∧ ∀ entry ∈ entries.drop o, (entryName entry.surl).length < 256) := by
    intro hfit
    exact listsFrom_iff_of_steps (fun n oh => Reading surl entries start size (placeAfter start entries.length n) oh) hinit
      fun n oh hreading => hreading.steps hserves hpos hsize (hreading.fits hstart hfit)
  constructor
  · intro hlists
    have hfit := hlists.chunksFit hserves hpos hsize hinit
    exact ⟨(hfitting hfit).mp hlists, hfit⟩
  · intro ⟨hlisted, hfit⟩
    exact (hfitting hfit).mpr hlisted

/-! ### The other ways to list -/

/-- A handle with an offset and no number of entries, which is to ask for its listing. -/
structure Uncounted (surl : CString) (start : Nat) (oh : SrmOpendirHandle) : Prop where
  context : oh.easy.srmContext.isSome = true
  surl_eq : oh.surl = surl
  chunked : oh.isChunkedListing = true
  size_eq : oh.chunkSize = 0
  offset_eq : oh.chunkOffset = start
  asks : oh.srmFileStatuses = none

theorem Uncounted.pipeline (context : Gfal2Context SrmWorld) (h : Uncounted surl start oh) (hserves : ListsDirectory servers surl entries tooBig) (hpos : 0 < start) :
    ∃ listing asked, listing.subpaths = entries.drop start ∧ gfalSrmReaddirPipeline servers oh context =
      nextEntry { oh with responseIndex := 0, srmFileStatuses := some listing } asked := by
  have hanswer := hserves.rest start context.world.made (.inl (by omega))
  rw [← h.surl_eq, ← h.offset_eq, ← h.size_eq] at hanswer
  exact pipeline_of_holds h.context h.asks hanswer

/-- Nothing is left of the listing of the handle. -/
def SrmOpendirHandle.Ended (oh : SrmOpendirHandle) : Prop :=
  oh.srmFileStatuses ≠ none ∧ oh.srmFileStatuses.bind (·.subpaths[oh.responseIndex]?) = none

theorem handsOut_of_ended (h : oh.Ended) : HandsOut servers oh context none oh := by
  obtain ⟨hsome, hlookup⟩ := h
  obtain ⟨listing, hlisting⟩ := Option.ne_none_iff_exists'.mp hsome
  exact ⟨context, readdirpp_of_ok ((pipeline_of_statuses hlisting).trans (nextEntry_end hlookup))⟩

/-- Behind the last entry there is nothing. -/
theorem Uncounted.ends (context : Gfal2Context SrmWorld) (h : Uncounted surl start oh) (hserves : ListsDirectory servers surl entries tooBig) (hpos : 0 < start)
    (hend : entries.length ≤ start) : ∃ next, HandsOut servers oh context none next ∧ next.Ended := by
  obtain ⟨listing, asked, hentries, hrun⟩ := h.pipeline context hserves hpos
  have hlookup : (some listing).bind (·.subpaths[0]?) = none := by
    rw [Option.bind_some, hentries, List.drop_eq_nil_of_le hend]
    rfl
  rw [@nextEntry_end _ { oh with responseIndex := 0, srmFileStatuses := some listing } hlookup] at hrun
  exact ⟨_, ⟨_, readdirpp_of_ok hrun⟩, (fun heq => by cases heq), hlookup⟩

/-- An entry that is handed out leaves the handle where it was. -/
theorem Uncounted.again {next : SrmOpendirHandle} (h : Uncounted surl start oh)
    (hserves : ListsDirectory servers surl entries tooBig) (hpos : 0 < start) (hstart : start < 2 ^ 31)
    (hin : start < entries.length) (hhands : HandsOut servers oh context entry next) :
    entry.isSome = true ∧ Uncounted surl start next := by
  obtain ⟨listing, asked, hentries, hrun⟩ := h.pipeline context hserves hpos
  have hlookup : (some listing).bind (·.subpaths[0]?) = some entries[start] := by
    rw [Option.bind_some, hentries, List.getElem?_drop, Nat.add_zero, List.getElem?_eq_getElem]
  by_cases hname : (entryName entries[start].surl).length < 256
  · obtain ⟨left, hentry⟩ := @nextEntry_entry { oh with responseIndex := 0, srmFileStatuses := some listing }
      asked _ hlookup hname
    rw [hentry] at hrun
    obtain ⟨rfl, rfl⟩ := hhands.unique ⟨left, readdirpp_of_ok hrun⟩
    refine ⟨rfl, ?_⟩
    unfold SrmOpendirHandle.advanced
    rw [if_pos ⟨h.chunked, by rw [h.size_eq]; omega⟩]
    refine ⟨h.context, h.surl_eq, h.chunked, h.size_eq, ?_, rfl⟩
    have hsum : oh.chunkOffset + oh.chunkSize = start := by
      rw [h.offset_eq, h.size_eq, Int.add_zero]
    exact (congrArg (fun value => Int.bmod value (2 ^ 32)) hsum).trans (bmod_of_lt hstart)
  · rw [nextEntry_fault hlookup (by omega)] at hrun
    exact absurd hhands (not_handsOut_of_fault (readdirpp_of_fault hrun))

/-- An offset with no number of entries lists nothing but what is empty. -/
theorem uncounted_lists_iff {o : Nat} (h : Uncounted surl start oh) (hserves : ListsDirectory servers surl entries tooBig)
    (hpos : 0 < start) (hstart : start < 2 ^ 31) :
    ListsFrom servers contexts oh (entries.drop o) ↔ (entries.length - o = entries.length - start ∧
      ∀ entry ∈ entries.drop o, (entryName entry.surl).length < 256) ∧ entries.length ≤ start := by
  have hempty : entries.length ≤ start → (ListsFrom servers contexts oh (entries.drop o) ↔
      entries.length - o = entries.length - start ∧ ∀ entry ∈ entries.drop o, (entryName entry.surl).length < 256) := by
    intro hend
    refine listsFrom_iff_of_steps (fun _ oh => Uncounted surl start oh ∨ oh.Ended) (.inl h) fun n oh hinv => ?_
    have hnone : (entries.drop start)[n]? = none := by
      rw [List.drop_eq_nil_of_le hend]
      rfl
    rw [hnone]
    obtain hasks | hended := hinv
    · obtain ⟨next, hhands, hended⟩ := hasks.ends (contexts n) hserves hpos hend
      exact ⟨next, hhands, .inr hended⟩
    · exact ⟨oh, handsOut_of_ended hended, .inr hended⟩
  constructor
  · intro hlists
    have hend : entries.length ≤ start := by
      by_contra hin
      have hsteps := hlists.steps (fun _ oh => Uncounted surl start oh) h
        fun n oh next hasks hhands => (hasks.again hserves hpos hstart (by omega) hhands).2
      obtain ⟨reached, next, hasks, hhands⟩ := hsteps (entries.drop o).length
      have hmore := (hasks.again hserves hpos hstart (by omega) hhands).1
      rw [List.getElem?_eq_none (Nat.le_refl _)] at hmore
      cases hmore
    exact ⟨(hempty hend).mp hlists, hend⟩
  · intro ⟨hlisted, hend⟩
    exact (hempty hend).mpr hlisted

/-- Nothing is listed where the service refuses the range. -/
theorem not_listsFrom_of_refused (hserves : ListsDirectory servers surl entries tooBig) (hsome : oh.easy.srmContext.isSome = true)
    (hsurl : oh.surl = surl) (hchunked : oh.isChunkedListing = true) (hnone : oh.srmFileStatuses = none)
    (hneg : oh.chunkOffset < 0 ∨ oh.chunkSize < 0) (target : List MdFileStatus) : ¬ListsFrom servers contexts oh target := by
  intro hlists
  obtain ⟨next, hhands⟩ := hlists.first
  obtain ⟨e, he⟩ := hserves.refused oh.chunkOffset oh.chunkSize (contexts 0).world.made hneg
  rw [← hsurl] at he
  obtain ⟨asked, hasked⟩ := pipeline_of_error hsome hnone he
  obtain ⟨e', he'⟩ := readdirpp_of_chunk_error hasked hchunked
  exact not_handsOut_of_error he' hhands

/-- A handle with the whole listing, of which the entry with this number comes next. -/
structure ReadingWhole (entries : List MdFileStatus) (i : Nat) (oh : SrmOpendirHandle) : Prop where
  whole : oh.isChunkedListing = false
  filled : ∃ listing, oh.srmFileStatuses = some listing ∧ listing.subpaths = entries
  index : oh.responseIndex = i

theorem ReadingWhole.lookup (h : ReadingWhole entries i oh) :
    oh.srmFileStatuses.bind (·.subpaths[oh.responseIndex]?) = entries[i]? := by
  obtain ⟨listing, hlisting, hentries⟩ := h.filled
  rw [hlisting, Option.bind_some, hentries, h.index]

/-- One entry of the whole listing. -/
theorem ReadingWhole.step {filled : SrmOpendirHandle} {asked : Gfal2Context SrmWorld}
    (h : ReadingWhole entries i filled) (hrun : gfalSrmReaddirPipeline servers oh context = nextEntry filled asked)
    (hstays : entries[i]? = none → ∀ oh', ReadingWhole entries i oh' → next oh')
    (hmoves : entries[i]? ≠ none → ∀ oh', ReadingWhole entries (i + 1) oh' → next oh') :
    Steps servers context oh next entries[i]? := by
  refine steps_of_lookup h.lookup hrun (fun hend => hstays hend filled h) fun hmore => hmoves hmore _ ?_
  unfold SrmOpendirHandle.advanced
  rw [if_neg (by rw [h.whole]; simp)]
  exact ⟨h.whole, h.filled, by dsimp only; rw [h.index]⟩

/-- The listing of the directory as a whole. -/
theorem whole_lists_iff {o : Nat} (hserves : ListsDirectory servers surl entries tooBig) (hsome : oh.easy.srmContext.isSome = true)
    (hsurl : oh.surl = surl) (hwhole : oh.isChunkedListing = false) (hoffset : oh.chunkOffset = 0) (hsize : oh.chunkSize = 0)
    (hnone : oh.srmFileStatuses = none) (hfits : ¬tooBig (contexts 0).world.made) :
    ListsFrom servers contexts oh (entries.drop o) ↔
      entries.length - o = entries.length - 0 ∧ ∀ entry ∈ entries.drop o, (entryName entry.surl).length < 256 := by
  have hinit : ∃ filled asked, ReadingWhole entries (placeAfter 0 entries.length 0) filled ∧
      gfalSrmReaddirPipeline servers oh (contexts 0) = nextEntry filled asked := by
    have hanswer := hserves.rest 0 (contexts 0).world.made (.inr hfits)
    rw [List.drop_zero, ← hsurl] at hanswer
    have hanswer' : HoldsEntries (servers.listing oh.surl oh.chunkOffset oh.chunkSize (contexts 0).world.made) entries := by
      rw [hoffset, hsize]
      exact hanswer
    obtain ⟨listing, asked, hentries, hrun⟩ := pipeline_of_holds hsome hnone hanswer'
    refine ⟨{ oh with responseIndex := 0, srmFileStatuses := some listing }, asked, ⟨hwhole, ⟨listing, rfl, hentries⟩, ?_⟩, hrun⟩
    exact (Nat.zero_min _).symm
  refine listsFrom_iff_of_steps (fun n oh => ∃ filled asked, ReadingWhole entries (placeAfter 0 entries.length n) filled ∧
    gfalSrmReaddirPipeline servers oh (contexts n) = nextEntry filled asked) hinit fun n oh hinv => ?_
  obtain ⟨filled, asked, hreading, hrun⟩ := hinv
  rw [← placeAfter_entry]
  have hnext : ∀ m oh', ReadingWhole entries m oh' → ∃ filled asked, ReadingWhole entries m filled ∧
      gfalSrmReaddirPipeline servers oh' (contexts (n + 1)) = nextEntry filled asked := by
    intro m oh' hreading
    obtain ⟨listing, hlisting, -⟩ := hreading.filled
    exact ⟨oh', contexts (n + 1), hreading, pipeline_of_statuses hlisting⟩
  refine hreading.step hrun (fun hnone oh' hreading' => ?_) fun hsome oh' hreading' => ?_
  · exact placeAfter_stays hnone ▸ hnext _ oh' hreading'
  · exact placeAfter_moves hsome ▸ hnext _ oh' hreading'

/-- A directory that is too big is listed anew in chunks of a thousand entries. -/
theorem readdirpp_retries (context : Gfal2Context SrmWorld) (hserves : ListsDirectory servers surl entries tooBig) (hsome : oh.easy.srmContext.isSome = true)
    (hsurl : oh.surl = surl) (hwhole : oh.isChunkedListing = false) (hoffset : oh.chunkOffset = 0) (hsize : oh.chunkSize = 0)
    (hnone : oh.srmFileStatuses = none) (hbig : tooBig context.world.made) :
    ∃ asked chunked, gfalSrmReaddirppG servers oh context = gfalSrmReaddirppG servers chunked asked ∧
      Reading surl entries 0 1000 0 chunked := by
  obtain ⟨e, he, hcode⟩ := hserves.big context.world.made hbig
  have he' : listingError (servers.listing oh.surl oh.chunkOffset oh.chunkSize context.world.made) = some e := by
    rw [hoffset, hsize, hsurl]
    exact he
  obtain ⟨asked, hasked⟩ := pipeline_of_error hsome hnone he'
  have hreading : Reading surl entries 0 1000 0
      { oh with isChunkedListing := true, chunkOffset := 0, chunkSize := 1000, responseIndex := 0 } :=
    ⟨hsome, hsurl, rfl, rfl, .inl ⟨0, hnone, rfl, by omega, rfl⟩⟩
  refine ⟨asked, _, ?_, hreading⟩
  obtain ⟨filled, asked', -, -, hrun⟩ := hreading.pipeline asked hserves (by omega) fun _ => by omega
  have hretry : gfalSrmReaddirppG servers oh context = (gfalSrmReaddirPipeline servers
      { oh with isChunkedListing := true, chunkOffset := 0, chunkSize := 1000, responseIndex := 0 } >>= fun answer =>
        pure (answer.1.mapError fun e => propagatePrefixedErrorExtended e (lit "Failed when attempting chunk listing"), answer.2))
      asked := by
    rw [gfalSrmReaddirppG, bind_of_ok hasked]
    simp only [if_pos hcode, hwhole]
    rfl
  rw [hretry]
  obtain ⟨entry, next, left, hentry⟩ | ⟨reason, hfault⟩ := @nextEntry_cases asked' filled
  · rw [hentry] at hrun
    exact (bind_of_ok hrun).trans (readdirpp_of_ok hrun).symm
  · rw [hfault] at hrun
    exact (bind_of_error hrun).trans (readdirpp_of_fault hrun).symm

/-! ### The listing of a directory -/

/-- A range is listed from an entry on: its numbers are such that a service answers to them, the offset leaves as many
entries and goes with a number of entries if it is not 0, every name fits the buffer that it is copied into, and no chunk
begins behind the largest `int`. -/
structure WellListed (entries : List MdFileStatus) (o : Nat) (offset count : Int) (tooBig : Prop) : Prop where
  offset_nonneg : 0 ≤ offset
  count_nonneg : 0 ≤ count
  remaining : entries.length - o = entries.length - offset.toNat
  names : ∀ entry ∈ entries.drop o, (entryName entry.surl).length < 256
  counted : offset ≠ 0 → count = 0 → entries.length ≤ offset.toNat
  chunks : 0 < count → ChunksFit offset.toNat count.toNat entries.length
  retried : offset = 0 → count = 0 → tooBig → ChunksFit 0 1000 entries.length

/-- The listing of a range by a handle that is just open. -/
theorem range_lists_iff {easy : GfalSrmEasy} {o : Nat} {offset count : Int} (hserves : ListsDirectory servers surl entries tooBig)
    (hsome : easy.srmContext.isSome = true) (hoffset : offset < 2 ^ 31) (hcount : count < 2 ^ 31) :
    ListsFrom servers contexts (SrmOpendirHandle.withRange { easy := easy, surl := surl } offset count) (entries.drop o) ↔
      WellListed entries o offset count (tooBig (contexts 0).world.made) := by
  have hchunked : offset ≠ 0 ∨ count ≠ 0 →
      (SrmOpendirHandle.withRange { easy := easy, surl := surl } offset count).isChunkedListing = true := decide_eq_true
  by_cases hneg : offset < 0 ∨ count < 0
  · have hnot : ¬ListsFrom servers contexts _ (entries.drop o) := not_listsFrom_of_refused hserves hsome rfl (hchunked (by omega)) rfl hneg _
    refine ⟨fun h => absurd h hnot, fun h => ?_⟩
    have hoffset := h.offset_nonneg
    have hcount := h.count_nonneg
    omega
  · obtain ⟨start, rfl⟩ := Int.eq_ofNat_of_zero_le (a := offset) (by omega)
    obtain ⟨size, rfl⟩ := Int.eq_ofNat_of_zero_le (a := count) (by omega)
    rcases Nat.eq_zero_or_pos size with rfl | hsize
    · rcases Nat.eq_zero_or_pos start with rfl | hstart
      · by_cases hbig : tooBig (contexts 0).world.made
        · obtain ⟨asked, chunked, hfirst, hreading⟩ := @readdirpp_retries servers
            (SrmOpendirHandle.withRange { easy := easy, surl := surl } 0 0) entries surl tooBig (contexts 0) hserves hsome
            rfl rfl rfl rfl rfl hbig
          have hlater : ∀ n, contexts (n + 1) = Function.update contexts 0 asked (n + 1) :=
            fun n => (Function.update_of_ne (by omega) _ _).symm
          have hfirst' : gfalSrmReaddirppG servers (SrmOpendirHandle.withRange { easy := easy, surl := surl } 0 0) (contexts 0) =
              gfalSrmReaddirppG servers chunked (Function.update contexts 0 asked 0) := by
            rw [Function.update_self, hfirst]
          have hlists : ListsFrom servers contexts (SrmOpendirHandle.withRange { easy := easy, surl := surl } 0 0) (entries.drop o) ↔
              ListsFrom servers (Function.update contexts 0 asked) chunked (entries.drop o) :=
            ⟨fun h => h.of_first hlater hfirst', fun h => h.of_first (fun n => (hlater n).symm) hfirst'.symm⟩
          refine hlists.trans ?_
          rw [chunks_list_iff hserves (by omega) (by omega) (by omega) hreading]
          constructor
          · intro ⟨⟨hlength, hnames⟩, hfit⟩
            exact ⟨by omega, by omega, hlength, hnames, by omega, by omega, fun _ _ _ => hfit⟩
          · intro h
            exact ⟨⟨h.remaining, h.names⟩, h.retried rfl rfl hbig⟩
        · rw [whole_lists_iff hserves hsome rfl rfl rfl rfl rfl hbig]
          constructor
          · intro ⟨hlength, hnames⟩
            exact ⟨by omega, by omega, hlength, hnames, by omega, by omega, fun _ _ h => absurd h hbig⟩
          · intro h
            exact ⟨h.remaining, h.names⟩
      · rw [uncounted_lists_iff ⟨hsome, rfl, hchunked (by omega), rfl, rfl, rfl⟩ hserves hstart (by omega)]
        constructor
        · intro ⟨⟨hlength, hnames⟩, hend⟩
          exact ⟨by omega, by omega, hlength, hnames, fun _ _ => hend, by omega, by omega⟩
        · intro h
          exact ⟨⟨h.remaining, h.names⟩, h.counted (by omega) rfl⟩
    · have hreading : Reading surl entries start size start
          (SrmOpendirHandle.withRange { easy := easy, surl := surl } start size) :=
        ⟨hsome, rfl, hchunked (by omega), rfl, .inl ⟨0, rfl, by omega, by omega, (bmod_of_lt (by omega)).symm⟩⟩
      rw [chunks_list_iff hserves hsize (by omega) (by omega) hreading]
      constructor
      · intro ⟨⟨hlength, hnames⟩, hfit⟩
        exact ⟨by omega, by omega, hlength, hnames, by omega, fun _ => hfit, by omega⟩
      · intro h
        exact ⟨⟨h.remaining, h.names⟩, h.chunks (by omega)⟩

theorem readNumber_lt (n : Option Nat) : readNumber n < 2 ^ 31 := by
  have hlt : ∀ value : Int, Int.bmod value (2 ^ 32) < 2 ^ 31 := by
    intro value
    have h := @Int.bmod_lt value (2 ^ 32) (by omega)
    omega
  exact hlt _

/-- Repeated calls that read a directory list its entries from the offset on and then nothing for ever, with no write
behind the buffer of a name, just when the range is well listed. -/
theorem directory_listing_iff {dir : CString} {offset count : Option Nat}
    (hpath : gfal2SrmGetDecodedPath surl = dir ++ listingSuffix offset count) (hdir : ';' ∉ dir)
    (hserves : ListsDirectory servers (dir.rdropWhile (· == '/')) entries tooBig)
    (hopen : (gfalSrmOpendirG servers surl).run context = .ok (.ok oh, left)) :
    ListsFrom servers contexts oh (entries.drop (offset.getD 0)) ↔
      WellListed entries (offset.getD 0) (readNumber offset) (readNumber count) (tooBig (contexts 0).world.made) := by
  obtain ⟨easy, hsome, rfl⟩ := opendir_handle hpath hdir hopen
  exact range_lists_iff hserves hsome (readNumber_lt offset) (readNumber_lt count)

/-- A service whose every file is a directory with these entries, and which lists as many as are asked for. -/
def directoryServers (entries : List MdFileStatus) : SrmServers :=
  { failingServers with
    ls := fun _ _ => .ok { stat := { stMode := sIfdir } }
    listing := fun _ offset count _ =>
      if offset < 0 ∨ count < 0 then .error ioError
      else if count = 0 then .ok { subpaths := entries.drop offset.toNat }
      else .ok { subpaths := (entries.drop offset.toNat).take count.toNat } }

theorem directoryServers_lists (entries : List MdFileStatus) (surl : CString) :
    ListsDirectory (directoryServers entries) surl entries fun _ => False where
  part := by
    intro offset count history hpos
    refine ⟨{ subpaths := (entries.drop offset).take count }, ?_, rfl, rfl⟩
    have hanswer : (if (offset : Int) < 0 ∨ (count : Int) < 0 then Except.error ioError
        else if (count : Int) = 0 then .ok { subpaths := entries.drop (offset : Int).toNat }
        else .ok { subpaths := (entries.drop (offset : Int).toNat).take (count : Int).toNat }) =
          Except.ok ({ subpaths := (entries.drop offset).take count } : DirectoryListing) := by
      rw [if_neg (by omega), if_neg (by omega), Int.toNat_natCast, Int.toNat_natCast]
    exact hanswer
  rest := by
    intro offset history _
    refine ⟨{ subpaths := entries.drop offset }, ?_, rfl, rfl⟩
    have hanswer : (if (offset : Int) < 0 ∨ (0 : Int) < 0 then Except.error ioError
        else if (0 : Int) = 0 then .ok { subpaths := entries.drop (offset : Int).toNat }
        else .ok { subpaths := (entries.drop (offset : Int).toNat).take (0 : Int).toNat }) =
          Except.ok ({ subpaths := entries.drop offset } : DirectoryListing) := by
      rw [if_neg (by omega), if_pos rfl, Int.toNat_natCast]
    exact hanswer
  big := fun _ h => h.elim
  refused := by
    intro offset count history hneg
    refine ⟨ioError, ?_⟩
    rw [directoryServers]
    dsimp only
    rw [if_pos hneg]
    rfl

/-- A directory with two files. -/
def twoEntries : List MdFileStatus := [{ surl := lit "/d/a" }, { surl := lit "/d/b" }]

theorem twoEntries_path : gfal2SrmGetDecodedPath (lit "srm://h/d;offset=1") = lit "srm://h/d" ++ listingSuffix (some 1) none := by
  decide +kernel

theorem twoEntries_opened : ∃ oh left, (gfalSrmOpendirG (directoryServers twoEntries) (lit "srm://h/d;offset=1")).run
    { world := { plugin := {} } } = .ok (.ok oh, left) := by
  have hopened : ((((gfalSrmOpendirG (directoryServers twoEntries) (lit "srm://h/d;offset=1")).run
      { world := { plugin := {} } }).toOption.bind fun answer => answer.1.toOption).isSome) = true := by
    decide +kernel
  rcases hrun : (gfalSrmOpendirG (directoryServers twoEntries) (lit "srm://h/d;offset=1")).run
      { world := { plugin := {} } } with fault | ⟨e | oh, left⟩
  · rw [hrun] at hopened
    cases hopened
  · rw [hrun] at hopened
    cases hopened
  · exact ⟨oh, left, rfl⟩

/-- An offset of one entry lists the second of two entries again and again. -/
theorem offset_alone_never_ends : ∃ oh left,
    (gfalSrmOpendirG (directoryServers twoEntries) (lit "srm://h/d;offset=1")).run { world := { plugin := {} } } = .ok (.ok oh, left) ∧
      gfal2SrmGetDecodedPath (lit "srm://h/d;offset=1") = lit "srm://h/d" ++ listingSuffix (some 1) none ∧
      ListsDirectory (directoryServers twoEntries) (lit "srm://h/d") twoEntries (fun _ => False) ∧
      ¬ListsFrom (directoryServers twoEntries) (fun _ => left) oh (twoEntries.drop 1) := by
  obtain ⟨oh, left, hopen⟩ := twoEntries_opened
  refine ⟨oh, left, hopen, twoEntries_path, directoryServers_lists _ _, fun hlists => ?_⟩
  obtain ⟨easy, hsome, rfl⟩ := opendir_handle twoEntries_path (by decide) hopen
  have hwell := (range_lists_iff (directoryServers_lists twoEntries _) hsome (readNumber_lt _) (readNumber_lt _)).mp hlists
  have hend := hwell.counted (by decide) (by decide)
  exact absurd hend (by decide)

theorem directory_listing_two : ∃ oh left,
    (gfalSrmOpendirG (directoryServers twoEntries) (lit "srm://h/d;offset=1")).run { world := { plugin := {} } } = .ok (.ok oh, left) ∧
      (ListsFrom (directoryServers twoEntries) (fun _ => left) oh (twoEntries.drop 1) ↔
        WellListed twoEntries 1 (readNumber (some 1)) (readNumber none) False) := by
  obtain ⟨oh, left, hopen⟩ := twoEntries_opened
  exact ⟨oh, left, hopen, directory_listing_iff twoEntries_path (by decide) (directoryServers_lists twoEntries _) hopen⟩

end Gfal2
