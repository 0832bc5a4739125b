import Gfal2.Checksums
import Gfal2.LfcCatalogue

/-! Registration in the catalogue. The entry is created, sized and given its replica by separate calls, and nothing is taken back when one of
them fails. -/

namespace Gfal2

open Base Exec

/-! ### What a registration is for -/

/-- The host of `scheme://host[:port]/path`. -/
def sourceHost (url : CString) : CString := ((url.dropWhile (· ≠ ':')).drop 3).takeWhile fun c => decide (c ≠ ':' ∧ c ≠ '/')

/-- Checksums of one type that differ under `gfal_compare_checksums`. -/
def ChecksumsDiffer (info : SizeAndChecksum) (statg : LfcFilestatg) : Prop :=
  info.csumvalue ≠ [] ∧ statg.csumvalue ≠ [] ∧ info.csumtype = statg.csumtype ∧
    gfalCompareChecksums info.csumvalue statg.csumvalue 33 ≠ 0

variable {W : Type} (services : LfcServices W) (view : W → Catalogue)

/-- The source has been asked for its size and its checksum, the destination leads to a path, and the environment is set up for the calls. -/
def RegisterPrepared (srcUrl dstUrl : CString) (before : LfcContext W) (path : CString) (info : SizeAndChecksum) (context : LfcContext W) : Prop :=
  ∃ found host srcHost context₁, registerTarget services srcUrl dstUrl before = .ok (.ok (found, host, path, srcHost, info), context₁) ∧
    lfcConfigureEnvironment services found dstUrl context₁ = .ok (none, context)

/-- A registration is sound and atomic. -/
structure RegisterRight (srcUrl dstUrl : CString) (answer : Ret Int) (before after : LfcContext W) : Prop where
  attached : answer.val = 0 → ∃ path info context entry, RegisterPrepared services srcUrl dstUrl before path info context ∧
    (view after.world).entry (context.env lfcEnvVarHost) path = some entry ∧
    (view after.world).server (context.env lfcEnvVarHost) entry.guid srcUrl = some (sourceHost srcUrl) ∧
    entry.filesize = info.filesize ∧
    ((view before.world).entry (context.env lfcEnvVarHost) path = none ∧ entry.csumtype = info.csumtype ∧
        entry.csumvalue = info.csumvalue ∨
      (view before.world).entry (context.env lfcEnvVarHost) path ≠ none ∧ ¬ChecksumsDiffer info entry)
  mismatch : ∀ path info context statg e, RegisterPrepared services srcUrl dstUrl before path info context →
    (services.answer context.env (.statg path) context.world).1 = .ok statg → info.filesize = statg.filesize →
      validateNewReplica statg info = some e → answer.err = some e → ChecksumsDiffer info statg
  whole : answer.val ≠ 0 → ¬(view before.world).Gains (view after.world)

/-- Of the calls that are made, one that attaches the replica gives the right server, a replica that is already there is one of the entry,
and nothing is created without the replica; and checksums that are not the same text are not the same checksum. -/
structure RegistersWhole (srcUrl dstUrl : CString) (before : LfcContext W) (made : List LfcRequest) : Prop where
  server : ∀ request ∈ made, request.Attaches → request.failure = none → getHost srcUrl = .ok (sourceHost srcUrl)
  known : ∀ request ∈ made, request.Attaches → ∀ failure, request.failure = some failure → gfalLfcGetErrno services failure = EEXIST →
    ∃ path info context entry, RegisterPrepared services srcUrl dstUrl before path info context ∧
      (view before.world).entry (context.env lfcEnvVarHost) path = some entry ∧
      (view before.world).server (context.env lfcEnvVarHost) entry.guid srcUrl = some (sourceHost srcUrl)
  whole : ∀ request ∈ made, request.Creates → ∃ request' ∈ made, request'.Attaches ∧ request'.failure = none
  checksum : ∀ path info context statg, RegisterPrepared services srcUrl dstUrl before path info context →
    (services.answer context.env (.statg path) context.world).1 = .ok statg → info.filesize = statg.filesize →
      info.csumvalue ≠ [] → statg.csumvalue ≠ [] → info.csumtype = statg.csumtype → info.csumvalue ≠ statg.csumvalue →
        gfalCompareChecksums info.csumvalue statg.csumvalue 33 ≠ 0

variable {services view} {context context' : LfcContext W} {urls : List CString} {srcUrl dstUrl : CString} {statg : LfcFilestatg}

/-! ### What is compared -/

theorem sourceChecksum_length {url type value : CString} (h : sourceChecksum services url type context = .ok (some value, context')) :
    value.length < 33 := by
  rw [sourceChecksum] at h
  split at h
  · obtain ⟨answer, middle, hchecksum, h⟩ := bind_eq_ok.mp h
    obtain ⟨hvalue, -⟩ := ok_inj h
    obtain ⟨e, context₁, -, hfailed, -⟩ | ⟨found, target, context₁, failure, context₂, -, -, hlast⟩ := withLfcEnvironment_cases hchecksum
    · cases hvalue.symm.trans hfailed
    · obtain ⟨-, hfailed, -⟩ | ⟨-, context₃, hact, -⟩ := hlast
      · cases hvalue.symm.trans hfailed
      · obtain ⟨checksumSt, last, -, hact⟩ := bind_eq_ok.mp hact
        cases checksumSt with
        | error e =>
            obtain ⟨rfl, -⟩ := ok_inj hact
            cases hvalue
        | ok checksumSt =>
            obtain ⟨rfl, -⟩ := ok_inj hact
            rw [← Option.some.inj hvalue, List.length_take]
            omega
  · obtain ⟨hvalue, -⟩ := ok_inj h
    obtain ⟨text, -, rfl⟩ := Option.map_eq_some_iff.mp hvalue
    rw [List.length_take]
    omega

/-- The type and the value of a checksum fit into their arrays. -/
def SizeAndChecksum.Fits (info : SizeAndChecksum) : Prop := info.csumtype.length < 3 ∧ info.csumvalue.length < 33

theorem replicaChecksum_fits {url : CString} {info value : SizeAndChecksum} {types : List CString} (htypes : ∀ type ∈ types, type.length < 3)
    (hinfo : info.Fits) (h : replicaChecksum services url info types context = .ok (value, context')) : value.Fits := by
  induction types generalizing context with
  | nil =>
      obtain ⟨rfl, -⟩ := ok_inj h
      exact hinfo
  | cons type types ih =>
      obtain ⟨answer, middle, hchecksum, h⟩ := bind_eq_ok.mp h
      cases answer with
      | none => exact ih (fun type hmem => htypes type (List.mem_cons_of_mem _ hmem)) h
      | some text =>
          obtain ⟨rfl, -⟩ := ok_inj h
          exact ⟨htypes type List.mem_cons_self, sourceChecksum_length hchecksum⟩

/-- What a registration has found out, with the host of its source. -/
theorem registerTarget_ok {found host : Option CString} {path srcHost : CString} {info : SizeAndChecksum}
    (h : registerTarget services srcUrl dstUrl context = .ok (.ok (found, host, path, srcHost, info), context')) :
    getHost srcUrl = .ok srcHost ∧ info.Fits := by
  obtain ⟨converted, middle, -, h⟩ := bind_eq_ok.mp h
  cases converted with
  | error e => cases (ok_inj h).1
  | ok parts =>
      cases hhost : getHost srcUrl with
      | error e =>
          simp only [hhost] at h
          cases (ok_inj h).1
      | ok srcHost' =>
          simp only [hhost] at h
          obtain ⟨answer, last, hinfo, h⟩ := bind_eq_ok.mp h
          cases answer with
          | error e => cases (ok_inj h).1
          | ok info' =>
              obtain ⟨hresolved, -⟩ := ok_inj h
              simp only [Except.ok.injEq, Prod.mk.injEq] at hresolved
              obtain ⟨-, -, -, rfl, rfl⟩ := hresolved
              refine ⟨by rfl, ?_⟩
              obtain ⟨stat, _, -, hinfo⟩ := bind_eq_ok.mp hinfo
              cases stat with
              | error e => cases (ok_inj hinfo).1
              | ok size =>
                  obtain ⟨value, _, hchecksum, hinfo⟩ := bind_eq_ok.mp hinfo
                  obtain ⟨hvalue, -⟩ := ok_inj hinfo
                  rw [← Except.ok.inj hvalue]
                  exact replicaChecksum_fits (by decide) ⟨by simp, by simp⟩ hchecksum

theorem strncmp_of_length_lt {left right : CString} {n : Nat} (hleft : left.length < n) (hright : right.length < n) :
    strncmp left right n = 0 ↔ left = right := by
  rw [strncmp, strcmp_eq_zero_iff, List.take_of_length_le hleft.le, List.take_of_length_le hright.le]

/-- A replica of the right size is refused for the text of its checksum. -/
theorem validateNewReplica_checksum {info : SizeAndChecksum} (hinfo : info.Fits) (htype : statg.csumtype.length < 3)
    (hvalue : statg.csumvalue.length < 33) (hsize : info.filesize = statg.filesize) :
    validateNewReplica statg info ≠ none ↔
      statg.csumvalue ≠ [] ∧ info.csumvalue ≠ [] ∧ info.csumtype = statg.csumtype ∧ info.csumvalue ≠ statg.csumvalue := by
  have htypes : info.csumtype = statg.csumtype ↔ strncmp info.csumtype statg.csumtype 3 = 0 :=
    (strncmp_of_length_lt hinfo.1 htype).symm
  have hvalues : info.csumvalue ≠ statg.csumvalue ↔ strncmp info.csumvalue statg.csumvalue 33 ≠ 0 :=
    (strncmp_of_length_lt hinfo.2 hvalue).not.symm
  rw [validateNewReplica, if_neg (not_not_intro hsize), htypes, hvalues]
  split
  next hdiffer => exact iff_of_true (Option.some_ne_none _) hdiffer
  next hsame => exact iff_of_false (by simp) hsame

theorem gfalCompareChecksums_self (value : CString) (hlength : value.length < 33) : gfalCompareChecksums value value 33 = 0 :=
  (gfalCompareChecksums_eq_zero_iff hlength.le hlength.le).mpr rfl

/-! ### The last call -/

/-- The replica is attached, or is there already, or is refused. -/
theorem attachReplica_cases (hlaws : CatalogueLaws services view) {lfcHost : Option CString} {fileExisted : Bool}
    {srcHost : CString} {answer : Ret Int}
    (h : attachReplica services urls lfcHost statg fileExisted srcHost srcUrl context = .ok (answer, context')) :
    ∃ request, context'.calls = context.calls ++ [request] ∧ request.Attaches ∧
      (request.failure = none ∧ answer.val = 0 ∧
          view context'.world = (view context.world).attach (context.env lfcEnvVarHost) statg.guid srcUrl srcHost ∨
        ∃ failure, request.failure = some failure ∧ view context'.world = view context.world ∧
          (gfalLfcGetErrno services failure = EEXIST ∧ answer.val = 0 ∨ gfalLfcGetErrno services failure ≠ EEXIST ∧ answer.val ≠ 0)) := by
  obtain ⟨called, middle, hcall, h⟩ := bind_eq_ok.mp h
  obtain ⟨hcalled, rfl⟩ := ok_inj hcall
  cases hresult : (called : Except LfcFailure Unit) with
  | ok value =>
      subst hresult
      obtain ⟨rfl, rfl⟩ := ok_inj h
      refine ⟨_, by rfl, by trivial, .inl ⟨?_, by rfl, hlaws.addreplica _ _ _ _ _ _ hcalled⟩⟩
      dsimp only
      rw [hcalled]
      rfl
  | error failure =>
      subst hresult
      have hfailure : LfcCall.failure (.addreplica statg.guid (if fileExisted then some ⟨(lfcHost.getD []).take 63, statg.fileid⟩ else none)
          srcHost srcUrl) (services.answer context.env (.addreplica statg.guid
            (if fileExisted then some ⟨(lfcHost.getD []).take 63, statg.fileid⟩ else none) srcHost srcUrl) context.world).1 =
          some failure := by
        rw [hcalled]
        rfl
      dsimp only at h
      split at h
      next hother =>
        obtain ⟨rfl, rfl⟩ := ok_inj h
        exact ⟨_, by rfl, by trivial, .inr ⟨failure, hfailure, hlaws.refused _ _ _ _ hfailure, .inr ⟨hother, by simp⟩⟩⟩
      next hexists =>
        obtain ⟨rfl, rfl⟩ := ok_inj h
        exact ⟨_, by rfl, by trivial, .inr ⟨failure, hfailure, hlaws.refused _ _ _ _ hfailure, .inl ⟨not_not.mp hexists, by rfl⟩⟩⟩

/-! ### The cases of a registration -/

variable {before : LfcContext W} {path srcHost : CString} {info : SizeAndChecksum} {lfcHost : Option CString} {answer : Ret Int}
  {asked made : List LfcRequest} {request : LfcRequest}

theorem RegisterPrepared.unique {path' : CString} {info' : SizeAndChecksum} (h : RegisterPrepared services srcUrl dstUrl before path info context)
    (h' : RegisterPrepared services srcUrl dstUrl before path' info' context') : path' = path ∧ info' = info ∧ context' = context := by
  obtain ⟨found, host, srcHost, context₁, htarget, hconfigure⟩ := h
  obtain ⟨found', host', srcHost', context₁', htarget', hconfigure'⟩ := h'
  obtain ⟨hfound, rfl⟩ := ok_inj (htarget.symm.trans htarget')
  simp only [Except.ok.injEq, Prod.mk.injEq] at hfound
  obtain ⟨rfl, -, rfl, -, rfl⟩ := hfound
  exact ⟨by rfl, by rfl, (ok_inj (hconfigure'.symm.trans hconfigure)).2⟩

theorem LfcRequest.not_attaches_of_asks (h : request.call.asks = true) : ¬request.Attaches := by
  rw [LfcRequest.Attaches]
  split
  next hcall => simp [hcall, LfcCall.asks] at h
  next => exact id

theorem LfcRequest.not_creates_of_asks (h : request.call.asks = true) : ¬request.Creates := by
  rintro ⟨-, hcreates⟩
  split at hcreates
  next hcall => simp [hcall, LfcCall.asks] at h
  next hcall => simp [hcall, LfcCall.asks] at h
  next => exact hcreates

theorem LfcRequest.Attaches.not_creates (h : request.Attaches) : ¬request.Creates := by
  rintro ⟨-, hcreates⟩
  rw [LfcRequest.Attaches] at h
  split at h
  next hcall => simp [hcall] at hcreates
  next => exact h

/-- Nothing is wrong where the library has only been asked and there is no entry to compare with. -/
theorem right_iff_of_asked (hval : answer.val ≠ 0) (hworld : view context'.world = view before.world)
    (hmade : ∀ request ∈ made, request.call.asks = true)
    (hstatg : ∀ path info context statg, RegisterPrepared services srcUrl dstUrl before path info context →
      (services.answer context.env (.statg path) context.world).1 ≠ .ok statg) :
    RegisterRight services view srcUrl dstUrl answer before context' ↔ RegistersWhole services view srcUrl dstUrl before made := by
  refine iff_of_true ⟨fun hok => absurd hok hval, ?_, ?_⟩ ⟨?_, ?_, ?_, ?_⟩
  · exact fun path info context statg e hprepared hok => absurd hok (hstatg _ _ _ _ hprepared)
  · rw [hworld]
    exact fun _ => Catalogue.not_gains _
  · exact fun request hmem hattaches => absurd hattaches (LfcRequest.not_attaches_of_asks (hmade request hmem))
  · exact fun request hmem hattaches => absurd hattaches (LfcRequest.not_attaches_of_asks (hmade request hmem))
  · exact fun request hmem hcreates => absurd hcreates (LfcRequest.not_creates_of_asks (hmade request hmem))
  · exact fun path info context statg hprepared hok => absurd hok (hstatg _ _ _ _ hprepared)

/-- A replica that is refused for its entry is refused rightly if its checksum is another one. -/
theorem right_iff_of_invalid (hlaws : CatalogueLaws services view) {e : GError}
    (hprepared : RegisterPrepared services srcUrl dstUrl before path info context) (hworld : view context'.world = view before.world)
    (hfits : info.Fits) (hmade : ∀ request ∈ made, request.call.asks = true)
    (hstatg : (services.answer context.env (.statg path) context.world).1 = .ok statg) (hinvalid : validateNewReplica statg info = some e) :
    RegisterRight services view srcUrl dstUrl ⟨-1, some e⟩ before context' ↔ RegistersWhole services view srcUrl dstUrl before made := by
  obtain ⟨-, htype, hvalue⟩ := hlaws.found _ _ _ _ hstatg
  constructor
  · intro hright
    refine ⟨?_, ?_, ?_, ?_⟩
    · exact fun request hmem hattaches => absurd hattaches (LfcRequest.not_attaches_of_asks (hmade request hmem))
    · exact fun request hmem hattaches => absurd hattaches (LfcRequest.not_attaches_of_asks (hmade request hmem))
    · exact fun request hmem hcreates => absurd hcreates (LfcRequest.not_creates_of_asks (hmade request hmem))
    · intro path' info' context'' statg' hprepared' hstatg' hsize hinfo _ _ _
      obtain ⟨rfl, rfl, rfl⟩ := hprepared.unique hprepared'
      obtain rfl : statg' = statg := Except.ok.inj (hstatg'.symm.trans hstatg)
      exact (hright.mismatch _ _ _ _ _ hprepared hstatg hsize hinvalid (by rfl)).2.2.2
  · intro hwhole
    refine ⟨fun hok => absurd hok (by simp), ?_, ?_⟩
    · intro path' info' context'' statg' e' hprepared' hstatg' hsize hinvalid' _
      obtain ⟨rfl, rfl, rfl⟩ := hprepared.unique hprepared'
      obtain rfl : statg' = statg := Except.ok.inj (hstatg'.symm.trans hstatg)
      obtain ⟨hstat, hinfo, htypes, hdiffer⟩ := (validateNewReplica_checksum hfits htype hvalue hsize).mp (by simp [hinvalid])
      exact ⟨hinfo, hstat, htypes, hwhole.checksum _ _ _ _ hprepared hstatg hsize hinfo hstat htypes hdiffer⟩
    · rw [hworld]
      exact fun _ => Catalogue.not_gains _

theorem validateNewReplica_size (h : validateNewReplica statg info = none) : info.filesize = statg.filesize := by
  rw [validateNewReplica] at h
  split at h
  next => cases h
  next hsize => exact not_not.mp hsize

/-- The condition on a registration that has come to its last call without creating anything. -/
theorem registersWhole_of_attaches (hasked : ∀ request ∈ asked, request.call.asks = true)
    (hattaches : request.Attaches) (hserver : request.failure = none → getHost srcUrl = .ok (sourceHost srcUrl))
    (hknown : ∀ failure, request.failure = some failure → gfalLfcGetErrno services failure = EEXIST →
      ∃ path info context entry, RegisterPrepared services srcUrl dstUrl before path info context ∧
        (view before.world).entry (context.env lfcEnvVarHost) path = some entry ∧
        (view before.world).server (context.env lfcEnvVarHost) entry.guid srcUrl = some (sourceHost srcUrl))
    (hchecksum : ∀ path info context statg, RegisterPrepared services srcUrl dstUrl before path info context →
      (services.answer context.env (.statg path) context.world).1 = .ok statg → info.filesize = statg.filesize →
        info.csumvalue ≠ [] → statg.csumvalue ≠ [] → info.csumtype = statg.csumtype → info.csumvalue ≠ statg.csumvalue →
          gfalCompareChecksums info.csumvalue statg.csumvalue 33 ≠ 0) :
    RegistersWhole services view srcUrl dstUrl before (asked ++ [request]) := by
  have hlast (request' : LfcRequest) (hmem : request' ∈ asked ++ [request]) (h : request'.Attaches ∨ request'.Creates) : request' = request := by
    rcases List.mem_append.mp hmem with hmem | hmem
    · rcases h with h | h
      · exact absurd h (LfcRequest.not_attaches_of_asks (hasked _ hmem))
      · exact absurd h (LfcRequest.not_creates_of_asks (hasked _ hmem))
    · exact List.mem_singleton.mp hmem
  refine ⟨?_, ?_, ?_, hchecksum⟩
  · intro request' hmem h
    rw [hlast request' hmem (.inl h)]
    exact hserver
  · intro request' hmem h
    rw [hlast request' hmem (.inl h)]
    exact hknown
  · intro request' hmem h
    rw [hlast request' hmem (.inr h)] at h
    exact absurd h hattaches.not_creates

section Prepared

variable (hlaws : CatalogueLaws services view) (hprepared : RegisterPrepared services srcUrl dstUrl before path info context)
include hlaws hprepared

/-- A replica that is registered for an entry that is there. -/
theorem right_iff_of_valid {middle : LfcContext W} (hbefore : view context.world = view before.world)
    (hmiddle : view middle.world = view before.world) (henv : middle.env = context.env) (hhost : getHost srcUrl = .ok srcHost)
    (hfits : info.Fits) (hasked : ∀ request ∈ asked, request.call.asks = true)
    (hcalls : context'.calls = middle.calls ++ made)
    (hstatg : (services.answer context.env (.statg path) context.world).1 = .ok statg) (hvalid : validateNewReplica statg info = none)
    (h : attachReplica services urls lfcHost statg true srcHost srcUrl middle = .ok (answer, context')) :
    RegisterRight services view srcUrl dstUrl answer before context' ↔
      RegistersWhole services view srcUrl dstUrl before (asked ++ made) := by
  obtain ⟨hentry, htype, hvalue⟩ := hlaws.found _ _ _ _ hstatg
  rw [hbefore] at hentry
  have hsize := validateNewReplica_size hvalid
  have htext (hdiffer : statg.csumvalue ≠ [] ∧ info.csumvalue ≠ [] ∧ info.csumtype = statg.csumtype ∧ info.csumvalue ≠ statg.csumvalue) :
      False := (validateNewReplica_checksum hfits htype hvalue hsize).mpr hdiffer hvalid
  have hsame : ¬ChecksumsDiffer info statg := by
    rintro ⟨hinfo, hstat, htypes, hdiffer⟩
    refine htext ⟨hstat, hinfo, htypes, fun hvalues => hdiffer ?_⟩
    rw [← hvalues]
    exact gfalCompareChecksums_self _ hfits.2
  have hmismatch (path' : CString) (info' : SizeAndChecksum) (context'' : LfcContext W) (statg' : LfcFilestatg) (e : GError)
      (hprepared' : RegisterPrepared services srcUrl dstUrl before path' info' context'')
      (hstatg' : (services.answer context''.env (.statg path') context''.world).1 = .ok statg')
      (hinvalid : validateNewReplica statg' info' = some e) : False := by
    obtain ⟨rfl, rfl, rfl⟩ := hprepared.unique hprepared'
    obtain rfl : statg' = statg := Except.ok.inj (hstatg'.symm.trans hstatg)
    cases hvalid.symm.trans hinvalid
  have hchecksum (path' : CString) (info' : SizeAndChecksum) (context'' : LfcContext W) (statg' : LfcFilestatg)
      (hprepared' : RegisterPrepared services srcUrl dstUrl before path' info' context'')
      (hstatg' : (services.answer context''.env (.statg path') context''.world).1 = .ok statg')
      (hinfo : info'.csumvalue ≠ []) (hstat : statg'.csumvalue ≠ []) (htypes : info'.csumtype = statg'.csumtype)
      (hdiffer : info'.csumvalue ≠ statg'.csumvalue) : False := by
    obtain ⟨rfl, rfl, rfl⟩ := hprepared.unique hprepared'
    obtain rfl : statg' = statg := Except.ok.inj (hstatg'.symm.trans hstatg)
    exact htext ⟨hstat, hinfo, htypes, hdiffer⟩
  obtain ⟨request, hcall, hattaches, hcases⟩ := attachReplica_cases hlaws h
  obtain rfl : made = [request] := List.append_cancel_left (hcalls.symm.trans hcall)
  have hmem : request ∈ asked ++ [request] := by simp
  obtain ⟨hnone, hval, hworld⟩ | ⟨failure, hfailure, hworld, ⟨hexists, hval⟩ | ⟨hother, hval⟩⟩ := hcases
  · -- the replica is attached with the host that was found
    rw [hmiddle, henv] at hworld
    have hserver : (view context'.world).server (context.env lfcEnvVarHost) statg.guid srcUrl = some srcHost := by
      rw [hworld]
      exact if_pos ⟨by rfl, by rfl, by rfl⟩
    have hkept : (view context'.world).entry (context.env lfcEnvVarHost) path = some statg := by
      rw [hworld]
      exact hentry
    constructor
    · intro hright
      obtain ⟨path', info', context'', entry, hprepared', hentry', hserver', -⟩ := hright.attached hval
      obtain ⟨rfl, rfl, rfl⟩ := hprepared.unique hprepared'
      obtain rfl := Option.some.inj (hentry'.symm.trans hkept)
      have hright' := Option.some.inj (hserver.symm.trans hserver')
      refine registersWhole_of_attaches hasked hattaches (fun _ => by rw [hhost, hright']) ?_ ?_
      · intro failure hfailure
        cases hnone.symm.trans hfailure
      · exact fun _ _ _ _ hp hs _ hinfo hstat htypes hdiffer => (hchecksum _ _ _ _ hp hs hinfo hstat htypes hdiffer).elim
    · intro hwhole
      have hright := Except.ok.inj (hhost.symm.trans (hwhole.server request hmem hattaches hnone))
      refine ⟨fun _ => ⟨path, info, context, statg, hprepared, hkept, by rw [hserver, hright], hsize.symm, .inr ⟨?_, hsame⟩⟩, ?_, ?_⟩
      · rw [hentry]
        exact Option.some_ne_none _
      · exact fun _ _ _ _ _ hp hs _ hinvalid _ => (hmismatch _ _ _ _ _ hp hs hinvalid).elim
      · exact fun hfailed => absurd hval hfailed
  · -- the replica is registered already, for this entry or for another one
    rw [hmiddle] at hworld
    constructor
    · intro hright
      obtain ⟨path', info', context'', entry, hprepared', hentry', hserver', -⟩ := hright.attached hval
      rw [hworld] at hentry' hserver'
      refine registersWhole_of_attaches hasked hattaches (fun hnone => ?_) ?_ ?_
      · cases hnone.symm.trans hfailure
      · exact fun _ _ _ => ⟨path', info', context'', entry, hprepared', hentry', hserver'⟩
      · exact fun _ _ _ _ hp hs _ hinfo hstat htypes hdiffer => (hchecksum _ _ _ _ hp hs hinfo hstat htypes hdiffer).elim
    · intro hwhole
      obtain ⟨path', info', context'', entry, hprepared', hentry', hserver'⟩ := hwhole.known request hmem hattaches failure hfailure hexists
      obtain ⟨rfl, rfl, rfl⟩ := hprepared.unique hprepared'
      obtain rfl := Option.some.inj (hentry'.symm.trans hentry)
      refine ⟨fun _ => ⟨_, _, _, entry, hprepared, ?_, ?_, hsize.symm, .inr ⟨?_, hsame⟩⟩, ?_, ?_⟩
      · rw [hworld]
        exact hentry
      · rw [hworld]
        exact hserver'
      · rw [hentry]
        exact Option.some_ne_none _
      · exact fun _ _ _ _ _ hp hs _ hinvalid _ => (hmismatch _ _ _ _ _ hp hs hinvalid).elim
      · exact fun hfailed => absurd hval hfailed
  · -- the replica is refused, and nothing has changed
    rw [hmiddle] at hworld
    refine iff_of_true ⟨fun hok => absurd hok hval, ?_, ?_⟩ (registersWhole_of_attaches hasked hattaches (fun hnone => ?_) ?_ ?_)
    · exact fun _ _ _ _ _ hp hs _ hinvalid _ => (hmismatch _ _ _ _ _ hp hs hinvalid).elim
    · rw [hworld]
      exact fun _ => Catalogue.not_gains _
    · cases hnone.symm.trans hfailure
    · intro failure' hfailure' hexists
      obtain rfl := Option.some.inj (hfailure.symm.trans hfailure')
      exact absurd hexists hother
    · exact fun _ _ _ _ hp hs _ hinfo hstat htypes hdiffer => (hchecksum _ _ _ _ hp hs hinfo hstat htypes hdiffer).elim

/-- A registration that creates the entry: the failing of a later call leaves it behind. -/
theorem right_iff_of_missing {guid : CString} {drawn touched : LfcContext W} {result : Option GError}
    (hhost : getHost srcUrl = .ok srcHost)
    (hdrawn : view drawn.world = view before.world) (henv : drawn.env = context.env)
    (hmissing : (view before.world).entry (context.env lfcEnvVarHost) path = none)
    (hfresh : ∀ host sfn, (view before.world).server host guid sfn = none)
    (hasked : ∀ request ∈ asked, request.call.asks = true) (hcalls : context'.calls = drawn.calls ++ made)
    (hstatg : ∀ statg, (services.answer context.env (.statg path) context.world).1 ≠ .ok statg)
    (htouch : lfcTouch services urls path guid info drawn = .ok (result, touched))
    (h : (∃ e, result = some e ∧ answer = ⟨-1, some e⟩ ∧ context' = touched) ∨
      result = none ∧ attachReplica services urls lfcHost { guid := guid } false srcHost srcUrl touched = .ok (answer, context')) :
    RegisterRight services view srcUrl dstUrl answer before context' ↔
      RegistersWhole services view srcUrl dstUrl before (asked ++ made) := by
  have hgrown := lfcTouch_grown hlaws _ _ _ _ _ _ _ htouch
  obtain ⟨first, hfirst, hnot, hgains⟩ := hgrown.calls
  rw [hdrawn] at hgains
  have hgrows := hgrown.grows
  rw [hdrawn] at hgrows
  have hnever (path' : CString) (info' : SizeAndChecksum) (context'' : LfcContext W) (statg' : LfcFilestatg)
      (hprepared' : RegisterPrepared services srcUrl dstUrl before path' info' context'')
      (hstatg' : (services.answer context''.env (.statg path') context''.world).1 = .ok statg') : False := by
    obtain ⟨rfl, rfl, rfl⟩ := hprepared.unique hprepared'
    exact hstatg _ hstatg'
  have hquiet (request : LfcRequest) (hmem : request ∈ asked ++ first) : ¬request.Attaches := by
    rcases List.mem_append.mp hmem with hmem | hmem
    · exact LfcRequest.not_attaches_of_asks (hasked _ hmem)
    · exact hnot _ hmem
  obtain ⟨e, -, rfl, rfl⟩ | ⟨rfl, hattach⟩ := h
  · obtain rfl : made = first := List.append_cancel_left (hcalls.symm.trans hfirst)
    constructor
    · intro hright
      refine ⟨?_, ?_, ?_, ?_⟩
      · exact fun request hmem hattaches => absurd hattaches (hquiet request hmem)
      · exact fun request hmem hattaches => absurd hattaches (hquiet request hmem)
      · intro request hmem hcreates
        refine absurd (hgains.mp ⟨request, ?_, hcreates⟩) (hright.whole (by simp))
        exact (List.mem_append.mp hmem).resolve_left fun hmem => LfcRequest.not_creates_of_asks (hasked _ hmem) hcreates
      · exact fun _ _ _ _ hp hs _ _ _ _ _ => (hnever _ _ _ _ hp hs).elim
    · intro hwhole
      refine ⟨fun hok => absurd hok (by simp), ?_, fun _ hgained => ?_⟩
      · exact fun _ _ _ _ _ hp hs _ _ _ => (hnever _ _ _ _ hp hs).elim
      · obtain ⟨request, hmem, hcreates⟩ := hgains.mpr hgained
        obtain ⟨request', hmem', hattaches, -⟩ := hwhole.whole request (List.mem_append_right _ hmem) hcreates
        exact hquiet request' hmem' hattaches
  · obtain ⟨stat, hstat, hguid, hsize, htype, hvalue⟩ := lfcTouch_created hlaws htouch
    have htouchedEnv : touched.env = context.env :=
      (onlyCalls_lfcTouch path guid info drawn _ _ htouch).env.trans henv
    rw [henv] at hstat
    have hgained : (view before.world).Gains (view touched.world) := by
      refine ⟨_, _, hmissing, ?_⟩
      rw [hstat]
      exact Option.some_ne_none _
    obtain ⟨creating, hcreating, hcreates⟩ := hgains.mpr hgained
    obtain ⟨request, hcall, hattaches, hcases⟩ := attachReplica_cases hlaws hattach
    obtain rfl : made = first ++ [request] := by
      rw [hfirst, List.append_assoc] at hcall
      exact List.append_cancel_left (hcalls.symm.trans hcall)
    have hmem : request ∈ asked ++ (first ++ [request]) := by simp
    have hlast (request' : LfcRequest) (hmem' : request' ∈ asked ++ (first ++ [request])) (h : request'.Attaches) : request' = request := by
      rw [← List.append_assoc] at hmem'
      rcases List.mem_append.mp hmem' with hmem' | hmem'
      · exact absurd h (hquiet _ hmem')
      · exact List.mem_singleton.mp hmem'
    obtain ⟨hnone, hval, hworld⟩ | ⟨failure, hfailure, hworld, ⟨hexists, hval⟩ | ⟨hother, hval⟩⟩ := hcases
    · rw [htouchedEnv] at hworld
      have hserver : (view context'.world).server (context.env lfcEnvVarHost) guid srcUrl = some srcHost := by
        rw [hworld]
        exact if_pos ⟨by rfl, by rfl, by rfl⟩
      have hkept : (view context'.world).entry (context.env lfcEnvVarHost) path = some stat := by
        rw [hworld]
        exact hstat
      constructor
      · intro hright
        obtain ⟨path', info', context'', entry, hprepared', hentry', hserver', -⟩ := hright.attached hval
        obtain ⟨rfl, rfl, rfl⟩ := hprepared.unique hprepared'
        obtain rfl := Option.some.inj (hentry'.symm.trans hkept)
        rw [hguid, hserver] at hserver'
        refine ⟨fun _ _ _ _ => by rw [hhost, Option.some.inj hserver'], ?_, fun _ _ _ => ⟨request, hmem, hattaches, hnone⟩, ?_⟩
        · intro request' hmem' hattaches' failure hfailure
          rw [hlast request' hmem' hattaches', hnone] at hfailure
          cases hfailure
        · exact fun _ _ _ _ hp hs _ _ _ _ _ => (hnever _ _ _ _ hp hs).elim
      · intro hwhole
        have hright := Except.ok.inj (hhost.symm.trans (hwhole.server request hmem hattaches hnone))
        refine ⟨fun _ => ⟨path, info, context, stat, hprepared, hkept, ?_, hsize, .inl ⟨hmissing, htype, hvalue⟩⟩, ?_, ?_⟩
        · rw [hguid, hserver, hright]
        · exact fun _ _ _ _ _ hp hs _ _ _ => (hnever _ _ _ _ hp hs).elim
        · exact fun hfailed => absurd hval hfailed
    · -- the replica belongs to another entry
      refine iff_of_false (fun hright => ?_) (fun hwhole => ?_)
      · obtain ⟨path', info', context'', entry, hprepared', hentry', hserver', -⟩ := hright.attached hval
        obtain ⟨rfl, rfl, rfl⟩ := hprepared.unique hprepared'
        rw [hworld] at hentry' hserver'
        obtain rfl := Option.some.inj (hentry'.symm.trans hstat)
        rw [hgrows.server, hguid, hfresh] at hserver'
        cases hserver'
      · obtain ⟨path', info', context'', entry, hprepared', hentry', -⟩ := hwhole.known request hmem hattaches failure hfailure hexists
        obtain ⟨rfl, rfl, rfl⟩ := hprepared.unique hprepared'
        cases hmissing.symm.trans hentry'
    · -- the entry stays without its replica
      refine iff_of_false (fun hright => ?_) (fun hwhole => ?_)
      · refine hright.whole hval ?_
        rw [hworld]
        exact hgained
      · obtain ⟨request', hmem', hattaches', hnone⟩ :=
          hwhole.whole creating (List.mem_append_right _ (List.mem_append_left _ hcreating)) hcreates
        rw [hlast request' hmem' hattaches', hfailure] at hnone
        cases hnone

theorem registerReplica_right_iff (hbefore : view context.world = view before.world)
    (hhost : getHost srcUrl = .ok srcHost) (hfits : info.Fits) (hasked : ∀ request ∈ asked, request.call.asks = true)
    (hcalls : context'.calls = context.calls ++ made)
    (h : registerReplica services urls lfcHost path srcHost srcUrl info context = .ok (answer, context')) :
    RegisterRight services view srcUrl dstUrl answer before context' ↔
      RegistersWhole services view srcUrl dstUrl before (asked ++ made) := by
  obtain ⟨found, middle, hstatg, h⟩ := bind_eq_ok.mp h
  have hmiddle := (OnlyAsked.call hlaws urls (.statg path) (by rfl) _ _ _ hstatg).world.trans hbefore
  obtain ⟨hanswer, rfl⟩ := ok_inj hstatg
  generalize hrequest : (⟨urls, .statg path, context.env lfcEnvVarHost,
    LfcCall.failure (.statg path) (services.answer context.env (.statg path) context.world).1⟩ : LfcRequest) = request at h hmiddle
  have hasks : request.call.asks = true := by
    rw [← hrequest]
    rfl
  have hasked' : ∀ request' ∈ asked ++ [request], request'.call.asks = true := by
    intro request' hmem
    rcases List.mem_append.mp hmem with hmem | hmem
    · exact hasked request' hmem
    · rw [List.mem_singleton.mp hmem]
      exact hasks
  cases hfound : (found : Except LfcFailure LfcFilestatg) with
  | ok statg =>
      subst hfound
      dsimp only at h
      cases hvalid : validateNewReplica statg info with
      | some e =>
          simp only [hvalid] at h
          obtain ⟨rfl, rfl⟩ := ok_inj h
          obtain rfl : made = [request] := List.append_cancel_left hcalls.symm
          exact right_iff_of_invalid hlaws hprepared hmiddle hfits hasked' hanswer hvalid
      | none =>
          simp only [hvalid] at h
          obtain ⟨request', hcall, -⟩ := attachReplica_cases hlaws h
          obtain rfl : made = [request] ++ [request'] := by
            rw [List.append_assoc] at hcall
            exact List.append_cancel_left (hcalls.symm.trans hcall)
          rw [← List.append_assoc]
          exact right_iff_of_valid hlaws hprepared hbefore hmiddle (by rfl) hhost hfits hasked' hcall hanswer hvalid h
  | error failure =>
      subst hfound
      have hnever (path' : CString) (info' : SizeAndChecksum) (context'' : LfcContext W) (statg : LfcFilestatg)
          (hprepared' : RegisterPrepared services srcUrl dstUrl before path' info' context'') :
          (services.answer context''.env (.statg path') context''.world).1 ≠ .ok statg := by
        obtain ⟨rfl, rfl, rfl⟩ := hprepared.unique hprepared'
        rw [hanswer]
        exact nofun
      dsimp only at h
      split at h
      next hmissing =>
        rw [get_bind_apply] at h
        obtain ⟨_, drawn, hdraw, h⟩ := bind_eq_ok.mp h
        obtain ⟨-, rfl⟩ := ok_inj hdraw
        obtain ⟨result, touched, htouch, h⟩ := bind_eq_ok.mp h
        obtain ⟨hdrawn, hfresh⟩ := hlaws.generateGuid (services.answer context.env (.statg path) context.world).2
        have hentry := hlaws.missing _ _ _ _ hanswer hmissing
        rw [hbefore] at hentry
        obtain ⟨first, hfirst, -⟩ := (lfcTouch_grown hlaws _ _ _ _ _ _ _ htouch).calls
        have hends : ((∃ e, result = some e ∧ answer = ⟨-1, some e⟩ ∧ context' = touched) ∨
            result = none ∧ attachReplica services urls lfcHost
              { guid := (services.generateGuid (services.answer context.env (.statg path) context.world).2).1 } false srcHost srcUrl touched =
                .ok (answer, context')) ∧
              ∃ rest, context'.calls = context.calls ++ [request] ++ rest := by
          cases result with
          | some e =>
              obtain ⟨rfl, rfl⟩ := ok_inj h
              exact ⟨.inl ⟨e, by rfl, by rfl, by rfl⟩, first, hfirst⟩
          | none =>
              obtain ⟨request', hcall, -⟩ := attachReplica_cases hlaws h
              refine ⟨.inr ⟨by rfl, h⟩, first ++ [request'], ?_⟩
              rw [hcall, hfirst, List.append_assoc]
        obtain ⟨hend, rest, hrest⟩ := hends
        obtain rfl : made = [request] ++ rest := by
          rw [List.append_assoc] at hrest
          exact List.append_cancel_left (hcalls.symm.trans hrest)
        rw [← List.append_assoc]
        refine right_iff_of_missing hlaws hprepared hhost (hdrawn.trans hmiddle) (by rfl) hentry ?_ hasked' hrest ?_ htouch hend
        · intro host sfn
          rw [← hmiddle]
          exact hfresh host sfn
        · rw [hanswer]
          exact fun _ => nofun
      next hother =>
        obtain ⟨rfl, rfl⟩ := ok_inj h
        obtain rfl : made = [request] := List.append_cancel_left hcalls.symm
        exact right_iff_of_asked (by simp) hmiddle hasked' hnever

end Prepared

section OneReplica

/-- At most one replica: the host, the identifier, the replica and its server. -/
private abbrev OneReplica : Type := Option (Option CString × CString × CString × CString)

private def fileEntry : LfcFilestatg := { filesize := 5, fileid := 1, guid := lit "g", csumtype := lit "AD", csumvalue := lit "0a" }

private def fileStatg (path : CString) : Except LfcFailure LfcFilestatg := if path = lit "/f" then .ok fileEntry else .error ⟨ENOENT, 0⟩

private def oneReplicaView (world : OneReplica) : Catalogue where
  entry _ path := if path = lit "/f" then some fileEntry else none
  server host guid sfn := world.bind fun known =>
    if host = known.1 ∧ guid = known.2.1 ∧ sfn = known.2.2.1 then some known.2.2.2 else none

/-- A library with one file, which takes one replica. -/
private def oneReplicaServices : LfcServices OneReplica :=
  { emptyServices OneReplica with
    answer := fun env call world =>
      match call, world with
      | .statg path, world => (fileStatg path, world)
      | .addreplica guid _ server sfn, none => (.ok (), some (env lfcEnvVarHost, guid, sfn, server))
      | .addreplica .., some known => (.error ⟨EEXIST, 0⟩, some known)
      | call, world => (call.fails ⟨EACCES, 0⟩, world)
    generateGuid := fun world => ('x' :: world.elim [] fun known => known.2.1, world)
    sourceStat := fun _ world => (.ok 5, world)
    sourceChecksum := fun _ _ world => (some (lit "0a"), world) }

private theorem oneReplica_laws : CatalogueLaws oneReplicaServices oneReplicaView where
  found env path world stat h := by
    change fileStatg path = .ok stat at h
    rw [fileStatg] at h
    split at h
    next hpath =>
      obtain rfl := Except.ok.inj h
      exact ⟨if_pos hpath, by decide, by decide⟩
    next => cases h
  missing env path world failure h _ := by
    change fileStatg path = .error failure at h
    rw [fileStatg] at h
    split at h
    next => cases h
    next hpath => exact if_neg hpath
  asks env call world h := by
    cases call <;> first | rfl | cases h
  refused env call world failure h := by
    cases call with
    | addreplica guid uniqueId server sfn =>
        cases world with
        | none => cases h
        | some known => rfl
    | _ => rfl
  mkdirg env path guid mode world h := by cases h
  creatg env path guid mode world h := by cases h
  setfsizeg env guid filesize csumtype csumvalue world h := by cases h
  addreplica env guid uniqueId server sfn world h := by
    cases world with
    | none => rfl
    | some known => cases h
  generateGuid world := by
    refine ⟨by rfl, fun host sfn => ?_⟩
    cases world with
    | none => rfl
    | some known => exact if_neg fun ⟨_, hguid, _⟩ => List.cons_ne_self _ _ hguid
  sourceStat url world := rfl
  sourceChecksum url type world := rfl

private def registerConfig : Config where
  optString _ _ := none
  optInteger _ _ := some 1

private def registerStart (world : OneReplica) : LfcContext OneReplica := lfcPluginInit (fun _ => none) registerConfig [] world

private abbrev replicaUrl : CString := lit "srm://h.b/f"

private abbrev fileUrl : CString := lit "lfc://h/f"

/-- The replica is registered already, with the host of its URL. -/
private abbrev knownReplica : OneReplica := some (some (lit "h"), lit "g", replicaUrl, lit "h.b")

end OneReplica

end Gfal2
