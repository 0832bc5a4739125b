import Gfal2.Base.GList
import Gfal2.Error
import Mathlib.Data.List.Nodup
import Mathlib.Data.List.TakeWhile
import Mathlib.Data.Set.Card

/-! Client information: the key/value pairs an application attaches to a context (`core/common/gfal_config.c`),
and the string they are sent as. Whatever is added, removed and cleared, the pairs are the graph of a finite map. The
string separates the pairs only as far as `gfal2_urlencode` keeps their bytes apart: it prints a byte from 0x80 up as
the negative `char` it is, and four bytes of room hold the first digits of that only. -/

namespace Gfal2

open Base

/-- A C string byte by byte, before its terminating NUL. -/
@[ext]
structure ByteString where
  bytes : List UInt8
  terminated : ∀ b ∈ bytes, b ≠ 0
  deriving DecidableEq

/-- What a `char *` to these bytes stands for. -/
def ByteString.read (bytes : List UInt8) : ByteString :=
  ⟨bytes.takeWhile (· ≠ 0), fun b hb => by simpa using List.mem_takeWhile_imp hb⟩

def ByteString.text (s : ByteString) : CString := s.bytes.map fun b => Char.ofNat b.toNat

abbrev gfal2GetConfigQuark : GQuark := lit "GFAL2::CONFIG"

/-- `gfal_key_value_t`. -/
@[ext]
structure GfalKeyValue where
  key : ByteString
  value : ByteString
  deriving DecidableEq

/-- The array `client_info` of a context. -/
abbrev ClientInfo := List GfalKeyValue

/-- `gfal2_get_client_info_value`: the index found, and the value written to `*value`. `strcmp` is zero on equal
strings only. -/
def gfal2GetClientInfoValue (info : ClientInfo) (key : ByteString) : Ret (Int × Option ByteString) :=
  match info.findIdx? (fun keyval => keyval.key = key) with
  | some i => ⟨(i, info[i]?.map GfalKeyValue.value), none⟩
  | none => ⟨(-1, none), some ⟨gfal2GetConfigQuark, EINVAL, lit "Key " ++ key.text ++ lit " not found"⟩⟩

def gfal2RemoveClientInfo (info : ClientInfo) (key : ByteString) : Ret Int × ClientInfo :=
  let found := gfal2GetClientInfoValue info key
  if found.val.1 < 0 then (⟨found.val.1, found.err⟩, info)
  else (⟨0, none⟩, gPtrArrayRemoveIndexFast info found.val.1.toNat)

/-- `gfal2_add_client_info`: the error of the removal is cleared. -/
def gfal2AddClientInfo (info : ClientInfo) (key value : ByteString) : Ret Int × ClientInfo :=
  (⟨0, none⟩, (gfal2RemoveClientInfo info key).2 ++ [⟨key, value⟩])

def gfal2ClearClientInfo (_ : ClientInfo) : Ret Int × ClientInfo := (⟨0, none⟩, [])

def gfal2GetClientInfoCount (info : ClientInfo) : Nat := info.length

/-- `gfal2_get_client_info_pair`: nothing checks the index, and the array holds no null pointers. -/
def gfal2GetClientInfoPair (info : ClientInfo) (index : Nat) : Except Fault GfalKeyValue :=
  match info[index]? with
  | some keyval => .ok keyval
  | none => .error .arrayBounds

/-- A call that changes the client information. -/
inductive ClientInfoOp where
  | add (key value : ByteString)
  | remove (key : ByteString)
  | clear

/-- The array after the call. -/
def ClientInfoOp.run (info : ClientInfo) : ClientInfoOp → ClientInfo
  | .add key value => (gfal2AddClientInfo info key value).2
  | .remove key => (gfal2RemoveClientInfo info key).2
  | .clear => (gfal2ClearClientInfo info).2

/-! ### The map it stores -/

/-- The values last added for the keys and not since removed, after the call. -/
def ClientInfoOp.update (live : ByteString → Option ByteString) : ClientInfoOp → ByteString → Option ByteString
  | .add key value => Function.update live key (some value)
  | .remove key => Function.update live key none
  | .clear => fun _ => none

/-- The pairs are the graph of the map. -/
structure StoresMap (info : ClientInfo) (live : ByteString → Option ByteString) : Prop where
  nodup : (info.map GfalKeyValue.key).Nodup
  graph : ∀ key value, ⟨key, value⟩ ∈ info ↔ live key = some value

/-- What an application sees of the map. -/
structure ServesMap (info : ClientInfo) (live : ByteString → Option ByteString) : Prop where
  nodup : (info.map GfalKeyValue.key).Nodup
  value : ∀ key value, live key = some value →
    ∃ i : Nat, gfal2GetClientInfoValue info key = ⟨(i, some value), none⟩
  missing : ∀ key, live key = none →
    ∃ e, gfal2GetClientInfoValue info key = ⟨(-1, none), some e⟩ ∧ e.code = EINVAL
  count : Set.encard {key | live key ≠ none} = gfal2GetClientInfoCount info
  pair : ∀ index < gfal2GetClientInfoCount info, ∃ keyval,
    gfal2GetClientInfoPair info index = .ok keyval ∧ live keyval.key = some keyval.value
  once : ∀ key value, live key = some value →
    ∃! index, index < gfal2GetClientInfoCount info ∧ gfal2GetClientInfoPair info index = .ok ⟨key, value⟩

section
variable {info : ClientInfo} {live : ByteString → Option ByteString} {key value : ByteString} {keyval : GfalKeyValue}

theorem gfal2GetClientInfoPair_eq_ok {index : Nat} :
    gfal2GetClientInfoPair info index = .ok keyval ↔ info[index]? = some keyval := by
  rw [gfal2GetClientInfoPair]
  cases info[index]? with
  | none => simp
  | some found => simp

variable (h : StoresMap info live)
include h

theorem StoresMap.missing (hkey : live key = none) : ∀ keyval ∈ info, keyval.key ≠ key := by
  rintro ⟨key', value⟩ hmem rfl
  rw [h.graph, hkey] at hmem
  cases hmem

/-- Equal keys stand at one place only. -/
theorem StoresMap.index_unique {i j : Nat} {left right : GfalKeyValue}
    (hi : info[i]? = some left) (hj : info[j]? = some right) (hkey : left.key = right.key) : i = j := by
  have hleft : (info.map GfalKeyValue.key)[i]? = some left.key := by rw [List.getElem?_map, hi]; rfl
  have hright : (info.map GfalKeyValue.key)[j]? = some right.key := by rw [List.getElem?_map, hj]; rfl
  obtain ⟨hlt, -⟩ := List.getElem?_eq_some_iff.mp hleft
  exact (List.getElem?_inj hlt h.nodup).mp (by rw [hleft, hright, hkey])

theorem StoresMap.value_of_live (hlive : live key = some value) :
    ∃ i : Nat, info[i]? = some ⟨key, value⟩ ∧ gfal2GetClientInfoValue info key = ⟨(i, some value), none⟩ := by
  obtain ⟨i, hi⟩ := List.mem_iff_getElem?.mp ((h.graph key value).mpr hlive)
  obtain ⟨hlt, hget⟩ := List.getElem?_eq_some_iff.mp hi
  have hfound : info.findIdx? (fun keyval => keyval.key = key) = some i := by
    rw [List.findIdx?_eq_some_iff_getElem]
    refine ⟨hlt, by simp [hget], fun j hji => ?_⟩
    have hj : info[j]? = some info[j] := List.getElem?_eq_getElem (by omega)
    simpa using fun hkey : (info[j]).key = key => absurd (h.index_unique hj hi hkey) (by omega)
  refine ⟨i, hi, ?_⟩
  rw [gfal2GetClientInfoValue, hfound]
  show (⟨(i, info[i]?.map GfalKeyValue.value), none⟩ : Ret (Int × Option ByteString)) = _
  rw [hi, Option.map_some]

theorem StoresMap.value_of_missing (hkey : live key = none) :
    ∃ e, gfal2GetClientInfoValue info key = ⟨(-1, none), some e⟩ ∧ e.code = EINVAL := by
  have hnone : info.findIdx? (fun keyval => keyval.key = key) = none := by
    rw [List.findIdx?_eq_none_iff]
    exact fun keyval hmem => by simpa using h.missing hkey keyval hmem
  exact ⟨_, by rw [gfal2GetClientInfoValue, hnone], rfl⟩

theorem StoresMap.remove (key : ByteString) : StoresMap (gfal2RemoveClientInfo info key).2 (Function.update live key none) := by
  cases hlive : live key with
  | none =>
      obtain ⟨e, hget, -⟩ := h.value_of_missing hlive
      rw [gfal2RemoveClientInfo, hget, ← hlive, Function.update_eq_self]
      exact h
  | some value =>
      obtain ⟨i, hi, hget⟩ := h.value_of_live hlive
      obtain ⟨hlt, -⟩ := List.getElem?_eq_some_iff.mp hi
      rw [gfal2RemoveClientInfo, hget, if_neg (by simp)]
      have hperm : (gPtrArrayRemoveIndexFast info i).Perm (info.eraseIdx i) := perm_gPtrArrayRemoveIndexFast hlt
      refine ⟨?_, fun key' value' => ?_⟩
      · exact (hperm.map _).nodup_iff.mpr (h.nodup.sublist ((List.eraseIdx_sublist info i).map _))
      · rw [Int.toNat_natCast, hperm.mem_iff, List.mem_eraseIdx_iff_getElem?]
        by_cases hkey : key' = key
        · subst hkey
          rw [Function.update_self]
          exact iff_of_false (fun ⟨j, hj, hget⟩ => hj (h.index_unique hget hi rfl)) nofun
        · rw [Function.update_of_ne hkey, ← h.graph, List.mem_iff_getElem?]
          refine exists_congr fun j => and_iff_right_of_imp fun hj hji => ?_
          rw [hji, hi] at hj
          exact hkey (congrArg GfalKeyValue.key (Option.some.inj hj)).symm

theorem StoresMap.add (key value : ByteString) :
    StoresMap (gfal2AddClientInfo info key value).2 (Function.update live key (some value)) := by
  have hremoved := h.remove key
  refine ⟨?_, fun key' value' => ?_⟩
  · rw [gfal2AddClientInfo, List.map_append, List.nodup_append]
    refine ⟨hremoved.nodup, List.nodup_singleton _, fun old hold new hnew => ?_⟩
    obtain ⟨keyval, hmem, rfl⟩ := List.mem_map.mp hold
    obtain rfl : new = key := by simpa using hnew
    exact hremoved.missing (Function.update_self ..) keyval hmem
  · rw [gfal2AddClientInfo, List.mem_append, hremoved.graph, List.mem_singleton]
    by_cases hkey : key' = key
    · subst hkey
      simp [eq_comm]
    · simp [hkey]

/-- Each call keeps the array the graph of the map it stores. -/
theorem StoresMap.step (op : ClientInfoOp) : StoresMap (op.run info) (op.update live) := by
  cases op with
  | add key value => exact h.add key value
  | remove key => exact h.remove key
  | clear => exact ⟨List.nodup_nil, fun key value => by simp [ClientInfoOp.run, gfal2ClearClientInfo, ClientInfoOp.update]⟩

theorem StoresMap.serves : ServesMap info live where
  nodup := h.nodup
  value key value hlive := (h.value_of_live hlive).imp fun _ => And.right
  missing key hkey := h.value_of_missing hkey
  count := by
    have hkeys : {key | live key ≠ none} = ((info.map GfalKeyValue.key).toFinset : Set ByteString) := by
      ext key
      rw [Set.mem_ofPred_eq, Option.ne_none_iff_exists', List.coe_toFinset, Set.mem_ofPred_eq, List.mem_map]
      constructor
      · exact fun ⟨value, hlive⟩ => ⟨⟨key, value⟩, (h.graph key value).mpr hlive, rfl⟩
      · rintro ⟨⟨key, value⟩, hmem, rfl⟩
        exact ⟨value, (h.graph key value).mp hmem⟩
    rw [hkeys, Set.encard_coe_eq_coe_finsetCard, List.toFinset_card_of_nodup h.nodup, List.length_map]
    rfl
  pair index hindex := by
    have hget : info[index]? = some info[index] := List.getElem?_eq_getElem hindex
    exact ⟨info[index], gfal2GetClientInfoPair_eq_ok.mpr hget, (h.graph _ _).mp (List.mem_of_getElem? hget)⟩
  once key value hlive := by
    obtain ⟨i, hi, -⟩ := h.value_of_live hlive
    refine ⟨i, ⟨(List.getElem?_eq_some_iff.mp hi).1, gfal2GetClientInfoPair_eq_ok.mpr hi⟩, fun j ⟨_, hj⟩ => ?_⟩
    exact h.index_unique (gfal2GetClientInfoPair_eq_ok.mp hj) hi rfl

theorem storesMap_run (ops : List ClientInfoOp) :
    StoresMap (ops.foldl ClientInfoOp.run info) (ops.foldl ClientInfoOp.update live) := by
  induction ops generalizing info live with
  | nil => exact h
  | cons op ops ih => exact ih (h.step op)

end

/-- Client information is a finite map: after any calls, an application sees the values last added and not since
removed, each once. -/
theorem client_info_is_map (ops : List ClientInfoOp) :
    ServesMap (ops.foldl ClientInfoOp.run []) (ops.foldl ClientInfoOp.update fun _ => none) :=
  (storesMap_run ⟨by simp, fun _ _ => by simp⟩ ops).serves

/-! ### The string it is sent as -/

/-- `g_ascii_isalnum`, and the three marks that stay as they are. -/
def staysPlain (b : UInt8) : Bool :=
  (0x30 ≤ b && b ≤ 0x39) || (0x41 ≤ b && b ≤ 0x5A) || (0x61 ≤ b && b ≤ 0x7A) || b = 0x2E || b = 0x2D || b = 0x5F

/-- `(int) *ip` as the `unsigned` that `%X` prints: a `char` is signed. -/
def promotedChar (b : UInt8) : Nat := if b < 0x80 then b.toNat else 2 ^ 32 - (256 - b.toNat)

/-- The digit that `%X` prints. -/
def upperDigit (n : Nat) : UInt8 := if n < 10 then UInt8.ofNat (0x30 + n) else UInt8.ofNat (0x41 + (n - 10))

/-- The text of `%02X` for a 32-bit value. -/
def upperHex (n : Nat) : List UInt8 :=
  ((((List.range 8).reverse.map fun i => n / 16 ^ i % 16).dropWhile (· = 0)).leftpad 2 0).map upperDigit

/-- What `gfal2_urlencode` writes for a byte. `g_snprintf` has room for three characters and the NUL. -/
def urlencodeByte (b : UInt8) : List UInt8 := if staysPlain b then [b] else (0x25 :: upperHex (promotedChar b)).take 3

def gfal2Urlencode (original : ByteString) : ByteString := .read (original.bytes.flatMap urlencodeByte)

def clientInfoEntry (keyval : GfalKeyValue) : List UInt8 :=
  (gfal2Urlencode keyval.key).bytes ++ 0x3D :: (gfal2Urlencode keyval.value).bytes

def gfal2GetClientInfoString (info : ClientInfo) : Option ByteString :=
  if info = [] then none
  else some (.read ([0x3B].intercalate (info.map clientInfoEntry)))

/-- `isxdigit`, which no byte from 0x80 up is. -/
def isxdigitByte (b : UInt8) : Bool := (0x30 ≤ b && b ≤ 0x39) || (0x41 ≤ b && b ≤ 0x46) || (0x61 ≤ b && b ≤ 0x66)

/-- `_hex`. -/
def hexByte (digit : UInt8) : Nat :=
  if 0x30 ≤ digit && digit ≤ 0x39 then digit.toNat - 0x30
  else if 0x41 ≤ digit && digit ≤ 0x46 then digit.toNat - 0x41 + 0xA
  else if 0x61 ≤ digit && digit ≤ 0x66 then digit.toNat - 0x61 + 0xA
  else 0

/-- The bytes `gfal2_urldecode` writes. -/
def urldecodeBytes : List UInt8 → List UInt8
  | c :: hi :: lo :: rest =>
      if c = 0x25 ∧ isxdigitByte hi ∧ isxdigitByte lo then
        UInt8.ofNat (16 * hexByte hi + hexByte lo) :: urldecodeBytes rest
      else c :: urldecodeBytes (hi :: lo :: rest)
  | c :: rest => c :: urldecodeBytes rest
  | [] => []

/-- `gfal2_urldecode`, on bytes. -/
def gfal2UrldecodeBytes (str : ByteString) : ByteString := .read (urldecodeBytes str.bytes)

/-- An entry taken apart at its `=`. -/
def splitEntry (entry : List UInt8) : Option GfalKeyValue :=
  match entry.splitOn 0x3D with
  | [key, value] => some ⟨gfal2UrldecodeBytes (.read key), gfal2UrldecodeBytes (.read value)⟩
  | _ => none

/-- The string taken apart at `;`, each entry at its `=`, and the parts decoded. -/
def splitClientInfo : Option ByteString → Option ClientInfo
  | none => some []
  | some joined => (joined.bytes.splitOn 0x3B).mapM splitEntry

/-- The byte that comes back. -/
def readBack (b : UInt8) : UInt8 := if b < 0x80 then b else 0xFF

/-- The bytes `gfal2_urlencode` keeps apart. -/
def ByteString.Plain (s : ByteString) : Prop := ∀ b ∈ s.bytes, b < 0x80 ∨ b = 0xFF

section
variable {s : ByteString} {b : UInt8}

theorem ByteString.bytes_read {bytes : List UInt8} (h : ∀ b ∈ bytes, b ≠ 0) : (ByteString.read bytes).bytes = bytes :=
  List.takeWhile_eq_self_iff.mpr fun b hb => by simpa using h b hb

theorem ByteString.read_bytes (s : ByteString) : ByteString.read s.bytes = s :=
  ByteString.ext (ByteString.bytes_read s.terminated)

theorem forall_byte {p : UInt8 → Prop} (h : ∀ n : Fin 256, p (UInt8.ofFin n)) (b : UInt8) : p b := by
  simpa using h b.toFin

/-- A byte that stays as it is. -/
theorem staysPlain_spec : staysPlain b = true → b < 0x80 ∧ b ≠ 0x25 ∧ b ≠ 0x3B ∧ b ≠ 0x3D ∧ b ≠ 0 := by
  apply forall_byte (p := fun b => staysPlain b = true → b < 0x80 ∧ b ≠ 0x25 ∧ b ≠ 0x3B ∧ b ≠ 0x3D ∧ b ≠ 0)
  decide +kernel

/-- What stands for a byte that is escaped reads back as that byte below 0x80, as 0xFF from there up. -/
theorem urlencodeByte_escaped : staysPlain b = false →
    urlencodeByte b = [0x25, (urlencodeByte b).getD 1 0, (urlencodeByte b).getD 2 0] ∧
      isxdigitByte ((urlencodeByte b).getD 1 0) = true ∧ isxdigitByte ((urlencodeByte b).getD 2 0) = true ∧
        UInt8.ofNat (16 * hexByte ((urlencodeByte b).getD 1 0) + hexByte ((urlencodeByte b).getD 2 0)) = readBack b := by
  apply forall_byte (p := fun b => staysPlain b = false →
    urlencodeByte b = [0x25, (urlencodeByte b).getD 1 0, (urlencodeByte b).getD 2 0] ∧
      isxdigitByte ((urlencodeByte b).getD 1 0) = true ∧ isxdigitByte ((urlencodeByte b).getD 2 0) = true ∧
        UInt8.ofNat (16 * hexByte ((urlencodeByte b).getD 1 0) + hexByte ((urlencodeByte b).getD 2 0)) = readBack b)
  decide +kernel

/-- Neither the separators nor a NUL stand in what is encoded. -/
theorem mem_urlencodeByte {c : UInt8} : c ∈ urlencodeByte b → c ≠ 0x3B ∧ c ≠ 0x3D ∧ c ≠ 0 := by
  apply forall_byte (p := fun b => ∀ c ∈ urlencodeByte b, c ≠ 0x3B ∧ c ≠ 0x3D ∧ c ≠ 0)
  decide +kernel

theorem urldecodeBytes_of_ne (h : b ≠ 0x25) (rest : List UInt8) : urldecodeBytes (b :: rest) = b :: urldecodeBytes rest := by
  match rest with
  | [] => rfl
  | [_] => rfl
  | hi :: lo :: rest => rw [urldecodeBytes, if_neg fun hescape => h hescape.1]

theorem urldecodeBytes_urlencodeByte (b : UInt8) (rest : List UInt8) :
    urldecodeBytes (urlencodeByte b ++ rest) = readBack b :: urldecodeBytes rest := by
  cases hplain : staysPlain b with
  | true =>
      obtain ⟨hlow, hne, -⟩ := staysPlain_spec hplain
      rw [urlencodeByte, if_pos hplain, List.singleton_append, urldecodeBytes_of_ne hne, readBack, if_pos hlow]
  | false =>
      obtain ⟨htext, hhi, hlo, hvalue⟩ := urlencodeByte_escaped hplain
      rw [htext]
      show urldecodeBytes (0x25 :: _ :: _ :: rest) = _
      rw [urldecodeBytes, if_pos ⟨rfl, hhi, hlo⟩, hvalue]

theorem urldecodeBytes_flatMap (bytes : List UInt8) : urldecodeBytes (bytes.flatMap urlencodeByte) = bytes.map readBack := by
  induction bytes with
  | nil => rfl
  | cons b bytes ih => rw [List.flatMap_cons, urldecodeBytes_urlencodeByte, ih, List.map_cons]

theorem bytes_gfal2Urlencode (s : ByteString) : (gfal2Urlencode s).bytes = s.bytes.flatMap urlencodeByte := by
  apply ByteString.bytes_read
  intro c hc
  obtain ⟨b, -, hmem⟩ := List.mem_flatMap.mp hc
  exact (mem_urlencodeByte hmem).2.2

theorem mem_gfal2Urlencode {c : UInt8} (h : c ∈ (gfal2Urlencode s).bytes) : c ≠ 0x3B ∧ c ≠ 0x3D := by
  rw [bytes_gfal2Urlencode] at h
  obtain ⟨b, -, hmem⟩ := List.mem_flatMap.mp h
  exact ⟨(mem_urlencodeByte hmem).1, (mem_urlencodeByte hmem).2.1⟩

theorem readBack_ne_zero (h : b ≠ 0) : readBack b ≠ 0 := by
  rw [readBack]
  split
  · exact h
  · decide

theorem readBack_eq_iff : readBack b = b ↔ b < 0x80 ∨ b = 0xFF := by
  rw [readBack]
  split
  next hlow => exact iff_of_true rfl (.inl hlow)
  next hhigh => exact ⟨fun h => .inr h.symm, fun h => (h.resolve_left hhigh).symm⟩

/-- What comes back of a string. -/
theorem bytes_urldecode_urlencode (s : ByteString) :
    (gfal2UrldecodeBytes (gfal2Urlencode s)).bytes = s.bytes.map readBack := by
  rw [gfal2UrldecodeBytes, bytes_gfal2Urlencode, urldecodeBytes_flatMap]
  apply ByteString.bytes_read
  intro c hc
  obtain ⟨b, hmem, rfl⟩ := List.mem_map.mp hc
  exact readBack_ne_zero (s.terminated b hmem)

theorem urldecode_urlencode_iff (s : ByteString) : gfal2UrldecodeBytes (gfal2Urlencode s) = s ↔ s.Plain := by
  rw [ByteString.ext_iff, bytes_urldecode_urlencode]
  calc s.bytes.map readBack = s.bytes
    _ ↔ s.bytes.map readBack = s.bytes.map id := by rw [List.map_id]
    _ ↔ ∀ b ∈ s.bytes, readBack b = b := List.map_inj_left
    _ ↔ s.Plain := forall₂_congr fun b _ => readBack_eq_iff

/-- The encoded parts hold no separator, so splitting finds the `=` between them. -/
theorem splitEntry_clientInfoEntry (keyval : GfalKeyValue) : splitEntry (clientInfoEntry keyval) =
      some ⟨gfal2UrldecodeBytes (gfal2Urlencode keyval.key), gfal2UrldecodeBytes (gfal2Urlencode keyval.value)⟩ := by
  have hparts : ∀ part ∈ [(gfal2Urlencode keyval.key).bytes, (gfal2Urlencode keyval.value).bytes], 0x3D ∉ part := by
    intro part hpart hmem
    obtain rfl | rfl : part = _ ∨ part = _ := by simpa using hpart
    · exact (mem_gfal2Urlencode hmem).2 rfl
    · exact (mem_gfal2Urlencode hmem).2 rfl
  have hsplit := List.splitOn_intercalate (0x3D : UInt8) hparts (by simp)
  have hentry : [(0x3D : UInt8)].intercalate [(gfal2Urlencode keyval.key).bytes, (gfal2Urlencode keyval.value).bytes] =
      clientInfoEntry keyval := by simp [List.intercalate, clientInfoEntry]
  rw [hentry] at hsplit
  simp only [splitEntry, hsplit, ByteString.read_bytes]

theorem mem_clientInfoEntry {keyval : GfalKeyValue} {c : UInt8} (h : c ∈ clientInfoEntry keyval) : c ≠ 0x3B ∧ c ≠ 0 := by
  obtain hkey | rfl | hvalue : _ ∨ c = 0x3D ∨ _ := by simpa [clientInfoEntry] using h
  · exact ⟨(mem_gfal2Urlencode hkey).1, (gfal2Urlencode keyval.key).terminated c hkey⟩
  · decide
  · exact ⟨(mem_gfal2Urlencode hvalue).1, (gfal2Urlencode keyval.value).terminated c hvalue⟩

theorem joined_terminated (info : ClientInfo) : ∀ b ∈ [0x3B].intercalate (info.map clientInfoEntry), b ≠ 0 := by
  induction info with
  | nil => simp
  | cons keyval info ih =>
      intro b hb
      cases info with
      | nil =>
          rw [List.map_singleton, List.intercalate_singleton] at hb
          exact (mem_clientInfoEntry hb).2
      | cons next info =>
          rw [List.map_cons, List.intercalate_cons_of_ne_nil (by simp), List.mem_append, List.mem_append, List.mem_singleton] at hb
          obtain (hentry | rfl) | hrest := hb
          · exact (mem_clientInfoEntry hentry).2
          · decide
          · exact ih b hrest

/-- What an application reads out of the string. -/
theorem splitClientInfo_string (info : ClientInfo) :
    splitClientInfo (gfal2GetClientInfoString info) = some (info.map fun keyval =>
      ⟨gfal2UrldecodeBytes (gfal2Urlencode keyval.key), gfal2UrldecodeBytes (gfal2Urlencode keyval.value)⟩) := by
  by_cases hinfo : info = []
  · rw [gfal2GetClientInfoString, if_pos hinfo, hinfo]
    rfl
  · have hentries : ∀ entry ∈ info.map clientInfoEntry, 0x3B ∉ entry := by
      intro entry hentry hmem
      obtain ⟨keyval, -, rfl⟩ := List.mem_map.mp hentry
      exact (mem_clientInfoEntry hmem).1 rfl
    have hread : splitEntry ∘ clientInfoEntry = fun keyval => pure
        ⟨gfal2UrldecodeBytes (gfal2Urlencode keyval.key), gfal2UrldecodeBytes (gfal2Urlencode keyval.value)⟩ :=
      funext splitEntry_clientInfoEntry
    rw [gfal2GetClientInfoString, if_neg hinfo, splitClientInfo, ByteString.bytes_read (joined_terminated info),
      List.splitOn_intercalate 0x3B hentries (by simpa using hinfo), List.mapM_map, hread]
    exact List.mapM_pure

/-- The pairs come back from the string, and a string from its encoding, if and only if no byte from 0x80 up but 0xFF
stands in them. -/
theorem client_info_string_invertible_iff (info : ClientInfo) (s : ByteString) :
    (splitClientInfo (gfal2GetClientInfoString info) = some info ↔
      ∀ keyval ∈ info, keyval.key.Plain ∧ keyval.value.Plain) ∧
    (gfal2UrldecodeBytes (gfal2Urlencode s) = s ↔ s.Plain) := by
  refine ⟨?_, urldecode_urlencode_iff s⟩
  have hpair (keyval : GfalKeyValue) :
      (⟨gfal2UrldecodeBytes (gfal2Urlencode keyval.key), gfal2UrldecodeBytes (gfal2Urlencode keyval.value)⟩ : GfalKeyValue) = keyval ↔
        keyval.key.Plain ∧ keyval.value.Plain := by
    rw [← urldecode_urlencode_iff, ← urldecode_urlencode_iff]
    exact GfalKeyValue.ext_iff
  calc splitClientInfo (gfal2GetClientInfoString info) = some info
    _ ↔ info.map (fun keyval : GfalKeyValue => (⟨gfal2UrldecodeBytes (gfal2Urlencode keyval.key),
          gfal2UrldecodeBytes (gfal2Urlencode keyval.value)⟩ : GfalKeyValue)) = info.map id := by
      rw [splitClientInfo_string, Option.some_inj, List.map_id]
    _ ↔ ∀ keyval ∈ info, keyval.key.Plain ∧ keyval.value.Plain :=
      List.map_inj_left.trans (forall₂_congr fun keyval _ => hpair keyval)

/-- A key of two bytes of UTF-8 for one letter comes back as two bytes 0xFF. -/
theorem accented_key_lost : ¬∀ info : ClientInfo, splitClientInfo (gfal2GetClientInfoString info) = some info := by
  intro hall
  have h := hall [⟨⟨[0xC3, 0xA9], by decide⟩, ⟨[0x31], by decide⟩⟩]
  revert h
  decide +kernel

end

end Gfal2
