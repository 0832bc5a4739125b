import Gfal2.Base.Buffer
import Gfal2.LfcOperations

/-! What the attribute and link calls of the LFC plugin put into the buffer of the caller. Each of them copies in its own way,
and most of them copy too much into a buffer that is small. -/

namespace Gfal2

open Base

abbrev lfcBuffSize : Nat := 2048

abbrev lfcMaxXattrLen : Nat := 2048

def fileXattr : List CText :=
  [⟨lit "user.guid", by decide⟩, ⟨lit "user.replicas", by decide⟩, ⟨lit "user.comment", by decide⟩,
    ⟨lit "user.chksumtype", by decide⟩, ⟨lit "user.checksum", by decide⟩]

/-- The constant `GFAL_XATTR_COMMENT`. -/
def gfalXattrComment : CText := ⟨lit "user.comment", by decide⟩

abbrev CatalogueText (room : Nat) := { s : CText // s.1.length ≤ room }

/-- `struct lfc_filestatg`, as far as the attributes show it. -/
structure LfcNames where
  guid : CatalogueText 36
  csumtype : CatalogueText 2
  csumvalue : CatalogueText 32

/-- What the catalogue answers about a path. -/
structure LfcEntry where
  lstat : Except LfcFailure ModeT
  statg : Except LfcFailure LfcNames
  getreplica : Except LfcFailure (List CText)
  getcomment : Except LfcFailure (CatalogueText caMaxcommentlen)
  readlink : Except LfcFailure CText

/-- The buffer of a caller. Where there is none its size is zero. -/
abbrev CallerBuffer := Option Buffer

def CallerBuffer.size : CallerBuffer → Nat
  | some buff => buff.length
  | none => 0

/-! ### The copies -/

/-- The loop of `g_strv_catbuff`: the length so far, the place that is written next, and the size that is left. -/
def catReplicas : List CText → Nat → Nat → Nat → Buffer → Option (Nat × Buffer)
  | [], resu, _, _, buff => some (resu, buff)
  | replica :: strv, resu, p, size, buff => do
      let sStr ← replica.storage.strnlen 0 gfalUrlMaxLen
      if size ≠ 0 then
        let buff ← buff.memcpy p replica.storage (min size sStr)
        let buff ← buff.store (p + min size sStr) '\n'
        catReplicas strv (resu + (sStr + 1)) (p + min size sStr + 1) (size - (sStr + 1)) buff
      else catReplicas strv (resu + (sStr + 1)) p (size - (sStr + 1)) buff

def gStrvCatbuff (strv : List CText) : CallerBuffer → Option (Int × CallerBuffer)
  | none => some (-1, none)
  | some buff => do
      let (resu, buff) ← catReplicas strv 0 0 buff.length (List.replicate buff.length nul)
      if resu = 0 then none
      else
        let buff ← buff.store (resu - 1) nul
        return (resu, some buff)

/-- The local copy of a text of at most so many characters. -/
def strndup (text : CText) (n : Nat) : CText := ⟨text.1.take n, fun h => text.2 (List.mem_of_mem_take h)⟩

section Calls

variable {W : Type} (services : LfcServices W) (entry : LfcEntry)

/-- A call that the catalogue refused leaves the buffer as it is. -/
def lfcRefused (failure : LfcFailure) (buff : CallerBuffer) : Option (Ret Int × CallerBuffer) :=
  some (⟨-1, some (lfcError services (lit "Error report from LFC : ") failure)⟩, buff)

/-- `lfc_getxattr_getsurl`, with the replicas that `gfal_lfc_getSURL` has copied. -/
def getxattrGetsurl (buff : CallerBuffer) : Option (Ret Int × CallerBuffer) :=
  match entry.getreplica with
  | .error failure => some (⟨-1, some (lfcError services (lit "error reported from lfc : ") failure)⟩, buff)
  | .ok list => (gStrvCatbuff (list.map (strndup · gfalUrlMaxLen)) buff).map fun (res, buff) => (⟨res, none⟩, buff)

def getxattrGetguid : CallerBuffer → Option (Ret Int × CallerBuffer)
  | none => some (⟨36, none⟩, none)
  | some buff => do
      if buff.length = 0 then return (⟨36, none⟩, some buff)
      else
        match entry.statg with
        | .error failure =>
            return (⟨0, some (lfcError services (lit "Error report from LFC : ") failure)⟩, some buff)
        | .ok statbuf =>
            let res ← statbuf.guid.1.storage.strnlen 0 gfalUrlMaxLen
            let buff ← buff.strlcpy 0 statbuf.guid.1.1 buff.length
            return (⟨res, none⟩, some buff)

/-- `gfal_lfc_getComment`. -/
def getCommentInto : CallerBuffer → Option (Ret Int × CallerBuffer)
  | none => some (⟨caMaxcommentlen + 1, none⟩, none)
  | some buff => do
      if buff.length = 0 then return (⟨caMaxcommentlen + 1, none⟩, some buff)
      else
        match entry.getcomment with
        | .error failure =>
            -- no comment, or no file
            if gfalLfcGetErrno services failure = ENOENT then
              let buff ← buff.store 0 nul
              return (⟨0, none⟩, some buff)
            else lfcRefused services failure (some buff)
        | .ok localBuff =>
            let resuLen ← localBuff.1.storage.strnlen 0 (min buff.length (caMaxcommentlen + 1))
            let buff ← buff.memcpy 0 localBuff.1.storage resuLen
            let buff ← buff.store resuLen nul
            return (⟨resuLen, none⟩, some buff)

/-- A part of the checksum, `lfc_checksumG` and `lfc_checksumTypeG`. -/
def getxattrChecksum (part : LfcNames → CText) : CallerBuffer → Option (Ret Int × CallerBuffer)
  | none => some (⟨-1, some (gfal2SetError gfal2GetCoreQuark EINVAL
      (lit "[lfc_checksumG] Invalid value in args handle/path/stat"))⟩, none)
  | some buff =>
      match entry.statg with
      | .error failure => lfcRefused services failure (some buff)
      | .ok statbuf => (buff.strlcpy 0 (part statbuf).1 buff.length).map fun buff => (⟨0, none⟩, some buff)

def lfcGetxattrG (name : CString) (buff : CallerBuffer) : Option (Ret Int × CallerBuffer) :=
  if strncmp name (lit "user.guid") lfcMaxXattrLen = 0 then getxattrGetguid services entry buff
  else if strncmp name (lit "user.replicas") lfcMaxXattrLen = 0 then getxattrGetsurl services entry buff
  else if strncmp name (lit "user.comment") lfcMaxXattrLen = 0 then getCommentInto services entry buff
  else if strncmp name (lit "user.chksumtype") lfcMaxXattrLen = 0 then
    getxattrChecksum services entry (fun statbuf => statbuf.csumtype.1) buff
  else if strncmp name (lit "user.checksum") lfcMaxXattrLen = 0 then
    getxattrChecksum services entry (fun statbuf => statbuf.csumvalue.1) buff
  else some (⟨-1, some (gfal2SetError gfal2GetPluginLfcQuark ENOATTR (lit "axttr not found"))⟩, buff)

/-- The loop of `lfc_listxattrG` over the attributes of a file: the length so far and the place that is written next. -/
def listNames (size : Nat) : List CText → Nat → Nat → Buffer → Option (Nat × Buffer)
  | [], res, _, list => some (res, list)
  | name :: names, res, plist, list => do
      let sizeStr := name.1.length + 1
      if size > res ∧ size - res ≥ sizeStr then
        let list ← list.memcpy plist name.storage sizeStr
        listNames size names (res + sizeStr) (plist + sizeStr) list
      else listNames size names (res + sizeStr) plist list

def lfcListxattrG (list : CallerBuffer) : Option (Ret Int × CallerBuffer) :=
  match entry.lstat with
  | .error failure => lfcRefused services failure list
  | .ok mode =>
      let written (memory : Buffer) : CallerBuffer := list.map fun _ => memory
      if sIsdir mode then
        -- as many characters of the constant as there are in the buffer
        ((list.getD []).memcpy 0 gfalXattrComment.storage list.size).map fun memory => (⟨1, none⟩, written memory)
      else (listNames list.size fileXattr 0 0 (list.getD [])).map fun (res, memory) => (⟨res, none⟩, written memory)

/-- The difference of two sizes, neither of which is negative. -/
def sizeDifference (a b : Nat) : Nat := if a < b then a + 2 ^ 64 - b else a - b

/-- The prefix, as far as there is room for it. -/
def copyPrefix (buff : Buffer) : Option Buffer :=
  if buff.length > 0 then buff.memcpy 0 gfalLfcPrefix (min buff.length gfalLfcPrefix.length) else some buff

/-- The link, if there is something left behind the prefix. -/
def copyLink (left : Nat) (resBuff buff : Buffer) : Option Buffer :=
  if left > 0 then buff.memcpy gfalLfcPrefix.length resBuff (min resBuff.length left) else some buff

/-- `lfc_readlinkG`. -/
def lfcReadlinkInto : CallerBuffer → Option (Ret Int × CallerBuffer)
  | none => some (⟨-1, some (gfal2SetError gfal2GetCoreQuark EINVAL
      (lit "[lfc_readlinkG] Invalid value in args handle/path/stat"))⟩, none)
  | some buff =>
      match entry.readlink with
      | .error failure => lfcRefused services failure (some buff)
      | .ok link => do
          let resBuff := link.1.take lfcBuffSize
          let started ← copyPrefix buff
          let copied ← copyLink (sizeDifference buff.length gfalLfcPrefix.length) resBuff started
          return (⟨resBuff.length + gfalLfcPrefix.length, none⟩, some copied)

/-- The calls that put text into the buffer of the caller. -/
inductive LfcBufferCall where
  | getxattr (name : CString)
  | listxattr
  | readlink

def LfcBufferCall.perform : LfcBufferCall → CallerBuffer → Option (Ret Int × CallerBuffer)
  | getxattr name, buff => lfcGetxattrG services entry name buff
  | listxattr, buff => lfcListxattrG services entry buff
  | readlink, buff => lfcReadlinkInto services entry buff

/-! ### What is to be in the buffer -/

/-- A text that is asked for, as it is to stand in the buffer, and the room it takes with its terminator. -/
structure LfcValue where
  stored : Buffer
  room : Nat

def LfcValue.ofText (text : CString) : LfcValue := ⟨text ++ [nul], text.length + 1⟩

/-- The comment, which is empty where there is none. -/
def LfcEntry.comment : Option LfcValue :=
  match entry.getcomment with
  | .ok comment => some (.ofText comment.1.1)
  | .error failure => if gfalLfcGetErrno services failure = ENOENT then some (.ofText []) else none

def LfcEntry.attribute (name : CString) : Option LfcValue :=
  if name = lit "user.guid" then entry.statg.toOption.map fun statbuf => .ofText statbuf.guid.1.1
  else if name = lit "user.replicas" then
    entry.getreplica.toOption.map fun list => .ofText (['\n'].intercalate (list.map Subtype.val))
  else if name = lit "user.comment" then entry.comment services
  else if name = lit "user.chksumtype" then entry.statg.toOption.map fun statbuf => .ofText statbuf.csumtype.1.1
  else if name = lit "user.checksum" then entry.statg.toOption.map fun statbuf => .ofText statbuf.csumvalue.1.1
  else none

def namesValue (names : List CText) : LfcValue := ⟨names.flatMap CText.storage, (names.map fun name => name.1.length + 1).sum⟩

/-- The value that a call asks for, if there is one. A link is not terminated in the buffer. -/
def LfcBufferCall.value : LfcBufferCall → Option LfcValue
  | getxattr name => entry.attribute services name
  | listxattr => entry.lstat.toOption.map fun mode => namesValue (if sIsdir mode then [gfalXattrComment] else fileXattr)
  | readlink => entry.readlink.toOption.map fun link => ⟨gfalLfcPrefix ++ link.1, gfalLfcPrefix.length + link.1.length + 1⟩

/-- What is done stays inside the buffer, which holds the value where it has the room for it. -/
def PutsInto (outcome : Option (Ret Int × CallerBuffer)) (value : Option LfcValue) (buff : CallerBuffer) : Prop :=
  ∃ ret after, outcome = some (ret, after) ∧ after.size = buff.size ∧
    ∀ asked ∈ value, asked.room ≤ buff.size → ∃ memory ∈ after, asked.stored <+: memory

/-- A call stays inside every buffer of a size, whatever is in it before. -/
def LfcBufferCall.StaysInside (call : LfcBufferCall) (size : Option Nat) : Prop :=
  ∀ buff : CallerBuffer, buff.map List.length = size → PutsInto (call.perform services entry buff) (call.value services entry) buff

def LfcBufferCall.HasRoom (size : Option Nat) : LfcBufferCall → Prop
  | getxattr name =>
      (name = lit "user.replicas" → ∀ list, entry.getreplica = .ok list → ∀ n ∈ size,
        list ≠ [] ∧ (list.map fun replica => min replica.1.length gfalUrlMaxLen + 1).sum ≤ n ∧
          ((list.map fun replica => replica.1.length + 1).sum ≤ n → ∀ replica ∈ list, replica.1.length ≤ gfalUrlMaxLen)) ∧
      (name = lit "user.comment" → ∀ comment, entry.getcomment = .ok comment → ∀ n ∈ size, n ≠ 0 → comment.1.1.length < n)
  | listxattr => ∀ mode, entry.lstat = .ok mode → sIsdir mode → ∀ n ∈ size, n ≤ gfalXattrComment.1.length + 1
  | readlink => ∀ link, entry.readlink = .ok link → ∀ n ∈ size,
      (n < gfalLfcPrefix.length → link.1 = []) ∧ (gfalLfcPrefix.length + link.1.length + 1 ≤ n → link.1.length ≤ lfcBuffSize)

end Calls

/-! ### The replicas -/

section Replicas

variable {strv : List CText}

def replicasRoom (strv : List CText) : Nat := (strv.map fun replica => replica.1.length + 1).sum

theorem replicasRoom_cons (replica : CText) (strv : List CText) :
    replicasRoom (replica :: strv) = replica.1.length + 1 + replicasRoom strv := rfl

theorem length_flatMap_lines (strv : List CText) :
    (strv.flatMap fun replica => replica.1 ++ ['\n']).length = replicasRoom strv := by
  induction strv with
  | nil => rfl
  | cons replica strv ih =>
      rw [List.flatMap_cons, List.length_append, ih, replicasRoom_cons]
      simp

/-- The loop writes the replicas one after the other, each with a line feed, where there is room for them. -/
theorem catReplicas_eq {before room : Buffer} {resu : Nat} (hshort : ∀ replica ∈ strv, replica.1.length ≤ gfalUrlMaxLen)
    (hroom : replicasRoom strv ≤ room.length) :
    catReplicas strv resu before.length room.length (before ++ room) =
      some (resu + replicasRoom strv,
        before ++ (strv.flatMap fun replica => replica.1 ++ ['\n']) ++ room.drop (replicasRoom strv)) := by
  induction strv generalizing before room resu with
  | nil => simp [catReplicas, replicasRoom]
  | cons replica strv ih =>
      rw [replicasRoom_cons] at hroom
      have hlength : min replica.1.length gfalUrlMaxLen = replica.1.length := Nat.min_eq_left (hshort replica List.mem_cons_self)
      obtain ⟨place, old, rest, rfl, hplace⟩ : ∃ place old rest, room = place ++ old :: rest ∧ place.length = replica.1.length := by
        obtain ⟨old, rest, hdrop⟩ := List.exists_cons_of_length_pos (by rw [List.length_drop]; omega :
          0 < (room.drop replica.1.length).length)
        exact ⟨room.take replica.1.length, old, rest, by rw [← hdrop, List.take_append_drop],
          List.length_take_of_le (by omega)⟩
      have hcopied : Buffer.memcpy (before ++ (place ++ old :: rest)) before.length replica.storage replica.1.length =
          some ((before ++ replica.1) ++ old :: rest) := by
        rw [Buffer.memcpy_append (by simp [CText.storage]) hplace, List.append_assoc]
        simp [CText.storage]
      have hsize : (place ++ old :: rest).length = replica.1.length + 1 + rest.length := by simp [hplace]; omega
      have hnext := @ih (before ++ replica.1 ++ ['\n']) rest (resu + (replica.1.length + 1))
        (fun later hlater => hshort later (List.mem_cons_of_mem _ hlater)) (by omega)
      have hplaces : before.length + replica.1.length = (before ++ replica.1).length := by simp
      have hnext' : (before ++ replica.1).length + 1 = (before ++ replica.1 ++ ['\n']).length := by simp [Nat.add_assoc]
      have hcons : before ++ replica.1 ++ '\n' :: rest = before ++ replica.1 ++ ['\n'] ++ rest := List.append_cons _ _ _
      have hleft : (place ++ old :: rest).length - (replica.1.length + 1) = rest.length := by omega
      have hmin : min (place ++ old :: rest).length replica.1.length = replica.1.length := by omega
      have hdrop : (place ++ old :: rest).drop (replicasRoom (replica :: strv)) = rest.drop (replicasRoom strv) := by
        rw [replicasRoom_cons, ← List.drop_drop, ← hplace, List.append_cons, List.drop_left' (by simp)]
      rw [catReplicas, Buffer.strnlen_storage, hlength, Option.bind_eq_bind, Option.bind_some, if_pos (by omega), hmin,
        hcopied, Option.bind_eq_bind, Option.bind_some, hplaces, Buffer.store_append, Option.bind_some,
        hnext', hleft, hcons, hnext, hdrop, replicasRoom_cons]
      simp [Nat.add_assoc]

/-- Where the loop comes to its end it has counted the replicas, and the buffer is as long as before. -/
theorem catReplicas_counts {resu p size resu' : Nat} {buff buff' : Buffer}
    (hshort : ∀ replica ∈ strv, replica.1.length ≤ gfalUrlMaxLen)
    (h : catReplicas strv resu p size buff = some (resu', buff')) :
    resu' = resu + replicasRoom strv ∧ buff'.length = buff.length := by
  induction strv generalizing resu p size buff with
  | nil =>
      cases h
      exact ⟨rfl, rfl⟩
  | cons replica strv ih =>
      have hlength : min replica.1.length gfalUrlMaxLen = replica.1.length := Nat.min_eq_left (hshort replica List.mem_cons_self)
      have hrest : ∀ later ∈ strv, later.1.length ≤ gfalUrlMaxLen := fun later hlater => hshort later (List.mem_cons_of_mem _ hlater)
      rw [catReplicas, Buffer.strnlen_storage, hlength, Option.bind_eq_bind, Option.bind_some] at h
      rw [replicasRoom_cons, ← Nat.add_assoc]
      split at h
      · obtain ⟨copied, hcopied, h⟩ := Option.bind_eq_some_iff.mp h
        obtain ⟨ended, hended, h⟩ := Option.bind_eq_some_iff.mp h
        obtain ⟨hresu, hbuff⟩ := ih hrest h
        exact ⟨hresu, by rw [hbuff, (Buffer.length_store hended).2, Buffer.length_memcpy hcopied]⟩
      · exact ih hrest h

theorem lines_eq_intercalate (h : strv ≠ []) :
    (strv.flatMap fun replica => replica.1 ++ ['\n']) = ['\n'].intercalate (strv.map Subtype.val) ++ ['\n'] := by
  induction strv with
  | nil => exact absurd rfl h
  | cons replica strv ih =>
      cases strv with
      | nil => simp
      | cons next strv =>
          rw [List.flatMap_cons, ih (List.cons_ne_nil _ _)]
          simp [List.intercalate_cons_cons]

/-- The last replica is terminated inside the buffer. -/
theorem gStrvCatbuff_fits {buff : Buffer} {out : Int × CallerBuffer} (hshort : ∀ replica ∈ strv, replica.1.length ≤ gfalUrlMaxLen)
    (h : gStrvCatbuff strv (some buff) = some out) : strv ≠ [] ∧ replicasRoom strv ≤ buff.length := by
  unfold gStrvCatbuff at h
  obtain ⟨⟨resu, looped⟩, hlooped, h⟩ := Option.bind_eq_some_iff.mp h
  obtain ⟨hresu, hlength⟩ := catReplicas_counts hshort hlooped
  rw [Nat.zero_add] at hresu
  dsimp only at h
  rw [Option.ite_none_left_eq_some] at h
  obtain ⟨hpos, h⟩ := h
  obtain ⟨ended, hended, -⟩ := Option.bind_eq_some_iff.mp h
  have hlt := (Buffer.length_store hended).1
  rw [List.length_replicate] at hlength
  refine ⟨?_, by omega⟩
  rintro rfl
  exact hpos hresu

/-- The buffer holds the replicas that fit. -/
theorem gStrvCatbuff_eq {buff : Buffer} (hshort : ∀ replica ∈ strv, replica.1.length ≤ gfalUrlMaxLen) (hne : strv ≠ [])
    (hroom : replicasRoom strv ≤ buff.length) :
    gStrvCatbuff strv (some buff) = some (((replicasRoom strv : Nat) : Int),
      some (['\n'].intercalate (strv.map Subtype.val) ++ nul :: List.replicate (buff.length - replicasRoom strv) nul)) := by
  have hpos : replicasRoom strv ≠ 0 := by
    obtain ⟨replica, strv, rfl⟩ := List.exists_cons_of_ne_nil hne
    rw [replicasRoom_cons]
    omega
  have hlines := length_flatMap_lines strv
  rw [lines_eq_intercalate hne, List.length_append, List.length_singleton] at hlines
  have hlast : replicasRoom strv - 1 = (['\n'].intercalate (strv.map Subtype.val)).length := by omega
  have hlooped := @catReplicas_eq strv [] (List.replicate buff.length nul) 0 hshort (by simpa using hroom)
  rw [List.length_replicate, List.nil_append, List.nil_append, List.length_nil, Nat.zero_add, lines_eq_intercalate hne,
    List.drop_replicate, List.append_assoc, List.singleton_append] at hlooped
  unfold gStrvCatbuff
  dsimp only
  rw [hlooped, Option.bind_eq_bind, Option.bind_some]
  dsimp only
  rw [if_neg hpos, hlast, Buffer.store_append, Option.bind_eq_bind, Option.bind_some]
  rfl

theorem room_joined (h : strv ≠ []) : (['\n'].intercalate (strv.map Subtype.val)).length + 1 = replicasRoom strv := by
  have hlines := length_flatMap_lines strv
  rwa [lines_eq_intercalate h, List.length_append, List.length_singleton] at hlines

theorem nul_notMem_joined (strv : List CText) : nul ∉ ['\n'].intercalate (strv.map Subtype.val) := by
  cases strv with
  | nil => simp
  | cons replica strv =>
      intro hmem
      have hlines : nul ∈ (replica :: strv).flatMap fun replica => replica.1 ++ ['\n'] := by
        rw [lines_eq_intercalate (List.cons_ne_nil _ _)]
        exact List.mem_append_left _ hmem
      obtain ⟨line, -, hline⟩ := List.mem_flatMap.mp hlines
      rcases List.mem_append.mp hline with htext | hfeed
      · exact line.2 htext
      · revert hfeed
        decide

/-- A text without NUL ends before the terminator that follows it. -/
theorem length_le_of_terminated {text text' rest : List Char} (h : nul ∉ text) (hstart : text ++ [nul] <+: text' ++ nul :: rest) :
    text.length ≤ text'.length := by
  obtain ⟨more, hmore⟩ := (List.prefix_append text [nul]).trans hstart
  rcases List.append_eq_append_iff.mp hmore with ⟨longer, rfl, -⟩ | ⟨behind, rfl, hbehind⟩
  · simp
  · cases behind with
    | nil => simp
    | cons c behind =>
        rw [List.cons_append] at hbehind
        exact absurd (List.mem_append_right _ ((List.cons.inj hbehind).1 ▸ List.mem_cons_self)) h

theorem cut_sum_le (strv : List CText) (n : Nat) :
    (strv.map fun replica => min replica.1.length n + 1).sum ≤ replicasRoom strv := by
  induction strv with
  | nil => exact le_rfl
  | cons replica strv ih =>
      rw [List.map_cons, List.sum_cons, replicasRoom_cons]
      omega

theorem short_of_sum_le {n : Nat}
    (h : replicasRoom strv ≤ (strv.map fun replica => min replica.1.length n + 1).sum) : ∀ replica ∈ strv, replica.1.length ≤ n := by
  induction strv with
  | nil => simp
  | cons replica strv ih =>
      have hle := cut_sum_le strv n
      rw [replicasRoom_cons, List.map_cons, List.sum_cons] at h
      refine List.forall_mem_cons.mpr ⟨by omega, ih (by omega)⟩

end Replicas

/-! ### The other texts -/

section Texts

variable {buff : Buffer}

theorem terminated_prefix (text rest : List Char) : text ++ [nul] <+: text ++ nul :: rest := ⟨rest, by simp⟩

theorem strlcpy_text (text : CString) : ∃ after, buff.strlcpy 0 text buff.length = some after ∧ after.length = buff.length ∧
    (text.length + 1 ≤ buff.length → text ++ [nul] <+: after) := by
  obtain ⟨after, hcopied, hlength⟩ := @Buffer.strlcpy_isSome buff 0 buff.length text (by omega)
  refine ⟨after, hcopied, hlength, fun hroom => ?_⟩
  rw [Buffer.strlcpy_eq (by omega) (by omega)] at hcopied
  cases hcopied
  exact ⟨buff.drop (0 + (text.length + 1)), rfl⟩

theorem memcpy_start {src : Buffer} {n : Nat} (hsrc : n ≤ src.length) (hn : n ≤ buff.length) :
    buff.memcpy 0 src n = some (src.take n ++ buff.drop n) := by
  rw [Buffer.memcpy_eq hsrc (by omega), List.take_zero, List.nil_append, Nat.zero_add]

/-- A comment that is shorter than the buffer is copied with its terminator. -/
theorem comment_stored {comment : CText} (h : comment.1.length < buff.length) :
    ∃ copied rest, buff.memcpy 0 comment.storage comment.1.length = some copied ∧
      copied.store comment.1.length nul = some (comment.1 ++ nul :: rest) ∧ (comment.1 ++ nul :: rest).length = buff.length := by
  obtain ⟨old, rest, hdrop⟩ := List.exists_cons_of_length_pos (by rw [List.length_drop]; omega :
    0 < (buff.drop comment.1.length).length)
  have hlength := congrArg List.length hdrop
  rw [List.length_drop, List.length_cons] at hlength
  refine ⟨comment.1 ++ old :: rest, rest, ?_, Buffer.store_append nul, ?_⟩
  · rw [memcpy_start (by simp [CText.storage]) (by omega), hdrop]
    unfold CText.storage
    rw [List.take_left' rfl]
  · rw [List.length_append, List.length_cons]
    omega

/-- The loop over the names stays within the list. -/
theorem listNames_length {names : List CText} {res plist : Nat} {list : Buffer} (h : plist ≤ res) :
    ∃ res' after, listNames list.length names res plist list = some (res', after) ∧ after.length = list.length := by
  induction names generalizing res plist list with
  | nil => exact ⟨res, list, rfl, rfl⟩
  | cons name names ih =>
      rw [listNames]
      split
      · rename_i hfits
        have hsrc : name.1.length + 1 ≤ name.storage.length := by simp [CText.storage]
        have hcopied := Buffer.memcpy_eq hsrc (by omega : plist + (name.1.length + 1) ≤ list.length)
        have hlength := Buffer.length_memcpy hcopied
        rw [hcopied, Option.bind_eq_bind, Option.bind_some, ← hlength]
        exact ih (by omega)
      · exact ih (by omega)

/-- The names stand one after the other, each with its terminator, where there is room for them. -/
theorem listNames_eq {names : List CText} {before room : Buffer}
    (hroom : (names.map fun name => name.1.length + 1).sum ≤ room.length) :
    ∃ res after, listNames (before ++ room).length names before.length before.length (before ++ room) = some (res, after) ∧
      before ++ names.flatMap CText.storage <+: after := by
  induction names generalizing before room with
  | nil => exact ⟨before.length, before ++ room, rfl, by simp⟩
  | cons name names ih =>
      rw [List.map_cons, List.sum_cons] at hroom
      have hsrc : name.storage.length = name.1.length + 1 := by simp [CText.storage]
      obtain ⟨place, rest, rfl, hplace⟩ : ∃ place rest, room = place ++ rest ∧ place.length = name.1.length + 1 :=
        ⟨room.take (name.1.length + 1), room.drop (name.1.length + 1), by simp, List.length_take_of_le (by omega)⟩
      rw [List.length_append, hplace] at hroom
      have hcopied := @Buffer.memcpy_append before place rest name.storage (name.1.length + 1) hsrc.ge hplace
      have hnext : before.length + (name.1.length + 1) = (before ++ name.storage).length := by rw [List.length_append, hsrc]
      have hlength : (before ++ (place ++ rest)).length = (before ++ name.storage ++ rest).length := by
        simp [hplace, hsrc]
      obtain ⟨res, after, hlisted, hstart⟩ := @ih (before ++ name.storage) rest (by omega)
      refine ⟨res, after, ?_, ?_⟩
      · rw [listNames, if_pos (by simp; omega), hcopied, Option.bind_eq_bind, Option.bind_some, ← hsrc, List.take_length, hsrc,
          hnext, hlength, ← List.append_assoc]
        exact hlisted
      · rwa [List.flatMap_cons, ← List.append_assoc]

end Texts

/-! ### The calls -/

section Room

variable {W : Type} {services : LfcServices W} {entry : LfcEntry} {value : Option LfcValue} {buff : CallerBuffer}

/-- A buffer that is left alone has no room for the value, if there is one. -/
theorem putsInto_kept (ret : Ret Int) (h : ∀ asked ∈ value, buff.size < asked.room) : PutsInto (some (ret, buff)) value buff :=
  ⟨ret, buff, rfl, rfl, fun asked hasked hroom => absurd hroom (Nat.not_le_of_lt (h asked hasked))⟩

theorem putsInto_none (ret : Ret Int) (value : Option LfcValue) (h : ∀ asked ∈ value, 0 < asked.room) :
    PutsInto (some (ret, none)) value none := putsInto_kept ret h

theorem room_ofText {text : CString} {asked : LfcValue} (h : asked ∈ some (LfcValue.ofText text)) :
    asked.stored = text ++ [nul] ∧ asked.room = text.length + 1 := by
  cases h
  exact ⟨rfl, rfl⟩

/-- A copy with `g_strlcpy` stays inside the buffer. -/
theorem putsInto_strlcpy (memory : Buffer) (text : CString) (ret : Ret Int) :
    PutsInto ((memory.strlcpy 0 text memory.length).map fun after => (ret, some after)) (some (.ofText text)) (some memory) := by
  obtain ⟨after, hcopied, hlength, hstored⟩ := @strlcpy_text memory text
  refine ⟨ret, some after, by rw [hcopied]; rfl, hlength, fun asked hasked hroom => ?_⟩
  obtain ⟨htext, hlt⟩ := room_ofText hasked
  rw [hlt] at hroom
  exact ⟨after, rfl, by rw [htext]; exact hstored hroom⟩

theorem putsInto_guid (buff : CallerBuffer) :
    PutsInto (getxattrGetguid services entry buff) (entry.statg.toOption.map fun statbuf => .ofText statbuf.guid.1.1) buff := by
  cases buff with
  | none =>
      refine putsInto_none _ _ fun asked hasked => ?_
      obtain ⟨statbuf, -, rfl⟩ := Option.map_eq_some_iff.mp hasked
      exact Nat.succ_pos _
  | some memory =>
      unfold getxattrGetguid
      dsimp only
      split
      · rename_i hempty
        refine putsInto_kept _ fun asked hasked => ?_
        obtain ⟨statbuf, -, rfl⟩ := Option.map_eq_some_iff.mp hasked
        exact hempty.trans_lt (Nat.succ_pos _)
      · cases entry.statg with
        | error failure => exact putsInto_kept _ (by simp [Except.toOption])
        | ok statbuf =>
            have hcopied := putsInto_strlcpy memory statbuf.guid.1.1 ⟨(min statbuf.guid.1.1.length gfalUrlMaxLen : Nat), none⟩
            rw [Option.map_eq_bind] at hcopied
            dsimp only
            rw [Buffer.strnlen_storage, Option.bind_eq_bind, Option.bind_some]
            exact hcopied

theorem putsInto_checksum (part : LfcNames → CText) (buff : CallerBuffer) :
    PutsInto (getxattrChecksum services entry part buff) (entry.statg.toOption.map fun statbuf => .ofText (part statbuf).1)
      buff := by
  cases buff with
  | none =>
      refine putsInto_none _ _ fun asked hasked => ?_
      obtain ⟨statbuf, -, rfl⟩ := Option.map_eq_some_iff.mp hasked
      exact Nat.succ_pos _
  | some memory =>
      unfold getxattrChecksum
      cases entry.statg with
      | error failure => exact putsInto_kept _ (by simp [Except.toOption])
      | ok statbuf => exact putsInto_strlcpy memory (part statbuf).1 _

theorem putsInto_replicas_iff (buff : CallerBuffer) : PutsInto (getxattrGetsurl services entry buff)
        (entry.getreplica.toOption.map fun list => .ofText (['\n'].intercalate (list.map Subtype.val))) buff ↔
      ∀ list, entry.getreplica = .ok list → ∀ n ∈ buff.map List.length,
        list ≠ [] ∧ (list.map fun replica => min replica.1.length gfalUrlMaxLen + 1).sum ≤ n ∧
          ((list.map fun replica => replica.1.length + 1).sum ≤ n → ∀ replica ∈ list, replica.1.length ≤ gfalUrlMaxLen) := by
  unfold getxattrGetsurl
  cases entry.getreplica with
  | error failure => exact iff_of_true (putsInto_kept _ (by simp [Except.toOption])) (by simp)
  | ok list =>
      cases buff with
      | none =>
          refine iff_of_true (putsInto_none _ _ fun asked hasked => ?_) (by simp)
          cases hasked
          exact Nat.succ_pos _
      | some memory =>
          have hshort : ∀ replica ∈ list.map (strndup · gfalUrlMaxLen), replica.1.length ≤ gfalUrlMaxLen := by
            intro replica hreplica
            obtain ⟨whole, -, rfl⟩ := List.mem_map.mp hreplica
            exact List.length_take_le _ _
          have hroom : replicasRoom (list.map (strndup · gfalUrlMaxLen)) =
              (list.map fun replica => min replica.1.length gfalUrlMaxLen + 1).sum := by
            simp [replicasRoom, strndup, Function.comp_def, Nat.min_comm]
          have hne : list.map (strndup · gfalUrlMaxLen) ≠ [] ↔ list ≠ [] := by simp
          constructor
          · rintro ⟨ret, after, hperformed, -, hstored⟩ same hsame n hn
            cases hsame
            cases hn
            obtain ⟨out, hcat, hout⟩ := Option.map_eq_some_iff.mp hperformed
            obtain ⟨hlist, hfits⟩ := gStrvCatbuff_fits hshort hcat
            refine ⟨hne.mp hlist, hroom ▸ hfits, fun hwhole => ?_⟩
            rw [gStrvCatbuff_eq hshort hlist hfits] at hcat
            cases hcat
            cases hout
            obtain ⟨kept, hkept, hstart⟩ := hstored _ rfl (by
              dsimp only [LfcValue.ofText]
              rwa [room_joined (hne.mp hlist)])
            cases hkept
            have hle := length_le_of_terminated (nul_notMem_joined list) hstart
            have hjoined := room_joined hlist
            rw [hroom] at hjoined
            exact short_of_sum_le (by rw [← room_joined (hne.mp hlist), ← hjoined]; exact Nat.succ_le_succ hle)
          · intro h
            obtain ⟨hlist, hfits, hwhole⟩ := h list rfl memory.length rfl
            have hcat := gStrvCatbuff_eq hshort (hne.mpr hlist) (hroom ▸ hfits)
            dsimp only
            rw [hcat]
            refine ⟨_, _, rfl, ?_, fun asked hasked hasroom => ?_⟩
            · have hjoined := room_joined (hne.mpr hlist)
              have hsize : replicasRoom (list.map (strndup · gfalUrlMaxLen)) ≤ memory.length := hroom ▸ hfits
              show (_ ++ nul :: _ : List Char).length = memory.length
              rw [List.length_append, List.length_cons, List.length_replicate]
              omega
            · cases hasked
              dsimp only [LfcValue.ofText] at hasroom
              rw [room_joined hlist] at hasroom
              have hsame : (list.map (strndup · gfalUrlMaxLen)).map Subtype.val = list.map Subtype.val := by
                rw [List.map_map]
                refine List.map_congr_left fun replica hreplica => ?_
                exact List.take_of_length_le (hwhole hasroom replica hreplica)
              refine ⟨_, rfl, ?_⟩
              rw [hsame]
              exact terminated_prefix _ _

theorem putsInto_comment_iff (buff : CallerBuffer) :
    PutsInto (getCommentInto services entry buff) (entry.comment services) buff ↔
      ∀ comment, entry.getcomment = .ok comment → ∀ n ∈ buff.map List.length, n ≠ 0 → comment.1.1.length < n := by
  have hroom : ∀ asked ∈ entry.comment services, 0 < asked.room := by
    intro asked hasked
    unfold LfcEntry.comment at hasked
    split at hasked
    · cases hasked
      exact Nat.succ_pos _
    · rw [Option.mem_def, Option.ite_none_right_eq_some] at hasked
      cases hasked.2
      exact Nat.succ_pos _
  cases buff with
  | none => exact iff_of_true (putsInto_none _ _ hroom) (by simp)
  | some memory =>
      unfold getCommentInto
      dsimp only
      split
      · rename_i hempty
        exact iff_of_true (putsInto_kept _ fun asked hasked => hempty.trans_lt (hroom asked hasked))
          fun comment _ n hn hsize => absurd (Option.some.inj hn ▸ hempty) hsize
      · rename_i hsize
        obtain ⟨first, rest, rfl⟩ := List.exists_cons_of_ne_nil (fun hnil => hsize (by rw [hnil]; rfl) : memory ≠ [])
        unfold LfcEntry.comment
        cases entry.getcomment with
        | error failure =>
            refine iff_of_true ?_ (by simp)
            dsimp only
            by_cases hnoent : gfalLfcGetErrno services failure = ENOENT
            · rw [if_pos hnoent, if_pos hnoent, Buffer.store_eq (by simp)]
              refine ⟨_, _, rfl, by simp [CallerBuffer.size], fun asked hasked _ => ⟨_, rfl, ?_⟩⟩
              cases hasked
              exact ⟨rest, rfl⟩
            · rw [if_neg hnoent, if_neg hnoent]
              exact putsInto_kept _ (by simp)
        | ok comment =>
            generalize first :: rest = memory at hsize ⊢
            have hlimit : min comment.1.1.length (min memory.length (caMaxcommentlen + 1)) = min comment.1.1.length memory.length := by
              have hle := comment.2
              omega
            dsimp only
            rw [Buffer.strnlen_storage, hlimit, Option.bind_eq_bind, Option.bind_some]
            by_cases hlt : comment.1.1.length < memory.length
            · obtain ⟨copied, rest, hcopied, hstored, hlength⟩ := comment_stored hlt
              rw [Nat.min_eq_left hlt.le, hcopied, Option.bind_eq_bind, Option.bind_some, hstored]
              refine iff_of_true ⟨_, _, rfl, hlength, fun asked hasked _ => ⟨_, rfl, ?_⟩⟩ ?_
              · cases hasked
                exact terminated_prefix _ _
              · intro same hsame n hn _
                cases hsame
                cases hn
                exact hlt
            · -- the terminator is written behind the buffer
              refine iff_of_false ?_ fun h => hlt (h comment rfl _ rfl hsize)
              rintro ⟨ret, after, hperformed, -⟩
              obtain ⟨copied, hcopied, hperformed⟩ := Option.bind_eq_some_iff.mp hperformed
              obtain ⟨ended, hended, -⟩ := Option.bind_eq_some_iff.mp hperformed
              have hend := (Buffer.length_store hended).1
              rw [Buffer.length_memcpy hcopied] at hend
              omega

theorem putsInto_written {memory : Buffer} (ret : Ret Int) (hroom : ∀ asked ∈ value, 0 < asked.room)
    (hlength : memory.length = buff.size) (hstored : ∀ asked ∈ value, asked.room ≤ buff.size → asked.stored <+: memory) :
    PutsInto (some (ret, buff.map fun _ => memory)) value buff := by
  cases buff with
  | none => exact putsInto_none ret value hroom
  | some before => exact ⟨ret, some memory, rfl, hlength, fun asked hasked hfits => ⟨memory, rfl, hstored asked hasked hfits⟩⟩

theorem putsInto_listxattr_iff (buff : CallerBuffer) : PutsInto (lfcListxattrG services entry buff)
        (entry.lstat.toOption.map fun mode => namesValue (if sIsdir mode then [gfalXattrComment] else fileXattr)) buff ↔
      ∀ mode, entry.lstat = .ok mode → sIsdir mode → ∀ n ∈ buff.map List.length, n ≤ gfalXattrComment.1.length + 1 := by
  unfold lfcListxattrG
  cases entry.lstat with
  | error failure => exact iff_of_true (putsInto_kept _ (by simp [Except.toOption])) (by simp)
  | ok mode =>
      have hmode : (∀ same, (Except.ok mode : Except LfcFailure ModeT) = .ok same → sIsdir same →
          ∀ n ∈ buff.map List.length, n ≤ gfalXattrComment.1.length + 1) ↔
            (sIsdir mode → buff.size ≤ gfalXattrComment.1.length + 1) := by
        cases buff <;> simp [CallerBuffer.size]
      have hmemory : (buff.getD []).length = buff.size := by cases buff <;> rfl
      rw [hmode]
      dsimp only [Except.toOption, Option.map_some]
      by_cases hdir : sIsdir mode
      · have hconstant : gfalXattrComment.storage.length = gfalXattrComment.1.length + 1 := by simp [CText.storage]
        rw [if_pos hdir, if_pos hdir]
        by_cases hsize : buff.size ≤ gfalXattrComment.1.length + 1
        · rw [memcpy_start (by omega) hmemory.ge]
          refine iff_of_true (putsInto_written _ ?_ ?_ ?_) fun _ => hsize
          · rintro asked ⟨⟩
            exact Nat.succ_pos _
          · rw [List.length_append, List.length_take_of_le (by omega), List.length_drop]
            omega
          · rintro asked ⟨⟩ hroom
            have hwhole : buff.size = gfalXattrComment.storage.length := by
              refine le_antisymm (by omega) ?_
              rw [hconstant]
              exact hroom
            rw [hwhole, List.take_length]
            exact ⟨_, by simp [namesValue]; rfl⟩
        · -- the constant is shorter than the buffer
          refine iff_of_false ?_ fun h => hsize (h hdir)
          rintro ⟨ret, after, hperformed, -⟩
          rw [Buffer.memcpy, if_neg (by omega)] at hperformed
          cases hperformed
      · rw [if_neg hdir, if_neg hdir]
        refine iff_of_true ?_ fun h => absurd h hdir
        obtain ⟨res, after, hlisted, hlength⟩ := @listNames_length fileXattr 0 0 (buff.getD []) le_rfl
        rw [hmemory] at hlisted hlength
        rw [hlisted]
        refine putsInto_written _ ?_ hlength ?_
        · rintro asked ⟨⟩
          exact Nat.succ_pos _
        · rintro asked ⟨⟩ hroom
          obtain ⟨res', after', hlisted', hstart⟩ := @listNames_eq fileXattr [] (buff.getD []) (by rw [hmemory]; exact hroom)
          rw [List.nil_append, List.length_nil, hmemory, hlisted] at hlisted'
          cases hlisted'
          exact hstart

section Link

variable {link : CText} {memory : Buffer}

theorem copyPrefix_length (memory : Buffer) : ∃ started, copyPrefix memory = some started ∧ started.length = memory.length := by
  unfold copyPrefix
  split
  · have hcopied := @memcpy_start memory gfalLfcPrefix (min memory.length gfalLfcPrefix.length) (Nat.min_le_right _ _)
      (Nat.min_le_left _ _)
    exact ⟨_, hcopied, Buffer.length_memcpy hcopied⟩
  · exact ⟨memory, rfl, rfl⟩

variable (hlink : entry.readlink = .ok link)
include hlink

/-- The link in a buffer that its prefix fits into. -/
theorem readlink_stored (hsize : gfalLfcPrefix.length ≤ memory.length) :
    ∃ ret, lfcReadlinkInto services entry (some memory) = some (ret, some (gfalLfcPrefix ++
      ((link.1.take lfcBuffSize).take (memory.length - gfalLfcPrefix.length) ++ (memory.drop gfalLfcPrefix.length).drop
        (min (link.1.take lfcBuffSize).length (memory.length - gfalLfcPrefix.length))))) := by
  have hlength : gfalLfcPrefix.length = 4 := rfl
  have hstart : copyPrefix memory = some (gfalLfcPrefix ++ memory.drop gfalLfcPrefix.length) := by
    rw [copyPrefix, if_pos (by omega), Nat.min_eq_right hsize, memcpy_start le_rfl hsize, List.take_length]
  have hleft : sizeDifference memory.length gfalLfcPrefix.length = memory.length - gfalLfcPrefix.length := if_neg (by omega)
  unfold lfcReadlinkInto
  rw [hlink]
  dsimp only
  rw [hstart, hleft, Option.bind_eq_bind, Option.bind_some]
  generalize link.1.take lfcBuffSize = resBuff
  refine ⟨⟨resBuff.length + gfalLfcPrefix.length, none⟩, ?_⟩
  unfold copyLink
  by_cases hroom : memory.length - gfalLfcPrefix.length > 0
  · have hfits : gfalLfcPrefix.length + min resBuff.length (memory.length - gfalLfcPrefix.length) ≤
        (gfalLfcPrefix ++ memory.drop gfalLfcPrefix.length).length := by
      rw [List.length_append, List.length_drop]
      omega
    have htake : resBuff.take (min resBuff.length (memory.length - gfalLfcPrefix.length)) =
        resBuff.take (memory.length - gfalLfcPrefix.length) := by
      rw [List.take_eq_take_iff]
      omega
    rw [if_pos hroom, Buffer.memcpy_eq (Nat.min_le_left _ _) hfits, List.take_left' rfl, List.drop_length_add_append,
      Option.bind_some, List.append_assoc, htake]
    rfl
  · have hnone : memory.length - gfalLfcPrefix.length = 0 := by omega
    rw [if_neg hroom, hnone]
    simp

/-- What is left of a smaller buffer wraps around. -/
theorem readlink_outside (hsize : memory.length < gfalLfcPrefix.length) (hne : link.1 ≠ []) :
    lfcReadlinkInto services entry (some memory) = none := by
  have hlength : gfalLfcPrefix.length = 4 := rfl
  have hleft : sizeDifference memory.length gfalLfcPrefix.length = memory.length + 2 ^ 64 - gfalLfcPrefix.length := if_pos hsize
  have hpos : 0 < link.1.length := List.length_pos_of_ne_nil hne
  have hread : (link.1.take lfcBuffSize).length = min lfcBuffSize link.1.length := List.length_take
  have hbound : lfcBuffSize = 2048 := rfl
  obtain ⟨started, hstarted, hsame⟩ := copyPrefix_length memory
  have hcopied : copyLink (memory.length + 2 ^ 64 - gfalLfcPrefix.length) (link.1.take lfcBuffSize) started = none := by
    rw [copyLink, if_pos (by omega), Nat.min_eq_left (by omega), Buffer.memcpy, if_pos le_rfl, List.take_length]
    apply Buffer.storeAll_eq_none
    · rw [← List.length_pos_iff]
      omega
    · omega
  unfold lfcReadlinkInto
  rw [hlink]
  dsimp only
  rw [hstarted, hleft, Option.bind_eq_bind, Option.bind_some, hcopied]
  rfl

theorem readlink_empty (hempty : link.1 = []) :
    ∃ ret after, lfcReadlinkInto services entry (some memory) = some (ret, some after) ∧ after.length = memory.length := by
  obtain ⟨started, hstarted, hsame⟩ := copyPrefix_length memory
  have hcopied : ∀ left, copyLink left (link.1.take lfcBuffSize) started = some started := by
    intro left
    unfold copyLink
    rw [hempty]
    split <;> simp [Buffer.memcpy, Buffer.storeAll]
  refine ⟨⟨(link.1.take lfcBuffSize).length + gfalLfcPrefix.length, none⟩, started, ?_, hsame⟩
  unfold lfcReadlinkInto
  rw [hlink]
  dsimp only
  rw [hstarted, Option.bind_eq_bind, Option.bind_some, hcopied]
  rfl

/-- A link that is short enough is put into every buffer that has room for its prefix or for nothing at all. -/
theorem putsInto_readlink (hempty : memory.length < gfalLfcPrefix.length → link.1 = [])
    (hshort : gfalLfcPrefix.length + link.1.length + 1 ≤ memory.length → link.1.length ≤ lfcBuffSize) :
    PutsInto (lfcReadlinkInto services entry (some memory))
      (some ⟨gfalLfcPrefix ++ link.1, gfalLfcPrefix.length + link.1.length + 1⟩) (some memory) := by
  by_cases hsize : gfalLfcPrefix.length ≤ memory.length
  · obtain ⟨ret, hperformed⟩ := @readlink_stored W services entry link memory hlink hsize
    refine ⟨ret, _, hperformed, ?_, ?_⟩
    · simp [CallerBuffer.size]
      omega
    · rintro asked ⟨⟩ hroom
      have hroom' : gfalLfcPrefix.length + link.1.length + 1 ≤ memory.length := hroom
      rw [List.take_of_length_le (hshort hroom'), List.take_of_length_le (by omega : link.1.length ≤ _)]
      exact ⟨_, rfl, by rw [← List.append_assoc]; exact List.prefix_append _ _⟩
  · obtain ⟨ret, after, hperformed, hsame⟩ := @readlink_empty W services entry link memory hlink (hempty (by omega))
    refine ⟨ret, some after, hperformed, hsame, ?_⟩
    rintro asked ⟨⟩ hroom
    have hroom' : gfalLfcPrefix.length + link.1.length + 1 ≤ memory.length := hroom
    omega

/-- A link that is longer than what is read of it is not in a buffer of zeros. -/
theorem not_putsInto_readlink {n : Nat} (hroom : gfalLfcPrefix.length + link.1.length + 1 ≤ n)
    (hlong : lfcBuffSize < link.1.length) :
    ¬PutsInto (lfcReadlinkInto services entry (some (List.replicate n nul)))
      (some ⟨gfalLfcPrefix ++ link.1, gfalLfcPrefix.length + link.1.length + 1⟩) (some (List.replicate n nul)) := by
  rintro ⟨ret, after, hperformed, -, hstored⟩
  have hlength : (List.replicate n nul).length = n := List.length_replicate
  obtain ⟨ret', hperformed'⟩ := @readlink_stored W services entry link (List.replicate n nul) hlink (by omega)
  rw [hperformed] at hperformed'
  cases hperformed'
  obtain ⟨memory, hmemory, hstart⟩ := hstored _ rfl (hroom.trans_eq hlength.symm)
  cases hmemory
  have htaken : ((link.1.take lfcBuffSize).take ((List.replicate n nul).length - gfalLfcPrefix.length)) = link.1.take lfcBuffSize :=
    List.take_of_length_le (by rw [List.length_take]; omega)
  rw [List.prefix_append_right_inj, htaken] at hstart
  nth_rewrite 1 [← List.take_append_drop lfcBuffSize link.1] at hstart
  rw [List.prefix_append_right_inj] at hstart
  obtain ⟨c, rest, hrest⟩ := List.exists_cons_of_length_pos (by rw [List.length_drop]; omega :
    0 < (link.1.drop lfcBuffSize).length)
  have hc : c ∈ link.1.drop lfcBuffSize := hrest ▸ List.mem_cons_self
  have hnul : c ∈ List.replicate n nul := List.mem_of_mem_drop (List.mem_of_mem_drop (hstart.subset hc))
  rw [List.eq_of_mem_replicate hnul] at hc
  exact link.2 (List.mem_of_mem_drop hc)

end Link

theorem putsInto_readlink_iff (size : Option Nat) :
    (∀ buff : CallerBuffer, buff.map List.length = size → PutsInto (lfcReadlinkInto services entry buff)
        (entry.readlink.toOption.map fun link => ⟨gfalLfcPrefix ++ link.1, gfalLfcPrefix.length + link.1.length + 1⟩) buff) ↔
      ∀ link, entry.readlink = .ok link → ∀ n ∈ size,
        (n < gfalLfcPrefix.length → link.1 = []) ∧ (gfalLfcPrefix.length + link.1.length + 1 ≤ n → link.1.length ≤ lfcBuffSize) := by
  constructor
  · intro h link hlink n hn
    have hputs := h (some (List.replicate n nul)) (by rw [hn]; simp)
    rw [hlink] at hputs
    refine ⟨fun hsize => ?_, fun hroom => ?_⟩
    · by_contra hne
      obtain ⟨ret, after, hperformed, -⟩ := hputs
      rw [readlink_outside hlink (by rwa [List.length_replicate]) hne] at hperformed
      cases hperformed
    · by_contra hlong
      exact not_putsInto_readlink hlink hroom (Nat.lt_of_not_le hlong) hputs
  · rintro h buff rfl
    cases hlink : entry.readlink with
    | error failure =>
        cases buff with
        | none => exact putsInto_none _ _ (by simp [Except.toOption])
        | some memory =>
            unfold lfcReadlinkInto
            rw [hlink]
            exact putsInto_kept _ (by simp [Except.toOption])
    | ok link =>
        cases buff with
        | none =>
            refine putsInto_none _ _ ?_
            rintro asked ⟨⟩
            exact Nat.succ_pos _
        | some memory =>
            obtain ⟨hempty, hshort⟩ := h link hlink memory.length rfl
            exact putsInto_readlink hlink hempty hshort

/-- What holds of a buffer by its size holds of all of them or of none. -/
theorem forall_buffers_iff {p : CallerBuffer → Prop} {q : Option Nat → Prop} (h : ∀ buff, p buff ↔ q (buff.map List.length))
    (size : Option Nat) : (∀ buff : CallerBuffer, buff.map List.length = size → p buff) ↔ q size := by
  constructor
  · intro hall
    have hblank : (size.map fun n => List.replicate n nul).map List.length = size := by
      cases size <;> simp
    rw [← hblank]
    exact (h _).mp (hall _ hblank)
  · rintro hq buff rfl
    exact (h buff).mpr hq

end Room

/-- The name of an attribute is compared as a whole. -/
theorem strncmp_attribute_iff (name : CString) {known : CString} (h : known.length < lfcMaxXattrLen) :
    strncmp name known lfcMaxXattrLen = 0 ↔ name = known := by
  rw [strncmp, strcmp_eq_zero_iff, List.take_of_length_le h.le]
  refine ⟨fun htake => ?_, fun heq => ?_⟩
  · have hlength := congrArg List.length htake
    rw [List.length_take] at hlength
    rw [← htake, List.take_of_length_le (by omega)]
  · rw [heq, List.take_of_length_le h.le]

theorem lfcGetxattrG_eq {W : Type} (services : LfcServices W) (entry : LfcEntry) (name : CString) (buff : CallerBuffer) :
    lfcGetxattrG services entry name buff =
      if name = lit "user.guid" then getxattrGetguid services entry buff
      else if name = lit "user.replicas" then getxattrGetsurl services entry buff
      else if name = lit "user.comment" then getCommentInto services entry buff
      else if name = lit "user.chksumtype" then getxattrChecksum services entry (fun statbuf => statbuf.csumtype.1) buff
      else if name = lit "user.checksum" then getxattrChecksum services entry (fun statbuf => statbuf.csumvalue.1) buff
      else some (⟨-1, some (gfal2SetError gfal2GetPluginLfcQuark ENOATTR (lit "axttr not found"))⟩, buff) := by
  unfold lfcGetxattrG
  apply if_congr (strncmp_attribute_iff name (by decide)) rfl
  apply if_congr (strncmp_attribute_iff name (by decide)) rfl
  apply if_congr (strncmp_attribute_iff name (by decide)) rfl
  apply if_congr (strncmp_attribute_iff name (by decide)) rfl
  exact if_congr (strncmp_attribute_iff name (by decide)) rfl rfl

/-- The calls stay inside the buffer, which holds the value that fits, just where they have the room they take. -/
theorem lfc_buffers_kept_iff {W : Type} (services : LfcServices W) (entry : LfcEntry) (call : LfcBufferCall) (size : Option Nat) :
    call.StaysInside services entry size ↔ call.HasRoom entry size := by
  unfold LfcBufferCall.StaysInside
  cases call with
  | listxattr =>
      exact @forall_buffers_iff _ (fun size => LfcBufferCall.listxattr.HasRoom entry size) putsInto_listxattr_iff size
  | readlink => exact putsInto_readlink_iff size
  | getxattr name =>
      apply forall_buffers_iff
      intro buff
      dsimp only [LfcBufferCall.perform, LfcBufferCall.value, LfcBufferCall.HasRoom]
      rw [lfcGetxattrG_eq, LfcEntry.attribute]
      by_cases hguid : name = lit "user.guid"
      · subst hguid
        rw [if_pos rfl, if_pos rfl]
        exact iff_of_true (putsInto_guid buff) ⟨fun h => absurd h (by decide), fun h => absurd h (by decide)⟩
      · rw [if_neg hguid, if_neg hguid]
        by_cases hreplicas : name = lit "user.replicas"
        · subst hreplicas
          rw [if_pos rfl, if_pos rfl, putsInto_replicas_iff]
          exact ⟨fun h => ⟨fun _ => h, fun hcomment => absurd hcomment (by decide)⟩, fun h => h.1 rfl⟩
        · rw [if_neg hreplicas, if_neg hreplicas]
          by_cases hcomment : name = lit "user.comment"
          · subst hcomment
            rw [if_pos rfl, if_pos rfl, putsInto_comment_iff]
            exact ⟨fun h => ⟨fun hname => absurd hname hreplicas, fun _ => h⟩, fun h => h.2 rfl⟩
          · rw [if_neg hcomment, if_neg hcomment]
            refine iff_of_true ?_ ⟨fun h => absurd h hreplicas, fun h => absurd h hcomment⟩
            split
            · exact putsInto_checksum (fun statbuf => statbuf.csumtype.1) buff
            · split
              · exact putsInto_checksum (fun statbuf => statbuf.csumvalue.1) buff
              · exact putsInto_kept _ (by simp)

/-- An entry without replicas. -/
def emptyEntry : LfcEntry where
  lstat := .ok sIfdir
  statg := .error ⟨2, 2⟩
  getreplica := .ok []
  getcomment := .ok ⟨⟨lit "abc", by decide⟩, by decide⟩
  readlink := .error ⟨2, 2⟩

/-- The terminator of no replicas is written before the buffer. -/
theorem terminator_written_before_buffer :
    ¬∀ (W : Type) (services : LfcServices W) (entry : LfcEntry) (call : LfcBufferCall) (size : Option Nat),
      call.StaysInside services entry size := by
  intro h
  obtain ⟨ret, after, hperformed, -⟩ := h Unit
    { answer := fun _ call _ => (call.fails ⟨2, 2⟩, ()), sstrerror := fun _ => [], strerror := fun _ => [], esecBadCredentials := 0
      configError := fun _ _ => ⟨[], 0, []⟩, generateGuid := fun _ => ([], ()), sourceStat := fun _ _ => (.ok 0, ())
      sourceChecksum := fun _ _ _ => (none, ()) }
    emptyEntry (.getxattr (lit "user.replicas")) (some 1) (some [nul]) rfl
  rw [LfcBufferCall.perform, lfcGetxattrG_eq, if_neg (by decide), if_pos rfl] at hperformed
  cases hperformed

end Gfal2
