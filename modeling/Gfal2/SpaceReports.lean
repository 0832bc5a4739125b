import Gfal2.Base.Buffer
import Gfal2.Base.JsonReads
import Gfal2.SrmServices

/-! The space reports of the SRM plugin: the names of the space tokens, or what they stand for, written as JSON into the
buffer of a caller. The text of a single report is the one of json-c. -/

namespace Gfal2

open Base

/-! ### One report -/

def retention2str (policy : Int) : CString :=
  if policy = 1 then lit "REPLICA"
  else if policy = 2 then lit "OUTPUT"
  else if policy = 3 then lit "CUSTODIAL"
  else lit "UNKNOWN"

def accesslatency2str (latency : Int) : CString :=
  if latency = 1 then lit "ONLINE" else if latency = 2 then lit "NEARLINE" else lit "UNKNOWN"

/-- `struct space_report`. The policy and the latency are unknown where they are zero. -/
structure SpaceReport where
  used : Nat := 0
  free : Nat := 0
  total : Nat := 0
  largestChunk : Option Nat := none
  lifetimeAssigned : Option Int := none
  lifetimeLeft : Option Int := none
  latency : Int := 0
  retention : Int := 0
  owner : Option CString := none
  spacetoken : Option CString := none

def jsonInt (n : Int) : Json := .number (showInt n)

/-- The conversion to `int64_t` of `json_object_new_int64`. -/
def jsonInt64 (n : Nat) : Json := jsonInt (Int.bmod n (2 ^ 64))

def optionalMember {α : Type} (key : CString) (json : α → Json) : Option α → List (CString × Json)
  | some value => [(key, json value)]
  | none => []

theorem optionalMember_none {α : Type} (key : CString) (json : α → Json) : optionalMember key json none = [] := rfl

/-- The document that a report is to give, with the way its sizes are written. -/
def SpaceReport.documentWith (size : Nat → Json) (report : SpaceReport) : Json :=
  .object (optionalMember (lit "spacetoken") .string report.spacetoken ++
    optionalMember (lit "owner") .string report.owner ++
    [(lit "totalsize", size report.total), (lit "unusedsize", size report.free), (lit "usedsize", size report.used)] ++
    optionalMember (lit "guaranteedsize") size report.largestChunk ++
    optionalMember (lit "lifetimeassigned") jsonInt report.lifetimeAssigned ++
    optionalMember (lit "lifetimeleft") jsonInt report.lifetimeLeft ++
    (if report.retention ≠ 0 then [(lit "retention", .string (retention2str report.retention))] else []) ++
    (if report.latency ≠ 0 then [(lit "accesslatency", .string (accesslatency2str report.latency))] else []))

/-- The `json_object` of `gfal2_space_generate_json`. -/
def SpaceReport.jsonObject (report : SpaceReport) : Json := report.documentWith jsonInt64

def SpaceReport.document (report : SpaceReport) : Json := report.documentWith fun n => jsonInt n

/-- All sizes have 63 bits. -/
structure SpaceReport.Sized (report : SpaceReport) : Prop where
  used : report.used < 2 ^ 63
  free : report.free < 2 ^ 63
  total : report.total < 2 ^ 63
  largestChunk : ∀ size ∈ report.largestChunk, size < 2 ^ 63

theorem jsonInt64_eq {n : Nat} (h : n < 2 ^ 63) : jsonInt64 n = jsonInt n := by
  unfold jsonInt64
  rw [Int.bmod_eq_of_le (by omega) (by omega)]

theorem SpaceReport.Sized.jsonObject_eq {report : SpaceReport} (h : report.Sized) : report.jsonObject = report.document := by
  have hchunk : optionalMember (lit "guaranteedsize") jsonInt64 report.largestChunk =
      optionalMember (lit "guaranteedsize") (fun n : Nat => jsonInt n) report.largestChunk := by
    cases hsize : report.largestChunk with
    | none => rw [optionalMember_none, optionalMember_none]
    | some size =>
        have hlt : size < 2 ^ 63 := h.largestChunk size hsize
        exact congrArg (fun json : Json => [(lit "guaranteedsize", json)]) (jsonInt64_eq hlt)
  unfold jsonObject document documentWith
  rw [hchunk, jsonInt64_eq h.total, jsonInt64_eq h.free, jsonInt64_eq h.used]

section Printing

-- `json_object_to_json_string`
variable (toJsonString : Json → CString)

/-- `gfal2_space_generate_json`, for a buffer at a place in a larger one. -/
def gfal2SpaceGenerateJson (report : SpaceReport) (buff : Buffer) (i size : Nat) : Option (Nat × Buffer) := do
  let buff ← buff.strlcpy i (toJsonString report.jsonObject) size
  let length ← buff.strnlen i size
  return (length, buff)

/-! ### The list of the tokens -/

/-- The buffer with the offset of the next character. -/
structure JsonWriter where
  buff : Buffer
  offset : Nat := 0

def jsonPutc (sBuff : Nat) (c : Char) (writer : JsonWriter) : Option JsonWriter :=
  if writer.offset < sBuff then (writer.buff.store writer.offset c).map fun buff => ⟨buff, writer.offset + 1⟩
  else some writer

def jsonPutAll (sBuff : Nat) : List Char → JsonWriter → Option JsonWriter
  | [], writer => some writer
  | c :: text, writer => (jsonPutc sBuff c writer).bind (jsonPutAll sBuff text)

/-- How a character of a string is written. -/
def jsonEscaped (c : Char) : List Char := if c = '\\' ∨ c = '"' then ['\\', c] else [c]

def jsonQuoted (str : CString) : CString := '"' :: (str.flatMap jsonEscaped ++ ['"'])

def jsonPuts (sBuff : Nat) (str : CString) (writer : JsonWriter) : Option JsonWriter :=
  jsonPutAll sBuff (jsonQuoted str) writer

/-- The end of a list: the last comma is taken back. -/
def jsonEnd (sBuff : Nat) (writer : JsonWriter) : Option JsonWriter := do
  if writer.offset = 0 then none
  else
    let last ← writer.buff.load (writer.offset - 1)
    let writer := if last = ',' then { writer with offset := writer.offset - 1 } else writer
    let writer ← jsonPutc sBuff ']' writer
    jsonPutc sBuff nul writer

/-- The loop over the names of the tokens. -/
def putTokens (sBuff : Nat) : List CString → JsonWriter → Option JsonWriter
  | [], writer => some writer
  | token :: tokens, writer => do
      let writer ← jsonPuts sBuff token writer
      let writer ← jsonPutc sBuff ',' writer
      putTokens sBuff tokens writer

/-! ### What srm-ifce answers -/

abbrev PrintableText := { text : CString // ∀ c ∈ text, 0x20 ≤ c.toNat ∧ c.toNat ≤ 0x7e }

/-- `struct srm_spacemd`, with sizes of 63 bits. -/
structure SrmSpacemd where
  spacetoken : Option PrintableText
  owner : Option PrintableText
  totalsize : { size : Nat // size < 2 ^ 63 }
  guaranteedsize : { size : Nat // size < 2 ^ 63 }
  unusedsize : { size : Nat // size < 2 ^ 63 }
  lifetimeassigned : Int
  lifetimeleft : Int
  retentionpolicy : Int
  accesslatency : Int

/-- The answers of srm-ifce. The one for a token may depend on how many were asked for before. -/
structure SrmSpaces where
  getspacetokens : Option CString → Except GError (List PrintableText)
  getspacemd : Nat → CString → Except GError SrmSpacemd

/-- The report that is made of an answer. How much of the space is used is not told. -/
def SrmSpacemd.report (md : SrmSpacemd) : SpaceReport where
  spacetoken := md.spacetoken.map Subtype.val
  owner := md.owner.map Subtype.val
  total := md.totalsize
  largestChunk := some md.guaranteedsize
  free := md.unusedsize
  lifetimeAssigned := some md.lifetimeassigned
  lifetimeLeft := some md.lifetimeleft
  retention := md.retentionpolicy
  latency := md.accesslatency

variable (spaces : SrmSpaces)

/-- `gfal_srm_space_list`. That no token belongs to the user is no error. -/
def gfalSrmSpaceList (buff : Buffer) : Option (Ret Int × Buffer) :=
  match spaces.getspacetokens none with
  | .error e =>
      if e.code = EINVAL ∧ ¬strstr e.message (lit "[EINVAL] Invalid arguments") then some (⟨0, none⟩, buff)
      else some (⟨-1, some e⟩, buff)
  | .ok tokens => do
      let writer ← jsonPutc buff.length '[' ⟨buff, 0⟩
      let writer ← putTokens buff.length (tokens.map Subtype.val) writer
      let writer ← jsonEnd buff.length writer
      return (⟨writer.offset, none⟩, writer.buff)

/-- `gfal_srm_space_token_info`, for a buffer at a place in a larger one. -/
def gfalSrmSpaceTokenInfo (asked : Nat) (token : CString) (buff : Buffer) (i size : Nat) :
    Option (Ret Int × Buffer) :=
  match spaces.getspacemd asked token with
  | .error e => some (⟨-1, some e⟩, buff)
  | .ok md => (gfal2SpaceGenerateJson toJsonString md.report buff i size).map fun written => (⟨written.1, none⟩, written.2)

/-- The loop of `gfal_srm_space_token_descr_info`, which an error ends. -/
def putReports (sBuff : Nat) : Nat → List CString → JsonWriter → Option (Except GError JsonWriter × Buffer)
  | _, [], writer => some (.ok writer, writer.buff)
  | asked, token :: tokens, writer => do
      let (result, buff) ← gfalSrmSpaceTokenInfo toJsonString spaces asked token writer.buff writer.offset
        (sBuff - writer.offset)
      match result.err with
      | some e => return (.error e, buff)
      | none =>
          let writer ← jsonPutc sBuff ',' ⟨buff, writer.offset + result.val.toNat⟩
          putReports sBuff (asked + 1) tokens writer

def gfalSrmSpaceTokenDescrInfo (tokenDesc : CString) (buff : Buffer) : Option (Ret Int × Buffer) :=
  match spaces.getspacetokens (some tokenDesc) with
  | .error e => some (⟨-1, some e⟩, buff)
  | .ok tokens => do
      let writer ← jsonPutc buff.length '[' ⟨buff, 0⟩
      let (reports, written) ← putReports toJsonString spaces buff.length 0 (tokens.map Subtype.val) writer
      match reports with
      | .error e => return (⟨-1, some e⟩, written)
      | .ok writer =>
          let writer ← jsonEnd buff.length writer
          return (⟨writer.offset, none⟩, writer.buff)

def gfalSrmSpaceProperty (name : CString) (buff : Buffer) : Option (Ret Int × Buffer) :=
  if name = [] then gfalSrmSpaceList spaces buff
  else if strncmp name (lit "token?") 6 = 0 then gfalSrmSpaceTokenInfo toJsonString spaces 0 (name.drop 6) buff 0 buff.length
  else if strncmp name (lit "description?") 12 = 0 then gfalSrmSpaceTokenDescrInfo toJsonString spaces (name.drop 12) buff
  else some (⟨-1, some (gfal2SetError srmQuark ENODATA (lit "Unknown space token attribute " ++ name))⟩, buff)

/-! ### What is to be written -/

/-- Texts with commas between them. -/
def commaSeparated : List CString → CString
  | [] => []
  | [item] => item
  | item :: items => item ++ ',' :: commaSeparated items

/-- The reports for tokens, if all are told. -/
def reportsOf : Nat → List CString → Option (List SpaceReport)
  | _, [] => some []
  | asked, token :: tokens =>
      match spaces.getspacemd asked token with
      | .error _ => none
      | .ok md => (reportsOf (asked + 1) tokens).map (md.report :: ·)

/-- The whole text that an attribute is to have, and its document. -/
def spaceDescribed (name : CString) : Option (CString × Json) :=
  let listed := fun (items : List CString) (documents : List Json) =>
    ('[' :: (commaSeparated items ++ [']']), Json.array documents)
  if name = [] then
    match spaces.getspacetokens none with
    | .error _ => none
    | .ok tokens => some (listed (tokens.map fun token => jsonQuoted token.val) (tokens.map fun token => .string token.val))
  else if strncmp name (lit "token?") 6 = 0 then
    match spaces.getspacemd 0 (name.drop 6) with
    | .error _ => none
    | .ok md => some (toJsonString md.report.document, md.report.document)
  else if strncmp name (lit "description?") 12 = 0 then
    match spaces.getspacetokens (some (name.drop 12)) with
    | .error _ => none
    | .ok tokens =>
        (reportsOf spaces 0 (tokens.map Subtype.val)).map fun reports =>
          listed (reports.map fun report => toJsonString report.document) (reports.map SpaceReport.document)
  else none

/-- The answer is taken for an empty list of tokens. -/
def SrmSpaces.NoTokens : Prop :=
  ∃ e, spaces.getspacetokens none = .error e ∧ e.code = EINVAL ∧ ¬strstr e.message (lit "[EINVAL] Invalid arguments")

/-- json-c writes a report as a JSON text of its document, in a string of C. -/
def PrintsReports : Prop :=
  ∀ asked token md, spaces.getspacemd asked token = .ok md →
    nul ∉ toJsonString md.report.document ∧ Json.parse (toJsonString md.report.document) = some md.report.document

end Printing

/-! ### Inside the buffer -/

variable {toJsonString : Json → CString} {spaces : SrmSpaces} {sBuff : Nat}

/-- A writer on a buffer of the size that it is told. -/
structure JsonWriter.Inside (sBuff : Nat) (writer : JsonWriter) : Prop where
  length : writer.buff.length = sBuff
  offset : writer.offset ≤ sBuff

theorem jsonPutc_inside (c : Char) {writer : JsonWriter} (h : writer.Inside sBuff) :
    ∃ next, jsonPutc sBuff c writer = some next ∧ next.Inside sBuff ∧ writer.offset ≤ next.offset ∧
      (writer.offset < sBuff → 0 < next.offset) := by
  unfold jsonPutc
  split
  · rename_i hlt
    rw [Buffer.store_eq (h.length.symm ▸ hlt)]
    exact ⟨_, rfl, ⟨List.length_set.trans h.length, hlt⟩, Nat.le_succ _, fun _ => Nat.succ_pos _⟩
  · rename_i hfull
    exact ⟨writer, rfl, h, le_rfl, fun hlt => absurd hlt hfull⟩

theorem jsonPutAll_inside (text : List Char) {writer : JsonWriter} (h : writer.Inside sBuff) :
    ∃ next, jsonPutAll sBuff text writer = some next ∧ next.Inside sBuff ∧ writer.offset ≤ next.offset := by
  induction text generalizing writer with
  | nil => exact ⟨writer, rfl, h, le_rfl⟩
  | cons c text ih =>
      obtain ⟨middle, hput, hmiddle, hle, -⟩ := jsonPutc_inside c h
      obtain ⟨next, hrest, hnext, hle'⟩ := ih hmiddle
      refine ⟨next, ?_, hnext, hle.trans hle'⟩
      rw [jsonPutAll, hput, Option.bind_some, hrest]

theorem putTokens_inside (tokens : List CString) {writer : JsonWriter} (h : writer.Inside sBuff) :
    ∃ next, putTokens sBuff tokens writer = some next ∧ next.Inside sBuff ∧ writer.offset ≤ next.offset := by
  induction tokens generalizing writer with
  | nil => exact ⟨writer, rfl, h, le_rfl⟩
  | cons token tokens ih =>
      obtain ⟨quoted, hputs, hquoted, hle⟩ := jsonPutAll_inside (jsonQuoted token) h
      obtain ⟨comma, hput, hcomma, hle', -⟩ := jsonPutc_inside ',' hquoted
      obtain ⟨next, hrest, hnext, hle''⟩ := ih hcomma
      refine ⟨next, ?_, hnext, hle.trans (hle'.trans hle'')⟩
      unfold putTokens jsonPuts
      rw [hputs]
      show (jsonPutc sBuff ',' quoted).bind (putTokens sBuff tokens) = some next
      rw [hput, Option.bind_some, hrest]

theorem jsonEnd_inside {writer : JsonWriter} (h : writer.Inside sBuff) (hpos : 0 < writer.offset) :
    ∃ next, jsonEnd sBuff writer = some next ∧ next.Inside sBuff := by
  have hload : writer.offset - 1 < writer.buff.length := by
    have hoffset := h.offset
    rw [h.length]
    omega
  have hback : ∀ last : Char,
      (if last = ',' then { writer with offset := writer.offset - 1 } else writer : JsonWriter).Inside sBuff := by
    intro last
    split
    · exact ⟨h.length, (Nat.sub_le _ _).trans h.offset⟩
    · exact h
  unfold jsonEnd
  rw [if_neg (Nat.ne_of_gt hpos), Buffer.load, List.getElem?_eq_getElem hload]
  obtain ⟨closed, hclosed, hinside, -⟩ := jsonPutc_inside ']' (hback writer.buff[writer.offset - 1])
  obtain ⟨next, hnext, hnextInside, -⟩ := jsonPutc_inside nul hinside
  refine ⟨next, ?_, hnextInside⟩
  show (jsonPutc sBuff ']' _).bind (jsonPutc sBuff nul) = some next
  rw [hclosed, Option.bind_some, hnext]

theorem gfalSrmSpaceTokenInfo_inside (asked : Nat) (token : CString) {buff : Buffer} {i size : Nat}
    (h : i + size ≤ buff.length) :
    ∃ result next, gfalSrmSpaceTokenInfo toJsonString spaces asked token buff i size = some (result, next) ∧
      next.length = buff.length ∧ result.val ≤ size := by
  unfold gfalSrmSpaceTokenInfo
  cases spaces.getspacemd asked token with
  | error e => exact ⟨_, _, rfl, rfl, (by decide : (-1 : Int) ≤ 0).trans (Int.natCast_nonneg size)⟩
  | ok md =>
      obtain ⟨copied, hcopy, hlength⟩ := Buffer.strlcpy_isSome (toJsonString md.report.jsonObject) h
      obtain ⟨n, hn, hnlen⟩ := Buffer.strnlen_isSome (hlength.symm ▸ h)
      refine ⟨⟨n, none⟩, copied, ?_, hlength, Int.ofNat_le.mpr hn⟩
      dsimp only
      unfold gfal2SpaceGenerateJson
      rw [hcopy]
      show (((copied.strnlen i size).bind fun length => some (length, copied)).map _ : Option (Ret Int × Buffer)) = _
      rw [hnlen]
      rfl

theorem putReports_inside (asked : Nat) (tokens : List CString) {writer : JsonWriter} (h : writer.Inside sBuff)
    (hpos : 0 < writer.offset) :
    ∃ result buff, putReports toJsonString spaces sBuff asked tokens writer = some (result, buff) ∧ buff.length = sBuff ∧
      ∀ next, result = .ok next → next.Inside sBuff ∧ 0 < next.offset := by
  induction tokens generalizing asked writer with
  | nil =>
      refine ⟨_, _, rfl, h.length, ?_⟩
      rintro next hok
      cases hok
      exact ⟨h, hpos⟩
  | cons token tokens ih =>
      have hoffset := h.offset
      have hroom : writer.offset + (sBuff - writer.offset) ≤ writer.buff.length := by
        rw [h.length]
        omega
      obtain ⟨result, buff, hinfo, hlength, hresult⟩ :=
        @gfalSrmSpaceTokenInfo_inside toJsonString spaces asked token writer.buff _ _ hroom
      rw [h.length] at hlength
      unfold putReports
      rw [hinfo]
      dsimp only [Option.bind_eq_bind, Option.bind_some]
      cases herr : result.err with
      | some e => exact ⟨_, _, rfl, hlength, fun next hok => by cases hok⟩
      | none =>
          have hinside : (⟨buff, writer.offset + result.val.toNat⟩ : JsonWriter).Inside sBuff :=
            ⟨hlength, by show writer.offset + result.val.toNat ≤ sBuff; omega⟩
          obtain ⟨next, hput, hnext, hle, -⟩ := jsonPutc_inside ',' hinside
          obtain ⟨result', buff', hrest, hlength', hok⟩ := ih (asked + 1) hnext
            (Nat.lt_of_lt_of_le hpos (Nat.le_trans (Nat.le_add_right _ _) hle))
          refine ⟨result', buff', ?_, hlength', hok⟩
          dsimp only
          rw [hput]
          exact hrest

/-- No attribute is written beyond the buffer. -/
theorem gfalSrmSpaceProperty_inside (name : CString) {buff : Buffer} (hbuff : 1 ≤ buff.length) :
    ∃ result next, gfalSrmSpaceProperty toJsonString spaces name buff = some (result, next) ∧
      next.length = buff.length ∧ result.val ≤ buff.length := by
  have hfailed : (-1 : Int) ≤ buff.length := (by decide : (-1 : Int) ≤ 0).trans (Int.natCast_nonneg _)
  have hstart : (⟨buff, 0⟩ : JsonWriter).Inside buff.length := ⟨rfl, Nat.zero_le _⟩
  obtain ⟨first, hput, hfirst, -, hpos⟩ := jsonPutc_inside '[' hstart
  have hfirstPos : 0 < first.offset := hpos hbuff
  unfold gfalSrmSpaceProperty
  split
  · unfold gfalSrmSpaceList
    cases spaces.getspacetokens none with
    | error e =>
        dsimp only
        split
        · exact ⟨_, _, rfl, rfl, Int.natCast_nonneg _⟩
        · exact ⟨_, _, rfl, rfl, hfailed⟩
    | ok tokens =>
        obtain ⟨listed, hlisted, hinside, hle⟩ := putTokens_inside (tokens.map Subtype.val) hfirst
        obtain ⟨next, hend, hnext⟩ := jsonEnd_inside hinside (Nat.lt_of_lt_of_le hfirstPos hle)
        refine ⟨⟨next.offset, none⟩, next.buff, ?_, hnext.length, Int.ofNat_le.mpr hnext.offset⟩
        dsimp only
        rw [hput]
        dsimp only [Option.bind_eq_bind, Option.bind_some]
        rw [hlisted]
        dsimp only [Option.bind_some]
        rw [hend]
        rfl
  · split
    · exact gfalSrmSpaceTokenInfo_inside 0 (name.drop 6) (by omega)
    · split
      · unfold gfalSrmSpaceTokenDescrInfo
        cases spaces.getspacetokens (some (name.drop 12)) with
        | error e => exact ⟨_, _, rfl, rfl, hfailed⟩
        | ok tokens =>
            obtain ⟨reports, written, hreports, hlength, hok⟩ :=
              @putReports_inside toJsonString spaces _ 0 (tokens.map Subtype.val) _ hfirst hfirstPos
            dsimp only
            rw [hput]
            dsimp only [Option.bind_eq_bind, Option.bind_some]
            rw [hreports]
            dsimp only [Option.bind_some]
            cases reports with
            | error e => exact ⟨_, _, rfl, hlength, hfailed⟩
            | ok writer =>
                obtain ⟨hinside, hwriterPos⟩ := hok writer rfl
                obtain ⟨next, hend, hnext⟩ := jsonEnd_inside hinside hwriterPos
                refine ⟨⟨next.offset, none⟩, next.buff, ?_, hnext.length, Int.ofNat_le.mpr hnext.offset⟩
                dsimp only
                rw [hend]
                rfl
      · exact ⟨_, _, rfl, rfl, hfailed⟩

/-! ### A text that fits -/

/-- A writer whose buffer begins with what was written. -/
structure JsonWriter.Wrote (sBuff : Nat) (text : List Char) (writer : JsonWriter) : Prop where
  length : writer.buff.length = sBuff
  content : text <+: writer.buff
  offset : writer.offset = text.length

variable {text : List Char}

theorem jsonPutc_wrote (c : Char) {writer : JsonWriter} (h : writer.Wrote sBuff text) (hroom : text.length < sBuff) :
    ∃ next, jsonPutc sBuff c writer = some next ∧ next.Wrote sBuff (text ++ [c]) := by
  obtain ⟨rest, hbuff⟩ := h.content
  unfold jsonPutc
  rw [h.offset, if_pos hroom, Buffer.store_eq (h.length.symm ▸ hroom)]
  refine ⟨_, rfl, List.length_set.trans h.length, ?_, ?_⟩
  · have hlength := h.length
    cases rest with
    | nil =>
        rw [← hbuff, List.append_nil] at hlength
        omega
    | cons b rest =>
        show text ++ [c] <+: writer.buff.set text.length c
        rw [← hbuff, List.set_append_right _ _ le_rfl, Nat.sub_self]
        exact ⟨rest, by rw [List.append_assoc]; rfl⟩
  · show text.length + 1 = (text ++ [c]).length
    rw [List.length_append]
    rfl

theorem jsonPutAll_wrote (added : List Char) {writer : JsonWriter} (h : writer.Wrote sBuff text)
    (hroom : text.length + added.length ≤ sBuff) :
    ∃ next, jsonPutAll sBuff added writer = some next ∧ next.Wrote sBuff (text ++ added) := by
  induction added generalizing text writer with
  | nil => exact ⟨writer, rfl, by rwa [List.append_nil]⟩
  | cons c added ih =>
      rw [List.length_cons] at hroom
      obtain ⟨middle, hput, hmiddle⟩ := jsonPutc_wrote c h (by omega)
      obtain ⟨next, hrest, hnext⟩ := ih hmiddle (by rw [List.length_append, List.length_singleton]; omega)
      refine ⟨next, ?_, ?_⟩
      · rw [jsonPutAll, hput, Option.bind_some, hrest]
      · rwa [List.append_assoc] at hnext

/-- Each text with a comma after it. -/
def commaEnded (items : List CString) : CString := items.flatMap (· ++ [','])

theorem putTokens_wrote (tokens : List CString) {writer : JsonWriter} (h : writer.Wrote sBuff text)
    (hroom : text.length + (commaEnded (tokens.map jsonQuoted)).length ≤ sBuff) :
    ∃ next, putTokens sBuff tokens writer = some next ∧
      next.Wrote sBuff (text ++ commaEnded (tokens.map jsonQuoted)) := by
  induction tokens generalizing text writer with
  | nil => exact ⟨writer, rfl, by rwa [commaEnded, List.map_nil, List.flatMap_nil, List.append_nil]⟩
  | cons token tokens ih =>
      have hsplit : commaEnded ((token :: tokens).map jsonQuoted) =
          jsonQuoted token ++ [','] ++ commaEnded (tokens.map jsonQuoted) := by
        rw [commaEnded, List.map_cons, List.flatMap_cons]
        rfl
      rw [hsplit, List.length_append, List.length_append, List.length_singleton] at hroom
      obtain ⟨quoted, hputs, hquoted⟩ := jsonPutAll_wrote (jsonQuoted token) h (by omega)
      obtain ⟨comma, hput, hcomma⟩ := jsonPutc_wrote ',' hquoted (by rw [List.length_append]; omega)
      obtain ⟨next, hrest, hnext⟩ := ih hcomma (by
        rw [List.length_append, List.length_append, List.length_singleton]
        omega)
      refine ⟨next, ?_, ?_⟩
      · unfold putTokens jsonPuts
        rw [hputs]
        show (jsonPutc sBuff ',' quoted).bind (putTokens sBuff tokens) = some next
        rw [hput, Option.bind_some, hrest]
      · rw [hsplit]
        simpa only [List.append_assoc] using hnext

/-- The end of a list after an item: the bracket takes the place of the comma. -/
theorem jsonEnd_wrote {last : Char} {writer : JsonWriter} (h : writer.Wrote sBuff (text ++ [last]))
    (hroom : (text ++ [last]).length + 1 < sBuff ∨ last = ',' ∧ text.length + 1 < sBuff) :
    ∃ next, jsonEnd sBuff writer = some next ∧
      next.Wrote sBuff ((if last = ',' then text else text ++ [last]) ++ [']'] ++ [nul]) := by
  have hlength : (text ++ [last]).length = text.length + 1 := by rw [List.length_append]; rfl
  have hoffset := h.offset
  obtain ⟨rest, hbuff⟩ := h.content
  have hload : writer.buff.load (writer.offset - 1) = some last := by
    rw [Buffer.load, hoffset, hlength, Nat.add_sub_cancel, ← hbuff, List.append_assoc,
      List.getElem?_append_right le_rfl, Nat.sub_self]
    rfl
  have hback : (if last = ',' then { writer with offset := writer.offset - 1 } else writer : JsonWriter).Wrote sBuff
      (if last = ',' then text else text ++ [last]) := by
    split
    · refine ⟨h.length, (List.prefix_append text [last]).trans h.content, ?_⟩
      show writer.offset - 1 = text.length
      omega
    · exact h
  have hfits : (if last = ',' then text else text ++ [last]).length + 1 < sBuff := by
    split
    · rename_i hcomma
      obtain hroom | hroom := hroom
      · omega
      · exact hroom.2
    · rename_i hcomma
      obtain hroom | hroom := hroom
      · exact hroom
      · exact absurd hroom.1 hcomma
  obtain ⟨closed, hclosed, hbracket⟩ := jsonPutc_wrote ']' hback (by omega)
  obtain ⟨next, hnext, hdone⟩ := jsonPutc_wrote nul hbracket (by rw [List.length_append]; exact hfits)
  refine ⟨next, ?_, hdone⟩
  unfold jsonEnd
  rw [if_neg (by omega), hload]
  show (jsonPutc sBuff ']' _).bind (jsonPutc sBuff nul) = some next
  rw [hclosed, Option.bind_some, hnext]

theorem commaEnded_cons (item : CString) (items : List CString) :
    commaEnded (item :: items) = commaSeparated (item :: items) ++ [','] := by
  induction items generalizing item with
  | nil =>
      show item ++ [','] ++ [] = item ++ [',']
      rw [List.append_nil]
  | cons other items ih =>
      calc commaEnded (item :: other :: items) = item ++ [','] ++ commaEnded (other :: items) := List.flatMap_cons
        _ = item ++ ([','] ++ (commaSeparated (other :: items) ++ [','])) := by rw [ih, List.append_assoc]
        _ = item ++ ',' :: commaSeparated (other :: items) ++ [','] := by
          rw [List.append_assoc]
          rfl

def listText (items : List CString) : CString := '[' :: (commaSeparated items ++ [']'])

theorem length_commaEnded_le {items : List CString} (h : (listText items).length < sBuff) :
    ['['].length + (commaEnded items).length ≤ sBuff := by
  unfold listText at h
  rw [List.length_cons, List.length_append, List.length_singleton] at h
  cases items with
  | nil =>
      show 1 + 0 ≤ sBuff
      omega
  | cons item items =>
      rw [commaEnded_cons, List.length_append, List.length_singleton, List.length_singleton]
      omega

theorem jsonEnd_listed {items : List CString} {writer : JsonWriter} (h : writer.Wrote sBuff (['['] ++ commaEnded items))
    (hroom : (listText items).length < sBuff) :
    ∃ next, jsonEnd sBuff writer = some next ∧ next.Wrote sBuff (listText items ++ [nul]) := by
  unfold listText at hroom ⊢
  rw [List.length_cons, List.length_append, List.length_singleton] at hroom
  cases items with
  | nil =>
      have hempty : writer.Wrote sBuff ([] ++ ['[']) := h
      exact jsonEnd_wrote hempty (.inl (by show 1 + 1 < sBuff; exact hroom))
  | cons item items =>
      rw [commaEnded_cons, ← List.append_assoc] at h
      obtain ⟨next, hend, hnext⟩ := jsonEnd_wrote h (.inr ⟨rfl, by
        rw [List.length_append, List.length_singleton]
        omega⟩)
      rw [if_pos rfl, List.append_assoc ['[']] at hnext
      exact ⟨next, hend, hnext⟩

theorem gfal2SpaceGenerateJson_wrote {report : SpaceReport} {writer : JsonWriter}
    (hnul : nul ∉ toJsonString report.jsonObject) (h : writer.Wrote sBuff text)
    (hroom : text.length + (toJsonString report.jsonObject).length < sBuff) :
    ∃ buff, gfal2SpaceGenerateJson toJsonString report writer.buff writer.offset (sBuff - writer.offset) =
        some ((toJsonString report.jsonObject).length, buff) ∧ buff.length = sBuff ∧
      text ++ (toJsonString report.jsonObject ++ [nul]) <+: buff := by
  obtain ⟨rest, hbuff⟩ := h.content
  have hoffset := h.offset
  have hlength := h.length
  have htake : writer.buff.take writer.offset = text := by rw [← hbuff, hoffset, List.take_left]
  obtain ⟨after, hafter⟩ : ∃ after, after = writer.buff.drop (writer.offset + ((toJsonString report.jsonObject).length + 1)) :=
    ⟨_, rfl⟩
  have hcopy : writer.buff.strlcpy writer.offset (toJsonString report.jsonObject) (sBuff - writer.offset) =
      some (text ++ (toJsonString report.jsonObject ++ [nul]) ++ after) := by
    rw [Buffer.strlcpy_eq (by omega) (by omega), htake, hafter]
  have hcopied : (text ++ (toJsonString report.jsonObject ++ [nul]) ++ after).length = sBuff := by
    obtain ⟨buff, hsome, hsame⟩ := Buffer.strlcpy_isSome (toJsonString report.jsonObject)
      (show writer.offset + (sBuff - writer.offset) ≤ writer.buff.length by omega)
    rw [hcopy] at hsome
    cases hsome
    exact hsame.trans hlength
  have hnlen : Buffer.strnlen (text ++ (toJsonString report.jsonObject ++ nul :: after)) text.length
      (sBuff - writer.offset) = some (toJsonString report.jsonObject).length :=
    Buffer.strnlen_eq hnul (by omega)
  refine ⟨_, ?_, hcopied, List.prefix_append _ _⟩
  unfold gfal2SpaceGenerateJson
  rw [hcopy]
  dsimp only [Option.bind_eq_bind, Option.bind_some]
  rw [List.append_assoc, List.append_assoc, List.singleton_append]
  rw [hoffset] at hnlen ⊢
  rw [hnlen]
  rfl

theorem SrmSpacemd.sized (md : SrmSpacemd) : md.report.Sized where
  used := Nat.two_pow_pos 63
  free := md.unusedsize.property
  total := md.totalsize.property
  largestChunk size hsize := by
    cases hsize
    exact md.guaranteedsize.property

theorem gfalSrmSpaceTokenInfo_wrote (hprints : PrintsReports toJsonString spaces) {asked : Nat} {token : CString}
    {md : SrmSpacemd} (hmd : spaces.getspacemd asked token = .ok md) {writer : JsonWriter}
    (h : writer.Wrote sBuff text) (hroom : text.length + (toJsonString md.report.document).length < sBuff) :
    ∃ buff, gfalSrmSpaceTokenInfo toJsonString spaces asked token writer.buff writer.offset (sBuff - writer.offset) =
        some (⟨(toJsonString md.report.document).length, none⟩, buff) ∧ buff.length = sBuff ∧
      text ++ (toJsonString md.report.document ++ [nul]) <+: buff := by
  have hnul := (hprints asked token md hmd).1
  rw [← md.sized.jsonObject_eq] at hnul hroom ⊢
  obtain ⟨buff, hgenerate, hlength, hcontent⟩ := gfal2SpaceGenerateJson_wrote hnul h hroom
  refine ⟨buff, ?_, hlength, hcontent⟩
  unfold gfalSrmSpaceTokenInfo
  rw [hmd]
  dsimp only
  rw [hgenerate]
  rfl

def reportTexts (toJsonString : Json → CString) (reports : List SpaceReport) : List CString :=
  reports.map fun report => toJsonString report.document

variable {reports : List SpaceReport}

theorem putReports_wrote (hprints : PrintsReports toJsonString spaces) {asked : Nat} {tokens : List CString}
     {writer : JsonWriter}
    (hreports : reportsOf spaces asked tokens = some reports) (h : writer.Wrote sBuff text)
    (hroom : text.length + (commaEnded (reportTexts toJsonString reports)).length ≤ sBuff) :
    ∃ next, putReports toJsonString spaces sBuff asked tokens writer = some (.ok next, next.buff) ∧
      next.Wrote sBuff (text ++ commaEnded (reportTexts toJsonString reports)) := by
  induction tokens generalizing asked reports text writer with
  | nil =>
      cases hreports
      exact ⟨writer, rfl, by rwa [reportTexts, commaEnded, List.map_nil, List.flatMap_nil, List.append_nil]⟩
  | cons token tokens ih =>
      unfold reportsOf at hreports
      cases hmd : spaces.getspacemd asked token with
      | error e =>
          rw [hmd] at hreports
          cases hreports
      | ok md =>
          rw [hmd] at hreports
          obtain ⟨others, hothers, rfl⟩ := Option.map_eq_some_iff.mp hreports
          have hsplit : commaEnded (reportTexts toJsonString (md.report :: others)) =
              toJsonString md.report.document ++ [','] ++ commaEnded (reportTexts toJsonString others) := by
            rw [reportTexts, commaEnded, List.map_cons, List.flatMap_cons]
            rfl
          rw [hsplit, List.length_append, List.length_append, List.length_singleton] at hroom
          obtain ⟨buff, hinfo, hlength, hcontent⟩ := gfalSrmSpaceTokenInfo_wrote hprints hmd h (by omega)
          rw [← List.append_assoc] at hcontent
          have hwrote : (⟨buff, writer.offset + (toJsonString md.report.document).length⟩ : JsonWriter).Wrote sBuff
              (text ++ toJsonString md.report.document) := by
            refine ⟨hlength, (List.prefix_append _ _).trans hcontent, ?_⟩
            rw [h.offset, List.length_append]
          obtain ⟨comma, hput, hcomma⟩ := jsonPutc_wrote ',' hwrote (by rw [List.length_append]; omega)
          obtain ⟨next, hrest, hnext⟩ := ih hothers hcomma (by
            rw [List.length_append, List.length_append, List.length_singleton]
            omega)
          refine ⟨next, ?_, ?_⟩
          · unfold putReports
            rw [hinfo]
            dsimp only [Option.bind_eq_bind, Option.bind_some, Int.toNat_natCast]
            rw [hput]
            exact hrest
          · rw [hsplit]
            simpa only [List.append_assoc] using hnext

/-! ### Reading the text back -/

/-- A document is read from a text, whatever follows that no number goes on with. -/
def StandsFor (text : CString) (document : Json) : Prop :=
  ∀ t, Json.StopsNumber t → ∃ rest, Json.Reads (text ++ t) document rest ∧ Json.skipSpace rest = Json.skipSpace t

variable {document : Json}

theorem standsFor_of_parse {text : CString} (h : Json.parse text = some document) : StandsFor text document := by
  intro t ht
  obtain ⟨rest, hreads, hblank⟩ := Json.parse_eq_some_iff.mp h
  exact ⟨rest ++ t, hreads.append ht, Json.skipSpace_of_blank hblank t⟩

theorem jsonEscaped_special {c : Char} (h : c = '\\' ∨ c = '"') : jsonEscaped c = ['\\', c] := if_pos h

theorem jsonEscaped_plain {c : Char} (h : ¬(c = '\\' ∨ c = '"')) : jsonEscaped c = [c] := if_neg h

theorem splitString_escaped {token : CString} (h : ∀ c ∈ token, 0x20 ≤ c.toNat ∧ c.toNat ≤ 0x7e) (rest : CString) :
    Json.splitString (token.flatMap jsonEscaped ++ '"' :: rest) = some (token.flatMap jsonEscaped, rest) := by
  induction token with
  | nil => exact Json.splitString_quote rest
  | cons c token ih =>
      obtain ⟨hc, htoken⟩ := List.forall_mem_cons.mp h
      rw [List.flatMap_cons]
      by_cases hspecial : c = '\\' ∨ c = '"'
      · rw [jsonEscaped_special hspecial, List.cons_append, List.singleton_append, List.cons_append, List.cons_append,
          Json.splitString_escape, ih htoken]
        rfl
      · rw [jsonEscaped_plain hspecial, List.singleton_append, List.cons_append]
        rw [not_or] at hspecial
        rw [Json.splitString_plain hspecial.2 hspecial.1 (Nat.not_lt.mpr hc.1), ih htoken]
        rfl

theorem unescape_escaped (token : CString) {fuel : Nat} (h : (token.flatMap jsonEscaped).length ≤ fuel) :
    Json.unescape fuel (token.flatMap jsonEscaped) = some token := by
  induction token generalizing fuel with
  | nil => cases fuel <;> rfl
  | cons c token ih =>
      rw [List.flatMap_cons] at h ⊢
      by_cases hspecial : c = '\\' ∨ c = '"'
      · rw [jsonEscaped_special hspecial, List.cons_append, List.singleton_append] at h ⊢
        rw [List.length_cons, List.length_cons] at h
        obtain ⟨fuel, rfl⟩ := Nat.exists_eq_add_one.mpr (Nat.lt_of_lt_of_le (Nat.succ_pos _) h)
        have hletter : Json.shortEscape c = some c := by
          obtain rfl | rfl := hspecial <;> rfl
        unfold Json.unescape
        rw [if_neg (not_not.mpr rfl)]
        dsimp only
        rw [hletter]
        dsimp only
        rw [ih (by omega)]
        rfl
      · rw [jsonEscaped_plain hspecial, List.singleton_append] at h ⊢
        rw [List.length_cons] at h
        obtain ⟨fuel, rfl⟩ := Nat.exists_eq_add_one.mpr (Nat.lt_of_lt_of_le (Nat.succ_pos _) h)
        rw [not_or] at hspecial
        unfold Json.unescape
        rw [if_pos hspecial.1, ih (by omega)]
        rfl

theorem standsFor_quoted (token : PrintableText) : StandsFor (jsonQuoted token.val) (.string token.val) := by
  intro t _
  refine ⟨t, ?_, rfl⟩
  have htext : jsonQuoted token.val ++ t = '"' :: (token.val.flatMap jsonEscaped ++ '"' :: t) := by
    unfold jsonQuoted
    rw [List.cons_append, List.append_assoc]
    rfl
  rw [htext, Json.reads_string]
  refine ⟨token.val, ?_, rfl⟩
  unfold Json.readString
  rw [splitString_escaped token.property, Option.bind_some, unescape_escaped token.val le_rfl]
  rfl

/-- No document begins with a closing bracket. -/
theorem head_of_reads {s rest : CString} (h : Json.Reads s document rest) : (Json.skipSpace s).head? ≠ some ']' := by
  intro hhead
  obtain ⟨fuel, hread⟩ := h
  cases fuel with
  | zero => cases hread
  | succ fuel =>
      cases hskip : Json.skipSpace s with
      | nil =>
          rw [hskip] at hhead
          cases hhead
      | cons c more =>
          rw [hskip] at hhead
          cases hhead
          unfold Json.readValue at hread
          rw [hskip] at hread
          cases hread

theorem seqReads_commaSeparated {texts : List CString} {documents : List Json} (h : List.Forall₂ StandsFor texts documents)
    (hne : texts ≠ []) (t : CString) :
    Json.SeqReads Json.Reads ']' (commaSeparated texts ++ ']' :: t) documents t := by
  induction h with
  | nil => exact absurd rfl hne
  | @cons text document texts documents hfirst hrest ih =>
      cases hrest with
      | nil =>
          obtain ⟨rest, hreads, hskip⟩ := hfirst (']' :: t) (Json.stopsNumber_cons (by decide) t)
          exact .last hreads (hskip.trans rfl)
      | @cons other document' texts documents hother hothers =>
          have htext : commaSeparated (text :: other :: texts) ++ ']' :: t =
              text ++ ',' :: (commaSeparated (other :: texts) ++ ']' :: t) := by
            show text ++ ',' :: commaSeparated (other :: texts) ++ ']' :: t = _
            rw [List.append_assoc]
            rfl
          obtain ⟨rest, hreads, hskip⟩ :=
            hfirst (',' :: (commaSeparated (other :: texts) ++ ']' :: t)) (Json.stopsNumber_cons (by decide) _)
          rw [htext]
          exact .more hreads (hskip.trans rfl) (ih (List.cons_ne_nil _ _))

/-- A list of texts is read as the array of their documents. -/
theorem parse_listText {texts : List CString} {documents : List Json} (h : List.Forall₂ StandsFor texts documents) :
    Json.parse (listText texts) = some (.array documents) := by
  rw [Json.parse_eq_some_iff]
  refine ⟨[], Json.reads_array.mpr ⟨documents, rfl, ?_⟩, rfl⟩
  cases h with
  | nil => exact .inl ⟨rfl, rfl⟩
  | cons hfirst hrest =>
      have hseq := seqReads_commaSeparated (.cons hfirst hrest) (List.cons_ne_nil _ _) []
      refine .inr ⟨?_, hseq⟩
      cases hseq with
      | last helement hclose => exact head_of_reads helement
      | more helement hcomma hothers => exact head_of_reads helement

theorem standsFor_reports (hprints : PrintsReports toJsonString spaces) {asked : Nat} {tokens : List CString}
    (hreports : reportsOf spaces asked tokens = some reports) :
    List.Forall₂ StandsFor (reportTexts toJsonString reports) (reports.map SpaceReport.document) := by
  induction tokens generalizing asked reports with
  | nil =>
      cases hreports
      exact .nil
  | cons token tokens ih =>
      unfold reportsOf at hreports
      cases hmd : spaces.getspacemd asked token with
      | error e =>
          rw [hmd] at hreports
          cases hreports
      | ok md =>
          rw [hmd] at hreports
          obtain ⟨others, hothers, rfl⟩ := Option.map_eq_some_iff.mp hreports
          exact .cons (standsFor_of_parse (hprints asked token md hmd).2) (ih hothers)

theorem standsFor_tokens (tokens : List PrintableText) :
    List.Forall₂ StandsFor (tokens.map fun token => jsonQuoted token.val) (tokens.map fun token => .string token.val) := by
  induction tokens with
  | nil => exact .nil
  | cons token tokens ih => exact .cons (standsFor_quoted token) ih

/-- A list of tokens that fits the buffer is written whole. -/
theorem gfalSrmSpaceList_wrote {tokens : List PrintableText} (htokens : spaces.getspacetokens none = .ok tokens)
    {buff : Buffer} (hroom : (listText (tokens.map fun token => jsonQuoted token.val)).length < buff.length) :
    ∃ result next, gfalSrmSpaceList spaces buff = some (result, next) ∧ result.err = none ∧
      listText (tokens.map fun token => jsonQuoted token.val) ++ [nul] <+: next := by
  have hstart : (⟨buff, 0⟩ : JsonWriter).Wrote buff.length [] := ⟨rfl, List.nil_prefix, rfl⟩
  have hitems : (tokens.map fun token => jsonQuoted token.val) = (tokens.map Subtype.val).map jsonQuoted := by
    rw [List.map_map]
    rfl
  rw [hitems] at hroom ⊢
  obtain ⟨first, hput, hfirst⟩ := jsonPutc_wrote '[' hstart (Nat.lt_of_le_of_lt (Nat.zero_le _) hroom)
  obtain ⟨listed, hlisted, hcommas⟩ := putTokens_wrote (tokens.map Subtype.val) hfirst (length_commaEnded_le hroom)
  obtain ⟨next, hend, hnext⟩ := jsonEnd_listed hcommas hroom
  refine ⟨⟨next.offset, none⟩, next.buff, ?_, rfl, hnext.content⟩
  unfold gfalSrmSpaceList
  rw [htokens]
  dsimp only
  rw [hput]
  dsimp only [Option.bind_eq_bind, Option.bind_some]
  rw [hlisted]
  dsimp only [Option.bind_some]
  rw [hend]
  rfl

/-- A list of reports that fits the buffer is written whole. -/
theorem gfalSrmSpaceTokenDescrInfo_wrote (hprints : PrintsReports toJsonString spaces) {tokenDesc : CString}
    {tokens : List PrintableText}
    (htokens : spaces.getspacetokens (some tokenDesc) = .ok tokens)
    (hreports : reportsOf spaces 0 (tokens.map Subtype.val) = some reports) {buff : Buffer}
    (hroom : (listText (reportTexts toJsonString reports)).length < buff.length) :
    ∃ result next, gfalSrmSpaceTokenDescrInfo toJsonString spaces tokenDesc buff = some (result, next) ∧
      result.err = none ∧ listText (reportTexts toJsonString reports) ++ [nul] <+: next := by
  have hstart : (⟨buff, 0⟩ : JsonWriter).Wrote buff.length [] := ⟨rfl, List.nil_prefix, rfl⟩
  obtain ⟨first, hput, hfirst⟩ := jsonPutc_wrote '[' hstart (Nat.lt_of_le_of_lt (Nat.zero_le _) hroom)
  obtain ⟨listed, hlisted, hcommas⟩ := putReports_wrote hprints hreports hfirst (length_commaEnded_le hroom)
  obtain ⟨next, hend, hnext⟩ := jsonEnd_listed hcommas hroom
  refine ⟨⟨next.offset, none⟩, next.buff, ?_, rfl, hnext.content⟩
  unfold gfalSrmSpaceTokenDescrInfo
  rw [htokens]
  dsimp only
  rw [hput]
  dsimp only [Option.bind_eq_bind, Option.bind_some]
  rw [hlisted]
  dsimp only [Option.bind_some]
  rw [hend]
  rfl

/-- What an attribute describes is written whole where it fits the buffer, and is read back from there. -/
theorem gfalSrmSpaceProperty_wrote (hprints : PrintsReports toJsonString spaces) {name : CString} {text : CString}
    (hdescribed : spaceDescribed toJsonString spaces name = some (text, document)) {buff : Buffer}
    (hroom : text.length < buff.length) :
    (∃ result next, gfalSrmSpaceProperty toJsonString spaces name buff = some (result, next) ∧ result.err = none ∧
      text ++ [nul] <+: next) ∧ Json.parse text = some document := by
  unfold spaceDescribed at hdescribed
  unfold gfalSrmSpaceProperty
  dsimp only at hdescribed
  by_cases hname : name = []
  · rw [if_pos hname] at hdescribed ⊢
    cases htokens : spaces.getspacetokens none with
    | error e =>
        rw [htokens] at hdescribed
        cases hdescribed
    | ok tokens =>
        rw [htokens] at hdescribed
        cases hdescribed
        exact ⟨gfalSrmSpaceList_wrote htokens hroom, parse_listText (standsFor_tokens tokens)⟩
  rw [if_neg hname] at hdescribed ⊢
  by_cases htoken : strncmp name (lit "token?") 6 = 0
  · rw [if_pos htoken] at hdescribed ⊢
    cases hmd : spaces.getspacemd 0 (name.drop 6) with
    | error e =>
        rw [hmd] at hdescribed
        cases hdescribed
    | ok md =>
        rw [hmd] at hdescribed
        cases hdescribed
        have hstart : (⟨buff, 0⟩ : JsonWriter).Wrote buff.length [] := ⟨rfl, List.nil_prefix, rfl⟩
        obtain ⟨next, hinfo, -, hcontent⟩ :=
          gfalSrmSpaceTokenInfo_wrote hprints hmd hstart (by rw [List.length_nil, Nat.zero_add]; exact hroom)
        exact ⟨⟨_, next, hinfo, rfl, hcontent⟩, (hprints 0 _ md hmd).2⟩
  rw [if_neg htoken] at hdescribed ⊢
  by_cases hdescription : strncmp name (lit "description?") 12 = 0
  · rw [if_pos hdescription] at hdescribed ⊢
    cases htokens : spaces.getspacetokens (some (name.drop 12)) with
    | error e =>
        rw [htokens] at hdescribed
        cases hdescribed
    | ok tokens =>
        rw [htokens] at hdescribed
        obtain ⟨reports, hreports, heq⟩ := Option.map_eq_some_iff.mp hdescribed
        cases heq
        exact ⟨gfalSrmSpaceTokenDescrInfo_wrote hprints htokens hreports hroom,
          parse_listText (standsFor_reports hprints hreports)⟩
  · rw [if_neg hdescription] at hdescribed
    cases hdescribed

/-- Of an empty list of tokens that is told by an error nothing is written. -/
theorem gfalSrmSpaceList_noTokens (hnone : spaces.NoTokens) (buff : Buffer) : gfalSrmSpaceList spaces buff = some (⟨0, none⟩, buff) := by
  obtain ⟨e, htokens, hcode⟩ := hnone
  rw [gfalSrmSpaceList, htokens]
  exact if_pos hcode

/-- An attribute of spaces touches nothing beyond the buffer and returns no more than its size; what it describes is, where the text
fits, a string of JSON whose document is the array of the tokens or of the reports; and an error that is taken for an empty list of
tokens leaves the buffer as it was. -/
theorem space_reports_well_formed (toJsonString : Json → CString) (spaces : SrmSpaces) (name : CString) (buff : Buffer)
    (hprints : PrintsReports toJsonString spaces) (hbuff : 1 ≤ buff.length) :
    ∃ result next, gfalSrmSpaceProperty toJsonString spaces name buff = some (result, next) ∧
      next.length = buff.length ∧ result.val ≤ buff.length ∧
      (∀ text document, spaceDescribed toJsonString spaces name = some (text, document) → text.length < buff.length →
        result.err = none ∧ text ++ [nul] <+: next ∧ Json.parse text = some document) ∧
      (name = [] → spaces.NoTokens → result = ⟨0, none⟩ ∧ next = buff) := by
  obtain ⟨result, next, hrun, hlength, hle⟩ := gfalSrmSpaceProperty_inside name hbuff
  refine ⟨result, next, hrun, hlength, hle, fun text document hdescribed hroom => ?_, fun hname hnone => ?_⟩
  · obtain ⟨⟨result', next', hrun', herr, hcontent⟩, hparse⟩ := gfalSrmSpaceProperty_wrote hprints hdescribed hroom
    rw [hrun] at hrun'
    cases hrun'
    exact ⟨herr, hcontent, hparse⟩
  · rw [gfalSrmSpaceProperty, if_pos hname, gfalSrmSpaceList_noTokens hnone] at hrun
    cases hrun
    exact ⟨rfl, rfl⟩

/-- A user without a token is told nothing, not even an empty list. -/
theorem empty_space_list_unwritten :
    ∃ spaces : SrmSpaces, spaces.getspacetokens none = .error ⟨srmQuark, EINVAL, lit "No user space tokens"⟩ ∧
      ∀ toJsonString, gfalSrmSpaceProperty toJsonString spaces [] (lit "xxx") = some (⟨0, none⟩, lit "xxx") ∧
        ¬['[', ']', nul] <+: lit "xxx" :=
  ⟨⟨fun _ => .error ⟨srmQuark, EINVAL, lit "No user space tokens"⟩, fun _ _ => .error ⟨srmQuark, EINVAL, []⟩⟩, rfl,
    fun _ => ⟨rfl, by decide⟩⟩

def emptySpace : SrmSpacemd := ⟨none, none, ⟨0, by decide⟩, ⟨0, by decide⟩, ⟨0, by decide⟩, 0, 0, 0, 0⟩

/-- A member of an empty space, and what follows it. -/
def zeroMember (key rest : CString) : CString := ' ' :: '"' :: (key ++ '"' :: ':' :: ' ' :: '0' :: rest)

def emptySpaceText : CString :=
  '\x7b' :: zeroMember (lit "totalsize") (',' :: zeroMember (lit "unusedsize") (',' :: zeroMember (lit "usedsize")
    (',' :: zeroMember (lit "guaranteedsize") (',' :: zeroMember (lit "lifetimeassigned")
      (',' :: zeroMember (lit "lifetimeleft") [' ', '\x7d'])))))

theorem reads_zero {c : Char} (hc : Json.isNumberChar c = false) (rest : CString) :
    Json.Reads (' ' :: '0' :: c :: rest) (.number ['0']) (c :: rest) := by
  rw [Json.reads_blank (by decide)]
  refine ⟨1, ?_⟩
  show Json.readNumber ('0' :: c :: rest) = _
  have htake : ('0' :: c :: rest).takeWhile Json.isNumberChar = ['0'] := by
    rw [List.takeWhile_cons_of_pos (by decide), List.takeWhile_cons_of_neg (by rw [hc]; decide)]
  have hdrop : ('0' :: c :: rest).dropWhile Json.isNumberChar = c :: rest := by
    rw [List.dropWhile_cons_of_pos (by decide), List.dropWhile_cons_of_neg (by rw [hc]; decide)]
  unfold Json.readNumber
  rw [htake, hdrop, if_pos (by decide)]

theorem seqReads_zeroMember {key : CString} (hkey : Json.Plain key) {after rest : CString} {c : Char}
    {others : List (CString × Json)} (hc : Json.isNumberChar c = false)
    (h : others = [] ∧ Json.skipSpace (c :: after) = '\x7d' :: rest ∨
      ∃ s, Json.skipSpace (c :: after) = ',' :: s ∧ Json.SeqReads Json.MemberReads '\x7d' s others rest) :
    Json.SeqReads Json.MemberReads '\x7d' (zeroMember key (c :: after)) ((key, .number ['0']) :: others) rest := by
  unfold zeroMember
  rw [Json.SeqReads.blank fun _ _ => Json.memberReads_blank (by decide), Json.seqReads_member hkey]
  exact ⟨rfl, _, reads_zero hc after, h⟩

theorem parse_emptySpaceText : Json.parse emptySpaceText = some emptySpace.report.document := by
  rw [Json.parse_eq_some_iff]
  have hmembers := @seqReads_zeroMember (lit "lifetimeleft") (by unfold Json.Plain; decide) ['\x7d'] [] ' ' []
    (by decide) (.inl ⟨rfl, rfl⟩)
  have hmembers := @seqReads_zeroMember (lit "lifetimeassigned") (by unfold Json.Plain; decide) _ [] ',' _
    (by decide) (.inr ⟨_, rfl, hmembers⟩)
  have hmembers := @seqReads_zeroMember (lit "guaranteedsize") (by unfold Json.Plain; decide) _ [] ',' _
    (by decide) (.inr ⟨_, rfl, hmembers⟩)
  have hmembers := @seqReads_zeroMember (lit "usedsize") (by unfold Json.Plain; decide) _ [] ',' _
    (by decide) (.inr ⟨_, rfl, hmembers⟩)
  have hmembers := @seqReads_zeroMember (lit "unusedsize") (by unfold Json.Plain; decide) _ [] ',' _
    (by decide) (.inr ⟨_, rfl, hmembers⟩)
  have hmembers := @seqReads_zeroMember (lit "totalsize") (by unfold Json.Plain; decide) _ [] ',' _
    (by decide) (.inr ⟨_, rfl, hmembers⟩)
  exact ⟨[], Json.reads_object.mpr ⟨_, rfl, .inr ⟨by decide, hmembers⟩⟩, rfl⟩

/-- One space with two tokens. -/
def oneSpace : SrmSpaces where
  getspacetokens _ := .ok [⟨lit "a\"b", by decide⟩, ⟨lit "c\\", by decide⟩]
  getspacemd _ _ := .ok emptySpace

theorem oneSpace_printed : PrintsReports (fun _ => emptySpaceText) oneSpace := by
  intro asked token md hmd
  cases hmd
  exact ⟨by decide, parse_emptySpaceText⟩

theorem space_reports_well_formed_two :
    ∃ result next, gfalSrmSpaceProperty (fun _ => emptySpaceText) oneSpace (lit "description?d")
        (List.replicate 300 'x') = some (result, next) ∧
      next.length = 300 ∧ result.val ≤ 300 ∧ result.err = none ∧
      listText [emptySpaceText, emptySpaceText] ++ [nul] <+: next ∧
      Json.parse (listText [emptySpaceText, emptySpaceText]) =
        some (.array [emptySpace.report.document, emptySpace.report.document]) := by
  have hlong : (List.replicate 300 'x').length = 300 := List.length_replicate
  obtain ⟨result, next, hrun, hlength, hle, htext, -⟩ :=
    space_reports_well_formed (fun _ => emptySpaceText) oneSpace (lit "description?d") (List.replicate 300 'x')
      oneSpace_printed (by rw [hlong]; decide)
  rw [hlong] at hlength hle htext
  have hdescribed : spaceDescribed (fun _ => emptySpaceText) oneSpace (lit "description?d") =
      some (listText [emptySpaceText, emptySpaceText],
        .array [emptySpace.report.document, emptySpace.report.document]) := by
    unfold spaceDescribed
    rfl
  obtain ⟨herr, hcontent, hparse⟩ := htext _ _ hdescribed (by decide +kernel)
  exact ⟨result, next, hrun, hlength, hle, herr, hcontent, hparse⟩

end Gfal2
