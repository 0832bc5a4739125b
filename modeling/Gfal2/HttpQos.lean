import Gfal2.Base.Buffer
import Gfal2.TapeRobustness

/-! The calls of the HTTP plugin that ask a CDMI server for classes of service. Lists are recovered from the printed JSON by
deleting its punctuation and dividing the rest at its commas. -/

namespace Gfal2

open Base

/-- What the server answers to a GET of a URI, and to a PUT of a body. -/
structure CdmiServer where
  get : CString → Except DavixError HttpAnswer
  put : CString → CString → Except DavixError HttpAnswer

/-- What a call returns, with the buffer as it leaves it. -/
structure CdmiRet where
  ret : Int
  buff : Buffer
  err : Option GError

section Answers

variable (jsonC : JsonC)

/-- The document of an answer, whose text ends at a NUL. -/
def answerDocument (answer : HttpAnswer) : Json := jsonC.tokenerParse (answer.content.takeWhile (· ≠ nul))

/-- `json_object_object_get`, null where there is no such member. -/
def jsonObjectObjectGet (document : Json) (key : CString) : Json := (document.member key).getD .null

/-- A `std::string` made of what `json_object_get_string` returns. -/
def jsonStdString (document : Json) : Except Fault CString :=
  match jsonObjectGetString jsonC document with
  | some text => return text
  | none => throw .nullString

/-- The characters that are deleted from a text. -/
def eraseAll (chars : List Char) (text : CString) : CString := text.filter (· ∉ chars)

/-- The rounds of `std::getline` with a delimiter, in the middle of a token. -/
def getlineTokens (delim : Char) (token : CString) : CString → List CString
  | [] => if token = [] then [] else [token]
  | c :: text => if c = delim then token :: getlineTokens delim [] text else getlineTokens delim (token ++ [c]) text

/-- A string without its last character. The empty string has none at that position. -/
def eraseLast (text : CString) : Except Fault CString := if text = [] then throw .outOfRange else return text.dropLast

/-- The end of the calls: the text is copied to the buffer if it fits. -/
def answerInto (buff : Buffer) (text : CString) : Except Fault CdmiRet :=
  if text.length < buff.length then
    match buff.storeAll 0 (text ++ [nul]) with
    | some buff => return ⟨text.length + 1, buff, none⟩
    | none => throw .arrayBounds
  else
    return ⟨-1, buff, some (gfal2SetError httpPluginDomain ENOMEM
      (lit "response larger than allocated buffer size [" ++ lit (toString buff.length) ++ lit "]"))⟩

/-- A request whose error is reported, and what is made of its answer. -/
def cdmiRequest (request : Except DavixError HttpAnswer) (buff : Buffer) (read : Json → Except Fault CString) :
    Except Fault CdmiRet :=
  match request with
  | .error davErr => return ⟨-1, buff, some (davix2gliberr davErr)⟩
  | .ok answer => do
      let text ← read (answerDocument jsonC answer)
      answerInto buff text

def classesUri (url type : CString) : CString := url ++ lit "/cdmi_capabilities/" ++ type

/-- The classes of the children of a document, each with its path in front. -/
def readClasses (type : CString) (info : Json) : Except Fault CString := do
  let classes ← jsonStdString jsonC (jsonObjectObjectGet info (lit "children"))
  let tokens := getlineTokens ',' [] (eraseAll ['[', ']', ' ', '"'] classes)
  eraseLast (tokens.flatMap fun token => lit "/cdmi_capabilities/" ++ type ++ lit "/" ++ token ++ lit ",")

variable (server : CdmiServer)

def gfalHttpCheckClasses (url : CString) (type : Option CString) (buff : Buffer) : Except Fault CdmiRet :=
  match type with
  | some type =>
      if type = lit "dataobject" ∨ type = lit "container" then
        cdmiRequest jsonC (server.get (classesUri url type)) buff (readClasses jsonC type)
      else return ⟨-1, buff, some (gfal2SetError httpPluginDomain EINVAL (lit "type argument should be either dataobject or container"))⟩
  | none => return ⟨-1, buff, some (gfal2SetError httpPluginDomain EINVAL (lit "type argument should be either dataobject or container"))⟩

def gfalHttpCheckFileQos (url : CString) (buff : Buffer) : Except Fault CdmiRet :=
  cdmiRequest jsonC (server.get url) buff fun info => do
    let qosClass ← jsonStdString jsonC (jsonObjectObjectGet info (lit "capabilitiesURI"))
    return eraseAll ['"'] qosClass

def gfalHttpCheckQosAvailableTransitions (qosClassUrl : CString) (buff : Buffer) : Except Fault CdmiRet :=
  cdmiRequest jsonC (server.get qosClassUrl) buff fun info => do
    let metadata := jsonObjectObjectGet info (lit "metadata")
    let transitions ← jsonStdString jsonC (jsonObjectObjectGet metadata (lit "cdmi_capabilities_allowed"))
    return eraseAll ['[', ']', ' ', '"', '\\'] transitions

def gfalHttpCheckTargetQos (url : CString) (buff : Buffer) : Except Fault CdmiRet :=
  cdmiRequest jsonC (server.get url) buff fun info => do
    let metadata := jsonObjectObjectGet info (lit "metadata")
    match jsonObjectObjectGet metadata (lit "cdmi_capabilities_target") with
    | .null => return []
    | target =>
        let targetQos ← jsonStdString jsonC target
        return eraseAll ['[', ']', ' ', '"', '\\'] targetQos

def httpCdmiCodeIsValid (code : Int) : Bool := code = 200 || code = 201 || code = 202 || code = 204

/-- The body of a request to change the class of an object. -/
def changeBody (targetQos : CString) : CString := lit "\x7b\"capabilitiesURI\":\"" ++ targetQos ++ lit "\"\x7d"

def gfalHttpChangeObjectQos (url targetQos : CString) (buff : Buffer) : Except Fault CdmiRet :=
  match server.put url (changeBody targetQos) with
  | .error davErr => return ⟨-1, buff, some (davix2gliberr davErr)⟩
  | .ok answer => if httpCdmiCodeIsValid answer.code then return ⟨0, buff, none⟩ else return ⟨-1, buff, none⟩

/-- A call for classes of service. -/
inductive CdmiCall where
  | checkClasses (url : CString) (type : Option CString)
  | checkFileQos (url : CString)
  | checkQosAvailableTransitions (qosClassUrl : CString)
  | checkTargetQos (url : CString)
  | changeObjectQos (url targetQos : CString)

def CdmiCall.run : CdmiCall → Buffer → Except Fault CdmiRet
  | checkClasses url type => gfalHttpCheckClasses jsonC server url type
  | checkFileQos url => gfalHttpCheckFileQos jsonC server url
  | checkQosAvailableTransitions qosClassUrl => gfalHttpCheckQosAvailableTransitions jsonC server qosClassUrl
  | checkTargetQos url => gfalHttpCheckTargetQos jsonC server url
  | changeObjectQos url targetQos => gfalHttpChangeObjectQos server url targetQos

end Answers

/-! ### Safety -/

section Safety

variable {jsonC : JsonC}

/-- A call comes back without a fault: it succeeds, or it returns a negative value with an error. -/
def CdmiSound (buff : Buffer) (result : Except Fault CdmiRet) : Prop :=
  ∃ returned, result = .ok returned ∧ returned.buff.length = buff.length ∧
    (0 ≤ returned.ret ∧ returned.err = none ∨ returned.ret < 0 ∧ returned.err.isSome)

theorem jsonStdString_isOk_iff (document : Json) : (∃ text, jsonStdString jsonC document = .ok text) ↔ document ≠ .null := by
  unfold jsonStdString
  cases hstring : jsonObjectGetString jsonC document with
  | none =>
      refine iff_of_false ?_ (not_not.mpr ((jsonObjectGetString_eq_none jsonC).mp hstring))
      rintro ⟨text, htext⟩
      cases htext
  | some text =>
      refine iff_of_true ⟨text, rfl⟩ fun hnull => ?_
      rw [(jsonObjectGetString_eq_none jsonC).mpr hnull] at hstring
      cases hstring

theorem answerInto_eq {buff : Buffer} {text : CString} (h : text.length < buff.length) :
    answerInto buff text = .ok ⟨text.length + 1, text ++ nul :: buff.drop (text.length + 1), none⟩ := by
  have hlength : (text ++ [nul]).length = text.length + 1 := by simp
  unfold answerInto
  rw [if_pos h, Buffer.storeAll_eq (by omega), hlength, Nat.zero_add]
  simp [pure, Except.pure]

/-- A text is written within the buffer, or not at all. -/
theorem answerInto_sound (buff : Buffer) (text : CString) : CdmiSound buff (answerInto buff text) := by
  by_cases h : text.length < buff.length
  · rw [answerInto_eq h]
    refine ⟨_, rfl, ?_, .inl ⟨by simp; omega, rfl⟩⟩
    simp only [List.length_append, List.length_cons, List.length_drop]
    omega
  · unfold answerInto
    rw [if_neg h]
    exact ⟨_, rfl, rfl, .inr ⟨Int.negSucc_lt_zero 0, rfl⟩⟩

theorem cdmiRequest_sound_iff (request : Except DavixError HttpAnswer) (buff : Buffer) (read : Json → Except Fault CString) :
    CdmiSound buff (cdmiRequest jsonC request buff read) ↔
      ∀ answer, request = .ok answer → ∃ text, read (answerDocument jsonC answer) = .ok text := by
  unfold cdmiRequest
  cases request with
  | error davErr => exact iff_of_true ⟨_, rfl, rfl, .inr ⟨Int.negSucc_lt_zero 0, rfl⟩⟩ (by simp)
  | ok answer =>
      dsimp only
      constructor
      · rintro ⟨returned, hreturned, -⟩ other hother
        cases hother
        cases hread : read (answerDocument jsonC answer) with
        | error fault =>
            rw [hread] at hreturned
            cases hreturned
        | ok text => exact ⟨text, rfl⟩
      · intro h
        obtain ⟨text, hread⟩ := h answer rfl
        rw [hread]
        exact answerInto_sound buff text

/-- The printed text of a document has a character that is not deleted from it. -/
def HasClasses (jsonC : JsonC) (document : Json) : Prop :=
  ∃ text, jsonObjectGetString jsonC document = some text ∧ ∃ c ∈ text, c ∉ ['[', ']', ' ', '"']

def CdmiCall.Answered (jsonC : JsonC) (server : CdmiServer) : CdmiCall → Prop
  | checkClasses url type => ∀ name, type = some name → name = lit "dataobject" ∨ name = lit "container" →
      ∀ answer, server.get (classesUri url name) = .ok answer →
        HasClasses jsonC (jsonObjectObjectGet (answerDocument jsonC answer) (lit "children"))
  | checkFileQos url => ∀ answer, server.get url = .ok answer →
      jsonObjectObjectGet (answerDocument jsonC answer) (lit "capabilitiesURI") ≠ .null
  | checkQosAvailableTransitions qosClassUrl => ∀ answer, server.get qosClassUrl = .ok answer →
      jsonObjectObjectGet (jsonObjectObjectGet (answerDocument jsonC answer) (lit "metadata"))
        (lit "cdmi_capabilities_allowed") ≠ .null
  | checkTargetQos _ => True
  | changeObjectQos url targetQos => ∀ answer, server.put url (changeBody targetQos) = .ok answer →
      httpCdmiCodeIsValid answer.code = true

theorem getlineTokens_eq_nil {delim : Char} {token text : CString} : getlineTokens delim token text = [] ↔ token = [] ∧ text = [] := by
  induction text generalizing token with
  | nil =>
      rw [getlineTokens]
      by_cases htoken : token = []
      · simp [htoken]
      · simp [htoken]
  | cons c text ih =>
      rw [getlineTokens]
      split
      · simp
      · rw [ih]
        simp

theorem readClasses_isOk_iff (type : CString) (info : Json) :
    (∃ text, readClasses jsonC type info = .ok text) ↔ HasClasses jsonC (jsonObjectObjectGet info (lit "children")) := by
  unfold readClasses jsonStdString HasClasses
  cases hchildren : jsonObjectGetString jsonC (jsonObjectObjectGet info (lit "children")) with
  | none =>
      refine iff_of_false ?_ (by simp)
      rintro ⟨text, htext⟩
      cases htext
  | some classes =>
      have herase : eraseAll ['[', ']', ' ', '"'] classes = [] ↔ ¬∃ c ∈ classes, c ∉ ['[', ']', ' ', '"'] := by
        simp [eraseAll]
      have hread : (∃ text, eraseLast ((getlineTokens ',' [] (eraseAll ['[', ']', ' ', '"'] classes)).flatMap fun token =>
          lit "/cdmi_capabilities/" ++ type ++ lit "/" ++ token ++ lit ",") = .ok text) ↔
            eraseAll ['[', ']', ' ', '"'] classes ≠ [] := by
        unfold eraseLast
        split
        · rename_i hnil
          refine iff_of_false ?_ ?_
          · rintro ⟨text, htext⟩
            cases htext
          · rw [List.flatMap_eq_nil_iff] at hnil
            intro hne
            obtain ⟨token, htoken⟩ := List.exists_mem_of_ne_nil _ (mt getlineTokens_eq_nil.mp fun h => hne h.2)
            simpa [lit] using hnil token htoken
        · rename_i hne
          refine iff_of_true ⟨_, rfl⟩ fun hnil => ?_
          rw [hnil] at hne
          exact hne rfl
      simp only [Option.some.injEq, exists_eq_left']
      rw [← not_not (a := ∃ c ∈ classes, c ∉ ['[', ']', ' ', '"']), ← herase]
      exact hread

/-- Characters are deleted from the text of a document that is not null. -/
theorem eraseAll_isOk_iff (chars : List Char) (document : Json) :
    (∃ text, (do let text ← jsonStdString jsonC document; return eraseAll chars text : Except Fault CString) = .ok text) ↔
      document ≠ .null := by
  rw [← jsonStdString_isOk_iff]
  cases hstring : jsonStdString jsonC document with
  | error fault =>
      constructor
      · rintro ⟨text, htext⟩
        cases htext
      · rintro ⟨text, htext⟩
        cases htext
  | ok text => exact iff_of_true ⟨_, rfl⟩ ⟨_, rfl⟩

/-- A call comes back well just where the member that it needs, or the status that it asks for, is in the answer. -/
theorem CdmiCall.sound_iff (server : CdmiServer) (call : CdmiCall) (buff : Buffer) :
    CdmiSound buff (call.run jsonC server buff) ↔ call.Answered jsonC server := by
  have hrefused : ∀ e : GError, CdmiSound buff (.ok ⟨-1, buff, some e⟩) := fun e =>
    ⟨_, rfl, rfl, .inr ⟨Int.negSucc_lt_zero 0, rfl⟩⟩
  cases call with
  | checkClasses url type =>
      unfold CdmiCall.run CdmiCall.Answered gfalHttpCheckClasses
      cases type with
      | none => exact iff_of_true (hrefused _) (by simp)
      | some name =>
          dsimp only
          split
          · rename_i hname
            rw [cdmiRequest_sound_iff]
            simp only [readClasses_isOk_iff, Option.some.injEq, forall_eq', hname, true_imp_iff]
          · rename_i hname
            refine iff_of_true (hrefused _) fun other hother hkind => ?_
            cases hother
            exact absurd hkind hname
  | checkFileQos url =>
      unfold CdmiCall.run CdmiCall.Answered gfalHttpCheckFileQos
      rw [cdmiRequest_sound_iff]
      simp only [eraseAll_isOk_iff]
  | checkQosAvailableTransitions qosClassUrl =>
      unfold CdmiCall.run CdmiCall.Answered gfalHttpCheckQosAvailableTransitions
      rw [cdmiRequest_sound_iff]
      simp only [eraseAll_isOk_iff]
  | checkTargetQos url =>
      unfold CdmiCall.run CdmiCall.Answered gfalHttpCheckTargetQos
      rw [cdmiRequest_sound_iff]
      refine iff_of_true (fun answer _ => ?_) trivial
      dsimp only
      split
      · exact ⟨_, rfl⟩
      · rename_i target hnull
        exact (eraseAll_isOk_iff _ _).mpr hnull
  | changeObjectQos url targetQos =>
      change CdmiSound buff (gfalHttpChangeObjectQos server url targetQos buff) ↔
        ∀ answer, server.put url (changeBody targetQos) = .ok answer → httpCdmiCodeIsValid answer.code = true
      unfold gfalHttpChangeObjectQos
      generalize server.put url (changeBody targetQos) = request
      cases request with
      | error davErr => exact iff_of_true (hrefused _) (by simp)
      | ok answer =>
          dsimp only
          split
          · rename_i hcode
            exact iff_of_true ⟨_, rfl, rfl, .inl ⟨Int.le_refl 0, rfl⟩⟩ (by simp [hcode])
          · rename_i hcode
            refine iff_of_false ?_ (by simp [hcode])
            rintro ⟨returned, hreturned, -, hok⟩
            cases hreturned
            simp at hok

end Safety

/-! ### Classes -/

section Classes

def slashEscaped (item : CString) : CString := item.flatMap fun c => if c = '/' then ['\\', '/'] else [c]

def printedString (item : CString) : CString := '"' :: slashEscaped item ++ ['"']

/-- How json-c prints an array of strings that have nothing to escape but slashes. -/
def PrintsArrays (jsonC : JsonC) : Prop :=
  ∀ items : List CString, (∀ item ∈ items, ∀ c ∈ item, c ≠ '"' ∧ c ≠ '\\' ∧ 0x20 ≤ c.toNat) →
    jsonC.toJsonString (.array (items.map .string)) =
      '[' :: [','].intercalate (items.map fun item => ' ' :: printedString item) ++ lit " ]"

/-- A name of a class without special characters. A slash is none. -/
def PlainClass (item : CString) : Prop := ∀ c ∈ item, c ∉ ['[', ']', ' ', '"', ',', '\\'] ∧ 0x20 ≤ c.toNat

instance (item : CString) : Decidable (PlainClass item) := inferInstanceAs (Decidable (∀ c ∈ item, _))

def classesPath (type : CString) : CString := lit "/cdmi_capabilities/" ++ type ++ lit "/"

/-- Classes, each with its path in front, separated by commas. -/
def listedClasses (type : CString) (items : List CString) : CString := [','].intercalate (items.map (classesPath type ++ ·))

variable {jsonC : JsonC} {item : CString} {pieces : List CString}

theorem eraseAll_append (chars : List Char) (a b : CString) : eraseAll chars (a ++ b) = eraseAll chars a ++ eraseAll chars b :=
  List.filter_append ..

theorem eraseAll_printedString (h : PlainClass item) :
    eraseAll ['[', ']', ' ', '"'] (' ' :: printedString item) = slashEscaped item := by
  have hkept : ∀ c ∈ slashEscaped item, decide (c ∉ ['[', ']', ' ', '"']) = true := by
    intro c hc
    obtain ⟨d, hd, hmem⟩ := List.mem_flatMap.mp hc
    have hplain := (h d hd).1
    split at hmem
    · rcases List.mem_cons.mp hmem with rfl | hmem
      · decide
      · rw [List.mem_singleton.mp hmem]
        decide
    · rw [List.mem_singleton.mp hmem]
      simp at hplain ⊢
      exact ⟨hplain.1, hplain.2.1, hplain.2.2.1, hplain.2.2.2.1⟩
  have hself := List.filter_eq_self.mpr hkept
  have htext : ' ' :: printedString item = [' ', '"'] ++ (slashEscaped item ++ ['"']) := rfl
  rw [htext, eraseAll_append, eraseAll_append]
  unfold eraseAll
  rw [hself]
  simp

/-- The printed array without its punctuation. -/
theorem eraseAll_printed {items : List CString} (h : ∀ item ∈ items, PlainClass item) :
    eraseAll ['[', ']', ' ', '"'] ('[' :: [','].intercalate (items.map fun item => ' ' :: printedString item) ++ lit " ]") =
      [','].intercalate (items.map slashEscaped) := by
  have hinner : ∀ items : List CString, (∀ item ∈ items, PlainClass item) →
      eraseAll ['[', ']', ' ', '"'] ([','].intercalate (items.map fun item => ' ' :: printedString item)) =
        [','].intercalate (items.map slashEscaped) := by
    intro items hitems
    induction items with
    | nil => rfl
    | cons item items ih =>
        obtain ⟨hitem, hrest⟩ := List.forall_mem_cons.mp hitems
        cases items with
        | nil =>
            rw [List.map_singleton, List.map_singleton, List.intercalate_singleton, List.intercalate_singleton]
            exact eraseAll_printedString hitem
        | cons next items =>
            have hcomma : eraseAll ['[', ']', ' ', '"'] [','] = [','] := by decide
            have hnext := ih hrest
            rw [List.map_cons, List.map_cons] at hnext
            rw [List.map_cons, List.map_cons, List.map_cons, List.map_cons, List.intercalate_cons_cons,
              List.intercalate_cons_cons, eraseAll_append, eraseAll_append, eraseAll_printedString hitem, hcomma, hnext]
  have hopen : ('[' : Char) :: [','].intercalate (items.map fun item => ' ' :: printedString item) ++ lit " ]" =
      ['['] ++ ([','].intercalate (items.map fun item => ' ' :: printedString item) ++ lit " ]") := rfl
  rw [hopen, eraseAll_append, eraseAll_append, hinner items h]
  simp [eraseAll, lit]

theorem getlineTokens_append {delim : Char} {token text : CString} (h : delim ∉ text) (more : CString) :
    getlineTokens delim token (text ++ more) = getlineTokens delim (token ++ text) more := by
  induction text generalizing token with
  | nil => rw [List.nil_append, List.append_nil]
  | cons c text ih =>
      obtain ⟨hc, htext⟩ := not_or.mp (mt List.mem_cons.mpr h)
      rw [List.cons_append, getlineTokens, if_neg (Ne.symm hc), ih htext, List.append_cons token c text]

/-- The rounds get all pieces but an empty one at the end. -/
theorem getlineTokens_intercalate {delim : Char} (h : ∀ piece ∈ pieces, delim ∉ piece) :
    getlineTokens delim [] ([delim].intercalate pieces) = if pieces.getLast? = some [] then pieces.dropLast else pieces := by
  induction pieces with
  | nil => rfl
  | cons piece pieces ih =>
      obtain ⟨hpiece, hpieces⟩ := List.forall_mem_cons.mp h
      cases pieces with
      | nil =>
          rw [List.intercalate_singleton, ← List.append_nil piece, getlineTokens_append hpiece, List.nil_append, List.append_nil,
            getlineTokens]
          simp
      | cons next pieces =>
          rw [List.intercalate_cons_cons, List.append_assoc, getlineTokens_append hpiece, List.nil_append, List.singleton_append,
            getlineTokens, if_pos rfl, ih hpieces, List.getLast?_cons_cons]
          split
          · rfl
          · rfl

/-- The text of the tokens with their paths in front, without the last comma. -/
theorem eraseLast_tokens {tokens : List CString} (hne : tokens ≠ []) (type : CString) :
    eraseLast (tokens.flatMap fun token => lit "/cdmi_capabilities/" ++ type ++ lit "/" ++ token ++ lit ",") =
      .ok (listedClasses type tokens) := by
  have htext : ∀ tokens : List CString, tokens ≠ [] →
      (tokens.flatMap fun token => lit "/cdmi_capabilities/" ++ type ++ lit "/" ++ token ++ lit ",") =
        listedClasses type tokens ++ [','] := by
    intro tokens hne
    induction tokens with
    | nil => exact absurd rfl hne
    | cons token tokens ih =>
        have hpiece : lit "/cdmi_capabilities/" ++ type ++ lit "/" ++ token ++ lit "," = classesPath type ++ token ++ [','] := rfl
        rw [List.flatMap_cons, hpiece]
        unfold listedClasses at ih ⊢
        cases tokens with
        | nil => rw [List.flatMap_nil, List.append_nil, List.map_singleton, List.intercalate_singleton]
        | cons next tokens =>
            rw [ih (List.cons_ne_nil _ _), List.map_cons, List.map_cons, List.map_cons, List.intercalate_cons_cons,
              List.append_assoc (classesPath type ++ token ++ [','])]
  unfold eraseLast
  rw [htext tokens hne, if_neg (by simp), List.dropLast_concat]
  rfl

theorem slashEscaped_eq (h : '/' ∉ item) : slashEscaped item = item := by
  have hkept : slashEscaped item = item.flatMap fun c => [c] := by
    refine List.flatMap_congr fun c hc => if_neg ?_
    rintro rfl
    exact h hc
  rw [hkept, List.flatMap_singleton']

theorem slashEscaped_eq_nil : slashEscaped item = [] ↔ item = [] := by
  unfold slashEscaped
  rw [List.flatMap_eq_nil_iff]
  constructor
  · intro h
    cases item with
    | nil => rfl
    | cons c item =>
        have hc := h c List.mem_cons_self
        split at hc <;> cases hc
  · rintro rfl c hc
    cases hc

theorem mem_slashEscaped {c : Char} (h : c ∈ slashEscaped item) (hc : c ≠ '/' ∧ c ≠ '\\') : c ∈ item := by
  obtain ⟨d, hd, hmem⟩ := List.mem_flatMap.mp h
  split at hmem
  · simp [hc.1, hc.2] at hmem
  · rw [List.mem_singleton.mp hmem]
    exact hd

/-- What is read of a document whose children are an array of plain strings. -/
theorem readClasses_eq (hprint : PrintsArrays jsonC) (type : CString) {info : Json} {items : List CString}
    (hinfo : jsonObjectObjectGet info (lit "children") = .array (items.map .string)) (hitems : ∀ item ∈ items, PlainClass item) :
    readClasses jsonC type info =
      if items = [] ∨ items = [[]] then .error .outOfRange
      else .ok (listedClasses type ((if items.getLast? = some [] then items.dropLast else items).map slashEscaped)) := by
  have hstring : jsonObjectGetString jsonC (.array (items.map .string)) = some (jsonC.toJsonString (.array (items.map .string))) := rfl
  have hprinted := hprint items fun item hitem c hc => by
    have hplain := hitems item hitem c hc
    simp at hplain
    exact ⟨hplain.1.2.2.2.1, hplain.1.2.2.2.2.2, hplain.2⟩
  have hcomma : ∀ piece ∈ items.map slashEscaped, ',' ∉ piece := by
    intro piece hpiece hmem
    obtain ⟨item, hitem, rfl⟩ := List.mem_map.mp hpiece
    have hplain := (hitems item hitem _ (mem_slashEscaped hmem (by decide))).1
    simp at hplain
  have hlast : (items.map slashEscaped).getLast? = some [] ↔ items.getLast? = some [] := by
    rw [List.getLast?_map, Option.map_eq_some_iff]
    simp [slashEscaped_eq_nil]
  have htokens : getlineTokens ',' [] ([','].intercalate (items.map slashEscaped)) =
      (if items.getLast? = some [] then items.dropLast else items).map slashEscaped := by
    rw [getlineTokens_intercalate hcomma]
    simp only [hlast]
    split
    · rw [List.map_dropLast]
    · rfl
  unfold readClasses jsonStdString
  rw [hinfo, hstring, hprinted]
  change eraseLast ((getlineTokens ',' [] (eraseAll ['[', ']', ' ', '"'] _)).flatMap fun token =>
    lit "/cdmi_capabilities/" ++ type ++ lit "/" ++ token ++ lit ",") = _
  rw [eraseAll_printed hitems, htokens]
  by_cases hnone : items = [] ∨ items = [[]]
  · rw [if_pos hnone]
    rcases hnone with rfl | rfl <;> rfl
  · rw [if_neg hnone]
    apply eraseLast_tokens
    obtain ⟨hsome, hempties⟩ := not_or.mp hnone
    rw [Ne, List.map_eq_nil_iff]
    split
    · rename_i hempty
      intro hnil
      obtain ⟨front, hfront⟩ := List.getLast?_eq_some_iff.mp hempty
      rw [hfront, List.dropLast_concat] at hnil
      rw [hnil] at hfront
      exact hempties hfront
    · exact hsome

theorem mem_intercalate {c : Char} {sep : CString} (h : c ∈ sep.intercalate pieces) : c ∈ sep ∨ ∃ piece ∈ pieces, c ∈ piece := by
  induction pieces with
  | nil => cases h
  | cons piece pieces ih =>
      cases pieces with
      | nil => exact .inr ⟨piece, List.mem_cons_self, by rwa [List.intercalate_singleton] at h⟩
      | cons next pieces =>
          rw [List.intercalate_cons_cons, List.mem_append, List.mem_append] at h
          rcases h with (h | h) | h
          · exact .inr ⟨piece, List.mem_cons_self, h⟩
          · exact .inl h
          · obtain hsep | ⟨found, hfound, hc⟩ := ih h
            · exact .inl hsep
            · exact .inr ⟨found, List.mem_cons_of_mem _ hfound, hc⟩

theorem mem_intercalate_of_mem {c : Char} {sep piece : CString} (hpiece : piece ∈ pieces) (hc : c ∈ piece) :
    c ∈ sep.intercalate pieces := by
  induction pieces with
  | nil => cases hpiece
  | cons first pieces ih =>
      cases pieces with
      | nil =>
          rw [List.intercalate_singleton, ← List.mem_singleton.mp hpiece]
          exact hc
      | cons next pieces =>
          rw [List.intercalate_cons_cons, List.mem_append, List.mem_append]
          rcases List.mem_cons.mp hpiece with rfl | hpiece
          · exact .inl (.inl hc)
          · exact .inr (ih hpiece)

/-- There is a comma between each two classes. -/
theorem count_listedClasses {type : CString} {items : List CString} (htype : ',' ∉ classesPath type)
    (hitems : ∀ item ∈ items, ',' ∉ item) (hne : items ≠ []) : (listedClasses type items).count ',' + 1 = items.length := by
  unfold listedClasses
  induction items with
  | nil => exact absurd rfl hne
  | cons item items ih =>
      obtain ⟨hitem, hrest⟩ := List.forall_mem_cons.mp hitems
      have hnone : (classesPath type ++ item).count ',' = 0 := by
        rw [List.count_eq_zero, List.mem_append, not_or]
        exact ⟨htype, hitem⟩
      cases items with
      | nil => rw [List.map_singleton, List.intercalate_singleton, hnone, List.length_singleton]
      | cons next items =>
          have hnext := ih hrest (List.cons_ne_nil _ _)
          rw [List.map_cons] at hnext
          rw [List.map_cons, List.map_cons, List.intercalate_cons_cons, List.count_append, List.count_append, hnone,
            List.count_singleton_self, List.length_cons, ← hnext]
          omega

/-- The classes come back in a buffer that they fit in. -/
def ReturnsClasses (jsonC : JsonC) (server : CdmiServer) (url type : CString) (items : List CString) : Prop :=
  ∀ buff : Buffer, (listedClasses type items).length < buff.length →
    gfalHttpCheckClasses jsonC server url (some type) buff =
      .ok ⟨(listedClasses type items).length + 1,
        listedClasses type items ++ nul :: buff.drop ((listedClasses type items).length + 1), none⟩

/-- Classes come back just where there are some, the last one is not empty and none has a slash. -/
theorem returnsClasses_iff (hprint : PrintsArrays jsonC) {server : CdmiServer} {url type : CString}
    (htype : type = lit "dataobject" ∨ type = lit "container") {answer : HttpAnswer}
    (hanswer : server.get (classesUri url type) = .ok answer) {items : List CString}
    (hinfo : jsonObjectObjectGet (answerDocument jsonC answer) (lit "children") = .array (items.map .string))
    (hitems : ∀ item ∈ items, PlainClass item) :
    ReturnsClasses jsonC server url type items ↔ items ≠ [] ∧ items.getLast? ≠ some [] ∧ ∀ item ∈ items, '/' ∉ item := by
  have hpath : ',' ∉ classesPath type ∧ '\\' ∉ classesPath type := by
    rcases htype with rfl | rfl <;> decide
  have hplain : ∀ item ∈ items, ',' ∉ item ∧ '\\' ∉ item := by
    intro item hitem
    constructor
    · intro hmem
      simpa using (hitems item hitem _ hmem).1
    · intro hmem
      simpa using (hitems item hitem _ hmem).1
  have hrun : ∀ buff, gfalHttpCheckClasses jsonC server url (some type) buff =
      (if items = [] ∨ items = [[]] then .error .outOfRange
        else .ok (listedClasses type ((if items.getLast? = some [] then items.dropLast else items).map slashEscaped)) :
          Except Fault CString) >>= answerInto buff := by
    intro buff
    unfold gfalHttpCheckClasses cdmiRequest
    dsimp only
    rw [if_pos htype, hanswer, ← readClasses_eq hprint type hinfo hitems]
  constructor
  · intro h
    -- a buffer that both texts fit in
    obtain ⟨listed, hlisted⟩ : ∃ listed, listed =
      listedClasses type ((if items.getLast? = some [] then items.dropLast else items).map slashEscaped) := ⟨_, rfl⟩
    have hfits := h (List.replicate ((listedClasses type items).length + listed.length + 2) ' ') (by simp; omega)
    rw [hrun, ← hlisted] at hfits
    by_cases hnone : items = [] ∨ items = [[]]
    · rw [if_pos hnone] at hfits
      cases hfits
    · obtain ⟨hne, hempties⟩ := not_or.mp hnone
      rw [if_neg hnone] at hfits
      have hanswered := hfits.symm.trans (answerInto_eq (by simp; omega))
      rw [Except.ok.injEq, CdmiRet.mk.injEq] at hanswered
      have hlength : (listedClasses type items).length = listed.length := by
        have hret := hanswered.1
        omega
      have hsame : listedClasses type items = listed := (List.append_inj hanswered.2.1 hlength).1
      rw [hlisted] at hsame
      have hlast : items.getLast? ≠ some [] := by
        intro hempty
        obtain ⟨front, rfl⟩ := List.getLast?_eq_some_iff.mp hempty
        have hfront : front ≠ [] := by
          rintro rfl
          exact hempties rfl
        have hcount := congrArg (List.count ',') hsame
        rw [if_pos hempty, List.dropLast_concat] at hcount
        have hwhole := count_listedClasses hpath.1 (fun item hitem => (hplain item hitem).1) hne
        have hescaped := @count_listedClasses type (front.map slashEscaped) hpath.1 ?_ (by simpa using hfront)
        · rw [List.length_append, List.length_singleton] at hwhole
          rw [List.length_map] at hescaped
          omega
        · intro piece hpiece hmem
          obtain ⟨item, hitem, rfl⟩ := List.mem_map.mp hpiece
          exact (hplain item (List.mem_append_left _ hitem)).1 (mem_slashEscaped hmem (by decide))
      refine ⟨hne, hlast, fun item hitem hslash => ?_⟩
      rw [if_neg hlast] at hsame
      have hescape : '\\' ∈ listedClasses type (items.map slashEscaped) := by
        refine mem_intercalate_of_mem (List.mem_map_of_mem (List.mem_map_of_mem hitem)) (List.mem_append_right _ ?_)
        exact List.mem_flatMap.mpr ⟨'/', hslash, by simp⟩
      rw [← hsame] at hescape
      obtain hcomma | ⟨piece, hpiece, hmem⟩ := mem_intercalate hescape
      · exact absurd hcomma (by decide)
      · obtain ⟨found, hfound, rfl⟩ := List.mem_map.mp hpiece
        rcases List.mem_append.mp hmem with hmem | hmem
        · exact hpath.2 hmem
        · exact (hplain found hfound).2 hmem
  · rintro ⟨hne, hlast, hslash⟩ buff hbuff
    have hempties : items ≠ [[]] := by
      rintro rfl
      exact hlast rfl
    have hsame : items.map slashEscaped = items := by
      conv_rhs => rw [← List.map_id items]
      exact List.map_congr_left fun item hitem => slashEscaped_eq (hslash item hitem)
    rw [hrun, if_neg (not_or.mpr ⟨hne, hempties⟩), if_neg hlast, hsame]
    exact answerInto_eq hbuff

end Classes

/-- The calls come back without a fault just where the member that they need, or the status that they ask for, is in the answer, and
the classes come back just where there are some, the last one is not empty and none has a slash. -/
theorem cdmi_answers_iff (jsonC : JsonC) (hprint : PrintsArrays jsonC) (server : CdmiServer) :
    (∀ (call : CdmiCall) (buff : Buffer), CdmiSound buff (call.run jsonC server buff) ↔ call.Answered jsonC server) ∧
      ∀ (url type : CString) (answer : HttpAnswer) (items : List CString), type = lit "dataobject" ∨ type = lit "container" →
        server.get (classesUri url type) = .ok answer →
          jsonObjectObjectGet (answerDocument jsonC answer) (lit "children") = .array (items.map .string) →
            (∀ item ∈ items, PlainClass item) →
              (ReturnsClasses jsonC server url type items ↔
                items ≠ [] ∧ items.getLast? ≠ some [] ∧ ∀ item ∈ items, '/' ∉ item) :=
  ⟨fun call buff => call.sound_iff server buff, fun _ _ _ _ htype hanswer hinfo hitems =>
    returnsClasses_iff hprint htype hanswer hinfo hitems⟩

def twoChildren : CString := lit "\x7b\"children\": [\"disk\", \"tape\"]\x7d"

def noChildren : CString := lit "\x7b\"children\": []\x7d"

/-- A parser of two documents, and a printer of arrays of strings. -/
def stringsJsonC : JsonC where
  tokenerParse text :=
    if text = twoChildren then .object [(lit "children", .array [.string (lit "disk"), .string (lit "tape")])]
    else if text = noChildren then .object [(lit "children", .array [])]
    else .null
  toJsonString
    | .array items => '[' :: [','].intercalate (items.map fun
        | .string item => ' ' :: printedString item
        | _ => lit " null") ++ lit " ]"
    | _ => lit "\x7b \x7d"

/-- A server that answers every request with a text. -/
def answeringCdmi (content : CString) : CdmiServer where
  get _ := .ok ⟨200, content⟩
  put _ _ := .ok ⟨200, content⟩

theorem printsArrays_stringsJsonC : PrintsArrays stringsJsonC := by
  intro items _
  unfold stringsJsonC
  dsimp only
  rw [List.map_map]
  rfl

theorem children_of_twoChildren : jsonObjectObjectGet (answerDocument stringsJsonC ⟨200, twoChildren⟩) (lit "children") =
    .array ([lit "disk", lit "tape"].map .string) := by
  have htext : twoChildren.takeWhile (· ≠ nul) = twoChildren := by decide
  unfold answerDocument stringsJsonC
  dsimp only
  rw [htext, if_pos rfl]
  rfl

theorem children_of_noChildren : jsonObjectObjectGet (answerDocument stringsJsonC ⟨200, noChildren⟩) (lit "children") = .array [] := by
  have htext : noChildren.takeWhile (· ≠ nul) = noChildren := by decide
  unfold answerDocument stringsJsonC
  dsimp only
  rw [htext, if_neg (by decide), if_pos rfl]
  rfl

theorem classes_listed : ReturnsClasses stringsJsonC (answeringCdmi twoChildren) (lit "https://h") (lit "dataobject")
    [lit "disk", lit "tape"] :=
  ((cdmi_answers_iff stringsJsonC printsArrays_stringsJsonC (answeringCdmi twoChildren)).2 (lit "https://h") (lit "dataobject") _
    [lit "disk", lit "tape"] (.inl rfl) rfl children_of_twoChildren (by decide)).mpr ⟨by decide, by decide, by decide⟩

/-- With no children a text is shortened that has no last character, and without a document a string is made of no text. -/
theorem empty_children_throw :
    gfalHttpCheckClasses stringsJsonC (answeringCdmi noChildren) (lit "https://h") (some (lit "dataobject"))
        (List.replicate 1024 nul) = .error .outOfRange ∧
      gfalHttpCheckFileQos stringsJsonC (answeringCdmi []) (lit "https://h") (List.replicate 1024 nul) = .error .nullString := by
  refine ⟨?_, rfl⟩
  unfold gfalHttpCheckClasses cdmiRequest
  dsimp only
  rw [if_pos (.inl rfl)]
  change readClasses stringsJsonC (lit "dataobject") (answerDocument stringsJsonC ⟨200, noChildren⟩) >>= answerInto _ = _
  rw [@readClasses_eq stringsJsonC printsArrays_stringsJsonC (lit "dataobject") _ [] children_of_noChildren (by simp),
    if_pos (.inl rfl)]
  rfl

end Gfal2
