import Gfal2.Uri

/-! The names the SRM plugin knows files by: SURLs in their short form or with the path behind `SFN=`, the decoded
path that is sent to the service, and the key of the cache. -/

namespace Gfal2

open Base

/-- `isxdigit` of the C locale. -/
def isxdigit (c : Char) : Bool := c.isDigit || ('a' ≤ c && c ≤ 'f') || ('A' ≤ c && c ≤ 'F')

/-- `_hex`. -/
def hexDigit (digit : Char) : Nat :=
  if digit.isDigit then digit.toNat - '0'.toNat
  else if 'A' ≤ digit ∧ digit ≤ 'F' then digit.toNat - 'A'.toNat + 10
  else if 'a' ≤ digit ∧ digit ≤ 'f' then digit.toNat - 'a'.toNat + 10
  else 0

/-- The characters `gfal2_urldecode` writes. -/
def urldecodeChars : CString → CString
  | '%' :: a :: b :: rest =>
      if isxdigit a ∧ isxdigit b then Char.ofNat (16 * hexDigit a + hexDigit b) :: urldecodeChars rest
      else '%' :: urldecodeChars (a :: b :: rest)
  | c :: rest => c :: urldecodeChars rest
  | [] => []

/-- `gfal2_urldecode`: a decoded NUL ends the string. -/
def gfal2Urldecode (str : CString) : CString := (urldecodeChars str).takeWhile (· ≠ Char.ofNat 0)

abbrev gfalPrefixSrm : CString := lit "srm://"

def srmCheckUrl (surl : CString) : Bool := surl.length < 2048 && gfalPrefixSrm.isPrefixOf surl

/-- What stands behind the first occurrence of `part`. -/
def afterFirst (part : CString) : CString → Option CString
  | [] => if part = [] then some [] else none
  | c :: rest => if part.isPrefixOf (c :: rest) then some ((c :: rest).drop part.length) else afterFirst part rest

def gfal2SrmSurlFindPath (parsed : Gfal2Uri) : Option CString :=
  match parsed.query.bind (afterFirst (lit "SFN=")) with
  | some sfn => some sfn
  | none => parsed.path

/-- `gfal2_srm_get_decoded_path`. The pieces are joined up to the first null pointer. -/
def gfal2SrmGetDecodedPath (surl : CString) : CString :=
  match gfal2ParseUri surl with
  | ⟨some parsed, none⟩ =>
      match parsed.host, gfal2SrmSurlFindPath parsed with
      | none, _ => gfalPrefixSrm
      | some host, none => gfalPrefixSrm ++ host
      | some host, some path => gfalPrefixSrm ++ host ++ gfal2Urldecode path
  | _ => surl

end Gfal2
