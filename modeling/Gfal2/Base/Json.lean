import Gfal2.Base.CString

/-! JSON documents. A number is known by its text, and the members of an object stand in the order in which
they were read. -/

namespace Base

inductive Json where
  | null
  | bool (value : Bool)
  | number (text : CString)
  | string (value : CString)
  | array (items : List Json)
  | object (members : List (CString × Json))
  deriving Inhabited

namespace Json

/-- The member of an object under a key, of which nothing else has any. -/
def member (document : Json) (key : CString) : Option Json :=
  match document with
  | .object members => members.lookup key
  | _ => none

end Json

end Base
