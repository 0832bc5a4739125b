import Gfal2.Base.PosixRegex
import Gfal2.Error

/-! Parsing and joining of URIs: one expression takes the URI apart, a second one its authority. The
second is not anchored at its end. The classes contain the letters in both cases, so that the flag to
ignore case changes nothing. -/

namespace Gfal2

open Base

/-- `struct gfal2_uri`: a component that is not there is not the same as an empty one. -/
structure Gfal2Uri where
  scheme : Option CString := none
  userinfo : Option CString := none
  host : Option CString := none
  port : Nat := 0
  path : Option CString := none
  query : Option CString := none
  fragment : Option CString := none
  original : CString
  deriving DecidableEq

def noneOf (chars : CString) (c : Char) : Bool := !chars.contains c

def schemeRegex : Regex Char :=
  .opt (.group 1 (.seq (.group 2 (.plus (.cls (noneOf (lit ":/?#"))))) (.chr ':')))

def slashesRegex : Regex Char :=
  .opt (.group 3 (.seq (.chr '/') (.seq (.chr '/') (.group 4 (.star (.cls (noneOf (lit "/?#"))))))))

def pathRegex : Regex Char := .group 5 (.star (.cls (noneOf (lit "?#"))))

def queryRegex : Regex Char := .opt (.group 6 (.seq (.chr '?') (.group 7 (.star (.cls (noneOf (lit "#")))))))

def fragmentRegex : Regex Char := .opt (.group 8 (.seq (.chr '#') (.group 9 (.star (.cls fun _ => true)))))

/-- `^(([^:/?#]+):)?(//([^/?#]*))?([^?#]*)(\?([^#]*))?(#(.*))?` -/
def uriRegex : Regex Char :=
  .seq schemeRegex (.seq slashesRegex (.seq pathRegex (.seq queryRegex fragmentRegex)))

/-- `[-_[:alnum:]]` -/
def isWord (c : Char) : Bool := c = '-' || c = '_' || c.isAlphanum

/-- `([[:alnum:]][-_[:alnum:]]*(\.[-_[:alnum:]]+)*)` -/
def nameRegex : Regex Char :=
  .group 4 (.seq (.cls Char.isAlphanum) (.seq (.star (.cls isWord))
    (.star (.group 5 (.seq (.chr '.') (.plus (.cls isWord)))))))

/-- `(\[[a-zA-Z0-9:]+\])` -/
def bracketRegex : Regex Char :=
  .group 6 (.seq (.chr '[') (.seq (.plus (.cls fun c => c.isAlphanum || c = ':')) (.chr ']')))

def userinfoRegex : Regex Char := .opt (.group 1 (.seq (.group 2 (.star (.cls (noneOf (lit "@"))))) (.chr '@')))

def hostRegex : Regex Char := .opt (.group 3 (.alt nameRegex bracketRegex))

def portRegex : Regex Char := .opt (.group 7 (.seq (.chr ':') (.plus (.cls Char.isDigit))))

/-- `^(([^@]*)@)?(([[:alnum:]][-_[:alnum:]]*(\.[-_[:alnum:]]+)*)|(\[[a-zA-Z0-9:]+\]))?(:[[:digit:]]+)?` -/
def authorityRegex : Regex Char := .seq userinfoRegex (.seq hostRegex portRegex)

def strdupmatch (str : CString) (m : Regmatch) : Option CString :=
  if m.rmSo < 0 then none else some ((str.drop m.rmSo.toNat).take (m.rmEo - m.rmSo).toNat)

def isSpace (c : Char) : Bool := c = ' ' || ('\t' ≤ c && c ≤ '\r')

/-- The digits at the beginning of the string as a number. -/
def digitsValue (s : CString) : Nat := Nat.ofDigitChars 10 (s.takeWhile Char.isDigit) 0

/-- `atol`, which saturates. -/
def atol (s : CString) : Int :=
  match s.dropWhile isSpace with
  | '-' :: rest => max (-2 ^ 63) (-digitsValue rest)
  | '+' :: rest => min (2 ^ 63 - 1) (digitsValue rest)
  | rest => min (2 ^ 63 - 1) (digitsValue rest)

/-- The conversion of a `long` to `unsigned`. -/
def toUInt32 (n : Int) : Nat := (n % 2 ^ 32).toNat

abbrev scopeUri : GQuark := lit "Gfal::Uri_util"

/-- The authority is taken apart as far as the expression matches it. -/
def parseAuthority (parsed : Gfal2Uri) (authority : CString) : Ret (Option Gfal2Uri) :=
  match authorityRegex.regexec authority with
  | none => ⟨none, some (gfal2SetError scopeUri EINVAL (lit "Could not match the authority: No match"))⟩
  | some authmatch =>
      let port := if (authmatch 7).rmSo > -1 then toUInt32 (atol (authority.drop ((authmatch 7).rmSo + 1).toNat))
        else parsed.port
      ⟨some { parsed with
        userinfo := strdupmatch authority (authmatch 2)
        host := strdupmatch authority (authmatch 3)
        port := port }, none⟩

def gfal2ParseUri (uri : CString) : Ret (Option Gfal2Uri) :=
  match uriRegex.regexec uri with
  | none => ⟨none, some (gfal2SetError scopeUri EINVAL (lit "Could not match the uri: No match"))⟩
  | some pmatch =>
      let parsed : Gfal2Uri :=
        { scheme := strdupmatch uri (pmatch 2)
          path := strdupmatch uri (pmatch 5)
          query := strdupmatch uri (pmatch 7)
          fragment := strdupmatch uri (pmatch 9)
          original := uri }
      if (pmatch 4).rmSo < 0 then ⟨some parsed, none⟩
      else if (pmatch 4).rmSo = (pmatch 4).rmEo then ⟨some { parsed with host := some [] }, none⟩
      else
        match strdupmatch uri (pmatch 4) with
        | none => ⟨none, none⟩
        | some authority => parseAuthority parsed authority

/-- `%d`. -/
def showInt (n : Int) : CString :=
  if n < 0 then '-' :: Nat.toDigits 10 n.natAbs else Nat.toDigits 10 n.toNat

/-- `snprintf(port, 12, ":%d", port)`: the number is taken as signed, and cut after eleven characters. -/
def portText (port : Nat) : CString := (':' :: showInt (Int.bmod port (2 ^ 32))).take 11

/-- A component with the text around it, if it is there. -/
def component (before : CString) (text : Option CString) (after : CString) : CString :=
  match text with
  | some text => before ++ text ++ after
  | none => []

/-- The strings of `str_array`, in the order in which `_push_component` stores them. -/
def uriComponents (uri : Gfal2Uri) : List CString :=
  uri.scheme.elim [] (fun scheme => [scheme, lit "://"]) ++ uri.userinfo.elim [] (fun userinfo => [userinfo, lit "@"]) ++
    uri.host.toList ++ (if uri.port ≠ 0 then [portText uri.port] else []) ++ uri.path.toList ++
    uri.query.elim [] (fun query => [lit "?", query]) ++ uri.fragment.elim [] (fun fragment => [lit "#", fragment])

/-- `gchar *str_array[11]` holds the components and a `NULL`. Where there are eleven of them, the `NULL` is stored behind it. -/
def gfal2JoinUri (uri : Gfal2Uri) : Option CString :=
  if (uriComponents uri).length < 11 then some (uriComponents uri).flatten else none

/-- There is something of every kind to be joined. -/
def Gfal2Uri.HasAll (uri : Gfal2Uri) : Prop :=
  (uri.scheme ≠ none ∧ uri.userinfo ≠ none ∧ uri.host ≠ none ∧ uri.port ≠ 0) ∧
    uri.path ≠ none ∧ uri.query ≠ none ∧ uri.fragment ≠ none

theorem uriComponents_length_iff (uri : Gfal2Uri) : 11 ≤ (uriComponents uri).length ↔ uri.HasAll := by
  rcases uri with ⟨_ | scheme, _ | userinfo, _ | host, port, _ | path, _ | query, _ | fragment, original⟩ <;>
    by_cases hport : port = 0 <;> simp [uriComponents, Gfal2Uri.HasAll, hport]

theorem flatten_uriComponents (uri : Gfal2Uri) :
    (uriComponents uri).flatten = component [] uri.scheme (lit "://") ++ component [] uri.userinfo (lit "@") ++
      component [] uri.host [] ++ (if uri.port ≠ 0 then portText uri.port else []) ++ component [] uri.path [] ++
      component (lit "?") uri.query [] ++ component (lit "#") uri.fragment [] := by
  rcases uri with ⟨_ | scheme, _ | userinfo, _ | host, port, _ | path, _ | query, _ | fragment, original⟩ <;>
    by_cases hport : port = 0 <;> simp [uriComponents, component, hport]

theorem gfal2JoinUri_eq_some_iff {uri : Gfal2Uri} {text : CString} :
    gfal2JoinUri uri = some text ↔ ¬uri.HasAll ∧ (uriComponents uri).flatten = text := by
  rw [gfal2JoinUri, ← uriComponents_length_iff, not_le]
  split
  case isTrue hroom => simp [hroom]
  case isFalse hroom => simp [hroom]

end Gfal2
