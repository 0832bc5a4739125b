import Gfal2.CredMapping
import Gfal2.HttpCopyMode
import Gfal2.SrmUrl

/-! What the operations of the XRootD plugin share: the URLs they hand to XRootD, with the credentials and the settings in their
query, and small text helpers. What `XrdCl::URL` makes of a text is a parameter. -/

namespace Gfal2

open Base

abbrev xrootdDomain : GQuark := lit "xroot"
abbrev xrootdConfigGroup : CString := lit "XROOTD PLUGIN"

/-- What the plugin reads of its context, with the keys there are in its part of the configuration, and what joining returns where
it stores behind its array. -/
structure XrootdContext where
  config : Config := {}
  credMapping : CredMapping := []
  optKeys : List CString := []
  overrun : Gfal2Uri → CString := fun _ => []

/-- `XrdCl::URL`: the path of a URL, the path with its parameters, and the URL without its path. -/
structure XrdUrls where
  path : CString → CString
  pathWithParams : CString → CString
  endpoint : CString → CString

/-- A status that is not OK, as far as it is told: the `errno` value it is mapped to, and its text. -/
structure XrdStatus where
  errno : Int
  text : CString
  deriving DecidableEq

section Urls

variable (context : XrootdContext)

/-- The credentials in the query: a certificate that is its own key is taken for a proxy. -/
def credentialArgs (url : CString) : List CString :=
  match (gfal2CredGet context.credMapping context.config.optString (lit "X509_CERT") url).value with
  | none => []
  | some ucert =>
      let ukey := (gfal2CredGet context.credMapping context.config.optString (lit "X509_KEY") url).value.getD ucert
      if ucert = ukey then [lit "xrd.gsiusrpxy=" ++ ucert]
      else [lit "xrd.gsiusrcrt=" ++ ucert ++ lit "&xrd.gsiusrkey=" ++ ukey]

/-- The settings in the query. -/
def additionalArgs : List CString :=
  (context.optKeys.filter fun key => (lit "XRD.").isPrefixOf key).map fun key =>
    key.map Char.toLower ++ lit "=" ++
      (gfal2GetOptStringWithDefault context.config xrootdConfigGroup key []).map fun c => if c = ';' then ',' else c

def queryArgs (url : CString) : CString := (lit "&").intercalate (credentialArgs context url ++ additionalArgs context)

def fillQuery (url : CString) (uri : Gfal2Uri) : Gfal2Uri :=
  let args := queryArgs context url
  if args = [] then uri
  else { uri with query := some (uri.query.elim args fun query => query ++ lit "&" ++ args) }

/-- `normalize_path`: the path starts with three slashes, or with two before one that starts with none. -/
def normalizePath (uri : Gfal2Uri) : Gfal2Uri :=
  { uri with path := some (match uri.path with
    | none => lit "///"
    | some path =>
        if (lit "///").isPrefixOf path then path
        else if (lit "//").isPrefixOf path then lit "/" ++ path
        else lit "//" ++ path) }

/-- The URI that `prepare_url` joins, if the URL is one. -/
def preparedUri (url : CString) : Option Gfal2Uri :=
  match gfal2ParseUri url with
  | ⟨some uri, none⟩ =>
      let normalize := gfal2GetOptBooleanWithDefault context.config xrootdConfigGroup (lit "NORMALIZE_PATH") true
      let uri := fillQuery context url (if normalize then normalizePath uri else uri)
      some { uri with path := uri.path.map gfal2Urldecode }
  | _ => none

def prepareUrl (url : CString) : CString :=
  match preparedUri context url with
  | some uri => (gfal2JoinUri uri).getD (context.overrun uri)
  | none => url

end Urls

/-- The loop of `collapse_slashes`, with the characters that were stored so far, the last of them first. -/
def collapseStored : CString → CString → CString
  | stored, [] => stored.reverse
  | stored, c :: rest =>
      if stored.head? ≠ some '/' ∨ c ≠ '/' then collapseStored (c :: stored) rest else collapseStored stored rest

/-- `collapse_slashes`, which steps over the first character without looking whether there is one. -/
def collapseSlashes {S : Type} : CString → Exec S Fault CString
  | [] => Exec.fault .outOfRange
  | c :: rest => pure (collapseStored [c] rest)

def predefinedChecksumTypeToLower (type : CString) : CString :=
  let lowerForm := type.map Char.toLower
  if lowerForm = lit "adler32" ∨ lowerForm = lit "crc32" ∨ lowerForm = lit "md5" then lowerForm else type

/-- The text of `vsnprintf` into a buffer of 256 bytes. -/
def shortText (text : CString) : CString := text.take 255

end Gfal2
