import Gfal2.Error

/-! Where the storage endpoints of a host are looked up: in a cache of the BDII, which is an XML document, and where that has none in the
BDII itself. What pugixml makes of a query, and what an LDAP search finds, are parameters. -/

namespace Gfal2

open Base

abbrev ENXIO : Int := 6

abbrev urlMaxLen : Nat := 2048

abbrev mdsMaxSrmEndpoint : Nat := 100

inductive MdsTypeEndpoint where
  | srmv2
  | srmv1
  | webDav
  | unknownEndpointType
  deriving DecidableEq

structure GfalMdsEndpoint where
  url : CString
  type : MdsTypeEndpoint
  deriving DecidableEq

/-- An entry of the cache that has an endpoint. Its type and its version are empty texts where they are not in it. -/
structure CacheEntry where
  endpoint : CString
  type : CString := []
  version : CString := []
  deriving DecidableEq

/-- What a query selects in a document, if it is well formed: pugixml throws where it is not. -/
abbrev SelectSingleNode : Type := List CacheEntry → CString → Option (Option CacheEntry)

/-! ### The cache -/

/-- `strcasecmp` for equality. -/
def sameText (left right : CString) : Bool := left.map Char.toLower = right.map Char.toLower

def gfalMdsCacheType (type version : CString) : MdsTypeEndpoint :=
  if sameText type (lit "srm") then
    if version.take 2 = lit "1." then .srmv1
    else if version.take 2 = lit "2." then .srmv2
    else .unknownEndpointType
  else if sameText type (lit "webdav") then .webDav
  else .unknownEndpointType

/-- What is stored of an entry: nothing without a text or a type that is known. -/
def CacheEntry.slot? (entry : CacheEntry) : Option GfalMdsEndpoint :=
  let type := gfalMdsCacheType entry.type entry.version
  if entry.endpoint ≠ [] ∧ type ≠ .unknownEndpointType then some ⟨entry.endpoint.take (urlMaxLen - 1), type⟩ else none

/-- `gfal_mds_cache_insert`. The texts of a null node are empty. -/
def gfalMdsCacheInsert (endpoints : List GfalMdsEndpoint) (index : Nat) (entry : Option CacheEntry) : List GfalMdsEndpoint :=
  if index > endpoints.length then endpoints
  else
    match (entry.getD ⟨[], [], []⟩).slot? with
    | some slot => endpoints.set index slot
    | none => endpoints

/-- The text after the first `://`. -/
def afterColonSlashes : CString → Option CString
  | [] => none
  | c :: rest => if lit "://" <+: c :: rest then some (rest.drop 2) else afterColonSlashes rest

/-- The text that is compared to a host. -/
def hostnameOf (endpoint : CString) : CString := (afterColonSlashes endpoint).getD endpoint

/-- Whether an entry is taken for one of a host. -/
def CacheEntry.begins (host : CString) (entry : CacheEntry) : Bool :=
  strncasecmp (hostnameOf entry.endpoint) host host.length = 0

/-- The query for the entry with a text. -/
def endpointQuery (endpoint : CString) : CString := lit "/entry[endpoint=\x27" ++ endpoint ++ lit "\x27]"

section Cache

variable (select : SelectSingleNode) (cache : List CacheEntry) (host : CString)

/-- The loop over the endpoints of a cache. -/
def resolveEntries : List CacheEntry → Nat → List GfalMdsEndpoint → Option (Nat × List GfalMdsEndpoint)
  | [], index, endpoints => some (index, endpoints)
  | entry :: entries, index, endpoints =>
      if index < endpoints.length then
        if entry.begins host then do
          let found ← select cache (endpointQuery entry.endpoint)
          resolveEntries entries (index + 1) (gfalMdsCacheInsert endpoints index found)
        else resolveEntries entries index endpoints
      else some (index, endpoints)

end Cache

/-- `gfal_mds_cache_resolve_endpoint`. There may be no cache, or none that can be read. -/
def gfalMdsCacheResolveEndpoint (select : SelectSingleNode) (cache : Option (List CacheEntry)) (host : CString)
    (endpoints : List GfalMdsEndpoint) : Option (Nat × List GfalMdsEndpoint) :=
  match cache with
  | none => some (0, endpoints)
  | some cache => resolveEntries select cache host cache 0 endpoints

/-! ### The BDII -/

/-- An entry of an LDAP result: its attributes with their values. -/
abbrev LdapEntry : Type := List (CString × List CString)

/-- The texts that are read from an entry, and how many there are. -/
structure SrmInformation where
  name : CString := []
  version : CString := []
  endpoint : CString := []
  count : Nat := 0

def mdsError (code : Int) (message : CString) : GError := ⟨gfal2GetCoreQuark, code, message⟩

def srmVersionType (version : CString) : Except GError MdsTypeEndpoint :=
  if strncmp version (lit "1.") 2 = 0 then return .srmv1
  else if strncmp version (lit "2.") 2 = 0 then return .srmv2
  else throw (mdsError EINVAL (lit "bad value of srm version returned by bdii : " ++ version ++ lit ", excepted 1.x or 2.x "))

def gfalMdsSrmEndpointStructBuilder (info : SrmInformation) : Except GError GfalMdsEndpoint :=
  if strncasecmp info.name (lit "SRM") 3 ≠ 0 then
    throw (mdsError EINVAL (lit "bad value of srm endpoint returned by bdii : " ++ info.name ++ lit ", excepted : SRM "))
  else do
    let type ← srmVersionType info.version
    if strstr info.endpoint (lit ":/") then return ⟨info.endpoint.take (urlMaxLen - 1), type⟩
    else throw (mdsError EINVAL (lit "bad value of srm endpoint returned by bdii : " ++ info.endpoint ++
      lit ", excepted a correct endpoint url ( httpg://, https://, ... ) "))

/-- The loop over the attributes of an entry. The first value of each is read. -/
def readAttributes : LdapEntry → SrmInformation → Except GError SrmInformation
  | [], info => return info
  | (_, []) :: rest, info => readAttributes rest info
  | (a, value :: _) :: rest, info =>
      if strncmp a (lit "GlueServiceVersion") urlMaxLen = 0 then
        readAttributes rest { info with version := value.take urlMaxLen, count := info.count + 1 }
      else if strncmp a (lit "GlueServiceEndpoint") urlMaxLen = 0 then
        readAttributes rest { info with endpoint := value.take urlMaxLen, count := info.count + 1 }
      else if strncmp a (lit "GlueServiceType") urlMaxLen = 0 then
        readAttributes rest { info with name := value.take urlMaxLen, count := info.count + 1 }
      else throw (mdsError EINVAL (lit " Bad attribute retrieved from bdii "))

/-- `gfal_mds_convert_entry_to_srm_information`. There is nothing to store of an empty entry. -/
def gfalMdsConvertEntryToSrmInformation (entry : LdapEntry) : Except GError (Option GfalMdsEndpoint) := do
  let info ← readAttributes entry {}
  if info.count > 0 then return some (← gfalMdsSrmEndpointStructBuilder info) else return none

/-- The loop over the entries of a result, for the slots that are left: those that are filled. -/
def convertEntries : List LdapEntry → Nat → Except GError (List GfalMdsEndpoint)
  | [], _ => return []
  | entry :: entries, slots =>
      if slots = 0 then return []
      else do
        match ← gfalMdsConvertEntryToSrmInformation entry with
        | none => convertEntries entries slots
        | some endpoint => return endpoint :: (← convertEntries entries (slots - 1))

def gfalMdsGetSrmTypesEndpoint (entries : List LdapEntry) (slots : Nat) : Except GError (List GfalMdsEndpoint) :=
  if entries = [] then throw (mdsError ENXIO (lit " no entries for the endpoint returned by the bdii : 0 "))
  else convertEntries entries slots

/-- `gfal_mds_bdii_get_srm_endpoint`, after the search for a host. -/
def gfalMdsBdiiGetSrmEndpoint (search : CString → Except GError (List LdapEntry)) (host : CString) (slots : Nat) :
    Except GError (List GfalMdsEndpoint) := do
  let entries ← search host
  gfalMdsGetSrmTypesEndpoint entries slots

/-! ### Both of them -/

/-- `gfal_mds_resolve_srm_endpoint`: the slots that are filled. -/
def gfalMdsResolveSrmEndpoint (select : SelectSingleNode) (cache : Option (List CacheEntry))
    (search : CString → Except GError (List LdapEntry)) (host : CString) (endpoints : List GfalMdsEndpoint) :
    Option (Except GError (List GfalMdsEndpoint)) := do
  let cached ← gfalMdsCacheResolveEndpoint select cache host endpoints
  if cached.1 > 0 then return .ok (cached.2.take cached.1)
  else return gfalMdsBdiiGetSrmEndpoint search host endpoints.length

/-- The types and the endpoints that a call hands out, or its error. -/
structure SeTypesAndEndpoints where
  ret : Int
  seTypes : List CString := []
  seEndpoints : List CString := []
  err : Option GError := none

def seTypeName (type : MdsTypeEndpoint) : CString := if type = .srmv2 then lit "srm_v2" else lit "srm_v1"

/-- `gfal_mds_get_se_types_and_endpoints`, for what the table holds before. -/
def gfalMdsGetSeTypesAndEndpoints (select : SelectSingleNode) (cache : Option (List CacheEntry))
    (search : CString → Except GError (List LdapEntry)) (host : CString) (tabend : List GfalMdsEndpoint) :
    Option SeTypesAndEndpoints := do
  match ← gfalMdsResolveSrmEndpoint select cache search host tabend with
  | .error e =>
      return { ret := -1, err := some (propagatePrefixedErrorExtended e (lit "[gfal_mds_get_se_types_and_endpoints]")) }
  | .ok slots =>
      if slots = [] then return { ret := -1 }
      else return { ret := 0, seTypes := slots.map (seTypeName ·.type), seEndpoints := slots.map (·.url) }

end Gfal2
