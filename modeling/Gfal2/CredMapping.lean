import Gfal2.Base.CString
import Gfal2.Base.GList
import Gfal2.Base.Runs
import Mathlib.Data.Prod.Lex
import Mathlib.Logic.Function.Basic

/-! The credential mapping of a context: a list of (URL prefix, type) entries, kept strictly sorted
by descending prefix and then by ascending type. Looking a URL up takes the first entry that covers
it, and because a string sorts below every proper continuation of itself, that entry has the longest
of the stored prefixes that cover the URL, whatever other entries stand between. -/

namespace Gfal2

open Base

/-- `gfal2_cred_t`. The value may be a null pointer. -/
structure Gfal2Cred where
  type : CString
  value : Option CString
  deriving DecidableEq

/-- `gfal2_cred_node_t`. -/
structure CredNode where
  prefixLen : Nat
  urlPrefix : CString
  cred : Gfal2Cred
  deriving DecidableEq

abbrev CredMapping := List CredNode

def nodeCompare (a b : CredNode) : Int :=
  let comp := -strcmp a.urlPrefix b.urlPrefix
  if comp = 0 then strcmp a.cred.type b.cred.type else comp

def credNode (urlPrefix : CString) (cred : Gfal2Cred) : CredNode :=
  ⟨urlPrefix.length, urlPrefix, cred⟩

/-- Replace or add one entry: the part of `gfal2_cred_set` that runs for a credential. -/
def storeNode (mapping : CredMapping) (node : CredNode) : CredMapping :=
  gListInsertSorted (mapping.eraseP fun item => nodeCompare item node = 0) node nodeCompare

/-- `gfal2_cred_set`. Without a credential the search dereferences a null pointer as soon as it meets
an entry of the same prefix; `none` is that crash. -/
def gfal2CredSet (mapping : CredMapping) (urlPrefix : CString) : Option Gfal2Cred → Option CredMapping
  | some cred => some (storeNode mapping (credNode urlPrefix cred))
  | none => if mapping.any (·.urlPrefix = urlPrefix) then none else some mapping

/-- The test of the lookup loop. The character before the end of the prefix is read from the URL. -/
def CredNode.serves (node : CredNode) (type url : CString) : Bool :=
  node.cred.type = type ∧ strncmp node.urlPrefix url node.prefixLen = 0 ∧
    ¬(node.prefixLen < url.length ∧
      (url[node.prefixLen - 1]? ≠ some '/' ∧ url[node.prefixLen]? ≠ some '/'))

/-- What `gfal2_cred_get` hands back: the value, which may be null, and the base URL it was stored for. -/
structure CredAnswer where
  value : Option CString
  baseurl : CString
  deriving DecidableEq

/-- The configuration entries that stand in for a credential of each predefined type. -/
def credFromConfig (option : CString → CString → Option CString) (type : CString) : Option CString :=
  if type = lit "X509_CERT" then option (lit "X509") (lit "CERT")
  else if type = lit "X509_KEY" then option (lit "X509") (lit "KEY")
  else if type = lit "BEARER" then option (lit "BEARER") (lit "TOKEN")
  else none

def gfal2CredGet (mapping : CredMapping) (option : CString → CString → Option CString)
    (type url : CString) : CredAnswer :=
  match mapping.find? (·.serves type url) with
  | some node => ⟨node.cred.value, node.urlPrefix⟩
  | none => ⟨credFromConfig option type, []⟩

/-- The entry `gfal2_cred_del` removes. -/
def CredNode.isFor (node : CredNode) (type url : CString) : Bool :=
  node.cred.type = type ∧ node.prefixLen = url.length ∧ strcmp node.urlPrefix url = 0

/-- `gfal2_cred_del`: its return value and the mapping it leaves. -/
def gfal2CredDel (mapping : CredMapping) (type url : CString) : Int × CredMapping :=
  if mapping.any (·.isFor type url) then (0, mapping.eraseP (·.isFor type url)) else (-1, mapping)

def gfal2CredClean (_mapping : CredMapping) : CredMapping := []

/-- `gfal2_cred_copy` into another context: the destination's entries are dropped first. -/
def gfal2CredCopy (dest src : CredMapping) : CredMapping :=
  src.foldl (fun mapping node => storeNode mapping (credNode node.urlPrefix node.cred))
    (gfal2CredClean dest)

/-! ### The order of the list -/

/-- The key the list is sorted by. -/
def CredNode.key (node : CredNode) : CStringᵒᵈ ×ₗ CString :=
  toLex (OrderDual.toDual node.urlPrefix, node.cred.type)

theorem CredNode.key_eq_iff (a b : CredNode) : a.key = b.key ↔ a.urlPrefix = b.urlPrefix ∧ a.cred.type = b.cred.type := by
  simp [CredNode.key]

theorem CredNode.key_lt_iff (a b : CredNode) :
    a.key < b.key ↔ b.urlPrefix < a.urlPrefix ∨ a.urlPrefix = b.urlPrefix ∧ a.cred.type < b.cred.type := by
  rw [CredNode.key, CredNode.key, Prod.Lex.toLex_lt_toLex]
  simp

theorem compares_nodeCompare : Compares nodeCompare CredNode.key where
  lt_zero_iff a b := by
    rw [CredNode.key_lt_iff]
    have hpos := strcmp_gt_zero_iff a.urlPrefix b.urlPrefix
    have hzero := strcmp_eq_zero_iff a.urlPrefix b.urlPrefix
    simp only [nodeCompare]
    split_ifs with h
    · have heq : a.urlPrefix = b.urlPrefix := hzero.mp (by omega)
      rw [strcmp_lt_zero_iff, heq]
      simp
    · have hne : a.urlPrefix ≠ b.urlPrefix := fun heq => h (by have := hzero.mpr heq; omega)
      rw [← hpos]
      constructor
      · exact fun hneg => Or.inl (by omega)
      · rintro (hlt | ⟨heq, -⟩)
        · omega
        · exact absurd heq hne
  eq_zero_iff a b := by
    rw [CredNode.key_eq_iff]
    have hzero := strcmp_eq_zero_iff a.urlPrefix b.urlPrefix
    simp only [nodeCompare]
    split_ifs with h
    · have heq : a.urlPrefix = b.urlPrefix := hzero.mp (by omega)
      rw [strcmp_eq_zero_iff]
      simp [heq]
    · exact iff_of_false h fun heq => h (by have := hzero.mpr heq.1; omega)

/-- The invariant of the list: strictly sorted, with recorded lengths that are the real ones, and no
empty prefix. -/
structure CredSorted (mapping : CredMapping) : Prop where
  sorted : mapping.Pairwise fun a b => a.key < b.key
  prefixLen : ∀ node ∈ mapping, node.prefixLen = node.urlPrefix.length
  nonempty : ∀ node ∈ mapping, node.urlPrefix ≠ []

/-- What holds of the list whatever the prefixes are, the empty one included. -/
structure CredOrdered (mapping : CredMapping) : Prop where
  sorted : mapping.Pairwise fun a b => a.key < b.key
  prefixLen : ∀ node ∈ mapping, node.prefixLen = node.urlPrefix.length

/-! ### The list as a finite map -/

/-- A credential value for some of the pairs of a prefix and a type. -/
abbrev CredRecord := CString → CString → Option (Option CString)

def CredRecord.set (record : CredRecord) (p t : CString) (value : Option (Option CString)) : CredRecord :=
  fun q u => if q = p ∧ u = t then value else record q u

/-- The sorted list stores exactly the pairs of the record. -/
structure Represents (mapping : CredMapping) (record : CredRecord) : Prop extends CredSorted mapping where
  mem_iff : ∀ p t v, record p t = some v ↔ ⟨p.length, p, ⟨t, v⟩⟩ ∈ mapping

theorem represents_nil : Represents [] fun _ _ => none where
  sorted := List.Pairwise.nil
  prefixLen := by simp
  nonempty := by simp
  mem_iff := by simp

variable {mapping : CredMapping} {node : CredNode}

theorem CredSorted.eq_credNode (h : CredSorted mapping)
    (hmem : node ∈ mapping) : node = ⟨node.urlPrefix.length, node.urlPrefix, ⟨node.cred.type, node.cred.value⟩⟩ := by
  rw [← h.prefixLen node hmem]

variable {record : CredRecord}

theorem Represents.of_mem (h : Represents mapping record) (hmem : node ∈ mapping) :
    record node.urlPrefix node.cred.type = some node.cred.value :=
  (h.mem_iff _ _ _).mpr (h.eq_credNode hmem ▸ hmem)

variable {test : CredNode → Bool}

/-- Keeping the entries of other keys is removing one pair from the record. -/
theorem Represents.filter (h : Represents mapping record) (p t : CString)
    (htest : ∀ node ∈ mapping, test node = true ↔ ¬(node.urlPrefix = p ∧ node.cred.type = t)) :
    Represents (mapping.filter test) (record.set p t none) where
  sorted := h.sorted.sublist List.filter_sublist
  prefixLen node hnode := h.prefixLen node (List.mem_of_mem_filter hnode)
  nonempty node hnode := h.nonempty node (List.mem_of_mem_filter hnode)
  mem_iff q u v := by
    rw [List.mem_filter, CredRecord.set]
    split_ifs with heq
    · refine iff_of_false (by simp) ?_
      rintro ⟨hmem, hkeep⟩
      exact (htest _ hmem).mp hkeep heq
    · rw [h.mem_iff]
      constructor
      · exact fun hmem => ⟨hmem, (htest _ hmem).mpr heq⟩
      · exact fun hmem => hmem.1

theorem unique_of_sorted (h : mapping.Pairwise fun a b => a.key < b.key) {p t : CString}
    (htest : ∀ node ∈ mapping, test node = true ↔ node.urlPrefix = p ∧ node.cred.type = t) :
    mapping.Pairwise fun a b => ¬(test a = true ∧ test b = true) := by
  refine h.imp_of_mem ?_
  intro a b ha hb hlt ⟨hta, htb⟩
  have hkey : a.key = b.key := (CredNode.key_eq_iff a b).mpr
    ⟨((htest a ha).mp hta).1.trans ((htest b hb).mp htb).1.symm,
      ((htest a ha).mp hta).2.trans ((htest b hb).mp htb).2.symm⟩
  exact absurd hkey hlt.ne

/-- Deleting the first entry that a test for one key accepts removes that pair. -/
theorem Represents.eraseP (h : Represents mapping record) {p t : CString}
    (htest : ∀ node ∈ mapping, test node = true ↔ node.urlPrefix = p ∧ node.cred.type = t) :
    Represents (mapping.eraseP test) (record.set p t none) := by
  rw [eraseP_eq_filter (unique_of_sorted h.sorted htest)]
  refine h.filter p t fun node hnode => ?_
  rw [Bool.not_eq_true', ← Bool.not_eq_true, htest node hnode]

theorem credOrdered_nil : CredOrdered [] where
  sorted := List.Pairwise.nil
  prefixLen := by simp

theorem CredOrdered.sublist {mapping' : CredMapping} (h : CredOrdered mapping) (hsub : mapping'.Sublist mapping) :
    CredOrdered mapping' where
  sorted := h.sorted.sublist hsub
  prefixLen node hnode := h.prefixLen node (hsub.mem hnode)

theorem CredOrdered.storeNode (h : CredOrdered mapping) (p : CString) (cred : Gfal2Cred) :
    CredOrdered (storeNode mapping (credNode p cred)) := by
  have hsame : ∀ node : CredNode, nodeCompare node (credNode p cred) = 0 ↔
      node.urlPrefix = p ∧ node.cred.type = cred.type := by
    intro node
    rw [compares_nodeCompare.eq_zero_iff, CredNode.key_eq_iff]
    exact Iff.rfl
  have hnew : ∀ item ∈ mapping.eraseP fun item => nodeCompare item (credNode p cred) = 0,
      item.key ≠ (credNode p cred).key := by
    intro item hitem hkey
    rw [eraseP_eq_filter (unique_of_sorted h.sorted fun node _ => decide_eq_true_iff.trans (hsame node))] at hitem
    have hdiffers := (List.mem_filter.mp hitem).2
    simp [compares_nodeCompare.eq_zero_iff, hkey] at hdiffers
  have herased := h.sublist (List.eraseP_sublist (p := fun item => nodeCompare item (credNode p cred) = 0))
  refine ⟨pairwise_gListInsertSorted compares_nodeCompare herased.sorted hnew, fun node hnode => ?_⟩
  rcases mem_gListInsertSorted.mp hnode with rfl | hnode
  · rfl
  · exact herased.prefixLen node hnode

theorem Represents.storeNode (h : Represents mapping record) {p : CString} (hp : p ≠ []) (cred : Gfal2Cred) :
    Represents (storeNode mapping (credNode p cred)) (record.set p cred.type (some cred.value)) := by
  have herased : Represents (mapping.eraseP fun item => nodeCompare item (credNode p cred) = 0)
      (record.set p cred.type none) := by
    refine h.eraseP fun node _ => ?_
    rw [decide_eq_true_iff, compares_nodeCompare.eq_zero_iff, CredNode.key_eq_iff]
    exact Iff.rfl
  have hnew : ∀ item ∈ mapping.eraseP fun item => nodeCompare item (credNode p cred) = 0,
      item.key ≠ (credNode p cred).key := by
    intro item hitem hkey
    obtain ⟨hstart, htype⟩ := (CredNode.key_eq_iff _ _).mp hkey
    have hrecord := herased.of_mem hitem
    rw [CredRecord.set, if_pos ⟨hstart, htype⟩] at hrecord
    exact absurd hrecord (by simp)
  refine ⟨⟨pairwise_gListInsertSorted compares_nodeCompare herased.sorted hnew, ?_, ?_⟩, ?_⟩
  · intro node hnode
    rcases mem_gListInsertSorted.mp hnode with rfl | hnode
    · rfl
    · exact herased.prefixLen node hnode
  · intro node hnode
    rcases mem_gListInsertSorted.mp hnode with rfl | hnode
    · exact hp
    · exact herased.nonempty node hnode
  · intro q t v
    rw [Gfal2.storeNode, mem_gListInsertSorted, ← herased.mem_iff, CredRecord.set, CredRecord.set]
    obtain ⟨type, value⟩ := cred
    split_ifs with heq
    · obtain ⟨rfl, rfl⟩ := heq
      simp [credNode, eq_comm]
    · simp only [credNode, CredNode.mk.injEq, Gfal2Cred.mk.injEq]
      constructor
      · exact Or.inr
      · rintro (⟨-, hq, ht, -⟩ | hmem)
        · exact absurd ⟨hq, ht⟩ heq
        · exact hmem

theorem CredNode.isFor_iff (hlen : node.prefixLen = node.urlPrefix.length)
    (type url : CString) : node.isFor type url = true ↔ node.urlPrefix = url ∧ node.cred.type = type := by
  rw [CredNode.isFor, decide_eq_true_iff, strcmp_eq_zero_iff]
  constructor
  · exact fun h => ⟨h.2.2, h.1⟩
  · rintro ⟨rfl, rfl⟩
    exact ⟨rfl, hlen, rfl⟩

theorem Represents.credDel (h : Represents mapping record)
    (type url : CString) : Represents (gfal2CredDel mapping type url).2 (record.set url type none) := by
  have htest : ∀ node ∈ mapping, node.isFor type url = true ↔ node.urlPrefix = url ∧ node.cred.type = type :=
    fun node hnode => CredNode.isFor_iff (h.prefixLen node hnode) type url
  have herased : Represents (mapping.eraseP (·.isFor type url)) (record.set url type none) := h.eraseP htest
  rw [gfal2CredDel]
  split_ifs with hany
  · exact herased
  · have hnone : mapping.eraseP (·.isFor type url) = mapping := by
      refine List.eraseP_of_forall_not fun node hnode hfor => hany ?_
      exact List.any_eq_true.mpr ⟨node, hnode, hfor⟩
    rwa [hnone] at herased

/-- Copying the entries of a list, in any order of distinct keys, lays its record over the other. -/
theorem Represents.foldl_storeNode {src : CredMapping} {srcRecord : CredRecord} (hsrc : Represents src srcRecord)
    (h : Represents mapping record) :
    Represents (src.foldl (fun mapping node => Gfal2.storeNode mapping (credNode node.urlPrefix node.cred)) mapping)
      fun p t => (srcRecord p t).or (record p t) := by
  induction src generalizing srcRecord mapping record with
  | nil =>
      have hnone : ∀ p t, srcRecord p t = none := by
        intro p t
        rw [Option.eq_none_iff_forall_not_mem]
        intro v hv
        simpa using (hsrc.mem_iff p t v).mp hv
      simpa [hnone] using h
  | cons node src ih =>
      have hnode : node ∈ node :: src := List.mem_cons_self
      have hstored := h.storeNode (hsrc.nonempty node hnode) node.cred
      have htail : Represents src (srcRecord.set node.urlPrefix node.cred.type none) := by
        have hfiltered : Represents ((node :: src).filter fun item => !decide (item.key = node.key))
            (srcRecord.set node.urlPrefix node.cred.type none) := by
          apply hsrc.filter
          intro item _
          simp [CredNode.key_eq_iff, imp_iff_not_or]
        have hhead := (List.pairwise_cons.mp hsrc.sorted).1
        have hsame : (node :: src).filter (fun item => !decide (item.key = node.key)) = src := by
          rw [List.filter_cons_of_neg (by simp), List.filter_eq_self]
          intro item hitem
          simpa using (hhead item hitem).ne'
        rwa [hsame] at hfiltered
      have hall := ih htail hstored
      rw [List.foldl_cons]
      convert hall using 3 with p t
      simp only [CredRecord.set]
      split_ifs with heq
      · obtain ⟨rfl, rfl⟩ := heq
        simp [hsrc.of_mem hnode]
      · rfl

theorem Represents.credCopy {src : CredMapping} (h : Represents src record)
    (dest : CredMapping) : Represents (gfal2CredCopy dest src) record := by
  have hcopy := h.foldl_storeNode represents_nil
  simpa [gfal2CredCopy, gfal2CredClean] using hcopy

/-! ### Lookup -/

/-- A stored prefix covers a URL when it begins it and ends where a directory of the URL ends. -/
def Covers (p url : CString) : Prop :=
  p <+: url ∧ (p = url ∨ p.getLast? = some '/' ∨ url[p.length]? = some '/')

theorem CredNode.serves_iff (hlen : node.prefixLen = node.urlPrefix.length) (hne : node.urlPrefix ≠ []) (type url : CString) :
    node.serves type url = true ↔ node.cred.type = type ∧ Covers node.urlPrefix url := by
  rw [CredNode.serves, decide_eq_true_iff, hlen, strncmp_length_eq_zero_iff, Covers]
  refine and_congr_right fun _ => and_congr_right fun hstart => ?_
  obtain ⟨rest, rfl⟩ := hstart
  have hpos : 0 < node.urlPrefix.length := List.length_pos_iff.mpr hne
  have hlast : (node.urlPrefix ++ rest)[node.urlPrefix.length - 1]? = node.urlPrefix.getLast? := by
    rw [List.getElem?_append_left (by omega), List.getLast?_eq_getElem?]
  rw [hlast]
  cases rest with
  | nil => simp
  | cons c rest =>
      have hlonger : node.urlPrefix ≠ node.urlPrefix ++ c :: rest := by simp
      have hshort : node.urlPrefix.length < (node.urlPrefix ++ c :: rest).length := by simp
      simp only [hlonger, hshort, true_and, false_or, not_and_or, not_not]

/-- Of two prefixes that cover a URL, the one that sorts first in the list is the longer. -/
theorem length_le_of_key_lt {a b : CredNode} {url : CString} (ha : a.urlPrefix <+: url)
    (hb : b.urlPrefix <+: url) (htype : a.cred.type = b.cred.type) (hlt : a.key < b.key) :
    b.urlPrefix.length ≤ a.urlPrefix.length := by
  by_contra hnot
  have hlength : a.urlPrefix.length < b.urlPrefix.length := not_le.mp hnot
  have hstart : a.urlPrefix <+: b.urlPrefix := List.prefix_of_prefix_length_le ha hb hlength.le
  have hsmaller := lt_of_isPrefix_of_length_lt hstart hlength
  rcases (CredNode.key_lt_iff a b).mp hlt with h | ⟨-, h⟩
  · exact lt_asymm h hsmaller
  · exact absurd h (by rw [htype]; exact lt_irrefl _)

/-- A lookup answers from the longest covering prefix, and from the configuration only without one. -/
theorem Represents.credGet (h : Represents mapping record) (option : CString → CString → Option CString) (type url : CString) :
    (∃ p v, record p type = some v ∧ Covers p url ∧
        (∀ q w, record q type = some w → Covers q url → q.length ≤ p.length) ∧
        gfal2CredGet mapping option type url = ⟨v, p⟩) ∨
      ((∀ p v, record p type = some v → ¬Covers p url) ∧
        gfal2CredGet mapping option type url = ⟨credFromConfig option type, []⟩) := by
  have hserves : ∀ node ∈ mapping, node.serves type url = true ↔
      node.cred.type = type ∧ Covers node.urlPrefix url :=
    fun node hnode => CredNode.serves_iff (h.prefixLen node hnode) (h.nonempty node hnode) type url
  rw [gfal2CredGet]
  cases hfind : mapping.find? (·.serves type url) with
  | none =>
      refine Or.inr ⟨fun p v hrecord hcovers => ?_, rfl⟩
      have hmem := (h.mem_iff p type v).mp hrecord
      exact List.find?_eq_none.mp hfind _ hmem ((hserves _ hmem).mpr ⟨rfl, hcovers⟩)
  | some node =>
      obtain ⟨hnode, before, after, hsplit, hbefore⟩ := List.find?_eq_some_iff_append.mp hfind
      have hmem : node ∈ mapping := by simp [hsplit]
      obtain ⟨htype, hcovers⟩ := (hserves node hmem).mp hnode
      refine Or.inl ⟨node.urlPrefix, node.cred.value, htype ▸ h.of_mem hmem, hcovers, ?_, rfl⟩
      intro q w hrecord hq
      have hother := (h.mem_iff q type w).mp hrecord
      have hotherServes := (hserves _ hother).mpr ⟨rfl, hq⟩
      rw [hsplit, List.mem_append, List.mem_cons] at hother
      rcases hother with hother | heq | hother
      · have := hbefore _ hother
        simp [hotherServes] at this
      · rw [← heq]
      · have hsorted := h.sorted
        rw [hsplit, List.pairwise_append, List.pairwise_cons] at hsorted
        exact length_le_of_key_lt hcovers.1 hq.1 htype (hsorted.2.1.1 _ hother)

/-! ### Runs over several contexts -/

section Runs

variable {κ : Type} [DecidableEq κ]

/-- The calls that change a credential mapping. -/
inductive CredOp (κ : Type) where
  | set (context : κ) (urlPrefix : CString) (cred : Option Gfal2Cred)
  | del (context : κ) (type url : CString)
  | clean (context : κ)
  | copy (dest src : κ)

/-- A set stores a credential under a non-empty prefix, and a copy goes to another context. -/
def CredOp.Valid : CredOp κ → Prop
  | .set _ urlPrefix cred => urlPrefix ≠ [] ∧ cred ≠ none
  | .copy dest src => dest ≠ src
  | _ => True

/-- One call on the mappings of all contexts. There is no next state after a null dereference. -/
def credStep : CredOp κ → (κ → CredMapping) → Option (κ → CredMapping)
  | .set context urlPrefix cred, mappings =>
      (gfal2CredSet (mappings context) urlPrefix cred).map (Function.update mappings context)
  | .del context type url, mappings =>
      some (Function.update mappings context (gfal2CredDel (mappings context) type url).2)
  | .clean context, mappings =>
      some (Function.update mappings context (gfal2CredClean (mappings context)))
  | .copy dest src, mappings =>
      some (Function.update mappings dest (gfal2CredCopy (mappings dest) (mappings src)))

/-- What each call is for: the value last set for a prefix and a type and not removed since. -/
def recordStep : CredOp κ → (κ → CredRecord) → κ → CredRecord
  | .set context urlPrefix (some cred), records =>
      Function.update records context ((records context).set urlPrefix cred.type (some cred.value))
  | .set _ _ none, records => records
  | .del context type url, records =>
      Function.update records context ((records context).set url type none)
  | .clean context, records => Function.update records context fun _ _ => none
  | .copy dest src, records => Function.update records dest (records src)

/-- The values that stand recorded after a sequence of calls on empty mappings. -/
def recordAfter (ops : List (CredOp κ)) : κ → CredRecord :=
  ops.foldl (fun records op => recordStep op records) fun _ _ _ => none

/-- Every context's mapping stores what stands recorded for the context. -/
def RepresentsAll (mappings : κ → CredMapping) (records : κ → CredRecord) : Prop :=
  ∀ context, Represents (mappings context) (records context)

variable {mappings : κ → CredMapping}

theorem RepresentsAll.update {records : κ → CredRecord} (h : RepresentsAll mappings records) {changed : κ}
    (hchanged : Represents mapping record) :
    RepresentsAll (Function.update mappings changed mapping) (Function.update records changed record) := by
  intro context
  by_cases heq : context = changed
  · subst heq
    simpa using hchanged
  · simpa [heq] using h context

/-- One valid call keeps every mapping in agreement with its record. -/
theorem represents_credStep {op : CredOp κ} {mappings' : κ → CredMapping}
    {records : κ → CredRecord} (hvalid : op.Valid) (h : RepresentsAll mappings records)
    (hstep : credStep op mappings = some mappings') : RepresentsAll mappings' (recordStep op records) := by
  cases op with
  | set changed urlPrefix cred =>
      obtain ⟨hstart, hcred⟩ := hvalid
      obtain ⟨cred, rfl⟩ := Option.ne_none_iff_exists'.mp hcred
      cases hstep
      exact h.update ((h changed).storeNode hstart cred)
  | del changed type url =>
      cases hstep
      exact h.update ((h changed).credDel type url)
  | clean changed =>
      cases hstep
      exact h.update represents_nil
  | copy dest src =>
      cases hstep
      exact h.update ((h src).credCopy (mappings dest))

theorem represents_run {ops : List (CredOp κ)} (hrun : Run credStep (fun op _ => op.Valid) (fun _ => []) ops mappings) :
    RepresentsAll mappings (recordAfter ops) := by
  have hmatch : ∀ (op : CredOp κ) (first second : κ → CredMapping) (records : κ → CredRecord), op.Valid →
      RepresentsAll first records → credStep op first = some second →
      RepresentsAll second (recordStep op records) :=
    fun _ _ _ _ hvalid h hstep => represents_credStep hvalid h hstep
  exact hrun.simulation hmatch fun _ => represents_nil

/-- A copy goes to another context. -/
def CredOp.Separate : CredOp κ → Prop
  | .copy dest src => dest ≠ src
  | _ => True

theorem credOrdered_credStep {op : CredOp κ} {mappings' : κ → CredMapping}
    (h : ∀ context, CredOrdered (mappings context)) (hstep : credStep op mappings = some mappings') (context : κ) :
    CredOrdered (mappings' context) := by
  have hupdate : ∀ changed mapping, CredOrdered mapping →
      CredOrdered (Function.update mappings changed mapping context) := by
    intro changed mapping hmapping
    by_cases heq : context = changed
    · subst heq
      simpa using hmapping
    · simpa [heq] using h context
  cases op with
  | set changed urlPrefix cred =>
      obtain ⟨mapping, hset, rfl⟩ := Option.map_eq_some_iff.mp hstep
      refine hupdate changed mapping ?_
      cases cred with
      | some cred =>
          cases hset
          exact (h changed).storeNode urlPrefix cred
      | none =>
          obtain ⟨-, heq⟩ := Option.ite_none_left_eq_some.mp hset
          cases heq
          exact h changed
  | del changed type url =>
      cases hstep
      refine hupdate changed _ ?_
      unfold gfal2CredDel
      split_ifs
      · exact (h changed).sublist List.eraseP_sublist
      · exact h changed
  | clean changed =>
      cases hstep
      exact hupdate changed _ credOrdered_nil
  | copy dest src =>
      cases hstep
      refine hupdate dest _ ?_
      unfold gfal2CredCopy
      exact List.foldlRecOn _ _ credOrdered_nil fun mapping hmapping node _ => hmapping.storeNode _ _

/-- Any calls leave an ordered list in every context. -/
theorem credOrdered_run {ops : List (CredOp κ)} {allowed : CredOp κ → (κ → CredMapping) → Prop}
    (hrun : Run credStep allowed (fun _ => []) ops mappings) (context : κ) : CredOrdered (mappings context) := by
  have hpreserve : ∀ (op : CredOp κ) (first second : κ → CredMapping), allowed op first →
      (∀ context, CredOrdered (first context)) → credStep op first = some second → ∀ context, CredOrdered (second context) :=
    fun _ _ _ _ h hstep => credOrdered_credStep h hstep
  exact hrun.invariant _ hpreserve (fun _ => credOrdered_nil) context

theorem credStep_enabled (op : CredOp κ) (mappings : κ → CredMapping) (hvalid : op.Valid) :
    ∃ mappings', credStep op mappings = some mappings' := by
  cases op with
  | set changed urlPrefix cred =>
      obtain ⟨cred, rfl⟩ := Option.ne_none_iff_exists'.mp hvalid.2
      exact ⟨_, rfl⟩
  | del changed type url => exact ⟨_, rfl⟩
  | clean changed => exact ⟨_, rfl⟩
  | copy dest src => exact ⟨_, rfl⟩

/-- Any sequence of valid calls can be made on empty mappings, and after it a lookup returns what was
last set and not removed since for the longest stored prefix that covers the URL, with that prefix as
the base URL. It consults the configuration only when no stored prefix of the type covers the URL. -/
theorem credGet_longest_prefix (ops : List (CredOp κ)) (hvalid : ∀ op ∈ ops, op.Valid) :
    ∃ mappings, runAll credStep ops (fun _ => []) = some mappings ∧
      ∀ (context : κ) (option : CString → CString → Option CString) (type url : CString),
        (∃ p v, recordAfter ops context p type = some v ∧ Covers p url ∧
            (∀ q w, recordAfter ops context q type = some w → Covers q url → q.length ≤ p.length) ∧
            gfal2CredGet (mappings context) option type url = ⟨v, p⟩) ∨
          ((∀ p v, recordAfter ops context p type = some v → ¬Covers p url) ∧
            gfal2CredGet (mappings context) option type url = ⟨credFromConfig option type, []⟩) := by
  obtain ⟨mappings, hrun⟩ := exists_run credStep_enabled hvalid fun _ => []
  refine ⟨mappings, hrun.runAll_eq, fun context option type url => ?_⟩
  exact (represents_run hrun context).credGet option type url

/-- Two prefixes of one URL, a removal and a copy between two contexts. -/
theorem credGet_longest_prefix_copy : ∃ mappings, runAll credStep
        [.set false (lit "gsiftp://host") (some ⟨lit "X509_CERT", some (lit "/host.pem")⟩),
          .set false (lit "gsiftp://host/dir/") (some ⟨lit "X509_CERT", some (lit "/dir.pem")⟩),
          .copy true false, .del false (lit "X509_CERT") (lit "gsiftp://host/dir/")] (fun _ => []) =
        some mappings ∧
      gfal2CredGet (mappings true) (fun _ _ => none) (lit "X509_CERT") (lit "gsiftp://host/dir/file") =
        ⟨some (lit "/dir.pem"), lit "gsiftp://host/dir/"⟩ ∧
      gfal2CredGet (mappings false) (fun _ _ => none) (lit "X509_CERT") (lit "gsiftp://host/dir/file") =
        ⟨some (lit "/host.pem"), lit "gsiftp://host"⟩ := by
  obtain ⟨mappings, hrun, -⟩ := credGet_longest_prefix
    [.set false (lit "gsiftp://host") (some ⟨lit "X509_CERT", some (lit "/host.pem")⟩),
      .set false (lit "gsiftp://host/dir/") (some ⟨lit "X509_CERT", some (lit "/dir.pem")⟩),
      .copy true false, .del false (lit "X509_CERT") (lit "gsiftp://host/dir/")]
    (by simp [CredOp.Valid])
  refine ⟨mappings, hrun, ?_⟩
  cases hrun
  decide

end Runs

end Gfal2
