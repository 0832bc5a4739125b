import Gfal2.CredMapping
import Gfal2.Error

/-! Calls on credential mappings that do not return, and copies of a context onto itself. -/

namespace Gfal2

open Base

/-! ### Lookup -/

/-- The test of the loop of `gfal2_cred_get` with the characters it reads: for an empty prefix the one in front of the URL. -/
def CredNode.tests (node : CredNode) (type url : CString) : Except Fault Bool :=
  if node.cred.type = type ∧ strncmp node.urlPrefix url node.prefixLen = 0 then
    if node.prefixLen < url.length then
      match node.prefixLen with
      | 0 => .error .arrayBounds
      | n + 1 => .ok (url[n]? = some '/' ∨ url[n + 1]? = some '/')
    else .ok true
  else .ok false

/-- The loop of `gfal2_cred_get`: the entry it stops at. -/
def credSearch (type url : CString) : CredMapping → Except Fault (Option CredNode)
  | [] => .ok none
  | node :: nodes =>
      match node.tests type url with
      | .error fault => .error fault
      | .ok true => .ok (some node)
      | .ok false => credSearch type url nodes

/-- `gfal2_cred_get` with the reads it makes. -/
def gfal2CredGetRun (mapping : CredMapping) (option : CString → CString → Option CString) (type url : CString) :
    Except Fault CredAnswer :=
  (credSearch type url mapping).map fun
    | some node => ⟨node.cred.value, node.urlPrefix⟩
    | none => ⟨credFromConfig option type, []⟩

variable {node : CredNode} {mapping : CredMapping} {type url : CString}

theorem CredNode.tests_of_nonempty (hlen : node.prefixLen ≠ 0) : node.tests type url = .ok (node.serves type url) := by
  obtain ⟨n, hn⟩ := Nat.exists_eq_succ_of_ne_zero hlen
  rw [CredNode.tests, CredNode.serves, hn]
  split
  next hmatch =>
    split
    next hshort => simp [hmatch, hshort, -not_or]
    next hlong => simp [hmatch, hlong]
  next hother => rw [decide_eq_false fun hserves => hother ⟨hserves.1, hserves.2.1⟩]

/-- Behind an entry for the empty prefix there are only others for it. -/
theorem CredOrdered.empty_of_empty {nodes : CredMapping} (h : CredOrdered (node :: nodes)) (hnode : node.urlPrefix = []) :
    ∀ other ∈ nodes, other.urlPrefix = [] := by
  intro other hmem
  have hlt := (List.pairwise_cons.mp h.sorted).1 other hmem
  rw [CredNode.key_lt_iff, hnode] at hlt
  rcases hlt with hlt | ⟨heq, -⟩
  · exact absurd hlt (List.not_lt_nil _)
  · exact heq.symm

/-- A lookup reads nothing in front of the URL if and only if a longer prefix ends the search before an empty one. -/
theorem credSearch_ok_iff (h : CredOrdered mapping) : (∃ found, credSearch type url mapping = .ok found) ↔
      (url ≠ [] → ∀ value, ⟨0, [], ⟨type, value⟩⟩ ∈ mapping → ∃ node ∈ mapping, node.urlPrefix ≠ [] ∧ node.serves type url = true) := by
  induction mapping with
  | nil => simp [credSearch]
  | cons node nodes ih =>
      have hrest : CredOrdered nodes := h.sublist (List.sublist_cons_self node nodes)
      have hlen := h.prefixLen node List.mem_cons_self
      by_cases hempty : node.prefixLen = 0
      · have hnode : node.urlPrefix = [] := by rw [← List.length_eq_zero_iff, ← hlen, hempty]
        have hother (other : CredNode) (hmem : other ∈ node :: nodes) : other.urlPrefix = [] := by
          rcases List.mem_cons.mp hmem with rfl | hmem
          · exact hnode
          · exact h.empty_of_empty hnode other hmem
        by_cases htype : node.cred.type = type
        · by_cases hurl : url = []
          · have htests : node.tests type url = .ok true := by simp [CredNode.tests, htype, hnode, hempty, hurl, strncmp, strcmp_self]
            exact iff_of_true ⟨some node, by rw [credSearch, htests]⟩ fun hne => absurd hurl hne
          · have htests : node.tests type url = .error .arrayBounds := by
              simp [CredNode.tests, htype, hnode, hempty, strncmp, strcmp_self, List.length_pos_iff.mpr hurl]
            refine iff_of_false (by simp [credSearch, htests]) fun hserved => ?_
            have hthere : node = ⟨0, [], ⟨type, node.cred.value⟩⟩ := by rw [← htype, ← hnode, ← hempty]
            obtain ⟨other, hmem, hne, -⟩ := hserved hurl node.cred.value (hthere ▸ List.mem_cons_self)
            exact hne (hother other hmem)
        · have htests : node.tests type url = .ok false := by simp [CredNode.tests, htype]
          have hnot (value : Option CString) : ⟨0, [], ⟨type, value⟩⟩ ≠ node := by
            rintro rfl
            exact htype rfl
          rw [credSearch, htests]
          dsimp only
          rw [ih hrest]
          refine forall₂_congr fun _ value => ?_
          simp only [List.mem_cons, hnot, false_or]
          refine imp_congr_right fun _ => ?_
          constructor
          · rintro ⟨other, hmem, hserves⟩
            exact ⟨other, .inr hmem, hserves⟩
          · rintro ⟨other, rfl | hmem, hne, hserves⟩
            · exact absurd hnode hne
            · exact ⟨other, hmem, hne, hserves⟩
      · have htests : node.tests type url = .ok (node.serves type url) := CredNode.tests_of_nonempty hempty
        have hne : node.urlPrefix ≠ [] := fun hnil => hempty (by rw [hlen, hnil, List.length_nil])
        cases hserves : node.serves type url with
        | true =>
            refine iff_of_true ⟨some node, by rw [credSearch, htests, hserves]⟩ fun _ _ _ => ?_
            exact ⟨node, List.mem_cons_self, hne, hserves⟩
        | false =>
            have hnot (value : Option CString) : ⟨0, [], ⟨type, value⟩⟩ ≠ node := by
              rintro rfl
              exact hempty rfl
            rw [credSearch, htests, hserves]
            dsimp only
            rw [ih hrest]
            refine forall₂_congr fun _ value => ?_
            simp only [List.mem_cons, hnot, false_or]
            refine imp_congr_right fun _ => ?_
            constructor
            · rintro ⟨other, hmem, hother⟩
              exact ⟨other, .inr hmem, hother⟩
            · rintro ⟨other, rfl | hmem, hother⟩
              · rw [hserves] at hother
                exact absurd hother.2 (by simp)
              · exact ⟨other, hmem, hother⟩

/-! ### Calls -/

section Calls

variable {κ : Type} [DecidableEq κ]

/-- The calls on the mappings of all contexts. The callback of `gfal2_cred_foreach` is given the entries and changes nothing. -/
inductive CredCall (κ : Type) where
  | set (context : κ) (urlPrefix : CString) (cred : Option Gfal2Cred)
  | del (context : κ) (type url : CString)
  | get (context : κ) (type url : CString)
  | «foreach» (context : κ)
  | clean (context : κ)
  | copy (dest src : κ)

/-- `gfal2_cred_copy` where both contexts may be the same one. -/
def copyCreds (mappings : κ → CredMapping) (dest src : κ) : κ → CredMapping :=
  let cleaned := Function.update mappings dest (gfal2CredClean (mappings dest))
  Function.update cleaned dest
    ((cleaned src).foldl (fun mapping node => storeNode mapping (credNode node.urlPrefix node.cred)) (cleaned dest))

/-- One call. A null pointer that is dereferenced, or a read in front of a string, ends the process. -/
def credCall (option : κ → CString → CString → Option CString) : CredCall κ → (κ → CredMapping) → Except Fault (κ → CredMapping)
  | .set context urlPrefix cred, mappings =>
      match gfal2CredSet (mappings context) urlPrefix cred with
      | some mapping => .ok (Function.update mappings context mapping)
      | none => .error .nullDereference
  | .del context type url, mappings => .ok (Function.update mappings context (gfal2CredDel (mappings context) type url).2)
  | .get context type url, mappings => (gfal2CredGetRun (mappings context) (option context) type url).map fun _ => mappings
  | .foreach _, mappings => .ok mappings
  | .clean context, mappings => .ok (Function.update mappings context (gfal2CredClean (mappings context)))
  | .copy dest src, mappings => .ok (copyCreds mappings dest src)

/-- A call returns, and a context that is copied onto itself keeps its entries. -/
def CredTotal (option : κ → CString → CString → Option CString) (call : CredCall κ) (mappings : κ → CredMapping) : Prop :=
  ∃ mappings', credCall option call mappings = .ok mappings' ∧
    ∀ context, call = .copy context context → mappings' context = mappings context

/-- Nothing is stored under the prefix of a NULL credential, a longer prefix answers where there is an entry for the empty one, and a context
that is copied onto itself is empty. -/
def CredSafe (call : CredCall κ) (mappings : κ → CredMapping) : Prop :=
  match call with
  | .set context urlPrefix none => ∀ node ∈ mappings context, node.urlPrefix ≠ urlPrefix
  | .get context type url => url ≠ [] → ∀ value, ⟨0, [], ⟨type, value⟩⟩ ∈ mappings context →
      ∃ node ∈ mappings context, node.urlPrefix ≠ [] ∧ node.serves type url = true
  | .copy dest src => dest = src → mappings src = []
  | _ => True

variable {option : κ → CString → CString → Option CString} {call : CredCall κ} {mappings mappings' : κ → CredMapping}

theorem copyCreds_self (context : κ) : copyCreds mappings context context context = [] := by
  simp [copyCreds, gfal2CredClean]

section Ordered

variable (h : ∀ context, CredOrdered (mappings context))
include h

theorem credTotal_iff : CredTotal option call mappings ↔ CredSafe call mappings := by
  cases call with
  | set context urlPrefix cred =>
      cases cred with
      | some cred => exact iff_of_true ⟨_, rfl, nofun⟩ trivial
      | none =>
          show _ ↔ ∀ node ∈ mappings context, node.urlPrefix ≠ urlPrefix
          rw [CredTotal, credCall, gfal2CredSet]
          by_cases hstored : (mappings context).any (·.urlPrefix = urlPrefix) = true
          · rw [if_pos hstored]
            refine iff_of_false (fun ⟨_, hrun, _⟩ => nomatch hrun) fun hsafe => ?_
            obtain ⟨node, hmem, hprefix⟩ := List.any_eq_true.mp hstored
            exact hsafe node hmem (of_decide_eq_true hprefix)
          · rw [if_neg hstored]
            refine iff_of_true ⟨_, rfl, nofun⟩ fun node hmem hprefix => hstored ?_
            exact List.any_eq_true.mpr ⟨node, hmem, decide_eq_true hprefix⟩
  | del context type url => exact iff_of_true ⟨_, rfl, nofun⟩ trivial
  | get context type url =>
      refine Iff.trans ?_ (credSearch_ok_iff (h context))
      rw [CredTotal, credCall, gfal2CredGetRun]
      cases credSearch type url (mappings context) with
      | error fault => exact iff_of_false (fun ⟨_, hrun, _⟩ => nomatch hrun) fun ⟨_, hrun⟩ => nomatch hrun
      | ok found => exact iff_of_true ⟨_, rfl, nofun⟩ ⟨found, rfl⟩
  | «foreach» context => exact iff_of_true ⟨_, rfl, nofun⟩ trivial
  | clean context => exact iff_of_true ⟨_, rfl, nofun⟩ trivial
  | copy dest src =>
      constructor
      · rintro ⟨mappings', hrun, hkept⟩ rfl
        obtain rfl := Except.ok.inj hrun
        rw [← hkept dest rfl, copyCreds_self]
      · intro hsafe
        refine ⟨_, rfl, fun context hself => ?_⟩
        obtain ⟨rfl, rfl⟩ := CredCall.copy.inj hself
        rw [copyCreds_self, hsafe rfl]

theorem credOrdered_update {changed : κ} {mapping : CredMapping} (hmapping : CredOrdered mapping) (context : κ) :
    CredOrdered (Function.update mappings changed mapping context) := by
  by_cases heq : context = changed
  · subst heq
    simpa using hmapping
  · simpa [heq] using h context

theorem credOrdered_credCall (hcall : credCall option call mappings = .ok mappings') (context : κ) :
    CredOrdered (mappings' context) := by
  cases call with
  | set changed urlPrefix cred =>
      rw [credCall] at hcall
      cases cred with
      | some cred =>
          obtain rfl := Except.ok.inj hcall
          exact credOrdered_update h ((h changed).storeNode urlPrefix cred) context
      | none =>
          rw [gfal2CredSet] at hcall
          split at hcall
          next mapping hmapping =>
            obtain ⟨-, hsame⟩ := Option.ite_none_left_eq_some.mp hmapping
            obtain rfl := Option.some.inj hsame
            obtain rfl := Except.ok.inj hcall
            exact credOrdered_update h (h changed) context
          next => cases hcall
  | del changed type url =>
      obtain rfl := Except.ok.inj hcall
      refine credOrdered_update h ?_ context
      rw [gfal2CredDel]
      split
      · exact (h changed).sublist List.eraseP_sublist
      · exact h changed
  | get changed type url =>
      rw [credCall] at hcall
      cases hget : gfal2CredGetRun (mappings changed) (option changed) type url with
      | error fault => simp [hget, Except.map] at hcall
      | ok answer =>
          rw [hget] at hcall
          obtain rfl := Except.ok.inj hcall
          exact h context
  | «foreach» changed =>
      obtain rfl := Except.ok.inj hcall
      exact h context
  | clean changed =>
      obtain rfl := Except.ok.inj hcall
      exact credOrdered_update h credOrdered_nil context
  | copy dest src =>
      obtain rfl := Except.ok.inj hcall
      refine credOrdered_update (credOrdered_update h credOrdered_nil) ?_ context
      refine List.foldlRecOn _ _ ?_ fun mapping hmapping node _ => hmapping.storeNode _ _
      exact credOrdered_update h credOrdered_nil dest

end Ordered

/-- Along any sequence of calls on empty mappings, all calls are total if and only if all are safe. -/
theorem credCalls_total_iff (option : κ → CString → CString → Option CString) (calls : List (CredCall κ)) :
    Along (credCall option) (CredTotal option) calls (fun _ => []) ↔ Along (credCall option) CredSafe calls fun _ => [] :=
  along_iff (fun _ _ h => credTotal_iff h) (fun _ _ _ h hcall => credOrdered_credCall h hcall) fun _ => credOrdered_nil

/-- A NULL credential for a prefix that has one. -/
theorem null_credential_dereferenced : ¬∀ (option : Unit → CString → CString → Option CString) (calls : List (CredCall Unit)),
    Along (credCall option) (CredTotal option) calls fun _ => [] := by
  intro hall
  obtain ⟨-, hrest⟩ := hall (fun _ _ _ => none) [.set () (lit "gsiftp://host") (some ⟨lit "BEARER", some (lit "token")⟩),
    .set () (lit "gsiftp://host") none]
  obtain ⟨⟨mappings, hrun, -⟩, -⟩ := hrest _ rfl
  cases hrun

end Calls

end Gfal2
