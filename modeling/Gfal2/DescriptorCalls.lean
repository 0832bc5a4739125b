import Gfal2.DispatchContract
import Gfal2.FileIo

/-! What the calls on descriptors do: to the table, and through the plugins they reach to the world. An
opening is refused, or its plugin answers and the handle is stored or not; a call on a descriptor that is
not live is refused; a closing takes its descriptor away if its plugin returns zero. -/

namespace Gfal2

open Base Exec

variable {σ α : Type} {use : GfalFileHandle → Gfal σ (Ret α)} {fh : GfalFileHandle} {fd : Int}

/-! ### The operations on the table -/

section Operations

variable {context context' : Gfal2Context σ} {ret : Ret Int} {fuel : Nat} {failure : α}

/-- The context after some more random numbers were drawn. -/
def Gfal2Context.drawn (context : Gfal2Context σ) (n : Nat) : Gfal2Context σ := { context with randReads := n }

theorem drawKey_spec {start key : Int} (hstart : 0 ≤ start) (h : drawKey fuel start context = .ok (key, context')) :
    0 < key ∧ context.fdescs.lookup key = none ∧ ∃ n, context' = context.drawn n := by
  induction fuel generalizing start context with
  | zero => cases h
  | succ fuel ih =>
      rw [drawKey, get_bind_apply] at h
      split at h
      next htaken =>
        obtain ⟨next, context₁, hrand, hrest⟩ := bind_eq_ok.mp h
        cases hrand
        obtain ⟨hpos, hfree, n, rfl⟩ := ih (Int.natCast_nonneg _) hrest
        exact ⟨hpos, hfree, n, rfl⟩
      next hfresh =>
        cases h
        obtain ⟨hne, hfree⟩ := not_or.mp hfresh
        exact ⟨by omega, by simpa using hfree, _, rfl⟩

theorem gfalAddNewFileDesc_spec {pfile : GfalFileHandle} (h : gfalAddNewFileDesc fuel pfile context = .ok (ret, context')) :
    ∃ n, (ret.val = 0 ∧ context' = context.drawn n) ∨
      (0 < ret.val ∧ context.fdescs.lookup ret.val = none ∧
        context' = { context.drawn n with fdescs := context.fdescs.insert ret.val pfile }) := by
  obtain ⟨key, context₁, hkey, hrest⟩ := bind_eq_ok.mp h
  obtain ⟨start, context₂, hrand, hkey⟩ := bind_eq_ok.mp hkey
  cases hrand
  rw [get_bind_apply] at hkey
  split at hkey
  · cases hkey
    cases hrest
    exact ⟨_, .inl ⟨rfl, rfl⟩⟩
  · obtain ⟨drawn, context₃, hdraw, hkey⟩ := bind_eq_ok.mp hkey
    obtain ⟨hpos, hfree, n, rfl⟩ := drawKey_spec (Int.natCast_nonneg _) hdraw
    cases hkey
    rw [if_pos (by simpa using hpos.ne')] at hrest
    cases hrest
    exact ⟨n, .inr ⟨hpos, hfree, rfl⟩⟩

theorem gfalFileHandleBind_of_dead {key : Int} (h0 : key ≠ 0) (hdead : context.fdescs.lookup key = none) :
    gfalFileHandleBind key context = .ok (⟨none, some badFileDescriptor⟩, context) := by
  simp only [gfalFileHandleBind, if_neg h0, get_bind_apply, hdead, pure_apply]

theorem gfalFileHandleBind_of_bound {key : Int} (h0 : key ≠ 0) (hbound : context.fdescs.lookup key = some fh) :
    gfalFileHandleBind key context = .ok (⟨some fh, none⟩, context) := by
  simp only [gfalFileHandleBind, if_neg h0, get_bind_apply, hbound, pure_apply]

theorem onDescriptor_of_bound {key : Int} (h0 : key ≠ 0) (hbound : context.fdescs.lookup key = some fh) :
    onDescriptor key failure use context = use fh context := by
  rw [onDescriptor, bind_of_ok (gfalFileHandleBind_of_bound h0 hbound)]

theorem onDescriptor_of_dead {key : Int} (h0 : key ≠ 0) (hdead : context.fdescs.lookup key = none) :
    onDescriptor key failure use context = .ok (⟨failure, some badFileDescriptor⟩, context) := by
  rw [onDescriptor, bind_of_ok (gfalFileHandleBind_of_dead h0 hdead)]
  rfl

/-- The call fails and does nothing else; the code of the error is `EBADF` under the condition. -/
def Refuses (named : Prop) (failure : α) (call : Gfal σ (Ret α)) (context : Gfal2Context σ) : Prop :=
  ∃ e, (named → e.code = EBADF) ∧ call context = .ok (⟨failure, some e⟩, context)

theorem guarded_of_dead {e : GError} (hcode : e.code = EBADF) (hdead : context.fdescs.lookup fd = none) :
    Refuses True failure (if fd ≤ 0 then return ⟨failure, some e⟩ else onDescriptor fd failure use) context := by
  split
  · exact ⟨e, fun _ => hcode, rfl⟩
  next hpos => exact ⟨badFileDescriptor, fun _ => rfl, onDescriptor_of_dead (by omega) hdead⟩

theorem onFile_of_dead (hdead : context.fdescs.lookup fd = none) : Refuses True failure (onFile fd failure use) context :=
  guarded_of_dead rfl hdead

theorem onFile_of_bound (hpos : 0 < fd)
    (hbound : context.fdescs.lookup fd = some fh) : onFile fd failure use context = use fh context := by
  rw [onFile, if_neg (by omega), onDescriptor_of_bound hpos.ne' hbound]

/-- The codes of a pointer that is null, or is as an `int`, are others. -/
theorem onDirectory_of_dead {dir : Int} (hdead : context.fdescs.lookup (toInt32 dir) = none) :
    Refuses (toInt32 dir ≠ 0) failure (onDirectory dir failure use) context := by
  unfold onDirectory
  split
  next hnull =>
    subst hnull
    exact ⟨nullDirectory, fun h => absurd rfl h, rfl⟩
  · by_cases h0 : toInt32 dir = 0
    · rw [h0]
      exact ⟨_, fun h => absurd rfl h, rfl⟩
    · exact ⟨badFileDescriptor, fun _ => rfl, onDescriptor_of_dead h0 hdead⟩

theorem onDirectory_of_bound {dir : Int} (hpos : 0 < toInt32 dir) (hbound : context.fdescs.lookup (toInt32 dir) = some fh) :
    onDirectory dir failure use context = use fh context := by
  have hne : dir ≠ 0 := by
    intro h
    subst h
    exact absurd hpos (by decide)
  rw [onDirectory, if_neg hne, onDescriptor_of_bound hpos.ne' hbound]

theorem gfalRemoveFileDesc_of_bound {key : Int} (hbound : context.fdescs.lookup key = some fh) :
    gfalRemoveFileDesc key context = .ok (⟨true, none⟩, { context with fdescs := context.fdescs.erase key }) := by
  simp only [gfalRemoveFileDesc, get_bind_apply, modify_bind_apply, hbound]
  rfl

/-- The descriptor is taken away exactly if the plugin returns zero. -/
theorem closeBound_spec {key : Int} {close : Gfal σ (Ret Int)} {closed : Ret Int} {middle : Gfal2Context σ}
    (hclose : close context = .ok (closed, middle)) (hbound : middle.fdescs.lookup key = some fh) :
    closeBound key close context =
      if closed.val = 0 then .ok (⟨0, closed.err⟩, { middle with fdescs := middle.fdescs.erase key })
      else .ok (closed, middle) := by
  rw [closeBound, bind_of_ok hclose]
  split
  · rw [bind_of_ok (gfalRemoveFileDesc_of_bound hbound)]
    simp
  · rfl

end Operations

/-! ### Calls -/

/-- A call on the table, with the arguments of its caller. -/
inductive DescriptorCall where
  | open2 (uri : Option CString) (flag mode : Nat)
  | opendir (name : Option CString)
  | io (fd : Int) (call : IoCall)
  | flush (fd : Int)
  | readdir (dir : Int)
  | readdirpp (dir : Int) (st : FileType)
  | close (fd : Int)
  | closedir (dir : Int)

namespace DescriptorCall

/-- The call, with the value of a reading reduced to its count and that of a listing to whether it has an
entry. -/
def run (fuel : Nat) : DescriptorCall → Gfal σ (Ret Int)
  | .open2 uri flag mode => gfal2Open2 fuel uri flag mode
  | .opendir name => gfal2Opendir fuel name
  | .io fd call => do
      let answer ← call.gfal2 mapPluginIo fd
      return ⟨answer.val.1, answer.err⟩
  | .flush fd => gfal2Flush fd
  | .readdir dir => do
      let answer ← gfal2Readdir dir
      return ⟨if answer.val.isSome then 0 else -1, answer.err⟩
  | .readdirpp dir st => do
      let answer ← gfal2Readdirpp dir st
      return ⟨if answer.val.1.isSome then 0 else -1, answer.err⟩
  | .close fd => gfal2Close fd
  | .closedir dir => gfal2Closedir dir

/-- The call of the plugin that an opening makes. -/
def opening : DescriptorCall → Option (Gfal σ (Ret (Option GfalFileHandle)))
  | .open2 (some uri) flag mode => some (gfalPluginOpenG uri flag mode)
  | .opendir (some name) => some (gfalPluginOpendirG name)
  | _ => none

/-- The descriptor that the call is about. -/
def key : DescriptorCall → Option Int
  | .open2 .. | .opendir _ => none
  | .io fd _ | .flush fd | .close fd => some fd
  | .readdir dir | .readdirpp dir _ | .closedir dir => some (toInt32 dir)

/-- The call of the plugin that a closing makes, with the descriptor. -/
def closing : DescriptorCall → Option (Int × (GfalFileHandle → Gfal σ (Ret Int)))
  | .close fd => some (fd, fun fh => gfalPluginCloseG (some fh))
  | .closedir dir => some (toInt32 dir, fun fh => gfalPluginClosedirG (some fh))
  | _ => none

def returnedHandle (call : DescriptorCall) (context : Gfal2Context σ) : Option GfalFileHandle :=
  if context.readings.cancel context.cancelReads then none
  else
    match call.opening with
    | none => none
    | some opened =>
        match opened context.inScope with
        | .ok (answer, _) => answer.val
        | .error _ => none

/-- A call that looks at the cancel flag finds it set. -/
def Cancelled (call : DescriptorCall) (context : Gfal2Context σ) : Prop :=
  match call with
  | .close _ | .closedir _ | .flush _ => False
  | _ => context.readings.cancel context.cancelReads = true

/-- The call is about a pointer that is zero as an `int`. -/
def OnNull : DescriptorCall → Prop
  | .readdir dir | .readdirpp dir _ | .closedir dir => toInt32 dir = 0
  | _ => False

/-- The call flushes what is no live descriptor. -/
def FlushesDead (call : DescriptorCall) (context : Gfal2Context σ) : Prop :=
  ∃ fd, call = .flush fd ∧ context.fdescs.lookup fd = none

end DescriptorCall

variable {opened : Gfal σ (Ret (Option GfalFileHandle))}

section Effects

variable {context context' middle : Gfal2Context σ} {ret : Ret Int} {fuel : Nat} {call : DescriptorCall}

/-- The table, the world and the plugins are the same. -/
structure Untouched (context context' : Gfal2Context σ) : Prop where
  fdescs : context'.fdescs = context.fdescs
  world : context'.world = context.world
  pluginOpt : context'.pluginOpt = context.pluginOpt
  pluginDir : context'.pluginDir = context.pluginDir

theorem untouched_drawn (n : Nat) : Untouched context (context.drawn n) := ⟨rfl, rfl, rfl, rfl⟩

theorem untouched_inScope : Untouched context context.inScope := ⟨rfl, rfl, rfl, rfl⟩

/-- The outcomes of an opening: refused before its plugin is asked, not stored, or stored. -/
inductive OpenEffect (call : DescriptorCall) (context : Gfal2Context σ) (ret : Ret Int) (context' : Gfal2Context σ) :
    Prop where
  | refused (hhandle : call.returnedHandle context = none) (hret : ret.val ≤ 0) (hsame : Untouched context context')
  | unstored {opened : Gfal σ (Ret (Option GfalFileHandle))} {answer : Ret (Option GfalFileHandle)}
      {middle : Gfal2Context σ} (hopening : call.opening = some opened)
      (hopened : opened context.inScope = .ok (answer, middle)) (hret : ret.val ≤ 0)
      (hsame : Untouched middle context')
  | stored {opened : Gfal σ (Ret (Option GfalFileHandle))} {answer : Ret (Option GfalFileHandle)}
      {middle : Gfal2Context σ} {fh : GfalFileHandle} (hopening : call.opening = some opened)
      (hopened : opened context.inScope = .ok (answer, middle)) (hanswer : answer.val = some fh)
      (hhandle : call.returnedHandle context = some fh) (hret : 0 < ret.val)
      (hfree : middle.fdescs.lookup ret.val = none)
      (hsame : Untouched { middle with fdescs := middle.fdescs.insert ret.val fh } context')

variable {failure : Int}

theorem storeOpened_spec (hfailure : failure ≤ 0) (h : storeOpened fuel failure opened context = .ok (ret, context')) :
    ∃ answer middle, opened context = .ok (answer, middle) ∧
      ((ret.val ≤ 0 ∧ Untouched middle context') ∨
        ∃ fh, answer.val = some fh ∧ 0 < ret.val ∧ middle.fdescs.lookup ret.val = none ∧
          Untouched { middle with fdescs := middle.fdescs.insert ret.val fh } context') := by
  obtain ⟨answer, middle, hopened, hrest⟩ := bind_eq_ok.mp h
  refine ⟨answer, middle, hopened, ?_⟩
  cases hanswer : answer.val with
  | none =>
      rw [hanswer] at hrest
      cases hrest
      exact .inl ⟨hfailure, rfl, rfl, rfl, rfl⟩
  | some fh =>
      rw [hanswer] at hrest
      obtain ⟨key, stored, hkey, hrest⟩ := bind_eq_ok.mp hrest
      cases hrest
      obtain ⟨n, ⟨hzero, rfl⟩ | ⟨hpos, hfree, rfl⟩⟩ := gfalAddNewFileDesc_spec hkey
      · exact .inl ⟨hzero.le, untouched_drawn n⟩
      · exact .inr ⟨fh, rfl, hpos, hfree, rfl, rfl, rfl, rfl⟩

theorem openEffect_of_scope (hfailure : failure ≤ 0) (hopening : call.opening = some opened)
    (h : scopeCancel failure (storeOpened fuel failure opened) context = .ok (ret, context')) :
    OpenEffect call context ret context' := by
  obtain ⟨hflag, rfl, rfl⟩ | ⟨hflag, middle, hbody, rfl⟩ := scopeCancel_eq_ok h
  · exact .refused (by rw [DescriptorCall.returnedHandle, if_pos hflag]) hfailure ⟨rfl, rfl, rfl, rfl⟩
  · obtain ⟨answer, answered, hopened, hstore⟩ := storeOpened_spec hfailure hbody
    obtain ⟨hret, hsame⟩ | ⟨fh, hanswer, hret, hfree, hsame⟩ := hstore
    · exact .unstored hopening hopened hret ⟨hsame.fdescs, hsame.world, hsame.pluginOpt, hsame.pluginDir⟩
    · refine .stored hopening hopened hanswer ?_ hret hfree
        ⟨hsame.fdescs, hsame.world, hsame.pluginOpt, hsame.pluginDir⟩
      rw [DescriptorCall.returnedHandle, if_neg (by simp [hflag]), hopening]
      simp only [hopened, hanswer]

theorem openEffect_of_null {e : GError} (hfailure : failure ≤ 0) (hopening : call.opening (σ := σ) = none)
    (h : scopeCancel failure (storeOpened fuel failure (return ⟨none, some e⟩)) context = .ok (ret, context')) :
    OpenEffect call context ret context' := by
  have hhandle : call.returnedHandle context = none := by
    rw [DescriptorCall.returnedHandle, hopening]
    simp
  obtain ⟨-, rfl, rfl⟩ | ⟨-, middle, hbody, rfl⟩ := scopeCancel_eq_ok h
  · exact .refused hhandle hfailure ⟨rfl, rfl, rfl, rfl⟩
  · cases hbody
    exact .refused hhandle hfailure ⟨rfl, rfl, rfl, rfl⟩

theorem openEffect_of_run (hkey : call.key = none) (h : call.run fuel context = .ok (ret, context')) :
    OpenEffect call context ret context' := by
  cases call with
  | open2 uri flag mode =>
      cases uri with
      | none => exact openEffect_of_null (by decide) rfl h
      | some uri => exact openEffect_of_scope (by decide) rfl h
  | opendir name =>
      cases name with
      | none => exact openEffect_of_null (by decide) rfl h
      | some name => exact openEffect_of_scope (by decide) rfl h
  | io | flush | readdir | readdirpp | close | closedir => cases hkey

theorem refused_of_scope {named : Prop} {failure : α} {body : Gfal σ (Ret α)} {answer : Ret α}
    (hbody : Refuses named failure body context.inScope)
    (h : scopeCancel failure body context = .ok (answer, context')) :
    answer.val = failure ∧ Untouched context context' ∧
      (named → ¬context.readings.cancel context.cancelReads = true → ∃ e, answer.err = some e ∧ e.code = EBADF) := by
  obtain ⟨hflag, rfl, rfl⟩ | ⟨hflag, middle, hrun, rfl⟩ := scopeCancel_eq_ok h
  · exact ⟨rfl, ⟨rfl, rfl, rfl, rfl⟩, fun _ hclear => absurd hflag hclear⟩
  · obtain ⟨e, hcode, hrefused⟩ := hbody
    rw [hrefused] at hrun
    cases hrun
    exact ⟨rfl, ⟨rfl, rfl, rfl, rfl⟩, fun hnamed _ => ⟨e, rfl, hcode hnamed⟩⟩

theorem refused_of_close {named : Prop} {body : Gfal σ (Ret Int)} (hbody : Refuses named (-1) body context)
    (h : body context = .ok (ret, context')) :
    ret.val = -1 ∧ Untouched context context' ∧ (named → ∃ e, ret.err = some e ∧ e.code = EBADF) := by
  obtain ⟨e, hcode, hrefused⟩ := hbody
  rw [hrefused] at h
  cases h
  exact ⟨rfl, ⟨rfl, rfl, rfl, rfl⟩, fun hnamed => ⟨e, rfl, hcode hnamed⟩⟩

theorem refused_withoutBytes {body : Gfal σ (Ret Int)} {answer : Ret (Int × List UInt8)}
    (hbody : Refuses True (-1) body context.inScope)
    (h : withoutBytes (scopeCancel (-1) body) context = .ok (answer, context')) :
    answer.val.1 = -1 ∧ Untouched context context' ∧
      (¬context.readings.cancel context.cancelReads = true → ∃ e, answer.err = some e ∧ e.code = EBADF) := by
  obtain ⟨result, _, hresult, hrest⟩ := bind_eq_ok.mp h
  cases hrest
  obtain ⟨hval, hsame, hcode⟩ := refused_of_scope hbody hresult
  exact ⟨hval, hsame, hcode trivial⟩

theorem io_of_dead {io : IoCall} {answer : Ret (Int × List UInt8)} (hdead : context.fdescs.lookup fd = none)
    (h : io.gfal2 mapPluginIo fd context = .ok (answer, context')) :
    answer.val.1 = -1 ∧ Untouched context context' ∧
      (¬context.readings.cancel context.cancelReads = true → ∃ e, answer.err = some e ∧ e.code = EBADF) := by
  cases io with
  | lseek offset whence => exact refused_withoutBytes (guarded_of_dead rfl hdead) h
  | write buff => exact refused_withoutBytes (onFile_of_dead hdead) h
  | pwrite buff offset => exact refused_withoutBytes (guarded_of_dead rfl hdead) h
  | read size =>
      obtain ⟨hval, hsame, hcode⟩ := refused_of_scope (onFile_of_dead hdead) h
      exact ⟨congrArg Prod.fst hval, hsame, hcode trivial⟩
  | pread size offset =>
      obtain ⟨hval, hsame, hcode⟩ := refused_of_scope (onFile_of_dead hdead) h
      exact ⟨congrArg Prod.fst hval, hsame, hcode trivial⟩

/-- Every call but a flush on a descriptor that is not live is refused, with `EBADF` unless it is about a null pointer
or cancelled. -/
theorem run_of_dead {key : Int} (hkey : call.key = some key) (hdead : context.fdescs.lookup key = none)
    (hflush : ¬call.FlushesDead context) (h : call.run fuel context = .ok (ret, context')) :
    ret.val = -1 ∧ Untouched context context' ∧
      (¬call.OnNull → ¬call.Cancelled context → ∃ e, ret.err = some e ∧ e.code = EBADF) := by
  cases call with
  | open2 | opendir => cases hkey
  | io fd io =>
      cases hkey
      obtain ⟨answer, _, hanswer, hrest⟩ := bind_eq_ok.mp h
      cases hrest
      obtain ⟨hval, hsame, hcode⟩ := io_of_dead hdead hanswer
      exact ⟨hval, hsame, fun _ => hcode⟩
  | flush =>
      cases hkey
      exact absurd ⟨key, rfl, hdead⟩ hflush
  | readdir dir =>
      cases hkey
      obtain ⟨answer, _, hread, hrest⟩ := bind_eq_ok.mp h
      cases hrest
      obtain ⟨hval, hsame, hcode⟩ := refused_of_scope (onDirectory_of_dead hdead) hread
      exact ⟨by simp [hval], hsame, hcode⟩
  | readdirpp dir st =>
      cases hkey
      obtain ⟨answer, _, hread, hrest⟩ := bind_eq_ok.mp h
      cases hrest
      obtain ⟨hval, hsame, hcode⟩ := refused_of_scope (onDirectory_of_dead hdead) hread
      exact ⟨by simp [hval], hsame, hcode⟩
  | close fd =>
      cases hkey
      obtain ⟨hval, hsame, hcode⟩ := refused_of_close (onFile_of_dead hdead) h
      exact ⟨hval, hsame, fun _ _ => hcode trivial⟩
  | closedir dir =>
      cases hkey
      obtain ⟨hval, hsame, hcode⟩ := refused_of_close (onDirectory_of_dead hdead) h
      exact ⟨hval, hsame, fun hnull _ => hcode hnull⟩

theorem run_of_closing {key : Int} {close : GfalFileHandle → Gfal σ (Ret Int)}
    (hclosing : call.closing = some (key, close)) (hpos : 0 < key) (hbound : context.fdescs.lookup key = some fh) :
    call.run fuel context = closeBound key (close fh) context := by
  cases call with
  | close fd =>
      cases hclosing
      exact onFile_of_bound hpos hbound
  | closedir dir =>
      cases hclosing
      exact onDirectory_of_bound hpos hbound
  | open2 | opendir | io | flush | readdir | readdirpp => cases hclosing

end Effects

/-! ### Calls of plugins -/

section Plugins

/-- A call of the plugin that opens a file or a directory. -/
def GfalPluginInterface.Opens (p : GfalPluginInterface σ) (f : Callback σ (Ret (Option GfalFileHandle))) : Prop :=
  (∃ g path flag mode, p.openG = some g ∧ f = g path flag mode) ∨ ∃ g path, p.opendirG = some g ∧ f = g path

def GfalPluginInterface.Closes (p : GfalPluginInterface σ) (fh : GfalFileHandle) (f : Callback σ (Ret Int)) : Prop :=
  (∃ g, p.closeG = some g ∧ f = g fh) ∨ ∃ g, p.closedirG = some g ∧ f = g fh

/-- What a call of the plugin that seeks, reads, writes, lists or stats does to the world. -/
inductive GfalPluginInterface.Uses (p : GfalPluginInterface σ) : (σ → σ) → Prop where
  | seeks {g} (h : p.lseekG = some g) (fh : GfalFileHandle) (offset whence : Int) : p.Uses fun world => (g fh offset whence world).2
  | reads {g} (h : p.readG = some g) (fh : GfalFileHandle) (size : Nat) : p.Uses fun world => (g fh size world).2
  | writes {g} (h : p.writeG = some g) (fh : GfalFileHandle) (buff : List UInt8) : p.Uses fun world => (g fh buff world).2
  | readsAt {g} (h : p.preadG = some g) (fh : GfalFileHandle) (size : Nat) (offset : Int) : p.Uses fun world => (g fh size offset world).2
  | writesAt {g} (h : p.pwriteG = some g) (fh : GfalFileHandle) (buff : List UInt8) (offset : Int) :
      p.Uses fun world => (g fh buff offset world).2
  | lists {g} (h : p.readdirG = some g) (fh : GfalFileHandle) : p.Uses fun world => (g fh world).2
  | stats {g} (h : p.statG = some g) (path : CString) (st : FileType) : p.Uses fun world => (g path st world).2
  | listsStats {g} (h : p.readdirppG = some g) (fh : GfalFileHandle) (st : FileType) : p.Uses fun world => (g fh st world).2

/-- A property of contexts that loading keeps and that is about the table, the world and the plugins. -/
structure AboutTable (inv : Gfal2Context σ → Prop) : Prop where
  load : LoadStable inv
  same : ∀ {context context' : Gfal2Context σ}, inv context → Untouched context context' → inv context'

variable {inv : Gfal2Context σ → Prop} {context context' middle : Gfal2Context σ} {call : DescriptorCall}

theorem opening_outcome (hinv : AboutTable inv) (h : inv context)
    {answer : Ret (Option GfalFileHandle)} (hopening : call.opening = some opened)
    (hopened : opened context = .ok (answer, middle)) :
    (answer.val = none ∧ inv middle) ∨ ∃ loaded slot f, inv loaded ∧ (loaded.pluginOpt.pluginList slot).Opens f ∧
      answer = (f loaded.world).1 ∧ Untouched { loaded with world := (f loaded.world).2 } middle := by
  have hdispatched : ∀ mode which (callback : GfalPluginInterface σ → _) path,
      (∀ p f, callback p = some f → p.Opens f) → dispatchUrl mode which path none callback context = .ok (answer, middle) →
      (answer.val = none ∧ inv middle) ∨ ∃ loaded slot f, inv loaded ∧ (loaded.pluginOpt.pluginList slot).Opens f ∧
        answer = (f loaded.world).1 ∧ Untouched { loaded with world := (f loaded.world).2 } middle := by
    intro mode which callback path hcallback hrun
    obtain ⟨loaded, hloaded, ⟨hnone, rfl⟩ | ⟨slot, f, hf, hanswer, rfl⟩⟩ := dispatchUrl_outcome hinv.load h hrun
    · exact .inl ⟨hnone, hloaded⟩
    · exact .inr ⟨loaded, slot, f, hloaded, hcallback _ _ hf, hanswer, rfl, rfl, rfl, rfl⟩
  cases call with
  | open2 uri flag mode =>
      cases uri with
      | none => cases hopening
      | some uri =>
          cases hopening
          refine hdispatched _ _ _ _ ?_ hopened
          intro p f hf
          obtain ⟨g, hg, rfl⟩ := Option.map_eq_some_iff.mp hf
          exact .inl ⟨g, uri, flag, mode, hg, rfl⟩
  | opendir name =>
      cases name with
      | none => cases hopening
      | some name =>
          cases hopening
          refine hdispatched _ _ _ _ ?_ hopened
          intro p f hf
          obtain ⟨g, hg, rfl⟩ := Option.map_eq_some_iff.mp hf
          exact .inr ⟨g, name, hg, rfl⟩
  | io | flush | readdir | readdirpp | close | closedir => cases hopening

theorem not_flushesDead_of_closing {closing : Int × (GfalFileHandle → Gfal σ (Ret Int))} (hclosing : call.closing = some closing) :
    ¬call.FlushesDead context := by
  rintro ⟨fd, rfl, -⟩
  cases hclosing

theorem closing_outcome (hinv : AboutTable inv) (h : inv context) {key : Int}
    {close : GfalFileHandle → Gfal σ (Ret Int)} {closed : Ret Int} (hclosing : call.closing = some (key, close))
    (hclose : close fh context = .ok (closed, middle)) :
    inv middle ∨ ∃ loaded slot f, inv loaded ∧ (loaded.pluginOpt.pluginList slot).Closes fh f ∧
      closed = (f loaded.world).1 ∧ Untouched { loaded with world := (f loaded.world).2 } middle := by
  have hdispatched : ∀ which (callback : GfalPluginInterface σ → _),
      (∀ p f, callback p = some f → p.Closes fh f) → dispatchHandle which fh (-1) callback context = .ok (closed, middle) →
      inv middle ∨ ∃ loaded slot f, inv loaded ∧ (loaded.pluginOpt.pluginList slot).Closes fh f ∧
        closed = (f loaded.world).1 ∧ Untouched { loaded with world := (f loaded.world).2 } middle := by
    intro which callback hcallback hrun
    obtain ⟨loaded, hloaded, ⟨-, rfl⟩ | ⟨slot, f, hf, hclosed, rfl⟩⟩ := dispatchHandle_outcome hinv.load h hrun
    · exact .inl hloaded
    · exact .inr ⟨loaded, slot, f, hloaded, hcallback _ _ hf, hclosed, rfl, rfl, rfl, rfl⟩
  cases call with
  | close fd =>
      cases hclosing
      refine hdispatched _ _ ?_ hclose
      intro p f hf
      obtain ⟨g, hg, rfl⟩ := Option.map_eq_some_iff.mp hf
      exact .inl ⟨g, hg, rfl⟩
  | closedir dir =>
      cases hclosing
      refine hdispatched _ _ ?_ hclose
      intro p f hf
      obtain ⟨g, hg, rfl⟩ := Option.map_eq_some_iff.mp hf
      exact .inr ⟨g, hg, rfl⟩
  | open2 | opendir | io | flush | readdir | readdirpp => cases hclosing

theorem preserves_onDescriptor {failure : α} {key : Int}
    (huse : ∀ fh, Preserves inv (use fh)) : Preserves inv (onDescriptor key failure use) := by
  have hbind : Preserves inv (gfalFileHandleBind key) := by
    refine Preserves.ite (Preserves.pure _) (Preserves.get.bind fun context => ?_)
    cases context.fdescs.lookup key with
    | none => exact Preserves.pure _
    | some fh => exact Preserves.pure _
  refine hbind.bind fun bound => ?_
  cases bound.val with
  | none => exact Preserves.pure _
  | some fh => exact huse fh

theorem preserves_onFile {failure : α} (huse : ∀ fh, Preserves inv (use fh)) : Preserves inv (onFile fd failure use) :=
  Preserves.ite (Preserves.pure _) (preserves_onDescriptor huse)

theorem preserves_onDirectory {failure : α} {dir : Int}
    (huse : ∀ fh, Preserves inv (use fh)) : Preserves inv (onDirectory dir failure use) :=
  Preserves.ite (Preserves.pure _) (preserves_onDescriptor huse)

namespace AboutTable

variable (hinv : AboutTable inv)

include hinv

theorem inScope {retErrValue : α} {body : Gfal σ (Ret α)} (hbody : Preserves inv body) :
    Preserves inv (scopeCancel retErrValue body) := by
  refine preserves_scopeCancel ?_ (fun context n h => hinv.same h ⟨rfl, rfl, rfl, rfl⟩) hbody
  intro context h cancelled context' heq
  cases heq
  exact hinv.same h ⟨rfl, rfl, rfl, rfl⟩

theorem handed {which : PluginCallback} {failure : α} {callback : GfalPluginInterface σ → Option (Callback σ (Ret α))}
    (hcall : ∀ context slot f, inv context → callback (context.pluginOpt.pluginList slot) = some f →
      inv { context with world := (f context.world).2 }) :
    Preserves inv (dispatchHandle which fh failure callback) := by
  intro context h ret context' heq
  obtain ⟨loaded, hloaded, ⟨-, rfl⟩ | ⟨slot, f, hf, -, rfl⟩⟩ := dispatchHandle_outcome hinv.load h heq
  · exact hloaded
  · exact hinv.same (hcall loaded slot f hloaded hf) ⟨rfl, rfl, rfl, rfl⟩

/-- What the callbacks of a handle keep, with the plugin in its slot, a dispatcher keeps. -/
theorem onIo {failure : α} {use : HandleIo σ → Gfal σ (Ret α)}
    (huse : ∀ slot plugin, Preserves (fun context => inv context ∧ context.pluginOpt.pluginList slot = plugin)
      (use (pluginIo slot plugin fh))) : Preserves inv (onIo mapPluginIo fh failure use) := by
  intro context h ret context' hrun
  obtain ⟨found, middle, hmap, hrest⟩ := bind_eq_ok.mp hrun
  obtain ⟨mapped, loaded, hmapped, hfound⟩ := bind_eq_ok.mp hmap
  have hloaded := preserves_gfalPluginMapFileHandle hinv.load.pluginsInstance fh context h mapped loaded hmapped
  cases hslot : mapped.val with
  | none =>
      rw [hslot] at hfound
      cases hfound
      cases hrest
      exact hloaded
  | some slot =>
      rw [hslot] at hfound
      cases hfound
      exact (huse slot _ _ ⟨hloaded, rfl⟩ ret context' hrest).1

variable (huses : ∀ context slot f, inv context → (context.pluginOpt.pluginList slot).Uses f →
  inv { context with world := f context.world })

include huses

/-- One callback of a handle. -/
theorem used {slot : Slot} {plugin : GfalPluginInterface σ} {which : PluginCallback} {callback : Option (Callback σ (Ret α))}
    (hcallback : ∀ call, callback = some call → plugin.Uses fun world => (call world).2) :
    Preserves (fun context => inv context ∧ context.pluginOpt.pluginList slot = plugin) (callPlugin slot which callback) := by
  rintro context ⟨h, hplugin⟩ ret context' hrun
  obtain ⟨call, hcall, -, rfl⟩ := callPlugin_eq_ok.mp hrun
  exact ⟨hinv.same (huses context slot _ h (hplugin ▸ hcallback call hcall)) ⟨rfl, rfl, rfl, rfl⟩, hplugin⟩

/-- What the plugins keep when they seek, read and write is kept by every call on an open file. -/
theorem onHandle (fd : Int) (io : IoCall) : Preserves inv (io.gfal2 mapPluginIo fd) := by
  have hseek : ∀ {slot plugin fh} (offset whence : Int),
      Preserves (fun context => inv context ∧ context.pluginOpt.pluginList slot = plugin)
        ((pluginIo slot plugin fh).lseekG offset whence) := fun offset whence => hinv.used huses fun call hcall => by
    obtain ⟨g, hg, rfl⟩ := Option.map_eq_some_iff.mp hcall
    exact .seeks hg _ offset whence
  have hread : ∀ {slot plugin fh} (size : Nat),
      Preserves (fun context => inv context ∧ context.pluginOpt.pluginList slot = plugin)
        ((pluginIo slot plugin fh).readG size) := fun size => hinv.used huses fun call hcall => by
    obtain ⟨g, hg, rfl⟩ := Option.map_eq_some_iff.mp hcall
    exact .reads hg _ size
  have hwrite : ∀ {slot plugin fh} (buff : List UInt8),
      Preserves (fun context => inv context ∧ context.pluginOpt.pluginList slot = plugin)
        ((pluginIo slot plugin fh).writeG buff) := fun buff => hinv.used huses fun call hcall => by
    obtain ⟨g, hg, rfl⟩ := Option.map_eq_some_iff.mp hcall
    exact .writes hg _ buff
  have hsimulated : ∀ {β : Type} {slot plugin fh} (offset : Int) (failed : Int → β) {use : Gfal σ (Ret β)},
      Preserves (fun context => inv context ∧ context.pluginOpt.pluginList slot = plugin) use →
      Preserves (fun context => inv context ∧ context.pluginOpt.pluginList slot = plugin)
        (simulateAt (pluginIo slot plugin fh) offset failed use) := fun offset failed _ huse =>
    (hseek offset 0).bind fun sought => Preserves.ite (huse.bind fun _ => Preserves.pure _)
      (Preserves.ite (Preserves.pure _) (Preserves.pure _))
  have hguard : ∀ {β : Type} {failure : β} {e : GError} {use : GfalFileHandle → Gfal σ (Ret β)},
      (∀ fh, Preserves inv (use fh)) →
      Preserves inv (scopeCancel failure (if fd ≤ 0 then return ⟨failure, some e⟩ else onDescriptor fd failure use)) :=
    fun huse => hinv.inScope (Preserves.ite (Preserves.pure _) (preserves_onDescriptor huse))
  cases io with
  | lseek offset whence =>
      exact (hguard fun fh => (hinv.onIo fun _ _ => hseek offset whence).bind fun _ => Preserves.pure _).bind fun _ => Preserves.pure _
  | read size =>
      exact hguard fun fh => Preserves.ite (Preserves.pure _) ((hinv.onIo fun _ _ => hread size).bind fun _ => Preserves.pure _)
  | write buff =>
      exact (hguard fun fh => Preserves.ite (Preserves.pure _)
        ((hinv.onIo fun _ _ => hwrite buff).bind fun _ => Preserves.pure _)).bind fun _ => Preserves.pure _
  | pread size offset =>
      refine hguard fun fh => hinv.onIo fun slot plugin => ?_
      unfold HandleIo.pread
      cases hpread : plugin.preadG with
      | none =>
          rw [show (pluginIo slot plugin fh).preadG = none by rw [pluginIo, hpread]; rfl]
          exact hsimulated offset _ (hread size)
      | some g =>
          rw [show (pluginIo slot plugin fh).preadG = some _ by rw [pluginIo, hpread]; rfl]
          exact hinv.used huses fun call hcall => Option.some.inj hcall ▸ .readsAt hpread fh size offset
  | pwrite buff offset =>
      refine (hguard fun fh => (hinv.onIo fun slot plugin => ?_).bind fun _ => Preserves.pure _).bind fun _ => Preserves.pure _
      unfold HandleIo.pwrite
      cases hpwrite : plugin.pwriteG with
      | none =>
          rw [show (pluginIo slot plugin fh).pwriteG = none by rw [pluginIo, hpwrite]; rfl]
          exact hsimulated offset _ (hwrite buff)
      | some g =>
          rw [show (pluginIo slot plugin fh).pwriteG = some _ by rw [pluginIo, hpwrite]; rfl]
          exact hinv.used huses fun call hcall => Option.some.inj hcall ▸ .writesAt hpwrite fh buff offset

theorem listing (fh : GfalFileHandle) : Preserves inv (gfalPluginReaddirG fh) := by
  refine hinv.handed fun context slot f h hf => ?_
  obtain ⟨g, hg, rfl⟩ := Option.map_eq_some_iff.mp hf
  exact huses context slot _ h (.lists hg fh)

theorem statting (path : CString) (st : FileType) : Preserves inv (gfalPluginStatG path st) := by
  intro context h ret context' hrun
  obtain ⟨loaded, hloaded, ⟨-, rfl⟩ | ⟨slot, f, hf, -, rfl⟩⟩ := dispatchUrl_outcome hinv.load h hrun
  · exact hloaded
  · obtain ⟨g, hg, rfl⟩ := Option.map_eq_some_iff.mp hf
    exact hinv.same (huses loaded slot _ hloaded (.stats hg path st)) ⟨rfl, rfl, rfl, rfl⟩

theorem readdirpp (fh : GfalFileHandle) (st : FileType) : Preserves inv (gfalPluginReaddirppG fh st) := by
  intro context h ret context' hrun
  obtain ⟨mapped, loaded, hmap, hrest⟩ := bind_eq_ok.mp hrun
  have hloaded := preserves_gfalPluginMapFileHandle hinv.load.pluginsInstance fh context h mapped loaded hmap
  cases hslot : mapped.val with
  | none =>
      rw [hslot] at hrest
      cases hrest
      exact hloaded
  | some slot =>
      rw [hslot] at hrest
      obtain ⟨plugin, _, hplugin, hrest⟩ := bind_eq_ok.mp hrest
      cases hplugin
      cases hcallback : (loaded.pluginOpt.pluginList slot).readdirppG with
      | none =>
          rw [hcallback] at hrest
          cases hrest
          exact hloaded
      | some g =>
          rw [hcallback] at hrest
          cases hrest
          exact hinv.same (huses loaded slot _ hloaded (.listsStats hcallback fh st)) ⟨rfl, rfl, rfl, rfl⟩

/-- The simulation by an entry and its stat as well. -/
theorem listingStats (fh : GfalFileHandle) (st : FileType) : Preserves inv (gfalRwGfalfilehandleReaddirpp fh st) := by
  refine (hinv.readdirpp huses fh st).bind fun answer => ?_
  split
  · refine Preserves.ite ((hinv.listing huses fh).bind fun entry => ?_) (Preserves.pure _)
    split
    · exact (hinv.inScope (hinv.statting huses _ _)).bind fun stat => Preserves.pure _
    · exact Preserves.pure _
  · exact Preserves.pure _

/-- A call that neither opens nor closes keeps what the plugins keep when they seek, read, write and list. -/
theorem run_use (fuel : Nat) (hkey : call.key ≠ none) (hclosing : call.closing (σ := σ) = none) :
    Preserves inv (call.run fuel) := by
  cases call with
  | open2 | opendir => exact absurd rfl hkey
  | close | closedir => cases hclosing
  | io fd io => exact (hinv.onHandle huses fd io).bind fun answer => Preserves.pure _
  | flush fd => exact Preserves.pure _
  | readdir dir =>
      exact (hinv.inScope (preserves_onDirectory fun fh => hinv.listing huses fh)).bind fun answer => Preserves.pure _
  | readdirpp dir st =>
      exact (hinv.inScope (preserves_onDirectory fun fh => hinv.listingStats huses fh st)).bind fun answer => Preserves.pure _

end AboutTable

end Plugins

end Gfal2
