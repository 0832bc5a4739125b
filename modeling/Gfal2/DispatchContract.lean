import Gfal2.PluginDispatch
import Gfal2.RegistrySoundness

/-! What a caller of the dispatchers may rely on, whatever the plugins, as long as their callbacks return
a failure value exactly when they set the error: the same holds of the dispatcher, and it calls at most
one callback, of the plugin chosen for every URL involved. A checksum attribute that its plugin does
not answer is computed by a second call, to the plugin chosen for checksums. A pair of URLs that go to
two different plugins is left out: there the dispatchers fail without an error. -/

namespace Gfal2

open Base

variable {σ α : Type} {slot : Slot}

section Load

variable {P : GfalPluginInterface σ → Prop}

/-- A property of every plugin that a load of the library may bring. -/
def Library.Brings (P : GfalPluginInterface σ → Prop) (library : Library σ) : Prop :=
  ∀ entryPoint, library = .plugin entryPoint → ∀ world, P (entryPoint world).1.val

/-- A property of every plugin of the context, those it has and those a load may bring. -/
structure AllPlugins (P : GfalPluginInterface σ → Prop) (context : Gfal2Context σ) : Prop where
  loaded : ∀ slot, P (context.pluginOpt.pluginList slot)
  loadable : ∀ files, context.pluginDir.files = .ok files → ∀ file ∈ files, file.library.Brings P

theorem loadStable_allPlugins : LoadStable (AllPlugins P) where
  number := fun _ _ h => ⟨h.loaded, h.loadable⟩
  sorted := fun _ _ h => ⟨h.loaded, h.loadable⟩
  load := by
    rintro context slot entryPoint ⟨files, hfiles, file, hfile, hlibrary⟩ h
    refine ⟨fun other => ?_, h.loadable⟩
    have hplugin : P (entryPoint context.world).1.val := h.loadable files hfiles file hfile entryPoint hlibrary _
    by_cases heq : other = slot
    · subst heq
      simpa using hplugin
    · simpa [heq] using h.loaded other

theorem allPlugins_gfalFindPlugin (url : CString) (mode : PluginMode) :
    Exec.Preserves (AllPlugins P) (gfalFindPlugin url mode) :=
  loadStable_allPlugins.findPlugin url mode

end Load

/-! ### The choice of the registry -/

section Choice

/-- The same plugins, the same plugin directory and the same world. -/
structure SameRegistry (a b : Gfal2Context σ) : Prop where
  pluginOpt : a.pluginOpt = b.pluginOpt
  pluginDir : a.pluginDir = b.pluginDir
  world : a.world = b.world

/-- From the registry of the context, the search chooses the plugin in the slot for the URL. -/
def Selects (context : Gfal2Context σ) (url : CString) (mode : PluginMode) (slot : Slot) : Prop :=
  ∃ start context', SameRegistry start context ∧
    gfalFindPlugin url mode start = .ok (⟨some slot, none⟩, context')

theorem selects_of_gfalFindPlugin {context context' : Gfal2Context σ} {url : CString} {mode : PluginMode}
    (h : gfalFindPlugin url mode context = .ok (⟨some slot, none⟩, context')) :
    Selects context url mode slot :=
  ⟨context, context', ⟨rfl, rfl, rfl⟩, h⟩

theorem Selects.congr {context context' : Gfal2Context σ} {url : CString} {mode : PluginMode}
    (h : Selects context url mode slot) (hsame : SameRegistry context context') :
    Selects context' url mode slot := by
  obtain ⟨start, last, hstart, hfind⟩ := h
  exact ⟨start, last, ⟨hstart.1.trans hsame.1, hstart.2.trans hsame.2, hstart.3.trans hsame.3⟩, hfind⟩

theorem gfalFindPlugin_eq_ok {url : CString} {mode : PluginMode} {context context' : Gfal2Context σ}
    {ret : Ret (Option Slot)} :
    gfalFindPlugin url mode context = .ok (ret, context') ↔
      ∃ plugins, gfalPluginsInstance context = .ok (plugins, context') ∧
        ret = findOutcome url (if plugins.val > 0 then
          gfalFindLoop context' url mode context'.pluginOpt.sortedPlugin else ⟨none, plugins.err⟩) := by
  rw [gfalFindPlugin, Exec.bind_eq_ok]
  constructor
  · rintro ⟨plugins, context'', hinstance, heq⟩
    rw [Exec.get_bind_apply, Exec.pure_apply] at heq
    cases heq
    exact ⟨plugins, hinstance, rfl⟩
  · rintro ⟨plugins, hinstance, rfl⟩
    exact ⟨plugins, context', hinstance, rfl⟩

theorem findOutcome_cases (url : CString) (found : Ret (Option Slot)) :
    (∃ slot, findOutcome url found = ⟨some slot, none⟩ ∧ found.val = some slot) ∨
      ∃ e, findOutcome url found = ⟨none, some e⟩ := by
  obtain ⟨_ | slot, _ | e⟩ := found
  · exact Or.inr ⟨_, rfl⟩
  · exact Or.inr ⟨e, rfl⟩
  · exact Or.inl ⟨slot, rfl, rfl⟩
  · exact Or.inl ⟨slot, rfl, rfl⟩

/-- A search ends with a plugin or with an error. -/
theorem gfalFindPlugin_cases {url : CString} {mode : PluginMode} {context context' : Gfal2Context σ}
    {ret : Ret (Option Slot)} (h : gfalFindPlugin url mode context = .ok (ret, context')) :
    (∃ slot, ret = ⟨some slot, none⟩) ∨ ∃ e, ret = ⟨none, some e⟩ := by
  obtain ⟨plugins, -, rfl⟩ := gfalFindPlugin_eq_ok.mp h
  rcases findOutcome_cases url (if plugins.val > 0 then
      gfalFindLoop context' url mode context'.pluginOpt.sortedPlugin else ⟨none, plugins.err⟩) with
    ⟨slot, heq, -⟩ | ⟨e, heq⟩
  · exact Or.inl ⟨slot, heq⟩
  · exact Or.inr ⟨e, heq⟩

theorem keeps_number_gfalPluginsSort :
    Exec.Keeps (fun context => context.pluginOpt.pluginNumber) (gfalPluginsSort : Gfal σ Int) := by
  rintro kept context rfl ret context' heq
  rw [gfalPluginsSort, Exec.bind_of_ok (pluginNumber_apply context)] at heq
  obtain ⟨slots, context'', hslots, heq⟩ := Exec.bind_eq_ok.mp heq
  cases heq
  rw [show context'' = context from preserves_slotsBelow (· = context) _ context rfl slots context'' hslots]

/-- A positive answer is the count of plugins in the context it leaves. -/
theorem pluginNumber_of_gfalPluginsInstance {context context' : Gfal2Context σ} {plugins : Ret Int}
    (h : gfalPluginsInstance context = .ok (plugins, context')) (hpos : plugins.val > 0) :
    plugins = ⟨context'.pluginOpt.pluginNumber, none⟩ := by
  unfold gfalPluginsInstance at h
  rw [Exec.bind_of_ok (pluginNumber_apply context)] at h
  split at h
  · obtain ⟨resolved, context₁, -, hresolved⟩ := Exec.bind_eq_ok.mp h
    cases hres : resolved.err with
    | some e =>
        rw [hres] at hresolved
        cases hresolved
        exact absurd hpos (by simp)
    | none =>
        rw [hres] at hresolved
        dsimp only at hresolved
        rw [Exec.bind_of_ok (pluginNumber_apply context₁)] at hresolved
        split at hresolved
        · obtain ⟨sorted, context₂, hsort, heq⟩ := Exec.bind_eq_ok.mp hresolved
          cases heq
          rw [show context'.pluginOpt.pluginNumber = context₁.pluginOpt.pluginNumber from
            keeps_number_gfalPluginsSort.eq hsort]
        · cases hresolved
          rfl
  · cases h
    rfl

/-- Once a plugin was chosen, another search needs no load and reads the same registry. -/
theorem gfalFindPlugin_after {url other : CString} {mode mode' : PluginMode} {context context' : Gfal2Context σ}
    (h : gfalFindPlugin url mode context = .ok (⟨some slot, none⟩, context')) :
    gfalFindPlugin other mode' context' = gfalFindPlugin other mode' context := by
  obtain ⟨plugins, hinstance, hret⟩ := gfalFindPlugin_eq_ok.mp h
  have hpos : plugins.val > 0 := by
    by_contra hnot
    rw [if_neg hnot] at hret
    cases herr : plugins.err with
    | none =>
        rw [herr] at hret
        cases hret
    | some e =>
        rw [herr] at hret
        cases hret
  have hplugins := pluginNumber_of_gfalPluginsInstance hinstance hpos
  have hpos' : 0 < context'.pluginOpt.pluginNumber := by
    rw [hplugins] at hpos
    exact hpos
  rw [gfalFindPlugin, Exec.bind_of_ok hinstance,
    Exec.bind_of_ok (gfalPluginsInstance_of_pos hpos'), hplugins]

end Choice

/-! ### One dispatcher -/

/-- The values by which an operation reports that it failed. -/
class Failing (α : Type) where
  failed : α → Bool

instance : Failing Int where
  failed n := n < 0

instance {β : Type} : Failing (Int × β) where
  failed answer := answer.1 < 0

instance {β : Type} : Failing (Option β) where
  failed := Option.isNone

/-- The value is a failure exactly when the error is set. -/
def Ret.Agrees [Failing α] (ret : Ret α) : Prop := Failing.failed ret.val = true ↔ ret.err.isSome = true

/-- A callback, if there is one, returns a failure value exactly when it sets the error. -/
def AnswersHonestly [Failing α] (callback : Option (Callback σ (Ret α))) : Prop :=
  ∀ call, callback = some call → ∀ world, (call world).1.Agrees

/-- At most one callback was called: that of the plugin chosen for all the URLs. -/
def CallsSelected (context context' : Gfal2Context σ) (urls : List CString) (mode : PluginMode)
    (which : PluginCallback) : Prop :=
  context'.calls = context.calls ∨
    ∃ slot, (∀ url ∈ urls, Selects context url mode slot) ∧ context'.calls = context.calls ++ [(slot, which)]

section Dispatch

theorem callPlugin_eq_ok {which : PluginCallback} {callback : Option (Callback σ α)}
    {context context' : Gfal2Context σ} {answer : α} :
    callPlugin slot which callback context = .ok (answer, context') ↔
      ∃ call, callback = some call ∧ answer = (call context.world).1 ∧
        context' = { context with world := (call context.world).2, calls := context.calls ++ [(slot, which)] } := by
  cases callback with
  | none => simp [callPlugin]
  | some call =>
      simp only [callPlugin, Except.ok.injEq, Prod.mk.injEq, Option.some.injEq, exists_eq_left']
      constructor
      · rintro ⟨rfl, rfl⟩
        exact ⟨rfl, rfl⟩
      · rintro ⟨rfl, rfl⟩
        exact ⟨rfl, rfl⟩

theorem allPlugins_callPlugin {P : GfalPluginInterface σ → Prop} (slot : Slot) (which : PluginCallback)
    (callback : Option (Callback σ α)) : Exec.Preserves (AllPlugins P) (callPlugin slot which callback) := by
  intro context h answer context' heq
  obtain ⟨call, -, -, rfl⟩ := callPlugin_eq_ok.mp heq
  exact ⟨h.loaded, h.loadable⟩

theorem calls_of_gfalFindPlugin {url : CString} {mode : PluginMode} {context context' : Gfal2Context σ}
    {ret : Ret (Option Slot)} (h : gfalFindPlugin url mode context = .ok (ret, context')) :
    context'.calls = context.calls :=
  (show LoadStable fun c : Gfal2Context σ => c.calls = context.calls from
    ⟨fun _ _ h => h, fun _ _ h => h, fun _ _ _ _ h => h⟩).findPlugin url mode context rfl ret context' h

variable {mode : PluginMode} {which : PluginCallback} {url oldUrl newUrl : CString} {failure : α}
  {callback : GfalPluginInterface σ → Option (Callback σ (Ret α))} {context context' : Gfal2Context σ}

theorem allPlugins_dispatchUrl {P : GfalPluginInterface σ → Prop} :
    Exec.Preserves (AllPlugins P) (dispatchUrl mode which url failure callback) := by
  refine (allPlugins_gfalFindPlugin url mode).bind fun found => ?_
  cases found.val with
  | none => exact Exec.Preserves.pure _
  | some slot =>
      refine Exec.Preserves.bind ?_ fun plugin => allPlugins_callPlugin slot which _
      intro context h plugin context' heq
      cases heq
      exact h

/-- The outcome of a dispatcher: it called nothing, or one callback of a plugin, in a context that has the
property. -/
def Dispatched (inv : Gfal2Context σ → Prop) (which : PluginCallback) (failure : α)
    (callback : GfalPluginInterface σ → Option (Callback σ (Ret α))) (ret : Ret α) (context' : Gfal2Context σ) : Prop :=
  ∃ loaded, inv loaded ∧ ((ret.val = failure ∧ context' = loaded) ∨
    ∃ slot call, callback (loaded.pluginOpt.pluginList slot) = some call ∧ ret = (call loaded.world).1 ∧
      context' = { loaded with
        world := (call loaded.world).2
        calls := loaded.calls ++ [(slot, which)] })

variable {inv : Gfal2Context σ → Prop}

theorem dispatchUrl_outcome (hinv : LoadStable inv) (hcontext : inv context)
    {ret : Ret α} (h : dispatchUrl mode which url failure callback context = .ok (ret, context')) :
    Dispatched inv which failure callback ret context' := by
  obtain ⟨found, loaded, hfind, hrest⟩ := Exec.bind_eq_ok.mp h
  refine ⟨loaded, hinv.findPlugin url mode context hcontext found loaded hfind, ?_⟩
  cases hfound : found.val with
  | none =>
      rw [hfound] at hrest
      cases hrest
      exact .inl ⟨rfl, rfl⟩
  | some slot =>
      rw [hfound] at hrest
      obtain ⟨call, hcall, hret, hcontext'⟩ := callPlugin_eq_ok.mp hrest
      exact .inr ⟨slot, call, hcall, hret, hcontext'⟩

theorem preserves_gfalMapLoop (inv : Gfal2Context σ → Prop) (moduleName : CString) (remaining : Nat) (i : Int) :
    Exec.Preserves inv (gfalMapLoop moduleName remaining i) := by
  induction remaining generalizing i with
  | zero => exact Exec.Preserves.pure _
  | succ remaining ih =>
      refine (preserves_slotOf inv i).bind fun slot => Exec.Preserves.bind ?_ fun plugin => ?_
      · intro context h plugin context' heq
        cases heq
        exact h
      · cases plugin.getName with
        | none => exact Exec.Preserves.fault _
        | some name => exact Exec.Preserves.ite (Exec.Preserves.pure _) (ih (i + 1))

theorem preserves_gfalPluginMapFileHandle (hload : Exec.Preserves inv gfalPluginsInstance)
    (fh : GfalFileHandle) : Exec.Preserves inv (gfalPluginMapFileHandle fh) :=
  hload.bind fun _ => Exec.Preserves.ite (preserves_gfalMapLoop inv fh.moduleName _ 0) (Exec.Preserves.pure _)

theorem dispatchHandle_outcome (hinv : LoadStable inv) (hcontext : inv context)
    {fh : GfalFileHandle} {ret : Ret α} (h : dispatchHandle which fh failure callback context = .ok (ret, context')) :
    Dispatched inv which failure callback ret context' := by
  obtain ⟨mapped, loaded, hmap, hrest⟩ := Exec.bind_eq_ok.mp h
  refine ⟨loaded, preserves_gfalPluginMapFileHandle hinv.pluginsInstance fh context hcontext mapped loaded hmap, ?_⟩
  cases hmapped : mapped.val with
  | none =>
      rw [hmapped] at hrest
      cases hrest
      exact .inl ⟨rfl, rfl⟩
  | some slot =>
      rw [hmapped] at hrest
      obtain ⟨call, hcall, hret, hcontext'⟩ := callPlugin_eq_ok.mp hrest
      exact .inr ⟨slot, call, hcall, hret, hcontext'⟩

/-- The contract of a dispatcher of one URL. -/
theorem dispatchUrl_contract [Failing α] {ret : Ret α} (hfailure : Failing.failed failure = true)
    (hhonest : AllPlugins (fun p => AnswersHonestly (callback p)) context)
    (h : dispatchUrl mode which url failure callback context = .ok (ret, context')) :
    ret.Agrees ∧ CallsSelected context context' [url] mode which := by
  obtain ⟨found, context₁, hfind, hrest⟩ := Exec.bind_eq_ok.mp h
  have hcalls := calls_of_gfalFindPlugin hfind
  rcases gfalFindPlugin_cases hfind with ⟨slot, rfl⟩ | ⟨e, rfl⟩
  · obtain ⟨call, hcall, rfl, rfl⟩ := callPlugin_eq_ok.mp hrest
    have hplugins := allPlugins_gfalFindPlugin url mode context hhonest _ _ hfind
    refine ⟨hplugins.loaded slot call hcall _, Or.inr ⟨slot, ?_, ?_⟩⟩
    · intro url' hurl
      rw [List.mem_singleton.mp hurl]
      exact selects_of_gfalFindPlugin hfind
    · dsimp only
      rw [hcalls]
  · cases hrest
    exact ⟨iff_of_true hfailure rfl, Or.inl hcalls⟩

/-- The two URLs of a pair go to two different plugins. -/
def GoApart (context : Gfal2Context σ) (oldUrl newUrl : CString) (mode : PluginMode) : Prop :=
  ∃ slot slot', Selects context oldUrl mode slot ∧ Selects context newUrl mode slot' ∧ slot ≠ slot'

/-- The contract of a dispatcher of two URLs, which holds unless they go to different plugins. -/
theorem dispatchPair_contract {callback : GfalPluginInterface σ → Option (Callback σ (Ret Int))} {ret : Ret Int}
    (hhonest : AllPlugins (fun p => AnswersHonestly (callback p)) context)
    (h : dispatchPair mode which oldUrl newUrl callback context = .ok (ret, context')) :
    (¬GoApart context oldUrl newUrl mode → ret.Agrees) ∧
      CallsSelected context context' [oldUrl, newUrl] mode which := by
  obtain ⟨source, context₁, hsource, hrest⟩ := Exec.bind_eq_ok.mp h
  have hcalls := calls_of_gfalFindPlugin hsource
  rcases gfalFindPlugin_cases hsource with ⟨slot, rfl⟩ | ⟨e, rfl⟩
  · obtain ⟨target, context₂, htarget, hrest⟩ := Exec.bind_eq_ok.mp hrest
    have hcalls' := (calls_of_gfalFindPlugin htarget).trans hcalls
    rw [gfalFindPlugin_after hsource] at htarget
    split at hrest
    case isTrue hsame =>
      obtain ⟨call, hcall, rfl, rfl⟩ := callPlugin_eq_ok.mp hrest
      have hplugins := allPlugins_gfalFindPlugin newUrl mode context hhonest _ _ htarget
      refine ⟨fun _ => hplugins.loaded slot call hcall _, Or.inr ⟨slot, ?_, ?_⟩⟩
      · rcases gfalFindPlugin_cases htarget with ⟨slot', rfl⟩ | ⟨e, rfl⟩
        · cases hsame
          intro url hurl
          rcases List.mem_pair.mp hurl with rfl | rfl
          · exact selects_of_gfalFindPlugin hsource
          · exact selects_of_gfalFindPlugin htarget
        · cases hsame
      · dsimp only
        rw [hcalls']
    case isFalse hdiffer =>
      cases hrest
      refine ⟨fun htogether => ?_, Or.inl hcalls'⟩
      rcases gfalFindPlugin_cases htarget with ⟨slot', rfl⟩ | ⟨e, rfl⟩
      · refine absurd ⟨slot, slot', selects_of_gfalFindPlugin hsource, selects_of_gfalFindPlugin htarget, ?_⟩
          htogether
        exact fun heq => hdiffer (by rw [heq])
      · exact iff_of_true rfl rfl
  · cases hrest
    exact ⟨fun _ => iff_of_true rfl rfl, Or.inl hcalls⟩

end Dispatch

/-! ### The single-file operations -/

/-- The callbacks of the single-file operations of a plugin return a failure value exactly when they set
the error. -/
structure Honest (p : GfalPluginInterface σ) : Prop where
  accessG : ∀ path mode, AnswersHonestly (p.accessG.map (· path mode))
  statG : ∀ path st, AnswersHonestly (p.statG.map (· path st))
  lstatG : ∀ path st, AnswersHonestly (p.lstatG.map (· path st))
  readlinkG : ∀ path buff size, AnswersHonestly (p.readlinkG.map (· path buff size))
  chmodG : ∀ path mode, AnswersHonestly (p.chmodG.map (· path mode))
  renameG : ∀ oldpath newpath, AnswersHonestly (p.renameG.map (· oldpath newpath))
  symlinkG : ∀ oldpath newpath, AnswersHonestly (p.symlinkG.map (· oldpath newpath))
  mkdirpG : ∀ path mode pflag, AnswersHonestly (p.mkdirpG.map (· path mode pflag))
  rmdirG : ∀ path, AnswersHonestly (p.rmdirG.map (· path))
  unlinkG : ∀ path, AnswersHonestly (p.unlinkG.map (· path))
  opendirG : ∀ path, AnswersHonestly (p.opendirG.map (· path))
  openG : ∀ path flag mode, AnswersHonestly (p.openG.map (· path flag mode))
  getxattrG : ∀ path name buff size, AnswersHonestly (p.getxattrG.map (· path name buff size))
  setxattrG : ∀ path name value size flags, AnswersHonestly (p.setxattrG.map (· path name value size flags))
  listxattrG : ∀ path list size, AnswersHonestly (p.listxattrG.map (· path list size))
  checksumCalcG : ∀ path type buffer length start size,
    AnswersHonestly (p.checksumCalcG.map (· path type buffer length start size))

inductive SingleFileCall where
  | access (path : CString) (mode : Int)
  | stat (path : CString) (st : FileType)
  | lstat (path : CString) (st : FileType)
  | readlink (path buff : CString) (buffsiz : Nat)
  | chmod (path : CString) (mode : Nat)
  | rename (oldpath newpath : CString)
  | symlink (oldpath newpath : CString)
  | mkdirp (path : CString) (mode : Nat) (pflag : Bool)
  | rmdir (path : CString)
  | unlink (path : CString)
  | opendir (name : CString)
  | open (path : CString) (flag mode : Nat)
  | getxattr (path name : CString) (buff : Option CString) (size : Nat)
  | setxattr (path name value : CString) (size : Nat) (flags : Int)
  | listxattr (path : CString) (list : Option CString) (size : Nat)
  | checksum (url checkType : CString) (start : Int) (size : Nat) (buffer : Option CString) (length : Nat)

namespace SingleFileCall

def mode : SingleFileCall → PluginMode
  | access .. => .access
  | stat .. => .stat
  | lstat .. => .lstat
  | readlink .. => .readlink
  | chmod .. => .chmod
  | rename .. => .rename
  | symlink .. => .symlink
  | mkdirp .. => .mkdir
  | rmdir .. => .rmdir
  | unlink .. => .unlink
  | opendir .. => .opendir
  | .open .. => .open
  | getxattr .. => .getxattr
  | setxattr .. => .setxattr
  | listxattr .. => .listxattr
  | checksum .. => .checksum

def callback : SingleFileCall → PluginCallback
  | access .. => .accessG
  | stat .. => .statG
  | lstat .. => .lstatG
  | readlink .. => .readlinkG
  | chmod .. => .chmodG
  | rename .. => .renameG
  | symlink .. => .symlinkG
  | mkdirp .. => .mkdirpG
  | rmdir .. => .rmdirG
  | unlink .. => .unlinkG
  | opendir .. => .opendirG
  | .open .. => .openG
  | getxattr .. => .getxattrG
  | setxattr .. => .setxattrG
  | listxattr .. => .listxattrG
  | checksum .. => .checksumCalcG

def urls : SingleFileCall → List CString
  | access path _ | stat path _ | lstat path _ | readlink path _ _ | chmod path _ | mkdirp path _ _
  | rmdir path | unlink path | opendir path | .open path _ _ | getxattr path _ _ _ | setxattr path _ _ _ _
  | listxattr path _ _ | checksum path _ _ _ _ _ => [path]
  | rename oldpath newpath | symlink oldpath newpath => [oldpath, newpath]

/-- A call, of which only the failure and the error are kept. -/
def reported [Failing α] (call : Gfal σ (Ret α)) : Gfal σ (Ret Bool) := do
  let ret ← call
  return ⟨Failing.failed ret.val, ret.err⟩

def run : SingleFileCall → Gfal σ (Ret Bool)
  | access path mode => reported (gfalPluginsAccessG path mode)
  | stat path st => reported (gfalPluginStatG path st)
  | lstat path st => reported (gfalPluginLstatG path st)
  | readlink path buff buffsiz => reported (gfalPluginReadlinkG path buff buffsiz)
  | chmod path mode => reported (gfalPluginChmodG path mode)
  | rename oldpath newpath => reported (gfalPluginRenameG oldpath newpath)
  | symlink oldpath newpath => reported (gfalPluginSymlinkG oldpath newpath)
  | mkdirp path mode pflag => reported (gfalPluginMkdirp path mode pflag)
  | rmdir path => reported (gfalPluginRmdirG path)
  | unlink path => reported (gfalPluginUnlinkG path)
  | opendir name => reported (gfalPluginOpendirG name)
  | .open path flag mode => reported (gfalPluginOpenG path flag mode)
  | getxattr path name buff size => reported (gfalPluginGetxattrG path name buff size)
  | setxattr path name value size flags => reported (gfalPluginSetxattrG path name value size flags)
  | listxattr path list size => reported (gfalPluginListxattrG path list size)
  | checksum url checkType start size buffer length =>
      reported (gfal2Checksum url checkType start size buffer length)

end SingleFileCall

section Contract

theorem reported_eq_ok [Failing α] {call : Gfal σ (Ret α)} {context context' : Gfal2Context σ} {ret : Ret Bool} :
    SingleFileCall.reported call context = .ok (ret, context') ↔
      ∃ answer, call context = .ok (answer, context') ∧ ret = ⟨Failing.failed answer.val, answer.err⟩ := by
  rw [SingleFileCall.reported, Exec.bind_eq_ok]
  constructor
  · rintro ⟨answer, context'', hcall, heq⟩
    cases heq
    exact ⟨answer, hcall, rfl⟩
  · rintro ⟨answer, hcall, rfl⟩
    exact ⟨answer, context', hcall, rfl⟩

theorem AllPlugins.imp {P Q : GfalPluginInterface σ → Prop} {context : Gfal2Context σ} (h : AllPlugins P context)
    (himp : ∀ p, P p → Q p) : AllPlugins Q context where
  loaded slot := himp _ (h.loaded slot)
  loadable files hfiles file hfile entryPoint hentry world :=
    himp _ (h.loadable files hfiles file hfile entryPoint hentry world)

variable {context context' : Gfal2Context σ}

theorem gfalPluginMkdirp_contract {path : CString} {mode : Nat} {pflag : Bool} {ret : Ret Int}
    (hhonest : AllPlugins Honest context)
    (h : gfalPluginMkdirp path mode pflag context = .ok (ret, context')) :
    ret.Agrees ∧ CallsSelected context context' [path] .mkdir .mkdirpG := by
  obtain ⟨made, context₁, hmade, hrest⟩ := Exec.bind_eq_ok.mp h
  obtain ⟨hagrees, hcalls⟩ := dispatchUrl_contract rfl (hhonest.imp fun p hp => hp.mkdirpG path mode pflag) hmade
  split at hrest
  · cases herr : made.err with
    | none =>
        rw [herr] at hrest
        cases hrest
    | some e =>
        rw [herr] at hrest
        cases hrest
        refine ⟨?_, hcalls⟩
        split
        · exact iff_of_false (by decide) (by simp)
        · exact hagrees
  · cases hrest
    exact ⟨hagrees, hcalls⟩

theorem gfal2Checksum_contract {url checkType : CString} {start : Int} {size length : Nat}
    {buffer : Option CString} {ret : Ret (Int × Option CString)} (hhonest : AllPlugins Honest context)
    (h : gfal2Checksum url checkType start size buffer length context = .ok (ret, context')) :
    ret.Agrees ∧ CallsSelected context context' [url] .checksum .checksumCalcG := by
  cases buffer with
  | none =>
      cases h
      exact ⟨iff_of_true rfl rfl, Or.inl rfl⟩
  | some buffer =>
      rw [gfal2Checksum] at h
      split at h
      · cases h
        exact ⟨iff_of_true rfl rfl, Or.inl rfl⟩
      · cases hcancel : context.readings.cancel context.cancelReads with
        | true =>
          rw [Exec.bind_of_ok (gfal2StartScopeCancel_of_cancelled hcancel)] at h
          cases h
          exact ⟨iff_of_true rfl rfl, Or.inl rfl⟩
        | false =>
          rw [Exec.bind_of_ok (gfal2StartScopeCancel_of_clear hcancel), if_neg (by simp)] at h
          obtain ⟨answer, context₂, hanswer, h⟩ := Exec.bind_eq_ok.mp h
          have hinScope : AllPlugins Honest context.inScope := ⟨hhonest.loaded, hhonest.loadable⟩
          obtain ⟨hagrees, hcalls⟩ := dispatchUrl_contract rfl
            (hinScope.imp fun p hp => hp.checksumCalcG url checkType buffer length start size) hanswer
          cases h
          refine ⟨hagrees, hcalls.imp id ?_⟩
          rintro ⟨slot, hselects, hcalled⟩
          exact ⟨slot, fun url' hurl => (hselects url' hurl).congr ⟨rfl, rfl, rfl⟩, hcalled⟩

/-- The plugin failed to answer a checksum attribute, and the checksum was computed instead. -/
def AnsweredByChecksum (call : SingleFileCall) (context context' : Gfal2Context σ) : Prop :=
  ∃ path name buff size first middle, call = .getxattr path name buff size ∧ checksumAttrStart <+: name ∧
    getxattrOfPlugin path name buff size context = .ok (first, middle) ∧ first.val.1 < 0 ∧
    CallsSelected context middle [path] .getxattr .getxattrG ∧
    CallsSelected middle context' [path] .checksum .checksumCalcG

theorem gfalPluginGetxattrG_contract {path name : CString} {buff : Option CString} {size : Nat}
    {ret : Ret (Int × Option CString)} (hhonest : AllPlugins Honest context)
    (h : gfalPluginGetxattrG path name buff size context = .ok (ret, context')) :
    ret.Agrees ∧ (CallsSelected context context' [path] .getxattr .getxattrG ∨
      AnsweredByChecksum (.getxattr path name buff size) context context') := by
  obtain ⟨answer, middle, hanswer, hrest⟩ := Exec.bind_eq_ok.mp h
  obtain ⟨hagrees, hcalls⟩ := dispatchUrl_contract rfl
    (hhonest.imp fun p hp => hp.getxattrG path name buff size) hanswer
  split at hrest
  case isTrue hfallback =>
    obtain ⟨hnegative, -, hname⟩ := hfallback
    have hmiddle : AllPlugins Honest middle := allPlugins_dispatchUrl context hhonest _ _ hanswer
    obtain ⟨hagrees', hcalls'⟩ := gfal2Checksum_contract hmiddle hrest
    refine ⟨hagrees', Or.inr ⟨path, name, buff, size, answer, middle, rfl, ?_, hanswer, hnegative, hcalls, hcalls'⟩⟩
    exact List.isPrefixOf_iff_prefix.mp hname
  case isFalse =>
    cases hrest
    exact ⟨hagrees, Or.inl hcalls⟩

/-- A pair of URLs that go to two different plugins. -/
def SingleFileCall.Crosses (call : SingleFileCall) (context : Gfal2Context σ) : Prop :=
  ∃ oldpath newpath, (call = .rename oldpath newpath ∨ call = .symlink oldpath newpath) ∧
    GoApart context oldpath newpath call.mode

theorem reported_dispatchUrl [Failing α] {mode : PluginMode} {which : PluginCallback} {url : CString}
    {failure : α} {callback : GfalPluginInterface σ → Option (Callback σ (Ret α))} {ret : Ret Bool}
    {crosses answered : Prop} (hfailure : Failing.failed failure = true)
    (hhonest : AllPlugins (fun p => AnswersHonestly (callback p)) context)
    (hrun : SingleFileCall.reported (dispatchUrl mode which url failure callback) context = .ok (ret, context')) :
    (¬crosses → (ret.val = true ↔ ret.err.isSome = true)) ∧
      (CallsSelected context context' [url] mode which ∨ answered) := by
  obtain ⟨answer, hanswer, rfl⟩ := reported_eq_ok.mp hrun
  obtain ⟨hagrees, hcalls⟩ := dispatchUrl_contract hfailure hhonest hanswer
  exact ⟨fun _ => hagrees, Or.inl hcalls⟩

/-- The contract of a call that returned. -/
theorem contract_of_run (call : SingleFileCall) (hhonest : AllPlugins Honest context) {ret : Ret Bool}
    (hrun : call.run context = .ok (ret, context')) :
    (¬call.Crosses context → (ret.val = true ↔ ret.err.isSome = true)) ∧
      (CallsSelected context context' call.urls call.mode call.callback ∨
        AnsweredByChecksum call context context') := by
  cases call with
  | rename oldpath newpath =>
      obtain ⟨answer, hanswer, rfl⟩ := reported_eq_ok.mp hrun
      obtain ⟨hagrees, hcalls⟩ := dispatchPair_contract (hhonest.imp fun p hp => hp.renameG oldpath newpath) hanswer
      exact ⟨fun hcross => hagrees fun hapart => hcross ⟨oldpath, newpath, Or.inl rfl, hapart⟩, Or.inl hcalls⟩
  | symlink oldpath newpath =>
      obtain ⟨answer, hanswer, rfl⟩ := reported_eq_ok.mp hrun
      obtain ⟨hagrees, hcalls⟩ := dispatchPair_contract (hhonest.imp fun p hp => hp.symlinkG oldpath newpath) hanswer
      exact ⟨fun hcross => hagrees fun hapart => hcross ⟨oldpath, newpath, Or.inr rfl, hapart⟩, Or.inl hcalls⟩
  | mkdirp path mode pflag =>
      obtain ⟨answer, hanswer, rfl⟩ := reported_eq_ok.mp hrun
      obtain ⟨hagrees, hcalls⟩ := gfalPluginMkdirp_contract hhonest hanswer
      exact ⟨fun _ => hagrees, Or.inl hcalls⟩
  | getxattr path name buff size =>
      obtain ⟨answer, hanswer, rfl⟩ := reported_eq_ok.mp hrun
      obtain ⟨hagrees, hcalls⟩ := gfalPluginGetxattrG_contract hhonest hanswer
      exact ⟨fun _ => hagrees, hcalls⟩
  | checksum url checkType start size buffer length =>
      obtain ⟨answer, hanswer, rfl⟩ := reported_eq_ok.mp hrun
      obtain ⟨hagrees, hcalls⟩ := gfal2Checksum_contract hhonest hanswer
      exact ⟨fun _ => hagrees, Or.inl hcalls⟩
  | access path mode => exact reported_dispatchUrl rfl (hhonest.imp fun p hp => hp.accessG path mode) hrun
  | stat path st => exact reported_dispatchUrl rfl (hhonest.imp fun p hp => hp.statG path st) hrun
  | lstat path st => exact reported_dispatchUrl rfl (hhonest.imp fun p hp => hp.lstatG path st) hrun
  | readlink path buff size => exact reported_dispatchUrl rfl (hhonest.imp fun p hp => hp.readlinkG path buff size) hrun
  | chmod path mode => exact reported_dispatchUrl rfl (hhonest.imp fun p hp => hp.chmodG path mode) hrun
  | rmdir path => exact reported_dispatchUrl rfl (hhonest.imp fun p hp => hp.rmdirG path) hrun
  | unlink path => exact reported_dispatchUrl rfl (hhonest.imp fun p hp => hp.unlinkG path) hrun
  | opendir name => exact reported_dispatchUrl rfl (hhonest.imp fun p hp => hp.opendirG name) hrun
  | «open» path flag mode => exact reported_dispatchUrl rfl (hhonest.imp fun p hp => hp.openG path flag mode) hrun
  | setxattr path name value size flags =>
      exact reported_dispatchUrl rfl (hhonest.imp fun p hp => hp.setxattrG path name value size flags) hrun
  | listxattr path list size =>
      exact reported_dispatchUrl rfl (hhonest.imp fun p hp => hp.listxattrG path list size) hrun

/-! ### Returning -/

/-- The plugin implements the operation of a mode. -/
def GfalPluginInterface.provides (p : GfalPluginInterface σ) : PluginMode → Bool
  | .access => p.accessG.isSome
  | .stat => p.statG.isSome
  | .lstat => p.lstatG.isSome
  | .readlink => p.readlinkG.isSome
  | .chmod => p.chmodG.isSome
  | .rename => p.renameG.isSome
  | .symlink => p.symlinkG.isSome
  | .mkdir => p.mkdirpG.isSome
  | .rmdir => p.rmdirG.isSome
  | .unlink => p.unlinkG.isSome
  | .opendir => p.opendirG.isSome
  | .open => p.openG.isSome
  | .getxattr => p.getxattrG.isSome
  | .setxattr => p.setxattrG.isSome
  | .listxattr => p.listxattrG.isSome
  | .checksum => p.checksumCalcG.isSome
  | _ => true

/-- A plugin that accepts a URL for an operation implements the operation. -/
def ImplementsAccepted (p : GfalPluginInterface σ) : Prop :=
  ∀ check, p.checkPluginUrl = some check → ∀ world url mode, check world url mode = ⟨true, none⟩ →
    p.provides mode = true

/-- With plugins loaded that implement what they accept, every call returns. -/
structure Ready (context : Gfal2Context σ) : Prop where
  number_pos : 0 < context.pluginOpt.pluginNumber
  implements : ∀ slot, ImplementsAccepted (context.pluginOpt.pluginList slot)

theorem gfalFindPlugin_of_ready (hready : Ready context) (url : CString) (mode : PluginMode) :
    ∃ ret, gfalFindPlugin url mode context = .ok (ret, context) ∧
      ∀ slot, ret.val = some slot → (context.pluginOpt.pluginList slot).provides mode = true := by
  refine ⟨_, gfalFindPlugin_eq_ok.mpr ⟨_, gfalPluginsInstance_of_pos hready.number_pos, rfl⟩, ?_⟩
  intro slot hslot
  rw [if_pos hready.number_pos] at hslot
  have haccepts : Accepts context slot url mode := by
    rcases gfalFindLoop_cases context url mode context.pluginOpt.sortedPlugin with
      ⟨before, other, after, -, -, ⟨haccepts, hloop⟩ | ⟨e, -, hloop⟩⟩ | ⟨-, hloop⟩
    · rw [hloop] at hslot
      cases hslot
      exact haccepts
    · rw [hloop] at hslot
      cases hslot
    · rw [hloop] at hslot
      cases hslot
  unfold Accepts gfalPluginCheckerSafe at haccepts
  cases hcheck : (context.pluginOpt.pluginList slot).checkPluginUrl with
  | none =>
      rw [hcheck] at haccepts
      cases haccepts
  | some check =>
      rw [hcheck] at haccepts
      exact hready.implements slot check hcheck context.world url mode haccepts

theorem callPlugin_of_isSome (slot : Slot) (which : PluginCallback) {callback : Option (Callback σ α)}
    (h : callback.isSome = true) (context : Gfal2Context σ) :
    ∃ answer context', callPlugin slot which callback context = .ok (answer, context') ∧
      context'.pluginOpt = context.pluginOpt := by
  obtain ⟨call, rfl⟩ := Option.isSome_iff_exists.mp h
  exact ⟨_, _, rfl, rfl⟩

theorem dispatchUrl_of_ready (mode : PluginMode) (which : PluginCallback) (url : CString) (failure : α)
    (callback : GfalPluginInterface σ → Option (Callback σ (Ret α))) (hready : Ready context)
    (hprovides : ∀ p : GfalPluginInterface σ, p.provides mode = true → (callback p).isSome = true) :
    ∃ answer context', dispatchUrl mode which url failure callback context = .ok (answer, context') ∧
      context'.pluginOpt = context.pluginOpt := by
  obtain ⟨⟨found, err⟩, hfind, himplements⟩ := gfalFindPlugin_of_ready hready url mode
  rw [dispatchUrl, Exec.bind_of_ok hfind]
  cases found with
  | none => exact ⟨_, _, rfl, rfl⟩
  | some slot => exact callPlugin_of_isSome slot which (hprovides _ (himplements slot rfl)) context

theorem dispatchPair_of_ready (mode : PluginMode) (which : PluginCallback) (oldUrl newUrl : CString)
    (callback : GfalPluginInterface σ → Option (Callback σ (Ret Int))) (hready : Ready context)
    (hprovides : ∀ p : GfalPluginInterface σ, p.provides mode = true → (callback p).isSome = true) :
    ∃ answer context', dispatchPair mode which oldUrl newUrl callback context = .ok (answer, context') := by
  obtain ⟨⟨source, err⟩, hsource, himplements⟩ := gfalFindPlugin_of_ready hready oldUrl mode
  obtain ⟨target, htarget, -⟩ := gfalFindPlugin_of_ready hready newUrl mode
  rw [dispatchPair, Exec.bind_of_ok hsource]
  cases source with
  | none => exact ⟨_, _, rfl⟩
  | some slot =>
      dsimp only
      rw [Exec.bind_of_ok htarget]
      split
      · obtain ⟨answer, context', hcall, -⟩ :=
          callPlugin_of_isSome slot which (hprovides _ (himplements slot rfl)) context
        exact ⟨answer, context', hcall⟩
      · exact ⟨_, _, rfl⟩

theorem reported_of_ok [Failing α] {call : Gfal σ (Ret α)} (h : ∃ answer context', call context = .ok (answer, context')) :
    ∃ ret context', SingleFileCall.reported call context = .ok (ret, context') := by
  obtain ⟨answer, context', hcall⟩ := h
  exact ⟨_, context', reported_eq_ok.mpr ⟨answer, hcall, rfl⟩⟩

theorem gfalPluginMkdirp_of_ready (path : CString) (mode : Nat) (pflag : Bool) (hready : Ready context)
    (hhonest : AllPlugins Honest context) :
    ∃ ret context', gfalPluginMkdirp path mode pflag context = .ok (ret, context') := by
  obtain ⟨made, context', hmade, -⟩ := dispatchUrl_of_ready .mkdir .mkdirpG path (-1 : Int)
    (fun p => p.mkdirpG.map (· path mode pflag)) hready fun _ hp => Option.isSome_map.trans hp
  obtain ⟨hagrees, -⟩ := dispatchUrl_contract rfl (hhonest.imp fun p hp => hp.mkdirpG path mode pflag) hmade
  rw [gfalPluginMkdirp, Exec.bind_of_ok hmade]
  split
  case isTrue hfailed =>
    have herr : made.err.isSome = true := hagrees.mp (by simpa [Failing.failed] using hfailed.2)
    obtain ⟨e, he⟩ := Option.isSome_iff_exists.mp herr
    rw [he]
    exact ⟨_, _, rfl⟩
  case isFalse => exact ⟨_, _, rfl⟩

theorem gfal2Checksum_of_ready (url checkType : CString) (start : Int) (size : Nat) (buffer : Option CString)
    (length : Nat) (hready : Ready context) :
    ∃ ret context', gfal2Checksum url checkType start size buffer length context = .ok (ret, context') := by
  cases buffer with
  | none => exact ⟨_, _, rfl⟩
  | some buffer =>
      rw [gfal2Checksum]
      split
      · exact ⟨_, _, rfl⟩
      · cases hcancel : context.readings.cancel context.cancelReads with
        | true =>
            rw [Exec.bind_of_ok (gfal2StartScopeCancel_of_cancelled hcancel)]
            exact ⟨_, _, rfl⟩
        | false =>
            have hinScope : Ready context.inScope := ⟨hready.number_pos, hready.implements⟩
            obtain ⟨answer, context', hanswer, -⟩ := dispatchUrl_of_ready .checksum .checksumCalcG url
              ((-1, buffer) : Int × CString)
              (fun p => p.checksumCalcG.map (· url checkType buffer length start size)) hinScope
              fun _ hp => Option.isSome_map.trans hp
            rw [Exec.bind_of_ok (gfal2StartScopeCancel_of_clear hcancel), if_neg (by simp),
              Exec.bind_of_ok hanswer]
            exact ⟨_, _, rfl⟩

theorem gfalPluginGetxattrG_of_ready (path name : CString) (buff : Option CString) (size : Nat) (hready : Ready context) :
    ∃ ret context', gfalPluginGetxattrG path name buff size context = .ok (ret, context') := by
  obtain ⟨answer, middle, hanswer, hopt⟩ := dispatchUrl_of_ready .getxattr .getxattrG path
    ((-1, buff) : Int × Option CString) (fun p => p.getxattrG.map (· path name buff size)) hready
    fun _ hp => Option.isSome_map.trans hp
  rw [gfalPluginGetxattrG, getxattrOfPlugin, Exec.bind_of_ok hanswer]
  split
  · exact gfal2Checksum_of_ready path _ 0 0 _ size ⟨hopt ▸ hready.number_pos, hopt ▸ hready.implements⟩
  · exact ⟨_, _, rfl⟩

/-- Every call returns in a context that is ready for it. -/
theorem run_of_ready (call : SingleFileCall) (hready : Ready context) (hhonest : AllPlugins Honest context) :
    ∃ ret context', call.run context = .ok (ret, context') := by
  have hurl : ∀ {β : Type} [Failing β] (mode : PluginMode) (which : PluginCallback) (url : CString) (failure : β)
      (callback : GfalPluginInterface σ → Option (Callback σ (Ret β))),
      (∀ p : GfalPluginInterface σ, p.provides mode = true → (callback p).isSome = true) →
      ∃ ret context', SingleFileCall.reported (dispatchUrl mode which url failure callback) context =
        .ok (ret, context') := by
    intro β _ mode which url failure callback hprovides
    obtain ⟨answer, context', hanswer, -⟩ := dispatchUrl_of_ready mode which url failure callback hready hprovides
    exact reported_of_ok ⟨answer, context', hanswer⟩
  cases call with
  | rename oldpath newpath =>
      exact reported_of_ok (dispatchPair_of_ready _ _ _ _ _ hready fun _ hp => Option.isSome_map.trans hp)
  | symlink oldpath newpath =>
      exact reported_of_ok (dispatchPair_of_ready _ _ _ _ _ hready fun _ hp => Option.isSome_map.trans hp)
  | mkdirp path mode pflag => exact reported_of_ok (gfalPluginMkdirp_of_ready path mode pflag hready hhonest)
  | getxattr path name buff size => exact reported_of_ok (gfalPluginGetxattrG_of_ready path name buff size hready)
  | checksum url checkType start size buffer length =>
      exact reported_of_ok (gfal2Checksum_of_ready url checkType start size buffer length hready)
  | access path mode => exact hurl _ _ _ _ _ fun _ hp => Option.isSome_map.trans hp
  | stat path st => exact hurl _ _ _ _ _ fun _ hp => Option.isSome_map.trans hp
  | lstat path st => exact hurl _ _ _ _ _ fun _ hp => Option.isSome_map.trans hp
  | readlink path buff size => exact hurl _ _ _ _ _ fun _ hp => Option.isSome_map.trans hp
  | chmod path mode => exact hurl _ _ _ _ _ fun _ hp => Option.isSome_map.trans hp
  | rmdir path => exact hurl _ _ _ _ _ fun _ hp => Option.isSome_map.trans hp
  | unlink path => exact hurl _ _ _ _ _ fun _ hp => Option.isSome_map.trans hp
  | opendir name => exact hurl _ _ _ _ _ fun _ hp => Option.isSome_map.trans hp
  | «open» path flag mode => exact hurl _ _ _ _ _ fun _ hp => Option.isSome_map.trans hp
  | setxattr path name value size flags => exact hurl _ _ _ _ _ fun _ hp => Option.isSome_map.trans hp
  | listxattr path list size => exact hurl _ _ _ _ _ fun _ hp => Option.isSome_map.trans hp

/-- With honest plugins, a dispatcher reports a failure exactly when it sets the error, unless its two
URLs go to different plugins; and it calls at most one callback, of the plugin chosen for every URL
involved, unless it computes a checksum attribute that the plugin failed to answer. It returns when
the plugins implement the operations they accept. -/
theorem dispatch_contract (call : SingleFileCall) (context : Gfal2Context σ) (hhonest : AllPlugins Honest context) :
    (Ready context → ∃ ret context', call.run context = .ok (ret, context')) ∧
      ∀ ret context', call.run context = .ok (ret, context') →
        (¬call.Crosses context → (ret.val = true ↔ ret.err.isSome = true)) ∧
          (CallsSelected context context' call.urls call.mode call.callback ∨
            AnsweredByChecksum call context context') :=
  ⟨fun hready => run_of_ready call hready hhonest, fun _ _ hrun => contract_of_run call hhonest hrun⟩

end Contract

/-- A plugin that computes checksums and does not serve them as attributes. -/
def checksumPlugin : GfalPluginInterface Unit where
  getName := some (lit "checksum_plugin")
  checkPluginUrl := some fun _ _ mode => ⟨mode = .getxattr ∨ mode = .checksum, none⟩
  getxattrG := some fun _ _ buff _ world => (⟨(-1, buff), some ⟨gfal2GetPluginsQuark, ENODATA, []⟩⟩, world)
  checksumCalcG := some fun _ _ _ _ _ _ world => (⟨(0, lit "1a0b045d"), none⟩, world)

def checksumContext : Gfal2Context Unit where
  pluginOpt := { pluginList := fun _ => checksumPlugin, sortedPlugin := [0], pluginNumber := 1 }
  world := ()

theorem honest_checksumPlugin : Honest checksumPlugin := by
  constructor <;> intros <;> simp [AnswersHonestly, checksumPlugin, Ret.Agrees, Failing.failed]

theorem allPlugins_checksumContext : AllPlugins Honest checksumContext where
  loaded _ := honest_checksumPlugin
  loadable files hfiles file hfile := by
    cases hfiles
    simp at hfile

theorem ready_checksumContext : Ready checksumContext where
  number_pos := by decide
  implements _ check hcheck world url mode haccepts := by
    cases hcheck
    simp only [Ret.mk.injEq, decide_eq_true_eq, and_true] at haccepts
    rcases haccepts with rfl | rfl <;> rfl

theorem dispatch_contract_checksum :
    ∃ ret context', (SingleFileCall.checksum (lit "mock://host/file") (lit "adler32") 0 0 (some []) 64).run
        checksumContext = .ok (ret, context') ∧ (ret.val = true ↔ ret.err.isSome = true) := by
  obtain ⟨hreturns, hcontract⟩ := dispatch_contract
    (.checksum (lit "mock://host/file") (lit "adler32") 0 0 (some []) 64) checksumContext allPlugins_checksumContext
  obtain ⟨ret, context', hrun⟩ := hreturns ready_checksumContext
  refine ⟨ret, context', hrun, (hcontract ret context' hrun).1 ?_⟩
  rintro ⟨oldpath, newpath, hcall | hcall, -⟩ <;> cases hcall

/-- A checksum attribute takes two callbacks when its plugin does not answer it. -/
theorem getxattr_calls_two_callbacks : AllPlugins Honest checksumContext ∧
      ((SingleFileCall.getxattr (lit "mock://host/file") (lit "user.checksum.adler32") (some []) 64).run
        checksumContext).toOption.map (fun result => (result.1.val, result.2.calls)) =
      some (false, [(0, .getxattrG), (0, .checksumCalcG)]) :=
  ⟨allPlugins_checksumContext, by decide +kernel⟩

end Gfal2
