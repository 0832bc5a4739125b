import Gfal2.PluginInterface
import Gfal2.Base.GList
import Mathlib.Logic.Function.Basic

/-! The plugin registry: loading the modules of the plugin directory, registering a plugin at run
time, sorting by priority, and choosing the plugin for a URL. The array has fifteen slots and a
signed count. Loading has no bound check of its own and resets the count when a module fails. -/

namespace Gfal2

open Base

section Model

variable {σ : Type}

def pluginNumber : Gfal σ Int := fun context => .ok (context.pluginOpt.pluginNumber, context)

def setPluginNumber (n : Int) : Gfal σ Unit :=
  Exec.modify fun context => { context with pluginOpt := { context.pluginOpt with pluginNumber := n } }

/-- The element of `plugin_list` at an index. Outside the array there is none. -/
def slotOf (i : Int) : Gfal σ Slot :=
  if h : 0 ≤ i ∧ i < maxPluginList then
    pure ⟨i.toNat, by omega⟩
  else
    Exec.fault .arrayBounds

def storePlugin (slot : Slot) (plugin : GfalPluginInterface σ) : Gfal σ Unit :=
  Exec.modify fun context =>
    { context with
      pluginOpt :=
        { context.pluginOpt with pluginList := Function.update context.pluginOpt.pluginList slot plugin } }

def callConstructor (entryPoint : Callback σ (Ret (GfalPluginInterface σ))) :
    Gfal σ (Ret (GfalPluginInterface σ)) := fun context =>
  let answer := entryPoint context.world
  .ok (answer.1, { context with world := answer.2 })

def unableToLoad (moduleName : CString) (e : GError) : GError :=
  { e with message := lit "Unable to load plugin " ++ moduleName ++ lit " : " ++ e.message }

/-- `gfal_module_init` and the `dlopen` before it in `gfal_module_load`. A library that does not open
is skipped without an error. -/
def gfalModuleLoad (moduleName : CString) : Library σ → Gfal σ (Ret Int)
  | .unopenable => return ⟨0, none⟩
  | .withoutSymbol => do
      setPluginNumber 0
      return ⟨-1, some ⟨gfal2GetPluginsQuark, EINVAL,
        lit "No symbol gfal_plugin_init found in the plugin " ++ moduleName ++ lit ", failure"⟩⟩
  | .plugin entryPoint => do
      let made ← callConstructor entryPoint
      let n ← pluginNumber
      let slot ← slotOf n
      storePlugin slot made.val
      match made.err with
      | some e =>
          setPluginNumber 0
          return ⟨-1, some (unableToLoad moduleName e)⟩
      | none =>
          setPluginNumber (n + 1)
          return ⟨0, none⟩

/-- `gfal_list_directory_plugins`: the files whose name contains the suffix of a shared library. -/
def gfalListDirectoryPlugins (dir : PluginDir σ) : Except GError (List (CString × Library σ)) :=
  match dir.files with
  | .error e =>
      .error { e with message := lit "Error, gfal2 plugins directory : " ++ dir.path ++ lit " -> " ++ e.message }
  | .ok files =>
      .ok ((files.filter fun file => strstr file.name (lit "so")).map fun file =>
        (dir.path ++ lit "/" ++ file.name, file.library))

/-- The loop of `gfal_modules_resolve`, with the result of the iterations before. -/
def gfalModulesLoop : List (CString × Library σ) → Int → Gfal σ (Ret Int)
  | [], res => return ⟨res, none⟩
  | (path, library) :: rest, res => do
      if path = [] then
        return ⟨res, none⟩
      let loaded ← gfalModuleLoad path library
      if loaded.val ≠ 0 then
        return ⟨-1, loaded.err⟩
      gfalModulesLoop rest 0

def gfalModulesResolve : Gfal σ (Ret Int) := do
  let context ← Exec.get
  match gfalListDirectoryPlugins context.pluginDir with
  | .error e => return ⟨-1, some e⟩
  | .ok modules => gfalModulesLoop modules (-1)

def gfalPluginCompare (a b : GfalPluginInterface σ) : Int :=
  if a.priority > b.priority then -1 else if a.priority = b.priority then 0 else 1

/-- The list `gfal_plugins_sort` builds by appending the elements below an index. -/
def slotsBelow : Nat → Gfal σ (List Slot)
  | 0 => return []
  | n + 1 => do
      let before ← slotsBelow n
      let slot ← slotOf n
      return before ++ [slot]

def gfalPluginsSort : Gfal σ Int := do
  let n ← pluginNumber
  let slots ← slotsBelow n.toNat
  Exec.modify fun context =>
    { context with
      pluginOpt :=
        { context.pluginOpt with
          sortedPlugin := gListSort slots fun a b =>
            gfalPluginCompare (context.pluginOpt.pluginList a) (context.pluginOpt.pluginList b) } }
  return 0

def gfalPluginsInstance : Gfal σ (Ret Int) := do
  let n ← pluginNumber
  if n ≤ 0 then
    let resolved ← gfalModulesResolve
    match resolved.err with
    | some e =>
        setPluginNumber (-1)
        return ⟨-1, some e⟩
    | none =>
        let loaded ← pluginNumber
        if loaded > 0 then
          let _ ← gfalPluginsSort
          return ⟨loaded, none⟩
        else
          return ⟨loaded, none⟩
  else
    return ⟨n, none⟩

def gfalPluginCheckerSafe (context : Gfal2Context σ) (slot : Slot) (url : CString) (mode : PluginMode) :
    Ret Bool :=
  match (context.pluginOpt.pluginList slot).checkPluginUrl with
  | some check => check context.world url mode
  | none => ⟨false, none⟩

/-- The loop of `gfal_find_plugin`: the first plugin that accepts, unless a check before it fails. -/
def gfalFindLoop (context : Gfal2Context σ) (url : CString) (mode : PluginMode) :
    List Slot → Ret (Option Slot)
  | [] => ⟨none, none⟩
  | slot :: rest =>
      let check := gfalPluginCheckerSafe context slot url mode
      match check.err with
      | some e => ⟨none, some e⟩
      | none => if check.val then ⟨some slot, none⟩ else gfalFindLoop context url mode rest

def protocolNotSupported (url : CString) : GError :=
  gfal2SetError gfal2GetPluginsQuark EPROTONOSUPPORT
    (lit "Protocol not supported or path/url invalid: " ++ url)

/-- What `gfal_find_plugin` makes of the outcome of the search. -/
def findOutcome (url : CString) : Ret (Option Slot) → Ret (Option Slot)
  | ⟨some slot, _⟩ => ⟨some slot, none⟩
  | ⟨none, some e⟩ => ⟨none, some e⟩
  | ⟨none, none⟩ => ⟨none, some (protocolNotSupported url)⟩

def gfalFindPlugin (url : CString) (mode : PluginMode) : Gfal σ (Ret (Option Slot)) := do
  let plugins ← gfalPluginsInstance
  let context ← Exec.get
  let found := if plugins.val > 0 then gfalFindLoop context url mode context.pluginOpt.sortedPlugin
    else ⟨none, plugins.err⟩
  return findOutcome url found

def gfal2RegisterPlugin (ifce : GfalPluginInterface σ) : Gfal σ (Ret Int) := do
  let n ← pluginNumber
  if n ≥ maxPluginList then
    return ⟨-1, some (gfal2SetError gfal2GetPluginsQuark ENOMEM
      (lit "Not enough space to allocate a new plugin"))⟩
  setPluginNumber (n + 1)
  let slot ← slotOf n
  storePlugin slot ifce
  let sorted ← gfalPluginsSort
  return ⟨sorted, none⟩

/-- The part of `gfal2_context_new` that fills the registry of a zeroed context. There is no context
when the plugins fail to load. -/
def gfal2ContextNew (context : Gfal2Context σ) : Except Fault (Option (Gfal2Context σ)) :=
  match gfalPluginsInstance { context with pluginOpt := {} } with
  | .error reason => .error reason
  | .ok (plugins, context') =>
      if plugins.val ≤ 0 ∧ plugins.err.isSome then .ok none else .ok (some context')

end Model

section Loading

variable {σ : Type}

/-- The library is among the files of the directory. -/
def PluginDir.Holds (dir : PluginDir σ) (library : Library σ) : Prop :=
  ∃ files, dir.files = .ok files ∧ ∃ file ∈ files, file.library = library

/-- A property of contexts that loading a plugin of their directory keeps, and so do counting and sorting
the plugins. -/
structure LoadStable (inv : Gfal2Context σ → Prop) : Prop where
  number : ∀ context n, inv context → inv { context with pluginOpt := { context.pluginOpt with pluginNumber := n } }
  sorted : ∀ context slots, inv context →
    inv { context with pluginOpt := { context.pluginOpt with sortedPlugin := slots } }
  load : ∀ context slot entryPoint, context.pluginDir.Holds (.plugin entryPoint) → inv context →
    inv { context with
      world := (entryPoint context.world).2
      pluginOpt := { context.pluginOpt with
        pluginList := Function.update context.pluginOpt.pluginList slot (entryPoint context.world).1.val } }

theorem preserves_pluginNumber (inv : Gfal2Context σ → Prop) : Exec.Preserves inv pluginNumber := by
  intro context h n context' heq
  cases heq
  exact h

theorem preserves_slotOf (inv : Gfal2Context σ → Prop) (i : Int) : Exec.Preserves inv (slotOf i) := by
  unfold slotOf
  split
  · exact Exec.Preserves.pure _
  · exact Exec.Preserves.fault _

theorem preserves_slotsBelow (inv : Gfal2Context σ → Prop) (n : Nat) : Exec.Preserves inv (slotsBelow n) := by
  induction n with
  | zero => exact Exec.Preserves.pure _
  | succ n ih => exact ih.bind fun _ => (preserves_slotOf inv n).bind fun _ => Exec.Preserves.pure _

theorem slotOf_state {i : Int} {context context' : Gfal2Context σ} {slot : Slot}
    (h : slotOf i context = .ok (slot, context')) : context' = context :=
  preserves_slotOf (· = context) i context rfl slot context' h

namespace LoadStable

variable {inv : Gfal2Context σ → Prop} (hinv : LoadStable inv)

include hinv

theorem setPluginNumber (n : Int) : Exec.Preserves inv (setPluginNumber n) :=
  Exec.Preserves.modify fun context h => hinv.number context n h

/-- The directory stays the one that the libraries are from. -/
theorem inDir (dir : PluginDir σ) : LoadStable fun context => inv context ∧ context.pluginDir = dir where
  number := fun context n h => ⟨hinv.number context n h.1, h.2⟩
  sorted := fun context slots h => ⟨hinv.sorted context slots h.1, h.2⟩
  load := fun context slot entryPoint hholds h => ⟨hinv.load context slot entryPoint hholds h.1, h.2⟩

theorem moduleLoad {dir : PluginDir σ} {library : Library σ} (hholds : dir.Holds library) (moduleName : CString) :
    Exec.Preserves (fun context => inv context ∧ context.pluginDir = dir) (gfalModuleLoad moduleName library) := by
  cases library with
  | unopenable => exact Exec.Preserves.pure _
  | withoutSymbol => exact ((hinv.inDir dir).setPluginNumber 0).bind fun _ => Exec.Preserves.pure _
  | plugin entryPoint =>
      intro context h ret context' heq
      obtain ⟨made, built, hmade, heq⟩ := Exec.bind_eq_ok.mp heq
      obtain ⟨n, counted, hn, heq⟩ := Exec.bind_eq_ok.mp heq
      obtain ⟨slot, found, hslot, heq⟩ := Exec.bind_eq_ok.mp heq
      obtain ⟨_, stored, hstored, heq⟩ := Exec.bind_eq_ok.mp heq
      cases hmade
      cases hn
      cases slotOf_state hslot
      cases hstored
      have hload := (hinv.inDir dir).load context slot entryPoint (h.2 ▸ hholds) h
      suffices hrest : Exec.Preserves (fun context => inv context ∧ context.pluginDir = dir) _ from
        hrest _ hload ret context' heq
      cases (entryPoint context.world).1.err with
      | some e => exact ((hinv.inDir dir).setPluginNumber 0).bind fun _ => Exec.Preserves.pure _
      | none => exact ((hinv.inDir dir).setPluginNumber _).bind fun _ => Exec.Preserves.pure _

theorem modulesLoop (dir : PluginDir σ) {modules : List (CString × Library σ)}
    (hmodules : ∀ entry ∈ modules, dir.Holds entry.2) (res : Int) :
    Exec.Preserves (fun context => inv context ∧ context.pluginDir = dir) (gfalModulesLoop modules res) := by
  induction modules generalizing res with
  | nil => exact Exec.Preserves.pure _
  | cons head rest ih =>
      obtain ⟨hhead, hrest⟩ := List.forall_mem_cons.mp hmodules
      refine Exec.Preserves.ite (Exec.Preserves.pure _) ?_
      refine (hinv.moduleLoad hhead head.1).bind fun loaded => ?_
      exact Exec.Preserves.ite (Exec.Preserves.pure _) (ih hrest 0)

theorem modulesResolve : Exec.Preserves inv gfalModulesResolve := by
  intro context h ret context' heq
  rw [gfalModulesResolve, Exec.get_bind_apply] at heq
  cases hfiles : context.pluginDir.files with
  | error e =>
      rw [gfalListDirectoryPlugins, hfiles] at heq
      cases heq
      exact h
  | ok files =>
      rw [gfalListDirectoryPlugins, hfiles] at heq
      refine (hinv.modulesLoop context.pluginDir ?_ (-1) context ⟨h, rfl⟩ ret context' heq).1
      intro entry hentry
      obtain ⟨file, hfile, rfl⟩ := List.mem_map.mp hentry
      exact ⟨files, hfiles, file, List.mem_of_mem_filter hfile, rfl⟩

theorem pluginsSort : Exec.Preserves inv gfalPluginsSort := by
  refine (preserves_pluginNumber inv).bind fun n => (preserves_slotsBelow inv n.toNat).bind fun slots => ?_
  refine Exec.Preserves.bind (Exec.Preserves.modify ?_) fun _ => Exec.Preserves.pure _
  exact fun context h => hinv.sorted context _ h

theorem pluginsInstance : Exec.Preserves inv gfalPluginsInstance := by
  refine (preserves_pluginNumber inv).bind fun n => Exec.Preserves.ite ?_ (Exec.Preserves.pure _)
  refine hinv.modulesResolve.bind fun resolved => ?_
  cases resolved.err with
  | some e => exact (hinv.setPluginNumber _).bind fun _ => Exec.Preserves.pure _
  | none =>
      refine (preserves_pluginNumber inv).bind fun loaded => ?_
      exact Exec.Preserves.ite (hinv.pluginsSort.bind fun _ => Exec.Preserves.pure _) (Exec.Preserves.pure _)

/-- Choosing a plugin loads plugins at most. -/
theorem findPlugin (url : CString) (mode : PluginMode) : Exec.Preserves inv (gfalFindPlugin url mode) :=
  hinv.pluginsInstance.bind fun _ => Exec.Preserves.get.bind fun _ => Exec.Preserves.pure _

end LoadStable

theorem loadStable_config (config : Config) : LoadStable fun context : Gfal2Context σ => context.config = config where
  number := fun _ _ h => h
  sorted := fun _ _ h => h
  load := fun _ _ _ _ h => h

end Loading

end Gfal2
