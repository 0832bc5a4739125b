import Gfal2.PluginRegistry
import Gfal2.Base.Runs
import Mathlib.Tactic.ByContra

/-! Soundness of the plugin registry over whole runs. A load that calls at most as many constructors as
there are slots, and that succeeds, keeps the count inside the array and the sorted list a stable
sort; any other load writes outside the array or leaves a negative count. In a sound registry the
search returns the plugin that precedes all others that accept the URL. -/

namespace Gfal2

open Base

/-! ### The invariant -/

section Invariant

variable {σ : Type}

/-- The count is inside the array, and the sorted list holds the filled slots by descending priority,
slots of one priority in the order of the array. -/
structure RegistrySound (opts : GfalPluginOpts σ) : Prop where
  number_nonneg : 0 ≤ opts.pluginNumber
  number_le : opts.pluginNumber ≤ maxPluginList
  mem_sorted : ∀ slot, slot ∈ opts.sortedPlugin ↔ (slot.val : Int) < opts.pluginNumber
  sorted : opts.sortedPlugin.Pairwise fun a b =>
    (opts.pluginList b).priority < (opts.pluginList a).priority ∨
      (opts.pluginList a).priority = (opts.pluginList b).priority ∧ a < b

theorem pluginNumber_apply (context : Gfal2Context σ) :
    pluginNumber context = .ok (context.pluginOpt.pluginNumber, context) := rfl

theorem slotOf_of_lt {i : Int} (h0 : 0 ≤ i) (h1 : i < maxPluginList) (context : Gfal2Context σ) :
    ∃ slot : Slot, (slot.val : Int) = i ∧ slotOf i context = .ok (slot, context) := by
  refine ⟨⟨i.toNat, by omega⟩, by simp; omega, ?_⟩
  rw [slotOf, dif_pos ⟨h0, h1⟩, Exec.pure_apply]

/-- The elements below an index are appended in the order of the array. -/
theorem slotsBelow_spec {n : Nat} (hn : n ≤ maxPluginList) (context : Gfal2Context σ) :
    ∃ slots, slotsBelow n context = .ok (slots, context) ∧ slots.Pairwise (· < ·) ∧
      ∀ slot : Slot, slot ∈ slots ↔ slot.val < n := by
  induction n with
  | zero => exact ⟨[], rfl, List.Pairwise.nil, by simp⟩
  | succ n ih =>
      obtain ⟨before, hbefore, hsorted, hmem⟩ := ih (by omega)
      obtain ⟨slot, hslot, hslotOf⟩ := slotOf_of_lt (i := n) (by omega) (by omega) context
      refine ⟨before ++ [slot], ?_, ?_, ?_⟩
      · rw [slotsBelow, Exec.bind_of_ok hbefore, Exec.bind_of_ok hslotOf, Exec.pure_apply]
      · refine List.pairwise_append.mpr ⟨hsorted, List.pairwise_singleton _ _, ?_⟩
        intro a ha b hb
        have ha' := (hmem a).mp ha
        rw [List.mem_singleton.mp hb, Fin.lt_def]
        omega
      · intro other
        rw [List.mem_append, hmem, List.mem_singleton, Fin.ext_iff]
        omega

theorem gfalPluginCompare_lt_zero_iff (a b : GfalPluginInterface σ) :
    gfalPluginCompare a b < 0 ↔ b.priority < a.priority := by
  unfold gfalPluginCompare
  split_ifs with hgt heq
  · exact iff_of_true (by decide) hgt
  · exact iff_of_false (by decide) hgt
  · exact iff_of_false (by decide) hgt

theorem gfalPluginCompare_eq_zero_iff (a b : GfalPluginInterface σ) :
    gfalPluginCompare a b = 0 ↔ a.priority = b.priority := by
  unfold gfalPluginCompare
  split_ifs with hgt heq
  · exact iff_of_false (by decide) (by omega)
  · exact iff_of_true rfl heq
  · exact iff_of_false (by decide) heq

theorem compares_gfalPluginCompare (list : Slot → GfalPluginInterface σ) :
    Compares (fun a b => gfalPluginCompare (list a) (list b))
      (fun slot => OrderDual.toDual (list slot).priority) where
  lt_zero_iff a b := gfalPluginCompare_lt_zero_iff (list a) (list b)
  eq_zero_iff a b := gfalPluginCompare_eq_zero_iff (list a) (list b)

theorem slotOf_of_ge {i : Int} (h : maxPluginList ≤ i) (context : Gfal2Context σ) :
    slotOf i context = .error .arrayBounds := by
  rw [slotOf, dif_neg (by omega), Exec.fault_apply]

/-- Sorting a context whose count is inside the array makes its registry sound. -/
theorem gfalPluginsSort_spec (context : Gfal2Context σ) (h0 : 0 ≤ context.pluginOpt.pluginNumber)
    (h1 : context.pluginOpt.pluginNumber ≤ maxPluginList) :
    ∃ sorted, gfalPluginsSort context =
        .ok (0, { context with pluginOpt := { context.pluginOpt with sortedPlugin := sorted } }) ∧
      RegistrySound { context.pluginOpt with sortedPlugin := sorted } := by
  obtain ⟨slots, hslots, hpairwise, hmem⟩ := slotsBelow_spec (σ := σ)
    (n := context.pluginOpt.pluginNumber.toNat) (by omega) context
  have hcompares := compares_gfalPluginCompare context.pluginOpt.pluginList
  refine ⟨gListSort slots fun a b =>
    gfalPluginCompare (context.pluginOpt.pluginList a) (context.pluginOpt.pluginList b), ?_, h0, h1, ?_, ?_⟩
  · rw [gfalPluginsSort, Exec.bind_of_ok (pluginNumber_apply context), Exec.bind_of_ok hslots,
      Exec.modify_bind_apply, Exec.pure_apply]
  · intro slot
    show _ ↔ (slot.val : Int) < context.pluginOpt.pluginNumber
    rw [(perm_gListSort slots).mem_iff, hmem]
    omega
  · refine (stablySorted_gListSort hcompares hpairwise).imp fun hab => ?_
    rwa [OrderDual.toDual_lt_toDual, OrderDual.toDual_inj] at hab

/-! ### Loading -/

/-- How many constructors a load of the modules calls, and whether one of the modules fails. -/
def loadOutcome : List (CString × Library σ) → σ → Nat × Bool
  | [], _ => (0, false)
  | (path, library) :: rest, world =>
      if path = [] then (0, false)
      else
        match library with
        | .unopenable => loadOutcome rest world
        | .withoutSymbol => (0, true)
        | .plugin entryPoint =>
            let made := entryPoint world
            match made.1.err with
            | some _ => (1, true)
            | none => ((loadOutcome rest made.2).1 + 1, (loadOutcome rest made.2).2)

/-- An entry point that reports no error fills the next slot. -/
theorem gfalModuleLoad_plugin (moduleName : CString) (entryPoint : Callback σ (Ret (GfalPluginInterface σ)))
    {context : Gfal2Context σ} (h0 : 0 ≤ context.pluginOpt.pluginNumber)
    (h1 : context.pluginOpt.pluginNumber < maxPluginList) :
    ∃ opts, opts.sortedPlugin = context.pluginOpt.sortedPlugin ∧
      match (entryPoint context.world).1.err with
      | some e => gfalModuleLoad moduleName (.plugin entryPoint) context =
          .ok (⟨-1, some (unableToLoad moduleName e)⟩, { context with pluginOpt := opts, world := (entryPoint context.world).2 })
      | none => opts.pluginNumber = context.pluginOpt.pluginNumber + 1 ∧
          gfalModuleLoad moduleName (.plugin entryPoint) context =
            .ok (⟨0, none⟩, { context with pluginOpt := opts, world := (entryPoint context.world).2 }) := by
  obtain ⟨slot, -, hslot⟩ := slotOf_of_lt h0 h1 { context with world := (entryPoint context.world).2 }
  have hmade : callConstructor entryPoint context =
      .ok ((entryPoint context.world).1, { context with world := (entryPoint context.world).2 }) := rfl
  cases herr : (entryPoint context.world).1.err with
  | some e =>
      refine ⟨{ context.pluginOpt with
        pluginList := Function.update context.pluginOpt.pluginList slot (entryPoint context.world).1.val,
        pluginNumber := 0 }, rfl, ?_⟩
      rw [gfalModuleLoad, Exec.bind_of_ok hmade, Exec.bind_of_ok (pluginNumber_apply _),
        Exec.bind_of_ok hslot, storePlugin, Exec.modify_bind_apply, herr]
      rfl
  | none =>
      refine ⟨{ context.pluginOpt with
        pluginList := Function.update context.pluginOpt.pluginList slot (entryPoint context.world).1.val,
        pluginNumber := context.pluginOpt.pluginNumber + 1 }, rfl, rfl, ?_⟩
      rw [gfalModuleLoad, Exec.bind_of_ok hmade, Exec.bind_of_ok (pluginNumber_apply _),
        Exec.bind_of_ok hslot, storePlugin, Exec.modify_bind_apply, herr]
      rfl

/-- A load that fits the array writes inside it, reports the failure of a module, and otherwise
raises the count by the number of constructors called. -/
theorem gfalModulesLoop_spec (modules : List (CString × Library σ)) (res : Int) (context : Gfal2Context σ)
    (h0 : 0 ≤ context.pluginOpt.pluginNumber)
    (hfit : context.pluginOpt.pluginNumber + (loadOutcome modules context.world).1 ≤ maxPluginList) :
    ∃ ret opts world, gfalModulesLoop modules res context =
        .ok (ret, { context with pluginOpt := opts, world := world }) ∧
      opts.sortedPlugin = context.pluginOpt.sortedPlugin ∧
      (ret.err = none ↔ (loadOutcome modules context.world).2 = false) ∧
      (ret.err = none → opts.pluginNumber =
        context.pluginOpt.pluginNumber + (loadOutcome modules context.world).1) := by
  induction modules generalizing res context with
  | nil => exact ⟨⟨res, none⟩, context.pluginOpt, context.world, rfl, rfl, by simp [loadOutcome]⟩
  | cons head rest ih =>
      obtain ⟨path, library⟩ := head
      by_cases hpath : path = []
      · refine ⟨⟨res, none⟩, context.pluginOpt, context.world, ?_, rfl, by simp [loadOutcome, hpath]⟩
        rw [gfalModulesLoop, if_pos hpath]
        rfl
      · rw [gfalModulesLoop, if_neg hpath]
        cases library with
        | unopenable =>
            simp only [loadOutcome, if_neg hpath] at hfit ⊢
            obtain ⟨ret, opts, world, hloop, hrest⟩ := ih 0 context h0 hfit
            exact ⟨ret, opts, world, hloop, hrest⟩
        | withoutSymbol =>
            refine ⟨_, { context.pluginOpt with pluginNumber := 0 }, context.world, rfl, rfl, ?_⟩
            simp [loadOutcome, hpath]
        | plugin entryPoint =>
            simp only [loadOutcome, if_neg hpath] at hfit ⊢
            have hlt : context.pluginOpt.pluginNumber < maxPluginList := by
              split at hfit <;> dsimp only at hfit <;> omega
            obtain ⟨opts, hsorted, hload⟩ := gfalModuleLoad_plugin path entryPoint h0 hlt
            cases herr : (entryPoint context.world).1.err with
            | some e =>
                rw [herr] at hload
                rw [Exec.bind_of_ok hload]
                exact ⟨_, opts, _, rfl, hsorted, by simp⟩
            | none =>
                rw [herr] at hload hfit
                obtain ⟨hnumber, hload⟩ := hload
                rw [Exec.bind_of_ok hload]
                dsimp only at hfit ⊢
                obtain ⟨ret, opts', world, hloop, hsorted', herr', hnumber'⟩ := ih 0
                  { context with pluginOpt := opts, world := (entryPoint context.world).2 }
                  (by dsimp only; omega) (by dsimp only; omega)
                refine ⟨ret, opts', world, hloop, hsorted'.trans hsorted, herr', fun hnone => ?_⟩
                have := hnumber' hnone
                dsimp only at this
                omega

/-- A load that does not fit the array writes outside it. -/
theorem gfalModulesLoop_overflow (modules : List (CString × Library σ)) (res : Int) (context : Gfal2Context σ)
    (h0 : 0 ≤ context.pluginOpt.pluginNumber) (h1 : context.pluginOpt.pluginNumber ≤ maxPluginList)
    (hover : maxPluginList < context.pluginOpt.pluginNumber + (loadOutcome modules context.world).1) :
    gfalModulesLoop modules res context = .error .arrayBounds := by
  induction modules generalizing res context with
  | nil =>
      simp only [loadOutcome] at hover
      omega
  | cons head rest ih =>
      obtain ⟨path, library⟩ := head
      by_cases hpath : path = []
      · simp only [loadOutcome, if_pos hpath] at hover
        omega
      rw [gfalModulesLoop, if_neg hpath]
      cases library with
      | unopenable =>
          simp only [loadOutcome, if_neg hpath] at hover
          exact ih 0 context h0 h1 hover
      | withoutSymbol =>
          simp only [loadOutcome, if_neg hpath] at hover
          omega
      | plugin entryPoint =>
          simp only [loadOutcome, if_neg hpath] at hover
          by_cases hfull : context.pluginOpt.pluginNumber = maxPluginList
          · refine Exec.bind_of_error ?_
            have hmade : callConstructor entryPoint context =
                .ok ((entryPoint context.world).1, { context with world := (entryPoint context.world).2 }) := rfl
            rw [gfalModuleLoad, Exec.bind_of_ok hmade, Exec.bind_of_ok (pluginNumber_apply _)]
            exact Exec.bind_of_error (slotOf_of_ge hfull.ge _)
          · obtain ⟨opts, -, hload⟩ := gfalModuleLoad_plugin path entryPoint h0 (by omega)
            cases herr : (entryPoint context.world).1.err with
            | some e =>
                rw [herr] at hover
                dsimp only at hover
                omega
            | none =>
                rw [herr] at hload hover
                obtain ⟨hnumber, hload⟩ := hload
                rw [Exec.bind_of_ok hload]
                refine ih 0 { context with pluginOpt := opts, world := (entryPoint context.world).2 } ?_ ?_ ?_
                · dsimp only
                  omega
                · dsimp only
                  omega
                · dsimp only at hover ⊢
                  omega

/-- The load that the next call makes, if it makes one, calls at most as many constructors as there are
slots. -/
def LoadFits (context : Gfal2Context σ) : Prop :=
  context.pluginOpt.pluginNumber ≤ 0 → ∀ modules, gfalListDirectoryPlugins context.pluginDir = .ok modules →
    (loadOutcome modules context.world).1 ≤ maxPluginList

/-- The next call makes a load, and the directory or one of its modules fails. -/
def LoadFails (context : Gfal2Context σ) : Prop :=
  context.pluginOpt.pluginNumber ≤ 0 ∧ ∀ modules, gfalListDirectoryPlugins context.pluginDir = .ok modules →
    (loadOutcome modules context.world).2 = true

theorem registrySound_zeroed : RegistrySound ({} : GfalPluginOpts σ) where
  number_nonneg := le_rfl
  number_le := Int.natCast_nonneg _
  mem_sorted slot := by simp
  sorted := List.Pairwise.nil

theorem RegistrySound.sorted_eq_nil {opts : GfalPluginOpts σ} (h : RegistrySound opts)
    (hnumber : opts.pluginNumber ≤ 0) : opts.sortedPlugin = [] := by
  rw [List.eq_nil_iff_forall_not_mem]
  intro slot hslot
  have := (h.mem_sorted slot).mp hslot
  omega

theorem gfalPluginsInstance_of_pos {context : Gfal2Context σ} (h : 0 < context.pluginOpt.pluginNumber) :
    gfalPluginsInstance context = .ok (⟨context.pluginOpt.pluginNumber, none⟩, context) := by
  rw [gfalPluginsInstance, Exec.bind_of_ok (pluginNumber_apply context), if_neg (by omega), Exec.pure_apply]

/-- Instantiating the plugins of a sound registry stays inside the array, and leaves a sound registry
unless the load fails. -/
theorem gfalPluginsInstance_spec (context : Gfal2Context σ) (hsound : RegistrySound context.pluginOpt)
    (hfit : LoadFits context) :
    ∃ ret opts world, gfalPluginsInstance context =
        .ok (ret, { context with pluginOpt := opts, world := world }) ∧
      (ret = ⟨opts.pluginNumber, none⟩ ∧ RegistrySound opts ∧ ¬LoadFails context ∨
        ret.val = -1 ∧ ret.err.isSome ∧ opts.pluginNumber = -1 ∧ LoadFails context) := by
  by_cases hpos : 0 < context.pluginOpt.pluginNumber
  · refine ⟨_, context.pluginOpt, context.world, gfalPluginsInstance_of_pos hpos, Or.inl ⟨rfl, hsound, ?_⟩⟩
    exact fun hfails => not_lt.mpr hfails.1 hpos
  have hzero : context.pluginOpt.pluginNumber = 0 := by
    have := hsound.number_nonneg
    omega
  unfold gfalPluginsInstance
  rw [Exec.bind_of_ok (pluginNumber_apply context), if_pos hzero.le]
  cases hlist : gfalListDirectoryPlugins context.pluginDir with
  | error e =>
      have hresolve : gfalModulesResolve context = .ok (⟨-1, some e⟩, context) := by
        rw [gfalModulesResolve, Exec.get_bind_apply, hlist]
        rfl
      rw [Exec.bind_of_ok hresolve]
      refine ⟨⟨-1, some e⟩, { context.pluginOpt with pluginNumber := -1 }, context.world, rfl,
        Or.inr ⟨rfl, rfl, rfl, ?_⟩⟩
      refine ⟨hzero.le, fun modules hmodules => ?_⟩
      rw [hlist] at hmodules
      cases hmodules
  | ok modules =>
      have hcalls := hfit hzero.le modules hlist
      obtain ⟨ret, opts, world, hloop, hsorted, herr, hnumber⟩ := gfalModulesLoop_spec modules (-1) context
        hzero.ge (by omega)
      have hresolve : gfalModulesResolve context =
          .ok (ret, { context with pluginOpt := opts, world := world }) := by
        rw [gfalModulesResolve, Exec.get_bind_apply, hlist]
        exact hloop
      rw [Exec.bind_of_ok hresolve]
      cases hret : ret.err with
      | some e =>
          refine ⟨⟨-1, some e⟩, { opts with pluginNumber := -1 }, world, rfl,
            Or.inr ⟨rfl, rfl, rfl, hzero.le, ?_⟩⟩
          intro modules' hmodules'
          rw [hlist] at hmodules'
          cases hmodules'
          by_contra hnot
          have := herr.mpr (by simpa using hnot)
          rw [hret] at this
          cases this
      | none =>
          have hcount := hnumber hret
          have hsucceeds : ¬LoadFails context := by
            rintro ⟨-, hfails⟩
            have := hfails modules hlist
            rw [herr.mp hret] at this
            cases this
          dsimp only
          rw [Exec.bind_of_ok (pluginNumber_apply _)]
          by_cases hloaded : opts.pluginNumber > 0
          · obtain ⟨sorted, hsort, hsound'⟩ := gfalPluginsSort_spec
              { context with pluginOpt := opts, world := world } hloaded.le (by dsimp only; omega)
            rw [if_pos hloaded, Exec.bind_of_ok hsort]
            exact ⟨_, _, world, rfl, Or.inl ⟨rfl, hsound', hsucceeds⟩⟩
          · rw [if_neg hloaded, Exec.pure_apply]
            refine ⟨_, opts, world, rfl, Or.inl ⟨rfl, ⟨by omega, by omega, fun slot => ?_, ?_⟩, hsucceeds⟩⟩
            · rw [hsorted, hsound.sorted_eq_nil hzero.le]
              exact iff_of_false List.not_mem_nil (by omega)
            · rw [hsorted, hsound.sorted_eq_nil hzero.le]
              exact List.Pairwise.nil

/-- Outside the array there is no next state. -/
theorem gfalPluginsInstance_overflow (context : Gfal2Context σ) (hsound : RegistrySound context.pluginOpt)
    (hover : ¬LoadFits context) : gfalPluginsInstance context = .error .arrayBounds := by
  simp only [LoadFits, not_forall, not_le] at hover
  obtain ⟨hnumber, modules, hlist, hcalls⟩ := hover
  have hnonneg := hsound.number_nonneg
  have hresolve : gfalModulesResolve context = .error .arrayBounds := by
    rw [gfalModulesResolve, Exec.get_bind_apply, hlist]
    exact gfalModulesLoop_overflow modules (-1) context hnonneg hsound.number_le (by omega)
  unfold gfalPluginsInstance
  rw [Exec.bind_of_ok (pluginNumber_apply context), if_pos hnumber]
  exact Exec.bind_of_error hresolve

/-- Registering a plugin stays inside the array and leaves a sound registry. -/
theorem gfal2RegisterPlugin_spec {context : Gfal2Context σ} (hsound : RegistrySound context.pluginOpt)
    (ifce : GfalPluginInterface σ) :
    ∃ ret opts, gfal2RegisterPlugin ifce context = .ok (ret, { context with pluginOpt := opts }) ∧
      RegistrySound opts := by
  unfold gfal2RegisterPlugin
  rw [Exec.bind_of_ok (pluginNumber_apply context)]
  by_cases hfull : context.pluginOpt.pluginNumber ≥ maxPluginList
  · rw [if_pos hfull]
    exact ⟨_, context.pluginOpt, rfl, hsound⟩
  rw [if_neg hfull]
  have hnonneg := hsound.number_nonneg
  obtain ⟨slot, -, hslot⟩ := slotOf_of_lt hnonneg (by omega)
    { context with pluginOpt := { context.pluginOpt with pluginNumber := context.pluginOpt.pluginNumber + 1 } }
  obtain ⟨sorted, hsort, hsound'⟩ := gfalPluginsSort_spec
    { context with
      pluginOpt := { context.pluginOpt with
        pluginNumber := context.pluginOpt.pluginNumber + 1
        pluginList := Function.update context.pluginOpt.pluginList slot ifce } }
    (by dsimp only; omega) (by dsimp only; omega)
  refine ⟨⟨0, none⟩, _, ?_, hsound'⟩
  rw [setPluginNumber, Exec.modify_bind_apply, Exec.bind_of_ok hslot, storePlugin, Exec.modify_bind_apply,
    Exec.bind_of_ok hsort, Exec.pure_apply]

/-! ### The choice of a plugin -/

def Accepts (context : Gfal2Context σ) (slot : Slot) (url : CString) (mode : PluginMode) : Prop :=
  gfalPluginCheckerSafe context slot url mode = ⟨true, none⟩

def Declines (context : Gfal2Context σ) (slot : Slot) (url : CString) (mode : PluginMode) : Prop :=
  gfalPluginCheckerSafe context slot url mode = ⟨false, none⟩

/-- The plugin has the higher priority, or the same priority and was registered first. -/
def Precedes (opts : GfalPluginOpts σ) (a b : Slot) : Prop :=
  (opts.pluginList b).priority < (opts.pluginList a).priority ∨
    (opts.pluginList a).priority = (opts.pluginList b).priority ∧ a < b

def Registered (opts : GfalPluginOpts σ) (slot : Slot) : Prop := (slot.val : Int) < opts.pluginNumber

/-- The choice for a URL: the plugin that precedes all others that accept it, or the failure of a check
when every plugin before it declines, or else no plugin, when all of them decline. -/
def ChosenFor (context : Gfal2Context σ) (url : CString) (mode : PluginMode) (ret : Ret (Option Slot)) : Prop :=
  (∃ slot, ret = ⟨some slot, none⟩ ∧ Registered context.pluginOpt slot ∧ Accepts context slot url mode ∧
      ∀ other, Registered context.pluginOpt other → Precedes context.pluginOpt other slot →
        Declines context other url mode) ∨
    (∃ slot e, ret = ⟨none, some e⟩ ∧ Registered context.pluginOpt slot ∧
      (gfalPluginCheckerSafe context slot url mode).err = some e ∧
      ∀ other, Registered context.pluginOpt other → Precedes context.pluginOpt other slot →
        Declines context other url mode) ∨
    ret = ⟨none, some (protocolNotSupported url)⟩ ∧
      ∀ slot, Registered context.pluginOpt slot → Declines context slot url mode

/-- The search stops at the first plugin of the list that does not simply decline. -/
theorem gfalFindLoop_cases (context : Gfal2Context σ) (url : CString) (mode : PluginMode) (slots : List Slot) :
    (∃ before slot after, slots = before ++ slot :: after ∧ (∀ other ∈ before, Declines context other url mode) ∧
      (Accepts context slot url mode ∧ gfalFindLoop context url mode slots = ⟨some slot, none⟩ ∨
        ∃ e, (gfalPluginCheckerSafe context slot url mode).err = some e ∧
          gfalFindLoop context url mode slots = ⟨none, some e⟩)) ∨
      (∀ slot ∈ slots, Declines context slot url mode) ∧ gfalFindLoop context url mode slots = ⟨none, none⟩ := by
  induction slots with
  | nil => exact Or.inr ⟨by simp, rfl⟩
  | cons slot rest ih =>
      rw [gfalFindLoop]
      rcases hcheck : gfalPluginCheckerSafe context slot url mode with ⟨accepted, err⟩
      cases err with
      | some e =>
          refine Or.inl ⟨[], slot, rest, rfl, by simp, Or.inr ⟨e, ?_, rfl⟩⟩
          rw [hcheck]
      | none =>
          cases accepted with
          | true => exact Or.inl ⟨[], slot, rest, rfl, by simp, Or.inl ⟨hcheck, rfl⟩⟩
          | false =>
              rcases ih with ⟨before, other, after, hsplit, hbefore, hother⟩ | ⟨hall, hloop⟩
              · refine Or.inl ⟨slot :: before, other, after, by rw [hsplit]; rfl, ?_, hother⟩
                exact List.forall_mem_cons.mpr ⟨hcheck, hbefore⟩
              · exact Or.inr ⟨List.forall_mem_cons.mpr ⟨hcheck, hall⟩, hloop⟩

/-- In a sound registry the plugins before a slot of the sorted list are those that precede it. -/
theorem RegistrySound.mem_before {opts : GfalPluginOpts σ} (h : RegistrySound opts) {before after : List Slot}
    {slot other : Slot} (hsplit : opts.sortedPlugin = before ++ slot :: after)
    (hother : Registered opts other) (hprecedes : Precedes opts other slot) : other ∈ before := by
  have hmem := (h.mem_sorted other).mpr hother
  have hsorted := h.sorted
  rw [hsplit, List.mem_append, List.mem_cons] at hmem
  rw [hsplit, List.pairwise_append, List.pairwise_cons] at hsorted
  unfold Precedes at hprecedes
  rcases hmem with hmem | rfl | hmem
  · exact hmem
  · exact absurd hprecedes (by simp)
  · rcases hsorted.2.1.1 other hmem with hlt | ⟨heq, hlt⟩
    · omega
    · rw [heq, Fin.lt_def] at hprecedes
      rw [Fin.lt_def] at hlt
      omega

theorem findOutcome_gfalFindLoop {context : Gfal2Context σ} (h : RegistrySound context.pluginOpt)
    (url : CString) (mode : PluginMode) :
    ChosenFor context url mode
      (findOutcome url (gfalFindLoop context url mode context.pluginOpt.sortedPlugin)) := by
  rcases gfalFindLoop_cases context url mode context.pluginOpt.sortedPlugin with
    ⟨before, slot, after, hsplit, hbefore, hslot⟩ | ⟨hall, hloop⟩
  · have hregistered : Registered context.pluginOpt slot := by
      apply (h.mem_sorted slot).mp
      rw [hsplit]
      simp
    have hdecline : ∀ other, Registered context.pluginOpt other → Precedes context.pluginOpt other slot →
        Declines context other url mode :=
      fun other hother hprecedes => hbefore other (h.mem_before hsplit hother hprecedes)
    rcases hslot with ⟨haccept, hloop⟩ | ⟨e, herr, hloop⟩
    · rw [hloop]
      exact Or.inl ⟨slot, rfl, hregistered, haccept, hdecline⟩
    · rw [hloop]
      exact Or.inr (Or.inl ⟨slot, e, rfl, hregistered, herr, hdecline⟩)
  · rw [hloop]
    exact Or.inr (Or.inr ⟨rfl, fun slot hslot => hall slot ((h.mem_sorted slot).mpr hslot)⟩)

/-- With a load that fits and succeeds, if one is due, the choice is made among the registered plugins
of a sound registry. -/
theorem gfalFindPlugin_spec (context : Gfal2Context σ) (hsound : RegistrySound context.pluginOpt)
    (hfit : LoadFits context) (hload : ¬LoadFails context) (url : CString) (mode : PluginMode) :
    ∃ ret context', gfalFindPlugin url mode context = .ok (ret, context') ∧
      RegistrySound context'.pluginOpt ∧ ChosenFor context' url mode ret := by
  obtain ⟨ret, opts, world, hinstance, ⟨rfl, hsound', -⟩ | ⟨-, -, -, hfails⟩⟩ :=
    gfalPluginsInstance_spec context hsound hfit
  · refine ⟨_, { context with pluginOpt := opts, world := world }, ?_, hsound',
      findOutcome_gfalFindLoop hsound' url mode⟩
    rw [gfalFindPlugin, Exec.bind_of_ok hinstance, Exec.get_bind_apply]
    by_cases hpos : opts.pluginNumber > 0
    · dsimp only
      rw [if_pos hpos, Exec.pure_apply]
    · dsimp only
      rw [if_neg hpos, hsound'.sorted_eq_nil (by omega), gfalFindLoop, Exec.pure_apply]
  · exact absurd hfails hload

end Invariant

/-! ### Runs -/

section Runs

variable {σ : Type}

/-- What reaches the registry of a live context: a call that looks for its plugins, with the plugin
directory as it stands at that time, and the registration of a plugin. -/
inductive RegistryEvent (σ : Type) where
  | call (dir : PluginDir σ)
  | register (ifce : GfalPluginInterface σ)

def Gfal2Context.withDir (context : Gfal2Context σ) (dir : PluginDir σ) : Gfal2Context σ :=
  { context with pluginDir := dir }

def registryStep : RegistryEvent σ → Gfal2Context σ → Except Fault (Gfal2Context σ)
  | .call dir, context => (gfalPluginsInstance (context.withDir dir)).map Prod.snd
  | .register ifce, context => (gfal2RegisterPlugin ifce context).map Prod.snd

/-- A load in a live context calls at most fifteen constructors, and neither the directory nor one of
its modules fails. -/
def SafeLoad : RegistryEvent σ → Gfal2Context σ → Prop
  | .call dir, context => LoadFits (context.withDir dir) ∧ ¬LoadFails (context.withDir dir)
  | .register _, _ => True

/-- In a sound registry exactly the safe events write inside the array and leave a sound registry. -/
theorem safeLoad_iff {context : Gfal2Context σ} (hsound : RegistrySound context.pluginOpt) (event : RegistryEvent σ) :
    SafeLoad event context ↔
      ∃ context', registryStep event context = .ok context' ∧ RegistrySound context'.pluginOpt := by
  cases event with
  | call dir =>
      rw [SafeLoad, registryStep]
      by_cases hfit : LoadFits (context.withDir dir)
      · obtain ⟨ret, opts, world, hinstance, ⟨-, hsound', hsucceeds⟩ | ⟨-, -, hnumber, hfails⟩⟩ :=
          gfalPluginsInstance_spec (context.withDir dir) hsound hfit
        · exact iff_of_true ⟨hfit, hsucceeds⟩ ⟨_, by rw [hinstance]; rfl, hsound'⟩
        · refine iff_of_false (fun hsafe => hsafe.2 hfails) ?_
          rintro ⟨context', hstep, hsound'⟩
          rw [hinstance] at hstep
          cases hstep
          have := hsound'.number_nonneg
          dsimp only at this
          omega
      · refine iff_of_false (fun hsafe => hfit hsafe.1) ?_
        rintro ⟨context', hstep, -⟩
        rw [gfalPluginsInstance_overflow (context.withDir dir) hsound hfit] at hstep
        cases hstep
  | register ifce =>
      obtain ⟨ret, opts, hregister, hsound'⟩ := gfal2RegisterPlugin_spec hsound ifce
      exact iff_of_true trivial ⟨_, by rw [registryStep, hregister]; rfl, hsound'⟩

/-- A context is created without a write outside the array, and its registry is sound. -/
theorem gfal2ContextNew_sound (context : Gfal2Context σ) (hfit : LoadFits { context with pluginOpt := {} }) :
    ∃ created, gfal2ContextNew context = .ok created ∧
      ∀ context', created = some context' → RegistrySound context'.pluginOpt := by
  obtain ⟨ret, opts, world, hinstance, ⟨rfl, hsound, -⟩ | ⟨hval, herr, -, -⟩⟩ :=
    gfalPluginsInstance_spec { context with pluginOpt := {} } registrySound_zeroed hfit
  · refine ⟨some { context with pluginOpt := opts, world := world }, ?_, ?_⟩
    · rw [gfal2ContextNew, hinstance]
      simp
    · rintro context' heq
      cases heq
      exact hsound
  · refine ⟨none, ?_, by simp⟩
    rw [gfal2ContextNew, hinstance]
    simp [hval, herr]

theorem gfal2ContextNew_overflow (context : Gfal2Context σ)
    (hover : ¬LoadFits { context with pluginOpt := {} }) : gfal2ContextNew context = .error .arrayBounds := by
  rw [gfal2ContextNew, gfalPluginsInstance_overflow { context with pluginOpt := {} } registrySound_zeroed hover]

/-- From the creation of a context on, as long as every load calls at most fifteen constructors and no
load of the live context fails, the registry stays sound and every choice is the one its order calls
for. The next event stays inside the array and keeps the registry sound exactly if it is safe. -/
theorem registry_of_safe_loads (fresh : Gfal2Context σ) (hfit : LoadFits { fresh with pluginOpt := {} }) :
    ∃ created, gfal2ContextNew fresh = .ok created ∧
      ∀ context events last, created = some context →
        Run (fun event context => (registryStep event context).toOption) SafeLoad context events last →
        RegistrySound last.pluginOpt ∧
          (∀ event, SafeLoad event last ↔
            ∃ next, registryStep event last = .ok next ∧ RegistrySound next.pluginOpt) ∧
          ∀ dir url mode, SafeLoad (.call dir) last →
            ∃ ret context', gfalFindPlugin url mode (last.withDir dir) = .ok (ret, context') ∧
              ChosenFor context' url mode ret := by
  obtain ⟨created, hnew, hcreated⟩ := gfal2ContextNew_sound fresh hfit
  refine ⟨created, hnew, fun context events last hcontext hrun => ?_⟩
  have hsound : RegistrySound last.pluginOpt := by
    refine hrun.invariant (fun context => RegistrySound context.pluginOpt) ?_ (hcreated context hcontext)
    intro event state state' hsafe hstate hstep
    obtain ⟨next, hnext, hsound⟩ := (safeLoad_iff hstate event).mp hsafe
    rw [hnext] at hstep
    cases hstep
    exact hsound
  refine ⟨hsound, safeLoad_iff hsound, fun dir url mode hsafe => ?_⟩
  obtain ⟨ret, context', hfind, -, hchosen⟩ :=
    gfalFindPlugin_spec (last.withDir dir) hsound hsafe.1 hsafe.2 url mode
  exact ⟨ret, context', hfind, hchosen⟩

end Runs

/-- A context over a plugin directory whose modules report the given priorities and no error. -/
def contextOverModules (priorities : List Int) : Gfal2Context Unit where
  pluginDir :=
    { path := lit "/usr/lib64/gfal2-plugins"
      files := .ok (priorities.map fun priority =>
        ⟨lit "libgfal_plugin.so", .plugin fun world => (⟨{ priority := priority }, none⟩, world)⟩) }
  world := ()

/-- Two modules and a plugin of higher priority registered at run time. -/
theorem registry_of_safe_loads_three :
    ∃ created context last, gfal2ContextNew (contextOverModules [0, 5]) = .ok created ∧ created = some context ∧
      registryStep (.register { priority := 7 }) context = .ok last ∧ RegistrySound last.pluginOpt := by
  obtain ⟨created, hnew, hruns⟩ := registry_of_safe_loads (contextOverModules [0, 5]) (by
    intro _ modules hmodules
    cases hmodules
    decide +kernel)
  obtain ⟨context, rfl⟩ : ∃ context, created = some context := by
    have hsome : ((gfal2ContextNew (contextOverModules [0, 5])).toOption.join).isSome = true := by decide +kernel
    rw [hnew] at hsome
    exact Option.isSome_iff_exists.mp hsome
  obtain ⟨-, hsafe, -⟩ := hruns context [] context rfl (.nil context)
  obtain ⟨last, hlast, -⟩ := (hsafe (.register { priority := 7 })).mp trivial
  have hrun : Run (fun event context => (registryStep event context).toOption) SafeLoad context
      [.register { priority := 7 }] last := .cons trivial (by rw [hlast]; rfl) (.nil last)
  exact ⟨_, context, last, hnew, rfl, hlast, (hruns context _ last rfl hrun).1⟩

/-- A sixteenth module is stored past the end of the array; and a load that fails in a live context
leaves a negative count. -/
theorem registry_unsound_loads : gfal2ContextNew (contextOverModules (List.replicate 16 0)) = .error .arrayBounds ∧
      ((gfal2ContextNew (contextOverModules [])).toOption.join.bind fun context =>
        (registryStep (.call ⟨lit "/plugins", .ok [⟨lit "libgfal_plugin.so", .withoutSymbol⟩]⟩)
          context).toOption).map (·.pluginOpt.pluginNumber) = some (-1) := by
  constructor
  · refine gfal2ContextNew_overflow _ fun hfit => ?_
    have hcalls := hfit le_rfl _ rfl
    exact absurd hcalls (by decide +kernel)
  · decide +kernel

end Gfal2
