import Gfal2.DescriptorCalls
import Gfal2.Base.Runs

/-! The table of descriptors over any sequence of calls, for any plugins and any random numbers. It is at
every time what the outcomes of the calls say: a successful opening adds the handle that its plugin
returned under a new positive number, a successful closing takes its descriptor away, and nothing else
changes it. No descriptor is left bound to a freed handle as long as a plugin that frees a handle
reports that the closing succeeded. -/

namespace Gfal2

open Base Exec

variable {σ : Type}

/-! ### Runs -/

/-- What the descriptors are bound to, as the outcomes of the calls say. -/
abbrev Descriptors := Int → Option GfalFileHandle

/-- A stored handle is added under the returned number, a successful closing takes the descriptor away. -/
def DescriptorCall.tableAfter (call : DescriptorCall) (handle : Option GfalFileHandle) (ret : Int)
    (table : Descriptors) : Descriptors :=
  match call with
  | .open2 .. | .opendir _ =>
      match handle with
      | some fh => if 0 < ret then Function.update table ret (some fh) else table
      | none => table
  | .close fd => if ret = 0 then Function.update table fd none else table
  | .closedir dir => if ret = 0 then Function.update table (toInt32 dir) none else table
  | .io .. | .flush _ | .readdir _ | .readdirpp .. => table

/-- A call of the library beside the record of its outcomes. -/
def descriptorStep (fuel : Nat) (call : DescriptorCall) (s : Gfal2Context σ × Descriptors) :
    Option (Gfal2Context σ × Descriptors) :=
  match call.run fuel s.1 with
  | .ok (ret, context') => some (context', call.tableAfter (call.returnedHandle s.1) ret.val s.2)
  | .error _ => none

/-- The table is the one recorded; its keys are positive and different. -/
structure TableSound (s : Gfal2Context σ × Descriptors) : Prop where
  bound : ∀ key, s.1.fdescs.lookup key = s.2 key
  positive : ∀ key fh, s.1.fdescs.lookup key = some fh → 0 < key
  distinct : s.1.fdescs.keys.Nodup

/-- What a call may return in a context: an opening no descriptor that is live, a call on a descriptor that is
not live an error. -/
structure CallSound (call : DescriptorCall) (context : Gfal2Context σ) (ret : Ret Int) (context' : Gfal2Context σ) :
    Prop where
  fresh : call.key = none → 0 < ret.val → context.fdescs.lookup ret.val = none
  unopened : call.key = none → call.returnedHandle context = none → ret.val ≤ 0 ∧ context'.fdescs = context.fdescs
  dead : ∀ key, call.key = some key → context.fdescs.lookup key = none →
    ret.val = -1 ∧ context'.fdescs = context.fdescs ∧
      (¬call.OnNull → ¬call.Cancelled context → ∃ e, ret.err = some e ∧ e.code = EBADF)

variable {close : GfalFileHandle → Gfal σ (Ret Int)} {s : Gfal2Context σ × Descriptors} {key : Int} {fh : GfalFileHandle}

section Table

variable {context context' middle : Gfal2Context σ} {call : DescriptorCall} {ret : Ret Int} {fuel : Nat}

theorem aboutTable_fdescs (table : AList fun _ : Int => GfalFileHandle) :
    AboutTable fun context : Gfal2Context σ => context.fdescs = table where
  load := ⟨fun _ _ h => h, fun _ _ h => h, fun _ _ _ _ h => h⟩
  same := fun h hsame => hsame.fdescs.trans h

theorem fdescs_of_opening {opened : Gfal σ (Ret (Option GfalFileHandle))} {answer : Ret (Option GfalFileHandle)}
    (hopening : call.opening = some opened) (hopened : opened context = .ok (answer, middle)) :
    middle.fdescs = context.fdescs := by
  obtain ⟨-, hmiddle⟩ | ⟨loaded, slot, f, hloaded, -, -, hsame⟩ :=
    opening_outcome (aboutTable_fdescs context.fdescs) rfl hopening hopened
  · exact hmiddle
  · exact hsame.fdescs.trans hloaded

theorem fdescs_of_closing
    {closed : Ret Int} (hclosing : call.closing = some (key, close)) (hclose : close fh context = .ok (closed, middle)) :
    middle.fdescs = context.fdescs := by
  obtain hmiddle | ⟨loaded, slot, f, hloaded, -, -, hsame⟩ :=
    closing_outcome (aboutTable_fdescs context.fdescs) rfl hclosing hclose
  · exact hmiddle
  · exact hsame.fdescs.trans hloaded

theorem closeEffect_of_run
    (hclosing : call.closing = some (key, close)) (hpos : 0 < key) (hbound : context.fdescs.lookup key = some fh)
    (h : call.run fuel context = .ok (ret, context')) :
    ∃ closed middle, close fh context = .ok (closed, middle) ∧ middle.fdescs = context.fdescs ∧ ret.val = closed.val ∧
      context' = if closed.val = 0 then { middle with fdescs := middle.fdescs.erase key } else middle := by
  rw [run_of_closing hclosing hpos hbound] at h
  obtain ⟨closed, middle, hclose, -⟩ := bind_eq_ok.mp h
  have hfdescs := fdescs_of_closing hclosing hclose
  rw [closeBound_spec hclose (hfdescs ▸ hbound)] at h
  refine ⟨closed, middle, hclose, hfdescs, ?_⟩
  split at h
  next hzero =>
    cases h
    rw [if_pos hzero]
    exact ⟨hzero.symm, rfl⟩
  next hne =>
    cases h
    rw [if_neg hne]
    exact ⟨rfl, rfl⟩

theorem key_of_closing (hclosing : call.closing = some (key, close)) : call.key = some key := by
  cases call with
  | close | closedir =>
      cases hclosing
      rfl
  | open2 | opendir | io | flush | readdir | readdirpp => cases hclosing

theorem tableAfter_of_opening (hkey : call.key = none) (handle : Option GfalFileHandle) (ret : Int) (table : Descriptors) :
    call.tableAfter handle ret table =
      match handle with
      | some fh => if 0 < ret then Function.update table ret (some fh) else table
      | none => table := by
  cases call with
  | open2 | opendir => rfl
  | io | flush | readdir | readdirpp | close | closedir => cases hkey

theorem tableAfter_of_closing
    (hclosing : call.closing = some (key, close)) (handle : Option GfalFileHandle) (ret : Int) (table : Descriptors) :
    call.tableAfter handle ret table = if ret = 0 then Function.update table key none else table := by
  cases call with
  | close | closedir =>
      cases hclosing
      rfl
  | open2 | opendir | io | flush | readdir | readdirpp => cases hclosing

theorem tableAfter_of_use (hkey : call.key ≠ none) (hclosing : call.closing (σ := σ) = none)
    (handle : Option GfalFileHandle) (ret : Int) (table : Descriptors) : call.tableAfter handle ret table = table := by
  cases call with
  | io | flush | readdir | readdirpp => rfl
  | open2 | opendir => exact absurd rfl hkey
  | close | closedir => cases hclosing

/-- Without a positive return value of an opening the record stays the same. -/
theorem tableAfter_of_nonpos (hkey : call.key = none) (handle : Option GfalFileHandle) {ret : Int} (hret : ret ≤ 0)
    (table : Descriptors) : call.tableAfter handle ret table = table := by
  rw [tableAfter_of_opening hkey]
  cases handle with
  | none => rfl
  | some fh => exact if_neg (by omega)

theorem tableAfter_of_failed (hkey : call.key = some key) (handle : Option GfalFileHandle) (table : Descriptors) :
    call.tableAfter handle (-1) table = table := by
  cases call with
  | open2 | opendir => cases hkey
  | io | flush | readdir | readdirpp | close | closedir => rfl

theorem TableSound.insert (hs : TableSound s) (hpos : 0 < key) (hinsert : context'.fdescs = s.1.fdescs.insert key fh) :
    TableSound (context', Function.update s.2 key (some fh)) where
  bound := by
    intro other
    by_cases hother : other = key
    · subst hother
      simp [hinsert]
    · simp [hinsert, hother, AList.lookup_insert_ne, hs.bound other]
  positive := by
    intro other fh' hlookup
    by_cases hother : other = key
    · rw [hother]
      exact hpos
    · dsimp only at hlookup
      rw [hinsert, AList.lookup_insert_ne hother] at hlookup
      exact hs.positive other fh' hlookup
  distinct := context'.fdescs.nodupKeys

theorem TableSound.erase (hs : TableSound s)
    (herase : context'.fdescs = s.1.fdescs.erase key) : TableSound (context', Function.update s.2 key none) where
  bound := by
    intro other
    by_cases hother : other = key
    · subst hother
      simp [herase]
    · simp [herase, hother, AList.lookup_erase_ne, hs.bound other]
  positive := by
    intro other fh hlookup
    dsimp only at hlookup
    rw [herase] at hlookup
    by_cases hother : other = key
    · subst hother
      simp at hlookup
    · rw [AList.lookup_erase_ne hother] at hlookup
      exact hs.positive other fh hlookup
  distinct := context'.fdescs.nodupKeys

/-- A call and the record of its outcome do the same to the table. -/
theorem tableSound_step (hs : TableSound s) (h : call.run fuel s.1 = .ok (ret, context')) :
    TableSound (context', call.tableAfter (call.returnedHandle s.1) ret.val s.2) := by
  have hsame : context'.fdescs = s.1.fdescs → call.tableAfter (call.returnedHandle s.1) ret.val s.2 = s.2 →
      TableSound (context', call.tableAfter (call.returnedHandle s.1) ret.val s.2) := by
    intro hfdescs htable
    rw [htable]
    exact ⟨hfdescs ▸ hs.bound, hfdescs ▸ hs.positive, hfdescs ▸ hs.distinct⟩
  cases hkey : call.key with
  | none =>
      cases openEffect_of_run hkey h with
      | refused hhandle hret huntouched => exact hsame huntouched.fdescs (tableAfter_of_nonpos hkey _ hret _)
      | unstored hopening hopened hret huntouched =>
          have hmiddle := fdescs_of_opening hopening hopened
          exact hsame (huntouched.fdescs.trans hmiddle) (tableAfter_of_nonpos hkey _ hret _)
      | stored hopening hopened hanswer hhandle hret hfree huntouched =>
          have hmiddle := fdescs_of_opening hopening hopened
          rw [tableAfter_of_opening hkey, hhandle]
          dsimp only
          rw [if_pos hret]
          exact hs.insert hret (by rw [huntouched.fdescs, hmiddle]; rfl)
  | some key =>
      cases hclosing : call.closing (σ := σ) with
      | none =>
          have hkept := (aboutTable_fdescs s.1.fdescs).run_use (fun _ _ _ h _ => h) fuel (by simp [hkey]) hclosing
            s.1 rfl ret context' h
          exact hsame hkept (tableAfter_of_use (by simp [hkey]) hclosing _ _ _)
      | some closing =>
          cases hbound : s.1.fdescs.lookup key with
          | none =>
              obtain ⟨hret, huntouched, -⟩ := run_of_dead hkey hbound (not_flushesDead_of_closing hclosing) h
              exact hsame huntouched.fdescs (hret ▸ tableAfter_of_failed hkey _ _)
          | some fh =>
              obtain ⟨key', close⟩ := closing
              have hkeys : key' = key := Option.some.inj ((key_of_closing hclosing).symm.trans hkey)
              subst hkeys
              obtain ⟨closed, middle, -, hmiddle, hret, rfl⟩ :=
                closeEffect_of_run hclosing (hs.positive _ fh hbound) hbound h
              rw [hret]
              split
              next hzero =>
                rw [tableAfter_of_closing hclosing, if_pos hzero]
                exact hs.erase (by rw [hmiddle])
              next hne =>
                rw [tableAfter_of_closing hclosing, if_neg hne]
                exact ⟨hmiddle ▸ hs.bound, hmiddle ▸ hs.positive, hmiddle ▸ hs.distinct⟩

theorem callSound_of_run (hflush : ¬call.FlushesDead context) (h : call.run fuel context = .ok (ret, context')) :
    CallSound call context ret context' where
  fresh := by
    intro hkey hpos
    cases openEffect_of_run hkey h with
    | refused hhandle hret huntouched => omega
    | unstored hopening hopened hret huntouched => omega
    | stored hopening hopened hanswer hhandle hret hfree huntouched =>
        rw [fdescs_of_opening hopening hopened] at hfree
        exact hfree
  unopened := by
    intro hkey hnone
    cases openEffect_of_run hkey h with
    | refused hhandle hret huntouched => exact ⟨hret, huntouched.fdescs⟩
    | unstored hopening hopened hret huntouched =>
        have hmiddle := fdescs_of_opening hopening hopened
        exact ⟨hret, huntouched.fdescs.trans hmiddle⟩
    | stored hopening hopened hanswer hhandle hret hfree huntouched =>
        rw [hnone] at hhandle
        cases hhandle
  dead := by
    intro key hkey hdead
    obtain ⟨hret, huntouched, hcode⟩ := run_of_dead hkey hdead hflush h
    exact ⟨hret, huntouched.fdescs, hcode⟩

/-- The flush of a descriptor that is not live succeeds. -/
theorem callSound_iff (h : call.run fuel context = .ok (ret, context')) :
    CallSound call context ret context' ↔ ¬call.FlushesDead context := by
  refine ⟨?_, fun hflush => callSound_of_run hflush h⟩
  rintro hsound ⟨fd, rfl, hdead⟩
  have hret := (hsound.dead fd rfl hdead).1
  cases h
  cases hret

end Table

/-! ### Freed handles -/

theorem descriptorStep_eq_some {fuel : Nat} {call : DescriptorCall} {s' : Gfal2Context σ × Descriptors}
    (h : descriptorStep fuel call s = some s') :
    ∃ ret, call.run fuel s.1 = .ok (ret, s'.1) ∧ s' = (s'.1, call.tableAfter (call.returnedHandle s.1) ret.val s.2) := by
  unfold descriptorStep at h
  split at h
  next ret context' hrun =>
    cases h
    exact ⟨ret, hrun, rfl⟩
  · cases h

theorem tableSound_empty (fresh : Gfal2Context σ) : TableSound ({ fresh with fdescs := ∅ }, fun _ => none) where
  bound := fun key => AList.lookup_empty key
  positive := by
    intro key fh h
    rw [AList.lookup_empty] at h
    cases h
  distinct := AList.nodupKeys ∅

section Freed

variable {allocated : σ → GfalFileHandle → Prop} {held : GfalFileHandle → Prop}
  {context context' middle : Gfal2Context σ} {call : DescriptorCall} {ret : Ret Int} {fuel : Nat}

/-- A plugin allocates the handles it returns, frees a handle only when it is asked to close it, and no other
one then. -/
structure HandlesWell (allocated : σ → GfalFileHandle → Prop) (p : GfalPluginInterface σ) : Prop where
  opens : ∀ f, p.Opens f → ∀ world, (∀ g, allocated world g → allocated (f world).2 g) ∧
    ∀ fh, (f world).1.val = some fh → ¬allocated world fh ∧ allocated (f world).2 fh
  closes : ∀ fh f, p.Closes fh f → ∀ world g, g ≠ fh → allocated world g → allocated (f world).2 g
  uses : ∀ f, p.Uses f → ∀ world g, allocated world g → allocated (f world) g

/-- The plugins of the context and those it may load treat handles so. -/
structure Tended (allocated : σ → GfalFileHandle → Prop) (context : Gfal2Context σ) : Prop where
  plugins : AllPlugins (HandlesWell allocated) context
  loads : ∀ entryPoint, context.pluginDir.Holds (.plugin entryPoint) →
    ∀ world g, allocated world g → allocated (entryPoint world).2 g

/-- No descriptor is bound to a handle that is not allocated. -/
def NoneFreed (allocated : σ → GfalFileHandle → Prop) (context : Gfal2Context σ) : Prop :=
  ∀ key fh, context.fdescs.lookup key = some fh → allocated context.world fh

/-- If the plugin frees the handle that it is asked to close, it reports that the closing succeeded. -/
def ClosesCleanly (allocated : σ → GfalFileHandle → Prop) (call : DescriptorCall)
    (s : Gfal2Context σ × Descriptors) : Prop :=
  ∀ key close fh, call.closing = some (key, close) → s.1.fdescs.lookup key = some fh →
    ∀ closed middle, close fh s.1 = .ok (closed, middle) → ¬allocated middle.world fh → closed.val = 0

def Holding (allocated : σ → GfalFileHandle → Prop) (held : GfalFileHandle → Prop) (context : Gfal2Context σ) : Prop :=
  Tended allocated context ∧ ∀ g, held g → allocated context.world g

theorem Tended.same (h : Tended allocated context) (hopt : context'.pluginOpt = context.pluginOpt)
    (hdir : context'.pluginDir = context.pluginDir) : Tended allocated context' where
  plugins := ⟨hopt ▸ h.plugins.loaded, hdir ▸ h.plugins.loadable⟩
  loads := hdir ▸ h.loads

theorem aboutTable_holding : AboutTable (Holding allocated held) where
  load :=
    { number := fun context n h => ⟨⟨loadStable_allPlugins.number context n h.1.plugins, h.1.loads⟩, h.2⟩
      sorted := fun context slots h => ⟨⟨loadStable_allPlugins.sorted context slots h.1.plugins, h.1.loads⟩, h.2⟩
      load := fun context slot entryPoint hholds h =>
        ⟨⟨loadStable_allPlugins.load context slot entryPoint hholds h.1.plugins, h.1.loads⟩,
          fun g hg => h.1.loads entryPoint hholds _ g (h.2 g hg)⟩ }
  same := by
    intro context context' h hsame
    exact ⟨h.1.same hsame.pluginOpt hsame.pluginDir, fun g hg => hsame.world ▸ h.2 g hg⟩

theorem holding_of_opening {opened : Gfal σ (Ret (Option GfalFileHandle))} {answer : Ret (Option GfalFileHandle)}
    (hopening : call.opening = some opened) (hopened : opened context = .ok (answer, middle))
    (h : Holding allocated held context) :
    Holding allocated held middle ∧ ∀ fh, answer.val = some fh → ¬held fh ∧ allocated middle.world fh := by
  obtain ⟨hnone, hmiddle⟩ | ⟨loaded, slot, f, hloaded, hf, rfl, hsame⟩ := opening_outcome aboutTable_holding h hopening hopened
  · refine ⟨hmiddle, ?_⟩
    intro fh hfh
    rw [hnone] at hfh
    cases hfh
  · obtain ⟨hkept, hfresh⟩ := (hloaded.1.plugins.loaded slot).opens f hf loaded.world
    have hafter : Holding allocated held { loaded with world := (f loaded.world).2 } :=
      ⟨hloaded.1.same rfl rfl, fun g hg => hkept g (hloaded.2 g hg)⟩
    refine ⟨aboutTable_holding.same hafter hsame, ?_⟩
    intro fh hfh
    obtain ⟨hnew, hallocated⟩ := hfresh fh hfh
    exact ⟨fun hheld => hnew (hloaded.2 fh hheld), hsame.world ▸ hallocated⟩

theorem holding_of_closing
    {closed : Ret Int} (hclosing : call.closing = some (key, close)) (hclose : close fh context = .ok (closed, middle))
    (h : Holding allocated held context) : Holding allocated (fun g => held g ∧ g ≠ fh) middle := by
  obtain hmiddle | ⟨loaded, slot, f, hloaded, hf, -, hsame⟩ := closing_outcome aboutTable_holding h hclosing hclose
  · exact ⟨hmiddle.1, fun g hg => hmiddle.2 g hg.1⟩
  · have hafter : Holding allocated (fun g => held g ∧ g ≠ fh) { loaded with world := (f loaded.world).2 } := by
      refine ⟨hloaded.1.same rfl rfl, fun g hg => ?_⟩
      exact (hloaded.1.plugins.loaded slot).closes fh f hf loaded.world g hg.2 (hloaded.2 g hg.1)
    exact aboutTable_holding.same hafter hsame

/-- The handles that the descriptors are bound to. -/
def Gfal2Context.Bound (context : Gfal2Context σ) (fh : GfalFileHandle) : Prop :=
  ∃ key, context.fdescs.lookup key = some fh

/-- Every descriptor has a handle of its own, which is allocated. -/
structure WellBound (allocated : σ → GfalFileHandle → Prop) (context : Gfal2Context σ) : Prop where
  holding : Holding allocated context.Bound context
  own : ∀ key key' fh, context.fdescs.lookup key = some fh → context.fdescs.lookup key' = some fh → key = key'

theorem wellBound_empty (h : Tended allocated context) : WellBound allocated { context with fdescs := ∅ } where
  holding := by
    refine ⟨h.same rfl rfl, ?_⟩
    rintro g ⟨key, hbound⟩
    rw [AList.lookup_empty] at hbound
    cases hbound
  own := by
    intro key key' fh hbound
    rw [AList.lookup_empty] at hbound
    cases hbound

section Bound

variable (h : WellBound allocated context)
include h

theorem WellBound.noneFreed : NoneFreed allocated context :=
  fun key fh hbound => h.holding.2 fh ⟨key, hbound⟩

theorem WellBound.same (hfdescs : context'.fdescs = context.fdescs)
    (hholding : Holding allocated context.Bound context') : WellBound allocated context' where
  holding := by
    have hbound : context'.Bound = context.Bound := by
      funext fh
      simp only [Gfal2Context.Bound, hfdescs]
    exact hbound ▸ hholding
  own := hfdescs ▸ h.own

theorem WellBound.insert
    (hinsert : context'.fdescs = context.fdescs.insert key fh) (hholding : Holding allocated context.Bound context')
    (hallocated : allocated context'.world fh) (hnew : ¬context.Bound fh) : WellBound allocated context' := by
  have hlookup : ∀ other g, context'.fdescs.lookup other = some g →
      (other = key ∧ g = fh) ∨ context.fdescs.lookup other = some g := by
    intro other g hother
    rw [hinsert] at hother
    by_cases hkey : other = key
    · subst hkey
      rw [AList.lookup_insert] at hother
      exact .inl ⟨rfl, (Option.some.inj hother).symm⟩
    · rw [AList.lookup_insert_ne hkey] at hother
      exact .inr hother
  constructor
  · refine ⟨hholding.1, ?_⟩
    rintro g ⟨other, hother⟩
    obtain ⟨-, rfl⟩ | hold := hlookup other g hother
    · exact hallocated
    · exact hholding.2 g ⟨other, hold⟩
  · intro k k' g hk hk'
    obtain ⟨rfl, rfl⟩ | hold := hlookup k g hk
    · obtain ⟨rfl, -⟩ | hold' := hlookup k' g hk'
      · rfl
      · exact absurd ⟨k', hold'⟩ hnew
    · obtain ⟨rfl, rfl⟩ | hold' := hlookup k' g hk'
      · exact absurd ⟨k, hold⟩ hnew
      · exact h.own k k' g hold hold'

theorem WellBound.erase (hkey : context.fdescs.lookup key = some fh) (herase : context'.fdescs = context.fdescs.erase key)
    (hholding : Holding allocated (fun g => context.Bound g ∧ g ≠ fh) context') : WellBound allocated context' := by
  have hlookup : ∀ other g, context'.fdescs.lookup other = some g →
      context.fdescs.lookup other = some g ∧ other ≠ key := by
    intro other g hother
    rw [herase] at hother
    by_cases hsame : other = key
    · subst hsame
      rw [AList.lookup_erase] at hother
      cases hother
    · rw [AList.lookup_erase_ne hsame] at hother
      exact ⟨hother, hsame⟩
  constructor
  · refine ⟨hholding.1, ?_⟩
    rintro g ⟨other, hother⟩
    obtain ⟨hold, hne⟩ := hlookup other g hother
    refine hholding.2 g ⟨⟨other, hold⟩, ?_⟩
    -- another descriptor has another handle
    intro hg
    exact hne (h.own other key g hold (hg ▸ hkey))
  · intro k k' g hk hk'
    exact h.own k k' g (hlookup k g hk).1 (hlookup k' g hk').1

end Bound

theorem wellBound_step (hs : TableSound s) (hbound : WellBound allocated s.1)
    (hclean : ClosesCleanly allocated call s) (h : call.run fuel s.1 = .ok (ret, context')) :
    WellBound allocated context' := by
  cases hkey : call.key with
  | none =>
      cases openEffect_of_run hkey h with
      | refused hhandle hret huntouched =>
          exact hbound.same huntouched.fdescs (aboutTable_holding.same hbound.holding huntouched)
      | unstored hopening hopened hret huntouched =>
          have hmiddle := fdescs_of_opening hopening hopened
          have hscope := aboutTable_holding.same hbound.holding untouched_inScope
          obtain ⟨hholding, -⟩ := holding_of_opening hopening hopened hscope
          exact hbound.same (huntouched.fdescs.trans hmiddle) (aboutTable_holding.same hholding huntouched)
      | stored hopening hopened hanswer hhandle hret hfree huntouched =>
          have hmiddle := fdescs_of_opening hopening hopened
          have hscope := aboutTable_holding.same hbound.holding untouched_inScope
          obtain ⟨hholding, hfresh⟩ := holding_of_opening hopening hopened hscope
          obtain ⟨hnew, hallocated⟩ := hfresh _ hanswer
          refine hbound.insert (by rw [huntouched.fdescs, hmiddle]; rfl) ?_ (huntouched.world ▸ hallocated) hnew
          exact ⟨hholding.1.same huntouched.pluginOpt huntouched.pluginDir,
            fun g hg => huntouched.world ▸ hholding.2 g hg⟩
  | some key =>
      cases hclosing : call.closing (σ := σ) with
      | none =>
          have hfdescs := (aboutTable_fdescs s.1.fdescs).run_use (fun _ _ _ h _ => h) fuel (by simp [hkey]) hclosing
            s.1 rfl ret context' h
          refine hbound.same hfdescs (aboutTable_holding.run_use ?_ fuel (by simp [hkey]) hclosing s.1
            hbound.holding ret context' h)
          intro context slot f hholding hf
          exact ⟨hholding.1.same rfl rfl,
            fun g hg => (hholding.1.plugins.loaded slot).uses f hf context.world g (hholding.2 g hg)⟩
      | some closing =>
          cases hlookup : s.1.fdescs.lookup key with
          | none =>
              obtain ⟨-, huntouched, -⟩ := run_of_dead hkey hlookup (not_flushesDead_of_closing hclosing) h
              exact hbound.same huntouched.fdescs (aboutTable_holding.same hbound.holding huntouched)
          | some fh =>
              obtain ⟨key', close⟩ := closing
              have hkeys : key' = key := Option.some.inj ((key_of_closing hclosing).symm.trans hkey)
              subst hkeys
              obtain ⟨closed, middle, hclose, hmiddle, -, rfl⟩ :=
                closeEffect_of_run hclosing (hs.positive _ fh hlookup) hlookup h
              have hholding := holding_of_closing hclosing hclose hbound.holding
              split
              next hzero =>
                exact hbound.erase hlookup (by rw [hmiddle]) ⟨hholding.1.same rfl rfl, hholding.2⟩
              next hne =>
                refine hbound.same hmiddle ⟨hholding.1, fun g hg => ?_⟩
                by_cases hg' : g = fh
                · subst hg'
                  by_contra hfreed
                  exact hne (hclean key' close g hclosing hlookup closed middle hclose hfreed)
                · exact hholding.2 g ⟨hg, hg'⟩

/-- A closing that frees the handle and reports a failure leaves its descriptor bound to it. -/
theorem not_noneFreed_step (hs : TableSound s)
    (hclean : ¬ClosesCleanly allocated call s) (h : call.run fuel s.1 = .ok (ret, context')) :
    ¬NoneFreed allocated context' := by
  unfold ClosesCleanly at hclean
  push Not at hclean
  obtain ⟨key, close, fh, hclosing, hlookup, closed, middle, hclose, hfreed, hne⟩ := hclean
  obtain ⟨closed', middle', hclose', hmiddle, -, rfl⟩ :=
    closeEffect_of_run hclosing (hs.positive key fh hlookup) hlookup h
  cases hclose.symm.trans hclose'
  rw [if_neg hne]
  intro hnone
  exact hfreed (hnone key fh (hmiddle ▸ hlookup))

end Freed

/-- The table of descriptors in every run. It is sound whatever the plugins do, and a call answers as it has to unless
it flushes a descriptor that is not live. If the plugins handle their handles well, no descriptor is left bound to a
freed one in any run in which every plugin that frees a handle reports that the closing succeeded, and the first that
does not leaves one. -/
theorem descriptors_sound_iff_clean (fuel : Nat) (fresh : Gfal2Context σ) :
    (∀ calls s, Run (descriptorStep fuel) (fun _ _ => True) ({ fresh with fdescs := ∅ }, fun _ => none) calls s →
      TableSound s ∧ ∀ call ret context', call.run fuel s.1 = .ok (ret, context') →
        (CallSound call s.1 ret context' ↔ ¬call.FlushesDead s.1)) ∧
    ∀ allocated, Tended allocated fresh →
      (∀ calls s, Run (descriptorStep fuel) (ClosesCleanly allocated) ({ fresh with fdescs := ∅ }, fun _ => none)
        calls s → NoneFreed allocated s.1) ∧
      (∀ calls s call s', Run (descriptorStep fuel) (ClosesCleanly allocated)
        ({ fresh with fdescs := ∅ }, fun _ => none) calls s → ¬ClosesCleanly allocated call s →
        descriptorStep fuel call s = some s' → ¬NoneFreed allocated s'.1) := by
  have hrunSound : ∀ calls s, Run (descriptorStep fuel) (fun _ _ => True)
      ({ fresh with fdescs := ∅ }, fun _ => none) calls s → TableSound s := by
    intro calls s hrun
    refine hrun.invariant TableSound ?_ (tableSound_empty fresh)
    intro call s s' _ hs hstep
    obtain ⟨ret, hcall, hafter⟩ := descriptorStep_eq_some hstep
    exact hafter ▸ tableSound_step hs hcall
  refine ⟨fun calls s hrun => ⟨hrunSound calls s hrun, fun call ret context' => callSound_iff⟩, ?_⟩
  intro allocated htended
  refine ⟨?_, ?_⟩
  · intro calls s hrun
    have hinv : TableSound s ∧ WellBound allocated s.1 := by
      refine hrun.invariant (fun s => TableSound s ∧ WellBound allocated s.1) ?_
        ⟨tableSound_empty fresh, wellBound_empty htended⟩
      intro call s s' hclean hs hstep
      obtain ⟨ret, hcall, hafter⟩ := descriptorStep_eq_some hstep
      exact ⟨hafter ▸ tableSound_step hs.1 hcall, wellBound_step hs.1 hs.2 hclean hcall⟩
    exact hinv.2.noneFreed
  · intro calls s call s' hrun hclean hstep
    obtain ⟨ret, hcall, -⟩ := descriptorStep_eq_some hstep
    exact not_noneFreed_step (hrunSound calls s (hrun.mono fun _ _ _ => trivial)) hclean hcall

/-- A plugin that closes like the HTTP plugin: it frees the handle, and reports the failure of the server. The
world tells of each handle it returned whether it is allocated. -/
def httpPlugin : GfalPluginInterface (List Bool) where
  getName := some (lit "http")
  checkPluginUrl := some fun _ _ _ => ⟨true, none⟩
  openG := some fun _ _ _ world => (⟨some ⟨lit "http", world.length, none⟩, none⟩, world ++ [true])
  closeG := some fun fh world =>
    (⟨-1, some ⟨lit "HTTP", EIO, lit "Could not close"⟩⟩,
      if fh.moduleName = lit "http" ∧ fh.path = none then world.set fh.fdesc false else world)

def httpAllocated (world : List Bool) (fh : GfalFileHandle) : Prop :=
  fh.moduleName = lit "http" ∧ fh.path = none ∧ world[fh.fdesc]? = some true

def httpContext : Gfal2Context (List Bool) where
  pluginOpt := { pluginList := fun _ => httpPlugin, sortedPlugin := [0], pluginNumber := 1 }
  readings := { rand := fun _ => 7 }
  world := []

theorem handlesWell_httpPlugin : HandlesWell httpAllocated httpPlugin where
  opens := by
    intro f hf world
    obtain ⟨g, path, flag, mode, hg, rfl⟩ | ⟨g, path, hg, rfl⟩ := hf
    · cases hg
      refine ⟨?_, ?_⟩
      · rintro fh ⟨hname, hpath, hlive⟩
        have hlt : fh.fdesc < world.length := (List.getElem?_eq_some_iff.mp hlive).1
        exact ⟨hname, hpath, by rw [List.getElem?_append_left hlt, hlive]⟩
      · intro fh hfh
        cases hfh
        simp [httpAllocated]
    · cases hg
  closes := by
    intro fh f hf world g hne hg
    obtain ⟨close, hclose, rfl⟩ | ⟨close, hclose, rfl⟩ := hf
    · cases hclose
      dsimp only
      split
      next hname =>
        have hfdesc : fh.fdesc ≠ g.fdesc := by
          intro h
          apply hne
          cases g
          cases fh
          simp_all [httpAllocated]
        exact ⟨hg.1, hg.2.1, by rw [List.getElem?_set_ne hfdesc, hg.2.2]⟩
      · exact hg
    · cases hclose
  uses := by
    intro f hf
    cases hf <;> contradiction

theorem tended_httpContext : Tended httpAllocated httpContext where
  plugins :=
    { loaded := fun _ => handlesWell_httpPlugin
      loadable := by
        intro files hfiles file hfile
        cases hfiles
        cases hfile }
  loads := by
    rintro entryPoint ⟨files, hfiles, file, hfile, -⟩
    cases hfiles
    cases hfile

/-- A file is opened as descriptor 7 and closed; the descriptor stays and its handle is freed. -/
theorem failed_close_leaves_freed_handle : Tended httpAllocated httpContext ∧
      ¬∀ calls s, Run (descriptorStep 1) (fun _ _ => True) ({ httpContext with fdescs := ∅ }, fun _ => none) calls s →
        NoneFreed httpAllocated s.1 := by
  refine ⟨tended_httpContext, ?_⟩
  intro h
  obtain ⟨s, hrun, hbound, hfreed⟩ : ∃ s, Run (descriptorStep 1) (fun _ _ => True)
      ({ httpContext with fdescs := ∅ }, fun _ => none) [.open2 (some (lit "http://host/file")) 0 0, .close 7] s ∧
      s.1.fdescs.lookup 7 = some ⟨lit "http", 0, none⟩ ∧ s.1.world = [false] :=
    ⟨_, run_of_runAll rfl, rfl, rfl⟩
  have hallocated := (h _ s hrun 7 _ hbound).2.2
  rw [hfreed] at hallocated
  cases hallocated

end Gfal2
