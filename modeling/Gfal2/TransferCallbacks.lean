import Gfal2.TransferParams
import Mathlib.Data.List.Induction
import Mathlib.Data.List.Nodup
import Mathlib.Logic.Function.Basic

/-! The callbacks of a transfer. A handle has two lists of them, each with the user data it is called with and what
destroys these; a copy of a handle has the same callbacks and user data, and destroys none of the latter. -/

namespace Gfal2

open Base

variable {F U D : Type}

inductive CallbackList where
  | monitor | event
  deriving DecidableEq

/-- `struct _gfalt_callback_entry`. -/
structure GfaltCallbackEntry (F U D : Type) where
  func : F
  udata : U
  udataFree : Option D
  deriving DecidableEq

/-- `struct _gfalt_params_t` with its lists of callbacks. -/
structure GfaltParamsHandle (F U D : Type) where
  settings : GfaltParams := {}
  monitorCallbacks : List (GfaltCallbackEntry F U D) := []
  eventCallbacks : List (GfaltCallbackEntry F U D) := []
  deriving DecidableEq

/-- A link of a list of callbacks, with what stands before and after it. -/
structure CallbackLink (F U D : Type) where
  before : List (GfaltCallbackEntry F U D)
  entry : GfaltCallbackEntry F U D
  after : List (GfaltCallbackEntry F U D)

def GfaltParamsHandle.callbacks (params : GfaltParamsHandle F U D) : CallbackList → List (GfaltCallbackEntry F U D)
  | .monitor => params.monitorCallbacks
  | .event => params.eventCallbacks

def GfaltParamsHandle.setCallbacks (params : GfaltParamsHandle F U D) (callbacks : List (GfaltCallbackEntry F U D)) :
    CallbackList → GfaltParamsHandle F U D
  | .monitor => { params with monitorCallbacks := callbacks }
  | .event => { params with eventCallbacks := callbacks }

/-! ### The handles -/

def gfaltParamsCopyCallbacks (original : List (GfaltCallbackEntry F U D)) : List (GfaltCallbackEntry F U D) :=
  original.map fun entry => ⟨entry.func, entry.udata, none⟩

def gfaltParamsHandleNew : GfaltParamsHandle F U D := {}

def gfaltParamsHandleCopy (params : GfaltParamsHandle F U D) : GfaltParamsHandle F U D :=
  { params with
    monitorCallbacks := gfaltParamsCopyCallbacks params.monitorCallbacks
    eventCallbacks := gfaltParamsCopyCallbacks params.eventCallbacks }

/-- `gfalt_params_free_callback`: the destructor that is called, and with what. -/
def gfaltParamsFreeCallback (entry : GfaltCallbackEntry F U D) : Option (D × U) :=
  entry.udataFree.map fun free => (free, entry.udata)

/-- `gfalt_params_handle_delete`: the calls of destructors. -/
def gfaltParamsHandleDelete (params : GfaltParamsHandle F U D) : List (D × U) :=
  params.monitorCallbacks.filterMap gfaltParamsFreeCallback ++ params.eventCallbacks.filterMap gfaltParamsFreeCallback

/-! ### The callbacks -/

section Search

variable [DecidableEq F]

def gfaltSearchCallback : List (GfaltCallbackEntry F U D) → F → Option (CallbackLink F U D)
  | [], _ => none
  | entry :: rest, callback =>
    if entry.func = callback then some ⟨[], entry, rest⟩ else
      (gfaltSearchCallback rest callback).map fun link => { link with before := entry :: link.before }

/-- The handle an addition leaves, and the calls of destructors. -/
def addCallback (which : CallbackList) (params : GfaltParamsHandle F U D) (callback : F) (udata : U)
    (udataFree : Option D) : GfaltParamsHandle F U D × List (D × U) :=
  match gfaltSearchCallback (params.callbacks which) callback with
  | some link =>
      (params.setCallbacks (link.before ++ { link.entry with udata := udata, udataFree := udataFree } :: link.after) which,
        (gfaltParamsFreeCallback link.entry).toList)
  | none => (params.setCallbacks (params.callbacks which ++ [⟨callback, udata, udataFree⟩]) which, [])

/-- The handle a removal leaves, and the calls of destructors, if the callback is there. -/
def removeCallback (which : CallbackList) (params : GfaltParamsHandle F U D) (callback : F) :
    Option (GfaltParamsHandle F U D × List (D × U)) :=
  (gfaltSearchCallback (params.callbacks which) callback).map fun link =>
    (params.setCallbacks (link.before ++ link.after) which, (gfaltParamsFreeCallback link.entry).toList)

def gfaltAddMonitorCallback (params : GfaltParamsHandle F U D) (callback : F) (udata : U) (udataFree : Option D) :
    GfaltParamsHandle F U D × List (D × U) :=
  addCallback .monitor params callback udata udataFree

def gfaltAddEventCallback (params : GfaltParamsHandle F U D) (callback : F) (udata : U) (udataFree : Option D) :
    GfaltParamsHandle F U D × List (D × U) :=
  addCallback .event params callback udata udataFree

def gfaltRemoveMonitorCallback (params : GfaltParamsHandle F U D) (callback : F) :
    Option (GfaltParamsHandle F U D × List (D × U)) :=
  removeCallback .monitor params callback

def gfaltRemoveEventCallback (params : GfaltParamsHandle F U D) (callback : F) :
    Option (GfaltParamsHandle F U D × List (D × U)) :=
  removeCallback .event params callback

end Search

/-- `plugin_trigger_monitor`: the functions that are called, each with its user data. -/
def pluginTriggerMonitorCallbacks (params : GfaltParamsHandle F U D) : List (F × U) :=
  params.monitorCallbacks.map fun entry => (entry.func, entry.udata)

/-- `plugin_trigger_event`, likewise. -/
def pluginTriggerEventCallbacks (params : GfaltParamsHandle F U D) : List (F × U) :=
  params.eventCallbacks.map fun entry => (entry.func, entry.udata)

/-! ### Sequences of calls -/

/-- A call on a handle, which is known by its place among those made, or null. -/
inductive CallbackCall (F U D : Type) where
  | new
  | copy (params : Option Nat)
  | delete (params : Option Nat)
  | add (which : CallbackList) (params : Option Nat) (callback : F) (udata : U) (udataFree : Option D)
  | remove (which : CallbackList) (params : Option Nat) (callback : F)
  | trigger (which : CallbackList) (params : Option Nat)
  deriving DecidableEq

/-- What a call returns, the destructors it calls and the callbacks it calls. -/
structure CallbackAnswer (F U D : Type) where
  ret : Ret Int := ⟨0, none⟩
  destroyed : List (D × U) := []
  called : List (F × U) := []
  deriving DecidableEq

/-- The handles in the order they were made, without those deleted. -/
structure CallbackWorld (F U D : Type) where
  handles : List (Option (GfaltParamsHandle F U D)) := []
  deriving DecidableEq

/-- A handle that was made and not deleted. -/
def CallbackWorld.live (world : CallbackWorld F U D) (params : Nat) : Option (GfaltParamsHandle F U D) :=
  (world.handles[params]?).join

def CallbackWorld.put (world : CallbackWorld F U D) (params : Nat) (handle : Option (GfaltParamsHandle F U D)) :
    CallbackWorld F U D :=
  ⟨world.handles.set params handle⟩

abbrev invalidParamsHandle : GError := ⟨gfal2GetCoreQuark, EINVAL, lit "[BUG] invalid params handle"⟩

abbrev callbackNotFound : GError := gfal2SetError gfal2GetCoreQuark ENOENT (lit "Could not find the callback")

variable [DecidableEq F]

/-- A call of one of the functions. There is nothing after the use of a handle that is deleted, or of none where one is
needed. -/
def callbackStep (call : CallbackCall F U D) (world : CallbackWorld F U D) :
    Option (CallbackAnswer F U D × CallbackWorld F U D) :=
  match call with
  | .new => some ({}, ⟨world.handles ++ [some gfaltParamsHandleNew]⟩)
  | .copy params => do
      let handle ← params.bind world.live
      return ({}, ⟨world.handles ++ [some (gfaltParamsHandleCopy handle)]⟩)
  | .delete none => some ({}, world)
  | .delete (some params) => do
      let handle ← world.live params
      return ({ destroyed := gfaltParamsHandleDelete handle }, world.put params none)
  | .add _ none _ _ _ => some ({ ret := ⟨-1, some invalidParamsHandle⟩ }, world)
  | .add which (some params) callback udata udataFree => do
      let handle ← world.live params
      let added := match which with
        | .monitor => gfaltAddMonitorCallback handle callback udata udataFree
        | .event => gfaltAddEventCallback handle callback udata udataFree
      return ({ destroyed := added.2 }, world.put params (some added.1))
  | .remove _ none _ => some ({ ret := ⟨-1, some invalidParamsHandle⟩ }, world)
  | .remove which (some params) callback => do
      let handle ← world.live params
      let removed := match which with
        | .monitor => gfaltRemoveMonitorCallback handle callback
        | .event => gfaltRemoveEventCallback handle callback
      match removed with
      | some (handle, destroyed) => return ({ destroyed := destroyed }, world.put params (some handle))
      | none => return ({ ret := ⟨-1, some callbackNotFound⟩ }, world)
  | .trigger which params => do
      let handle ← params.bind world.live
      return ({ called := match which with
        | .monitor => pluginTriggerMonitorCallbacks handle
        | .event => pluginTriggerEventCallbacks handle }, world)

/-- The calls one after another, from a world without handles if none is given. -/
def callbackRun : List (CallbackCall F U D) → CallbackWorld F U D →
    Option (List (CallbackAnswer F U D) × CallbackWorld F U D)
  | [], world => some ([], world)
  | call :: calls, world => do
      let (answer, world) ← callbackStep call world
      let (answers, world) ← callbackRun calls world
      return (answer :: answers, world)

/-! ### Links -/

variable {callback : F}

theorem gfaltSearchCallback_eq_none {callbacks : List (GfaltCallbackEntry F U D)} :
    gfaltSearchCallback callbacks callback = none ↔ ∀ entry ∈ callbacks, entry.func ≠ callback := by
  induction callbacks with
  | nil => simp [gfaltSearchCallback]
  | cons entry rest ih =>
      rw [gfaltSearchCallback, List.forall_mem_cons, ← ih]
      by_cases hentry : entry.func = callback
      · simp [hentry]
      · simp [hentry]

/-- What a search finds is a link of the list. -/
theorem gfaltSearchCallback_eq_some {callbacks : List (GfaltCallbackEntry F U D)} {link : CallbackLink F U D}
    (h : gfaltSearchCallback callbacks callback = some link) :
    callbacks = link.before ++ link.entry :: link.after ∧ link.entry.func = callback := by
  induction callbacks generalizing link with
  | nil => cases h
  | cons entry rest ih =>
      rw [gfaltSearchCallback] at h
      by_cases hentry : entry.func = callback
      · rw [if_pos hentry] at h
        cases h
        exact ⟨rfl, hentry⟩
      · rw [if_neg hentry] at h
        obtain ⟨found, hfound, rfl⟩ := Option.map_eq_some_iff.mp h
        obtain ⟨hrest, hfunc⟩ := ih hfound
        exact ⟨by rw [hrest]; rfl, hfunc⟩

omit [DecidableEq F] in
theorem callbacks_setCallbacks (params : GfaltParamsHandle F U D) (callbacks : List (GfaltCallbackEntry F U D))
    (which which' : CallbackList) :
    (params.setCallbacks callbacks which).callbacks which' = if which' = which then callbacks else params.callbacks which' := by
  cases which <;> cases which' <;> rfl

/-! ### What is registered -/

/-- A callback that is registered: the numbers of the call that added it first and of that which gave the user data, the
user data, and what destroys these. -/
structure CallbackRegistration (U D : Type) where
  since : Nat
  given : Nat
  udata : U
  udataFree : Option D

/-- What the calls so far have registered, how many they are and how many handles they have made. -/
structure CallbackRegistry (F U D : Type) where
  calls : Nat := 0
  made : Nat := 0
  registered : Nat → CallbackList → F → Option (CallbackRegistration U D) := fun _ _ _ => none

/-- The callbacks of one list of a handle are changed. -/
def CallbackRegistry.update (registry : CallbackRegistry F U D) (params : Nat) (which : CallbackList) (callback : F)
    (registration : Option (CallbackRegistration U D)) : Nat → CallbackList → F → Option (CallbackRegistration U D) :=
  fun params' which' callback' =>
    if params' = params ∧ which' = which ∧ callback' = callback then registration
    else registry.registered params' which' callback'

/-- What a call does to what is registered. A function that is there keeps its place, and a copy owns no user data. -/
def CallbackRegistry.after (registry : CallbackRegistry F U D) (call : CallbackCall F U D) : CallbackRegistry F U D :=
  match call with
  | .new => { registry with calls := registry.calls + 1, made := registry.made + 1 }
  | .copy (some params) =>
      { calls := registry.calls + 1
        made := registry.made + 1
        registered := fun params' which callback =>
          if params' = registry.made then
            (registry.registered params which callback).map fun registration => { registration with udataFree := none }
          else registry.registered params' which callback }
  | .delete (some params) =>
      { registry with
        calls := registry.calls + 1
        registered := fun params' which callback =>
          if params' = params then none else registry.registered params' which callback }
  | .add which (some params) callback udata udataFree =>
      { registry with
        calls := registry.calls + 1
        registered := registry.update params which callback (some
          { since := ((registry.registered params which callback).map (·.since)).getD registry.calls
            given := registry.calls
            udata := udata
            udataFree := udataFree }) }
  | .remove which (some params) callback =>
      { registry with
        calls := registry.calls + 1
        registered := registry.update params which callback none }
  | _ => { registry with calls := registry.calls + 1 }

def registryOf (calls : List (CallbackCall F U D)) : CallbackRegistry F U D :=
  calls.foldl CallbackRegistry.after {}

/-- The call replaces or removes a callback, or deletes its handle. -/
def CallbackCall.Ends (which : CallbackList) (params : Nat) (callback : F) : CallbackCall F U D → Prop
  | .add which' params' callback' _ _ => which' = which ∧ params' = some params ∧ callback' = callback
  | .remove which' params' callback' => which' = which ∧ params' = some params ∧ callback' = callback
  | .delete params' => params' = some params
  | _ => False

/-- The user data that a call gives together with a destructor. -/
def CallbackCall.gift : CallbackCall F U D → Option (D × U)
  | .add _ (some _) _ udata (some free) => some (free, udata)
  | _ => none

/-- The call of that number gives user data with a destructor, and no later one replaces or removes them, or deletes the
handle they were given to. -/
def GivesUserData (calls : List (CallbackCall F U D)) (which : CallbackList) (params : Nat) (callback : F) (given : Nat) (free : D)
    (udata : U) : Prop :=
  calls[given]? = some (.add which (some params) callback udata (some free)) ∧
    ∀ later call, given < later → calls[later]? = some call → ¬call.Ends which params callback

/-! ### The lists of a handle -/

/-- A list holds what is registered, each function once and in the order in which they were first added. -/
structure ListsCallbacks (callbacks : List (GfaltCallbackEntry F U D)) (registered : F → Option (CallbackRegistration U D)) : Prop where
  told : ∀ entry ∈ callbacks, ∃ registration, registered entry.func = some registration ∧
    registration.udata = entry.udata ∧ registration.udataFree = entry.udataFree
  every : ∀ callback registration, registered callback = some registration → callback ∈ callbacks.map (·.func)
  order : (callbacks.map (·.func)).Pairwise fun first last => ∀ registration registration',
    registered first = some registration → registered last = some registration' → registration.since < registration'.since

namespace ListsCallbacks

variable {callbacks : List (GfaltCallbackEntry F U D)} {registered registered' : F → Option (CallbackRegistration U D)}
  {after before : List (GfaltCallbackEntry F U D)} {entry : GfaltCallbackEntry F U D}

omit [DecidableEq F] in
theorem empty : ListsCallbacks ([] : List (GfaltCallbackEntry F U D)) fun _ => none :=
  ⟨by simp, by simp, List.Pairwise.nil⟩

omit [DecidableEq F] in
theorem exists_of_mem (h : ListsCallbacks callbacks registered) (hmem : callback ∈ callbacks.map (·.func)) :
    ∃ registration, registered callback = some registration := by
  obtain ⟨entry, hentry, rfl⟩ := List.mem_map.mp hmem
  obtain ⟨registration, hregistered, -⟩ := h.told entry hentry
  exact ⟨registration, hregistered⟩

omit [DecidableEq F] in
/-- Each function is there once. -/
theorem nodup (h : ListsCallbacks callbacks registered) : (callbacks.map (·.func)).Nodup := by
  refine h.order.imp_of_mem fun {first last} hfirst _ hlt heq => ?_
  obtain ⟨registration, hregistered⟩ := h.exists_of_mem hfirst
  exact Nat.lt_irrefl _ (hlt registration registration hregistered (heq ▸ hregistered))

omit [DecidableEq F] in
theorem perm_func (before after : List (GfaltCallbackEntry F U D)) (entry : GfaltCallbackEntry F U D) :
    ((before ++ entry :: after).map (·.func)).Perm (entry.func :: (before ++ after).map (·.func)) :=
  List.perm_middle.map GfaltCallbackEntry.func

omit [DecidableEq F] in
/-- The function of a link is that of no other. -/
theorem func_ne (h : ListsCallbacks (before ++ entry :: after) registered) (hmem : callback ∈ (before ++ after).map (·.func)) :
    callback ≠ entry.func := by
  have hnodup := (perm_func before after entry).nodup_iff.mp h.nodup
  exact fun heq => (List.nodup_cons.mp hnodup).1 (heq ▸ hmem)

omit [DecidableEq F] in
/-- A function that is there has one entry. -/
theorem entry_unique (h : ListsCallbacks callbacks registered) {first last : GfaltCallbackEntry F U D} (hfirst : first ∈ callbacks)
    (hlast : last ∈ callbacks) (hfunc : first.func = last.func) : first = last :=
  List.inj_on_of_nodup_map h.nodup hfirst hlast hfunc

omit [DecidableEq F] in
theorem eq_none (h : ListsCallbacks callbacks registered) (hnone : ∀ entry ∈ callbacks, entry.func ≠ callback) :
    registered callback = none := by
  cases hregistered : registered callback with
  | none => rfl
  | some registration =>
      obtain ⟨entry, hentry, hfunc⟩ := List.mem_map.mp (h.every callback registration hregistered)
      exact absurd hfunc (hnone entry hentry)

omit [DecidableEq F] in
/-- A copy of a list holds the same functions in the same order, and destroys nothing. -/
theorem copy (h : ListsCallbacks callbacks registered) : ListsCallbacks (gfaltParamsCopyCallbacks callbacks) fun callback =>
    (registered callback).map fun registration => { registration with udataFree := none } := by
  have hnames : (gfaltParamsCopyCallbacks callbacks).map (·.func) = callbacks.map (·.func) := by
    rw [gfaltParamsCopyCallbacks, List.map_map]
    rfl
  refine ⟨fun copied hcopied => ?_, fun callback registration hregistered => ?_, ?_⟩
  · obtain ⟨entry, hentry, rfl⟩ := List.mem_map.mp hcopied
    obtain ⟨registration, hregistered, hudata, -⟩ := h.told entry hentry
    exact ⟨_, Option.map_eq_some_iff.mpr ⟨registration, hregistered, rfl⟩, hudata, rfl⟩
  · obtain ⟨original, horiginal, -⟩ := Option.map_eq_some_iff.mp hregistered
    rw [hnames]
    exact h.every callback original horiginal
  · rw [hnames]
    refine h.order.imp fun {first last} hlt registration registration' hfirst hlast => ?_
    obtain ⟨original, horiginal, rfl⟩ := Option.map_eq_some_iff.mp hfirst
    obtain ⟨original', horiginal', rfl⟩ := Option.map_eq_some_iff.mp hlast
    exact hlt original original' horiginal horiginal'

omit [DecidableEq F] in
/-- A function that is not there comes last. -/
theorem append (h : ListsCallbacks callbacks registered) (registration : CallbackRegistration U D)
    (hnone : ∀ entry ∈ callbacks, entry.func ≠ callback)
    (hlast : ∀ callback' registration', registered callback' = some registration' → registration'.since < registration.since)
    (hnew : registered' callback = some registration)
    (hother : ∀ callback', callback' ≠ callback → registered' callback' = registered callback') :
    ListsCallbacks (callbacks ++ [⟨callback, registration.udata, registration.udataFree⟩]) registered' := by
  have hold : ∀ entry ∈ callbacks, registered' entry.func = registered entry.func := fun entry hentry =>
    hother entry.func (hnone entry hentry)
  refine ⟨fun entry hentry => ?_, fun callback' registration' hregistered => ?_, ?_⟩
  · rcases List.mem_append.mp hentry with hentry | hentry
    · rw [hold entry hentry]
      exact h.told entry hentry
    · rw [List.mem_singleton] at hentry
      subst hentry
      exact ⟨registration, hnew, rfl, rfl⟩
  · rw [List.map_append, List.mem_append]
    by_cases heq : callback' = callback
    · exact Or.inr (by simp [heq])
    · exact Or.inl (h.every callback' registration' (hother callback' heq ▸ hregistered))
  · rw [List.map_append, List.pairwise_append]
    refine ⟨h.order.imp_of_mem fun {first last} hfirst hlast' hlt => ?_, by simp, fun first hfirst last hlast' => ?_⟩
    · obtain ⟨entry, hentry, rfl⟩ := List.mem_map.mp hfirst
      obtain ⟨entry', hentry', rfl⟩ := List.mem_map.mp hlast'
      rw [hold entry hentry, hold entry' hentry']
      exact hlt
    · obtain ⟨entry, hentry, rfl⟩ := List.mem_map.mp hfirst
      rw [List.map_singleton, List.mem_singleton] at hlast'
      subst hlast'
      rw [hold entry hentry, hnew]
      rintro first' last' hfirst' ⟨⟩
      exact hlast entry.func first' hfirst'

omit [DecidableEq F] in
/-- A function that is there keeps its place. -/
theorem replace
    (h : ListsCallbacks (before ++ entry :: after) registered) {old : CallbackRegistration U D} (registration : CallbackRegistration U D)
    (hold : registered entry.func = some old) (hsince : registration.since = old.since)
    (hnew : registered' entry.func = some registration)
    (hother : ∀ callback, callback ≠ entry.func → registered' callback = registered callback) :
    ListsCallbacks (before ++ { entry with udata := registration.udata, udataFree := registration.udataFree } :: after) registered' := by
  have hnames : (before ++ { entry with udata := registration.udata, udataFree := registration.udataFree } :: after).map (·.func) =
      (before ++ entry :: after).map (·.func) := by
    rw [List.map_append, List.map_append]
    rfl
  have hsame : ∀ callback registration', registered' callback = some registration' →
      ∃ original, registered callback = some original ∧ original.since = registration'.since := by
    intro callback registration' hregistered
    by_cases heq : callback = entry.func
    · subst heq
      rw [hnew] at hregistered
      cases hregistered
      exact ⟨old, hold, hsince.symm⟩
    · rw [hother callback heq] at hregistered
      exact ⟨registration', hregistered, rfl⟩
  refine ⟨fun entry' hentry' => ?_, fun callback registration' hregistered => ?_, ?_⟩
  · have helse : entry' ∈ before ++ after → ∃ registration', registered' entry'.func = some registration' ∧
        registration'.udata = entry'.udata ∧ registration'.udataFree = entry'.udataFree := by
      intro hmem
      rw [hother _ (h.func_ne (List.mem_map_of_mem hmem))]
      exact h.told entry' (by simp only [List.mem_append, List.mem_cons] at hmem ⊢; tauto)
    rcases List.mem_append.mp hentry' with hmem | hmem
    · exact helse (List.mem_append_left _ hmem)
    · rcases List.mem_cons.mp hmem with rfl | hmem
      · exact ⟨registration, hnew, rfl, rfl⟩
      · exact helse (List.mem_append_right _ hmem)
  · rw [hnames]
    obtain ⟨original, horiginal, -⟩ := hsame callback registration' hregistered
    exact h.every callback original horiginal
  · rw [hnames]
    refine h.order.imp fun {first last} hlt first' last' hfirst hlast => ?_
    obtain ⟨original, horiginal, hfirst'⟩ := hsame first first' hfirst
    obtain ⟨original', horiginal', hlast'⟩ := hsame last last' hlast
    rw [← hfirst', ← hlast']
    exact hlt original original' horiginal horiginal'

omit [DecidableEq F] in
/-- The other functions keep their places when one leaves. -/
theorem erase (h : ListsCallbacks (before ++ entry :: after) registered) (hnone : registered' entry.func = none)
    (hother : ∀ callback, callback ≠ entry.func → registered' callback = registered callback) :
    ListsCallbacks (before ++ after) registered' := by
  have hsublist : (before ++ after).Sublist (before ++ entry :: after) :=
    (List.sublist_cons_self entry after).append_left before
  refine ⟨fun entry' hentry' => ?_, fun callback registration hregistered => ?_, ?_⟩
  · rw [hother _ (h.func_ne (List.mem_map_of_mem hentry'))]
    exact h.told entry' (hsublist.subset hentry')
  · have hcallback : callback ≠ entry.func := by
      rintro rfl
      rw [hnone] at hregistered
      cases hregistered
    have hmem := h.every callback registration (hother callback hcallback ▸ hregistered)
    exact (List.mem_cons.mp ((perm_func before after entry).mem_iff.mp hmem)).resolve_left hcallback
  · refine (h.order.sublist (hsublist.map _)).imp_of_mem fun {first last} hfirst hlast hlt => ?_
    rw [hother _ (h.func_ne hfirst), hother _ (h.func_ne hlast)]
    exact hlt

end ListsCallbacks

/-! ### Worlds -/

omit [DecidableEq F] in
theorem live_append (world : CallbackWorld F U D) (handle : GfaltParamsHandle F U D) (params : Nat) :
    CallbackWorld.live ⟨world.handles ++ [some handle]⟩ params =
      if params = world.handles.length then some handle else world.live params := by
  rw [CallbackWorld.live, CallbackWorld.live, List.getElem?_append]
  rcases lt_trichotomy params world.handles.length with hlt | rfl | hgt
  · rw [if_pos hlt, if_neg hlt.ne]
  · simp
  · rw [if_neg hgt.not_gt, if_neg hgt.ne', List.getElem?_eq_none hgt.le,
      List.getElem?_eq_none (by rw [List.length_singleton]; omega)]

variable {handle : GfaltParamsHandle F U D} {params : Nat}

omit [DecidableEq F] in
theorem lt_of_live {world : CallbackWorld F U D} (h : world.live params = some handle) : params < world.handles.length := by
  by_contra hge
  rw [CallbackWorld.live, List.getElem?_eq_none (by omega)] at h
  cases h

omit [DecidableEq F] in
theorem live_put {world : CallbackWorld F U D}
    (h : world.live params = some handle) (put : Option (GfaltParamsHandle F U D)) (params' : Nat) :
    (world.put params put).live params' = if params' = params then put else world.live params' := by
  rw [CallbackWorld.live, CallbackWorld.put, List.getElem?_set]
  by_cases heq : params = params'
  · subst heq
    rw [if_pos rfl, if_pos (lt_of_live h), if_pos rfl]
    rfl
  · rw [if_neg heq, if_neg (Ne.symm heq), CallbackWorld.live]

variable {which : CallbackList}

theorem callbackStep_add {udata : U} {udataFree : Option D} {world : CallbackWorld F U D} :
    callbackStep (.add which (some params) callback udata udataFree) world = (world.live params).map fun handle =>
      ({ destroyed := (addCallback which handle callback udata udataFree).2 },
        world.put params (some (addCallback which handle callback udata udataFree).1)) := by
  rw [callbackStep]
  cases world.live params with
  | none => rfl
  | some handle => cases which <;> rfl

theorem callbackStep_remove {world : CallbackWorld F U D} :
    callbackStep (.remove which (some params) callback) world = (world.live params).map fun handle =>
      match removeCallback which handle callback with
      | some removed => ({ destroyed := removed.2 }, world.put params (some removed.1))
      | none => ({ ret := ⟨-1, some callbackNotFound⟩ }, world) := by
  rw [callbackStep]
  cases world.live params with
  | none => rfl
  | some handle =>
      cases which with
      | monitor => cases hremoved : removeCallback .monitor handle callback <;>
          simp [gfaltRemoveMonitorCallback, hremoved]
      | event => cases hremoved : removeCallback .event handle callback <;>
          simp [gfaltRemoveEventCallback, hremoved]

theorem callbackStep_trigger {params : Option Nat} {world : CallbackWorld F U D} :
    callbackStep (.trigger which params) world = (params.bind world.live).map fun handle =>
      ({ called := (handle.callbacks which).map fun entry => (entry.func, entry.udata) }, world) := by
  rw [callbackStep]
  cases params.bind world.live with
  | none => rfl
  | some handle => cases which <;> rfl

/-! ### What the calls so far have registered -/

theorem registryOf_concat (calls : List (CallbackCall F U D)) (call : CallbackCall F U D) :
    registryOf (calls ++ [call]) = (registryOf calls).after call := by
  rw [registryOf, List.foldl_append]
  rfl

theorem calls_registryOf (calls : List (CallbackCall F U D)) : (registryOf calls).calls = calls.length := by
  induction calls using List.reverseRecOn with
  | nil => rfl
  | append_singleton calls call ih =>
      rw [registryOf_concat, List.length_append, List.length_singleton, ← ih]
      rcases call with _ | params | params | ⟨which, params, callback, udata, udataFree⟩ | ⟨which, params, callback⟩ | _
      · rfl
      all_goals first | rfl | (cases params <;> rfl)

variable {call : CallbackCall F U D}

omit [DecidableEq F] in
/-- What a call gives is given; what was given before it is, unless the call ends it. -/
theorem gives_concat {calls : List (CallbackCall F U D)} {given : Nat} {free : D} {udata : U} :
    GivesUserData (calls ++ [call]) which params callback given free udata ↔
      (GivesUserData calls which params callback given free udata ∧ ¬call.Ends which params callback) ∨
        (given = calls.length ∧ call = .add which (some params) callback udata (some free)) := by
  constructor
  · rintro ⟨hgiven, hlater⟩
    have hlt : given < (calls ++ [call]).length := List.getElem?_eq_some_iff.mp hgiven |>.1
    rw [List.length_append, List.length_singleton] at hlt
    rcases Nat.lt_or_ge given calls.length with hbefore | hge
    · rw [List.getElem?_append_left hbefore] at hgiven
      refine Or.inl ⟨⟨hgiven, fun later call' hgt hcall => ?_⟩, ?_⟩
      · have hlength := List.getElem?_eq_some_iff.mp hcall |>.1
        exact hlater later call' hgt (by rw [List.getElem?_append_left hlength, hcall])
      · exact hlater calls.length call hbefore List.getElem?_concat_length
    · have heq : given = calls.length := by omega
      subst heq
      rw [List.getElem?_concat_length, Option.some_inj] at hgiven
      exact Or.inr ⟨rfl, hgiven⟩
  · rintro (⟨⟨hgiven, hlater⟩, hends⟩ | ⟨rfl, rfl⟩)
    · have hlength := List.getElem?_eq_some_iff.mp hgiven |>.1
      refine ⟨by rw [List.getElem?_append_left hlength, hgiven], fun later call' hgt hcall => ?_⟩
      rcases Nat.lt_or_ge later calls.length with hbefore | hge
      · rw [List.getElem?_append_left hbefore] at hcall
        exact hlater later call' hgt hcall
      · have hlt := List.getElem?_eq_some_iff.mp hcall |>.1
        rw [List.length_append, List.length_singleton] at hlt
        have heq : later = calls.length := by omega
        subst heq
        rw [List.getElem?_concat_length, Option.some_inj] at hcall
        exact hcall ▸ hends
    · refine ⟨List.getElem?_concat_length, fun later call' hgt hcall => ?_⟩
      have hlt := List.getElem?_eq_some_iff.mp hcall |>.1
      rw [List.length_append, List.length_singleton] at hlt
      omega

/-- The lists of the handles hold what the calls have registered, and each registration has the user data of the last call
that gave them, which it destroys if it is not that of a copy. -/
structure RepresentsCallbacks (calls : List (CallbackCall F U D)) (world : CallbackWorld F U D) : Prop where
  made : (registryOf calls).made = world.handles.length
  lists : ∀ params handle, world.live params = some handle → ∀ which,
    ListsCallbacks (handle.callbacks which) ((registryOf calls).registered params which)
  gone : ∀ params, world.live params = none → ∀ which callback, (registryOf calls).registered params which callback = none
  since : ∀ params which callback registration, (registryOf calls).registered params which callback = some registration →
    registration.since < calls.length
  gives : ∀ which params callback given free udata, GivesUserData calls which params callback given free udata ↔
    ∃ registration, (registryOf calls).registered params which callback = some registration ∧ registration.given = given ∧
      registration.udataFree = some free ∧ registration.udata = udata

namespace RepresentsCallbacks

variable {calls : List (CallbackCall F U D)} {world world' : CallbackWorld F U D}

theorem init : RepresentsCallbacks ([] : List (CallbackCall F U D)) {} where
  made := rfl
  lists _ _ hlive := by cases hlive
  gone _ _ _ _ := rfl
  since _ _ _ _ hregistered := by cases hregistered
  gives _ _ _ _ _ _ := iff_of_false (fun h => by cases h.1) fun ⟨_, hregistered, _⟩ => by cases hregistered

variable (h : RepresentsCallbacks calls world)
include h

theorem lt_made
    {registration : CallbackRegistration U D} (hregistered : (registryOf calls).registered params which callback = some registration) :
    params < world.handles.length := by
  cases hlive : world.live params with
  | none =>
      rw [h.gone params hlive] at hregistered
      cases hregistered
  | some handle => exact lt_of_live hlive

/-- A call that changes no handle and registers nothing. -/
theorem same (hmade : ((registryOf calls).after call).made = (registryOf calls).made)
    (hregistered : ((registryOf calls).after call).registered = (registryOf calls).registered)
    (hends : ∀ which params callback free udata given, GivesUserData calls which params callback given free udata →
      ¬call.Ends which params callback)
    (hgift : ∀ which params callback udata free, call ≠ .add which (some params) callback udata (some free)) :
    RepresentsCallbacks (calls ++ [call]) world where
  made := by rw [registryOf_concat, hmade, h.made]
  lists := by rw [registryOf_concat, hregistered]; exact h.lists
  gone := by rw [registryOf_concat, hregistered]; exact h.gone
  since params which callback registration := by
    rw [registryOf_concat, hregistered, List.length_append]
    exact fun hold => (h.since params which callback registration hold).trans (Nat.lt_succ_self _)
  gives which params callback given free udata := by
    rw [registryOf_concat, hregistered, ← h.gives, gives_concat]
    exact ⟨fun hgives => hgives.elim And.left fun hnew => absurd hnew.2 (hgift _ _ _ _ _),
      fun hgives => Or.inl ⟨hgives, hends _ _ _ _ _ _ hgives⟩⟩

/-- A handle that is made has what is registered for it, which is not to be destroyed. -/
theorem make (registered : CallbackList → F → Option (CallbackRegistration U D))
    (hmade : ((registryOf calls).after call).made = (registryOf calls).made + 1)
    (hafter : ((registryOf calls).after call).registered = fun params which callback =>
      if params = (registryOf calls).made then registered which callback else (registryOf calls).registered params which callback)
    (hlists : ∀ which, ListsCallbacks (handle.callbacks which) (registered which))
    (hsince : ∀ which callback registration, registered which callback = some registration →
      registration.since < calls.length ∧ registration.udataFree = none)
    (hends : ∀ which params callback, ¬call.Ends which params callback)
    (hgift : ∀ which params callback udata free, call ≠ .add which (some params) callback udata (some free)) :
    RepresentsCallbacks (calls ++ [call]) ⟨world.handles ++ [some handle]⟩ where
  made := by rw [registryOf_concat, hmade, h.made, List.length_append, List.length_singleton]
  lists params live hlive which := by
    rw [registryOf_concat, hafter, h.made]
    rw [live_append] at hlive
    split at hlive
    case isTrue heq =>
        cases hlive
        simpa only [if_pos heq] using hlists which
    case isFalse hne => simpa only [if_neg hne] using h.lists params live hlive which
  gone params hgone which callback := by
    rw [registryOf_concat, hafter, h.made]
    rw [live_append] at hgone
    split at hgone
    case isTrue heq => cases hgone
    case isFalse hne => simpa only [if_neg hne] using h.gone params hgone which callback
  since params which callback registration := by
    rw [registryOf_concat, hafter, List.length_append]
    intro hregistered
    dsimp only at hregistered
    split at hregistered
    case isTrue => exact (hsince which callback registration hregistered).1.trans (Nat.lt_succ_self _)
    case isFalse => exact (h.since params which callback registration hregistered).trans (Nat.lt_succ_self _)
  gives which params callback given free udata := by
    have hold : GivesUserData (calls ++ [call]) which params callback given free udata ↔ GivesUserData calls which params callback given free udata := by
      rw [gives_concat]
      exact ⟨fun hgives => hgives.elim And.left fun hnew => absurd hnew.2 (hgift _ _ _ _ _),
        fun hgives => Or.inl ⟨hgives, hends _ _ _⟩⟩
    rw [hold, h.gives, registryOf_concat, hafter]
    dsimp only
    by_cases heq : params = (registryOf calls).made
    · rw [if_pos heq]
      refine iff_of_false ?_ ?_
      · rintro ⟨registration, hregistered, -⟩
        have hlt := h.lt_made hregistered
        rw [heq, h.made] at hlt
        exact Nat.lt_irrefl _ hlt
      · rintro ⟨registration, hregistered, -, hfree, -⟩
        rw [(hsince which callback registration hregistered).2] at hfree
        cases hfree
    · rw [if_neg heq]

theorem new : RepresentsCallbacks (calls ++ [.new]) ⟨world.handles ++ [some gfaltParamsHandleNew]⟩ := by
  refine h.make (fun _ _ => none) rfl ?_ (fun which => ?_) (fun _ _ _ hregistered => by cases hregistered)
    (fun _ _ _ => id) fun _ _ _ _ _ heq => by cases heq
  · funext params which callback
    split
    case isTrue heq =>
        by_contra hsome
        obtain ⟨registration, hregistered⟩ := Option.ne_none_iff_exists'.mp hsome
        have hlt := h.lt_made hregistered
        rw [heq, h.made] at hlt
        exact Nat.lt_irrefl _ hlt
    case isFalse => rfl
  · cases which with
    | monitor => exact ListsCallbacks.empty
    | event => exact ListsCallbacks.empty

theorem copy (hlive : world.live params = some handle) :
    RepresentsCallbacks (calls ++ [.copy (some params)]) ⟨world.handles ++ [some (gfaltParamsHandleCopy handle)]⟩ := by
  refine h.make _ rfl rfl (fun which => ?_) (fun which callback registration hregistered => ?_) (fun _ _ _ => id)
    fun _ _ _ _ _ heq => by cases heq
  · have hcopied := (h.lists params handle hlive which).copy
    cases which with
    | monitor => exact hcopied
    | event => exact hcopied
  · obtain ⟨original, horiginal, rfl⟩ := Option.map_eq_some_iff.mp hregistered
    exact ⟨h.since params which callback original horiginal, rfl⟩

theorem delete
    (hlive : world.live params = some handle) : RepresentsCallbacks (calls ++ [.delete (some params)]) (world.put params none) where
  made := by
    rw [registryOf_concat, CallbackWorld.put, List.length_set]
    exact h.made
  lists params' live hlive' which := by
    rw [live_put hlive] at hlive'
    split at hlive'
    case isTrue => cases hlive'
    case isFalse hne =>
        rw [registryOf_concat]
        simpa only [CallbackRegistry.after, if_neg hne] using h.lists params' live hlive' which
  gone params' hgone which callback := by
    rw [live_put hlive] at hgone
    rw [registryOf_concat]
    split at hgone
    case isTrue heq => simp only [CallbackRegistry.after, if_pos heq]
    case isFalse hne => simpa only [CallbackRegistry.after, if_neg hne] using h.gone params' hgone which callback
  since params' which callback registration := by
    rw [registryOf_concat, List.length_append]
    intro hregistered
    dsimp only [CallbackRegistry.after] at hregistered
    split at hregistered
    case isTrue => cases hregistered
    case isFalse => exact (h.since params' which callback registration hregistered).trans (Nat.lt_succ_self _)
  gives which params' callback given free udata := by
    rw [gives_concat, registryOf_concat, h.gives]
    dsimp only [CallbackRegistry.after]
    by_cases heq : params' = params
    · subst heq
      rw [if_pos rfl]
      refine iff_of_false ?_ (by rintro ⟨_, hregistered, -⟩; cases hregistered)
      rintro (⟨-, hends⟩ | ⟨-, hcall⟩)
      · exact hends rfl
      · cases hcall
    · rw [if_neg heq]
      constructor
      · rintro (⟨hgives, -⟩ | ⟨-, hcall⟩)
        · exact hgives
        · cases hcall
      · exact fun hgives => Or.inl ⟨hgives, fun hends => heq (Option.some_inj.mp hends).symm⟩

/-- A call that changes the registration of one callback. -/
theorem put (which : CallbackList) (callback : F)
    {handle' : GfaltParamsHandle F U D} (registration : Option (CallbackRegistration U D))
    (hlive : world.live params = some handle)
    (hmade : ((registryOf calls).after call).made = (registryOf calls).made)
    (hafter : ((registryOf calls).after call).registered = (registryOf calls).update params which callback registration)
    (hlists : ListsCallbacks (handle'.callbacks which) ((registryOf calls).update params which callback registration params which))
    (hother : ∀ which', which' ≠ which → handle'.callbacks which' = handle.callbacks which')
    (hsince : ∀ new, registration = some new → new.since ≤ calls.length)
    (hends : ∀ which' params' callback', call.Ends which' params' callback' ↔
      params' = params ∧ which' = which ∧ callback' = callback)
    (hgift : ∀ which' params' callback' given free udata,
      given = calls.length ∧ call = .add which' (some params') callback' udata (some free) ↔
        (params' = params ∧ which' = which ∧ callback' = callback) ∧ ∃ new, registration = some new ∧ new.given = given ∧
          new.udataFree = some free ∧ new.udata = udata) :
    RepresentsCallbacks (calls ++ [call]) (world.put params (some handle')) where
  made := by rw [registryOf_concat, hmade, h.made, CallbackWorld.put, List.length_set]
  lists params' live hlive' which' := by
    rw [registryOf_concat, hafter]
    rw [live_put hlive] at hlive'
    split at hlive'
    case isTrue heq =>
        cases hlive'
        subst heq
        by_cases hwhich : which' = which
        · subst hwhich
          exact hlists
        · rw [hother which' hwhich]
          have hold := h.lists params' handle hlive which'
          have hsame : (registryOf calls).update params' which callback registration params' which' =
              (registryOf calls).registered params' which' := by
            funext callback'
            exact if_neg fun hboth => hwhich hboth.2.1
          rw [hsame]
          exact hold
    case isFalse hne =>
        have hsame : (registryOf calls).update params which callback registration params' which' =
            (registryOf calls).registered params' which' := by
          funext callback'
          exact if_neg fun hboth => hne hboth.1
        rw [hsame]
        exact h.lists params' live hlive' which'
  gone params' hgone which' callback' := by
    rw [live_put hlive] at hgone
    split at hgone
    case isTrue => cases hgone
    case isFalse hne =>
        rw [registryOf_concat, hafter, CallbackRegistry.update, if_neg fun hboth => hne hboth.1]
        exact h.gone params' hgone which' callback'
  since params' which' callback' new := by
    rw [registryOf_concat, hafter, CallbackRegistry.update, List.length_append, List.length_singleton]
    intro hregistered
    split at hregistered
    case isTrue => exact Nat.lt_succ_of_le (hsince new hregistered)
    case isFalse => exact (h.since params' which' callback' new hregistered).trans (Nat.lt_succ_self _)
  gives which' params' callback' given free udata := by
    rw [gives_concat, registryOf_concat, hafter, h.gives, hends, hgift, CallbackRegistry.update]
    by_cases hhere : params' = params ∧ which' = which ∧ callback' = callback
    · rw [if_pos hhere]
      exact ⟨fun hgives => hgives.elim (fun hold => absurd hhere hold.2) And.right, fun hnew => Or.inr ⟨hhere, hnew⟩⟩
    · rw [if_neg hhere]
      exact ⟨fun hgives => hgives.elim And.left fun hnew => absurd hnew.1 hhere, fun hold => Or.inl ⟨hold, hhere⟩⟩

theorem add (which : CallbackList) (callback : F) (udata : U) (udataFree : Option D) (hlive : world.live params = some handle) :
    RepresentsCallbacks (calls ++ [.add which (some params) callback udata udataFree])
      (world.put params (some (addCallback which handle callback udata udataFree).1)) := by
  have hlists := h.lists params handle hlive which
  have hhere : ∀ registration, (registryOf calls).update params which callback registration params which callback = registration :=
    fun registration => if_pos ⟨rfl, rfl, rfl⟩
  have helse : ∀ registration callback', callback' ≠ callback →
      (registryOf calls).update params which callback registration params which callback' =
        (registryOf calls).registered params which callback' := fun registration callback' hne => if_neg fun hboth => hne hboth.2.2
  refine h.put which callback _ hlive rfl rfl ?_ (fun which' hwhich => ?_) ?_ (fun which' params' callback' => ?_)
    fun which' params' callback' given free udata' => ?_
  · rw [addCallback]
    cases hsearch : gfaltSearchCallback (handle.callbacks which) callback with
    | none =>
        dsimp only
        rw [callbacks_setCallbacks, if_pos rfl]
        have hnone := gfaltSearchCallback_eq_none.mp hsearch
        have hnew : (registryOf calls).registered params which callback = none := hlists.eq_none hnone
        refine hlists.append ⟨calls.length, (registryOf calls).calls, udata, udataFree⟩ hnone ?_ ?_ (helse _)
        · exact fun callback' registration' => h.since params which callback' registration'
        · rw [hhere, hnew, Option.map_none, Option.getD_none, calls_registryOf]
    | some link =>
        dsimp only
        rw [callbacks_setCallbacks, if_pos rfl]
        obtain ⟨hlist, hfunc⟩ := gfaltSearchCallback_eq_some hsearch
        rw [hlist] at hlists
        obtain ⟨old, hold, -⟩ := hlists.told link.entry (by simp)
        subst hfunc
        refine hlists.replace ⟨old.since, (registryOf calls).calls, udata, udataFree⟩ hold rfl ?_ (helse _)
        rw [hhere, hold, Option.map_some, Option.getD_some]
  · rw [addCallback]
    cases gfaltSearchCallback (handle.callbacks which) callback with
    | none => exact (callbacks_setCallbacks _ _ _ _).trans (if_neg hwhich)
    | some link => exact (callbacks_setCallbacks _ _ _ _).trans (if_neg hwhich)
  · rintro new ⟨⟩
    cases hold : (registryOf calls).registered params which callback with
    | none => exact (calls_registryOf calls).le
    | some old => exact (h.since params which callback old hold).le
  · simp only [CallbackCall.Ends, Option.some_inj]
    tauto
  · simp only [CallbackCall.add.injEq, Option.some_inj, calls_registryOf]
    constructor
    · rintro ⟨rfl, rfl, rfl, rfl, rfl, rfl⟩
      exact ⟨⟨rfl, rfl, rfl⟩, _, rfl, rfl, rfl, rfl⟩
    · rintro ⟨⟨rfl, rfl, rfl⟩, _, rfl, rfl, rfl, rfl⟩
      exact ⟨rfl, rfl, rfl, rfl, rfl, rfl⟩

theorem remove (which : CallbackList) (callback : F)
    {removed : GfaltParamsHandle F U D × List (D × U)} (hlive : world.live params = some handle)
    (hremoved : removeCallback which handle callback = some removed) :
    RepresentsCallbacks (calls ++ [.remove which (some params) callback]) (world.put params (some removed.1)) := by
  obtain ⟨link, hsearch, rfl⟩ := Option.map_eq_some_iff.mp hremoved
  obtain ⟨hlist, rfl⟩ := gfaltSearchCallback_eq_some hsearch
  have hlists := h.lists params handle hlive which
  refine h.put which link.entry.func none hlive rfl rfl ?_ (fun which' hwhich => ?_) (by rintro _ ⟨⟩)
    (fun which' params' callback' => ?_) fun which' params' callback' given free udata => ?_
  · rw [callbacks_setCallbacks, if_pos rfl]
    rw [hlist] at hlists
    exact hlists.erase (if_pos ⟨rfl, rfl, rfl⟩) fun callback' hne => if_neg fun hboth => hne hboth.2.2
  · exact (callbacks_setCallbacks _ _ _ _).trans (if_neg hwhich)
  · simp only [CallbackCall.Ends, Option.some_inj]
    tauto
  · refine iff_of_false (fun hcall => by cases hcall.2) ?_
    rintro ⟨-, _, hnew, -⟩
    cases hnew

/-- The removal of a function that is not there. -/
theorem missing (hlive : world.live params = some handle) (hremoved : removeCallback which handle callback = none) :
    RepresentsCallbacks (calls ++ [.remove which (some params) callback]) world := by
  have hnone : (registryOf calls).registered params which callback = none :=
    (h.lists params handle hlive which).eq_none (gfaltSearchCallback_eq_none.mp (Option.map_eq_none_iff.mp hremoved))
  refine h.same rfl ?_ ?_ fun _ _ _ _ _ heq => by cases heq
  · funext params' which' callback'
    show (registryOf calls).update params which callback none params' which' callback' = _
    rw [CallbackRegistry.update]
    split
    case isTrue heq =>
        obtain ⟨rfl, rfl, rfl⟩ := heq
        exact hnone.symm
    case isFalse => rfl
  · rintro which' params' callback' free udata given hgives ⟨rfl, hparams, rfl⟩
    cases hparams
    obtain ⟨registration, hregistered, -⟩ := (h.gives _ _ _ _ _ _).mp hgives
    rw [hnone] at hregistered
    cases hregistered

/-- What a step keeps. -/
theorem step {answer : CallbackAnswer F U D}
    (hstep : callbackStep call world = some (answer, world')) : RepresentsCallbacks (calls ++ [call]) world' := by
  cases call with
  | new =>
      cases hstep
      exact h.new
  | copy params =>
      obtain ⟨handle, hlive, hmade⟩ := Option.bind_eq_some_iff.mp hstep
      obtain ⟨params, rfl, hlive⟩ := Option.bind_eq_some_iff.mp hlive
      cases hmade
      exact h.copy hlive
  | delete params =>
      cases params with
      | none =>
          cases hstep
          exact h.same rfl rfl (fun _ _ _ _ _ _ _ hends => by cases hends) fun _ _ _ _ _ heq => by cases heq
      | some params =>
          obtain ⟨handle, hlive, hdeleted⟩ := Option.bind_eq_some_iff.mp hstep
          cases hdeleted
          exact h.delete hlive
  | add which params callback udata udataFree =>
      cases params with
      | none =>
          cases hstep
          exact h.same rfl rfl (fun _ _ _ _ _ _ _ hends => by cases hends.2.1) fun _ _ _ _ _ heq => by cases heq
      | some params =>
          rw [callbackStep_add] at hstep
          obtain ⟨handle, hlive, hadded⟩ := Option.map_eq_some_iff.mp hstep
          cases hadded
          exact h.add which callback udata udataFree hlive
  | remove which params callback =>
      cases params with
      | none =>
          cases hstep
          exact h.same rfl rfl (fun _ _ _ _ _ _ _ hends => by cases hends.2.1) fun _ _ _ _ _ heq => by cases heq
      | some params =>
          rw [callbackStep_remove] at hstep
          obtain ⟨handle, hlive, hanswer⟩ := Option.map_eq_some_iff.mp hstep
          cases hremoved : removeCallback which handle callback with
          | none =>
              rw [hremoved] at hanswer
              cases hanswer
              exact h.missing hlive hremoved
          | some removed =>
              rw [hremoved] at hanswer
              cases hanswer
              exact h.remove which callback hlive hremoved
  | trigger which params =>
      rw [callbackStep_trigger] at hstep
      obtain ⟨handle, -, hcalled⟩ := Option.map_eq_some_iff.mp hstep
      cases hcalled
      exact h.same rfl rfl (fun _ _ _ _ _ _ _ hends => by cases hends) fun _ _ _ _ _ heq => by cases heq

end RepresentsCallbacks

/-! ### What a call destroys -/

section Destroyed

variable {calls : List (CallbackCall F U D)} {world world' : CallbackWorld F U D}

/-- What is destroyed is what the gifts that the call ends gave, each once. -/
def EndsGifts (calls : List (CallbackCall F U D)) (call : CallbackCall F U D) (destroyed : List (D × U)) : Prop :=
  ∃ ended : List Nat, ended.Nodup ∧
    (∀ given, given ∈ ended ↔ ∃ which params callback free udata, GivesUserData calls which params callback given free udata ∧
      call.Ends which params callback) ∧
    destroyed = ended.filterMap fun given => calls[given]?.bind CallbackCall.gift

variable (h : RepresentsCallbacks calls world)
include h

/-- The gifts a call ends, each once, are what it destroys if it takes away the entries of their functions. -/
theorem RepresentsCallbacks.destroys (call : CallbackCall F U D)
    (hlive : world.live params = some handle) (entries : List (CallbackList × GfaltCallbackEntry F U D)) (hnodup : entries.Nodup)
    (hmem : ∀ entry ∈ entries, entry.2 ∈ handle.callbacks entry.1 ∧ call.Ends entry.1 params entry.2.func)
    (hends : ∀ which params' callback, call.Ends which params' callback → params' = params ∧
      ∀ entry ∈ handle.callbacks which, entry.func = callback → (which, entry) ∈ entries) :
    EndsGifts calls call (entries.filterMap fun entry => gfaltParamsFreeCallback entry.2) := by
  have htold : ∀ entry ∈ entries, ∀ free, entry.2.udataFree = some free → ∃ registration,
      (registryOf calls).registered params entry.1 entry.2.func = some registration ∧ registration.udataFree = some free ∧
        GivesUserData calls entry.1 params entry.2.func registration.given free entry.2.udata := by
    intro entry hentry free hfree
    obtain ⟨registration, hregistered, hudata, hudataFree⟩ := (h.lists params handle hlive entry.1).told entry.2 (hmem entry hentry).1
    exact ⟨registration, hregistered, hudataFree.trans hfree,
      (h.gives _ _ _ _ _ _).mpr ⟨registration, hregistered, rfl, hudataFree.trans hfree, hudata⟩⟩
  let number (entry : CallbackList × GfaltCallbackEntry F U D) : Option Nat :=
    entry.2.udataFree.bind fun _ => ((registryOf calls).registered params entry.1 entry.2.func).map (·.given)
  have hnumber : ∀ entry ∈ entries, ∀ given, number entry = some given ↔
      ∃ free, entry.2.udataFree = some free ∧ GivesUserData calls entry.1 params entry.2.func given free entry.2.udata := by
    intro entry hentry given
    cases hfree : entry.2.udataFree with
    | none => simp [number, hfree]
    | some free =>
        obtain ⟨registration, hregistered, hudataFree, hgives⟩ := htold entry hentry free hfree
        simp only [number, hfree, hregistered, Option.bind_some, Option.map_some, Option.some_inj]
        constructor
        · rintro rfl
          exact ⟨free, rfl, hgives⟩
        · rintro ⟨_, rfl, hgiven⟩
          obtain ⟨registration', hregistered', rfl, -⟩ := (h.gives _ _ _ _ _ _).mp hgiven
          rw [hregistered] at hregistered'
          cases hregistered'
          rfl
  refine ⟨entries.filterMap number, ?_, fun given => ?_, ?_⟩
  · refine List.pairwise_filterMap.mpr (hnodup.imp_of_mem fun {first last} hfirst hlast hne given hgiven given' hgiven' heq => hne ?_)
    subst heq
    obtain ⟨free, hfree, hgives, -⟩ := (hnumber first hfirst given).mp hgiven
    obtain ⟨free', hfree', hgives', -⟩ := (hnumber last hlast given).mp hgiven'
    rw [hgives, Option.some_inj, CallbackCall.add.injEq] at hgives'
    obtain ⟨hwhich, -, hfunc, -⟩ := hgives'
    refine Prod.ext hwhich ?_
    exact (h.lists params handle hlive last.1).entry_unique (hwhich ▸ (hmem first hfirst).1) (hmem last hlast).1 hfunc
  · rw [List.mem_filterMap]
    constructor
    · rintro ⟨entry, hentry, hgiven⟩
      obtain ⟨free, hfree, hgives⟩ := (hnumber entry hentry given).mp hgiven
      exact ⟨entry.1, params, entry.2.func, free, entry.2.udata, hgives, (hmem entry hentry).2⟩
    · rintro ⟨which, params', callback, free, udata, hgives, hend⟩
      obtain ⟨rfl, hentries⟩ := hends which params' callback hend
      obtain ⟨registration, hregistered, hgiven, hfree, hudata⟩ := (h.gives _ _ _ _ _ _).mp hgives
      have hlists := h.lists params' handle hlive which
      obtain ⟨entry, hentry, rfl⟩ := List.mem_map.mp (hlists.every callback registration hregistered)
      refine ⟨(which, entry), hentries entry hentry rfl, (hnumber _ (hentries entry hentry rfl) given).mpr ⟨free, ?_, ?_⟩⟩
      · obtain ⟨registration', hregistered', -, hudataFree⟩ := hlists.told entry hentry
        rw [hregistered] at hregistered'
        cases hregistered'
        exact hudataFree.symm.trans hfree
      · obtain ⟨registration', hregistered', hudata', -⟩ := hlists.told entry hentry
        rw [hregistered] at hregistered'
        cases hregistered'
        rw [← hudata', hudata]
        exact hgives
  · rw [List.filterMap_filterMap]
    refine List.filterMap_congr fun entry hentry => ?_
    cases hfree : entry.2.udataFree with
    | none => simp [gfaltParamsFreeCallback, number, hfree]
    | some free =>
        obtain ⟨registration, hregistered, -, hgives, -⟩ := htold entry hentry free hfree
        simp [gfaltParamsFreeCallback, number, hfree, hregistered, hgives, CallbackCall.gift]

/-- A call that ends no registration destroys nothing. -/
theorem RepresentsCallbacks.destroys_nothing (hends : ∀ which params callback, call.Ends which params callback →
      (registryOf calls).registered params which callback = none) : EndsGifts calls call [] := by
  refine ⟨[], List.nodup_nil, fun given => iff_of_false List.not_mem_nil ?_, rfl⟩
  rintro ⟨which, params, callback, free, udata, hgives, hend⟩
  obtain ⟨registration, hregistered, -⟩ := (h.gives _ _ _ _ _ _).mp hgives
  rw [hends which params callback hend] at hregistered
  cases hregistered

/-- A call that replaces or removes one callback destroys the user data of its entry, if there is one. -/
theorem RepresentsCallbacks.destroys_link (call : CallbackCall F U D)
    (which : CallbackList) (callback : F) (hlive : world.live params = some handle)
    (hends : ∀ which' params' callback', call.Ends which' params' callback' ↔
      which' = which ∧ params' = params ∧ callback' = callback) :
    EndsGifts calls call (match gfaltSearchCallback (handle.callbacks which) callback with
      | some link => (gfaltParamsFreeCallback link.entry).toList
      | none => []) := by
  have hlists := h.lists params handle hlive which
  cases hsearch : gfaltSearchCallback (handle.callbacks which) callback with
  | none =>
      refine h.destroys_nothing fun which' params' callback' hend => ?_
      obtain ⟨rfl, rfl, rfl⟩ := (hends _ _ _).mp hend
      exact hlists.eq_none (gfaltSearchCallback_eq_none.mp hsearch)
  | some link =>
      obtain ⟨hlist, rfl⟩ := gfaltSearchCallback_eq_some hsearch
      have hthere : link.entry ∈ handle.callbacks which := by
        rw [hlist]
        exact List.mem_append_right _ List.mem_cons_self
      have hone : [(which, link.entry)].filterMap (fun entry => gfaltParamsFreeCallback entry.2) =
          (gfaltParamsFreeCallback link.entry).toList := by
        cases hfree : gfaltParamsFreeCallback link.entry with
        | none => simp [hfree]
        | some destruction => simp [hfree]
      dsimp only
      rw [← hone]
      refine h.destroys call hlive [(which, link.entry)] (List.nodup_singleton _) (fun entry hentry => ?_)
        fun which' params' callback' hend => ?_
      · rw [List.mem_singleton] at hentry
        subst hentry
        exact ⟨hthere, (hends _ _ _).mpr ⟨rfl, rfl, rfl⟩⟩
      · obtain ⟨rfl, rfl, rfl⟩ := (hends _ _ _).mp hend
        refine ⟨rfl, fun entry hentry hfunc => ?_⟩
        rw [hlists.entry_unique hentry hthere hfunc]
        exact List.mem_singleton_self _

/-- A call that deletes a handle destroys the user data of its entries. -/
theorem RepresentsCallbacks.destroys_handle (hlive : world.live params = some handle) :
    EndsGifts calls (.delete (some params)) (gfaltParamsHandleDelete handle) := by
  have hlists := fun which => h.lists params handle hlive which
  have hboth : (handle.monitorCallbacks.map (CallbackList.monitor, ·) ++ handle.eventCallbacks.map (CallbackList.event, ·)).filterMap
      (fun entry => gfaltParamsFreeCallback entry.2) = gfaltParamsHandleDelete handle := by
    rw [List.filterMap_append, List.filterMap_map, List.filterMap_map]
    rfl
  rw [← hboth]
  refine h.destroys _ hlive _ ?_ (fun entry hentry => ?_) fun which params' callback hend => ?_
  · refine List.nodup_append'.mpr ⟨?_, ?_, ?_⟩
    · exact (List.Nodup.of_map _ (hlists .monitor).nodup).map fun _ _ heq => (Prod.ext_iff.mp heq).2
    · exact (List.Nodup.of_map _ (hlists .event).nodup).map fun _ _ heq => (Prod.ext_iff.mp heq).2
    · intro entry hmonitor hevent
      obtain ⟨_, -, rfl⟩ := List.mem_map.mp hmonitor
      obtain ⟨_, -, heq⟩ := List.mem_map.mp hevent
      cases heq
  · rcases List.mem_append.mp hentry with hentry | hentry
    · obtain ⟨callback, hcallback, rfl⟩ := List.mem_map.mp hentry
      exact ⟨hcallback, rfl⟩
    · obtain ⟨callback, hcallback, rfl⟩ := List.mem_map.mp hentry
      exact ⟨hcallback, rfl⟩
  · cases hend
    refine ⟨rfl, fun entry hentry _ => List.mem_append.mpr ?_⟩
    cases which with
    | monitor => exact Or.inl (List.mem_map_of_mem hentry)
    | event => exact Or.inr (List.mem_map_of_mem hentry)

/-- What a call destroys is what the gifts it ends gave. -/
theorem RepresentsCallbacks.destroyed {answer : CallbackAnswer F U D}
    (hstep : callbackStep call world = some (answer, world')) : EndsGifts calls call answer.destroyed := by
  cases call with
  | new =>
      cases hstep
      exact h.destroys_nothing fun _ _ _ hend => by cases hend
  | copy params =>
      obtain ⟨handle, -, hmade⟩ := Option.bind_eq_some_iff.mp hstep
      cases hmade
      exact h.destroys_nothing fun _ _ _ hend => by cases hend
  | delete params =>
      cases params with
      | none =>
          cases hstep
          exact h.destroys_nothing fun _ _ _ hend => by cases hend
      | some params =>
          obtain ⟨handle, hlive, hdeleted⟩ := Option.bind_eq_some_iff.mp hstep
          cases hdeleted
          exact h.destroys_handle hlive
  | add which params callback udata udataFree =>
      cases params with
      | none =>
          cases hstep
          exact h.destroys_nothing fun _ _ _ hend => by cases hend.2.1
      | some params =>
          rw [callbackStep_add] at hstep
          obtain ⟨handle, hlive, hadded⟩ := Option.map_eq_some_iff.mp hstep
          cases hadded
          have hlink := h.destroys_link (.add which (some params) callback udata udataFree) which callback hlive
            fun which' params' callback' => by
              simp only [CallbackCall.Ends, Option.some_inj]
              tauto
          rw [addCallback]
          cases hsearch : gfaltSearchCallback (handle.callbacks which) callback with
          | none => simpa only [hsearch] using hlink
          | some link => simpa only [hsearch] using hlink
  | remove which params callback =>
      cases params with
      | none =>
          cases hstep
          exact h.destroys_nothing fun _ _ _ hend => by cases hend.2.1
      | some params =>
          rw [callbackStep_remove] at hstep
          obtain ⟨handle, hlive, hanswer⟩ := Option.map_eq_some_iff.mp hstep
          have hlink := h.destroys_link (.remove which (some params) callback) which callback hlive
            fun which' params' callback' => by
              simp only [CallbackCall.Ends, Option.some_inj]
              tauto
          rw [removeCallback] at hanswer
          cases hsearch : gfaltSearchCallback (handle.callbacks which) callback with
          | none =>
              rw [hsearch] at hanswer hlink
              cases hanswer
              exact hlink
          | some link =>
              rw [hsearch] at hanswer hlink
              cases hanswer
              exact hlink
  | trigger which params =>
      rw [callbackStep_trigger] at hstep
      obtain ⟨handle, -, hcalled⟩ := Option.map_eq_some_iff.mp hstep
      cases hcalled
      exact h.destroys_nothing fun _ _ _ hend => by cases hend

end Destroyed

/-! ### Runs -/

theorem representsCallbacks_of_run {before calls : List (CallbackCall F U D)} {answers : List (CallbackAnswer F U D)}
    {first last : CallbackWorld F U D} (hfirst : RepresentsCallbacks before first) (hrun : callbackRun calls first = some (answers, last)) :
    RepresentsCallbacks (before ++ calls) last := by
  induction calls generalizing before first answers with
  | nil =>
      cases hrun
      rwa [List.append_nil]
  | cons call calls ih =>
      obtain ⟨⟨answer, middle⟩, hstep, hrun⟩ := Option.bind_eq_some_iff.mp hrun
      obtain ⟨⟨rest, last'⟩, hrest, hrun⟩ := Option.bind_eq_some_iff.mp hrun
      cases hrun
      rw [List.append_cons]
      exact ih (hfirst.step hstep) hrest

/-- A call of a run is a step from where the calls before it lead. -/
theorem callbackStep_of_run {calls : List (CallbackCall F U D)} {answers : List (CallbackAnswer F U D)} {first last : CallbackWorld F U D}
    (hrun : callbackRun calls first = some (answers, last)) {number : Nat}
    (hcall : calls[number]? = some call) :
    ∃ before world answer world', callbackRun (calls.take number) first = some (before, world) ∧
      callbackStep call world = some (answer, world') ∧ answers[number]? = some answer := by
  induction calls generalizing first answers number with
  | nil => cases hcall
  | cons head calls ih =>
      obtain ⟨⟨answer, middle⟩, hstep, hrun⟩ := Option.bind_eq_some_iff.mp hrun
      obtain ⟨⟨rest, last'⟩, hrest, hrun⟩ := Option.bind_eq_some_iff.mp hrun
      cases hrun
      cases number with
      | zero =>
          cases hcall
          exact ⟨[], first, answer, middle, rfl, hstep, rfl⟩
      | succ number =>
          obtain ⟨before, world, answer', world', hbefore, hstep', hanswer⟩ := ih hrest hcall
          refine ⟨answer :: before, world, answer', world', ?_, hstep', hanswer⟩
          rw [List.take_succ_cons, callbackRun, hstep]
          show (callbackRun (calls.take number) middle).bind _ = _
          rw [hbefore]
          rfl

/-- Each list of a handle that is left holds each function once, and those that are registered in the order in which they
were first added. A trigger calls each function that is registered once, with the user data last given for it. What a call
destroys is what the gifts it ends gave, each once. -/
structure CallbacksKept (calls : List (CallbackCall F U D)) (answers : List (CallbackAnswer F U D))
    (world : CallbackWorld F U D) : Prop where
  once : ∀ params handle, world.live params = some handle → ∀ which, ((handle.callbacks which).map (·.func)).Nodup
  registered : ∀ params handle, world.live params = some handle → ∀ which callback,
    callback ∈ (handle.callbacks which).map (·.func) ↔ (registryOf calls).registered params which callback ≠ none
  order : ∀ params handle, world.live params = some handle → ∀ which,
    ((handle.callbacks which).map (·.func)).Pairwise fun first last => ∃ registration registration',
      (registryOf calls).registered params which first = some registration ∧
        (registryOf calls).registered params which last = some registration' ∧ registration.since < registration'.since
  called : ∀ number which params, calls[number]? = some (.trigger which (some params)) → ∃ answer, answers[number]? = some answer ∧
    (answer.called.map Prod.fst).Nodup ∧ ∀ callback udata, (callback, udata) ∈ answer.called ↔
      ∃ registration, (registryOf (calls.take number)).registered params which callback = some registration ∧
        registration.udata = udata
  destroyed : ∀ number call, calls[number]? = some call → ∃ answer, answers[number]? = some answer ∧
    EndsGifts (calls.take number) call answer.destroyed

theorem callbacks_kept {calls : List (CallbackCall F U D)} {answers : List (CallbackAnswer F U D)} {world : CallbackWorld F U D}
    (hrun : callbackRun calls {} = some (answers, world)) : CallbacksKept calls answers world := by
  have hlast : RepresentsCallbacks calls world := representsCallbacks_of_run RepresentsCallbacks.init hrun
  refine ⟨fun params handle hlive which => ?_, fun params handle hlive which callback => ?_, fun params handle hlive which => ?_,
    fun number which params hcall => ?_, fun number call hcall => ?_⟩
  · exact (hlast.lists params handle hlive which).nodup
  · have hlists := hlast.lists params handle hlive which
    constructor
    · intro hmem
      obtain ⟨registration, hregistered⟩ := hlists.exists_of_mem hmem
      exact hregistered ▸ Option.some_ne_none registration
    · intro hsome
      obtain ⟨registration, hregistered⟩ := Option.ne_none_iff_exists'.mp hsome
      exact hlists.every callback registration hregistered
  · have hlists := hlast.lists params handle hlive which
    refine hlists.order.imp_of_mem fun {first last} hfirst hlast hlt => ?_
    obtain ⟨registration, hregistered⟩ := hlists.exists_of_mem hfirst
    obtain ⟨registration', hregistered'⟩ := hlists.exists_of_mem hlast
    exact ⟨registration, registration', hregistered, hregistered', hlt registration registration' hregistered hregistered'⟩
  · obtain ⟨before, middle, answer, middle', hbefore, hstep, hanswer⟩ := callbackStep_of_run hrun hcall
    refine ⟨answer, hanswer, ?_⟩
    have hmiddle : RepresentsCallbacks (calls.take number) middle := representsCallbacks_of_run RepresentsCallbacks.init hbefore
    rw [callbackStep_trigger] at hstep
    obtain ⟨handle, hlive, hcalled⟩ := Option.map_eq_some_iff.mp hstep
    cases hcalled
    have hlists := hmiddle.lists params handle hlive which
    refine ⟨?_, fun callback udata => ?_⟩
    · rw [List.map_map]
      exact hlists.nodup
    · rw [List.mem_map]
      constructor
      · rintro ⟨entry, hentry, heq⟩
        cases heq
        obtain ⟨registration, hregistered, hudata, -⟩ := hlists.told entry hentry
        exact ⟨registration, hregistered, hudata⟩
      · rintro ⟨registration, hregistered, rfl⟩
        obtain ⟨entry, hentry, rfl⟩ := List.mem_map.mp (hlists.every callback registration hregistered)
        obtain ⟨registration', hregistered', hudata, -⟩ := hlists.told entry hentry
        rw [hregistered] at hregistered'
        cases hregistered'
        exact ⟨entry, hentry, by rw [hudata]⟩
  · obtain ⟨before, middle, answer, middle', hbefore, hstep, hanswer⟩ := callbackStep_of_run hrun hcall
    exact ⟨answer, hanswer, (representsCallbacks_of_run RepresentsCallbacks.init hbefore).destroyed hstep⟩

/-- A callback is added to a handle and its copy, the copy is deleted, and then the handle. -/
theorem callbacks_kept_of_copy : ∃ answers world,
    callbackRun (F := Nat) (U := Nat) (D := Nat) [.new, .add .monitor (some 0) 7 1 (some 5), .copy (some 0),
      .add .monitor (some 1) 8 2 none, .trigger .monitor (some 1), .delete (some 1), .delete (some 0)] {} = some (answers, world) ∧
    CallbacksKept (F := Nat) (U := Nat) (D := Nat) [.new, .add .monitor (some 0) 7 1 (some 5), .copy (some 0),
      .add .monitor (some 1) 8 2 none, .trigger .monitor (some 1), .delete (some 1), .delete (some 0)] answers world ∧
    answers.map (·.destroyed) = [[], [], [], [], [], [], [(5, 1)]] :=
  ⟨_, _, rfl, callbacks_kept rfl, rfl⟩

end Gfal2
