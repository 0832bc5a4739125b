import Gfal2.LfcOperations

/-! What the calls of an operation leave alone. Between the set-up of its environment and the restoration of it an operation does nothing
but call the library for its URLs and change the cache. -/

namespace Gfal2

open Base Exec

variable {W : Type} {services : LfcServices W} {urls : List CString} {α β : Type} {context context' : LfcContext W} {action : LfcAction}

/-- From one state to another there are only calls for the URLs, in one environment, and changes of the cache. -/
structure CallsFor (urls : List CString) (before after : LfcContext W) : Prop where
  env : after.env = before.env
  ops : after.ops = { before.ops with cacheStat := after.ops.cacheStat }
  config : after.config = before.config
  creds : after.creds = before.creds
  dirs : after.dirs = before.dirs
  kept : ∀ key item, after.ops.cacheStat.item? key = some item → before.ops.cacheStat.item? key = some item
  calls : ∃ made, after.calls = before.calls ++ made ∧ ∀ request ∈ made, request.urls = urls ∧ request.host = before.env lfcEnvVarHost

theorem CallsFor.refl (context : LfcContext W) : CallsFor urls context context where
  env := rfl
  ops := rfl
  config := rfl
  creds := rfl
  dirs := rfl
  kept _ _ h := h
  calls := ⟨[], by simp, by simp⟩

theorem CallsFor.trans (a b c : LfcContext W) (hab : CallsFor urls a b) (hbc : CallsFor urls b c) : CallsFor urls a c where
  env := hbc.env.trans hab.env
  ops := by rw [hbc.ops, hab.ops]
  config := hbc.config.trans hab.config
  creds := hbc.creds.trans hab.creds
  dirs := hbc.dirs.trans hab.dirs
  kept key item h := hab.kept key item (hbc.kept key item h)
  calls := by
    obtain ⟨first, hb, hfirst⟩ := hab.calls
    obtain ⟨last, hc, hlast⟩ := hbc.calls
    refine ⟨first ++ last, by rw [hc, hb, List.append_assoc], fun request hmem => ?_⟩
    rcases List.mem_append.mp hmem with hmem | hmem
    · exact hfirst request hmem
    · rw [← hab.env]
      exact hlast request hmem

theorem CallsFor.envUser {before after : LfcContext W} (h : CallsFor urls before after) : after.ops.envUser = before.ops.envUser := by
  rw [h.ops]

/-- A computation that only calls the library for the URLs. -/
def OnlyCalls (urls : List CString) (computation : Lfc W α) : Prop := Exec.Within (CallsFor urls) computation

namespace OnlyCalls

theorem pure (value : α) : OnlyCalls urls (Pure.pure value : Lfc W α) := Within.pure CallsFor.refl value

theorem fault (reason : Fault) : OnlyCalls urls (Exec.fault reason : Lfc W α) := Within.fault reason

theorem get : OnlyCalls urls (Exec.get : Lfc W (LfcContext W)) := Within.get CallsFor.refl

theorem bind {first : Lfc W α} {next : α → Lfc W β} (hfirst : OnlyCalls urls first) (hnext : ∀ value, OnlyCalls urls (next value)) :
    OnlyCalls urls (first >>= next) :=
  Within.bind CallsFor.trans hfirst hnext

theorem ite {p : Prop} [Decidable p] {left right : Lfc W α} (hleft : OnlyCalls urls left) (hright : OnlyCalls urls right) :
    OnlyCalls urls (if p then left else right) :=
  Within.ite (fun _ => hleft) fun _ => hright

theorem call (call : LfcCall) : OnlyCalls urls (callLfc services urls call) := by
  intro context value context' h
  cases h
  exact ⟨by rfl, by rfl, by rfl, by rfl, by rfl, fun _ _ h => h, [_], by rfl, by simp⟩

/-- What is taken from the cache or removed from it adds nothing. -/
theorem modifyCache {f : GSimpleCache LfcCachedStat → GSimpleCache LfcCachedStat}
    (hkept : ∀ cache key item, (f cache).item? key = some item → cache.item? key = some item) :
    OnlyCalls urls (modifyStatCache f : Lfc W Unit) :=
  Within.modify fun _ => ⟨rfl, rfl, rfl, rfl, rfl, hkept _, [], by simp, by simp⟩

theorem setWorld (f : LfcContext W → W) :
    OnlyCalls urls (Exec.modify fun context => { context with world := f context } : Lfc W Unit) :=
  Within.modify fun _ => ⟨rfl, rfl, rfl, rfl, rfl, fun _ _ h => h, [], by simp, by simp⟩

theorem removeKstr (key : CString) : OnlyCalls urls (modifyStatCache (·.removeKstr key) : Lfc W Unit) :=
  modifyCache fun _ _ _ h => (GSimpleCache.item?_removeKstr h).1

end OnlyCalls

/-! ### The calls of each operation -/

theorem onlyCalls_urlConverter (url : CString) : OnlyCalls [url] (urlConverter services url) := by
  rw [urlConverter]
  apply OnlyCalls.ite (.pure _)
  apply OnlyCalls.ite (.bind .get fun _ => .pure _)
  apply OnlyCalls.ite
  · cases lfcFullUrlconverter url with
    | none => exact .pure _
    | some found => exact .pure _
  · refine .bind (.bind (.call _) fun answer => ?_) fun answer => ?_
    · cases (answer : Except LfcFailure (Option CString)) with
      | error failure => exact .pure _
      | ok links =>
          dsimp only
          cases links.filter (·.length < 2048) with
          | none => exact .pure _
          | some path => exact .pure _
    · cases answer with
      | error e => exact .pure _
      | ok path => exact .pure _

theorem onlyCalls_takeCachedStat (path : CString) : OnlyCalls urls (takeCachedStat path : Lfc W (Option LfcStat)) :=
  .bind .get fun _ => .bind (.modifyCache fun _ _ _ h => GSimpleCache.item?_takeOneKstr h) fun _ => .pure _

theorem onlyCalls_gfalLfcStatg (path : CString) : OnlyCalls urls (gfalLfcStatg services urls path) :=
  .bind (.call _) fun _ => .pure _

theorem onlyCalls_gfalLfcMkdir (path : CString) (mode : ModeT) : OnlyCalls urls (gfalLfcMkdir services urls path mode) := by
  refine .bind .get fun context => .bind (.setWorld _) fun _ => .bind (.call _) fun answer => ?_
  cases (answer : Except LfcFailure Unit) with
  | ok value => exact .pure _
  | error failure => exact .pure _

theorem onlyCalls_gfalLfcMkdirRec (mode : ModeT) (walked rest : CString) :
    OnlyCalls urls (gfalLfcMkdirRec services urls mode walked rest) := by
  induction rest generalizing walked with
  | nil => exact onlyCalls_gfalLfcMkdir _ _
  | cons c rest ih =>
      rw [gfalLfcMkdirRec]
      apply OnlyCalls.ite _ (ih _)
      apply OnlyCalls.ite (onlyCalls_gfalLfcMkdir _ _)
      refine .bind (onlyCalls_gfalLfcMkdir _ _) fun answer => ?_
      cases answer with
      | none => exact ih _
      | some e => exact .ite (ih _) (.pure _)

theorem onlyCalls_makeDirectories (path : CString) (mode : ModeT) (pflag : Bool) :
    OnlyCalls urls (makeDirectories services urls path mode pflag) := by
  refine .bind (onlyCalls_gfalLfcMkdir _ _) fun failed => ?_
  cases failed with
  | none => exact .pure _
  | some e =>
      refine .ite ?_ (.pure _)
      cases path with
      | nil => exact .fault _
      | cons c rest => exact onlyCalls_gfalLfcMkdirRec _ _ _

theorem onlyCalls_gfalLfcIfceMkdirpG (path : CString) (mode : ModeT) (pflag : Bool) :
    OnlyCalls urls (gfalLfcIfceMkdirpG services urls path mode pflag) := by
  refine .bind (onlyCalls_makeDirectories _ _ _) fun failed => ?_
  cases failed with
  | none => exact .bind (.call _) fun _ => .pure _
  | some e => exact .bind (.call _) fun _ => .pure _

theorem onlyCalls_gfalLfcGetChecksum (lfn : CString) : OnlyCalls urls (gfalLfcGetChecksum services urls lfn) :=
  .bind (onlyCalls_gfalLfcStatg _) fun _ => .pure _

theorem onlyCalls_gfalLfcGetComment (lfn : CString) (size : Nat) : OnlyCalls urls (gfalLfcGetComment services urls lfn size) := by
  apply OnlyCalls.ite (.pure _)
  refine .bind (.call _) fun answer => ?_
  cases (answer : Except LfcFailure CString) with
  | error failure => exact .ite (.pure _) (.pure _)
  | ok localBuff => exact .ite (.fault _) (.pure _)

theorem onlyCalls_touchDirectory (path : CString) : OnlyCalls urls (touchDirectory services urls path) := by
  rw [touchDirectory]
  cases strrchr path '/' with
  | none => exact .pure _
  | some lastSlash =>
      refine .bind (.call _) fun answer => ?_
      cases (answer : Except LfcFailure Unit) with
      | ok value => exact .pure _
      | error failure => exact onlyCalls_gfalLfcIfceMkdirpG _ _ _

theorem onlyCalls_touchFile (path guid : CString) (info : SizeAndChecksum) :
    OnlyCalls urls (touchFile services urls path guid info) := by
  refine .bind (.call _) fun answer => ?_
  cases (answer : Except LfcFailure Unit) with
  | error failure => exact .pure _
  | ok value =>
      refine .bind (.call _) fun answer => ?_
      cases (answer : Except LfcFailure Unit) with
      | error failure => exact .pure _
      | ok value => exact .pure _

theorem onlyCalls_lfcTouch (path guid : CString) (info : SizeAndChecksum) : OnlyCalls urls (lfcTouch services urls path guid info) :=
  .bind (onlyCalls_touchDirectory _) fun _ => .ite (.pure _) (onlyCalls_touchFile _ _ _)

theorem onlyCalls_attachReplica (lfcHost : Option CString) (statg : LfcFilestatg) (fileExisted : Bool) (srcHost srcUrl : CString) :
    OnlyCalls urls (attachReplica services urls lfcHost statg fileExisted srcHost srcUrl) := by
  refine .bind (.call _) fun answer => ?_
  cases (answer : Except LfcFailure Unit) with
  | ok value => exact .pure _
  | error failure => exact .ite (.pure _) (.pure _)

theorem onlyCalls_registerReplica (lfcHost : Option CString) (lfcPath srcHost srcUrl : CString) (info : SizeAndChecksum) :
    OnlyCalls urls (registerReplica services urls lfcHost lfcPath srcHost srcUrl info) := by
  refine .bind (.call _) fun answer => ?_
  cases (answer : Except LfcFailure LfcFilestatg) with
  | ok statg =>
      dsimp only
      cases validateNewReplica statg info with
      | some e => exact .pure _
      | none => exact onlyCalls_attachReplica _ _ _ _ _
  | error failure =>
      refine .ite (.bind .get fun context => .bind (.setWorld _) fun _ => .bind (onlyCalls_lfcTouch _ _ _) fun answer => ?_) (.pure _)
      cases answer with
      | some e => exact .pure _
      | none => exact onlyCalls_attachReplica _ _ _ _ _

/-! ### Around the calls -/

/-- An operation sets up the environment, does nothing but call the library for its URLs, and restores the environment. -/
def Brackets {κ : Type} (services : LfcServices W) (url : CString) (urls : List CString)
    (resolve : Lfc W (Except (Option GError) (Option CString × κ))) (operation : Lfc W (Ret α)) : Prop :=
  ∃ failed act, operation = withLfcEnvironment services url resolve failed act ∧ ∀ target, OnlyCalls urls (act target)

variable {path : CString}

theorem brackets_chmod (mode : ModeT) :
    Brackets services path [path] (urlConverter services path) (lfcChmodG services path mode) := by
  refine ⟨_, _, by rfl, fun urlPath => .bind (.call _) fun answer => ?_⟩
  apply OnlyCalls.ite (.bind (.removeKstr _) fun _ => .pure _) (.pure _)

theorem brackets_access (mode : Int) :
    Brackets services path [path] (urlConverter services path) (lfcAccessG services path mode) :=
  ⟨_, _, rfl, fun _ => .bind (.call _) fun _ => .pure _⟩

variable {oldpath newpath : CString}

theorem brackets_rename : Brackets services oldpath [oldpath, newpath] (urlConverters services oldpath newpath)
    (lfcRenameG services oldpath newpath) := by
  refine ⟨_, _, by rfl, fun paths => .bind (.call _) fun answer => ?_⟩
  apply OnlyCalls.ite (.bind (.removeKstr _) fun _ => .pure _) (.pure _)

theorem brackets_symlink : Brackets services oldpath [oldpath, newpath] (urlConverters services oldpath newpath)
    (lfcSymlinkG services oldpath newpath) :=
  ⟨_, _, rfl, fun _ => .bind (.call _) fun _ => .pure _⟩

theorem brackets_stat : Brackets services path [path] (urlConverter services path) (lfcStatG services path) := by
  refine ⟨_, _, by rfl, fun urlPath => .bind (onlyCalls_gfalLfcStatg _) fun answer => ?_⟩
  cases answer with
  | error e => exact .pure _
  | ok statbuf => exact .pure _

theorem brackets_lstat : Brackets services path [path] (urlConverter services path) (lfcLstatG services path) := by
  refine ⟨_, _, by rfl, fun urlPath => .bind (onlyCalls_takeCachedStat _) fun taken => ?_⟩
  cases taken with
  | some st => exact .pure _
  | none =>
      refine .bind (.call _) fun answer => ?_
      cases (answer : Except LfcFailure LfcFilestat) with
      | error failure => exact .pure _
      | ok statbuf => exact .pure _

theorem brackets_mkdirp (mode : ModeT) (pflag : Bool) :
    Brackets services path [path] (urlConverter services path) (lfcMkdirpG services path mode pflag) :=
  ⟨_, _, rfl, fun _ => onlyCalls_gfalLfcIfceMkdirpG _ _ _⟩

theorem brackets_rmdir : Brackets services path [path] (urlConverter services path) (lfcRmdirG services path) := by
  refine ⟨_, _, by rfl, fun urlPath => .bind (.call _) fun answer => ?_⟩
  cases (answer : Except LfcFailure Unit) with
  | ok value => exact .pure _
  | error failure => exact .pure _

theorem brackets_checksumPart (part : LfcChecksum → CString) (bufferLength : Nat) :
    Brackets services path [path] (urlConverter services path) (lfcChecksumPart services part path bufferLength) := by
  refine ⟨_, _, by rfl, fun urlPath => .bind (onlyCalls_gfalLfcGetChecksum _) fun answer => ?_⟩
  cases answer with
  | error e => exact .pure _
  | ok checksumSt => exact .pure _

theorem brackets_getSURL : Brackets services path [path] (urlConverter services path) (lfcGetSURLG services path) := by
  refine ⟨_, _, by rfl, fun urlPath => .bind (.call _) fun answer => ?_⟩
  cases (answer : Except LfcFailure (List CString)) with
  | error failure => exact .pure _
  | ok list => exact .pure _

theorem brackets_getGuid (size : Nat) :
    Brackets services path [path] (urlConverter services path) (lfcGetxattrGetguid services path size) := by
  refine ⟨_, _, by rfl, fun urlPath => .ite (.pure _) (.bind (onlyCalls_gfalLfcStatg _) fun answer => ?_)⟩
  cases answer with
  | error e => exact .pure _
  | ok statbuf => exact .pure _

theorem brackets_getComment (size : Nat) :
    Brackets services path [path] (urlConverter services path) (lfcGetxattrComment services path size) :=
  ⟨_, _, rfl, fun _ => onlyCalls_gfalLfcGetComment _ _⟩

theorem onlyCalls_gfalLfcSetComment (lfn buff : CString) : OnlyCalls urls (gfalLfcSetComment services urls lfn buff) :=
  .ite (.pure _) (.bind (.call _) fun _ => .pure _)

theorem brackets_resolveGuid : Brackets services path [path] (urlConverter services path) (lfcResolveGuid services path) :=
  ⟨_, _, rfl, fun _ => .pure _⟩

theorem brackets_unlink : Brackets services path [path] (urlConverter services path) (lfcUnlinkG services path) := by
  refine ⟨_, _, by rfl, fun urlPath => .bind (.call _) fun answer => ?_⟩
  apply OnlyCalls.ite
  · apply OnlyCalls.ite (.pure _)
    cases (answer : DelfilesAnswer).reply with
    | none => exact .fault _
    | some reply => exact .pure _
  · exact .bind (.removeKstr _) fun _ => .pure _

theorem brackets_readlink (buffsiz : Nat) :
    Brackets services path [path] (urlConverter services path) (lfcReadlinkG services path buffsiz) := by
  refine ⟨_, _, by rfl, fun urlPath => .bind (.call _) fun answer => ?_⟩
  cases (answer : Except LfcFailure CString) with
  | error failure => exact .pure _
  | ok link => exact .ite (.fault _) (.pure _)

theorem brackets_register (srcUrl dstUrl : CString) :
    Brackets services dstUrl [dstUrl] (registerTarget services srcUrl dstUrl) (gfalLfcRegister services srcUrl dstUrl) :=
  ⟨_, _, rfl, fun _ => onlyCalls_registerReplica _ _ _ _ _⟩

theorem brackets_unregister (sfn : CString) :
    Brackets services path [path] (urlConverter services path) (gfalLfcUnregister services path sfn) := by
  refine ⟨_, _, by rfl, fun lfcPath => .bind (.call _) fun answer => ?_⟩
  cases (answer : Except LfcFailure LfcFilestatg) with
  | error failure => exact .pure _
  | ok statg =>
      refine .bind (.call _) fun deleted => ?_
      cases (deleted : Except LfcFailure Unit) <;> exact .pure _

/-! ### Setting up and restoring -/

/-- The state that `lfc_unset_environment` leaves. -/
def LfcContext.restored (context : LfcContext W) : LfcContext W :=
  { context with
    env := ((context.env.restore x509UserCert context.ops.envUser.cert).restore x509UserKey context.ops.envUser.key).restore
      x509UserProxy context.ops.envUser.proxy }

theorem lfcUnsetEnvironment_apply (context : LfcContext W) : lfcUnsetEnvironment context = .ok ((), context.restored) := rfl

theorem Environment.restore_apply (env : Environment) (name other : CString) (value : Option CString) :
    env.restore name value other = if other = name then value else env other := by
  cases value with
  | none => simp [Environment.restore, Environment.unsetenv, Function.update_apply]
  | some value => simp [Environment.restore, Environment.setenv, Function.update_apply]

/-- The credentials are what they were before the environment was set up. -/
theorem LfcContext.restored_user (context : LfcContext W) : context.restored.env.user = context.ops.envUser := by
  have hcert : x509UserCert ≠ x509UserKey ∧ x509UserCert ≠ x509UserProxy := by decide
  have hkey : x509UserKey ≠ x509UserProxy := by decide
  simp only [Environment.user, LfcContext.restored, Environment.restore_apply, if_neg hcert.1, if_neg hcert.2, if_neg hkey, if_true]

/-- The host is not restored. -/
theorem LfcContext.restored_host (context : LfcContext W) : context.restored.env lfcEnvVarHost = context.env lfcEnvVarHost := by
  have hnames : lfcEnvVarHost ≠ x509UserCert ∧ lfcEnvVarHost ≠ x509UserKey ∧ lfcEnvVarHost ≠ x509UserProxy := by decide
  simp only [LfcContext.restored, Environment.restore_apply, if_neg hnames.1, if_neg hnames.2.1, if_neg hnames.2.2]

/-- Nothing is changed but variables of the library. -/
structure SetsUp (before after : LfcContext W) : Prop where
  same : after = { before with env := after.env }
  user : after.env.user = before.env.user

theorem SetsUp.refl (context : LfcContext W) : SetsUp context context := ⟨rfl, rfl⟩

theorem SetsUp.trans (a b c : LfcContext W) (hab : SetsUp a b) (hbc : SetsUp b c) : SetsUp a c := by
  refine ⟨?_, hbc.user.trans hab.user⟩
  rw [hbc.same, hab.same]

theorem configureVariable_setsUp (predefined value : Option CString) {name : CString}
    (hname : name ≠ x509UserCert ∧ name ≠ x509UserKey ∧ name ≠ x509UserProxy) :
    Exec.Within SetsUp (configureVariable services predefined value name : Lfc W (Option GError)) := by
  cases predefined with
  | some known => exact .pure SetsUp.refl _
  | none =>
      cases value with
      | none => exact .pure SetsUp.refl _
      | some value =>
          refine .bind SetsUp.trans (.modify fun context => ⟨by rfl, ?_⟩) fun _ => .pure SetsUp.refl _
          simp [Environment.user, Environment.setenv, hname.1.symm, hname.2.1.symm, hname.2.2.symm]

theorem configureVariables_setsUp (host : Option CString) : Exec.Within SetsUp (configureVariables services host : Lfc W (Option GError)) := by
  refine .bind SetsUp.trans (.get SetsUp.refl) fun context => ?_
  refine .bind SetsUp.trans (configureVariable_setsUp _ _ (by decide)) fun failed => ?_
  cases failed with
  | some e => exact .pure SetsUp.refl _
  | none =>
      refine .bind SetsUp.trans (configureVariable_setsUp _ _ (by decide)) fun failed => ?_
      cases failed with
      | some e => exact .pure SetsUp.refl _
      | none =>
          refine .bind SetsUp.trans (configureVariable_setsUp _ _ (by decide)) fun failed => ?_
          cases failed with
          | some e => exact .pure SetsUp.refl _
          | none => exact configureVariable_setsUp _ _ (by decide)

/-- What `lfc_configure_environment` does: it saves the credentials of the environment and replaces some of them. -/
structure Configures (before after : LfcContext W) : Prop where
  same : after = { before with env := after.env, ops := { before.ops with envUser := before.env.user } }

theorem lfcConfigureEnvironment_configures (host : Option CString) (url : CString) :
    Exec.Within Configures (lfcConfigureEnvironment services host url : Lfc W (Option GError)) := by
  intro context failed context' h
  obtain ⟨failed', context₁, hvariables, h⟩ := bind_eq_ok.mp h
  obtain ⟨-, rfl⟩ := ok_inj h
  have hsets := configureVariables_setsUp host context failed' context₁ hvariables
  constructor
  dsimp only
  rw [hsets.user, hsets.same]

/-- The cases of an operation: its URLs are not converted; or the environment is set up for it, whether its calls are made or not. -/
theorem withLfcEnvironment_cases {κ : Type} {url : CString} {resolve : Lfc W (Except (Option GError) (Option CString × κ))} {failed : α}
    {act : κ → Lfc W (Ret α)} {context context' : LfcContext W} {answer : Ret α}
    (h : withLfcEnvironment services url resolve failed act context = .ok (answer, context')) :
    (∃ e context₁, resolve context = .ok (.error e, context₁) ∧ answer.val = failed ∧ context' = context₁.restored) ∨
      ∃ host target context₁ failure context₂, resolve context = .ok (.ok (host, target), context₁) ∧
        lfcConfigureEnvironment services host url context₁ = .ok (failure, context₂) ∧
        (failure ≠ none ∧ answer.val = failed ∧ context' = context₂.restored ∨
          failure = none ∧ ∃ context₃, act target context₂ = .ok (answer, context₃) ∧ context' = context₃.restored) := by
  obtain ⟨answer', last, hlast, h⟩ := bind_eq_ok.mp h
  obtain ⟨_, after, hunset, h⟩ := bind_eq_ok.mp h
  obtain ⟨rfl, rfl⟩ := ok_inj h
  rw [lfcUnsetEnvironment_apply] at hunset
  obtain ⟨-, rfl⟩ := ok_inj hunset
  obtain ⟨resolved, context₁, hresolve, hlast⟩ := bind_eq_ok.mp hlast
  cases resolved with
  | error e =>
      obtain ⟨rfl, rfl⟩ := ok_inj hlast
      exact .inl ⟨e, context₁, hresolve, by rfl, by rfl⟩
  | ok found =>
      obtain ⟨host, target⟩ := found
      obtain ⟨failure, context₂, hconfigure, hlast⟩ := bind_eq_ok.mp hlast
      refine .inr ⟨host, target, context₁, failure, context₂, hresolve, hconfigure, ?_⟩
      cases failure with
      | some e =>
          obtain ⟨rfl, rfl⟩ := ok_inj hlast
          exact .inl ⟨by simp, by rfl, by rfl⟩
      | none => exact .inr ⟨by rfl, last, hlast, by rfl⟩

/-- The cases of the opening of a directory, which keeps its environment where it succeeds. -/
theorem lfcOpendirG_cases {path : CString} {answer : Ret (Option LfcOpendirHandle)}
    (h : lfcOpendirG services path context = .ok (answer, context')) :
    (∃ e context₁, urlConverter services path context = .ok (.error e, context₁) ∧ context' = context₁.restored) ∨
      ∃ host urlPath context₁ failure context₂, urlConverter services path context = .ok (.ok (host, urlPath), context₁) ∧
        lfcConfigureEnvironment services host path context₁ = .ok (failure, context₂) ∧
        (failure ≠ none ∧ context' = context₂.restored ∨
          failure = none ∧ ∃ found context₃, callLfc services [path] (.opendirg urlPath) context₂ = .ok (found, context₃) ∧
            (context' = context₃.restored ∨
              ∃ desc, context' = { context₃ with dirs := context₃.dirs ++ [⟨desc, path, urlPath, context₃.env lfcEnvVarHost⟩] })) := by
  obtain ⟨answer', middle, hopen, h⟩ := bind_eq_ok.mp h
  obtain ⟨resolved, context₁, hresolve, hopen⟩ := bind_eq_ok.mp hopen
  cases resolved with
  | error e =>
      obtain ⟨rfl, rfl⟩ := ok_inj hopen
      obtain ⟨-, rfl⟩ := ok_inj h
      exact .inl ⟨e, context₁, hresolve, by rfl⟩
  | ok found =>
      obtain ⟨host, urlPath⟩ := found
      obtain ⟨failure, context₂, hconfigure, hopen⟩ := bind_eq_ok.mp hopen
      refine .inr ⟨host, urlPath, context₁, failure, context₂, hresolve, hconfigure, ?_⟩
      cases failure with
      | some e =>
          obtain ⟨rfl, rfl⟩ := ok_inj hopen
          obtain ⟨-, rfl⟩ := ok_inj h
          exact .inl ⟨by simp, by rfl⟩
      | none =>
          obtain ⟨opened, context₃, hcall, hopen⟩ := bind_eq_ok.mp hopen
          refine .inr ⟨by rfl, opened, context₃, hcall, ?_⟩
          cases (opened : Except LfcFailure Nat) with
          | error failure =>
              obtain ⟨rfl, rfl⟩ := ok_inj hopen
              obtain ⟨-, rfl⟩ := ok_inj h
              exact .inl (by rfl)
          | ok desc =>
              obtain ⟨rfl, rfl⟩ := ok_inj hopen
              obtain ⟨-, rfl⟩ := ok_inj h
              exact .inr ⟨desc, by rfl⟩

/-! ### What the parts of an operation keep, the operation keeps -/

section Within

variable {related : LfcContext W → LfcContext W → Prop} {κ : Type} {url : CString}

theorem withLfcEnvironment_within (htrans : ∀ a b c, related a b → related b c → related a c)
    {resolve : Lfc W (Except (Option GError) (Option CString × κ))} {failed : α} {act : κ → Lfc W (Ret α)}
    (hresolve : Exec.Within related resolve) (hconfigure : ∀ a b, Configures a b → related a b)
    (hrestored : ∀ a : LfcContext W, related a a.restored) (hact : ∀ target, Exec.Within related (act target)) :
    Exec.Within related (withLfcEnvironment services url resolve failed act) := by
  intro context answer context' h
  obtain ⟨e, context₁, hfound, -, rfl⟩ | ⟨host, target, context₁, failure, context₂, hfound, hset, hlast⟩ :=
    withLfcEnvironment_cases h
  · exact htrans _ _ _ (hresolve _ _ _ hfound) (hrestored _)
  · have hbefore := htrans _ _ _ (hresolve _ _ _ hfound) (hconfigure _ _ (lfcConfigureEnvironment_configures _ _ _ _ _ hset))
    obtain ⟨-, -, rfl⟩ | ⟨-, context₃, hcalls, rfl⟩ := hlast
    · exact htrans _ _ _ hbefore (hrestored _)
    · exact htrans _ _ _ (htrans _ _ _ hbefore (hact _ _ _ _ hcalls)) (hrestored _)

variable (hrefl : ∀ a, related a a) (htrans : ∀ a b c, related a b → related b c → related a c)
include hrefl htrans

theorem sourceStat_within (hstat : gfalLfcCheckLfnUrl url = true → Exec.Within related (lfcStatG services url))
    (hworld : gfalLfcCheckLfnUrl url = false → ∀ context : LfcContext W,
      related context { context with world := (services.sourceStat url context.world).2 }) :
    Exec.Within related (sourceStat services url) := by
  rw [sourceStat]
  apply Exec.Within.ite
  · intro hlfc
    refine .bind htrans (hstat hlfc) fun answer => ?_
    cases answer.val with
    | some st => exact .pure hrefl _
    | none => exact .pure hrefl _
  · intro hother context answer context' h
    obtain ⟨-, rfl⟩ := ok_inj h
    exact hworld (by simpa using hother) context

theorem sourceChecksum_within (type : CString)
    (hchecksum : gfalLfcCheckLfnUrl url = true → Exec.Within related (lfcChecksumG services url 33))
    (hworld : gfalLfcCheckLfnUrl url = false → ∀ context : LfcContext W,
      related context { context with world := (services.sourceChecksum url type context.world).2 }) :
    Exec.Within related (sourceChecksum services url type) := by
  rw [sourceChecksum]
  apply Exec.Within.ite
  · exact fun hlfc => .bind htrans (hchecksum hlfc) fun _ => .pure hrefl _
  · intro hother context answer context' h
    obtain ⟨-, rfl⟩ := ok_inj h
    exact hworld (by simpa using hother) context

theorem replicaChecksum_within
    (hchecksum : ∀ type, Exec.Within related (sourceChecksum services url type)) (info : SizeAndChecksum) (types : List CString) :
    Exec.Within related (replicaChecksum services url info types) := by
  induction types with
  | nil => exact .pure hrefl _
  | cons type types ih =>
      refine .bind htrans (hchecksum _) fun answer => ?_
      cases answer with
      | none => exact ih
      | some value => exact .pure hrefl _

theorem getReplicaInfo_within
    (hstat : Exec.Within related (sourceStat services url)) (hchecksum : ∀ type, Exec.Within related (sourceChecksum services url type)) :
    Exec.Within related (getReplicaInfo services url) := by
  refine .bind htrans hstat fun answer => ?_
  cases answer with
  | error e => exact .pure hrefl _
  | ok size => exact .bind htrans (replicaChecksum_within hrefl htrans hchecksum _ _) fun _ => .pure hrefl _

theorem registerTarget_within {dstUrl : CString}
    (hconvert : Exec.Within related (urlConverter services dstUrl)) (hinfo : Exec.Within related (getReplicaInfo services url)) :
    Exec.Within related (registerTarget services url dstUrl) := by
  refine .bind htrans hconvert fun converted => ?_
  cases converted with
  | error e => exact .pure hrefl _
  | ok parts =>
      dsimp only
      cases getHost url with
      | error e => exact .pure hrefl _
      | ok srcHost =>
          refine .bind htrans hinfo fun answer => ?_
          cases answer with
          | error e => exact .pure hrefl _
          | ok info => exact .pure hrefl _

end Within

/-! ### Steps -/

def LfcAction.singleUrl : LfcAction → Option CString
  | .chmod path _ | .access path _ | .stat path | .lstat path | .mkdirp path _ _ | .rmdir path | .checksum path _ | .checksumType path _
  | .getSURL path | .getGuid path _ | .getComment path _ | .setComment path _ | .resolveGuid path | .unlink path | .readlink path _
  | .unregister path _ => some path
  | _ => none

/-- The step of an operation is that of its computation. -/
theorem perform_ok {computation : Lfc W α} (h : (do let _ ← computation : Lfc W Unit) context = .ok ((), context')) :
    ∃ answer, computation context = .ok (answer, context') := by
  obtain ⟨answer, middle, hrun, h⟩ := bind_eq_ok.mp h
  obtain ⟨-, rfl⟩ := ok_inj h
  exact ⟨answer, hrun⟩

theorem lfcStep_ok (h : lfcStep services action context = some context') :
    lfcEnabled context action = true ∧ lfcPerform services action context = .ok ((), context') := by
  rw [lfcStep] at h
  split at h
  next henabled =>
    refine ⟨henabled, ?_⟩
    cases hrun : lfcPerform services action context with
    | error reason => simp [hrun, Except.toOption] at h
    | ok last =>
        obtain ⟨⟨⟩, last⟩ := last
        simp only [hrun, Except.toOption, Option.map_some, Option.some.injEq] at h
        rw [h]
  next => cases h

/-- The step of an operation on one URL. -/
theorem perform_single {url : CString} (haction : action.singleUrl = some url)
    (hrun : lfcPerform services action context = .ok ((), context')) :
    ∃ (α : Type) (operation : Lfc W (Ret α)) (answer : Ret α),
      Brackets services url [url] (urlConverter services url) operation ∧ operation context = .ok (answer, context') := by
  have hsingle {α : Type} {operation : Lfc W (Ret α)} {path : CString} (hpath : some path = some url)
      (hbrackets : Brackets services path [path] (urlConverter services path) operation)
      (h : (do let _ ← operation : Lfc W Unit) context = .ok ((), context')) :
      ∃ (α : Type) (operation : Lfc W (Ret α)) (answer : Ret α),
        Brackets services url [url] (urlConverter services url) operation ∧ operation context = .ok (answer, context') := by
    obtain rfl := Option.some.inj hpath
    obtain ⟨answer, hop⟩ := perform_ok h
    exact ⟨α, operation, answer, hbrackets, hop⟩
  cases action with
  | chmod path mode => exact hsingle haction (brackets_chmod mode) hrun
  | access path mode => exact hsingle haction (brackets_access mode) hrun
  | stat path => exact hsingle haction brackets_stat hrun
  | lstat path => exact hsingle haction brackets_lstat hrun
  | mkdirp path mode pflag => exact hsingle haction (brackets_mkdirp mode pflag) hrun
  | rmdir path => exact hsingle haction brackets_rmdir hrun
  | checksum path bufferLength => exact hsingle haction (brackets_checksumPart _ bufferLength) hrun
  | checksumType path bufferLength => exact hsingle haction (brackets_checksumPart _ bufferLength) hrun
  | getSURL path => exact hsingle haction brackets_getSURL hrun
  | getGuid path size => exact hsingle haction (brackets_getGuid size) hrun
  | getComment path size => exact hsingle haction (brackets_getComment size) hrun
  | setComment path value =>
      obtain ⟨answer, hop⟩ := perform_ok hrun
      obtain ⟨answer', middle, hcomment, hop⟩ := bind_eq_ok.mp hop
      obtain ⟨-, rfl⟩ := ok_inj hop
      obtain rfl := Option.some.inj haction
      exact ⟨Int, _, answer', ⟨_, _, by rfl, fun _ => onlyCalls_gfalLfcSetComment _ _⟩, hcomment⟩
  | resolveGuid guid => exact hsingle haction brackets_resolveGuid hrun
  | unlink path => exact hsingle haction brackets_unlink hrun
  | readlink path buffsiz => exact hsingle haction (brackets_readlink buffsiz) hrun
  | unregister url sfn => exact hsingle haction (brackets_unregister sfn) hrun
  | _ => cases haction

/-- A library that finds nothing. -/
def emptyServices (W : Type) : LfcServices W where
  answer _ call world := (call.fails ⟨ENOENT, 0⟩, world)
  sstrerror _ := []
  strerror _ := []
  esecBadCredentials := 2702
  configError _ _ := ⟨[], 3, []⟩
  generateGuid world := ([], world)
  sourceStat _ world := (.error ⟨[], ENOENT, []⟩, world)
  sourceChecksum _ _ world := (none, world)

end Gfal2
