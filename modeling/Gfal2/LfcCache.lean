import Gfal2.LfcHosts

/-! The stat cache of the LFC plugin against the catalogues. An item is kept under its path alone, from the host whose directory was read,
until it has been given out, or the path is removed, renamed or changed under the very same spelling. -/

namespace Gfal2

open Base Exec

variable {W : Type} (services : LfcServices W) (lstatAt : Option CString → CString → W → Except LfcFailure LfcFilestat)

/-! ### When the cache is transparent -/

/-- What is taken for granted of the library: `lfc_lstat` answers by the host, the path and the state of the catalogues, a call that fails
changes nothing, and the search for the path of an identifier does not either. -/
structure LstatLaws : Prop where
  lstat : ∀ env path world, (services.answer env (.lstat path) world).1 = lstatAt (env lfcEnvVarHost) path world
  chmod : ∀ env path mode world failure host other, (services.answer env (.chmod path mode) world).1 = .error failure →
    lstatAt host other (services.answer env (.chmod path mode) world).2 = lstatAt host other world
  rename : ∀ env path newPath world failure host other, (services.answer env (.rename path newPath) world).1 = .error failure →
    lstatAt host other (services.answer env (.rename path newPath) world).2 = lstatAt host other world
  delfilesbyname : ∀ env path world answer host other, (services.answer env (.delfilesbyname path) world).1 = answer →
    answer.failed = true ∨ answer.reply.any (· ≠ 0) = true →
      lstatAt host other (services.answer env (.delfilesbyname path) world).2 = lstatAt host other world
  getlinks : ∀ env guid world host other,
    lstatAt host other (services.answer env (.getlinks guid) world).2 = lstatAt host other world

/-- The path that a URL of the catalogue is converted to. -/
def lfcPath (url : CString) : Option CString :=
  if strncmp url (lit "lfn") 3 = 0 then some (lfcUrlconverter url gfalLfcPrefix)
  else if strncmp url (lit "lfc") 3 = 0 then (lfcFullUrlconverter url).map Prod.snd
  else none

/-- The path whose item an action takes out of the cache where it succeeds. -/
def LfcAction.forgets : LfcAction → Option CString
  | .chmod path _ | .unlink path | .rename path _ => lfcPath path
  | _ => none

/-- The host of a URL of the catalogue: that of `lfc://host/path`, or else the one that was set when the plugin was loaded, the configured
one, or the one that is left in the environment. -/
def lfcUrlHost (context : LfcContext W) (url : CString) : Option CString :=
  if strncmp url (lit "lfc") 3 = 0 then (lfcFullUrlconverter url).map Prod.fst
  else (context.ops.lfcEndpointPredefined.or (context.config.optString lfcEnvVarGroupPlugin lfcEnvVarHost)).or (context.env lfcEnvVarHost)

/-- A directory that is read reports for an entry what `lfc_lstat` does. -/
def ReportsEntry (action : LfcAction) (context : LfcContext W) : Prop :=
  ∀ oh name filestat, action = .readdir oh →
    (services.answer context.env (.readdirx oh.desc) context.world).1 = .ok (some (name, filestat)) →
      lstatAt oh.host (oh.path ++ '/' :: name) (services.answer context.env (.readdirx oh.desc) context.world).2 = .ok filestat

/-- The status of no path that is kept changes but that of the path an action forgets, an item is asked for with a URL of the host it was
read from, and the path of an entry is not cut. -/
structure CacheSafe (action : LfcAction) (context : LfcContext W) : Prop where
  unchanged : ∀ context' path item, lfcStep services action context = some context' → context.ops.cacheStat.item? path = some item →
    action.forgets ≠ some path → lstatAt item.host path context'.world = lstatAt item.host path context.world
  host : ∀ url path item, action = .lstat url → lfcPath url = some path → context.ops.cacheStat.item? path = some item →
    item.host = lfcUrlHost context url
  whole : ∀ oh name filestat, action = .readdir oh →
    (services.answer context.env (.readdirx oh.desc) context.world).1 = .ok (some (name, filestat)) →
      (oh.path ++ '/' :: name).length ≤ 2047

/-- What is answered for a URL from the cache is what the library answers at the host of the URL. -/
def LstatRight (url : CString) (context : LfcContext W) : Prop :=
  ∀ path item st err context', lfcPath url = some path → context.ops.cacheStat.item? path = some item →
    lfcLstatG services url context = .ok (⟨some st, err⟩, context') →
      ∀ env, env lfcEnvVarHost = lfcUrlHost context url →
        ∃ filestat, (services.answer env (.lstat path) context.world).1 = .ok filestat ∧ st = gfalLfcConvert filestat

variable {services lstatAt} {α : Type} {action : LfcAction} {context context' : LfcContext W} {url : CString} {answer : Ret Int}

/-- Every item is the status of its path at the host it was read from. -/
def Fresh (lstatAt : Option CString → CString → W → Except LfcFailure LfcFilestat) (context : LfcContext W) : Prop :=
  ∀ path item, context.ops.cacheStat.item? path = some item →
    ∃ filestat, lstatAt item.host path context.world = .ok filestat ∧ item.st = gfalLfcConvert filestat

/-! ### What is kept -/

def AddsNothing (before after : LfcContext W) : Prop :=
  ∀ path item, after.ops.cacheStat.item? path = some item → before.ops.cacheStat.item? path = some item

theorem AddsNothing.refl (context : LfcContext W) : AddsNothing context context := fun _ _ h => h

theorem AddsNothing.trans (a b c : LfcContext W) (hab : AddsNothing a b) (hbc : AddsNothing b c) : AddsNothing a c :=
  fun path item h => hab path item (hbc path item h)

theorem OnlyCalls.addsNothing {urls : List CString} {computation : Lfc W α} (h : OnlyCalls urls computation) :
    Exec.Within AddsNothing computation :=
  fun state => (h state).mono fun _ _ hcalls => hcalls.kept

theorem Configures.addsNothing (h : Configures context context') : AddsNothing context context' := by
  rw [h.same]
  exact .refl _

theorem Brackets.addsNothing {κ : Type} {urls : List CString} {resolve : Lfc W (Except (Option GError) (Option CString × κ))}
    {operation : Lfc W (Ret α)} (hbrackets : Brackets services url urls resolve operation) (hresolve : Exec.Within AddsNothing resolve) :
    Exec.Within AddsNothing operation := by
  obtain ⟨failed, act, rfl, hact⟩ := hbrackets
  exact withLfcEnvironment_within AddsNothing.trans hresolve (fun _ _ => Configures.addsNothing) (fun _ => .refl _) fun target =>
    (hact target).addsNothing

theorem urlConverter_addsNothing (url : CString) : Exec.Within AddsNothing (urlConverter services url) :=
  (onlyCalls_urlConverter url).addsNothing

theorem urlConverters_addsNothing (oldpath newpath : CString) : Exec.Within AddsNothing (urlConverters services oldpath newpath) := by
  intro context resolved context' h
  obtain ⟨converted, middle, hold, ⟨rfl, -⟩ | ⟨found, path, converted', -, hnew, -⟩⟩ := urlConverters_cases h
  · exact urlConverter_addsNothing _ _ _ _ hold
  · exact (urlConverter_addsNothing _ _ _ _ hold).trans _ _ _ (urlConverter_addsNothing _ _ _ _ hnew)

theorem registerTarget_addsNothing (srcUrl dstUrl : CString) : Exec.Within AddsNothing (registerTarget services srcUrl dstUrl) := by
  apply registerTarget_within AddsNothing.refl AddsNothing.trans (urlConverter_addsNothing _)
  apply getReplicaInfo_within AddsNothing.refl AddsNothing.trans
  · exact sourceStat_within AddsNothing.refl AddsNothing.trans (fun _ => brackets_stat.addsNothing (urlConverter_addsNothing _))
      fun _ _ => .refl _
  · exact fun type => sourceChecksum_within AddsNothing.refl AddsNothing.trans type
      (fun _ => (brackets_checksumPart _ _).addsNothing (urlConverter_addsNothing _)) fun _ _ => .refl _

theorem opendir_addsNothing (path : CString) : Exec.Within AddsNothing (lfcOpendirG services path) := by
  intro context answer context' h
  obtain ⟨e, context₁, hresolve, rfl⟩ | ⟨found, urlPath, context₁, failure, context₂, hresolve, hconfigure, hlast⟩ := lfcOpendirG_cases h
  · exact urlConverter_addsNothing path context _ context₁ hresolve
  · have hbefore := (urlConverter_addsNothing path context _ _ hresolve).trans _ _ _
      (lfcConfigureEnvironment_configures _ _ _ _ _ hconfigure).addsNothing
    obtain ⟨-, rfl⟩ | ⟨-, opened, context₃, hcall, hend⟩ := hlast
    · exact hbefore
    · have hcalled := hbefore.trans _ _ _ ((OnlyCalls.call _).addsNothing context₂ _ context₃ hcall)
      rcases hend with rfl | ⟨desc, rfl⟩
      · exact hcalled
      · exact hcalled

theorem closedir_addsNothing (oh : LfcOpendirHandle) : Exec.Within AddsNothing (lfcClosedirG services oh) := by
  intro context answer context' h
  obtain ⟨closed, middle, hcall, h⟩ := bind_eq_ok.mp h
  have hcalled := (OnlyCalls.call _).addsNothing context _ middle hcall
  split at h
  · obtain ⟨-, rfl⟩ := ok_inj h
    exact hcalled
  · obtain ⟨-, rfl⟩ := ok_inj h
    exact hcalled

/-- Only the reading of a directory adds to the cache. -/
theorem addsNothing_step (hread : ∀ oh, action ≠ .readdir oh) (hrun : lfcPerform services action context = .ok ((), context')) :
    AddsNothing context context' := by
  cases action with
  | setConfig config =>
      obtain ⟨-, rfl⟩ := ok_inj hrun
      exact .refl _
  | setCreds creds =>
      obtain ⟨-, rfl⟩ := ok_inj hrun
      exact .refl _
  | readdir oh => exact absurd (by rfl) (hread oh)
  | closedir oh =>
      obtain ⟨answer, hop⟩ := perform_ok hrun
      exact closedir_addsNothing oh _ _ _ hop
  | opendir path =>
      obtain ⟨answer, hop⟩ := perform_ok hrun
      exact opendir_addsNothing path _ _ _ hop
  | rename oldpath newpath =>
      obtain ⟨answer, hop⟩ := perform_ok hrun
      exact brackets_rename.addsNothing (urlConverters_addsNothing _ _) _ _ _ hop
  | symlink oldpath newpath =>
      obtain ⟨answer, hop⟩ := perform_ok hrun
      exact brackets_symlink.addsNothing (urlConverters_addsNothing _ _) _ _ _ hop
  | register srcUrl dstUrl =>
      obtain ⟨answer, hop⟩ := perform_ok hrun
      exact (brackets_register _ _).addsNothing (registerTarget_addsNothing _ _) _ _ _ hop
  | _ =>
      obtain ⟨α, operation, answer, hbrackets, hop⟩ := perform_single (by rfl) hrun
      exact hbrackets.addsNothing (urlConverter_addsNothing _) _ _ _ hop

/-! ### What is forgotten -/

/-- A path of which the item is still kept has the status it had. -/
def Settles (lstatAt : Option CString → CString → W → Except LfcFailure LfcFilestat) (path : CString) (before after : LfcContext W) : Prop :=
  (∃ item, after.ops.cacheStat.item? path = some item) → ∀ host, lstatAt host path after.world = lstatAt host path before.world

variable {path : CString}

/-- The conversion of a URL of the catalogue changes nothing and leads to its path. -/
theorem urlConverter_path (hpath : lfcPath url = some path)
    {resolved : Except (Option GError) (Option CString × CString)} (h : urlConverter services url context = .ok (resolved, context')) :
    context' = context ∧ ∀ found target, resolved = .ok (found, target) → target = path := by
  rw [urlConverter] at h
  rw [lfcPath] at hpath
  split at h
  · obtain ⟨rfl, rfl⟩ := ok_inj h
    exact ⟨by rfl, fun _ _ hresolved => by cases hresolved⟩
  · split at h
    next hlfn =>
      rw [if_pos hlfn] at hpath
      obtain ⟨rfl, rfl⟩ := ok_inj h
      refine ⟨by rfl, fun found target hresolved => ?_⟩
      rw [← (ok_inj hresolved).2]
      exact Option.some.inj hpath
    next hlfn =>
      rw [if_neg hlfn] at hpath
      split at h
      next hlfc =>
        rw [if_pos hlfc] at hpath
        obtain ⟨parts, hconvert, rfl⟩ := Option.map_eq_some_iff.mp hpath
        simp only [hconvert] at h
        obtain ⟨rfl, rfl⟩ := ok_inj h
        refine ⟨by rfl, fun found target hresolved => ?_⟩
        exact (ok_inj hresolved).2.symm
      next hlfc =>
        rw [if_neg hlfc] at hpath
        cases hpath

/-- The conversion of any URL changes the status of no path. -/
theorem urlConverter_lstatAt (hlaws : LstatLaws services lstatAt) {resolved : Except (Option GError) (Option CString × CString)}
    (h : urlConverter services url context = .ok (resolved, context')) (host : Option CString) (path : CString) :
    lstatAt host path context'.world = lstatAt host path context.world := by
  rw [urlConverter] at h
  split at h
  · obtain ⟨-, rfl⟩ := ok_inj h
    rfl
  · split at h
    · obtain ⟨-, rfl⟩ := ok_inj h
      rfl
    · split at h
      · cases hconvert : lfcFullUrlconverter url with
        | none =>
            rw [hconvert] at h
            obtain ⟨-, rfl⟩ := ok_inj h
            rfl
        | some parts =>
            rw [hconvert] at h
            obtain ⟨-, rfl⟩ := ok_inj h
            rfl
      · obtain ⟨answer, middle, hlinks, h⟩ := bind_eq_ok.mp h
        have hmiddle : context' = middle := by
          cases answer with
          | error e => exact (ok_inj h).2.symm
          | ok path' => exact (ok_inj h).2.symm
        obtain ⟨links, last, hcall, hlinks⟩ := bind_eq_ok.mp hlinks
        have hlast : middle = last := by
          cases (links : Except LfcFailure (Option CString)) with
          | error failure => exact (ok_inj hlinks).2.symm
          | ok found =>
              dsimp only at hlinks
              cases hfound : found.filter (·.length < 2048) with
              | none =>
                  rw [hfound] at hlinks
                  exact (ok_inj hlinks).2.symm
              | some path' =>
                  rw [hfound] at hlinks
                  exact (ok_inj hlinks).2.symm
        rw [hmiddle, hlast]
        obtain ⟨-, rfl⟩ := ok_inj hcall
        exact hlaws.getlinks _ _ _ _ _

/-- An operation settles a path if its calls do. -/
theorem withLfcEnvironment_settles {κ : Type} {resolve : Lfc W (Except (Option GError) (Option CString × κ))} {failed : α}
    {act : κ → Lfc W (Ret α)} {answer : Ret α}
    (hresolve : ∀ resolved context₁, resolve context = .ok (resolved, context₁) →
      ∀ host, lstatAt host path context₁.world = lstatAt host path context.world)
    (hact : ∀ found target context₁, resolve context = .ok (.ok (found, target), context₁) →
      ∀ context₂ answer context₃, act target context₂ = .ok (answer, context₃) → Settles lstatAt path context₂ context₃)
    (h : withLfcEnvironment services url resolve failed act context = .ok (answer, context')) : Settles lstatAt path context context' := by
  intro hkept host
  obtain ⟨e, context₁, hfound, -, rfl⟩ | ⟨found, target, context₁, failure, context₂, hfound, hconfigure, hlast⟩ :=
    withLfcEnvironment_cases h
  · exact hresolve _ context₁ hfound host
  · have hworld : context₂.world = context₁.world := by rw [(lfcConfigureEnvironment_configures _ _ _ _ _ hconfigure).same]
    obtain ⟨-, -, rfl⟩ | ⟨-, context₃, hcalls, rfl⟩ := hlast
    · show lstatAt host path context₂.world = _
      rw [hworld]
      exact hresolve _ _ hfound host
    · calc lstatAt host path context₃.world = lstatAt host path context₂.world := hact _ _ _ hfound _ _ _ hcalls hkept host
        _ = lstatAt host path context₁.world := by rw [hworld]
        _ = lstatAt host path context.world := hresolve _ _ hfound host

theorem item?_removeKstr_self (cache : GSimpleCache LfcCachedStat) (key : CString) : (cache.removeKstr key).item? key = none := by
  rw [GSimpleCache.removeKstr, GSimpleCache.item?, AList.lookup_erase, Option.map_none]

section Settled

variable (hlaws : LstatLaws services lstatAt)
include hlaws

theorem chmod_settles {mode : ModeT}
    (hpath : lfcPath url = some path) (h : lfcChmodG services url mode context = .ok (answer, context')) :
    Settles lstatAt path context context' := by
  refine withLfcEnvironment_settles (fun resolved context₁ hresolve host => urlConverter_lstatAt hlaws hresolve host path) ?_ h
  intro found target context₁ hresolve context₂ answer context₃ hcalls
  obtain rfl := (urlConverter_path hpath hresolve).2 _ _ (by rfl)
  obtain ⟨called, middle, hcall, hcalls⟩ := bind_eq_ok.mp hcalls
  obtain ⟨hanswer, rfl⟩ := ok_inj hcall
  cases hcalled : (called : Except LfcFailure Unit) with
  | error failure =>
      subst hcalled
      obtain ⟨-, rfl⟩ := ok_inj hcalls
      exact fun _ host => hlaws.chmod _ _ _ _ failure host _ hanswer
  | ok value =>
      subst hcalled
      obtain ⟨-, rfl⟩ := ok_inj hcalls
      rintro ⟨item, hitem⟩
      exact absurd (hitem.symm.trans (item?_removeKstr_self _ _)) (by simp)

theorem rename_settles {newpath : CString}
    (hpath : lfcPath url = some path) (h : lfcRenameG services url newpath context = .ok (answer, context')) :
    Settles lstatAt path context context' := by
  refine withLfcEnvironment_settles (fun resolved context₁ hresolve host => ?_) ?_ h
  · obtain ⟨converted, middle, hold, ⟨rfl, -⟩ | ⟨found, path', converted', -, hnew, -⟩⟩ := urlConverters_cases hresolve
    · exact urlConverter_lstatAt hlaws hold host path
    · exact (urlConverter_lstatAt hlaws hnew host path).trans (urlConverter_lstatAt hlaws hold host path)
  · intro found paths context₁ hresolve context₂ answer context₃ hcalls
    have hfirst : paths.1 = path := by
      obtain ⟨converted, middle, hold, ⟨-, e, herror⟩ | ⟨found', path', converted', rfl, -, hfound⟩⟩ := urlConverters_cases hresolve
      · cases herror
      · rw [(hfound _ _ (by rfl)).2]
        exact (urlConverter_path hpath hold).2 _ _ (by rfl)
    obtain ⟨called, middle, hcall, hcalls⟩ := bind_eq_ok.mp hcalls
    obtain ⟨hanswer, rfl⟩ := ok_inj hcall
    cases hcalled : (called : Except LfcFailure Unit) with
    | error failure =>
        subst hcalled
        obtain ⟨-, rfl⟩ := ok_inj hcalls
        exact fun _ host => hlaws.rename _ _ _ _ failure host _ hanswer
    | ok value =>
        subst hcalled
        obtain ⟨-, rfl⟩ := ok_inj hcalls
        rintro ⟨item, hitem⟩
        rw [← hfirst] at hitem
        exact absurd (hitem.symm.trans (item?_removeKstr_self _ _)) (by simp)

theorem unlink_settles (hpath : lfcPath url = some path) (h : lfcUnlinkG services url context = .ok (answer, context')) :
    Settles lstatAt path context context' := by
  refine withLfcEnvironment_settles (fun resolved context₁ hresolve host => urlConverter_lstatAt hlaws hresolve host path) ?_ h
  intro found target context₁ hresolve context₂ answer context₃ hcalls
  obtain rfl := (urlConverter_path hpath hresolve).2 _ _ (by rfl)
  obtain ⟨called, middle, hcall, hcalls⟩ := bind_eq_ok.mp hcalls
  obtain ⟨hanswer, rfl⟩ := ok_inj hcall
  split at hcalls
  next hfailed =>
    have hworld : context₃.world = (services.answer context₂.env (.delfilesbyname target) context₂.world).2 := by
      split at hcalls
      · obtain ⟨-, rfl⟩ := ok_inj hcalls
        rfl
      · cases hreply : DelfilesAnswer.reply called with
        | none => simp [hreply] at hcalls
        | some reply =>
            rw [hreply] at hcalls
            obtain ⟨-, rfl⟩ := ok_inj hcalls
            rfl
    intro _ host
    rw [hworld]
    exact hlaws.delfilesbyname _ _ _ called host _ hanswer hfailed
  next =>
    obtain ⟨-, rfl⟩ := ok_inj hcalls
    rintro ⟨item, hitem⟩
    exact absurd (hitem.symm.trans (item?_removeKstr_self _ _)) (by simp)

/-! ### Runs -/

/-- A path that an action forgets is settled by it. -/
theorem forgets_settles (hforgets : action.forgets = some path)
    (hrun : lfcPerform services action context = .ok ((), context')) : Settles lstatAt path context context' := by
  cases action with
  | chmod url mode =>
      obtain ⟨answer, hop⟩ := perform_ok hrun
      exact chmod_settles hlaws hforgets hop
  | rename oldpath newpath =>
      obtain ⟨answer, hop⟩ := perform_ok hrun
      exact rename_settles hlaws hforgets hop
  | unlink url =>
      obtain ⟨answer, hop⟩ := perform_ok hrun
      exact unlink_settles hlaws hforgets hop
  | _ => cases hforgets

end Settled

/-- The entry of a directory that is read is kept with the status that is reported for it. -/
theorem readdir_fresh {oh : LfcOpendirHandle} {answer : Ret (Option (CString × LfcStat))} (hfresh : Fresh lstatAt context)
    (hreports : ReportsEntry services lstatAt (.readdir oh) context)
    (hwhole : ∀ name filestat, (services.answer context.env (.readdirx oh.desc) context.world).1 = .ok (some (name, filestat)) →
      (oh.path ++ '/' :: name).length ≤ 2047)
    (h : lfcReaddirppG services oh context = .ok (answer, context'))
    (hunchanged : ∀ path item, context.ops.cacheStat.item? path = some item →
      lstatAt item.host path context'.world = lstatAt item.host path context.world) : Fresh lstatAt context' := by
  have hkept (path : CString) (item : LfcCachedStat) (hitem : context.ops.cacheStat.item? path = some item) :
      ∃ filestat, lstatAt item.host path context'.world = .ok filestat ∧ item.st = gfalLfcConvert filestat := by
    rw [hunchanged path item hitem]
    exact hfresh path item hitem
  obtain ⟨read, middle, hcall, h⟩ := bind_eq_ok.mp h
  obtain ⟨hanswer, rfl⟩ := ok_inj hcall
  cases hread : (read : Except LfcFailure (Option (CString × LfcFilestat))) with
  | error failure =>
      subst hread
      obtain ⟨-, rfl⟩ := ok_inj h
      exact fun path item hitem => hkept path item hitem
  | ok found =>
      subst hread
      cases found with
      | none =>
          obtain ⟨-, rfl⟩ := ok_inj h
          exact fun path item hitem => hkept path item hitem
      | some entry =>
          obtain ⟨name, filestat⟩ := entry
          obtain ⟨-, rfl⟩ := ok_inj h
          intro path item hitem
          rcases GSimpleCache.item?_addItemKstr hitem with hbefore | ⟨-, rfl, rfl⟩
          · exact hkept path item hbefore
          · refine ⟨filestat, ?_, by rfl⟩
            rw [direntPath, List.take_of_length_le (hwhole name filestat hanswer)]
            exact hreports oh name filestat (by rfl) hanswer

/-- A safe step keeps what is in the cache right. -/
theorem fresh_step (hlaws : LstatLaws services lstatAt) (hsafe : CacheSafe services lstatAt action context)
    (hreports : ReportsEntry services lstatAt action context) (hfresh : Fresh lstatAt context)
    (hstep : lfcStep services action context = some context') : Fresh lstatAt context' := by
  obtain ⟨-, hrun⟩ := lfcStep_ok hstep
  have hother (hread : ∀ oh, action ≠ .readdir oh) : Fresh lstatAt context' := by
    intro path item hitem
    have hbefore := addsNothing_step hread hrun path item hitem
    have hsame : lstatAt item.host path context'.world = lstatAt item.host path context.world := by
      by_cases hforgets : action.forgets = some path
      · exact forgets_settles hlaws hforgets hrun ⟨item, hitem⟩ item.host
      · exact hsafe.unchanged context' path item hstep hbefore hforgets
    rw [hsame]
    exact hfresh path item hbefore
  cases action with
  | readdir oh =>
      obtain ⟨answer, hop⟩ := perform_ok hrun
      refine readdir_fresh hfresh hreports (fun name filestat => hsafe.whole oh name filestat (by rfl)) hop ?_
      intro path item hitem
      exact hsafe.unchanged context' path item hstep hitem (by simp [LfcAction.forgets])
  | _ => exact hother (by simp)

/-- A status that is given out of the cache is the one that was kept. -/
theorem lstat_kept {item : LfcCachedStat} {st : LfcStat} {err : Option GError} (hpath : lfcPath url = some path)
    (hitem : context.ops.cacheStat.item? path = some item)
    (h : lfcLstatG services url context = .ok (⟨some st, err⟩, context')) : st = item.st := by
  obtain ⟨e, context₁, -, hfailed, -⟩ | ⟨found, target, context₁, failure, context₂, hfound, hconfigure, hlast⟩ :=
    withLfcEnvironment_cases h
  · cases hfailed
  · obtain ⟨-, hfailed, -⟩ | ⟨-, context₃, hact, -⟩ := hlast
    · cases hfailed
    · obtain ⟨rfl, htarget⟩ := urlConverter_path hpath hfound
      obtain rfl := htarget found target (by rfl)
      have hcache : context₂.ops.cacheStat = context₁.ops.cacheStat := by
        rw [(lfcConfigureEnvironment_configures _ _ _ _ _ hconfigure).same]
      obtain ⟨taken, middle, htake, hact⟩ := bind_eq_ok.mp hact
      have htaken : taken = some item.st := by
        rw [takeCachedStat, get_bind_apply] at htake
        obtain ⟨_, last, -, htake⟩ := bind_eq_ok.mp htake
        rw [← (ok_inj htake).1, hcache, GSimpleCache.takeOneKstr_fst, hitem, Option.map_some]
      subst htaken
      obtain ⟨hanswer, -⟩ := ok_inj hact
      exact (Option.some.inj (Ret.mk.inj hanswer).1).symm

/-- An item that is right is given out as the library would answer. -/
theorem lstatRight_of_fresh (hlaws : LstatLaws services lstatAt) (hsafe : CacheSafe services lstatAt (.lstat url) context)
    (hfresh : Fresh lstatAt context) : LstatRight services url context := by
  intro path item st err context' hpath hitem h env henv
  obtain ⟨filestat, hlstat, hst⟩ := hfresh path item hitem
  refine ⟨filestat, ?_, (lstat_kept hpath hitem h).trans hst⟩
  rw [hlaws.lstat, henv, ← hsafe.host url path item (by rfl) hpath hitem]
  exact hlstat

/-- In every run in which each step is safe, every status that is given out of the cache is the one the library would give. -/
theorem run_lstat_transparent {env : Environment} {config : Config} {creds : CredMapping} {world : W} {actions : List LfcAction}
    {last : LfcContext W} (hlaws : LstatLaws services lstatAt)
    (hrun : Run (lfcStep services) (fun action context => CacheSafe services lstatAt action context ∧ ReportsEntry services lstatAt action context)
      (lfcPluginInit env config creds world) actions last) :
    Run (lfcStep services) (fun action context => ∀ url, action = .lstat url → LstatRight services url context)
      (lfcPluginInit env config creds world) actions last := by
  generalize hfirst : lfcPluginInit env config creds world = first at hrun ⊢
  have hfresh : Fresh lstatAt first := by
    intro path item hitem
    rw [← hfirst] at hitem
    exact absurd (GSimpleCache.item?_empty.symm.trans hitem) (by simp)
  clear hfirst
  induction hrun with
  | nil state => exact .nil state
  | cons hsafe hstep _ ih =>
      refine .cons ?_ hstep (ih (fresh_step hlaws hsafe.1 hsafe.2 hfresh hstep))
      rintro url rfl
      exact lstatRight_of_fresh hlaws hsafe.1 hfresh

/-! ### A directory with one entry -/

section Directory

private def entryStat : LfcFilestat := { filemode := 0o40755, nlink := 0 }

/-- The status of `/d/f`, which may have been removed. -/
private def entryLstat : Option CString → CString → Bool → Except LfcFailure LfcFilestat
  | _, path, removed => if path = lit "/d/f" ∧ removed = false then .ok entryStat else .error ⟨ENOENT, 0⟩

/-- A library with one directory, of which the entry can be removed by `lfc_rmdir`. -/
private def entryServices : LfcServices Bool :=
  { emptyServices Bool with
    answer := fun env call removed =>
      match call with
      | .lstat path => (entryLstat (env lfcEnvVarHost) path removed, removed)
      | .opendirg _ => (.ok 0, removed)
      | .readdirx _ => (.ok (some (lit "f", entryStat)), removed)
      | .rmdir _ => (.ok (), true)
      | call => (call.fails ⟨ENOENT, 0⟩, removed) }

private theorem entryServices_laws : LstatLaws entryServices entryLstat :=
  ⟨fun _ _ _ => rfl, fun _ _ _ _ _ _ _ _ => rfl, fun _ _ _ _ _ _ _ _ => rfl, fun _ _ _ _ _ _ _ _ => rfl, fun _ _ _ _ _ => rfl⟩

private def entryConfig : Config where
  optString _ _ := none
  optInteger _ _ := some 1

private def entryStart : LfcContext Bool := lfcPluginInit (fun _ => none) entryConfig [] false

private def entryDir : LfcOpendirHandle := ⟨0, lit "lfc://h/d", lit "/d", some (lit "h")⟩

/-- The directory is opened and read, and its entry is kept. -/
private theorem entry_read : ∃ opened read, lfcStep entryServices (.opendir (lit "lfc://h/d")) entryStart = some opened ∧
    lfcStep entryServices (.readdir entryDir) opened = some read ∧ opened.ops.cacheStat = ∅ ∧ opened.world = false ∧
      read.ops.cacheStat = (∅ : GSimpleCache LfcCachedStat).insert (lit "/d/f") ⟨2, ⟨gfalLfcConvert entryStat, some (lit "h")⟩⟩ ∧
        (∃ last, lfcStep entryServices (.lstat (lit "lfc://h/d/f")) read = some last ∧ last.world = read.world) ∧
          ∃ removed last, lfcStep entryServices (.rmdir (lit "lfc://h/d/f")) read = some removed ∧
            lfcStep entryServices (.lstat (lit "lfc://h/d/f")) removed = some last ∧ removed.world = true ∧
              removed.ops.cacheStat.item? (lit "/d/f") = some ⟨gfalLfcConvert entryStat, some (lit "h")⟩ ∧
                ∃ err context', lfcLstatG entryServices (lit "lfc://h/d/f") removed =
                  .ok (⟨some (gfalLfcConvert entryStat), err⟩, context') :=
  ⟨_, _, rfl, rfl, rfl, rfl, rfl, ⟨_, rfl, rfl⟩, _, _, rfl, rfl, rfl, rfl, _, _, rfl⟩

private theorem entry_reports {opened : LfcContext Bool} (hthere : opened.world = false) :
    ReportsEntry entryServices entryLstat (.readdir entryDir) opened := by
  intro oh name filestat hoh hread
  obtain rfl := LfcAction.readdir.inj hoh
  obtain ⟨rfl, rfl⟩ := Prod.mk.inj (Option.some.inj (Except.ok.inj hread))
  show entryLstat _ _ opened.world = _
  rw [hthere]
  rfl

theorem lstat_transparent_after_readdir : ∃ last, Run (lfcStep entryServices)
    (fun action context => ∀ url, action = .lstat url → LstatRight entryServices url context) entryStart
      [.opendir (lit "lfc://h/d"), .readdir entryDir, .lstat (lit "lfc://h/d/f")] last := by
  obtain ⟨opened, read, hopen, hread, hempty, hthere, hcache, ⟨last, hlstat, hworld⟩, -⟩ := entry_read
  refine ⟨last, run_lstat_transparent entryServices_laws (.cons ⟨⟨?_, ?_, ?_⟩, ?_⟩ hopen (.cons ⟨⟨?_, ?_, ?_⟩, ?_⟩ hread
    (.cons ⟨⟨?_, ?_, ?_⟩, ?_⟩ hlstat (.nil _))))⟩
  · intro context' path item _ hitem
    exact absurd (GSimpleCache.item?_empty.symm.trans hitem) (by simp)
  · intro url path item haction
    cases haction
  · intro oh name filestat haction
    cases haction
  · intro oh name filestat haction
    cases haction
  · intro context' path item _ hitem
    rw [hempty] at hitem
    exact absurd (GSimpleCache.item?_empty.symm.trans hitem) (by simp)
  · intro url path item haction
    cases haction
  · intro oh name filestat hoh hanswer
    obtain rfl := LfcAction.readdir.inj hoh
    obtain ⟨rfl, -⟩ := Prod.mk.inj (Option.some.inj (Except.ok.inj hanswer))
    decide
  · exact entry_reports hthere
  · intro context' path item hstep _ _
    obtain rfl := Option.some.inj (hlstat.symm.trans hstep)
    rw [hworld]
  · intro url path item haction hpath hitem
    obtain rfl := LfcAction.lstat.inj haction
    have hkey : path = lit "/d/f" := (Option.some.inj hpath).symm
    rw [hcache, hkey, GSimpleCache.item?, AList.lookup_insert, Option.map_some] at hitem
    rw [← Option.some.inj hitem]
    rfl
  · intro oh name filestat haction
    cases haction
  · intro oh name filestat haction
    cases haction

/-- A directory that has been removed by its own URL still has a status if its parent was read before. -/
theorem lstat_succeeds_after_rmdir : ¬∀ (W : Type) (services : LfcServices W)
    (lstatAt : Option CString → CString → W → Except LfcFailure LfcFilestat) (env : Environment) (config : Config) (creds : CredMapping)
    (world : W) (actions : List LfcAction) (last : LfcContext W), LstatLaws services lstatAt →
      Run (lfcStep services) (ReportsEntry services lstatAt) (lfcPluginInit env config creds world) actions last →
        Run (lfcStep services) (fun action context => ∀ url, action = .lstat url → LstatRight services url context)
          (lfcPluginInit env config creds world) actions last := by
  intro hall
  obtain ⟨opened, read, hopen, hread, -, hthere, -, -, removed, last, hrmdir, hlstat, hworld, hitem, err, context', hkept⟩ := entry_read
  have hnot (action : LfcAction) (context : LfcContext Bool) (hother : ∀ oh, action ≠ .readdir oh) :
      ReportsEntry entryServices entryLstat action context := fun oh _ _ haction => absurd haction (hother oh)
  have hrun := hall Bool entryServices entryLstat (fun _ => none) entryConfig [] false _ last entryServices_laws
    (.cons (hnot _ _ (by simp)) hopen (.cons (entry_reports hthere) hread (.cons (hnot _ _ (by simp)) hrmdir
      (.cons (hnot _ _ (by simp)) hlstat (.nil _)))))
  cases hrun with
  | cons _ hopen' hrun =>
      obtain rfl := Option.some.inj (hopen.symm.trans hopen')
      cases hrun with
      | cons _ hread' hrun =>
          obtain rfl := Option.some.inj (hread.symm.trans hread')
          cases hrun with
          | cons _ hrmdir' hrun =>
              obtain rfl := Option.some.inj (hrmdir.symm.trans hrmdir')
              cases hrun with
              | cons hright _ _ =>
                  obtain ⟨filestat, hlstat, -⟩ := hright (lit "lfc://h/d/f") (by rfl) (lit "/d/f") _ _ err context' (by rfl) hitem hkept
                    (fun _ => some (lit "h")) (by rfl)
                  have hgone : entryLstat (some (lit "h")) (lit "/d/f") removed.world = .error ⟨ENOENT, 0⟩ := by
                    rw [hworld]
                    rfl
                  cases hgone.symm.trans hlstat

end Directory

end Gfal2
