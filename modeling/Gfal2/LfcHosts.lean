import Gfal2.Base.Runs
import Gfal2.LfcCalls
import Gfal2.UriParsing

/-! Which catalogue the calls of the LFC plugin reach. The host is handed to the library in the environment of the process, is not restored,
and is taken from there for the next URL that has none. -/

namespace Gfal2

open Base Exec

/-! ### The host of a URL -/

/-- The host that a URL names: `lfc://host/path` its own, `lfn:/path` the one of the configuration. -/
def NamesHost (config : Config) (url host : CString) : Prop :=
  (host ≠ [] ∧ (∀ c ∈ host, c ≠ '/') ∧ ∃ path, url = lit "lfc://" ++ host ++ '/' :: path) ∨
    (lit "lfn:/" <+: url ∧ config.optString lfcEnvVarGroupPlugin lfcEnvVarHost = some host)

variable {W : Type} (services : LfcServices W)

/-- No other host than the configured one has been left in the environment for a URL without a host. -/
def LfnSafe (context : LfcContext W) (url : CString) : Prop :=
  lit "lfn:/" <+: url → context.env lfcEnvVarHost = none ∨
    context.env lfcEnvVarHost = context.config.optString lfcEnvVarGroupPlugin lfcEnvVarHost

/-- The host that the second URL names is that of the first one. -/
def SameHost (config : Config) (oldpath newpath : CString) : Prop := ∀ host, NamesHost config newpath host → NamesHost config oldpath host

/-- The environment has no other host left in it for the URLs of an action, two URLs name the same host, and a directory is read or closed
while its host is set. -/
def HostSafe (action : LfcAction) (context : LfcContext W) : Prop :=
  match action with
  | .readdir oh | .closedir oh => ∀ host, NamesHost context.config oh.url host → context.env lfcEnvVarHost = some host
  | .rename oldpath newpath | .symlink oldpath newpath => LfnSafe context oldpath ∧ SameHost context.config oldpath newpath
  | .register srcUrl dstUrl => (gfalLfcCheckLfnUrl srcUrl = true → LfnSafe context srcUrl) ∧ LfnSafe context dstUrl
  | .opendir path => LfnSafe context path
  | action => ∀ url, action.singleUrl = some url → LfnSafe context url

/-- A call is made with the host that each of its URLs names. -/
def RightHost (config : Config) (request : LfcRequest) : Prop :=
  ∀ url ∈ request.urls, ∀ host, NamesHost config url host → request.host = some host

/-- An operation on two URLs does not succeed if they name different hosts. -/
def RefusesOthers (config : Config) (oldpath newpath : CString) (operation : Lfc W (Ret Int)) (context : LfcContext W) : Prop :=
  ∀ answer context', operation context = .ok (answer, context') → answer.val = 0 →
    ∀ host host', NamesHost config oldpath host → NamesHost config newpath host' → host = host'

/-- Every call of a step is made with the right host, and names are not moved or linked across hosts. -/
structure ReachesCatalogue (action : LfcAction) (context : LfcContext W) : Prop where
  calls : ∀ context', lfcStep services action context = some context' →
    ∃ made, context'.calls = context.calls ++ made ∧ ∀ request ∈ made, RightHost context.config request
  rename : ∀ oldpath newpath, action = .rename oldpath newpath →
    RefusesOthers context.config oldpath newpath (lfcRenameG services oldpath newpath) context
  symlink : ∀ oldpath newpath, action = .symlink oldpath newpath →
    RefusesOthers context.config oldpath newpath (lfcSymlinkG services oldpath newpath) context

variable {services} {α β : Type} {action : LfcAction} {context context' : LfcContext W} {config : Config} {url host : CString}
  {answer : Ret α} {path : CString}

theorem lfcFullUrlconverter_host {host' path' : CString} (hhost : ∀ c ∈ host, c ≠ '/') (hne : host ≠ [])
    (h : lfcFullUrlconverter (lit "lfc://" ++ host ++ '/' :: path) = some (host', path')) : host' = host := by
  have hdrop : ((lit "lfc://" ++ host ++ '/' :: path).take 2047).drop gfalLfcPrefix2.length = (host ++ '/' :: path).take 2041 := by
    rw [List.append_assoc, List.drop_take, List.drop_left' (by rfl)]
    rfl
  have hstart : ((host ++ '/' :: path).take 2041).dropWhile (· = '/') = (host ++ '/' :: path).take 2041 := by
    cases host with
    | nil => exact absurd (by rfl) hne
    | cons c rest =>
        rw [List.cons_append, List.take_succ_cons, List.dropWhile_cons_of_neg]
        simpa using hhost c (by simp)
  rw [lfcFullUrlconverter] at h
  simp only [hdrop, hstart] at h
  generalize hrest : (host ++ '/' :: path).take 2041 = rest at h
  split at h
  next hparts =>
    obtain ⟨rfl, rfl⟩ := Prod.mk.inj (Option.some.inj h)
    have hstops : StopsAt (fun c => decide (c ≠ '/')) (rest.dropWhile (fun c => decide (c ≠ '/')) ++ (host ++ '/' :: path).drop 2041) := by
      obtain ⟨c, tail, htail⟩ := List.exists_cons_of_ne_nil hparts.2
      rw [htail, List.cons_append, stopsAt_cons]
      have hhead := List.head?_dropWhile_not (fun c => decide (c ≠ '/')) rest
      rw [htail] at hhead
      simpa using hhead
    have hwhole : rest.takeWhile (fun c => decide (c ≠ '/')) ++
        (rest.dropWhile (fun c => decide (c ≠ '/')) ++ (host ++ '/' :: path).drop 2041) = host ++ '/' :: path := by
      rw [← List.append_assoc, List.takeWhile_append_dropWhile, ← hrest, List.take_append_drop]
    refine (append_inj_of_stopsAt (fun c hc => List.mem_takeWhile_imp hc) ?_ hstops (stopsAt_cons.mpr (by simp)) hwhole).1
    simpa using hhost
  next => cases h

/-! ### Conversion -/

/-- The host that is set up for a URL. -/
def hostFor (context : LfcContext W) (url : CString) : Option CString :=
  let configured := context.config.optString lfcEnvVarGroupPlugin lfcEnvVarHost
  if strncmp url (lit "lfn") 3 = 0 then (context.env lfcEnvVarHost).or configured
  else if strncmp url (lit "lfc") 3 = 0 then (lfcFullUrlconverter url).map Prod.fst
  else configured

/-- What is set up for a URL is the host it names, unless another one has been left in the environment. -/
theorem hostFor_named (hsafe : LfnSafe context url) {found : CString} (hfound : hostFor context url = some found)
    (hnames : NamesHost context.config url host) : found = host := by
  obtain ⟨hne, hslash, path, rfl⟩ | ⟨⟨path, rfl⟩, hconfigured⟩ := hnames
  · have hlfn : ¬strncmp (lit "lfc://" ++ host ++ '/' :: path) (lit "lfn") 3 = 0 := by
      show ¬strcmp (lit "lfc") (lit "lfn") = 0
      decide
    have hlfc : strncmp (lit "lfc://" ++ host ++ '/' :: path) (lit "lfc") 3 = 0 := by
      show strcmp (lit "lfc") (lit "lfc") = 0
      decide
    rw [hostFor] at hfound
    simp only [if_neg hlfn, if_pos hlfc] at hfound
    obtain ⟨⟨found', path'⟩, hconvert, rfl⟩ := Option.map_eq_some_iff.mp hfound
    exact lfcFullUrlconverter_host hslash hne hconvert
  · have hlfn : strncmp (lit "lfn:/" ++ path) (lit "lfn") 3 = 0 := by
      show strcmp (lit "lfn") (lit "lfn") = 0
      decide
    rw [hostFor] at hfound
    simp only [if_pos hlfn] at hfound
    rcases hsafe (List.prefix_append _ _) with hnone | hsame
    · rw [hnone, Option.none_or, hconfigured] at hfound
      exact (Option.some.inj hfound).symm
    · rw [hsame, hconfigured, Option.some_or] at hfound
      exact (Option.some.inj hfound).symm

/-! ### Calls with the right host -/

/-- Calls have been made with the right host, and what the host is taken from is as it was. -/
structure RightSince (settings : Config) (before after : LfcContext W) : Prop where
  config : after.config = before.config
  predefined : after.ops.lfcEndpointPredefined = before.ops.lfcEndpointPredefined
  calls : ∃ made, after.calls = before.calls ++ made ∧ ∀ request ∈ made, RightHost settings request

theorem RightSince.refl (context : LfcContext W) : RightSince config context context := ⟨rfl, rfl, [], by simp, by simp⟩

theorem RightSince.trans (a b c : LfcContext W) (hab : RightSince config a b) (hbc : RightSince config b c) : RightSince config a c := by
  obtain ⟨first, hb, hfirst⟩ := hab.calls
  obtain ⟨last, hc, hlast⟩ := hbc.calls
  refine ⟨hbc.config.trans hab.config, hbc.predefined.trans hab.predefined, first ++ last, by rw [hc, hb, List.append_assoc], ?_⟩
  intro request hmem
  rcases List.mem_append.mp hmem with hmem | hmem
  · exact hfirst request hmem
  · exact hlast request hmem

/-- Calls for URLs are made with the right host if it is in the environment. -/
theorem CallsFor.rightSince {urls : List CString} (h : CallsFor urls context context')
    (hright : ∀ url ∈ urls, ∀ host, NamesHost config url host → context.env lfcEnvVarHost = some host) :
    RightSince config context context' := by
  obtain ⟨made, hcalls, hmade⟩ := h.calls
  refine ⟨h.config, by rw [h.ops], made, hcalls, fun request hmem url hurl host hnames => ?_⟩
  obtain ⟨hurls, hhost⟩ := hmade request hmem
  rw [hhost]
  exact hright url (hurls ▸ hurl) host hnames

theorem strncmp_of_namesHost (h : NamesHost config url host) : strncmp url (lit "lfn") 3 = 0 ∨ strncmp url (lit "lfc") 3 = 0 := by
  obtain ⟨-, -, path, rfl⟩ | ⟨⟨path, rfl⟩, -⟩ := h
  · refine .inr ?_
    show strcmp (lit "lfc") (lit "lfc") = 0
    decide
  · refine .inl ?_
    show strcmp (lit "lfn") (lit "lfn") = 0
    decide

/-- The conversion of a URL calls the library only for an identifier, which names no host. -/
theorem urlConverter_rightSince {resolved : Except (Option GError) (Option CString × CString)}
    (h : urlConverter services url context = .ok (resolved, context')) : RightSince config context context' := by
  by_cases hnamed : strncmp url (lit "lfn") 3 = 0 ∨ strncmp url (lit "lfc") 3 = 0
  · have hsame : context' = context := by
      rw [urlConverter] at h
      split at h
      · exact (ok_inj h).2.symm
      · split at h
        · exact (ok_inj h).2.symm
        · rw [if_pos (hnamed.resolve_left (by assumption))] at h
          cases hconvert : lfcFullUrlconverter url with
          | none =>
              rw [hconvert] at h
              exact (ok_inj h).2.symm
          | some parts =>
              rw [hconvert] at h
              exact (ok_inj h).2.symm
    rw [hsame]
    exact .refl _
  · refine (onlyCalls_urlConverter url context _ _ h).rightSince fun url' hmem host hnames => ?_
    obtain rfl := List.mem_singleton.mp hmem
    exact absurd (strncmp_of_namesHost hnames) hnamed

variable {found : Option CString}

/-- The host of a conversion, or else that of the configuration, is the one that is set up for the URL. -/
theorem urlConverter_host (h : urlConverter services url context = .ok (.ok (found, path), context')) :
    found.or (context.config.optString lfcEnvVarGroupPlugin lfcEnvVarHost) = hostFor context url := by
  rw [urlConverter] at h
  rw [hostFor]
  split at h
  · cases (ok_inj h).1
  · split at h
    next hlfn =>
      obtain ⟨rfl, -⟩ := ok_inj (ok_inj h).1
      simp only [if_pos hlfn]
    next hlfn =>
      simp only [if_neg hlfn]
      split at h
      next hlfc =>
        rw [if_pos hlfc]
        cases hconvert : lfcFullUrlconverter url with
        | none =>
            simp only [hconvert] at h
            cases (ok_inj h).1
        | some parts =>
            simp only [hconvert] at h
            obtain ⟨rfl, -⟩ := ok_inj (ok_inj h).1
            rfl
      next hlfc =>
        rw [if_neg hlfc]
        obtain ⟨answer, middle, -, h⟩ := bind_eq_ok.mp h
        cases answer with
        | error e => cases (ok_inj h).1
        | ok path' =>
            obtain ⟨rfl, -⟩ := ok_inj (ok_inj h).1
            rfl

/-! ### The set-up of the host -/

theorem setCredentials_host (env : Environment) (ucert ukey : Option CString) :
    setCredentials env ucert ukey lfcEnvVarHost = env lfcEnvVarHost := by
  have hnames : lfcEnvVarHost ≠ x509UserCert ∧ lfcEnvVarHost ≠ x509UserKey ∧ lfcEnvVarHost ≠ x509UserProxy := by decide
  cases ucert with
  | none => rfl
  | some ucert =>
      cases ukey with
      | none => simp [setCredentials, Environment.setenv, hnames.2.2]
      | some ukey => simp [setCredentials, Environment.setenv, hnames.1, hnames.2.1]

variable {failed : Option GError}

theorem configureVariable_host {predefined value : Option CString} {name : CString} (hname : name ≠ lfcEnvVarHost)
    (h : configureVariable services predefined value name context = .ok (failed, context')) :
    context'.env lfcEnvVarHost = context.env lfcEnvVarHost := by
  cases predefined with
  | some known =>
      obtain ⟨-, rfl⟩ := ok_inj h
      rfl
  | none =>
      cases value with
      | none =>
          obtain ⟨-, rfl⟩ := ok_inj h
          rfl
      | some value =>
          obtain ⟨-, rfl⟩ := ok_inj h
          simp [Environment.setenv, hname.symm]

/-- The host is set up by the first of the variables. -/
theorem configureVariables_host (h : configureVariables services found context = .ok (failed, context')) :
    ∃ failed' first, configureVariable services context.ops.lfcEndpointPredefined
        (found.or (context.config.optString lfcEnvVarGroupPlugin lfcEnvVarHost)) lfcEnvVarHost context = .ok (failed', first) ∧
      context'.env lfcEnvVarHost = first.env lfcEnvVarHost ∧ (failed = none → failed' = none) := by
  rw [configureVariables, get_bind_apply] at h
  obtain ⟨failed', first, hfirst, h⟩ := bind_eq_ok.mp h
  refine ⟨failed', first, hfirst, ?_⟩
  cases failed' with
  | some e =>
      obtain ⟨rfl, rfl⟩ := ok_inj h
      exact ⟨by rfl, id⟩
  | none =>
      refine ⟨?_, fun _ => by rfl⟩
      obtain ⟨failed', second, hsecond, h⟩ := bind_eq_ok.mp h
      have hkept := configureVariable_host (by decide) hsecond
      cases failed' with
      | some e =>
          obtain ⟨-, rfl⟩ := ok_inj h
          exact hkept
      | none =>
          obtain ⟨failed', third, hthird, h⟩ := bind_eq_ok.mp h
          have hkept' := (configureVariable_host (by decide) hthird).trans hkept
          cases failed' with
          | some e =>
              obtain ⟨-, rfl⟩ := ok_inj h
              exact hkept'
          | none => exact (configureVariable_host (by decide) h).trans hkept'

/-- Where the environment is set up, its host is the one that was given, or else that of the configuration. -/
theorem lfcConfigureEnvironment_host (hpredefined : context.ops.lfcEndpointPredefined = none)
    (h : lfcConfigureEnvironment services found url context = .ok (none, context')) :
    ∃ value, found.or (context.config.optString lfcEnvVarGroupPlugin lfcEnvVarHost) = some value ∧
      context'.env lfcEnvVarHost = some value := by
  obtain ⟨failed, middle, hvariables, h⟩ := bind_eq_ok.mp h
  obtain ⟨rfl, rfl⟩ := ok_inj h
  obtain ⟨failed', first, hfirst, hkept, hfailed⟩ := configureVariables_host hvariables
  rw [hfailed (by rfl), hpredefined] at hfirst
  cases hvalue : found.or (context.config.optString lfcEnvVarGroupPlugin lfcEnvVarHost) with
  | none =>
      rw [hvalue] at hfirst
      cases (ok_inj hfirst).1
  | some value =>
      rw [hvalue] at hfirst
      obtain ⟨-, rfl⟩ := ok_inj hfirst
      refine ⟨value, by rfl, ?_⟩
      show setCredentials middle.env _ _ lfcEnvVarHost = some value
      rw [setCredentials_host, hkept]
      simp [Environment.setenv]

/-- The host in the environment is what it was before, or what was set up. -/
theorem lfcConfigureEnvironment_left (h : lfcConfigureEnvironment services found url context = .ok (failed, context')) :
    context'.env lfcEnvVarHost = context.env lfcEnvVarHost ∨
      context'.env lfcEnvVarHost = found.or (context.config.optString lfcEnvVarGroupPlugin lfcEnvVarHost) := by
  obtain ⟨failed, middle, hvariables, h⟩ := bind_eq_ok.mp h
  obtain ⟨-, rfl⟩ := ok_inj h
  obtain ⟨failed', first, hfirst, hkept, -⟩ := configureVariables_host hvariables
  show setCredentials middle.env _ _ lfcEnvVarHost = _ ∨ setCredentials middle.env _ _ lfcEnvVarHost = _
  rw [setCredentials_host, hkept]
  cases hpredefined : context.ops.lfcEndpointPredefined with
  | some known =>
      rw [hpredefined] at hfirst
      obtain ⟨-, rfl⟩ := ok_inj hfirst
      exact .inl (by rfl)
  | none =>
      rw [hpredefined] at hfirst
      cases hvalue : found.or (context.config.optString lfcEnvVarGroupPlugin lfcEnvVarHost) with
      | none =>
          rw [hvalue] at hfirst
          obtain ⟨-, rfl⟩ := ok_inj hfirst
          exact .inl (by rfl)
      | some value =>
          rw [hvalue] at hfirst
          obtain ⟨-, rfl⟩ := ok_inj hfirst
          exact .inr (by simp [Environment.setenv])

theorem restored_rightSince (state : LfcContext W) : RightSince config state state.restored :=
  ⟨rfl, rfl, [], by simp [LfcContext.restored], by simp⟩

theorem Configures.rightSince (h : Configures context context') : RightSince config context context' := by
  rw [h.same]
  exact ⟨by rfl, by rfl, [], by simp, by simp⟩

variable {operation : Lfc W (Ret α)}

/-- An operation that is set up for the host that its URLs name makes its calls with it. -/
theorem Brackets.rightSince {κ : Type} {urls : List CString} {resolve : Lfc W (Except (Option GError) (Option CString × κ))}
    (hbrackets : Brackets services url urls resolve operation) (hpredefined : context.ops.lfcEndpointPredefined = none)
    (hresolve : ∀ resolved context₁, resolve context = .ok (resolved, context₁) → RightSince config context context₁)
    (hhost : ∀ found target context₁, resolve context = .ok (.ok (found, target), context₁) → ∀ value,
      found.or (context.config.optString lfcEnvVarGroupPlugin lfcEnvVarHost) = some value →
        ∀ url ∈ urls, ∀ host, NamesHost config url host → value = host)
    (h : operation context = .ok (answer, context')) : RightSince config context context' := by
  obtain ⟨failed, act, rfl, hact⟩ := hbrackets
  obtain ⟨e, context₁, hfound, -, rfl⟩ | ⟨found, target, context₁, failure, context₂, hfound, hconfigure, hlast⟩ :=
    withLfcEnvironment_cases h
  · exact (hresolve _ _ hfound).trans _ _ _ (restored_rightSince _)
  · have hbefore := hresolve _ _ hfound
    have hconfigured : RightSince config context₁ context₂ := (lfcConfigureEnvironment_configures _ _ _ _ _ hconfigure).rightSince
    obtain ⟨-, -, rfl⟩ | ⟨rfl, context₃, hcalls, rfl⟩ := hlast
    · exact (hbefore.trans _ _ _ hconfigured).trans _ _ _ (restored_rightSince _)
    · obtain ⟨value, hvalue, henv⟩ := lfcConfigureEnvironment_host (hbefore.predefined.trans hpredefined) hconfigure
      rw [hbefore.config] at hvalue
      have hmade : RightSince config context₂ context₃ := by
        refine (hact target context₂ _ _ hcalls).rightSince fun url' hmem host hnames => ?_
        rw [henv, hhost _ _ _ hfound value hvalue url' hmem host hnames]
      exact ((hbefore.trans _ _ _ hconfigured).trans _ _ _ hmade).trans _ _ _ (restored_rightSince _)

/-- What is set up for a URL that is safe is the host it names. -/
theorem LfnSafe.converted {value : CString} {middle : LfcContext W} (hsafe : LfnSafe context url)
    (hconvert : urlConverter services url context = .ok (.ok (found, path), middle))
    (hvalue : found.or (context.config.optString lfcEnvVarGroupPlugin lfcEnvVarHost) = some value)
    (hnames : NamesHost context.config url host) : value = host :=
  hostFor_named hsafe ((urlConverter_host hconvert).symm.trans hvalue) hnames

/-- An operation on one URL. -/
theorem Brackets.single_rightSince (hbrackets : Brackets services url [url] (urlConverter services url) operation)
    (hpredefined : context.ops.lfcEndpointPredefined = none) (hsafe : LfnSafe context url)
    (h : operation context = .ok (answer, context')) : RightSince context.config context context' := by
  refine hbrackets.rightSince hpredefined (fun _ _ hresolve => urlConverter_rightSince hresolve) ?_ h
  intro found path middle hconvert value hvalue url' hmem host hnames
  obtain rfl := List.mem_singleton.mp hmem
  exact hsafe.converted hconvert hvalue hnames

/-- An operation on a URL that is safe leaves it safe. -/
theorem LfnSafe.bracket
    (hbrackets : Brackets services url [url] (urlConverter services url) operation) (hsafe : LfnSafe context url)
    (h : operation context = .ok (answer, context')) (hconfig : context'.config = context.config) : LfnSafe context' url := by
  intro hlfn
  rw [hconfig]
  obtain ⟨failed, act, rfl, hact⟩ := hbrackets
  obtain ⟨e, context₁, hresolve, -, rfl⟩ | ⟨found, path, context₁, failure, context₂, hresolve, hconfigure, hlast⟩ :=
    withLfcEnvironment_cases h
  · rw [LfcContext.restored_host, (onlyCalls_urlConverter url context _ _ hresolve).env]
    exact hsafe hlfn
  · have hcalls := onlyCalls_urlConverter url context _ _ hresolve
    have hleft : context₂.env lfcEnvVarHost = context.env lfcEnvVarHost ∨
        context₂.env lfcEnvVarHost = found.or (context.config.optString lfcEnvVarGroupPlugin lfcEnvVarHost) := by
      rw [← hcalls.env, ← hcalls.config]
      exact lfcConfigureEnvironment_left hconfigure
    have hend : context'.env lfcEnvVarHost = context₂.env lfcEnvVarHost := by
      obtain ⟨-, -, rfl⟩ | ⟨-, context₃, hrun, rfl⟩ := hlast
      · exact LfcContext.restored_host _
      · rw [LfcContext.restored_host, (hact path context₂ _ _ hrun).env]
    rw [hend]
    rcases hleft with hbefore | hset
    · rw [hbefore]
      exact hsafe hlfn
    · rw [hset]
      have hhost := urlConverter_host hresolve
      obtain ⟨rest, rfl⟩ := hlfn
      have hstart : strncmp (lit "lfn:/" ++ rest) (lit "lfn") 3 = 0 := by
        show strcmp (lit "lfn") (lit "lfn") = 0
        decide
      rw [hhost, hostFor]
      simp only [if_pos hstart]
      rcases hsafe (List.prefix_append _ _) with hnone | hsame
      · exact .inr (by rw [hnone, Option.none_or])
      · exact .inr (by rw [hsame, Option.or_self])

/-! ### Each action -/

variable {newpath oldpath : CString}

theorem urlConverters_cases {resolved : Except (Option GError) (Option CString × CString × CString)}
    (h : urlConverters services oldpath newpath context = .ok (resolved, context')) :
    ∃ converted middle, urlConverter services oldpath context = .ok (converted, middle) ∧
      (context' = middle ∧ (∃ e, resolved = .error e) ∨
        ∃ found path converted', converted = .ok (found, path) ∧ urlConverter services newpath middle = .ok (converted', context') ∧
          ∀ found' target, resolved = .ok (found', target) → found' = found ∧ target.1 = path) := by
  obtain ⟨converted, middle, hold, h⟩ := bind_eq_ok.mp h
  refine ⟨converted, middle, hold, ?_⟩
  cases converted with
  | error e =>
      obtain ⟨rfl, rfl⟩ := ok_inj h
      exact .inl ⟨by rfl, e, by rfl⟩
  | ok parts =>
      obtain ⟨found, path⟩ := parts
      obtain ⟨converted', last, hnew, h⟩ := bind_eq_ok.mp h
      cases converted' with
      | error e =>
          obtain ⟨rfl, rfl⟩ := ok_inj h
          refine .inr ⟨found, path, _, by rfl, hnew, ?_⟩
          intro found' target hresolved
          cases hresolved
      | ok parts' =>
          obtain ⟨rfl, rfl⟩ := ok_inj h
          refine .inr ⟨found, path, _, by rfl, hnew, ?_⟩
          intro found' target hresolved
          obtain ⟨rfl, rfl⟩ := ok_inj hresolved
          exact ⟨by rfl, by rfl⟩

theorem urlConverters_rightSince {resolved : Except (Option GError) (Option CString × CString × CString)}
    (h : urlConverters services oldpath newpath context = .ok (resolved, context')) : RightSince config context context' := by
  obtain ⟨converted, middle, hold, ⟨rfl, -⟩ | ⟨found, path, converted', -, hnew, -⟩⟩ := urlConverters_cases h
  · exact urlConverter_rightSince hold
  · exact (urlConverter_rightSince hold).trans _ _ _ (urlConverter_rightSince hnew)

/-- The host of an operation on two URLs is the one that each of them names. -/
theorem urlConverters_host {paths : CString × CString}
    (hsafe : LfnSafe context oldpath) (hsame : SameHost context.config oldpath newpath)
    (h : urlConverters services oldpath newpath context = .ok (.ok (found, paths), context')) {value : CString}
    (hvalue : found.or (context.config.optString lfcEnvVarGroupPlugin lfcEnvVarHost) = some value) {named : CString}
    (hmem : url ∈ [oldpath, newpath]) (hnames : NamesHost context.config url named) : value = named := by
  obtain ⟨converted, middle, hold, ⟨-, e, herror⟩ | ⟨found', path, converted', rfl, -, hfound⟩⟩ := urlConverters_cases h
  · cases herror
  · obtain ⟨rfl, -⟩ := hfound _ _ (by rfl)
    rcases List.mem_cons.mp hmem with rfl | hmem
    · exact hsafe.converted hold hvalue hnames
    · obtain rfl := List.mem_singleton.mp hmem
      exact hsafe.converted hold hvalue (hsame _ hnames)

/-- An operation on two URLs makes its calls with the host of both. -/
theorem Brackets.both_rightSince {operation : Lfc W (Ret Int)} {answer : Ret Int}
    (hbrackets : Brackets services oldpath [oldpath, newpath] (urlConverters services oldpath newpath) operation)
    (hpredefined : context.ops.lfcEndpointPredefined = none) (hsafe : LfnSafe context oldpath)
    (hsame : SameHost context.config oldpath newpath) (h : operation context = .ok (answer, context')) :
    RightSince context.config context context' :=
  hbrackets.rightSince hpredefined (fun _ _ hresolve => urlConverters_rightSince hresolve)
    (fun _ _ _ hresolve _ hvalue _ hmem _ hnames => urlConverters_host hsafe hsame hresolve hvalue hmem hnames) h

/-- An operation on two URLs succeeds only where its environment is set up, and then both name its host. -/
theorem withLfcEnvironment_refusesOthers (act : CString × CString → Lfc W (Ret Int))
    (hpredefined : context.ops.lfcEndpointPredefined = none) (hsafe : LfnSafe context oldpath)
    (hsame : SameHost context.config oldpath newpath) :
    RefusesOthers context.config oldpath newpath
      (withLfcEnvironment services oldpath (urlConverters services oldpath newpath) (-1) act) context := by
  intro answer context' h hsuccess host host' hnames hnames'
  obtain ⟨e, context₁, -, hfailed, -⟩ | ⟨found, paths, context₁, failure, context₂, hresolve, hconfigure, hlast⟩ :=
    withLfcEnvironment_cases h
  · rw [hfailed] at hsuccess
    cases hsuccess
  · obtain ⟨-, hfailed, -⟩ | ⟨rfl, -⟩ := hlast
    · rw [hfailed] at hsuccess
      cases hsuccess
    · have hbefore : RightSince context.config context context₁ := urlConverters_rightSince hresolve
      obtain ⟨value, hvalue, -⟩ := lfcConfigureEnvironment_host (hbefore.predefined.trans hpredefined) hconfigure
      rw [hbefore.config] at hvalue
      calc host = value := (urlConverters_host hsafe hsame hresolve hvalue (by simp) hnames).symm
        _ = host' := urlConverters_host hsafe hsame hresolve hvalue (by simp) hnames'

theorem opendir_rightSince {answer : Ret (Option LfcOpendirHandle)}
    (hpredefined : context.ops.lfcEndpointPredefined = none) (hsafe : LfnSafe context path)
    (h : lfcOpendirG services path context = .ok (answer, context')) : RightSince context.config context context' := by
  obtain ⟨e, context₁, hresolve, rfl⟩ | ⟨found, urlPath, context₁, failure, context₂, hresolve, hconfigure, hlast⟩ := lfcOpendirG_cases h
  · exact (urlConverter_rightSince hresolve).trans _ _ _ (restored_rightSince _)
  · have hbefore : RightSince context.config context context₁ := urlConverter_rightSince hresolve
    have hconfigured : RightSince context.config context₁ context₂ := (lfcConfigureEnvironment_configures _ _ _ _ _ hconfigure).rightSince
    obtain ⟨-, rfl⟩ | ⟨rfl, opened, context₃, hcall, hend⟩ := hlast
    · exact (hbefore.trans _ _ _ hconfigured).trans _ _ _ (restored_rightSince _)
    · obtain ⟨value, hvalue, henv⟩ := lfcConfigureEnvironment_host (hbefore.predefined.trans hpredefined) hconfigure
      rw [hbefore.config] at hvalue
      have hmade : RightSince context.config context₂ context₃ := by
        refine (OnlyCalls.call _ context₂ _ _ hcall).rightSince fun url' hmem host hnames => ?_
        obtain rfl := List.mem_singleton.mp hmem
        rw [henv, hsafe.converted hresolve hvalue hnames]
      have hcalled := (hbefore.trans _ _ _ hconfigured).trans _ _ _ hmade
      rcases hend with rfl | ⟨desc, rfl⟩
      · exact hcalled.trans _ _ _ (restored_rightSince _)
      · exact ⟨hcalled.config, hcalled.predefined, hcalled.calls⟩

/-! ### Registration -/

/-- What holds while a source is asked: right calls so far, and no other host left for its URL. -/
structure AskedRight (settings : Config) (start : LfcContext W) (source : CString) (context : LfcContext W) : Prop where
  right : RightSince settings start context
  predefined : context.ops.lfcEndpointPredefined = none
  config : context.config = settings
  safe : gfalLfcCheckLfnUrl source = true → LfnSafe context source

variable {start : LfcContext W} {source : CString}

theorem AskedRight.bracket (h : AskedRight config start source context)
    (hbrackets : Brackets services source [source] (urlConverter services source) operation)
    (hlfc : gfalLfcCheckLfnUrl source = true) (hrun : operation context = .ok (answer, context')) :
    AskedRight config start source context' := by
  have hstep := hbrackets.single_rightSince h.predefined (h.safe hlfc) hrun
  rw [h.config] at hstep
  exact ⟨h.right.trans _ _ _ hstep, hstep.predefined.trans h.predefined, hstep.config.trans h.config,
    fun _ => (h.safe hlfc).bracket hbrackets hrun hstep.config⟩

/-- The answer of another plugin is no call of the library. -/
theorem AskedRight.setWorld (h : AskedRight config start source context) (world : W) :
    AskedRight config start source { context with world := world } :=
  ⟨⟨h.right.config, h.right.predefined, h.right.calls⟩, h.predefined, h.config, h.safe⟩

theorem getReplicaInfo_askedRight : Exec.Preserves (AskedRight config start source) (getReplicaInfo services source) := by
  have htrans (a b c : LfcContext W) (hab : AskedRight config start source a → AskedRight config start source b)
      (hbc : AskedRight config start source b → AskedRight config start source c) (ha : AskedRight config start source a) :
      AskedRight config start source c := hbc (hab ha)
  apply preserves_iff_within.mpr
  apply getReplicaInfo_within (fun _ => id) htrans
  · exact sourceStat_within (fun _ => id) htrans (fun hlfc context answer context' hrun h => h.bracket brackets_stat hlfc hrun)
      fun _ context h => h.setWorld _
  · exact fun type => sourceChecksum_within (fun _ => id) htrans type
      (fun hlfc context answer context' hrun h => h.bracket (brackets_checksumPart LfcChecksum.value 33) hlfc hrun)
      fun _ context h => h.setWorld _

/-- The host of a registration is taken for its destination before the source is asked. -/
theorem registerTarget_cases {srcUrl dstUrl : CString}
    {resolved : Except (Option GError) (Option CString × Option CString × CString × CString × SizeAndChecksum)}
    (h : registerTarget services srcUrl dstUrl context = .ok (resolved, context')) :
    ∃ converted middle, urlConverter services dstUrl context = .ok (converted, middle) ∧
      (context' = middle ∨ ∃ answer, getReplicaInfo services srcUrl middle = .ok (answer, context')) ∧
      ∀ found target, resolved = .ok (found, target) → ∃ path, converted = .ok (found, path) := by
  obtain ⟨converted, middle, hconvert, h⟩ := bind_eq_ok.mp h
  refine ⟨converted, middle, hconvert, ?_⟩
  cases converted with
  | error e =>
      obtain ⟨rfl, rfl⟩ := ok_inj h
      exact ⟨.inl (by rfl), fun _ _ hresolved => by cases hresolved⟩
  | ok parts =>
      obtain ⟨found, path⟩ := parts
      cases hhost : getHost srcUrl with
      | error e =>
          simp only [hhost] at h
          obtain ⟨rfl, rfl⟩ := ok_inj h
          exact ⟨.inl (by rfl), fun _ _ hresolved => by cases hresolved⟩
      | ok srcHost =>
          simp only [hhost] at h
          obtain ⟨answer, last, hinfo, h⟩ := bind_eq_ok.mp h
          cases answer with
          | error e =>
              obtain ⟨rfl, rfl⟩ := ok_inj h
              exact ⟨.inr ⟨_, hinfo⟩, fun _ _ hresolved => by cases hresolved⟩
          | ok info =>
              obtain ⟨rfl, rfl⟩ := ok_inj h
              refine ⟨.inr ⟨_, hinfo⟩, fun found' target hresolved => ⟨path, ?_⟩⟩
              rw [(ok_inj hresolved).1]

theorem register_rightSince {srcUrl dstUrl : CString} {answer : Ret Int} (hpredefined : context.ops.lfcEndpointPredefined = none)
    (hsource : gfalLfcCheckLfnUrl srcUrl = true → LfnSafe context srcUrl) (hsafe : LfnSafe context dstUrl)
    (h : gfalLfcRegister services srcUrl dstUrl context = .ok (answer, context')) : RightSince context.config context context' := by
  refine (brackets_register srcUrl dstUrl).rightSince hpredefined ?_ ?_ h
  · intro resolved last htarget
    obtain ⟨converted, middle, hconvert, hrest, -⟩ := registerTarget_cases htarget
    have hbefore : RightSince context.config context middle := urlConverter_rightSince hconvert
    rcases hrest with rfl | ⟨info, hinfo⟩
    · exact hbefore
    · have hcalls := onlyCalls_urlConverter dstUrl context _ _ hconvert
      have hasked : AskedRight context.config context srcUrl middle := by
        refine ⟨hbefore, hbefore.predefined.trans hpredefined, hbefore.config, fun hlfc => ?_⟩
        rw [LfnSafe, hcalls.env, hcalls.config]
        exact hsource hlfc
      exact (getReplicaInfo_askedRight middle hasked _ _ hinfo).right
  · intro found target last htarget value hvalue url hmem host hnames
    obtain rfl := List.mem_singleton.mp hmem
    obtain ⟨converted, middle, hconvert, -, hfound⟩ := registerTarget_cases htarget
    obtain ⟨path, rfl⟩ := hfound _ _ (by rfl)
    exact hsafe.converted hconvert hvalue hnames

/-! ### Runs -/

theorem closedir_rightSince {oh : LfcOpendirHandle} {answer : Ret Int}
    (hhost : ∀ host, NamesHost context.config oh.url host → context.env lfcEnvVarHost = some host)
    (h : lfcClosedirG services oh context = .ok (answer, context')) : RightSince context.config context context' := by
  obtain ⟨closed, middle, hcall, h⟩ := bind_eq_ok.mp h
  have hmade : RightSince context.config context middle := by
    refine (OnlyCalls.call _ context _ _ hcall).rightSince fun url hmem host hnames => ?_
    obtain rfl := List.mem_singleton.mp hmem
    exact hhost host hnames
  split at h
  · obtain ⟨-, rfl⟩ := ok_inj h
    exact ⟨hmade.config, hmade.predefined, hmade.calls⟩
  · obtain ⟨-, rfl⟩ := ok_inj h
    exact ⟨hmade.config, hmade.predefined, hmade.calls⟩

theorem readdir_rightSince {oh : LfcOpendirHandle} {answer : Ret (Option (CString × LfcStat))}
    (hhost : ∀ host, NamesHost context.config oh.url host → context.env lfcEnvVarHost = some host)
    (h : lfcReaddirppG services oh context = .ok (answer, context')) : RightSince context.config context context' := by
  obtain ⟨read, middle, hcall, h⟩ := bind_eq_ok.mp h
  have hmade : RightSince context.config context middle := by
    refine (OnlyCalls.call _ context _ _ hcall).rightSince fun url hmem host hnames => ?_
    obtain rfl := List.mem_singleton.mp hmem
    exact hhost host hnames
  cases (read : Except LfcFailure (Option (CString × LfcFilestat))) with
  | error failure =>
      obtain ⟨-, rfl⟩ := ok_inj h
      exact hmade
  | ok found =>
      cases found with
      | none =>
          obtain ⟨-, rfl⟩ := ok_inj h
          exact hmade
      | some entry =>
          obtain ⟨-, rfl⟩ := ok_inj h
          exact ⟨hmade.config, hmade.predefined, hmade.calls⟩

/-- A safe step makes its calls with the right host. -/
theorem rightSince_step (hpredefined : context.ops.lfcEndpointPredefined = none) (hsafe : HostSafe action context)
    (hstep : lfcStep services action context = some context') :
    context'.ops.lfcEndpointPredefined = none ∧
      ∃ made, context'.calls = context.calls ++ made ∧ ∀ request ∈ made, RightHost context.config request := by
  obtain ⟨-, hrun⟩ := lfcStep_ok hstep
  have hright (h : RightSince context.config context context') : context'.ops.lfcEndpointPredefined = none ∧
      ∃ made, context'.calls = context.calls ++ made ∧ ∀ request ∈ made, RightHost context.config request :=
    ⟨h.predefined.trans hpredefined, h.calls⟩
  cases action with
  | setConfig config =>
      obtain ⟨-, rfl⟩ := ok_inj hrun
      exact ⟨hpredefined, [], by simp, by simp⟩
  | setCreds creds =>
      obtain ⟨-, rfl⟩ := ok_inj hrun
      exact ⟨hpredefined, [], by simp, by simp⟩
  | readdir oh =>
      obtain ⟨answer, hop⟩ := perform_ok hrun
      exact hright (readdir_rightSince hsafe hop)
  | closedir oh =>
      obtain ⟨answer, hop⟩ := perform_ok hrun
      exact hright (closedir_rightSince hsafe hop)
  | opendir path =>
      obtain ⟨answer, hop⟩ := perform_ok hrun
      exact hright (opendir_rightSince hpredefined hsafe hop)
  | rename oldpath newpath =>
      obtain ⟨answer, hop⟩ := perform_ok hrun
      exact hright (brackets_rename.both_rightSince hpredefined hsafe.1 hsafe.2 hop)
  | symlink oldpath newpath =>
      obtain ⟨answer, hop⟩ := perform_ok hrun
      exact hright (brackets_symlink.both_rightSince hpredefined hsafe.1 hsafe.2 hop)
  | register srcUrl dstUrl =>
      obtain ⟨answer, hop⟩ := perform_ok hrun
      exact hright (register_rightSince hpredefined hsafe.1 hsafe.2 hop)
  | _ =>
      obtain ⟨α, operation, answer, hbrackets, hop⟩ := perform_single (by rfl) hrun
      exact hright (hbrackets.single_rightSince hpredefined (hsafe _ (by rfl)) hop)

/-- In every run in which each step is safe, every step reaches the catalogues that its URLs name. -/
theorem run_reaches_catalogues {env : Environment} {config : Config} {creds : CredMapping} {world : W} {actions : List LfcAction}
    {last : LfcContext W} (hhost : env lfcEnvVarHost = none)
    (hrun : Run (lfcStep services) HostSafe (lfcPluginInit env config creds world) actions last) :
    Run (lfcStep services) (ReachesCatalogue services) (lfcPluginInit env config creds world) actions last := by
  generalize hfirst : lfcPluginInit env config creds world = first at hrun ⊢
  have hpredefined : first.ops.lfcEndpointPredefined = none := by
    rw [← hfirst]
    exact hhost
  clear hfirst
  induction hrun with
  | nil state => exact .nil state
  | cons hsafe hstep _ ih =>
      refine .cons ⟨fun context' hstep' => (rightSince_step hpredefined hsafe hstep').2, ?_, ?_⟩ hstep
        (ih (rightSince_step hpredefined hsafe hstep).1)
      · rintro oldpath newpath rfl
        exact withLfcEnvironment_refusesOthers _ hpredefined hsafe.1 hsafe.2
      · rintro oldpath newpath rfl
        exact withLfcEnvironment_refusesOthers _ hpredefined hsafe.1 hsafe.2

/-! ### Two catalogues -/

section Catalogues

private def hostConfig : Config where
  optString group key := if group = lfcEnvVarGroupPlugin ∧ key = lfcEnvVarHost then some (lit "a") else none
  optInteger _ _ := some 1

private def hostStart : LfcContext Unit := lfcPluginInit (fun _ => none) hostConfig [] ()

/-- The operation at another host is followed by one at the configured host, and then by one without a host. -/
theorem run_reaches_named_catalogues : ∃ last, Run (lfcStep (emptyServices Unit)) (ReachesCatalogue (emptyServices Unit)) hostStart
    [.stat (lit "lfc://b/f"), .unlink (lit "lfc://a/g"), .stat (lit "lfn:/h")] last := by
  have hsome : (runAll (lfcStep (emptyServices Unit)) [.stat (lit "lfc://b/f"), .unlink (lit "lfc://a/g"), .stat (lit "lfn:/h")]
      hostStart).isSome = true := by rfl
  have hleft : (runAll (lfcStep (emptyServices Unit)) [.stat (lit "lfc://b/f"), .unlink (lit "lfc://a/g")] hostStart).map (fun context =>
      (context.env lfcEnvVarHost, context.config.optString lfcEnvVarGroupPlugin lfcEnvVarHost)) = some (some (lit "a"), some (lit "a")) := by
    rfl
  obtain ⟨last, hlast⟩ := Option.isSome_iff_exists.mp hsome
  obtain ⟨first, hstat, hrest⟩ := Option.bind_eq_some_iff.mp hlast
  obtain ⟨second, hunlink, hrest⟩ := Option.bind_eq_some_iff.mp hrest
  obtain ⟨third, hstat', hnil⟩ := Option.bind_eq_some_iff.mp hrest
  cases hnil
  simp only [runAll, hstat, hunlink, Option.bind_some, Option.map_some, Option.some.injEq, Prod.mk.injEq] at hleft
  refine ⟨last, run_reaches_catalogues (by rfl) (.cons ?_ hstat (.cons ?_ hunlink (.cons ?_ hstat' (.nil _))))⟩
  · intro url hurl hlfn
    cases hurl
    exact absurd hlfn (by decide)
  · intro url hurl hlfn
    cases hurl
    exact absurd hlfn (by decide)
  · intro url _ _
    exact .inr (hleft.1.trans hleft.2.symm)

/-- After an operation at another host, a URL without a host goes there and not to the configured host. -/
theorem lfn_goes_to_last_host : ¬∀ (W : Type) (services : LfcServices W) (env : Environment) (config : Config) (creds : CredMapping)
    (world : W) (actions : List LfcAction) (last : LfcContext W), env lfcEnvVarHost = none →
    config.optString lfcEnvVarGroupPlugin lfcEnvVarHost ≠ none →
      Run (lfcStep services) (fun _ _ => True) (lfcPluginInit env config creds world) actions last →
        Run (lfcStep services) (ReachesCatalogue services) (lfcPluginInit env config creds world) actions last := by
  intro hall
  have hsome : ((lfcStep (emptyServices Unit) (.stat (lit "lfc://b/f")) hostStart).bind (lfcStep (emptyServices Unit) (.unlink (lit "lfn:/g")))).isSome = true := by
    rfl
  obtain ⟨last, hlast⟩ := Option.isSome_iff_exists.mp hsome
  obtain ⟨middle, hstat, hunlink⟩ := Option.bind_eq_some_iff.mp hlast
  have hrun := hall Unit (emptyServices Unit) (fun _ => none) hostConfig [] () _ last (by rfl) (by decide)
    (.cons (by trivial) hstat (.cons (by trivial) hunlink (.nil _)))
  cases hrun with
  | cons _ hstat' hrest =>
      obtain rfl := Option.some.inj (hstat.symm.trans hstat')
      cases hrest with
      | cons hreaches hunlink' _ =>
          obtain ⟨made, hcalls, hright⟩ := hreaches.calls _ hunlink
          have hconfig : (lfcStep (emptyServices Unit) (.stat (lit "lfc://b/f")) hostStart).map (fun context =>
              (context.config.optString lfcEnvVarGroupPlugin lfcEnvVarHost, context.calls.length)) = some (some (lit "a"), 1) := by
            rfl
          have hmade : ((lfcStep (emptyServices Unit) (.stat (lit "lfc://b/f")) hostStart).bind
              (lfcStep (emptyServices Unit) (.unlink (lit "lfn:/g")))).map (fun context => context.calls.drop 1) =
                some [⟨[lit "lfn:/g"], .delfilesbyname (lit "/g"), some (lit "b"), some ⟨ENOENT, 0⟩⟩] := by
            rfl
          rw [hstat, Option.map_some, Option.some.injEq, Prod.mk.injEq] at hconfig
          rw [hlast, Option.map_some, Option.some.injEq, hcalls, List.drop_left' hconfig.2] at hmade
          have hwrong := hright _ (hmade ▸ List.mem_cons_self) (lit "lfn:/g") (by decide) (lit "a") (.inr ⟨⟨lit "g", by rfl⟩, hconfig.1⟩)
          exact absurd hwrong (by decide)

end Catalogues

end Gfal2
