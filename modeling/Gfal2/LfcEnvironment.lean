import Gfal2.Base.Runs
import Gfal2.LfcCalls

/-! How the LFC plugin restores the credentials of the environment. There is one copy of what is to be restored, which every operation
that sets up an environment overwrites, and which operations that set up none put back all the same. -/

namespace Gfal2

open Base Exec

variable {W : Type} (services : LfcServices W)

/-! ### When the credentials are restored -/

/-- The URLs of an operation can be converted. -/
def Converts {κ : Type} (resolve : Lfc W (Except (Option GError) κ)) (context : LfcContext W) : Prop :=
  ∃ found context', resolve context = .ok (.ok found, context')

/-- What `gfal_lfc_register` finds out until an environment is set up for the first time, which is for the source if it is at the plugin. -/
def registerFirst (srcUrl dstUrl : CString) : Lfc W (Except (Option GError) Unit) := do
  match ← urlConverter services dstUrl with
  | .error e => return .error e
  | .ok _ =>
      match getHost srcUrl with
      | .error e => return .error (some e)
      | .ok _ =>
          if gfalLfcCheckLfnUrl srcUrl then return (← urlConverter services srcUrl).map fun _ => ()
          else return (← sourceStat services srcUrl).map fun _ => ()

/-- The action restores an environment, that of a directory apart. -/
def LfcAction.restores : LfcAction → Bool
  | .setConfig _ | .setCreds _ | .readdir _ | .closedir _ => false
  | _ => true

/-- The action sets up an environment and saves the credentials that were in it. -/
def SavesEnvironment (context : LfcContext W) : LfcAction → Prop
  | .rename oldpath newpath | .symlink oldpath newpath => Converts (urlConverters services oldpath newpath) context
  | .register srcUrl dstUrl => Converts (registerFirst services srcUrl dstUrl) context
  | .opendir path => Converts (urlConverter services path) context
  | action => ∃ url, action.singleUrl = some url ∧ Converts (urlConverter services url) context

/-- Where an operation saves the credentials while a directory is open, or restores them without having saved them while none is open, they
are those that were saved last. -/
def EnvironmentSafe (action : LfcAction) (context : LfcContext W) : Prop :=
  action.restores = true → (SavesEnvironment services context action ↔ context.dirs ≠ []) → context.env.user = context.ops.envUser

/-- The credentials are those of the start, or, while a directory is open, those are to be restored. -/
def Restorable (start : UserEnvironment) (context : LfcContext W) : Prop :=
  if context.dirs = [] then context.env.user = start else context.ops.envUser = start

variable {services} {α β : Type} {action : LfcAction} {context context' : LfcContext W} {start : UserEnvironment}
  {urls : List CString}

/-! ### What an operation does to the credentials -/

/-- The credentials, those that are to be restored, and the open directories stay as they are. -/
structure KeepsUser (before after : LfcContext W) : Prop where
  user : after.env.user = before.env.user
  envUser : after.ops.envUser = before.ops.envUser
  dirs : after.dirs = before.dirs

theorem KeepsUser.refl (context : LfcContext W) : KeepsUser context context := ⟨rfl, rfl, rfl⟩

theorem KeepsUser.trans (a b c : LfcContext W) (hab : KeepsUser a b) (hbc : KeepsUser b c) : KeepsUser a c :=
  ⟨hbc.user.trans hab.user, hbc.envUser.trans hab.envUser, hbc.dirs.trans hab.dirs⟩

theorem CallsFor.keepsUser (h : CallsFor urls context context') : KeepsUser context context' :=
  ⟨by rw [h.env], h.envUser, h.dirs⟩

theorem OnlyCalls.keepsUser {computation : Lfc W α} (h : OnlyCalls urls computation) : Exec.Within KeepsUser computation :=
  fun state => (h state).mono fun _ _ hcalls => hcalls.keepsUser

/-- The credentials are those that were there, if they were saved, and else those that had been saved before. -/
structure RestoresUser (saves : Prop) (before after : LfcContext W) : Prop where
  dirs : after.dirs = before.dirs
  saved : saves → after.env.user = before.env.user ∧ after.ops.envUser = before.env.user
  unsaved : ¬saves → after.env.user = before.ops.envUser ∧ after.ops.envUser = before.ops.envUser

/-- The credentials are the ones that are to be restored. -/
structure Settled (kept : UserEnvironment) (opened : List LfcOpendirHandle) (context : LfcContext W) : Prop where
  user : context.env.user = kept
  envUser : context.ops.envUser = kept
  dirs : context.dirs = opened

variable {kept : UserEnvironment} {opened : List LfcOpendirHandle} {saves : Prop} {url : CString}

/-- Once the credentials are the ones to be restored, they stay. -/
theorem Settled.of_restoresUser (h : Settled kept opened context) (hrestores : RestoresUser saves context context') :
    Settled kept opened context' := by
  have hdirs := hrestores.dirs.trans h.dirs
  by_cases hsaves : saves
  · exact ⟨(hrestores.saved hsaves).1.trans h.user, (hrestores.saved hsaves).2.trans h.user, hdirs⟩
  · exact ⟨(hrestores.unsaved hsaves).1.trans h.envUser, (hrestores.unsaved hsaves).2.trans h.envUser, hdirs⟩

theorem RestoresUser.settled (h : RestoresUser saves context context') : Settled context'.env.user context.dirs context' := by
  refine ⟨by rfl, ?_, h.dirs⟩
  by_cases hsaves : saves
  · exact (h.saved hsaves).2.trans (h.saved hsaves).1.symm
  · exact (h.unsaved hsaves).2.trans (h.unsaved hsaves).1.symm

/-- An operation whose URLs could be converted restores the credentials it saved, and one whose URLs could not those saved before. -/
theorem Brackets.restoresUser_of {κ : Type}
    {resolve : Lfc W (Except (Option GError) (Option CString × κ))} {operation : Lfc W (Ret α)} {answer : Ret α}
    (hbrackets : Brackets services url urls resolve operation) (h : operation context = .ok (answer, context')) :
    ∃ resolved context₁, resolve context = .ok (resolved, context₁) ∧ RestoresUser (resolved.isOk = true) context₁ context' := by
  obtain ⟨failed, act, rfl, hact⟩ := hbrackets
  obtain ⟨e, context₁, hresolve, -, rfl⟩ | ⟨host, target, context₁, failure, context₂, hresolve, hconfigure, hlast⟩ :=
    withLfcEnvironment_cases h
  · refine ⟨_, _, hresolve, by rfl, ?_, fun _ => ⟨context₁.restored_user, by rfl⟩⟩
    intro hok
    cases hok
  · have hsame := (lfcConfigureEnvironment_configures _ _ _ _ _ hconfigure).same
    have hsaved : context₂.ops.envUser = context₁.env.user ∧ context₂.dirs = context₁.dirs := by
      rw [hsame]
      exact ⟨by rfl, by rfl⟩
    refine ⟨_, _, hresolve, ?_⟩
    obtain ⟨-, -, rfl⟩ | ⟨-, context₃, hcalls, rfl⟩ := hlast
    · exact ⟨hsaved.2, fun _ => ⟨context₂.restored_user.trans hsaved.1, hsaved.1⟩, fun hnot => absurd (by rfl) hnot⟩
    · have hkeeps := (hact target context₂ _ _ hcalls).keepsUser
      have hcopy := hkeeps.envUser.trans hsaved.1
      exact ⟨hkeeps.dirs.trans hsaved.2, fun _ => ⟨context₃.restored_user.trans hcopy, hcopy⟩, fun hnot => absurd (by rfl) hnot⟩

theorem KeepsUser.restoresUser {middle : LfcContext W} (hkeeps : KeepsUser context middle)
    (h : RestoresUser saves middle context') : RestoresUser saves context context' := by
  refine ⟨h.dirs.trans hkeeps.dirs, fun hsaves => ?_, fun hsaves => ?_⟩
  · rw [← hkeeps.user]
    exact h.saved hsaves
  · rw [← hkeeps.envUser]
    exact h.unsaved hsaves

theorem RestoresUser.congr {saves' : Prop} (hsame : saves ↔ saves') (h : RestoresUser saves context context') :
    RestoresUser saves' context context' :=
  ⟨h.dirs, fun hsaves => h.saved (hsame.mpr hsaves), fun hsaves => h.unsaved fun hsaves' => hsaves (hsame.mp hsaves')⟩

theorem converts_iff {κ : Type} {resolve : Lfc W (Except (Option GError) κ)} {resolved : Except (Option GError) κ}
    (h : resolve context = .ok (resolved, context')) : Converts resolve context ↔ resolved.isOk = true := by
  constructor
  · rintro ⟨found, context'', hfound⟩
    obtain ⟨rfl, -⟩ := ok_inj (h.symm.trans hfound)
    rfl
  · intro hok
    cases resolved with
    | error e => cases hok
    | ok found => exact ⟨found, context', h⟩

theorem Brackets.restoresUser {κ : Type}
    {resolve : Lfc W (Except (Option GError) (Option CString × κ))} {operation : Lfc W (Ret α)} {answer : Ret α}
    (hbrackets : Brackets services url urls resolve operation) (hresolve : Exec.Within KeepsUser resolve)
    (h : operation context = .ok (answer, context')) : RestoresUser (Converts resolve context) context context' := by
  obtain ⟨resolved, context₁, hfound, hrestores⟩ := hbrackets.restoresUser_of h
  exact ((hresolve context _ _ hfound).restoresUser hrestores).congr (converts_iff hfound).symm

theorem urlConverter_keepsUser (url : CString) : Exec.Within KeepsUser (urlConverter services url) :=
  (onlyCalls_urlConverter url).keepsUser

theorem urlConverters_keepsUser (oldpath newpath : CString) : Exec.Within KeepsUser (urlConverters services oldpath newpath) := by
  refine .bind KeepsUser.trans (urlConverter_keepsUser _) fun answer => ?_
  cases answer with
  | error e => exact .pure KeepsUser.refl _
  | ok found =>
      refine .bind KeepsUser.trans (urlConverter_keepsUser _) fun answer => ?_
      cases answer with
      | error e => exact .pure KeepsUser.refl _
      | ok found' => exact .pure KeepsUser.refl _

/-! ### Registration -/

/-- The checksums of a source leave the credentials as they were left when it was asked first. -/
theorem replicaChecksum_settled (url : CString) (info : SizeAndChecksum) (types : List CString) :
    Exec.Preserves (Settled kept opened) (replicaChecksum services url info types) := by
  apply preserves_iff_within.mpr
  apply replicaChecksum_within (fun _ => id) fun _ _ _ hab hbc ha => hbc (hab ha)
  refine fun type => sourceChecksum_within (fun _ => id) (fun _ _ _ hab hbc ha => hbc (hab ha)) type (fun _ => ?_)
    fun _ context h => ⟨h.user, h.envUser, h.dirs⟩
  intro context answer context' hrun h
  exact h.of_restoresUser ((brackets_checksumPart LfcChecksum.value 33).restoresUser (urlConverter_keepsUser url) hrun)

/-- A source at another plugin has nothing to do with the credentials. -/
theorem getReplicaInfo_keepsUser (hother : gfalLfcCheckLfnUrl url = false) :
    Exec.Within KeepsUser (getReplicaInfo services url) := by
  apply getReplicaInfo_within KeepsUser.refl KeepsUser.trans
  · exact sourceStat_within KeepsUser.refl KeepsUser.trans (fun hlfc => absurd hlfc (by simp [hother])) fun _ context =>
      ⟨by rfl, by rfl, by rfl⟩
  · exact fun type => sourceChecksum_within KeepsUser.refl KeepsUser.trans type (fun hlfc => absurd hlfc (by simp [hother]))
      fun _ context => ⟨by rfl, by rfl, by rfl⟩

theorem isOk_map {γ ε : Type} (answer : Except ε γ) (f : γ → β) : (answer.map f).isOk = answer.isOk := by
  cases answer <;> rfl

/-- Whether a source at the plugin can be asked is decided by the conversion of its URL. -/
theorem sourceStat_restoresUser (hlfc : gfalLfcCheckLfnUrl url = true) {answer : Except (Option GError) Int}
    (h : sourceStat services url context = .ok (answer, context')) :
    RestoresUser (Converts (urlConverter services url) context) context context' := by
  rw [sourceStat, if_pos hlfc] at h
  obtain ⟨found, after, hstat, h⟩ := bind_eq_ok.mp h
  have hrestores := brackets_stat.restoresUser (urlConverter_keepsUser url) hstat
  obtain ⟨val, err⟩ := found
  cases val with
  | none =>
      obtain ⟨-, rfl⟩ := ok_inj h
      exact hrestores
  | some st =>
      obtain ⟨-, rfl⟩ := ok_inj h
      exact hrestores

/-- What a registration finds out before it sets up its own environment. -/
theorem getReplicaInfo_cases {answer : Except (Option GError) SizeAndChecksum}
    (h : getReplicaInfo services url context = .ok (answer, context')) :
    ∃ stat middle, sourceStat services url context = .ok (stat, middle) ∧ answer.isOk = stat.isOk ∧
      ((∃ e, stat = .error e) ∧ context' = middle ∨
        ∃ info types value, replicaChecksum services url info types middle = .ok (value, context')) := by
  obtain ⟨stat, middle, hstat, h⟩ := bind_eq_ok.mp h
  refine ⟨stat, middle, hstat, ?_⟩
  cases stat with
  | error e =>
      obtain ⟨rfl, rfl⟩ := ok_inj h
      exact ⟨by rfl, .inl ⟨⟨e, by rfl⟩, by rfl⟩⟩
  | ok size =>
      obtain ⟨value, after, hchecksum, h⟩ := bind_eq_ok.mp h
      obtain ⟨rfl, rfl⟩ := ok_inj h
      exact ⟨by rfl, .inr ⟨_, _, _, hchecksum⟩⟩

/-- A registration restores the credentials that its first environment saved. -/
theorem register_restoresUser {srcUrl dstUrl : CString} {answer : Ret Int}
    (h : gfalLfcRegister services srcUrl dstUrl context = .ok (answer, context')) :
    RestoresUser (Converts (registerFirst services srcUrl dstUrl) context) context context' := by
  obtain ⟨resolved, context₁, htarget, hlast⟩ := (brackets_register srcUrl dstUrl).restoresUser_of h
  obtain ⟨converted, middle, hconvert, htarget⟩ := bind_eq_ok.mp htarget
  have hkeeps := urlConverter_keepsUser dstUrl context _ _ hconvert
  cases converted with
  | error e =>
      obtain ⟨rfl, rfl⟩ := ok_inj htarget
      have hfirst : registerFirst services srcUrl dstUrl context = .ok (.error e, middle) := bind_of_ok hconvert
      exact (hkeeps.restoresUser hlast).congr (converts_iff hfirst).symm
  | ok found =>
      cases hhost : getHost srcUrl with
      | error e =>
          simp only [hhost] at htarget
          obtain ⟨rfl, rfl⟩ := ok_inj htarget
          have hfirst : registerFirst services srcUrl dstUrl context = .ok (.error (some e), middle) := by
            rw [registerFirst, bind_of_ok hconvert]
            simp only [hhost]
            rfl
          exact (hkeeps.restoresUser hlast).congr (converts_iff hfirst).symm
      | ok srcHost =>
          simp only [hhost] at htarget
          obtain ⟨info, after, hinfo, htarget⟩ := bind_eq_ok.mp htarget
          obtain ⟨stat, last, hstat, hok, hrest⟩ := getReplicaInfo_cases hinfo
          have hafter : after = context₁ ∧ resolved.isOk = info.isOk := by
            cases info with
            | error e =>
                obtain ⟨rfl, rfl⟩ := ok_inj htarget
                exact ⟨by rfl, by rfl⟩
            | ok value =>
                obtain ⟨rfl, rfl⟩ := ok_inj htarget
                exact ⟨by rfl, by rfl⟩
          obtain ⟨rfl, hresolved⟩ := hafter
          by_cases hlfc : gfalLfcCheckLfnUrl srcUrl = true
          · -- the stat of the source is the first to restore the credentials, and they stay
            have hfirst : Converts (registerFirst services srcUrl dstUrl) context ↔ Converts (urlConverter services srcUrl) middle := by
              have hrun := hstat
              rw [sourceStat, if_pos hlfc] at hrun
              obtain ⟨statbuf, _, hrun, -⟩ := bind_eq_ok.mp hrun
              obtain ⟨found', state, hsource, -⟩ := brackets_stat.restoresUser_of hrun
              have hregister : registerFirst services srcUrl dstUrl context = .ok (found'.map fun _ => (), state) := by
                rw [registerFirst, bind_of_ok hconvert]
                simp only [hhost, if_pos hlfc]
                rw [bind_of_ok hsource]
                rfl
              rw [converts_iff hregister, converts_iff hsource, isOk_map]
            have hsource := (hkeeps.restoresUser (sourceStat_restoresUser hlfc hstat)).congr hfirst.symm
            have hsettled : Settled last.env.user context.dirs after := by
              rcases hrest with ⟨-, rfl⟩ | ⟨info', types, value, hchecksum⟩
              · exact hsource.settled
              · exact replicaChecksum_settled _ _ _ _ hsource.settled _ _ hchecksum
            have hend := hsettled.of_restoresUser hlast
            have hlastUser := hsource.settled.envUser
            refine ⟨hend.dirs, fun hsaves => ?_, fun hsaves => ?_⟩
            · rw [hend.user, hend.envUser, (hsource.saved hsaves).1]
              exact ⟨by rfl, by rfl⟩
            · rw [hend.user, hend.envUser, (hsource.unsaved hsaves).1]
              exact ⟨by rfl, by rfl⟩
          · have hother : gfalLfcCheckLfnUrl srcUrl = false := by simpa using hlfc
            have hfirst : registerFirst services srcUrl dstUrl context = .ok (stat.map fun _ => (), last) := by
              rw [registerFirst, bind_of_ok hconvert]
              simp only [hhost, if_neg hlfc]
              rw [bind_of_ok hstat]
              rfl
            have hsource : KeepsUser context after := hkeeps.trans _ _ _ (getReplicaInfo_keepsUser hother _ _ _ hinfo)
            refine (hsource.restoresUser hlast).congr ?_
            rw [converts_iff hfirst, isOk_map, hresolved, hok]

/-! ### Runs -/

/-- A directory that is opened keeps what is to be restored. -/
theorem opendir_user {path : CString} {answer : Ret (Option LfcOpendirHandle)}
    (h : lfcOpendirG services path context = .ok (answer, context')) :
    RestoresUser (Converts (urlConverter services path) context) context context' ∨
      Converts (urlConverter services path) context ∧ context'.dirs ≠ [] ∧ context'.ops.envUser = context.env.user := by
  obtain ⟨e, context₁, hresolve, rfl⟩ | ⟨host, urlPath, context₁, failure, context₂, hresolve, hconfigure, hlast⟩ := lfcOpendirG_cases h
  · have hkeeps := urlConverter_keepsUser path context _ _ hresolve
    have hrestores : RestoresUser False context₁ context₁.restored :=
      ⟨by rfl, fun hfalse => hfalse.elim, fun _ => ⟨context₁.restored_user, by rfl⟩⟩
    refine .inl ((hkeeps.restoresUser hrestores).congr ?_)
    rw [converts_iff hresolve]
    exact iff_of_false id (by simp [Except.isOk, Except.toBool])
  · have hkeeps := urlConverter_keepsUser path context _ _ hresolve
    have hconverts : Converts (urlConverter services path) context := ⟨_, _, hresolve⟩
    have hsame := (lfcConfigureEnvironment_configures _ _ _ _ _ hconfigure).same
    have hsaved : context₂.ops.envUser = context.env.user ∧ context₂.dirs = context.dirs := by
      rw [hsame]
      exact ⟨hkeeps.user, hkeeps.dirs⟩
    have hrestores (last : LfcContext W) (hlast : KeepsUser context₂ last) :
        RestoresUser (Converts (urlConverter services path) context) context last.restored := by
      have hcopy := hlast.envUser.trans hsaved.1
      exact ⟨hlast.dirs.trans hsaved.2, fun _ => ⟨last.restored_user.trans hcopy, hcopy⟩, fun hnot => absurd hconverts hnot⟩
    obtain ⟨-, rfl⟩ | ⟨-, found, context₃, hcall, rfl | ⟨desc, rfl⟩⟩ := hlast
    · exact .inl (hrestores _ (.refl _))
    · exact .inl (hrestores _ ((OnlyCalls.call _).keepsUser context₂ _ _ hcall))
    · exact .inr ⟨hconverts, by simp, ((OnlyCalls.call _).keepsUser context₂ _ _ hcall).envUser.trans hsaved.1⟩

theorem closedir_user {oh : LfcOpendirHandle} {answer : Ret Int} (h : lfcClosedirG services oh context = .ok (answer, context')) :
    context'.env.user = context.ops.envUser ∧ context'.ops.envUser = context.ops.envUser := by
  obtain ⟨closed, middle, hcall, h⟩ := bind_eq_ok.mp h
  have hcalls := ((OnlyCalls.call _).keepsUser context _ _ hcall).envUser
  split at h
  · obtain ⟨-, rfl⟩ := ok_inj h
    exact ⟨(LfcContext.restored_user _).trans hcalls, hcalls⟩
  · obtain ⟨-, rfl⟩ := ok_inj h
    exact ⟨(LfcContext.restored_user _).trans hcalls, hcalls⟩

theorem readdir_keepsUser (oh : LfcOpendirHandle) : Exec.Within KeepsUser (lfcReaddirppG services oh) := by
  refine .bind KeepsUser.trans (OnlyCalls.call _).keepsUser fun answer => ?_
  cases (answer : Except LfcFailure (Option (CString × LfcFilestat))) with
  | error failure => exact .pure KeepsUser.refl _
  | ok found =>
      cases found with
      | none => exact .pure KeepsUser.refl _
      | some entry =>
          exact .bind KeepsUser.trans (.modify fun context => ⟨by rfl, by rfl, by rfl⟩) fun _ => .pure KeepsUser.refl _

theorem Restorable.of_keepsUser (h : Restorable start context) (hkeeps : KeepsUser context context') : Restorable start context' := by
  rw [Restorable, hkeeps.dirs, hkeeps.user, hkeeps.envUser]
  exact h

theorem Restorable.of_restoresUser (h : Restorable start context)
    (hsafe : (saves ↔ context.dirs ≠ []) → context.env.user = context.ops.envUser) (hrestores : RestoresUser saves context context') :
    Restorable start context' := by
  rw [Restorable, hrestores.dirs]
  rw [Restorable] at h
  by_cases hclosed : context.dirs = [] <;> by_cases hsaves : saves
  · rw [if_pos hclosed] at h ⊢
    exact (hrestores.saved hsaves).1.trans h
  · rw [if_pos hclosed] at h ⊢
    rw [(hrestores.unsaved hsaves).1, ← hsafe (iff_of_false hsaves (not_not.mpr hclosed))]
    exact h
  · rw [if_neg hclosed] at h ⊢
    rw [(hrestores.saved hsaves).2, hsafe (iff_of_true hsaves hclosed)]
    exact h
  · rw [if_neg hclosed] at h ⊢
    exact (hrestores.unsaved hsaves).2.trans h

/-- A safe step leaves the credentials such that they can be restored. -/
theorem restorable_step (hsafe : EnvironmentSafe services action context) (h : Restorable start context)
    (hstep : lfcStep services action context = some context') : Restorable start context' := by
  obtain ⟨henabled, hrun⟩ := lfcStep_ok hstep
  have hbracket {saves : Prop} (hrestores : RestoresUser saves context context') (hrestoring : action.restores = true)
      (hsame : SavesEnvironment services context action ↔ saves) : Restorable start context' :=
    h.of_restoresUser (fun hiff => hsafe hrestoring (hsame.trans hiff)) hrestores
  cases action with
  | setConfig config =>
      obtain ⟨-, rfl⟩ := ok_inj hrun
      exact h
  | setCreds creds =>
      obtain ⟨-, rfl⟩ := ok_inj hrun
      exact h
  | readdir oh =>
      obtain ⟨answer, hread⟩ := perform_ok hrun
      exact h.of_keepsUser (readdir_keepsUser oh _ _ _ hread)
  | closedir oh =>
      -- while it is open the credentials of the start are to be restored
      obtain ⟨answer, hclose⟩ := perform_ok hrun
      have hopen : context.dirs ≠ [] := List.ne_nil_of_mem (of_decide_eq_true henabled)
      have hclosed := closedir_user hclose
      rw [Restorable, if_neg hopen] at h
      rw [Restorable, hclosed.1, hclosed.2, h, ite_self]
  | opendir path =>
      obtain ⟨answer, hopen⟩ := perform_ok hrun
      rcases opendir_user hopen with hrestores | ⟨hconverts, hdirs, hcopy⟩
      · exact hbracket hrestores (by rfl) (by rfl)
      · rw [Restorable, if_neg hdirs, hcopy]
        rw [Restorable] at h
        by_cases hclosed : context.dirs = []
        · rwa [if_pos hclosed] at h
        · rw [if_neg hclosed] at h
          exact (hsafe (by rfl) (iff_of_true hconverts hclosed)).trans h
  | rename oldpath newpath =>
      obtain ⟨answer, hop⟩ := perform_ok hrun
      exact hbracket (brackets_rename.restoresUser (urlConverters_keepsUser _ _) hop) (by rfl) (by rfl)
  | symlink oldpath newpath =>
      obtain ⟨answer, hop⟩ := perform_ok hrun
      exact hbracket (brackets_symlink.restoresUser (urlConverters_keepsUser _ _) hop) (by rfl) (by rfl)
  | register srcUrl dstUrl =>
      obtain ⟨answer, hop⟩ := perform_ok hrun
      exact hbracket (register_restoresUser hop) (by rfl) (by rfl)
  | _ =>
      obtain ⟨α, operation, answer, hbrackets, hop⟩ := perform_single (by rfl) hrun
      refine hbracket (hbrackets.restoresUser (urlConverter_keepsUser _) hop) (by rfl) ?_
      simp [SavesEnvironment, LfcAction.singleUrl]

/-- In every run of the plugin in which each step is safe, the credentials are those of the start whenever no directory is open. -/
theorem credentials_restored {env : Environment} {config : Config} {creds : CredMapping} {world : W} {actions : List LfcAction}
    {last : LfcContext W}
    (hrun : Run (lfcStep services) (EnvironmentSafe services) (lfcPluginInit env config creds world) actions last)
    (hclosed : last.dirs = []) : last.env.user = env.user := by
  have hlast : Restorable env.user last := by
    refine hrun.invariant (Restorable env.user) (fun action state state' hsafe hstate hstep => restorable_step hsafe hstate hstep) ?_
    rw [Restorable, if_pos (by rfl)]
    rfl
  rwa [Restorable, if_pos hclosed] at hlast

/-! ### A proxy in the environment -/

section Proxy

/-- A catalogue in which there are directories and nothing else. -/
private def directoryServices : LfcServices Unit :=
  { emptyServices Unit with
    answer := fun _ call world =>
      match call with
      | .opendirg _ => (.ok 1, world)
      | .closedir _ => (.ok (), world)
      | call => (call.fails ⟨ENOENT, 0⟩, world) }

private def proxyEnvironment : Environment := fun name => if name = x509UserProxy then some (lit "/p.pem") else none

private def timeouts : Config where
  optInteger _ _ := some 1

private def urlCreds : CredMapping := storeNode [] (credNode (lit "lfc://h") ⟨lit "X509_CERT", some (lit "/q.pem")⟩)

private def openDirectory : LfcOpendirHandle := ⟨1, lit "lfc://h/d", lit "/d", some (lit "h")⟩

private def listing : Option (LfcContext Unit) :=
  lfcStep directoryServices (.opendir (lit "lfc://h/d")) (lfcPluginInit proxyEnvironment timeouts urlCreds ())

/-- A listing has another proxy, and after it there is the one of the start. -/
theorem credentials_restored_after_listing : ∃ middle last : LfcContext Unit,
    lfcStep directoryServices (.opendir (lit "lfc://h/d")) (lfcPluginInit proxyEnvironment timeouts urlCreds ()) = some middle ∧
      middle.env.user.proxy = some (lit "/q.pem") ∧
      lfcStep directoryServices (.closedir openDirectory) middle = some last ∧ last.env.user = proxyEnvironment.user := by
  have hsome : (listing.bind (lfcStep directoryServices (.closedir openDirectory))).isSome = true := by rfl
  obtain ⟨last, hlast⟩ := Option.isSome_iff_exists.mp hsome
  obtain ⟨middle, hopen, hclose⟩ := Option.bind_eq_some_iff.mp hlast
  have hproxy : listing.map (fun context => (context.env.user.proxy, context.dirs)) = some (some (lit "/q.pem"), [openDirectory]) := by
    rfl
  have hdirs : (listing.bind (lfcStep directoryServices (.closedir openDirectory))).map LfcContext.dirs = some [] := by rfl
  rw [hopen, Option.map_some, Option.some.injEq, Prod.mk.injEq] at hproxy
  rw [hlast, Option.map_some, Option.some.injEq] at hdirs
  refine ⟨middle, last, hopen, hproxy.1, hclose, credentials_restored (.cons ?_ hopen (.cons ?_ hclose (.nil _))) hdirs⟩
  · intro _ hiff
    exact absurd (by rfl) (hiff.mp ⟨_, _, by rfl⟩)
  · intro hrestores
    cases hrestores

/-- An operation whose URL is not valid takes the credentials out of the environment. -/
theorem proxy_removed_by_invalid_url : ¬∀ (W : Type) (services : LfcServices W) (env : Environment) (config : Config) (creds : CredMapping)
    (world : W) (actions : List LfcAction) (last : LfcContext W),
    Run (lfcStep services) (fun _ _ => True) (lfcPluginInit env config creds world) actions last → last.dirs = [] →
      last.env.user = env.user := by
  intro hall
  have hrun : Run (lfcStep directoryServices) (fun _ _ => True) (lfcPluginInit proxyEnvironment timeouts urlCreds ())
      [.stat (lit "lfc://h")] _ := .cons (by trivial) (by rfl) (.nil _)
  exact absurd (hall _ _ _ _ _ _ _ _ hrun (by rfl)) (by decide)

end Proxy

end Gfal2
