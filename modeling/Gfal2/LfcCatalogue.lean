import Gfal2.LfcCalls

/-! The catalogues behind the library of the LFC plugin, and what the creation of an entry does to them. Nothing that has been created is
taken back when a later call fails. -/

namespace Gfal2

open Base Exec

/-! ### Catalogues -/

/-- The catalogues of all hosts: the entry of a path, and the server of a replica that is attached to the entry of an identifier. -/
structure Catalogue where
  entry : Option CString → CString → Option LfcFilestatg
  server : Option CString → CString → CString → Option CString

namespace Catalogue

variable (catalogue : Catalogue) (host : Option CString)

def hold (path : CString) (stat : LfcFilestatg) : Catalogue :=
  { catalogue with
    entry := fun host' path' => if host' = host ∧ path' = path then some stat else catalogue.entry host' path' }

def resize (guid : CString) (filesize : Nat) (csumtype csumvalue : CString) : Catalogue :=
  { catalogue with
    entry := fun host' path' => (catalogue.entry host' path').map fun stat =>
      if host' = host ∧ stat.guid = guid then { stat with filesize := filesize, csumtype := csumtype, csumvalue := csumvalue } else stat }

def attach (guid sfn server : CString) : Catalogue :=
  { catalogue with
    server := fun host' guid' sfn' =>
      if host' = host ∧ guid' = guid ∧ sfn' = sfn then some server else catalogue.server host' guid' sfn' }

/-- No entry is lost, and the replicas stay what they are. -/
structure Grows (before after : Catalogue) : Prop where
  entry : ∀ host path, before.entry host path ≠ none → after.entry host path ≠ none
  server : after.server = before.server

/-- There is an entry that was not there. -/
def Gains (before after : Catalogue) : Prop := ∃ host path, before.entry host path = none ∧ after.entry host path ≠ none

variable {catalogue host} {before middle after : Catalogue} {path guid : CString} {stat : LfcFilestatg}
  {csumtype csumvalue : CString} {filesize : Nat}

theorem Grows.refl (catalogue : Catalogue) : Grows catalogue catalogue := ⟨fun _ _ h => h, rfl⟩

theorem Grows.trans (hbefore : Grows before middle) (hafter : Grows middle after) : Grows before after :=
  ⟨fun host path h => hafter.entry host path (hbefore.entry host path h), hafter.server.trans hbefore.server⟩

theorem not_gains (catalogue : Catalogue) : ¬Gains catalogue catalogue := fun ⟨_, _, hnone, hsome⟩ => hsome hnone

theorem gains_trans_iff (hbefore : Grows before middle) (hafter : Grows middle after) :
    Gains before after ↔ Gains before middle ∨ Gains middle after := by
  constructor
  · rintro ⟨host, path, hnone, hsome⟩
    by_cases hmiddle : middle.entry host path = none
    · exact .inr ⟨host, path, hmiddle, hsome⟩
    · exact .inl ⟨host, path, hnone, hmiddle⟩
  · rintro (⟨host, path, hnone, hsome⟩ | ⟨host, path, hnone, hsome⟩)
    · exact ⟨host, path, hnone, hafter.entry host path hsome⟩
    · refine ⟨host, path, ?_, hsome⟩
      by_contra hkept
      exact hbefore.entry host path hkept hnone

theorem hold_entry : (catalogue.hold host path stat).entry host path = some stat := if_pos ⟨rfl, rfl⟩

theorem hold_grows : Grows catalogue (catalogue.hold host path stat) := by
  refine ⟨fun host' path' hkept => ?_, by rfl⟩
  show (if host' = host ∧ path' = path then some stat else catalogue.entry host' path') ≠ none
  split
  · exact Option.some_ne_none _
  · exact hkept

theorem hold_gains (hnone : catalogue.entry host path = none) : Gains catalogue (catalogue.hold host path stat) := by
  refine ⟨host, path, hnone, ?_⟩
  rw [hold_entry]
  exact Option.some_ne_none _

theorem resize_entry_eq_none {host' : Option CString} :
    (catalogue.resize host guid filesize csumtype csumvalue).entry host' path = none ↔ catalogue.entry host' path = none :=
  Option.map_eq_none_iff

theorem resize_grows : Grows catalogue (catalogue.resize host guid filesize csumtype csumvalue) :=
  ⟨fun _ _ hkept hnone => hkept (resize_entry_eq_none.mp hnone), rfl⟩

theorem not_gains_resize : ¬Gains catalogue (catalogue.resize host guid filesize csumtype csumvalue) :=
  fun ⟨_, _, hnone, hsome⟩ => hsome (resize_entry_eq_none.mpr hnone)

end Catalogue

/-! ### The library -/

def LfcCall.asks : LfcCall → Bool
  | .statg _ | .access .. | .getlinks _ | .endtrans | .aborttrans => true
  | _ => false

variable {W : Type} (services : LfcServices W) (view : W → Catalogue)

/-- What is taken for granted of the library: a call that asks or fails changes nothing, an entry is created where there is none, an
identifier that is drawn is no entry's, and the type and the value of a checksum fit into their arrays. -/
structure CatalogueLaws : Prop where
  found : ∀ env path world stat, (services.answer env (.statg path) world).1 = .ok stat →
    (view world).entry (env lfcEnvVarHost) path = some stat ∧ stat.csumtype.length < 3 ∧ stat.csumvalue.length < 33
  missing : ∀ env path world failure, (services.answer env (.statg path) world).1 = .error failure →
    gfalLfcGetErrno services failure = ENOENT → (view world).entry (env lfcEnvVarHost) path = none
  asks : ∀ env (call : LfcCall) world, call.asks = true → view (services.answer env call world).2 = view world
  refused : ∀ env (call : LfcCall) world failure, call.failure (services.answer env call world).1 = some failure →
    view (services.answer env call world).2 = view world
  mkdirg : ∀ env path guid mode world, (services.answer env (.mkdirg path guid mode) world).1 = .ok () →
    (view world).entry (env lfcEnvVarHost) path = none ∧
      ∃ stat, view (services.answer env (.mkdirg path guid mode) world).2 = (view world).hold (env lfcEnvVarHost) path stat
  creatg : ∀ env path guid mode world, (services.answer env (.creatg path guid mode) world).1 = .ok () →
    (view world).entry (env lfcEnvVarHost) path = none ∧
      ∃ stat, stat.guid = guid ∧
        view (services.answer env (.creatg path guid mode) world).2 = (view world).hold (env lfcEnvVarHost) path stat
  setfsizeg : ∀ env guid filesize csumtype csumvalue world,
    (services.answer env (.setfsizeg guid filesize csumtype csumvalue) world).1 = .ok () →
      view (services.answer env (.setfsizeg guid filesize csumtype csumvalue) world).2 =
        (view world).resize (env lfcEnvVarHost) guid filesize csumtype csumvalue
  addreplica : ∀ env guid uniqueId server sfn world, (services.answer env (.addreplica guid uniqueId server sfn) world).1 = .ok () →
    view (services.answer env (.addreplica guid uniqueId server sfn) world).2 =
      (view world).attach (env lfcEnvVarHost) guid sfn server
  generateGuid : ∀ world, view (services.generateGuid world).2 = view world ∧
    ∀ host sfn, (view world).server host (services.generateGuid world).1 sfn = none
  sourceStat : ∀ url world, view (services.sourceStat url world).2 = view world
  sourceChecksum : ∀ url type world, view (services.sourceChecksum url type world).2 = view world

/-- A directory or a file has been created. -/
def LfcRequest.Creates (request : LfcRequest) : Prop :=
  request.failure = none ∧ match request.call with
    | .mkdirg .. | .creatg .. => True
    | _ => False

def LfcRequest.Attaches (request : LfcRequest) : Prop :=
  match request.call with
  | .addreplica .. => True
  | _ => False

variable {services view} {α : Type} {context context' : LfcContext W} {urls : List CString}

/-! ### Asking -/

structure OnlyAsked (view : W → Catalogue) (before after : LfcContext W) : Prop where
  world : view after.world = view before.world
  calls : ∃ made, after.calls = before.calls ++ made ∧ ∀ request ∈ made, request.call.asks = true

namespace OnlyAsked

theorem refl (context : LfcContext W) : OnlyAsked view context context := ⟨rfl, [], by simp, by simp⟩

theorem trans (a b c : LfcContext W) (hab : OnlyAsked view a b) (hbc : OnlyAsked view b c) : OnlyAsked view a c := by
  obtain ⟨first, hb, hfirst⟩ := hab.calls
  obtain ⟨last, hc, hlast⟩ := hbc.calls
  refine ⟨hbc.world.trans hab.world, first ++ last, by rw [hc, hb, List.append_assoc], fun request hmem => ?_⟩
  rcases List.mem_append.mp hmem with hmem | hmem
  · exact hfirst request hmem
  · exact hlast request hmem

theorem call (hlaws : CatalogueLaws services view) (urls : List CString) (call : LfcCall) (hasks : call.asks = true) :
    Exec.Within (OnlyAsked view) (callLfc services urls call) := by
  intro context answer context' h
  obtain ⟨-, rfl⟩ := ok_inj h
  refine ⟨hlaws.asks _ _ _ hasks, _, by rfl, fun request hmem => ?_⟩
  rw [List.mem_singleton.mp hmem]
  exact hasks

end OnlyAsked

theorem urlConverter_onlyAsked (hlaws : CatalogueLaws services view) (url : CString) :
    Exec.Within (OnlyAsked view) (urlConverter services url) := by
  rw [urlConverter]
  apply Exec.Within.ite fun _ => .pure OnlyAsked.refl _
  intro _
  apply Exec.Within.ite fun _ => .bind OnlyAsked.trans (.get OnlyAsked.refl) fun _ => .pure OnlyAsked.refl _
  intro _
  apply Exec.Within.ite
  · intro _
    cases lfcFullUrlconverter url with
    | none => exact .pure OnlyAsked.refl _
    | some found => exact .pure OnlyAsked.refl _
  · intro _
    refine .bind OnlyAsked.trans (.bind OnlyAsked.trans (OnlyAsked.call hlaws _ _ (by rfl)) fun answer => ?_) fun answer => ?_
    · cases (answer : Except LfcFailure (Option CString)) with
      | error failure => exact .pure OnlyAsked.refl _
      | ok links =>
          dsimp only
          cases links.filter (·.length < 2048) with
          | none => exact .pure OnlyAsked.refl _
          | some path => exact .pure OnlyAsked.refl _
    · cases answer with
      | error e => exact .pure OnlyAsked.refl _
      | ok path => exact .pure OnlyAsked.refl _

theorem configures_onlyAsked (a b : LfcContext W) (h : Configures a b) : OnlyAsked view a b := by
  rw [h.same]
  exact ⟨by rfl, [], by simp, by simp⟩

theorem restored_onlyAsked (a : LfcContext W) : OnlyAsked view a a.restored := ⟨by rfl, [], by simp [LfcContext.restored], by simp⟩

section Asking

variable (hlaws : CatalogueLaws services view)
include hlaws

theorem gfalLfcStatg_onlyAsked (urls : List CString) (path : CString) :
    Exec.Within (OnlyAsked view) (gfalLfcStatg services urls path) :=
  .bind OnlyAsked.trans (OnlyAsked.call hlaws _ _ (by rfl)) fun _ => .pure OnlyAsked.refl _

theorem lfcStatG_onlyAsked (url : CString) : Exec.Within (OnlyAsked view) (lfcStatG services url) := by
  apply withLfcEnvironment_within OnlyAsked.trans (urlConverter_onlyAsked hlaws url) configures_onlyAsked restored_onlyAsked
  refine fun path => .bind OnlyAsked.trans (gfalLfcStatg_onlyAsked hlaws _ _) fun answer => ?_
  cases answer with
  | error e => exact .pure OnlyAsked.refl _
  | ok statbuf => exact .pure OnlyAsked.refl _

theorem lfcChecksumG_onlyAsked (url : CString) (bufferLength : Nat) :
    Exec.Within (OnlyAsked view) (lfcChecksumG services url bufferLength) := by
  apply withLfcEnvironment_within OnlyAsked.trans (urlConverter_onlyAsked hlaws url) configures_onlyAsked restored_onlyAsked
  refine fun path => .bind OnlyAsked.trans (.bind OnlyAsked.trans (gfalLfcStatg_onlyAsked hlaws _ _) fun _ => .pure OnlyAsked.refl _)
    fun answer => ?_
  cases answer with
  | error e => exact .pure OnlyAsked.refl _
  | ok checksumSt => exact .pure OnlyAsked.refl _

/-- Nothing is created before the environment of a registration is set up. -/
theorem registerTarget_onlyAsked (srcUrl dstUrl : CString) :
    Exec.Within (OnlyAsked view) (registerTarget services srcUrl dstUrl) := by
  apply registerTarget_within OnlyAsked.refl OnlyAsked.trans (urlConverter_onlyAsked hlaws _)
  apply getReplicaInfo_within OnlyAsked.refl OnlyAsked.trans
  · exact sourceStat_within OnlyAsked.refl OnlyAsked.trans (fun _ => lfcStatG_onlyAsked hlaws _) fun _ context =>
      ⟨hlaws.sourceStat _ _, [], by simp, by simp⟩
  · exact fun type => sourceChecksum_within OnlyAsked.refl OnlyAsked.trans type (fun _ => lfcChecksumG_onlyAsked hlaws _ _)
      fun _ context => ⟨hlaws.sourceChecksum _ _ _, [], by simp, by simp⟩

end Asking

/-! ### Creating -/

/-- Entries have been created where calls for it have succeeded, and no replica has been attached. -/
structure Grown (view : W → Catalogue) (before after : LfcContext W) : Prop where
  grows : (view before.world).Grows (view after.world)
  calls : ∃ made, after.calls = before.calls ++ made ∧ (∀ request ∈ made, ¬request.Attaches) ∧
    ((∃ request ∈ made, request.Creates) ↔ (view before.world).Gains (view after.world))

namespace Grown

theorem of_view_eq {before after : LfcContext W} (hworld : view after.world = view before.world) (hcalls : after.calls = before.calls) :
    Grown view before after := by
  refine ⟨?_, [], by rw [hcalls, List.append_nil], by simp, ?_⟩
  · rw [hworld]
    exact .refl _
  · rw [hworld]
    simp [Catalogue.not_gains]

theorem refl (context : LfcContext W) : Grown view context context := of_view_eq rfl rfl

theorem trans (a b c : LfcContext W) (hab : Grown view a b) (hbc : Grown view b c) : Grown view a c := by
  obtain ⟨first, hb, hfirst, hgained⟩ := hab.calls
  obtain ⟨last, hc, hlast, hgained'⟩ := hbc.calls
  refine ⟨hab.grows.trans hbc.grows, first ++ last, by rw [hc, hb, List.append_assoc], fun request hmem => ?_, ?_⟩
  · rcases List.mem_append.mp hmem with hmem | hmem
    · exact hfirst request hmem
    · exact hlast request hmem
  · rw [Catalogue.gains_trans_iff hab.grows hbc.grows, ← hgained, ← hgained']
    simp only [List.mem_append, or_and_right, exists_or]

/-- A call that attaches nothing, where what it changes is known. -/
theorem call {call : LfcCall} {answer : call.Answer} (h : callLfc services urls call context = .ok (answer, context'))
    (hattaches : ¬LfcRequest.Attaches ⟨urls, call, none, none⟩)
    (hgrows : call.failure answer = none → (view context.world).Grows (view context'.world))
    (hrefused : call.failure answer ≠ none → view context'.world = view context.world)
    (hgains : (view context.world).Gains (view context'.world) ↔ LfcRequest.Creates ⟨urls, call, none, call.failure answer⟩) :
    Grown view context context' := by
  obtain ⟨rfl, rfl⟩ := ok_inj h
  refine ⟨?_, _, by rfl, fun request hmem => ?_, ?_⟩
  · by_cases hok : call.failure (services.answer context.env call context.world).1 = none
    · exact hgrows hok
    · rw [hrefused hok]
      exact .refl _
  · rw [List.mem_singleton.mp hmem]
    exact hattaches
  · rw [hgains]
    simp only [List.mem_singleton, exists_eq_left]
    exact Iff.rfl

/-- A call that has put an entry where there was none. -/
theorem held {call : LfcCall} {answer : call.Answer} (h : callLfc services urls call context = .ok (answer, context'))
    (hattaches : ¬LfcRequest.Attaches ⟨urls, call, none, none⟩) (hok : call.failure answer = none) {host : Option CString}
    {path : CString} {stat : LfcFilestatg} (hnone : (view context.world).entry host path = none)
    (hheld : view context'.world = (view context.world).hold host path stat)
    (hcreates : LfcRequest.Creates ⟨urls, call, none, call.failure answer⟩) : Grown view context context' := by
  refine Grown.call h hattaches (fun _ => ?_) (fun hfailed => absurd hok hfailed) ?_
  · rw [hheld]
    exact Catalogue.hold_grows
  · rw [hheld]
    exact iff_of_true (Catalogue.hold_gains hnone) hcreates

theorem refused (hlaws : CatalogueLaws services view) {call : LfcCall} {answer : call.Answer}
    (h : callLfc services urls call context = .ok (answer, context'))
    (hattaches : ¬LfcRequest.Attaches ⟨urls, call, none, none⟩) {failure : LfcFailure} (hfailure : call.failure answer = some failure) :
    Grown view context context' := by
  obtain ⟨rfl, rfl⟩ := ok_inj h
  have hsame := hlaws.refused context.env call context.world failure hfailure
  refine Grown.call h hattaches (fun hok => ?_) (fun _ => hsame) ?_
  · rw [hfailure] at hok
    cases hok
  · rw [hfailure]
    simp [hsame, Catalogue.not_gains, LfcRequest.Creates]

variable (hlaws : CatalogueLaws services view)
include hlaws

theorem asked (urls : List CString) (call : LfcCall) (hasks : call.asks = true) :
    Exec.Within (Grown view) (callLfc services urls call) := by
  intro context answer context' h
  obtain ⟨-, rfl⟩ := ok_inj h
  have hworld := hlaws.asks context.env call context.world hasks
  refine ⟨?_, _, by rfl, fun request hmem => ?_, ?_⟩
  · show (view context.world).Grows (view (services.answer context.env call context.world).2)
    rw [hworld]
    exact .refl _
  · rw [List.mem_singleton.mp hmem]
    cases call <;> simp_all [LfcCall.asks, LfcRequest.Attaches]
  · show _ ↔ (view context.world).Gains (view (services.answer context.env call context.world).2)
    rw [hworld]
    cases call <;> simp_all [LfcCall.asks, LfcRequest.Creates, Catalogue.not_gains]

theorem setWorld (context : LfcContext W) :
    Grown view context { context with world := (services.generateGuid context.world).2 } :=
  of_view_eq (hlaws.generateGuid context.world).1 rfl

theorem mkdirg (urls : List CString) (path guid : CString) (mode : ModeT) :
    Exec.Within (Grown view) (callLfc services urls (.mkdirg path guid mode)) := by
  intro context answer context' h
  obtain ⟨hanswer, rfl⟩ := ok_inj h
  cases hresult : (answer : Except LfcFailure Unit) with
  | error failure =>
      subst hresult
      exact refused hlaws h (by simp [LfcRequest.Attaches]) (by rfl)
  | ok value =>
      subst hresult
      obtain ⟨hnone, stat, hheld⟩ := hlaws.mkdirg context.env path guid mode context.world hanswer
      exact held h (by simp [LfcRequest.Attaches]) (by rfl) hnone hheld ⟨by rfl, by trivial⟩

theorem creatg (urls : List CString) (path guid : CString) (mode : ModeT) :
    Exec.Within (Grown view) (callLfc services urls (.creatg path guid mode)) := by
  intro context answer context' h
  obtain ⟨hanswer, rfl⟩ := ok_inj h
  cases hresult : (answer : Except LfcFailure Unit) with
  | error failure =>
      subst hresult
      exact refused hlaws h (by simp [LfcRequest.Attaches]) (by rfl)
  | ok value =>
      subst hresult
      obtain ⟨hnone, stat, -, hheld⟩ := hlaws.creatg context.env path guid mode context.world hanswer
      exact held h (by simp [LfcRequest.Attaches]) (by rfl) hnone hheld ⟨by rfl, by trivial⟩

theorem setfsizeg (urls : List CString) (guid : CString) (info : SizeAndChecksum) :
    Exec.Within (Grown view) (callLfc services urls (.setfsizeg guid info.filesize info.csumtype info.csumvalue)) := by
  intro context answer context' h
  obtain ⟨hanswer, rfl⟩ := ok_inj h
  cases hresult : (answer : Except LfcFailure Unit) with
  | error failure =>
      subst hresult
      exact refused hlaws h (by simp [LfcRequest.Attaches]) (by rfl)
  | ok value =>
      subst hresult
      have hresized := hlaws.setfsizeg context.env guid info.filesize info.csumtype info.csumvalue context.world hanswer
      refine call h (by simp [LfcRequest.Attaches]) (fun _ => ?_) (fun hfailed => absurd (by rfl) hfailed) ?_
      · dsimp only
        rw [hresized]
        exact Catalogue.resize_grows
      · dsimp only
        rw [hresized]
        simp [Catalogue.not_gains_resize, LfcRequest.Creates]

end Grown

/-! ### Directories and files -/

section Growing

variable (hlaws : CatalogueLaws services view)
include hlaws

theorem gfalLfcMkdir_grown (urls : List CString) (path : CString) (mode : ModeT) :
    Exec.Within (Grown view) (gfalLfcMkdir services urls path mode) := by
  intro context answer context' h
  rw [gfalLfcMkdir, get_bind_apply] at h
  obtain ⟨_, drawn, hdraw, h⟩ := bind_eq_ok.mp h
  obtain ⟨-, rfl⟩ := ok_inj hdraw
  obtain ⟨made, last, hcall, h⟩ := bind_eq_ok.mp h
  have hlast : context' = last := by
    cases (made : Except LfcFailure Unit) with
    | ok value => exact (ok_inj h).2.symm
    | error failure => exact (ok_inj h).2.symm
  rw [hlast]
  exact (Grown.setWorld hlaws context).trans _ _ _ (Grown.mkdirg hlaws _ _ _ _ _ _ _ hcall)

theorem gfalLfcMkdirRec_grown (urls : List CString) (mode : ModeT) (walked rest : CString) :
    Exec.Within (Grown view) (gfalLfcMkdirRec services urls mode walked rest) := by
  induction rest generalizing walked with
  | nil => exact gfalLfcMkdir_grown hlaws _ _ _
  | cons c rest ih =>
      rw [gfalLfcMkdirRec]
      apply Exec.Within.ite _ fun _ => ih _
      intro _
      apply Exec.Within.ite fun _ => gfalLfcMkdir_grown hlaws _ _ _
      refine fun _ => .bind Grown.trans (gfalLfcMkdir_grown hlaws _ _ _) fun answer => ?_
      cases answer with
      | none => exact ih _
      | some e => exact .ite (fun _ => ih _) fun _ => .pure Grown.refl _

theorem makeDirectories_grown (urls : List CString) (path : CString) (mode : ModeT) (pflag : Bool) :
    Exec.Within (Grown view) (makeDirectories services urls path mode pflag) := by
  refine .bind Grown.trans (gfalLfcMkdir_grown hlaws _ _ _) fun failed => ?_
  cases failed with
  | none => exact .pure Grown.refl _
  | some e =>
      refine .ite (fun _ => ?_) fun _ => .pure Grown.refl _
      cases path with
      | nil => exact .fault _
      | cons c rest => exact gfalLfcMkdirRec_grown hlaws _ _ _ _

theorem gfalLfcIfceMkdirpG_grown (urls : List CString) (path : CString) (mode : ModeT) (pflag : Bool) :
    Exec.Within (Grown view) (gfalLfcIfceMkdirpG services urls path mode pflag) := by
  refine .bind Grown.trans (makeDirectories_grown hlaws _ _ _ _) fun failed => ?_
  cases failed with
  | none => exact .bind Grown.trans (Grown.asked hlaws _ _ (by rfl)) fun _ => .pure Grown.refl _
  | some e => exact .bind Grown.trans (Grown.asked hlaws _ _ (by rfl)) fun _ => .pure Grown.refl _

theorem touchDirectory_grown (urls : List CString) (path : CString) :
    Exec.Within (Grown view) (touchDirectory services urls path) := by
  rw [touchDirectory]
  cases strrchr path '/' with
  | none => exact .pure Grown.refl _
  | some lastSlash =>
      refine .bind Grown.trans (Grown.asked hlaws _ _ (by rfl)) fun answer => ?_
      cases (answer : Except LfcFailure Unit) with
      | ok value => exact .pure Grown.refl _
      | error failure => exact gfalLfcIfceMkdirpG_grown hlaws _ _ _ _

theorem touchFile_grown (urls : List CString) (path guid : CString) (info : SizeAndChecksum) :
    Exec.Within (Grown view) (touchFile services urls path guid info) := by
  refine .bind Grown.trans (Grown.creatg hlaws _ _ _ _) fun answer => ?_
  cases (answer : Except LfcFailure Unit) with
  | error failure => exact .pure Grown.refl _
  | ok value =>
      refine .bind Grown.trans (Grown.setfsizeg hlaws _ _ _) fun answer => ?_
      cases (answer : Except LfcFailure Unit) with
      | error failure => exact .pure Grown.refl _
      | ok value => exact .pure Grown.refl _

theorem lfcTouch_grown (urls : List CString) (path guid : CString) (info : SizeAndChecksum) :
    Exec.Within (Grown view) (lfcTouch services urls path guid info) :=
  .bind Grown.trans (touchDirectory_grown hlaws _ _) fun _ => .ite (fun _ => .pure Grown.refl _) fun _ => touchFile_grown hlaws _ _ _ _

/-- A file that has been created is there with what was given for it. -/
theorem touchFile_created {path guid : CString} {info : SizeAndChecksum}
    (h : touchFile services urls path guid info context = .ok (none, context')) :
    ∃ stat, (view context'.world).entry (context.env lfcEnvVarHost) path = some stat ∧ stat.guid = guid ∧
      stat.filesize = info.filesize ∧ stat.csumtype = info.csumtype ∧ stat.csumvalue = info.csumvalue := by
  obtain ⟨created, middle, hcreate, h⟩ := bind_eq_ok.mp h
  obtain ⟨hcreated, rfl⟩ := ok_inj hcreate
  cases hresult : (created : Except LfcFailure Unit) with
  | error failure =>
      rw [hresult] at h
      cases (ok_inj h).1
  | ok value =>
      subst hresult
      obtain ⟨sized, last, hsize, h⟩ := bind_eq_ok.mp h
      obtain ⟨hsized, rfl⟩ := ok_inj hsize
      cases hresult : (sized : Except LfcFailure Unit) with
      | error failure =>
          rw [hresult] at h
          cases (ok_inj h).1
      | ok value =>
          subst hresult
          obtain ⟨-, rfl⟩ := ok_inj h
          obtain ⟨-, stat, rfl, hheld⟩ := hlaws.creatg context.env path guid 0o644 context.world hcreated
          refine ⟨{ stat with filesize := info.filesize, csumtype := info.csumtype, csumvalue := info.csumvalue }, ?_, by rfl, by rfl, by rfl, by rfl⟩
          dsimp only
          rw [hlaws.setfsizeg _ _ _ _ _ _ hsized]
          dsimp only
          rw [hheld, Catalogue.resize]
          dsimp only
          rw [Catalogue.hold_entry, Option.map_some, if_pos ⟨by rfl, by rfl⟩]

end Growing

/-- A directory that is missing and cannot be created is reported. -/
theorem touchDirectory_error {path : CString} {made : Ret Int}
    (h : touchDirectory services urls path context = .ok (made, context')) (hfailed : made.val ≠ 0) : made.err ≠ none := by
  rw [touchDirectory] at h
  cases hslash : strrchr path '/' with
  | none =>
      rw [hslash] at h
      obtain ⟨rfl, -⟩ := ok_inj h
      exact absurd (by rfl) hfailed
  | some lastSlash =>
      rw [hslash] at h
      obtain ⟨found, middle, -, h⟩ := bind_eq_ok.mp h
      cases (found : Except LfcFailure Unit) with
      | ok value =>
          obtain ⟨rfl, -⟩ := ok_inj h
          exact absurd (by rfl) hfailed
      | error failure =>
          obtain ⟨e, last, -, h⟩ := bind_eq_ok.mp h
          cases e with
          | some e =>
              obtain ⟨_, _, -, h⟩ := bind_eq_ok.mp h
              obtain ⟨rfl, -⟩ := ok_inj h
              exact Option.some_ne_none _
          | none =>
              obtain ⟨ended, after, -, h⟩ := bind_eq_ok.mp h
              obtain ⟨rfl, -⟩ := ok_inj h
              cases (ended : Except LfcFailure Unit) with
              | ok value => exact absurd (by rfl) hfailed
              | error failure => exact Option.some_ne_none _

theorem lfcTouch_created (hlaws : CatalogueLaws services view) {path guid : CString} {info : SizeAndChecksum}
    (h : lfcTouch services urls path guid info context = .ok (none, context')) :
    ∃ stat, (view context'.world).entry (context.env lfcEnvVarHost) path = some stat ∧ stat.guid = guid ∧
      stat.filesize = info.filesize ∧ stat.csumtype = info.csumtype ∧ stat.csumvalue = info.csumvalue := by
  obtain ⟨made, middle, hdirectory, h⟩ := bind_eq_ok.mp h
  split at h
  next hfailed =>
    obtain ⟨hmade, -⟩ := ok_inj h
    exact absurd hmade (touchDirectory_error hdirectory hfailed)
  next =>
    rw [← (onlyCalls_touchDirectory path context _ _ hdirectory).env]
    exact touchFile_created hlaws h

end Gfal2
