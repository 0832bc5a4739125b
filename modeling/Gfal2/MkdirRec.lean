import Gfal2.Base.PathTree
import Gfal2.DispatchContract

/-! `gfal2_mkdir_rec`. When the plugin cannot make the directory because parents are missing, the
function climbs from the URL towards the root until a parent is made or is there, and then replays the
URLs it passed. It climbs on a copy of the URL cut to 2047 characters. Over any directory tree the
function terminates, and returning 0 it has made the directory and its missing ancestors, unless it
had to climb from a copy that lost some of the names. -/

namespace Gfal2

open Base

variable {parent url : CString}

section Model

variable {σ : Type}

abbrev gfalUrlMaxLen : Nat := 2048

/-- One pass of the climb over the URL: strip trailing slashes, go back to the slash before the last
name and cut there. The first character is never looked at; reaching it ends the climb. -/
def parentUrl : CString → Option CString
  | [] => none
  | c :: rest =>
      match (rest.rdropWhile (· == '/')).rdropWhile (· != '/') with
      | [] => none
      | upToSlash => some (c :: upToSlash.dropLast)

theorem not_of_rdropWhile_concat {p : Char → Bool} {s start : CString} {c : Char}
    (h : s.rdropWhile p = start ++ [c]) : p c = false := by
  have hne : s.rdropWhile p ≠ [] := by simp [h]
  have hlast := List.rdropWhile_last_not p s hne
  simpa [h] using hlast

/-- The parts a URL falls into: all one name and trailing slashes, or what is kept, a slash, the last
name and trailing slashes. -/
theorem parentUrl_cases (c : Char) (rest : CString) :
    (parentUrl (c :: rest) = none ∧ ∃ name slashes, rest = name ++ slashes ∧ (∀ c ∈ name, c ≠ '/') ∧
      ∀ c ∈ slashes, c = '/') ∨
    ∃ start name slashes, parentUrl (c :: rest) = some (c :: start) ∧
      rest = start ++ '/' :: (name ++ slashes) ∧ name ≠ [] ∧ (∀ c ∈ name, c ≠ '/') ∧
      ∀ c ∈ slashes, c = '/' := by
  obtain ⟨stripped, hstripped⟩ : ∃ s, rest.rdropWhile (· == '/') = s := ⟨_, rfl⟩
  obtain ⟨upToSlash, hupTo⟩ : ∃ s, stripped.rdropWhile (· != '/') = s := ⟨_, rfl⟩
  have hrest : rest = stripped ++ rest.rtakeWhile (· == '/') := by
    rw [← hstripped, List.rdropWhile_append_rtakeWhile]
  have hslashes : ∀ c ∈ rest.rtakeWhile (· == '/'), c = '/' := fun c hc => by
    simpa using List.mem_rtakeWhile_imp hc
  have hname : ∀ c ∈ stripped.rtakeWhile (· != '/'), c ≠ '/' := fun c hc => by
    simpa using List.mem_rtakeWhile_imp hc
  have hsplit : stripped = upToSlash ++ stripped.rtakeWhile (· != '/') := by
    rw [← hupTo, List.rdropWhile_append_rtakeWhile]
  generalize rest.rtakeWhile (· == '/') = slashes at hrest hslashes
  generalize stripped.rtakeWhile (· != '/') = name at hsplit hname
  rw [parentUrl, hstripped, hupTo]
  rcases List.eq_nil_or_concat' upToSlash with rfl | ⟨start, last, rfl⟩
  · exact Or.inl ⟨rfl, name, slashes, by rw [hrest, hsplit, List.nil_append], hname, hslashes⟩
  · obtain rfl : last = '/' := by simpa using not_of_rdropWhile_concat hupTo
    refine Or.inr ⟨start, name, slashes, ?_, by simp [hrest, hsplit], ?_, hname, hslashes⟩
    · have hdrop : (start ++ ['/']).dropLast = start := List.dropLast_concat
      cases start with
      | nil => rfl
      | cons d start => exact congrArg (fun s => some (c :: s)) hdrop
    · -- without a last name the stripped URL would end in the slash
      rintro rfl
      rw [List.append_nil] at hsplit
      rw [hsplit] at hstripped
      simpa using not_of_rdropWhile_concat hstripped

theorem length_parentUrl (h : parentUrl url = some parent) : parent.length < url.length := by
  cases url with
  | nil => cases h
  | cons c rest =>
      rcases parentUrl_cases c rest with ⟨heq, -⟩ | ⟨start, name, slashes, heq, rfl, -⟩
      · rw [h] at heq
        cases heq
      · rw [h] at heq
        cases heq
        simp only [List.length_cons, List.length_append]
        omega

/-- The climb, from a URL whose parent is missing. It returns the last answer it had, without an error
if it reached the top, and the URLs it passed, the highest first. -/
def mkdirClimb (mode : Nat) (currentUrl : CString) (stackUrl : List CString) :
    Gfal σ (Ret Int × List CString) :=
  match h : parentUrl currentUrl with
  | none => return (⟨-1, none⟩, currentUrl :: stackUrl)
  | some parent => do
      let made ← gfalPluginMkdirp parent mode false
      if made.err.map GError.code = some ENOENT then
        mkdirClimb mode parent (currentUrl :: stackUrl)
      else
        return (made, currentUrl :: stackUrl)
termination_by currentUrl.length
decreasing_by exact length_parentUrl h

theorem mkdirClimb_of_none {mode : Nat} {currentUrl : CString} {stackUrl : List CString} (h : parentUrl currentUrl = none) :
    (mkdirClimb mode currentUrl stackUrl : Gfal σ (Ret Int × List CString)) =
      pure (⟨-1, none⟩, currentUrl :: stackUrl) := by
  rw [mkdirClimb]
  split
  · rfl
  · next parent hparent =>
    rw [h] at hparent
    cases hparent

theorem mkdirClimb_of_some {mode : Nat} {currentUrl : CString} {stackUrl : List CString}
    (h : parentUrl currentUrl = some parent) :
    (mkdirClimb mode currentUrl stackUrl : Gfal σ (Ret Int × List CString)) = (do
      let made ← gfalPluginMkdirp parent mode false
      if made.err.map GError.code = some ENOENT then
        mkdirClimb mode parent (currentUrl :: stackUrl)
      else
        return (made, currentUrl :: stackUrl)) := by
  rw [mkdirClimb]
  split
  · next hparent =>
    rw [h] at hparent
    cases hparent
  · next parent' hparent =>
    rw [h] at hparent
    cases hparent
    rfl

/-- The replay of the stack. The error that is pending belongs to an earlier URL. -/
def mkdirReplay (mode : Nat) (pending : Option GError) : List CString → Gfal σ (Ret Int)
  | [] => return ⟨0, pending⟩
  | url :: rest => do
      let made ← gfalPluginMkdirp url mode false
      if made.val = 0 then
        mkdirReplay mode (pending.or made.err) rest
      else
        match pending.or made.err with
        | none => Exec.fault .nullDereference
        | some e => if e.code = EEXIST then mkdirReplay mode none rest else return ⟨made.val, some e⟩

/-- The step-by-step creation, on the copy of the URL that fits the buffer. -/
def mkdirStepByStep (url : CString) (mode : Nat) : Gfal σ (Ret Int) := do
  let climbed ← mkdirClimb mode (url.take (gfalUrlMaxLen - 1)) []
  match climbed.1.err with
  | none => mkdirReplay mode none climbed.2
  | some e => if e.code = EEXIST then mkdirReplay mode none climbed.2 else return climbed.1

def gfal2MkdirRec (url : Option CString) (mode : Nat) : Gfal σ (Ret Int) :=
  scopeCancel (-1) do
    match url with
    | none =>
        return ⟨-1, some ⟨gfal2GetCoreQuark, EFAULT, lit "context or/and url are incorrect arguments"⟩⟩
    | some url =>
        let made ← gfalPluginMkdirp url mode true
        match made.err with
        | none => return made
        | some e =>
            if e.code = EEXIST then
              return ⟨0, none⟩
            else if e.code = ENOENT then
              mkdirStepByStep url mode
            else
              return made

end Model

/-! ### The names of a parent -/

/-- A URL that the climb stops at has at most one name. -/
theorem components_of_parentUrl_none (h : parentUrl url = none) : (components url).dropLast = [] := by
  cases url with
  | nil => rfl
  | cons c rest =>
      rcases parentUrl_cases c rest with ⟨-, name, slashes, rfl, hname, hslashes⟩ | ⟨start, name, slashes, heq, -⟩
      · rw [← List.cons_append, components_append_slashes _ hslashes]
        by_cases hc : c = '/'
        · subst hc
          rw [components_slash]
          by_cases hnil : name = []
          · subst hnil
            rfl
          · rw [components_of_noSlash hnil hname]
            rfl
        · rw [components_of_noSlash (List.cons_ne_nil c name) (List.forall_mem_cons.mpr ⟨hc, hname⟩)]
          rfl
      · rw [h] at heq
        cases heq

/-- The climb goes to the parent directory. -/
theorem components_of_parentUrl_some (h : parentUrl url = some parent) : components parent = (components url).dropLast := by
  cases url with
  | nil => cases h
  | cons c rest =>
      rcases parentUrl_cases c rest with ⟨heq, -⟩ | ⟨start, name, slashes, heq, rfl, hne, hname, hslashes⟩
      · rw [h] at heq
        cases heq
      · rw [h] at heq
        cases heq
        rw [← List.cons_append, components_append_slash, components_append_slashes _ hslashes,
          components_of_noSlash hne hname, List.dropLast_concat]

/-! ### Plugins over one directory tree -/

section Tree

/-- What the request for a directory may answer over a tree, and the tree it leaves. A URL that no plugin
serves is refused with an error that says neither that the directory is there nor that its parent is
missing. -/
inductive MkdirAnswer (served : Prop) (tree : PathTree CString) (path : List CString) :
    Ret Int → PathTree CString → Prop where
  | made (hnew : path ∉ tree) (hparent : path.dropLast ∈ tree) :
      MkdirAnswer served tree path ⟨0, none⟩ (tree.add path hparent)
  | existing {n : Int} {e : GError} (hmem : path ∈ tree) (hn : n < 0) (hcode : e.code = EEXIST) :
      MkdirAnswer served tree path ⟨n, some e⟩ tree
  | orphan {n : Int} {e : GError} (hparent : path.dropLast ∉ tree) (hn : n < 0) (hcode : e.code = ENOENT) :
      MkdirAnswer served tree path ⟨n, some e⟩ tree
  | refused {n : Int} {e : GError} (hserved : ¬served) (hn : n < 0) (hmissing : e.code ≠ ENOENT)
      (hexisting : e.code ≠ EEXIST) : MkdirAnswer served tree path ⟨n, some e⟩ tree

theorem MkdirAnswer.growsTo {served : Prop} {tree tree' : PathTree CString} {path : List CString} {ret : Ret Int}
    (h : MkdirAnswer served tree path ret tree') : tree.GrowsTo tree' path := by
  cases h with
  | made hnew hparent => exact PathTree.growsTo_add tree path hparent
  | existing => exact PathTree.GrowsTo.refl tree path
  | orphan => exact PathTree.GrowsTo.refl tree path
  | refused => exact PathTree.GrowsTo.refl tree path

theorem MkdirAnswer.weaken {served served' : Prop} {tree tree' : PathTree CString} {path : List CString}
    {ret : Ret Int} (h : MkdirAnswer served tree path ret tree') (himp : served' → served) :
    MkdirAnswer served' tree path ret tree' := by
  cases h with
  | made hnew hparent => exact .made hnew hparent
  | existing hmem hn hcode => exact .existing hmem hn hcode
  | orphan hparent hn hcode => exact .orphan hparent hn hcode
  | refused hserved hn hmissing hexisting => exact .refused (hserved ∘ himp) hn hmissing hexisting

/-- The plugin the search finds for making a directory. -/
def mkdirPlugin (opts : GfalPluginOpts (PathTree CString)) (tree : PathTree CString) (url : CString) :
    Ret (Option Slot) :=
  gfalFindLoop { pluginOpt := opts, world := tree } url .mkdir opts.sortedPlugin

/-- Loaded plugins of which those that are found for a URL make directories in one tree. -/
structure TreePlugins (opts : GfalPluginOpts (PathTree CString)) : Prop where
  number_pos : 0 < opts.pluginNumber
  check_err : ∀ tree url e, (mkdirPlugin opts tree url).err = some e → e.code ≠ ENOENT ∧ e.code ≠ EEXIST
  answers : ∀ tree url slot, (mkdirPlugin opts tree url).val = some slot →
    ∃ call, (opts.pluginList slot).mkdirpG = some call ∧ ∀ mode pflag,
      MkdirAnswer True tree (components url) (call url mode pflag tree).1 (call url mode pflag tree).2

/-- Every URL is served by some plugin. -/
def ServesAll (opts : GfalPluginOpts (PathTree CString)) : Prop :=
  ∀ tree url, (mkdirPlugin opts tree url).val.isSome = true

theorem gfalFindLoop_congr {σ : Type} {a b : Gfal2Context σ} (hopts : a.pluginOpt = b.pluginOpt)
    (hworld : a.world = b.world) (url : CString) (mode : PluginMode) (slots : List Slot) :
    gfalFindLoop a url mode slots = gfalFindLoop b url mode slots := by
  have hcheck : ∀ slot, gfalPluginCheckerSafe a slot url mode = gfalPluginCheckerSafe b slot url mode := by
    intro slot
    rw [gfalPluginCheckerSafe, gfalPluginCheckerSafe, hopts, hworld]
  induction slots with
  | nil => rfl
  | cons slot rest ih =>
      unfold gfalFindLoop
      rw [hcheck slot, ih]

variable {context : Gfal2Context (PathTree CString)}

theorem dispatch_mkdirp (htree : TreePlugins context.pluginOpt) (url : CString) (mode : Nat) (pflag : Bool) :
    ∃ ret context', dispatchUrl .mkdir .mkdirpG url (-1) (fun p => p.mkdirpG.map (· url mode pflag)) context =
        .ok (ret, context') ∧ context'.pluginOpt = context.pluginOpt ∧
      MkdirAnswer (ServesAll context.pluginOpt) context.world (components url) ret context'.world := by
  have hfind : gfalFindPlugin url .mkdir context =
      .ok (findOutcome url (mkdirPlugin context.pluginOpt context.world url), context) := by
    refine gfalFindPlugin_eq_ok.mpr ⟨_, gfalPluginsInstance_of_pos htree.number_pos, ?_⟩
    rw [if_pos htree.number_pos, mkdirPlugin]
    congr 1
    apply gfalFindLoop_congr <;> rfl
  rw [dispatchUrl, Exec.bind_of_ok hfind]
  rcases hfound : mkdirPlugin context.pluginOpt context.world url with ⟨_ | slot, err⟩
  · have hserved : ¬ServesAll context.pluginOpt := fun h => by simpa [hfound] using h context.world url
    cases err with
    | none =>
        refine ⟨_, context, rfl, rfl, .refused hserved (by omega) ?_ ?_⟩
        · exact fun h => absurd h (show EPROTONOSUPPORT ≠ ENOENT by decide)
        · exact fun h => absurd h (show EPROTONOSUPPORT ≠ EEXIST by decide)
    | some e =>
        have hcode := htree.check_err context.world url e (by rw [hfound])
        exact ⟨_, context, rfl, rfl, .refused hserved (by omega) hcode.1 hcode.2⟩
  · obtain ⟨call, hcall, hanswer⟩ := htree.answers context.world url slot (by rw [hfound])
    have hplugin : callPlugin slot .mkdirpG
        ((context.pluginOpt.pluginList slot).mkdirpG.map (· url mode pflag)) context =
          .ok ((call url mode pflag context.world).1,
            { context with
              world := (call url mode pflag context.world).2
              calls := context.calls ++ [(slot, .mkdirpG)] }) := by
      rw [hcall]
      rfl
    exact ⟨_, _, hplugin, rfl, (hanswer mode pflag).weaken fun _ => trivial⟩

theorem gfalPluginMkdirp_answer (htree : TreePlugins context.pluginOpt) (url : CString) (mode : Nat) :
    ∃ ret context', gfalPluginMkdirp url mode false context = .ok (ret, context') ∧
      context'.pluginOpt = context.pluginOpt ∧
      MkdirAnswer (ServesAll context.pluginOpt) context.world (components url) ret context'.world := by
  obtain ⟨ret, context', hrun, hanswer⟩ := dispatch_mkdirp htree url mode false
  refine ⟨ret, context', ?_, hanswer⟩
  rw [gfalPluginMkdirp, Exec.bind_of_ok hrun, if_neg (by simp), Exec.pure_apply]

/-- With the flag for missing parents the directory that is there counts as made. -/
theorem gfalPluginMkdirp_answer_flag (htree : TreePlugins context.pluginOpt) (url : CString) (mode : Nat) :
    ∃ ret context', gfalPluginMkdirp url mode true context = .ok (ret, context') ∧
      context'.pluginOpt = context.pluginOpt ∧
      (MkdirAnswer (ServesAll context.pluginOpt) context.world (components url) ret context'.world ∨
        ret = ⟨0, none⟩ ∧ components url ∈ context.world ∧ context'.world = context.world) := by
  obtain ⟨ret, context', hrun, hopts, hanswer⟩ := dispatch_mkdirp htree url mode true
  rw [gfalPluginMkdirp, Exec.bind_of_ok hrun]
  generalize htree' : context'.world = tree' at hanswer
  cases hanswer with
  | made hnew hparent => exact ⟨_, context', rfl, hopts, Or.inl (by rw [htree']; exact .made hnew hparent)⟩
  | @existing n e hmem hn hcode =>
      refine ⟨_, context', ?_, hopts, Or.inr ⟨rfl, hmem, htree'⟩⟩
      rw [if_pos ⟨rfl, hn⟩]
      dsimp only
      rw [if_pos hcode, Exec.pure_apply]
  | @orphan n e hparent hn hcode =>
      refine ⟨_, context', ?_, hopts, Or.inl (by rw [htree']; exact .orphan hparent hn hcode)⟩
      rw [if_pos ⟨rfl, hn⟩]
      dsimp only
      rw [if_neg (by rw [hcode]; decide), Exec.pure_apply]
  | @refused n e hserved hn hmissing hexisting =>
      refine ⟨_, context', ?_, hopts, Or.inl (by rw [htree']; exact .refused hserved hn hmissing hexisting)⟩
      rw [if_pos ⟨rfl, hn⟩]
      dsimp only
      rw [if_neg hexisting, Exec.pure_apply]

/-! ### The climb and the replay -/

/-- A stack of the climb below a path: each URL names the parent of the next one. -/
structure ClimbStack (path : List CString) (stackUrl : List CString) : Prop where
  chain : stackUrl.IsChain fun higher lower => components higher = (components lower).dropLast
  below : ∀ url ∈ stackUrl, components url <+: path

/-- The parent of the highest URL is there, so that a replay can start. -/
def RootThere (stackUrl : List CString) (tree : PathTree CString) : Prop :=
  ∀ url ∈ stackUrl.head?, (components url).dropLast ∈ tree

variable {path : List CString}

theorem mkdirClimb_spec (context : Gfal2Context (PathTree CString)) (mode : Nat) (currentUrl : CString)
    (stackUrl : List CString) (htree : TreePlugins context.pluginOpt) (hstack : ClimbStack path (currentUrl :: stackUrl)) :
    ∃ ret stack' context', mkdirClimb mode currentUrl stackUrl context = .ok ((ret, stack'), context') ∧
      context'.pluginOpt = context.pluginOpt ∧ context.world.GrowsTo context'.world path ∧
      ClimbStack path stack' ∧ (∃ higher, stack' = higher ++ currentUrl :: stackUrl) ∧
      ((∀ e, ret.err = some e → e.code = EEXIST) ∧ RootThere stack' context'.world ∨
        ¬ServesAll context.pluginOpt ∧ ret.val < 0 ∧ ∃ e, ret.err = some e ∧ e.code ≠ EEXIST) := by
  cases hparent : parentUrl currentUrl with
  | none =>
    rw [mkdirClimb_of_none hparent]
    refine ⟨_, _, context, rfl, rfl, .refl _ _, hstack, ⟨[], rfl⟩, Or.inl ⟨fun e he => (by cases he), ?_⟩⟩
    intro url hurl
    cases hurl
    rw [components_of_parentUrl_none hparent]
    exact context.world.nil_mem
  | some parent =>
    have hnames := components_of_parentUrl_some hparent
    have hbelow : components parent <+: path :=
      hnames ▸ (List.dropLast_prefix _).trans (hstack.below currentUrl List.mem_cons_self)
    obtain ⟨ret, context', hrun, hopts, hanswer⟩ := gfalPluginMkdirp_answer htree parent mode
    have hgrow := hanswer.growsTo.extend hbelow
    rw [mkdirClimb_of_some hparent, Exec.bind_of_ok hrun]
    generalize htree' : context'.world = tree' at hanswer hgrow
    -- the climb goes on exactly when the parent's own parent is missing
    cases hanswer with
    | made hnew hgrand =>
        refine ⟨_, _, context', rfl, hopts, htree' ▸ hgrow, hstack, ⟨[], rfl⟩,
          Or.inl ⟨fun e he => (by cases he), ?_⟩⟩
        intro url hurl
        cases hurl
        rw [htree', ← hnames]
        exact PathTree.mem_add.mpr (Or.inl rfl)
    | existing hmem hn hcode =>
        dsimp only
        rw [if_neg (by rw [Option.map_some, hcode]; decide)]
        refine ⟨_, _, context', rfl, hopts, htree' ▸ hgrow, hstack, ⟨[], rfl⟩, Or.inl ⟨?_, ?_⟩⟩
        · intro e he
          cases he
          exact hcode
        · intro url hurl
          cases hurl
          rw [htree', ← hnames]
          exact hmem
    | refused hserved hn hmissing hexisting =>
        dsimp only
        rw [if_neg (by simpa using hmissing)]
        exact ⟨_, _, context', rfl, hopts, htree' ▸ hgrow, hstack, ⟨[], rfl⟩,
          Or.inr ⟨hserved, hn, _, rfl, hexisting⟩⟩
    | orphan hgrand hn hcode =>
        dsimp only
        rw [if_pos (by rw [Option.map_some, hcode])]
        have hstack' : ClimbStack path (parent :: currentUrl :: stackUrl) :=
          ⟨.cons_cons hnames hstack.chain, List.forall_mem_cons.mpr ⟨hbelow, hstack.below⟩⟩
        obtain ⟨ret, stack', context'', hclimb, hopts', hgrow', hstack'', ⟨higher, hhigher⟩, hend⟩ :=
          mkdirClimb_spec context' mode parent (currentUrl :: stackUrl) (hopts ▸ htree) hstack'
        refine ⟨ret, stack', context'', hclimb, hopts'.trans hopts, htree' ▸ hgrow', hstack'',
          ⟨higher ++ [parent], ?_⟩, hopts ▸ hend⟩
        rw [hhigher, List.append_assoc, List.singleton_append]
termination_by currentUrl.length
decreasing_by exact length_parentUrl hparent

theorem mkdirReplay_spec (mode : Nat) (stackUrl : List CString) (htree : TreePlugins context.pluginOpt)
    (hstack : ClimbStack path stackUrl) (hroot : RootThere stackUrl context.world) :
    ∃ ret context', mkdirReplay mode none stackUrl context = .ok (ret, context') ∧
      context.world.GrowsTo context'.world path ∧
      (ret.val = 0 ∧ (∀ url ∈ stackUrl, components url ∈ context'.world) ∨
        ¬ServesAll context.pluginOpt ∧ ret.val < 0) := by
  induction stackUrl generalizing context with
  | nil => exact ⟨_, context, rfl, .refl _ _, Or.inl ⟨rfl, fun url hurl => by cases hurl⟩⟩
  | cons url rest ih =>
      obtain ⟨ret, context', hrun, hopts, hanswer⟩ := gfalPluginMkdirp_answer htree url mode
      have hgrow := hanswer.growsTo.extend (hstack.below url List.mem_cons_self)
      have hparent := hroot url rfl
      have hrest : ClimbStack path rest :=
        ⟨List.isChain_of_isChain_cons hstack.chain, fun other hother => hstack.below other (List.mem_cons_of_mem _ hother)⟩
      -- once the directory is there, the next URL of the stack has its parent
      have hnext : components url ∈ context'.world → RootThere rest context'.world := by
        intro hmem other hother
        obtain ⟨rest', rfl⟩ : ∃ rest', rest = other :: rest' := List.head?_eq_some_iff.mp hother
        rw [← (List.isChain_cons_cons.mp hstack.chain).1]
        exact hmem
      have hreplay : components url ∈ context'.world → ∃ ret context'',
          mkdirReplay mode none rest context' = .ok (ret, context'') ∧
          context.world.GrowsTo context''.world path ∧
          (ret.val = 0 ∧ (∀ other ∈ url :: rest, components other ∈ context''.world) ∨
            ¬ServesAll context.pluginOpt ∧ ret.val < 0) := by
        intro hmem
        obtain ⟨ret, context'', hrun', hgrow', hend⟩ := ih (hopts ▸ htree) hrest (hnext hmem)
        refine ⟨ret, context'', hrun', hgrow.trans hgrow', ?_⟩
        rw [hopts] at hend
        exact hend.imp_left fun h => ⟨h.1, List.forall_mem_cons.mpr ⟨hgrow'.kept _ hmem, h.2⟩⟩
      rw [mkdirReplay, Exec.bind_of_ok hrun]
      generalize htree' : context'.world = tree' at hanswer hgrow hreplay
      cases hanswer with
      | made hnew => exact hreplay (PathTree.mem_add.mpr (Or.inl rfl))
      | existing hmem hn hcode =>
          rw [if_neg hn.ne]
          dsimp only [Option.none_or]
          rw [if_pos hcode]
          exact hreplay hmem
      | orphan hmissing => exact absurd hparent hmissing
      | refused hserved hn hmissing hexisting =>
          rw [if_neg hn.ne]
          dsimp only [Option.none_or]
          rw [if_neg hexisting]
          exact ⟨_, context', rfl, htree' ▸ hgrow, Or.inr ⟨hserved, hn⟩⟩

theorem mkdirStepByStep_spec (htree : TreePlugins context.pluginOpt) (url : CString) (mode : Nat) :
    ∃ ret context', mkdirStepByStep url mode context = .ok (ret, context') ∧
      context.world.GrowsTo context'.world (components (url.take (gfalUrlMaxLen - 1))) ∧
      (ret.val = 0 ∧ components (url.take (gfalUrlMaxLen - 1)) ∈ context'.world ∨
        ¬ServesAll context.pluginOpt ∧ ret.val < 0) := by
  have hstack : ClimbStack (components (url.take (gfalUrlMaxLen - 1))) [url.take (gfalUrlMaxLen - 1)] :=
    ⟨List.IsChain.singleton _, by simp⟩
  obtain ⟨climbed, stackUrl, context', hclimb, hopts, hgrow, hstack', ⟨higher, hhigher⟩, hend⟩ :=
    mkdirClimb_spec context mode _ [] htree hstack
  rw [mkdirStepByStep, Exec.bind_of_ok hclimb]
  rcases hend with ⟨hcode, hroot⟩ | ⟨hserved, hval, e, he, hexisting⟩
  · obtain ⟨ret, context'', hreplay, hgrow', hend⟩ :=
      mkdirReplay_spec mode stackUrl (hopts ▸ htree) hstack' hroot
    refine ⟨ret, context'', ?_, hgrow.trans hgrow', ?_⟩
    · cases herr : climbed.err with
      | none => exact hreplay
      | some e =>
          dsimp only
          rw [if_pos (hcode e herr)]
          exact hreplay
    · rw [hopts] at hend
      exact hend.imp_left fun h => ⟨h.1, h.2 _ (hhigher ▸ List.mem_append_right _ List.mem_cons_self)⟩
  · refine ⟨climbed, context', ?_, hgrow, Or.inr ⟨hserved, hval⟩⟩
    rw [he]
    dsimp only
    rw [if_neg hexisting]
    rfl

/-- The ways a recursive creation ends: refused for lack of a plugin, with the directory that the URL names,
or, when its parent was missing, with the directory that the cut copy of the URL names. -/
theorem gfal2MkdirRec_cases (htree : TreePlugins context.pluginOpt)
    (hclear : context.readings.cancel context.cancelReads = false) (url : CString) (mode : Nat) :
    ∃ ret context', gfal2MkdirRec (some url) mode context = .ok (ret, context') ∧
      (¬ServesAll context.pluginOpt ∧ ret.val < 0 ∨
        ((components url).dropLast ∈ context.world ∧ components url ∈ context'.world ∧
          context.world.GrowsTo context'.world (components url)) ∨
        ret.val = 0 ∧ (components url).dropLast ∉ context.world ∧
          components (url.take (gfalUrlMaxLen - 1)) ∈ context'.world ∧
          context.world.GrowsTo context'.world (components (url.take (gfalUrlMaxLen - 1)))) := by
  obtain ⟨made, context', hrun, hopts, hanswer⟩ :=
    @gfalPluginMkdirp_answer_flag context.inScope htree url mode
  have hbody : ∀ {ret context''}, (match made.err with
      | none => return made
      | some e =>
          if e.code = EEXIST then return ⟨0, none⟩
          else if e.code = ENOENT then mkdirStepByStep url mode
          else return made : Gfal (PathTree CString) (Ret Int)) context' = .ok (ret, context'') →
      gfal2MkdirRec (some url) mode context = .ok (ret, context''.afterScope) := by
    intro ret context'' hrest
    exact scopeCancel_of_body hclear ((Exec.bind_of_ok hrun).trans hrest)
  rcases hanswer with hanswer | ⟨rfl, hmem, htree'⟩
  · have hgrow := hanswer.growsTo
    generalize htree' : context'.world = tree' at hanswer hgrow
    cases hanswer with
    | made hnew hparent =>
        refine ⟨_, context'.afterScope, hbody rfl, Or.inr (Or.inl ?_)⟩
        show _ ∧ components url ∈ context'.world ∧ context.world.GrowsTo context'.world _
        rw [htree']
        exact ⟨hparent, PathTree.mem_add.mpr (Or.inl rfl), hgrow⟩
    | existing hmem hn hcode =>
        refine ⟨⟨0, none⟩, context'.afterScope, hbody ?_, Or.inr (Or.inl ?_)⟩
        · dsimp only
          rw [if_pos hcode]
          rfl
        · show _ ∧ components url ∈ context'.world ∧ context.world.GrowsTo context'.world _
          rw [htree']
          exact ⟨context.world.parent_mem _ hmem, hmem, hgrow⟩
    | @refused n e hserved hn hmissing hexisting =>
        refine ⟨⟨n, some e⟩, context'.afterScope, hbody ?_, Or.inl ⟨hserved, hn⟩⟩
        dsimp only
        rw [if_neg hexisting, if_neg hmissing]
        rfl
    | orphan hparent hn hcode =>
        obtain ⟨ret, context'', hsteps, hgrow', hend⟩ := mkdirStepByStep_spec (hopts ▸ htree) url mode
        rw [htree'] at hgrow'
        refine ⟨ret, context''.afterScope, hbody ?_, ?_⟩
        · dsimp only
          rw [if_neg (by rw [hcode]; decide), if_pos hcode]
          exact hsteps
        · rcases hend with ⟨hval, hmem⟩ | ⟨hserved, hval⟩
          · exact Or.inr (Or.inr ⟨hval, hparent, hmem, hgrow'⟩)
          · exact Or.inl ⟨hopts ▸ hserved, hval⟩
  · refine ⟨_, context'.afterScope, hbody rfl, Or.inr (Or.inl ?_)⟩
    show _ ∧ components url ∈ context'.world ∧ context.world.GrowsTo context'.world _
    rw [htree']
    exact ⟨context.world.parent_mem _ hmem, hmem, PathTree.GrowsTo.refl _ _⟩

/-- What a recursive creation is for: it returns, and with 0 only if the directory named by the URL is
there, nothing but the directory and its ancestors was added, and nothing is gone. -/
def MkdirRecCorrect (context : Gfal2Context (PathTree CString)) (url : CString) (mode : Nat) : Prop :=
  ∃ ret context', gfal2MkdirRec (some url) mode context = .ok (ret, context') ∧
    (ret.val = 0 → components url ∈ context'.world ∧ context.world.GrowsTo context'.world (components url))

/-- The function is cancelled, or need not climb, or climbs on a copy of the URL with all its names. -/
def KeepsNames (context : Gfal2Context (PathTree CString)) (url : CString) : Prop :=
  context.readings.cancel context.cancelReads = true ∨ (components url).dropLast ∈ context.world ∨
    components (url.take (gfalUrlMaxLen - 1)) = components url

theorem gfal2MkdirRec_of_cancelled (url : CString) (mode : Nat)
    (h : context.readings.cancel context.cancelReads = true) : MkdirRecCorrect context url mode := by
  refine ⟨_, _, scopeCancel_of_cancelled h, fun hval => ?_⟩
  exact absurd hval (by decide)

/-- Climbing from a copy that lost names makes another directory than the one asked for. -/
theorem not_mkdirRecCorrect (htree : TreePlugins context.pluginOpt) (hserved : ServesAll context.pluginOpt)
    (mode : Nat) (hnames : ¬KeepsNames context url) : ¬MkdirRecCorrect context url mode := by
  obtain ⟨hclear, hparent, hcut⟩ : context.readings.cancel context.cancelReads = false ∧
      (components url).dropLast ∉ context.world ∧ components (url.take (gfalUrlMaxLen - 1)) ≠ components url := by
    simpa [KeepsNames] using hnames
  have hnew : components url ∉ context.world := fun hmem => hparent (context.world.parent_mem _ hmem)
  rintro ⟨ret, context', hrun, hcorrect⟩
  obtain ⟨ret', context'', hrun', hcases⟩ := gfal2MkdirRec_cases htree hclear url mode
  rw [hrun] at hrun'
  cases hrun'
  rcases hcases with ⟨hnot, -⟩ | ⟨hthere, -⟩ | ⟨hval, -, -, hgrow⟩
  · exact hnot hserved
  · exact hparent hthere
  · obtain ⟨hmem, -⟩ := hcorrect hval
    exact hcut (components_eq_of_start (List.take_prefix _ _) (hgrow.added _ hmem hnew))

/-- Over one directory tree, a recursive creation is correct as long as it keeps the names of its URL;
where all URLs are served, it is correct only then. -/
theorem mkdirRec_correct_iff (context : Gfal2Context (PathTree CString)) (htree : TreePlugins context.pluginOpt)
    (url : CString) (mode : Nat) :
    (KeepsNames context url → MkdirRecCorrect context url mode) ∧
      (ServesAll context.pluginOpt → MkdirRecCorrect context url mode → KeepsNames context url) := by
  refine ⟨fun hnames => ?_, fun hserved hcorrect => ?_⟩
  · cases hclear : context.readings.cancel context.cancelReads with
    | true => exact gfal2MkdirRec_of_cancelled url mode hclear
    | false =>
        obtain ⟨ret, context', hrun, ⟨-, hval⟩ | hdone | ⟨-, hparent, hmem, hgrow⟩⟩ :=
          gfal2MkdirRec_cases htree hclear url mode
        · exact ⟨ret, context', hrun, fun hzero => by omega⟩
        · exact ⟨ret, context', hrun, fun _ => hdone.2⟩
        · rcases hnames with hcancel | hthere | hcut
          · rw [hclear] at hcancel
            cases hcancel
          · exact absurd hthere hparent
          · rw [hcut] at hmem hgrow
            exact ⟨ret, context', hrun, fun _ => ⟨hmem, hgrow⟩⟩
  · by_contra hnames
    exact not_mkdirRecCorrect htree hserved mode hnames hcorrect

/-- The callback of a plugin that keeps one tree. -/
def treeMkdirp (path : CString) (_mode : Nat) (_pflag : Bool) : Callback (PathTree CString) (Ret Int) := fun tree =>
  match tree.mkdir (components path) with
  | .existing => (⟨-1, some ⟨gfal2GetPluginsQuark, EEXIST, lit "File exists"⟩⟩, tree)
  | .parentMissing => (⟨-1, some ⟨gfal2GetPluginsQuark, ENOENT, lit "No such file or directory"⟩⟩, tree)
  | .made tree' => (⟨0, none⟩, tree')

theorem treeMkdirp_answer (path : CString) (mode : Nat) (pflag : Bool) (tree : PathTree CString) :
    MkdirAnswer True tree (components path) (treeMkdirp path mode pflag tree).1
      (treeMkdirp path mode pflag tree).2 := by
  unfold treeMkdirp
  by_cases hmem : components path ∈ tree
  · rw [PathTree.mkdir_of_mem hmem]
    exact .existing hmem (by decide) rfl
  · by_cases hparent : (components path).dropLast ∈ tree
    · rw [PathTree.mkdir_of_parent hmem hparent]
      exact .made hmem hparent
    · rw [PathTree.mkdir_of_orphan hparent]
      exact .orphan hparent (by decide) rfl

/-- A context with one plugin, which serves every URL from a tree that has only its root yet. -/
def treeContext : Gfal2Context (PathTree CString) where
  pluginOpt := {
    pluginList := fun _ =>
      { priority := 1, checkPluginUrl := some fun _ _ _ => ⟨true, none⟩, mkdirpG := some treeMkdirp }
    sortedPlugin := [0]
    pluginNumber := 1 }
  world := PathTree.bare

theorem treePlugins_treeContext : TreePlugins treeContext.pluginOpt where
  number_pos := by decide
  check_err := by
    intro tree url e h
    cases h
  answers := by
    intro tree url slot h
    cases h
    exact ⟨treeMkdirp, rfl, fun mode pflag => treeMkdirp_answer url mode pflag tree⟩

theorem servesAll_treeContext : ServesAll treeContext.pluginOpt := fun _ _ => rfl

theorem mkdirRec_correct_iff_short :
    MkdirRecCorrect treeContext (lit "//a/b///c/") 493 ∧ KeepsNames treeContext (lit "//a/b///c/") := by
  have hcorrect := (mkdirRec_correct_iff treeContext treePlugins_treeContext (lit "//a/b///c/") 493).1
    (Or.inr (Or.inr rfl))
  exact ⟨hcorrect, (mkdirRec_correct_iff treeContext treePlugins_treeContext (lit "//a/b///c/") 493).2
    servesAll_treeContext hcorrect⟩

theorem components_dir_name (n : Nat) :
    components (lit "/dir/" ++ List.replicate (n + 1) 'x') = [lit "dir", List.replicate (n + 1) 'x'] := by
  have hnames : components (List.replicate (n + 1) 'x') = [List.replicate (n + 1) 'x'] := by
    apply components_of_noSlash (by simp)
    intro c hc
    rw [List.eq_of_mem_replicate hc]
    decide
  rw [show lit "/dir/" ++ List.replicate (n + 1) 'x' = lit "/dir" ++ '/' :: List.replicate (n + 1) 'x' from rfl,
    components_append_slash, hnames]
  rfl

/-- A name of 2100 characters below a missing directory: the function returns 0, having made a directory
with a shorter name. -/
theorem mkdirRec_cuts_long_name : TreePlugins treeContext.pluginOpt ∧
      ¬MkdirRecCorrect treeContext (lit "/dir/" ++ List.replicate 2100 'x') 493 := by
  refine ⟨treePlugins_treeContext, not_mkdirRecCorrect treePlugins_treeContext servesAll_treeContext 493 ?_⟩
  have hcut : (lit "/dir/" ++ List.replicate 2100 'x').take (gfalUrlMaxLen - 1) =
      lit "/dir/" ++ List.replicate (2041 + 1) 'x' := by
    rw [List.take_append, List.take_of_length_le (by decide), List.take_replicate]
    rfl
  rintro (hcancel | hparent | hnames)
  · cases hcancel
  · rw [components_dir_name 2099] at hparent
    revert hparent
    decide
  · rw [hcut, components_dir_name, components_dir_name 2099] at hnames
    have hlength := congrArg List.length (List.cons.inj (List.cons.inj hnames).2).1
    rw [List.length_replicate, List.length_replicate] at hlength
    omega

end Tree

end Gfal2
