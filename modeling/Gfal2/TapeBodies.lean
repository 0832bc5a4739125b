import Gfal2.Base.JsonReads
import Gfal2.TapePolling
import Mathlib.Data.List.Destutter

/-! The bodies of the requests to a tape endpoint, and the documents they are read as. A path is written between
two quotes and a metadata after its key, both as they are; the bodies mean what they should for the paths that a
string is written as and the metadata that is a document. -/

namespace Gfal2

open Base Base.Json

variable {σ : Type} (davix : TapeDavix σ)

/-- A path without the slashes that follow a slash. -/
def slashCollapsed (path : CString) : CString := path.destutter fun c d => ¬(c = '/' ∧ d = '/')

theorem collapseOnto_cons (stack : CString) (c : Char) (rest : CString) :
    collapseOnto (c :: stack) rest = stack.reverse ++ rest.destutter' (fun c d => ¬(c = '/' ∧ d = '/')) c := by
  induction rest generalizing stack c with
  | nil => simp [collapseOnto]
  | cons d rest ih =>
      rw [collapseOnto, List.destutter'_cons, ih, ih, List.head?_cons]
      by_cases hd : d = '/'
      · by_cases hc : c = '/'
        · simp [hd, hc]
        · simp [hd, hc]
      · simp [hd]

theorem gfal2PathCollapseSlashes_eq (path : CString) : gfal2PathCollapseSlashes path = slashCollapsed path := by
  unfold gfal2PathCollapseSlashes slashCollapsed
  cases path with
  | nil => rfl
  | cons c rest =>
      have hpush : collapseOnto [] (c :: rest) = collapseOnto [c] rest := by simp [collapseOnto]
      rw [hpush, collapseOnto_cons, List.destutter_cons']
      rfl

/-- The entry of a file to stage: its path, and the document its metadata denotes if there is any. -/
def StageEntry (file : CString × CString) (entry : Json) : Prop :=
  if file.2 = [] then entry = .object [(lit "path", .string (slashCollapsed (davix.path file.1)))]
  else ∃ metadata, parse file.2 = some metadata ∧ entry = .object
    [(lit "path", .string (slashCollapsed (davix.path file.1))), (lit "targetedMetadata", metadata)]

def ListsFiles (urls : List CString) : Prop :=
  parse (listFilesBody davix urls) =
    some (.object [(lit "paths", .array (urls.map fun url => .string (slashCollapsed (davix.path url))))])

/-- The body of a request to stage files has an entry for each of them, in order. -/
def StagesFiles (files : List (CString × CString)) : Prop :=
  ∃ entries, List.Forall₂ (StageEntry davix) files entries ∧
    parse (stageRequestBody davix (files.map Prod.fst) (files.map Prod.snd)) =
      some (.object [(lit "files", .array entries)])

theorem plain_paths : Plain (lit "paths") := by
  unfold Plain
  decide

theorem plain_files : Plain (lit "files") := by
  unfold Plain
  decide

theorem plain_path : Plain (lit "path") := by
  unfold Plain
  decide

theorem plain_targetedMetadata : Plain (lit "targetedMetadata") := by
  unfold Plain
  decide

theorem spacedQuotes_brace : SpacedQuotes ['\x7d'] := spacedQuotes_nil.cons (by decide)

/-! ### The list of files -/

theorem listFilesBody_eq (urls : List CString) : listFilesBody davix urls =
    '\x7b' :: '"' :: (lit "paths" ++ '"' :: ':' :: ' ' :: '[' :: (([',', ' '] : CString).intercalate
      (urls.map fun url => '"' :: (slashCollapsed (davix.path url) ++ ['"'])) ++ [']', '\x7d'])) := by
  unfold listFilesBody
  simp only [gfal2PathCollapseSlashes_eq, List.append_assoc]
  rfl

theorem listsFiles_iff (urls : List CString) :
    ListsFiles davix urls ↔ ∀ url ∈ urls, Plain (slashCollapsed (davix.path url)) := by
  have hlist := parse_list_iff
    (fun url => '"' :: (slashCollapsed (davix.path url) ++ ['"']))
    (fun url v => v = .string (slashCollapsed (davix.path url)))
    (fun url => Plain (slashCollapsed (davix.path url))) plain_paths ?_ ?_ ?_ urls
  · rw [← hlist]
    unfold ListsFiles
    rw [listFilesBody_eq]
    constructor
    · intro h
      refine ⟨_, ?_, h⟩
      rw [List.forall₂_map_right_iff, List.forall₂_same]
      exact fun _ _ => rfl
    · rintro ⟨vs, hvs, h⟩
      have heq : vs = urls.map fun url => .string (slashCollapsed (davix.path url)) := by
        rw [← List.forall₂_eq_eq_eq, List.forall₂_map_right_iff]
        exact hvs.flip
      rw [h, heq]
  · intro url t
    simp [skipSpace, isSpace]
  · intro url hplain
    refine ⟨_, rfl, fun t ht => ?_⟩
    rw [List.cons_append, List.append_assoc]
    exact (reads_string_self (ht.spacedQuotes spacedQuotes_brace)).mpr ⟨hplain, rfl⟩
  · rintro url v t rest ht rfl hread
    rw [List.cons_append, List.append_assoc] at hread
    exact (reads_string_self (ht.spacedQuotes spacedQuotes_brace)).mp hread

/-! ### The files to stage -/

/-- What the entry of a file ends with, after its path. -/
def stageEntryTail (metadata : CString) : CString :=
  (if metadata ≠ [] then lit ", \"targetedMetadata\": " ++ metadata else []) ++ lit "\x7d"

theorem stageRequestEntry_eq (file : CString × CString) : stageRequestEntry davix file.1 file.2 =
    '\x7b' :: '"' :: (lit "path" ++ '"' :: ':' :: ' ' :: '"' ::
      (slashCollapsed (davix.path file.1) ++ '"' :: stageEntryTail file.2)) := by
  unfold stageRequestEntry stageEntryTail
  simp only [gfal2PathCollapseSlashes_eq, List.append_assoc]
  rfl

theorem stageRequestBody_eq (files : List (CString × CString)) :
    stageRequestBody davix (files.map Prod.fst) (files.map Prod.snd) =
      '\x7b' :: '"' :: (lit "files" ++ '"' :: ':' :: ' ' :: '[' :: (([',', ' '] : CString).intercalate
        (files.map fun file => stageRequestEntry davix file.1 file.2) ++ [']', '\x7d'])) := by
  unfold stageRequestBody
  rw [List.zipWith_map, List.zipWith_self, List.append_assoc]
  rfl

theorem spacedQuotes_stageEntryTail {t : CString} (metadata : CString) (ht : EndsItem ['\x7d'] t) :
    SpacedQuotes (stageEntryTail metadata ++ t) := by
  unfold stageEntryTail
  split
  · exact (spacedQuotes_blank _).cons (by decide)
  · exact (ht.spacedQuotes spacedQuotes_brace).cons (by decide)

theorem reads_stageRequestEntry_iff {file : CString × CString} {entry : Json} {t rest : CString}
    (hentry : StageEntry davix file entry) (ht : EndsItem ['\x7d'] t) :
    Reads (stageRequestEntry davix file.1 file.2 ++ t) entry rest ↔
      Plain (slashCollapsed (davix.path file.1)) ∧ rest = t := by
  have hpath : ∀ others, Reads (stageRequestEntry davix file.1 file.2 ++ t)
      (.object ((lit "path", .string (slashCollapsed (davix.path file.1))) :: others)) rest ↔
        Plain (slashCollapsed (davix.path file.1)) ∧
          ((others = [] ∧ skipSpace (stageEntryTail file.2 ++ t) = '\x7d' :: rest) ∨
            ∃ s, skipSpace (stageEntryTail file.2 ++ t) = ',' :: s ∧ SeqReads MemberReads '\x7d' s others rest) := by
    intro others
    have htext : stageRequestEntry davix file.1 file.2 ++ t = '\x7b' :: '"' :: (lit "path" ++ '"' :: ':' :: ' ' :: '"' ::
        (slashCollapsed (davix.path file.1) ++ '"' :: (stageEntryTail file.2 ++ t))) := by
      rw [stageRequestEntry_eq]
      simp only [List.cons_append, List.append_assoc]
    rw [htext, reads_object_quote, seqReads_member plain_path]
    simp only [reads_blank (show isSpace ' ' = true from rfl), reads_string_self (spacedQuotes_stageEntryTail file.2 ht)]
    constructor
    · rintro ⟨-, after, ⟨hplain, rfl⟩, hothers⟩
      exact ⟨hplain, hothers⟩
    · rintro ⟨hplain, hothers⟩
      exact ⟨trivial, _, ⟨hplain, rfl⟩, hothers⟩
  unfold StageEntry at hentry
  split at hentry
  · rename_i hempty
    subst hentry
    have htail : stageEntryTail file.2 ++ t = '\x7d' :: t := by
      unfold stageEntryTail
      rw [if_neg (not_not.mpr hempty)]
      rfl
    rw [hpath, htail]
    refine and_congr_right fun _ => ?_
    constructor
    · rintro (⟨-, hclose⟩ | ⟨_, -, hothers⟩)
      · exact (List.cons.inj hclose).2.symm
      · cases hothers
    · rintro rfl
      exact .inl ⟨rfl, rfl⟩
  · rename_i hmetadata
    obtain ⟨metadata, hparse, rfl⟩ := hentry
    obtain ⟨blanks, hread, hblanks⟩ := parse_eq_some_iff.mp hparse
    have htail : stageEntryTail file.2 ++ t = ',' :: ' ' :: '"' :: (lit "targetedMetadata" ++ '"' :: ':' :: ' ' ::
        (file.2 ++ '\x7d' :: t)) := by
      unfold stageEntryTail
      rw [if_pos hmetadata]
      simp only [List.append_assoc]
      rfl
    have hvalue : Reads (file.2 ++ '\x7d' :: t) metadata (blanks ++ '\x7d' :: t) :=
      hread.append (stopsNumber_cons rfl t)
    have hafter : skipSpace (blanks ++ '\x7d' :: t) = '\x7d' :: t := skipSpace_of_blank hblanks _
    rw [hpath, htail]
    refine and_congr_right fun _ => ?_
    constructor
    · rintro (⟨hnil, -⟩ | ⟨s, hcomma, hothers⟩)
      · cases hnil
      · obtain ⟨-, rfl⟩ := List.cons.inj hcomma
        have hmember := (SeqReads.blank fun _ _ => memberReads_blank rfl).mp hothers
        obtain ⟨-, after, hafter', ⟨-, hclose⟩ | ⟨_, -, hnone⟩⟩ := (seqReads_member plain_targetedMetadata).mp hmember
        · obtain ⟨-, rfl⟩ := ((reads_blank rfl).mp hafter').unique hvalue
          rw [hafter] at hclose
          exact (List.cons.inj hclose).2.symm
        · cases hnone
    · rintro rfl
      refine .inr ⟨_, rfl, (SeqReads.blank fun _ _ => memberReads_blank rfl).mpr ?_⟩
      exact (seqReads_member plain_targetedMetadata).mpr
        ⟨rfl, _, (reads_blank rfl).mpr hvalue, .inl ⟨rfl, hafter⟩⟩

theorem stagesFiles_iff (files : List (CString × CString)) : StagesFiles davix files ↔
    ∀ file ∈ files, Plain (slashCollapsed (davix.path file.1)) ∧ (file.2 ≠ [] → (parse file.2).isSome) := by
  have hlist := parse_list_iff (fun file => stageRequestEntry davix file.1 file.2) (StageEntry davix)
    (fun file => Plain (slashCollapsed (davix.path file.1)) ∧ (file.2 ≠ [] → (parse file.2).isSome))
    plain_files ?_ ?_ ?_ files
  · rw [← hlist]
    unfold StagesFiles
    rw [stageRequestBody_eq]
  · intro file t
    rw [stageRequestEntry_eq]
    change some '\x7b' ≠ some ']'
    decide
  · rintro file ⟨hplain, hmetadata⟩
    have hentry : ∃ entry, StageEntry davix file entry := by
      unfold StageEntry
      by_cases hempty : file.2 = []
      · simp [hempty]
      · obtain ⟨metadata, hparse⟩ := Option.isSome_iff_exists.mp (hmetadata hempty)
        simp [hempty, hparse]
    obtain ⟨entry, hentry⟩ := hentry
    exact ⟨entry, hentry, fun t ht => (reads_stageRequestEntry_iff davix hentry ht).mpr ⟨hplain, rfl⟩⟩
  · intro file entry t rest ht hentry hread
    obtain ⟨hplain, hrest⟩ := (reads_stageRequestEntry_iff davix hentry ht).mp hread
    refine ⟨⟨hplain, fun hmetadata => ?_⟩, hrest⟩
    unfold StageEntry at hentry
    rw [if_neg hmetadata] at hentry
    obtain ⟨metadata, hparse, -⟩ := hentry
    simp [hparse]

/-- The bodies made for files mean what they should just for the paths that a string is written as and the
metadata that is a document, whatever the checker accepts. -/
theorem request_bodies_sound_iff (files : List (CString × CString)) :
    ListsFiles davix (files.map Prod.fst) ∧ StagesFiles davix files ↔
      ∀ file ∈ files, Plain (slashCollapsed (davix.path file.1)) ∧ (file.2 ≠ [] → (parse file.2).isSome) := by
  rw [listsFiles_iff, stagesFiles_iff, List.forall_mem_map]
  constructor
  · intro h
    exact h.2
  · intro h
    exact ⟨fun file hfile => (h file hfile).1, h⟩

/-! ### A file that is staged with another one -/

/-- A tokener that reads the document at the front of a text. -/
def frontTokener : JsonC where
  tokenerParse text := ((readValue (text.length + 1) text).map Prod.fst).getD .null
  toJsonString _ := []

/-- The path of a URL on one host. -/
def hostTape : TapeDavix Unit := { answeringTape 201 [] with path := fun url => url.drop (lit "https://h").length }

def smugglingMetadata : CString := lit "\x7b\x7d\x7d, \x7b\"path\": \"/b\""

theorem reads_smugglingMetadata : Reads smugglingMetadata (.object []) (smugglingMetadata.drop 2) :=
  reads_object.mpr ⟨[], rfl, .inl ⟨rfl, rfl⟩⟩

theorem parse_smugglingMetadata : parse smugglingMetadata = none := by
  refine Option.eq_none_iff_forall_ne_some.mpr fun v h => ?_
  obtain ⟨rest, hread, hblank⟩ := parse_eq_some_iff.mp h
  obtain ⟨-, rfl⟩ := hread.unique reads_smugglingMetadata
  exact absurd hblank (by decide)

/-- The checker accepts a metadata with which the request for one file is the request for two, and a quote in a
path is not kept from the body. -/
theorem smuggled_file_staged : (metadataFormatChecker frontTokener [smugglingMetadata]).val = 0 ∧
    stageRequestBody hostTape [lit "https://h/a"] [smugglingMetadata] =
      stageRequestBody hostTape [lit "https://h/a", lit "https://h/b"] [lit "\x7b\x7d", []] ∧
    ¬StagesFiles hostTape [(lit "https://h/a", smugglingMetadata)] ∧
    ¬ListsFiles hostTape [lit "https://h/a\"b"] := by
  refine ⟨?_, by decide, fun h => ?_, fun h => ?_⟩
  · have htoken : frontTokener.tokenerParse smugglingMetadata = .object [] := by
      unfold frontTokener
      dsimp only
      rw [reads_smugglingMetadata.readValue_eq le_rfl]
      rfl
    rw [metadataFormatChecker, htoken]
    rfl
  · have hparse := ((stagesFiles_iff hostTape _).mp h _ List.mem_cons_self).2 (by decide)
    rw [parse_smugglingMetadata] at hparse
    cases hparse
  · have hplain := (listsFiles_iff hostTape _).mp h _ List.mem_cons_self
    exact (hplain '"' (by decide)).1 rfl

end Gfal2
