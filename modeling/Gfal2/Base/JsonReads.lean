import Gfal2.Base.JsonText

/-! The documents that stand at the front of texts, with no bound on what is read, and the rules by which an array
and an object are made of what stands in them. -/

namespace Base.Json

variable {α : Type}

/-- A document stands at the front of a text, before the rest. -/
def Reads (s : CString) (v : Json) (rest : CString) : Prop := ∃ fuel, readValue fuel s = some (v, rest)

/-- Elements with commas between them, at least one, up to the character that closes them. -/
inductive SeqReads (element : CString → α → CString → Prop) (close : Char) : CString → List α → CString → Prop where
  | last {s r rest : CString} {a : α} (helement : element s a r) (hclose : skipSpace r = close :: rest) :
      SeqReads element close s [a] rest
  | more {s r s' rest : CString} {a : α} {as : List α} (helement : element s a r) (hcomma : skipSpace r = ',' :: s')
      (hothers : SeqReads element close s' as rest) : SeqReads element close s (a :: as) rest

/-- As many elements as there are. -/
def ListingReads (element : CString → α → CString → Prop) (close : Char) (s : CString) (as : List α)
    (rest : CString) : Prop :=
  (as = [] ∧ skipSpace s = close :: rest) ∨ ((skipSpace s).head? ≠ some close ∧ SeqReads element close s as rest)

/-- A key with its value. -/
def MemberReads (s : CString) (member : CString × Json) (rest : CString) : Prop :=
  ∃ key after value, skipSpace s = '"' :: key ∧ readString key = some (member.1, after) ∧
    skipSpace after = ':' :: value ∧ Reads value member.2 rest

variable {s t rest rest' : CString} {v v' : Json}

theorem Reads.shortens (h : Reads s v rest) : rest.length < s.length := by
  obtain ⟨fuel, h⟩ := h
  exact shortens_readValue fuel s v rest h

/-- The bound on what is read may be any from the length on, and more may follow. -/
theorem Reads.readValue_append (h : Reads s v rest) (ht : StopsNumber t) {fuel : Nat} (hfuel : s.length ≤ fuel) :
    readValue (fuel + 1) (s ++ t) = some (v, rest ++ t) := by
  obtain ⟨fuel', h⟩ := h
  exact readValue_follows ht fuel' (fuel + 1) s v rest h (by omega)

theorem Reads.append (h : Reads s v rest) (ht : StopsNumber t) : Reads (s ++ t) v (rest ++ t) :=
  ⟨s.length + 1, h.readValue_append ht le_rfl⟩

theorem Reads.readValue_eq (h : Reads s v rest) {fuel : Nat} (hfuel : s.length ≤ fuel) :
    readValue (fuel + 1) s = some (v, rest) := by
  have hread := h.readValue_append stopsNumber_nil hfuel
  rwa [List.append_nil, List.append_nil] at hread

theorem Reads.unique (h : Reads s v rest) (h' : Reads s v' rest') : v = v' ∧ rest = rest' := by
  have hread := h.readValue_eq le_rfl
  rw [h'.readValue_eq le_rfl] at hread
  cases hread
  exact ⟨rfl, rfl⟩

theorem parse_eq_some_iff : parse s = some v ↔ ∃ rest, Reads s v rest ∧ skipSpace rest = [] := by
  unfold parse
  rw [Option.bind_eq_some_iff]
  constructor
  · rintro ⟨⟨v', rest⟩, hread, h⟩
    rw [Option.ite_none_right_eq_some] at h
    cases h.2
    exact ⟨rest, ⟨_, hread⟩, h.1⟩
  · rintro ⟨rest, hread, hrest⟩
    exact ⟨(v, rest), hread.readValue_eq le_rfl, if_pos hrest⟩

/-- A blank in front does not count. -/
theorem reads_blank {c : Char} (hc : isSpace c = true) : Reads (c :: s) v rest ↔ Reads s v rest := by
  have hskip : skipSpace (c :: s) = skipSpace s := List.dropWhile_cons_of_pos hc
  refine exists_congr fun fuel => ?_
  cases fuel with
  | zero => exact Iff.rfl
  | succ fuel =>
      unfold readValue
      rw [hskip]

/-! ### Sequences -/

section Sequences

variable {element : CString → α → CString → Prop} {read : Reader α} {close : Char} {as : List α} {fuel bound : Nat}

theorem SeqReads.of_readSeq (h : ∀ s a rest, read s = some (a, rest) → element s a rest)
    (hread : readSeq read close fuel s = some (as, rest)) : SeqReads element close s as rest := by
  induction fuel generalizing s as rest with
  | zero => cases hread
  | succ fuel ih =>
      obtain ⟨⟨a, after⟩, helement, hread⟩ := Option.bind_eq_some_iff.mp hread
      have hone := h s a after helement
      cases hskip : skipSpace after with
      | nil => simp [hskip] at hread
      | cons c more =>
          simp only [hskip] at hread
          split at hread
          · rename_i hcomma
            obtain ⟨⟨others, last⟩, hothers, heq⟩ := Option.map_eq_some_iff.mp hread
            cases heq
            exact .more hone (hcomma ▸ hskip) (ih hothers)
          · rw [Option.ite_none_right_eq_some] at hread
            obtain ⟨hclose, heq⟩ := hread
            cases heq
            exact .last hone (hclose ▸ hskip)

theorem SeqReads.readSeq_eq (hshort : ∀ s a rest, element s a rest → rest.length < s.length)
    (h : ∀ s a rest, element s a rest → s.length ≤ bound → read s = some (a, rest)) (hclose : close ≠ ',')
    (hseq : SeqReads element close s as rest) (hbound : s.length ≤ bound) (hfuel : s.length ≤ fuel) :
    readSeq read close (fuel + 1) s = some (as, rest) := by
  induction hseq generalizing fuel with
  | last helement hskip =>
      rw [readSeq, h _ _ _ helement hbound, Option.bind_some]
      dsimp only
      rw [hskip]
      dsimp only
      rw [if_neg hclose, if_pos rfl]
  | more helement hskip hothers ih =>
      have hone := hshort _ _ _ helement
      have htwo := length_of_skipSpace hskip
      obtain ⟨fuel, rfl⟩ : ∃ n, fuel = n + 1 := ⟨fuel - 1, by omega⟩
      rw [readSeq, h _ _ _ helement hbound, Option.bind_some]
      dsimp only
      rw [hskip]
      dsimp only
      rw [if_pos rfl, ih (by omega) (by omega)]
      rfl

theorem ListingReads.of_readListing (h : ∀ s a rest, read s = some (a, rest) → element s a rest)
    (hread : readListing read close fuel s = some (as, rest)) : ListingReads element close s as rest := by
  unfold readListing at hread
  split at hread
  · rename_i hclose
    cases hskip : skipSpace s with
    | nil => simp [hskip] at hclose
    | cons c more =>
        rw [hskip] at hclose hread
        cases hread
        exact .inl ⟨rfl, hskip.trans (by rw [Option.some.inj hclose]; rfl)⟩
  · rename_i hclose
    exact .inr ⟨hclose, .of_readSeq h hread⟩

theorem ListingReads.readListing_eq (hshort : ∀ s a rest, element s a rest → rest.length < s.length)
    (h : ∀ s a rest, element s a rest → s.length ≤ bound → read s = some (a, rest)) (hclose : close ≠ ',')
    (hlisting : ListingReads element close s as rest) (hbound : s.length ≤ bound) (hfuel : s.length ≤ fuel) :
    readListing read close (fuel + 1) s = some (as, rest) := by
  unfold readListing
  rcases hlisting with ⟨rfl, hskip⟩ | ⟨hne, hseq⟩
  · rw [hskip]
    exact if_pos rfl
  · rw [if_neg hne]
    exact hseq.readSeq_eq hshort h hclose hbound hfuel

end Sequences

/-! ### Members -/

variable {member : CString × Json} {fuel bound : Nat}

theorem MemberReads.shortens (h : MemberReads s member rest) : rest.length < s.length := by
  obtain ⟨key, after, value, hquote, hkey, hcolon, hvalue⟩ := h
  have hone := length_of_skipSpace hquote
  have htwo := shortens_readString _ _ _ hkey
  have hthree := length_of_skipSpace hcolon
  have hfour := hvalue.shortens
  omega

theorem MemberReads.of_readMember (h : readMember (readValue fuel) s = some (member, rest)) : MemberReads s member rest := by
  unfold readMember at h
  cases hskip : skipSpace s with
  | nil => simp [hskip] at h
  | cons c more =>
      simp only [hskip] at h
      rw [Option.ite_none_right_eq_some] at h
      obtain ⟨rfl, h⟩ := h
      obtain ⟨⟨key, after⟩, hkey, h⟩ := Option.bind_eq_some_iff.mp h
      cases hcolon : skipSpace after with
      | nil => simp [hcolon] at h
      | cons d left =>
          simp only [hcolon] at h
          rw [Option.ite_none_right_eq_some] at h
          obtain ⟨rfl, h⟩ := h
          obtain ⟨⟨v, last⟩, hvalue, heq⟩ := Option.map_eq_some_iff.mp h
          cases heq
          exact ⟨more, after, left, hskip, hkey, hcolon, fuel, hvalue⟩

theorem MemberReads.readMember_eq (h : MemberReads s member rest) (hbound : s.length ≤ bound + 1) :
    readMember (readValue (bound + 1)) s = some (member, rest) := by
  obtain ⟨key, after, value, hquote, hkey, hcolon, hvalue⟩ := h
  have hone := length_of_skipSpace hquote
  have htwo := shortens_readString _ _ _ hkey
  have hthree := length_of_skipSpace hcolon
  unfold readMember
  rw [hquote]
  dsimp only
  rw [if_pos rfl, hkey, Option.bind_some]
  dsimp only
  rw [hcolon]
  dsimp only
  rw [if_pos rfl, hvalue.readValue_eq (by omega)]
  rfl

/-! ### Arrays, objects and strings -/

theorem reads_string : Reads ('"' :: s) v rest ↔ ∃ text, readString s = some (text, rest) ∧ v = .string text := by
  constructor
  · intro h
    have hread := h.readValue_eq le_rfl
    unfold readValue at hread
    obtain ⟨⟨text, last⟩, htext, heq⟩ := Option.map_eq_some_iff.mp hread
    cases heq
    exact ⟨text, htext, rfl⟩
  · rintro ⟨text, htext, rfl⟩
    refine ⟨1, ?_⟩
    unfold readValue
    exact Option.map_eq_some_iff.mpr ⟨_, htext, rfl⟩

/-- A string is read as the text between two quotes just when it is written as it is. -/
theorem reads_string_self {text : CString} (ht : SpacedQuotes t) :
    Reads ('"' :: (text ++ '"' :: t)) (.string text) rest ↔ Plain text ∧ rest = t := by
  rw [reads_string]
  constructor
  · rintro ⟨text', hread, heq⟩
    cases heq
    exact plain_of_readString ht hread
  · rintro ⟨hplain, rfl⟩
    exact ⟨text, readString_of_plain hplain rest, rfl⟩

theorem reads_array : Reads ('[' :: s) v rest ↔ ∃ items, v = .array items ∧ ListingReads Reads ']' s items rest := by
  constructor
  · intro h
    have hread := h.readValue_eq le_rfl
    unfold readValue at hread
    obtain ⟨⟨items, last⟩, hitems, heq⟩ := Option.map_eq_some_iff.mp hread
    cases heq
    exact ⟨items, rfl, .of_readListing (fun _ _ _ hitem => ⟨_, hitem⟩) hitems⟩
  · rintro ⟨items, rfl, hitems⟩
    refine ⟨s.length + 2, ?_⟩
    have hread : readListing (readValue (s.length + 1)) ']' (s.length + 1) s = some (items, rest) :=
      hitems.readListing_eq (fun _ _ _ hitem => hitem.shortens) (fun _ _ _ hitem hbound => hitem.readValue_eq hbound)
        (by decide) le_rfl le_rfl
    unfold readValue
    exact Option.map_eq_some_iff.mpr ⟨_, hread, rfl⟩

theorem reads_object :
    Reads ('\x7b' :: s) v rest ↔ ∃ members, v = .object members ∧ ListingReads MemberReads '\x7d' s members rest := by
  constructor
  · intro h
    have hread := h.readValue_eq le_rfl
    unfold readValue at hread
    obtain ⟨⟨members, last⟩, hmembers, heq⟩ := Option.map_eq_some_iff.mp hread
    cases heq
    exact ⟨members, rfl, .of_readListing (fun _ _ _ hmember => .of_readMember hmember) hmembers⟩
  · rintro ⟨members, rfl, hmembers⟩
    refine ⟨s.length + 2, ?_⟩
    have hread : readListing (readMember (readValue (s.length + 1))) '\x7d' (s.length + 1) s = some (members, rest) :=
      hmembers.readListing_eq (fun _ _ _ hmember => hmember.shortens)
        (fun _ _ _ hmember hbound => hmember.readMember_eq (Nat.le_succ_of_le hbound)) (by decide) le_rfl le_rfl
    unfold readValue
    exact Option.map_eq_some_iff.mpr ⟨_, hread, rfl⟩

/-! ### Keys that are written as they are -/

variable {key : CString} {others : List (CString × Json)}

theorem memberReads_blank {c : Char} (hc : isSpace c = true) : MemberReads (c :: s) member rest ↔ MemberReads s member rest := by
  have hskip : skipSpace (c :: s) = skipSpace s := List.dropWhile_cons_of_pos hc
  unfold MemberReads
  rw [hskip]

theorem memberReads_plain (hkey : Plain key) :
    MemberReads ('"' :: (key ++ '"' :: ':' :: s)) member rest ↔ member.1 = key ∧ Reads s member.2 rest := by
  constructor
  · rintro ⟨key', after, value, hquote, hread, hcolon, hvalue⟩
    obtain ⟨-, rfl⟩ := List.cons.inj hquote
    rw [readString_of_plain hkey] at hread
    obtain ⟨hfirst, rfl⟩ := Prod.mk.inj (Option.some.inj hread)
    obtain ⟨-, rfl⟩ := List.cons.inj hcolon
    exact ⟨hfirst.symm, hvalue⟩
  · rintro ⟨rfl, hvalue⟩
    exact ⟨_, _, s, rfl, readString_of_plain hkey _, rfl, hvalue⟩

theorem SeqReads.blank {element : CString → α → CString → Prop} {close c : Char} {as : List α}
    (h : ∀ a rest, element (c :: s) a rest ↔ element s a rest) :
    SeqReads element close (c :: s) as rest ↔ SeqReads element close s as rest := by
  constructor
  · intro hseq
    cases hseq with
    | last helement hclose => exact .last ((h _ _).mp helement) hclose
    | more helement hcomma hothers => exact .more ((h _ _).mp helement) hcomma hothers
  · intro hseq
    cases hseq with
    | last helement hclose => exact .last ((h _ _).mpr helement) hclose
    | more helement hcomma hothers => exact .more ((h _ _).mpr helement) hcomma hothers

/-- The members that begin with a given key: its value, and the end or the members after a comma. -/
theorem seqReads_member (hkey : Plain key) :
    SeqReads MemberReads '\x7d' ('"' :: (key ++ '"' :: ':' :: s)) (member :: others) rest ↔
      member.1 = key ∧ ∃ after, Reads s member.2 after ∧ ((others = [] ∧ skipSpace after = '\x7d' :: rest) ∨
        ∃ s', skipSpace after = ',' :: s' ∧ SeqReads MemberReads '\x7d' s' others rest) := by
  constructor
  · intro h
    cases h with
    | last hmember hclose =>
        obtain ⟨hfirst, hvalue⟩ := (memberReads_plain hkey).mp hmember
        exact ⟨hfirst, _, hvalue, .inl ⟨rfl, hclose⟩⟩
    | more hmember hcomma hothers =>
        obtain ⟨hfirst, hvalue⟩ := (memberReads_plain hkey).mp hmember
        exact ⟨hfirst, _, hvalue, .inr ⟨_, hcomma, hothers⟩⟩
  · rintro ⟨hfirst, after, hvalue, ⟨rfl, hclose⟩ | ⟨s', hcomma, hothers⟩⟩
    · exact .last ((memberReads_plain hkey).mpr ⟨hfirst, hvalue⟩) hclose
    · exact .more ((memberReads_plain hkey).mpr ⟨hfirst, hvalue⟩) hcomma hothers

theorem reads_object_quote {members : List (CString × Json)} :
    Reads ('\x7b' :: '"' :: s) (.object members) rest ↔ SeqReads MemberReads '\x7d' ('"' :: s) members rest := by
  rw [reads_object]
  constructor
  · rintro ⟨members', heq, ⟨-, hskip⟩ | ⟨-, hseq⟩⟩
    · exact absurd (List.cons.inj hskip).1 (by decide)
    · cases heq
      exact hseq
  · intro hseq
    exact ⟨members, rfl, .inr ⟨by simp [skipSpace, isSpace], hseq⟩⟩

/-! ### Texts written one after the other -/

theorem spacedQuotes_nil : SpacedQuotes [] := by
  intro before after h
  simp at h

theorem spacedQuotes_blank (t : CString) : SpacedQuotes (' ' :: t) := by
  intro before after h
  cases before with
  | nil => exact absurd (List.cons.inj h).1 (by decide)
  | cons c before =>
      rw [← (List.cons.inj h).1]
      exact List.mem_cons_self

theorem SpacedQuotes.cons {c : Char} (hc : c ≠ '"') (h : SpacedQuotes t) : SpacedQuotes (c :: t) := by
  intro before after heq
  cases before with
  | nil => exact absurd (List.cons.inj heq).1 hc
  | cons d before => exact List.mem_cons_of_mem _ (h before after (List.cons.inj heq).2)

/-- What stands after an item of a list: the end of the list, or a comma and a blank. -/
def EndsItem (tail t : CString) : Prop := t = ']' :: tail ∨ ∃ more, t = ',' :: ' ' :: more

theorem EndsItem.spacedQuotes {tail : CString} (h : EndsItem tail t) (htail : SpacedQuotes tail) : SpacedQuotes t := by
  obtain rfl | ⟨more, rfl⟩ := h
  · exact htail.cons (by decide)
  · exact (spacedQuotes_blank more).cons (by decide)

section Lists

variable {β : Type} {text : β → CString} {Means : β → Json → Prop} {Good : β → Prop} {tail : CString}

theorem seqReads_of_good (hgood : ∀ b, Good b → ∃ v, Means b v ∧ ∀ t, EndsItem tail t → Reads (text b ++ t) v t)
    {b : β} {bs : List β} (h : ∀ b' ∈ b :: bs, Good b') : ∃ vs, List.Forall₂ Means (b :: bs) vs ∧
      SeqReads Reads ']' (([',', ' '] : CString).intercalate ((b :: bs).map text) ++ ']' :: tail) vs tail := by
  obtain ⟨v, hmeans, hread⟩ := hgood b (h b List.mem_cons_self)
  induction bs generalizing b v with
  | nil =>
      refine ⟨[v], .cons hmeans .nil, ?_⟩
      refine .last (r := ']' :: tail) ?_ rfl
      simpa using hread _ (.inl rfl)
  | cons b' bs ih =>
      obtain ⟨v', hmeans', hread'⟩ := hgood b' (h b' (by simp))
      obtain ⟨vs, hvs, hseq⟩ := ih (fun c hc => h c (List.mem_cons_of_mem _ hc)) v' hmeans' hread'
      refine ⟨v :: vs, .cons hmeans hvs, ?_⟩
      rw [List.map_cons, List.map_cons, List.intercalate_cons_cons, List.append_assoc, List.append_assoc]
      refine .more (hread _ (.inr ⟨_, rfl⟩)) rfl ?_
      exact (SeqReads.blank fun _ _ => reads_blank rfl).mpr hseq

theorem good_of_seqReads
    (hmeans : ∀ b v t rest, EndsItem tail t → Means b v → Reads (text b ++ t) v rest → Good b ∧ rest = t)
    {b : β} {bs : List β} {vs : List Json} (hvs : List.Forall₂ Means (b :: bs) vs)
    (h : SeqReads Reads ']' (([',', ' '] : CString).intercalate ((b :: bs).map text) ++ ']' :: tail) vs rest) :
    (∀ b' ∈ b :: bs, Good b') ∧ rest = tail := by
  induction bs generalizing b vs with
  | nil =>
      obtain _ | ⟨hmeans₁, _ | _⟩ := hvs
      rw [List.map_singleton, List.intercalate_singleton] at h
      cases h with
      | last hread hclose =>
          obtain ⟨hgood, rfl⟩ := hmeans b _ _ _ (.inl rfl) hmeans₁ hread
          exact ⟨by simpa using hgood, (List.cons.inj hclose).2.symm⟩
      | more _ _ hothers => cases hothers
  | cons b' bs ih =>
      obtain _ | ⟨hmeans₁, hvs⟩ := hvs
      rw [List.map_cons, List.map_cons, List.intercalate_cons_cons, List.append_assoc, List.append_assoc] at h
      cases h with
      | last => cases hvs
      | more hread hcomma hothers =>
          obtain ⟨hgood, rfl⟩ := hmeans b _ _ _ (.inr ⟨_, rfl⟩) hmeans₁ hread
          obtain ⟨-, rfl⟩ := List.cons.inj hcomma
          obtain ⟨hrest, htail⟩ := ih hvs ((SeqReads.blank fun _ _ => reads_blank rfl).mp hothers)
          exact ⟨List.forall_mem_cons.mpr ⟨hgood, hrest⟩, htail⟩

variable (text Means Good) in
/-- An object with a list of texts for its only member is read as what the texts mean, if each of them is good. -/
theorem parse_list_iff (hkey : Plain key) (hfirst : ∀ b t, (skipSpace (text b ++ t)).head? ≠ some ']')
    (hgood : ∀ b, Good b → ∃ v, Means b v ∧ ∀ t, EndsItem ['\x7d'] t → Reads (text b ++ t) v t)
    (hmeans : ∀ b v t rest, EndsItem ['\x7d'] t → Means b v → Reads (text b ++ t) v rest → Good b ∧ rest = t)
    (bs : List β) :
    (∃ vs, List.Forall₂ Means bs vs ∧ parse ('\x7b' :: '"' :: (key ++ '"' :: ':' :: ' ' :: '[' ::
        (([',', ' '] : CString).intercalate (bs.map text) ++ [']', '\x7d']))) = some (.object [(key, .array vs)])) ↔
      ∀ b ∈ bs, Good b := by
  have hparse : ∀ vs s, parse ('\x7b' :: '"' :: (key ++ '"' :: ':' :: ' ' :: '[' :: s)) =
      some (.object [(key, .array vs)]) ↔
        ∃ after rest, ListingReads Reads ']' s vs after ∧ skipSpace after = '\x7d' :: rest ∧ skipSpace rest = [] := by
    intro vs s
    rw [parse_eq_some_iff]
    constructor
    · rintro ⟨rest, hread, hrest⟩
      obtain ⟨-, after, hvalue, ⟨-, hclose⟩ | ⟨_, -, hothers⟩⟩ := (seqReads_member hkey).mp (reads_object_quote.mp hread)
      · obtain ⟨items, heq, hitems⟩ := reads_array.mp ((reads_blank rfl).mp hvalue)
        cases heq
        exact ⟨after, rest, hitems, hclose, hrest⟩
      · cases hothers
    · rintro ⟨after, rest, hitems, hclose, hrest⟩
      have hvalue := (reads_blank (c := ' ') rfl).mpr (reads_array.mpr ⟨vs, rfl, hitems⟩)
      exact ⟨rest, reads_object_quote.mpr ((seqReads_member hkey).mpr ⟨rfl, after, hvalue, .inl ⟨rfl, hclose⟩⟩), hrest⟩
  cases bs with
  | nil =>
      refine iff_of_true ⟨[], .nil, (hparse _ _).mpr ⟨['\x7d'], [], .inl ⟨rfl, rfl⟩, rfl, rfl⟩⟩ ?_
      exact fun b hb => absurd hb List.not_mem_nil
  | cons b bs =>
      constructor
      · rintro ⟨vs, hvs, h⟩
        obtain ⟨after, rest, ⟨rfl, -⟩ | ⟨-, hseq⟩, -, -⟩ := (hparse _ _).mp h
        · cases hvs
        · exact (good_of_seqReads hmeans hvs hseq).1
      · intro h
        obtain ⟨vs, hvs, hseq⟩ := seqReads_of_good hgood h
        refine ⟨vs, hvs, (hparse _ _).mpr ⟨['\x7d'], [], .inr ⟨?_, hseq⟩, rfl, rfl⟩⟩
        cases bs with
        | nil =>
            rw [List.map_singleton, List.intercalate_singleton]
            exact hfirst b _
        | cons b' bs =>
            rw [List.map_cons, List.map_cons, List.intercalate_cons_cons, List.append_assoc, List.append_assoc]
            exact hfirst b _

end Lists

end Base.Json
