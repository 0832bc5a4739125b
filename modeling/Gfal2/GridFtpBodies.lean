import Gfal2.GridFtpNames

/-! The bodies of LIST and MLSD answers, and the lines that are read of them. A chunk that begins with the byte 0xff cuts a body in
two there: what stands before it is read as if it were all, and then what stands behind it. -/

namespace Gfal2

open Base GridFtpStreamBuffer

/-! ### Bytes -/

/-- What the last line is ended by. -/
def bodyEnd (openEnd : Bool) : List UInt8 := if openEnd then [] else [lineFeed]

/-- Lines that are ended by a line feed each, the last one perhaps not. -/
def bodyBytes (openEnd : Bool) : List (List UInt8) → List UInt8
  | [] => []
  | [line] => line ++ bodyEnd openEnd
  | line :: next :: lines => line ++ lineFeed :: bodyBytes openEnd (next :: lines)

def closedLines (lines : List (List UInt8)) : List UInt8 := lines.flatMap fun line => line ++ [lineFeed]

/-- What stands behind the last line feed. -/
def openLine (line : List UInt8) : List UInt8 → List UInt8
  | [] => line
  | c :: bytes => if c = lineFeed then openLine [] bytes else openLine (line ++ [c]) bytes

/-- Lines, each of at least one character. -/
def AreLines (lines : List (List UInt8)) : Prop := ∀ line ∈ lines, lineFeed ∉ line ∧ line ≠ []

section Bytes

variable {line : List UInt8} {lines : List (List UInt8)}

theorem mem_bodyEnd {openEnd : Bool} {c : UInt8} (h : c ∈ bodyEnd openEnd) : c = lineFeed := by
  cases openEnd with
  | true => cases h
  | false => exact List.mem_singleton.mp h

theorem linesOf_append {more : List UInt8} (h : lineFeed ∉ more) (bytes : List UInt8) :
    linesOf line (more ++ bytes) = linesOf (line ++ more) bytes ∧ openLine line (more ++ bytes) = openLine (line ++ more) bytes := by
  induction more generalizing line with
  | nil => simp
  | cons c more ih =>
      obtain ⟨hc, hmore⟩ := not_or.mp (mt List.mem_cons.mpr h)
      rw [List.cons_append, linesOf, openLine, if_neg (Ne.symm hc), if_neg (Ne.symm hc), List.append_cons line c more]
      exact ih hmore

theorem linesOf_closedLines (h : AreLines lines) (bytes : List UInt8) :
    linesOf [] (closedLines lines ++ bytes) = lines ++ linesOf [] bytes ∧
      openLine [] (closedLines lines ++ bytes) = openLine [] bytes := by
  induction lines with
  | nil => exact ⟨rfl, rfl⟩
  | cons line lines ih =>
      obtain ⟨⟨hfeed, -⟩, hlines⟩ := List.forall_mem_cons.mp h
      obtain ⟨hread, hopen⟩ := ih hlines
      have hbytes : closedLines (line :: lines) ++ bytes = line ++ lineFeed :: (closedLines lines ++ bytes) := by
        simp [closedLines]
      obtain ⟨hfirst, hfirstOpen⟩ := @linesOf_append [] line hfeed (lineFeed :: (closedLines lines ++ bytes))
      rw [hbytes, hfirst, hfirstOpen, linesOf, openLine, if_pos rfl, if_pos rfl, hread, hopen]
      exact ⟨rfl, rfl⟩

/-- What is read of lines of which the last one may have begun only. -/
theorem linesOf_begun (h : AreLines lines) (hline : lineFeed ∉ line) :
    linesOf [] (closedLines lines ++ line) = lines ++ (if line = [] then [] else [line]) ∧
      openLine [] (closedLines lines ++ line) = line := by
  obtain ⟨hread, hopen⟩ := linesOf_closedLines h line
  obtain ⟨hlast, hlastOpen⟩ := @linesOf_append [] line hline []
  rw [List.append_nil, List.nil_append] at hlast hlastOpen
  rw [hread, hopen, hlast, hlastOpen]
  exact ⟨rfl, rfl⟩

theorem linesOf_bodyBytes (openEnd : Bool) (h : AreLines lines) : linesOf [] (bodyBytes openEnd lines) = lines := by
  induction lines using bodyBytes.induct with
  | case1 => rfl
  | case2 line =>
      obtain ⟨hfeed, hne⟩ := h line List.mem_cons_self
      rw [bodyBytes, (linesOf_append hfeed _).1, List.nil_append]
      cases openEnd with
      | true => exact if_neg hne
      | false => rfl
  | case3 line next lines ih =>
      obtain ⟨⟨hfeed, -⟩, hlines⟩ := List.forall_mem_cons.mp h
      rw [bodyBytes, (linesOf_append hfeed _).1, List.nil_append, linesOf, if_pos rfl, ih hlines]

/-- A body that is divided at a byte of it is divided within a line. -/
theorem bodyBytes_split {openEnd : Bool} (h : AreLines lines) {before after : List UInt8} {c : UInt8}
    (hc : c ≠ lineFeed) (hsplit : bodyBytes openEnd lines = before ++ c :: after) :
    ∃ front start rest back, lines = front ++ (start ++ c :: rest) :: back ∧ before = closedLines front ++ start ∧
      linesOf [] (c :: after) = (c :: rest) :: back ∧ (back = [] → after = rest ++ bodyEnd openEnd) := by
  induction lines using bodyBytes.induct generalizing before with
  | case1 => simp [bodyBytes] at hsplit
  | case2 line =>
      obtain ⟨hfeed, hne⟩ := h line List.mem_cons_self
      have hwithin : ∃ rest, line = before ++ c :: rest ∧ after = rest ++ bodyEnd openEnd := by
        rw [bodyBytes] at hsplit
        obtain ⟨tail, hbefore, hrest⟩ | ⟨tail, hline, hrest⟩ := List.append_eq_append_iff.mp hsplit
        · exact absurd (mem_bodyEnd (hrest ▸ List.mem_append_right _ List.mem_cons_self)) hc
        · cases tail with
          | nil =>
              rw [List.nil_append] at hrest
              exact absurd (mem_bodyEnd (hrest ▸ List.mem_cons_self)) hc
          | cons d tail =>
              rw [List.cons_append, List.cons.injEq] at hrest
              exact ⟨tail, by rw [hline, hrest.1], hrest.2⟩
      obtain ⟨rest, hline, hafter⟩ := hwithin
      have hrest : lineFeed ∉ c :: rest := fun hmem => hfeed (hline ▸ List.mem_append_right _ hmem)
      refine ⟨[], before, rest, [], by rw [hline]; rfl, rfl, ?_, fun _ => hafter⟩
      obtain ⟨hread, -⟩ := @linesOf_append [] (c :: rest) hrest (bodyEnd openEnd)
      rw [List.nil_append, List.cons_append] at hread
      rw [hafter, hread]
      cases openEnd <;> rfl
  | case3 line next lines ih =>
      obtain ⟨⟨hfeed, -⟩, hlines⟩ := List.forall_mem_cons.mp h
      rw [bodyBytes] at hsplit
      obtain ⟨tail, hbefore, hrest⟩ | ⟨tail, hline, hrest⟩ := List.append_eq_append_iff.mp hsplit
      · cases tail with
        | nil =>
            rw [List.nil_append, List.cons.injEq] at hrest
            exact absurd hrest.1.symm hc
        | cons d tail =>
            rw [List.cons_append, List.cons.injEq] at hrest
            obtain ⟨front, start, rest, back, hmore, htail, hread, hback⟩ := ih hlines hrest.2
            refine ⟨line :: front, start, rest, back, by rw [hmore]; rfl, ?_, hread, hback⟩
            rw [hbefore, ← hrest.1, htail]
            simp [closedLines]
      · cases tail with
        | nil =>
            rw [List.nil_append, List.cons.injEq] at hrest
            exact absurd hrest.1 hc
        | cons d tail =>
            rw [List.cons_append, List.cons.injEq] at hrest
            obtain ⟨rfl, rfl⟩ := hrest
            have htail : lineFeed ∉ c :: tail := fun hmem => hfeed (hline ▸ List.mem_append_right _ hmem)
            refine ⟨[], before, tail, next :: lines, by rw [hline]; rfl, rfl, ?_, fun hback => by cases hback⟩
            obtain ⟨hread, -⟩ := @linesOf_append [] (c :: tail) htail (lineFeed :: bodyBytes openEnd (next :: lines))
            rw [List.nil_append, List.cons_append] at hread
            rw [hread, linesOf, if_pos rfl, linesOf_bodyBytes openEnd hlines]

end Bytes

/-! ### Chunks -/

def chunkBytes (chunks : List Chunk) : List UInt8 := chunks.flatMap fun chunk => chunk.1

section Chunks

variable {line : List UInt8}

/-- At a chunk that begins with 0xff a line that has begun ends, and a new one begins. -/
theorem readOn_cut {before : List Chunk} (hbefore : ∀ chunk ∈ before, chunk.1.head? ≠ some 255) {chunk : Chunk}
    (hchunk : chunk.1.head? = some 255) (area : List UInt8) (later : List Chunk) :
    readOn line ⟨area, before ++ chunk :: later⟩ = linesOf line (area ++ chunkBytes before) ++
      if openLine line (area ++ chunkBytes before) = [] then [] else readOn [] ⟨chunk.1, later⟩ := by
  induction before generalizing line area with
  | nil =>
      induction area generalizing line with
      | nil =>
          have hnone : [] ++ chunkBytes [] = [] := rfl
          rw [List.nil_append, readOn_refill, if_pos hchunk, hnone, linesOf, openLine]
          by_cases hline : line = []
          · rw [if_pos hline, if_pos hline, if_pos hline, List.nil_append]
          · rw [if_neg hline, if_neg hline, if_neg hline, List.singleton_append]
      | cons c area ih =>
          rw [readOn_cons, List.cons_append, linesOf, openLine]
          by_cases hc : c = lineFeed
          · rw [if_pos hc, if_pos hc, if_pos hc, ih, List.cons_append]
          · rw [if_neg hc, if_neg hc, if_neg hc, ih]
  | cons first before ihbefore =>
      obtain ⟨hfirst, hrest⟩ := List.forall_mem_cons.mp hbefore
      induction area generalizing line with
      | nil =>
          have hbytes : [] ++ chunkBytes (first :: before) = first.1 ++ chunkBytes before := by simp [chunkBytes]
          rw [List.cons_append, readOn_refill, if_neg hfirst, ihbefore hrest, hbytes]
      | cons c area ih =>
          rw [readOn_cons, List.cons_append, List.cons_append, linesOf, openLine]
          by_cases hc : c = lineFeed
          · rw [if_pos hc, if_pos hc, if_pos hc, List.cons_append, ← ih]
            rfl
          · rw [if_neg hc, if_neg hc, if_neg hc, ← ih]
            rfl

/-- The first line that is read is a beginning of what is left. -/
theorem readOn_first (area : List UInt8) (stream : List Chunk) : readOn line ⟨area, stream⟩ = [] ∨
    ∃ start rest, readOn line ⟨area, stream⟩ = (line ++ start) :: rest ∧ start <+: area ++ chunkBytes stream := by
  induction stream generalizing line area with
  | nil =>
      induction area generalizing line with
      | nil =>
          rw [readOn_end]
          by_cases hline : line = []
          · exact .inl (if_pos hline)
          · exact .inr ⟨[], [], by rw [if_neg hline, List.append_nil], List.nil_prefix⟩
      | cons c area ih =>
          rw [readOn_cons]
          by_cases hc : c = lineFeed
          · exact .inr ⟨[], _, by rw [if_pos hc, List.append_nil], List.nil_prefix⟩
          · rw [if_neg hc]
            obtain hnone | ⟨start, rest, hread, hstart⟩ := @ih (line ++ [c])
            · exact .inl hnone
            · refine .inr ⟨c :: start, rest, by rw [hread, List.append_assoc]; rfl, ?_⟩
              exact (List.prefix_cons_inj c).mpr hstart
  | cons chunk stream ihstream =>
      induction area generalizing line with
      | nil =>
          have hbytes : [] ++ chunkBytes (chunk :: stream) = chunk.1 ++ chunkBytes stream := by simp [chunkBytes]
          rw [readOn_refill, hbytes]
          by_cases hchunk : chunk.1.head? = some 255
          · rw [if_pos hchunk]
            by_cases hline : line = []
            · exact .inl (if_pos hline)
            · exact .inr ⟨[], _, by rw [if_neg hline, List.append_nil], List.nil_prefix⟩
          · rw [if_neg hchunk]
            exact ihstream chunk.1
      | cons c area ih =>
          rw [readOn_cons]
          by_cases hc : c = lineFeed
          · exact .inr ⟨[], _, by rw [if_pos hc, List.append_nil], List.nil_prefix⟩
          · rw [if_neg hc]
            obtain hnone | ⟨start, rest, hread, hstart⟩ := @ih (line ++ [c])
            · exact .inl hnone
            · refine .inr ⟨c :: start, rest, by rw [hread, List.append_assoc]; rfl, ?_⟩
              exact (List.prefix_cons_inj c).mpr hstart

/-- A body that is divided at a byte 0xff. -/
theorem readLines_divided {before : List UInt8} (hbefore : before ≠ []) (after : List UInt8) :
    readLines (make [⟨before, hbefore⟩, ⟨255 :: after, List.cons_ne_nil _ _⟩]) =
      linesOf [] before ++ if openLine [] before = [] then [] else linesOf [] (255 :: after) := by
  rw [readLines_make]
  have hcut := @readOn_cut [] [] (by simp) ⟨255 :: after, List.cons_ne_nil _ _⟩ rfl before []
  rw [List.nil_append] at hcut
  rw [hcut, readOn_eq (by simp)]
  simp [chunkBytes]

/-- Chunks are read as one unless one behind the first begins with 0xff. -/
theorem readLines_chunks (chunks : List Chunk) : readLines (make chunks) = linesOf [] (chunkBytes chunks) ∨
      ∃ before chunk later, chunkBytes chunks = before ++ 255 :: (chunk ++ chunkBytes later) ∧ before ≠ [] ∧
        readLines (make chunks) = linesOf [] before ++ if openLine [] before = [] then []
          else readOn [] ⟨255 :: chunk, later⟩ := by
  cases chunks with
  | nil =>
      refine .inl ?_
      rw [readLines_eq]
      exact readOn_end
  | cons first stream =>
      rw [readLines_make]
      by_cases hwhole : ∀ chunk ∈ stream, chunk.1.head? ≠ some 255
      · refine .inl ?_
        rw [readOn_eq hwhole]
        simp [chunkBytes]
      · obtain ⟨found, hfound, hcut⟩ : ∃ chunk ∈ stream, chunk.1.head? = some 255 := by simpa using hwhole
        have hfind : (stream.find? fun chunk => chunk.1.head? = some 255).isSome := by
          rw [List.find?_isSome]
          exact ⟨found, hfound, decide_eq_true hcut⟩
        obtain ⟨chunk, hchunk⟩ := Option.isSome_iff_exists.mp hfind
        obtain ⟨hhead, before, later, rfl, hbefore⟩ := List.find?_eq_some_iff_append.mp hchunk
        obtain ⟨more, hmore⟩ := List.head?_eq_some_iff.mp (of_decide_eq_true hhead)
        refine .inr ⟨first.1 ++ chunkBytes before, more, later, ?_, by simp [first.2], ?_⟩
        · simp [chunkBytes, hmore]
        · rw [readOn_cut (fun chunk hmem => by simpa using hbefore chunk hmem) (of_decide_eq_true hhead), hmore]

end Chunks

end Gfal2
