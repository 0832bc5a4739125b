import Gfal2.FileIoResults
import Mathlib.Data.List.Induction

/-! Positional reads and writes that the library simulates for a plugin without them. The plugin is a flat file and the
place of a handle in it. The simulation seeks and then reads or writes, and does not seek back: it leaves the handle
behind the bytes it moved, where a native positional call leaves it where it was. A seek to -1 fails with the -1 that
the simulation compares with the offset, and so passes for a success. -/

namespace Gfal2

open Base

/-- The bytes of a file, and where its handle stands. -/
structure FlatFile where
  content : List UInt8
  pos : Nat
  deriving DecidableEq

def invalidOffset : GError := ⟨lit "GFAL2::PLUGINS::FLAT", EINVAL, lit "Invalid argument"⟩

namespace FlatFile

variable (file : FlatFile)

def bytesAt (size offset : Nat) : List UInt8 := (file.content.drop offset).take size

/-- The bytes after a write. A gap before it reads as zeros. -/
def overwritten (buff : List UInt8) (offset : Nat) : List UInt8 :=
  if buff = [] then file.content
  else file.content.take offset ++ List.replicate (offset - file.content.length) 0 ++ buff ++
    file.content.drop (offset + buff.length)

/-- Where `SEEK_SET`, `SEEK_CUR` and `SEEK_END` lead. -/
def target (offset whence : Int) : Option Int :=
  if whence = 0 then some offset
  else if whence = 1 then some (file.pos + offset)
  else if whence = 2 then some (file.content.length + offset)
  else none

def lseek (offset whence : Int) : Ret Int × FlatFile :=
  match file.target offset whence with
  | some place => if 0 ≤ place then (⟨place, none⟩, { file with pos := place.toNat }) else (⟨-1, some invalidOffset⟩, file)
  | none => (⟨-1, some invalidOffset⟩, file)

def read (size : Nat) : Ret (Int × List UInt8) × FlatFile :=
  let bytes := file.bytesAt size file.pos
  (⟨(bytes.length, bytes), none⟩, { file with pos := file.pos + bytes.length })

def write (buff : List UInt8) : Ret Int × FlatFile :=
  (⟨buff.length, none⟩, ⟨file.overwritten buff file.pos, file.pos + buff.length⟩)

def pread (size : Nat) (offset : Int) : Ret (Int × List UInt8) × FlatFile :=
  if 0 ≤ offset then
    let bytes := file.bytesAt size offset.toNat
    (⟨(bytes.length, bytes), none⟩, file)
  else (⟨(-1, []), some invalidOffset⟩, file)

def pwrite (buff : List UInt8) (offset : Int) : Ret Int × FlatFile :=
  if 0 ≤ offset then (⟨buff.length, none⟩, { file with content := file.overwritten buff offset.toNat })
  else (⟨-1, some invalidOffset⟩, file)

end FlatFile

/-- A plugin for flat files, with positional calls of its own or without. -/
structure ServesFlat (native : Bool) (plugin : GfalPluginInterface FlatFile) : Prop where
  lseekG : plugin.lseekG = some fun _ offset whence file => file.lseek offset whence
  readG : plugin.readG = some fun _ size file => file.read size
  writeG : plugin.writeG = some fun _ buff file => file.write buff
  preadG : plugin.preadG = if native then some fun _ size offset file => file.pread size offset else none
  pwriteG : plugin.pwriteG = if native then some fun _ buff offset file => file.pwrite buff offset else none

/-- The descriptor is open on a flat file, and nothing is cancelled. -/
structure OnFlatFile (native : Bool) (context : Gfal2Context FlatFile) (fd : Int) (fh : GfalFileHandle) (slot : Slot) : Prop where
  positive : 0 < fd
  bound : context.fdescs.lookup fd = some fh
  clear : ∀ i, context.readings.cancel i = false
  belongs : OpenFile.Belongs context.pluginOpt fh slot
  serves : ServesFlat native (context.pluginOpt.pluginList slot)

/-! ### One call -/

/-- What a call returns, and the file after it. -/
def IoCall.answer (native : Bool) (file : FlatFile) : IoCall → Ret (Int × List UInt8) × FlatFile
  | .lseek offset whence =>
      let sought := file.lseek offset whence
      (⟨(toInt32 sought.1.val, []), sought.1.err⟩, sought.2)
  | .read size =>
      if size = 0 then (⟨(-1, []), some (invalidArgs (lit "gfal_plugin_readG"))⟩, file)
      else
        let moved := file.read size
        (⟨(toInt32 moved.1.val.1, moved.1.val.2), moved.1.err⟩, moved.2)
  | .write buff =>
      if buff = [] then (⟨(-1, []), some (invalidArgs (lit "gfal_plugin_writeG"))⟩, file)
      else
        let moved := file.write buff
        (⟨(toInt32 moved.1.val, []), moved.1.err⟩, moved.2)
  | .pread size offset =>
      if native then file.pread size offset
      else
        let sought := file.lseek offset 0
        let moved := sought.2.read size
        (simulated offset (fun ret => (ret, [])) sought.1 moved.1, if sought.1.val = offset then moved.2 else sought.2)
  | .pwrite buff offset =>
      if native then
        let moved := file.pwrite buff offset
        (⟨(toInt32 moved.1.val, []), moved.1.err⟩, moved.2)
      else
        let sought := file.lseek offset 0
        let moved := sought.2.write buff
        let ret := simulated offset id sought.1 moved.1
        (⟨(toInt32 ret.val, []), ret.err⟩, if sought.1.val = offset then moved.2 else sought.2)

section
variable {native : Bool} {context : Gfal2Context FlatFile} {fd : Int} {fh : GfalFileHandle} {slot : Slot}

variable (h : OnFlatFile native context fd fh slot)
include h

theorem OnFlatFile.opened : Opened context fd fh :=
  ⟨h.positive, h.bound, h.clear _⟩

theorem OnFlatFile.kept {context' : Gfal2Context FlatFile}
    (hkept : Kept context' context) : OnFlatFile native context' fd fh slot where
  positive := h.positive
  bound := by rw [hkept.fdescs, h.bound]
  clear := by rw [hkept.readings]; exact h.clear
  belongs := by rw [hkept.pluginOpt]; exact h.belongs
  serves := by rw [hkept.pluginOpt]; exact h.serves

/-- A read or write of nothing is refused before the plugin is asked. -/
theorem OnFlatFile.refused {α : Type} {failure : α} {ret : Ret α} {use : GfalFileHandle → Gfal FlatFile (Ret α)}
    (huse : use fh = return ret) :
    RunsTo (scopeCancel failure (onFile fd failure use)) context ret context.world := by
  rw [onFile, if_neg (by have := h.positive; omega)]
  refine RunsTo.scope h.opened (h.opened.runsTo ?_)
  rw [huse]
  exact runsTo_pure ret

theorem IoCall.runsTo (call : IoCall) :
    RunsTo (call.gfal2 mapPluginIo fd) context (call.answer native context.world).1 (call.answer native context.world).2 := by
  have hlead := leads_plugin h.belongs
  cases call with
  | lseek offset whence => exact runsTo_lseek .gfal2 h.opened hlead rfl (runsTo_lseekG h.serves.lseekG offset whence)
  | read size =>
      by_cases hsize : size = 0
      · rw [IoCall.answer, if_pos hsize]
        exact h.refused (by rw [dispatchReadG, if_pos hsize])
      · rw [IoCall.answer, if_neg hsize]
        exact runsTo_read .gfal2 h.opened hlead rfl hsize (runsTo_readG h.serves.readG size)
  | write buff =>
      by_cases hbuff : buff = []
      · rw [IoCall.answer, if_pos hbuff]
        refine RunsTo.withoutBytes (h.refused ?_)
        rw [dispatchWriteG, if_pos hbuff]
      · rw [IoCall.answer, if_neg hbuff]
        exact runsTo_write .gfal2 h.opened hlead rfl hbuff (runsTo_writeG h.serves.writeG buff)
  | pread size offset =>
      cases native with
      | true => exact runsTo_pread .gfal2 h.opened hlead rfl (runsTo_preadG h.serves.preadG size offset)
      | false =>
          exact runsTo_pread .gfal2 h.opened hlead rfl
            (runsTo_pread_simulated h.serves.lseekG h.serves.readG h.serves.preadG size offset)
  | pwrite buff offset =>
      cases native with
      | true => exact runsTo_pwrite .gfal2 h.opened hlead rfl (runsTo_pwriteG h.serves.pwriteG buff offset)
      | false =>
          exact runsTo_pwrite .gfal2 h.opened hlead rfl
            (runsTo_pwrite_simulated h.serves.lseekG h.serves.writeG h.serves.pwriteG buff offset)

end

/-! ### Where the two agree -/

/-- The call leaves the handle where it stands, simulated as it is: it moves the bytes just before that place, or its
seek is refused with another offset than the -1 of the refusal. -/
def IoCall.KeepsPlace (file : FlatFile) : IoCall → Prop
  | .pread size offset => offset < -1 ∨ 0 ≤ offset ∧ offset + (file.bytesAt size offset.toNat).length = file.pos
  | .pwrite buff offset => offset < -1 ∨ 0 ≤ offset ∧ offset + buff.length = file.pos
  | _ => True

namespace FlatFile

variable {file : FlatFile} {offset : Int}

theorem lseek_of_nonneg (h : 0 ≤ offset) : file.lseek offset 0 = (⟨offset, none⟩, { file with pos := offset.toNat }) := by
  show (if 0 ≤ offset then _ else _) = _
  rw [if_pos h]

theorem lseek_of_neg (h : offset < 0) : file.lseek offset 0 = (⟨-1, some invalidOffset⟩, file) := by
  show (if 0 ≤ offset then _ else _) = _
  rw [if_neg (by omega)]

theorem answer_pread_of_nonneg (h : 0 ≤ offset) (size : Nat) : (IoCall.pread size offset).answer false file =
      ((file.pread size offset).1, { file with pos := offset.toNat + (file.bytesAt size offset.toNat).length }) := by
  simp only [IoCall.answer, lseek_of_nonneg h, simulated, read, pread, if_pos h, Bool.false_eq_true, if_false, if_true,
    Option.none_or]
  rfl

theorem answer_pwrite_of_nonneg (h : 0 ≤ offset) (buff : List UInt8) : (IoCall.pwrite buff offset).answer false file =
      (((IoCall.pwrite buff offset).answer true file).1,
        { ((IoCall.pwrite buff offset).answer true file).2 with pos := offset.toNat + buff.length }) := by
  simp only [IoCall.answer, lseek_of_nonneg h, simulated, write, pwrite, if_pos h, Bool.false_eq_true, if_false, if_true,
    Option.none_or]
  rfl

/-- Any other negative offset than -1 is refused by the simulation as by the plugin. -/
theorem answer_pread_of_refused (h : offset < -1) (size : Nat) :
    (IoCall.pread size offset).answer false file = (⟨(-1, []), some invalidOffset⟩, file) := by
  have hne : (-1 : Int) ≠ offset := by omega
  simp only [IoCall.answer, lseek_of_neg (show offset < 0 by omega), simulated, Bool.false_eq_true, if_false, if_neg hne,
    Option.isSome_some, if_true]

theorem answer_pwrite_of_refused (h : offset < -1) (buff : List UInt8) :
    (IoCall.pwrite buff offset).answer false file = (⟨(-1, []), some invalidOffset⟩, file) := by
  have hne : (-1 : Int) ≠ offset := by omega
  simp only [IoCall.answer, lseek_of_neg (show offset < 0 by omega), simulated, Bool.false_eq_true, if_false, if_neg hne,
    Option.isSome_some, if_true]
  rfl

/-- At -1 the simulation writes where the handle stands. -/
theorem answer_pwrite_of_passed (buff : List UInt8) : (IoCall.pwrite buff (-1)).answer false file =
      (⟨(toInt32 buff.length, []), some invalidOffset⟩, ⟨file.overwritten buff file.pos, file.pos + buff.length⟩) := by
  simp only [IoCall.answer, lseek_of_neg (show (-1 : Int) < 0 by omega), simulated, write, Bool.false_eq_true, if_false,
    if_true, Option.some_or]

end FlatFile

theorem IoCall.answer_eq_iff (file : FlatFile) (call : IoCall) :
    call.answer false file = call.answer true file ↔ call.KeepsPlace file := by
  have hmoved (content : List UInt8) (pos : Nat) : (⟨content, pos⟩ : FlatFile) = ⟨content, file.pos⟩ ↔ pos = file.pos := by
    rw [FlatFile.mk.injEq, and_iff_right rfl]
  cases call with
  | lseek offset whence => exact iff_of_true rfl trivial
  | read size => exact iff_of_true rfl trivial
  | write buff => exact iff_of_true rfl trivial
  | pread size offset =>
      rw [IoCall.KeepsPlace]
      obtain hpos | rfl | hneg : 0 ≤ offset ∨ offset = -1 ∨ offset < -1 := by omega
      · have htrue : (IoCall.pread size offset).answer true file = ((file.pread size offset).1, file) := by
          show file.pread size offset = _
          rw [FlatFile.pread, if_pos hpos]
        rw [FlatFile.answer_pread_of_nonneg hpos, htrue, Prod.mk.injEq, and_iff_right rfl]
        refine (hmoved file.content _).trans ?_
        omega
      · -- the bytes at the place of the handle instead of a refusal
        refine iff_of_false (fun h => ?_) (by omega)
        have hcount := congrArg (fun answer : Ret (Int × List UInt8) × FlatFile => answer.1.val.1) h
        exact absurd (show ((file.bytesAt size file.pos).length : Int) = -1 from hcount) (by omega)
      · refine iff_of_true ?_ (.inl hneg)
        rw [FlatFile.answer_pread_of_refused hneg]
        show _ = file.pread size offset
        rw [FlatFile.pread, if_neg (by omega)]
  | pwrite buff offset =>
      rw [IoCall.KeepsPlace]
      obtain hpos | rfl | hneg : 0 ≤ offset ∨ offset = -1 ∨ offset < -1 := by omega
      · have hplace : ((IoCall.pwrite buff offset).answer true file).2.pos = file.pos := by
          show (file.pwrite buff offset).2.pos = file.pos
          rw [FlatFile.pwrite, if_pos hpos]
        rw [FlatFile.answer_pwrite_of_nonneg hpos]
        constructor
        · intro h
          have heq := congrArg (fun answer : Ret (Int × List UInt8) × FlatFile => answer.2.pos) h
          have hend : offset.toNat + buff.length = file.pos := heq.trans hplace
          omega
        · intro h
          have hend : offset.toNat + buff.length = ((IoCall.pwrite buff offset).answer true file).2.pos := by
            rw [hplace]
            omega
          rw [hend]
      · have htrue : (IoCall.pwrite buff (-1)).answer true file = (⟨(-1, []), some invalidOffset⟩, file) := by
          show ((⟨(toInt32 (file.pwrite buff (-1)).1.val, []), (file.pwrite buff (-1)).1.err⟩ : Ret (Int × List UInt8)),
            (file.pwrite buff (-1)).2) = _
          rw [FlatFile.pwrite, if_neg (by omega), toInt32_neg_one]
        refine iff_of_false (fun h => ?_) (by omega)
        rw [FlatFile.answer_pwrite_of_passed, htrue] at h
        obtain ⟨hret, hfile⟩ := Prod.mk.inj h
        have hlength : toInt32 buff.length = -1 := (Prod.mk.inj (Ret.mk.inj hret).1).1
        have hend : file.pos + buff.length = file.pos := congrArg FlatFile.pos hfile
        have hzero : (buff.length : Int) = 0 := by omega
        rw [hzero, toInt32, Int.zero_bmod] at hlength
        omega
      · refine iff_of_true ?_ (.inl hneg)
        rw [FlatFile.answer_pwrite_of_refused hneg]
        show _ = (_, (file.pwrite buff offset).2)
        rw [FlatFile.pwrite, if_neg (by omega)]
        rfl

/-! ### Sequences of calls -/

/-- The calls on a descriptor, one after the other. -/
def IoCall.runAll {σ : Type} (fd : Int) : List IoCall → Gfal σ (List (Ret (Int × List UInt8)))
  | [] => return []
  | call :: calls => do
      let ret ← call.gfal2 mapPluginIo fd
      let rets ← runAll fd calls
      return ret :: rets

/-- What the calls return, and the file after them. -/
def IoCall.seen (fd : Int) (calls : List IoCall) (context : Gfal2Context FlatFile) :
    Except Fault (List (Ret (Int × List UInt8)) × FlatFile) :=
  (IoCall.runAll fd calls context).map fun answer => (answer.1, answer.2.world)

def IoCall.answers (native : Bool) : FlatFile → List IoCall → List (Ret (Int × List UInt8)) × FlatFile
  | file, [] => ([], file)
  | file, call :: calls =>
      let first := call.answer native file
      let rest := answers native first.2 calls
      (first.1 :: rest.1, rest.2)

def IoCall.KeepsPlaces : FlatFile → List IoCall → Prop
  | _, [] => True
  | file, call :: calls => call.KeepsPlace file ∧ KeepsPlaces (call.answer true file).2 calls

/-- A positional call that a seek cannot serve. -/
def IoCall.SeekFails : IoCall → Prop
  | .pread _ offset => offset < 0
  | .pwrite _ offset => offset < 0
  | _ => False

/-- Calls on a file whose plugin has no positional ones are seen as on the same file with them. -/
structure SimulatedAsNative (fd : Int) (calls : List IoCall) (without native : Gfal2Context FlatFile) : Prop where
  same : ∀ done, done <+: calls → IoCall.seen fd done without = IoCall.seen fd done native
  refused : ∀ done call rets file rets' file', done ++ [call] <+: calls → call.SeekFails →
    IoCall.seen fd done without = .ok (rets, file) → IoCall.seen fd (done ++ [call]) without = .ok (rets', file') →
      file'.pos = file.pos

section
variable {native : Bool} {context : Gfal2Context FlatFile} {fd : Int} {fh : GfalFileHandle} {slot : Slot}

theorem runsTo_runAll (h : OnFlatFile native context fd fh slot) (calls : List IoCall) :
    RunsTo (IoCall.runAll fd calls) context (IoCall.answers native context.world calls).1
      (IoCall.answers native context.world calls).2 := by
  induction calls generalizing context with
  | nil => exact runsTo_pure []
  | cons call calls ih =>
      refine (IoCall.runsTo h call).bind fun context' hworld hkept => ?_
      have hrest := ih (h.kept hkept)
      rw [hworld] at hrest
      exact hrest.then_pure fun rets => (call.answer native context.world).1 :: rets

theorem seen_eq (h : OnFlatFile native context fd fh slot) (calls : List IoCall) :
    IoCall.seen fd calls context = .ok (IoCall.answers native context.world calls) := by
  obtain ⟨context', hrun, hworld, -⟩ := runsTo_runAll h calls
  rw [IoCall.seen, hrun]
  show Except.ok (_, context'.world) = _
  rw [hworld]

theorem answers_append (file : FlatFile) (calls : List IoCall) (call : IoCall) :
    IoCall.answers native file (calls ++ [call]) =
      ((IoCall.answers native file calls).1 ++ [(call.answer native (IoCall.answers native file calls).2).1],
        (call.answer native (IoCall.answers native file calls).2).2) := by
  induction calls generalizing file with
  | nil => rfl
  | cons first calls ih =>
      rw [List.cons_append, IoCall.answers, ih]
      rfl

theorem keepsPlaces_append (file : FlatFile) (calls : List IoCall) (call : IoCall) :
    IoCall.KeepsPlaces file (calls ++ [call]) ↔
      IoCall.KeepsPlaces file calls ∧ call.KeepsPlace (IoCall.answers true file calls).2 := by
  induction calls generalizing file with
  | nil => exact and_comm
  | cons first calls ih =>
      rw [List.cons_append, IoCall.KeepsPlaces, IoCall.KeepsPlaces, ih, and_assoc]
      rfl

/-- The answers agree after every call of a sequence if and only if every call keeps its place. -/
theorem answers_eq_iff (file : FlatFile) (calls : List IoCall) :
    (∀ done, done <+: calls → IoCall.answers false file done = IoCall.answers true file done) ↔
      IoCall.KeepsPlaces file calls := by
  induction calls using List.reverseRecOn with
  | nil => exact iff_of_true (fun done hdone => by rw [List.prefix_nil.mp hdone]; rfl) trivial
  | append_singleton calls call ih =>
      rw [keepsPlaces_append, ← ih, ← IoCall.answer_eq_iff]
      constructor
      · intro h
        have hcalls := h calls (List.prefix_append _ _)
        have hall := h (calls ++ [call]) List.prefix_rfl
        rw [answers_append, answers_append, hcalls, Prod.mk.injEq, List.append_cancel_left_eq, List.singleton_inj] at hall
        exact ⟨fun done hdone => h done (hdone.trans (List.prefix_append _ _)), Prod.ext hall.1 hall.2⟩
      · rintro ⟨hcalls, hcall⟩ done hdone
        obtain rfl | hshort := List.prefix_concat_iff.mp hdone
        · rw [answers_append, answers_append, hcalls calls List.prefix_rfl, hcall]
        · exact hcalls done hshort

/-- A positional call that keeps its place and whose seek fails leaves the handle where it is. -/
theorem answer_pos_of_refused {file : FlatFile} {call : IoCall} (hkeeps : call.KeepsPlace file) (hfails : call.SeekFails) :
    (call.answer false file).2.pos = file.pos := by
  cases call with
  | lseek => cases hfails
  | read => cases hfails
  | write => cases hfails
  | pread size offset =>
      have hneg : offset < 0 := hfails
      have hrefused : offset < -1 := hkeeps.resolve_right fun h => absurd h.1 (by omega)
      rw [FlatFile.answer_pread_of_refused hrefused]
  | pwrite buff offset =>
      have hneg : offset < 0 := hfails
      have hrefused : offset < -1 := hkeeps.resolve_right fun h => absurd h.1 (by omega)
      rw [FlatFile.answer_pwrite_of_refused hrefused]

theorem keepsPlaces_of_earlier {file : FlatFile} {done calls : List IoCall} (h : IoCall.KeepsPlaces file calls)
    (hdone : done <+: calls) : IoCall.KeepsPlaces file done := by
  rw [← answers_eq_iff] at h ⊢
  exact fun earlier hearlier => h earlier (hearlier.trans hdone)

end

/-- A plugin without positional calls is seen as with them, over any calls on a handle, if and only if each positional
call ends where the handle stands or is at an offset below -1. -/
theorem simulated_io_as_native_iff {fd : Int} {fh fh' : GfalFileHandle} {slot slot' : Slot}
    {without native : Gfal2Context FlatFile} (hwithout : OnFlatFile false without fd fh slot)
    (hnative : OnFlatFile true native fd fh' slot') (hfile : without.world = native.world) (calls : List IoCall) :
    SimulatedAsNative fd calls without native ↔ IoCall.KeepsPlaces native.world calls := by
  have hseen (done : List IoCall) : IoCall.seen fd done without = IoCall.seen fd done native ↔
      IoCall.answers false native.world done = IoCall.answers true native.world done := by
    rw [seen_eq hwithout, seen_eq hnative, hfile]
    exact ⟨Except.ok.inj, congrArg Except.ok⟩
  rw [← answers_eq_iff]
  refine ⟨fun h done hdone => (hseen done).mp (h.same done hdone), fun h => ⟨fun done hdone => (hseen done).mpr (h done hdone), ?_⟩⟩
  intro done call rets file rets' file' hprefix hfails hdone hcall
  obtain ⟨-, hkeeps⟩ := (keepsPlaces_append _ _ _).mp (keepsPlaces_of_earlier ((answers_eq_iff _ _).mp h) hprefix)
  have hbefore : IoCall.answers false native.world done = (rets, file) := by
    rw [← hfile]
    exact Except.ok.inj ((seen_eq hwithout done).symm.trans hdone)
  have hafter : IoCall.answers false native.world (done ++ [call]) = (rets', file') := by
    rw [← hfile]
    exact Except.ok.inj ((seen_eq hwithout _).symm.trans hcall)
  rw [← h done ((List.prefix_append _ _).trans hprefix), hbefore] at hkeeps
  rw [answers_append, hbefore] at hafter
  rw [← (Prod.mk.inj hafter).2]
  exact answer_pos_of_refused hkeeps hfails

def flatPlugin (native : Bool) : GfalPluginInterface FlatFile where
  getName := some (lit "flat_plugin")
  lseekG := some fun _ offset whence file => file.lseek offset whence
  readG := some fun _ size file => file.read size
  writeG := some fun _ buff file => file.write buff
  preadG := if native then some fun _ size offset file => file.pread size offset else none
  pwriteG := if native then some fun _ buff offset file => file.pwrite buff offset else none

def flatOpts (native : Bool) : GfalPluginOpts FlatFile :=
  { pluginList := fun _ => flatPlugin native, sortedPlugin := [0], pluginNumber := 1 }

def flatHandle : GfalFileHandle := ⟨lit "flat_plugin", 7, none⟩

/-- A context with one open file of four bytes, its handle at the start. -/
def flatContext (native : Bool) : Gfal2Context FlatFile where
  pluginOpt := flatOpts native
  fdescs := AList.insert 1 flatHandle ∅
  world := ⟨[1, 2, 3, 4], 0⟩

theorem onFlatFile_flatContext (native : Bool) : OnFlatFile native (flatContext native) 1 flatHandle 0 where
  positive := by decide
  bound := AList.lookup_insert _
  clear _ := rfl
  belongs context hopts := by
    obtain ⟨opts⟩ := context
    cases (show opts = flatOpts native from hopts)
    rfl
  serves := ⟨rfl, rfl, rfl, rfl, rfl⟩

/-- A sequential read, and the same bytes again at their offset. -/
theorem simulated_io_as_native_reread :
    SimulatedAsNative 1 [.read 2, .pread 2 0, .pwrite [9] (-2)] (flatContext false) (flatContext true) :=
  (simulated_io_as_native_iff (onFlatFile_flatContext false) (onFlatFile_flatContext true) rfl _).mpr
    ⟨trivial, .inr ⟨le_rfl, rfl⟩, .inl (by decide), trivial⟩

/-- After a simulated `pread` at the start, a sequential read finds the bytes behind those. -/
theorem pread_moves_handle : ¬∀ (fd : Int) (fh fh' : GfalFileHandle) (slot slot' : Slot)
    (without native : Gfal2Context FlatFile) (calls : List IoCall), OnFlatFile false without fd fh slot →
    OnFlatFile true native fd fh' slot' → without.world = native.world → SimulatedAsNative fd calls without native := by
  intro hall
  have h := (hall 1 flatHandle flatHandle 0 0 (flatContext false) (flatContext true) [.pread 2 0, .read 2]
    (onFlatFile_flatContext false) (onFlatFile_flatContext true) rfl).same _ List.prefix_rfl
  rw [seen_eq (onFlatFile_flatContext false), seen_eq (onFlatFile_flatContext true)] at h
  revert h
  decide

end Gfal2
