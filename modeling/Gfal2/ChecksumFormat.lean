import Gfal2.Checksums
import Gfal2.DispatchContract

/-! The formatting of Adler-32 texts. A text is padded for every type that begins `adler32`, after a failed call as well, and only where the
buffer has room. -/

namespace Gfal2

open Base Exec

/-! ### Comparison -/

theorem gfalCompareChecksums_eq_zero_iff_take {chk1 chk2 : CString} {len : Nat} :
    gfalCompareChecksums chk1 chk2 len = 0 ↔ (canonicalChecksum chk1).take len = (canonicalChecksum chk2).take len :=
  strcmp_eq_zero_iff _ _

theorem equivalence_gfalCompareChecksums (len : Nat) : Equivalence fun chk1 chk2 => gfalCompareChecksums chk1 chk2 len = 0 where
  refl _ := gfalCompareChecksums_eq_zero_iff_take.mpr rfl
  symm h := gfalCompareChecksums_eq_zero_iff_take.mpr (gfalCompareChecksums_eq_zero_iff_take.mp h).symm
  trans h h' := gfalCompareChecksums_eq_zero_iff_take.mpr
    ((gfalCompareChecksums_eq_zero_iff_take.mp h).trans (gfalCompareChecksums_eq_zero_iff_take.mp h'))

/-- A text with zeros on the left up to eight characters. -/
def padChecksum (text : CString) : CString := List.replicate (gfalAdlerChksumLen - text.length) '0' ++ text

theorem canonicalChecksum_padChecksum (text : CString) : canonicalChecksum (padChecksum text) = canonicalChecksum text := by
  rw [canonicalChecksum, padChecksum, List.dropWhile_append_of_pos]
  · rfl
  · intro c hc
    rw [List.eq_of_mem_replicate hc]
    rfl

theorem padChecksum_of_le {text : CString} (h : gfalAdlerChksumLen ≤ text.length) : padChecksum text = text := by
  rw [padChecksum, Nat.sub_eq_zero_of_le h, List.replicate_zero, List.nil_append]

theorem padChecksum_ne {text : CString} (h : text.length < gfalAdlerChksumLen) : padChecksum text ≠ text := by
  intro heq
  have hlength := congrArg List.length heq
  rw [padChecksum, List.length_append, List.length_replicate] at hlength
  omega

/-! ### The text of a checksum -/

/-- The type is `adler32`, in any case. -/
def IsAdler32 (checkType : CString) : Prop := checkType.map Char.toLower = lit "adler32"

/-- `adler32` begins with the type, in any case. -/
def BeginsAdler32 (checkType : CString) : Prop := checkType.map Char.toLower <+: lit "adler32"

/-- The option, which is on where it is not set. -/
def Config.formatsAdler32 (config : Config) : Bool := (config.optBoolean (lit "CORE") (lit "FORMAT_ADLER32_CHECKSUM")).getD true

instance (checkType : CString) : Decidable (IsAdler32 checkType) := inferInstanceAs (Decidable (_ = _))

instance (checkType : CString) : Decidable (BeginsAdler32 checkType) := inferInstanceAs (Decidable (_ <+: _))

variable {σ : Type}

/-- What the plugin answers with the text it leaves in the buffer; in a cancelled scope no plugin is asked. -/
def ChecksumOutcome (url checkType : CString) (start : Int) (size : Nat) (buffer : CString) (length : Nat) (context : Gfal2Context σ)
    (answer : Ret (Int × CString)) : Prop :=
  context.readings.cancel context.cancelReads = true ∧ answer = ⟨(-1, buffer), some canceledByUser⟩ ∨
    context.readings.cancel context.cancelReads = false ∧ ∃ middle, dispatchUrl .checksum .checksumCalcG url (-1, buffer)
      (fun p : GfalPluginInterface σ => p.checksumCalcG.map (· url checkType buffer length start size)) context.inScope = .ok (answer, middle)

/-- The text is padded if and only if the plugin succeeds for `adler32` and the option is on; it compares equal to the one of the plugin,
under an equivalence that takes texts for the same which differ in case and leading zeros. -/
structure ChecksumFormatted (config : Config) (checkType : CString) (answer : Ret (Int × CString)) (text : CString) : Prop where
  padded : text = if config.formatsAdler32 = true ∧ IsAdler32 checkType ∧ 0 ≤ answer.val.1 then padChecksum answer.val.2 else answer.val.2
  compares : ∀ len, gfalCompareChecksums text answer.val.2 len = 0
  equivalence : ∀ len, Equivalence fun chk1 chk2 => gfalCompareChecksums chk1 chk2 len = 0
  same : ∀ len chk1 chk2, chk1.length ≤ len → chk2.length ≤ len → (gfalCompareChecksums chk1 chk2 len = 0 ↔ SameChecksum chk1 chk2)

variable {url checkType buffer : CString} {start : Int} {size length : Nat} {context context' : Gfal2Context σ}

theorem strncasecmp_length_eq_zero_iff {left right : CString} :
    strncasecmp left right left.length = 0 ↔ left.map Char.toLower <+: right.map Char.toLower := by
  have hlength : (left.map Char.toLower).length = left.length := List.length_map _
  rw [strncasecmp, ← hlength]
  exact strncmp_length_eq_zero_iff _ _

theorem formatAdler32_eq (config : Config) (checkType text : CString) (length : Nat) :
    formatAdler32 config checkType text length =
      if config.formatsAdler32 = true ∧ BeginsAdler32 checkType ∧ gfalAdlerChksumLen < length ∧ text.length < gfalAdlerChksumLen then
        padChecksum text
      else text := by
  rw [formatAdler32, padChecksum]
  refine if_congr ?_ rfl rfl
  rw [strncasecmp_length_eq_zero_iff]
  refine and_congr Iff.rfl (and_congr Iff.rfl And.comm)

theorem compares_formatAdler32 (config : Config) (checkType text : CString) (length len : Nat) :
    gfalCompareChecksums (formatAdler32 config checkType text length) text len = 0 := by
  rw [gfalCompareChecksums_eq_zero_iff_take, formatAdler32_eq]
  split
  · rw [canonicalChecksum_padChecksum]
  · rfl

/-- A text is formatted rightly if and only if there is nothing to pad, or it is padded for the right reasons. -/
theorem checksumFormatted_iff {config : Config} {answer : Ret (Int × CString)} :
    ChecksumFormatted config checkType answer (formatAdler32 config checkType answer.val.2 length) ↔
      config.formatsAdler32 = false ∨ gfalAdlerChksumLen ≤ answer.val.2.length ∨
        (BeginsAdler32 checkType ∧ gfalAdlerChksumLen < length ↔ IsAdler32 checkType ∧ 0 ≤ answer.val.1) := by
  have hpadded : ChecksumFormatted config checkType answer (formatAdler32 config checkType answer.val.2 length) ↔
      formatAdler32 config checkType answer.val.2 length =
        if config.formatsAdler32 = true ∧ IsAdler32 checkType ∧ 0 ≤ answer.val.1 then padChecksum answer.val.2 else answer.val.2 :=
    ⟨ChecksumFormatted.padded, fun h => ⟨h, compares_formatAdler32 _ _ _ _, equivalence_gfalCompareChecksums,
      fun _ _ _ => gfalCompareChecksums_eq_zero_iff⟩⟩
  rw [hpadded, formatAdler32_eq]
  cases hformats : config.formatsAdler32 with
  | false => simp
  | true =>
      by_cases hshort : answer.val.2.length < gfalAdlerChksumLen
      · have hne := padChecksum_ne hshort
        simp only [hshort, and_true, true_and, Bool.true_eq_false, false_or, not_le.mpr hshort]
        constructor
        · intro heq
          split_ifs at heq with hcode hclaim hclaim
          · exact iff_of_true hcode hclaim
          · exact absurd heq hne
          · exact absurd heq.symm hne
          · exact iff_of_false hcode hclaim
        · exact fun hsame => if_congr hsame rfl rfl
      · have hlong := not_lt.mp hshort
        rw [padChecksum_of_le hlong]
        simp [hlong]

/-! ### The call -/

theorem gfal2Checksum_of_outcome {answer : Ret (Int × CString)} {ret : Ret (Int × Option CString)} (hlength : length ≠ 0)
    (houtcome : ChecksumOutcome url checkType start size buffer length context answer)
    (h : gfal2Checksum url checkType start size (some buffer) length context = .ok (ret, context')) :
    ret.val.1 = answer.val.1 ∧ ret.val.2 = some (if context.readings.cancel context.cancelReads then answer.val.2
      else formatAdler32 context.config checkType answer.val.2 length) := by
  rw [gfal2Checksum, if_neg hlength] at h
  obtain ⟨hcancel, rfl⟩ | ⟨hcancel, middle, hanswer⟩ := houtcome
  · rw [Exec.bind_of_ok (gfal2StartScopeCancel_of_cancelled hcancel)] at h
    obtain ⟨rfl, -⟩ := ok_inj h
    rw [if_pos hcancel]
    exact ⟨by rfl, by rfl⟩
  · rw [Exec.bind_of_ok (gfal2StartScopeCancel_of_clear hcancel), if_neg (by simp)] at h
    obtain ⟨answer', middle', hanswer', h⟩ := Exec.bind_eq_ok.mp h
    obtain ⟨rfl, rfl⟩ := ok_inj (hanswer'.symm.trans hanswer)
    obtain ⟨rfl, -⟩ := ok_inj h
    have hconfig : middle'.config = context.config := by
      have hstart : context.inScope.config = context.config := rfl
      obtain ⟨loaded, hloaded, ⟨-, rfl⟩ | ⟨slot, call, -, -, rfl⟩⟩ :=
        dispatchUrl_outcome (loadStable_config context.config) hstart hanswer'
      · exact hloaded
      · exact hloaded
    rw [if_neg (by simp [hcancel]), ← hconfig]
    exact ⟨by rfl, by rfl⟩

/-- A text that fits into its buffer is formatted rightly if and only if no plugin is asked, or there is nothing to pad, or exactly the types
that begin `adler32` succeed as `adler32` where the buffer has room. -/
theorem checksum_formatted_iff {answer : Ret (Int × CString)} {ret : Ret (Int × Option CString)}
    (houtcome : ChecksumOutcome url checkType start size buffer length context answer) (hfits : answer.val.2.length < length)
    (h : gfal2Checksum url checkType start size (some buffer) length context = .ok (ret, context')) :
    (∃ text, ret.val = (answer.val.1, some text) ∧ ChecksumFormatted context.config checkType answer text) ↔
      context.readings.cancel context.cancelReads = true ∨ context.config.formatsAdler32 = false ∨
        gfalAdlerChksumLen ≤ answer.val.2.length ∨
          (BeginsAdler32 checkType ∧ gfalAdlerChksumLen < length ↔ IsAdler32 checkType ∧ 0 ≤ answer.val.1) := by
  obtain ⟨hval, htext⟩ := gfal2Checksum_of_outcome (by omega) houtcome h
  have hret (text : CString) : ret.val = (answer.val.1, some text) ↔
      (if context.readings.cancel context.cancelReads then answer.val.2 else formatAdler32 context.config checkType answer.val.2 length) =
        text := by
    rw [Prod.ext_iff, htext]
    simp [hval]
  simp only [hret, exists_eq_left']
  cases hcancel : context.readings.cancel context.cancelReads with
  | true =>
      obtain ⟨-, rfl⟩ | ⟨hclear, -⟩ := houtcome
      · simp only [if_true]
        refine iff_of_true ⟨?_, fun len => ?_, equivalence_gfalCompareChecksums, fun _ _ _ => gfalCompareChecksums_eq_zero_iff⟩ (.inl trivial)
        · rw [if_neg fun hpads => absurd hpads.2.2 (by simp)]
        · exact (equivalence_gfalCompareChecksums len).refl _
      · cases hcancel.symm.trans hclear
  | false =>
      simp only [Bool.false_eq_true, false_or, if_false]
      exact checksumFormatted_iff

/-- A text of the mock plugin has eight characters already. -/
theorem checksum_formatted_mock : ∃ ret context', gfal2Checksum (lit "mock://host/file") (lit "Adler32") 0 0 (some []) 64 checksumContext =
    .ok (ret, context') ∧ ∃ text, ret.val = (0, some text) ∧
      ChecksumFormatted checksumContext.config (lit "Adler32") ⟨(0, lit "1a0b045d"), none⟩ text := by
  obtain ⟨ret, context', hrun⟩ := gfal2Checksum_of_ready (lit "mock://host/file") (lit "Adler32") 0 0 (some []) 64 ready_checksumContext
  exact ⟨ret, context', hrun, (checksum_formatted_iff (.inr ⟨rfl, _, rfl⟩) (by decide) hrun).mpr
    (.inr (.inr (.inr (iff_of_true (by decide) (by decide)))))⟩

/-- The buffer of a failed call is padded. -/
theorem failed_checksum_padded : ¬∀ (url checkType buffer : CString) (start : Int) (size length : Nat) (context context' : Gfal2Context Unit)
    (answer : Ret (Int × CString)) (ret : Ret (Int × Option CString)),
    ChecksumOutcome url checkType start size buffer length context answer → answer.val.2.length < length →
      gfal2Checksum url checkType start size (some buffer) length context = .ok (ret, context') →
        ∃ text, ret.val = (answer.val.1, some text) ∧ ChecksumFormatted context.config checkType answer text := by
  intro hall
  obtain ⟨text, htext, hformatted⟩ := hall (lit "mock://host/file") (lit "ADLER32") [] 0 0 64 { world := () } _ _ _
    (.inr ⟨rfl, _, rfl⟩) (by decide) rfl
  have hpadded : text = lit "00000000" := (Option.some.inj (Prod.mk.inj htext).2).symm
  have hkept : text = [] := hformatted.padded
  rw [hkept] at hpadded
  exact absurd hpadded (by decide)

end Gfal2
