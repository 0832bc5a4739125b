import Gfal2.LocalCopy

/-! When two checksums are the same: leading zeros and case do not count. A checksum that is cut to a buffer
is another one, unless there is nothing but zeros in it. -/

namespace Gfal2

open Base

/-- A checksum without leading zeros and in small letters. -/
def canonicalChecksum (chk : CString) : CString := (chk.dropWhile (· == '0')).map Char.toLower

/-- Equality under `gfal_compare_checksums`, however long the strings are. -/
def SameChecksum (chk1 chk2 : CString) : Prop := canonicalChecksum chk1 = canonicalChecksum chk2

instance (chk1 chk2 : CString) : Decidable (SameChecksum chk1 chk2) :=
  inferInstanceAs (Decidable (canonicalChecksum chk1 = canonicalChecksum chk2))

theorem length_canonicalChecksum_le (chk : CString) : (canonicalChecksum chk).length ≤ chk.length := by
  rw [canonicalChecksum, List.length_map]
  exact (List.dropWhile_sublist _).length_le

theorem gfalCompareChecksums_eq_zero_iff {chk1 chk2 : CString} {len : Nat} (h1 : chk1.length ≤ len)
    (h2 : chk2.length ≤ len) : gfalCompareChecksums chk1 chk2 len = 0 ↔ SameChecksum chk1 chk2 := by
  have htake : ∀ {chk : CString}, chk.length ≤ len → (canonicalChecksum chk).take len = canonicalChecksum chk :=
    fun h => List.take_of_length_le ((length_canonicalChecksum_le _).trans h)
  show strcmp ((canonicalChecksum chk1).take len) ((canonicalChecksum chk2).take len) = 0 ↔ _
  rw [strcmp_eq_zero_iff, htake h1, htake h2]
  rfl

/-- Nothing but zeros, as far as a comparison is concerned an empty checksum. -/
def Zeros (chk : CString) : Prop := ∀ c ∈ chk, c = '0'

variable {chk : CString}

theorem canonicalChecksum_eq_nil_iff : canonicalChecksum chk = [] ↔ Zeros chk := by
  rw [canonicalChecksum, List.map_eq_nil_iff, List.dropWhile_eq_nil_iff]
  simp [Zeros]

theorem sameChecksum_nil_iff : SameChecksum chk [] ↔ Zeros chk := canonicalChecksum_eq_nil_iff

theorem Zeros.take (h : Zeros chk) (n : Nat) : Zeros (chk.take n) :=
  fun c hc => h c (List.mem_of_mem_take hc)

theorem length_canonicalChecksum_take_lt {n : Nat} (hlong : n < chk.length) (hzeros : ¬Zeros chk) :
    (canonicalChecksum (chk.take n)).length < (canonicalChecksum chk).length := by
  induction chk generalizing n with
  | nil => simp at hlong
  | cons c chk ih =>
      cases n with
      | zero => exact List.length_pos_iff.mpr fun h => hzeros (canonicalChecksum_eq_nil_iff.mp h)
      | succ n =>
          have hlong' : n < chk.length := by simpa using hlong
          by_cases hc : c = '0'
          · subst hc
            have hzeros' : ¬Zeros chk := fun h => hzeros (List.forall_mem_cons.mpr ⟨rfl, h⟩)
            simpa [canonicalChecksum] using ih hlong' hzeros'
          · simpa [canonicalChecksum, hc] using hlong'

/-- A checksum that is cut is another one, unless there is nothing but zeros. -/
theorem not_sameChecksum_take {n : Nat} (hlong : n < chk.length) (hzeros : ¬Zeros chk) :
    ¬SameChecksum chk (chk.take n) := fun hsame =>
  absurd (congrArg List.length hsame) (length_canonicalChecksum_take_lt hlong hzeros).ne'

end Gfal2
