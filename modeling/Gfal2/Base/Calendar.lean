import Mathlib.Data.Int.Order.Basic
import Mathlib.Tactic.Common

/-! Broken-down times of the Gregorian calendar and the seconds since the epoch that they stand for. The offset of a local time
zone depends on the time. -/

namespace Base

/-- `struct tm` without the days of the week and of the year. The year is counted from 1900 and the month from 0. -/
structure Tm where
  tmYear : Int := 0
  tmMon : Int := 0
  tmMday : Int := 0
  tmHour : Int := 0
  tmMin : Int := 0
  tmSec : Int := 0
  deriving DecidableEq

/-- A local time zone: how many seconds it is before Greenwich at a time, and how many its standard time is, at a time of its own. -/
structure TimeZone where
  offset : Int → Int
  standard : Int → Int
  bounded : ∀ time, -90000 < standard time ∧ standard time < 90000

/-- A zone that is always as many seconds before Greenwich. -/
structure FixedZone where
  offset : Int
  bounded : -90000 < offset ∧ offset < 90000

def FixedZone.timeZone (zone : FixedZone) : TimeZone := ⟨fun _ => zone.offset, fun _ => zone.offset, fun _ => zone.bounded⟩

namespace Calendar

def isLeap (year : Int) : Bool := year % 4 = 0 && (year % 100 ≠ 0 || year % 400 = 0)

def daysBeforeYear (year : Int) : Int := 365 * (year - 1970) + (year - 1969) / 4 - (year - 1901) / 100 + (year - 1601) / 400

def daysBeforeMonth (leap : Bool) (month : Nat) : Int :=
  [0, 31, 59, 90, 120, 151, 181, 212, 243, 273, 304, 334].getD month 0 + if leap ∧ 1 < month then 1 else 0

/-- The year that a day falls in. -/
def yearOf (days : Int) : Int :=
  let year := 1970 + 400 * days / 146097
  if days < daysBeforeYear year then year - 1 else if daysBeforeYear (year + 1) ≤ days then year + 1 else year

/-- The month of a year that a day of it falls in: the last one that has begun. -/
def monthOf (leap : Bool) (yday : Int) : Nat := (List.range 12).countP (fun month => daysBeforeMonth leap month ≤ yday) - 1

end Calendar

open Calendar

/-- `timegm`. A month beyond the year is one of a later or an earlier year, and days, hours, minutes and seconds are added up. -/
def timegm (tm : Tm) : Int :=
  let year := 1900 + tm.tmYear + tm.tmMon / 12
  86400 * (daysBeforeYear year + daysBeforeMonth (isLeap year) (tm.tmMon % 12).toNat + tm.tmMday - 1) + 3600 * tm.tmHour + 60 * tm.tmMin + tm.tmSec

def gmtime (time : Int) : Tm :=
  let days := time / 86400
  let year := yearOf days
  let yday := days - daysBeforeYear year
  { tmYear := year - 1900
    tmMon := monthOf (isLeap year) yday
    tmMday := yday - daysBeforeMonth (isLeap year) (monthOf (isLeap year) yday) + 1
    tmHour := time % 86400 / 3600
    tmMin := time % 3600 / 60
    tmSec := time % 60 }

def localtime (zone : TimeZone) (time : Int) : Tm := gmtime (time + zone.offset time)

/-- `mktime` of a broken-down time that is told to be no summer time. -/
def mktime (zone : TimeZone) (tm : Tm) : Int := timegm tm - zone.standard (timegm tm)

namespace Calendar

theorem daysBeforeYear_succ (year : Int) : daysBeforeYear (year + 1) = daysBeforeYear year + if isLeap year then 366 else 365 := by
  have hleap : isLeap year = true ↔ year % 4 = 0 ∧ (year % 100 ≠ 0 ∨ year % 400 = 0) := by simp [isLeap]
  unfold daysBeforeYear
  by_cases h : isLeap year
  · rw [if_pos h]
    rw [hleap] at h
    omega
  · rw [if_neg h]
    rw [hleap] at h
    omega

/-- A later year starts at least so many times 365 days later. -/
theorem daysBeforeYear_mono {year later : Int} (h : year ≤ later) :
    daysBeforeYear year + 365 * (later - year) ≤ daysBeforeYear later := by
  unfold daysBeforeYear
  omega

/-- The day falls between the starts of two years. -/
theorem yearOf_spec (days : Int) : daysBeforeYear (yearOf days) ≤ days ∧ days < daysBeforeYear (yearOf days + 1) := by
  have hnear : daysBeforeYear (1970 + 400 * days / 146097 - 1) ≤ days ∧ days < daysBeforeYear (1970 + 400 * days / 146097 + 2) := by
    unfold daysBeforeYear
    omega
  have hprevious : 1970 + 400 * days / 146097 - 1 + 1 = 1970 + 400 * days / 146097 := by omega
  have hnext : 1970 + 400 * days / 146097 + 1 + 1 = 1970 + 400 * days / 146097 + 2 := by omega
  unfold yearOf
  dsimp only
  split
  · rename_i hlt
    exact ⟨hnear.1, by rwa [hprevious]⟩
  · split
    · rename_i hle
      exact ⟨hle, by rw [hnext]; exact hnear.2⟩
    · rename_i hge hlt
      exact ⟨by omega, by omega⟩

theorem monthOf_lt (leap : Bool) (yday : Int) : monthOf leap yday < 12 := by
  have hle := @List.countP_le_length _ (fun month => decide (daysBeforeMonth leap month ≤ yday)) (List.range 12)
  rw [List.length_range] at hle
  unfold monthOf
  omega

/-- A month has at most 31 days. -/
theorem monthOf_spec (leap : Bool) {yday : Int} (h : 0 ≤ yday ∧ yday < if leap then 366 else 365) :
    daysBeforeMonth leap (monthOf leap yday) ≤ yday ∧ yday < daysBeforeMonth leap (monthOf leap yday) + 31 := by
  have hdays : ∀ leap : Bool, ∀ day : Fin (if leap then 366 else 365), daysBeforeMonth leap (monthOf leap day.1) ≤ day.1 ∧
      (day.1 : Int) < daysBeforeMonth leap (monthOf leap day.1) + 31 := by decide +kernel
  have hlt : yday.toNat < if leap then 366 else 365 := by cases leap <;> simp at h ⊢ <;> omega
  have hday := hdays leap ⟨yday.toNat, hlt⟩
  rwa [Int.toNat_of_nonneg h.1] at hday

end Calendar

/-- The second, the day and the year of a time make up the time again. -/
theorem timegm_gmtime (time : Int) : timegm (gmtime time) = time := by
  have hmonth := monthOf_lt (isLeap (yearOf (time / 86400))) (time / 86400 - daysBeforeYear (yearOf (time / 86400)))
  unfold timegm gmtime
  dsimp only
  generalize monthOf (isLeap (yearOf (time / 86400))) (time / 86400 - daysBeforeYear (yearOf (time / 86400))) = month at *
  have hyear : 1900 + (yearOf (time / 86400) - 1900) + (month : Int) / 12 = yearOf (time / 86400) := by omega
  have hmon : ((month : Int) % 12).toNat = month := by omega
  rw [hyear, hmon]
  omega

/-- The fields of a broken-down time are in their ranges. -/
structure Tm.InRange (tm : Tm) : Prop where
  mon : 0 ≤ tm.tmMon ∧ tm.tmMon < 12
  mday : 1 ≤ tm.tmMday ∧ tm.tmMday ≤ 31
  hour : 0 ≤ tm.tmHour ∧ tm.tmHour < 24
  min : 0 ≤ tm.tmMin ∧ tm.tmMin < 60
  sec : 0 ≤ tm.tmSec ∧ tm.tmSec < 60

theorem gmtime_inRange (time : Int) : (gmtime time).InRange := by
  obtain ⟨hstart, hend⟩ := yearOf_spec (time / 86400)
  rw [daysBeforeYear_succ] at hend
  have hyday : 0 ≤ time / 86400 - daysBeforeYear (yearOf (time / 86400)) ∧
      time / 86400 - daysBeforeYear (yearOf (time / 86400)) < if isLeap (yearOf (time / 86400)) then 366 else 365 := by
    omega
  have hmonth := monthOf_lt (isLeap (yearOf (time / 86400))) (time / 86400 - daysBeforeYear (yearOf (time / 86400)))
  have hday := monthOf_spec (isLeap (yearOf (time / 86400))) hyday
  unfold gmtime
  constructor <;> dsimp only <;> omega

end Base
