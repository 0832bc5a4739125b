import Gfal2.GridFtpLines
import Gfal2.UriAuthority

/-! The time of a file, as an MLST line and a LIST line tell it. Both tell a minute of Greenwich; what is read of them differs by
twice the offset of the local time zone, and the LIST line is always taken to be of the current local year. -/

namespace Gfal2

open Base Base.Calendar

def ShowsNumber (text : CString) (n : Int) : Prop := isDigits text = true ∧ (decimal text : Int) = n

instance decidableShowsNumber (text : CString) (n : Int) : Decidable (ShowsNumber text n) := inferInstanceAs (Decidable (_ ∧ _))

/-- The value of a time: the year in four digits, and the rest of the time in two digits each. -/
structure TimeVal (tm : Tm) where
  year : CString
  mon : CString
  mday : CString
  hour : CString
  min : CString
  sec : CString
  more : CString
  yearShows : year.length = 4 ∧ ShowsNumber year (tm.tmYear + 1900)
  monShows : mon.length = 2 ∧ ShowsNumber mon (tm.tmMon + 1)
  mdayShows : mday.length = 2 ∧ ShowsNumber mday tm.tmMday
  hourShows : hour.length = 2 ∧ ShowsNumber hour tm.tmHour
  minShows : min.length = 2 ∧ ShowsNumber min tm.tmMin
  secShows : sec.length = 2 ∧ ShowsNumber sec tm.tmSec

def TimeVal.text {tm : Tm} (value : TimeVal tm) : CString :=
  value.year ++ (value.mon ++ (value.mday ++ (value.hour ++ (value.min ++ (value.sec ++ value.more)))))

structure MlstLine (tm : Tm) where
  before : List FactText
  modify : FactText
  after : List FactText
  name : FileName
  key : modify.key.map Char.toLower = lit "modify"
  value : TimeVal tm
  told : modify.value = value.text
  last : ∀ later ∈ after, later.key.map Char.toLower ≠ lit "modify"

def MlstLine.text {tm : Tm} (line : MlstLine tm) : CString :=
  factsText (line.before ++ line.modify :: line.after) ++ ' ' :: line.name.text

/-- A LIST line that tells the month, the day, the hour and the minute of a time. -/
structure ListLine (tm : Tm) where
  columns : ListColumns
  hour : CString
  min : CString
  name : CString
  inRange : tm.InRange
  month : monthNames[tm.tmMon.toNat]? = some (columns.month.word.text.map Char.toLower)
  day : ShowsNumber columns.day.word.text tm.tmMday
  hourShows : ShowsNumber hour tm.tmHour
  minShows : ShowsNumber min tm.tmMin
  time : columns.yearOrTime.word.text = hour ++ ':' :: min

def ListLine.text {tm : Tm} (line : ListLine tm) : CString := line.columns.text ++ line.name

/-- The same minute of another year, counted from 1900. -/
def inYear (tm : Tm) (year : Int) : Tm := { tm with tmYear := year, tmSec := 0 }

structure CurrentMinute (now : Int) where
  time : Int
  whole : time % 60 = 0
  current : (gmtime time).tmYear = (gmtime now).tmYear

/-- One of the times on the way to a time is the second before the epoch, which `mktime` and `time` fail with. -/
def NoTime (clock : Clock) (time : Int) : Prop :=
  time - clock.zone.standard time = -1 ∨ clock.now = -1 ∨ clock.now - clock.zone.standard clock.now = -1

instance (clock : Clock) (time : Int) : Decidable (NoTime clock time) := inferInstanceAs (Decidable (_ ∨ _ ∨ _))

/-- How far a time is off that was corrected by the offset of now. -/
def Clock.shift (clock : Clock) (time : Int) : Int := clock.zone.standard clock.now - clock.zone.standard time

structure FixedClock where
  zone : FixedZone
  now : Int

def FixedClock.clock (clock : FixedClock) : Clock := ⟨clock.zone.timeZone, clock.now⟩

instance fixedClockCoe : Coe FixedClock Clock := ⟨FixedClock.clock⟩

/-! ### The facts -/

variable {tm : Tm}

section Facts

variable (clock : Clock)

theorem scanInt_showsNumber {text : CString} {n : Int} (h : ShowsNumber text n) (rest : CString) :
    scanInt text.length (text ++ rest) = some n := by
  obtain ⟨hdigits, rfl⟩ := h
  obtain ⟨hne, hall⟩ := isDigits_iff.mp hdigits
  obtain ⟨c, digits, rfl⟩ := List.exists_cons_of_ne_nil hne
  have hc := hall c List.mem_cons_self
  have hminus : c ≠ '-' := by rintro rfl; exact absurd hc (by decide)
  have hplus : c ≠ '+' := by rintro rfl; exact absurd hc (by decide)
  have hdrop : (c :: digits ++ rest).dropWhile isSpace = c :: digits ++ rest := by
    simp [isSpace_of_isDigit hc]
  have htake : ((c :: digits ++ rest).take (c :: digits).length).takeWhile Char.isDigit = c :: digits := by
    rw [List.take_left' rfl, List.takeWhile_eq_self_iff]
    exact hall
  unfold scanInt
  rw [hdrop]
  split
  · rename_i heq
    exact absurd (List.cons.inj heq).1 hminus
  · rename_i heq
    exact absurd (List.cons.inj heq).1 hplus
  · rename_i rest' heq
    dsimp only
    rw [htake, if_neg (List.cons_ne_nil _ _)]
    rfl

/-- A number that stands behind so many characters is scanned. -/
theorem scanField_showsNumber {start text more rest : CString} {n : Int} {p width : Nat} (hstart : start.length = p)
    (hwidth : text.length = width) (h : ShowsNumber text n) (hclean : nul ∉ start ++ (text ++ more)) :
    scanField (start ++ (text ++ more) ++ nul :: rest) p width = .ok n := by
  have hle : p ≤ (start ++ (text ++ more)).length := by
    rw [List.length_append]
    omega
  unfold scanField
  rw [cstringAt_eq hle hclean, List.drop_left' hstart]
  dsimp only
  rw [← hwidth, scanInt_showsNumber h]
  rfl

/-- The errors of the conversion apart, a time is read as it is told, in 32 bits, but for what the offset has changed by since. -/
theorem copyMdtmToTimet_text (value : TimeVal tm) (hclean : nul ∉ value.text) (rest : Buffer) :
    copyMdtmToTimet clock (value.text ++ nul :: rest) =
      if NoTime clock (timegm tm) then .error none else .ok (Int.bmod (timegm tm + clock.shift (timegm tm)) (2 ^ 32)) := by
  obtain ⟨year, mon, mday, hour, min, sec, more, hyear, hmon, hmday, hhour, hmin, hsec⟩ := value
  have hyears := @scanField_showsNumber [] year (mon ++ (mday ++ (hour ++ (min ++ (sec ++ more))))) rest _ 0 4 rfl hyear.1 hyear.2
    hclean
  have hmons := @scanField_showsNumber year mon (mday ++ (hour ++ (min ++ (sec ++ more)))) rest _ 4 2 hyear.1 hmon.1 hmon.2 hclean
  have hmdays := @scanField_showsNumber (year ++ mon) mday (hour ++ (min ++ (sec ++ more))) rest _ 6 2
    (by simp [hyear.1, hmon.1]) hmday.1 hmday.2 (by simpa [TimeVal.text] using hclean)
  have hhours := @scanField_showsNumber (year ++ mon ++ mday) hour (min ++ (sec ++ more)) rest _ 8 2
    (by simp [hyear.1, hmon.1, hmday.1]) hhour.1 hhour.2 (by simpa [TimeVal.text] using hclean)
  have hmins := @scanField_showsNumber (year ++ mon ++ mday ++ hour) min (sec ++ more) rest _ 10 2
    (by simp [hyear.1, hmon.1, hmday.1, hhour.1]) hmin.1 hmin.2 (by simpa [TimeVal.text] using hclean)
  have hsecs := @scanField_showsNumber (year ++ mon ++ mday ++ hour ++ min) sec more rest _ 12 2
    (by simp [hyear.1, hmon.1, hmday.1, hhour.1, hmin.1]) hsec.1 hsec.2 (by simpa [TimeVal.text] using hclean)
  have htm : (⟨tm.tmYear + 1900 - 1900, tm.tmMon + 1 - 1, tm.tmMday, tm.tmHour, tm.tmMin, tm.tmSec⟩ : Tm) = tm := by
    rw [Int.add_sub_cancel, Int.add_sub_cancel]
  have hnow : timegm tm - clock.zone.standard (timegm tm) + (clock.now - (clock.now - clock.zone.standard clock.now)) =
      timegm tm + clock.shift (timegm tm) := by
    unfold Clock.shift
    omega
  simp only [List.nil_append, List.append_assoc] at hyears hmons hmdays hhours hmins hsecs
  unfold copyMdtmToTimet
  simp only [TimeVal.text, List.append_assoc, hyears, hmons, hmdays, hhours, hmins, hsecs, mktime, timegm_gmtime]
  change (if timegm _ - _ = -1 then _ else _) = _
  rw [htm, hnow]
  split
  · rename_i hfile
    rw [if_pos (.inl hfile)]
    rfl
  · rename_i hfile
    split
    · rename_i hnow
      rw [if_pos (.inr (.inl hnow))]
      rfl
    · rename_i hnow
      split
      · rename_i hgmt
        rw [if_pos (.inr (.inr hgmt))]
        rfl
      · rename_i hgmt
        rw [if_neg (by simp [NoTime, hfile, hnow, hgmt])]
        rfl

/-- The time that is read of an MLST line. -/
theorem parseMlstLine_time (line : MlstLine tm) (st : FtpStat) :
    ∃ entry, parseMlstLine clock line.text st 256 = .ok (some entry) ∧ entry.1.stMtime =
      if NoTime clock (timegm tm) then -1 else Int.bmod (timegm tm + clock.shift (timegm tm)) (2 ^ 32) := by
  obtain ⟨rest, hmodify⟩ := @factsSeen_modifyS st line.before line.after line.modify line.name.text line.key line.last
  have hclean : nul ∉ line.value.text := by
    intro hmem
    rw [← line.told] at hmem
    exact (line.modify.line.2 nul hmem).2.1 rfl
  have htime : mlstTime clock (factsSeen (line.before ++ line.modify :: line.after) line.name.text st).1 =
      .ok (if NoTime clock (timegm tm) then -1 else Int.bmod (timegm tm + clock.shift (timegm tm)) (2 ^ 32)) := by
    unfold mlstTime
    rw [hmodify, line.told]
    dsimp only
    rw [copyMdtmToTimet_text clock line.value hclean]
    by_cases hnone : NoTime clock (timegm tm)
    · rw [if_pos hnone, if_pos hnone]
      rfl
    · rw [if_neg hnone, if_neg hnone]
      rfl
  have hshort := line.name.short
  unfold MlstLine.text
  rw [parseMlstLine_text clock _ (by omega), htime]
  exact ⟨_, rfl, rfl⟩

end Facts

/-! ### The columns -/

section Columns

variable (clock : Clock) (accounts : Accounts) (filenameSize : Nat)

theorem atol_showsNumber {text rest : CString} {n : Int} (h : ShowsNumber text n) (hn : n < 60)
    (hrest : StopsAt Char.isDigit rest) : Int.bmod (atol (text ++ rest)) (2 ^ 32) = n := by
  obtain ⟨hdigits, rfl⟩ := h
  rw [atol_digits hdigits hrest, min_eq_right (by omega)]
  exact Int.bmod_eq_of_le (by omega) (by omega)

/-- The month that a line tells. -/
theorem strptimeMonth_name {text : CString} {i : Nat} (h : monthNames[i]? = some (text.map Char.toLower)) :
    strptimeMonth text = some i := by
  have hnames : ∀ i : Fin 12, monthNames.findIdx? (fun month => (monthNames.get i).take 3 = month) = some i.1 := by decide
  obtain ⟨hi, hname⟩ := List.getElem?_eq_some_iff.mp h
  unfold strptimeMonth
  rw [← hname]
  exact hnames ⟨i, hi⟩

/-- A column that is no part of the time leaves the time alone. -/
theorem readField_timedef (field : FtpField) (h : field ∉ [FtpField.month, .day, .yearOrTime]) (start : CString) (line : StatLine) :
    (readField clock accounts filenameSize start line field).timedef = line.timedef := by
  cases field with
  | mode => rfl
  | nlinks => rfl
  | owner =>
      unfold readField
      dsimp only
      split <;> rfl
  | group =>
      unfold readField
      dsimp only
      split <;> rfl
  | size => rfl
  | month => simp at h
  | day => simp at h
  | yearOrTime => simp at h
  | name => rfl

theorem readFields_name_timedef (start : CString) (line : StatLine) :
    (readFields clock accounts filenameSize [.name] start line).timedef = line.timedef := by
  rw [readFields]
  dsimp only
  split
  · rfl
  · split
    · exact readField_timedef clock accounts filenameSize .name (by decide) _ _
    · rw [readFields]
      exact readField_timedef clock accounts filenameSize .name (by decide) _ _

/-- The time that a line tells is taken to be of the current local year. -/
theorem columns_timedef (line : ListLine tm) (fstat : FtpStat) :
    (line.columns.read clock accounts filenameSize fstat).timedef = inYear tm (localtime clock.zone clock.now).tmYear := by
  obtain ⟨columns, hour, min, name, hrange, hmonth, hday, hhour, hmin, htime⟩ := line
  have hcolon : ':' ∉ hour := by
    intro hmem
    exact absurd ((isDigits_iff.mp hhour.1).2 _ hmem) (by decide)
  have hstop : StopsAt Char.isDigit (':' :: min) := by
    rw [stopsAt_cons]
    decide
  have hmday : Int.bmod (atol columns.day.word.text) (2 ^ 32) = tm.tmMday := by
    rw [← List.append_nil columns.day.word.text]
    exact atol_showsNumber hday (by have := hrange.mday; omega) stopsAt_nil
  have hhours : Int.bmod (atol (hour ++ ':' :: min)) (2 ^ 32) = tm.tmHour :=
    atol_showsNumber hhour (by have := hrange.hour; omega) hstop
  have hmins : Int.bmod (atol min) (2 ^ 32) = tm.tmMin := by
    rw [← List.append_nil min]
    exact atol_showsNumber hmin hrange.min.2 stopsAt_nil
  have hdrop : (hour ++ ':' :: min).drop (hour.length + 1) = min := by
    rw [List.append_cons, List.drop_left' (by simp)]
  have hmon : ((tm.tmMon.toNat : Nat) : Int) = tm.tmMon := Int.toNat_of_nonneg hrange.mon.1
  unfold ListColumns.read
  dsimp only
  rw [readField.eq_def _ _ _ _ _ .yearOrTime]
  dsimp only
  rw [htime, strchr_append hcolon]
  dsimp only
  rw [hdrop, hhours, hmins, readField.eq_def _ _ _ _ _ .day]
  dsimp only
  rw [hmday, readField.eq_def _ _ _ _ _ .month, strptimeMonth_name hmonth]
  dsimp only
  rw [readField_timedef clock accounts filenameSize .size (by decide),
    readField_timedef clock accounts filenameSize .group (by decide),
    readField_timedef clock accounts filenameSize .owner (by decide),
    readField_timedef clock accounts filenameSize .nlinks (by decide),
    readField_timedef clock accounts filenameSize .mode (by decide), hmon]
  rfl

/-- The time that is read of a LIST line. -/
theorem parseStatLine_time (line : ListLine tm) (fstat : FtpStat) :
    (parseStatLine clock accounts line.text fstat filenameSize).1.stMtime =
      mktime clock.zone (inYear tm (localtime clock.zone clock.now).tmYear) - clock.zone.standard clock.now := by
  unfold parseStatLine ListLine.text
  dsimp only
  rw [readFields_line, readFields_name_timedef, columns_timedef, mktime, mktime, timegm_gmtime]
  omega

end Columns

/-! ### The two times -/

/-- In another year a day of the year can be moved by one. -/
theorem timegm_inYear (h : tm.InRange) (year : Int) :
    ∃ leap : Int, -1 ≤ leap ∧ leap ≤ 1 ∧ timegm (inYear tm year) = timegm tm - tm.tmSec +
      86400 * (daysBeforeYear (1900 + year) - daysBeforeYear (1900 + tm.tmYear) + leap) := by
  obtain ⟨hmon, hmon'⟩ := h.mon
  have hyear : tm.tmMon / 12 = 0 := by omega
  have hmonth : ∀ leap leap' month, daysBeforeMonth leap month ≤ daysBeforeMonth leap' month + 1 := by
    intro leap leap' month
    unfold daysBeforeMonth
    split <;> split <;> omega
  have hlater := hmonth (isLeap (1900 + year)) (isLeap (1900 + tm.tmYear)) (tm.tmMon % 12).toNat
  have hearlier := hmonth (isLeap (1900 + tm.tmYear)) (isLeap (1900 + year)) (tm.tmMon % 12).toNat
  refine ⟨daysBeforeMonth (isLeap (1900 + year)) (tm.tmMon % 12).toNat -
    daysBeforeMonth (isLeap (1900 + tm.tmYear)) (tm.tmMon % 12).toNat, by omega, by omega, ?_⟩
  unfold timegm inYear
  dsimp only
  simp only [hyear, Int.add_zero]
  omega

theorem timegm_inYear_self (tm : Tm) : timegm (inYear tm tm.tmYear) = timegm tm - tm.tmSec := by
  unfold timegm inYear
  dsimp only
  omega

/-- The local year is the one of Greenwich or the one before or after it. -/
theorem localtime_tmYear (clock : FixedClock) :
    (gmtime clock.now).tmYear - 1 ≤ (localtime clock.zone.timeZone clock.now).tmYear ∧
      (localtime clock.zone.timeZone clock.now).tmYear ≤ (gmtime clock.now).tmYear + 1 := by
  obtain ⟨hlow, hhigh⟩ := clock.zone.bounded
  have hnear : ∀ days days' : Int, days' ≤ days + 2 → yearOf days' ≤ yearOf days + 1 := by
    intro days days' hdays
    by_contra hfar
    have hstart := (yearOf_spec days').1
    have hend := (yearOf_spec days).2
    have hyears := @daysBeforeYear_mono (yearOf days + 1) (yearOf days') (by omega)
    omega
  have hlater := hnear (clock.now / 86400) ((clock.now + clock.zone.offset) / 86400) (by omega)
  have hearlier := hnear ((clock.now + clock.zone.offset) / 86400) (clock.now / 86400) (by omega)
  unfold localtime gmtime FixedZone.timeZone
  dsimp only
  omega

/-- A minute of the current year that is put into the local year stays, or moves by a year. -/
theorem CurrentMinute.shifted {clock : FixedClock} (minute : CurrentMinute clock.now) :
    ∃ days : Int, timegm (inYear (gmtime minute.time) (localtime clock.zone.timeZone clock.now).tmYear) = minute.time + 86400 * days ∧
      (days = 0 ∨ 364 ≤ days ∧ days ≤ 367 ∨ -367 ≤ days ∧ days ≤ -364) ∧ (clock.zone.offset = 0 → days = 0) := by
  have hsec : (gmtime minute.time).tmSec = 0 := minute.whole
  have hyears := localtime_tmYear clock
  rw [← minute.current] at hyears
  by_cases hsame : (localtime clock.zone.timeZone clock.now).tmYear = (gmtime minute.time).tmYear
  · refine ⟨0, ?_, .inl rfl, fun _ => rfl⟩
    rw [hsame, timegm_inYear_self, timegm_gmtime, hsec]
    omega
  · have hutc : clock.zone.offset ≠ 0 := by
      intro hzero
      apply hsame
      rw [minute.current]
      unfold localtime FixedZone.timeZone
      dsimp only
      rw [hzero, Int.add_zero]
    obtain ⟨leap, hlow, hhigh, hshift⟩ := timegm_inYear (gmtime_inRange minute.time) (localtime clock.zone.timeZone clock.now).tmYear
    rw [timegm_gmtime, hsec, Int.sub_zero] at hshift
    refine ⟨_, hshift, ?_, fun hzero => absurd hzero hutc⟩
    have hyear := daysBeforeYear_succ (1900 + (gmtime minute.time).tmYear)
    have hprevious := daysBeforeYear_succ (1900 + (gmtime minute.time).tmYear - 1)
    rw [Int.sub_add_cancel] at hprevious
    have hcases : (localtime clock.zone.timeZone clock.now).tmYear = (gmtime minute.time).tmYear + 1 ∨
        (localtime clock.zone.timeZone clock.now).tmYear = (gmtime minute.time).tmYear - 1 := by
      omega
    rcases hcases with hnext | hbefore
    · have hsucc : 1900 + ((gmtime minute.time).tmYear + 1) = 1900 + (gmtime minute.time).tmYear + 1 := by omega
      rw [hnext, hsucc, hyear]
      split <;> omega
    · have hpred : 1900 + ((gmtime minute.time).tmYear - 1) = 1900 + (gmtime minute.time).tmYear - 1 := by omega
      rw [hbefore, hpred, hprevious]
      split <;> omega

/-- Twice an offset is never a year and never the distance that 32 bits wrap around by. -/
theorem mtimes_eq_iff (clock : FixedClock) {time days : Int} (hwhole : time % 60 = 0)
    (hdays : days = 0 ∨ 364 ≤ days ∧ days ≤ 367 ∨ -367 ≤ days ∧ days ≤ -364) (hutc : clock.zone.offset = 0 → days = 0) :
    (if NoTime clock time then -1 else Int.bmod (time + Clock.shift clock time) (2 ^ 32)) =
        time + 86400 * days - clock.zone.offset - clock.zone.offset ↔
      clock.zone.offset = 0 ∧ clock.now ≠ -1 ∧ -2 ^ 31 ≤ time ∧ time < 2 ^ 31 := by
  have hbounded := clock.zone.bounded
  have hlow := @Int.le_bmod time (2 ^ 32) (by decide)
  have hhigh := @Int.bmod_lt time (2 ^ 32) (by decide)
  have hdiv := Int.bdiv_add_bmod time (2 ^ 32)
  have hshift : Clock.shift clock time = 0 := Int.sub_self _
  rw [hshift, Int.add_zero]
  have hno : NoTime clock time ↔ time - clock.zone.offset = -1 ∨ clock.now = -1 ∨ clock.now - clock.zone.offset = -1 := Iff.rfl
  by_cases hnone : NoTime clock time
  · rw [if_pos hnone]
    rw [hno] at hnone
    omega
  · rw [if_neg hnone]
    rw [hno] at hnone
    constructor
    · intro hagree
      have hnear : -2 ^ 31 < time - Int.bmod time (2 ^ 32) ∧ time - Int.bmod time (2 ^ 32) < 2 ^ 31 := by omega
      have hexact : Int.bdiv time (2 ^ 32) = 0 := by omega
      rw [hexact] at hdiv
      omega
    · omega

/-- The two lines of a minute of the current year agree just where the local time is the one of Greenwich, the clock does not stand
at the second before the epoch, and the time fits 32 bits. A LIST line stays behind the end of the next day just where its
date, in the current local year, does so by twice the offset of the time zone. -/
theorem list_times_iff (clock : FixedClock) (accounts : Accounts) (st : FtpStat) :
    (∀ (minute : CurrentMinute clock.now) (mlst : MlstLine (gmtime minute.time)) (list : ListLine (gmtime minute.time)),
      (∃ entry, parseMlstLine clock mlst.text st 256 = .ok (some entry) ∧
          entry.1.stMtime = (parseStatLine clock accounts list.text st 256).1.stMtime) ↔
        clock.zone.offset = 0 ∧ clock.now ≠ -1 ∧ -2 ^ 31 ≤ minute.time ∧ minute.time < 2 ^ 31) ∧
    ∀ (tm : Tm) (list : ListLine tm), (parseStatLine clock accounts list.text st 256).1.stMtime ≤ clock.now + 86400 ↔
      timegm (inYear tm (localtime clock.zone.timeZone clock.now).tmYear) ≤ clock.now + 86400 + 2 * clock.zone.offset := by
  have hstat : ∀ {tm : Tm} (list : ListLine tm), (parseStatLine clock accounts list.text st 256).1.stMtime =
      timegm (inYear tm (localtime clock.zone.timeZone clock.now).tmYear) - clock.zone.offset - clock.zone.offset :=
    fun list => parseStatLine_time clock accounts 256 list st
  constructor
  · intro minute mlst list
    obtain ⟨entry, hentry, hmtime⟩ := parseMlstLine_time clock mlst st
    obtain ⟨days, hshift, hdays, hutc⟩ := minute.shifted
    rw [timegm_gmtime] at hmtime
    rw [hentry, hstat, hshift, ← mtimes_eq_iff clock minute.whole hdays hutc, ← hmtime]
    constructor
    · rintro ⟨found, hfound, heq⟩
      cases hfound
      exact heq
    · intro heq
      exact ⟨entry, rfl, heq⟩
  · intro tm list
    rw [hstat]
    omega

/-- The noon of the first of January 2023 as the two lines tell it. -/
def noonMlst : MlstLine (gmtime 1672574400) where
  before := []
  modify := ⟨lit "modify", lit "20230101120000", by decide, by decide, by decide, by decide⟩
  after := []
  name := ⟨['f'], by decide, by decide, by decide⟩
  key := by decide
  value := ⟨lit "2023", lit "01", lit "01", lit "12", lit "00", lit "00", [], by decide +kernel, by decide +kernel, by decide +kernel,
    by decide +kernel, by decide +kernel, by decide +kernel⟩
  told := by decide
  last := by decide

def noonColumns : ListColumns :=
  let one : Blanks := ⟨[' '], by decide, by decide, by decide⟩
  { mode := ⟨⟨lit "-rw-r--r--", by decide, by decide, by decide⟩, one⟩
    nlinks := ⟨⟨lit "1", by decide, by decide, by decide⟩, one⟩
    owner := ⟨⟨lit "0", by decide, by decide, by decide⟩, one⟩
    group := ⟨⟨lit "0", by decide, by decide, by decide⟩, one⟩
    size := ⟨⟨lit "0", by decide, by decide, by decide⟩, one⟩
    month := ⟨⟨lit "Jan", by decide, by decide, by decide⟩, one⟩
    day := ⟨⟨lit "1", by decide, by decide, by decide⟩, one⟩
    yearOrTime := ⟨⟨lit "12:00", by decide, by decide, by decide⟩, one⟩ }

def noonList : ListLine (gmtime 1672574400) where
  columns := noonColumns
  hour := lit "12"
  min := lit "00"
  name := ['f']
  inRange := gmtime_inRange _
  month := by decide +kernel
  day := by decide +kernel
  hourShows := by decide +kernel
  minShows := by decide +kernel
  time := by decide

def noonOfYear : CurrentMinute 1672617600 := ⟨1672574400, by decide, by decide +kernel⟩

/-- The machine stands in Greenwich, or so many seconds east of it. -/
def eveningAt (offset : { offset : Int // -90000 < offset ∧ offset < 90000 }) : FixedClock := ⟨⟨offset.1, offset.2⟩, 1672617600⟩

def nobody : Accounts := ⟨fun _ => none, fun _ => none⟩

/-- In Greenwich the two lines agree, and an hour east of it they do not. -/
theorem list_times_of_noon : (∃ entry, parseMlstLine (eveningAt ⟨0, by decide⟩) noonMlst.text {} 256 = .ok (some entry) ∧
      entry.1.stMtime = (parseStatLine (eveningAt ⟨0, by decide⟩) nobody noonList.text {} 256).1.stMtime) ∧
    ¬∃ entry, parseMlstLine (eveningAt ⟨3600, by decide⟩) noonMlst.text {} 256 = .ok (some entry) ∧
      entry.1.stMtime = (parseStatLine (eveningAt ⟨3600, by decide⟩) nobody noonList.text {} 256).1.stMtime := by
  have hlines := fun offset => (list_times_iff (eveningAt offset) nobody {}).1 noonOfYear noonMlst noonList
  constructor
  · exact (hlines ⟨0, by decide⟩).mpr ⟨rfl, by decide, by decide, by decide⟩
  · intro h
    exact absurd ((hlines ⟨3600, by decide⟩).mp h).1 (by decide)

/-- An hour east of Greenwich the noon of the first of January is listed two hours early, and on the first of January the last of
December is listed as a year ahead. -/
theorem listed_time_off :
    let greenwich : FixedClock := ⟨⟨0, by decide⟩, 1672531200⟩
    let east : FixedClock := ⟨⟨3600, by decide⟩, 1672617600⟩
    (parseMlstLine east (lit "modify=20230101120000; f") {} 256).map (fun entry => entry.map fun entry => entry.1.stMtime) =
      .ok (some 1672574400) ∧
    (parseStatLine east nobody (lit "-rw-r--r-- 1 0 0 0 Jan  1 12:00 f") {} 256).1.stMtime = 1672574400 - 2 * 3600 ∧
    greenwich.now + 86400 < (parseStatLine greenwich nobody (lit "-rw-r--r-- 1 0 0 0 Dec 31 23:59 f") {} 256).1.stMtime := by
  decide +kernel

end Gfal2
