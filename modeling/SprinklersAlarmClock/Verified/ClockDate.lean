import SprinklersAlarmClock.Logic.Calendar
import SprinklersAlarmClock.Logic.Strobe
import SprinklersAlarmClock.Firmware.ClockChip

/-!
# Setting and reading the clock

The library sets the chip in three ways: from the fields of a date, from a count
of seconds and from the texts a compiler puts for `__DATE__` and `__TIME__`.  All
three are right on the whole range of the chip, 2000 to 2099: what is read back
is the civil time that was meant, with its day of the week (`setDateTime_sets`,
`setDateTimeEpoch_sets`, `setDateTimeText_sets`).  Each of them also clears the
seconds of alarm 1, since the register address at the end of the transmission is
one more datum on the bus.

The count that comes with a reading is not the inverse: from February of a leap
year to its end it is a day off, ahead in February and behind afterwards
(`unixtime_error`), so that setting the clock to its own reading moves it
(`reset_to_reading_iff`).
-/

namespace SprinklersAlarmClock

open Logic DS3231

/-! ## Days of the week -/

theorem ofNat8_toNat {n : Nat} (h : n < 256) : (UInt8.ofNat n).toNat = n :=
  UInt8.toNat_ofNat_of_lt' h

theorem ofNat16_toNat {n : Nat} (h : n < 65536) : (UInt16.ofNat n).toNat = n :=
  UInt16.toNat_ofNat_of_lt' h

/-- The year the sum of `dow` runs on: January and February count with the year
before. -/
theorem dow_year {year month : Nat} (hlo : 1 ≤ year) (hhi : year < 65536)
    (hmonth : month < 256) :
    (if UInt8.ofNat month < 3 then UInt16.ofNat year - 1 else UInt16.ofNat year).toNat =
      if month < 3 then year - 1 else year := by
  have hlt : UInt8.ofNat month < 3 ↔ month < 3 := by
    rw [UInt8.lt_iff_toNat_lt, ofNat8_toNat hmonth]
    rfl
  by_cases h : month < 3
  · rw [if_pos (hlt.mpr h), if_pos h]
    have hle : (1 : UInt16) ≤ UInt16.ofNat year := by
      rw [UInt16.le_iff_toNat_le, ofNat16_toNat hhi]
      exact hlo
    rw [UInt16.toNat_sub_of_le _ _ hle, ofNat16_toNat hhi]
    rfl
  · rw [if_neg (mt hlt.mp h), if_neg h, ofNat16_toNat hhi]

/-- The table of `dow` against the days before each month. -/
theorem dowArray_days {month : Nat} (hlo : 1 ≤ month) (hhi : month ≤ 12) :
    (dowArray.getD (month - 1) 0).toNat % 7 =
      (daysBeforeMonth 1 month + if month < 3 then 0 else 6) % 7 := by
  have hall : ∀ m ∈ List.range' 1 12, (dowArray.getD (m - 1) 0).toNat % 7 =
      (daysBeforeMonth 1 m + if m < 3 then 0 else 6) % 7 := by decide
  exact hall month (List.mem_range'_1.mpr ⟨hlo, by omega⟩)

/-- The leap years as `dow` counts them. -/
theorem dow_leaps (y : Nat) :
    y + y / 4 - y / 100 + y / 400 + 1 = y + leapsBefore (y + 1) := by
  have h4 : (y + 1 + 3) / 4 = y / 4 + 1 := by omega
  have h100 : (y + 1 + 99) / 100 = y / 100 + 1 := by omega
  have h400 : (y + 1 + 399) / 400 = y / 400 + 1 := by omega
  have hle : y / 100 ≤ y / 4 := Nat.div_le_div_left (by decide) (by decide)
  unfold leapsBefore
  rw [h4, h100, h400]
  omega

/-- The sum of `dow`, on the year it runs on, moves with the days. -/
theorem dow_sum (d : CivilDate) (hlo : 1 ≤ d.year) {y t : Nat}
    (hy : y = if d.month < 3 then d.year - 1 else d.year)
    (ht : t % 7 = (daysBeforeMonth 1 d.month + if d.month < 3 then 0 else 6) % 7) :
    (y + y / 4 - y / 100 + y / 400 + t + d.day) % 7 = (d.dayNumber + 5) % 7 := by
  have hcount := dow_leaps y
  generalize y + y / 4 - y / 100 + y / 400 = s at hcount ⊢
  unfold CivilDate.dayNumber
  rw [daysBeforeYear_eq, daysBeforeMonth_common d.year d.month_pos]
  by_cases hfirst : d.month < 3
  · have hnot : ¬ (isLeap d.year ∧ 3 ≤ d.month) := fun h => by omega
    rw [if_pos hfirst] at hy ht
    have hyear : y + 1 = d.year := by omega
    rw [hyear] at hcount
    rw [if_neg hnot]
    omega
  · have hiff : (isLeap d.year ∧ 3 ≤ d.month) ↔ isLeap d.year := by
      constructor
      · exact And.left
      · intro h
        exact ⟨h, by omega⟩
    rw [if_neg hfirst] at hy ht
    rw [hy, leapsBefore_succ] at hcount
    simp only [hiff]
    omega

/-- `dow` is right on every date of its argument types. -/
theorem dow_weekday (d : CivilDate) (hlo : 1 ≤ d.year) (hhi : d.year < 65536) :
    (dow (.ofNat d.year) (.ofNat d.month) (.ofNat d.day)).toNat = d.weekday := by
  have hmonth := d.month_le
  have hday := Nat.le_trans d.day_le (monthLength_bounds d.year d.month).2
  have hsum := dow_sum d hlo rfl (dowArray_days d.month_pos hmonth)
  unfold dow
  dsimp only
  rw [dow_year hlo hhi (by omega), ofNat8_toNat (by omega), ofNat8_toNat (by omega), hsum]
  unfold CivilDate.weekday
  by_cases hzero : (d.dayNumber + 5) % 7 = 0
  · rw [if_pos hzero]
    show 7 = _
    omega
  · rw [if_neg hzero, ofNat8_toNat (by omega)]
    omega

theorem dow_leapDay : (dow 2024 2 29).toNat =
    (⟨2024, 2, 29, by decide, by decide, by decide, by decide⟩ : CivilDate).weekday :=
  dow_weekday ⟨2024, 2, 29, by decide, by decide, by decide, by decide⟩ (by decide) (by decide)

/-! ## What the chip can hold -/

/-- A date and a time of day within the range of the chip, to the second. -/
@[ext] structure ChipTime extends CivilTime where
  second : Nat
  second_lt : second < 60
  year_ge : 2000 ≤ year
  year_lt : year < 2100

namespace ChipTime

variable (c : ChipTime)

/-- Days since the first of January 2000. -/
def days : Nat := c.dayNumber - 730486

/-- Seconds since the beginning of 2000. -/
def seconds : Nat := 86400 * c.days + 3600 * c.hour + 60 * c.minute + c.second

/-- The time stamp the library has for `c`. -/
def stamp : Nat := 946681200 + c.seconds

theorem day_le_31 : c.day ≤ 31 :=
  Nat.le_trans c.day_le (monthLength_bounds c.year c.month).2

theorem isLeap_iff : isLeap c.year ↔ c.year % 4 = 0 := by
  have hge := c.year_ge
  have hlt := c.year_lt
  simp only [isLeap, Bool.and_eq_true, Bool.or_eq_true, beq_iff_eq, bne_iff_ne]
  omega

theorem dayNumber_days : c.dayNumber = 730486 + c.days := by
  have hmono : daysBeforeYear 2000 ≤ daysBeforeYear c.year := daysBeforeYear_mono c.year_ge
  have hbase : daysBeforeYear 2000 = 730485 := daysBeforeYear_eq 2000
  have hday := c.day_pos
  unfold days CivilDate.dayNumber
  omega

/-- The days of a time, month by month. -/
theorem days_eq : c.days + 1 = 365 * (c.year - 2000) + (c.year - 2000 + 3) / 4 +
    daysBeforeMonth 1 c.month + (if isLeap c.year ∧ 3 ≤ c.month then 1 else 0) + c.day := by
  have hge := c.year_ge
  have hlt := c.year_lt
  have hnumber := c.dayNumber_days
  have hleaps : leapsBefore c.year = 485 + (c.year - 2000 + 3) / 4 := by
    unfold leapsBefore
    omega
  unfold CivilDate.dayNumber at hnumber
  rw [daysBeforeYear_eq, hleaps, daysBeforeMonth_common c.year c.month_pos] at hnumber
  omega

theorem days_lt : c.days < 36525 := by
  have hnumber := c.dayNumber_days
  have hin := c.day_le_yearLength
  have hnext := daysBeforeYear_succ c.year
  have hmono : daysBeforeYear (c.year + 1) ≤ daysBeforeYear 2100 :=
    daysBeforeYear_mono c.year_lt
  have hend : daysBeforeYear 2100 = 767010 := daysBeforeYear_eq 2100
  unfold CivilDate.dayNumber at hnumber
  omega

theorem stamp_lt : c.stamp < 4102441200 := by
  have hdays := c.days_lt
  have hhour := c.hour_lt
  have hminute := c.minute_lt
  have hsecond := c.second_lt
  unfold stamp seconds
  omega

end ChipTime

theorem newYear_dayNumber {d : CivilDate} (hy : d.year = 2000) (hm : d.month = 1)
    (hd : d.day = 1) : d.dayNumber = 730486 := by
  simp [CivilDate.dayNumber, daysBeforeYear_eq, leapsBefore, daysBeforeMonth, hy, hm, hd]

/-- Every day of the range is some date. -/
theorem date_of_days {n : Nat} (h : n < 36525) :
    ∃ d : CivilDate, d.dayNumber = 730486 + n ∧ 2000 ≤ d.year ∧ d.year < 2100 := by
  have hbase : daysBeforeYear 2000 = 730485 := daysBeforeYear_eq 2000
  have hend : daysBeforeYear 2100 = 767010 := daysBeforeYear_eq 2100
  have hexists : ∃ d : CivilDate, d.dayNumber = 730486 + n ∧ 2000 ≤ d.year := by
    induction n with
    | zero =>
        exact ⟨⟨2000, 1, 1, by decide, by decide, by decide, by decide⟩,
          newYear_dayNumber rfl rfl rfl, Nat.le_refl _⟩
    | succ n ih =>
        obtain ⟨d, hd, hyear⟩ := ih (by omega)
        refine ⟨d.tomorrow, by rw [d.dayNumber_tomorrow, hd]; omega, ?_⟩
        by_cases hback : d.tomorrow.year < d.year
        · have := CivilDate.dayNumber_lt_of_year_lt hback
          rw [d.dayNumber_tomorrow] at this
          omega
        · omega
  obtain ⟨d, hd, hyear⟩ := hexists
  refine ⟨d, hd, hyear, ?_⟩
  by_contra hlate
  have hmono : daysBeforeYear 2100 ≤ daysBeforeYear d.year :=
    daysBeforeYear_mono (Nat.le_of_not_lt hlate)
  have hday := d.day_pos
  unfold CivilDate.dayNumber at hd
  omega

/-- Every second of the range is some time. -/
theorem ChipTime.of_seconds {n : Nat} (h : n < 36525 * 86400) :
    ∃ c : ChipTime, c.seconds = n := by
  obtain ⟨d, hd, hge, hlt⟩ := date_of_days (n := n / 86400) (by omega)
  refine ⟨⟨⟨d, n / 3600 % 24, n / 60 % 60, by omega, by omega⟩, n % 60, by omega, hge, hlt⟩, ?_⟩
  show 86400 * (d.dayNumber - 730486) + 3600 * (n / 3600 % 24) + 60 * (n / 60 % 60) +
    n % 60 = n
  rw [hd]
  omega

/-! ## The fields of a date -/

/-- A reading of the chip tells the time `c`. -/
structure RTCDateTime.Tells (d : RTCDateTime) (c : ChipTime) : Prop where
  year : d.year.toNat = c.year
  month : d.month.toNat = c.month
  day : d.day.toNat = c.day
  hour : d.hour.toNat = c.hour
  minute : d.minute.toNat = c.minute
  second : d.second.toNat = c.second
  dayOfWeek : d.dayOfWeek.toNat = c.weekday

/-- `r'` is `r` set to the time `c`. -/
structure SetTo (c : ChipTime) (r r' : Rtc) : Prop where
  tells : r'.getDateTime.Tells c
  /-- The register address that ends the transmission. -/
  alarm1 : r'.regs regAlarm1 = 0
  others : ∀ reg, regAlarm1 < reg → r'.regs reg = r.regs reg
  rises : r'.rises = r.rises

theorem bcd2dec_dec2bcd {v : UInt8} (h : v < 100) : bcd2dec (dec2bcd v) = v := by
  have hall : ∀ v : UInt8, v < 100 → bcd2dec (dec2bcd v) = v :=
    forall_byte (by decide +kernel)
  exact hall v h

/-- A number of two digits comes back from the chip. -/
theorem bcd_ofNat {n : Nat} (h : n < 100) : (bcd2dec (dec2bcd (.ofNat n))).toNat = n := by
  have hlt : UInt8.ofNat n < 100 := by
    rw [UInt8.lt_iff_toNat_lt, ofNat8_toNat (by omega)]
    exact h
  rw [bcd2dec_dec2bcd hlt, ofNat8_toNat (by omega)]

/-- The year is kept as its last two digits. -/
theorem bcd_year {year : Nat} (hge : 2000 ≤ year) (hlt : year < 2100) :
    ((bcd2dec (dec2bcd (UInt16.ofNat year - 2000).toUInt8)).toUInt16 + 2000).toNat = year := by
  have hle : (2000 : UInt16) ≤ UInt16.ofNat year := by
    rw [UInt16.le_iff_toNat_le, ofNat16_toNat (by omega)]
    exact hge
  have hdigits : (UInt16.ofNat year - 2000).toUInt8 = UInt8.ofNat (year - 2000) := by
    apply UInt8.toNat_inj.mp
    rw [UInt16.toNat_toUInt8, UInt16.toNat_sub_of_le _ _ hle, ofNat16_toNat (by omega),
      ofNat8_toNat (by omega)]
    show (year - 2000) % 256 = _
    omega
  rw [hdigits, UInt16.toNat_add, UInt8.toNat_toUInt16, bcd_ofNat (by omega)]
  show (year - 2000 + 2000) % 65536 = year
  omega

/-- `setDateTime` on the fields of `c`. -/
def ChipTime.set (c : ChipTime) (r : Rtc) : Rtc :=
  r.setDateTime (.ofNat c.year) (.ofNat c.month) (.ofNat c.day) (.ofNat c.hour)
    (.ofNat c.minute) (.ofNat c.second)

/-- The clock set from the fields of a time tells that time. -/
theorem setDateTime_sets (c : ChipTime) (r : Rtc) : SetTo c r (c.set r) := by
  have hmonth := c.month_le
  have hday := c.day_le_31
  have hhour := c.hour_lt
  have hminute := c.minute_lt
  have hsecond := c.second_lt
  have hge := c.year_ge
  have hlt := c.year_lt
  have hdow := dow_weekday c.toCivilDate (by omega) (by omega)
  have hweek : c.weekday < 100 := by
    unfold CivilDate.weekday
    omega
  refine ⟨⟨?_, ?_, ?_, ?_, ?_, ?_, ?_⟩, rfl, ?_, rfl⟩
  · exact bcd_year hge hlt
  · exact bcd_ofNat (by omega)
  · exact bcd_ofNat (by omega)
  · exact bcd_ofNat (by omega)
  · exact bcd_ofNat (by omega)
  · exact bcd_ofNat (by omega)
  · have hofNat : UInt8.ofNat c.weekday = dow (.ofNat c.year) (.ofNat c.month) (.ofNat c.day) := by
      rw [← hdow, UInt8.ofNat_toNat]
    have h := bcd_ofNat hweek
    rw [hofNat] at h
    exact h
  · intro reg hreg
    apply Rtc.storeAll_other
    intro i hi heq
    have hi' : i < 8 := hi
    rw [heq, UInt8.lt_iff_toNat_lt, UInt8.toNat_add, ofNat8_toNat (by omega)] at hreg
    have hbound : 7 < (0 + i) % 256 := hreg
    omega

/-! ## A count of seconds -/

/-- The years of the range, as the loop counts them from 2000 on. -/
theorem yearLength_chip {y : Nat} (h : y < 100) :
    yearLength (2000 + y) = 365 + if y % 4 = 0 then 1 else 0 := by
  have hleap : isLeap (2000 + y) ↔ y % 4 = 0 := by
    simp only [isLeap, Bool.and_eq_true, Bool.or_eq_true, beq_iff_eq, bne_iff_ne]
    omega
  rw [yearLength_eq]
  simp only [hleap]

/-- The loop over the years comes to the year a day falls in. -/
theorem epochYear_found {y rest : Nat} (hy : y < 100) (hrest : rest < yearLength (2000 + y)) :
    epochYear (∑ j ∈ Finset.Ico 0 y, yearLength (2000 + j) + rest) 0 = (y, rest) := by
  have hdrop : ∀ i, 0 ≤ i → i < y → ∀ n,
      epochYear (yearLength (2000 + i) + n) i = epochYear n (i + 1) := by
    intro i _ hi n
    have hlong : ¬ (365 + if i % 4 = 0 then 1 else 0) + n < 365 + if i % 4 = 0 then 1 else 0 := by
      omega
    rw [yearLength_chip (by omega), epochYear, if_neg hlong, Nat.add_sub_cancel_left]
  rw [yearLength_chip hy] at hrest
  rw [span_walk (Nat.zero_le y) hdrop rest, epochYear, if_pos hrest]

/-- The month lengths of the loop are those of the calendar. -/
theorem epochMonthDays_chip {y month : Nat} (hy : y < 100) (hlo : 1 ≤ month)
    (hhi : month ≤ 12) :
    epochMonthDays (y % 4 == 0) month = monthLength (2000 + y) month := by
  have hleap : isLeap (2000 + y) = (y % 4 == 0) := by
    rw [Bool.eq_iff_iff, beq_iff_eq]
    simp only [isLeap, Bool.and_eq_true, Bool.or_eq_true, beq_iff_eq, bne_iff_ne]
    omega
  have hall : ∀ m ∈ List.range' 1 12, epochMonthDays true m = monthLength 2000 m ∧
      epochMonthDays false m = monthLength 2001 m := by decide
  obtain ⟨hlong, hshort⟩ := hall month (List.mem_range'_1.mpr ⟨hlo, by omega⟩)
  cases h : y % 4 == 0 with
  | true =>
      rw [hlong]
      apply monthLength_congr
      rw [hleap, h]
      decide
  | false =>
      rw [hshort]
      apply monthLength_congr
      rw [hleap, h]
      decide

/-- The loop over the months comes to the month a day falls in. -/
theorem epochMonth_found {y month rest : Nat} (hy : y < 100) (hlo : 1 ≤ month)
    (hhi : month ≤ 12) (hrest : rest < monthLength (2000 + y) month) :
    epochMonth (y % 4 == 0) (daysBeforeMonth (2000 + y) month + rest) 1 = (month, rest) := by
  have hdrop : ∀ i, 1 ≤ i → i < month → ∀ n,
      epochMonth (y % 4 == 0) (monthLength (2000 + y) i + n) i =
        epochMonth (y % 4 == 0) n (i + 1) := by
    intro i hi hlt n
    have hlen := epochMonthDays_chip hy hi (by omega)
    have hlong : ¬ (monthLength (2000 + y) i + n < monthLength (2000 + y) i ∨ 12 ≤ i) := by
      omega
    rw [epochMonth, hlen, if_neg hlong, Nat.add_sub_cancel_left]
  have hstop : epochMonth (y % 4 == 0) rest month = (month, rest) := by
    rw [epochMonth, epochMonthDays_chip hy hlo hhi, if_pos (.inl hrest)]
  exact (span_walk hlo hdrop rest).trans hstop

namespace ChipTime

variable (c : ChipTime)

/-- The days of a time, as the two loops drop them. -/
theorem days_spans : c.days = ∑ j ∈ Finset.Ico 0 (c.year - 2000), yearLength (2000 + j) +
    (daysBeforeMonth (2000 + (c.year - 2000)) c.month + (c.day - 1)) := by
  have hge := c.year_ge
  have hday := c.day_pos
  have hnumber := c.dayNumber_days
  have hbase : daysBeforeYear 2000 = 730485 := daysBeforeYear_eq 2000
  have hyears : daysBeforeYear c.year = daysBeforeYear 2000 +
      ∑ j ∈ Finset.Ico 0 (c.year - 2000), yearLength (2000 + j) := by
    rw [← daysBeforeYear_add, Nat.add_sub_cancel' hge]
  rw [Nat.add_sub_cancel' hge]
  unfold CivilDate.dayNumber at hnumber
  omega

/-- The loops of `setDateTime(uint32_t)` on the days of a time. -/
theorem epoch_found : epochYear c.days 0 =
      (c.year - 2000, daysBeforeMonth (2000 + (c.year - 2000)) c.month + (c.day - 1)) ∧
    epochMonth ((c.year - 2000) % 4 == 0)
      (daysBeforeMonth (2000 + (c.year - 2000)) c.month + (c.day - 1)) 1 =
      (c.month, c.day - 1) := by
  have hge := c.year_ge
  have hlt := c.year_lt
  have hpos := c.day_pos
  have hday := c.day_le
  have hin := c.day_le_yearLength
  have hyear : 2000 + (c.year - 2000) = c.year := by omega
  constructor
  · rw [c.days_spans]
    apply epochYear_found
    · omega
    · rw [hyear]
      omega
  · apply epochMonth_found _ c.month_pos c.month_le
    · rw [hyear]
      omega
    · omega

theorem stamp_offset : (UInt32.ofNat c.stamp - 946681200).toNat = c.seconds := by
  have hstamp := c.stamp_lt
  have hnat : (UInt32.ofNat c.stamp).toNat = c.stamp :=
    UInt32.toNat_ofNat_of_lt' (Nat.lt_trans hstamp (by decide))
  have hbase : (946681200 : UInt32).toNat = 946681200 := rfl
  have hle : (946681200 : UInt32) ≤ .ofNat c.stamp := by
    rw [UInt32.le_iff_toNat_le, hnat, hbase]
    unfold stamp
    omega
  rw [UInt32.toNat_sub_of_le _ _ hle, hnat, hbase]
  unfold stamp
  omega

end ChipTime

/-- `setDateTime(uint32_t)` once its loops have ended. -/
theorem setDateTimeEpoch_eq (r : Rtc) {t : UInt32} {n y days month rest : Nat}
    (ht : (t - 946681200).toNat = n) (hyears : epochYear (n / 60 / 60 / 24) 0 = (y, days))
    (hmonths : epochMonth (y % 4 == 0) days 1 = (month, rest)) :
    r.setDateTimeEpoch t = r.setDateTime (.ofNat (y + 2000)) (.ofNat month) (.ofNat (rest + 1))
      (.ofNat (n / 60 / 60 % 24)) (.ofNat (n / 60 % 60)) (.ofNat (n % 60)) := by
  unfold Rtc.setDateTimeEpoch
  simp only [ht, hyears, hmonths]

/-- The clock set from a time stamp tells the time it stands for. -/
theorem setDateTimeEpoch_sets (c : ChipTime) (r : Rtc) :
    SetTo c r (r.setDateTimeEpoch (.ofNat c.stamp)) := by
  have hhour := c.hour_lt
  have hminute := c.minute_lt
  have hsecond := c.second_lt
  have hseconds : c.seconds = 86400 * c.days + 3600 * c.hour + 60 * c.minute + c.second := rfl
  have hs : c.seconds % 60 = c.second := by omega
  have hm : c.seconds / 60 % 60 = c.minute := by omega
  have hh : c.seconds / 60 / 60 % 24 = c.hour := by omega
  have hd : c.seconds / 60 / 60 / 24 = c.days := by omega
  obtain ⟨hyears, hmonths⟩ := c.epoch_found
  rw [← hd] at hyears
  have hset := setDateTimeEpoch_eq r c.stamp_offset hyears hmonths
  rw [hs, hm, hh, Nat.sub_add_cancel c.year_ge, Nat.sub_add_cancel c.day_pos] at hset
  rw [hset]
  exact setDateTime_sets c r

/-! ## The texts of a compiler -/

def digit (n : Nat) : Char := .ofNat ('0'.toNat + n)

def monthLetters : Nat → Char × Char × Char
  | 1 => ('J', 'a', 'n')
  | 2 => ('F', 'e', 'b')
  | 3 => ('M', 'a', 'r')
  | 4 => ('A', 'p', 'r')
  | 5 => ('M', 'a', 'y')
  | 6 => ('J', 'u', 'n')
  | 7 => ('J', 'u', 'l')
  | 8 => ('A', 'u', 'g')
  | 9 => ('S', 'e', 'p')
  | 10 => ('O', 'c', 't')
  | 11 => ('N', 'o', 'v')
  | _ => ('D', 'e', 'c')

/-- `__DATE__`: a day of one digit has a blank before it. -/
def ChipTime.dateText (c : ChipTime) : List Char :=
  [ (monthLetters c.month).1, (monthLetters c.month).2.1, (monthLetters c.month).2.2, ' '
  , if c.day < 10 then ' ' else digit (c.day / 10), digit (c.day % 10), ' '
  , digit (c.year / 1000), digit (c.year / 100 % 10), digit (c.year / 10 % 10)
  , digit (c.year % 10) ]

/-- `__TIME__`. -/
def ChipTime.timeText (c : ChipTime) : List Char :=
  [ digit (c.hour / 10), digit (c.hour % 10), ':', digit (c.minute / 10), digit (c.minute % 10)
  , ':', digit (c.second / 10), digit (c.second % 10) ]

theorem conv2d_digits {n : Nat} (h : n < 100) :
    conv2d (digit (n / 10)) (digit (n % 10)) = .ofNat n := by
  have hall : ∀ n ∈ List.range 100, conv2d (digit (n / 10)) (digit (n % 10)) = .ofNat n := by
    decide +kernel
  exact hall n (List.mem_range.mpr h)

theorem conv2d_day {n : Nat} (h : n < 100) :
    conv2d (if n < 10 then ' ' else digit (n / 10)) (digit (n % 10)) = .ofNat n := by
  have hblank : ∀ n ∈ List.range 10, conv2d ' ' (digit (n % 10)) = .ofNat n := by decide
  by_cases hn : n < 10
  · rw [if_pos hn]
    exact hblank n (List.mem_range.mpr hn)
  · rw [if_neg hn]
    exact conv2d_digits h

theorem conv2d_year {year : Nat} (hge : 2000 ≤ year) (hlt : year < 2100) :
    (conv2d (digit (year / 10 % 10)) (digit (year % 10))).toUInt16 + 2000 = .ofNat year := by
  have htens : year / 10 % 10 = (year - 2000) / 10 := by omega
  have hunits : year % 10 = (year - 2000) % 10 := by omega
  rw [htens, hunits, conv2d_digits (by omega)]
  apply UInt16.toNat_inj.mp
  rw [UInt16.toNat_add, UInt8.toNat_toUInt16, ofNat8_toNat (by omega), ofNat16_toNat (by omega)]
  show (year - 2000 + 2000) % 65536 = year
  omega

theorem monthOfName_letters {month : Nat} (hlo : 1 ≤ month) (hhi : month ≤ 12) :
    Rtc.monthOfName (monthLetters month).1 (monthLetters month).2.1 (monthLetters month).2.2 =
      some (.ofNat month) := by
  have hall : ∀ m ∈ List.range' 1 12,
      Rtc.monthOfName (monthLetters m).1 (monthLetters m).2.1 (monthLetters m).2.2 =
        some (.ofNat m) := by decide
  exact hall month (List.mem_range'_1.mpr ⟨hlo, by omega⟩)

/-- The clock set from the texts of a time tells that time. -/
theorem setDateTimeText_sets (c : ChipTime) (r : Rtc) :
    ∃ r', r.setDateTimeText c.dateText c.timeText = some r' ∧ SetTo c r r' := by
  refine ⟨c.set r, ?_, setDateTime_sets c r⟩
  have hday := c.day_le_31
  have hhour := c.hour_lt
  have hminute := c.minute_lt
  have hsecond := c.second_lt
  unfold Rtc.setDateTimeText
  simp only [ChipTime.dateText, ChipTime.timeText, List.getD_cons_zero, List.getD_cons_succ]
  rw [monthOfName_letters c.month_pos c.month_le, conv2d_year c.year_ge c.year_lt,
    conv2d_day (by omega), conv2d_digits (by omega), conv2d_digits (by omega),
    conv2d_digits (by omega)]
  rfl

/-! ## The count that comes with a reading -/

/-- `daysBefore` is the table of the days before each month of a common year. -/
theorem daysBefore_toNat {month : Nat} (hlo : 1 ≤ month) (hhi : month ≤ 12) :
    (daysBefore month).toNat = daysBeforeMonth 1 month := by
  have hall : ∀ m ∈ List.range' 1 12, (daysBefore m).toNat = daysBeforeMonth 1 m := by decide
  exact hall month (List.mem_range'_1.mpr ⟨hlo, by omega⟩)

/-- The last sum of `date2days`, without overflow. -/
theorem date2days_sum {days y : UInt16} (hpos : 1 ≤ days.toNat) (hdays : days.toNat ≤ 400)
    (hy : y.toNat < 100) :
    (UInt16.ofNat (days.toNat + 365 * y.toNat + (y.toNat + 3) / 4) - 1).toNat + 1 =
      days.toNat + 365 * y.toNat + (y.toNat + 3) / 4 := by
  have hsum : (UInt16.ofNat (days.toNat + 365 * y.toNat + (y.toNat + 3) / 4)).toNat =
      days.toNat + 365 * y.toNat + (y.toNat + 3) / 4 :=
    UInt16.toNat_ofNat_of_lt' (by show _ < 65536; omega)
  have hle : (1 : UInt16) ≤
      UInt16.ofNat (days.toNat + 365 * y.toNat + (y.toNat + 3) / 4) := by
    rw [UInt16.le_iff_toNat_le, hsum]
    show 1 ≤ _
    omega
  rw [UInt16.toNat_sub_of_le _ _ hle, hsum]
  show _ - 1 + 1 = _
  omega

/-- `date2days` has the leap day from the beginning of February to its end,
instead of from the day after it. -/
theorem date2days_eq {d : RTCDateTime} {c : ChipTime} (h : d.Tells c) :
    (date2days d.year d.month d.day).toNat +
        (if isLeap c.year ∧ 3 ≤ c.month then 1 else 0) =
      c.days + if isLeap c.year ∧ c.month = 2 then 1 else 0 := by
  have hlo := c.month_pos
  have hhi := c.month_le
  have hday := c.day_le_31
  have hpos := c.day_pos
  have hge := c.year_ge
  have hlt := c.year_lt
  have hdays := c.days_eq
  have hyear : (d.year - 2000).toNat = c.year - 2000 := by
    have hle : (2000 : UInt16) ≤ d.year := by
      rw [UInt16.le_iff_toNat_le, h.year]
      exact hge
    rw [UInt16.toNat_sub_of_le _ _ hle, h.year]
    rfl
  have hbefore := daysBefore_toNat hlo hhi
  have hfew : daysBeforeMonth 1 c.month ≤ 334 :=
    Nat.le_trans (daysBeforeMonth_mono 1 hhi) (by decide)
  have hfirst : (d.day.toUInt16 + daysBefore d.month.toNat).toNat =
      c.day + daysBeforeMonth 1 c.month := by
    rw [UInt16.toNat_add, UInt8.toNat_toUInt16, h.month, h.day, hbefore]
    omega
  have hfeb : (d.month = 2 && isLeapYear (d.year - 2000)) = true ↔
      isLeap c.year ∧ c.month = 2 := by
    have hmonth : d.month = 2 ↔ c.month = 2 := by
      rw [← UInt8.toNat_inj, h.month]
      rfl
    have hleap : isLeapYear (d.year - 2000) = true ↔ isLeap c.year := by
      unfold isLeapYear
      rw [beq_iff_eq, ← UInt16.toNat_inj, UInt16.toNat_mod, hyear, c.isLeap_iff]
      show (c.year - 2000) % 4 = 0 ↔ _
      omega
    rw [Bool.and_eq_true, decide_eq_true_iff, hmonth, hleap, and_comm]
  have hleapday : (if d.month = 2 && isLeapYear (d.year - 2000) then
        d.day.toUInt16 + daysBefore d.month.toNat + 1
      else d.day.toUInt16 + daysBefore d.month.toNat).toNat =
      c.day + daysBeforeMonth 1 c.month + if isLeap c.year ∧ c.month = 2 then 1 else 0 := by
    by_cases hcase : isLeap c.year ∧ c.month = 2
    · rw [if_pos (hfeb.mpr hcase), if_pos hcase, UInt16.toNat_add, hfirst]
      show (_ + 1) % 65536 = _
      omega
    · rw [if_neg (mt hfeb.mp hcase), if_neg hcase, hfirst]
      rfl
  have hsum := date2days_sum (y := d.year - 2000) (by rw [hleapday]; omega)
    (by rw [hleapday]; split <;> omega) (by omega)
  unfold date2days
  dsimp only
  rw [hleapday, hyear] at hsum ⊢
  omega

/-- Days by which the count of a reading is ahead. -/
def ChipTime.leapError (c : ChipTime) : Int :=
  if isLeap c.year then
    if c.month = 1 then 0 else if c.month = 2 then 1 else -1
  else 0

/-- `time2long` without overflow; from 2068 on the sum goes through the sign bit
of `long`. -/
theorem time2long_eq {days : UInt16} {hours minutes seconds : UInt8} (hd : days.toNat ≤ 36526)
    (hh : hours.toNat < 24) (hm : minutes.toNat < 60) (hs : seconds.toNat < 60) :
    (time2long days hours minutes seconds + 946681200).toNat =
      946681200 + 86400 * days.toNat + 3600 * hours.toNat + 60 * minutes.toNat +
        seconds.toNat := by
  unfold time2long
  simp only [UInt32.toNat_add, UInt32.toNat_mul, UInt16.toNat_toUInt32, UInt8.toNat_toUInt32]
  show ((((days.toNat * 24 % 4294967296 + hours.toNat) % 4294967296 * 60 % 4294967296 +
    minutes.toNat) % 4294967296 * 60 % 4294967296 + seconds.toNat) % 4294967296 +
    946681200) % 4294967296 = _
  omega

/-- The count that comes with a reading is a day ahead in the February of a leap
year and a day behind in the rest of it. -/
theorem unixtime_error {d : RTCDateTime} {c : ChipTime} (h : d.Tells c) :
    ((unixtime d).toNat : Int) = c.stamp + 86400 * c.leapError := by
  have hcount := date2days_eq h
  have hdays := c.days_lt
  have hhour := c.hour_lt
  have hminute := c.minute_lt
  have hsecond := c.second_lt
  have hlong : (date2days d.year d.month d.day).toNat ≤ 36526 := by
    split at hcount <;> split at hcount <;> omega
  have hsum := time2long_eq hlong (by rw [h.hour]; exact hhour)
    (by rw [h.minute]; exact hminute) (by rw [h.second]; exact hsecond)
  rw [h.hour, h.minute, h.second] at hsum
  have herror : ((date2days d.year d.month d.day).toNat : Int) = c.days + c.leapError := by
    have hpos := c.month_pos
    unfold ChipTime.leapError
    by_cases hleap : isLeap c.year
    · rw [if_pos hleap]
      simp only [hleap, true_and] at hcount
      by_cases hjan : c.month = 1
      · rw [if_pos hjan]
        rw [if_neg (by omega), if_neg (by omega)] at hcount
        omega
      · rw [if_neg hjan]
        by_cases hfeb : c.month = 2
        · rw [if_pos hfeb]
          rw [if_neg (by omega), if_pos hfeb] at hcount
          omega
        · rw [if_neg hfeb]
          rw [if_pos (by omega), if_neg hfeb] at hcount
          omega
    · have hnever : ∀ p : Prop, ¬ (isLeap c.year ∧ p) := fun _ hp => hleap hp.1
      rw [if_neg hleap]
      rw [if_neg (hnever _), if_neg (hnever _)] at hcount
      omega
  unfold unixtime ChipTime.stamp ChipTime.seconds
  omega

/-- A reading tells one time. -/
theorem RTCDateTime.Tells.unique {d : RTCDateTime} {c c' : ChipTime} (h : d.Tells c)
    (h' : d.Tells c') : c = c' :=
  ChipTime.ext (h.year.symm.trans h'.year) (h.month.symm.trans h'.month)
    (h.day.symm.trans h'.day) (h.hour.symm.trans h'.hour) (h.minute.symm.trans h'.minute)
    (h.second.symm.trans h'.second)

/-- The time a wrong count stands for is still one the chip can hold. -/
theorem ChipTime.misread (c : ChipTime) :
    ∃ c' : ChipTime, (c'.stamp : Int) = c.stamp + 86400 * c.leapError := by
  have hdays := c.days_eq
  have hlt := c.days_lt
  have hhour := c.hour_lt
  have hminute := c.minute_lt
  have hsecond := c.second_lt
  have hyear := c.year_lt
  have hge := c.year_ge
  have hday := c.day_le_31
  have hpos := c.day_pos
  have hinside : 0 ≤ c.days + c.leapError ∧ c.days + c.leapError < 36525 := by
    unfold ChipTime.leapError
    by_cases hleap : isLeap c.year
    · have hfour := c.isLeap_iff.mp hleap
      rw [if_pos hleap]
      by_cases hjan : c.month = 1
      · rw [if_pos hjan]
        omega
      · rw [if_neg hjan]
        by_cases hfeb : c.month = 2
        · have hbefore : daysBeforeMonth 1 2 = 31 := rfl
          rw [if_pos hfeb]
          rw [hfeb, hbefore] at hdays
          rw [if_neg (by omega)] at hdays
          omega
        · have hmonths : daysBeforeMonth 1 3 ≤ daysBeforeMonth 1 c.month :=
            daysBeforeMonth_mono 1 (by have := c.month_pos; omega)
          have hbefore : daysBeforeMonth 1 3 = 59 := rfl
          rw [if_neg hfeb]
          omega
    · rw [if_neg hleap]
      omega
  obtain ⟨c', hc'⟩ := ChipTime.of_seconds
    (n := (c.seconds + 86400 * c.leapError).toNat) (by
      unfold ChipTime.seconds
      omega)
  refine ⟨c', ?_⟩
  unfold ChipTime.stamp
  rw [hc']
  unfold ChipTime.seconds
  omega

theorem ChipTime.leapError_eq_zero (c : ChipTime) :
    c.leapError = 0 ↔ (¬ isLeap c.year ∨ c.month = 1) := by
  unfold leapError
  by_cases hleap : isLeap c.year
  · by_cases hjan : c.month = 1
    · simp [hleap, hjan]
    · by_cases hfeb : c.month = 2
      · simp [hleap, hfeb]
      · simp [hleap, hjan, hfeb]
  · simp [hleap]

theorem getDateTime_unixtime (r : Rtc) : r.getDateTime.unixtime = unixtime r.getDateTime := by
  unfold Rtc.getDateTime decodeDateTime unixtime
  dsimp only

/-- Setting the clock to its own reading keeps the time outside leap years and
in their Januaries, and at no other time. -/
theorem reset_to_reading_iff (c : ChipTime) (r : Rtc) (h : r.getDateTime.Tells c) :
    (r.getDateTime.unixtime.toNat : Int) = c.stamp + 86400 * c.leapError ∧
      ((r.setDateTimeEpoch r.getDateTime.unixtime).getDateTime.Tells c ↔
        (¬ isLeap c.year ∨ c.month = 1)) := by
  have herror : (r.getDateTime.unixtime.toNat : Int) = c.stamp + 86400 * c.leapError := by
    rw [getDateTime_unixtime]
    exact unixtime_error h
  refine ⟨herror, ?_⟩
  obtain ⟨c', hc'⟩ := c.misread
  have hcount : r.getDateTime.unixtime = .ofNat c'.stamp := by
    have hlt := c'.stamp_lt
    have hnat : (UInt32.ofNat c'.stamp).toNat = c'.stamp :=
      UInt32.toNat_ofNat_of_lt' (Nat.lt_trans hlt (by decide))
    apply UInt32.toNat_inj.mp
    rw [hnat]
    omega
  have hset := (setDateTimeEpoch_sets c' r).tells
  rw [hcount, ← c.leapError_eq_zero]
  constructor
  · intro htells
    have hsame := htells.unique hset
    rw [← hsame] at hc'
    omega
  · intro hzero
    have hstamp : c'.stamp = c.stamp := by
      rw [hzero] at hc'
      omega
    rw [hstamp]
    exact (setDateTimeEpoch_sets c r).tells

/-- An afternoon in the April of a leap year. -/
def midApril : ChipTime where
  year := 2024
  month := 4
  day := 15
  month_pos := by decide
  month_le := by decide
  day_pos := by decide
  day_le := by decide
  hour := 14
  minute := 35
  hour_lt := by decide
  minute_lt := by decide
  second := 56
  second_lt := by decide
  year_ge := by decide
  year_lt := by decide

/-- A chip with nothing in its registers. -/
def blankChip : Rtc := ⟨fun _ => 0, 0⟩

theorem reset_in_midApril :
    ¬ ((midApril.set blankChip).setDateTimeEpoch
      (midApril.set blankChip).getDateTime.unixtime).getDateTime.Tells midApril := by
  intro htells
  have hset := (setDateTime_sets midApril blankChip).tells
  have hwhen := (reset_to_reading_iff midApril (midApril.set blankChip) hset).2.mp htells
  exact absurd hwhen (by decide)

end SprinklersAlarmClock
