import Mathlib.Algebra.BigOperators.Intervals
import Mathlib.Algebra.Order.BigOperators.Group.Finset
import Mathlib.Logic.Function.Iterate

/-!
# The civil calendar

Gregorian dates and times of day to the minute.  A `CivilDate` carries the proof
that it exists, so no operation can leave the calendar.  `CivilTime.next` is the
following minute and `after n` the one `n` minutes on.  `minuteNumber` numbers
the minutes along one line: `next` adds one (`minuteNumber_next`), different
times have different numbers (`minuteNumber_injective`), and so a time is
`c.after n` exactly when its number is `n` more than that of `c`
(`eq_after_iff`).

Years and months are counted in closed form at the end, and with them the days
of the week.
-/

namespace SprinklersAlarmClock.Logic

open Finset

/-! ## Months and years -/

def isLeap (year : Nat) : Bool :=
  year % 4 == 0 && (year % 100 != 0 || year % 400 == 0)

def monthLength (year month : Nat) : Nat :=
  match month with
  | 2 => if isLeap year then 29 else 28
  | 4 | 6 | 9 | 11 => 30
  | _ => 31

theorem monthLength_bounds (year month : Nat) :
    28 ≤ monthLength year month ∧ monthLength year month ≤ 31 := by
  unfold monthLength
  split
  · split <;> omega
  all_goals omega

theorem monthLength_pos (year month : Nat) : 1 ≤ monthLength year month :=
  Nat.le_trans (by decide) (monthLength_bounds year month).1

/-- Months are as long in one leap year as in another. -/
theorem monthLength_congr {year year' : Nat} (h : isLeap year = isLeap year') (month : Nat) :
    monthLength year month = monthLength year' month := by
  unfold monthLength
  rw [h]

/-- Days of the year before the first of `month`. -/
def daysBeforeMonth (year month : Nat) : Nat :=
  ∑ m ∈ Ico 1 month, monthLength year m

def yearLength (year : Nat) : Nat := daysBeforeMonth year 13

def daysBeforeYear (year : Nat) : Nat := ∑ y ∈ range year, yearLength y

theorem daysBeforeMonth_succ (year : Nat) {month : Nat} (h : 1 ≤ month) :
    daysBeforeMonth year (month + 1) =
      daysBeforeMonth year month + monthLength year month :=
  sum_Ico_succ_top h _

theorem daysBeforeYear_succ (year : Nat) :
    daysBeforeYear (year + 1) = daysBeforeYear year + yearLength year :=
  sum_range_succ _ _

theorem daysBeforeMonth_mono (year : Nat) : Monotone (daysBeforeMonth year) :=
  fun _ _ h => sum_le_sum_of_subset (Ico_subset_Ico_right h)

theorem daysBeforeYear_mono : Monotone daysBeforeYear :=
  fun _ _ h => sum_le_sum_of_subset (range_mono h)

/-! ## Dates -/

/-- A date that exists. -/
@[ext] structure CivilDate where
  year : Nat
  month : Nat
  day : Nat
  month_pos : 1 ≤ month
  month_le : month ≤ 12
  day_pos : 1 ≤ day
  day_le : day ≤ monthLength year month
  deriving DecidableEq

namespace CivilDate

def tomorrow (d : CivilDate) : CivilDate :=
  if hd : d.day < monthLength d.year d.month then
    { d with day := d.day + 1, day_pos := Nat.le_add_left _ _, day_le := hd }
  else if hm : d.month < 12 then
    { year := d.year, month := d.month + 1, day := 1
      month_pos := Nat.le_add_left _ _, month_le := hm
      day_pos := Nat.le_refl _, day_le := monthLength_pos _ _ }
  else
    { year := d.year + 1, month := 1, day := 1
      month_pos := Nat.le_refl _, month_le := by omega
      day_pos := Nat.le_refl _, day_le := monthLength_pos _ _ }

/-- Days from the beginning of year 0 up to and including `d`. -/
def dayNumber (d : CivilDate) : Nat :=
  daysBeforeYear d.year + daysBeforeMonth d.year d.month + d.day

theorem dayNumber_tomorrow (d : CivilDate) :
    d.tomorrow.dayNumber = d.dayNumber + 1 := by
  have hle := d.day_le
  unfold tomorrow
  split
  · show daysBeforeYear d.year + daysBeforeMonth d.year d.month + (d.day + 1) = _
    unfold dayNumber
    omega
  · rename_i hday
    have hlast : d.day = monthLength d.year d.month := by omega
    have hsucc := daysBeforeMonth_succ d.year d.month_pos
    split
    · show daysBeforeYear d.year + daysBeforeMonth d.year (d.month + 1) + 1 = _
      unfold dayNumber
      rw [hsucc]
      omega
    · have hdec : d.month = 12 := by
        have := d.month_le
        omega
      have hlen : yearLength d.year = daysBeforeMonth d.year (d.month + 1) := by
        rw [hdec]
        rfl
      have hjan : daysBeforeMonth (d.year + 1) 1 = 0 := rfl
      show daysBeforeYear (d.year + 1) + daysBeforeMonth (d.year + 1) 1 + 1 = _
      unfold dayNumber
      rw [daysBeforeYear_succ, hjan, hlen, hsucc]
      omega

/-- A date lies within its month. -/
theorem day_le_daysBefore_next (d : CivilDate) :
    daysBeforeMonth d.year d.month + d.day ≤
      daysBeforeMonth d.year (d.month + 1) := by
  rw [daysBeforeMonth_succ d.year d.month_pos]
  exact Nat.add_le_add_left d.day_le _

/-- A date lies within its year. -/
theorem day_le_yearLength (d : CivilDate) :
    daysBeforeMonth d.year d.month + d.day ≤ yearLength d.year :=
  Nat.le_trans d.day_le_daysBefore_next
    (daysBeforeMonth_mono d.year (Nat.add_le_add_right d.month_le 1))

theorem dayNumber_lt_of_year_lt {d e : CivilDate} (h : d.year < e.year) :
    d.dayNumber < e.dayNumber := by
  have hin := d.day_le_yearLength
  have hpos := e.day_pos
  have hmono : daysBeforeYear (d.year + 1) ≤ daysBeforeYear e.year :=
    daysBeforeYear_mono h
  rw [daysBeforeYear_succ] at hmono
  unfold dayNumber
  omega

theorem dayNumber_lt_of_month_lt {d e : CivilDate} (hy : d.year = e.year)
    (h : d.month < e.month) : d.dayNumber < e.dayNumber := by
  have hin := d.day_le_daysBefore_next
  have hpos := e.day_pos
  have hmono : daysBeforeMonth d.year (d.month + 1) ≤
      daysBeforeMonth d.year e.month := daysBeforeMonth_mono d.year h
  unfold dayNumber
  rw [← hy]
  omega

theorem dayNumber_injective : Function.Injective dayNumber := by
  intro d e h
  have hyear : d.year = e.year := by
    rcases Nat.lt_trichotomy d.year e.year with hlt | heq | hgt
    · have := dayNumber_lt_of_year_lt hlt
      omega
    · exact heq
    · have := dayNumber_lt_of_year_lt hgt
      omega
  have hmonth : d.month = e.month := by
    rcases Nat.lt_trichotomy d.month e.month with hlt | heq | hgt
    · have := dayNumber_lt_of_month_lt hyear hlt
      omega
    · exact heq
    · have := dayNumber_lt_of_month_lt hyear.symm hgt
      omega
  have hday : d.day = e.day := by
    unfold dayNumber at h
    rw [hyear, hmonth] at h
    omega
  exact CivilDate.ext hyear hmonth hday

end CivilDate

/-! ## Times -/

/-- A date that exists and a time of that day, to the minute. -/
@[ext] structure CivilTime extends CivilDate where
  hour : Nat
  minute : Nat
  hour_lt : hour < 24
  minute_lt : minute < 60
  deriving DecidableEq

namespace CivilTime

def minuteOfDay (c : CivilTime) : Nat := 60 * c.hour + c.minute

theorem minuteOfDay_lt (c : CivilTime) : c.minuteOfDay < 1440 := by
  have hh := c.hour_lt
  have hm := c.minute_lt
  unfold minuteOfDay
  omega

/-- The following minute. -/
def next (c : CivilTime) : CivilTime :=
  if hm : c.minute + 1 < 60 then
    { c with minute := c.minute + 1, minute_lt := hm }
  else if hh : c.hour + 1 < 24 then
    { c with hour := c.hour + 1, minute := 0, hour_lt := hh, minute_lt := by omega }
  else
    { c.toCivilDate.tomorrow with
      hour := 0, minute := 0, hour_lt := by omega, minute_lt := by omega }

/-- The time `n` minutes later. -/
def after (c : CivilTime) (n : Nat) : CivilTime := next^[n] c

/-- Minutes from the beginning of the day before year 0 up to `c`. -/
def minuteNumber (c : CivilTime) : Nat :=
  1440 * c.toCivilDate.dayNumber + c.minuteOfDay

theorem minuteNumber_next (c : CivilTime) :
    c.next.minuteNumber = c.minuteNumber + 1 := by
  have hh := c.hour_lt
  have hm := c.minute_lt
  unfold next
  split
  · show 1440 * c.dayNumber + (60 * c.hour + (c.minute + 1)) = _
    unfold minuteNumber minuteOfDay
    omega
  · split
    · show 1440 * c.dayNumber + (60 * (c.hour + 1) + 0) = _
      unfold minuteNumber minuteOfDay
      omega
    · have hday := c.toCivilDate.dayNumber_tomorrow
      show 1440 * c.toCivilDate.tomorrow.dayNumber + (60 * 0 + 0) = _
      unfold minuteNumber minuteOfDay
      omega

theorem minuteNumber_after (c : CivilTime) (n : Nat) :
    (c.after n).minuteNumber = c.minuteNumber + n := by
  induction n with
  | zero => rfl
  | succ n ih =>
      have hstep : c.after (n + 1) = (c.after n).next :=
        Function.iterate_succ_apply' next n c
      rw [hstep, minuteNumber_next, ih, Nat.add_assoc]

theorem minuteNumber_injective : Function.Injective minuteNumber := by
  intro c e h
  have hc := c.minuteOfDay_lt
  have he := e.minuteOfDay_lt
  have hcm := c.minute_lt
  have hem := e.minute_lt
  unfold minuteNumber at h
  have hday : c.toCivilDate.dayNumber = e.toCivilDate.dayNumber := by omega
  have hdate := CivilDate.dayNumber_injective hday
  have hrest : c.minuteOfDay = e.minuteOfDay := by omega
  unfold minuteOfDay at hrest
  have hhour : c.hour = e.hour := by omega
  have hminute : c.minute = e.minute := by omega
  exact CivilTime.ext (congrArg CivilDate.year hdate)
    (congrArg CivilDate.month hdate) (congrArg CivilDate.day hdate) hhour hminute

/-- There is exactly one time `n` minutes after `c`. -/
theorem eq_after_iff (c e : CivilTime) (n : Nat) :
    e = c.after n ↔ e.minuteNumber = c.minuteNumber + n := by
  rw [← minuteNumber_after]
  constructor
  · intro h
    rw [h]
  · intro h
    exact minuteNumber_injective h

/-- Within one month the day and the time of day move as one number. -/
theorem minuteNumber_sameMonth {c e : CivilTime} (hy : e.year = c.year)
    (hm : e.month = c.month) (n : Nat) :
    e.minuteNumber = c.minuteNumber + n ↔
      1440 * e.day + e.minuteOfDay = 1440 * c.day + c.minuteOfDay + n := by
  unfold minuteNumber CivilDate.dayNumber
  rw [hy, hm]
  omega

end CivilTime

/-! ## Counting years, months and weekdays -/

/-- Leap years before `year`, counted from year 0. -/
def leapsBefore (year : Nat) : Nat :=
  (year + 3) / 4 - (year + 99) / 100 + (year + 399) / 400

theorem leapsBefore_succ (year : Nat) :
    leapsBefore (year + 1) = leapsBefore year + if isLeap year then 1 else 0 := by
  have h4 : (year + 1 + 3) / 4 = (year + 3) / 4 + if year % 4 = 0 then 1 else 0 := by
    split <;> omega
  have h100 : (year + 1 + 99) / 100 = (year + 99) / 100 + if year % 100 = 0 then 1 else 0 := by
    split <;> omega
  have h400 : (year + 1 + 399) / 400 = (year + 399) / 400 + if year % 400 = 0 then 1 else 0 := by
    split <;> omega
  have hfewer : (year + 99) / 100 ≤ (year + 3) / 4 := by omega
  have hcentury : year % 400 = 0 → year % 100 = 0 := by omega
  have hfour : year % 100 = 0 → year % 4 = 0 := by omega
  unfold leapsBefore
  rw [h4, h100, h400]
  simp only [isLeap, Bool.and_eq_true, Bool.or_eq_true, beq_iff_eq, bne_iff_ne]
  generalize (year + 3) / 4 = a at hfewer ⊢
  generalize (year + 99) / 100 = b at hfewer ⊢
  generalize (year + 399) / 400 = c
  by_cases h : year % 4 = 0
  · by_cases h' : year % 100 = 0
    · by_cases h'' : year % 400 = 0
      · simp [h, h', h'']
        omega
      · simp [h, h', h'']
    · have h'' : ¬ year % 400 = 0 := mt hcentury h'
      simp [h, h', h'']
      omega
  · have h' : ¬ year % 100 = 0 := mt hfour h
    have h'' : ¬ year % 400 = 0 := mt hcentury h'
    simp [h, h', h'']

/-- Every year has the months of a common year, but for a 29th of February. -/
theorem daysBeforeMonth_common (year : Nat) {month : Nat} (h : 1 ≤ month) :
    daysBeforeMonth year month =
      daysBeforeMonth 1 month + if isLeap year ∧ 3 ≤ month then 1 else 0 := by
  induction month, h using Nat.le_induction with
  | base => simp [daysBeforeMonth]
  | succ month h ih =>
      rw [daysBeforeMonth_succ year h, daysBeforeMonth_succ 1 h, ih]
      by_cases hfeb : month = 2
      · subst hfeb
        have hlen : monthLength year 2 = 28 + if isLeap year then 1 else 0 := by
          simp only [monthLength]
          split <;> rfl
        rw [hlen, show monthLength 1 2 = 28 from rfl]
        simp
        omega
      · have hlen : monthLength year month = monthLength 1 month := by
          unfold monthLength
          split <;> simp_all
        have hiff : 3 ≤ month + 1 ↔ 3 ≤ month := by omega
        rw [hlen]
        simp only [hiff]
        omega

theorem yearLength_eq (year : Nat) :
    yearLength year = 365 + if isLeap year then 1 else 0 := by
  have h := daysBeforeMonth_common year (show 1 ≤ 13 by decide)
  have hcommon : daysBeforeMonth 1 13 = 365 := rfl
  unfold yearLength
  rw [h, hcommon]
  simp

theorem daysBeforeYear_eq (year : Nat) :
    daysBeforeYear year = 365 * year + leapsBefore year := by
  induction year with
  | zero => rfl
  | succ year ih =>
      rw [daysBeforeYear_succ, ih, leapsBefore_succ, yearLength_eq]
      omega

theorem daysBeforeYear_add (year n : Nat) :
    daysBeforeYear (year + n) = daysBeforeYear year + ∑ j ∈ Ico 0 n, yearLength (year + j) := by
  rw [← range_eq_Ico]
  exact sum_range_add yearLength year n

/-- Monday is 1 and Sunday 7. -/
def CivilDate.weekday (d : CivilDate) : Nat := (d.dayNumber + 4) % 7 + 1

theorem CivilDate.weekday_tomorrow (d : CivilDate) :
    d.tomorrow.weekday = d.weekday % 7 + 1 := by
  unfold weekday
  rw [d.dayNumber_tomorrow]
  omega

/-- The first day of 2000 was a Saturday. -/
theorem CivilDate.weekday_newYear (d : CivilDate) (hy : d.year = 2000) (hm : d.month = 1)
    (hd : d.day = 1) : d.weekday = 6 := by
  unfold weekday dayNumber
  rw [hy, hm, hd, daysBeforeYear_eq]
  rfl

/-- A walk along consecutive spans: where `f n i` drops the span `i` from the
front of `n` as long as it fits, it comes to the span the position falls in. -/
theorem span_walk {α : Type} {f : Nat → Nat → α} {len : Nat → Nat} {i k : Nat} (h : i ≤ k)
    (hf : ∀ j, i ≤ j → j < k → ∀ n, f (len j + n) j = f n (j + 1)) (rest : Nat) :
    f (∑ j ∈ Ico i k, len j + rest) i = f rest k := by
  induction k, h using Nat.le_induction generalizing rest with
  | base => rw [Ico_self, sum_empty, Nat.zero_add]
  | succ k hik ih =>
      have hf' : ∀ j, i ≤ j → j < k → ∀ n, f (len j + n) j = f n (j + 1) :=
        fun j hij hjk => hf j hij (Nat.lt_succ_of_lt hjk)
      rw [sum_Ico_succ_top hik, Nat.add_assoc, ih hf', hf k hik (Nat.lt_succ_self k)]

end SprinklersAlarmClock.Logic
