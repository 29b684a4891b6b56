import SprinklersAlarmClock.Logic.Calendar
import SprinklersAlarmClock.Verified.EditSession

/-!
# Editing along the calendar

`addHour` and `addMinute` move the time of day and carry into the day, and no
further: `day` is incremented without regard to the month (`Moved`).  So a
sequence of presses leads to the civil time that many minutes later exactly when
the days it carries still fit in the month it started in (`along_calendar_iff`).
From the last minute of March the next press shows the 32nd.
-/

namespace SprinklersAlarmClock

open Logic TimeSystemData AlarmDisplay

/-! ## Sequences of presses -/

/-- A call the edit session makes on `date`. -/
inductive AddCall where
  | addHour
  | addMinute
  deriving DecidableEq, Repr

def AddCall.apply : AddCall → RTCDateTime → RTCDateTime
  | .addHour => TimeSystemData.addHour
  | .addMinute => TimeSystemData.addMinute

/-- Minutes a call stands for. -/
def AddCall.minutes : AddCall → Nat
  | .addHour => 60
  | .addMinute => 1

def runCalls (calls : List AddCall) (d : RTCDateTime) : RTCDateTime :=
  calls.foldl (fun d call => call.apply d) d

/-- Minutes a sequence stands for. -/
def callMinutes (calls : List AddCall) : Nat :=
  60 * calls.count .addHour + calls.count .addMinute

theorem runCalls_cons (call : AddCall) (calls : List AddCall)
    (d : RTCDateTime) :
    runCalls (call :: calls) d = runCalls calls (call.apply d) := rfl

theorem callMinutes_cons (call : AddCall) (calls : List AddCall) :
    callMinutes (call :: calls) = call.minutes + callMinutes calls := by
  unfold callMinutes
  rw [List.count_cons, List.count_cons]
  cases call with
  | addHour =>
      show 60 * (_ + 1) + (_ + 0) = 60 + _
      omega
  | addMinute =>
      show 60 * (_ + 0) + (_ + 1) = 1 + _
      omega

theorem callMinutes_perm {calls calls' : List AddCall} (h : calls'.Perm calls) :
    callMinutes calls' = callMinutes calls := by
  unfold callMinutes
  rw [h.count_eq, h.count_eq]

/-! ## The property and its condition -/

/-- The date, the hour and the minute that `displayEditModeUI` prints are those
of `c`. -/
structure RTCDateTime.Shows (d : RTCDateTime) (c : CivilTime) : Prop where
  year : d.year.toNat = c.year
  month : d.month.toNat = c.month
  day : d.day.toNat = c.day
  hour : d.hour.toNat = c.hour
  minute : d.minute.toNat = c.minute

/-- From `d` at `c`, the calls lead to the civil time that many minutes later,
in whatever order they are made, and leave the seconds alone. -/
structure AlongCalendar (c : CivilTime) (calls : List AddCall) (d : RTCDateTime) :
    Prop where
  shows : (runCalls calls d).Shows (c.after (callMinutes calls))
  second : (runCalls calls d).second = d.second
  order : ∀ calls', calls'.Perm calls →
    (runCalls calls' d).Shows (c.after (callMinutes calls))

/-- The days carried from `c` in `n` minutes stay within the month of `c`. -/
def FitsMonth (c : CivilTime) (n : Nat) : Prop :=
  c.day + (c.minuteOfDay + n) / 1440 ≤ monthLength c.year c.month

instance (c : CivilTime) (n : Nat) : Decidable (FitsMonth c n) := Nat.decLe _ _

/-! ## Moves compose -/

theorem Moved.refl {d : RTCDateTime} (hd : Valid d) : Moved 0 d d := by
  have hmin : 1440 * 0 + minutesOf d = minutesOf d + 0 := by omega
  exact Moved.of_carry hd hmin (day_kept d.day) ⟨rfl, rfl, rfl⟩

theorem Moved.trans {n k : Nat} {d d' d'' : RTCDateTime} (h : Moved n d d')
    (h' : Moved k d' d'') : Moved (n + k) d d'' where
  valid := h'.valid
  minutes := by
    have h1 := h.minutes
    have h2 := h'.minutes
    omega
  day := by
    have h1 := h.minutes
    have h2 := h.day
    have h3 := h'.day
    omega
  month := h'.month.trans h.month
  year := h'.year.trans h.year
  second := h'.second.trans h.second

theorem AddCall.moved (call : AddCall) {d : RTCDateTime} (hd : Valid d) :
    Moved call.minutes d (call.apply d) := by
  cases call with
  | addHour => exact addHour_moved hd
  | addMinute => exact addMinute_moved hd

/-! ## Any number of calls -/

theorem runCalls_moved (calls : List AddCall) {d : RTCDateTime} (hd : Valid d) :
    Moved (callMinutes calls) d (runCalls calls d) := by
  induction calls generalizing d with
  | nil => exact Moved.refl hd
  | cons call calls ih =>
      have hstep := call.moved hd
      have hrest := ih hstep.valid
      rw [runCalls_cons, callMinutes_cons]
      exact hstep.trans hrest

theorem RTCDateTime.Shows.valid {d : RTCDateTime} {c : CivilTime} (h : d.Shows c) :
    Valid d := by
  have hh := c.hour_lt
  have hm := c.minute_lt
  rw [← h.hour] at hh
  rw [← h.minute] at hm
  exact ⟨hh, hm⟩

theorem RTCDateTime.Shows.minutesOf {d : RTCDateTime} {c : CivilTime}
    (h : d.Shows c) : minutesOf d = c.minuteOfDay := by
  unfold SprinklersAlarmClock.minutesOf CivilTime.minuteOfDay
  rw [h.hour, h.minute]

/-- The time the code leads to when the days fit. -/
def FitsMonth.time {c : CivilTime} {n : Nat} (h : FitsMonth c n) : CivilTime where
  year := c.year
  month := c.month
  day := c.day + (c.minuteOfDay + n) / 1440
  hour := (c.minuteOfDay + n) % 1440 / 60
  minute := (c.minuteOfDay + n) % 60
  month_pos := c.month_pos
  month_le := c.month_le
  day_pos := Nat.le_add_right_of_le c.day_pos
  day_le := h
  hour_lt := by omega
  minute_lt := Nat.mod_lt _ (by decide)

theorem FitsMonth.time_eq_after {c : CivilTime} {n : Nat} (h : FitsMonth c n) :
    h.time = c.after n := by
  have hmonth := CivilTime.minuteNumber_sameMonth (c := c) (e := h.time) rfl rfl n
  rw [CivilTime.eq_after_iff, hmonth]
  show 1440 * (c.day + (c.minuteOfDay + n) / 1440) +
    (60 * ((c.minuteOfDay + n) % 1440 / 60) + (c.minuteOfDay + n) % 60) = _
  omega

theorem Moved.shows {n : Nat} {c : CivilTime} {d d' : RTCDateTime}
    (h : Moved n d d') (hd : d.Shows c) (hfits : FitsMonth c n) :
    d'.Shows hfits.time := by
  have hmin := h.minutes
  have hday := h.day
  have hlen := (monthLength_bounds c.year c.month).2
  have hm := h.valid.2
  have hcarry : c.day + (c.minuteOfDay + n) / 1440 ≤ monthLength c.year c.month := hfits
  rw [hd.minutesOf] at hmin hday
  rw [hd.day] at hday
  unfold SprinklersAlarmClock.minutesOf at hmin
  refine ⟨?_, ?_, ?_, ?_, ?_⟩
  · rw [h.year]
    exact hd.year
  · rw [h.month]
    exact hd.month
  · show d'.day.toNat = c.day + (c.minuteOfDay + n) / 1440
    omega
  · show d'.hour.toNat = (c.minuteOfDay + n) % 1440 / 60
    omega
  · show d'.minute.toNat = (c.minuteOfDay + n) % 60
    omega

/-- A time of the same year and month, `n` minutes after `c`, bounds the carry. -/
theorem fitsMonth_of_sameMonth {c : CivilTime} {n : Nat}
    (hy : (c.after n).year = c.year) (hm : (c.after n).month = c.month) :
    FitsMonth c n := by
  have hnum := (CivilTime.eq_after_iff c (c.after n) n).mp rfl
  rw [CivilTime.minuteNumber_sameMonth hy hm] at hnum
  have hlt := (c.after n).minuteOfDay_lt
  have hle := (c.after n).day_le
  rw [hy, hm] at hle
  unfold FitsMonth
  omega

/-! ## Main result -/

/-- Where the days fit, the code and the calendar agree. -/
theorem runCalls_shows {c : CivilTime} {d : RTCDateTime} (hd : d.Shows c)
    {calls : List AddCall} (hfits : FitsMonth c (callMinutes calls)) :
    (runCalls calls d).Shows (c.after (callMinutes calls)) := by
  rw [← hfits.time_eq_after]
  exact (runCalls_moved calls hd.valid).shows hd hfits

/-- **Editing moves along the calendar exactly within a month.** -/
theorem along_calendar_iff (c : CivilTime) (d : RTCDateTime) (hd : d.Shows c)
    (calls : List AddCall) :
    AlongCalendar c calls d ↔ FitsMonth c (callMinutes calls) := by
  have hmoved := runCalls_moved calls hd.valid
  constructor
  · intro h
    have hy : (c.after (callMinutes calls)).year = c.year := by
      rw [← h.shows.year, hmoved.year, hd.year]
    have hm : (c.after (callMinutes calls)).month = c.month := by
      rw [← h.shows.month, hmoved.month, hd.month]
    exact fitsMonth_of_sameMonth hy hm
  · intro hfits
    refine ⟨runCalls_shows hd hfits, hmoved.second, fun calls' hperm => ?_⟩
    have hsame := callMinutes_perm hperm
    rw [← hsame] at hfits ⊢
    exact runCalls_shows hd hfits

/-- 28 February of a leap year, at 23:30. -/
def leapFebruary : CivilTime where
  year := 2024
  month := 2
  day := 28
  hour := 23
  minute := 30
  month_pos := by decide
  month_le := by decide
  day_pos := by decide
  day_le := by decide
  hour_lt := by decide
  minute_lt := by decide

/-- One hour and one minute from there lead to 29 February. -/
theorem leapFebruary_along :
    AlongCalendar leapFebruary [.addHour, .addMinute]
      (DS3231.decodeDateTime ⟨0x00, 0x30, 0x23, 0x03, 0x28, 0x02, 0x24⟩) :=
  (along_calendar_iff leapFebruary _
    ⟨by decide, by decide, by decide, by decide, by decide⟩ _).mpr (by decide)

/-- 31 March 2021, at 23:59. -/
def endOfMarch : CivilTime where
  year := 2021
  month := 3
  day := 31
  hour := 23
  minute := 59
  month_pos := by decide
  month_le := by decide
  day_pos := by decide
  day_le := by decide
  hour_lt := by decide
  minute_lt := by decide

/-- `date` as read from the clock chip at that minute. -/
def endOfMarchDate : RTCDateTime :=
  DS3231.decodeDateTime ⟨0x30, 0x59, 0x23, 0x03, 0x31, 0x03, 0x21⟩

/-- One more minute, still within 2021, leads to 32 March, which is no date. -/
theorem march_overrun :
    endOfMarchDate.Shows endOfMarch ∧
      (endOfMarch.after (callMinutes [.addMinute])).year = 2021 ∧
      ¬ AlongCalendar endOfMarch [.addMinute] endOfMarchDate ∧
      (runCalls [.addMinute] endOfMarchDate).day = 32 ∧
      ∀ c, ¬ (runCalls [.addMinute] endOfMarchDate).Shows c := by
  have hday : (runCalls [.addMinute] endOfMarchDate).day = 32 := by decide
  have hnone : ∀ c, ¬ (runCalls [.addMinute] endOfMarchDate).Shows c := by
    intro c hc
    have hshown := hc.day
    have hle := c.day_le
    have hlen := (monthLength_bounds c.year c.month).2
    rw [hday] at hshown
    have hnum : (32 : UInt8).toNat = 32 := rfl
    omega
  exact ⟨⟨by decide, by decide, by decide, by decide, by decide⟩, by decide,
    fun h => hnone _ h.shows, hday, hnone⟩

end SprinklersAlarmClock
