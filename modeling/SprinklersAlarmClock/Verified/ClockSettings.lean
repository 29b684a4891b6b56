import SprinklersAlarmClock.Logic.Strobe
import SprinklersAlarmClock.Logic.Masks
import SprinklersAlarmClock.Firmware.ClockChip

/-!
# What the clock chip is set to

Nine settings and flags of the chip share two registers, and each call of the
library reads a register, changes some bits and writes it back.
`Settings` lists what the library can ask for, each part on its own; every
sequence of calls and of matches of the two alarms has on it exactly the effect
that the calls are meant to have, one after the other (`settings_calls`).  Two
calls reach further than their names say: `setBattery` with the clock on battery
also switches the square-wave output on, and `setDateTime` clears the seconds of
alarm 1.

An alarm time that was set is read back as it was, except that a day of the week
comes back with 40 added.  The kind of match is read from the wrong bits, after
the conversion from BCD, and comes back right exactly for the times of `Legible`
(`alarms_readback`).
-/

namespace SprinklersAlarmClock

open Logic DS3231

/-! ## Settings -/

/-- What the control register says. -/
@[ext] structure Control where
  /-- The clock runs on battery. -/
  battery : Bool
  /-- The square wave is put out on battery. -/
  squareBattery : Bool
  /-- The output pin carries the square wave. -/
  output : Bool
  rate : UInt8
  armed1 : Bool
  armed2 : Bool

def Control.of (v : UInt8) : Control where
  battery := v &&& 0b10000000 == 0
  squareBattery := v &&& 0b01000000 != 0
  output := (v &&& 0b00000100) >>> 2 == 0
  rate := (v &&& 0b00011000) >>> 3
  armed1 := v &&& 0b00000001 != 0
  armed2 := (v &&& 0b00000010) >>> 1 != 0

/-- What the status register says. -/
@[ext] structure Status where
  wave32kHz : Bool
  alarm1 : Bool
  alarm2 : Bool

def Status.of (v : UInt8) : Status where
  wave32kHz := (v &&& 0b00001000) >>> 3 != 0
  alarm1 := v &&& 0b00000001 != 0
  alarm2 := v &&& 0b00000010 != 0

/-- All that the library can ask of the chip. -/
structure Settings where
  clock : List UInt8
  time1 : List UInt8
  time2 : List UInt8
  control : Control
  status : Status

/-- Registers `reg` and the `n` after it. -/
def Rtc.block (r : Rtc) (reg : UInt8) (n : Nat) : List UInt8 :=
  (List.range n).map fun i => r.regs (reg + .ofNat i)

def Rtc.settings (r : Rtc) : Settings where
  clock := r.block regTime 7
  time1 := r.block regAlarm1 4
  time2 := r.block regAlarm2 3
  control := .of (r.regs regControl)
  status := .of (r.regs regStatus)

/-! ## Calls -/

/-- A call of the library, or a match of one of the alarms. -/
inductive ChipCall where
  | setDateTime (year : UInt16) (month day hour minute second : UInt8)
  | enableOutput (enabled : Bool)
  | setBattery (timeBattery squareBattery : Bool)
  | setOutput (mode : SqwMode)
  | enable32kHz (enabled : Bool)
  | setAlarm1 (dydw hour minute second : UInt8) (mode : Alarm1Mode) (armed : Bool)
  | armAlarm1 (armed : Bool)
  | clearAlarm1
  | isAlarm1 (clear : Bool)
  | setAlarm2 (dydw hour minute : UInt8) (mode : Alarm2Mode) (armed : Bool)
  | armAlarm2 (armed : Bool)
  | clearAlarm2
  | isAlarm2 (clear : Bool)
  | matchAlarm1
  | matchAlarm2

namespace ChipCall

/-- What a call does to the registers. -/
def apply : ChipCall → Rtc → Rtc
  | .setDateTime year month day hour minute second =>
      Rtc.setDateTime year month day hour minute second
  | .enableOutput enabled => Rtc.enableOutput enabled
  | .setBattery timeBattery squareBattery => Rtc.setBattery timeBattery squareBattery
  | .setOutput mode => Rtc.setOutput mode
  | .enable32kHz enabled => Rtc.enable32kHz enabled
  | .setAlarm1 dydw hour minute second mode armed =>
      Rtc.setAlarm1 dydw hour minute second mode armed
  | .armAlarm1 armed => Rtc.armAlarm1 armed
  | .clearAlarm1 => Rtc.clearAlarm1
  | .isAlarm1 clear => fun r => (r.isAlarm1 clear).2
  | .setAlarm2 dydw hour minute mode armed => Rtc.setAlarm2 dydw hour minute mode armed
  | .armAlarm2 armed => Rtc.armAlarm2 armed
  | .clearAlarm2 => Rtc.clearAlarm2
  | .isAlarm2 clear => fun r => (r.isAlarm2 clear).2
  | .matchAlarm1 => Rtc.matchAlarm1
  | .matchAlarm2 => Rtc.matchAlarm2

/-- What a call is meant to do. -/
def meaning : ChipCall → Settings → Settings
  | .setDateTime year month day hour minute second, s =>
      { s with
        clock := (dateTimeBytes year month day hour minute second).take 7
        time1 := 0 :: s.time1.tail }
  | .enableOutput enabled, s => { s with control := { s.control with output := enabled } }
  | .setBattery timeBattery squareBattery, s =>
      { s with control := { s.control with
          battery := timeBattery
          squareBattery := squareBattery
          output := timeBattery || s.control.output } }
  | .setOutput mode, s => { s with control := { s.control with rate := mode.code } }
  | .enable32kHz enabled, s => { s with status := { s.status with wave32kHz := enabled } }
  | .setAlarm1 dydw hour minute second mode armed, s =>
      { s with
        time1 := alarm1Bytes dydw hour minute second mode
        control := { s.control with armed1 := armed }
        status := { s.status with alarm1 := false } }
  | .armAlarm1 armed, s => { s with control := { s.control with armed1 := armed } }
  | .clearAlarm1, s => { s with status := { s.status with alarm1 := false } }
  | .isAlarm1 clear, s =>
      { s with status := { s.status with alarm1 := s.status.alarm1 && !clear } }
  | .setAlarm2 dydw hour minute mode armed, s =>
      { s with
        time2 := alarm2Bytes dydw hour minute mode
        control := { s.control with armed2 := armed }
        status := { s.status with alarm2 := false } }
  | .armAlarm2 armed, s => { s with control := { s.control with armed2 := armed } }
  | .clearAlarm2, s => { s with status := { s.status with alarm2 := false } }
  | .isAlarm2 clear, s =>
      { s with status := { s.status with alarm2 := s.status.alarm2 && !clear } }
  | .matchAlarm1, s => { s with status := { s.status with alarm1 := true } }
  | .matchAlarm2, s => { s with status := { s.status with alarm2 := true } }

end ChipCall

/-! ## One register -/

theorem settings_control (r : Rtc) (v : UInt8) :
    (r.writeRegister8 regControl v).settings = { r.settings with control := .of v } := rfl

/-- What the status register keeps of a byte written to it. -/
def kept (old v : UInt8) : UInt8 :=
  (old &&& v &&& 0b10000011) ||| (v &&& 0b00001000) ||| (old &&& 0b00000100)

theorem settings_status (r : Rtc) (v : UInt8) :
    (r.writeRegister8 regStatus v).settings =
      { r.settings with status := .of (kept (r.regs regStatus) v) } := rfl

theorem kept_wave (old v : UInt8) : kept old v &&& 0b00001000 = v &&& 0b00001000 := by
  simp (disch := decide) only [kept, or_and_byte, clear_keeps, clear_clears, UInt8.zero_or,
    UInt8.or_zero]

/-- A flag stays set only if it is written as set. -/
theorem kept_flag (old v : UInt8) {m : UInt8} (hm : 0b10000011 &&& m = m)
    (hwave : 0b00001000 &&& m = 0) (hbusy : 0b00000100 &&& m = 0) :
    kept old v &&& m = old &&& (v &&& m) := by
  unfold kept
  rw [or_and_byte, or_and_byte, clear_keeps hm, clear_clears hwave, clear_clears hbusy,
    UInt8.or_zero, UInt8.or_zero, UInt8.and_assoc]

theorem control_enableOutput (enabled : Bool) (v : UInt8) :
    Control.of ((v &&& 0b11111011 : UInt8) ||| Rtc.ofBool (!enabled) <<< 2) =
      { Control.of v with output := enabled } := by
  cases enabled <;>
    simp (disch := decide) only [Control.of, write_shows, set_keeps, clear_keeps,
      clear_clears] <;> rfl

theorem control_setOutput (mode : SqwMode) (v : UInt8) :
    Control.of ((v &&& 0b11100111 : UInt8) ||| mode.code <<< 3) =
      { Control.of v with rate := mode.code } := by
  cases mode <;>
    simp (disch := decide) only [Control.of, write_shows, set_keeps, clear_keeps,
      clear_clears] <;> rfl

theorem control_setBattery (timeBattery squareBattery : Bool) (v : UInt8) :
    Control.of
        (let value := if squareBattery then v ||| 0b01000000 else v &&& 0b10111111
         if timeBattery then value &&& 0b01111011 else value ||| 0b10000000) =
      { Control.of v with
        battery := timeBattery
        squareBattery := squareBattery
        output := timeBattery || (Control.of v).output } := by
  cases timeBattery <;> cases squareBattery <;>
    simp (disch := decide) only [Control.of, set_keeps, set_sets, clear_keeps, clear_clears,
      Bool.false_eq_true, if_true, if_false] <;> rfl

theorem control_armAlarm1 (armed : Bool) (v : UInt8) :
    Control.of (if armed then v ||| 0b00000001 else v &&& 0b11111110) =
      { Control.of v with armed1 := armed } := by
  cases armed <;>
    simp (disch := decide) only [Control.of, set_keeps, set_sets, clear_keeps, clear_clears,
      Bool.false_eq_true, if_true, if_false] <;> rfl

theorem control_armAlarm2 (armed : Bool) (v : UInt8) :
    Control.of (if armed then v ||| 0b00000010 else v &&& 0b11111101) =
      { Control.of v with armed2 := armed } := by
  cases armed <;>
    simp (disch := decide) only [Control.of, set_keeps, set_sets, clear_keeps, clear_clears,
      Bool.false_eq_true, if_true, if_false] <;> rfl

theorem status_enable32kHz (enabled : Bool) (v : UInt8) :
    Status.of (kept v ((v &&& 0b11110111 : UInt8) ||| Rtc.ofBool enabled <<< 3)) =
      { Status.of v with wave32kHz := enabled } := by
  cases enabled <;>
    simp (disch := decide) only [Status.of, kept_wave, kept_flag, write_shows, set_keeps,
      clear_keeps, clear_clears, and_and_byte] <;> rfl

theorem status_clearAlarm1 (v : UInt8) :
    Status.of (kept v (v &&& 0b11111110)) = { Status.of v with alarm1 := false } := by
  simp (disch := decide) only [Status.of, kept_wave, kept_flag, clear_keeps, clear_clears,
    and_and_byte, UInt8.and_zero]
  rfl

theorem status_clearAlarm2 (v : UInt8) :
    Status.of (kept v (v &&& 0b11111101)) = { Status.of v with alarm2 := false } := by
  simp (disch := decide) only [Status.of, kept_wave, kept_flag, clear_keeps, clear_clears,
    and_and_byte, UInt8.and_zero]
  rfl

theorem status_matchAlarm1 (v : UInt8) :
    Status.of (v ||| 0b00000001) = { Status.of v with alarm1 := true } := by
  simp (disch := decide) only [Status.of, set_keeps, set_sets]
  rfl

theorem status_matchAlarm2 (v : UInt8) :
    Status.of (v ||| 0b00000010) = { Status.of v with alarm2 := true } := by
  simp (disch := decide) only [Status.of, set_keeps, set_sets]
  rfl

/-! ## One call -/

theorem settings_armAlarm1 (armed : Bool) (r : Rtc) :
    (r.armAlarm1 armed).settings =
      { r.settings with control := { r.settings.control with armed1 := armed } } := by
  unfold Rtc.armAlarm1
  rw [settings_control, control_armAlarm1]
  rfl

theorem settings_armAlarm2 (armed : Bool) (r : Rtc) :
    (r.armAlarm2 armed).settings =
      { r.settings with control := { r.settings.control with armed2 := armed } } := by
  unfold Rtc.armAlarm2
  rw [settings_control, control_armAlarm2]
  rfl

theorem settings_clearAlarm1 (r : Rtc) :
    r.clearAlarm1.settings =
      { r.settings with status := { r.settings.status with alarm1 := false } } := by
  unfold Rtc.clearAlarm1
  rw [settings_status, status_clearAlarm1]
  rfl

theorem settings_clearAlarm2 (r : Rtc) :
    r.clearAlarm2.settings =
      { r.settings with status := { r.settings.status with alarm2 := false } } := by
  unfold Rtc.clearAlarm2
  rw [settings_status, status_clearAlarm2]
  rfl

theorem settings_alarm1Bytes (dydw hour minute second : UInt8) (mode : Alarm1Mode) (r : Rtc) :
    (r.storeAll regAlarm1 (alarm1Bytes dydw hour minute second mode)).settings =
      { r.settings with time1 := alarm1Bytes dydw hour minute second mode } := by
  cases mode <;> rfl

theorem settings_alarm2Bytes (dydw hour minute : UInt8) (mode : Alarm2Mode) (r : Rtc) :
    (r.storeAll regAlarm2 (alarm2Bytes dydw hour minute mode)).settings =
      { r.settings with time2 := alarm2Bytes dydw hour minute mode } := by
  cases mode <;> rfl

/-- A flag that is cleared if it was set. -/
theorem flag_cleared (flag clear : Bool) :
    ((flag && clear) = true → (flag && !clear) = false) ∧
      (¬ (flag && clear) = true → (flag && !clear) = flag) := by
  cases flag <;> cases clear <;> simp

/-- A call does what it is meant to do. -/
theorem settings_call (c : ChipCall) (r : Rtc) :
    (c.apply r).settings = c.meaning r.settings := by
  cases c with
  | setDateTime => rfl
  | enableOutput enabled =>
      show (r.writeRegister8 regControl _).settings = _
      rw [settings_control, control_enableOutput]
      rfl
  | setBattery timeBattery squareBattery =>
      show (r.writeRegister8 regControl _).settings = _
      rw [settings_control, control_setBattery]
      rfl
  | setOutput mode =>
      show (r.writeRegister8 regControl _).settings = _
      rw [settings_control, control_setOutput]
      rfl
  | enable32kHz enabled =>
      show (r.writeRegister8 regStatus _).settings = _
      rw [settings_status, status_enable32kHz]
      rfl
  | setAlarm1 dydw hour minute second mode armed =>
      show (Rtc.clearAlarm1 (Rtc.armAlarm1 armed _)).settings = _
      rw [settings_clearAlarm1, settings_armAlarm1, settings_alarm1Bytes]
      rfl
  | armAlarm1 armed => exact settings_armAlarm1 armed r
  | clearAlarm1 => exact settings_clearAlarm1 r
  | isAlarm1 clear =>
      show Rtc.settings (if r.settings.status.alarm1 && clear then r.clearAlarm1 else r) =
        { r.settings with status := { r.settings.status with
            alarm1 := r.settings.status.alarm1 && !clear } }
      by_cases hclear : r.settings.status.alarm1 && clear
      · rw [if_pos hclear, settings_clearAlarm1, (flag_cleared _ clear).1 hclear]
      · rw [if_neg hclear, (flag_cleared _ clear).2 hclear]
  | setAlarm2 dydw hour minute mode armed =>
      show (Rtc.clearAlarm2 (Rtc.armAlarm2 armed _)).settings = _
      rw [settings_clearAlarm2, settings_armAlarm2, settings_alarm2Bytes]
      rfl
  | armAlarm2 armed => exact settings_armAlarm2 armed r
  | clearAlarm2 => exact settings_clearAlarm2 r
  | isAlarm2 clear =>
      show Rtc.settings (if r.settings.status.alarm2 && clear then r.clearAlarm2 else r) =
        { r.settings with status := { r.settings.status with
            alarm2 := r.settings.status.alarm2 && !clear } }
      by_cases hclear : r.settings.status.alarm2 && clear
      · rw [if_pos hclear, settings_clearAlarm2, (flag_cleared _ clear).1 hclear]
      · rw [if_neg hclear, (flag_cleared _ clear).2 hclear]
  | matchAlarm1 =>
      show { r.settings with status := Status.of (r.regs regStatus ||| 0b00000001) } = _
      rw [status_matchAlarm1]
      rfl
  | matchAlarm2 =>
      show { r.settings with status := Status.of (r.regs regStatus ||| 0b00000010) } = _
      rw [status_matchAlarm2]
      rfl

/-! ## Any number of calls -/

theorem settings_run (calls : List ChipCall) (r : Rtc) :
    (calls.foldl (fun r c => c.apply r) r).settings =
      calls.foldl (fun s c => c.meaning s) r.settings := by
  induction calls generalizing r with
  | nil => rfl
  | cons c calls ih =>
      rw [List.foldl_cons, List.foldl_cons, ih, settings_call]

/-- What the library answers is read off the settings. -/
structure Reported (r : Rtc) (s : Settings) : Prop where
  settings : r.settings = s
  isOutput : r.isOutput = s.control.output
  getOutput : r.getOutput = s.control.rate
  is32kHz : r.is32kHz = s.status.wave32kHz
  isArmed1 : r.isArmed1 = s.control.armed1
  isArmed2 : r.isArmed2 = s.control.armed2
  isAlarm1 : ∀ clear, (r.isAlarm1 clear).1 = s.status.alarm1
  isAlarm2 : ∀ clear, (r.isAlarm2 clear).1 = s.status.alarm2

theorem reported_settings (r : Rtc) : Reported r r.settings :=
  ⟨rfl, rfl, rfl, rfl, rfl, rfl, fun _ => rfl, fun _ => rfl⟩

/-- After any sequence of calls and matches, from any registers, the chip is set
as the calls one after the other are meant to set it, and the library answers
accordingly. -/
theorem settings_calls (calls : List ChipCall) (r : Rtc) :
    Reported (calls.foldl (fun r c => c.apply r) r)
      (calls.foldl (fun s c => c.meaning s) r.settings) := by
  rw [← settings_run]
  exact reported_settings _

/-! ## Alarm times -/

/-- A time an alarm can be set to; `dydw` is a day of the month or of the week. -/
structure AlarmAt where
  dydw : UInt8
  hour : UInt8
  minute : UInt8
  second : UInt8
  dydw_lt : dydw < 32
  hour_lt : hour < 24
  minute_lt : minute < 60
  second_lt : second < 60

/-- A byte that takes part in the match. -/
def matched (v : UInt8) : UInt8 := dec2bcd v &&& 0b01111111

/-- A byte that does not. -/
def ignored (v : UInt8) : UInt8 := dec2bcd v ||| 0b10000000

/-- A day of the week. -/
def weekly (v : UInt8) : UInt8 := matched v ||| 0b01000000

/-- What `getAlarm1` makes of a byte. -/
theorem time_readback {v : UInt8} (h : v < 60) :
    bcd2dec (matched v &&& 0b01111111) = v ∧ bcd2dec (ignored v &&& 0b01111111) = v := by
  have hall : ∀ v : UInt8, v < 60 →
      bcd2dec (matched v &&& 0b01111111) = v ∧ bcd2dec (ignored v &&& 0b01111111) = v :=
    forall_byte (by decide +kernel)
  exact hall v h

theorem weekly_readback {v : UInt8} (h : v < 32) :
    bcd2dec (weekly v &&& 0b01111111) = v + 40 := by
  have hall : ∀ v : UInt8, v < 32 → bcd2dec (weekly v &&& 0b01111111) = v + 40 :=
    forall_byte (by decide +kernel)
  exact hall v h

/-- The bit `getAlarmType1` looks at in each byte, after the conversion. -/
theorem ignored_bit {v : UInt8} (h : v < 60) :
    bcd2dec (matched v) &&& 0b01000000 = 0 ∧
      bcd2dec (ignored v) &&& 0b01000000 = if v < 48 then 0b01000000 else 0 := by
  have hall : ∀ v : UInt8, v < 60 → bcd2dec (matched v) &&& 0b01000000 = 0 ∧
      bcd2dec (ignored v) &&& 0b01000000 = if v < 48 then 0b01000000 else 0 :=
    forall_byte (by decide +kernel)
  exact hall v h

/-- The bit it takes for that of a day of the week. -/
theorem day_bit {v : UInt8} (h : v < 32) :
    bcd2dec (matched v) &&& 0b00100000 = 0 ∧
      bcd2dec (ignored v) &&& 0b00100000 = (if v < 16 then 0 else 0b00100000) ∧
      bcd2dec (weekly v) &&& 0b00100000 = (if v < 24 then 0b00100000 else 0) ∧
      bcd2dec (weekly v) &&& 0b01000000 = (if v < 24 then 0 else 0b01000000) := by
  have hall : ∀ v : UInt8, v < 32 → bcd2dec (matched v) &&& 0b00100000 = 0 ∧
      bcd2dec (ignored v) &&& 0b00100000 = (if v < 16 then 0 else 0b00100000) ∧
      bcd2dec (weekly v) &&& 0b00100000 = (if v < 24 then 0b00100000 else 0) ∧
      bcd2dec (weekly v) &&& 0b01000000 = (if v < 24 then 0 else 0b01000000) :=
    forall_byte (by decide +kernel)
  exact hall v h

/-- The times whose kind of match is read back right. -/
def Legible (a : AlarmAt) : Alarm1Mode → Prop
  | .everySecond => a.second < 48 ∧ a.minute < 48 ∧ a.dydw < 16
  | .matchS => a.minute < 48 ∧ a.dydw < 16
  | .matchMS => a.dydw < 16
  | .matchHMS => a.dydw < 16
  | .matchDtHMS => True
  | .matchDyHMS => a.dydw < 24

/-- The chip after `setAlarm1`. -/
def AlarmAt.set1 (a : AlarmAt) (mode : Alarm1Mode) (armed : Bool) (r : Rtc) : Rtc :=
  r.setAlarm1 a.dydw a.hour a.minute a.second mode armed

/-- `getAlarm1` on the four bytes of alarm 1. -/
theorem getAlarm1_of {r : Rtc} {s m h d : UInt8} (hbytes : r.settings.time1 = [s, m, h, d]) :
    r.getAlarm1 =
      ⟨bcd2dec (d &&& 0b01111111), bcd2dec (h &&& 0b01111111), bcd2dec (m &&& 0b01111111),
        bcd2dec (s &&& 0b01111111)⟩ := by
  have hregs : [r.regs 7, r.regs 8, r.regs 9, r.regs 10] = [s, m, h, d] := hbytes
  simp only [List.cons.injEq, and_true] at hregs
  obtain ⟨rfl, rfl, rfl, rfl⟩ := hregs
  rfl

/-- `getAlarmType1` on the four bytes of alarm 1. -/
def typeBits (s m h d : UInt8) : UInt8 :=
  ((bcd2dec s &&& 0b01000000) >>> 6) ||| ((bcd2dec m &&& 0b01000000) >>> 5) |||
    ((bcd2dec h &&& 0b01000000) >>> 4) ||| ((bcd2dec d &&& 0b01000000) >>> 3) |||
    ((bcd2dec d &&& 0b00100000) >>> 1)

theorem getAlarmType1_of {r : Rtc} {s m h d : UInt8}
    (hbytes : r.settings.time1 = [s, m, h, d]) : r.getAlarmType1 = typeBits s m h d := by
  have hregs : [r.regs 7, r.regs 8, r.regs 9, r.regs 10] = [s, m, h, d] := hbytes
  simp only [List.cons.injEq, and_true] at hregs
  obtain ⟨rfl, rfl, rfl, rfl⟩ := hregs
  rfl

/-- The four bytes as `setAlarm1` leaves them. -/
theorem time1_set (a : AlarmAt) (mode : Alarm1Mode) (armed : Bool) (r : Rtc) :
    (a.set1 mode armed r).settings.time1 =
      match mode with
      | .everySecond => [ignored a.second, ignored a.minute, ignored a.hour, ignored a.dydw]
      | .matchS => [matched a.second, ignored a.minute, ignored a.hour, ignored a.dydw]
      | .matchMS => [matched a.second, matched a.minute, ignored a.hour, ignored a.dydw]
      | .matchHMS => [matched a.second, matched a.minute, matched a.hour, ignored a.dydw]
      | .matchDtHMS => [matched a.second, matched a.minute, matched a.hour, matched a.dydw]
      | .matchDyHMS => [matched a.second, matched a.minute, matched a.hour, weekly a.dydw] := by
  have hset := settings_call (.setAlarm1 a.dydw a.hour a.minute a.second mode armed) r
  cases mode <;> exact congrArg Settings.time1 hset

theorem getAlarm1_set (a : AlarmAt) (mode : Alarm1Mode) (armed : Bool) (r : Rtc) :
    (a.set1 mode armed r).getAlarm1 =
      { day := if mode = .matchDyHMS then a.dydw + 40 else a.dydw
        hour := a.hour
        minute := a.minute
        second := a.second } := by
  have hday : a.dydw < 60 := UInt8.lt_trans a.dydw_lt (by decide)
  have hhour : a.hour < 60 := UInt8.lt_trans a.hour_lt (by decide)
  have htime := time1_set a mode armed r
  cases mode <;>
    rw [getAlarm1_of htime] <;>
    simp [time_readback hday, time_readback hhour, time_readback a.minute_lt,
      time_readback a.second_lt, weekly_readback a.dydw_lt]

/-- The kind of match comes back right exactly for the times of `Legible`. -/
theorem getAlarmType1_set (a : AlarmAt) (mode : Alarm1Mode) (armed : Bool) (r : Rtc) :
    (a.set1 mode armed r).getAlarmType1 = mode.code ↔ Legible a mode := by
  have hday : a.dydw < 60 := UInt8.lt_trans a.dydw_lt (by decide)
  have hhour : a.hour < 60 := UInt8.lt_trans a.hour_lt (by decide)
  have hearly : a.hour < 48 := UInt8.lt_trans a.hour_lt (by decide)
  have hshort : a.dydw < 48 := UInt8.lt_trans a.dydw_lt (by decide)
  obtain ⟨hsm, hsi⟩ := ignored_bit a.second_lt
  obtain ⟨hmm, hmi⟩ := ignored_bit a.minute_lt
  obtain ⟨hhm, hhi⟩ := ignored_bit hhour
  obtain ⟨hdm, hdi⟩ := ignored_bit hday
  obtain ⟨hbm, hbi, hbw, hdw⟩ := day_bit a.dydw_lt
  rw [if_pos hearly] at hhi
  rw [if_pos hshort] at hdi
  have htime := time1_set a mode armed r
  cases mode with
  | everySecond =>
      rw [getAlarmType1_of htime]
      unfold typeBits
      rw [hsi, hmi, hhi, hdi, hbi]
      by_cases hs : a.second < 48 <;> by_cases hm : a.minute < 48 <;>
        by_cases hd : a.dydw < 16 <;>
        simp only [Legible, hs, hm, hd, if_true, if_false, and_true, and_false] <;>
        decide
  | matchS =>
      rw [getAlarmType1_of htime]
      unfold typeBits
      rw [hsm, hmi, hhi, hdi, hbi]
      by_cases hm : a.minute < 48 <;> by_cases hd : a.dydw < 16 <;>
        simp only [Legible, hm, hd, if_true, if_false, and_true, and_false] <;>
        decide
  | matchMS =>
      rw [getAlarmType1_of htime]
      unfold typeBits
      rw [hsm, hmm, hhi, hdi, hbi]
      by_cases hd : a.dydw < 16 <;> simp only [Legible, hd, if_true, if_false] <;> decide
  | matchHMS =>
      rw [getAlarmType1_of htime]
      unfold typeBits
      rw [hsm, hmm, hhm, hdi, hbi]
      by_cases hd : a.dydw < 16 <;> simp only [Legible, hd, if_true, if_false] <;> decide
  | matchDtHMS =>
      rw [getAlarmType1_of htime]
      unfold typeBits
      rw [hsm, hmm, hhm, hdm, hbm]
      simp only [Legible]
      decide
  | matchDyHMS =>
      rw [getAlarmType1_of htime]
      unfold typeBits
      rw [hsm, hmm, hhm, hdw, hbw]
      by_cases hd : a.dydw < 24 <;> simp only [Legible, hd, if_true, if_false] <;> decide

/-! ## Alarm 2 is alarm 1 on a full minute -/

/-- The kind of match of alarm 1 that alarm 2 amounts to. -/
def withSeconds : Alarm2Mode → Alarm1Mode
  | .everyMinute => .matchS
  | .matchM => .matchMS
  | .matchHM => .matchHMS
  | .matchDtHM => .matchDtHMS
  | .matchDyHM => .matchDyHMS

theorem withSeconds_code (mode : Alarm2Mode) : (withSeconds mode).code = mode.code := by
  cases mode <;> rfl

/-- The same time, on the full minute. -/
def AlarmAt.onMinute (a : AlarmAt) : AlarmAt :=
  { a with second := 0, second_lt := by decide }

/-- The chip after `setAlarm2`. -/
def AlarmAt.set2 (a : AlarmAt) (mode : Alarm2Mode) (armed : Bool) (r : Rtc) : Rtc :=
  r.setAlarm2 a.dydw a.hour a.minute mode armed

theorem time2_set (a : AlarmAt) (mode : Alarm2Mode) (armed : Bool) (r : Rtc) :
    (a.onMinute.set1 (withSeconds mode) armed r).settings.time1 =
      0 :: (a.set2 mode armed r).settings.time2 := by
  have hset := settings_call (.setAlarm2 a.dydw a.hour a.minute mode armed) r
  have htime : (a.set2 mode armed r).settings.time2 =
      alarm2Bytes a.dydw a.hour a.minute mode := congrArg Settings.time2 hset
  have hzero : matched 0 = 0 := by decide
  rw [time1_set, htime]
  cases mode <;> exact congrArg (· :: _) hzero

/-- Alarm 2 is read back as alarm 1 would be. -/
theorem alarm2_twin {r r' : Rtc} (h : r'.settings.time1 = 0 :: r.settings.time2) :
    r.getAlarm2 = r'.getAlarm1 ∧ r.getAlarmType2 = r'.getAlarmType1 := by
  have htime : r'.settings.time1 = [0, r.regs 11, r.regs 12, r.regs 13] := h
  have hzero : ((bcd2dec 0 &&& 0b01000000) >>> 6 : UInt8) = 0 := by decide
  constructor
  · rw [getAlarm1_of htime]
    rfl
  · rw [getAlarmType1_of htime]
    unfold typeBits
    rw [hzero, UInt8.zero_or]
    rfl

/-- Alarm times are read back as they were set, but for days of the week, and
the kind of match exactly for the times of `Legible`. -/
structure ReadBack (a : AlarmAt) (armed : Bool) (r : Rtc) : Prop where
  time1 : ∀ mode, (a.set1 mode armed r).getAlarm1 =
    { day := if mode = .matchDyHMS then a.dydw + 40 else a.dydw
      hour := a.hour
      minute := a.minute
      second := a.second }
  type1 : ∀ mode, (a.set1 mode armed r).getAlarmType1 = mode.code ↔ Legible a mode
  time2 : ∀ mode, (a.set2 mode armed r).getAlarm2 =
    { day := if mode = .matchDyHM then a.dydw + 40 else a.dydw
      hour := a.hour
      minute := a.minute
      second := 0 }
  type2 : ∀ mode, (a.set2 mode armed r).getAlarmType2 = mode.code ↔
    Legible a.onMinute (withSeconds mode)

theorem alarms_readback (a : AlarmAt) (armed : Bool) (r : Rtc) : ReadBack a armed r where
  time1 := fun mode => getAlarm1_set a mode armed r
  type1 := fun mode => getAlarmType1_set a mode armed r
  time2 := by
    intro mode
    rw [(alarm2_twin (time2_set a mode armed r)).1, getAlarm1_set]
    cases mode <;> rfl
  type2 := by
    intro mode
    rw [(alarm2_twin (time2_set a mode armed r)).2, ← withSeconds_code]
    exact getAlarmType1_set a.onMinute (withSeconds mode) armed r

end SprinklersAlarmClock
