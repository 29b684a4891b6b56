import SprinklersAlarmClock.Firmware.DS3231

/-!
# The rest of the DS3231 library

The member functions of `DS3231.cpp` that the sketch does not reach, and those
it does once more, as functions on the registers of the chip: one transaction
after the other, the chip's clock standing still and its alarms not matching in
between.  `Firmware.DS3231` is the library as the sketch runs it.

The texts of `dateFormat`, `readTemperature` (floating point) and
`forceConversion` (a wait for the chip) are left out.
-/

namespace SprinklersAlarmClock

/-- `RTCAlarmTime` of `DS3231.h`. -/
structure RTCAlarmTime where
  day : UInt8
  hour : UInt8
  minute : UInt8
  second : UInt8
  deriving DecidableEq, Repr

/-- `DS3231_REG_TIME` and `DS3231_REG_ALARM_1`. -/
def regTime : UInt8 := 0x00
def regAlarm1 : UInt8 := 0x07

namespace DS3231

/-- `DS3231_alarm1_t`. -/
inductive Alarm1Mode where
  | everySecond
  | matchS
  | matchMS
  | matchHMS
  | matchDtHMS
  | matchDyHMS
  deriving DecidableEq, Repr

/-- The numbers of the enumeration, in the order A1M1 to DY/DT. -/
def Alarm1Mode.code : Alarm1Mode → UInt8
  | .everySecond => 0b00001111
  | .matchS => 0b00001110
  | .matchMS => 0b00001100
  | .matchHMS => 0b00001000
  | .matchDtHMS => 0b00000000
  | .matchDyHMS => 0b00010000

/-- The same for alarm 2, which has no seconds. -/
def Alarm2Mode.code : Alarm2Mode → UInt8
  | .everyMinute => 0b00001110
  | .matchM => 0b00001100
  | .matchHM => 0b00001000
  | .matchDtHM => 0b00000000
  | .matchDyHM => 0b00010000

/-- `DS3231_sqw_t`. -/
inductive SqwMode where
  | hz1
  | hz4096
  | hz8192
  | hz32768
  deriving DecidableEq, Repr

/-- The two bits RS2 and RS1. -/
def SqwMode.code : SqwMode → UInt8
  | .hz1 => 0x00
  | .hz4096 => 0x01
  | .hz8192 => 0x02
  | .hz32768 => 0x03

/-! ## Calendar arithmetic -/

/-- `dowArray`, the offsets of the months in `dow`. -/
def dowArray : List UInt8 := [0, 3, 2, 5, 0, 3, 5, 1, 4, 6, 2, 4]

/-- `dow(y, m, d)`; the sum is taken in `int`. -/
def dow (y : UInt16) (m d : UInt8) : UInt8 :=
  let y := (if m < 3 then y - 1 else y).toNat
  let dow := (y + y / 4 - y / 100 + y / 400 + (dowArray.getD (m.toNat - 1) 0).toNat +
    d.toNat) % 7
  if dow = 0 then 7 else .ofNat dow

/-- `conv2d(p)` on the two characters at `p`. -/
def conv2d (c d : Char) : UInt8 :=
  let v : UInt8 := if '0' ≤ c ∧ c ≤ '9' then .ofNat (c.toNat - '0'.toNat) else 0
  10 * v + .ofNat d.toNat - .ofNat '0'.toNat

/-! ## Bytes of the time registers -/

/-- What `setDateTime` writes from `DS3231_REG_TIME` on.  The last byte is meant
as a register address; on the bus it is one more datum. -/
def dateTimeBytes (year : UInt16) (month day hour minute second : UInt8) : List UInt8 :=
  [ dec2bcd second, dec2bcd minute, dec2bcd hour, dec2bcd (dow year month day), dec2bcd day
  , dec2bcd month, dec2bcd (year - 2000).toUInt8, regTime ]

/-- `for (year = 0; ; ++year)` of `setDateTime(uint32_t)`. -/
def epochYear (days year : Nat) : Nat × Nat :=
  if days < 365 + (if year % 4 = 0 then 1 else 0) then (year, days)
  else epochYear (days - (365 + if year % 4 = 0 then 1 else 0)) (year + 1)
termination_by days
decreasing_by omega

/-- `daysPerMonth` in the loop over the months. -/
def epochMonthDays (leap : Bool) (month : Nat) : Nat :=
  (daysArray.getD (month - 1) 0).toNat + if leap && month == 2 then 1 else 0

/-- `for (month = 1; ; ++month)` of `setDateTime(uint32_t)`; a year leaves no
days for a thirteenth. -/
def epochMonth (leap : Bool) (days month : Nat) : Nat × Nat :=
  if days < epochMonthDays leap month ∨ 12 ≤ month then (month, days)
  else epochMonth leap (days - epochMonthDays leap month) (month + 1)
termination_by 12 - month
decreasing_by omega

/-- The alarm-1 bytes `setAlarm1` writes, seconds first. -/
def alarm1Bytes (dydw hour minute second : UInt8) (mode : Alarm1Mode) : List UInt8 :=
  let second := dec2bcd second
  let minute := dec2bcd minute
  let hour := dec2bcd hour
  let dydw := dec2bcd dydw
  match mode with
  | .everySecond =>
      [second ||| 0b10000000, minute ||| 0b10000000, hour ||| 0b10000000,
        dydw ||| 0b10000000]
  | .matchS =>
      [second &&& 0b01111111, minute ||| 0b10000000, hour ||| 0b10000000,
        dydw ||| 0b10000000]
  | .matchMS =>
      [second &&& 0b01111111, minute &&& 0b01111111, hour ||| 0b10000000,
        dydw ||| 0b10000000]
  | .matchHMS =>
      [second &&& 0b01111111, minute &&& 0b01111111, hour &&& 0b01111111,
        dydw ||| 0b10000000]
  | .matchDtHMS =>
      [second &&& 0b01111111, minute &&& 0b01111111, hour &&& 0b01111111,
        dydw &&& 0b01111111]
  | .matchDyHMS =>
      [second &&& 0b01111111, minute &&& 0b01111111, hour &&& 0b01111111,
        dydw &&& 0b01111111 ||| 0b01000000]

end DS3231

/-! ## Member functions -/

namespace Rtc

open DS3231

/-- A burst write leaves the registers it does not reach. -/
theorem storeAll_other {a : UInt8} (values : List UInt8) (r : Rtc) {reg : UInt8}
    (h : ∀ i < values.length, a ≠ reg + .ofNat i) :
    (r.storeAll reg values).regs a = r.regs a := by
  induction values generalizing r reg with
  | nil => rfl
  | cons v rest ih =>
      have hhere : a ≠ reg := by
        have h0 := h 0 (by simp)
        simpa using h0
      have hrest : ∀ i < rest.length, a ≠ reg + 1 + .ofNat i := by
        intro i hi
        have hi' := h (i + 1) (by simpa using hi)
        rw [UInt8.ofNat_add, UInt8.add_comm (.ofNat i), ← UInt8.add_assoc] at hi'
        exact hi'
      have hstep := ih (r.store reg v) hrest
      rw [storeAll, hstep]
      exact Function.update_of_ne hhere _ _

/-- The chip matches alarm 1. -/
def matchAlarm1 (r : Rtc) : Rtc :=
  { r with regs := Function.update r.regs regStatus (r.regs regStatus ||| 0b00000001) }

/-- `writeRegister8(reg, value)`. -/
def writeRegister8 (reg value : UInt8) (r : Rtc) : Rtc := r.storeAll reg [value]

/-- A C++ `bool` as an integer. -/
def ofBool (b : Bool) : UInt8 := if b then 1 else 0

/-- `setDateTime(year, month, day, hour, minute, second)`. -/
def setDateTime (year : UInt16) (month day hour minute second : UInt8) (r : Rtc) : Rtc :=
  r.storeAll regTime (dateTimeBytes year month day hour minute second)

/-- `setDateTime(uint32_t)`. -/
def setDateTimeEpoch (t : UInt32) (r : Rtc) : Rtc :=
  let t := (t - 946681200).toNat
  let second := t % 60
  let t := t / 60
  let minute := t % 60
  let t := t / 60
  let hour := t % 24
  let (year, days) := epochYear (t / 24) 0
  let (month, days) := epochMonth (year % 4 == 0) days 1
  r.setDateTime (.ofNat (year + 2000)) (.ofNat month) (.ofNat (days + 1)) (.ofNat hour)
    (.ofNat minute) (.ofNat second)

/-- The `switch` of `setDateTime(const char*, const char*)` on the first three
characters of `date`; no case leaves `month` unset. -/
def monthOfName (c₀ c₁ c₂ : Char) : Option UInt8 :=
  if c₀ = 'J' then some (if c₁ = 'a' then 1 else if c₂ = 'n' then 6 else 7)
  else if c₀ = 'F' then some 2
  else if c₀ = 'A' then some (if c₂ = 'r' then 4 else 8)
  else if c₀ = 'M' then some (if c₂ = 'r' then 3 else 5)
  else if c₀ = 'S' then some 9
  else if c₀ = 'O' then some 10
  else if c₀ = 'N' then some 11
  else if c₀ = 'D' then some 12
  else none

/-- `setDateTime(__DATE__, __TIME__)`. -/
def setDateTimeText (date time : List Char) (r : Rtc) : Option Rtc :=
  let at₀ (s : List Char) (i : Nat) : Char := s.getD i '\x00'
  let year := conv2d (at₀ date 9) (at₀ date 10)
  (monthOfName (at₀ date 0) (at₀ date 1) (at₀ date 2)).map fun month =>
    r.setDateTime (year.toUInt16 + 2000) month (conv2d (at₀ date 4) (at₀ date 5))
      (conv2d (at₀ time 0) (at₀ time 1)) (conv2d (at₀ time 3) (at₀ time 4))
      (conv2d (at₀ time 6) (at₀ time 7))

/-- `getDateTime()`. -/
def getDateTime (r : Rtc) : RTCDateTime :=
  decodeDateTime ⟨r.regs 0, r.regs 1, r.regs 2, r.regs 3, r.regs 4, r.regs 5, r.regs 6⟩

/-- `enableOutput(enabled)`; the bit says that interrupts have the pin. -/
def enableOutput (enabled : Bool) (r : Rtc) : Rtc :=
  r.writeRegister8 regControl
    ((r.regs regControl &&& 0b11111011 : UInt8) ||| ofBool (!enabled) <<< 2)

/-- `setBattery(timeBattery, squareBattery)`.  The mask for the oscillator also
clears bit 2, and that is `enableOutput(true)`. -/
def setBattery (timeBattery squareBattery : Bool) (r : Rtc) : Rtc :=
  let value := r.regs regControl
  let value := if squareBattery then value ||| 0b01000000 else value &&& 0b10111111
  let value := if timeBattery then value &&& 0b01111011 else value ||| 0b10000000
  r.writeRegister8 regControl value

/-- `isOutput()`. -/
def isOutput (r : Rtc) : Bool := (r.regs regControl &&& 0b00000100) >>> 2 == 0

/-- `setOutput(mode)`. -/
def setOutput (mode : SqwMode) (r : Rtc) : Rtc :=
  r.writeRegister8 regControl
    ((r.regs regControl &&& 0b11100111 : UInt8) ||| mode.code <<< 3)

/-- `getOutput()`. -/
def getOutput (r : Rtc) : UInt8 := (r.regs regControl &&& 0b00011000) >>> 3

/-- `enable32kHz(enabled)`. -/
def enable32kHz (enabled : Bool) (r : Rtc) : Rtc :=
  r.writeRegister8 regStatus
    ((r.regs regStatus &&& 0b11110111 : UInt8) ||| ofBool enabled <<< 3)

/-- `is32kHz()`. -/
def is32kHz (r : Rtc) : Bool := (r.regs regStatus &&& 0b00001000) >>> 3 != 0

/-- `getAlarm1()`; the top bit of each byte is dropped. -/
def getAlarm1 (r : Rtc) : RTCAlarmTime where
  day := bcd2dec (r.regs (regAlarm1 + 3) &&& 0b01111111)
  hour := bcd2dec (r.regs (regAlarm1 + 2) &&& 0b01111111)
  minute := bcd2dec (r.regs (regAlarm1 + 1) &&& 0b01111111)
  second := bcd2dec (r.regs regAlarm1 &&& 0b01111111)

/-- `getAlarmType1()`, which looks for the mask bits after the conversion from
BCD. -/
def getAlarmType1 (r : Rtc) : UInt8 :=
  let value (i : UInt8) := bcd2dec (r.regs (regAlarm1 + 3 - i))
  ((value 3 &&& 0b01000000) >>> 6) ||| ((value 2 &&& 0b01000000) >>> 5) |||
    ((value 1 &&& 0b01000000) >>> 4) ||| ((value 0 &&& 0b01000000) >>> 3) |||
    ((value 0 &&& 0b00100000) >>> 1)

/-- `armAlarm1(armed)`. -/
def armAlarm1 (armed : Bool) (r : Rtc) : Rtc :=
  r.writeRegister8 regControl
    (if armed then r.regs regControl ||| 0b00000001 else r.regs regControl &&& 0b11111110)

/-- `isArmed1()`. -/
def isArmed1 (r : Rtc) : Bool := r.regs regControl &&& 0b00000001 != 0

/-- `clearAlarm1()`. -/
def clearAlarm1 (r : Rtc) : Rtc :=
  r.writeRegister8 regStatus (r.regs regStatus &&& 0b11111110)

/-- `setAlarm1(dydw, hour, minute, second, mode, armed)`. -/
def setAlarm1 (dydw hour minute second : UInt8) (mode : Alarm1Mode) (armed : Bool) (r : Rtc) :
    Rtc :=
  ((r.storeAll regAlarm1 (alarm1Bytes dydw hour minute second mode)).armAlarm1
    armed).clearAlarm1

/-- `isAlarm1(clear)`: the answer and the chip afterwards. -/
def isAlarm1 (clear : Bool) (r : Rtc) : Bool × Rtc :=
  let alarm := r.regs regStatus &&& 0b00000001 != 0
  (alarm, if alarm && clear then r.clearAlarm1 else r)

/-- `getAlarm2()`. -/
def getAlarm2 (r : Rtc) : RTCAlarmTime where
  day := bcd2dec (r.regs (regAlarm2 + 2) &&& 0b01111111)
  hour := bcd2dec (r.regs (regAlarm2 + 1) &&& 0b01111111)
  minute := bcd2dec (r.regs regAlarm2 &&& 0b01111111)
  second := 0

/-- `getAlarmType2()`. -/
def getAlarmType2 (r : Rtc) : UInt8 :=
  let value (i : UInt8) := bcd2dec (r.regs (regAlarm2 + 2 - i))
  ((value 2 &&& 0b01000000) >>> 5) ||| ((value 1 &&& 0b01000000) >>> 4) |||
    ((value 0 &&& 0b01000000) >>> 3) ||| ((value 0 &&& 0b00100000) >>> 1)

/-- `armAlarm2(armed)`. -/
def armAlarm2 (armed : Bool) (r : Rtc) : Rtc :=
  r.writeRegister8 regControl
    (if armed then r.regs regControl ||| 0b00000010 else r.regs regControl &&& 0b11111101)

/-- `isArmed2()`. -/
def isArmed2 (r : Rtc) : Bool := (r.regs regControl &&& 0b00000010) >>> 1 != 0

/-- `clearAlarm2()`. -/
def clearAlarm2 (r : Rtc) : Rtc :=
  r.writeRegister8 regStatus (r.regs regStatus &&& 0b11111101)

/-- `setAlarm2(dydw, hour, minute, mode, armed)`. -/
def setAlarm2 (dydw hour minute : UInt8) (mode : Alarm2Mode) (armed : Bool) (r : Rtc) : Rtc :=
  ((r.storeAll regAlarm2 (alarm2Bytes dydw hour minute mode)).armAlarm2 armed).clearAlarm2

/-- `isAlarm2(clear)`: the answer and the chip afterwards. -/
def isAlarm2 (clear : Bool) (r : Rtc) : Bool × Rtc :=
  let alarm := r.regs regStatus &&& 0b00000010 != 0
  (alarm, if alarm && clear then r.clearAlarm2 else r)

end Rtc

end SprinklersAlarmClock
