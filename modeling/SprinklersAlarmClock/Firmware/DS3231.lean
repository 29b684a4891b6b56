import SprinklersAlarmClock.Firmware.Board

/-!
# The DS3231 library

The member functions of `DS3231.cpp` that the sketch reaches.  Each public one
is bracketed by the program points `enterDS3231` and `leaveDS3231`.  Pointing
the chip at a register and reading it back is one operation here: the chip may
set its alarm flag before it, which is also what a match between the two halves
amounts to.  The busy wait on `Wire.available()` is part of that operation.
-/

namespace SprinklersAlarmClock.DS3231

/-- `DS3231_alarm2_t`. -/
inductive Alarm2Mode where
  | everyMinute
  | matchM
  | matchHM
  | matchDtHM
  | matchDyHM
  deriving DecidableEq, Repr

/-! ## Arithmetic helpers -/

/-- `bcd2dec(bcd)`, in eight bits. -/
def bcd2dec (bcd : UInt8) : UInt8 := bcd / 16 * 10 + bcd % 16

/-- `dec2bcd(dec)`, in eight bits. -/
def dec2bcd (dec : UInt8) : UInt8 := dec / 10 * 16 + dec % 10

/-- Month lengths of a common year. -/
def daysArray : List UInt8 := [31, 28, 31, 30, 31, 30, 31, 31, 30, 31, 30, 31]

/-- `isLeapYear(year)`: every fourth year. -/
def isLeapYear (year : UInt16) : Bool := year % 4 == 0

/-- The loop of `date2days` over the months before `month`.  The table ends
with month 12; from month 14 on the code reads past its end, and the bytes there
count for nothing here. -/
def daysBefore (month : Nat) : UInt16 :=
  ((daysArray.take (month - 1)).map UInt8.toUInt16).foldl (· + ·) 0

/-- The last sum is one of `int`, cut to 16 bits by the return. -/
def date2days (year : UInt16) (month day : UInt8) : UInt16 :=
  let year := year - 2000
  let days16 := day.toUInt16 + daysBefore month.toNat
  let days16 := if month = 2 && isLeapYear year then days16 + 1 else days16
  UInt16.ofNat (days16.toNat + 365 * year.toNat + (year.toNat + 3) / 4) - 1

/-- `time2long` in the 32-bit `long` of the target. -/
def time2long (days : UInt16) (hours minutes seconds : UInt8) : UInt32 :=
  ((days.toUInt32 * 24 + hours.toUInt32) * 60 + minutes.toUInt32) * 60 +
    seconds.toUInt32

/-- `unixtime()`, from 2000 on. -/
def unixtime (t : RTCDateTime) : UInt32 :=
  time2long (date2days t.year t.month t.day) t.hour t.minute t.second + 946681200

/-- `getDateTime` after the burst read: `values[6 - i]` is the `i`-th byte. -/
def decodeDateTime (r : TimeRegs) : RTCDateTime :=
  let t : RTCDateTime :=
    { year := (bcd2dec r.year).toUInt16 + 2000
      month := bcd2dec r.month
      day := bcd2dec r.day
      hour := bcd2dec r.hour
      minute := bcd2dec r.minute
      second := bcd2dec r.second
      dayOfWeek := bcd2dec r.dow
      unixtime := 0 }
  { t with unixtime := unixtime t }

/-- The three alarm-2 bytes `setAlarm2` writes, minutes first. -/
def alarm2Bytes (dydw hour minute : UInt8) (mode : Alarm2Mode) : List UInt8 :=
  let minute := dec2bcd minute
  let hour := dec2bcd hour
  let dydw := dec2bcd dydw
  match mode with
  | .everyMinute =>
      [minute ||| 0b10000000, hour ||| 0b10000000, dydw ||| 0b10000000]
  | .matchM =>
      [minute &&& 0b01111111, hour ||| 0b10000000, dydw ||| 0b10000000]
  | .matchHM =>
      [minute &&& 0b01111111, hour &&& 0b01111111, dydw ||| 0b10000000]
  | .matchDtHM =>
      [minute &&& 0b01111111, hour &&& 0b01111111, dydw &&& 0b01111111]
  | .matchDyHM =>
      [minute &&& 0b01111111, hour &&& 0b01111111,
        dydw &&& 0b01111111 ||| 0b01000000]

/-! ## Bus transactions -/

/-- The burst read of the seven time registers. -/
def readTimeRegs : Sketch TimeRegs := ask (fun env i _ => env.clock i) .readTime

/-- `readRegister8(reg)`. -/
def readRegister8 (reg : UInt8) : Sketch UInt8 :=
  ask (fun _ _ w => w.rtc.regs reg) (.readRegister reg)

/-- One write transmission: a register address and bytes. -/
def writeBurst (reg : UInt8) (values : List UInt8) : Sketch Unit :=
  .op fun env w =>
    let w' := w.pass env (env.elapse w.tick)
    ((), { w' with rtc := w'.rtc.storeAll reg values }.record
      (.writeRegisters reg values w'.rtc.a2f))

/-- `writeRegister8(reg, value)`. -/
def writeRegister8 (reg value : UInt8) : Sketch Unit := writeBurst reg [value]

/-! ## Member functions -/

/-- Bracket a member function. -/
def member {α : Type} (c : Sketch α) : Sketch α := do
  mark .enterDS3231
  let a ← c
  mark .leaveDS3231
  return a

/-- `setBattery(timeBattery, squareBattery)`. -/
def setBattery (timeBattery squareBattery : Bool) : Sketch Unit := do
  let value ← readRegister8 regControl
  let value := if squareBattery then value ||| 0b01000000 else value &&& 0b10111111
  let value := if timeBattery then value &&& 0b01111011 else value ||| 0b10000000
  writeRegister8 regControl value

/-- `begin` also presets the private field `t`, which nothing reads before
`getDateTime` overwrites it. -/
def begin : Sketch Unit := member do
  act .wireBegin
  setBattery true false

/-- `getDateTime()`. -/
def getDateTime : Sketch RTCDateTime := member do
  let r ← readTimeRegs
  return decodeDateTime r

/-- `clearAlarm2()`: the status register is read, and written back without A2F.
-/
def clearAlarm2 : Sketch Unit := do
  let value ← readRegister8 regStatus
  writeRegister8 regStatus (value &&& 0b11111101)

/-- `armAlarm2(armed)`. -/
def armAlarm2 (armed : Bool) : Sketch Unit := do
  let value ← readRegister8 regControl
  writeRegister8 regControl
    (if armed then value ||| 0b00000010 else value &&& 0b11111101)

/-- `setAlarm2(dydw, hour, minute, mode, armed)`. -/
def setAlarm2 (dydw hour minute : UInt8) (mode : Alarm2Mode) (armed : Bool) :
    Sketch Unit := member do
  mark (.setAlarm2 dydw hour minute)
  writeBurst regAlarm2 (alarm2Bytes dydw hour minute mode)
  armAlarm2 armed
  clearAlarm2

/-- `isAlarm2(clear)`. -/
def isAlarm2 (clear : Bool) : Sketch Bool := member do
  let status ← readRegister8 regStatus
  let alarm := status &&& 0b00000010 != 0
  if alarm && clear then
    clearAlarm2
    return alarm
  else
    return alarm

end SprinklersAlarmClock.DS3231
