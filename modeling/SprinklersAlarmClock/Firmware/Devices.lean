import SprinklersAlarmClock.Firmware.DS3231

/-!
# `TimeSystemData`, `AlarmDisplay` and `SP_IOStream`

The three small classes between the libraries and the sketch.
-/

namespace SprinklersAlarmClock

open Logic

/-! ## `TimeSystemData` -/

namespace TimeSystemData

/-- `__checkTimeFormat`: one carry out of the minutes, one out of the hours. -/
def checkTimeFormat (data : RTCDateTime) : RTCDateTime :=
  let data :=
    if data.minute ≥ 60 then
      { data with hour := data.hour + 1, minute := data.minute - 60 }
    else data
  if data.hour ≥ 24 then
    { data with day := data.day + 1, hour := data.hour - 24 }
  else data

/-- `addHour()`. -/
def addHour (data : RTCDateTime) : RTCDateTime :=
  checkTimeFormat { data with hour := data.hour + 1 }

/-- `addMinute()`. -/
def addMinute (data : RTCDateTime) : RTCDateTime :=
  checkTimeFormat { data with minute := data.minute + 1 }

/-- `date.updatedData()`. -/
def updatedData : Sketch Unit := do
  let t ← DS3231.getDateTime
  assign fun v => { v with date := t }
  mark (.updatedData t)

end TimeSystemData

/-! ## `AlarmDisplay` -/

namespace AlarmDisplay

/-- What `displayNowTime` sends to the LCD. -/
def nowScreen (data : RTCDateTime) : List LcdCmd :=
  [ .clear, .setCursor 0 0, .print "Date:"
  , .printNumber data.year.toNat, .print "-"
  , .printNumber data.month.toNat, .print "-"
  , .printNumber data.day.toNat, .print " "
  , .setCursor 0 1, .print "Time:"
  , .printNumber data.hour.toNat, .print ":"
  , .printNumber data.minute.toNat, .print ":"
  , .printNumber data.second.toNat, .print "" ]

/-- What `displayEditModeUI` sends to the LCD. -/
def editScreen (data : RTCDateTime) : List LcdCmd :=
  [ .clear, .setCursor 0 0, .print "Edit:"
  , .printNumber data.year.toNat, .print ":"
  , .printNumber data.month.toNat, .print ":"
  , .printNumber data.day.toNat, .print ""
  , .setCursor 0 1, .print "Mode:"
  , .printNumber data.hour.toNat, .print ":"
  , .printNumber data.minute.toNat, .print ":"
  , .printNumber data.second.toNat, .print "" ]

/-- `displayNowTimeUI()`. -/
def displayNowTime (data : RTCDateTime) : Sketch Unit := act (.lcd (nowScreen data))

/-- `displayEditModeUI()`. -/
def displayEditModeUI (data : RTCDateTime) : Sketch Unit :=
  act (.lcd (editScreen data))

end AlarmDisplay

/-! ## `SP_IOStream` -/

namespace SPIOStream

/-- `isClickedEditBtn()`: it waits half a second, not for the release. -/
def isClickedEditBtn : Sketch Bool := do
  if ← digitalRead .btnEditMode then
    assign fun v => { v with editMode := true }
    delay 500
    return true
  else
    return false

/-- `isExitEditMode(throw_return)`. -/
def isExitEditMode (throwReturn : Throw) : Bool :=
  throwReturn = .throwExit || throwReturn = .throwConfirm

/-- `throw_return = t`. -/
def setThrow (t : Throw) : Sketch Throw := do
  mark (.throwSet t)
  return t

/-- `while (digitalRead(b) == true) {}; delay(10);`. -/
def waitRelease (b : Button) : Sketch Unit := do
  Prog.whileDo (digitalRead b) (pure ())
  delay 10

/-- `runEditAlarmMode(throw_return)`, answering the new value of its in/out
parameter: unchanged when no button is pressed. -/
def runEditAlarmMode (throwReturn : Throw) : Sketch Throw := do
  if ← digitalRead .btnEditMode then
    setThrow .throwExit
  else if ← digitalRead .btnAddHour then
    let t ← setThrow .throwAddHour
    waitRelease .btnAddHour
    return t
  else if ← digitalRead .btnAddMinute then
    let t ← setThrow .throwAddMin
    waitRelease .btnAddMinute
    return t
  else if ← digitalRead .btnAlarmConfirm then
    setThrow .throwConfirm
  else
    return throwReturn

end SPIOStream

end SprinklersAlarmClock
