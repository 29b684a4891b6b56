import SprinklersAlarmClock.Firmware.Devices
import SprinklersAlarmClock.Firmware.Network

/-!
# The sketch (`main.cpp`)

`setup()`, the three protothreads and `loop()`, and a run of the whole
firmware: `setup()` followed by `loop()` for ever.
-/

namespace SprinklersAlarmClock

open Logic SPIOStream TimeSystemData AlarmDisplay

/-! ## `setup` -/

/-- `LINE_TOKEN`. -/
def lineToken : String := "YOUR_LINE_NOTIFY_TOKEN"

/-- `WIFI_TIMEOUT`, compared as a `double`. -/
def wifiTimeout : Int := 30000

/-- `WiFi.status() == WL_CONNECTED`. -/
def wifiStatus : Sketch Bool :=
  ask (fun env i _ => env.wifiConnected i) fun up => .net (.wifiStatus up)

/-- `while (WiFi.status() != WL_CONNECTED && millis() - last_time <= WIFI_TIMEOUT)`. -/
def waitWifi (lastTime : UInt32) : Sketch Unit :=
  Prog.whileDo
    (do
      if ← wifiStatus then
        return false
      else
        let now ← millis
        return decide ((now.toNat : Int) - lastTime.toNat ≤ wifiTimeout))
    (do
      net (.serial "Connecting")
      net (.serial ".")
      delay 500)

/-- The notifier gets its token only when WiFi came up in time. -/
def initNotifier : Sketch Unit := do
  if ← wifiStatus then
    LineNotify.init lineToken
    net (.serial "WiFi connected\r\n")
    net (.serial "IP address: \r\n")
    let _ ← ask (fun env _ _ => env.localIP) fun ip => .net (.serial (ip ++ "\r\n"))
  else
    return ()

/-- `setup()`. -/
def setup : Sketch Unit := do
  DS3231.begin
  act .lcdInit
  lcdBacklight
  assign fun v => { v with ptUi := false, ptIo := false, ptSprinklers := false }
  net (.wifiBegin "Syaro")
  let lastTime ← millis
  waitWifi lastTime
  initNotifier
  act .pinMode
  mark .setupDone

/-! ## `ptUIDisplay` -/

/-- The body of `ptUIDisplay` above its wait. -/
def refresh : Sketch Unit := do
  updatedData
  let v ← vars
  displayNowTime v.date
  let now ← millis
  assign fun v => { v with uiLastTime := now }
  mark .uiStored

/-- `millis() >= lastTime + 1000`, in 32-bit unsigned arithmetic. -/
def uiDue : Sketch Bool := do
  let now ← millis
  let v ← vars
  let fired := decide (now ≥ v.uiLastTime + 1000)
  mark (.uiGate fired)
  return fired

/-- `ptUIDisplay(pt)`: the clock screen, refreshed once a second. -/
def ptUIDisplay : Sketch Unit :=
  Prog.protothread (fun w => w.vars.ptUi)
    (fun w => { w with vars := { w.vars with ptUi := true } })
    refresh uiDue (pure ())

/-! ## `ptIO` -/

/-- The `if` chain on `throwEdit` in the edit loop. -/
def applyThrow : Throw → Sketch Unit
  | .throwConfirm => do
      let v ← vars
      DS3231.setAlarm2 v.date.day v.date.hour v.date.minute .matchHM false
  | .throwAddHour => do
      mark .addHour
      assign fun v => { v with date := addHour v.date }
      let v ← vars
      displayEditModeUI v.date
  | .throwAddMin => do
      mark .addMinute
      assign fun v => { v with date := addMinute v.date }
      let v ← vars
      displayEditModeUI v.date
  | .throwExit => return ()
  | .idle => return ()

/-- `while (!io.isExitEditMode(throwEdit)) { … }` of `ptIO`. -/
def editLoop : Throw → Sketch Unit :=
  Prog.loop fun throwEdit =>
    if isExitEditMode throwEdit then do
      mark (.editEnd throwEdit)
      return .inr ()
    else do
      let throwEdit ← runEditAlarmMode .idle
      applyThrow throwEdit
      return .inl throwEdit

/-- One edit session: the body of `ptIO` below its wait. -/
def editSession : Sketch Unit := do
  let v ← vars
  mark (.editStart v.date)
  displayEditModeUI v.date
  editLoop .idle
  delay 1000

/-- `ptIO(pt)`: an edit session for each press of the edit button. -/
def ptIO : Sketch Unit :=
  Prog.protothread (fun w => w.vars.ptIo)
    (fun w => { w with vars := { w.vars with ptIo := true } })
    (pure ()) isClickedEditBtn editSession

/-! ## `ptSprinklers` -/

/-- `millis() - lastTime >= limit`, in 32-bit unsigned arithmetic. -/
def elapsedAtLeast (limit : UInt32) : Sketch Bool := do
  let now ← millis
  let v ← vars
  let value := now - v.sprinklersLastTime
  mark (.elapsed limit value)
  return decide (value ≥ limit)

/-- `runEditAlarmMode(throwEdit)`, from one of its three places in the alarm
loop. -/
def alarmPoll (site : PollSite) (throwEdit : Throw) : Sketch Throw := do
  mark (.alarmPoll site)
  runEditAlarmMode throwEdit

/-- One round of either `for` loop: poll, drive the relay, wait, and break on a
dismissal. -/
def relayRound (site : PollSite) (value : UInt16) (throwEdit : Throw) :
    Sketch (Throw × Bool) := do
  let throwEdit ← alarmPoll site throwEdit
  analogWriteRelay value
  delay 10
  return (throwEdit, throwEdit = .throwExit || throwEdit = .throwConfirm)

/-- `for (int i = 0; i < 400; i++)` with the relay on. -/
def onLoop (throwEdit : Throw) : Sketch Throw :=
  Prog.upTo (relayRound .onLoop 140) 400 throwEdit

/-- `for (int i = 0; i < 200; i++)` with the relay off. -/
def offLoop (throwEdit : Throw) : Sketch Throw :=
  Prog.upTo (relayRound .offLoop 0) 200 throwEdit

/-- `if ((millis() - lastTime) >= 1000 * 10) { … }`. -/
def sprinkle (throwEdit : Throw) : Sketch Throw := do
  if ← elapsedAtLeast 10000 then
    lcdBacklight
    let throwEdit ← onLoop throwEdit
    lcdNoBacklight
    offLoop throwEdit
  else
    return throwEdit

/-- `if ((millis() - lastTime) >= 1000 * 20) { … }`. -/
def report : Sketch Unit := do
  if ← elapsedAtLeast 20000 then
    let _ ← LineNotify.sendLineMessage "\n您的孩子還在睡覺"
    let _ ← LineNotify.sendLineMessage ""
  else
    return ()

/-- One pass of the body of the alarm loop. -/
def alarmPass : Sketch Throw := do
  let throwEdit ← alarmPoll .head .idle
  let throwEdit ← sprinkle throwEdit
  report
  return throwEdit

/-- `while (!io.isExitEditMode(throwEdit)) { … }` of `ptSprinklers`. -/
def alarmLoop : Throw → Sketch Unit :=
  Prog.loop fun throwEdit => do
    mark (.alarmTest throwEdit)
    if isExitEditMode throwEdit then
      return .inr ()
    else
      let throwEdit ← alarmPass
      return .inl throwEdit

/-- One alarm episode: the body of `ptSprinklers` below its wait. -/
def alarmEpisode : Sketch Unit := do
  mark .alarm
  let now ← millis
  assign fun v => { v with sprinklersLastTime := now }
  toneBuzz 835
  alarmLoop .idle
  lcdBacklight
  noToneBuzz
  analogWriteRelay 0
  mark .alarmEnd

/-- `isAlarm2()` is called with its default argument `clear = true`. -/
def ptSprinklers : Sketch Unit :=
  Prog.protothread (fun w => w.vars.ptSprinklers)
    (fun w => { w with vars := { w.vars with ptSprinklers := true } })
    (pure ()) (DS3231.isAlarm2 true) alarmEpisode

/-! ## `loop` and whole runs -/

/-- `loop()`. -/
def loop : Sketch Unit := do
  ptUIDisplay
  ptIO
  ptSprinklers

/-- `loop()` for ever. -/
def loopForever : Sketch Empty :=
  Prog.loop (fun _ : Unit => do
    loop
    return .inl ()) ()

/-- `setup()`, then `loop()` for ever. -/
def firmware : Sketch Empty := do
  setup
  loopForever

/-- The state of the firmware after `n` operations from power-on.  It is
irreducible so that only the kernel evaluates a run. -/
@[irreducible] def run (env : Env) (n : Nat) : World :=
  firmware.run env n (World.boot env)

theorem run_eq (env : Env) (n : Nat) :
    run env n = firmware.run env n (World.boot env) := by
  rw [run]

end SprinklersAlarmClock
