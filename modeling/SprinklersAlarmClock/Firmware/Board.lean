import SprinklersAlarmClock.Logic.Prog
import SprinklersAlarmClock.Logic.History

/-!
# The board: pins, clock chip, surroundings

The state of a run (`World`) and everything the surroundings decide (`Env`).
The surroundings are arbitrary functions of the operation number: how long each
operation takes, which level each `digitalRead` returns, when the DS3231
matches its alarm 2, what its time registers read, and every answer of the
network.  True time is an unbounded number of milliseconds; `millis()` is its
residue modulo `2 ^ 32`.

Every operation is entered in the log with the true time at which it took
effect.  The log also carries program points (`Point`), which take no time and
are not operations; they say where in the source the program was.
-/

namespace SprinklersAlarmClock

open Logic

/-! ## Vocabulary of the sources -/

/-- The four push buttons of `SprinklersIOStream.h` (pins 27, 14, 12, 13). -/
inductive Button where
  | btnEditMode
  | btnAddHour
  | btnAddMinute
  | btnAlarmConfirm
  deriving DecidableEq, Repr

/-- The values of `throw_return`; `idle` is the `0` it is reset to. -/
inductive Throw where
  | idle
  | throwAddHour
  | throwAddMin
  | throwExit
  | throwConfirm
  deriving DecidableEq, Repr

/-- `RTCDateTime` of `DS3231.h`. -/
structure RTCDateTime where
  year : UInt16
  month : UInt8
  day : UInt8
  hour : UInt8
  minute : UInt8
  second : UInt8
  dayOfWeek : UInt8
  unixtime : UInt32
  deriving DecidableEq, Repr

/-- The seven time registers of the DS3231, as read in one burst. -/
structure TimeRegs where
  second : UInt8
  minute : UInt8
  hour : UInt8
  dow : UInt8
  day : UInt8
  month : UInt8
  year : UInt8
  deriving DecidableEq, Repr

/-- What is sent to the LCD between two refreshes. -/
inductive LcdCmd where
  | clear
  | setCursor (col row : Nat)
  | print (text : String)
  | printNumber (n : Nat)
  deriving DecidableEq, Repr

/-- Traffic on the console and the network. -/
inductive NetEvent where
  | serial (text : String)
  | spiffsBegin
  | wifiBegin (ssid : String)
  | wifiStatus (connected : Bool)
  | available (n : Int)
  | connected (up : Bool)
  | connect (host : String) (port : Nat) (ok : Bool)
  | read (c : Int)
  | write (text : String) (accepted : Nat)
  | yield
  deriving DecidableEq, Repr

/-- The three calls of `runEditAlarmMode` in the alarm loop. -/
inductive PollSite where
  | head
  | onLoop
  | offLoop
  deriving DecidableEq, Repr

/-- Program points worth naming. -/
inductive Point where
  /-- `setup()` has returned. -/
  | setupDone
  /-- Control enters, or leaves, a member function of `DS3231`. -/
  | enterDS3231
  | leaveDS3231
  /-- `updatedData` has stored a clock reading. -/
  | updatedData (data : RTCDateTime)
  /-- `ptUIDisplay` has stored `lastTime`. -/
  | uiStored
  /-- `ptUIDisplay` has evaluated its wait condition. -/
  | uiGate (fired : Bool)
  /-- An edit session begins, with this `date`. -/
  | editStart (date : RTCDateTime)
  /-- `runEditAlarmMode` assigns `throw_return`. -/
  | throwSet (t : Throw)
  /-- A call of `addHour` or `addMinute` on `date`. -/
  | addHour
  | addMinute
  /-- `setAlarm2` is called with these arguments. -/
  | setAlarm2 (dydw hour minute : UInt8)
  /-- The edit loop is left on this value. -/
  | editEnd (t : Throw)
  /-- `isAlarm2` returned true in `ptSprinklers`: an alarm episode begins. -/
  | alarm
  /-- The condition of the alarm loop is evaluated on this value. -/
  | alarmTest (t : Throw)
  /-- `runEditAlarmMode` is called in the alarm loop. -/
  | alarmPoll (site : PollSite)
  /-- `millis() - lastTime` is compared with a limit. -/
  | elapsed (limit value : UInt32)
  /-- `sendLineMessage` is called. -/
  | notify (msg : String)
  /-- `sendLineMessage` returns this status. -/
  | sent (status : UInt8)
  /-- The clean-up code of the episode has run. -/
  | alarmEnd
  /-- `http_getStreamPtr` returns a stream, or a null pointer. -/
  | streamPtr (nonNull : Bool)
  /-- A null pointer is dereferenced: the processor faults. -/
  | nullDeref
  deriving DecidableEq, Repr

/-- One entry of the log. -/
inductive Event where
  | digitalRead (b : Button) (level : Bool)
  /-- `analogWrite(pin_Relay, value)`. -/
  | analogWrite (value : UInt16)
  | pinMode
  | tone (frequency : Nat)
  | noTone
  | lcdInit
  | backlight
  | noBacklight
  | lcd (cmds : List LcdCmd)
  | millis (value : UInt32)
  | delay (ms : Nat)
  | wireBegin
  | readTime (regs : TimeRegs)
  | readRegister (reg value : UInt8)
  /-- A burst write; `a2f` is the alarm-2 flag just before it. -/
  | writeRegisters (reg : UInt8) (values : List UInt8) (a2f : Bool)
  | net (e : NetEvent)
  | mark (p : Point)
  deriving DecidableEq, Repr

/-- What happened, and the true time at which it did. -/
structure Entry where
  time : Nat
  event : Event
  deriving DecidableEq, Repr

/-- Newest entry first. -/
abbrev Log := List Entry

/-! ## The clock chip -/

/-- Register addresses of `DS3231.h`. -/
def regAlarm2 : UInt8 := 0x0B

/-- `DS3231_REG_CONTROL` and `DS3231_REG_STATUS`. -/
def regControl : UInt8 := 0x0E
def regStatus : UInt8 := 0x0F

/-- The registers of the DS3231 outside its running clock.  `rises` counts the
0-to-1 transitions of the alarm-2 flag. -/
structure Rtc where
  regs : UInt8 → UInt8
  rises : Nat

namespace Rtc

/-- A2F, bit 1 of the status register. -/
def a2f (r : Rtc) : Bool := r.regs regStatus &&& 0b00000010 != 0

/-- The clock matches alarm 2. -/
def matchAlarm2 (r : Rtc) : Rtc where
  regs := Function.update r.regs regStatus (r.regs regStatus ||| 0b00000010)
  rises := if r.a2f then r.rises else r.rises + 1

/-- A byte arrives for a register.  In the status register OSF, A2F and A1F can
only be cleared, BSY is read-only and EN32kHz is stored. -/
def store (r : Rtc) (reg value : UInt8) : Rtc :=
  let stored :=
    if reg = regStatus then
      (r.regs regStatus &&& value &&& 0b10000011) |||
        (value &&& 0b00001000) ||| (r.regs regStatus &&& 0b00000100)
    else value
  { r with regs := Function.update r.regs reg stored }

/-- A burst write auto-increments the register pointer. -/
def storeAll (r : Rtc) (reg : UInt8) : List UInt8 → Rtc
  | [] => r
  | v :: rest => (r.store reg v).storeAll (reg + 1) rest

end Rtc

/-! ## Program variables -/

/-- The parts of `HTTPClientESP32Ex` that its methods test or use: whether
`http_transportTraits` and `_tcp` hold an object, and where to connect. -/
structure Http where
  transport : Bool
  tcp : Bool
  host : String
  port : Nat
  uri : String
  deriving DecidableEq, Repr

/-- The rate limits `waitLineResponse` parses out of the reply. -/
structure RateLimits where
  textLimit : Int
  imageLimit : Int
  textRemaining : Int
  imageRemaining : Int
  deriving DecidableEq, Repr

/-- Static storage of the sketch.  The three protothreads have one wait each,
so their local continuation is either unset or set to it. -/
structure Vars where
  ptUi : Bool
  ptIo : Bool
  ptSprinklers : Bool
  uiLastTime : UInt32
  sprinklersLastTime : UInt32
  date : RTCDateTime
  editMode : Bool
  http : Http
  token : String
  limits : RateLimits
  deriving DecidableEq, Repr

/-- Static storage before `setup()`. -/
def Vars.zero : Vars where
  ptUi := false
  ptIo := false
  ptSprinklers := false
  uiLastTime := 0
  sprinklersLastTime := 0
  date := ⟨0, 0, 0, 0, 0, 0, 0, 0⟩
  editMode := false
  http := ⟨false, false, "", 0, ""⟩
  token := ""
  limits := ⟨0, 0, 0, 0⟩

/-! ## Surroundings and state -/

/-- Everything the program does not decide, by operation number. -/
structure Env where
  /-- Milliseconds an operation other than `delay` takes. -/
  elapse : Nat → Nat
  /-- Milliseconds a `delay(ms)` takes. -/
  delayed : Nat → Nat → Nat
  /-- Level of a button, by operation number and true time. -/
  level : Nat → Nat → Button → Bool
  /-- The clock matches alarm 2 while this operation is under way. -/
  alarm2Match : Nat → Bool
  /-- The time registers. -/
  clock : Nat → TimeRegs
  /-- Registers at power-on. -/
  bootRegs : UInt8 → UInt8
  wifiConnected : Nat → Bool
  localIP : String
  tcpAvailable : Nat → Int
  tcpConnected : Nat → Bool
  tcpConnect : Nat → Bool
  tcpRead : Nat → Int
  tcpWrite : Nat → Nat

/-- `delay(n)` lasts at least `n` milliseconds. -/
def Env.HonoursDelay (env : Env) : Prop := ∀ i ms, ms ≤ env.delayed i ms

/-- Surroundings in which nothing happens: no button is pressed, operations
other than `delay` take no time, WiFi is up and the server does not answer. -/
def Env.quiet : Env where
  elapse := fun _ => 0
  delayed := fun _ ms => ms
  level := fun _ _ _ => false
  alarm2Match := fun _ => false
  clock := fun _ => ⟨0x00, 0x00, 0x00, 0x01, 0x01, 0x01, 0x00⟩
  bootRegs := fun _ => 0
  wifiConnected := fun _ => true
  localIP := ""
  tcpAvailable := fun _ => 0
  tcpConnected := fun _ => false
  tcpConnect := fun _ => false
  tcpRead := fun _ => -1
  tcpWrite := fun _ => 0

/-- The same, but alarm 2 has matched before power-on, so that the first
`loop()` starts an episode. -/
def Env.pending : Env :=
  { Env.quiet with bootRegs := fun reg => if reg = regStatus then 0b00000010 else 0 }

/-- The state of a run: true time, operations performed, the log, the clock
chip and the program's variables. -/
structure World where
  now : Nat
  tick : Nat
  log : Log
  rtc : Rtc
  vars : Vars

namespace World

/-- Power-on. -/
def boot (env : Env) : World where
  now := 0
  tick := 0
  log := []
  rtc := ⟨env.bootRegs, 0⟩
  vars := Vars.zero

/-- An operation is under way for `dt` milliseconds; the clock chip may match
its alarm meanwhile. -/
def pass (env : Env) (dt : Nat) (w : World) : World :=
  { w with
    now := w.now + dt
    tick := w.tick + 1
    rtc := if env.alarm2Match w.tick then w.rtc.matchAlarm2 else w.rtc }

/-- Enter an event in the log. -/
def record (e : Event) (w : World) : World :=
  { w with log := ⟨w.now, e⟩ :: w.log }

@[simp] theorem pass_now (env : Env) (dt : Nat) (w : World) :
    (w.pass env dt).now = w.now + dt := rfl

@[simp] theorem pass_tick (env : Env) (dt : Nat) (w : World) :
    (w.pass env dt).tick = w.tick + 1 := rfl

@[simp] theorem pass_log (env : Env) (dt : Nat) (w : World) :
    (w.pass env dt).log = w.log := rfl

@[simp] theorem pass_vars (env : Env) (dt : Nat) (w : World) :
    (w.pass env dt).vars = w.vars := rfl

@[simp] theorem record_now (e : Event) (w : World) :
    (w.record e).now = w.now := rfl

@[simp] theorem record_tick (e : Event) (w : World) :
    (w.record e).tick = w.tick := rfl

@[simp] theorem record_log (e : Event) (w : World) :
    (w.record e).log = ⟨w.now, e⟩ :: w.log := rfl

@[simp] theorem record_rtc (e : Event) (w : World) :
    (w.record e).rtc = w.rtc := rfl

@[simp] theorem record_vars (e : Event) (w : World) :
    (w.record e).vars = w.vars := rfl

end World

/-! ## Operations -/

/-- Programs of the board. -/
abbrev Sketch (α : Type) := Prog Env World α

/-- An operation that asks the surroundings; `answer` sees the operation number
and the state when it takes effect. -/
def ask {α : Type} (answer : Env → Nat → World → α) (event : α → Event) :
    Sketch α :=
  .op fun env w =>
    let w' := w.pass env (env.elapse w.tick)
    let a := answer env w.tick w'
    (a, w'.record (event a))

/-- An operation that only acts. -/
def act (e : Event) : Sketch Unit :=
  .op fun env w => ((), (w.pass env (env.elapse w.tick)).record e)

/-- Note a program point. -/
def mark (p : Point) : Sketch Unit := .modify fun w => w.record (.mark p)

/-- Assign program variables. -/
def assign (f : Vars → Vars) : Sketch Unit :=
  .modify fun w => { w with vars := f w.vars }

/-- Read program variables. -/
def vars : Sketch Vars := Prog.get >>= fun w => pure w.vars

/-- `digitalRead(pin)`. -/
def digitalRead (b : Button) : Sketch Bool :=
  ask (fun env i w => env.level i w.now b) (.digitalRead b)

/-- `millis()`: true time in a 32-bit counter. -/
def millis : Sketch UInt32 :=
  ask (fun _ _ w => UInt32.ofNat w.now) .millis

/-- `delay(ms)`, which may last longer than asked for. -/
def delay (ms : Nat) : Sketch Unit :=
  .op fun env w => ((), (w.pass env (env.delayed w.tick ms)).record (.delay ms))

/-- `analogWrite(pin_Relay, value)`. -/
def analogWriteRelay (value : UInt16) : Sketch Unit := act (.analogWrite value)

/-- `tone(pin_Buzz, frequency)` and `noTone(pin_Buzz)`. -/
def toneBuzz (frequency : Nat) : Sketch Unit := act (.tone frequency)

/-- `noTone(pin_Buzz)`. -/
def noToneBuzz : Sketch Unit := act .noTone

/-- `lcd.backlight()`. -/
def lcdBacklight : Sketch Unit := act .backlight

/-- `lcd.noBacklight()`. -/
def lcdNoBacklight : Sketch Unit := act .noBacklight

end SprinklersAlarmClock
