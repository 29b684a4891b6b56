import Mathlib.Algebra.Group.Nat.Defs
import Mathlib.Logic.Function.Basic

/-!
# The PWM library: `tone`, `noTone` and `analogWrite`

`ESP32Servo` shares the sixteen LEDC channels of the processor, four on each of
its four timer numbers, between pins.  Each pin in use has an `ESP32PWM` object
on the heap; the statics of the class (`ChannelUsed`, `timerCount`,
`timerFreqSet`, `PWMCount`) say which object has which channel.

The heap is explicit: `new` takes an address never used before, `delete` clears
it, and every access through a pointer is checked (`Fault.dangling`).  An array
read outside its bounds, a `double` converted to a `long` that cannot hold it
and the endless loop behind "All PWM timers allocated" are faults too.

A frequency is a `double` of the source; both callers hand over whole numbers.
What the library calls in the end, four `ledc` functions and those that drive a
pin, belongs to the processor's board support and is not modelled.  `Pads` is the
record of the calls made to it: for each timer, channel and pin the last one.
-/

namespace SprinklersAlarmClock

open Function

namespace ESP32Servo

/-- A number of a pin, as an argument gives it. -/
abbrev Pin := UInt8

/-- `pwmChannel`, from 0 to 15. -/
abbrev Channel := Fin 16

/-- `timerNum`, from 0 to 3. -/
abbrev Timer := Fin 4

/-- What a pointer to an object holds. -/
abbrev Addr := Nat

/-! ## Calls of the board support -/

/-- The group of a channel, and its timer within the group, as the table in
`ESP32PWM.cpp` has them. -/
def groupOf (c : Channel) : Fin 2 := ⟨c / 8, by omega⟩

/-- `(j / 2) % 4`. -/
def timerOf (c : Channel) : Timer := ⟨c / 2 % 4, by omega⟩

/-- The last calls.  A call that names a channel above 15, which the board does
not have, is not recorded. -/
structure Pads where
  /-- The last `ledcSetup` of a channel of this timer: frequency and resolution. -/
  timer : Fin 2 → Timer → Option (Nat × Nat)
  /-- The last `ledcWrite` to a channel, 0 before the first. -/
  duty : Channel → UInt32
  /-- The channel of the last `ledcAttachPin` of a pin, or nothing where there was
  none or a `ledcDetachPin` came after it. -/
  route : Pin → Option Channel
  /-- `pinMode(pin, OUTPUT)` has been called. -/
  isOutput : Pin → Bool
  /-- The last `digitalWrite` to a pin. -/
  latch : Pin → Option Bool
  /-- The last `dacWrite` to a pin. -/
  dac : Pin → Option UInt8

namespace Pads

/-- No call yet. -/
def boot : Pads where
  timer := fun _ _ => none
  duty := fun _ => 0
  route := fun _ => none
  isOutput := fun _ => false
  latch := fun _ => none
  dac := fun _ => none

/-- `pinMode(pin, OUTPUT)`. -/
def pinMode (pin : Pin) (p : Pads) : Pads :=
  { p with isOutput := update p.isOutput pin true }

/-- `digitalWrite(pin, high)`. -/
def digitalWrite (pin : Pin) (high : Bool) (p : Pads) : Pads :=
  { p with latch := update p.latch pin (some high) }

/-- `dacWrite(pin, value)`. -/
def dacWrite (pin : Pin) (value : UInt8) (p : Pads) : Pads :=
  { p with dac := update p.dac pin (some value) }

/-- `ledcSetup(chan, freq, bits)`. -/
def ledcSetup (chan : Option Channel) (freq bits : Nat) (p : Pads) : Pads :=
  match chan with
  | none => p
  | some c =>
    let timers := update (p.timer (groupOf c)) (timerOf c) (some (freq, bits))
    { p with timer := update p.timer (groupOf c) timers }

/-- `ledcWrite(chan, duty)`. -/
def ledcWrite (chan : Option Channel) (duty : UInt32) (p : Pads) : Pads :=
  match chan with
  | none => p
  | some c => { p with duty := update p.duty c duty }

/-- `ledcAttachPin(pin, chan)`. -/
def ledcAttachPin (pin : Pin) (chan : Option Channel) (p : Pads) : Pads :=
  match chan with
  | none => p
  | some c => { p with route := update p.route pin (some c) }

/-- `ledcDetachPin(pin)`. -/
def ledcDetachPin (pin : Pin) (p : Pads) : Pads :=
  { p with route := update p.route pin none }

end Pads

/-! ## Objects, statics and the heap -/

/-- An object of the class; `-1` in a number that counts channels, timers or
hertz is `none`. -/
structure ESP32PWM where
  pwmChannel : Option Channel
  attachedState : Bool
  pin : Option Pin
  resolutionBits : Nat
  myFreq : Option Nat
  timerNum : Option Timer
  myDuty : UInt32

/-- What the constructor leaves in the object. -/
def ESP32PWM.init : ESP32PWM where
  pwmChannel := none
  attachedState := false
  pin := none
  resolutionBits := 8
  myFreq := none
  timerNum := none
  myDuty := 0

/-- Lines printed on the console, by the numbers in them. -/
inductive Notice where
  | notSetUp
  | noPwm (pin : Pin)
  | allAllocated (freq : Nat)
  | sharesTimer (chan : Option Channel) (other : Channel) (freq : Nat) (was : Option Nat)
  deriving DecidableEq, Repr

/-- How a run of the library ends that does not return. -/
inductive Fault where
  /-- `while (1);` behind a last line on the console. -/
  | halted (line : Notice)
  /-- An object that was deleted, or never made, is used. -/
  | dangling
  /-- A static array is read outside its bounds. -/
  | outOfBounds
  /-- A `double` is converted to a `long` that cannot hold it. -/
  | conversion
  deriving DecidableEq, Repr

/-- The heap, the statics of the class, the calls of the board support and the
lines on the console, newest first. -/
structure Driver where
  heap : Addr → Option ESP32PWM
  /-- The next address `new` answers. -/
  next : Addr
  channelUsed : Channel → Option Addr
  pwmCount : Int
  timerFreqSet : Timer → Option Nat
  timerCount : Timer → Int
  pads : Pads
  console : List Notice

/-- Static storage before the first call. -/
def Driver.boot : Driver where
  heap := fun _ => none
  next := 0
  channelUsed := fun _ => none
  pwmCount := -1
  timerFreqSet := fun _ => none
  timerCount := fun _ => 0
  pads := .boot
  console := []

namespace Driver

/-- The object behind a pointer. -/
def obj (d : Driver) (a : Addr) : Except Fault ESP32PWM :=
  match d.heap a with
  | none => .error .dangling
  | some o => .ok o

/-- A store through a pointer. -/
def setObj (d : Driver) (a : Addr) (o : ESP32PWM) : Driver :=
  { d with heap := update d.heap a (some o) }

/-- `Serial.println`. -/
def say (d : Driver) (line : Notice) : Driver := { d with console := line :: d.console }

end Driver

/-- `getTimer()`, used as an index of a static array. -/
def timerIndex (o : ESP32PWM) : Except Fault Timer :=
  match o.timerNum with
  | none => .error .outOfBounds
  | some t => .ok t

/-- `(long) freq`. -/
def toLong (freq : Nat) : Except Fault Nat :=
  if freq < 2 ^ 31 then .ok freq else .error .conversion

/-- `hasPwm(pin)` of the processor's table. -/
def hasPwm (pin : Pin) : Bool :=
  pin = 2 || pin = 4 || pin = 5 || (12 ≤ pin && pin ≤ 19) || (21 ≤ pin && pin ≤ 23) ||
    (25 ≤ pin && pin ≤ 27) || pin = 32 || pin = 33

/-- The loop of `timerAndIndexToChannel` over `j`. -/
def scanChannels (timerNum : Timer) (index : Nat) : List Channel → Nat → Option Channel
  | [], _ => none
  | j :: rest, localIndex =>
    if j.val / 2 % 4 = timerNum.val then
      if localIndex = index then some j
      else scanChannels timerNum index rest (localIndex + 1)
    else scanChannels timerNum index rest localIndex

/-- `timerAndIndexToChannel(timerNum, index)`; `none` is its -1. -/
def timerAndIndexToChannel (timerNum : Timer) (index : Nat) : Option Channel :=
  scanChannels timerNum index (List.finRange 16) 0

/-! ## Channels: `allocatenext` and `deallocate` -/

/-- Timer `t` runs at `freq` or not at all, and has a channel left. -/
def takes (d : Driver) (freq : Nat) (t : Timer) : Bool :=
  (d.timerFreqSet t = some freq || d.timerFreqSet t = none) && d.timerCount t < 4

/-- The loop over `index`: the first channel of the timer that no object has. -/
def freeChannel (d : Driver) (timerNum : Timer) : Option Channel :=
  (List.range 4).findSome? fun index =>
    match timerAndIndexToChannel timerNum index with
    | none => none
    | some c => if d.channelUsed c = none then some c else none

/-- The loop over `i`. -/
def searchTimers (this : Addr) (freq : Nat) : List Timer → Driver → Except Fault Driver
  | [], _ => .error (.halted (.allAllocated freq))
  | i :: rest, d => do
    if takes d freq i then
      let d := { d with timerFreqSet := update d.timerFreqSet i (some freq) }
      let o ← d.obj this
      let d := d.setObj this { o with timerNum := some i }
      match freeChannel d i with
      | none => searchTimers this freq rest d
      | some c =>
        return { d with
          heap := update d.heap this
            (some { o with timerNum := some i, pwmChannel := some c, myFreq := some freq })
          channelUsed := update d.channelUsed c (some this)
          timerCount := update d.timerCount i (d.timerCount i + 1)
          pwmCount := d.pwmCount + 1 }
    else searchTimers this freq rest d

/-- `allocatenext(freq)`; an object that has a channel keeps it. -/
def allocatenext (this : Addr) (freq : Nat) (d : Driver) : Except Fault Driver := do
  let freqlocal ← toLong freq
  let o ← d.obj this
  if o.pwmChannel = none then searchTimers this freqlocal (List.finRange 4) d
  else return d

/-- `deallocate()`: the last channel of a timer frees the timer too. -/
def deallocate (this : Addr) (d : Driver) : Except Fault Driver := do
  let o ← d.obj this
  match o.pwmChannel with
  | none => return d
  | some c =>
    let t ← timerIndex o
    let count := d.timerCount t - 1
    return { d with
      timerCount := update d.timerCount t count
      timerFreqSet := if count = 0 then update d.timerFreqSet t none else d.timerFreqSet
      channelUsed := update d.channelUsed c none
      pwmCount := d.pwmCount - 1
      heap := update d.heap this
        (some { o with timerNum := none, attachedState := false, pwmChannel := none }) }

/-! ## Duty and frequency -/

/-- `getChannel()`; the console is told of an object without one. -/
def getChannel (o : ESP32PWM) (d : Driver) : Option Channel × Driver :=
  match o.pwmChannel with
  | none => (none, d.say .notSetUp)
  | some c => (some c, d)

/-- `mapf`, which does not leave the range it maps to. -/
def mapf (x inMin inMax outMin outMax : Float32) : Float32 :=
  if x > inMax then outMax
  else if x < inMin then outMin
  else (x - inMin) * (outMax - outMin) / (inMax - inMin) + outMin

/-- `(float) ((1 << resolutionBits) - 1)`. -/
def fullScale (o : ESP32PWM) : Float32 := Float32.ofNat (2 ^ o.resolutionBits - 1)

/-- `getDutyScaled()`, between 0 and 1. -/
def getDutyScaled (o : ESP32PWM) : Float32 := mapf o.myDuty.toFloat32 0 (fullScale o) 0 1

/-- `write(duty)`. -/
def write (this : Addr) (duty : UInt32) (d : Driver) : Except Fault Driver := do
  let o ← d.obj this
  let (chan, d) := getChannel o (d.setObj this { o with myDuty := duty })
  return { d with pads := d.pads.ledcWrite chan duty }

/-- `writeScaled(duty)`. -/
def writeScaled (this : Addr) (duty : Float32) (d : Driver) : Except Fault Driver := do
  let o ← d.obj this
  write this (mapf duty 0 1 0 (fullScale o)).toUInt32 d

/-- `ledcDetachPin(pin)` on the pin of an object. -/
def detachOwn (o : ESP32PWM) (d : Driver) : Driver :=
  match o.pin with
  | none => d
  | some pin => { d with pads := d.pads.ledcDetachPin pin }

/-- `ledcAttachPin(pin, chan)` on it. -/
def attachOwn (o : ESP32PWM) (chan : Option Channel) (d : Driver) : Driver :=
  match o.pin with
  | none => d
  | some pin => { d with pads := d.pads.ledcAttachPin pin chan }

/-- `adjustFrequencyLocal(freq, dutyScaled)`: the pin is detached while its timer
changes. -/
def adjustFrequencyLocal (this : Addr) (freq : Nat) (dutyScaled : Float32) (d : Driver) :
    Except Fault Driver := do
  let o ← d.obj this
  let t ← timerIndex o
  let freqlocal ← toLong freq
  let d := { d with timerFreqSet := update d.timerFreqSet t (some freqlocal) }
  let d := d.setObj this { o with myFreq := some freq }
  if o.attachedState then
    let (chan, d) := getChannel o (detachOwn o d)
    let d := { d with pads := d.pads.ledcSetup chan freq o.resolutionBits }
    let d ← writeScaled this dutyScaled d
    let (chan, d) := getChannel o d
    return attachOwn o chan d
  else
    let (chan, d) := getChannel o d
    let d := { d with pads := d.pads.ledcSetup chan freq o.resolutionBits }
    writeScaled this dutyScaled d

/-- `1 << (resolutionBits - 1)`. -/
def halfScale (o : ESP32PWM) : UInt32 := UInt32.ofNat (2 ^ (o.resolutionBits - 1))

/-- One round of the loop of `writeTone`. -/
def writeToneAt (this : Addr) (freq : Nat) (d : Driver) (i : Nat) : Except Fault Driver := do
  let o ← d.obj this
  let t ← timerIndex o
  match timerAndIndexToChannel t i with
  | none => .error .outOfBounds
  | some pwm =>
    match d.channelUsed pwm with
    | none => return d
    | some other => do
      let u ← d.obj other
      let d ←
        if u.myFreq = some freq then pure d
        else adjustFrequencyLocal other freq (getDutyScaled u) d
      write this (halfScale o) d

/-- `writeTone(freq)`.  The rounds change neither the timer of the object nor its
count. -/
def writeTone (this : Addr) (freq : Nat) (d : Driver) : Except Fault Driver := do
  let o ← d.obj this
  let t ← timerIndex o
  (List.range (d.timerCount t).toNat).foldlM (writeToneAt this freq) d

/-! ## Attaching and detaching -/

/-- One round of the loop of `checkFrequencyForSideEffects`. -/
def sideEffectAt (this : Addr) (freq : Nat) (d : Driver) (i : Nat) :
    Except Fault Driver := do
  let o ← d.obj this
  let t ← timerIndex o
  match timerAndIndexToChannel t i with
  | none => .error .outOfBounds
  | some pwm =>
    if o.pwmChannel = some pwm then return d
    else
      match d.channelUsed pwm with
      | none => return d
      | some other => do
        let u ← d.obj other
        if u.timerNum = o.timerNum ∧ u.myFreq ≠ some freq then
          return (d.say (.sharesTimer o.pwmChannel pwm freq u.myFreq)).setObj other
            { u with myFreq := some freq }
        else return d

/-- `checkFrequencyForSideEffects(freq)`, which allocates the channel first. -/
def checkFrequencyForSideEffects (this : Addr) (freq : Nat) (d : Driver) :
    Except Fault Driver := do
  let d ← allocatenext this freq d
  let o ← d.obj this
  let t ← timerIndex o
  (List.range (d.timerCount t).toNat).foldlM (sideEffectAt this freq) d

/-- `attachPin(pin)`. -/
def attachPin (this : Addr) (pin : Pin) (d : Driver) : Except Fault Driver := do
  if hasPwm pin then
    let o ← d.obj this
    let o := { o with pin := some pin, attachedState := true }
    let (chan, d) := getChannel o (d.setObj this o)
    return { d with pads := d.pads.ledcAttachPin pin chan }
  else return d.say (.noPwm pin)

/-- `setup(freq, resolution_bits)`. -/
def setup (this : Addr) (freq bits : Nat) (d : Driver) : Except Fault Driver := do
  let d ← checkFrequencyForSideEffects this freq d
  let o ← d.obj this
  let o := { o with resolutionBits := bits }
  let d := d.setObj this o
  if o.attachedState then
    let (chan, d) := getChannel o (detachOwn o d)
    let d := { d with pads := d.pads.ledcSetup chan freq bits }
    match o.pin with
    | none => return d
    | some pin => attachPin this pin d
  else
    let (chan, d) := getChannel o d
    return { d with pads := d.pads.ledcSetup chan freq bits }

/-- `attachPin(pin, freq, resolution_bits)`. -/
def attachPinAt (this : Addr) (pin : Pin) (freq bits : Nat) (d : Driver) :
    Except Fault Driver := do
  let d ← if hasPwm pin then setup this freq bits d else pure d
  attachPin this pin d

/-- `detachPin(pin)`. -/
def detachPin (this : Addr) (pin : Pin) (d : Driver) : Except Fault Driver :=
  deallocate this { d with pads := d.pads.ledcDetachPin pin }

/-- `new ESP32PWM()`; the first one clears the table of channels. -/
def new (d : Driver) : Addr × Driver :=
  let d :=
    if d.pwmCount = -1 then { d with channelUsed := fun _ => none, pwmCount := 0 } else d
  (d.next, { d.setObj d.next .init with next := d.next + 1 })

/-- `delete`, the destructor first. -/
def delete (this : Addr) (d : Driver) : Except Fault Driver := do
  let o ← d.obj this
  let d := if o.attachedState then detachOwn o d else d
  let d ← deallocate this d
  return { d with heap := update d.heap this none }

/-! ## `pwmFactory`, `tone`, `noTone`, `analogWrite` -/

/-- The loop of `pwmFactory` over `i`. -/
def pwmFactoryFrom (pin : Pin) (d : Driver) : List Channel → Except Fault (Option Addr)
  | [] => return none
  | i :: rest => do
    match d.channelUsed i with
    | none => pwmFactoryFrom pin d rest
    | some a =>
      let o ← d.obj a
      if o.pin = some pin then return some a else pwmFactoryFrom pin d rest

/-- `pwmFactory(pin)`: the object of a pin, or `NULL`. -/
def pwmFactory (pin : Pin) (d : Driver) : Except Fault (Option Addr) :=
  pwmFactoryFrom pin d (List.finRange 16)

/-- `chan`, or a new object where it is `NULL`. -/
def orNew (chan : Option Addr) (d : Driver) : Addr × Driver :=
  match chan with
  | none => new d
  | some a => (a, d)

/-- `tone(pin, frequency)`, at a resolution of ten bits. -/
def tone (pin : Pin) (frequency : UInt32) (d : Driver) : Except Fault Driver := do
  let (chan, d) := orNew (← pwmFactory pin d) d
  let o ← d.obj chan
  let d ← if o.attachedState then pure d else attachPinAt chan pin frequency.toNat 10 d
  writeTone chan frequency.toNat d

/-- `noTone(pin)`. -/
def noTone (pin : Pin) (d : Driver) : Except Fault Driver := do
  match ← pwmFactory pin d with
  | none => return d
  | some chan =>
    let o ← d.obj chan
    if o.attachedState then delete chan (← detachPin chan pin d) else return d

/-- The pin is taken back from its object and driven to a fixed level. -/
def drive (pin : Pin) (chan : Option Addr) (high : Bool) (d : Driver) :
    Except Fault Driver := do
  let d ←
    match chan with
    | none => pure d
    | some a => do
      let o ← d.obj a
      if o.attachedState then
        let d ← delete a (← detachPin a pin d)
        pure { d with pads := d.pads.pinMode pin }
      else pure d
  return { d with pads := d.pads.digitalWrite pin high }

/-- `analogWrite(pin, value)`; pins 25 and 26 have a converter of their own. -/
def analogWrite (pin : Pin) (value : UInt16) (d : Driver) : Except Fault Driver := do
  if pin = 25 ∨ pin = 26 then return { d with pads := d.pads.dacWrite pin value.toUInt8 }
  let chan ← pwmFactory pin d
  if value = 0 then drive pin chan false d
  else if value ≥ 255 then drive pin chan true d
  else
    let (chan, d) := orNew chan d
    let o ← d.obj chan
    let d ← if o.attachedState then pure d else attachPinAt chan pin 1000 8 d
    write chan value.toUInt32 d

/-! ## Runs -/

/-- A call of the library, or of `pinMode(pin, OUTPUT)`. -/
inductive Call where
  | tone (pin : Pin) (frequency : UInt32)
  | noTone (pin : Pin)
  | analogWrite (pin : Pin) (value : UInt16)
  | pinMode (pin : Pin)
  deriving DecidableEq, Repr

/-- What a call does. -/
def Call.exec : Call → Driver → Except Fault Driver
  | .tone pin frequency, d => ESP32Servo.tone pin frequency d
  | .noTone pin, d => ESP32Servo.noTone pin d
  | .analogWrite pin value, d => ESP32Servo.analogWrite pin value d
  | .pinMode pin, d => .ok { d with pads := d.pads.pinMode pin }

/-- Calls one after the other. -/
def execAll (calls : List Call) (d : Driver) : Except Fault Driver :=
  calls.foldlM (fun d call => call.exec d) d

end ESP32Servo

end SprinklersAlarmClock
