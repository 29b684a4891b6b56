import Mathlib.Logic.Function.Basic
import SprinklersAlarmClock.Logic.Strobe
import SprinklersAlarmClock.Firmware.LiquidCrystal

/-!
# The panel

What the driver talks to: the display controller behind the port expander, as
`LiquidCrystal_I2C.h` describes its instruction set and the comments of
`LiquidCrystal_I2C.cpp` its power-up.  Only the upper four data lines are wired
to the expander; what the controller reads on the other four while it still
believes in an 8-bit interface (`low`) is anything.  The shapes of characters
are not modelled, so a write to their memory leaves no trace.

Of a character display with two lines of 40 characters, `Panel.row` is what can
be seen of a line through a window of 16.
-/

namespace SprinklersAlarmClock

open Logic

/-- How the controller takes its bytes: whole, or in halves with perhaps the
first of two already taken. -/
inductive Interface where
  | eightBit
  | fourBit (pending : Option UInt8)
  deriving DecidableEq, Repr

/-- The registers and the memory of the controller.  `address` is the memory
address it will write next, or `none` while it points at a character shape. -/
structure Controller where
  interface : Interface
  twoLine : Bool
  on : Bool
  cursor : Bool
  blink : Bool
  increment : Bool
  shifting : Bool
  memory : Nat → UInt8
  address : Option Nat
  shift : Nat

namespace Controller

/-- The code of a blank. -/
def blank : UInt8 := 0x20

/-! ## Addresses -/

/-- Lines of 40 are at 0x00 and 0x40; a single line has 80 addresses. -/
def nextAddress (twoLine : Bool) (a : Nat) : Nat :=
  if twoLine then
    if a = 0x27 then 0x40 else if a = 0x67 then 0 else a + 1
  else if a = 0x4F then 0 else a + 1

/-- And the address before it. -/
def prevAddress (twoLine : Bool) (a : Nat) : Nat :=
  if twoLine then
    if a = 0x40 then 0x27 else if a = 0 then 0x67 else a - 1
  else if a = 0 then 0x4F else a - 1

/-- The window moves along the line. -/
def shiftLeft (c : Controller) : Controller := { c with shift := (c.shift + 1) % 40 }

/-- The display is shifted one cell to the right. -/
def shiftRight (c : Controller) : Controller := { c with shift := (c.shift + 39) % 40 }

/-- The cursor takes one step. -/
def step (c : Controller) (forward : Bool) : Controller :=
  { c with address := c.address.map fun a =>
      if forward then nextAddress c.twoLine a else prevAddress c.twoLine a }

/-! ## Bytes -/

/-- A byte arrives with the register select low. -/
def instruction (v : UInt8) (c : Controller) : Controller :=
  if v ≥ lcdSetDdramAddr then { c with address := some (v &&& 0x7F).toNat }
  else if v ≥ lcdSetCgramAddr then { c with address := none }
  else if v ≥ lcdFunctionSet then
    { c with
      interface := if v &&& 0x10 ≠ 0 then .eightBit else .fourBit none
      twoLine := v &&& lcd2Line ≠ 0 }
  else if v ≥ lcdCursorShift then
    if v &&& lcdDisplayMove ≠ 0 then
      if v &&& lcdMoveRight ≠ 0 then c.shiftRight else c.shiftLeft
    else c.step (v &&& lcdMoveRight ≠ 0)
  else if v ≥ lcdDisplayControl then
    { c with
      on := v &&& lcdDisplayOn ≠ 0
      cursor := v &&& lcdCursorOn ≠ 0
      blink := v &&& lcdBlinkOn ≠ 0 }
  else if v ≥ lcdEntryModeSet then
    { c with
      increment := v &&& lcdEntryLeft ≠ 0
      shifting := v &&& lcdEntryShiftIncrement ≠ 0 }
  else if v ≥ lcdReturnHome then { c with address := some 0, shift := 0 }
  else if v = lcdClearDisplay then
    { c with memory := fun _ => blank, address := some 0, shift := 0, increment := true }
  else c

/-- A byte arrives with the register select high.  The window moves only with
what is written into the lines. -/
def datum (v : UInt8) (c : Controller) : Controller :=
  match c.address with
  | none => c
  | some a =>
      let moved := step { c with memory := Function.update c.memory a v } c.increment
      if c.shifting then
        if c.increment then moved.shiftLeft else moved.shiftRight
      else moved

/-- What a byte does, by the register it is sent to. -/
def byte (select : Bool) (v : UInt8) (c : Controller) : Controller :=
  if select then c.datum v else c.instruction v

/-! ## Lines -/

/-- Enable falls while the expander holds `x`.  Reading back also takes two
halves, but changes nothing else. -/
def latch (low x : UInt8) (c : Controller) : Controller :=
  let select := decide (x &&& lcdRs ≠ 0)
  if x &&& lcdRw ≠ 0 then
    match c.interface with
    | .eightBit => c
    | .fourBit none => { c with interface := .fourBit (some 0) }
    | .fourBit (some _) => { c with interface := .fourBit none }
  else
    match c.interface with
    | .eightBit => c.byte select (highHalf x ||| (low &&& 0x0F))
    | .fourBit none => { c with interface := .fourBit (some (highHalf x)) }
    | .fourBit (some high) => byte select (joinHalves high x) { c with interface := .fourBit none }

end Controller

/-- The expander's outputs and the controller on them. -/
abbrev Panel := Strobed UInt8 Controller

namespace Panel

/-- The enable line. -/
def enabled (x : UInt8) : Bool := x &&& lcdEn ≠ 0

/-- The bytes are set on the expander, one after the other. -/
def feed (low : UInt8) (p : Panel) (bytes : List UInt8) : Panel :=
  p.feedAll enabled (Controller.latch low) bytes

/-- The backlight is wired to the expander directly. -/
def backlight (p : Panel) : Bool := p.lines &&& lcdOnBacklight ≠ 0

/-- What can be seen of a line, when the display is on. -/
def row (p : Panel) (r : Nat) : List UInt8 :=
  (List.range 16).map fun col => p.inner.memory (0x40 * r + (col + p.inner.shift) % 40)

end Panel

end SprinklersAlarmClock
