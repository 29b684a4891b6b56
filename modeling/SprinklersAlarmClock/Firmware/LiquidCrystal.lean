import SprinklersAlarmClock.Firmware.Devices

/-!
# The LCD library

`LiquidCrystal_I2C.cpp`: the driver of a character display behind an 8-bit port
expander.  `LcdBus` is the driver object together with the bytes it has set on
the expander, oldest first; every member function appends to them.  The delays
between bytes are left out, they set nothing.

`Event.drive` says which member functions an entry of the log stands for, and
`lcdBus` is the driver after all of a log.
-/

namespace SprinklersAlarmClock

/-! ## Flags of `LiquidCrystal_I2C.h` -/

/-- `LCD_CLEARDISPLAY`. -/
def lcdClearDisplay : UInt8 := 0x01

/-- `LCD_RETURNHOME`. -/
def lcdReturnHome : UInt8 := 0x02

/-- `LCD_ENTRYMODESET`. -/
def lcdEntryModeSet : UInt8 := 0x04

/-- `LCD_DISPLAYCONTROL`. -/
def lcdDisplayControl : UInt8 := 0x08

/-- `LCD_CURSORSHIFT`. -/
def lcdCursorShift : UInt8 := 0x10

/-- `LCD_FUNCTIONSET`. -/
def lcdFunctionSet : UInt8 := 0x20

/-- `LCD_SETCGRAMADDR`. -/
def lcdSetCgramAddr : UInt8 := 0x40

/-- `LCD_SETDDRAMADDR`. -/
def lcdSetDdramAddr : UInt8 := 0x80

/-- `LCD_ENTRYLEFT`. -/
def lcdEntryLeft : UInt8 := 0x02

/-- `LCD_ENTRYSHIFTINCREMENT`. -/
def lcdEntryShiftIncrement : UInt8 := 0x01

/-- `LCD_ENTRYSHIFTDECREMENT`. -/
def lcdEntryShiftDecrement : UInt8 := 0x00

/-- `LCD_DISPLAYON`. -/
def lcdDisplayOn : UInt8 := 0x04

/-- `LCD_CURSORON`. -/
def lcdCursorOn : UInt8 := 0x02

/-- `LCD_CURSOROFF`. -/
def lcdCursorOff : UInt8 := 0x00

/-- `LCD_BLINKON`. -/
def lcdBlinkOn : UInt8 := 0x01

/-- `LCD_BLINKOFF`. -/
def lcdBlinkOff : UInt8 := 0x00

/-- `LCD_DISPLAYMOVE`: the display is shifted, not the cursor. -/
def lcdDisplayMove : UInt8 := 0x08

/-- `LCD_MOVERIGHT`. -/
def lcdMoveRight : UInt8 := 0x04

/-- `LCD_MOVELEFT`. -/
def lcdMoveLeft : UInt8 := 0x00

/-- `LCD_4BITMODE`. -/
def lcd4BitMode : UInt8 := 0x00

/-- `LCD_2LINE`. -/
def lcd2Line : UInt8 := 0x08

/-- `LCD_1LINE`. -/
def lcd1Line : UInt8 := 0x00

/-- `LCD_5x10DOTS`. -/
def lcd5x10Dots : UInt8 := 0x04

/-- `LCD_5x8DOTS`. -/
def lcd5x8Dots : UInt8 := 0x00

/-- `LCD_BACKLIGHT`. -/
def lcdOnBacklight : UInt8 := 0x08

/-- `LCD_NOBACKLIGHT`. -/
def lcdOffBacklight : UInt8 := 0x00

/-- Enable, read/write and register select. -/
def lcdEn : UInt8 := 0b00000100

/-- `Rw`, the read/write line; the driver only writes. -/
def lcdRw : UInt8 := 0b00000010

/-- `Rs`, the register select line. -/
def lcdRs : UInt8 := 0b00000001

/-- The private members of `LiquidCrystal_I2C` but for the bus address.  The
class assigns no third value to `_backlightval`. -/
structure LiquidCrystal where
  displayfunction : UInt8
  displaycontrol : UInt8
  displaymode : UInt8
  numlines : UInt8
  oled : Bool
  cols : UInt8
  rows : UInt8
  backlightval : UInt8
  backlight_val : backlightval = lcdOffBacklight ∨ backlightval = lcdOnBacklight
  deriving DecidableEq

/-- The driver and what it has set on the expander. -/
structure LcdBus where
  lcd : LiquidCrystal
  sent : List UInt8
  deriving DecidableEq

namespace LcdBus

/-- `LiquidCrystal_I2C lcd(addr, cols, rows)`; what the constructor does not
assign is zero, the object being global. -/
def make (cols rows : UInt8) : LcdBus where
  lcd := ⟨0, 0, 0, 0, false, cols, rows, lcdOffBacklight, .inl rfl⟩
  sent := []

/-! ## Low level -/

/-- One byte for the expander, the light added to it. -/
def expanderWrite (data : UInt8) (b : LcdBus) : LcdBus :=
  { b with sent := b.sent ++ [data ||| b.lcd.backlightval] }

/-- The data once with the enable line up and once with it down. -/
def pulseEnable (data : UInt8) (b : LcdBus) : LcdBus :=
  (b.expanderWrite (data ||| lcdEn)).expanderWrite (data &&& ~~~lcdEn)

/-- Four bits, taken over by the controller at the fall of the pulse. -/
def write4bits (value : UInt8) (b : LcdBus) : LcdBus :=
  (b.expanderWrite value).pulseEnable value

/-! ## Mid level -/

/-- A byte as two nibbles, the upper one first. -/
def send (value mode : UInt8) (b : LcdBus) : LcdBus :=
  let highnib := value &&& 0xf0
  let lownib := (value <<< 4) &&& (0xf0 : UInt8)
  (b.write4bits (highnib ||| mode)).write4bits (lownib ||| mode)

/-- An instruction: register select down. -/
def command (value : UInt8) (b : LcdBus) : LcdBus := b.send value 0

/-- A character: register select up. -/
def write (value : UInt8) (b : LcdBus) : LcdBus := b.send value lcdRs

/-! ## High level -/

/-- `row_offsets[row]`.  The table has four entries; `stray` is the low byte of
what lies in memory where an entry behind them would be. -/
def rowOffset (stray row : UInt8) : UInt8 := [0x00, 0x40, 0x14, 0x54].getD row.toNat stray

/-- `setCursor(col, row)`.  The guard lets `row = _numlines` pass, and on a
display of four lines or more, or of none, the row can lie behind the table. -/
def setCursor (stray col row : UInt8) (b : LcdBus) : LcdBus :=
  let row := if row > b.lcd.numlines then b.lcd.numlines - 1 else row
  b.command (lcdSetDdramAddr ||| (col + rowOffset stray row))

/-- `clear()`; row 0 is in the table on every display, so no stray byte is
read. -/
def clear (b : LcdBus) : LcdBus :=
  let b := b.command lcdClearDisplay
  if b.lcd.oled then b.setCursor 0 0 0 else b

/-- `home()`. -/
def home (b : LcdBus) : LcdBus := b.command lcdReturnHome

/-- `_displaycontrol = value; command(LCD_DISPLAYCONTROL | _displaycontrol)`. -/
def setDisplaycontrol (value : UInt8) (b : LcdBus) : LcdBus :=
  command (lcdDisplayControl ||| value) { b with lcd := { b.lcd with displaycontrol := value } }

/-- `noDisplay()`; the text stays in the memory of the display. -/
def noDisplay (b : LcdBus) : LcdBus :=
  b.setDisplaycontrol (b.lcd.displaycontrol &&& ~~~lcdDisplayOn)

/-- `display()`. -/
def display (b : LcdBus) : LcdBus :=
  b.setDisplaycontrol (b.lcd.displaycontrol ||| lcdDisplayOn)

/-- `noCursor()`: no underline at the cursor. -/
def noCursor (b : LcdBus) : LcdBus :=
  b.setDisplaycontrol (b.lcd.displaycontrol &&& ~~~lcdCursorOn)

/-- `cursor()`. -/
def cursor (b : LcdBus) : LcdBus :=
  b.setDisplaycontrol (b.lcd.displaycontrol ||| lcdCursorOn)

/-- `noBlink()`: the cell at the cursor does not blink. -/
def noBlink (b : LcdBus) : LcdBus :=
  b.setDisplaycontrol (b.lcd.displaycontrol &&& ~~~lcdBlinkOn)

/-- `blink()`. -/
def blink (b : LcdBus) : LcdBus :=
  b.setDisplaycontrol (b.lcd.displaycontrol ||| lcdBlinkOn)

/-- `scrollDisplayLeft()`; the memory is not changed. -/
def scrollDisplayLeft (b : LcdBus) : LcdBus :=
  b.command (lcdCursorShift ||| lcdDisplayMove ||| lcdMoveLeft)

/-- `scrollDisplayRight()`. -/
def scrollDisplayRight (b : LcdBus) : LcdBus :=
  b.command (lcdCursorShift ||| lcdDisplayMove ||| lcdMoveRight)

/-- `_displaymode = value; command(LCD_ENTRYMODESET | _displaymode)`. -/
def setDisplaymode (value : UInt8) (b : LcdBus) : LcdBus :=
  command (lcdEntryModeSet ||| value) { b with lcd := { b.lcd with displaymode := value } }

/-- `leftToRight()`. -/
def leftToRight (b : LcdBus) : LcdBus :=
  b.setDisplaymode (b.lcd.displaymode ||| lcdEntryLeft)

/-- `rightToLeft()`. -/
def rightToLeft (b : LcdBus) : LcdBus :=
  b.setDisplaymode (b.lcd.displaymode &&& ~~~lcdEntryLeft)

/-- `autoscroll()`: the text moves, the cursor stays. -/
def autoscroll (b : LcdBus) : LcdBus :=
  b.setDisplaymode (b.lcd.displaymode ||| lcdEntryShiftIncrement)

/-- `noAutoscroll()`. -/
def noAutoscroll (b : LcdBus) : LcdBus :=
  b.setDisplaymode (b.lcd.displaymode &&& ~~~lcdEntryShiftIncrement)

/-- `createChar` over the first eight bytes of `charmap`. -/
def createChar (location : UInt8) (charmap : List UInt8) (b : LcdBus) : LcdBus :=
  let location := location &&& 0x7
  (charmap.take 8).foldl (fun b v => b.write v)
    (b.command (lcdSetCgramAddr ||| location <<< 3))

/-- `noBacklight()`: the light goes with the next byte, a 0 of its own. -/
def noBacklight (b : LcdBus) : LcdBus :=
  expanderWrite 0
    { b with lcd :=
        { b.lcd with backlightval := lcdOffBacklight, backlight_val := .inl rfl } }

/-- `backlight()`. -/
def backlight (b : LcdBus) : LcdBus :=
  expanderWrite 0
    { b with lcd :=
        { b.lcd with backlightval := lcdOnBacklight, backlight_val := .inr rfl } }

/-! ## Initialisation -/

/-- `begin(cols, lines, dotsize)`; `_displayfunction` is what the caller left
in it. -/
def begin (lines dotsize : UInt8) (b : LcdBus) : LcdBus :=
  let f := b.lcd.displayfunction
  let f := if lines > 1 then f ||| lcd2Line else f
  let f := if dotsize ≠ 0 ∧ lines = 1 then f ||| lcd5x10Dots else f
  let b : LcdBus := { b with lcd := { b.lcd with displayfunction := f, numlines := lines } }
  let b := b.expanderWrite b.lcd.backlightval
  -- three times "8-bit interface", then "4-bit interface"
  let b := b.write4bits ((0x03 : UInt8) <<< 4)
  let b := b.write4bits ((0x03 : UInt8) <<< 4)
  let b := b.write4bits ((0x03 : UInt8) <<< 4)
  let b := b.write4bits ((0x02 : UInt8) <<< 4)
  let b := b.command (lcdFunctionSet ||| b.lcd.displayfunction)
  let b : LcdBus :=
    { b with lcd := { b.lcd with displaycontrol := lcdDisplayOn ||| lcdCursorOff ||| lcdBlinkOff } }
  let b := b.display
  let b := b.clear
  let b := b.setDisplaymode (lcdEntryLeft ||| lcdEntryShiftDecrement)
  b.home

/-- `init_priv()`; the bus is begun elsewhere and sets nothing. -/
def initPriv (b : LcdBus) : LcdBus :=
  begin b.lcd.rows lcd5x8Dots
    { b with lcd := { b.lcd with displayfunction := lcd4BitMode ||| lcd1Line ||| lcd5x8Dots } }

/-- `init()`. -/
def init (b : LcdBus) : LcdBus := b.initPriv

/-! ## `Print` -/

/-- `print(const char[])`; the texts of the sketch are ASCII. -/
def print (text : List Char) (b : LcdBus) : LcdBus :=
  text.foldl (fun b c => b.write (.ofNat c.toNat)) b

/-- `print(n)`, in decimal. -/
def printNumber (n : Nat) (b : LcdBus) : LcdBus := b.print (Nat.toDigits 10 n)

end LcdBus

/-! ## The LCD of the sketch -/

/-- One command of a screen.  The screens stay on the two rows of the display,
which the table has. -/
def LcdCmd.drive : LcdCmd → LcdBus → LcdBus
  | .clear => LcdBus.clear
  | .setCursor col row => LcdBus.setCursor 0 (.ofNat col) (.ofNat row)
  | .print text => LcdBus.print text.toList
  | .printNumber n => LcdBus.printNumber n

/-- What an entry of the log makes the driver do. -/
def Event.drive : Event → LcdBus → LcdBus
  | .lcdInit => LcdBus.init
  | .backlight => LcdBus.backlight
  | .noBacklight => LcdBus.noBacklight
  | .lcd cmds => fun b => cmds.foldl (fun b cmd => cmd.drive b) b
  | _ => id

/-- The driver after a run: `LiquidCrystal_I2C lcd(0x27, 16, 2)` of `main.cpp`
and everything the log says since. -/
def lcdBus : Log → LcdBus
  | [] => LcdBus.make 16 2
  | e :: older => e.event.drive (lcdBus older)

end SprinklersAlarmClock
