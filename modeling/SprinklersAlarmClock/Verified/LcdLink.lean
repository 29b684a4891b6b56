import SprinklersAlarmClock.Logic.History
import SprinklersAlarmClock.Firmware.Panel

/-!
# The link to the panel

The driver and the controller share a bus of seven wires and no acknowledgement:
whatever the controller believed when the sketch starts, the driver can only
send.  This module proves that the initialisation brings the controller into one
known state from every state it can be in (`init_resets`), and that from there
on every sequence of driver calls has exactly the effect each call is meant to
have (`calls_display`), although a call is sent as up to 54 settings of the
expander and computed from the driver's own copies of the controller's
registers.

One of these copies does get stale: clearing the display makes the controller
write from left to right again, and the driver does not take note of it.
`Display.ltr` keeps that difference apart.
-/

namespace SprinklersAlarmClock

open Logic

/-- The panel after everything the driver has sent. -/
def panelOf (low : UInt8) (p : Panel) (b : LcdBus) : Panel := p.feed low b.sent

/-! ## One setting -/

/-- The three lines between the register select and the data are low. -/
def Plain (v : UInt8) : Prop := v &&& 0x0E = 0

instance (v : UInt8) : Decidable (Plain v) := inferInstanceAs (Decidable (_ = _))

/-- The values `_backlightval` takes. -/
def backlightVals : List UInt8 := [lcdOffBacklight, lcdOnBacklight]

theorem LiquidCrystal.backlightval_mem (lcd : LiquidCrystal) :
    lcd.backlightval ∈ backlightVals := by
  rcases lcd.backlight_val with h | h <;> simp [backlightVals, h]

/-- What the lines say under, before and after a pulse. -/
structure PulseLines (v bl : UInt8) : Prop where
  before : Panel.enabled (v ||| bl) = false
  under : Panel.enabled ((v ||| lcdEn) ||| bl) = true
  after : Panel.enabled ((v &&& ~~~lcdEn) ||| bl) = false
  select : ((v ||| lcdEn) ||| bl) &&& lcdRs = v &&& lcdRs
  write : ((v ||| lcdEn) ||| bl) &&& lcdRw = 0
  high : highHalf ((v ||| lcdEn) ||| bl) = highHalf v
  low : ((v ||| lcdEn) ||| bl) >>> 4 = v >>> 4
  light : ((v &&& ~~~lcdEn) ||| bl) &&& lcdOnBacklight = bl

theorem pulseLines {v bl : UInt8} (hv : Plain v) (hbl : bl ∈ backlightVals) :
    PulseLines v bl := by
  have hall : ∀ v : UInt8, Plain v → ∀ bl ∈ backlightVals,
      (Panel.enabled (v ||| bl) = false ∧ Panel.enabled ((v ||| lcdEn) ||| bl) = true ∧
        Panel.enabled ((v &&& ~~~lcdEn) ||| bl) = false) ∧
      (((v ||| lcdEn) ||| bl) &&& lcdRs = v &&& lcdRs ∧
        ((v ||| lcdEn) ||| bl) &&& lcdRw = 0) ∧
      (highHalf ((v ||| lcdEn) ||| bl) = highHalf v ∧
        ((v ||| lcdEn) ||| bl) >>> 4 = v >>> 4) ∧
      ((v &&& ~~~lcdEn) ||| bl) &&& lcdOnBacklight = bl :=
    forall_byte (by decide +kernel)
  obtain ⟨⟨h1, h2, h3⟩, ⟨h4, h5⟩, ⟨h6, h7⟩, h8⟩ := hall v hv bl hbl
  exact ⟨h1, h2, h3, h4, h5, h6, h7, h8⟩

/-- What the controller takes over from a plain value. -/
def Controller.take (low v : UInt8) (c : Controller) : Controller :=
  match c.interface with
  | .eightBit => c.byte (decide (v &&& lcdRs ≠ 0)) (highHalf v ||| (low &&& 0x0F))
  | .fourBit none => { c with interface := .fourBit (some (highHalf v)) }
  | .fourBit (some high) =>
      Controller.byte (decide (v &&& lcdRs ≠ 0)) (joinHalves high v)
        { c with interface := .fourBit none }

theorem latch_pulsed {v bl : UInt8} (h : PulseLines v bl) (low : UInt8) (c : Controller) :
    c.latch low ((v ||| lcdEn) ||| bl) = c.take low v := by
  unfold Controller.latch Controller.take joinHalves
  rw [h.write, h.select, h.high, h.low]
  rcases c.interface with _ | _ | high
  all_goals simp

/-! ## The bus at rest -/

/-- Between two calls: enable is low and the backlight is what the driver last
asked for. -/
structure Rests (b : LcdBus) (p : Panel) : Prop where
  enable : Panel.enabled p.lines = false
  light : p.lines &&& lcdOnBacklight = b.lcd.backlightval

section Link

variable {low : UInt8} {p : Panel} {b : LcdBus}

theorem panelOf_write4bits {v : UInt8} (hv : Plain v)
    (h : Panel.enabled (panelOf low p b).lines = false) :
    panelOf low p (b.write4bits v) =
      ⟨(v &&& ~~~lcdEn) ||| b.lcd.backlightval, (panelOf low p b).inner.take low v⟩ := by
  have hlines := pulseLines hv b.lcd.backlightval_mem
  have hpulse : Strobed.feedAll Panel.enabled (Controller.latch low) (panelOf low p b)
      [v ||| b.lcd.backlightval, (v ||| lcdEn) ||| b.lcd.backlightval,
        (v &&& ~~~lcdEn) ||| b.lcd.backlightval] =
      ⟨(v &&& ~~~lcdEn) ||| b.lcd.backlightval,
        (panelOf low p b).inner.latch low ((v ||| lcdEn) ||| b.lcd.backlightval)⟩ :=
    Strobed.feed_pulse h hlines.before hlines.under hlines.after
  have hsent : (b.write4bits v).sent = b.sent ++
      [v ||| b.lcd.backlightval, (v ||| lcdEn) ||| b.lcd.backlightval,
        (v &&& ~~~lcdEn) ||| b.lcd.backlightval] := by
    simp [LcdBus.write4bits, LcdBus.pulseEnable, LcdBus.expanderWrite]
  rw [latch_pulsed hlines] at hpulse
  rw [← hpulse]
  unfold panelOf Panel.feed
  rw [hsent, Strobed.feedAll_append]

theorem rests_write4bits {v : UInt8} (hv : Plain v)
    (h : Panel.enabled (panelOf low p b).lines = false) :
    Rests (b.write4bits v) (panelOf low p (b.write4bits v)) := by
  have hlines := pulseLines hv b.lcd.backlightval_mem
  rw [panelOf_write4bits hv h]
  exact ⟨hlines.after, hlines.light⟩

/-- The driver `b` and the panel it has been talking to since `p` are between
two calls, and the controller is in the state `c`. -/
structure Linked (low : UInt8) (p : Panel) (b : LcdBus) (c : Controller) : Prop where
  rests : Rests b (panelOf low p b)
  inner : (panelOf low p b).inner = c
  interface : c.interface = .fourBit none

/-! ## One byte -/

/-- The modes a byte is sent in. -/
def sendModes : List UInt8 := [0, lcdRs]

/-- A half of a byte with the register select beside it. -/
structure HalfLines (v mode : UInt8) : Prop where
  plainHigh : Plain (highHalf v ||| mode)
  plainLow : Plain (lowHalf v ||| mode)
  select : decide ((lowHalf v ||| mode) &&& lcdRs ≠ 0) = decide (mode ≠ 0)
  joined : joinHalves (highHalf (highHalf v ||| mode)) (lowHalf v ||| mode) = v

theorem halfLines (v : UInt8) {mode : UInt8} (hmode : mode ∈ sendModes) :
    HalfLines v mode := by
  have hall : ∀ v : UInt8, ∀ mode ∈ sendModes,
      (Plain (highHalf v ||| mode) ∧ Plain (lowHalf v ||| mode)) ∧
      decide ((lowHalf v ||| mode) &&& lcdRs ≠ 0) = decide (mode ≠ 0) ∧
      highHalf (highHalf v ||| mode) = highHalf v :=
    forall_byte (by decide +kernel)
  obtain ⟨⟨hhigh, hlow⟩, hselect, hidem⟩ := hall v mode hmode
  have hsmall : mode < 16 := by
    have hmodes : ∀ mode ∈ sendModes, mode < 16 := by decide +kernel
    exact hmodes mode hmode
  refine ⟨hhigh, hlow, hselect, ?_⟩
  have hjoin := joinHalves_marked (v := v) (m := 0) rfl hsmall
  rw [UInt8.or_zero] at hjoin
  calc joinHalves (highHalf (highHalf v ||| mode)) (lowHalf v ||| mode)
      = joinHalves (highHalf v) (lowHalf v ||| mode) := by
        rw [hidem]
    _ = v := hjoin

theorem Linked.send {c : Controller} (h : Linked low p b c) (v mode : UInt8)
    (hmode : mode ∈ sendModes) :
    Rests (b.send v mode) (panelOf low p (b.send v mode)) ∧
      (panelOf low p (b.send v mode)).inner = c.byte (decide (mode ≠ 0)) v := by
  have hlines := halfLines v hmode
  have hfirst := panelOf_write4bits hlines.plainHigh h.rests.enable
  have hrests := rests_write4bits hlines.plainHigh h.rests.enable
  have hsecond := panelOf_write4bits hlines.plainLow hrests.enable
  refine ⟨rests_write4bits hlines.plainLow hrests.enable, ?_⟩
  show (panelOf low p ((b.write4bits (highHalf v ||| mode)).write4bits
    (lowHalf v ||| mode))).inner = _
  rw [hsecond, hfirst, h.inner]
  show Controller.take low (lowHalf v ||| mode) (c.take low (highHalf v ||| mode)) = _
  have hhigh : c.take low (highHalf v ||| mode) =
      { c with interface := .fourBit (some (highHalf (highHalf v ||| mode))) } := by
    unfold Controller.take
    rw [h.interface]
  have hback : ({ c with interface := .fourBit none } : Controller) = c := by
    rw [← h.interface]
  rw [hhigh]
  unfold Controller.take
  dsimp only
  rw [hlines.joined, hlines.select, hback]

theorem Linked.command {c : Controller} (h : Linked low p b c) {v : UInt8}
    (hv : (c.instruction v).interface = .fourBit none) :
    Linked low p (b.command v) (c.instruction v) := by
  obtain ⟨hrests, hinner⟩ := h.send v 0 (by decide)
  exact ⟨hrests, hinner, hv⟩

theorem datum_interface (v : UInt8) (c : Controller) :
    (c.datum v).interface = c.interface := by
  unfold Controller.datum
  rcases c.address with _ | a
  · rfl
  · dsimp only
    split
    · split <;> rfl
    · rfl

theorem Linked.write {c : Controller} (h : Linked low p b c) (v : UInt8) :
    Linked low p (b.write v) (c.datum v) := by
  obtain ⟨hrests, hinner⟩ := h.send v lcdRs (by decide)
  exact ⟨hrests, hinner, (datum_interface v c).trans h.interface⟩

/-- The driver's own variables do not matter to the link, but for the
backlight. -/
theorem Linked.of_lcd {c : Controller} (h : Linked low p b c) {lcd : LiquidCrystal}
    (hlcd : lcd.backlightval = b.lcd.backlightval) :
    Linked low p { b with lcd := lcd } c :=
  ⟨⟨h.rests.enable, h.rests.light.trans hlcd.symm⟩, h.inner, h.interface⟩

end Link

/-! ## Instructions -/

/-- The display-control flags as the driver packs them. -/
def controlByte (on cursor blink : Bool) : UInt8 :=
  (if on then lcdDisplayOn else 0) ||| (if cursor then lcdCursorOn else 0) |||
    (if blink then lcdBlinkOn else 0)

/-- The entry-mode flags as the driver packs them. -/
def modeByte (ltr shifting : Bool) : UInt8 :=
  (if ltr then lcdEntryLeft else 0) ||| (if shifting then lcdEntryShiftIncrement else 0)

theorem instruction_control (c : Controller) (on cursor blink : Bool) :
    c.instruction (lcdDisplayControl ||| controlByte on cursor blink) =
      { c with on := on, cursor := cursor, blink := blink } := by
  cases on <;> cases cursor <;> cases blink <;> rfl

theorem instruction_mode (c : Controller) (ltr shifting : Bool) :
    c.instruction (lcdEntryModeSet ||| modeByte ltr shifting) =
      { c with increment := ltr, shifting := shifting } := by
  cases ltr <;> cases shifting <;> rfl

theorem instruction_address (c : Controller) (v : UInt8) :
    c.instruction (lcdSetDdramAddr ||| v) = { c with address := some (v.toNat % 128) } := by
  have hall : ∀ v : UInt8, lcdSetDdramAddr ||| v ≥ lcdSetDdramAddr ∧
      ((lcdSetDdramAddr ||| v) &&& 0x7F).toNat = v.toNat % 128 :=
    forall_byte (by decide +kernel)
  obtain ⟨hge, haddr⟩ := hall v
  unfold Controller.instruction
  rw [if_pos hge]
  exact congrArg (fun a => { c with address := some a }) haddr

theorem instruction_shape (c : Controller) (v : UInt8) :
    c.instruction (lcdSetCgramAddr ||| (v &&& 0x7) <<< 3) = { c with address := none } := by
  have hall : ∀ v : UInt8, ¬ (lcdSetCgramAddr ||| (v &&& 0x7) <<< 3 ≥ lcdSetDdramAddr) ∧
      lcdSetCgramAddr ||| (v &&& 0x7) <<< 3 ≥ lcdSetCgramAddr :=
    forall_byte (by decide +kernel)
  obtain ⟨hlt, hge⟩ := hall v
  unfold Controller.instruction
  rw [if_neg hlt, if_pos hge]

/-! ## Cursor and clear -/

/-- The address the cursor is sent to on a display of `lines` lines: the guard
lets `row = lines` pass, and a row the table of offsets does not have is sent
where the byte behind the table says. -/
def cursorAddress (lines stray col row : UInt8) : Nat :=
  let row := if row > lines then lines - 1 else row
  (col.toNat + (LcdBus.rowOffset stray row).toNat) % 128

theorem instruction_cursor (c : Controller) (lines stray col row : UInt8) :
    c.instruction (lcdSetDdramAddr |||
      (col + LcdBus.rowOffset stray (if row > lines then lines - 1 else row))) =
      { c with address := some (cursorAddress lines stray col row) } := by
  have hmod : ∀ n : Nat, n % 2 ^ 8 % 128 = n % 128 := fun n => by omega
  rw [instruction_address, UInt8.toNat_add, hmod]
  rfl

/-- The cleared controller. -/
def Controller.cleared (c : Controller) : Controller :=
  { c with
    memory := fun _ => Controller.blank, address := some 0, shift := 0, increment := true }

theorem clear_lcd (b : LcdBus) : b.clear.lcd = b.lcd := by
  unfold LcdBus.clear
  dsimp only
  split <;> rfl

section Linked

variable {low : UInt8} {p : Panel} {b : LcdBus} {c : Controller}

theorem Linked.setCursor (h : Linked low p b c) (stray col row : UInt8) :
    Linked low p (b.setCursor stray col row)
      { c with address := some (cursorAddress b.lcd.numlines stray col row) } := by
  have haddress := instruction_cursor c b.lcd.numlines stray col row
  have hcommand := h.command (v := lcdSetDdramAddr |||
    (col + LcdBus.rowOffset stray (if row > b.lcd.numlines then b.lcd.numlines - 1 else row)))
    (by rw [haddress]; exact h.interface)
  rw [haddress] at hcommand
  exact hcommand

/-- An OLED module is sent home as well, where the clearing has put it. -/
theorem Linked.clear (h : Linked low p b c) : Linked low p b.clear c.cleared := by
  have hclear : Linked low p (b.command lcdClearDisplay) c.cleared := h.command h.interface
  have hzero : cursorAddress b.lcd.numlines 0 0 0 = 0 := by
    have hrow : ¬ (0 : UInt8) > b.lcd.numlines := by
      rw [gt_iff_lt, UInt8.lt_iff_toNat_lt]
      exact Nat.not_lt_zero _
    unfold cursorAddress
    rw [if_neg hrow]
    rfl
  unfold LcdBus.clear
  dsimp only
  split
  · have hcursor := hclear.setCursor 0 0 0
    rw [show (b.command lcdClearDisplay).lcd = b.lcd from rfl, hzero] at hcursor
    exact hcursor
  · exact hclear

theorem Linked.setDisplaycontrol (h : Linked low p b c) (on cursor blink : Bool) {v : UInt8}
    (hv : v = controlByte on cursor blink) :
    Linked low p (b.setDisplaycontrol v) { c with on := on, cursor := cursor, blink := blink } := by
  have hlcd : Linked low p { b with lcd := { b.lcd with displaycontrol := v } } c :=
    h.of_lcd rfl
  have heffect : c.instruction (lcdDisplayControl ||| v) =
      { c with on := on, cursor := cursor, blink := blink } := by
    rw [hv]
    exact instruction_control c on cursor blink
  have hcommand := hlcd.command (v := lcdDisplayControl ||| v)
    (by rw [heffect]; exact h.interface)
  rw [heffect] at hcommand
  exact hcommand

theorem Linked.setDisplaymode (h : Linked low p b c) (ltr shifting : Bool) {v : UInt8}
    (hv : v = modeByte ltr shifting) :
    Linked low p (b.setDisplaymode v) { c with increment := ltr, shifting := shifting } := by
  have hlcd : Linked low p { b with lcd := { b.lcd with displaymode := v } } c :=
    h.of_lcd rfl
  have heffect : c.instruction (lcdEntryModeSet ||| v) =
      { c with increment := ltr, shifting := shifting } := by
    rw [hv]
    exact instruction_mode c ltr shifting
  have hcommand := hlcd.command (v := lcdEntryModeSet ||| v)
    (by rw [heffect]; exact h.interface)
  rw [heffect] at hcommand
  exact hcommand

end Linked

/-! ## What the calls mean -/

/-- A call of the driver, `init` apart.  `setCursor` carries the byte found
behind the table of row offsets, whatever it is when the call is made. -/
inductive LcdCall where
  | clear
  | home
  | setCursor (stray col row : UInt8)
  | noDisplay
  | display
  | noCursor
  | cursor
  | noBlink
  | blink
  | scrollDisplayLeft
  | scrollDisplayRight
  | leftToRight
  | rightToLeft
  | autoscroll
  | noAutoscroll
  | createChar (location : UInt8) (charmap : List UInt8)
  | noBacklight
  | backlight
  | write (value : UInt8)
  deriving DecidableEq, Repr

/-- The member function a call runs. -/
def LcdCall.apply : LcdCall → LcdBus → LcdBus
  | .clear => LcdBus.clear
  | .home => LcdBus.home
  | .setCursor stray col row => LcdBus.setCursor stray col row
  | .noDisplay => LcdBus.noDisplay
  | .display => LcdBus.display
  | .noCursor => LcdBus.noCursor
  | .cursor => LcdBus.cursor
  | .noBlink => LcdBus.noBlink
  | .blink => LcdBus.blink
  | .scrollDisplayLeft => LcdBus.scrollDisplayLeft
  | .scrollDisplayRight => LcdBus.scrollDisplayRight
  | .leftToRight => LcdBus.leftToRight
  | .rightToLeft => LcdBus.rightToLeft
  | .autoscroll => LcdBus.autoscroll
  | .noAutoscroll => LcdBus.noAutoscroll
  | .createChar location charmap => LcdBus.createChar location charmap
  | .noBacklight => LcdBus.noBacklight
  | .backlight => LcdBus.backlight
  | .write value => LcdBus.write value

/-- A display as its user thinks of it: the controller, the direction of
writing last asked for and the light. -/
structure Display where
  ctl : Controller
  ltr : Bool
  light : Bool

/-- What a call is to do: each changes what its name says and nothing else, but
`clear`, which also turns the direction of writing back. -/
def LcdCall.meaning (lines : UInt8) : LcdCall → Display → Display
  | .clear, d => { d with ctl := d.ctl.cleared }
  | .home, d => { d with ctl := { d.ctl with address := some 0, shift := 0 } }
  | .setCursor stray col row, d =>
      { d with ctl := { d.ctl with address := some (cursorAddress lines stray col row) } }
  | .noDisplay, d => { d with ctl := { d.ctl with on := false } }
  | .display, d => { d with ctl := { d.ctl with on := true } }
  | .noCursor, d => { d with ctl := { d.ctl with cursor := false } }
  | .cursor, d => { d with ctl := { d.ctl with cursor := true } }
  | .noBlink, d => { d with ctl := { d.ctl with blink := false } }
  | .blink, d => { d with ctl := { d.ctl with blink := true } }
  | .scrollDisplayLeft, d => { d with ctl := d.ctl.shiftLeft }
  | .scrollDisplayRight, d => { d with ctl := d.ctl.shiftRight }
  | .leftToRight, d => { d with ltr := true, ctl := { d.ctl with increment := true } }
  | .rightToLeft, d => { d with ltr := false, ctl := { d.ctl with increment := false } }
  | .autoscroll, d => { d with ctl := { d.ctl with increment := d.ltr, shifting := true } }
  | .noAutoscroll, d => { d with ctl := { d.ctl with increment := d.ltr, shifting := false } }
  | .createChar _ _, d => { d with ctl := { d.ctl with address := none } }
  | .noBacklight, d => { d with light := false }
  | .backlight, d => { d with light := true }
  | .write value, d => { d with ctl := d.ctl.datum value }

/-! ## The calls do what they mean -/

/-- The driver and the panel are between two calls, the display is `d`, and the
driver's copies of its registers are right. -/
structure Drives (low : UInt8) (p : Panel) (lines : UInt8) (b : LcdBus) (d : Display) :
    Prop where
  linked : Linked low p b d.ctl
  control : b.lcd.displaycontrol = controlByte d.ctl.on d.ctl.cursor d.ctl.blink
  mode : b.lcd.displaymode = modeByte d.ltr d.ctl.shifting
  light : b.lcd.backlightval = if d.light then lcdOnBacklight else lcdOffBacklight
  numlines : b.lcd.numlines = lines

section Calls

variable {low : UInt8} {p : Panel} {lines : UInt8} {b : LcdBus} {d : Display}

/-- Bytes that leave the flags alone. -/
theorem Drives.of_linked (h : Drives low p lines b d) {b' : LcdBus} {c : Controller}
    (hl : Linked low p b' c) (hlcd : b'.lcd = b.lcd)
    (hc : (c.on, c.cursor, c.blink, c.shifting) =
      (d.ctl.on, d.ctl.cursor, d.ctl.blink, d.ctl.shifting)) :
    Drives low p lines b' { d with ctl := c } := by
  simp only [Prod.mk.injEq] at hc
  obtain ⟨hon, hcursor, hblink, hshifting⟩ := hc
  have hcontrol := h.control
  have hmode := h.mode
  rw [← hon, ← hcursor, ← hblink, ← hlcd] at hcontrol
  rw [← hshifting, ← hlcd] at hmode
  refine ⟨hl, hcontrol, hmode, ?_, ?_⟩
  · rw [hlcd]
    exact h.light
  · rw [hlcd]
    exact h.numlines

/-- A command that leaves the flags alone. -/
theorem Drives.command (h : Drives low p lines b d) {v : UInt8} {c : Controller}
    (hv : d.ctl.instruction v = c) (hi : c.interface = .fourBit none)
    (hc : (c.on, c.cursor, c.blink, c.shifting) =
      (d.ctl.on, d.ctl.cursor, d.ctl.blink, d.ctl.shifting)) :
    Drives low p lines (b.command v) { d with ctl := c } := by
  subst hv
  exact h.of_linked (h.linked.command hi) rfl hc

theorem Drives.setDisplaycontrol (h : Drives low p lines b d) (on cursor blink : Bool)
    {v : UInt8} (hv : v = controlByte on cursor blink) :
    Drives low p lines (b.setDisplaycontrol v)
      { d with ctl := { d.ctl with on := on, cursor := cursor, blink := blink } } :=
  ⟨h.linked.setDisplaycontrol on cursor blink hv, hv, h.mode, h.light, h.numlines⟩

theorem Drives.setDisplaymode (h : Drives low p lines b d) (ltr shifting : Bool)
    {v : UInt8} (hv : v = modeByte ltr shifting) :
    Drives low p lines (b.setDisplaymode v)
      { d with ltr := ltr, ctl := { d.ctl with increment := ltr, shifting := shifting } } :=
  ⟨h.linked.setDisplaymode ltr shifting hv, h.control, hv, h.light, h.numlines⟩

theorem Drives.setCursor (h : Drives low p lines b d) (stray col row : UInt8) :
    Drives low p lines (b.setCursor stray col row)
      { d with ctl := { d.ctl with address := some (cursorAddress lines stray col row) } } := by
  have hlinked := h.linked.setCursor stray col row
  rw [h.numlines] at hlinked
  exact h.of_linked hlinked rfl rfl

theorem Drives.clear (h : Drives low p lines b d) :
    Drives low p lines b.clear (LcdCall.meaning lines .clear d) :=
  h.of_linked h.linked.clear (clear_lcd b) rfl

/-- What is written while the controller points at a character shape leaves the
display as it is. -/
theorem Drives.writes_shape (h : Drives low p lines b d) (hd : d.ctl.address = none)
    (values : List UInt8) :
    Drives low p lines (values.foldl (fun b v => b.write v) b) d := by
  induction values generalizing b with
  | nil => exact h
  | cons v values ih =>
      have hkeep : d.ctl.datum v = d.ctl := by
        unfold Controller.datum
        rw [hd]
      have hlinked := h.linked.write v
      rw [hkeep] at hlinked
      exact ih ⟨hlinked, h.control, h.mode, h.light, h.numlines⟩

theorem Drives.createChar (h : Drives low p lines b d) (location : UInt8)
    (charmap : List UInt8) :
    Drives low p lines (b.createChar location charmap)
      { d with ctl := { d.ctl with address := none } } :=
  (h.command (instruction_shape d.ctl location) h.linked.interface rfl).writes_shape rfl _

theorem Drives.write (h : Drives low p lines b d) (v : UInt8) :
    Drives low p lines (b.write v) { d with ctl := d.ctl.datum v } := by
  refine h.of_linked (h.linked.write v) rfl ?_
  unfold Controller.datum
  rcases d.ctl.address with _ | a
  · rfl
  · dsimp only
    split
    · split <;> rfl
    · rfl

/-- The light is switched without a pulse. -/
theorem Drives.light_write (h : Drives low p lines b d) (light : Bool) {lcd : LiquidCrystal}
    (hlcd : lcd.backlightval = if light then lcdOnBacklight else lcdOffBacklight)
    (hkeep : (lcd.displaycontrol, lcd.displaymode, lcd.numlines) =
      (b.lcd.displaycontrol, b.lcd.displaymode, b.lcd.numlines)) :
    Drives low p lines (LcdBus.expanderWrite 0 { b with lcd := lcd })
      { d with light := light } := by
  simp only [Prod.mk.injEq] at hkeep
  obtain ⟨hcontrol, hmode, hlines⟩ := hkeep
  have hpanel : panelOf low p (LcdBus.expanderWrite 0 { b with lcd := lcd }) =
      ⟨0 ||| lcd.backlightval, (panelOf low p b).inner⟩ := by
    unfold panelOf Panel.feed LcdBus.expanderWrite
    rw [Strobed.feedAll_append]
    exact Strobed.feed_low h.linked.rests.enable _
  have hrest : ∀ bl ∈ backlightVals, Panel.enabled (0 ||| bl) = false ∧
      (0 ||| bl) &&& lcdOnBacklight = bl := by
    decide +kernel
  obtain ⟨henable, hlight⟩ := hrest _ lcd.backlightval_mem
  refine ⟨⟨?_, ?_, h.linked.interface⟩, ?_, ?_, hlcd, hlines.trans h.numlines⟩
  · rw [hpanel]
    exact ⟨henable, hlight⟩
  · rw [hpanel]
    exact h.linked.inner
  · exact hcontrol.trans h.control
  · exact hmode.trans h.mode

theorem Drives.call (h : Drives low p lines b d) (call : LcdCall) :
    Drives low p lines (call.apply b) (call.meaning lines d) := by
  have hcontrol := h.control
  have hmode := h.mode
  cases call with
  | clear => exact h.clear
  | home => exact h.command rfl h.linked.interface rfl
  | setCursor stray col row => exact h.setCursor stray col row
  | noDisplay =>
      refine h.setDisplaycontrol false d.ctl.cursor d.ctl.blink ?_
      rw [hcontrol]
      cases d.ctl.on <;> cases d.ctl.cursor <;> cases d.ctl.blink <;> rfl
  | display =>
      refine h.setDisplaycontrol true d.ctl.cursor d.ctl.blink ?_
      rw [hcontrol]
      cases d.ctl.on <;> cases d.ctl.cursor <;> cases d.ctl.blink <;> rfl
  | noCursor =>
      refine h.setDisplaycontrol d.ctl.on false d.ctl.blink ?_
      rw [hcontrol]
      cases d.ctl.on <;> cases d.ctl.cursor <;> cases d.ctl.blink <;> rfl
  | cursor =>
      refine h.setDisplaycontrol d.ctl.on true d.ctl.blink ?_
      rw [hcontrol]
      cases d.ctl.on <;> cases d.ctl.cursor <;> cases d.ctl.blink <;> rfl
  | noBlink =>
      refine h.setDisplaycontrol d.ctl.on d.ctl.cursor false ?_
      rw [hcontrol]
      cases d.ctl.on <;> cases d.ctl.cursor <;> cases d.ctl.blink <;> rfl
  | blink =>
      refine h.setDisplaycontrol d.ctl.on d.ctl.cursor true ?_
      rw [hcontrol]
      cases d.ctl.on <;> cases d.ctl.cursor <;> cases d.ctl.blink <;> rfl
  | scrollDisplayLeft => exact h.command rfl h.linked.interface rfl
  | scrollDisplayRight => exact h.command rfl h.linked.interface rfl
  | leftToRight =>
      refine h.setDisplaymode true d.ctl.shifting ?_
      rw [hmode]
      cases d.ltr <;> cases d.ctl.shifting <;> rfl
  | rightToLeft =>
      refine h.setDisplaymode false d.ctl.shifting ?_
      rw [hmode]
      cases d.ltr <;> cases d.ctl.shifting <;> rfl
  | autoscroll =>
      refine h.setDisplaymode d.ltr true ?_
      rw [hmode]
      cases d.ltr <;> cases d.ctl.shifting <;> rfl
  | noAutoscroll =>
      refine h.setDisplaymode d.ltr false ?_
      rw [hmode]
      cases d.ltr <;> cases d.ctl.shifting <;> rfl
  | createChar location charmap => exact h.createChar location charmap
  | noBacklight => exact h.light_write false rfl rfl
  | backlight => exact h.light_write true rfl rfl
  | write value => exact h.write value

end Calls

/-! ## Initialisation -/

/-- The controller after `init`. -/
def Controller.reset (twoLine : Bool) : Controller where
  interface := .fourBit none
  twoLine := twoLine
  on := true
  cursor := false
  blink := false
  increment := true
  shifting := false
  memory := fun _ => Controller.blank
  address := some 0
  shift := 0

theorem instruction_functionSet (c : Controller) {v : UInt8} (hv : v &&& 0xE0 = 0x20) :
    c.instruction v =
      { c with
        interface := if v &&& 0x10 ≠ 0 then .eightBit else .fourBit none
        twoLine := v &&& lcd2Line ≠ 0 } := by
  have hall : ∀ v : UInt8, v &&& 0xE0 = 0x20 →
      ¬ v ≥ lcdSetDdramAddr ∧ ¬ v ≥ lcdSetCgramAddr ∧ v ≥ lcdFunctionSet :=
    forall_byte (by decide +kernel)
  obtain ⟨hddram, hcgram, hset⟩ := hall v hv
  unfold Controller.instruction
  rw [if_neg hddram, if_neg hcgram, if_pos hset]

/-- No instruction leaves a half behind. -/
theorem instruction_settles {c : Controller} (h : c.interface = .fourBit none) (v : UInt8) :
    (c.instruction v).interface = .eightBit ∨ (c.instruction v).interface = .fourBit none := by
  by_cases hset : v &&& 0xE0 = 0x20
  · rw [instruction_functionSet c hset]
    dsimp only
    split
    · exact .inl rfl
    · exact .inr rfl
  · have hall : ∀ v : UInt8, v ≥ lcdFunctionSet → ¬ v ≥ lcdSetCgramAddr → v &&& 0xE0 = 0x20 :=
      forall_byte (by decide +kernel)
    right
    unfold Controller.instruction Controller.shiftLeft Controller.shiftRight Controller.step
    by_cases hcgram : v ≥ lcdSetCgramAddr
    · split
      · exact h
      · exact h
    · have hlow : ¬ v ≥ lcdFunctionSet := fun hge => hset (hall v hge hcgram)
      rw [if_neg hcgram, if_neg hlow]
      repeat' split
      all_goals exact h

section Wake

variable (low : UInt8)

/-- "8-bit interface" to a controller that takes whole bytes. -/
theorem take_eight {c : Controller} (h : c.interface = .eightBit) :
    (c.take low 0x30).interface = .eightBit := by
  have hall : ∀ low : UInt8, (highHalf 0x30 ||| (low &&& 0x0F)) &&& 0xE0 = 0x20 ∧
      (highHalf 0x30 ||| (low &&& 0x0F)) &&& 0x10 ≠ 0 :=
    forall_byte (by decide +kernel)
  obtain ⟨hset, hbit⟩ := hall low
  unfold Controller.take
  rw [h]
  show (c.instruction _).interface = _
  rw [instruction_functionSet c hset]
  exact if_pos hbit

/-- Two halves of it to one that takes halves. -/
theorem take_take {c : Controller} (h : c.interface = .fourBit none) :
    ((c.take low 0x30).take low 0x30).interface = .eightBit := by
  unfold Controller.take
  rw [h]
  rfl

/-- Whatever the controller believed, after three of them it takes whole
bytes. -/
theorem take_thrice (c : Controller) :
    (((c.take low 0x30).take low 0x30).take low 0x30).interface = .eightBit := by
  rcases hc : c.interface with _ | _ | high
  · exact take_eight low (take_eight low (take_eight low hc))
  · exact take_eight low (take_take low hc)
  · -- the first completes a byte of which the upper half is unknown
    have hfirst : c.take low 0x30 =
        Controller.instruction (joinHalves high 0x30) { c with interface := .fourBit none } := by
      unfold Controller.take
      rw [hc]
      rfl
    rcases instruction_settles (c := { c with interface := .fourBit none }) rfl
      (joinHalves high 0x30) with height | hfour
    · rw [← hfirst] at height
      exact take_eight low (take_eight low height)
    · rw [← hfirst] at hfour
      exact take_take low hfour

/-- "4-bit interface" to a controller that takes whole bytes. -/
theorem take_four {c : Controller} (h : c.interface = .eightBit) :
    (c.take low 0x20).interface = .fourBit none := by
  have hall : ∀ low : UInt8, (highHalf 0x20 ||| (low &&& 0x0F)) &&& 0xE0 = 0x20 ∧
      ¬ (highHalf 0x20 ||| (low &&& 0x0F)) &&& 0x10 ≠ 0 :=
    forall_byte (by decide +kernel)
  obtain ⟨hset, hbit⟩ := hall low
  unfold Controller.take
  rw [h]
  show (c.instruction _).interface = _
  rw [instruction_functionSet c hset]
  exact if_neg hbit

end Wake

section Init

variable {low : UInt8} {p : Panel}

/-- The expander is set once and four pulses follow; the controller then takes
halves, and none is pending. -/
theorem wakes (b : LcdBus) :
    Linked low p
      (((((b.expanderWrite b.lcd.backlightval).write4bits ((0x03 : UInt8) <<< 4)).write4bits
        ((0x03 : UInt8) <<< 4)).write4bits ((0x03 : UInt8) <<< 4)).write4bits
        ((0x02 : UInt8) <<< 4))
      (panelOf low p
        (((((b.expanderWrite b.lcd.backlightval).write4bits ((0x03 : UInt8) <<< 4)).write4bits
          ((0x03 : UInt8) <<< 4)).write4bits ((0x03 : UInt8) <<< 4)).write4bits
          ((0x02 : UInt8) <<< 4))).inner := by
  rw [show (0x03 : UInt8) <<< 4 = 0x30 from rfl, show (0x02 : UInt8) <<< 4 = 0x20 from rfl]
  have hstart : ∀ bl ∈ backlightVals, Panel.enabled (bl ||| bl) = false := by decide +kernel
  have h0 : Panel.enabled (panelOf low p (b.expanderWrite b.lcd.backlightval)).lines = false := by
    unfold panelOf Panel.feed LcdBus.expanderWrite
    rw [Strobed.feedAll_append]
    exact hstart _ b.lcd.backlightval_mem
  have h30 : Plain 0x30 := by decide
  have h20 : Plain 0x20 := by decide
  have h1 := rests_write4bits h30 h0
  have h2 := rests_write4bits h30 h1.enable
  have h3 := rests_write4bits h30 h2.enable
  refine ⟨rests_write4bits h20 h3.enable, rfl, ?_⟩
  rw [panelOf_write4bits h20 h3.enable, panelOf_write4bits h30 h2.enable,
    panelOf_write4bits h30 h1.enable, panelOf_write4bits h30 h0]
  exact take_four low (take_thrice low _)

/-- A display just initialised. -/
def Display.reset (twoLine light : Bool) : Display := ⟨.reset twoLine, true, light⟩

theorem instruction_lines (c : Controller) (hc : c.interface = .fourBit none) {f : UInt8}
    (hf : f = 0 ∨ f = lcd2Line) :
    c.instruction (lcdFunctionSet ||| f) = { c with twoLine := decide (f ≠ 0) } := by
  rcases hf with rfl | rfl
  · rw [instruction_functionSet c (by decide), ← hc]
    rfl
  · rw [instruction_functionSet c (by decide), ← hc]
    rfl

/-- The instructions of `begin`, given in order to any controller that takes
halves. -/
theorem reset_eq {c : Controller} (hc : c.interface = .fourBit none) (twoLine : Bool) :
    Controller.instruction lcdReturnHome
      { Controller.cleared
          { c with twoLine := twoLine, on := true, cursor := false, blink := false } with
        increment := true, shifting := false } = .reset twoLine := by
  obtain ⟨interface, _, _, _, _, _, _, _, _, _⟩ := c
  have hi : interface = .fourBit none := hc
  subst hi
  rfl

theorem lines_flag (rows : UInt8) {f : UInt8}
    (hf : f = if rows > 1 then lcd4BitMode ||| lcd1Line ||| lcd5x8Dots ||| lcd2Line
      else lcd4BitMode ||| lcd1Line ||| lcd5x8Dots) :
    (f = 0 ∨ f = lcd2Line) ∧ decide (f ≠ 0) = decide (rows > 1) := by
  by_cases hrows : rows > 1
  · rw [if_pos hrows] at hf
    rw [hf, decide_eq_true hrows]
    decide
  · rw [if_neg hrows] at hf
    rw [hf, decide_eq_false hrows]
    decide

/-- What `begin` does once the controller takes halves. -/
theorem Linked.started {woken : LcdBus} {c : Controller} (h : Linked low p woken c)
    {f : UInt8} (hf : woken.lcd.displayfunction = f) {twoLine : Bool}
    (hflag : (f = 0 ∨ f = lcd2Line) ∧ decide (f ≠ 0) = twoLine) :
    Linked low p
      ((LcdBus.display
        { woken.command (lcdFunctionSet ||| woken.lcd.displayfunction) with lcd :=
          { (woken.command (lcdFunctionSet ||| woken.lcd.displayfunction)).lcd with
            displaycontrol := lcdDisplayOn ||| lcdCursorOff ||| lcdBlinkOff } }
        ).clear.setDisplaymode (lcdEntryLeft ||| lcdEntryShiftDecrement)).home
      (.reset twoLine) := by
  subst hf
  obtain ⟨hcases, htwo⟩ := hflag
  have hset := instruction_lines c h.interface hcases
  have hlined := h.command (v := lcdFunctionSet ||| woken.lcd.displayfunction)
    (by rw [hset]; exact h.interface)
  rw [hset, htwo] at hlined
  have hshown : Linked low p (LcdBus.display
      { woken.command (lcdFunctionSet ||| woken.lcd.displayfunction) with lcd :=
        { (woken.command (lcdFunctionSet ||| woken.lcd.displayfunction)).lcd with
          displaycontrol := lcdDisplayOn ||| lcdCursorOff ||| lcdBlinkOff } }) _ :=
    (hlined.of_lcd rfl).setDisplaycontrol true false false
      (show lcdDisplayOn ||| lcdCursorOff ||| lcdBlinkOff ||| lcdDisplayOn = _ by decide)
  have hmode := hshown.clear.setDisplaymode true false
    (show lcdEntryLeft ||| lcdEntryShiftDecrement = modeByte true false by decide)
  have hreset := reset_eq h.interface twoLine
  have hhome := hmode.command (v := lcdReturnHome) (by rw [hreset]; rfl)
  rw [hreset] at hhome
  exact hhome

/-- What `init` leaves in the driver's variables. -/
theorem init_lcd (b : LcdBus) :
    (b.init.lcd.displaycontrol, b.init.lcd.displaymode, b.init.lcd.numlines,
      b.init.lcd.backlightval) =
    (controlByte true false false, modeByte true false, b.lcd.rows, b.lcd.backlightval) := by
  have hhome : ∀ b : LcdBus, b.home.lcd = b.lcd := fun _ => rfl
  have hmode : ∀ v (b : LcdBus), (b.setDisplaymode v).lcd = { b.lcd with displaymode := v } :=
    fun _ _ => rfl
  have hdisplay : ∀ b : LcdBus, b.display.lcd =
      { b.lcd with displaycontrol := b.lcd.displaycontrol ||| lcdDisplayOn } := fun _ => rfl
  unfold LcdBus.init LcdBus.initPriv LcdBus.begin
  dsimp only
  rw [hhome, hmode, clear_lcd, hdisplay]
  have hon : lcdDisplayOn ||| lcdCursorOff ||| lcdBlinkOff ||| lcdDisplayOn =
      controlByte true false false := by decide
  have hleft : lcdEntryLeft ||| lcdEntryShiftDecrement = modeByte true false := by decide
  refine Prod.ext hon (Prod.ext hleft ?_)
  rfl

/-- **Initialisation.**  Whatever the driver, the expander and the controller
were before. -/
theorem init_drives (b : LcdBus) :
    Drives low p b.lcd.rows b.init
      (.reset (b.lcd.rows > 1) (b.lcd.backlightval = lcdOnBacklight)) := by
  have hlcd := init_lcd b
  simp only [Prod.mk.injEq] at hlcd
  obtain ⟨hcontrol, hmode, hlines, hlight⟩ := hlcd
  refine ⟨?_, hcontrol, hmode, ?_, hlines⟩
  · have hdots : ¬ (lcd5x8Dots ≠ 0 ∧ b.lcd.rows = 1) := fun h => h.1 rfl
    unfold LcdBus.init LcdBus.initPriv LcdBus.begin
    dsimp only
    rw [if_neg hdots]
    exact (wakes _).started rfl (lines_flag b.lcd.rows rfl)
  · rw [hlight]
    rcases b.lcd.backlight_val with h | h
    · rw [h]
      rfl
    · rw [h]
      rfl

end Init

/-! ## Any number of calls -/

/-- The driver after `init` and the calls, newest first. -/
def driven (b : LcdBus) : List LcdCall → LcdBus
  | [] => b.init
  | call :: older => call.apply (driven b older)

/-- The display after them. -/
def displayed (b : LcdBus) : List LcdCall → Display
  | [] => .reset (b.lcd.rows > 1) (b.lcd.backlightval = lcdOnBacklight)
  | call :: older => call.meaning b.lcd.rows (displayed b older)

theorem driven_drives (low : UInt8) (p : Panel) (b : LcdBus) (calls : List LcdCall) :
    Drives low p b.lcd.rows (driven b calls) (displayed b calls) := by
  induction calls with
  | nil => exact init_drives b
  | cons call older ih => exact ih.call call

theorem Drives.backlight {low : UInt8} {p : Panel} {lines : UInt8} {b : LcdBus} {d : Display}
    (h : Drives low p lines b d) : (panelOf low p b).backlight = d.light := by
  unfold Panel.backlight
  rw [h.linked.rests.light, h.light]
  cases d.light <;> rfl

/-- **Initialisation resets the panel**: whatever stood on the expander, whatever
the controller held and however it took its bytes. -/
theorem init_resets (low : UInt8) (p : Panel) (b : LcdBus) :
    (panelOf low p b.init).inner = .reset (b.lcd.rows > 1) ∧
      Panel.enabled (panelOf low p b.init).lines = false ∧
      (panelOf low p b.init).backlight = decide (b.lcd.backlightval = lcdOnBacklight) := by
  have h : Drives low p b.lcd.rows b.init
      (.reset (b.lcd.rows > 1) (b.lcd.backlightval = lcdOnBacklight)) := init_drives b
  exact ⟨h.linked.inner, h.linked.rests.enable, h.backlight⟩

/-- **The calls do what they mean**, in any order and any number. -/
theorem calls_display (low : UInt8) (p : Panel) (b : LcdBus) (calls : List LcdCall) :
    (panelOf low p (driven b calls)).inner = (displayed b calls).ctl ∧
      (panelOf low p (driven b calls)).backlight = (displayed b calls).light := by
  have h := driven_drives low p b calls
  exact ⟨h.linked.inner, h.backlight⟩

/-! ## The direction of writing -/

/-- The direction a call asks for. -/
def LcdCall.direction? : LcdCall → Option Bool
  | .leftToRight => some true
  | .rightToLeft => some false
  | _ => none

/-- Whether a call clears the display or sends the entry mode. -/
def LcdCall.clears? : LcdCall → Option Bool
  | .clear => some true
  | .leftToRight | .rightToLeft | .autoscroll | .noAutoscroll => some false
  | _ => none

def directionAsked (calls : List LcdCall) : Bool :=
  (latest LcdCall.direction? calls).getD true

/-- The display has been cleared since the entry mode was last sent. -/
def clearedSince (calls : List LcdCall) : Bool :=
  (latest LcdCall.clears? calls).getD false

theorem displayed_ltr (b : LcdBus) (calls : List LcdCall) :
    (displayed b calls).ltr = directionAsked calls := by
  induction calls with
  | nil => rfl
  | cons call older ih => cases call <;> first | rfl | exact ih

theorem datum_increment (v : UInt8) (c : Controller) :
    (c.datum v).increment = c.increment := by
  unfold Controller.datum
  rcases c.address with _ | a
  · rfl
  · dsimp only
    split
    · split <;> rfl
    · rfl

theorem displayed_increment (b : LcdBus) (calls : List LcdCall) :
    (displayed b calls).ctl.increment = (directionAsked calls || clearedSince calls) := by
  induction calls with
  | nil => rfl
  | cons call older ih =>
      have hltr := displayed_ltr b older
      cases call with
      | write v => exact (datum_increment v _).trans ih
      | clear => exact (Bool.or_true _).symm
      | leftToRight => rfl
      | rightToLeft => rfl
      | autoscroll => exact hltr.trans (Bool.or_false _).symm
      | noAutoscroll => exact hltr.trans (Bool.or_false _).symm
      | _ => exact ih

/-- **The driver's entry mode is stale exactly** when writing from right to left
was asked for and the display has been cleared since it was last sent. -/
theorem entry_mode_stale_iff (low : UInt8) (p : Panel) (b : LcdBus) (calls : List LcdCall) :
    (driven b calls).lcd.displaymode ≠
        modeByte (panelOf low p (driven b calls)).inner.increment
          (panelOf low p (driven b calls)).inner.shifting ↔
      directionAsked calls = false ∧ clearedSince calls = true := by
  have h := driven_drives low p b calls
  rw [h.linked.inner, h.mode, displayed_ltr, displayed_increment]
  cases directionAsked calls <;> cases clearedSince calls <;>
    cases (displayed b calls).ctl.shifting <;> decide

end SprinklersAlarmClock
