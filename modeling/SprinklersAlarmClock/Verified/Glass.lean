import Mathlib.Data.Nat.Digits.Defs
import SprinklersAlarmClock.Verified.LcdLink
import SprinklersAlarmClock.Verified.EditSession

/-!
# What stands on the glass

The log says what the sketch sent to its display; this module follows it down to
the glass.  `Screen` is what the sketch means to show, read off the program
points of the log (`screenNow`), and `Screen.rows` are its two lines of text.
`glass_current` says that at every operation of every run, whatever state the
panel was in at power-on, the two lines on the glass are those of the screen the
sketch means to show, and that a confirmed alarm is the time on the glass.
-/

namespace SprinklersAlarmClock

open Logic SPIOStream TimeSystemData AlarmDisplay

/-! ## Text in memory -/

namespace Controller

/-- Bytes written one after the other. -/
def printed (text : List UInt8) (c : Controller) : Controller :=
  text.foldl (fun c v => c.datum v) c

/-- `text` laid over `memory` from address `a` on. -/
def overlay (memory : Nat → UInt8) (a : Nat) (text : List UInt8) : Nat → UInt8 :=
  fun x => if a ≤ x then (text[x - a]?).getD (memory x) else memory x

theorem overlay_cons (memory : Nat → UInt8) (a : Nat) (v : UInt8) (text : List UInt8) :
    overlay (Function.update memory a v) (a + 1) text = overlay memory a (v :: text) := by
  funext x
  unfold overlay
  rcases Nat.lt_trichotomy x a with hlt | rfl | hgt
  · rw [if_neg (by omega), if_neg (by omega), Function.update_of_ne (by omega)]
  · rw [if_neg (by omega), if_pos (Nat.le_refl x), Nat.sub_self, Function.update_self]
    rfl
  · rw [if_pos (by omega), if_pos (by omega), Function.update_of_ne (by omega),
      show x - a = x - (a + 1) + 1 by omega, List.getElem?_cons_succ]

/-- The controller writes from left to right on two lines and the window stands
still. -/
structure Typing (c : Controller) : Prop where
  twoLine : c.twoLine = true
  increment : c.increment = true
  shifting : c.shifting = false

/-- A text that ends before the last column of its line lies over the memory
where the cursor stood. -/
theorem printed_eq {c : Controller} (h : c.Typing) {a : Nat} (ha : c.address = some a)
    (text : List UInt8) (hfit : a + text.length ≤ 0x27 ∨ (0x40 ≤ a ∧ a + text.length ≤ 0x67)) :
    c.printed text =
      { c with memory := overlay c.memory a text, address := some (a + text.length) } := by
  induction text generalizing c a with
  | nil =>
      have hid : overlay c.memory a [] = c.memory := by
        funext x
        unfold overlay
        split <;> rfl
      show c = { c with memory := overlay c.memory a [], address := some a }
      rw [hid, ← ha]
  | cons v text ih =>
      have hlen : (v :: text).length = text.length + 1 := rfl
      rw [hlen] at hfit
      have hnext : nextAddress true a = a + 1 := by
        unfold nextAddress
        rw [if_pos rfl, if_neg (by omega), if_neg (by omega)]
      have hdatum : c.datum v =
          { c with memory := Function.update c.memory a v, address := some (a + 1) } := by
        unfold datum step
        rw [ha]
        dsimp only
        rw [h.shifting, h.increment, h.twoLine]
        simp [hnext]
      show (c.datum v).printed text = _
      rw [hdatum, ih (c := { c with
        memory := Function.update c.memory a v, address := some (a + 1) })
        ⟨h.twoLine, h.increment, h.shifting⟩ rfl (by omega)]
      dsimp only
      rw [overlay_cons, hlen, show a + 1 + text.length = a + (text.length + 1) by omega]

end Controller

/-- A line as it fills the window. -/
def padded (text : List UInt8) : List UInt8 :=
  (text ++ List.replicate 16 Controller.blank).take 16

/-- The window on a line that holds `text` and blanks. -/
theorem window_eq (text : List UInt8) :
    ((List.range 16).map fun col => (text[col]?).getD Controller.blank) = padded text := by
  unfold padded
  apply List.ext_getElem
  · simp
  · intro col h₁ h₂
    have hcol : col < 16 := by simpa using h₁
    rw [List.getElem_map, List.getElem_range, List.getElem_take, List.getElem_append]
    split
    · rename_i hin
      rw [List.getElem?_eq_getElem hin]
      rfl
    · rename_i hout
      rw [List.getElem?_eq_none (by omega), List.getElem_replicate]
      rfl

/-! ## The screens of the sketch -/

/-- What the sketch means to show. -/
inductive Screen where
  | blank
  | now (date : RTCDateTime)
  | edit (date : RTCDateTime)
  deriving DecidableEq, Repr

namespace Screen

def date : Screen → RTCDateTime
  | .blank => Vars.zero.date
  | .now d => d
  | .edit d => d

/-- What is sent for it. -/
def cmds? : Screen → Option (List LcdCmd)
  | .blank => none
  | .now d => some (nowScreen d)
  | .edit d => some (editScreen d)

/-- A label and three numbers with separators between them. -/
def line (label : String) (a b c : Nat) (separator final : String) : List Char :=
  label.toList ++ Nat.toDigits 10 a ++ separator.toList ++ Nat.toDigits 10 b ++
    separator.toList ++ Nat.toDigits 10 c ++ final.toList

/-- The two lines of text. -/
def top : Screen → List Char
  | .blank => []
  | .now d => line "Date:" d.year.toNat d.month.toNat d.day.toNat "-" " "
  | .edit d => line "Edit:" d.year.toNat d.month.toNat d.day.toNat ":" ""

def bottom : Screen → List Char
  | .blank => []
  | .now d => line "Time:" d.hour.toNat d.minute.toNat d.second.toNat ":" ""
  | .edit d => line "Mode:" d.hour.toNat d.minute.toNat d.second.toNat ":" ""

end Screen

/-- Characters as the driver sends them. -/
def lcdBytes (text : List Char) : List UInt8 := text.map fun c => .ofNat c.toNat

/-- The numbers are short enough for the lines of the panel. -/
theorem line_length {label separator final : String} {a b c : Nat}
    (hlabel : label.length = 5) (hseparator : separator.length = 1) (hfinal : final.length ≤ 1)
    (ha : a < 65536) (hb : b < 256) (hc : c < 256) :
    (Screen.line label a b c separator final).length ≤ 19 := by
  have h5 : (Nat.toDigits 10 a).length ≤ 5 := Nat.toDigits_length 10 a 5 (by omega) (by omega)
  have h3 : (Nat.toDigits 10 b).length ≤ 3 := Nat.toDigits_length 10 b 3 (by omega) (by omega)
  have h3' : (Nat.toDigits 10 c).length ≤ 3 := Nat.toDigits_length 10 c 3 (by omega) (by omega)
  unfold Screen.line
  simp only [List.length_append, String.length_toList, hlabel, hseparator]
  omega

theorem Screen.top_length (s : Screen) : s.top.length ≤ 19 := by
  cases s with
  | blank => exact Nat.zero_le _
  | now d =>
      exact line_length rfl rfl (by decide) d.year.toNat_lt d.month.toNat_lt d.day.toNat_lt
  | edit d =>
      exact line_length rfl rfl (by decide) d.year.toNat_lt d.month.toNat_lt d.day.toNat_lt

theorem Screen.bottom_length (s : Screen) : s.bottom.length ≤ 19 := by
  cases s with
  | blank => exact Nat.zero_le _
  | now d =>
      exact line_length rfl rfl (by decide) (Nat.lt_trans d.hour.toNat_lt (by decide))
        d.minute.toNat_lt d.second.toNat_lt
  | edit d =>
      exact line_length rfl rfl (by decide) (Nat.lt_trans d.hour.toNat_lt (by decide))
        d.minute.toNat_lt d.second.toNat_lt

/-! ## From commands to calls -/

def LcdCmd.calls : LcdCmd → List LcdCall
  | .clear => [.clear]
  | .setCursor col row => [.setCursor 0 (.ofNat col) (.ofNat row)]
  | .print text => (lcdBytes text.toList).map .write
  | .printNumber n => (lcdBytes (Nat.toDigits 10 n)).map .write

/-- The calls an entry of the log stands for, `init` apart. -/
def Event.calls : Event → List LcdCall
  | .backlight => [.backlight]
  | .noBacklight => [.noBacklight]
  | .lcd cmds => cmds.flatMap LcdCmd.calls
  | _ => []

theorem print_calls (text : List Char) (b : LcdBus) :
    LcdBus.print text b = ((lcdBytes text).map .write).foldl (fun b c => LcdCall.apply c b) b := by
  unfold LcdBus.print lcdBytes
  rw [List.foldl_map, List.foldl_map]
  rfl

theorem LcdCmd.drive_eq (cmd : LcdCmd) (b : LcdBus) :
    cmd.drive b = cmd.calls.foldl (fun b c => c.apply b) b := by
  cases cmd with
  | clear => rfl
  | setCursor col row => rfl
  | print text => exact print_calls _ b
  | printNumber n => exact print_calls _ b

theorem Event.drive_eq (e : Event) (h : e ≠ .lcdInit) (b : LcdBus) :
    e.drive b = e.calls.foldl (fun b c => c.apply b) b := by
  cases e with
  | lcdInit => exact absurd rfl h
  | lcd cmds =>
      show cmds.foldl (fun b cmd => cmd.drive b) b = (cmds.flatMap LcdCmd.calls).foldl _ b
      rw [List.foldl_flatMap]
      congr 1
      funext b cmd
      exact cmd.drive_eq b
  | _ => rfl

/-! ## A screen in memory -/

theorem writes_meaning (lines : UInt8) (text : List UInt8) (d : Display) :
    (text.map LcdCall.write).foldl (fun d c => c.meaning lines d) d =
      { d with ctl := d.ctl.printed text } := by
  induction text generalizing d with
  | nil => rfl
  | cons v text ih => exact ih _

/-- The screen `s` is all that is in the memory of a display in normal
operation. -/
structure Pictures (d : Display) (s : Screen) : Prop where
  typing : d.ctl.Typing
  on : d.ctl.on = true
  shift : d.ctl.shift = 0
  memory : d.ctl.memory = Controller.overlay
    (Controller.overlay (fun _ => Controller.blank) 0 (lcdBytes s.top)) 0x40 (lcdBytes s.bottom)

theorem screen_calls {s : Screen} {cmds : List LcdCmd} (h : s.cmds? = some cmds) :
    cmds.flatMap LcdCmd.calls =
      [.clear, .setCursor 0 0 0] ++ (lcdBytes s.top).map .write ++
        (.setCursor 0 0 1 :: (lcdBytes s.bottom).map .write) := by
  cases s with
  | blank => cases h
  | now d =>
      cases h
      simp [nowScreen, LcdCmd.calls, Screen.top, Screen.bottom, Screen.line, lcdBytes]
  | edit d =>
      cases h
      simp [editScreen, LcdCmd.calls, Screen.top, Screen.bottom, Screen.line, lcdBytes]

/-- Drawing a screen replaces whatever there was. -/
theorem draws {d : Display} {s₀ s : Screen} (h : Pictures d s₀) {cmds : List LcdCmd}
    (hs : s.cmds? = some cmds) :
    Pictures ((cmds.flatMap LcdCmd.calls).foldl (fun d c => c.meaning 2 d) d) s ∧
      ((cmds.flatMap LcdCmd.calls).foldl (fun d c => c.meaning 2 d) d).light = d.light := by
  have htop := s.top_length
  have hbottom := s.bottom_length
  have htyping : Controller.Typing { d.ctl.cleared with address := some 0 } :=
    ⟨h.typing.twoLine, rfl, h.typing.shifting⟩
  have hlen : ∀ text, (lcdBytes text).length = text.length := fun _ => List.length_map _
  have hfirst := Controller.printed_eq htyping (a := 0) rfl (lcdBytes s.top)
    (.inl (by rw [hlen]; omega))
  have hsecond := Controller.printed_eq (c := { d.ctl.cleared with
      memory := Controller.overlay (fun _ => Controller.blank) 0 (lcdBytes s.top)
      address := some 0x40 })
    ⟨h.typing.twoLine, rfl, h.typing.shifting⟩ (a := 0x40) rfl (lcdBytes s.bottom)
    (.inr ⟨by omega, by rw [hlen]; omega⟩)
  have hcalls : (cmds.flatMap LcdCmd.calls).foldl (fun d c => c.meaning 2 d) d =
      { d with ctl := Controller.printed (lcdBytes s.bottom) { d.ctl.cleared with
          memory := Controller.overlay (fun _ => Controller.blank) 0 (lcdBytes s.top)
          address := some 0x40 } } := by
    rw [screen_calls hs, List.foldl_append, List.foldl_append, writes_meaning, List.foldl_cons,
      writes_meaning]
    show Display.mk (Controller.printed _
      { Controller.printed _ { d.ctl.cleared with address := some 0 } with
        address := some 0x40 }) _ _ = _
    rw [hfirst]
    rfl
  rw [hcalls, hsecond]
  exact ⟨⟨⟨h.typing.twoLine, rfl, h.typing.shifting⟩, h.on, rfl, rfl⟩, rfl⟩

/-- The two lines of a pictured screen, seen through the window. -/
theorem Pictures.rows {d : Display} {s : Screen} (h : Pictures d s) {q : Panel}
    (hq : q.inner = d.ctl) :
    q.row 0 = padded (lcdBytes s.top) ∧ q.row 1 = padded (lcdBytes s.bottom) := by
  have htop := s.top_length
  have hlen : ∀ text, (lcdBytes text).length = text.length := fun _ => List.length_map _
  constructor
  · rw [← window_eq]
    unfold Panel.row
    rw [hq, h.memory, h.shift]
    apply List.map_congr_left
    intro col hcol
    have hlt : col < 16 := List.mem_range.mp hcol
    unfold Controller.overlay
    rw [if_neg (by omega), if_pos (by omega), show 0x40 * 0 + (col + 0) % 40 - 0 = col by omega]
  · rw [← window_eq]
    unfold Panel.row
    rw [hq, h.memory, h.shift]
    apply List.map_congr_left
    intro col hcol
    have hlt : col < 16 := List.mem_range.mp hcol
    have hbeyond : (lcdBytes s.top)[0x40 * 1 + (col + 0) % 40 - 0]? = none := by
      apply List.getElem?_eq_none
      rw [hlen]
      omega
    unfold Controller.overlay
    rw [if_pos (by omega), if_pos (by omega), hbeyond,
      show 0x40 * 1 + (col + 0) % 40 - 0x40 = col by omega]
    rfl

/-! ## The display after a log -/

/-- The display after a log, as its user thinks of it. -/
def glass : Log → Display
  | [] => .reset true false
  | e :: older =>
      if e.event = .lcdInit then .reset true false
      else e.event.calls.foldl (fun d c => c.meaning 2 d) (glass older)

/-- The display has been initialised. -/
def started (l : Log) : Bool := l.any fun e => e.event = .lcdInit

/-- What the driver is called for. -/
def Event.drives : Event → Bool
  | .lcdInit | .backlight | .noBacklight | .lcd _ => true
  | _ => false

/-- Nothing has been sent to it. -/
def Undriven (l : Log) : Prop := ∀ e ∈ l, e.event.drives = false

theorem Undriven.cons {e : Entry} {l : Log} (he : e.event.drives = false) (hl : Undriven l) :
    Undriven (e :: l) := List.forall_mem_cons.mpr ⟨he, hl⟩

theorem drive_idle {e : Event} (h : e.drives = false) (b : LcdBus) : e.drive b = b := by
  cases e <;> first | rfl | cases h

theorem lcd?_idle {e : Event} (h : e.drives = false) : e.lcd? = none := by
  cases e <;> first | rfl | cases h

theorem undriven_bus {l : Log} (h : Undriven l) : lcdBus l = LcdBus.make 16 2 := by
  induction l with
  | nil => rfl
  | cons e older ih =>
      obtain ⟨he, hrest⟩ := List.forall_mem_cons.mp h
      exact (drive_idle he _).trans (ih hrest)

theorem undriven_shown {l : Log} (h : Undriven l) : shown l = none := by
  induction l with
  | nil => rfl
  | cons e older ih =>
      obtain ⟨he, hrest⟩ := List.forall_mem_cons.mp h
      show e.event.lcd?.or (shown older) = none
      rw [lcd?_idle he, ih hrest]
      rfl

theorem Drives.calls {low : UInt8} {p : Panel} {b : LcdBus} {d : Display}
    (h : Drives low p 2 b d) (calls : List LcdCall) :
    Drives low p 2 (calls.foldl (fun b c => c.apply b) b)
      (calls.foldl (fun d c => c.meaning 2 d) d) := by
  induction calls generalizing b d with
  | nil => exact h
  | cons call calls ih => exact ih (h.call call)

/-- Along any log in which the display is initialised once and first, the panel
is what its user thinks. -/
theorem glass_drives (low : UInt8) (p : Panel) {l : Log}
    (hl : Always (fun e older => e.event = .lcdInit → Undriven older) l)
    (hs : started l = true) : Drives low p 2 (lcdBus l) (glass l) := by
  induction l with
  | nil => cases hs
  | cons e older ih =>
      by_cases he : e.event = .lcdInit
      · have hfresh := undriven_bus (hl.1 he)
        have hinit : Drives low p 2 (LcdBus.make 16 2).init (.reset true false) :=
          init_drives (LcdBus.make 16 2)
        have hbus : lcdBus (e :: older) = (LcdBus.make 16 2).init := by
          show e.event.drive (lcdBus older) = _
          rw [he, hfresh]
          rfl
        have hglass : glass (e :: older) = .reset true false := if_pos he
        rw [hbus, hglass]
        exact hinit
      · have hstarted : started older = true := by
          simpa [started, he] using hs
        have hbus : lcdBus (e :: older) = e.event.calls.foldl (fun b c => c.apply b)
            (lcdBus older) := e.event.drive_eq he _
        have hglass : glass (e :: older) = e.event.calls.foldl (fun d c => c.meaning 2 d)
            (glass older) := if_neg he
        rw [hbus, hglass]
        exact (ih hl.2 hstarted).calls _

/-! ## What the sketch means to show -/

/-- Read off the program points: a clock reading is to be shown as it is, an
edit session shows the date it edits. -/
def screenNow : Log → Screen
  | [] => .blank
  | e :: older =>
      match e.event with
      | .mark (.updatedData d) => .now d
      | .mark (.editStart d) => .edit d
      | .mark .addHour => .edit (addHour (screenNow older).date)
      | .mark .addMinute => .edit (addMinute (screenNow older).date)
      | _ => screenNow older

/-- The last screen sent is the one meant wherever the sketch does anything but
send it, and a confirmed alarm is the time of an edit screen. -/
structure ScreenOk (e : Entry) (older : Log) : Prop where
  init : e.event = .lcdInit → Undriven older
  drawn : ∀ cmds, e.event = .lcd cmds → (screenNow older).cmds? = some cmds
  steady : (∀ p, e.event ≠ .mark p) → e.event.lcd? = none →
    shown older = (screenNow older).cmds?
  confirmed : ∀ day hour minute, e.event = .mark (.setAlarm2 day hour minute) →
    started older = true ∧ ∃ d, screenNow older = .edit d ∧ shown older = some (editScreen d) ∧
      (day, hour, minute) = (d.day, d.hour, d.minute)

namespace Glass

def Goal : Safety := fun l _ => Always ScreenOk l

/-- The events that have a say in the above. -/
def steers : Event → Bool
  | .lcdInit | .lcd _ => true
  | .mark (.updatedData _) | .mark (.editStart _) => true
  | .mark .addHour | .mark .addMinute | .mark (.setAlarm2 _ _ _) => true
  | _ => false

/-- Nothing has been sent yet. -/
def Boot : Assn := fun l _ v => Undriven l ∧ screenNow l = .blank ∧ v.date = Vars.zero.date

/-- The LCD shows what is meant, and that is the variable `date`. -/
def InStep : Assn := fun l _ v =>
  started l = true ∧ shown l = (screenNow l).cmds? ∧ (screenNow l).date = v.date

/-- In an edit session. -/
def Editing : Assn := fun l _ v =>
  started l = true ∧ shown l = some (editScreen v.date) ∧ screenNow l = .edit v.date

/-- The screen `s` is about to be sent. -/
def Due (s : RTCDateTime → Screen) : Assn := fun l _ v =>
  started l = true ∧ screenNow l = s v.date

section Silent

variable {e : Event} (h : steers e = false) (t : Nat) (l : Log)

include h

theorem screenNow_silent : screenNow (⟨t, e⟩ :: l) = screenNow l := by
  cases e with
  | mark p => cases p <;> first | rfl | cases h
  | _ => rfl

theorem shown_silent : shown (⟨t, e⟩ :: l) = shown l := by
  cases e with
  | lcd cmds => cases h
  | _ => rfl

omit h in
theorem started_cons (hl : started l = true) : started (⟨t, e⟩ :: l) = true := by
  unfold started at hl ⊢
  rw [List.any_cons, hl, Bool.or_true]

theorem ok_silent {t : Nat} {l : Log} (hl : shown l = (screenNow l).cmds?) :
    ScreenOk ⟨t, e⟩ l where
  init := by
    rintro rfl
    cases h
  drawn := by
    rintro cmds rfl
    cases h
  steady := fun _ _ => hl
  confirmed := by
    rintro day hour minute rfl
    cases h

theorem inStep_silent : Enters Goal InStep e InStep := by
  rintro l t t' v - hJ ⟨hstarted, hshown, hdate⟩
  refine ⟨⟨ok_silent h hshown, hJ⟩, started_cons t' l hstarted, ?_, ?_⟩
  · rw [shown_silent h, screenNow_silent h]
    exact hshown
  · rw [screenNow_silent h]
    exact hdate

theorem editing_silent : Enters Goal Editing e Editing := by
  rintro l t t' v - hJ ⟨hstarted, hshown, hscreen⟩
  have hstep : shown l = (screenNow l).cmds? := by rw [hshown, hscreen]; rfl
  refine ⟨⟨ok_silent h hstep, hJ⟩, started_cons t' l hstarted, ?_, ?_⟩
  · rw [shown_silent h]
    exact hshown
  · rw [screenNow_silent h]
    exact hscreen

theorem boot_silent (he : e.drives = false) : Enters Goal Boot e Boot := by
  rintro l t t' v - hJ ⟨hfresh, hscreen, hdate⟩
  have hshown : shown l = (screenNow l).cmds? := by
    rw [hscreen]
    exact undriven_shown hfresh
  refine ⟨⟨ok_silent h hshown, hJ⟩, hfresh.cons he, ?_, hdate⟩
  rw [screenNow_silent h]
  exact hscreen

end Silent

/-! ## Drawing -/

/-- A program point that changes what is to be shown, while nothing is due. -/
theorem ok_turn {p : Point} {t : Nat} {l : Log} (hp : (Event.mark p).drives = false)
    (halarm : ∀ day hour minute, p ≠ .setAlarm2 day hour minute) :
    ScreenOk ⟨t, .mark p⟩ l where
  init := fun h => by cases h
  drawn := fun cmds h => by cases h
  steady := fun h _ => absurd rfl (h p)
  confirmed := by
    intro day hour minute h
    cases h
    exact absurd rfl (halarm day hour minute)

/-- The screen that is due is sent. -/
theorem due_drawn {s : RTCDateTime → Screen} (cmds : RTCDateTime → List LcdCmd)
    (hcmds : ∀ d, (s d).cmds? = some (cmds d)) (d : RTCDateTime) :
    Enters Goal (fun l t v => Due s l t v ∧ v.date = d) (.lcd (cmds d)) fun l _ v =>
      started l = true ∧ shown l = some (cmds v.date) ∧ screenNow l = s v.date := by
  rintro l t t' v - hJ ⟨⟨hstarted, hscreen⟩, rfl⟩
  have hok : ScreenOk ⟨t', .lcd (cmds v.date)⟩ l := by
    refine ⟨fun h => (by cases h), ?_, fun _ h => (by cases h), fun _ _ _ h => (by cases h)⟩
    intro cmds' h
    cases h
    rw [hscreen]
    exact hcmds v.date
  exact ⟨⟨hok, hJ⟩, started_cons t' l hstarted, rfl, hscreen⟩

theorem editing_inStep {l : Log} {t : Nat} {v : Vars} (h : Editing l t v) : InStep l t v := by
  obtain ⟨hstarted, hshown, hscreen⟩ := h
  refine ⟨hstarted, ?_, ?_⟩
  · rw [hshown, hscreen]
    rfl
  · rw [hscreen]
    rfl

/-! ## An edit session -/

theorem poll_keeps (env : Env) (thr : Throw) :
    Safely Goal env Editing (runEditAlarmMode thr) fun _ => Editing := by
  refine Safely.frame_eq env (Footprint.runEditAlarmMode thr) fun e he => editing_silent ?_
  cases e with
  | mark p => cases p <;> first | rfl | cases he
  | lcd cmds => cases he
  | lcdInit => cases he
  | _ => rfl

/-- Both add branches: mark the call, move `date`, show it. -/
theorem add_drawn (env : Env) {p : Point} {f : RTCDateTime → RTCDateTime}
    (hp : (Event.mark p).drives = false)
    (halarm : ∀ day hour minute, p ≠ .setAlarm2 day hour minute)
    (hturn : ∀ t l, screenNow (⟨t, .mark p⟩ :: l) = .edit (f (screenNow l).date)) :
    Safely Goal env Editing
      (mark p >>= fun _ => assign (fun v => { v with date := f v.date }) >>= fun _ =>
        vars >>= fun v => displayEditModeUI v.date) fun _ => Editing := by
  refine (Safely.mark (Q := fun _ l _ v =>
    started l = true ∧ screenNow l = .edit (f v.date)) ?_).seq fun _ => ?_
  · rintro l t v hJ ⟨hstarted, -, hscreen⟩
    refine ⟨⟨ok_turn hp halarm, hJ⟩, started_cons t l hstarted, ?_⟩
    rw [hturn, hscreen]
    rfl
  refine Safely.seq (M := fun _ => Due .edit) (Safely.assign fun _ _ _ _ h => h) fun _ => ?_
  refine Safely.vars fun v₀ => Safely.act ?_
  rintro l t t' v ht hJ ⟨h, rfl⟩
  exact due_drawn editScreen (fun _ => rfl) v.date l t t' v ht hJ ⟨h, rfl⟩

/-- `setAlarm2` as the confirm branch calls it. -/
theorem setAlarm2_keeps (env : Env) (d : RTCDateTime) :
    Safely Goal env (fun l t v => Editing l t v ∧ v.date = d)
      (DS3231.setAlarm2 d.day d.hour d.minute .matchHM false) fun _ => Editing := by
  refine (Safely.mark (Q := fun _ l t v => Editing l t v ∧ v.date = d) ?_).seq fun _ =>
    Safely.seq (M := fun _ => Editing) ?_ fun _ => ?_
  · rintro l t v hJ ⟨h, hd⟩
    have h' := editing_silent (e := .mark .enterDS3231) rfl l t t v (Nat.le_refl t) hJ h
    exact ⟨h'.1, h'.2, hd⟩
  · refine (Safely.mark (Q := fun _ => Editing) ?_).seq fun _ => ?_
    · rintro l t v hJ ⟨⟨hstarted, hshown, hscreen⟩, rfl⟩
      have hok : ScreenOk ⟨t, .mark (.setAlarm2 v.date.day v.date.hour v.date.minute)⟩ l := by
        refine ⟨fun h => (by cases h), fun _ h => (by cases h), fun h _ => absurd rfl (h _), ?_⟩
        intro day hour minute h
        cases h
        exact ⟨hstarted, v.date, hscreen, hshown, rfl⟩
      exact ⟨⟨hok, hJ⟩, started_cons t l hstarted, hshown, hscreen⟩
    refine (Safely.writeBurst (Q := fun _ => Editing) fun _ => editing_silent rfl).seq
      fun _ => ?_
    have harm : Safely Goal env Editing (DS3231.armAlarm2 false) fun _ => Editing :=
      (Safely.ask (Q := fun _ => Editing) fun _ => editing_silent rfl).seq
        fun _ => Safely.writeBurst fun _ => editing_silent rfl
    have hclear : Safely Goal env Editing DS3231.clearAlarm2 fun _ => Editing :=
      (Safely.ask (Q := fun _ => Editing) fun _ => editing_silent rfl).seq
        fun _ => Safely.writeBurst fun _ => editing_silent rfl
    exact harm.seq fun _ => hclear
  · exact (Safely.mark (Q := fun _ => Editing) (editing_silent rfl).marks).seq
      fun _ => Safely.pure fun _ _ _ _ h => h

theorem applyThrow_keeps (env : Env) (thr : Throw) :
    Safely Goal env Editing (applyThrow thr) fun _ => Editing := by
  cases thr with
  | idle => exact Safely.pure fun _ _ _ _ h => h
  | throwExit => exact Safely.pure fun _ _ _ _ h => h
  | throwAddHour => exact add_drawn env rfl (fun _ _ _ h => by cases h) fun _ _ => rfl
  | throwAddMin => exact add_drawn env rfl (fun _ _ _ h => by cases h) fun _ _ => rfl
  | throwConfirm =>
      refine Safely.vars fun v₀ => (setAlarm2_keeps env v₀.date).weaken ?_ fun _ _ _ _ _ h => h
      rintro l t v - ⟨h, rfl⟩
      exact ⟨h, rfl⟩

def sessionPoints : SessionPoints where
  Start := InStep
  Begun := Due .edit
  Loop := fun _ => Editing
  Polled := fun _ => Editing
  Ended := InStep
  Over := InStep

theorem session_outline (env : Env) : SessionOutline Goal env sessionPoints where
  start := by
    rintro d l t v hJ ⟨⟨hstarted, -, -⟩, rfl⟩
    exact ⟨⟨ok_turn rfl fun _ _ _ h => (by cases h), hJ⟩,
      ⟨started_cons t l hstarted, rfl⟩, rfl⟩
  shown := due_drawn editScreen fun _ => rfl
  poll := fun _ _ => poll_keeps env .idle
  apply := applyThrow_keeps env
  finish := by
    intro thr _ l t v hJ h
    exact (inStep_silent (e := .mark (.editEnd thr)) rfl).marks l t v hJ (editing_inStep h)
  pause := (inStep_silent rfl).waits

theorem ptIO_keeps (env : Env) : Safely Goal env InStep ptIO fun _ => InStep :=
  (session_outline env).protothread InStep InStep InStep (fun _ _ _ h => h)
    (inStep_silent rfl).reads (inStep_silent rfl).reads (fun _ _ _ h => h)
    (inStep_silent rfl) fun _ _ _ _ h => h

/-! ## The other parts of the sketch -/

def uiPoints : UiPoints where
  Top := InStep
  Entered := InStep
  Read := fun _ => InStep
  Left := fun _ => InStep
  Updated := fun _ => Due .now
  Shown := InStep
  Wait := InStep
  Idle := InStep

theorem ui_outline (env : Env) : UiOutline Goal env uiPoints where
  enter := (inStep_silent rfl).marks
  read := fun _ => inStep_silent rfl
  left := fun _ => (inStep_silent rfl).marks
  updated := by
    rintro d l t v hJ ⟨hstarted, -, -⟩
    exact ⟨⟨ok_turn rfl fun _ _ _ h => (by cases h), hJ⟩, started_cons t l hstarted, rfl⟩
  shown := by
    intro d l t t' v ht hJ h
    obtain ⟨hJ', hstarted, hshown, hscreen⟩ :=
      due_drawn (s := .now) nowScreen (fun _ => rfl) d l t t' v ht hJ h
    refine ⟨hJ', hstarted, ?_, ?_⟩
    · rw [hshown, hscreen]
      rfl
    · rw [hscreen]
      rfl
  stored := fun l t t' v ht hJ h =>
    have h' := inStep_silent (e := .millis (UInt32.ofNat t')) rfl l t t' v ht hJ h
    have h'' := inStep_silent (e := .mark .uiStored) rfl _ t' t' v (Nat.le_refl t') h'.1 h'.2
    ⟨h'.1, h''.1, h''.2⟩
  gate := fun l t t' v ht hJ h =>
    have h' := inStep_silent (e := .millis (UInt32.ofNat t')) rfl l t t' v ht hJ h
    ⟨h'.1,
      fun _ => inStep_silent (e := .mark (.uiGate true)) rfl _ t' t' v
        (Nat.le_refl t') h'.1 h'.2,
      fun _ => inStep_silent (e := .mark (.uiGate false)) rfl _ t' t' v
        (Nat.le_refl t') h'.1 h'.2⟩
  lc := fun _ _ _ h => h

theorem steers_of_inSprinklers (e : Event) (h : e.inSprinklers = true) : steers e = false := by
  cases e with
  | mark p => cases p <;> first | rfl | cases h
  | lcd cmds => cases h
  | lcdInit => cases h
  | _ => rfl

theorem ptSprinklers_keeps (env : Env) :
    Safely Goal env InStep ptSprinklers fun _ => InStep := by
  refine Safely.frame env Footprint.ptSprinklers
    (fun e he => inStep_silent (steers_of_inSprinklers e he)) ?_
  rintro l t v v' hv _ ⟨hstarted, hshown, hdate⟩
  exact ⟨hstarted, hshown, hdate.trans hv.2.2.symm⟩

/-! ## `setup` -/

theorem setup_inStep (env : Env) : Safely Goal env Boot setup fun _ => InStep := by
  have hconnect : ∀ e : Event, e.inConnect = true → Enters Goal InStep e InStep := by
    intro e he
    refine inStep_silent ?_
    cases e <;> first | rfl | cases he
  have hbegin : ∀ e : Event, e.inBegin = true → Enters Goal Boot e Boot := by
    intro e he
    cases e with
    | mark p => cases p <;> first | exact boot_silent rfl rfl | cases he
    | _ => first | exact boot_silent rfl rfl | cases he
  refine (Safely.frame_eq _ Footprint.begin hbegin).seq fun _ => ?_
  refine (Safely.act (Q := fun _ => InStep) ?_).seq fun _ => ?_
  · rintro l t t' v - hJ ⟨hfresh, hscreen, hdate⟩
    have hok : ScreenOk ⟨t', .lcdInit⟩ l := by
      refine ⟨fun _ => hfresh, fun _ h => (by cases h), fun _ _ => ?_, fun _ _ _ h => (by cases h)⟩
      rw [hscreen]
      exact undriven_shown hfresh
    refine ⟨⟨hok, hJ⟩, rfl, ?_, ?_⟩
    · show shown l = (screenNow l).cmds?
      rw [hscreen]
      exact undriven_shown hfresh
    · show (screenNow l).date = v.date
      rw [hscreen, hdate]
      rfl
  refine (Safely.act (Q := fun _ => InStep) (inStep_silent rfl)).seq fun _ => ?_
  refine Safely.seq (M := fun _ => InStep) (Safely.assign fun _ _ _ _ h => h) fun _ => ?_
  refine (Safely.act (Q := fun _ => InStep) (inStep_silent rfl)).seq fun _ => ?_
  refine (Safely.millis (Q := fun _ => InStep)
    fun l t t' v => inStep_silent rfl l t t' v).seq fun now => ?_
  refine (Safely.frame_eq _ (Footprint.waitWifi now) hconnect).seq fun _ => ?_
  refine (Safely.frame _ Footprint.initNotifier hconnect ?_).seq fun _ => ?_
  · rintro l t v v' hv _ ⟨hstarted, hshown, hdate⟩
    exact ⟨hstarted, hshown, hdate.trans hv.1.symm⟩
  refine (Safely.act (Q := fun _ => InStep) (inStep_silent rfl)).seq fun _ => ?_
  exact Safely.mark (inStep_silent rfl).marks

end Glass

/-- The screen meant is the screen sent, over whole runs. -/
theorem screens_ok (env : Env) (n : Nat) : Always ScreenOk (run env n).log := by
  open Glass in
  have hUi := (ui_outline env).safely (K := InStep) fun _ _ v _ h => by
    cases v.ptUi <;> exact h
  exact run_safely (setup_inStep env) hUi (ptIO_keeps env) (ptSprinklers_keeps env)
    ⟨trivial, (fun _ h => by cases h), rfl, rfl⟩ n

/-! ## On the glass -/

theorem pictures_reset : Pictures (.reset true false) .blank := by
  refine ⟨⟨rfl, rfl, rfl⟩, rfl, rfl, ?_⟩
  funext x
  unfold Controller.overlay
  split
  · split <;> rfl
  · split <;> rfl

/-- Light commands are all that reaches the display beside screens. -/
theorem calls_other {e : Event} (he : e ≠ .lcdInit) (hlcd : e.lcd? = none) {d : Display}
    {s : Screen} (h : Pictures d s) {older : Log} (hlight : d.light = backlit older) (t : Nat) :
    Pictures (e.calls.foldl (fun d c => c.meaning 2 d) d) s ∧
      (e.calls.foldl (fun d c => c.meaning 2 d) d).light = backlit (⟨t, e⟩ :: older) := by
  cases e with
  | lcdInit => exact absurd rfl he
  | lcd cmds => cases hlcd
  | backlight => exact ⟨⟨h.typing, h.on, h.shift, h.memory⟩, rfl⟩
  | noBacklight => exact ⟨⟨h.typing, h.on, h.shift, h.memory⟩, rfl⟩
  | _ => exact ⟨h, hlight⟩

theorem undriven_backlit {l : Log} (h : Undriven l) : backlit l = false := by
  induction l with
  | nil => rfl
  | cons e older ih =>
      obtain ⟨he, hrest⟩ := List.forall_mem_cons.mp h
      have hkeep : backlit (⟨e.time, e.event⟩ :: older) = backlit older := by
        obtain ⟨t, e⟩ := e
        cases e <;> first | rfl | cases he
      exact hkeep.trans (ih hrest)

/-- The display holds the last screen sent. -/
theorem glass_pictures {l : Log} (hl : Always ScreenOk l) (hs : started l = true) :
    ∃ s : Screen, s.cmds? = shown l ∧ Pictures (glass l) s ∧ (glass l).light = backlit l := by
  induction l with
  | nil => cases hs
  | cons e older ih =>
      obtain ⟨t, e⟩ := e
      by_cases he : e = .lcdInit
      · subst he
        have hfresh := hl.1.init rfl
        exact ⟨.blank, (undriven_shown hfresh).symm, pictures_reset, (undriven_backlit hfresh).symm⟩
      · have hstarted : started older = true := by
          simpa [started, he] using hs
        obtain ⟨s₀, hs₀, hpictures, hlight⟩ := ih hl.2 hstarted
        have hglass : glass (⟨t, e⟩ :: older) = e.calls.foldl (fun d c => c.meaning 2 d)
            (glass older) := if_neg he
        rw [hglass]
        cases hlcd : e.lcd? with
        | none =>
            obtain ⟨hp, hl'⟩ := calls_other he hlcd hpictures hlight t
            refine ⟨s₀, ?_, hp, hl'⟩
            show s₀.cmds? = e.lcd?.or (shown older)
            rw [hlcd]
            exact hs₀
        | some cmds =>
            have hcmds : e = .lcd cmds := by
              cases e <;> first | rfl | cases hlcd <;> rfl
            subst hcmds
            have hdrawn := hl.1.drawn cmds rfl
            obtain ⟨hp, hl'⟩ := draws hpictures hdrawn
            exact ⟨screenNow older, hdrawn, hp, hl'.trans hlight⟩

/-- The panel is switched on and shows the two lines of `s`. -/
structure Panel.Shows (q : Panel) (s : Screen) : Prop where
  on : q.inner.on = true
  top : q.row 0 = padded (lcdBytes s.top)
  bottom : q.row 1 = padded (lcdBytes s.bottom)

/-- The commands determine the text. -/
theorem Screen.lines_of_cmds {s s' : Screen} (h : s.cmds? = s'.cmds?) :
    s.top = s'.top ∧ s.bottom = s'.bottom := by
  cases s <;> cases s' <;> simp [cmds?, nowScreen, editScreen] at h
  · exact ⟨rfl, rfl⟩
  · simp [top, bottom, h]
  · simp [top, bottom, h]

theorem panel_shows (low : UInt8) (p : Panel) {l : Log} (hl : Always ScreenOk l)
    (hs : started l = true) {s : Screen} (hshown : shown l = s.cmds?) :
    (panelOf low p (lcdBus l)).Shows s ∧ (panelOf low p (lcdBus l)).backlight = backlit l := by
  have hdrives := glass_drives low p (hl.imp fun _ _ h => h.init) hs
  obtain ⟨s', hs', hpictures, hlight⟩ := glass_pictures hl hs
  obtain ⟨htop, hbottom⟩ := Screen.lines_of_cmds (hs'.trans hshown)
  have hinner := hdrives.linked.inner
  have hrows := hpictures.rows hinner
  rw [htop, hbottom] at hrows
  refine ⟨⟨?_, hrows.1, hrows.2⟩, hdrives.backlight.trans hlight⟩
  rw [hinner]
  exact hpictures.on

/-- What is to be seen when `e` happens after `older`, of a panel that was in
the state `p` at power-on. -/
structure OnGlass (low : UInt8) (p : Panel) (e : Entry) (older : Log) : Prop where
  /-- At every operation but the redrawing itself, the screen meant and the
  light. -/
  shows : (∀ p, e.event ≠ .mark p) → e.event.lcd? = none → started older = true →
    (panelOf low p (lcdBus older)).Shows (screenNow older) ∧
      (panelOf low p (lcdBus older)).backlight = backlit older
  /-- When an alarm is set, an edit screen with its hour and minute. -/
  confirmed : ∀ day hour minute, e.event = .mark (.setAlarm2 day hour minute) →
    ∃ d, (panelOf low p (lcdBus older)).Shows (.edit d) ∧
      (day, hour, minute) = (d.day, d.hour, d.minute)

/-- **What stands on the glass**, over whole runs, for all surroundings and from
every state of the panel. -/
theorem glass_current (env : Env) (low : UInt8) (p : Panel) (n : Nat) :
    Always (OnGlass low p) (run env n).log := by
  have hruns := screens_ok env n
  rw [always_iff] at hruns ⊢
  intro newer e older hcut
  have hok := hruns newer e older hcut
  have holder : Always ScreenOk older := by
    rw [always_iff]
    intro newer' e' older' hcut'
    refine hruns (newer ++ e :: newer') e' older' ?_
    rw [hcut, hcut', List.append_assoc, List.cons_append]
  refine ⟨fun hop hlcd hs => panel_shows low p holder hs (hok.steady hop hlcd), ?_⟩
  intro day hour minute he
  obtain ⟨hs, d, -, hshown, hargs⟩ := hok.confirmed day hour minute he
  exact ⟨d, (panel_shows low p holder hs (s := .edit d) hshown).1, hargs⟩

end SprinklersAlarmClock
