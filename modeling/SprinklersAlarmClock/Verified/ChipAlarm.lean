import SprinklersAlarmClock.Verified.ClockSettings
import SprinklersAlarmClock.Verified.Glass

/-!
# The alarm in the chip

Between the calls of `setAlarm2` the alarm-2 registers hold the alarm last
confirmed, or what they held at power-on before the first confirm: nothing else
the firmware sends to the chip reaches them, and the interrupt of alarm 2 stays
off.  The hour and the minute are those that stood on the glass at that confirm
(`chip_alarm`), and `getAlarm2` would give back what the user saw unless the day
has been counted past what seven bits hold in BCD.

The library calls of the sketch are those of `Firmware.ClockChip` as long as the
clock matches no alarm meanwhile (`OnChip`); what a match does in between is the
subject of `Verified.AlarmFlag`.
-/

namespace SprinklersAlarmClock

open Logic DS3231 SPIOStream

/-! ## Reading the log -/

/-- The arguments of the latest call of `setAlarm2`. -/
def lastSet (l : Log) : Option (UInt8 × UInt8 × UInt8) :=
  latest (fun e => match e.event with
    | .mark (.setAlarm2 dydw hour minute) => some (dydw, hour, minute)
    | _ => none) l

/-- `setAlarm2` is under way. -/
def settingAlarm (l : Log) : Bool :=
  (latest (fun e => match e.event with
    | .mark (.setAlarm2 _ _ _) => some true
    | .mark .leaveDS3231 => some false
    | _ => none) l).getD false

/-- The bytes the alarm-2 registers are meant to hold. -/
def meantBytes (env : Env) (l : Log) : List UInt8 :=
  (lastSet l).elim (World.boot env).rtc.settings.time2
    fun a => alarm2Bytes a.1 a.2.1 a.2.2 .matchHM

namespace ChipAlarm

/-- The alarm-2 registers hold what they are meant to. -/
def Held (env : Env) (w : World) : Prop :=
  w.rtc.settings.time2 = meantBytes env w.log ∧
    (lastSet w.log ≠ none → w.rtc.settings.control.armed2 = false)

/-- At every program point, but for calls of `setAlarm2`. -/
def Goal (env : Env) (w : World) : Prop := settingAlarm w.log = false → Held env w

/-- Outside `setAlarm2`. -/
def Idle (env : Env) (w : World) : Prop := settingAlarm w.log = false ∧ Held env w

/-- Outside `setAlarm2` the goal is what is held there. -/
theorem goal_of_idle {env : Env} {w : World} (h : Idle env w) : Goal env w := fun _ => h.2

/-! ## Operations -/

/-- While an operation is under way only the status register can change. -/
theorem settings_pass (env : Env) (dt : Nat) (w : World) :
    (w.pass env dt).rtc.settings.time2 = w.rtc.settings.time2 ∧
      (w.pass env dt).rtc.settings.control = w.rtc.settings.control := by
  show (if env.alarm2Match w.tick then w.rtc.matchAlarm2 else w.rtc).settings.time2 = _ ∧
    (if env.alarm2Match w.tick then w.rtc.matchAlarm2 else w.rtc).settings.control = _
  by_cases hmatch : env.alarm2Match w.tick
  · rw [if_pos hmatch]
    exact ⟨rfl, rfl⟩
  · rw [if_neg hmatch]
    exact ⟨rfl, rfl⟩

/-- Time goes on, and a match may set A2F. -/
theorem held_pass {env : Env} {w : World} (h : Held env w) (env' : Env) (dt : Nat) :
    Held env (w.pass env' dt) := by
  obtain ⟨htime, hcontrol⟩ := settings_pass env' dt w
  unfold Held
  rw [htime, hcontrol]
  exact h

/-- Events that are no call of `setAlarm2`. -/
def calm : Event → Bool
  | .mark (.setAlarm2 _ _ _) => false
  | _ => true

/-- Only a call of `setAlarm2` is read as one. -/
theorem lastSet_calm {e : Event} (h : calm e = true) (t : Nat) (l : Log) :
    lastSet (⟨t, e⟩ :: l) = lastSet l := by
  cases e with
  | mark p => cases p <;> first | rfl | cases h
  | _ => rfl

/-- No other event begins one. -/
theorem settingAlarm_calm {e : Event} (h : calm e = true) (t : Nat) {l : Log}
    (hl : settingAlarm l = false) : settingAlarm (⟨t, e⟩ :: l) = false := by
  cases e with
  | mark p => cases p <;> first | exact hl | rfl | cases h
  | _ => exact hl

/-- Other events leave the registers and what they are meant to hold. -/
theorem held_record {env : Env} {e : Event} (he : calm e = true) {w : World}
    (h : Held env w) : Held env (w.record e) := by
  unfold Held meantBytes
  rw [World.record_log, lastSet_calm he]
  exact h

/-- So they leave the alarm as it is. -/
theorem idle_record {env : Env} {e : Event} (he : calm e = true) {w : World}
    (h : Idle env w) : Idle env (w.record e) :=
  ⟨settingAlarm_calm he _ h.1, held_record he h.2⟩

/-- So does time. -/
theorem idle_pass {env : Env} {w : World} (h : Idle env w) (env' : Env) (dt : Nat) :
    Idle env (w.pass env' dt) := ⟨h.1, held_pass h.2 env' dt⟩

/-- Events of functions that write at most the status register. -/
def aloof : Event → Bool
  | .writeRegisters reg values _ => reg == regStatus && values.length == 1
  | e => calm e

/-- Aloof events are no calls of `setAlarm2`. -/
theorem calm_of_aloof {e : Event} (h : aloof e = true) : calm e = true := by
  cases e with
  | mark p => exact h
  | _ => rfl

/-- An aloof step leaves the alarm as it is. -/
theorem idle_step {S : Event → Bool} {V : Vars → Vars → Prop}
    (hS : ∀ e, S e = true → aloof e = true) {env env' : Env} {w w' : World}
    (hstep : Step S V env' w w') (h : Idle env w) : Idle env w' := by
  cases hstep with
  | act dt e _ he => exact idle_record (calm_of_aloof (hS e he)) (idle_pass h env' dt)
  | mark p _ hp => exact idle_record (calm_of_aloof (hS _ hp)) h
  | assign v _ _ => exact h
  | write dt reg values _ he =>
      have hbus := hS _ he
      simp only [aloof, Bool.and_eq_true, beq_iff_eq, List.length_eq_one_iff] at hbus
      obtain ⟨rfl, value, rfl⟩ := hbus
      exact idle_record rfl (idle_pass h env' dt)

/-- A Hoare triple on whole states. -/
abbrev Holds {α : Type} (env : Env) (c : Sketch α) (K : World → Prop)
    (Q : α → World → Prop) : Prop :=
  ∀ w, K w → wp (Goal env) env c Q w

/-- And so does a whole function that takes no other steps. -/
theorem idle_frame (env : Env) {α : Type} {S : Event → Bool} {V : Vars → Vars → Prop}
    {c : Sketch α} (hc : Footprint S V c) (hS : ∀ e, S e = true → aloof e = true) :
    Holds env c (Idle env) fun _ => Idle env :=
  fun _ hw => wp_of_within hc.within (fun _ _ hstep h => idle_step hS hstep h)
    (fun _ h => goal_of_idle h) hw

/-! ## `setAlarm2` -/

/-- `setAlarm2` has been called and has not written yet. -/
def Called (dydw hour minute : UInt8) (w : World) : Prop :=
  settingAlarm w.log = true ∧ lastSet w.log = some (dydw, hour, minute)

/-- It has written the alarm. -/
def Burst (dydw hour minute : UInt8) (w : World) : Prop :=
  Called dydw hour minute w ∧
    w.rtc.settings.time2 = alarm2Bytes dydw hour minute .matchHM

/-- And switched the interrupt off. -/
def Disarmed (dydw hour minute : UInt8) (w : World) : Prop :=
  Burst dydw hour minute w ∧ w.rtc.settings.control.armed2 = false

/-- While `setAlarm2` is under way nothing is claimed. -/
theorem goal_of_called {env : Env} {dydw hour minute : UInt8} {w : World}
    (h : Called dydw hour minute w) : Goal env w := by
  intro hidle
  rw [h.1] at hidle
  cases hidle

/-- The call is left with the registers as they are meant. -/
theorem idle_of_disarmed {env : Env} {dydw hour minute : UInt8} {w : World}
    (h : Disarmed dydw hour minute w) : Idle env (w.record (.mark .leaveDS3231)) := by
  obtain ⟨⟨⟨-, hlast⟩, htime⟩, harmed⟩ := h
  refine ⟨rfl, ?_, fun _ => harmed⟩
  have hlast' : lastSet (w.record (.mark .leaveDS3231)).log = some (dydw, hour, minute) := hlast
  unfold meantBytes
  rw [hlast']
  exact htime

section SetAlarm2

variable (env : Env) {dydw hour minute : UInt8}

/-- The burst brings the bytes to the alarm registers. -/
theorem writeBurst_holds :
    Holds env (writeBurst regAlarm2 (alarm2Bytes dydw hour minute .matchHM))
      (Called dydw hour minute) fun _ => Burst dydw hour minute := by
  intro w hw
  refine wp_op (goal_of_called hw) ⟨hw, ?_⟩
  exact congrArg Settings.time2 (settings_alarm2Bytes dydw hour minute .matchHM _)

/-- A read does not change them. -/
theorem burst_read {w : World} (h : Burst dydw hour minute w) (dt : Nat)
    (reg value : UInt8) :
    Burst dydw hour minute ((w.pass env dt).record (.readRegister reg value)) :=
  ⟨h.1, (settings_pass env dt w).1.trans h.2⟩

/-- A write to a register that is none of alarm 2. -/
theorem burst_write {w : World} (h : Burst dydw hour minute w) (dt : Nat)
    {reg : UInt8} (hreg : reg = regControl ∨ reg = regStatus) (v : UInt8) (e : Event)
    (he : calm e = true) (hopen : ∀ l t, settingAlarm (⟨t, e⟩ :: l) = settingAlarm l) :
    Burst dydw hour minute
      ({ w.pass env dt with rtc := (w.pass env dt).rtc.storeAll reg [v] }.record e) := by
  have htime := (settings_pass env dt w).1.trans h.2
  refine ⟨⟨(hopen _ _).trans h.1.1, (lastSet_calm he _ _).trans h.1.2⟩, ?_⟩
  rcases hreg with rfl | rfl
  · exact htime
  · exact htime

/-- The interrupt is switched off. -/
theorem armAlarm2_holds :
    Holds env (armAlarm2 false) (Burst dydw hour minute) fun _ =>
      Disarmed dydw hour minute := by
  intro w hw
  refine wp_bind (wp_op (goal_of_called hw.1) ?_)
  have hread := burst_read env hw (env.elapse w.tick) regControl
    ((w.pass env (env.elapse w.tick)).rtc.regs regControl)
  refine wp_op (goal_of_called hread.1) ⟨?_, ?_⟩
  · exact burst_write env hread _ (.inl rfl) _ _ rfl fun _ _ => rfl
  · exact congrArg Control.armed2 (control_armAlarm2 false _)

/-- The flag is cleared; the alarm registers are others. -/
theorem clearAlarm2_holds :
    Holds env clearAlarm2 (Disarmed dydw hour minute) fun _ => Disarmed dydw hour minute := by
  intro w hw
  refine wp_bind (wp_op (goal_of_called hw.1.1) ?_)
  have hread := burst_read env hw.1 (env.elapse w.tick) regStatus
    ((w.pass env (env.elapse w.tick)).rtc.regs regStatus)
  have harmed : ((w.pass env (env.elapse w.tick)).record (.readRegister regStatus
      ((w.pass env (env.elapse w.tick)).rtc.regs regStatus))).rtc.settings.control.armed2 =
      false := by
    rw [World.record_rtc, (settings_pass env (env.elapse w.tick) w).2]
    exact hw.2
  refine wp_op (goal_of_called hread.1) ⟨?_, ?_⟩
  · exact burst_write env hread _ (.inr rfl) _ _ rfl fun _ _ => rfl
  · exact (congrArg Control.armed2 (settings_pass env _ _).2).trans harmed

/-- A whole call of `setAlarm2`. -/
theorem setAlarm2_holds :
    Holds env (DS3231.setAlarm2 dydw hour minute .matchHM false) (Idle env)
      fun _ => Idle env := by
  intro w hw
  have henter : Idle env (w.record (.mark .enterDS3231)) := idle_record rfl hw
  have hcall : Called dydw hour minute ((w.record (.mark .enterDS3231)).record
      (.mark (.setAlarm2 dydw hour minute))) := ⟨rfl, rfl⟩
  have hbody : wp (Goal env) env (do
      mark (.setAlarm2 dydw hour minute)
      writeBurst regAlarm2 (alarm2Bytes dydw hour minute .matchHM)
      armAlarm2 false
      clearAlarm2) (fun _ => Disarmed dydw hour minute) (w.record (.mark .enterDS3231)) := by
    refine wp_bind (wp_modify (wp_bind ?_))
    refine wp_mono (writeBurst_holds env _ hcall) fun _ w₁ hw₁ => wp_bind ?_
    refine wp_mono (armAlarm2_holds env w₁ hw₁) fun _ w₂ hw₂ => ?_
    exact clearAlarm2_holds env w₂ hw₂
  refine wp_bind (wp_modify (wp_bind (wp_mono hbody fun _ w' hw' => ?_)))
  exact wp_bind (wp_modify (wp_pure (idle_of_disarmed hw')))

end SetAlarm2

/-! ## The protothreads -/

/-- The clock display and a poll write no registers. -/
theorem aloof_of_inBackground (e : Event) (h : e.inUi = true ∨ e.inPoll = true) :
    aloof e = true := by
  rcases h with h | h
  · cases e with
    | mark p => cases p <;> first | rfl | cases h
    | _ => first | rfl | cases h
  · cases e with
    | mark p => cases p <;> first | rfl | cases h
    | writeRegisters => cases h
    | _ => rfl

/-- `ptSprinklers` writes the status register only. -/
theorem aloof_of_inSprinklers (e : Event) (h : e.inSprinklers = true) : aloof e = true := by
  cases e with
  | writeRegisters reg values a2f =>
      have h' : ((reg == regStatus && values.length == 1) || false) = true := h
      rw [Bool.or_false] at h'
      exact h'
  | mark p => cases p <;> first | rfl | cases h
  | _ => rfl

/-- What a session makes of an answer. -/
theorem applyThrow_holds (env : Env) (thr : Throw) :
    Holds env (applyThrow thr) (Idle env) fun _ => Idle env := by
  have hadd : ∀ (p : Point) (f : Vars → Vars), aloof (.mark p) = true →
      Footprint aloof (fun _ _ => True) (do
        mark p
        assign f
        let v ← vars
        AlarmDisplay.displayEditModeUI v.date) :=
    fun p f hp => Footprint.edited hp (fun _ => trivial) fun _ => rfl
  intro w hw
  cases thr with
  | idle => exact wp_pure hw
  | throwExit => exact wp_pure hw
  | throwAddHour => exact idle_frame env (hadd .addHour _ rfl) (fun _ h => h) w hw
  | throwAddMin => exact idle_frame env (hadd .addMinute _ rfl) (fun _ h => h) w hw
  | throwConfirm => exact wp_bind (wp_bind (wp_get (wp_pure (setAlarm2_holds env w hw))))

/-- The loop of a session, by induction on the operations left. -/
theorem editLoop_holds (env : Env) (thr : Throw) :
    Holds env (editLoop thr) (Idle env) fun _ => Idle env := by
  intro w hw
  refine wp_loop (fun _ => Idle env) ?_ (fun _ _ h => goal_of_idle h) hw
  intro thr w hw
  refine wp_ite ?_ ?_
  · exact fun _ => wp_bind (wp_modify (wp_pure (idle_record rfl hw)))
  · intro _
    have hpoll := idle_frame env (Footprint.runEditAlarmMode (V := Eq) .idle)
      (fun e h => aloof_of_inBackground e (.inr h)) w hw
    refine wp_bind (wp_mono hpoll fun thr' w₁ hw₁ => wp_bind ?_)
    exact wp_mono (applyThrow_holds env thr' w₁ hw₁) fun _ w₂ hw₂ => wp_pure hw₂

/-- A whole session. -/
theorem editSession_holds (env : Env) :
    Holds env editSession (Idle env) fun _ => Idle env := by
  intro w hw
  refine wp_bind (wp_bind (wp_get (wp_pure (wp_bind (wp_modify (wp_bind ?_))))))
  have hstart : Idle env (w.record (.mark (.editStart w.vars.date))) := idle_record rfl hw
  have hshow := idle_frame env (Footprint.displayEditModeUI (S := aloof)
    (V := Eq) w.vars.date fun _ => rfl) (fun _ h => h) _ hstart
  refine wp_mono hshow fun _ w₁ hw₁ => wp_bind ?_
  refine wp_mono (editLoop_holds env .idle w₁ hw₁) fun _ w₂ hw₂ => ?_
  exact idle_frame env (Footprint.delay (S := aloof) (V := Eq) rfl) (fun _ h => h) w₂ hw₂

/-- All that `ptIO` does. -/
theorem ptIO_holds (env : Env) : Holds env ptIO (Idle env) fun _ => Idle env := by
  intro w hw
  have hcond : ∀ w, Idle env w → wp (Goal env) env isClickedEditBtn
      (fun b w' => if b = true then Idle env w' else Idle env w') w := by
    intro w hw
    refine wp_mono (idle_frame env Footprint.isClickedEditBtn
      (fun e h => aloof_of_inBackground e (.inr h)) w hw) ?_
    intro b _ hb
    cases b <;> exact hb
  have hset : ∀ w, Idle env w → Idle env { w with vars := { w.vars with ptIo := true } } :=
    fun _ h => h
  have hreach : ∀ w, Idle env w → wp (Goal env) env (pure () : Sketch Unit)
      (fun _ w' => Idle env { w' with vars := { w'.vars with ptIo := true } }) w :=
    fun _ h => wp_pure h
  apply wp_protothread (Idle env) (Idle env) (Idle env) hreach hset hcond
    (editSession_holds env) (fun _ h => goal_of_idle h) fun _ h => goal_of_idle h
  split <;> exact hw

/-! ## Whole runs -/

/-- Before the first confirm. -/
def Untouched (env : Env) (w : World) : Prop :=
  settingAlarm w.log = false ∧ lastSet w.log = none ∧
    w.rtc.settings.time2 = (World.boot env).rtc.settings.time2

/-- Before the first confirm the registers hold what they held at power-on. -/
theorem idle_of_untouched {env : Env} {w : World} (h : Untouched env w) : Idle env w := by
  obtain ⟨hidle, hlast, htime⟩ := h
  refine ⟨hidle, ?_, fun hne => absurd hlast hne⟩
  unfold meantBytes
  rw [hlast]
  exact htime

/-- `setup()` writes the control register only. -/
theorem setup_holds (env : Env) : Holds env setup (Untouched env) fun _ => Idle env := by
  intro w hw
  have hstep : ∀ w w', Step Event.inSetup setupVars env w w' → Untouched env w →
      Untouched env w' := by
    rintro w w' hstep ⟨hidle, hlast, htime⟩
    have hcalm : ∀ e : Event, e.inSetup = true → calm e = true := by
      intro e h
      cases e with
      | mark p => cases p <;> first | rfl | cases h
      | _ => rfl
    cases hstep with
    | act dt e _ he =>
        exact ⟨settingAlarm_calm (hcalm e he) _ hidle, (lastSet_calm (hcalm e he) _ _).trans hlast,
          (settings_pass env dt w).1.trans htime⟩
    | mark p _ hp =>
        exact ⟨settingAlarm_calm (hcalm _ hp) _ hidle,
          (lastSet_calm (hcalm _ hp) _ _).trans hlast, htime⟩
    | assign v _ _ => exact ⟨hidle, hlast, htime⟩
    | write dt reg values _ he =>
        have hbus : (reg == regControl && values.length == 1) = true := he
        simp only [Bool.and_eq_true, beq_iff_eq, List.length_eq_one_iff] at hbus
        obtain ⟨rfl, value, rfl⟩ := hbus
        exact ⟨hidle, hlast, (settings_pass env dt w).1.trans htime⟩
  exact wp_mono (wp_of_within Footprint.setup.within hstep
    (fun _ h => goal_of_idle (idle_of_untouched h)) hw) fun _ _ h => idle_of_untouched h

/-- One pass of `loop()`. -/
theorem loop_holds (env : Env) : Holds env loop (Idle env) fun _ => Idle env := by
  intro w hw
  have hUi := idle_frame env Footprint.ptUIDisplay
    (fun e h => aloof_of_inBackground e (.inl h)) w hw
  refine wp_bind (wp_mono hUi fun _ w₁ hw₁ => wp_bind ?_)
  refine wp_mono (ptIO_holds env w₁ hw₁) fun _ w₂ hw₂ => ?_
  exact idle_frame env Footprint.ptSprinklers aloof_of_inSprinklers w₂ hw₂

/-- Every point of every run. -/
theorem run_goal (env : Env) (n : Nat) : Goal env (run env n) := by
  have hboot : Untouched env (World.boot env) := ⟨rfl, rfl, rfl⟩
  have hfirmware : Holds env firmware (Untouched env) fun _ => Idle env := by
    intro w hw
    refine wp_bind (wp_mono (setup_holds env w hw) fun _ w₁ hw₁ => ?_)
    refine wp_loop (fun _ => Idle env) ?_ (fun _ _ h => goal_of_idle h) hw₁
    exact fun _ w₂ hw₂ => wp_bind (wp_mono (loop_holds env w₂ hw₂) fun _ _ h => wp_pure h)
  rw [run_eq]
  exact run_of_wp (wp_mono (hfirmware _ hboot) fun _ _ h => goal_of_idle h) n

end ChipAlarm

/-- The alarm in the chip and where it comes from, for a panel that was in the
state `p` at power-on. -/
structure AlarmInChip (env : Env) (low : UInt8) (p : Panel) (w : World) : Prop where
  untouched : lastSet w.log = none →
    w.rtc.settings.time2 = (World.boot env).rtc.settings.time2
  bytes : ∀ dydw hour minute, lastSet w.log = some (dydw, hour, minute) →
    w.rtc.settings.time2 = alarm2Bytes dydw hour minute .matchHM ∧ w.rtc.isArmed2 = false
  /-- `getAlarm2` would answer it exactly if two digits with a tens digit of at
  most 7 hold each part; the day of a long session need not fit. -/
  readback : ∀ dydw hour minute, lastSet w.log = some (dydw, hour, minute) →
    (w.rtc.getAlarm2 = ⟨dydw, hour, minute, 0⟩ ↔ dydw < 80 ∧ hour < 80 ∧ minute < 80)
  /-- It stood on the glass when it was set. -/
  seen : ∀ dydw hour minute, lastSet w.log = some (dydw, hour, minute) →
    ∃ newer t older d, w.log = newer ++ ⟨t, .mark (.setAlarm2 dydw hour minute)⟩ :: older ∧
      lastSet newer = none ∧ (panelOf low p (lcdBus older)).Shows (.edit d) ∧
      (dydw, hour, minute) = (d.day, d.hour, d.minute)

/-- The numbers that are read back as they were written, whatever the top bit of
their register says. -/
theorem sevenBits_readback (v : UInt8) :
    (bcd2dec (matched v &&& 0b01111111) = v ↔ v < 80) ∧
      (bcd2dec (ignored v &&& 0b01111111) = v ↔ v < 80) := by
  have hall : ∀ v : UInt8, (bcd2dec (matched v &&& 0b01111111) = v ↔ v < 80) ∧
      (bcd2dec (ignored v &&& 0b01111111) = v ↔ v < 80) :=
    forall_byte (by decide +kernel)
  exact hall v

/-- `getAlarm2` reads the alarm-2 registers only. -/
theorem getAlarm2_of {r : Rtc} {minute hour day : UInt8}
    (h : r.settings.time2 = [minute, hour, day]) :
    r.getAlarm2 = ⟨bcd2dec (day &&& 0b01111111), bcd2dec (hour &&& 0b01111111),
      bcd2dec (minute &&& 0b01111111), 0⟩ := by
  have hregs : [r.regs 11, r.regs 12, r.regs 13] = [minute, hour, day] := h
  simp only [List.cons.injEq, and_true] at hregs
  obtain ⟨hminute, hhour, hday⟩ := hregs
  rw [← hminute, ← hhour, ← hday]
  rfl

/-- What `getAlarm2` makes of the bytes of an alarm. -/
theorem getAlarm2_matchHM {r : Rtc} {dydw hour minute : UInt8}
    (h : r.settings.time2 = alarm2Bytes dydw hour minute .matchHM) :
    r.getAlarm2 = ⟨dydw, hour, minute, 0⟩ ↔ dydw < 80 ∧ hour < 80 ∧ minute < 80 := by
  have hbytes : r.settings.time2 = [matched minute, matched hour, ignored dydw] := h
  rw [getAlarm2_of hbytes, RTCAlarmTime.mk.injEq, (sevenBits_readback dydw).2,
    (sevenBits_readback hour).1, (sevenBits_readback minute).1]
  simp only [and_true]

/-- **The alarm in the chip is the one confirmed on the glass**, over whole runs,
for all surroundings and from every state of the panel. -/
theorem chip_alarm (env : Env) (low : UInt8) (p : Panel) (n : Nat)
    (hidle : settingAlarm (run env n).log = false) : AlarmInChip env low p (run env n) := by
  have hheld := ChipAlarm.run_goal env n hidle
  have hglass := glass_current env low p n
  have htime : ∀ dydw hour minute, lastSet (run env n).log = some (dydw, hour, minute) →
      (run env n).rtc.settings.time2 = alarm2Bytes dydw hour minute .matchHM := by
    intro dydw hour minute hlast
    have h := hheld.1
    unfold meantBytes at h
    rw [hlast] at h
    exact h
  generalize run env n = w at hidle hheld hglass htime ⊢
  refine ⟨?_, ?_, ?_, ?_⟩
  · intro hlast
    have h := hheld.1
    unfold meantBytes at h
    rw [hlast] at h
    exact h
  · intro dydw hour minute hlast
    refine ⟨htime dydw hour minute hlast, hheld.2 ?_⟩
    rw [hlast]
    exact Option.some_ne_none _
  · intro dydw hour minute hlast
    exact getAlarm2_matchHM (htime dydw hour minute hlast)
  · intro dydw hour minute hlast
    obtain ⟨newer, ⟨t, e⟩, older, hcut, he, hnewer⟩ := latest_cut hlast
    have hmark : e = .mark (.setAlarm2 dydw hour minute) := by
      cases e with
      | mark p =>
          cases p with
          | setAlarm2 => cases he; rfl
          | _ => cases he
      | _ => cases he
    subst hmark
    obtain ⟨d, hshows, hargs⟩ := ((always_iff _ _).mp hglass newer _ older hcut).confirmed
      dydw hour minute rfl
    exact ⟨newer, t, older, d, hcut, hnewer, hshows, hargs⟩

/-- A session opened at power-on and confirmed at once. -/
def confirmAtOnce : Env :=
  { Env.quiet with
    level := fun i _ b =>
      b = .btnEditMode && i == 18 || b = .btnAlarmConfirm && i == 24 }

/-- The first day at midnight is confirmed, and is what the chip then holds. -/
theorem confirmAtOnce_alarm :
    lastSet (run confirmAtOnce 60).log = some (1, 0, 0) ∧
      AlarmInChip confirmAtOnce 0 ⟨0, .reset true⟩ (run confirmAtOnce 60) :=
  ⟨by decide +kernel, chip_alarm confirmAtOnce 0 ⟨0, .reset true⟩ 60 (by decide +kernel)⟩

/-! ## The calls of the sketch on a chip that is left alone -/

/-- From `w` on the clock matches no alarm. -/
def Still (env : Env) (w : World) : Prop := ∀ i, w.tick ≤ i → env.alarm2Match i = false

/-- Time goes on, and the chip does not change. -/
theorem Still.pass {env : Env} {w : World} (h : Still env w) (dt : Nat) :
    Still env (w.pass env dt) ∧ (w.pass env dt).rtc = w.rtc := by
  constructor
  · intro i hi
    exact h i (Nat.le_of_succ_le hi)
  · show (if env.alarm2Match w.tick then w.rtc.matchAlarm2 else w.rtc) = w.rtc
    rw [h w.tick (Nat.le_refl _)]
    rfl

/-- `c` changes the chip as `f` says and answers accordingly. -/
def OnChip {α : Type} (env : Env) (c : Sketch α) (f : Rtc → α × Rtc) : Prop :=
  ∀ w, Still env w → wp (fun _ => True) env c
    (fun a w' => Still env w' ∧ (a, w'.rtc) = f w.rtc) w

namespace OnChip

variable {env : Env} {α β : Type}

/-- Nothing is done. -/
theorem pure (a : α) : OnChip env (pure a) fun r => (a, r) :=
  fun _ h => wp_pure ⟨h, rfl⟩

/-- Two parts, one after the other. -/
theorem seq {c : Sketch β} {k : β → Sketch α} {f : Rtc → β × Rtc} {g : β → Rtc → α × Rtc}
    (hc : OnChip env c f) (hk : ∀ b, OnChip env (k b) (g b)) :
    OnChip env (c >>= k) fun r => g (f r).1 (f r).2 := by
  intro w hw
  refine wp_bind (wp_mono (hc w hw) ?_)
  rintro b w' ⟨hstill, hchip⟩
  refine wp_mono (hk b w' hstill) ?_
  rintro a w'' ⟨hstill', hchip'⟩
  refine ⟨hstill', hchip'.trans ?_⟩
  show g b w'.rtc = g (f w.rtc).1 (f w.rtc).2
  rw [← hchip]

/-- A mark does not reach the chip. -/
theorem mark (p : Point) : OnChip env (mark p) fun r => ((), r) :=
  fun _ h => wp_modify ⟨h, rfl⟩

/-- A read is answered from the registers. -/
theorem readRegister8 (reg : UInt8) :
    OnChip env (readRegister8 reg) fun r => (r.regs reg, r) := by
  intro w h
  obtain ⟨hstill, hchip⟩ := h.pass (env.elapse w.tick)
  refine wp_op trivial ⟨hstill, ?_⟩
  show ((w.pass env (env.elapse w.tick)).rtc.regs reg, (w.pass env (env.elapse w.tick)).rtc) = _
  rw [hchip]

/-- A burst is stored. -/
theorem writeBurst (reg : UInt8) (values : List UInt8) :
    OnChip env (writeBurst reg values) fun r => ((), r.storeAll reg values) := by
  intro w h
  obtain ⟨hstill, hchip⟩ := h.pass (env.elapse w.tick)
  refine wp_op trivial ⟨hstill, ?_⟩
  show ((), (w.pass env (env.elapse w.tick)).rtc.storeAll reg values) = _
  rw [hchip]

/-- Other operations do not reach the chip. -/
theorem act (e : Event) : OnChip env (act e) fun r => ((), r) := by
  intro w h
  obtain ⟨hstill, hchip⟩ := h.pass (env.elapse w.tick)
  exact wp_op trivial ⟨hstill, congrArg ((), ·) hchip⟩

/-- Nor do the marks around a member function. -/
theorem member {c : Sketch α} {f : Rtc → α × Rtc} (hc : OnChip env c f) :
    OnChip env (member c) f :=
  (mark _).seq fun _ => hc.seq fun a => (mark _).seq fun _ => pure a

/-- Reading a register, changing it and writing it back. -/
theorem modify (reg : UInt8) (f : UInt8 → UInt8) :
    OnChip env (DS3231.readRegister8 reg >>= fun v => writeRegister8 reg (f v))
      fun r => ((), r.writeRegister8 reg (f (r.regs reg))) :=
  (readRegister8 reg).seq fun v => writeBurst reg [f v]

/-- `clearAlarm2` of the sketch is that of the chip. -/
theorem clearAlarm2 : OnChip env clearAlarm2 fun r => ((), r.clearAlarm2) :=
  modify regStatus (· &&& 0b11111101)

/-- So is `armAlarm2`. -/
theorem armAlarm2 (armed : Bool) : OnChip env (armAlarm2 armed) fun r => ((), r.armAlarm2 armed) :=
  modify regControl fun v => if armed then v ||| 0b00000010 else v &&& 0b11111101

/-- So is `begin`. -/
theorem begin : OnChip env begin fun r => ((), r.setBattery true false) :=
  member ((act _).seq fun _ => modify regControl fun v => (v &&& 0b10111111) &&& 0b01111011)

/-- So is `setAlarm2`. -/
theorem setAlarm2 (dydw hour minute : UInt8) (mode : Alarm2Mode) (armed : Bool) :
    OnChip env (setAlarm2 dydw hour minute mode armed)
      fun r => ((), r.setAlarm2 dydw hour minute mode armed) :=
  member ((mark _).seq fun _ => (writeBurst regAlarm2 _).seq fun _ =>
    (armAlarm2 armed).seq fun _ => clearAlarm2)

/-- So is `isAlarm2`, with its answer. -/
theorem isAlarm2 (clear : Bool) : OnChip env (isAlarm2 clear) fun r => r.isAlarm2 clear := by
  have hanswer : ∀ status : UInt8, OnChip env
      (if status &&& 0b00000010 != 0 && clear then
        DS3231.clearAlarm2 >>= fun _ => Pure.pure (status &&& 0b00000010 != 0)
      else Pure.pure (status &&& 0b00000010 != 0))
      fun r => (status &&& 0b00000010 != 0,
        if status &&& 0b00000010 != 0 && clear then r.clearAlarm2 else r) := by
    intro status
    by_cases h : (status &&& 0b00000010 != 0 && clear) = true
    · simp only [if_pos h]
      exact clearAlarm2.seq fun _ => pure _
    · simp only [if_neg h]
      exact pure _
  exact member ((readRegister8 regStatus).seq hanswer)

end OnChip

end SprinklersAlarmClock
