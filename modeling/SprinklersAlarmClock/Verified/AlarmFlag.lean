import SprinklersAlarmClock.Verified.AlarmPoll

/-!
# No alarm is invented, and which are lost

The DS3231 raises its alarm-2 flag between any two bus transactions; the sketch
clears it in two places.  `isAlarm2` clears a flag it has seen, and an episode
starts.  `setAlarm2`, called by a confirm, ends by clearing whatever is there, so
that the new alarm starts with a clean flag; a match pending at that moment is
dropped.  Counting these drops, no match is lost and no episode is invented, and
every poll that finds the flag set begins an episode (`alarms_accounted`).

The flag is a matter between the program and the clock chip, so the invariants
here are about whole states, not only about the log.
-/

namespace SprinklersAlarmClock

open Logic SPIOStream

/-! ## Reading the log -/

/-- Control is inside a member function of `DS3231`. -/
def inDS3231 (l : Log) : Bool :=
  (latest (fun e => match e.event with
    | .mark .enterDS3231 => some true
    | .mark .leaveDS3231 => some false
    | _ => none) l).getD false

/-- A write to the status register that finds A2F set. -/
def Event.findsA2F : Event → Bool
  | .writeRegisters reg _ a2f => reg == regStatus && a2f
  | _ => false

/-- The number of alarm episodes started. -/
def episodes (l : Log) : Nat := l.countP fun e => e.event.isAlarm

/-- The number of writes to the status register that found A2F set. -/
def falls (l : Log) : Nat := l.countP fun e => e.event.findsA2F

/-- The number of those that ended a `setAlarm2`. -/
def drops : Log → Nat
  | [] => 0
  | e :: older => drops older + if e.event.findsA2F && inSetAlarm2 older then 1 else 0

/-- 1 if A2F is set. -/
def Rtc.pending (r : Rtc) : Nat := if r.a2f then 1 else 0

/-- Outside the calls of `DS3231`, every match so far has started an episode or
is pending. -/
def AlarmsKept (w : World) : Prop :=
  inDS3231 w.log = false → w.rtc.rises = episodes w.log + w.rtc.pending

/-- A2F has risen as often as a write found it set, and once more if it is set;
outside the calls of `DS3231`, each of these writes has started an episode or
ended a `setAlarm2`. -/
def AlarmsAccounted (w : World) : Prop :=
  w.rtc.rises = falls w.log + w.rtc.pending ∧
    (inDS3231 w.log = false → falls w.log = episodes w.log + drops w.log)

instance (w : World) : Decidable (AlarmsKept w) :=
  inferInstanceAs (Decidable (_ = _ → _ = _))

namespace AlarmFlag

/-! ## The flag in the clock chip -/

/-- A match sets A2F. -/
theorem a2f_matchAlarm2 (r : Rtc) : r.matchAlarm2.a2f = true := by
  have hbit : ∀ n < 256, (UInt8.ofNat n ||| 0b00000010) &&& 0b00000010 ≠ 0 := by
    decide +kernel
  have h := hbit (r.regs regStatus).toNat (r.regs regStatus).toNat_lt
  rw [UInt8.ofNat_toNat] at h
  simpa [Rtc.a2f, Rtc.matchAlarm2] using h

/-- While an operation is under way the flag can rise, and is counted. -/
theorem rises_pass (env : Env) (dt : Nat) (w : World) :
    (w.pass env dt).rtc.rises + w.rtc.pending =
      w.rtc.rises + (w.pass env dt).rtc.pending := by
  show (if env.alarm2Match w.tick then w.rtc.matchAlarm2 else w.rtc).rises + _ =
    _ + (if env.alarm2Match w.tick then w.rtc.matchAlarm2 else w.rtc).pending
  by_cases hmatch : env.alarm2Match w.tick = true
  · rw [if_pos hmatch]
    have hset := a2f_matchAlarm2 w.rtc
    have hrises : w.rtc.matchAlarm2.rises =
        if w.rtc.a2f then w.rtc.rises else w.rtc.rises + 1 := rfl
    rw [hrises]
    unfold Rtc.pending
    rw [hset]
    cases w.rtc.a2f <;> simp
  · rw [if_neg hmatch]

/-- It does not fall. -/
theorem a2f_pass (env : Env) (dt : Nat) {w : World} (h : w.rtc.a2f = true) :
    (w.pass env dt).rtc.a2f = true := by
  show (if env.alarm2Match w.tick then w.rtc.matchAlarm2 else w.rtc).a2f = true
  by_cases hmatch : env.alarm2Match w.tick = true
  · rw [if_pos hmatch]
    exact a2f_matchAlarm2 w.rtc
  · rw [if_neg hmatch]
    exact h

/-- A write to another register leaves A2F alone. -/
theorem a2f_store {reg : UInt8} (h : reg ≠ regStatus) (value : UInt8) (r : Rtc) :
    (r.store reg value).a2f = r.a2f := by
  simp [Rtc.a2f, Rtc.store, h, Function.update_of_ne h.symm]

/-- No write makes A2F rise. -/
theorem rises_storeAll (values : List UInt8) :
    ∀ (reg : UInt8) (r : Rtc), (r.storeAll reg values).rises = r.rises := by
  induction values with
  | nil => exact fun _ _ => rfl
  | cons value rest ih =>
      intro reg r
      rw [Rtc.storeAll, ih]
      rfl

/-- `clearAlarm2` writes a value with bit 1 clear. -/
theorem a2f_cleared (value : UInt8) (r : Rtc) :
    (r.storeAll regStatus [value &&& 0b11111101]).a2f = false := by
  have hbits : ∀ x v : UInt8, ((x &&& (v &&& 0b11111101) &&& 0b10000011) |||
      (v &&& 0b11111101 &&& 0b00001000) ||| (x &&& 0b00000100)) &&& 0b00000010 = 0 := by
    intro x v
    apply UInt8.toBitVec_inj.mp
    ext i hi
    have h : i = 0 ∨ i = 1 ∨ i = 2 ∨ i = 3 ∨ i = 4 ∨ i = 5 ∨ i = 6 ∨ i = 7 := by omega
    rcases h with rfl | rfl | rfl | rfl | rfl | rfl | rfl | rfl <;> simp
  simp [Rtc.storeAll, Rtc.a2f, Rtc.store, hbits]

/-- The three alarm-2 registers are not the status register. -/
theorem a2f_alarm2Bytes (dydw hour minute : UInt8) (mode : DS3231.Alarm2Mode) (r : Rtc) :
    (r.storeAll regAlarm2 (DS3231.alarm2Bytes dydw hour minute mode)).a2f = r.a2f := by
  have h₀ : regAlarm2 ≠ regStatus := by decide
  have h₁ : regAlarm2 + 1 ≠ regStatus := by decide
  have h₂ : regAlarm2 + 1 + 1 ≠ regStatus := by decide
  cases mode <;>
    simp only [DS3231.alarm2Bytes, Rtc.storeAll, a2f_store h₀, a2f_store h₁, a2f_store h₂]

/-- The control register is another register. -/
theorem a2f_control (value : UInt8) (r : Rtc) :
    (r.storeAll regControl [value]).a2f = r.a2f := by
  have h : regControl ≠ regStatus := by decide
  simp only [Rtc.storeAll, a2f_store h]

/-! ## The counts -/

/-- The counts as they are outside `isAlarm2`. -/
def Count (w : World) : Prop :=
  w.rtc.rises = falls w.log + w.rtc.pending ∧
    falls w.log = episodes w.log + drops w.log

/-- The flag has been cleared and the episode has not been counted yet. -/
def Owed (w : World) : Prop :=
  w.rtc.rises = falls w.log + w.rtc.pending ∧
    falls w.log = episodes w.log + drops w.log + 1

/-- Outside the calls of the library the counts are the account. -/
theorem accounted_of_count {w : World} (h : Count w) : AlarmsAccounted w :=
  ⟨h.1, fun _ => h.2⟩

/-- Events the counts do not depend on. -/
def uncounted (e : Event) : Bool := !e.findsA2F && !e.isAlarm

section Uncounted

variable {e : Event} (h : uncounted e = true) (w : World)

include h

/-- Such an event neither finds A2F set nor begins an episode. -/
theorem uncounted_both : e.findsA2F = false ∧ e.isAlarm = false := by
  simpa [uncounted] using h

/-- It counts for no fall. -/
theorem falls_uncounted : falls (w.record e).log = falls w.log := by
  simp [falls, (uncounted_both h).1]

/-- It counts for no episode. -/
theorem episodes_uncounted : episodes (w.record e).log = episodes w.log := by
  simp [episodes, (uncounted_both h).2]

/-- It counts for no drop. -/
theorem drops_uncounted : drops (w.record e).log = drops w.log := by
  simp [drops, (uncounted_both h).1]

/-- It leaves the counts right. -/
theorem count_record (hw : Count w) : Count (w.record e) := by
  unfold Count
  rw [falls_uncounted h, episodes_uncounted h, drops_uncounted h]
  exact hw

end Uncounted

/-- Time goes on, and a match counts as a rise that is pending. -/
theorem count_pass {env : Env} {dt : Nat} {w : World} (h : Count w) :
    Count (w.pass env dt) := by
  have hrises := rises_pass env dt w
  obtain ⟨hbalance, hcounts⟩ := h
  constructor
  · show _ = falls w.log + _
    omega
  · exact hcounts

/-- A change of the chip that leaves A2F alone. -/
theorem count_rtc {w : World} {r : Rtc} (hrises : r.rises = w.rtc.rises)
    (ha2f : r.a2f = w.rtc.a2f) (h : Count w) : Count { w with rtc := r } := by
  have hpending : r.pending = w.rtc.pending := by unfold Rtc.pending; rw [ha2f]
  constructor
  · show r.rises = falls w.log + r.pending
    rw [hrises, hpending]
    exact h.1
  · exact h.2

/-! ## Functions that leave the flag alone -/

/-- Events of functions that write at most the control register. -/
def harmless : Event → Bool
  | .writeRegisters reg values _ => reg == regControl && values.length == 1
  | .mark .alarm => false
  | _ => true

/-- Harmless events count for nothing. -/
theorem uncounted_of_harmless {e : Event} (h : harmless e = true) :
    uncounted e = true := by
  cases e with
  | writeRegisters reg values a2f =>
      have hreg : reg = regControl := by
        simp only [harmless, Bool.and_eq_true, beq_iff_eq] at h
        exact h.1
      subst hreg
      rfl
  | mark p => cases p <;> first | rfl | cases h
  | _ => rfl

/-- A harmless step leaves the counts right. -/
theorem count_step {S : Event → Bool} {V : Vars → Vars → Prop}
    (hS : ∀ e, S e = true → harmless e = true) {env : Env} {w w' : World}
    (hstep : Step S V env w w') (h : Count w) : Count w' := by
  cases hstep with
  | act dt e _ he =>
      exact count_record (uncounted_of_harmless (hS e he)) _ (count_pass h)
  | mark p _ hp => exact count_record (uncounted_of_harmless (hS _ hp)) _ h
  | assign v _ _ => exact h
  | write dt reg values _ he =>
      have hbus := hS _ he
      simp only [harmless, Bool.and_eq_true, beq_iff_eq, List.length_eq_one_iff] at hbus
      obtain ⟨rfl, value, rfl⟩ := hbus
      apply count_record (uncounted_of_harmless (hS _ he))
      exact count_rtc (rises_storeAll _ _ _) (a2f_control value _) (count_pass h)

/-- What a run has to satisfy and the counts with it. -/
abbrev Counts {α : Type} (env : Env) (c : Sketch α) (K : World → Prop)
    (Q : α → World → Prop) : Prop :=
  ∀ w, K w → wp AlarmsAccounted env c Q w

/-- And so does a whole function that takes no other steps. -/
theorem count_frame (env : Env) {α : Type} {S : Event → Bool}
    {V : Vars → Vars → Prop} {c : Sketch α} (hc : Footprint S V c)
    (hS : ∀ e, S e = true → harmless e = true) :
    Counts env c Count fun _ => Count :=
  fun _ hw => wp_of_within hc.within (fun _ _ hstep h => count_step hS hstep h)
    (fun _ h => accounted_of_count h) hw

/-! ## `isAlarm2` -/

/-- A2F has been read set, and only `isAlarm2` is under way. -/
def Seen (w : World) : Prop :=
  Count w ∧ w.rtc.a2f = true ∧ inSetAlarm2 w.log = false

/-- The answer of a status read is remembered while time goes on. -/
theorem seen_read (env : Env) (dt : Nat) {w : World} (h : Seen w) (reg value : UInt8) :
    Seen ((w.pass env dt).record (.readRegister reg value)) :=
  ⟨count_record rfl _ (count_pass h.1), a2f_pass env dt h.2.1, h.2.2⟩

/-- The write of `clearAlarm2`. -/
def clearedBy (env : Env) (dt : Nat) (w : World) (value : UInt8) : World :=
  { w.pass env dt with
    rtc := (w.pass env dt).rtc.storeAll regStatus [value &&& 0b11111101] }.record
      (.writeRegisters regStatus [value &&& 0b11111101] (w.pass env dt).rtc.a2f)

section Cleared

variable (env : Env) (dt : Nat) (w : World) (value : UInt8)

/-- A write that clears A2F is a fall if A2F was set. -/
theorem falls_cleared : falls (clearedBy env dt w value).log =
    falls w.log + (w.pass env dt).rtc.pending := by
  show falls (⟨_, .writeRegisters regStatus _ (w.pass env dt).rtc.a2f⟩ :: w.log) = _
  unfold falls Rtc.pending
  cases (w.pass env dt).rtc.a2f <;> simp [Event.findsA2F]

/-- It is a drop where `setAlarm2` is under way. -/
theorem drops_cleared : drops (clearedBy env dt w value).log =
    drops w.log + if inSetAlarm2 w.log then (w.pass env dt).rtc.pending else 0 := by
  show drops (⟨_, .writeRegisters regStatus _ (w.pass env dt).rtc.a2f⟩ :: w.log) = _
  unfold Rtc.pending
  cases (w.pass env dt).rtc.a2f <;> cases hset : inSetAlarm2 w.log <;>
    simp [drops, Event.findsA2F, hset]

/-- It begins no episode. -/
theorem episodes_cleared :
    episodes (clearedBy env dt w value).log = episodes w.log := by
  show episodes (⟨_, .writeRegisters regStatus _ (w.pass env dt).rtc.a2f⟩ :: w.log) = _
  simp [episodes, Event.isAlarm]

/-- Every rise so far has been found by a write. -/
theorem balance_cleared (h : w.rtc.rises = falls w.log + w.rtc.pending) :
    (clearedBy env dt w value).rtc.rises =
      falls (clearedBy env dt w value).log + (clearedBy env dt w value).rtc.pending := by
  have hrises : (clearedBy env dt w value).rtc.rises = (w.pass env dt).rtc.rises :=
    rises_storeAll _ _ _
  have hpending : (clearedBy env dt w value).rtc.pending = 0 := by
    have ha2f : (clearedBy env dt w value).rtc.a2f = false :=
      a2f_cleared value (w.pass env dt).rtc
    simp [Rtc.pending, ha2f]
  have hpass := rises_pass env dt w
  rw [hrises, hpending, falls_cleared]
  omega

end Cleared

/-- After it an episode is owed for what `isAlarm2` has found. -/
theorem owed_cleared {env : Env} {dt : Nat} {w : World} (h : Seen w) (value : UInt8) :
    Owed (clearedBy env dt w value) := by
  obtain ⟨⟨hbalance, hcounts⟩, ha2f, hset⟩ := h
  have hone : (w.pass env dt).rtc.pending = 1 := by
    simp [Rtc.pending, a2f_pass env dt ha2f]
  constructor
  · exact balance_cleared env dt w value hbalance
  · rw [falls_cleared, episodes_cleared, drops_cleared, hset, hone, hcounts]
    simp

/-- The clear of `isAlarm2`. -/
theorem clearAlarm2_owed (env : Env) :
    Counts env DS3231.clearAlarm2 Seen fun _ => Owed := by
  intro w hw
  refine wp_bind (wp_op (accounted_of_count hw.1) ?_)
  have hseen := seen_read env (env.elapse w.tick) hw regStatus
    ((w.pass env (env.elapse w.tick)).rtc.regs regStatus)
  exact wp_op (accounted_of_count hseen.1) (owed_cleared hseen _)

/-- The debt stands until the episode begins. -/
theorem owed_record {e : Event} (h : uncounted e = true) {w : World} (hw : Owed w) :
    Owed (w.record e) := by
  unfold Owed
  rw [falls_uncounted h, episodes_uncounted h, drops_uncounted h]
  exact hw

/-- `isAlarm2` answers true exactly if it has cleared the flag. -/
theorem isAlarm2_counts (env : Env) :
    Counts env (DS3231.isAlarm2 true) Count
      fun b w => if b = true then Owed w else Count w := by
  intro w hw
  have henter : Count (w.record (.mark .enterDS3231)) := count_record rfl _ hw
  refine wp_bind (wp_modify (wp_bind ?_))
  have hbody : wp AlarmsAccounted env (do
      let status ← DS3231.readRegister8 regStatus
      let alarm := status &&& 0b00000010 != 0
      if alarm && true then
        DS3231.clearAlarm2
        return alarm
      else
        return alarm)
      (fun b w => if b = true then Owed w else Count w)
      (w.record (.mark .enterDS3231)) := by
    refine wp_bind (wp_op (accounted_of_count henter) ?_)
    have hread : Count (((w.record (.mark .enterDS3231)).pass env
        (env.elapse w.tick)).record (.readRegister regStatus
          (((w.record (.mark .enterDS3231)).pass env (env.elapse w.tick)).rtc.regs
            regStatus))) :=
      count_record rfl _ (count_pass henter)
    refine wp_ite ?_ ?_
    · intro hset
      have ha2f : ((w.record (.mark .enterDS3231)).pass env
          (env.elapse w.tick)).rtc.a2f = true := by
        simpa [Rtc.a2f] using hset
      refine wp_bind (wp_mono (clearAlarm2_owed env _ ⟨hread, ha2f, rfl⟩) ?_)
      intro _ w' howed
      refine wp_pure ?_
      rw [Bool.and_true] at hset
      rw [if_pos hset]
      exact howed
    · intro hclear
      refine wp_pure ?_
      rw [Bool.and_true] at hclear
      rw [if_neg hclear]
      exact hread
  refine wp_mono hbody fun b w' hw' => wp_bind (wp_modify (wp_pure ?_))
  by_cases hb : b = true
  · rw [if_pos hb] at hw' ⊢
    exact owed_record rfl hw'
  · rw [if_neg hb] at hw' ⊢
    exact count_record rfl _ hw'

/-! ## `setAlarm2` -/

/-- `setAlarm2` is under way. -/
def Setting (w : World) : Prop := Count w ∧ inSetAlarm2 w.log = true

/-- `setAlarm2` reads a register. -/
theorem setting_read (env : Env) (dt : Nat) {w : World} (h : Setting w)
    (reg value : UInt8) :
    Setting ((w.pass env dt).record (.readRegister reg value)) :=
  ⟨count_record rfl _ (count_pass h.1), h.2⟩

/-- A write that does not reach the status register. -/
theorem setting_write (env : Env) {reg : UInt8} {values : List UInt8}
    (hreg : reg ≠ regStatus) (ha2f : ∀ r : Rtc, (r.storeAll reg values).a2f = r.a2f) :
    Counts env (DS3231.writeBurst reg values) Setting fun _ => Setting := by
  intro w hw
  refine wp_op (accounted_of_count hw.1) ⟨?_, hw.2⟩
  have hevent : ∀ a2f, uncounted (.writeRegisters reg values a2f) = true := by
    intro a2f
    simp [uncounted, Event.findsA2F, Event.isAlarm, hreg]
  exact count_record (hevent _) _
    (count_rtc (rises_storeAll _ _ _) (ha2f _) (count_pass hw.1))

/-- It switches the interrupt off. -/
theorem armAlarm2_counts (env : Env) (armed : Bool) :
    Counts env (DS3231.armAlarm2 armed) Setting fun _ => Setting := by
  intro w hw
  refine wp_bind (wp_op (accounted_of_count hw.1) ?_)
  exact setting_write env (by decide) (a2f_control _) _ (setting_read env _ hw _ _)

/-- The write that ends `setAlarm2` may drop a match, and is counted. -/
theorem count_cleared {env : Env} {dt : Nat} {w : World} (h : Setting w)
    (value : UInt8) : Count (clearedBy env dt w value) := by
  obtain ⟨⟨hbalance, hcounts⟩, hset⟩ := h
  constructor
  · exact balance_cleared env dt w value hbalance
  · rw [falls_cleared, episodes_cleared, drops_cleared, hset, hcounts]
    simp
    omega

/-- And its closing clear counts what it drops. -/
theorem clearAlarm2_counts (env : Env) :
    Counts env DS3231.clearAlarm2 Setting fun _ => Count := by
  intro w hw
  refine wp_bind (wp_op (accounted_of_count hw.1) ?_)
  have hread := setting_read env (env.elapse w.tick) hw regStatus
    ((w.pass env (env.elapse w.tick)).rtc.regs regStatus)
  exact wp_op (accounted_of_count hread.1) (count_cleared hread _)

/-- A whole call of `setAlarm2`. -/
theorem setAlarm2_counts (env : Env) (dydw hour minute : UInt8)
    (mode : DS3231.Alarm2Mode) (armed : Bool) :
    Counts env (DS3231.setAlarm2 dydw hour minute mode armed) Count fun _ => Count := by
  intro w hw
  have hcall : Setting ((w.record (.mark .enterDS3231)).record
      (.mark (.setAlarm2 dydw hour minute))) :=
    ⟨count_record rfl _ (count_record rfl _ hw), rfl⟩
  have hbody : wp AlarmsAccounted env (do
      mark (.setAlarm2 dydw hour minute)
      DS3231.writeBurst regAlarm2 (DS3231.alarm2Bytes dydw hour minute mode)
      DS3231.armAlarm2 armed
      DS3231.clearAlarm2) (fun _ => Count) (w.record (.mark .enterDS3231)) := by
    refine wp_bind (wp_modify (wp_bind ?_))
    have hburst := setting_write env (by decide)
      (a2f_alarm2Bytes dydw hour minute mode) _ hcall
    refine wp_mono hburst fun _ w₁ hw₁ => wp_bind ?_
    refine wp_mono (armAlarm2_counts env armed w₁ hw₁) fun _ w₂ hw₂ => ?_
    exact clearAlarm2_counts env w₂ hw₂
  refine wp_bind (wp_modify (wp_bind (wp_mono hbody fun _ w' hw' => ?_)))
  exact wp_bind (wp_modify (wp_pure (count_record rfl _ hw')))

/-! ## The protothreads -/

/-- What an episode does is harmless. -/
theorem harmless_of_inAlarm (e : Event) (h : e.inAlarm = true) : harmless e = true := by
  cases e with
  | mark p => cases p <;> first | rfl | cases h
  | _ => first | rfl | cases h

/-- What a poll does is harmless. -/
theorem harmless_of_inPoll (e : Event) (h : e.inPoll = true) : harmless e = true :=
  harmless_of_inAlarm e (Footprint.inPoll_inAlarm e h)

/-- What the clock display does is harmless. -/
theorem harmless_of_inUi (e : Event) (h : e.inUi = true) : harmless e = true := by
  cases e with
  | mark p => cases p <;> first | rfl | cases h
  | _ => first | rfl | cases h

/-- What `setup()` does is harmless. -/
theorem harmless_of_inSetup (e : Event) (h : e.inSetup = true) : harmless e = true := by
  cases e with
  | writeRegisters reg values a2f => exact h
  | mark p => cases p <;> first | rfl | cases h
  | _ => rfl

/-- What an edit session makes of an answer. -/
theorem applyThrow_counts (env : Env) (thr : Throw) :
    Counts env (applyThrow thr) Count fun _ => Count := by
  have hadd : ∀ (p : Point) (f : Vars → Vars), harmless (.mark p) = true →
      Footprint harmless (fun _ _ => True) (do
        mark p
        assign f
        let v ← vars
        AlarmDisplay.displayEditModeUI v.date) :=
    fun p f hp => Footprint.edited hp (fun _ => trivial) fun _ => rfl
  intro w hw
  cases thr with
  | idle => exact wp_pure hw
  | throwExit => exact wp_pure hw
  | throwAddHour =>
      exact count_frame env (hadd .addHour _ rfl) (fun _ h => h) w hw
  | throwAddMin =>
      exact count_frame env (hadd .addMinute _ rfl) (fun _ h => h) w hw
  | throwConfirm =>
      exact wp_bind (wp_bind (wp_get (wp_pure (setAlarm2_counts env _ _ _ _ _ w hw))))

/-- Its loop, by induction on the operations left. -/
theorem editLoop_counts (env : Env) (thr : Throw) :
    Counts env (editLoop thr) Count fun _ => Count := by
  intro w hw
  refine wp_loop (fun _ => Count) ?_ (fun _ _ h => accounted_of_count h) hw
  intro thr w hw
  refine wp_ite ?_ ?_
  · exact fun _ => wp_bind (wp_modify (wp_pure (count_record rfl _ hw)))
  · intro _
    have hpoll := count_frame env
      (Footprint.runEditAlarmMode (V := Eq) .idle) harmless_of_inPoll w hw
    refine wp_bind (wp_mono hpoll fun thr' w₁ hw₁ => wp_bind ?_)
    exact wp_mono (applyThrow_counts env thr' w₁ hw₁) fun _ w₂ hw₂ => wp_pure hw₂

/-- A whole session. -/
theorem editSession_counts (env : Env) :
    Counts env editSession Count fun _ => Count := by
  intro w hw
  refine wp_bind (wp_bind (wp_get (wp_pure (wp_bind (wp_modify (wp_bind ?_))))))
  have hstart : Count (w.record (.mark (.editStart w.vars.date))) :=
    count_record rfl _ hw
  have hshow := count_frame env (Footprint.displayEditModeUI (S := harmless)
    (V := Eq) w.vars.date fun _ => rfl) (fun _ h => h) _ hstart
  refine wp_mono hshow fun _ w₁ hw₁ => wp_bind ?_
  refine wp_mono (editLoop_counts env .idle w₁ hw₁) fun _ w₂ hw₂ => ?_
  exact count_frame env (Footprint.delay (S := harmless) (V := Eq) rfl) (fun _ h => h) w₂ hw₂

/-- A protothread that keeps the counts, around a wait that hands `Woken` on. -/
theorem protothread_counts {env : Env} {resumed : World → Bool} {f : Vars → Vars}
    {before after : Sketch Unit} {cond : Sketch Bool} {Woken : World → Prop}
    (hbefore : Counts env before Count fun _ => Count)
    (hcond : Counts env cond Count fun b w => if b = true then Woken w else Count w)
    (hafter : Counts env after Woken fun _ => Count) :
    Counts env (Prog.protothread resumed (fun w => { w with vars := f w.vars })
      before cond after) Count fun _ => Count := by
  intro w hw
  have hreach : ∀ w, Count w → wp AlarmsAccounted env before
      (fun _ w' => Count { w' with vars := f w'.vars }) w := hbefore
  have hset : ∀ w, Count w → Count { w with vars := f w.vars } := fun _ h => h
  apply wp_protothread Count Count Woken hreach hset hcond hafter
    (fun _ h => accounted_of_count h) fun _ h => accounted_of_count h
  split <;> exact hw

/-- All that `ptIO` does. -/
theorem ptIO_counts (env : Env) : Counts env ptIO Count fun _ => Count := by
  have hclick : Counts env isClickedEditBtn Count
      fun b w => if b = true then Count w else Count w := by
    intro w hw
    refine wp_mono (count_frame env Footprint.isClickedEditBtn harmless_of_inPoll w hw) ?_
    intro b _ hb
    cases b <;> exact hb
  exact protothread_counts (f := fun v => { v with ptIo := true })
    (fun _ hw => wp_pure hw) hclick (editSession_counts env)

/-- Entering an episode counts it. -/
theorem alarmEpisode_counts (env : Env) :
    Counts env alarmEpisode Owed fun _ => Count := by
  rintro w ⟨hbalance, howed⟩
  refine wp_bind (wp_modify ?_)
  have hcount : Count (w.record (.mark .alarm)) := by
    constructor
    · simpa [falls, Event.findsA2F] using hbalance
    · have hfalls : falls (w.record (.mark .alarm)).log = falls w.log := by
        simp [falls, Event.findsA2F]
      have hepisodes : episodes (w.record (.mark .alarm)).log = episodes w.log + 1 := by
        simp [episodes, Event.isAlarm]
      have hdrops : drops (w.record (.mark .alarm)).log = drops w.log := by
        simp [drops, Event.findsA2F]
      omega
  exact count_frame env Footprint.episodeBody harmless_of_inAlarm _ hcount

/-- A poll, and the episode it may begin. -/
theorem ptSprinklers_counts (env : Env) :
    Counts env ptSprinklers Count fun _ => Count :=
  protothread_counts (f := fun v => { v with ptSprinklers := true })
    (fun _ hw => wp_pure hw) (isAlarm2_counts env) (alarmEpisode_counts env)

/-- One pass of `loop()`. -/
theorem loop_counts (env : Env) : Counts env loop Count fun _ => Count := by
  intro w hw
  have hUi := count_frame env Footprint.ptUIDisplay harmless_of_inUi w hw
  refine wp_bind (wp_mono hUi fun _ w₁ hw₁ => wp_bind ?_)
  exact wp_mono (ptIO_counts env w₁ hw₁) fun _ w₂ hw₂ => ptSprinklers_counts env w₂ hw₂

/-- The whole firmware. -/
theorem firmware_counts (env : Env) : Counts env firmware Count fun _ => Count := by
  intro w hw
  have hsetup := count_frame env Footprint.setup harmless_of_inSetup w hw
  refine wp_bind (wp_mono hsetup fun _ w₁ hw₁ => ?_)
  refine wp_loop (fun _ => Count) ?_ (fun _ _ h => accounted_of_count h) hw₁
  exact fun _ w₂ hw₂ => wp_bind (wp_mono (loop_counts env w₂ hw₂) fun _ _ h => wp_pure h)

end AlarmFlag

/-- The counts of a whole run. -/
theorem run_accounted (env : Env) (hboot : (World.boot env).rtc.a2f = false)
    (n : Nat) : AlarmsAccounted (run env n) := by
  have hcount : AlarmFlag.Count (World.boot env) := by
    constructor
    · show 0 = 0 + (World.boot env).rtc.pending
      unfold Rtc.pending
      rw [hboot]
      rfl
    · rfl
  rw [run_eq]
  apply run_of_wp
  exact wp_mono (AlarmFlag.firmware_counts env _ hcount)
    fun _ _ h => AlarmFlag.accounted_of_count h

/-- **No alarm is invented, and exactly these are lost.**  If A2F is clear at
power-on, then at every point of a run outside the calls of `DS3231` every rise
of A2F has started an episode, was dropped by the clear that ends a `setAlarm2`,
or is still pending; a pending one starts an episode at the next `isAlarm2`, which
comes as soon as `ptIO` finds the edit button released. -/
theorem alarms_accounted (env : Env) (hboot : (World.boot env).rtc.a2f = false)
    (n : Nat) : AlarmsAccounted (run env n) ∧ Always PollOk (run env n).log :=
  ⟨run_accounted env hboot n, polls_ok env n⟩

/-- A session is opened at power-on, the clock matches its alarm meanwhile, and
the session is left by exit. -/
def matchThenExit : Env :=
  { Env.quiet with
    alarm2Match := fun i => i == 19
    level := fun i _ b => b = .btnEditMode && (i == 18 || i == 21) }

/-- The match is counted once and starts one episode. -/
theorem matchThenExit_accounted :
    (AlarmsAccounted (run matchThenExit 60) ∧ Always PollOk (run matchThenExit 60).log) ∧
      (run matchThenExit 60).rtc.rises = 1 ∧ episodes (run matchThenExit 60).log = 1 :=
  ⟨alarms_accounted matchThenExit (by decide) 60, by decide +kernel, by decide +kernel⟩

/-- The same session is left by a confirm. -/
def matchThenConfirm : Env :=
  { Env.quiet with
    alarm2Match := fun i => i == 19
    level := fun i _ b =>
      b = .btnEditMode && i == 18 || b = .btnAlarmConfirm && i == 24 }

/-- The match is neither pending nor has it started an episode. -/
theorem match_dropped :
    (World.boot matchThenConfirm).rtc.a2f = false ∧
      ¬ AlarmsKept (run matchThenConfirm 31) := by
  constructor <;> decide +kernel

end SprinklersAlarmClock
