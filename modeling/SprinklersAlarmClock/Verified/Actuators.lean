import SprinklersAlarmClock.Firmware.Outline
import SprinklersAlarmClock.Firmware.Readings

/-!
# The actuators over whole runs

Outside an alarm episode the relay is off, the buzzer is silent and the
backlight is on.  Inside one the relay is driven only after 10 s of true time
and the messages go out only after 20 s, with the relay off.  The invariant is
`Idle` outside an episode and `Ringing` inside; the sum of the two thresholds
and the wrapping counter is settled once, in `le_of_le_counter_sub`.
-/

namespace SprinklersAlarmClock

open Logic SPIOStream

/-- What each entry owes to the log before it. -/
def OnTime (e : Entry) (older : Log) : Prop :=
  match e.event with
  | .analogWrite value =>
      value ≠ 0 → ∃ τ, trigger older = some τ ∧ τ + 10000 ≤ e.time
  | .mark (.notify _) =>
      (∃ τ, trigger older = some τ ∧ τ + 20000 ≤ e.time) ∧ relay older = 0
  | .mark (.alarmTest _) => relay older = 0
  | _ => True

/-- Actuator safety at a program point. -/
def ActuatorSafe (l : Log) : Prop :=
  (isSetUp l = true → trigger l = none →
    relay l = 0 ∧ toneOn l = false ∧ backlit l = true) ∧
  Always OnTime l

namespace Actuators

/-- Safety as the proof rules want it. -/
def Goal : Safety := fun l _ => ActuatorSafe l

/-! ## The invariant -/

/-- Before the backlight is switched on in `setup()`. -/
def Dark : Assn := fun l _ _ =>
  isSetUp l = false ∧ trigger l = none ∧ relay l = 0 ∧ toneOn l = false

/-- Outside an alarm episode. -/
def Idle : Assn := fun l _ _ =>
  trigger l = none ∧ relay l = 0 ∧ toneOn l = false ∧ backlit l = true

/-- Inside an alarm episode, `lastTime` read. -/
def Ringing : Assn := fun l t v =>
  ∃ τ T, trigger l = some τ ∧ v.sprinklersLastTime = UInt32.ofNat T ∧
    τ ≤ T ∧ T ≤ t

/-- Inside an alarm episode with the relay off. -/
def RingingDry : Assn := fun l t v => Ringing l t v ∧ relay l = 0

/-- Inside an alarm episode that has lasted for `ms` milliseconds. -/
def Past (ms : Nat) : Assn := fun l t v =>
  Ringing l t v ∧ ∃ τ, trigger l = some τ ∧ τ + ms ≤ t

/-! ## Events that leave the readings alone -/

/-- An event that drives no output is on time. -/
theorem onTime_neutral {e : Event} (h : e.actuates = false) (t : Nat) (l : Log) :
    OnTime ⟨t, e⟩ l := by
  cases e with
  | analogWrite _ => cases h
  | mark p =>
      cases p with
      | alarmTest _ => cases h
      | notify _ => cases h
      | _ => trivial
  | _ => trivial

/-- And it leaves a safe log safe. -/
theorem safe_neutral {e : Event} (h : e.actuates = false) {t : Nat} {l : Log}
    (hl : ActuatorSafe l) : ActuatorSafe (⟨t, e⟩ :: l) := by
  unfold ActuatorSafe
  rw [isSetUp_neutral h, trigger_neutral h, relay_neutral h, toneOn_neutral h,
    backlit_neutral h]
  exact ⟨hl.1, onTime_neutral h t l, hl.2⟩

/-- Inside an episode only the entry itself has to be on time. -/
theorem safe_inside {e : Entry} {l : Log} {τ : Nat} (hl : ActuatorSafe l)
    (hτ : trigger (e :: l) = some τ) (he : OnTime e l) : ActuatorSafe (e :: l) := by
  refine ⟨fun _ hnone => ?_, he, hl.2⟩
  rw [hτ] at hnone
  cases hnone

/-- Outside an episode it changes nothing. -/
theorem idle_neutral {e : Event} (h : e.actuates = false) :
    Enters Goal Idle e Idle := by
  intro l t t' v _ hJ hK
  refine ⟨safe_neutral h hJ, ?_⟩
  unfold Idle
  rw [trigger_neutral h, relay_neutral h, toneOn_neutral h, backlit_neutral h]
  exact hK

/-- In one, time has only gone on. -/
theorem ringing_later {e : Event} {l : Log} {t t' : Nat} {v : Vars}
    (htrigger : trigger (⟨t', e⟩ :: l) = trigger l) (ht : t ≤ t')
    (hK : Ringing l t v) : Ringing (⟨t', e⟩ :: l) t' v := by
  obtain ⟨τ, T, hτ, hT, hτT, hTt⟩ := hK
  exact ⟨τ, T, by rw [htrigger, hτ], hT, hτT, Nat.le_trans hTt ht⟩

/-- The relay stays off. -/
theorem ringingDry_neutral {e : Event} (h : e.actuates = false) :
    Enters Goal RingingDry e RingingDry := by
  intro l t t' v ht hJ hK
  refine ⟨safe_neutral h hJ, ringing_later (trigger_neutral h t' l) ht hK.1, ?_⟩
  rw [relay_neutral h]
  exact hK.2

/-- A threshold that has been passed stays passed. -/
theorem past_neutral {e : Event} {ms : Nat} (h : e.actuates = false) :
    Enters Goal (Past ms) e (Past ms) := by
  intro l t t' v ht hJ ⟨hR, τ, hτ, hms⟩
  refine ⟨safe_neutral h hJ, ringing_later (trigger_neutral h t' l) ht hR, τ, ?_, ?_⟩
  · rw [trigger_neutral h, hτ]
  · omega

/-- A poll drives no output. -/
theorem actuates_of_inPoll : ∀ e : Event, e.inPoll = true → e.actuates = false
  | .digitalRead _ _, _ => rfl
  | .delay _, _ => rfl
  | .mark (.throwSet _), _ => rfl

/-- Neither the tone nor the relay has changed. -/
theorem ringing_neutral {e : Event} (h : e.actuates = false) :
    Enters Goal Ringing e Ringing := fun _ _ t' _ ht hJ hK =>
  ⟨safe_neutral h hJ, ringing_later (trigger_neutral h t' _) ht hK⟩

/-- A call of `runEditAlarmMode` in the alarm loop actuates nothing. -/
theorem poll_keeps (env : Env) {K : Assn} (site : PollSite) (thr : Throw)
    (hK : ∀ e : Event, e.actuates = false → Enters Goal K e K) :
    Safely Goal env K (alarmPoll site thr) fun _ => K := by
  refine Safely.alarmPoll (hK _ rfl).marks ?_
  exact Safely.frame_eq env (Footprint.runEditAlarmMode thr)
    fun e he => hK e (actuates_of_inPoll e he)

/-! ## The elapsed-time tests -/

/-- A passed test says how long the episode has lasted. -/
theorem past_of_measured {l : Log} {t t' : Nat} {v : Vars} {limit : UInt32}
    (ht : t ≤ t') (hR : Ringing l t v)
    (h : limit ≤ UInt32.ofNat t' - v.sprinklersLastTime) :
    ∃ τ, trigger l = some τ ∧ τ + limit.toNat ≤ t' := by
  obtain ⟨τ, T, hτ, hT, hτT, hTt⟩ := hR
  rw [hT] at h
  have hlimit := le_of_le_counter_sub (Nat.le_trans hTt ht) h
  exact ⟨τ, hτ, by omega⟩

/-- An elapsed-time test that succeeds says that true time has passed its limit.
-/
theorem measures {limit : UInt32} {Yes : Assn}
    (hyes : ∀ l t v, RingingDry l t v → Past limit.toNat l t v → Yes l t v) :
    Measures Goal RingingDry limit Yes RingingDry := by
  intro l t t' v ht hJ hK
  have hread := ringingDry_neutral (e := .millis (UInt32.ofNat t')) rfl l t t' v ht
    hJ hK
  have hmark := ringingDry_neutral (e := .mark (.elapsed limit
    (UInt32.ofNat t' - v.sprinklersLastTime))) rfl _ t' t' v (Nat.le_refl t')
    hread.1 hread.2
  refine ⟨hread.1, fun hdue => ⟨hmark.1, ?_⟩, fun _ => hmark⟩
  obtain ⟨τ, hτ, hms⟩ := past_of_measured ht hK.1 hdue
  exact hyes _ _ _ hmark.2 ⟨hmark.2.1, τ, hτ, hms⟩

/-! ## An episode -/

/-- In the first `for` loop 10 s have passed. -/
def relayOn : RelayPoints where
  Round := fun _ _ => Past 10000
  Polled := fun _ _ => Past 10000
  Written := fun _ _ => Past 10000
  Done := fun _ => Past 10000

/-- In the second loop the relay is off from the first write on. -/
def relayOff : RelayPoints where
  Round := fun k _ l t v => Ringing l t v ∧ (k < 200 → relay l = 0)
  Polled := fun _ _ => Ringing
  Written := fun _ _ => RingingDry
  Done := fun _ => RingingDry

/-- The assertions along an episode: the relay is off but in the first `for`
loop. -/
def episode : EpisodePoints where
  Start := Idle
  Begun := fun l t _ => ∃ τ, trigger l = some τ ∧ τ ≤ t ∧ relay l = 0
  Timed := RingingDry
  Test := fun _ => RingingDry
  Head := RingingDry
  Polled := fun _ => RingingDry
  Due := fun _ => Past 10000
  on := relayOn
  off := relayOff
  Report := fun _ => RingingDry
  Notify := fun _ _ l t v => RingingDry l t v ∧ Past 20000 l t v
  Leaving := RingingDry
  Lit := fun l t v => RingingDry l t v ∧ backlit l = true
  Quiet := fun l t v => RingingDry l t v ∧ backlit l = true ∧ toneOn l = false
  Dry := fun l t v => RingingDry l t v ∧ backlit l = true ∧ toneOn l = false
  Over := Idle

/-- Writes, tones and backlight commands inside an episode. -/
theorem enters_inside {e : Event} {K K' : Assn}
    (htrigger : ∀ t l, trigger (⟨t, e⟩ :: l) = trigger l)
    (hR : ∀ l t v, K l t v → Ringing l t v)
    (hon : ∀ l t t' v, t ≤ t' → K l t v → OnTime ⟨t', e⟩ l)
    (hK : ∀ l t t' v, t ≤ t' → K l t v → Ringing (⟨t', e⟩ :: l) t' v →
      K' (⟨t', e⟩ :: l) t' v) : Enters Goal K e K' := by
  intro l t t' v ht hJ h
  have hR' := ringing_later (htrigger t' l) ht (hR l t v h)
  obtain ⟨τ, -, hτ, -⟩ := hR l t v h
  refine ⟨safe_inside hJ (by rw [htrigger, hτ]) (hon l t t' v ht h), ?_⟩
  exact hK l t t' v ht h hR'

/-- The parts of the first `for` loop. -/
theorem relayOn_outline (env : Env) :
    RelayOutline Goal env .onLoop 140 relayOn where
  poll := fun _ thr => poll_keeps env .onLoop thr fun _ => past_neutral
  write := by
    intro k thr
    refine enters_inside (fun _ _ => rfl) (fun _ _ _ h => h.1) ?_ ?_
    · rintro l t t' v ht ⟨-, τ, hτ, hms⟩ -
      exact ⟨τ, hτ, Nat.le_trans hms ht⟩
    · rintro l t t' v ht ⟨-, τ, hτ, hms⟩ hR'
      exact ⟨hR', τ, hτ, Nat.le_trans hms ht⟩
  next := fun _ _ _ => past_neutral rfl
  stop := fun _ _ _ => past_neutral rfl
  finish := fun _ _ _ _ _ h => h

/-- The parts of the second, which switches the relay off with its first round.
-/
theorem relayOff_outline (env : Env) :
    RelayOutline Goal env .offLoop 0 relayOff where
  poll := by
    intro k thr
    have hpoll := poll_keeps env .offLoop thr fun _ => ringing_neutral
    exact hpoll.weaken (fun _ _ _ _ h => h.1) fun _ _ _ _ _ h => h
  write := by
    intro k thr
    refine enters_inside (fun _ _ => rfl) (fun _ _ _ h => h) ?_ ?_
    · exact fun l t t' v _ _ hne => absurd rfl hne
    · exact fun l t t' v _ _ hR' => ⟨hR', rfl⟩
  next := by
    intro k thr _ l t t' v ht hJ h
    have h' := ringingDry_neutral (e := .delay 10) rfl l t t' v ht hJ h
    exact ⟨h'.1, h'.2.1, fun _ => h'.2.2⟩
  stop := fun _ _ _ => ringingDry_neutral rfl
  finish := fun _ _ _ _ _ h => ⟨h.1, h.2 (by omega)⟩

/-- The messages go out in an episode that has lasted for 20 s. -/
theorem notify_keeps (env : Env) (msg : String) :
    Safely Goal env (fun l t v => RingingDry l t v ∧ Past 20000 l t v)
      (LineNotify.sendLineMessage msg)
      fun _ l t v => RingingDry l t v ∧ Past 20000 l t v := by
  refine Safely.frame _ (Footprint.sendLineMessage msg) ?_ ?_
  · intro e he l t t' v ht hJ hK
    by_cases hn : e.actuates = false
    · have hdry := ringingDry_neutral hn l t t' v ht hJ hK.1
      have hpast := past_neutral hn l t t' v ht hJ hK.2
      exact ⟨hdry.1, hdry.2, hpast.2⟩
    · -- the only event of the notifier that is looked at is its own mark
      obtain ⟨s, rfl⟩ : ∃ s, e = .mark (.notify s) := by
        cases e with
        | mark p =>
            cases p with
            | notify s => exact ⟨s, rfl⟩
            | streamPtr _ => exact absurd rfl hn
            | sent _ => exact absurd rfl hn
            | nullDeref => exact absurd rfl hn
            | _ => cases he
        | net _ => exact absurd rfl hn
        | millis _ => exact absurd rfl hn
        | delay _ => exact absurd rfl hn
        | _ => cases he
      obtain ⟨⟨hR, hrelay⟩, -, τ, hτ, hms⟩ := hK
      have hR' : Ringing (⟨t', .mark (.notify s)⟩ :: l) t' v := ringing_later rfl ht hR
      have hmem : trigger (⟨t', .mark (.notify s)⟩ :: l) = some τ := hτ
      exact ⟨safe_inside hJ hmem ⟨⟨τ, hτ, Nat.le_trans hms ht⟩, hrelay⟩,
        ⟨hR', hrelay⟩, hR', τ, hmem, Nat.le_trans hms ht⟩
  · rintro l t v v' ⟨-, hv⟩ _ ⟨⟨⟨τ, T, hτ, hT, hτT⟩, hrelay⟩, -, hpast⟩
    exact ⟨⟨⟨τ, T, hτ, by rw [hv, hT], hτT⟩, hrelay⟩,
      ⟨τ, T, hτ, by rw [hv, hT], hτT⟩, hpast⟩

/-- The loop condition is evaluated with the relay off. -/
theorem test_dry (thr : Throw) :
    Enters Goal RingingDry (.mark (.alarmTest thr)) RingingDry :=
  enters_inside (fun _ _ => rfl) (fun _ _ _ h => h.1) (fun _ _ _ _ _ h => h.2)
    fun _ _ _ _ _ h hR' => ⟨hR', h.2⟩

/-- The parts of an episode. -/
theorem episode_outline (env : Env) : EpisodeOutline Goal env episode where
  alarm := by
    rintro l t v hJ ⟨-, hrelay, -⟩
    have hmem : trigger (⟨t, .mark .alarm⟩ :: l) = some t := rfl
    exact ⟨safe_inside hJ hmem trivial, t, rfl, Nat.le_refl t, hrelay⟩
  clock := by
    rintro l t t' v ht hJ ⟨τ, hτ, hτt, hrelay⟩
    exact ⟨safe_neutral rfl hJ, ⟨τ, t', hτ, rfl, by omega, Nat.le_refl t'⟩, hrelay⟩
  tone := enters_inside (fun _ _ => rfl) (fun _ _ _ h => h.1)
    (fun _ _ _ _ _ _ => trivial) fun _ _ _ _ _ h hR' => ⟨hR', h.2⟩
  stay := fun thr _ => (test_dry thr).marks
  leave := fun thr _ => (test_dry thr).marks
  head := poll_keeps env .head .idle fun _ => ringingDry_neutral
  due := fun _ => measures fun _ _ _ _ h => h
  lit := fun _ => enters_inside (fun _ _ => rfl) (fun _ _ _ h => h.1)
    (fun _ _ _ _ _ _ => trivial)
    fun _ _ _ _ ht h hR' => ⟨hR', h.2.imp fun τ hτ => ⟨hτ.1, by omega⟩⟩
  on := relayOn_outline env
  dark := fun _ => enters_inside (fun _ _ => rfl) (fun _ _ _ h => h.1)
    (fun _ _ _ _ _ _ => trivial)
    fun _ _ _ _ _ _ hR' => ⟨hR', fun h => absurd h (by omega)⟩
  off := relayOff_outline env
  poured := fun _ _ _ _ _ h => h
  report := fun _ => measures fun _ _ _ hdry hpast => ⟨hdry, hpast⟩
  notify := fun _ _ msg => notify_keeps env msg
  notified := fun _ _ _ _ _ h => h.1
  backlight := enters_inside (fun _ _ => rfl) (fun _ _ _ h => h.1)
    (fun _ _ _ _ _ _ => trivial) fun _ _ _ _ _ h hR' => ⟨⟨hR', h.2⟩, rfl⟩
  noTone := enters_inside (fun _ _ => rfl) (fun _ _ _ h => h.1.1)
    (fun _ _ _ _ _ _ => trivial)
    fun _ _ _ _ _ h hR' => ⟨⟨hR', h.1.2⟩, h.2, rfl⟩
  dry := enters_inside (fun _ _ => rfl) (fun _ _ _ h => h.1.1)
    (fun _ _ _ _ _ _ hne => absurd rfl hne)
    fun _ _ _ _ _ h hR' => ⟨⟨hR', rfl⟩, h.2⟩
  finish := by
    rintro l t v hJ ⟨⟨-, hrelay⟩, hlit, htone⟩
    have hidle : Idle (⟨t, .mark .alarmEnd⟩ :: l) t v := ⟨rfl, hrelay, htone, hlit⟩
    exact ⟨⟨fun _ _ => hidle.2, trivial, hJ.2⟩, hidle⟩

/-! ## The other protothreads -/

/-- The clock display drives no output. -/
theorem actuates_of_inUi : ∀ e : Event, e.inUi = true → e.actuates = false
  | .readTime _, _ => rfl
  | .lcd _, _ => rfl
  | .millis _, _ => rfl
  | .mark .enterDS3231, _ => rfl
  | .mark .leaveDS3231, _ => rfl
  | .mark (.updatedData _), _ => rfl
  | .mark .uiStored, _ => rfl
  | .mark (.uiGate _), _ => rfl

/-- Nor does an edit session. -/
theorem actuates_of_inIo : ∀ e : Event, e.inIo = true → e.actuates = false
  | .digitalRead _ _, _ => rfl
  | .delay _, _ => rfl
  | .lcd _, _ => rfl
  | .readRegister _ _, _ => rfl
  | .writeRegisters _ _ _, _ => rfl
  | .mark .enterDS3231, _ => rfl
  | .mark .leaveDS3231, _ => rfl
  | .mark (.setAlarm2 _ _ _), _ => rfl
  | .mark (.editStart _), _ => rfl
  | .mark (.throwSet _), _ => rfl
  | .mark (.editEnd _), _ => rfl
  | .mark .addHour, _ => rfl
  | .mark .addMinute, _ => rfl

/-- Nor does the question for A2F. -/
theorem actuates_of_inIsAlarm2 : ∀ e : Event, e.inIsAlarm2 = true →
    e.actuates = false
  | .readRegister _ _, _ => rfl
  | .writeRegisters _ _ _, _ => rfl
  | .mark .enterDS3231, _ => rfl
  | .mark .leaveDS3231, _ => rfl

/-- An episode begins and ends with all outputs off. -/
theorem ptSprinklers_keeps (env : Env) :
    Safely Goal env Idle ptSprinklers fun _ => Idle :=
  (episode_outline env).protothread (fun _ _ _ h => h)
    (fun e he => idle_neutral (actuates_of_inIsAlarm2 e he))
    (fun _ _ _ _ h => h) fun _ _ _ _ h => h

/-! ## `setup` -/

/-- Waiting for the network drives no output. -/
theorem actuates_of_inConnect : ∀ e : Event, e.inConnect = true →
    e.actuates = false
  | .net _, _ => rfl
  | .millis _, _ => rfl
  | .delay _, _ => rfl

/-- Nor does the start of the clock chip. -/
theorem actuates_of_inBegin : ∀ e : Event, e.inBegin = true → e.actuates = false
  | .wireBegin, _ => rfl
  | .readRegister _ _, _ => rfl
  | .writeRegisters _ _ _, _ => rfl
  | .mark .enterDS3231, _ => rfl
  | .mark .leaveDS3231, _ => rfl

/-- Before the backlight is switched on nothing is driven. -/
theorem dark_neutral {e : Event} (h : e.actuates = false) :
    Enters Goal Dark e Dark := by
  intro l t t' v _ hJ hK
  refine ⟨safe_neutral h hJ, ?_⟩
  unfold Dark
  rw [isSetUp_neutral h, trigger_neutral h, relay_neutral h, toneOn_neutral h]
  exact hK

/-- `setup()` switches the backlight on and nothing else. -/
theorem setup_idle (env : Env) :
    Safely Goal env Dark setup fun _ => Idle := by
  have hconnect : ∀ e : Event, e.inConnect = true → Enters Goal Idle e Idle :=
    fun e he => idle_neutral (actuates_of_inConnect e he)
  refine (Safely.frame_eq _ Footprint.begin
    fun e he => dark_neutral (actuates_of_inBegin e he)).seq fun _ => ?_
  refine (Safely.act (Q := fun _ => Dark) (dark_neutral rfl)).seq fun _ => ?_
  refine (Safely.act (Q := fun _ => Idle) ?_).seq fun _ => ?_
  · rintro l t t' v - hJ ⟨hset, htrig, hrelay, htone⟩
    have hidle : Idle (⟨t', .backlight⟩ :: l) t' v := ⟨htrig, hrelay, htone, rfl⟩
    exact ⟨⟨fun _ _ => hidle.2, trivial, hJ.2⟩, hidle⟩
  refine Safely.seq (M := fun _ => Idle)
    (Safely.assign fun _ _ _ _ h => ?_) fun _ => ?_
  · exact h
  refine (Safely.act (Q := fun _ => Idle) (idle_neutral rfl)).seq fun _ => ?_
  refine (Safely.millis (Q := fun _ => Idle)
    fun l t t' v => idle_neutral rfl l t t' v).seq fun now => ?_
  refine (Safely.frame_eq _ (Footprint.waitWifi now) hconnect).seq fun _ => ?_
  refine (Safely.frame _ Footprint.initNotifier hconnect
    fun _ _ _ _ _ _ h => h).seq fun _ => ?_
  refine (Safely.act (Q := fun _ => Idle) (idle_neutral rfl)).seq fun _ => ?_
  refine Safely.mark ?_
  intro l t v hJ hidle
  exact ⟨⟨fun _ _ => hidle.2, trivial, hJ.2⟩, hidle⟩

end Actuators

/-- **Actuator safety over whole runs**, at every program point and for all
surroundings. -/
theorem actuators_safe (env : Env) (n : Nat) : ActuatorSafe (run env n).log := by
  open Actuators in
  have hUi := Safely.frame (J := Goal) (K := Idle) env
    Footprint.ptUIDisplay (fun e he => idle_neutral (actuates_of_inUi e he))
    fun _ _ _ _ _ _ h => h
  have hIo := Safely.frame (J := Goal) (K := Idle) env
    Footprint.ptIO (fun e he => idle_neutral (actuates_of_inIo e he))
    fun _ _ _ _ _ _ h => h
  exact run_safely (setup_idle env) hUi hIo (ptSprinklers_keeps env)
    ⟨⟨fun h => absurd h (by decide), trivial⟩, rfl, rfl, rfl, rfl⟩ n

end SprinklersAlarmClock
