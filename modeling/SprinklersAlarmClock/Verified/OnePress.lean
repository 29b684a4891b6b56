import SprinklersAlarmClock.Verified.Dismissal
import Mathlib.Data.List.Pairwise

/-!
# One press, one mode change

The edit button opens a session, closes it and dismisses an alarm; the confirm
button closes a session and dismisses an alarm.  Neither is waited for after it
has acted, so a press that lasts until the program samples the button again
acts twice.  Conversely, if every press that changed the mode has been let go
by the next sample of its button, no press changes the mode twice
(`one_press`).

Buttons are levels over true time here: `Env.Follows` ties the samples to a
waveform.
-/

namespace SprinklersAlarmClock

open Logic SPIOStream

/-- Every sample reads the waveform at the time it is taken. -/
def Env.Follows (env : Env) (wave : Button → Nat → Bool) : Prop :=
  ∀ i t b, env.level i t b = wave b t

/-! ## Reading the log -/

namespace Event

/-- The button whose press makes this mode change: a session starts, ends by
exit or is confirmed, or an alarm is dismissed. -/
def changesMode? : Event → Option Button
  | .mark (.editStart _) => some .btnEditMode
  | .mark (.editEnd .throwExit) => some .btnEditMode
  | .mark (.alarmTest .throwExit) => some .btnEditMode
  | .mark (.setAlarm2 _ _ _) => some .btnAlarmConfirm
  | .mark (.alarmTest .throwConfirm) => some .btnAlarmConfirm
  | _ => none

end Event

/-- When `b` was last sampled high. -/
def pressTime (b : Button) (l : Log) : Option Nat :=
  latest (fun e => if e.event.high? = some b then some e.time else none) l

/-- For every mode change made by `b`, newest first, the time of the sample that
caused it: the last high sample of `b` before it. -/
def causes (b : Button) : Log → List Nat
  | [] => []
  | e :: older =>
      if e.event.changesMode? = some b then
        (pressTime b older).getD 0 :: causes b older
      else causes b older

/-- `b` has been sampled since it last changed the mode. -/
def sampledSince (b : Button) (l : Log) : Bool :=
  (since (fun e => e.event.changesMode? == some b) l).any fun e =>
    e.event.sampled? == some b

/-! ## The property and its condition -/

/-- The button is up at some time between two others. -/
def UpBetween (wave : Button → Nat → Bool) (b : Button) (later earlier : Nat) : Prop :=
  ∃ t, earlier < t ∧ t < later ∧ wave b t = false

instance (wave : Button → Nat → Bool) (b : Button) (later earlier : Nat) :
    Decidable (UpBetween wave b later earlier) :=
  decidable_of_iff (∃ t < later, earlier < t ∧ wave b t = false) <| by
    constructor
    · rintro ⟨t, hlater, hearlier, hup⟩
      exact ⟨t, hearlier, hlater, hup⟩
    · rintro ⟨t, hearlier, hlater, hup⟩
      exact ⟨t, hlater, hearlier, hup⟩

/-- No two mode changes are caused within one maximal interval in which their
button is down. -/
def OnePress (wave : Button → Nat → Bool) (l : Log) : Prop :=
  ∀ b, (causes b l).Pairwise (UpBetween wave b)

/-- The first time a button is sampled after it changed the mode, the press that
did so is over. -/
def LetGo (wave : Button → Nat → Bool) (e : Entry) (older : Log) : Prop :=
  ∀ b ∈ e.event.high?, sampledSince b older = false →
    ∀ c ∈ (causes b older).head?, UpBetween wave b e.time c

instance (wave : Button → Nat → Bool) (e : Entry) (older : Log) :
    Decidable (LetGo wave e older) :=
  @Option.decidableForallMem _ _
    (fun _ => @instDecidableForall _ _ _ (Option.decidableForallMem _)) _

namespace OnePress

section Invariant

variable (wave : Button → Nat → Bool)

/-- What is known of `b` at true time `t`: the press that caused its last mode
change is in the past, and over once `b` has been sampled again. -/
def Known (b : Button) (l : Log) (t : Nat) : Prop :=
  ∀ c ∈ (causes b l).head?, c ≤ t ∧ wave b c = true ∧
    (sampledSince b l = true → ∃ u, c < u ∧ u ≤ t ∧ wave b u = false)

/-- As long as the samples meet the condition, the causes of mode changes are in
different presses, and the last reading of each button is known. -/
def Goal : Safety := fun l t =>
  Always (LetGo wave) l →
    ∀ b, (causes b l).Pairwise (UpBetween wave b) ∧ Known wave b l t

/-- `b` has been pressed since it last changed the mode, by another press. -/
def Pressed (b : Button) (l : Log) (t : Nat) : Prop :=
  ∃ r, pressTime b l = some r ∧ r ≤ t ∧ wave b r = true ∧
    ∀ c ∈ (causes b l).head?, UpBetween wave b r c

/-- The button that stands behind `thr` has been pressed. -/
def Carries (thr : Throw) : Assn := fun l t _ =>
  Always (LetGo wave) l → ∀ b, thr = b.throwOf → Pressed wave b l t

end Invariant

variable {wave : Button → Nat → Bool}

/-! ## Samples -/

/-- A sample of a button is one since any press of it. -/
theorem sampledSince_sample (b b' : Button) (level : Bool) (t : Nat) (l : Log) :
    sampledSince b (⟨t, .digitalRead b' level⟩ :: l) =
      (some b' == some b || sampledSince b l) := rfl

/-- The sample that is just taken is the last reading of its button. -/
theorem known_sample {b b' : Button} {level : Bool} {l : Log} {t t' : Nat}
    (ht : t ≤ t') (hwave : wave b' t' = level)
    (hgo : LetGo wave ⟨t', .digitalRead b' level⟩ l) (h : Known wave b l t) :
    Known wave b (⟨t', .digitalRead b' level⟩ :: l) t' := by
  intro c hc
  obtain ⟨hct, hdown, hup⟩ := h c hc
  refine ⟨Nat.le_trans hct ht, hdown, fun hsampled => ?_⟩
  by_cases hold : sampledSince b l = true
  · obtain ⟨u, hcu, hut, hu⟩ := hup hold
    exact ⟨u, hcu, Nat.le_trans hut ht, hu⟩
  · -- the first sample since the mode change is of `b` itself
    have hb : b' = b := by
      rw [sampledSince_sample] at hsampled
      simpa [hold] using hsampled
    subst hb
    cases level with
    | false =>
        have hne : c ≠ t' := by
          rintro rfl
          rw [hdown] at hwave
          cases hwave
        exact ⟨t', by omega, Nat.le_refl t', hwave⟩
    | true =>
        obtain ⟨u, hcu, hut, hu⟩ := hgo b' rfl (by simpa using hold) c hc
        exact ⟨u, hcu, Nat.le_of_lt hut, hu⟩

/-- A high sample is a new press. -/
theorem pressed_sample {b : Button} {l : Log} {t : Nat} (hwave : wave b t = true)
    (h : Known wave b (⟨t, .digitalRead b true⟩ :: l) t) :
    Pressed wave b (⟨t, .digitalRead b true⟩ :: l) t := by
  refine ⟨t, ?_, Nat.le_refl t, hwave, fun c hc => ?_⟩
  · simp [pressTime, Event.high?]
  · obtain ⟨-, -, hup⟩ := h c hc
    obtain ⟨u, hcu, hut, hu⟩ := hup (by simp [sampledSince_sample])
    have hne : u ≠ t := by
      rintro rfl
      rw [hwave] at hu
      cases hu
    exact ⟨u, hcu, by omega, hu⟩

/-- A press is still the last one when the other buttons are sampled. -/
theorem pressed_later_sample {b b' : Button} {level : Bool} {l : Log} {t t' : Nat}
    (ht : t ≤ t') (hwave : wave b' t' = level)
    (hknown : Known wave b (⟨t', .digitalRead b' level⟩ :: l) t')
    (h : Pressed wave b l t) : Pressed wave b (⟨t', .digitalRead b' level⟩ :: l) t' := by
  by_cases hnew : b' = b ∧ level = true
  · obtain ⟨rfl, rfl⟩ := hnew
    exact pressed_sample hwave hknown
  · obtain ⟨r, hr, hrt, hdown, hup⟩ := h
    refine ⟨r, ?_, Nat.le_trans hrt ht, hdown, hup⟩
    have hnone : ((Event.digitalRead b' level).high? = some b) = False := by
      cases level with
      | false => simp [Event.high?]
      | true => simpa [Event.high?] using hnew
    simp [pressTime, hnone] at hr ⊢
    exact hr

/-- A sample causes no mode change by itself. -/
theorem goal_sample {b : Button} {level : Bool} {l : Log} {t t' : Nat}
    (ht : t ≤ t') (hwave : wave b t' = level) (h : Goal wave l t) :
    Goal wave (⟨t', .digitalRead b level⟩ :: l) t' := by
  intro hgo b'
  obtain ⟨hpair, hknown⟩ := h hgo.2 b'
  exact ⟨hpair, known_sample ht hwave hgo.1 hknown⟩

/-- What the poll carries is not changed by a low sample. -/
theorem carries_sample {env : Env} (hwave : env.Follows wave) (b : Button)
    (level : Bool) (thr : Throw) :
    Reads (Goal wave) env (Carries wave thr) b level (Carries wave thr) := by
  intro l t t' v i ht hlevel hJ hK
  rw [hwave i t' b] at hlevel
  have hJ' := goal_sample ht hlevel hJ
  refine ⟨hJ', fun hgo b' hthr => ?_⟩
  exact pressed_later_sample ht hlevel (hJ' hgo b').2 (hK hgo.2 b' hthr)

/-- A high sample is a press that may cause one. -/
theorem pressed_high {env : Env} (hwave : env.Follows wave) (b : Button) {K : Assn} :
    Reads (Goal wave) env K b true (Carries wave b.throwOf) := by
  intro l t t' v i ht hlevel hJ _
  rw [hwave i t' b] at hlevel
  have hJ' := goal_sample ht hlevel hJ
  refine ⟨hJ', fun hgo b' hthr => ?_⟩
  obtain rfl := Button.throwOf_injective hthr
  exact pressed_sample hlevel (hJ' hgo b).2

/-! ## Events that change nothing -/

/-- Neither a sample nor a mode change. -/
def idleEvent (e : Event) : Bool := e.changesMode? == none && e.sampled? == none

section Idle

variable {e : Event} (h : idleEvent e = true) (t : Nat) (l : Log) (b : Button)

include h

/-- An idle event neither samples a button nor changes the mode. -/
theorem idle_none : e.changesMode? = none ∧ e.sampled? = none := by
  simpa [idleEvent] using h

/-- In particular it is no press. -/
theorem high_idle : e.high? = none := by
  have hs := (idle_none h).2
  cases e with
  | digitalRead b level => cases hs
  | _ => rfl

/-- It is no cause. -/
theorem causes_idle : causes b (⟨t, e⟩ :: l) = causes b l := by
  simp [causes, (idle_none h).1]

/-- Nor is it a sample since the press. -/
theorem sampledSince_idle : sampledSince b (⟨t, e⟩ :: l) = sampledSince b l := by
  simp [sampledSince, (idle_none h).1, (idle_none h).2]

/-- The last press is the same. -/
theorem pressTime_idle : pressTime b (⟨t, e⟩ :: l) = pressTime b l := by
  simp [pressTime, high_idle h]

end Idle

/-- So it leaves the goal as it is. -/
theorem goal_idle {e : Event} (h : idleEvent e = true) {l : Log} {t t' : Nat}
    (ht : t ≤ t') (hJ : Goal wave l t) : Goal wave (⟨t', e⟩ :: l) t' := by
  intro hgo b
  obtain ⟨hpair, hknown⟩ := hJ hgo.2 b
  unfold Known
  rw [causes_idle h, sampledSince_idle h]
  refine ⟨hpair, fun c hc => ?_⟩
  obtain ⟨hct, hdown, hup⟩ := hknown c hc
  refine ⟨Nat.le_trans hct ht, hdown, fun hsampled => ?_⟩
  obtain ⟨u, hcu, hut, hu⟩ := hup hsampled
  exact ⟨u, hcu, Nat.le_trans hut ht, hu⟩

/-- And what the poll carries. -/
theorem carries_idle {e : Event} (h : idleEvent e = true) (thr : Throw) :
    Enters (Goal wave) (Carries wave thr) e (Carries wave thr) := by
  intro l t t' v ht hJ hK
  refine ⟨goal_idle h ht hJ, fun hgo b hthr => ?_⟩
  obtain ⟨r, hr, hrt, hdown, hup⟩ := hK hgo.2 b hthr
  unfold Pressed
  rw [pressTime_idle h, causes_idle h]
  exact ⟨r, hr, Nat.le_trans hrt ht, hdown, hup⟩

/-- Nothing is carried. -/
def Any : Assn := fun _ _ _ => True

/-- Where nothing is carried, too. -/
theorem any_idle {e : Event} (h : idleEvent e = true) :
    Enters (Goal wave) Any e Any :=
  fun _ _ _ _ ht hJ _ => ⟨goal_idle h ht hJ, trivial⟩

/-! ## Mode changes -/

/-- Of causes in order of time it is enough to look at neighbours. -/
theorem upBetween_trans {b : Button} {r : Nat} {cs : List Nat}
    (hcs : cs.Pairwise (UpBetween wave b))
    (hhead : ∀ c ∈ cs.head?, UpBetween wave b r c) :
    ∀ c ∈ cs, UpBetween wave b r c := by
  cases cs with
  | nil => simp
  | cons c₀ cs =>
      obtain ⟨u₀, hcu₀, hur₀, hu₀⟩ := hhead c₀ rfl
      rw [List.pairwise_cons] at hcs
      intro c hc
      rcases List.mem_cons.mp hc with rfl | htail
      · exact ⟨u₀, hcu₀, hur₀, hu₀⟩
      · obtain ⟨u, hcu, huc₀, hu⟩ := hcs.1 c htail
        exact ⟨u, hcu, by omega, hu⟩

/-- A mode change made by a button that has been pressed since its last one. -/
theorem changes_mode {p : Point} {b : Button} {thr : Throw}
    (hp : (Event.mark p).changesMode? = some b) (hthr : thr = b.throwOf) :
    Marks (Goal wave) (Carries wave thr) p Any := by
  intro l t v hJ hK
  refine ⟨fun hgo b' => ?_, trivial⟩
  obtain ⟨hpair, hknown⟩ := hJ hgo.2 b'
  by_cases hb : b' = b
  · subst hb
    obtain ⟨r, hr, hrt, hdown, hup⟩ := hK hgo.2 b' hthr
    have hcauses : causes b' (⟨t, .mark p⟩ :: l) = r :: causes b' l := by
      simp [causes, hp, hr]
    constructor
    · rw [hcauses, List.pairwise_cons]
      exact ⟨upBetween_trans hpair hup, hpair⟩
    · intro c hc
      rw [hcauses] at hc
      obtain rfl : r = c := Option.some.inj hc
      refine ⟨hrt, hdown, fun hsampled => ?_⟩
      simp [sampledSince, hp] at hsampled
  · have hne : ((Event.mark p).changesMode? = some b') = False := by
      rw [hp]
      simpa using fun h : b = b' => hb h.symm
    have hcauses : causes b' (⟨t, .mark p⟩ :: l) = causes b' l := by
      simp [causes, hne]
    have hsince : sampledSince b' (⟨t, .mark p⟩ :: l) = sampledSince b' l := by
      have hbeq : (b == b') = false := by simpa using fun h : b = b' => hb h.symm
      simp [sampledSince, hp, hbeq, Event.sampled?]
    unfold Known
    rw [hcauses, hsince]
    exact ⟨hpair, hknown⟩

/-! ## Polling -/

section Outlines

variable {env : Env} (hwave : env.Follows wave)

include hwave

/-- The parts of a poll. -/
theorem poll_outline (thr : Throw) :
    PollOutline (Goal wave) env thr
      { Scan := fun _ => Carries wave thr
        High := fun b => Carries wave b.throwOf
        Held := fun b => Carries wave b.throwOf
        Released := fun b => Carries wave b.throwOf }
      (Carries wave thr) (Carries wave) where
  entry := fun _ _ _ _ h => h
  low := fun b => carries_sample hwave b false thr
  passed := fun _ _ _ _ h => h
  high := fun b => pressed_high hwave b
  answer := fun _ _ => (carries_idle rfl _).marks
  press := fun _ _ => (carries_idle rfl _).marks
  held := fun b _ => carries_sample hwave b true _
  release := fun b _ => carries_sample hwave b false _
  settle := fun _ _ => carries_idle rfl _

omit hwave in

/-- An idle answer carries nothing. -/
theorem carries_nothing {K : Assn} (l : Log) (t : Nat) (v : Vars)
    (_ : Goal wave l t) (_ : K l t v) : Carries wave .idle l t v := by
  intro _ b hb
  cases b <;> cases hb

/-! ## `ptIO` -/

omit hwave in
/-- Functions that neither sample nor change the mode. -/
theorem any_frame (wave : Button → Nat → Bool) (env : Env) {α : Type}
    {S : Event → Bool} {V : Vars → Vars → Prop} {c : Sketch α}
    (hc : Footprint S V c) (hS : ∀ e, S e = true → idleEvent e = true) :
    Safely (Goal wave) env Any c fun _ => Any :=
  Safely.frame env hc (fun e he => any_idle (hS e he)) fun _ _ _ _ _ _ h => h

/-- The assertions along a session. -/
def session (wave : Button → Nat → Bool) : SessionPoints where
  Start := Carries wave .throwExit
  Begun := Any
  Loop
    | .throwExit => Carries wave .throwExit
    | _ => Any
  Polled := Carries wave
  Ended := Any
  Over := Any

omit hwave in

/-- A confirm uses its press up in `setAlarm2`. -/
theorem setAlarm2_once (dydw hour minute : UInt8) (mode : DS3231.Alarm2Mode)
    (armed : Bool) :
    Safely (Goal wave) env (Carries wave .throwConfirm)
      (DS3231.setAlarm2 dydw hour minute mode armed) fun _ => Any := by
  have hrest : Footprint idleEvent (fun _ _ => True) (do
      DS3231.writeBurst regAlarm2 (DS3231.alarm2Bytes dydw hour minute mode)
      DS3231.armAlarm2 armed
      DS3231.clearAlarm2) := by
    refine (Footprint.writeBurst fun _ => rfl).bind fun _ => Footprint.bind ?_ fun _ => ?_
    · exact (Footprint.readRegister8 fun _ => rfl).bind fun _ =>
        Footprint.writeBurst fun _ => rfl
    · exact (Footprint.readRegister8 fun _ => rfl).bind fun _ =>
        Footprint.writeBurst fun _ => rfl
  refine (Safely.mark (Q := fun _ => Carries wave .throwConfirm)
    (carries_idle rfl _).marks).seq fun _ => ?_
  have hcall : Marks (Goal wave) (Carries wave .throwConfirm)
      (.setAlarm2 dydw hour minute) Any := changes_mode rfl rfl
  refine Safely.seq (M := fun _ => Any) ?_ fun _ => ?_
  · exact (Safely.mark (Q := fun _ => Any) hcall).seq fun _ =>
      any_frame wave env hrest fun _ h => h
  · exact (Safely.mark (Q := fun _ => Any) (any_idle rfl).marks).seq fun _ =>
      Safely.pure fun _ _ _ _ h => h

omit hwave in

/-- What a session makes of an answer. -/
theorem applyThrow_session (thr : Throw) :
    Safely (Goal wave) env (Carries wave thr) (applyThrow thr)
      fun _ => (session wave).Loop thr := by
  have hadd : ∀ (p : Point) (f : Vars → Vars), idleEvent (.mark p) = true →
      Safely (Goal wave) env (Carries wave thr) (do
        mark p
        assign f
        let v ← vars
        AlarmDisplay.displayEditModeUI v.date) fun _ => Any := by
    intro p f hp
    have hfoot := Footprint.edited (S := idleEvent) (V := fun _ _ => True) (f := f) hp
      (fun _ => trivial) fun _ => rfl
    exact (any_frame wave env hfoot fun _ h => h).weaken (fun _ _ _ _ _ => trivial)
      fun _ _ _ _ _ h => h
  cases thr with
  | idle => exact Safely.pure fun _ _ _ _ _ => trivial
  | throwExit => exact Safely.pure fun _ _ _ _ h => h
  | throwAddHour => exact hadd .addHour _ rfl
  | throwAddMin => exact hadd .addMinute _ rfl
  | throwConfirm =>
      refine Safely.vars fun v₀ => ?_
      exact (setAlarm2_once _ _ _ _ _).weaken (fun _ _ _ _ h => h.1)
        fun _ _ _ _ _ h => h

/-- The parts of a session. -/
theorem session_outline : SessionOutline (Goal wave) env (session wave) where
  start := by
    rintro d l t v hJ ⟨hl, rfl⟩
    exact ⟨(changes_mode (b := .btnEditMode) rfl rfl l t v hJ hl).1, trivial, rfl⟩
  shown := fun _ _ _ _ _ ht hJ _ => any_idle rfl _ _ _ _ ht hJ trivial
  poll := by
    intro thr _
    exact (poll_outline hwave .idle).safely.weaken carries_nothing
      fun _ _ _ _ _ h => h
  apply := applyThrow_session
  finish := by
    intro thr hthr
    cases thr with
    | throwExit => exact changes_mode (b := .btnEditMode) rfl rfl
    | throwConfirm => exact (any_idle rfl).marks
    | _ => cases hthr
  pause := (any_idle rfl).waits

/-- All that `ptIO` does. -/
theorem ptIO_any : Safely (Goal wave) env Any ptIO fun _ => Any := by
  have hlow : Reads (Goal wave) env Any .btnEditMode false Any := by
    intro l t t' v i ht hlevel hJ _
    rw [hwave i t' .btnEditMode] at hlevel
    exact ⟨goal_sample ht hlevel hJ, trivial⟩
  exact (session_outline hwave).protothread Any _ Any (fun _ _ _ h => h) hlow
    (pressed_high hwave .btnEditMode) (fun _ _ _ h => h) (carries_idle rfl _)
    fun _ _ _ _ h => h

/-! ## `ptSprinklers` -/

omit hwave in

/-- At the beginning of an episode nothing is carried. -/
theorem any_carries {e : Event} (h : idleEvent e = true) :
    Enters (Goal wave) Any e (Carries wave .idle) := by
  intro l t t' v ht hJ hl
  have hJ' := goal_idle h ht hJ
  exact ⟨hJ', carries_nothing (K := Any) _ _ v hJ' hl⟩

/-- A poll of the alarm loop. -/
theorem alarmPoll_carries (site : PollSite) (thr : Throw) :
    Safely (Goal wave) env (Carries wave thr) (alarmPoll site thr)
      (Carries wave) :=
  Safely.alarmPoll (carries_idle rfl thr).marks (poll_outline hwave thr).safely

/-- The assertions along a `for` loop. -/
def relay (wave : Button → Nat → Bool) : RelayPoints where
  Round := fun _ => Carries wave
  Polled := fun _ => Carries wave
  Written := fun _ => Carries wave
  Done := Carries wave

/-- The parts of a `for` loop. -/
theorem relay_outline (site : PollSite) (value : UInt16) :
    RelayOutline (Goal wave) env site value (relay wave) where
  poll := fun _ thr => alarmPoll_carries hwave site thr
  write := fun _ thr => carries_idle rfl thr
  next := fun _ thr _ => carries_idle rfl thr
  stop := fun _ thr _ => carries_idle rfl thr
  finish := fun _ _ _ _ _ h => h

/-- The assertions along an episode. -/
def episode (wave : Button → Nat → Bool) : EpisodePoints where
  Start := Any
  Begun := Any
  Timed := Any
  Test := Carries wave
  Head := Any
  Polled := Carries wave
  Due := Carries wave
  on := relay wave
  off := relay wave
  Report := Carries wave
  Notify := fun _ => Carries wave
  Leaving := Any
  Lit := Any
  Quiet := Any
  Dry := Any
  Over := Any

omit hwave in

/-- An elapsed-time test reads no button. -/
theorem measures_carries (limit : UInt32) (thr : Throw) :
    Measures (Goal wave) (Carries wave thr) limit (Carries wave thr)
      (Carries wave thr) :=
  Measures.keep (fun _ => carries_idle rfl thr) fun _ => carries_idle rfl thr

omit hwave in

/-- A message is idle. -/
theorem idle_of_inNotify (e : Event) (h : e.inNotify = true) : idleEvent e = true := by
  cases e with
  | mark p => cases p <;> first | rfl | cases h
  | _ => first | rfl | cases h

/-- The parts of an episode. -/
theorem episode_outline : EpisodeOutline (Goal wave) env (episode wave) where
  alarm := (any_idle rfl).marks
  clock := fun l t t' v ht hJ hl => any_idle rfl l t t' v ht hJ hl
  tone := any_carries rfl
  stay := by
    intro thr hthr
    have hidle : idleEvent (.mark (.alarmTest thr)) = true := by
      cases thr <;> first | rfl | cases hthr
    intro l t v hJ hl
    exact ⟨goal_idle hidle (Nat.le_refl t) hJ, trivial⟩
  leave := by
    intro thr hthr
    cases thr with
    | throwExit => exact changes_mode (b := .btnEditMode) rfl rfl
    | throwConfirm => exact changes_mode (b := .btnAlarmConfirm) rfl rfl
    | _ => cases hthr
  head := (alarmPoll_carries hwave .head .idle).weaken carries_nothing
    fun _ _ _ _ _ h => h
  due := measures_carries 10000
  lit := carries_idle rfl
  on := relay_outline hwave .onLoop 140
  dark := carries_idle rfl
  off := relay_outline hwave .offLoop 0
  poured := fun _ _ _ _ _ h => h
  report := measures_carries 20000
  notify := by
    intro _ thr msg
    exact Safely.frame _ (Footprint.sendLineMessage msg)
      (fun e he => carries_idle (idle_of_inNotify e he) thr) fun _ _ _ _ _ _ h => h
  notified := fun _ _ _ _ _ h => h
  backlight := any_idle rfl
  noTone := any_idle rfl
  dry := any_idle rfl
  finish := (any_idle rfl).marks

end Outlines

/-- So are the other parts of the sketch. -/
theorem idle_of_inBackground (e : Event) (h : e.inBackground = true) :
    idleEvent e = true := by
  cases e with
  | mark p => cases p <;> first | rfl | cases h
  | _ => first | rfl | cases h

end OnePress

/-- **One press, one mode change.**  In every run in which each press that
changed the mode is over by the next sample of its button, no press changes the
mode twice. -/
theorem one_press (env : Env) (wave : Button → Nat → Bool)
    (hwave : env.Follows wave) (n : Nat)
    (hgo : Always (LetGo wave) (run env n).log) : OnePress wave (run env n).log := by
  open OnePress in
  have hrest : ∀ e, e.inBackground = true → Enters (Goal wave) Any e Any :=
    fun e he => any_idle (idle_of_inBackground e he)
  have hboot : Goal wave [] 0 :=
    fun _ _ => ⟨List.Pairwise.nil, fun c hc => by cases hc⟩
  have hgoal : Goal wave (run env n).log (run env n).now :=
    (episode_outline hwave).run_safely (ptIO_any hwave) hrest (fun _ _ _ _ h => h)
      (fun _ _ _ _ h => h) (fun _ _ _ _ h => h) ⟨hboot, trivial⟩ n
  exact fun b => (hgoal hgo b).1

/-- The edit button is down until 100 ms and again from 540 ms to 600 ms. -/
def twoPresses (b : Button) (t : Nat) : Bool :=
  b = .btnEditMode && (t ≤ 100 || 540 ≤ t && t ≤ 600)

/-- Every operation takes a millisecond. -/
def tapTwice : Env :=
  { Env.quiet with elapse := fun _ => 1, level := fun _ t b => twoPresses b t }

/-- Two presses, one for each mode change. -/
theorem tapTwice_one_press : OnePress twoPresses (run tapTwice 50).log :=
  one_press tapTwice twoPresses (fun _ _ _ => rfl) 50 (by decide +kernel)

/-- The edit button is held down from power-on. -/
def heldDown : Env := { Env.quiet with level := fun _ _ b => b = .btnEditMode }

/-- One press has opened a session and closed it again. -/
theorem opens_and_closes :
    heldDown.HonoursDelay ∧ heldDown.Follows (fun b _ => b = .btnEditMode) ∧
      ¬ OnePress (fun b _ => b = .btnEditMode) (run heldDown 23).log := by
  refine ⟨fun _ _ => Nat.le_refl _, fun _ _ _ => rfl, fun h => ?_⟩
  have hcauses : causes .btnEditMode (run heldDown 23).log = [500, 0] := by
    decide +kernel
  have hpair := h .btnEditMode
  rw [hcauses, List.pairwise_cons] at hpair
  obtain ⟨t, -, -, hup⟩ := hpair.1 0 (List.mem_singleton.mpr rfl)
  cases hup

end SprinklersAlarmClock
