import SprinklersAlarmClock.Firmware.Outline
import SprinklersAlarmClock.Firmware.Readings

/-!
# The poll that announces an alarm

`ptSprinklers` asks the clock chip with `isAlarm2`.  A call that finds A2F set
begins an episode with its very next step, and nothing else begins one; and
whenever `ptIO` finds the edit button released outside a session, that call
comes next (`polls_ok`).
-/

namespace SprinklersAlarmClock

open Logic SPIOStream

/-! ## Reading the log -/

/-- A register read that finds A2F set. -/
def Event.readsA2F : Event → Bool
  | .readRegister reg value => reg == regStatus && value &&& 0b00000010 != 0
  | _ => false

/-- An episode begins. -/
def Event.isAlarm : Event → Bool
  | .mark .alarm => true
  | _ => false

/-- The member function of `DS3231` under way, or left last, is `setAlarm2`. -/
def inSetAlarm2 (l : Log) : Bool :=
  (latest (fun e => match e.event with
    | .mark (.setAlarm2 _ _ _) => some true
    | .mark .enterDS3231 => some false
    | _ => none) l).getD false

/-- The entries of the call of `DS3231` under way. -/
def call (l : Log) : Log :=
  since (fun e => match e.event with
    | .mark .enterDS3231 | .mark .leaveDS3231 => true
    | _ => false) l

/-- The call of `isAlarm2` under way has found A2F set. -/
def found (l : Log) : Bool :=
  !inSetAlarm2 l && (call l).any fun e => e.event.readsA2F

/-- A call of `isAlarm2` that has found A2F set has just been left. -/
def announces : Log → Bool
  | ⟨_, .mark .leaveDS3231⟩ :: older => found older
  | _ => false

/-- An edit session is under way. -/
def inSession (l : Log) : Bool :=
  (latest (fun e => match e.event with
    | .mark (.editStart _) => some true
    | .mark (.editEnd _) => some false
    | _ => none) l).getD false

/-- `ptIO` has just found the edit button released, outside any session. -/
def pollDue : Log → Bool
  | ⟨_, .digitalRead .btnEditMode false⟩ :: older => (trigger older).isNone && !inSession older
  | _ => false

/-- After that a member function of `DS3231` has been entered. -/
def pollEntered : Log → Bool
  | ⟨_, .mark .enterDS3231⟩ :: older => pollDue older
  | _ => false

/-- An episode begins if and only if `isAlarm2` has just found A2F set; where
`ptIO` has found the edit button released, A2F is read next. -/
structure PollOk (e : Entry) (older : Log) : Prop where
  announced : e.event.isAlarm = announces older
  enters : pollDue older = true → e.event = .mark .enterDS3231
  reads : pollEntered older = true → ∃ value, e.event = .readRegister regStatus value

namespace AlarmPoll

/-- Every entry of the log is fine. -/
def Goal : Safety := fun l _ => Always PollOk l

/-- Nothing is due, and no call has found A2F set. -/
structure Calm (l : Log) : Prop where
  announces : announces l = false
  due : pollDue l = false
  entered : pollEntered l = false
  found : found l = false

/-- Nothing is due; an episode, or a session, is under way as these say. -/
def Phase (episode session : Bool) : Assn := fun l _ _ =>
  Calm l ∧ (trigger l).isSome = episode ∧ inSession l = session

/-- Events that make nothing due wherever they happen, and begin or end neither
an episode nor a session. -/
def mild : Event → Bool
  | .digitalRead .btnEditMode false => false
  | .readRegister reg _ => reg != regStatus
  | .mark .alarm | .mark .alarmEnd | .mark (.editStart _) | .mark (.editEnd _) => false
  | _ => true

/-- The ends of a session or an episode apart. -/
def turns : Event → Bool
  | .mark .alarm | .mark .alarmEnd | .mark (.editStart _) | .mark (.editEnd _) => true
  | _ => false

/-- Where nothing is due, everything but the beginning of an episode is fine. -/
theorem pollOk_of_calm {l : Log} (h : Calm l) {e : Entry} (he : e.event.isAlarm = false) :
    PollOk e l where
  announced := by rw [he, h.announces]
  enters := fun hdue => by rw [h.due] at hdue; cases hdue
  reads := fun hentered => by rw [h.entered] at hentered; cases hentered

/-- Only four events begin or end a session or an episode. -/
theorem phase_turns {e : Event} (h : turns e = false) (t : Nat) (l : Log) :
    trigger (⟨t, e⟩ :: l) = trigger l ∧ inSession (⟨t, e⟩ :: l) = inSession l := by
  cases e with
  | mark p => cases p <;> first | exact ⟨rfl, rfl⟩ | cases h
  | _ => exact ⟨rfl, rfl⟩

/-- `found` only comes true by a read that finds A2F set. -/
theorem found_cons {l : Log} (h : found l = false) {e : Event}
    (he : e.readsA2F = false ∨ inSetAlarm2 l = true) (t : Nat) :
    found (⟨t, e⟩ :: l) = false := by
  have hkeep : ∀ {call' : Log}, call' = ⟨t, e⟩ :: call l →
      (!inSetAlarm2 l && call'.any fun e => e.event.readsA2F) = false := by
    rintro _ rfl
    rw [List.any_cons]
    unfold found at h
    rcases he with he | he
    · rw [show (⟨t, e⟩ : Entry).event.readsA2F = false from he, Bool.false_or]
      exact h
    · rw [he]
      rfl
  cases e with
  | mark p =>
      cases p with
      | enterDS3231 => rfl
      | leaveDS3231 => exact Bool.and_false _
      | setAlarm2 _ _ _ => rfl
      | _ => exact hkeep rfl
  | _ => exact hkeep rfl

/-- Mild events make nothing due. -/
theorem calm_mild {l : Log} (hl : Calm l) {e : Event} (h : mild e = true) (t : Nat) :
    Calm (⟨t, e⟩ :: l) := by
  have hread : e.readsA2F = false := by
    cases e with
    | readRegister reg value =>
        have hreg : (reg == regStatus) = false := by
          rw [← Bool.not_eq_true']
          exact h
        simp only [Event.readsA2F, hreg, Bool.false_and]
    | _ => rfl
  refine ⟨?_, ?_, ?_, found_cons hl.found (.inl hread) t⟩
  · cases e with
    | mark p => cases p <;> first | rfl | exact hl.found
    | _ => rfl
  · cases e with
    | digitalRead b level => cases b <;> cases level <;> first | rfl | cases h
    | _ => rfl
  · cases e with
    | mark p => cases p <;> first | rfl | exact hl.due
    | _ => rfl

/-- They leave everything as it is. -/
theorem phase_mild {e : Event} (h : mild e = true) (episode session : Bool) :
    Enters Goal (Phase episode session) e (Phase episode session) := by
  rintro l t t' v - hJ ⟨hcalm, htrigger, hsession⟩
  have hnone : e.isAlarm = false ∧ turns e = false := by
    cases e with
    | mark p => cases p <;> first | exact ⟨rfl, rfl⟩ | cases h
    | _ => exact ⟨rfl, rfl⟩
  obtain ⟨htr, hse⟩ := phase_turns hnone.2 t' l
  exact ⟨⟨pollOk_of_calm hcalm hnone.1, hJ⟩, calm_mild hcalm h t', htr ▸ htrigger,
    hse ▸ hsession⟩

/-- In a session or an episode a released edit button makes nothing due. -/
theorem phase_sample {episode session : Bool} (hbusy : (episode || session) = true)
    (b : Button) (level : Bool) :
    Enters Goal (Phase episode session) (.digitalRead b level) (Phase episode session) := by
  rintro l t t' v - hJ ⟨hcalm, htrigger, hsession⟩
  have hdue : pollDue (⟨t', .digitalRead b level⟩ :: l) = false := by
    have hidle : ((trigger l).isNone && !inSession l) = false := by
      rw [hsession, ← Option.not_isSome, htrigger]
      revert hbusy
      cases episode <;> cases session <;> decide
    cases b <;> cases level <;> first | rfl | exact hidle
  exact ⟨⟨pollOk_of_calm hcalm rfl, hJ⟩,
    ⟨rfl, hdue, rfl, found_cons hcalm.found (.inl rfl) t'⟩, htrigger, hsession⟩

/-! ## Sessions -/

/-- In a session even a released edit button makes nothing due. -/
theorem mild_of_inPoll (e : Event) (h : e.inPoll = true) :
    Enters Goal (Phase false true) e (Phase false true) := by
  cases e with
  | digitalRead b level => exact phase_sample rfl b level
  | delay ms => exact phase_mild rfl _ _
  | mark p => cases p <;> first | exact phase_mild rfl _ _ | cases h
  | _ => cases h

/-- `setAlarm2` may find A2F set when it clears it, but announces nothing. -/
def Setting : Assn := fun l t v => Phase false true l t v ∧ inSetAlarm2 l = true

/-- A read in `setAlarm2` is not the question for A2F. -/
theorem setting_read {value : UInt8} {reg : UInt8} :
    Enters Goal Setting (.readRegister reg value) Setting := by
  rintro l t t' v - hJ ⟨⟨hcalm, htrigger, hsession⟩, hset⟩
  exact ⟨⟨pollOk_of_calm hcalm rfl, hJ⟩,
    ⟨⟨rfl, rfl, rfl, found_cons hcalm.found (.inr hset) t'⟩, htrigger, hsession⟩, hset⟩

/-- Its write says nothing about A2F either. -/
theorem setting_write {reg : UInt8} {values : List UInt8} (env : Env) :
    Safely Goal env Setting (DS3231.writeBurst reg values) fun _ => Setting := by
  refine Safely.writeBurst fun a2f => ?_
  rintro l t t' v ht hJ ⟨hphase, hset⟩
  have h := phase_mild (e := .writeRegisters reg values a2f) rfl false true l t t' v ht hJ
    hphase
  exact ⟨h.1, h.2, hset⟩

/-- A whole call of `setAlarm2`, in a session. -/
theorem setAlarm2_phase (env : Env) (dydw hour minute : UInt8) (mode : DS3231.Alarm2Mode)
    (armed : Bool) :
    Safely Goal env (Phase false true) (DS3231.setAlarm2 dydw hour minute mode armed)
      fun _ => Phase false true := by
  have hupdate : ∀ {reg : UInt8} (f : UInt8 → UInt8), Safely Goal env Setting (do
      let value ← DS3231.readRegister8 reg
      DS3231.writeRegister8 reg (f value)) fun _ => Setting :=
    fun f => (Safely.ask fun _ => setting_read).seq fun _ => setting_write env
  refine (Safely.mark (Q := fun _ => Phase false true) (phase_mild rfl _ _).marks).seq
    fun _ => Safely.seq (M := fun _ => Phase false true) ?_ fun _ =>
      (Safely.mark (Q := fun _ => Phase false true) (phase_mild rfl _ _).marks).seq fun _ =>
        Safely.pure fun _ _ _ _ h => h
  refine (Safely.mark (Q := fun _ => Setting) ?_).seq fun _ => ?_
  · intro l t v hJ h
    have h' := (phase_mild (e := .mark (.setAlarm2 dydw hour minute)) rfl false true).marks
      l t v hJ h
    exact ⟨h'.1, h'.2, rfl⟩
  refine (setting_write env).seq fun _ => (hupdate _).seq fun _ => ?_
  exact (hupdate _).weaken (fun _ _ _ _ h => h) fun _ _ _ _ _ h => h.1

/-- What a session makes of an answer. -/
theorem applyThrow_phase (env : Env) (thr : Throw) :
    Safely Goal env (Phase false true) (applyThrow thr) fun _ => Phase false true := by
  have hadd : ∀ (p : Point) (f : Vars → Vars), mild (.mark p) = true →
      Safely Goal env (Phase false true) (do
        mark p
        assign f
        let v ← vars
        AlarmDisplay.displayEditModeUI v.date) fun _ => Phase false true :=
    fun p f hp => Safely.frame env
      (Footprint.edited (S := mild) (V := fun _ _ => True) hp (fun _ => trivial) fun _ => rfl)
      (fun _ he => phase_mild he _ _) fun _ _ _ _ _ _ h => h
  cases thr with
  | idle => exact Safely.pure fun _ _ _ _ h => h
  | throwExit => exact Safely.pure fun _ _ _ _ h => h
  | throwAddHour => exact hadd .addHour _ rfl
  | throwAddMin => exact hadd .addMinute _ rfl
  | throwConfirm =>
      exact Safely.vars fun v₀ => (setAlarm2_phase env _ _ _ _ _).weaken
        (fun _ _ _ _ h => h.1) fun _ _ _ _ _ h => h

/-- `ptIO` has found the edit button released. -/
def Due : Assn := fun l _ _ =>
  pollDue l = true ∧ announces l = false ∧ pollEntered l = false ∧ found l = false ∧
    trigger l = none ∧ inSession l = false

/-- The assertions along a session. -/
def points : SessionPoints where
  Start := Phase false false
  Begun := Phase false true
  Loop := fun _ => Phase false true
  Polled := fun _ => Phase false true
  Ended := Phase false false
  Over := Phase false false

/-- The parts of a session. -/
theorem session_outline (env : Env) : SessionOutline Goal env points where
  start := by
    rintro d l t v hJ ⟨⟨hcalm, htrigger, hsession⟩, hdate⟩
    exact ⟨⟨pollOk_of_calm hcalm rfl, hJ⟩,
      ⟨⟨rfl, rfl, rfl, found_cons hcalm.found (.inl rfl) t⟩, htrigger, rfl⟩, hdate⟩
  shown := fun d l t t' v ht hJ h => phase_mild rfl _ _ l t t' v ht hJ h.1
  poll := fun _ _ => Safely.frame_eq env (Footprint.runEditAlarmMode .idle) mild_of_inPoll
  apply := fun thr => applyThrow_phase env thr
  finish := by
    rintro thr - l t v hJ ⟨hcalm, htrigger, hsession⟩
    exact ⟨⟨pollOk_of_calm hcalm rfl, hJ⟩,
      ⟨rfl, rfl, rfl, found_cons hcalm.found (.inl rfl) t⟩, htrigger, rfl⟩
  pause := (phase_mild rfl _ _).waits

/-- When `ptIO` returns, it has just found the edit button released. -/
theorem ptIO_due (env : Env) :
    Safely Goal env (Phase false false) ptIO fun _ => Due := by
  refine (session_outline env).protothread (Phase false false) (Phase false false) Due
    (fun _ _ _ h => h) (Enters.reads ?_) (phase_mild rfl _ _).reads (fun _ _ _ h => h)
    (phase_mild rfl _ _) fun _ _ _ _ h => h
  rintro l t t' v - hJ ⟨hcalm, htrigger, hsession⟩
  have hnone : trigger l = none := by
    rw [← Option.not_isSome_iff_eq_none, htrigger]
    decide
  have hdue : ((trigger l).isNone && !inSession l) = true := by
    rw [hnone, hsession]
    rfl
  exact ⟨⟨pollOk_of_calm hcalm rfl, hJ⟩, hdue, rfl, rfl,
    found_cons hcalm.found (.inl rfl) t', hnone, hsession⟩

/-! ## The poll -/

/-- `isAlarm2` is about to be called; perhaps it is due. -/
def Asking : Assn := fun l _ _ =>
  announces l = false ∧ pollEntered l = false ∧ found l = false ∧ trigger l = none ∧
    inSession l = false

/-- It has been entered, and has found nothing yet. -/
def Entered : Assn := fun l _ _ =>
  announces l = false ∧ pollDue l = false ∧ found l = false ∧ inSetAlarm2 l = false ∧
    trigger l = none ∧ inSession l = false

/-- It has read the status register. -/
def Seen (alarm : Bool) : Assn := fun l _ _ =>
  announces l = false ∧ pollDue l = false ∧ pollEntered l = false ∧ found l = alarm ∧
    inSetAlarm2 l = false ∧ trigger l = none ∧ inSession l = false

/-- It has found A2F set and has been left. -/
def Woken : Assn := fun l _ _ =>
  announces l = true ∧ pollDue l = false ∧ pollEntered l = false ∧ found l = false ∧
    trigger l = none ∧ inSession l = false

/-- Where nothing is due, an entry other than `alarm` is fine. -/
theorem pollOk_of_seen {alarm : Bool} {l : Log} {t : Nat} {v : Vars} (h : Seen alarm l t v)
    {e : Entry} (he : e.event.isAlarm = false) : PollOk e l where
  announced := by rw [he, h.1]
  enters := fun hdue => by rw [h.2.1] at hdue; cases hdue
  reads := fun hentered => by rw [h.2.2.1] at hentered; cases hentered

/-- What is found stays found until the call is left. -/
theorem found_of_seen {l : Log} (hfound : found l = true) {e : Event} (t : Nat)
    (he : ∀ p, e ≠ .mark p) : found (⟨t, e⟩ :: l) = true := by
  obtain ⟨hset, hany⟩ := Bool.and_eq_true_iff.mp hfound
  have hkeep : inSetAlarm2 (⟨t, e⟩ :: l) = inSetAlarm2 l ∧
      call (⟨t, e⟩ :: l) = ⟨t, e⟩ :: call l := by
    cases e with
    | mark p => exact absurd rfl (he p)
    | _ => exact ⟨rfl, rfl⟩
  unfold found
  rw [hkeep.1, hkeep.2, hset, List.any_cons, hany, Bool.or_true]
  rfl

/-- The chip is accessed by a call that has found A2F set. -/
theorem seen_access {e : Event} (he : ∀ p, e ≠ .mark p) (hb : ∀ b level, e ≠ .digitalRead b level) :
    Enters Goal (Seen true) e (Seen true) := by
  rintro l t t' v - hJ h
  have hok : PollOk ⟨t', e⟩ l := pollOk_of_seen h (by
    cases e with
    | mark p => exact absurd rfl (he p)
    | _ => rfl)
  obtain ⟨-, -, -, hfound, hset, htrigger, hsession⟩ := h
  refine ⟨⟨hok, hJ⟩, ?_⟩
  have hfound' := found_of_seen hfound t' he
  cases e with
  | mark p => exact absurd rfl (he p)
  | digitalRead b level => exact absurd rfl (hb b level)
  | _ => exact ⟨rfl, rfl, rfl, hfound', hset, htrigger, hsession⟩

/-- Clearing A2F does not change what has been found. -/
theorem clearAlarm2_seen (env : Env) :
    Safely Goal env (Seen true) DS3231.clearAlarm2 fun _ => Seen true :=
  (Safely.ask (Q := fun _ => Seen true) fun _ =>
    seen_access (by intro _ h; cases h) (by intro _ _ h; cases h)).seq fun _ =>
      Safely.writeBurst (Q := fun _ => Seen true) fun _ =>
        seen_access (by intro _ h; cases h) (by intro _ _ h; cases h)

/-- The call says what it has found. -/
theorem isAlarm2_polls (env : Env) :
    Safely Goal env Asking (DS3231.isAlarm2 true)
      fun b => if b = true then Woken else Phase false false := by
  refine (Safely.mark (Q := fun _ => Entered) ?_).seq fun _ => ?_
  · rintro l t v hJ ⟨hannounces, hentered, hfound, htrigger, hsession⟩
    refine ⟨⟨⟨hannounces.symm, fun _ => rfl, fun h => ?_⟩, hJ⟩,
      rfl, rfl, rfl, rfl, htrigger, hsession⟩
    rw [hentered] at h
    cases h
  have hbody : Safely Goal env Entered (do
      let status ← DS3231.readRegister8 regStatus
      let alarm := status &&& 0b00000010 != 0
      if alarm && true then
        DS3231.clearAlarm2
        return alarm
      else
        return alarm) Seen := by
    refine (Safely.ask (Q := fun status => Seen (status &&& 0b00000010 != 0))
      fun status => ?_).seq fun status => Safely.ite ?_ ?_
    · rintro l t t' v - hJ ⟨hannounces, hdue, hfound, hset, htrigger, hsession⟩
      refine ⟨⟨⟨hannounces.symm, fun h => ?_, fun _ => ⟨status, rfl⟩⟩, hJ⟩,
        rfl, rfl, rfl, ?_, hset, htrigger, hsession⟩
      · rw [hdue] at h
        cases h
      · have hany : (call l).any (fun e => e.event.readsA2F) = false := by
          have h := hfound
          unfold found at h
          rwa [hset, Bool.not_false, Bool.true_and] at h
        show (!inSetAlarm2 l && ((regStatus == regStatus && status &&& 0b00000010 != 0) ||
          (call l).any fun e => e.event.readsA2F)) = _
        rw [hset, hany, Bool.or_false]
        rfl
    · intro halarm
      rw [Bool.and_true] at halarm
      rw [halarm]
      exact (clearAlarm2_seen env).seq fun _ => Safely.pure fun _ _ _ _ h => h
    · exact fun _ => Safely.pure fun _ _ _ _ h => h
  refine hbody.seq fun alarm => ?_
  refine (Safely.mark (Q := fun _ => if alarm = true then Woken else Phase false false)
    ?_).seq fun _ => Safely.pure fun _ _ _ _ h => h
  intro l t v hJ h
  have hok : PollOk ⟨t, .mark .leaveDS3231⟩ l := pollOk_of_seen h rfl
  obtain ⟨-, -, -, hfound, hset, htrigger, hsession⟩ := h
  refine ⟨⟨hok, hJ⟩, ?_⟩
  have hleft : found (⟨t, .mark .leaveDS3231⟩ :: l) = false := Bool.and_false _
  cases alarm with
  | true => exact ⟨hfound, rfl, rfl, hleft, htrigger, hsession⟩
  | false =>
      refine ⟨⟨hfound, rfl, rfl, hleft⟩, ?_, hsession⟩
      show (trigger l).isSome = false
      rw [htrigger]
      rfl

/-! ## Episodes -/

/-- Inside an episode nothing is due. -/
theorem phase_of_inBody (e : Event) (h : e.inBody = true) :
    Enters Goal (Phase true false) e (Phase true false) := by
  cases e with
  | digitalRead b level => exact phase_sample rfl b level
  | mark p => cases p <;> first | exact phase_mild rfl _ _ | cases h
  | readRegister _ _ => cases h
  | _ => exact phase_mild rfl _ _

/-- A message makes nothing due. -/
theorem mild_of_inNotify (e : Event) (h : e.inNotify = true) : mild e = true := by
  cases e with
  | mark p => cases p <;> first | rfl | cases h
  | digitalRead _ _ => cases h
  | readRegister _ _ => cases h
  | _ => rfl

/-- The parts of an episode, which begins where A2F was found set. -/
theorem episode_outline (env : Env) :
    EpisodeOutline Goal env (.uniform Woken (Phase true false) (Phase false false)) := by
  refine EpisodeOutline.uniform phase_of_inBody ?_ ?_ (fun _ _ _ _ h => h) fun msg => ?_
  · rintro l t v hJ ⟨hannounces, hdue, hentered, hfound, htrigger, hsession⟩
    refine ⟨⟨⟨hannounces.symm, fun h => ?_, fun h => ?_⟩, hJ⟩,
      ⟨rfl, rfl, rfl, found_cons hfound (.inl rfl) t⟩, rfl, hsession⟩
    · rw [hdue] at h
      cases h
    · rw [hentered] at h
      cases h
  · rintro l t v hJ ⟨hcalm, -, hsession⟩
    exact ⟨⟨pollOk_of_calm hcalm rfl, hJ⟩,
      ⟨rfl, rfl, rfl, found_cons hcalm.found (.inl rfl) t⟩, rfl, hsession⟩
  · exact Safely.frame env (Footprint.sendLineMessage msg)
      (fun e he => phase_mild (mild_of_inNotify e he) _ _) fun _ _ _ _ _ _ h => h

/-- Before the call nothing has been found. -/
theorem asking_of_phase {l : Log} {t : Nat} {v : Vars} (h : Phase false false l t v) :
    Asking l t v := by
  refine ⟨h.1.announces, h.1.entered, h.1.found, ?_, h.2.2⟩
  rw [← Option.not_isSome_iff_eq_none, h.2.1]
  decide

/-- `ptSprinklers` asks at once, and acts on the answer at once. -/
theorem ptSprinklers_polls (env : Env) :
    Safely Goal env Due ptSprinklers fun _ => Phase false false := by
  have hlc : ∀ l t v, Goal l t → Asking l t v → Asking l t { v with ptSprinklers := true } :=
    fun _ _ _ _ h => h
  refine Safely.protothread Vars.ptSprinklers Asking Asking Asking Woken
    (Q := fun _ => Phase false false) (Safely.pure fun _ _ _ _ h => h) hlc hlc
    (isAlarm2_polls env) ?_ ?_
  · exact (episode_outline env).safely.weaken (fun _ _ _ _ h => h)
      fun _ _ _ _ _ h => asking_of_phase h
  · rintro l t v - ⟨-, hannounces, hentered, hfound, htrigger, hsession⟩
    have hasking : Asking l t v := ⟨hannounces, hentered, hfound, htrigger, hsession⟩
    cases v.ptSprinklers <;> exact hasking

/-! ## Whole runs -/

/-- `setup()` makes nothing due. -/
theorem mild_of_inSetup (e : Event) (h : e.inSetup = true) : mild e = true := by
  cases e with
  | readRegister reg value =>
      have hreg : reg = regControl := eq_of_beq h
      rw [hreg]
      rfl
  | digitalRead _ _ => cases h
  | mark p => cases p <;> first | rfl | cases h
  | _ => rfl

/-- Nor does the clock display. -/
theorem mild_of_inUi (e : Event) (h : e.inUi = true) : mild e = true := by
  cases e with
  | readRegister _ _ => cases h
  | digitalRead _ _ => cases h
  | mark p => cases p <;> first | rfl | cases h
  | _ => rfl

end AlarmPoll

/-- **The poll that announces an alarm.**  In every run an episode begins exactly
where a call of `isAlarm2` has just found A2F set, and such a call comes next
whenever `ptIO` has found the edit button released. -/
theorem polls_ok (env : Env) (n : Nat) : Always PollOk (run env n).log := by
  open AlarmPoll in
  have hframe : ∀ {S : Event → Bool} {V : Vars → Vars → Prop} {c : Sketch Unit},
      Footprint S V c → (∀ e, S e = true → mild e = true) →
      Safely Goal env (Phase false false) c fun _ => Phase false false :=
    fun hc hS => Safely.frame env hc (fun e he => phase_mild (hS e he) _ _)
      fun _ _ _ _ _ _ h => h
  exact run_safely (hframe Footprint.setup mild_of_inSetup)
    (hframe Footprint.ptUIDisplay mild_of_inUi) (ptIO_due env) (ptSprinklers_polls env)
    ⟨trivial, ⟨rfl, rfl, rfl, rfl⟩, rfl, rfl⟩ n

end SprinklersAlarmClock
