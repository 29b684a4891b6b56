import SprinklersAlarmClock.Firmware.Board

/-!
# Reading the log

What an observer standing next to the board knows: the last value written to
the relay, whether the buzzer sounds, whether the backlight is on, and whether
an alarm episode is under way and since when.
-/

namespace SprinklersAlarmClock

open Logic

/-- The last value written to `pin_Relay`, or the 0 it starts with. -/
def relay (l : Log) : UInt16 :=
  (latest (fun e => match e.event with
    | .analogWrite value => some value
    | _ => none) l).getD 0

/-- The buzzer is sounding. -/
def toneOn (l : Log) : Bool :=
  (latest (fun e => match e.event with
    | .tone _ => some true
    | .noTone => some false
    | _ => none) l).getD false

/-- The backlight is on. -/
def backlit (l : Log) : Bool :=
  (latest (fun e => match e.event with
    | .backlight => some true
    | .noBacklight => some false
    | _ => none) l).getD false

/-- The time at which the alarm episode under way was triggered. -/
def trigger (l : Log) : Option Nat :=
  (latest (fun e => match e.event with
    | .mark .alarm => some (some e.time)
    | .mark .alarmEnd => some none
    | _ => none) l).getD none

/-- `setup()` has returned. -/
def isSetUp (l : Log) : Bool :=
  (latest (fun e => match e.event with
    | .mark .setupDone => some true
    | _ => none) l).getD false

@[simp] theorem relay_nil : relay [] = 0 := rfl

@[simp] theorem toneOn_nil : toneOn [] = false := rfl

@[simp] theorem backlit_nil : backlit [] = false := rfl

@[simp] theorem trigger_nil : trigger [] = none := rfl

@[simp] theorem isSetUp_nil : isSetUp [] = false := rfl

/-- The button this event samples. -/
def Event.sampled? : Event → Option Button
  | .digitalRead b _ => some b
  | _ => none

/-- The events these readings, and the obligations below, look at. -/
def Event.actuates : Event → Bool
  | .analogWrite _ | .tone _ | .noTone | .backlight | .noBacklight => true
  | .mark .alarm | .mark .alarmEnd | .mark .setupDone => true
  | .mark (.alarmTest _) | .mark (.notify _) => true
  | _ => false

/-- Only the two ends of an episode bear on `trigger`. -/
theorem trigger_kept {e : Event} (hbegin : e ≠ .mark .alarm) (hend : e ≠ .mark .alarmEnd)
    (t : Nat) (l : Log) : trigger (⟨t, e⟩ :: l) = trigger l := by
  cases e with
  | mark p =>
      cases p with
      | alarm => exact absurd rfl hbegin
      | alarmEnd => exact absurd rfl hend
      | _ => rfl
  | _ => rfl

section Neutral

variable {e : Event} (h : e.actuates = false) (t : Nat) (l : Log)

include h

theorem relay_neutral : relay (⟨t, e⟩ :: l) = relay l := by
  cases e with
  | analogWrite _ => cases h
  | _ => rfl

theorem toneOn_neutral : toneOn (⟨t, e⟩ :: l) = toneOn l := by
  cases e with
  | tone _ => cases h
  | noTone => cases h
  | _ => rfl

theorem backlit_neutral : backlit (⟨t, e⟩ :: l) = backlit l := by
  cases e with
  | backlight => cases h
  | noBacklight => cases h
  | _ => rfl

theorem trigger_neutral : trigger (⟨t, e⟩ :: l) = trigger l := by
  refine trigger_kept ?_ ?_ t l
  · rintro rfl
    cases h
  · rintro rfl
    cases h

theorem isSetUp_neutral : isSetUp (⟨t, e⟩ :: l) = isSetUp l := by
  cases e with
  | mark p =>
      cases p with
      | setupDone => cases h
      | _ => rfl
  | _ => rfl

end Neutral

/-- The test `millis() - lastTime >= limit` of `ptSprinklers` is sound for true
time: the counter cannot have advanced by `limit` in less than `limit`
milliseconds. -/
theorem le_of_le_counter_sub {T₁ T₂ : Nat} {limit : UInt32} (hle : T₁ ≤ T₂)
    (h : limit ≤ UInt32.ofNat T₂ - UInt32.ofNat T₁) :
    T₁ + limit.toNat ≤ T₂ := by
  have hnat := UInt32.le_iff_toNat_le.mp h
  rw [UInt32.toNat_sub, UInt32.toNat_ofNat', UInt32.toNat_ofNat'] at hnat
  omega

end SprinklersAlarmClock
