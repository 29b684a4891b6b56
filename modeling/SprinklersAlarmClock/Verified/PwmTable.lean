import SprinklersAlarmClock.Logic.Fallible
import SprinklersAlarmClock.Logic.Slots
import SprinklersAlarmClock.Firmware.Pwm

/-!
# The table of channels

The statics of `ESP32PWM` are a true account of the heap and of the pins when
each channel in use has a live object, attached to one pin that is led to the
channel, and the counts and frequencies of the timers say which channels those
are (`WellFormed`).  A channel that is given back leaves a true account
(`WellFormed.release`), and so does all that `writeTone` does, which changes
frequencies and duties only (`Alike`).
-/

namespace SprinklersAlarmClock

open Function Logic

namespace ESP32Servo

/-! ## Channels as rows of four -/

/-- The place of a channel among the four of its timer. -/
def placeOf (c : Channel) : Fin 4 := ⟨2 * (c / 8) + c % 2, by omega⟩

def channelAt (t : Timer) (i : Fin 4) : Channel := ⟨8 * (i / 2) + 2 * t + i % 2, by omega⟩

@[simp] theorem timerOf_channelAt (t : Timer) (i : Fin 4) : timerOf (channelAt t i) = t := by
  ext
  simp only [timerOf, channelAt]
  omega

@[simp] theorem placeOf_channelAt (t : Timer) (i : Fin 4) : placeOf (channelAt t i) = i := by
  ext
  simp only [placeOf, channelAt]
  omega

@[simp] theorem channelAt_placeOf (c : Channel) : channelAt (timerOf c) (placeOf c) = c := by
  ext
  simp only [placeOf, channelAt, timerOf]
  omega

theorem channelAt_eq_iff {t : Timer} {i : Fin 4} {c : Channel} :
    channelAt t i = c ↔ timerOf c = t ∧ placeOf c = i := by
  constructor
  · rintro rfl
    exact ⟨timerOf_channelAt t i, placeOf_channelAt t i⟩
  · rintro ⟨rfl, rfl⟩
    exact channelAt_placeOf c

/-- The search of `timerAndIndexToChannel` counts the places of a timer. -/
theorem timerAndIndexToChannel_eq (t : Timer) (i : Fin 4) :
    timerAndIndexToChannel t i = some (channelAt t i) := by
  revert t i
  decide

/-- The four entries of a timer. -/
def row (used : Channel → Option Addr) (t : Timer) : Fin 4 → Option Addr :=
  fun i => used (channelAt t i)

theorem row_placeOf (used : Channel → Option Addr) (c : Channel) :
    row used (timerOf c) (placeOf c) = used c := by
  rw [row, channelAt_placeOf]

theorem row_update_same (used : Channel → Option Addr) (c : Channel) (x : Option Addr) :
    row (update used c x) (timerOf c) = update (row used (timerOf c)) (placeOf c) x := by
  funext i
  by_cases hi : i = placeOf c
  · subst hi
    simp [row]
  · have hne : channelAt (timerOf c) i ≠ c := fun h => hi (channelAt_eq_iff.1 h).2.symm
    simp [row, hne, hi]

theorem row_update_other (used : Channel → Option Addr) {c : Channel} {t : Timer}
    (h : timerOf c ≠ t) (x : Option Addr) : row (update used c x) t = row used t := by
  funext i
  have hne : channelAt t i ≠ c := fun heq => h (channelAt_eq_iff.1 heq).1
  simp [row, hne]

/-- The loop over `index` is the search for the first empty slot of the row. -/
theorem freeChannel_eq (d : Driver) (t : Timer) :
    freeChannel d t = (firstEmpty (row d.channelUsed t)).map (channelAt t) := by
  have hrange : List.range 4 = (List.finRange 4).map Fin.val := by decide
  unfold freeChannel firstEmpty
  rw [hrange, List.findSome?_map]
  induction List.finRange 4 with
  | nil => rfl
  | cons i rest ih =>
      rw [List.findSome?_cons, List.find?_cons]
      simp only [Function.comp_apply, timerAndIndexToChannel_eq, row]
      cases hi : d.channelUsed (channelAt t i) with
      | none => simp
      | some a =>
          simp only [reduceCtorEq, if_false, Option.isNone_some]
          exact ih

/-! ## Functions on an object that is there -/

section Equations

variable {d : Driver} {this : Addr} {o : ESP32PWM}

theorem obj_eq (h : d.heap this = some o) : d.obj this = .ok o := by
  unfold Driver.obj
  rw [h]

theorem write_eq (h : d.heap this = some o) {c : Channel} (hc : o.pwmChannel = some c)
    (duty : UInt32) :
    write this duty d = .ok { d with
      heap := update d.heap this (some { o with myDuty := duty })
      pads := d.pads.ledcWrite (some c) duty } := by
  unfold write
  rw [obj_eq h, ok_bind]
  simp only [getChannel, hc, Driver.setObj]
  rfl

theorem deallocate_eq (h : d.heap this = some o) {c : Channel} (hc : o.pwmChannel = some c)
    {t : Timer} (ht : o.timerNum = some t) :
    deallocate this d = .ok { d with
      timerCount := update d.timerCount t (d.timerCount t - 1)
      timerFreqSet :=
        if d.timerCount t - 1 = 0 then update d.timerFreqSet t none else d.timerFreqSet
      channelUsed := update d.channelUsed c none
      pwmCount := d.pwmCount - 1
      heap := update d.heap this
        (some { o with timerNum := none, attachedState := false, pwmChannel := none }) } := by
  unfold deallocate
  rw [obj_eq h, ok_bind]
  simp only [hc, timerIndex, ht, ok_bind]
  rfl

/-- An object that has given its channel back is deleted quietly. -/
theorem delete_eq (h : d.heap this = some o) (hc : o.pwmChannel = none)
    (ha : o.attachedState = false) :
    delete this d = .ok { d with heap := update d.heap this none } := by
  unfold delete
  rw [obj_eq h, ok_bind]
  simp only [ha, Bool.false_eq_true, if_false, deallocate, obj_eq h, ok_bind, hc]
  rfl

/-- The state after `detachPin` and `delete`. -/
def release (d : Driver) (a : Addr) (c : Channel) (pin : Pin) : Driver :=
  let t := timerOf c
  { d with
    timerCount := update d.timerCount t (d.timerCount t - 1)
    timerFreqSet :=
      if d.timerCount t - 1 = 0 then update d.timerFreqSet t none else d.timerFreqSet
    channelUsed := update d.channelUsed c none
    pwmCount := d.pwmCount - 1
    heap := update d.heap a none
    pads := d.pads.ledcDetachPin pin }

theorem release_eq {c : Channel} (h : d.heap this = some o) (hc : o.pwmChannel = some c)
    (ht : o.timerNum = some (timerOf c)) (pin : Pin) :
    (detachPin this pin d >>= fun d => delete this d) = .ok (release d this c pin) := by
  unfold detachPin
  rw [deallocate_eq (d := { d with pads := d.pads.ledcDetachPin pin }) h hc ht, ok_bind,
    delete_eq (o := { o with timerNum := none, attachedState := false, pwmChannel := none })
      (update_self _ _ _) rfl rfl]
  simp only [release, update_idem]

end Equations

/-! ## A true account -/

/-- The object is attached to `pin` through channel `c`. -/
structure ESP32PWM.Serves (o : ESP32PWM) (c : Channel) (pin : Pin) : Prop where
  channel : o.pwmChannel = some c
  attached : o.attachedState = true
  pin : o.pin = some pin
  timer : o.timerNum = some (timerOf c)

theorem find_channel : ∀ c : Channel,
    (List.finRange 16).find? (fun j => decide (some c = some j)) = some c := by decide

/-- The statics are a true account of the heap and of the attachments in force,
which `pads.route` records. -/
structure WellFormed (d : Driver) : Prop where
  /-- Every pointer in the table leads to a live object that serves the channel. -/
  served : ∀ c a, d.channelUsed c = some a →
    ∃ o pin, d.heap a = some o ∧ o.Serves c pin ∧ d.pads.route pin = some c ∧
      hasPwm pin = true
  /-- Every pin attached to a channel has an object in the table. -/
  routed : ∀ pin c, d.pads.route pin = some c →
    ∃ a o, d.channelUsed c = some a ∧ d.heap a = some o ∧ o.pin = some pin
  counted : ∀ t, d.timerCount t = occupied (row d.channelUsed t)
  idle : ∀ t, d.timerFreqSet t = none ↔ d.timerCount t = 0
  total : d.pwmCount = occupied d.channelUsed ∨
    (d.pwmCount = -1 ∧ ∀ c, d.channelUsed c = none)
  fresh : ∀ a, d.next ≤ a → d.heap a = none

namespace WellFormed

theorem boot : WellFormed Driver.boot where
  served := fun _ _ h => by cases h
  routed := fun _ _ h => by cases h
  counted := fun t => by
    have hrow : occupied (row Driver.boot.channelUsed t) = 0 :=
      occupied_eq_zero.2 fun _ => rfl
    rw [hrow]
    rfl
  idle := fun _ => ⟨fun _ => rfl, fun _ => rfl⟩
  total := .inr ⟨rfl, fun _ => rfl⟩
  fresh := fun _ _ => rfl

variable {d : Driver} (wf : WellFormed d)

include wf

/-- The object of a pin that is led to a channel. -/
theorem of_route {pin : Pin} {c : Channel} (h : d.pads.route pin = some c) :
    ∃ a o, d.channelUsed c = some a ∧ d.heap a = some o ∧ o.Serves c pin := by
  obtain ⟨a, o, hused, hheap, hpin⟩ := wf.routed pin c h
  obtain ⟨o', pin', hheap', hserves, -, -⟩ := wf.served c a hused
  obtain rfl : o = o' := Option.some.inj (hheap.symm.trans hheap')
  obtain rfl : pin = pin' := Option.some.inj (hpin.symm.trans hserves.pin)
  exact ⟨a, o, hused, hheap, hserves⟩

theorem serves {pin : Pin} {c : Channel} {a : Addr} (hroute : d.pads.route pin = some c)
    (hused : d.channelUsed c = some a) : ∃ o, d.heap a = some o ∧ o.Serves c pin := by
  obtain ⟨a', o, hused', hheap, hserves⟩ := wf.of_route hroute
  obtain rfl : a = a' := Option.some.inj (hused.symm.trans hused')
  exact ⟨o, hheap, hserves⟩

theorem hasPwm_of_route {pin : Pin} {c : Channel} (h : d.pads.route pin = some c) :
    hasPwm pin = true := by
  obtain ⟨a, o, hused, hheap, hserves⟩ := wf.of_route h
  obtain ⟨o', pin', hheap', hserves', -, hpwm⟩ := wf.served c a hused
  obtain rfl : o = o' := Option.some.inj (hheap.symm.trans hheap')
  obtain rfl : pin = pin' := Option.some.inj (hserves.pin.symm.trans hserves'.pin)
  exact hpwm

/-- No object serves two channels. -/
theorem channel_unique {c c' : Channel} {a : Addr} (h : d.channelUsed c = some a)
    (h' : d.channelUsed c' = some a) : c = c' := by
  obtain ⟨o, _, hheap, hserves, -, -⟩ := wf.served c a h
  obtain ⟨o', _, hheap', hserves', -, -⟩ := wf.served c' a h'
  obtain rfl : o = o' := Option.some.inj (hheap.symm.trans hheap')
  exact Option.some.inj (hserves.channel.symm.trans hserves'.channel)

/-- No channel serves two pins. -/
theorem pin_unique {pin pin' : Pin} {c : Channel} (h : d.pads.route pin = some c)
    (h' : d.pads.route pin' = some c) : pin = pin' := by
  obtain ⟨a, o, hused, hheap, hserves⟩ := wf.of_route h
  obtain ⟨a', o', hused', hheap', hserves'⟩ := wf.of_route h'
  obtain rfl : a = a' := Option.some.inj (hused.symm.trans hused')
  obtain rfl : o = o' := Option.some.inj (hheap.symm.trans hheap')
  exact Option.some.inj (hserves.pin.symm.trans hserves'.pin)

/-- `pwmFactory` answers the object of the channel the pin is led to. -/
theorem pwmFactoryFrom_eq (pin : Pin) (l : List Channel) :
    pwmFactoryFrom pin d l =
      .ok ((l.find? fun c => d.pads.route pin = some c).bind d.channelUsed) := by
  induction l with
  | nil => rfl
  | cons c rest ih =>
      unfold pwmFactoryFrom
      rw [List.find?_cons]
      cases hused : d.channelUsed c with
      | none =>
          have hroute : d.pads.route pin ≠ some c := by
            intro h
            obtain ⟨a, -, hsome, -⟩ := wf.routed pin c h
            rw [hused] at hsome
            cases hsome
          simp only [hroute, decide_false]
          exact ih
      | some a =>
          obtain ⟨o, pin', hheap, hserves, hroute, -⟩ := wf.served c a hused
          simp only [obj_eq hheap, ok_bind, hserves.pin]
          by_cases hpin : pin' = pin
          · subst hpin
            simp only [hroute, decide_true, if_true, Option.bind_some, hused]
            rfl
          · have hne : d.pads.route pin ≠ some c := fun h => hpin (wf.pin_unique hroute h)
            have hsome : (some pin' : Option Pin) ≠ some pin := fun h =>
              hpin (Option.some.inj h)
            simp only [hne, decide_false, hsome, if_false]
            exact ih

theorem pwmFactory_eq (pin : Pin) :
    pwmFactory pin d = .ok ((d.pads.route pin).bind d.channelUsed) := by
  unfold pwmFactory
  rw [wf.pwmFactoryFrom_eq]
  congr 2
  cases d.pads.route pin with
  | none => simp
  | some c => exact find_channel c

end WellFormed

/-! ## Giving a channel back -/

theorem release_count {used : Channel → Option Addr} {c : Channel} {a : Addr}
    (h : used c = some a) :
    occupied (row (update used c none) (timerOf c)) + 1 = occupied (row used (timerOf c)) := by
  rw [row_update_same]
  refine occupied_clear ?_
  rw [row_placeOf, h]
  exact Option.some_ne_none a

theorem WellFormed.release {d : Driver} (wf : WellFormed d) {pin : Pin} {c : Channel}
    {a : Addr} (hroute : d.pads.route pin = some c) (hused : d.channelUsed c = some a) :
    WellFormed (release d a c pin) := by
  have hothers : ∀ c' a', update d.channelUsed c none c' = some a' →
      c' ≠ c ∧ a' ≠ a ∧ d.channelUsed c' = some a' := by
    intro c' a' h
    have hne : c' ≠ c := by
      rintro rfl
      rw [update_self] at h
      cases h
    rw [update_of_ne hne] at h
    exact ⟨hne, fun ha => hne (wf.channel_unique (ha ▸ h) hused), h⟩
  have hcount := release_count hused
  have hcounted := wf.counted (timerOf c)
  constructor
  · intro c' a' h
    obtain ⟨hc, ha, hused'⟩ := hothers c' a' h
    obtain ⟨o, pin', hheap, hserves, hroute', hpwm⟩ := wf.served c' a' hused'
    have hpin : pin' ≠ pin := by
      rintro rfl
      exact hc (Option.some.inj (hroute'.symm.trans hroute))
    exact ⟨o, pin', (update_of_ne ha _ _).trans hheap, hserves,
      (update_of_ne hpin _ _).trans hroute', hpwm⟩
  · intro pin' c' h
    have hpin : pin' ≠ pin := by
      rintro rfl
      have hself : update d.pads.route pin' none pin' = some c' := h
      rw [update_self] at hself
      cases hself
    have hroute' : d.pads.route pin' = some c' := (update_of_ne hpin _ _).symm.trans h
    have hc : c' ≠ c := by
      rintro rfl
      exact hpin (wf.pin_unique hroute' hroute)
    obtain ⟨a', o, hused', hheap, hp⟩ := wf.routed pin' c' hroute'
    have ha : a' ≠ a := fun ha => hc (wf.channel_unique (ha ▸ hused') hused)
    exact ⟨a', o, (update_of_ne hc _ _).trans hused', (update_of_ne ha _ _).trans hheap, hp⟩
  · intro t
    show update d.timerCount (timerOf c) _ t = _
    by_cases ht : timerOf c = t
    · subst ht
      rw [update_self, hcounted]
      show _ = ((occupied (row (update d.channelUsed c none) (timerOf c)) : Nat) : Int)
      omega
    · rw [update_of_ne (Ne.symm ht), wf.counted t]
      show _ = ((occupied (row (update d.channelUsed c none) t) : Nat) : Int)
      rw [row_update_other _ ht]
  · intro t
    show (if _ then update d.timerFreqSet (timerOf c) none else d.timerFreqSet) t = none ↔
      update d.timerCount (timerOf c) _ t = 0
    by_cases ht : t = timerOf c
    · subst ht
      rw [update_self]
      split
      · rename_i hzero
        simp [hzero]
      · rename_i hpos
        rw [wf.idle]
        omega
    · rw [update_of_ne ht, ← wf.idle t]
      split
      · rw [update_of_ne ht]
      · rfl
  · rcases wf.total with htotal | ⟨-, hnone⟩
    · refine .inl ?_
      have hclear : occupied (update d.channelUsed c none) + 1 = occupied d.channelUsed :=
        occupied_clear (by rw [hused]; exact Option.some_ne_none a)
      show d.pwmCount - 1 = ((occupied (update d.channelUsed c none) : Nat) : Int)
      omega
    · rw [hnone c] at hused
      cases hused
  · exact fun a' ha' => update_same fun _ => wf.fresh a' ha'

/-- `noTone` on a pin that no channel drives does nothing; on another it gives
the channel back. -/
theorem noTone_silent {d : Driver} (wf : WellFormed d) {pin : Pin}
    (h : d.pads.route pin = none) : noTone pin d = .ok d := by
  unfold noTone
  rw [wf.pwmFactory_eq, h]
  rfl

theorem noTone_sounding {d : Driver} (wf : WellFormed d) {pin : Pin} {c : Channel}
    {a : Addr} (hroute : d.pads.route pin = some c) (hused : d.channelUsed c = some a) :
    noTone pin d = .ok (release d a c pin) := by
  obtain ⟨o, hheap, hserves⟩ := wf.serves hroute hused
  unfold noTone
  rw [wf.pwmFactory_eq, hroute, ok_bind, Option.bind_some, hused]
  simp only [obj_eq hheap, ok_bind, hserves.attached, if_true]
  exact release_eq hheap hserves.channel hserves.timer pin

/-- `analogWrite` of 0, or of 255 and more, on a pin that a channel drives. -/
theorem drive_sounding {d : Driver} (wf : WellFormed d) {pin : Pin} {c : Channel}
    {a : Addr} (hroute : d.pads.route pin = some c) (hused : d.channelUsed c = some a)
    (high : Bool) :
    drive pin (some a) high d =
      .ok { release d a c pin with
        pads := ((release d a c pin).pads.pinMode pin).digitalWrite pin high } := by
  obtain ⟨o, hheap, hserves⟩ := wf.serves hroute hused
  have hrelease := release_eq hheap hserves.channel hserves.timer pin
  obtain ⟨d₁, hdetach, hdelete⟩ := of_bind_ok hrelease
  unfold drive
  simp only [obj_eq hheap, ok_bind, hserves.attached, if_true, hdetach, hdelete]
  rfl

/-! ## Drivers alike up to frequencies and duties -/

/-- An object without its frequency and its duty. -/
def ESP32PWM.shape (o : ESP32PWM) : ESP32PWM := { o with myFreq := none, myDuty := 0 }

theorem ESP32PWM.Serves.of_shape {o o' : ESP32PWM} (h : o'.shape = o.shape) {c : Channel}
    {pin : Pin} (hs : o.Serves c pin) : o'.Serves c pin where
  channel := (congrArg ESP32PWM.pwmChannel h).trans hs.channel
  attached := (congrArg ESP32PWM.attachedState h).trans hs.attached
  pin := (congrArg ESP32PWM.pin h).trans hs.pin
  timer := (congrArg ESP32PWM.timerNum h).trans hs.timer

structure Alike (d d' : Driver) : Prop where
  heap : ∀ a, (d'.heap a).map ESP32PWM.shape = (d.heap a).map ESP32PWM.shape
  next : d'.next = d.next
  used : d'.channelUsed = d.channelUsed
  total : d'.pwmCount = d.pwmCount
  count : d'.timerCount = d.timerCount
  idle : ∀ t, d'.timerFreqSet t = none ↔ d.timerFreqSet t = none
  route : d'.pads.route = d.pads.route

namespace Alike

theorem refl (d : Driver) : Alike d d :=
  ⟨fun _ => rfl, rfl, rfl, rfl, rfl, fun _ => Iff.rfl, rfl⟩

theorem trans {d₁ d₂ d₃ : Driver} (h : Alike d₁ d₂) (h' : Alike d₂ d₃) : Alike d₁ d₃ where
  heap := fun a => (h'.heap a).trans (h.heap a)
  next := h'.next.trans h.next
  used := h'.used.trans h.used
  total := h'.total.trans h.total
  count := h'.count.trans h.count
  idle := fun t => (h'.idle t).trans (h.idle t)
  route := h'.route.trans h.route

variable {d d' : Driver} (h : Alike d d')

include h

theorem obj {a : Addr} {o : ESP32PWM} (ho : d.heap a = some o) :
    ∃ o', d'.heap a = some o' ∧ o'.shape = o.shape := by
  have ha := h.heap a
  rw [ho, Option.map_some] at ha
  obtain ⟨o', ho', hshape⟩ := Option.map_eq_some_iff.1 ha
  exact ⟨o', ho', hshape⟩

theorem wellFormed (wf : WellFormed d) : WellFormed d' := by
  constructor
  · intro c a hused
    rw [h.used] at hused
    obtain ⟨o, pin, hheap, hserves, hroute, hpwm⟩ := wf.served c a hused
    obtain ⟨o', hheap', hshape⟩ := h.obj hheap
    exact ⟨o', pin, hheap', hserves.of_shape hshape, h.route ▸ hroute, hpwm⟩
  · intro pin c hroute
    rw [h.route] at hroute
    obtain ⟨a, o, hused, hheap, hpin⟩ := wf.routed pin c hroute
    obtain ⟨o', hheap', hshape⟩ := h.obj hheap
    exact ⟨a, o', h.used ▸ hused, hheap', (congrArg ESP32PWM.pin hshape).trans hpin⟩
  · intro t
    rw [h.count, h.used]
    exact wf.counted t
  · intro t
    rw [h.count]
    exact (h.idle t).trans (wf.idle t)
  · rw [h.total, h.used]
    exact wf.total
  · intro a ha
    rw [h.next] at ha
    have hheap := h.heap a
    rw [wf.fresh a ha] at hheap
    exact Option.map_eq_none_iff.1 hheap

end Alike

/-! ## `writeTone` -/

section Tone

variable {d : Driver} {this : Addr} {o : ESP32PWM} {c : Channel} {pin : Pin}

/-- The state after `adjustFrequencyLocal`, with `duty` the rescaled duty. -/
def retune (d : Driver) (a : Addr) (o : ESP32PWM) (c : Channel) (pin : Pin) (freq : Nat)
    (duty : UInt32) : Driver :=
  { d with
    timerFreqSet := update d.timerFreqSet (timerOf c) (some freq)
    heap := update d.heap a (some { o with myFreq := some freq, myDuty := duty })
    pads := (((d.pads.ledcDetachPin pin).ledcSetup (some c) freq o.resolutionBits).ledcWrite
      (some c) duty).ledcAttachPin pin (some c) }

theorem toLong_eq {freq : Nat} (h : freq < 2 ^ 31) : toLong freq = .ok freq := by
  unfold toLong
  rw [if_pos h]

theorem adjustFrequencyLocal_eq (h : d.heap this = some o) (hs : o.Serves c pin) {freq : Nat}
    (hfreq : freq < 2 ^ 31) (scaled : Float32) :
    adjustFrequencyLocal this freq scaled d =
      .ok (retune d this o c pin freq (mapf scaled 0 1 0 (fullScale o)).toUInt32) := by
  have hlong := toLong_eq hfreq
  unfold adjustFrequencyLocal
  simp only [Driver.obj, h, ok_bind, timerIndex, hs.timer, hlong, hs.attached, if_true, getChannel,
    hs.channel, detachOwn, hs.pin, Driver.setObj, writeScaled, write, update_self, update_idem,
    attachOwn, retune, fullScale]
  rfl

theorem Alike.of_write (h : d.heap this = some o) (duty : UInt32) (p : Pads)
    (hp : p.route = d.pads.route) :
    Alike d { d with heap := update d.heap this (some { o with myDuty := duty }), pads := p } := by
  refine ⟨fun a => ?_, rfl, rfl, rfl, rfl, fun _ => Iff.rfl, hp⟩
  show (update d.heap this _ a).map _ = _
  by_cases ha : a = this
  · subst ha
    rw [update_self, h]
    rfl
  · rw [update_of_ne ha]

theorem Alike.of_retune (wf : WellFormed d) {a : Addr} (hused : d.channelUsed c = some a)
    (h : d.heap a = some o) (hroute : d.pads.route pin = some c) (freq : Nat) (duty : UInt32) :
    Alike d (retune d a o c pin freq duty) := by
  refine ⟨fun a' => ?_, rfl, rfl, rfl, rfl, fun t => ?_, ?_⟩
  · show (update d.heap a _ a').map _ = _
    by_cases ha : a' = a
    · subst ha
      rw [update_self, h]
      rfl
    · rw [update_of_ne ha]
  · show update d.timerFreqSet (timerOf c) (some freq) t = none ↔ _
    by_cases ht : t = timerOf c
    · subst ht
      have hpos : 0 < occupied (row d.channelUsed (timerOf c)) := by
        refine occupied_pos (i := placeOf c) ?_
        rw [row_placeOf, hused]
        exact Option.some_ne_none a
      rw [update_self, wf.idle, wf.counted]
      simp only [reduceCtorEq, false_iff]
      omega
    · rw [update_of_ne ht]
  · show update (update d.pads.route pin none) pin (some c) = d.pads.route
    rw [update_idem, ← hroute, update_eq_self]

/-- The frequency an object runs at. -/
def freqAt (d : Driver) (a : Addr) : Option Nat := (d.heap a).bind ESP32PWM.myFreq

theorem freqAt_wrote (h : d.heap this = some o) (duty : UInt32) (p : Pads) (a : Addr) :
    freqAt { d with heap := update d.heap this (some { o with myDuty := duty }), pads := p } a =
      freqAt d a := by
  unfold freqAt
  by_cases ha : a = this
  · subst ha
    rw [h]
    show (update d.heap a _ a).bind _ = _
    rw [update_self]
    rfl
  · show (update d.heap this _ a).bind _ = _
    rw [update_of_ne ha]

/-- The object at place `i` of the timer gets the frequency, no other does. -/
def Retuned (d d' : Driver) (t : Timer) (freq : Nat) (places : List Nat) : Prop :=
  ∀ c a, d.channelUsed c = some a →
    freqAt d' a = if timerOf c = t ∧ (placeOf c).val ∈ places then some freq else freqAt d a

/-- One round of `writeTone` on a table that is a true account. -/
theorem writeToneAt_retunes (wf : WellFormed d) (hroute : d.pads.route pin = some c)
    (hused : d.channelUsed c = some this) {freq : Nat} (hfreq : freq < 2 ^ 31) (i : Fin 4) :
    ∃ d', writeToneAt this freq d i = .ok d' ∧ Alike d d' ∧
      Retuned d d' (timerOf c) freq [i.val] := by
  have hplace : ∀ c', timerOf c' = timerOf c ∧ (placeOf c').val ∈ [i.val] ↔
      channelAt (timerOf c) i = c' := by
    intro c'
    rw [List.mem_singleton, ← Fin.ext_iff, channelAt_eq_iff]
  obtain ⟨o, hheap, hserves⟩ := wf.serves hroute hused
  unfold writeToneAt
  simp only [obj_eq hheap, ok_bind, timerIndex, hserves.timer, timerAndIndexToChannel_eq]
  cases hother : d.channelUsed (channelAt (timerOf c) i) with
  | none =>
      refine ⟨d, rfl, Alike.refl d, fun c' a' hc' => ?_⟩
      rw [if_neg]
      rw [hplace]
      rintro rfl
      rw [hother] at hc'
      cases hc'
  | some other =>
      obtain ⟨u, pin', huheap, huserves, huroute, -⟩ := wf.served _ other hother
      simp only [obj_eq huheap, ok_bind]
      by_cases hsame : u.myFreq = some freq
      · simp only [hsame, if_true, pure, Except.pure, ok_bind]
        rw [write_eq hheap hserves.channel]
        refine ⟨_, rfl, Alike.of_write hheap _ _ rfl, fun c' a' hc' => ?_⟩
        rw [freqAt_wrote hheap]
        split
        · rename_i hhit
          obtain rfl := (hplace c').1 hhit
          obtain rfl := Option.some.inj (hother.symm.trans hc')
          rw [freqAt, huheap]
          exact hsame
        · rfl
      · simp only [hsame, if_false]
        rw [adjustFrequencyLocal_eq huheap huserves hfreq, ok_bind]
        have halike := Alike.of_retune wf hother huheap huroute freq
          (mapf (getDutyScaled u) 0 1 0 (fullScale u)).toUInt32
        obtain ⟨o', hheap', hshape⟩ := halike.obj hheap
        rw [write_eq hheap' (hserves.of_shape hshape).channel]
        refine ⟨_, rfl, halike.trans (Alike.of_write hheap' _ _ rfl), fun c' a' hc' => ?_⟩
        rw [freqAt_wrote hheap']
        show (update d.heap other _ a').bind _ = _
        split
        · rename_i hhit
          obtain rfl := (hplace c').1 hhit
          obtain rfl := Option.some.inj (hother.symm.trans hc')
          rw [update_self]
          rfl
        · rename_i hmiss
          have hne : a' ≠ other := by
            rintro rfl
            exact hmiss ((hplace c').2 (wf.channel_unique hother hc'))
          rw [update_of_ne hne]
          rfl

theorem rounds_retune {freq : Nat} (hfreq : freq < 2 ^ 31) (l : List Nat)
    (hl : ∀ i ∈ l, i < 4) (wf : WellFormed d) (hroute : d.pads.route pin = some c)
    (hused : d.channelUsed c = some this) :
    ∃ d', l.foldlM (writeToneAt this freq) d = .ok d' ∧ Alike d d' ∧
      Retuned d d' (timerOf c) freq l := by
  induction l generalizing d with
  | nil =>
      refine ⟨d, rfl, Alike.refl d, fun c' a' _ => ?_⟩
      rw [if_neg fun hmem => List.not_mem_nil hmem.2]
  | cons i rest ih =>
      obtain ⟨d₁, hround, halike, htuned⟩ := writeToneAt_retunes wf hroute hused hfreq
        ⟨i, hl i List.mem_cons_self⟩
      obtain ⟨d₂, hrest, halike', htuned'⟩ := ih
        (fun j hj => hl j (List.mem_cons_of_mem i hj)) (halike.wellFormed wf)
        (halike.route ▸ hroute) (halike.used ▸ hused)
      refine ⟨d₂, ?_, halike.trans halike', fun c' a' hc' => ?_⟩
      · rw [List.foldlM_cons, show writeToneAt this freq d i = .ok d₁ from hround, ok_bind, hrest]
      · rw [htuned' c' a' (halike.used ▸ hc'), htuned c' a' hc']
        simp only [List.mem_cons, List.not_mem_nil, or_false]
        by_cases htimer : timerOf c' = timerOf c
        · by_cases hplace : (placeOf c').val = i
          · simp [htimer, hplace]
          · simp [htimer, hplace]
        · simp [htimer]

theorem toNat_count_le (wf : WellFormed d) (t : Timer) : (d.timerCount t).toNat ≤ 4 := by
  have hle := occupied_le (row d.channelUsed t)
  rw [wf.counted t]
  omega

/-- `writeTone` never fails on the object of a pin.  It changes only frequencies
and duties, and gives the frequency to the objects on its timer whose place is
within the count of the timer, whoever they belong to. -/
theorem writeTone_retunes (wf : WellFormed d) (hroute : d.pads.route pin = some c)
    (hused : d.channelUsed c = some this) {freq : Nat} (hfreq : freq < 2 ^ 31) :
    ∃ d', writeTone this freq d = .ok d' ∧ Alike d d' ∧
      Retuned d d' (timerOf c) freq (List.range (d.timerCount (timerOf c)).toNat) := by
  obtain ⟨o, hheap, hserves⟩ := wf.serves hroute hused
  unfold writeTone
  simp only [obj_eq hheap, ok_bind, timerIndex, hserves.timer]
  exact rounds_retune hfreq _ (fun i hi => Nat.lt_of_lt_of_le (List.mem_range.1 hi)
    (toNat_count_le wf (timerOf c))) wf hroute hused

end Tone

end ESP32Servo

end SprinklersAlarmClock
