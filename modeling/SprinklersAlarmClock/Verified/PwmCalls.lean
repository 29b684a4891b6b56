import SprinklersAlarmClock.Verified.PwmAttach

/-!
# Calls of the PWM library over whole runs

What each call does to the table is one of four outcomes (`Effect`), and every
invariant follows from them.  Over any sequence of usable calls the table stays a
true account and nothing is lost on the heap (`pwm_account`); a call halts the
program exactly when no timer can take its frequency (`pwm_halts_iff`).  Calls
that are not usable do harm: `tone` on a pin without PWM leaves an array
(`tone_noPwm`), `analogWrite` on one loses an object (`analogWrite_noPwm`).
-/

namespace SprinklersAlarmClock

open Function Logic

namespace ESP32Servo

/-! ## `tone` and `analogWrite` -/

section Calls

variable {d : Driver} (wf : WellFormed d) {pin : Pin}

include wf

/-- An object for a pin that no channel drives: a new one on the first empty
place of the first timer that takes the frequency. -/
theorem attach_newcomer (hpwm : hasPwm pin = true) (hroute : d.pads.route pin = none)
    {freq : Nat} (hfreq : freq < 2 ^ 31) (bits : Nat) {t : Timer}
    (ht : timerFor d freq = some t) :
    ∃ i d', firstEmpty (row d.channelUsed t) = some i ∧
      attachPinAt d.next pin freq bits (born d) = .ok d' ∧
      Alike (enlist (born d) d.next .init (channelAt t i) pin freq bits) d' ∧
      WellFormed d' ∧ d'.pads.route pin = some (channelAt t i) ∧
      d'.channelUsed (channelAt t i) = some d.next := by
  obtain ⟨i, hi⟩ := wf.firstEmpty_of_takes (timerFor_takes ht)
  obtain ⟨d', hattach, halike⟩ : ∃ d', attachPinAt d.next pin freq bits (born d) = .ok d' ∧
      Alike (enlist (born d) d.next .init (channelAt t i) pin freq bits) d' :=
    attachPinAt_alike hfreq wf.born (update_self _ _ _) rfl rfl hpwm ht hi
  refine ⟨i, d', hi, hattach, halike, halike.wellFormed (wf.newcomer hpwm hroute hi freq bits),
    ?_, ?_⟩
  · rw [halike.route]
    exact update_self _ _ _
  · rw [halike.used]
    exact update_self _ _ _

theorem tone_sounding {c : Channel} {a : Addr} (hroute : d.pads.route pin = some c)
    (hused : d.channelUsed c = some a) (frequency : UInt32) :
    tone pin frequency d = writeTone a frequency.toNat d := by
  obtain ⟨o, hheap, hserves⟩ := wf.serves hroute hused
  unfold tone
  simp only [wf.pwmFactory_eq, hroute, Option.bind_some, hused, ok_bind, orNew, obj_eq hheap,
    hserves.attached, if_true]
  rfl

theorem tone_silent (hroute : d.pads.route pin = none) (frequency : UInt32) :
    tone pin frequency d =
      (attachPinAt d.next pin frequency.toNat 10 (born d) >>= fun d' =>
        writeTone d.next frequency.toNat d') := by
  unfold tone
  have ho : (born d).heap d.next = some .init := update_self _ _ _
  simp only [wf.pwmFactory_eq, hroute, Option.bind_none, ok_bind, orNew, new_eq wf, obj_eq ho,
    ESP32PWM.init, Bool.false_eq_true, if_false]

/-- `analogWrite` of a value between. -/
theorem analogWrite_sounding (hdac : ¬ (pin = 25 ∨ pin = 26)) {value : UInt16}
    (h0 : value ≠ 0) (h255 : ¬ value ≥ 255) {c : Channel} {a : Addr}
    (hroute : d.pads.route pin = some c) (hused : d.channelUsed c = some a) :
    analogWrite pin value d = write a value.toUInt32 d := by
  obtain ⟨o, hheap, hserves⟩ := wf.serves hroute hused
  unfold analogWrite
  simp only [hdac, if_false, wf.pwmFactory_eq, hroute, Option.bind_some, hused, ok_bind, h0,
    h255, orNew, obj_eq hheap, hserves.attached, if_true]
  rfl

theorem analogWrite_silent (hdac : ¬ (pin = 25 ∨ pin = 26)) {value : UInt16}
    (h0 : value ≠ 0) (h255 : ¬ value ≥ 255) (hroute : d.pads.route pin = none) :
    analogWrite pin value d =
      (attachPinAt d.next pin 1000 8 (born d) >>= fun d' =>
        write d.next value.toUInt32 d') := by
  have ho : (born d).heap d.next = some .init := update_self _ _ _
  unfold analogWrite
  simp only [hdac, if_false, wf.pwmFactory_eq, hroute, Option.bind_none, ok_bind, h0, h255,
    orNew, new_eq wf, obj_eq ho, ESP32PWM.init, Bool.false_eq_true]

/-- `analogWrite` of an end of the scale. -/
theorem analogWrite_end (hdac : ¬ (pin = 25 ∨ pin = 26)) {value : UInt16}
    (h : value = 0 ∨ value ≥ 255) :
    analogWrite pin value d =
      drive pin ((d.pads.route pin).bind d.channelUsed) (value ≠ 0) d := by
  unfold analogWrite
  by_cases h0 : value = 0
  · simp only [hdac, if_false, wf.pwmFactory_eq, ok_bind, h0, if_true, ne_eq, not_true_eq_false,
      decide_false]
  · have h255 : value ≥ 255 := h.resolve_left h0
    simp only [hdac, if_false, wf.pwmFactory_eq, ok_bind, h0, h255, if_true, ne_eq,
      not_false_eq_true, decide_true]

end Calls

/-! ## What a call does to the table -/

namespace Call

/-- The pin a call is about. -/
def pin : Call → Pin
  | .tone pin _ | .noTone pin | .analogWrite pin _ | .pinMode pin => pin

/-- Calls within the bounds of the library: a pin that has PWM where a wave is
asked for, and a frequency that fits into a `long`. -/
def Usable : Call → Prop
  | .tone pin frequency => hasPwm pin = true ∧ frequency.toNat < 2 ^ 31
  | .analogWrite pin value => value = 0 ∨ value ≥ 255 ∨ hasPwm pin = true
  | .noTone _ | .pinMode _ => True

instance : (call : Call) → Decidable call.Usable
  | .tone pin frequency =>
      inferInstanceAs (Decidable (hasPwm pin = true ∧ frequency.toNat < 2 ^ 31))
  | .analogWrite pin value =>
      inferInstanceAs (Decidable (value = 0 ∨ value ≥ 255 ∨ hasPwm pin = true))
  | .noTone _ | .pinMode _ => inferInstanceAs (Decidable True)

/-- The frequency a call needs a new channel for: a wave is asked for on a pin
whose last attachment, if there was one, has been undone.  As long as
`WellFormed` holds that is a pin for which `pwmFactory` finds no object. -/
def wants (d : Driver) : Call → Option Nat
  | .tone pin frequency => if d.pads.route pin = none then some frequency.toNat else none
  | .analogWrite pin value =>
      if d.pads.route pin = none ∧ ¬ (pin = 25 ∨ pin = 26) ∧ value ≠ 0 ∧ ¬ value ≥ 255 then
        some 1000
      else none
  | .noTone _ | .pinMode _ => none

end Call

/-- The outcomes of a call about `pin` that needs a channel for the frequency
`wants`, if any. -/
inductive Effect (d : Driver) (pin : Pin) : Option Nat → Except Fault Driver → Prop
  | kept {d' : Driver} (alike : Alike d d') : Effect d pin none (.ok d')
  | released {d' : Driver} {a : Addr} {c : Channel} (route : d.pads.route pin = some c)
      (used : d.channelUsed c = some a) (alike : Alike (release d a c pin) d') :
      Effect d pin none (.ok d')
  | taken {d' : Driver} {freq bits : Nat} {t : Timer} {i : Fin 4}
      (route : d.pads.route pin = none) (pwm : hasPwm pin = true)
      (chosen : timerFor d freq = some t) (place : firstEmpty (row d.channelUsed t) = some i)
      (alike : Alike (enlist (born d) d.next .init (channelAt t i) pin freq bits) d') :
      Effect d pin (some freq) (.ok d')
  | halted {freq : Nat} (full : timerFor d freq = none) :
      Effect d pin (some freq) (.error (.halted (.allAllocated freq)))

section Effects

variable {d : Driver} (wf : WellFormed d)

theorem Alike.of_pads (d : Driver) {p : Pads} (h : p.route = d.pads.route) :
    Alike d { d with pads := p } :=
  ⟨fun _ => rfl, rfl, rfl, rfl, rfl, fun _ => Iff.rfl, h⟩

include wf

theorem tone_effect {pin : Pin} {frequency : UInt32} (hpwm : hasPwm pin = true)
    (hfreq : frequency.toNat < 2 ^ 31) :
    Effect d pin ((Call.tone pin frequency).wants d) (tone pin frequency d) := by
  dsimp only [Call.wants]
  cases hroute : d.pads.route pin with
  | some c =>
      obtain ⟨a, o, hused, hheap, hserves⟩ := wf.of_route hroute
      obtain ⟨d', hwrite, halike, -⟩ := writeTone_retunes wf hroute hused hfreq
      rw [tone_sounding wf hroute hused, hwrite]
      exact .kept halike
  | none =>
      rw [tone_silent wf hroute, if_pos rfl]
      cases ht : timerFor d frequency.toNat with
      | none =>
          rw [attachPinAt_full (d := born d) hfreq wf.born (update_self _ _ _) rfl hpwm ht,
            error_bind]
          exact .halted ht
      | some t =>
          obtain ⟨i, d', hi, hattach, halike, hwf, hroute', hused'⟩ :=
            attach_newcomer wf hpwm hroute hfreq 10 ht
          obtain ⟨d'', hwrite, halike', -⟩ := writeTone_retunes hwf hroute' hused' hfreq
          rw [hattach, ok_bind, hwrite]
          exact .taken hroute hpwm ht hi (halike.trans halike')

theorem noTone_effect (pin : Pin) : Effect d pin none (noTone pin d) := by
  cases hroute : d.pads.route pin with
  | none =>
      rw [noTone_silent wf hroute]
      exact .kept (Alike.refl d)
  | some c =>
      obtain ⟨a, o, hused, -, -⟩ := wf.of_route hroute
      rw [noTone_sounding wf hroute hused]
      exact .released hroute hused (Alike.refl _)

theorem drive_effect (pin : Pin) (high : Bool) :
    Effect d pin none (drive pin ((d.pads.route pin).bind d.channelUsed) high d) := by
  cases hroute : d.pads.route pin with
  | none => exact .kept (Alike.of_pads d rfl)
  | some c =>
      obtain ⟨a, o, hused, -, -⟩ := wf.of_route hroute
      rw [Option.bind_some, hused, drive_sounding wf hroute hused]
      exact .released hroute hused (Alike.of_pads _ rfl)

theorem analogWrite_effect {pin : Pin} {value : UInt16}
    (hpwm : value = 0 ∨ value ≥ 255 ∨ hasPwm pin = true) :
    Effect d pin ((Call.analogWrite pin value).wants d) (analogWrite pin value d) := by
  dsimp only [Call.wants]
  by_cases hdac : pin = 25 ∨ pin = 26
  · have hcall : analogWrite pin value d =
        .ok { d with pads := d.pads.dacWrite pin value.toUInt8 } := by
      unfold analogWrite
      rw [if_pos hdac]
      rfl
    rw [hcall, if_neg (fun h => h.2.1 hdac)]
    exact .kept (Alike.of_pads d rfl)
  by_cases hend : value = 0 ∨ value ≥ 255
  · rw [analogWrite_end wf hdac hend, if_neg (fun h => hend.elim h.2.2.1 h.2.2.2)]
    exact drive_effect wf pin _
  rw [not_or] at hend
  obtain ⟨h0, h255⟩ := hend
  have hpwm' : hasPwm pin = true := (hpwm.resolve_left h0).resolve_left h255
  cases hroute : d.pads.route pin with
  | some c =>
      obtain ⟨a, o, hused, hheap, hserves⟩ := wf.of_route hroute
      rw [analogWrite_sounding wf hdac h0 h255 hroute hused, write_eq hheap hserves.channel]
      exact .kept (Alike.of_write hheap _ _ rfl)
  | none =>
      rw [analogWrite_silent wf hdac h0 h255 hroute, if_pos ⟨rfl, hdac, h0, h255⟩]
      have hfreq : 1000 < 2 ^ 31 := by decide
      cases ht : timerFor d 1000 with
      | none =>
          rw [attachPinAt_full (d := born d) hfreq wf.born (update_self _ _ _) rfl hpwm' ht,
            error_bind]
          exact .halted ht
      | some t =>
          obtain ⟨i, d', hi, hattach, halike, hwf, hroute', hused'⟩ :=
            attach_newcomer wf hpwm' hroute hfreq 8 ht
          obtain ⟨o, hheap, hserves⟩ := hwf.serves hroute' hused'
          rw [hattach, ok_bind, write_eq hheap hserves.channel]
          exact .taken hroute hpwm' ht hi (halike.trans (Alike.of_write hheap _ _ rfl))

theorem exec_effect {call : Call} (hcall : call.Usable) :
    Effect d call.pin (call.wants d) (call.exec d) := by
  cases call with
  | tone pin frequency => exact tone_effect wf hcall.1 hcall.2
  | noTone pin => exact noTone_effect wf pin
  | analogWrite pin value => exact analogWrite_effect wf hcall
  | pinMode pin => exact .kept (Alike.of_pads d rfl)

end Effects

/-! ## Whole runs -/

/-- Every live object is in the table: nothing is lost on the heap. -/
def NoLeak (d : Driver) : Prop :=
  ∀ a o, d.heap a = some o → ∃ c, d.channelUsed c = some a

theorem Alike.noLeak {d d' : Driver} (h : Alike d d') (hleak : NoLeak d) : NoLeak d' := by
  intro a o ho
  have hheap := h.heap a
  rw [ho, Option.map_some] at hheap
  obtain ⟨o', ho', -⟩ := Option.map_eq_some_iff.1 hheap.symm
  obtain ⟨c, hc⟩ := hleak a o' ho'
  exact ⟨c, h.used ▸ hc⟩

theorem noLeak_release {d : Driver} (hleak : NoLeak d) {a : Addr} {c : Channel} {pin : Pin}
    (hused : d.channelUsed c = some a) : NoLeak (release d a c pin) := by
  intro a' o h
  have ha : a' ≠ a := by
    rintro rfl
    have hself : update d.heap a' none a' = some o := h
    rw [update_self] at hself
    cases hself
  obtain ⟨c', hc'⟩ := hleak a' o ((update_of_ne ha _ _).symm.trans h)
  have hne : c' ≠ c := by
    rintro rfl
    exact ha (Option.some.inj (hc'.symm.trans hused))
  exact ⟨c', (update_of_ne hne _ _).trans hc'⟩

theorem noLeak_newcomer {d : Driver} (hleak : NoLeak d) {c : Channel}
    (hempty : d.channelUsed c = none) (pin : Pin) (freq bits : Nat) :
    NoLeak (enlist (born d) d.next .init c pin freq bits) := by
  intro a o h
  by_cases ha : a = d.next
  · subst ha
    exact ⟨c, update_self _ _ _⟩
  · have hheap : d.heap a = some o := by
      rw [← h]
      exact ((update_of_ne ha _ _).trans (update_of_ne ha _ _)).symm
    obtain ⟨c', hc'⟩ := hleak a o hheap
    have hne : c' ≠ c := by
      rintro rfl
      rw [hempty] at hc'
      cases hc'
    exact ⟨c', (update_of_ne hne _ _).trans hc'⟩

/-- The table, and nothing on the heap beside it. -/
def Sound (d : Driver) : Prop := WellFormed d ∧ NoLeak d

/-- How usable calls end. -/
inductive Accounted : Except Fault Driver → Prop
  | goesOn {d : Driver} (sound : Sound d) : Accounted (.ok d)
  | halts (freq : Nat) : Accounted (.error (.halted (.allAllocated freq)))

/-- What one call preserves. -/
theorem Effect.accounted {d : Driver} (h : Sound d) {pin : Pin} {wants : Option Nat}
    {r : Except Fault Driver} (he : Effect d pin wants r) : Accounted r := by
  cases he with
  | kept alike => exact .goesOn ⟨alike.wellFormed h.1, alike.noLeak h.2⟩
  | released route used alike =>
      exact .goesOn ⟨alike.wellFormed (h.1.release route used),
        alike.noLeak (noLeak_release h.2 used)⟩
  | taken route pwm chosen place alike =>
      exact .goesOn ⟨alike.wellFormed (h.1.newcomer pwm route place _ _),
        alike.noLeak (noLeak_newcomer h.2 (place_empty place) _ _ _)⟩
  | halted full => exact .halts _

theorem sound_boot : Sound Driver.boot :=
  ⟨WellFormed.boot, fun _ _ h => by cases h⟩

/-- And what a sequence of them preserves: the first that halts is the last. -/
theorem accounted_execAll {calls : List Call} (h : ∀ call ∈ calls, call.Usable) :
    Accounted (execAll calls .boot) := by
  refine foldlM_keeps (fun call hcall d hd => ?_) (.goesOn sound_boot)
  cases hd with
  | goesOn sound => exact (exec_effect sound.1 (h call hcall)).accounted sound

/-- Whatever usable calls are made, the program either goes on with a table that
is a true account of heap and pins, or halts for want of a channel: no pointer
dangles, no array is left and no object is lost. -/
theorem pwm_account (calls : List Call) (h : ∀ call ∈ calls, call.Usable) :
    (∃ d, execAll calls .boot = .ok d ∧ WellFormed d ∧ NoLeak d) ∨
      ∃ freq, execAll calls .boot = .error (.halted (.allAllocated freq)) := by
  have haccounted := accounted_execAll h
  generalize execAll calls .boot = r at haccounted ⊢
  cases haccounted with
  | goesOn sound => exact .inl ⟨_, rfl, sound.1, sound.2⟩
  | halts freq => exact .inr ⟨freq, rfl⟩

/-- The two outputs of the sketch: these calls do go on. -/
theorem pwm_account_shared :
    ∃ d, execAll [.tone 25 835, .analogWrite 33 140, .noTone 25] .boot = .ok d ∧
      WellFormed d ∧ NoLeak d := by
  have hdone : (execAll [.tone 25 835, .analogWrite 33 140, .noTone 25] .boot).isOk = true := rfl
  rcases pwm_account [.tone 25 835, .analogWrite 33 140, .noTone 25] (by decide) with
    hok | ⟨freq, hfail⟩
  · exact hok
  · rw [hfail] at hdone
    cases hdone

theorem wellFormed_execAll (calls : List Call) (h : ∀ call ∈ calls, call.Usable) {d : Driver}
    (hd : execAll calls .boot = .ok d) : WellFormed d := by
  have haccounted := accounted_execAll h
  rw [hd] at haccounted
  cases haccounted with
  | goesOn sound => exact sound.1

/-- A timer that does not take a frequency is full, or runs at another one. -/
theorem timerFor_eq_none {d : Driver} (wf : WellFormed d) {freq : Nat} :
    timerFor d freq = none ↔
      ∀ t, d.timerCount t = 4 ∨ (0 < d.timerCount t ∧ d.timerFreqSet t ≠ some freq) := by
  unfold timerFor
  rw [List.find?_eq_none]
  refine ⟨fun h t => ?_, fun h t _ ht => ?_⟩
  · have hno := h t (List.mem_finRange t)
    rw [takes_iff] at hno
    have hle := occupied_le (row d.channelUsed t)
    have hcount := wf.counted t
    by_cases hset : d.timerFreqSet t = some freq
    · exact .inl (by
        have hfull : ¬ d.timerCount t < 4 := fun hlt => hno ⟨.inl hset, hlt⟩
        omega)
    · by_cases hnone : d.timerFreqSet t = none
      · have hzero := (wf.idle t).1 hnone
        exact absurd ⟨.inr hnone, by omega⟩ hno
      · refine .inr ⟨?_, hset⟩
        have hne : d.timerCount t ≠ 0 := fun hz => hnone ((wf.idle t).2 hz)
        omega
  · obtain ⟨hset, hlt⟩ := takes_iff.1 ht
    rcases h t with hfull | ⟨hpos, hother⟩
    · omega
    · have hzero := (wf.idle t).1 (hset.resolve_left hother)
      omega

/-- A call halts the program exactly when it needs a new channel for a frequency
and every timer is full or runs at another frequency. -/
theorem pwm_halts_iff (calls : List Call) (h : ∀ call ∈ calls, call.Usable) {d : Driver}
    (hd : execAll calls .boot = .ok d) (call : Call) (hcall : call.Usable) :
    (∃ line, call.exec d = .error (.halted line)) ↔
      ∃ freq, call.wants d = some freq ∧
        ∀ t, d.timerCount t = 4 ∨ (0 < d.timerCount t ∧ d.timerFreqSet t ≠ some freq) := by
  have wf := wellFormed_execAll calls h hd
  have heffect := exec_effect wf hcall
  generalize call.exec d = r at heffect ⊢
  generalize call.wants d = w at heffect ⊢
  cases heffect with
  | kept => simp
  | released => simp
  | taken route pwm chosen =>
      constructor
      · rintro ⟨line, hline⟩
        cases hline
      · rintro ⟨freq, hfreq, hfull⟩
        obtain rfl := Option.some.inj hfreq
        rw [(timerFor_eq_none wf).2 hfull] at chosen
        cases chosen
  | halted full =>
      exact ⟨fun _ => ⟨_, rfl, (timerFor_eq_none wf).1 full⟩, fun _ => ⟨_, rfl⟩⟩

/-- Four frequencies are in use: a fifth halts the program. -/
theorem pwm_halts_fifth :
    ∃ d line, execAll [.tone 25 1, .tone 26 2, .tone 27 3, .tone 32 4] .boot = .ok d ∧
      (Call.tone 33 5).exec d = .error (.halted line) := by
  have hhalts := (pwm_halts_iff [.tone 25 1, .tone 26 2, .tone 27 3, .tone 32 4] (by decide) rfl
    (.tone 33 5) (by decide)).2 ⟨5, rfl, by decide⟩
  obtain ⟨line, hline⟩ := hhalts
  exact ⟨_, line, rfl, hline⟩

/-- The frequency the object of a pin runs at: `pwmFactory(pin)->readFreq()`. -/
def readFreq (d : Driver) (pin : Pin) : Option Nat :=
  (d.pads.route pin).bind fun c => (d.channelUsed c).bind (freqAt d)

/-- `tone` on a pin that sounds runs over the first `timerCount` places of the
timer.  Every pin on a place among them gets the frequency, whether it is the pin
of the call or not; and when the pin of the call is not among them, because an
earlier place has been given back, the call leaves its frequency as it was. -/
theorem tone_retunes (calls : List Call) (h : ∀ call ∈ calls, call.Usable) {d : Driver}
    (hd : execAll calls .boot = .ok d) (pin : Pin) (c : Channel)
    (hroute : d.pads.route pin = some c) (frequency : UInt32)
    (hfreq : frequency.toNat < 2 ^ 31) :
    ∃ d', tone pin frequency d = .ok d' ∧ ∀ pin' c', d.pads.route pin' = some c' →
      readFreq d' pin' =
        if timerOf c' = timerOf c ∧ (placeOf c').val < d.timerCount (timerOf c) then
          some frequency.toNat
        else readFreq d pin' := by
  have wf := wellFormed_execAll calls h hd
  obtain ⟨a, o, hused, hheap, hserves⟩ := wf.of_route hroute
  obtain ⟨d', hwrite, halike, htuned⟩ := writeTone_retunes wf hroute hused hfreq
  refine ⟨d', by rw [tone_sounding wf hroute hused, hwrite], fun pin' c' hroute' => ?_⟩
  obtain ⟨a', o', hused', -⟩ := wf.of_route hroute'
  have hplace : (placeOf c').val ∈ List.range (d.timerCount (timerOf c)).toNat ↔
      (placeOf c').val < d.timerCount (timerOf c) := by
    rw [List.mem_range]
    omega
  unfold readFreq
  rw [halike.route, halike.used, hroute', Option.bind_some, Option.bind_some, hused',
    Option.bind_some, Option.bind_some, htuned c' a' hused']
  simp only [hplace]

/-- Two pins share a timer and the first falls silent: the second can no longer be
given another frequency. -/
theorem tone_retunes_alone :
    ∃ d d', execAll [.tone 25 835, .tone 27 835, .noTone 25] .boot = .ok d ∧
      tone 27 1000 d = .ok d' ∧ readFreq d' 27 = some 835 := by
  obtain ⟨d', htone, hread⟩ := tone_retunes [.tone 25 835, .tone 27 835, .noTone 25] (by decide) rfl
    27 1 rfl 1000 (by decide)
  exact ⟨_, d', rfl, htone, (hread 27 1 rfl).trans rfl⟩

/-! ## Pins without PWM -/

theorem attachPinAt_noPwm (d : Driver) {pin : Pin} (hpwm : hasPwm pin = false)
    (freq bits : Nat) :
    attachPinAt d.next pin freq bits (born d) = .ok ((born d).say (.noPwm pin)) := by
  unfold attachPinAt attachPin
  simp only [hpwm, Bool.false_eq_true, if_false]
  rfl

section NoPwm

variable {d : Driver} (wf : WellFormed d) {pin : Pin} (hpwm : hasPwm pin = false)

include wf hpwm

theorem route_noPwm : d.pads.route pin = none := by
  cases hroute : d.pads.route pin with
  | none => rfl
  | some c =>
      have hsome := wf.hasPwm_of_route hroute
      rw [hpwm] at hsome
      cases hsome

/-- `tone` on a pin without PWM reads `timerCount[-1]`. -/
theorem tone_noPwm (frequency : UInt32) : tone pin frequency d = .error .outOfBounds := by
  have ho : ((born d).say (.noPwm pin)).heap d.next = some .init := update_self _ _ _
  rw [tone_silent wf (route_noPwm wf hpwm), attachPinAt_noPwm d hpwm, ok_bind]
  unfold writeTone
  rw [obj_eq ho]
  rfl

/-- `analogWrite` of a value between on a pin without PWM says so, and leaves an
object behind that no channel leads to. -/
theorem analogWrite_noPwm {value : UInt16} (h0 : value ≠ 0) (h255 : ¬ value ≥ 255) :
    ∃ d', analogWrite pin value d = .ok d' ∧ ¬ NoLeak d' ∧ d'.pads = d.pads := by
  have hdac : ¬ (pin = 25 ∨ pin = 26) := by
    rintro (rfl | rfl)
    · exact absurd hpwm (by decide)
    · exact absurd hpwm (by decide)
  have ho : ((born d).say (.noPwm pin)).heap d.next = some .init := update_self _ _ _
  rw [analogWrite_silent wf hdac h0 h255 (route_noPwm wf hpwm), attachPinAt_noPwm d hpwm,
    ok_bind]
  unfold write
  rw [obj_eq ho]
  refine ⟨_, rfl, fun hleak => ?_, rfl⟩
  obtain ⟨c, hc⟩ := hleak d.next _ (update_self _ _ _)
  exact wf.born.not_used (update_self _ _ _) rfl c hc

end NoPwm

end ESP32Servo

end SprinklersAlarmClock
