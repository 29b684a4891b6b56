import SprinklersAlarmClock.Verified.PwmCalls

/-!
# What stands on the pins

For its callers the library is a table of waves, one a pin (`Bench`): `tone`
asks for a square wave on a pin, `analogWrite` for one of 1000 Hz, and neither
touches any other pin.  The code shares timers between pins, so this is true only
of callers that keep to some order (`Call.Orderly`): a pin that sounds keeps its
frequency, and 1000 Hz is left to `analogWrite`, which divides the period into
256 parts where `tone` divides it into 1024.  For these the calls that reach the
board support are those the table asks for on all pins, for as long as no call
finds four other pins busy (`pwm_refines`).

Without that order the table is wrong.  `tone_retunes` of `Verified.PwmCalls` says
which pins take another frequency when a pin that sounds is given one.
-/

namespace SprinklersAlarmClock

open Function Logic

namespace ESP32Servo

/-! ## The table of waves -/

/-- A wave: `duty` of `2 ^ bits` parts of each period. -/
structure Wave where
  freq : Nat
  bits : Nat
  duty : UInt32
  deriving DecidableEq, Repr

/-- What is asked for on each pin: a wave, the level last written and whether it
has been made an output. -/
structure Bench where
  wave : Pin → Option Wave
  latch : Pin → Option Bool
  isOutput : Pin → Bool

namespace Bench

def boot : Bench where
  wave := fun _ => none
  latch := fun _ => none
  isOutput := fun _ => false

/-- A wave is put on a pin. -/
def play (b : Bench) (pin : Pin) (w : Wave) : Bench :=
  { b with wave := update b.wave pin (some w) }

/-- The wave of a pin is stopped. -/
def mute (b : Bench) (pin : Pin) : Bench := { b with wave := update b.wave pin none }

/-- A pin is made an output. -/
def claim (b : Bench) (pin : Pin) : Bench := { b with isOutput := update b.isOutput pin true }

/-- A level is written to a pin. -/
def hold (b : Bench) (pin : Pin) (high : Bool) : Bench :=
  { b with latch := update b.latch pin (some high) }

/-- A pin is taken back from its wave, if it has one. -/
def takeBack (b : Bench) (pin : Pin) : Bench :=
  if b.wave pin = none then b else (b.mute pin).claim pin

section Pins

variable (b : Bench) (pin : Pin) (w : Wave)

theorem play_wave_self : (b.play pin w).wave pin = some w := update_self _ _ _

theorem play_wave_other {q : Pin} (h : q ≠ pin) : (b.play pin w).wave q = b.wave q :=
  update_of_ne h _ _

theorem mute_wave_self : (b.mute pin).wave pin = none := update_self _ _ _

theorem mute_wave_other {q : Pin} (h : q ≠ pin) : (b.mute pin).wave q = b.wave q :=
  update_of_ne h _ _

end Pins

/-- The waves after a wave is put on `pin`. -/
theorem of_play {b : Bench} {pin q : Pin} {w v : Wave} (h : (b.play pin w).wave q = some v) :
    (q = pin ∧ v = w) ∨ (q ≠ pin ∧ b.wave q = some v) := by
  by_cases hqp : q = pin
  · subst hqp
    have hself : update b.wave q (some w) q = some v := h
    rw [update_self] at hself
    exact .inl ⟨rfl, (Option.some.inj hself).symm⟩
  · exact .inr ⟨hqp, (update_of_ne hqp _ _).symm.trans h⟩

theorem of_play_none {b : Bench} {pin q : Pin} {w : Wave} (h : (b.play pin w).wave q = none) :
    q ≠ pin ∧ b.wave q = none := by
  have hqp : q ≠ pin := by
    rintro rfl
    have hself : update b.wave q (some w) q = none := h
    rw [update_self] at hself
    cases hself
  exact ⟨hqp, (update_of_ne hqp _ _).symm.trans h⟩

theorem play_play (b : Bench) (pin : Pin) (w v : Wave) :
    (b.play pin w).play pin v = b.play pin v := by
  simp only [play, update_idem]

/-- A pin is given the wave it has. -/
theorem play_same {b : Bench} {pin : Pin} {w : Wave} (hwave : b.wave pin = some w) :
    b.play pin w = b := by
  simp only [play, ← hwave, update_eq_self]

theorem of_mute {b : Bench} {pin q : Pin} {v : Wave} (h : (b.mute pin).wave q = some v) :
    q ≠ pin ∧ b.wave q = some v := by
  have hqp : q ≠ pin := by
    rintro rfl
    have hself : update b.wave q none q = some v := h
    rw [update_self] at hself
    cases hself
  exact ⟨hqp, (update_of_ne hqp _ _).symm.trans h⟩

theorem mute_silent {b : Bench} {pin : Pin} (h : b.wave pin = none) : b.mute pin = b := by
  simp only [mute, ← h, update_eq_self]

theorem takeBack_wave (b : Bench) (pin : Pin) : (b.takeBack pin).wave = (b.mute pin).wave := by
  unfold takeBack
  split
  · rename_i h
    rw [mute_silent h]
  · rfl

/-- A pin that is an output stays one. -/
theorem takeBack_isOutput (b : Bench) {pin q : Pin} (h : b.isOutput q = true) :
    (b.takeBack pin).isOutput q = true := by
  unfold takeBack
  split
  · exact h
  · exact update_same fun _ => h

theorem takeBack_hold_low (b : Bench) (pin : Pin) (h : ∀ q, b.latch q ≠ some true) (q : Pin) :
    ((b.takeBack pin).hold pin false).latch q ≠ some true := by
  have hlatch : (b.takeBack pin).latch = b.latch := by
    unfold takeBack
    split <;> rfl
  show update (b.takeBack pin).latch pin (some false) q ≠ some true
  by_cases hq : q = pin
  · rw [hq, update_self]
    exact fun hno => by cases hno
  · rw [update_of_ne hq, hlatch]
    exact h q

end Bench

namespace Call

/-- What a call is meant to do. -/
def means : Call → Bench → Bench
  | .tone pin frequency, b => b.play pin ⟨frequency.toNat, 10, 512⟩
  | .noTone pin, b => b.mute pin
  | .analogWrite pin value, b =>
      if value = 0 ∨ value ≥ 255 then (b.takeBack pin).hold pin (value ≠ 0)
      else b.play pin ⟨1000, 8, value.toUInt32⟩
  | .pinMode pin, b => b.claim pin

/-- The order kept by a caller: waves are asked for on pins that have PWM and at
frequencies that fit into a `long`, a pin that sounds keeps its frequency, `tone`
leaves 1000 Hz alone, and `analogWrite` the two pins of the converters. -/
def Orderly (b : Bench) : Call → Prop
  | .tone pin frequency =>
      hasPwm pin = true ∧ frequency.toNat < 2 ^ 31 ∧ frequency ≠ 1000 ∧
        ∀ w, b.wave pin = some w → w.freq = frequency.toNat
  | .analogWrite pin value =>
      ¬ (pin = 25 ∨ pin = 26) ∧
        (value = 0 ∨ value ≥ 255 ∨
          hasPwm pin = true ∧ ∀ w, b.wave pin = some w → w.freq = 1000)
  | .noTone _ | .pinMode _ => True

end Call

/-- The resolution a frequency is played at. -/
def scaleFor (freq : Nat) : Nat := if freq = 1000 then 8 else 10

/-- Frequencies other than 1000 Hz are played by `tone` only. -/
def Bench.Even (b : Bench) : Prop :=
  ∀ pin w, b.wave pin = some w → w.freq ≠ 1000 → w.duty = 512

/-! ## The code keeps to the table -/

/-- Pin `pin` sounds `w` through channel `c` and object `o`. -/
structure Sounds (d : Driver) (pin : Pin) (w : Wave) (c : Channel) (a : Addr) (o : ESP32PWM) :
    Prop where
  route : d.pads.route pin = some c
  used : d.channelUsed c = some a
  heap : d.heap a = some o
  bits : o.resolutionBits = w.bits
  freq : o.myFreq = some w.freq
  timer : d.timerFreqSet (timerOf c) = some w.freq
  setUp : d.pads.timer (groupOf c) (timerOf c) = some (w.freq, w.bits)
  duty : d.pads.duty c = w.duty

theorem Sounds.serves {d : Driver} {pin : Pin} {w : Wave} {c : Channel} {a : Addr}
    {o : ESP32PWM} (hs : Sounds d pin w c a o) (wf : WellFormed d) : o.Serves c pin := by
  obtain ⟨o', ho', hserves⟩ := wf.serves hs.route hs.used
  obtain rfl : o = o' := Option.some.inj (hs.heap.symm.trans ho')
  exact hserves

/-- The pads change, but neither the leads nor what drives them. -/
theorem Sounds.of_pads {d : Driver} {pin : Pin} {w : Wave} {c : Channel} {a : Addr}
    {o : ESP32PWM} (hs : Sounds d pin w c a o) {p : Pads} (hroute : p.route = d.pads.route)
    (htimer : p.timer = d.pads.timer) (hduty : p.duty = d.pads.duty) :
    Sounds { d with pads := p } pin w c a o where
  route := hroute ▸ hs.route
  used := hs.used
  heap := hs.heap
  bits := hs.bits
  freq := hs.freq
  timer := hs.timer
  setUp := htimer ▸ hs.setUp
  duty := hduty ▸ hs.duty

/-- The calls made so far carry wave `w` to `pin` through channel `c`: the pin is
attached to the channel, alone, the timer of the channel was last set up for the
frequency and the resolution, and the channel was last given the duty. -/
structure Pads.Carries (p : Pads) (pin : Pin) (w : Wave) (c : Channel) : Prop where
  route : p.route pin = some c
  alone : ∀ q, p.route q = some c → q = pin
  setUp : p.timer (groupOf c) (timerOf c) = some (w.freq, w.bits)
  duty : p.duty c = w.duty

/-- The calls made so far are those that the table asks for on `pin`; none goes to
a converter. -/
structure Pads.Follows (p : Pads) (b : Bench) (pin : Pin) : Prop where
  silent : b.wave pin = none → p.route pin = none
  sounding : ∀ w, b.wave pin = some w → ∃ c, p.Carries pin w c
  latch : p.latch pin = b.latch pin
  isOutput : p.isOutput pin = b.isOutput pin
  dac : p.dac pin = none

/-- The code is at `d`, the table at `b`. -/
structure Plays (d : Driver) (b : Bench) : Prop where
  account : WellFormed d
  silent : ∀ pin, b.wave pin = none → d.pads.route pin = none
  sounding : ∀ pin w, b.wave pin = some w → ∃ c a o, Sounds d pin w c a o
  scale : ∀ pin w, b.wave pin = some w → w.bits = scaleFor w.freq
  isOutput : d.pads.isOutput = b.isOutput
  latch : d.pads.latch = b.latch
  dac : ∀ pin, d.pads.dac pin = none

namespace Plays

theorem boot : Plays Driver.boot Bench.boot where
  account := WellFormed.boot
  silent := fun _ _ => rfl
  sounding := fun _ _ h => by cases h
  scale := fun _ _ h => by cases h
  isOutput := rfl
  latch := rfl
  dac := fun _ => rfl

/-- The table says which calls were made for a pin. -/
theorem follows {d : Driver} {b : Bench} (h : Plays d b) (pin : Pin) :
    d.pads.Follows b pin where
  silent := h.silent pin
  sounding := fun w hwave => by
    obtain ⟨c, a, o, hs⟩ := h.sounding pin w hwave
    have halone : ∀ q, d.pads.route q = some c → q = pin := fun q hq =>
      h.account.pin_unique hq hs.route
    exact ⟨c, hs.route, halone, hs.setUp, hs.duty⟩
  latch := congrFun h.latch pin
  isOutput := congrFun h.isOutput pin
  dac := h.dac pin

variable {d : Driver} {b : Bench} (h : Plays d b)

include h

/-- The wave of a pin that is led to a channel. -/
theorem of_route {pin : Pin} {c : Channel} (hroute : d.pads.route pin = some c) :
    ∃ w a o, b.wave pin = some w ∧ Sounds d pin w c a o := by
  cases hwave : b.wave pin with
  | none =>
      rw [h.silent pin hwave] at hroute
      cases hroute
  | some w =>
      obtain ⟨c', a, o, hs⟩ := h.sounding pin w hwave
      obtain rfl : c = c' := Option.some.inj (hroute.symm.trans hs.route)
      exact ⟨w, a, o, rfl, hs⟩

/-- The pin and the wave of an object in the table. -/
theorem of_used {c : Channel} {a : Addr} {u : ESP32PWM} (hused : d.channelUsed c = some a)
    (hu : d.heap a = some u) : ∃ pin w, b.wave pin = some w ∧ Sounds d pin w c a u := by
  obtain ⟨u', pin, hu', -, hroute, -⟩ := h.account.served c a hused
  obtain rfl : u = u' := Option.some.inj (hu.symm.trans hu')
  obtain ⟨w, a', u', hwave, hs⟩ := h.of_route hroute
  obtain rfl : a = a' := Option.some.inj (hused.symm.trans hs.used)
  obtain rfl : u = u' := Option.some.inj (hu.symm.trans hs.heap)
  exact ⟨pin, w, hwave, hs⟩

/-- Every object on a timer runs at the frequency of the timer. -/
theorem tuned {t : Timer} {freq : Nat}
    (hset : d.timerFreqSet t = some freq ∨ d.timerFreqSet t = none) :
    ∀ c a u, timerOf c = t → d.channelUsed c = some a → d.heap a = some u →
      u.myFreq = some freq := by
  intro c a u ht hused hu
  obtain ⟨pin, w, -, hs⟩ := h.of_used hused hu
  have htimer := hs.timer
  rw [ht] at htimer
  rw [htimer] at hset
  rw [hs.freq]
  exact hset.resolve_right (Option.some_ne_none _)

/-- The duty of a pin that sounds is written. -/
theorem voiced {pin : Pin} {w : Wave} {c : Channel} {a : Addr} {o : ESP32PWM}
    (hs : Sounds d pin w c a o) (hwave : b.wave pin = some w) (duty : UInt32) :
    Plays { d with
        heap := update d.heap a (some { o with myDuty := duty })
        pads := d.pads.ledcWrite (some c) duty }
      (b.play pin ⟨w.freq, w.bits, duty⟩) := by
  have halike := Alike.of_write hs.heap duty (d.pads.ledcWrite (some c) duty) rfl
  refine ⟨halike.wellFormed h.account, fun q hq => ?_, fun q v hq => ?_, fun q v hq => ?_,
    h.isOutput, h.latch, h.dac⟩
  · exact h.silent q (Bench.of_play_none hq).2
  · rcases Bench.of_play hq with ⟨rfl, rfl⟩ | ⟨hqp, hqwave⟩
    · exact ⟨c, a, _, hs.route, hs.used, update_self _ _ _, hs.bits, hs.freq, hs.timer,
        hs.setUp, update_self _ _ _⟩
    · obtain ⟨c', a', o', hs'⟩ := h.sounding q v hqwave
      have hc : c' ≠ c := by
        rintro rfl
        exact hqp (h.account.pin_unique hs'.route hs.route)
      have ha : a' ≠ a := by
        rintro rfl
        exact hc (h.account.channel_unique hs'.used hs.used)
      exact ⟨c', a', o', hs'.route, hs'.used, (update_of_ne ha _ _).trans hs'.heap, hs'.bits,
        hs'.freq, hs'.timer, hs'.setUp, (update_of_ne hc _ _).trans hs'.duty⟩
  · rcases Bench.of_play hq with ⟨rfl, rfl⟩ | ⟨-, hqwave⟩
    · exact h.scale q w hwave
    · exact h.scale q v hqwave

/-- A channel is taken for a pin that is silent. -/
theorem taken {pin : Pin} (hpwm : hasPwm pin = true) (hroute : d.pads.route pin = none)
    {freq : Nat} {t : Timer} {i : Fin 4} (ht : timerFor d freq = some t)
    (hi : firstEmpty (row d.channelUsed t) = some i) :
    Plays (enlist (born d) d.next .init (channelAt t i) pin freq (scaleFor freq))
      (b.play pin ⟨freq, scaleFor freq, d.pads.duty (channelAt t i)⟩) := by
  have hempty : d.channelUsed (channelAt t i) = none := place_empty hi
  have hset := (takes_iff.1 (timerFor_takes ht)).1
  refine ⟨h.account.newcomer hpwm hroute hi freq _, fun q hq => ?_, fun q v hq => ?_,
    fun q v hq => ?_, h.isOutput, h.latch, h.dac⟩
  · obtain ⟨hqp, hqwave⟩ := Bench.of_play_none hq
    exact (update_of_ne hqp _ _).trans (h.silent q hqwave)
  · rcases Bench.of_play hq with ⟨rfl, rfl⟩ | ⟨hqp, hqwave⟩
    · refine ⟨channelAt t i, d.next, _, update_self _ _ _, update_self _ _ _, update_self _ _ _,
        rfl, rfl, update_self _ _ _, ?_, rfl⟩
      show update d.pads.timer (groupOf _) (update (d.pads.timer (groupOf _)) (timerOf _) _)
        (groupOf _) (timerOf _) = _
      rw [update_self, update_self]
    · obtain ⟨c', a', o', hs'⟩ := h.sounding q v hqwave
      have hc : c' ≠ channelAt t i := by
        rintro rfl
        rw [hs'.used] at hempty
        cases hempty
      have ha : a' ≠ d.next := by
        rintro rfl
        have hfresh := h.account.fresh d.next (Nat.le_refl _)
        rw [hs'.heap] at hfresh
        cases hfresh
      have hsame : timerOf c' = t → v.freq = freq := by
        rintro rfl
        have htimer := hs'.timer
        rcases hset with hfreq | hnone
        · exact Option.some.inj (htimer.symm.trans hfreq)
        · rw [hnone] at htimer
          cases htimer
      refine ⟨c', a', o', (update_of_ne hqp _ _).trans hs'.route,
        (update_of_ne hc _ _).trans hs'.used,
        (update_of_ne ha _ _).trans ((update_of_ne ha _ _).trans hs'.heap), hs'.bits, hs'.freq,
        ?_, ?_, hs'.duty⟩
      · show update d.timerFreqSet (timerOf (channelAt t i)) (some freq) (timerOf c') = _
        rw [timerOf_channelAt]
        by_cases htc : timerOf c' = t
        · rw [htc, update_self, hsame htc]
        · rw [update_of_ne htc]
          exact hs'.timer
      · show update d.pads.timer (groupOf (channelAt t i))
          (update (d.pads.timer (groupOf (channelAt t i))) (timerOf (channelAt t i))
            (some (freq, scaleFor freq))) (groupOf c') (timerOf c') = _
        rw [timerOf_channelAt]
        by_cases hgroup : groupOf c' = groupOf (channelAt t i)
        · rw [hgroup, update_self]
          by_cases htc : timerOf c' = t
          · rw [htc, update_self, h.scale q v hqwave, hsame htc]
          · rw [update_of_ne htc, ← hgroup]
            exact hs'.setUp
        · rw [update_of_ne hgroup]
          exact hs'.setUp
  · rcases Bench.of_play hq with ⟨-, rfl⟩ | ⟨-, hqwave⟩
    · rfl
    · exact h.scale q v hqwave

/-- A channel is given back. -/
theorem released {pin : Pin} {w : Wave} {c : Channel} {a : Addr} {o : ESP32PWM}
    (hs : Sounds d pin w c a o) : Plays (release d a c pin) (b.mute pin) := by
  refine ⟨h.account.release hs.route hs.used, fun q hq => ?_, fun q v hq => ?_,
    fun q v hq => ?_, h.isOutput, h.latch, h.dac⟩
  · refine update_same fun hqp => ?_
    exact h.silent q ((b.mute_wave_other pin hqp).symm.trans hq)
  · obtain ⟨hqp, hqwave⟩ := Bench.of_mute hq
    obtain ⟨c', a', o', hs'⟩ := h.sounding q v hqwave
    have hc : c' ≠ c := by
      rintro rfl
      exact hqp (h.account.pin_unique hs'.route hs.route)
    have ha : a' ≠ a := by
      rintro rfl
      exact hc (h.account.channel_unique hs'.used hs.used)
    have hused' : update d.channelUsed c none c' = some a' :=
      (update_of_ne hc _ _).trans hs'.used
    refine ⟨c', a', o', (update_of_ne hqp _ _).trans hs'.route, hused',
      (update_of_ne ha _ _).trans hs'.heap, hs'.bits, hs'.freq, ?_, hs'.setUp, hs'.duty⟩
    show (if d.timerCount (timerOf c) - 1 = 0 then update d.timerFreqSet (timerOf c) none
      else d.timerFreqSet) (timerOf c') = _
    split
    · rename_i hzero
      -- the last channel of its timer: `c'` is on another one
      have htc : timerOf c' ≠ timerOf c := by
        intro htc
        have hpos : 0 < occupied (row (update d.channelUsed c none) (timerOf c)) := by
          refine occupied_pos (i := placeOf c') ?_
          rw [← htc, row_placeOf, hused']
          exact Option.some_ne_none a'
        have hcount := release_count hs.used
        have hcounted := h.account.counted (timerOf c)
        omega
      rw [update_of_ne htc]
      exact hs'.timer
    · exact hs'.timer
  · exact h.scale q v (Bench.of_mute hq).2

end Plays

/-! ## Functions on a tuned timer -/

section Tuned

variable {d : Driver} {this : Addr} {o : ESP32PWM} {c : Channel}

/-- The state after `write`. -/
def wrote (d : Driver) (a : Addr) (o : ESP32PWM) (c : Channel) (duty : UInt32) : Driver :=
  { d with
    heap := update d.heap a (some { o with myDuty := duty })
    pads := d.pads.ledcWrite (some c) duty }

/-- Writing twice is writing once. -/
theorem wrote_wrote (d : Driver) (a : Addr) (o : ESP32PWM) (c : Channel) (duty : UInt32) :
    wrote (wrote d a o c duty) a { o with myDuty := duty } c duty = wrote d a o c duty := by
  simp only [wrote, Pads.ledcWrite, update_idem]

/-- Every object on the timer of channel `c` runs at `freq`. -/
def TunedAt (d : Driver) (c : Channel) (freq : Nat) : Prop :=
  ∀ c' a u, timerOf c' = timerOf c → d.channelUsed c' = some a → d.heap a = some u →
    u.myFreq = some freq

theorem TunedAt.wrote {freq : Nat} (h : TunedAt d c freq) (ho : d.heap this = some o)
    (duty : UInt32) : TunedAt (wrote d this o c duty) c freq := by
  intro c' a u htimer hused hu
  by_cases ha : a = this
  · subst ha
    have hself : update d.heap a (some { o with myDuty := duty }) a = some u := hu
    rw [update_self] at hself
    obtain rfl := Option.some.inj hself
    exact h c' a o htimer hused ho
  · exact h c' a u htimer hused ((update_of_ne ha _ _).symm.trans hu)

/-- On a tuned timer a round of `writeTone` only writes the duty, when it comes
to a channel in use. -/
theorem writeToneAt_tuned (wf : WellFormed d) {pin : Pin} (ho : d.heap this = some o)
    (hs : o.Serves c pin) {freq : Nat} (htuned : TunedAt d c freq) (i : Fin 4) :
    writeToneAt this freq d i =
      .ok (if (row d.channelUsed (timerOf c) i).isSome then wrote d this o c (halfScale o)
        else d) := by
  unfold writeToneAt row
  simp only [obj_eq ho, ok_bind, timerIndex, hs.timer, timerAndIndexToChannel_eq]
  cases hother : d.channelUsed (channelAt (timerOf c) i) with
  | none => rfl
  | some other =>
      obtain ⟨u, -, hu, -, -, -⟩ := wf.served _ other hother
      have hfreq := htuned _ other u (timerOf_channelAt _ i) hother hu
      simp only [obj_eq hu, ok_bind, hfreq, if_true, pure, Except.pure, Option.isSome_some]
      exact write_eq ho hs.channel _

/-- All rounds together. -/
theorem rounds_tuned (wf : WellFormed d) {pin : Pin} (ho : d.heap this = some o)
    (hs : o.Serves c pin) {freq : Nat} (htuned : TunedAt d c freq) (l : List Nat)
    (hl : ∀ i ∈ l, i < 4) :
    l.foldlM (writeToneAt this freq) d =
      .ok (if ∃ i : Fin 4, i.val ∈ l ∧ row d.channelUsed (timerOf c) i ≠ none then
        wrote d this o c (halfScale o) else d) := by
  classical
  induction l generalizing d o with
  | nil => simp [List.foldlM, pure, Except.pure]
  | cons i rest ih =>
      have hi : i < 4 := hl i List.mem_cons_self
      have hrest : ∀ j ∈ rest, j < 4 := fun j hj => hl j (List.mem_cons_of_mem i hj)
      rw [List.foldlM_cons, show writeToneAt this freq d i = _ from
        writeToneAt_tuned wf ho hs htuned ⟨i, hi⟩, ok_bind]
      by_cases hused : (row d.channelUsed (timerOf c) ⟨i, hi⟩).isSome = true
      · have halike : Alike d (wrote d this o c (halfScale o)) := Alike.of_write ho _ _ rfl
        have hself : (wrote d this o c (halfScale o)).heap this =
            some { o with myDuty := halfScale o } := update_self _ _ _
        have hserves : ESP32PWM.Serves { o with myDuty := halfScale o } c pin :=
          ⟨hs.channel, hs.attached, hs.pin, hs.timer⟩
        have hex : ∃ j : Fin 4, j.val ∈ i :: rest ∧ row d.channelUsed (timerOf c) j ≠ none :=
          ⟨⟨i, hi⟩, List.mem_cons_self, Option.isSome_iff_ne_none.1 hused⟩
        rw [if_pos hused, if_pos hex,
          ih (halike.wellFormed wf) hself hserves (htuned.wrote ho _) hrest]
        congr 1
        split
        · exact wrote_wrote d this o c (halfScale o)
        · rfl
      · rw [if_neg hused, ih wf ho hs htuned hrest]
        congr 1
        have hiff : (∃ j : Fin 4, j.val ∈ i :: rest ∧ row d.channelUsed (timerOf c) j ≠ none) ↔
            ∃ j : Fin 4, j.val ∈ rest ∧ row d.channelUsed (timerOf c) j ≠ none := by
          constructor
          · rintro ⟨j, hj, hne⟩
            rcases List.mem_cons.1 hj with hji | hj
            · obtain rfl : j = ⟨i, hi⟩ := Fin.ext hji
              exact absurd (Option.isSome_iff_ne_none.2 hne) hused
            · exact ⟨j, hj, hne⟩
          · rintro ⟨j, hj, hne⟩
            exact ⟨j, List.mem_cons_of_mem i hj, hne⟩
        simp only [hiff]

/-- `writeTone` on a tuned timer writes the duty, or nothing; it does write it
when the place of the channel is within the count. -/
theorem writeTone_tuned (wf : WellFormed d) {pin : Pin} (ho : d.heap this = some o)
    (hs : o.Serves c pin) {freq : Nat} (htuned : TunedAt d c freq) :
    (writeTone this freq d = .ok d ∧ ¬ (row d.channelUsed (timerOf c) (placeOf c) ≠ none ∧
        (placeOf c).val < (d.timerCount (timerOf c)).toNat)) ∨
      writeTone this freq d = .ok (wrote d this o c (halfScale o)) := by
  have hl : ∀ i ∈ List.range (d.timerCount (timerOf c)).toNat, i < 4 := fun i hi =>
    Nat.lt_of_lt_of_le (List.mem_range.1 hi) (toNat_count_le wf (timerOf c))
  have hrounds := rounds_tuned wf ho hs htuned _ hl
  unfold writeTone
  simp only [obj_eq ho, ok_bind, timerIndex, hs.timer]
  rw [hrounds]
  split
  · exact .inr rfl
  · rename_i hno
    exact .inl ⟨rfl, fun h => hno ⟨placeOf c, List.mem_range.2 h.2, h.1⟩⟩

end Tuned

/-! ## Calls -/

/-- On a tuned timer `attachPin` on a new object has no side effect. -/
theorem attachPinAt_tuned {d : Driver} (wf : WellFormed d) {pin : Pin}
    (hpwm : hasPwm pin = true) {freq : Nat} (hfreq : freq < 2 ^ 31) (bits : Nat) {t : Timer}
    {i : Fin 4} (ht : timerFor d freq = some t)
    (hi : firstEmpty (row d.channelUsed t) = some i)
    (htuned : ∀ c a u, timerOf c = t → d.channelUsed c = some a → d.heap a = some u →
      u.myFreq = some freq) :
    attachPinAt d.next pin freq bits (born d) =
      .ok (enlist (born d) d.next .init (channelAt t i) pin freq bits) := by
  have ho : (born d).heap d.next = some .init := update_self _ _ _
  have hthis := wf.born.not_used ho rfl
  have htuned' : ∀ c a u, timerOf c = t → (born d).channelUsed c = some a →
      (born d).heap a = some u → u.myFreq = some freq := by
    intro c a u htc hused hu
    have ha : a ≠ d.next := by
      rintro rfl
      exact hthis c hused
    exact htuned c a u htc hused ((update_of_ne ha _ _).symm.trans hu)
  have hlt := (takes_iff.1 (timerFor_takes ht)).2
  have hcheck : checkFrequencyForSideEffects d.next freq (born d) =
      .ok (register (born d) d.next .init t (channelAt t i) freq) := by
    rw [checkFrequency_eq (d := born d) hfreq wf.born ho rfl ht hi]
    obtain ⟨s, hfold, rfl⟩ := foldlM_ok (f := sideEffectAt d.next freq)
      (I := fun s => s = register (born d) d.next .init t (channelAt t i) freq)
      (l := List.range (d.timerCount t + 1).toNat)
      (fun j hj s hs => by
        have hj4 : j < 4 := by
          have hj := List.mem_range.1 hj
          omega
        subst hs
        exact ⟨_, sideEffectAt_tuned wf.born hthis htuned' ⟨j, hj4⟩, rfl⟩) rfl
    exact hfold
  have hself : (register (born d) d.next .init t (channelAt t i) freq).heap d.next = some
      { ESP32PWM.init with
        timerNum := some t, pwmChannel := some (channelAt t i), myFreq := some freq } :=
    update_self _ _ _
  rw [attach_finish hself rfl rfl hpwm hcheck]
  simp only [register, enlist, attachedTo, timerOf_channelAt, update_idem]

/-- Four pins other than `pin` are busy. -/
def Crowded (b : Bench) (pin : Pin) : Prop :=
  ∃ busy : Timer → Pin, Injective busy ∧ ∀ t, busy t ≠ pin ∧ b.wave (busy t) ≠ none

namespace Plays

variable {d : Driver} {b : Bench} (h : Plays d b)

include h

/-- A frequency that no timer takes finds four pins busy. -/
theorem crowded {pin : Pin} (hroute : d.pads.route pin = none) {freq : Nat}
    (hfull : timerFor d freq = none) : Crowded b pin := by
  have hbusy : ∀ t, ∃ q c, d.pads.route q = some c ∧ timerOf c = t := by
    intro t
    have hpos : occupied (row d.channelUsed t) ≠ 0 := by
      have hcounted := h.account.counted t
      rcases (timerFor_eq_none h.account).1 hfull t with hfour | ⟨hsome, -⟩
      · omega
      · omega
    rw [ne_eq, occupied_eq_zero, not_forall] at hpos
    obtain ⟨i, hi⟩ := hpos
    obtain ⟨a, ha⟩ := Option.ne_none_iff_exists'.1 hi
    obtain ⟨o, q, -, -, hq, -⟩ := h.account.served _ a ha
    exact ⟨q, channelAt t i, hq, timerOf_channelAt t i⟩
  choose busy chan hled htimer using hbusy
  refine ⟨busy, fun t t' htt => ?_, fun t => ⟨?_, fun hnone => ?_⟩⟩
  · have hchan : chan t = chan t' :=
      Option.some.inj ((hled t).symm.trans ((congrArg d.pads.route htt).trans (hled t')))
    rw [← htimer t, ← htimer t', hchan]
  · rintro hpin
    have hled' := hled t
    rw [hpin, hroute] at hled'
    cases hled'
  · have hled' := hled t
    rw [h.silent _ hnone] at hled'
    cases hled'

/-- A wave is put on a silent pin: `attachPin`, then a duty. -/
theorem attach {pin : Pin} (hwave : b.wave pin = none) (hpwm : hasPwm pin = true)
    {freq : Nat} (hfreq : freq < 2 ^ 31) :
    (∃ d' w c o, attachPinAt d.next pin freq (scaleFor freq) (born d) = .ok d' ∧
      w.freq = freq ∧ w.bits = scaleFor freq ∧ Plays d' (b.play pin w) ∧
      Sounds d' pin w c d.next o ∧ o.Serves c pin ∧ TunedAt d' c freq ∧
      (placeOf c).val < (d'.timerCount (timerOf c)).toNat) ∨
    (∃ line, attachPinAt d.next pin freq (scaleFor freq) (born d) = .error (.halted line) ∧
      Crowded b pin) := by
  have hroute := h.silent pin hwave
  cases ht : timerFor d freq with
  | none =>
      refine .inr ⟨_, attachPinAt_full (d := born d) hfreq h.account.born (update_self _ _ _) rfl
        hpwm ht, h.crowded hroute ht⟩
  | some t =>
      have htakes := takes_iff.1 (timerFor_takes ht)
      obtain ⟨i, hi⟩ := h.account.firstEmpty_of_takes (timerFor_takes ht)
      have hattach := attachPinAt_tuned h.account hpwm hfreq (scaleFor freq) ht hi
        (h.tuned htakes.1)
      have hplays := h.taken hpwm hroute ht hi
      obtain ⟨w, hw⟩ : ∃ w : Wave, w = ⟨freq, scaleFor freq, d.pads.duty (channelAt t i)⟩ :=
        ⟨_, rfl⟩
      rw [← hw] at hplays
      have hwave' : (b.play pin w).wave pin = some w := update_self _ _ _
      obtain ⟨c, a, o, hs⟩ := hplays.sounding pin w hwave'
      have hc : c = channelAt t i :=
        Option.some.inj (hs.route.symm.trans (update_self _ _ _))
      subst hc
      have ha : a = d.next := Option.some.inj (hs.used.symm.trans (update_self _ _ _))
      subst ha
      have hserves := hs.serves hplays.account
      refine .inl ⟨_, w, channelAt t i, o, hattach, by rw [hw], by rw [hw], hplays, hs, hserves,
        ?_, ?_⟩
      · intro c' a u htc hused hu
        refine hplays.tuned (t := timerOf (channelAt t i)) (.inl ?_) c' a u htc hused hu
        exact update_self _ _ _
      · have hcount : (enlist (born d) d.next .init (channelAt t i) pin freq
            (scaleFor freq)).timerCount (timerOf (channelAt t i)) =
              d.timerCount (timerOf (channelAt t i)) + 1 := update_self _ _ _
        have hplace := firstEmpty_le hi
        have hcounted := h.account.counted t
        rw [hcount, timerOf_channelAt, placeOf_channelAt]
        omega

theorem tone {pin : Pin} {frequency : UInt32} (heven : b.Even)
    (horder : (Call.tone pin frequency).Orderly b) :
    (∃ d', ESP32Servo.tone pin frequency d = .ok d' ∧
      Plays d' ((Call.tone pin frequency).means b)) ∨
    (∃ line, ESP32Servo.tone pin frequency d = .error (.halted line) ∧ Crowded b pin) := by
  obtain ⟨hpwm, hfreq, hne, hkeep⟩ := horder
  have hne' : frequency.toNat ≠ 1000 := fun heq => hne (UInt32.toNat_inj.1 heq)
  have hscale : scaleFor frequency.toNat = 10 := if_neg hne'
  cases hwave : b.wave pin with
  | none =>
      rw [tone_silent h.account (h.silent pin hwave), ← hscale]
      rcases h.attach hwave hpwm hfreq with
        ⟨d', w, c, o, hattach, hwfreq, hwbits, hplays, hs, hserves, htuned, hplace⟩ |
        ⟨line, hattach, hcrowded⟩
      · have hused : row d'.channelUsed (timerOf c) (placeOf c) ≠ none := by
          rw [row_placeOf, hs.used]
          exact Option.some_ne_none _
        rcases writeTone_tuned hplays.account hs.heap hserves htuned with
          ⟨-, hno⟩ | hwrite
        · exact absurd ⟨hused, hplace⟩ hno
        · refine .inl ⟨_, by rw [hattach, ok_bind, hwrite], ?_⟩
          have hhalf : halfScale o = 512 := by
            unfold halfScale
            rw [hs.bits, hwbits, hscale]
            rfl
          have hvoiced := hplays.voiced hs (update_self _ _ _) (halfScale o)
          rw [Bench.play_play, hwfreq, hwbits, hscale, hhalf] at hvoiced
          rw [hhalf]
          exact hvoiced
      · exact .inr ⟨line, by rw [hattach, error_bind], hcrowded⟩
  | some w =>
      obtain ⟨c, a, o, hs⟩ := h.sounding pin w hwave
      have hserves := hs.serves h.account
      have hwfreq := hkeep w hwave
      have hwbits : w.bits = 10 := by rw [h.scale pin w hwave, hwfreq, hscale]
      have hwduty := heven pin w hwave (by rw [hwfreq]; exact hne')
      have htuned : TunedAt d c frequency.toNat :=
        h.tuned (.inl (by rw [hs.timer, hwfreq]))
      have hmeans : (Call.tone pin frequency).means b = b.play pin w := by
        show b.play pin ⟨frequency.toNat, 10, 512⟩ = _
        rw [← hwfreq, ← hwbits, ← hwduty]
      rw [tone_sounding h.account hs.route hs.used, hmeans]
      rcases writeTone_tuned h.account hs.heap hserves htuned with ⟨hquiet, -⟩ | hwrite
      · refine .inl ⟨d, hquiet, ?_⟩
        rw [Bench.play_same hwave]
        exact h
      · refine .inl ⟨_, hwrite, ?_⟩
        have hhalf : halfScale o = w.duty := by
          unfold halfScale
          rw [hs.bits, hwbits, hwduty]
          rfl
        have hvoiced := h.voiced hs hwave (halfScale o)
        rw [hhalf] at hvoiced
        rw [hhalf]
        exact hvoiced

theorem noTone (pin : Pin) :
    ∃ d', ESP32Servo.noTone pin d = .ok d' ∧ Plays d' (b.mute pin) := by
  cases hwave : b.wave pin with
  | none =>
      refine ⟨d, noTone_silent h.account (h.silent pin hwave), ?_⟩
      rw [Bench.mute_silent hwave]
      exact h
  | some w =>
      obtain ⟨c, a, o, hs⟩ := h.sounding pin w hwave
      exact ⟨_, noTone_sounding h.account hs.route hs.used, h.released hs⟩

/-- `digitalWrite`. -/
theorem hold (pin : Pin) (high : Bool) :
    Plays { d with pads := d.pads.digitalWrite pin high } (b.hold pin high) where
  account := (Alike.of_pads d (p := d.pads.digitalWrite pin high) rfl).wellFormed h.account
  silent := h.silent
  sounding := fun q v hq => by
    obtain ⟨c, a, o, hs⟩ := h.sounding q v hq
    exact ⟨c, a, o, hs.of_pads rfl rfl rfl⟩
  scale := h.scale
  isOutput := h.isOutput
  latch := by
    show update d.pads.latch pin (some high) = update b.latch pin (some high)
    rw [h.latch]
  dac := h.dac

/-- `pinMode(pin, OUTPUT)`. -/
theorem pinMode (pin : Pin) :
    Plays { d with pads := d.pads.pinMode pin } (b.claim pin) where
  account := (Alike.of_pads d (p := d.pads.pinMode pin) rfl).wellFormed h.account
  silent := h.silent
  sounding := fun q v hq => by
    obtain ⟨c, a, o, hs⟩ := h.sounding q v hq
    exact ⟨c, a, o, hs.of_pads rfl rfl rfl⟩
  scale := h.scale
  isOutput := by
    show update d.pads.isOutput pin true = update b.isOutput pin true
    rw [h.isOutput]
  latch := h.latch
  dac := h.dac

theorem drive (pin : Pin) (high : Bool) :
    ∃ d', ESP32Servo.drive pin ((d.pads.route pin).bind d.channelUsed) high d = .ok d' ∧
      Plays d' ((b.takeBack pin).hold pin high) := by
  unfold Bench.takeBack
  cases hwave : b.wave pin with
  | none =>
      rw [h.silent pin hwave, if_pos rfl]
      exact ⟨_, rfl, h.hold pin high⟩
  | some w =>
      obtain ⟨c, a, o, hs⟩ := h.sounding pin w hwave
      rw [hs.route, Option.bind_some, hs.used, if_neg (Option.some_ne_none w)]
      exact ⟨_, drive_sounding h.account hs.route hs.used high,
        ((h.released hs).pinMode pin).hold pin high⟩

theorem analogWrite {pin : Pin} {value : UInt16}
    (horder : (Call.analogWrite pin value).Orderly b) :
    (∃ d', ESP32Servo.analogWrite pin value d = .ok d' ∧
      Plays d' ((Call.analogWrite pin value).means b)) ∨
    (∃ line, ESP32Servo.analogWrite pin value d = .error (.halted line) ∧ Crowded b pin) := by
  obtain ⟨hdac, hvalue⟩ := horder
  dsimp only [Call.means]
  by_cases hend : value = 0 ∨ value ≥ 255
  · rw [if_pos hend, analogWrite_end h.account hdac hend]
    exact .inl (h.drive pin _)
  rw [if_neg hend]
  rw [not_or] at hend
  obtain ⟨h0, h255⟩ := hend
  obtain ⟨hpwm, hkeep⟩ := (hvalue.resolve_left h0).resolve_left h255
  have hscale : scaleFor 1000 = 8 := rfl
  cases hwave : b.wave pin with
  | none =>
      rw [analogWrite_silent h.account hdac h0 h255 (h.silent pin hwave), ← hscale]
      rcases h.attach hwave hpwm (show 1000 < 2 ^ 31 by decide) with
        ⟨d', w, c, o, hattach, hwfreq, hwbits, hplays, hs, hserves, -, -⟩ |
        ⟨line, hattach, hcrowded⟩
      · refine .inl ⟨_, by rw [hattach, ok_bind, write_eq hs.heap hserves.channel], ?_⟩
        have hvoiced := hplays.voiced hs (update_self _ _ _) value.toUInt32
        rw [Bench.play_play, hwfreq, hwbits] at hvoiced
        exact hvoiced
      · exact .inr ⟨line, by rw [hattach, error_bind], hcrowded⟩
  | some w =>
      obtain ⟨c, a, o, hs⟩ := h.sounding pin w hwave
      have hserves := hs.serves h.account
      have hwfreq := hkeep w hwave
      have hwbits : w.bits = 8 := by rw [h.scale pin w hwave, hwfreq, hscale]
      rw [analogWrite_sounding h.account hdac h0 h255 hs.route hs.used,
        write_eq hs.heap hserves.channel]
      refine .inl ⟨_, rfl, ?_⟩
      have hvoiced := h.voiced hs hwave value.toUInt32
      rw [hwfreq, hwbits] at hvoiced
      exact hvoiced

/-- What one orderly call does. -/
theorem exec {call : Call} (heven : b.Even) (horder : call.Orderly b) :
    (∃ d', call.exec d = .ok d' ∧ Plays d' (call.means b)) ∨
      (∃ line, call.exec d = .error (.halted line) ∧ Crowded b call.pin) := by
  cases call with
  | tone pin frequency => exact h.tone heven horder
  | noTone pin => exact .inl (h.noTone pin)
  | analogWrite pin value => exact h.analogWrite horder
  | pinMode pin => exact .inl ⟨_, rfl, h.pinMode pin⟩

end Plays

theorem Bench.Even.means {b : Bench} (h : b.Even) (call : Call) : (call.means b).Even := by
  intro q v hq hne
  cases call with
  | tone pin frequency =>
      rcases Bench.of_play hq with ⟨-, rfl⟩ | ⟨-, hqwave⟩
      · rfl
      · exact h q v hqwave hne
  | noTone pin => exact h q v (Bench.of_mute hq).2 hne
  | analogWrite pin value =>
      dsimp only [Call.means] at hq
      split at hq
      · have hmute : (b.mute pin).wave q = some v :=
          (congrFun (b.takeBack_wave pin) q).symm.trans hq
        exact h q v (Bench.of_mute hmute).2 hne
      · rcases Bench.of_play hq with ⟨-, rfl⟩ | ⟨-, hqwave⟩
        · exact absurd rfl hne
        · exact h q v hqwave hne
  | pinMode pin => exact h q v hq hne

/-! ## Whole runs -/

/-- Every call is orderly when its turn comes. -/
def OrderlyRun : List Call → Bench → Prop
  | [], _ => True
  | call :: rest, b => call.Orderly b ∧ OrderlyRun rest (call.means b)

/-- The table after a sequence of calls. -/
def meansAll (calls : List Call) (b : Bench) : Bench :=
  calls.foldl (fun b call => call.means b) b

theorem execAll_plays {calls : List Call} {d : Driver} {b : Bench} (h : Plays d b)
    (heven : b.Even) (horder : OrderlyRun calls b) :
    (∃ d', execAll calls d = .ok d' ∧ Plays d' (meansAll calls b)) ∨
      ∃ before call after line, calls = before ++ call :: after ∧
        execAll calls d = .error (.halted line) ∧ Crowded (meansAll before b) call.pin := by
  induction calls generalizing d b with
  | nil => exact .inl ⟨d, rfl, h⟩
  | cons call rest ih =>
      unfold execAll
      rw [List.foldlM_cons]
      rcases h.exec heven horder.1 with ⟨d', hexec, hplays⟩ | ⟨line, hexec, hcrowded⟩
      · rw [hexec, ok_bind]
        rcases ih hplays (heven.means call) horder.2 with
          hdone | ⟨before, call', after, line, hsplit, hfail, hcrowded⟩
        · exact .inl hdone
        · refine .inr ⟨call :: before, call', after, line, ?_, hfail, hcrowded⟩
          rw [hsplit, List.cons_append]
      · exact .inr ⟨[], call, rest, line, rfl, by rw [hexec, error_bind], hcrowded⟩

theorem even_boot : Bench.boot.Even := fun _ _ h => by cases h

/-- After every sequence of orderly calls the calls made of the board support are
on every pin those that the calls mean: the wave or level last asked for on it,
whatever was done to the other pins.  The one exception is a call that finds four
other pins busy and halts. -/
theorem pwm_refines (calls : List Call) (horder : OrderlyRun calls .boot) :
    (∃ d, execAll calls .boot = .ok d ∧ ∀ pin, d.pads.Follows (meansAll calls .boot) pin) ∨
    ∃ before call after line, calls = before ++ call :: after ∧
      execAll calls .boot = .error (.halted line) ∧
      Crowded (meansAll before .boot) call.pin := by
  rcases execAll_plays Plays.boot even_boot horder with ⟨d, hexec, hplays⟩ | hcrowded
  · exact .inl ⟨d, hexec, hplays.follows⟩
  · exact .inr hcrowded

/-- Two pins, one of which falls silent and sounds again; these calls go on. -/
theorem pwm_refines_again :
    ∃ d, execAll [.tone 25 835, .analogWrite 33 140, .noTone 25, .tone 25 440] .boot = .ok d ∧
      ∀ pin, d.pads.Follows
        (meansAll [.tone 25 835, .analogWrite 33 140, .noTone 25, .tone 25 440] .boot) pin := by
  have hdone : (execAll [.tone 25 835, .analogWrite 33 140, .noTone 25, .tone 25 440]
      .boot).isOk = true := rfl
  rcases pwm_refines [.tone 25 835, .analogWrite 33 140, .noTone 25, .tone 25 440]
    ⟨⟨by decide, by decide, by decide, fun w hw => by cases hw⟩,
      ⟨by decide, .inr (.inr ⟨by decide, fun w hw => by cases hw⟩)⟩, trivial,
      ⟨by decide, by decide, by decide, fun w hw => by cases hw⟩, trivial⟩ with
    hok | ⟨_, _, _, line, -, hfail, -⟩
  · exact hok
  · rw [hfail] at hdone
    cases hdone

end ESP32Servo

end SprinklersAlarmClock
