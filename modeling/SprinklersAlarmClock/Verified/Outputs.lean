import SprinklersAlarmClock.Firmware.Outline
import SprinklersAlarmClock.Firmware.Readings
import SprinklersAlarmClock.Verified.PwmWaves

/-!
# From the log to the pins

The readings `relay` and `toneOn` say what the sketch last asked for on its two
output pins.  This module hands the calls of the log to the PWM library
(`pwmCalls`) and shows what the library makes of them: at every operation of every
run, for all surroundings, the calls it has made of the board support lead 835 Hz
at half duty to the buzzer pin while `toneOn` says so and no channel otherwise, and
to the relay pin 1000 Hz at 140 of 256 while `relay` is not 0, and no channel and
no high level otherwise (`outputs_follow`).  The two share a pool of channels and
timers, but never a timer.
-/

namespace SprinklersAlarmClock

open Logic ESP32Servo

/-! ## The calls of a log -/

/-- `pin_Buzz` and `pin_Relay` of `SprinklersIOStream.h`. -/
def pinBuzz : Pin := 25
def pinRelay : Pin := 33

/-- The call behind an event. -/
def Event.pwmCall : Event → Option Call
  | .tone frequency => some (.tone pinBuzz (UInt32.ofNat frequency))
  | .noTone => some (.noTone pinBuzz)
  | .analogWrite value => some (.analogWrite pinRelay value)
  | .pinMode => some (.pinMode pinRelay)
  | _ => none

/-- The calls of a log, oldest first.  The first is made by the constructor of
`SP_IOStream`, before `setup()`. -/
def pwmCalls (l : Log) : List Call :=
  .pinMode pinRelay :: l.reverse.filterMap fun e => e.event.pwmCall

/-- The tone of the alarm, and the pump at work. -/
def buzzWave : Wave := ⟨835, 10, 512⟩
def relayWave : Wave := ⟨1000, 8, 140⟩

/-- The sketch asks for one tone, and for two values on the relay. -/
def Event.regular : Event → Prop
  | .tone frequency => frequency = 835
  | .analogWrite value => value = 0 ∨ value = 140
  | _ => True

/-- Everything in the log is. -/
def Regular (l : Log) : Prop := ∀ e ∈ l, e.event.regular

namespace Outputs

/-! ## The calls are regular -/

/-- What the sketch has asked for is regular. -/
def Goal : Safety := fun l _ => Regular l

/-- Nothing beside the safety property. -/
def Any : Assn := fun _ _ _ => True

/-- A regular event keeps the log regular. -/
theorem any_enters {e : Event} (h : e.regular) : Enters Goal Any e Any := by
  intro l t t' v _ hJ _
  refine ⟨fun e' he' => ?_, trivial⟩
  rcases List.mem_cons.1 he' with rfl | hold
  · exact h
  · exact hJ e' hold

theorem any_marks {p : Point} : Marks Goal Any p Any :=
  (any_enters (e := .mark p) trivial).marks

/-- And so does a function that performs no others. -/
theorem any_frame (env : Env) {S : Event → Bool} {V : Vars → Vars → Prop} {α : Type}
    {c : Sketch α} (hc : Footprint S V c) (hS : ∀ e, S e = true → e.regular) :
    Safely Goal env Any c fun _ => Any :=
  Safely.frame env hc (fun e he => any_enters (hS e he)) fun _ _ _ _ _ _ _ => trivial

theorem regular_of_inBody : ∀ e : Event, e.inBody = true → e.regular := by
  intro e h
  cases e with
  | tone frequency => exact beq_iff_eq.1 h
  | analogWrite value =>
      rcases Bool.or_eq_true_iff.1 h with h0 | h140
      · exact .inl (beq_iff_eq.1 h0)
      · exact .inr (beq_iff_eq.1 h140)
  | _ => trivial

theorem regular_of_inNotify : ∀ e : Event, e.inNotify = true → e.regular := by
  intro e h
  cases e with
  | tone frequency => cases h
  | analogWrite value => cases h
  | _ => trivial

theorem regular_of_inIo : ∀ e : Event, e.inIo = true → e.regular := by
  intro e h
  cases e with
  | tone frequency => cases h
  | analogWrite value => cases h
  | _ => trivial

theorem regular_of_inBackground : ∀ e : Event, e.inBackground = true → e.regular := by
  intro e h
  cases e with
  | tone frequency => cases h
  | analogWrite value => cases h
  | _ => trivial

theorem episode_outline (env : Env) : EpisodeOutline Goal env (.uniform Any Any Any) :=
  EpisodeOutline.uniform (fun e he => any_enters (regular_of_inBody e he)) any_marks any_marks
    (fun _ _ _ _ _ => trivial) fun msg =>
      any_frame env (Footprint.sendLineMessage msg) regular_of_inNotify

/-- Every run is regular. -/
theorem run_regular (env : Env) (n : Nat) : Regular (run env n).log := by
  have hIo : Safely Goal env Any ptIO fun _ => Any :=
    any_frame env Footprint.ptIO regular_of_inIo
  have hboot : Both Goal Any [] 0 Vars.zero :=
    ⟨fun _ he => absurd he List.not_mem_nil, trivial⟩
  exact (episode_outline env).run_safely hIo
    (fun e he => any_enters (regular_of_inBackground e he)) (fun _ _ _ _ _ => trivial)
    (fun _ _ _ _ h => h) (fun _ _ _ _ h => h) hboot n

/-! ## What the calls mean -/

/-- The table of waves that belongs to a log. -/
structure Shown (l : Log) (b : Bench) : Prop where
  buzz : b.wave pinBuzz = if toneOn l then some buzzWave else none
  relay : b.wave pinRelay = if relay l = 0 then none else some relayWave
  others : ∀ q, q ≠ pinBuzz → q ≠ pinRelay → b.wave q = none
  latch : ∀ q, b.latch q ≠ some true
  relayOutput : b.isOutput pinRelay = true

theorem pinBuzz_ne : pinBuzz ≠ pinRelay := by decide

theorem pinRelay_ne : pinRelay ≠ pinBuzz := by decide

/-- The table after the calls of a log. -/
def bench (l : Log) : Bench := meansAll (pwmCalls l) .boot

/-- One more entry makes its call, if it is one. -/
theorem pwmCalls_cons (e : Entry) (l : Log) :
    pwmCalls (e :: l) = pwmCalls l ++ e.event.pwmCall.toList := by
  unfold pwmCalls
  rw [List.reverse_cons, List.filterMap_append, List.cons_append]
  cases hcall : e.event.pwmCall with
  | none => simp [hcall]
  | some call => simp [hcall]

/-- And the table takes the call. -/
theorem bench_cons (e : Entry) (l : Log) :
    bench (e :: l) = meansAll e.event.pwmCall.toList (bench l) := by
  unfold bench meansAll
  rw [pwmCalls_cons, List.foldl_append]

theorem bench_silent {e : Entry} (h : e.event.pwmCall = none) (l : Log) :
    bench (e :: l) = bench l := by
  rw [bench_cons, h]
  rfl

theorem bench_call {e : Entry} {call : Call} (h : e.event.pwmCall = some call) (l : Log) :
    bench (e :: l) = call.means (bench l) := by
  rw [bench_cons, h]
  rfl

/-- At power-on nothing sounds. -/
theorem shown_nil : Shown [] (bench []) where
  buzz := rfl
  relay := rfl
  others := fun _ _ _ => rfl
  latch := fun _ h => by cases h
  relayOutput := rfl

/-- An event that calls nothing changes nothing. -/
theorem shown_silent {e : Event} (h : e.pwmCall = none) (t : Nat) {l : Log} {b : Bench}
    (hl : Shown l b) : Shown (⟨t, e⟩ :: l) b := by
  have hreadings : toneOn (⟨t, e⟩ :: l) = toneOn l ∧
      SprinklersAlarmClock.relay (⟨t, e⟩ :: l) = SprinklersAlarmClock.relay l := by
    cases e with
    | tone frequency => cases h
    | noTone => cases h
    | analogWrite value => cases h
    | _ => exact ⟨rfl, rfl⟩
  obtain ⟨htone, hrelay⟩ := hreadings
  exact ⟨by rw [htone]; exact hl.buzz, by rw [hrelay]; exact hl.relay, hl.others, hl.latch,
    hl.relayOutput⟩

/-- A tone on the buzzer. -/
theorem shown_tone (t : Nat) {l : Log} {b : Bench} (hl : Shown l b) :
    Shown (⟨t, .tone 835⟩ :: l) (b.play pinBuzz buzzWave) where
  buzz := b.play_wave_self pinBuzz buzzWave
  relay := (b.play_wave_other pinBuzz buzzWave pinRelay_ne).trans hl.relay
  others := fun q hbuzz hrelay =>
    (b.play_wave_other pinBuzz buzzWave hbuzz).trans (hl.others q hbuzz hrelay)
  latch := hl.latch
  relayOutput := hl.relayOutput

/-- The tone is stopped. -/
theorem shown_noTone (t : Nat) {l : Log} {b : Bench} (hl : Shown l b) :
    Shown (⟨t, .noTone⟩ :: l) (b.mute pinBuzz) where
  buzz := b.mute_wave_self pinBuzz
  relay := (b.mute_wave_other pinBuzz pinRelay_ne).trans hl.relay
  others := fun q hbuzz hrelay =>
    (b.mute_wave_other pinBuzz hbuzz).trans (hl.others q hbuzz hrelay)
  latch := hl.latch
  relayOutput := hl.relayOutput

/-- The relay is switched on, and off. -/
theorem shown_on (t : Nat) {l : Log} {b : Bench} (hl : Shown l b) :
    Shown (⟨t, .analogWrite 140⟩ :: l) (b.play pinRelay relayWave) where
  buzz := (b.play_wave_other pinRelay relayWave pinBuzz_ne).trans hl.buzz
  relay := b.play_wave_self pinRelay relayWave
  others := fun q hbuzz hrelay =>
    (b.play_wave_other pinRelay relayWave hrelay).trans (hl.others q hbuzz hrelay)
  latch := hl.latch
  relayOutput := hl.relayOutput

theorem shown_off (t : Nat) {l : Log} {b : Bench} (hl : Shown l b) :
    Shown (⟨t, .analogWrite 0⟩ :: l) ((b.takeBack pinRelay).hold pinRelay false) where
  buzz := (congrFun (b.takeBack_wave pinRelay) pinBuzz).trans
    ((b.mute_wave_other pinRelay pinBuzz_ne).trans hl.buzz)
  relay := (congrFun (b.takeBack_wave pinRelay) pinRelay).trans (b.mute_wave_self pinRelay)
  others := fun q hbuzz hrelay => (congrFun (b.takeBack_wave pinRelay) q).trans
    ((b.mute_wave_other pinRelay hrelay).trans (hl.others q hbuzz hrelay))
  latch := fun q => b.takeBack_hold_low pinRelay hl.latch q
  relayOutput := b.takeBack_isOutput hl.relayOutput

theorem shown_pinMode (t : Nat) {l : Log} {b : Bench} (hl : Shown l b) :
    Shown (⟨t, .pinMode⟩ :: l) (b.claim pinRelay) where
  buzz := hl.buzz
  relay := hl.relay
  others := hl.others
  latch := hl.latch
  relayOutput := by
    show Function.update b.isOutput pinRelay true pinRelay = true
    rw [Function.update_self]

/-- What a regular event calls is orderly, and means what the readings say. -/
theorem shown_call {e : Event} (h : e.regular) {call : Call} (hcall : e.pwmCall = some call)
    (t : Nat) {l : Log} {b : Bench} (hl : Shown l b) :
    call.Orderly b ∧ Shown (⟨t, e⟩ :: l) (call.means b) := by
  cases e with
  | tone frequency =>
      obtain rfl : frequency = 835 := h
      obtain rfl := Option.some.inj hcall
      refine ⟨⟨by decide, by decide, by decide, fun w hw => ?_⟩, shown_tone t hl⟩
      rw [hl.buzz] at hw
      split at hw
      · obtain rfl := Option.some.inj hw
        rfl
      · cases hw
  | noTone =>
      obtain rfl := Option.some.inj hcall
      exact ⟨trivial, shown_noTone t hl⟩
  | analogWrite value =>
      obtain rfl := Option.some.inj hcall
      rcases h with rfl | rfl
      · exact ⟨⟨by decide, .inl rfl⟩, shown_off t hl⟩
      · refine ⟨⟨by decide, .inr (.inr ⟨by decide, fun w hw => ?_⟩)⟩, shown_on t hl⟩
        rw [hl.relay] at hw
        split at hw
        · cases hw
        · obtain rfl := Option.some.inj hw
          rfl
  | pinMode =>
      obtain rfl := Option.some.inj hcall
      exact ⟨trivial, shown_pinMode t hl⟩
  | _ => cases hcall

/-- Two pins never crowd the four timers. -/
theorem not_crowded {l : Log} {b : Bench} (hl : Shown l b) (pin : Pin) : ¬ Crowded b pin := by
  rintro ⟨busy, hinj, hbusy⟩
  have hpins : ∀ t, busy t = pinBuzz ∨ busy t = pinRelay := by
    intro t
    by_contra hno
    rw [not_or] at hno
    exact (hbusy t).2 (hl.others _ hno.1 hno.2)
  have hmap : Set.MapsTo busy ((Finset.univ : Finset Timer) : Set Timer)
      (({pinBuzz, pinRelay} : Finset Pin) : Set Pin) := by
    intro t _
    simpa using hpins t
  have hcard := Finset.card_le_card_of_injOn busy hmap hinj.injOn
  exact absurd hcard (by decide)

/-- The library answers every call of a regular log as it is meant. -/
theorem execAll_pwmCalls {l : Log} (h : Regular l) :
    Shown l (bench l) ∧ (bench l).Even ∧
      ∃ d, execAll (pwmCalls l) .boot = .ok d ∧ Plays d (bench l) := by
  induction l with
  | nil =>
      have heven : (bench []).Even := even_boot.means (.pinMode pinRelay)
      exact ⟨shown_nil, heven, _, rfl, Plays.boot.pinMode pinRelay⟩
  | cons e l ih =>
      obtain ⟨hshown, heven, d, hexec, hplays⟩ := ih fun e' he' => h e' (List.mem_cons_of_mem e he')
      have he : e.event.regular := h e List.mem_cons_self
      have hsplit : execAll (pwmCalls (e :: l)) .boot =
          execAll e.event.pwmCall.toList d := by
        unfold execAll at hexec ⊢
        rw [pwmCalls_cons, List.foldlM_append, hexec, ok_bind]
      cases hcall : e.event.pwmCall with
      | none =>
          rw [bench_silent hcall, hsplit, hcall]
          exact ⟨shown_silent hcall e.time hshown, heven, d, rfl, hplays⟩
      | some call =>
          obtain ⟨horder, hnext⟩ := shown_call he hcall e.time hshown
          rw [bench_call hcall, hsplit, hcall]
          rcases hplays.exec heven horder with ⟨d', hd', hplays'⟩ | ⟨-, -, hcrowded⟩
          · refine ⟨hnext, heven.means call, d', ?_, hplays'⟩
            show (call.exec d >>= fun d => .ok d) = _
            rw [hd', ok_bind]
          · exact absurd hcrowded (not_crowded hshown _)

end Outputs

/-- What the calls made of the board support come to after the log `l`. -/
structure OutputsFollow (l : Log) (p : Pads) : Prop where
  sounding : toneOn l = true → ∃ c, p.Carries pinBuzz buzzWave c
  silent : toneOn l = false → p.route pinBuzz = none
  pouring : relay l ≠ 0 → ∃ c, p.Carries pinRelay relayWave c
  dry : relay l = 0 → p.route pinRelay = none
  /-- No other pin is led to a channel. -/
  others : ∀ q, q ≠ pinBuzz → q ≠ pinRelay → p.route q = none
  /-- The relay pin is an output, and no pin was last written high. -/
  output : p.isOutput pinRelay = true
  low : ∀ q, p.latch q ≠ some true

/-- **The outputs over whole runs**: handed to the PWM library, the calls of a run
never fail, and at every operation, for all surroundings, the calls it makes in
turn are those that the readings ask for on the two output pins. -/
theorem outputs_follow (env : Env) (n : Nat) :
    ∃ d, execAll (pwmCalls (run env n).log) .boot = .ok d ∧
      OutputsFollow (run env n).log d.pads := by
  obtain ⟨hshown, -, d, hexec, hplays⟩ := Outputs.execAll_pwmCalls (Outputs.run_regular env n)
  have hbuzz := hplays.follows pinBuzz
  have hrelay := hplays.follows pinRelay
  generalize (run env n).log = l at hshown hexec hplays hbuzz hrelay ⊢
  refine ⟨d, hexec, fun htone => ?_, fun htone => ?_, fun hon => ?_, fun hoff => ?_,
    fun q hq hq' => ?_, ?_, fun q => ?_⟩
  · exact hbuzz.sounding buzzWave (hshown.buzz.trans (if_pos htone))
  · refine hbuzz.silent (hshown.buzz.trans (if_neg ?_))
    rw [htone]
    exact Bool.false_ne_true
  · exact hrelay.sounding relayWave (hshown.relay.trans (if_neg hon))
  · exact hrelay.silent (hshown.relay.trans (if_pos hoff))
  · exact hplays.silent q (hshown.others q hq hq')
  · exact hrelay.isOutput.trans hshown.relayOutput
  · rw [hplays.latch]
    exact hshown.latch q

end SprinklersAlarmClock
