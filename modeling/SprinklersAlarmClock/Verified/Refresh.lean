import SprinklersAlarmClock.Firmware.Outline
import SprinklersAlarmClock.Firmware.Readings
import Mathlib.Algebra.Group.Nat.Defs

/-!
# The once-a-second refresh

`ptUIDisplay` waits for `millis() >= lastTime + 1000`.  Both sides are 32-bit
numbers, and the sum wraps before the counter does: with `lastTime` stored at
true time `L` and the gate evaluated at `T`, the comparison says whether
`T - L >= 1000` exactly when the sum and the counter have both wrapped or both
not (`gate_right_iff`).  The reading and the redrawing follow the gate, whatever
it says (`GateObeyed`).
-/

namespace SprinklersAlarmClock

open Logic

/-! ## Reading the gate -/

namespace Event

/-- What the wait condition of `ptUIDisplay` came out as. -/
def gate? : Event → Option Bool
  | .mark (.uiGate fired) => some fired
  | _ => none

/-- The time registers are read. -/
def readsClock : Event → Bool
  | .readTime _ => true
  | _ => false

/-- A screen is sent to the display. -/
def draws : Event → Bool
  | .lcd _ => true
  | _ => false

/-- The events of `ptUIDisplay` above its wait. -/
def inRefresh : Event → Bool
  | .readTime _ | .lcd _ | .millis _ => true
  | .mark .enterDS3231 | .mark .leaveDS3231 => true
  | .mark (.updatedData _) | .mark .uiStored => true
  | _ => false

end Event

/-- True time at which `lastTime` was stored. -/
def lastStored (l : Log) : Option Nat :=
  latest (fun e => match e.event with
    | .mark .uiStored => some e.time
    | _ => none) l

/-- How the gate was found last. -/
def lastGate (l : Log) : Option Bool := latest (fun e => e.event.gate?) l

/-- The entries since the gate was last evaluated. -/
def sinceGate (l : Log) : Log := since (fun e => e.event.gate?.isSome) l

/-- The clock has been read and the LCD redrawn. -/
def redrawn (l : Log) : Bool :=
  l.any (fun e => e.event.readsClock) && l.any (fun e => e.event.draws)

/-! ## The property and its condition -/

/-- The gate is open exactly when 1000 ms have passed since `lastTime` was
stored. -/
def GateRight (e : Entry) (older : Log) : Prop :=
  ∀ fired ∈ e.event.gate?, ∀ L ∈ lastStored older, e.time - L < 2 ^ 32 →
    (fired = true ↔ 1000 ≤ e.time - L)

/-- The clock is read only behind an open gate (or for the first time), and
behind an open gate it is read and the LCD redrawn before anything else
happens. -/
def GateObeyed (e : Entry) (older : Log) : Prop :=
  (e.event.readsClock = true → lastGate older ≠ some false) ∧
  (lastGate older = some true → e.event.inRefresh = false →
    redrawn (sinceGate older) = true)

/-- A call refreshes the display if and only if 1000 ms have passed. -/
def RefreshesOnTime (e : Entry) (older : Log) : Prop :=
  GateRight e older ∧ GateObeyed e older

instance (e : Entry) (older : Log) : Decidable (GateRight e older) :=
  @Option.decidableForallMem _ _ (fun _ => Option.decidableForallMem _) _

instance (e : Entry) (older : Log) : Decidable (GateObeyed e older) :=
  inferInstanceAs (Decidable ((_ → _ ≠ _) ∧ (_ → _ → _)))

instance (e : Entry) (older : Log) : Decidable (RefreshesOnTime e older) :=
  inferInstanceAs (Decidable (_ ∧ _))

/-- At every evaluation of the gate, `lastTime + 1000` and the counter have both
wrapped since `lastTime` was stored, or both not. -/
def WrapsTogether (e : Entry) (older : Log) : Prop :=
  ∀ _fired ∈ e.event.gate?, ∀ L ∈ lastStored older, e.time - L < 2 ^ 32 →
    (L % 2 ^ 32 + 1000 < 2 ^ 32 ↔ L % 2 ^ 32 + (e.time - L) < 2 ^ 32)

/-! ## The comparison -/

/-- The comparison of the code, in numbers that do not wrap. -/
theorem gate_toNat (L T : Nat) :
    UInt32.ofNat L + 1000 ≤ UInt32.ofNat T ↔
      (L % 2 ^ 32 + 1000) % 2 ^ 32 ≤ T % 2 ^ 32 := by
  rw [UInt32.le_iff_toNat_le, UInt32.toNat_add, UInt32.toNat_ofNat',
    UInt32.toNat_ofNat']
  rfl

/-- The wrapped sum against the counter. -/
theorem gate_right_iff {L T : Nat} (hle : L ≤ T) (hlt : T - L < 2 ^ 32) :
    (UInt32.ofNat L + 1000 ≤ UInt32.ofNat T ↔ 1000 ≤ T - L) ↔
      (L % 2 ^ 32 + 1000 < 2 ^ 32 ↔ L % 2 ^ 32 + (T - L) < 2 ^ 32) := by
  rw [gate_toNat]
  obtain ⟨d, rfl⟩ := Nat.exists_eq_add_of_le hle
  rw [Nat.add_sub_cancel_left] at hlt ⊢
  have hmod : (L + d) % 2 ^ 32 = (L % 2 ^ 32 + d) % 2 ^ 32 := by
    rw [Nat.mod_add_mod]
  rw [hmod]
  have hL : L % 2 ^ 32 < 2 ^ 32 := Nat.mod_lt _ (by decide)
  generalize L % 2 ^ 32 = r at hL ⊢
  by_cases hsum : r + 1000 < 2 ^ 32
  · rw [Nat.mod_eq_of_lt hsum]
    by_cases hcount : r + d < 2 ^ 32
    · rw [Nat.mod_eq_of_lt hcount]
      omega
    · rw [Nat.mod_eq_sub_mod (Nat.le_of_not_lt hcount),
        Nat.mod_eq_of_lt (by omega)]
      omega
  · rw [Nat.mod_eq_sub_mod (Nat.le_of_not_lt hsum), Nat.mod_eq_of_lt (by omega)]
    by_cases hcount : r + d < 2 ^ 32
    · rw [Nat.mod_eq_of_lt hcount]
      omega
    · rw [Nat.mod_eq_sub_mod (Nat.le_of_not_lt hcount),
        Nat.mod_eq_of_lt (by omega)]
      omega

/-! ## What every run does -/

/-- The gate compares the counter with the wrapped sum, and is obeyed. -/
def GateOk (e : Entry) (older : Log) : Prop :=
  (∀ fired ∈ e.event.gate?, ∀ L ∈ lastStored older, L ≤ e.time ∧
    fired = decide (UInt32.ofNat L + 1000 ≤ UInt32.ofNat e.time)) ∧
  GateObeyed e older

/-- On entries that a run makes, the property and its condition agree. -/
theorem GateOk.onTime_iff {e : Entry} {older : Log} (h : GateOk e older) :
    RefreshesOnTime e older ↔ WrapsTogether e older := by
  unfold RefreshesOnTime
  rw [and_iff_left h.2]
  refine forall_congr' fun fired => forall_congr' fun hfired =>
    forall_congr' fun L => forall_congr' fun hL => forall_congr' fun hlt => ?_
  obtain ⟨hle, hvalue⟩ := h.1 fired hfired L hL
  rw [hvalue, decide_eq_true_iff]
  exact gate_right_iff hle hlt

namespace Refresh

/-- Every entry of the log is fine. -/
def Goal : Safety := fun l _ => Always GateOk l

/-! ## The invariant -/

/-- An open gate has been followed by its refresh. -/
def Settled (l : Log) : Prop :=
  lastGate l = some true → redrawn (sinceGate l) = true

/-- Waiting behind the gate: `lastTime` is the time of the last refresh. -/
def Waiting : Assn := fun l t v =>
  v.ptUi = true ∧ Settled l ∧
    ∃ L, lastStored l = some L ∧ v.uiLastTime = UInt32.ofNat L ∧ L ≤ t

/-- The gate has never been evaluated. -/
def Fresh : Assn := fun l _ v => v.ptUi = false ∧ lastGate l = none

/-- Where `loop()` is entered. -/
def Entry : Assn := fun l t v => Waiting l t v ∨ Fresh l t v

/-- The events the gate's history is read from. -/
def tells : Event → Bool
  | .mark (.uiGate _) | .mark .uiStored | .readTime _ => true
  | _ => false

section Silent

variable {e : Event} (h : tells e = false) (t : Nat) (l : Log)

include h

/-- Silent events are no evaluations of the gate. -/
theorem gate?_silent : e.gate? = none := by
  cases e with
  | mark p => cases p <;> first | rfl | cases h
  | _ => rfl

/-- They leave the last one as it is. -/
theorem lastGate_silent : lastGate (⟨t, e⟩ :: l) = lastGate l := by
  unfold lastGate
  rw [latest_cons, gate?_silent h, Option.none_or]

/-- They store no time. -/
theorem lastStored_silent : lastStored (⟨t, e⟩ :: l) = lastStored l := by
  cases e with
  | mark p => cases p <;> first | rfl | cases h
  | _ => rfl

/-- They come after the last evaluation. -/
theorem sinceGate_silent : sinceGate (⟨t, e⟩ :: l) = ⟨t, e⟩ :: sinceGate l := by
  unfold sinceGate
  rw [since_cons, gate?_silent h]
  rfl

end Silent

/-- What has been redrawn stays redrawn until the next evaluation. -/
theorem redrawn_cons {l : Log} (h : redrawn l = true) (e : SprinklersAlarmClock.Entry) :
    redrawn (e :: l) = true := by
  unfold redrawn at h ⊢
  rw [Bool.and_eq_true] at h
  simp only [List.any_cons, h.1, h.2, Bool.or_true, Bool.and_self]

/-- They leave the display settled. -/
theorem settled_silent {e : Event} (h : tells e = false) {t : Nat} {l : Log}
    (hl : Settled l) : Settled (⟨t, e⟩ :: l) := by
  unfold Settled
  rw [lastGate_silent h, sinceGate_silent h]
  exact fun hgate => redrawn_cons (hl hgate) _

/-- An entry the gate has nothing to do with, where the gate has been obeyed. -/
theorem ok_silent {e : Event} (h : tells e = false) {t : Nat} {l : Log}
    (hl : Settled l) : GateOk ⟨t, e⟩ l := by
  refine ⟨fun fired hfired => ?_, fun hread => ?_, fun hgate _ => hl hgate⟩
  · rw [gate?_silent h] at hfired
    cases hfired
  · cases e with
    | readTime _ => cases h
    | _ => cases hread

/-- Events of a refresh are always in order, but for the reading itself. -/
theorem ok_refresh {e : Event} (h : e.inRefresh = true)
    (hread : e.readsClock = false) (t : Nat) (l : Log) : GateOk ⟨t, e⟩ l := by
  refine ⟨fun fired hfired => ?_, fun hr => ?_, fun _ hn => ?_⟩
  · cases e with
    | mark p =>
        cases p with
        | uiGate _ => cases h
        | _ => cases hfired
    | _ => cases hfired
  · rw [hread] at hr
    cases hr
  · rw [h] at hn
    cases hn

/-- A wait goes on. -/
theorem waiting_silent {e : Event} (h : tells e = false) :
    Enters Goal Waiting e Waiting := by
  rintro l t t' v ht hJ ⟨hlc, hset, L, hL, hv, hLt⟩
  refine ⟨⟨ok_silent h hset, hJ⟩, hlc, settled_silent h hset, L, ?_, hv, by omega⟩
  rw [lastStored_silent h, hL]

/-- They leave a time just stored. -/
theorem fresh_silent {e : Event} (h : tells e = false) :
    Enters Goal Fresh e Fresh := by
  rintro l t t' v - hJ ⟨hlc, hgate⟩
  have hset : Settled l := fun h => by rw [hgate] at h; cases h
  refine ⟨⟨ok_silent h hset, hJ⟩, hlc, ?_⟩
  rw [lastGate_silent h, hgate]

/-! ## `ptUIDisplay` -/

/-- In the body: behind an open gate, or there for the first time. -/
def Top : Assn := fun l _ _ => lastGate l ≠ some false

/-- The clock has been read. -/
def Read : Assn := fun l _ _ =>
  lastGate l ≠ some false ∧
    (sinceGate l).any (fun e => e.event.readsClock) = true

/-- The assertions along `ptUIDisplay`. -/
def points : UiPoints where
  Top := Top
  Entered := Top
  Read := fun _ => Read
  Left := fun _ => Read
  Updated := fun _ => Read
  Shown := fun l _ _ => lastGate l ≠ some false ∧ redrawn (sinceGate l) = true
  Wait := Waiting
  Idle := Waiting

/-- Between an open gate and the redraw. -/
theorem read_silent {e : Event} (h : tells e = false) (hin : e.inRefresh = true)
    (hread : e.readsClock = false) : Enters Goal Read e Read := by
  rintro l t t' v - hJ ⟨hgate, hany⟩
  refine ⟨⟨ok_refresh hin hread t' l, hJ⟩, ?_, ?_⟩
  · rw [lastGate_silent h]
    exact hgate
  · rw [sinceGate_silent h, List.any_cons, hany, Bool.or_true]

/-- The gate's own entry. -/
theorem ok_gate {l : Log} {t : Nat} {v : Vars} (h : Waiting l t v) (fired : Bool)
    (hfired : fired = decide (v.uiLastTime + 1000 ≤ UInt32.ofNat t)) :
    GateOk ⟨t, .mark (.uiGate fired)⟩ l := by
  obtain ⟨-, hset, L, hL, hv, hLt⟩ := h
  refine ⟨?_, (fun hread => by cases hread), fun hgate _ => hset hgate⟩
  intro fired' hfired' L' hL'
  obtain rfl : fired = fired' := Option.some.inj hfired'
  obtain rfl : L = L' := Option.some.inj (hL.symm.trans hL')
  exact ⟨hLt, by rw [hfired, hv]⟩

/-- The parts of `ptUIDisplay`. -/
theorem ui_outline (env : Env) : UiOutline Goal env points where
  enter := fun l t v hJ h => ⟨⟨ok_refresh rfl rfl t l, hJ⟩, h⟩
  read := by
    intro i l t t' v _ hJ h
    have hok : GateOk ⟨t', .readTime (env.clock i)⟩ l :=
      ⟨(fun _ hf => by cases hf), fun _ => h, fun _ hn => by cases hn⟩
    exact ⟨⟨hok, hJ⟩, h, rfl⟩
  left := fun _ => (read_silent rfl rfl rfl).marks
  updated := fun d l t v hJ h =>
    read_silent (e := .mark (.updatedData d)) rfl rfl rfl l t t v (Nat.le_refl t) hJ h
  shown := by
    rintro d l t t' v - hJ ⟨⟨hgate, hany⟩, -⟩
    refine ⟨⟨ok_refresh rfl rfl t' l, hJ⟩, hgate, ?_⟩
    show (_ && _) = true
    rw [sinceGate_silent rfl, List.any_cons, hany, Bool.or_true]
    rfl
  stored := by
    rintro l t t' v - hJ ⟨hgate, hredrawn⟩
    have hmillis : GateOk ⟨t', .millis (UInt32.ofNat t')⟩ l := ok_refresh rfl rfl t' l
    refine ⟨⟨hmillis, hJ⟩, ⟨ok_refresh rfl rfl t' _, hmillis, hJ⟩, rfl, ?_, t', rfl,
      rfl, Nat.le_refl t'⟩
    exact fun _ => redrawn_cons (redrawn_cons hredrawn _) _
  gate := by
    intro l t t' v ht hJ h
    have hmillis := waiting_silent (e := .millis (UInt32.ofNat t')) rfl l t t' v ht hJ h
    refine ⟨hmillis.1, fun hdue => ?_, fun hdue => ?_⟩
    · have hok := ok_gate hmillis.2 true (decide_eq_true hdue).symm
      exact ⟨⟨hok, hmillis.1⟩, fun hgate => by cases hgate⟩
    · have hok := ok_gate hmillis.2 false (decide_eq_false hdue).symm
      obtain ⟨hlc, -, hL⟩ := hmillis.2
      exact ⟨⟨hok, hmillis.1⟩, hlc, fun hgate => (by cases hgate), hL⟩
  lc := fun _ _ _ h => ⟨rfl, h.2⟩

/-! ## The other parts of the sketch -/

/-- `setup()` does not evaluate the gate. -/
theorem tells_of_inSetup (e : Event) (h : e.inSetup = true) : tells e = false := by
  cases e with
  | mark p => cases p <;> first | rfl | cases h
  | _ => first | rfl | cases h

/-- Nor does `ptIO`. -/
theorem tells_of_inIo (e : Event) (h : e.inIo = true) : tells e = false := by
  cases e with
  | mark p => cases p <;> first | rfl | cases h
  | _ => first | rfl | cases h

/-- Nor does `ptSprinklers`. -/
theorem tells_of_inSprinklers (e : Event) (h : e.inSprinklers = true) :
    tells e = false := by
  cases e with
  | mark p => cases p <;> first | rfl | cases h
  | _ => first | rfl | cases h

/-- Variables that leave the gate alone. -/
theorem waiting_vars {l : Log} {t : Nat} {v v' : Vars} (hlc : v'.ptUi = v.ptUi)
    (hlast : v'.uiLastTime = v.uiLastTime) (h : Waiting l t v) :
    Waiting l t v' := by
  obtain ⟨hui, hset, L, hL, hv, hLt⟩ := h
  exact ⟨hlc.trans hui, hset, L, hL, hlast.trans hv, hLt⟩

end Refresh

/-- Every run evaluates the gate on the wrapped sum and obeys it. -/
theorem gates_ok (env : Env) (n : Nat) : Always GateOk (run env n).log := by
  open Refresh in
  have hsetup := Safely.frame (J := Goal) (K := Fresh) env
    Footprint.setup (fun e he => fresh_silent (tells_of_inSetup e he))
    fun _ _ _ _ hv _ h => ⟨hv.2 h.1, h.2⟩
  have hUi := (ui_outline env).safely (K := Refresh.Entry) fun l t v _ h => by
    rcases h with hwait | hfresh
    · rw [if_pos hwait.1]
      exact hwait
    · rw [if_neg (by rw [hfresh.1]; decide)]
      show lastGate l ≠ some false
      rw [hfresh.2]
      exact fun h => by cases h
  have hIo := Safely.frame (J := Goal) (K := Waiting) env
    Footprint.ptIO (fun e he => waiting_silent (tells_of_inIo e he))
    fun _ _ _ _ hv _ h => waiting_vars hv.1 hv.2.1 h
  have hSprinklers := Safely.frame (J := Goal) (K := Waiting) env
    Footprint.ptSprinklers
    (fun e he => waiting_silent (tells_of_inSprinklers e he))
    fun _ _ _ _ hv _ h => waiting_vars hv.1 hv.2.1 h
  exact run_safely
    (hsetup.weaken (fun _ _ _ _ h => h) fun _ _ _ _ _ h => Or.inr h) hUi hIo
    (hSprinklers.weaken (fun _ _ _ _ h => h) fun _ _ _ _ _ h => Or.inl h)
    ⟨trivial, rfl, rfl⟩ n

/-- **When the refresh keeps time.**  In every run, every call refreshes the
display if and only if 1000 ms have passed, precisely if at every evaluation of
the gate the sum and the counter have wrapped together. -/
theorem refreshes_on_time_iff (env : Env) (n : Nat) :
    Always RefreshesOnTime (run env n).log ↔ Always WrapsTogether (run env n).log :=
  Always.iff_of (fun _ _ => GateOk.onTime_iff) (gates_ok env n)

/-- The first refresh is stored 500 ms before the counter wraps, and the gate is
evaluated at once. -/
def nearWrap : Env :=
  { Env.quiet with elapse := fun i => if i = 0 then 2 ^ 32 - 500 else 0 }

/-- The sum has wrapped to 500 and the counter has not: the gate is open although
no time has passed. -/
theorem refreshes_early : ¬ Always RefreshesOnTime (run nearWrap 18).log := by
  decide +kernel

end SprinklersAlarmClock
