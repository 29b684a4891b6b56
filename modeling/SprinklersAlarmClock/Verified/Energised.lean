import SprinklersAlarmClock.Firmware.Outline
import SprinklersAlarmClock.Firmware.Readings
import Mathlib.Data.Set.Defs

/-!
# How long the relay stays on

The relay is on during at most 400 rounds of the first `for` loop and the first
poll of the second one.  A poll samples at most four buttons, but it also waits
for the release of an add button, and nothing bounds that wait.  So the number
of samples taken with the relay on is bounded exactly where the number of
consecutive high samples of an add button is (`energised_bounded_iff`); with a
button held down it is not bounded at all (`energised_unbounded`), because the
program does nothing but sample that button (`AwaitsRelease`).
-/

namespace SprinklersAlarmClock

open Logic SPIOStream

/-! ## Reading the log -/

/-- The add button whose release is awaited after `throw_return = t`. -/
def Throw.awaited : Throw → Option Button
  | .throwAddHour => some .btnAddHour
  | .throwAddMin => some .btnAddMinute
  | _ => none

/-- The number of samples since the relay was switched on; `none` while it is
off. -/
def onSamples : Log → Option Nat
  | [] => none
  | e :: older =>
      match e.event with
      | .analogWrite value =>
          if value = 0 then none else some ((onSamples older).getD 0)
      | .digitalRead _ _ => (onSamples older).map (· + 1)
      | _ => onSamples older

/-- The number of high samples of `b` in a row, with the relay on. -/
def held (b : Button) : Log → Nat
  | [] => 0
  | e :: older =>
      match e.event with
      | .analogWrite _ => 0
      | .digitalRead b' level =>
          if b' = b ∧ level = true ∧ (onSamples older).isSome = true then
            held b older + 1
          else 0
      | _ => held b older

/-- The button whose release is being awaited. -/
def waiting : Log → Option Button
  | [] => none
  | e :: older =>
      match e.event with
      | .mark (.throwSet thr) => thr.awaited
      | .digitalRead b true => if waiting older = some b then some b else none
      | _ => none

/-! ## The property and its condition -/

/-- At most `B` samples are taken while the relay is on. -/
def OnAtMost (B : Nat) (e : Entry) (older : Log) : Prop :=
  ∀ k ∈ onSamples (e :: older), k ≤ B

/-- With the relay on, no add button is sampled high more than `R` times in a
row. -/
def HeldAtMost (R : Nat) (e : Entry) (older : Log) : Prop :=
  ∀ b, Button.isAdd b = true → held b (e :: older) ≤ R

/-- While a release is awaited, nothing happens but samples of that button. -/
def AwaitsRelease (e : Entry) (older : Log) : Prop :=
  ∀ b ∈ waiting older, e.event.sampled? = some b

/-- A sample reads a level of the button at that time, and time does not run
backwards. -/
def Timely (env : Env) (e : Entry) (older : Log) : Prop :=
  (∀ b level, e.event = .digitalRead b level → ∃ i, env.level i e.time b = level) ∧
    ∀ e' ∈ older.head?, e'.time ≤ e.time

/-- High samples in a row are samples. -/
theorem held_le_onSamples (b : Button) (l : Log) : held b l ≤ (onSamples l).getD 0 := by
  induction l with
  | nil => simp [held]
  | cons e older ih =>
      obtain ⟨t, e⟩ := e
      cases e with
      | analogWrite value => simp [held]
      | digitalRead b' level =>
          simp only [held, onSamples]
          by_cases hon : (onSamples older).isSome = true
          · obtain ⟨k, hk⟩ := Option.isSome_iff_exists.mp hon
            rw [hk] at ih ⊢
            simp only [Option.getD_some, Option.map_some] at ih ⊢
            split <;> omega
          · rw [if_neg fun h => hon h.2.2]
            omega
      | _ => exact ih

namespace Energised

/-- The number of samples one poll takes at most. -/
def pollBound (R : Nat) : Nat := R + 4

/-- All rounds of the first loop, and one poll of the second. -/
def bound (R : Nat) : Nat := 401 * pollBound R

section Invariant

variable (R : Nat) (env : Env)

/-- What is shown of every log: times in order, waits that only a release ends,
and the bound. -/
def Goal : Safety := fun l t =>
  Always (Timely env) l ∧ (∀ e ∈ l.head?, e.time ≤ t) ∧ Always AwaitsRelease l ∧
    (Always (HeldAtMost R) l → Always (OnAtMost (bound R)) l)

/-- The relay is off (`p = none`), or at most `m` samples have been taken with
it on (`p = some m`). -/
def Fits (p : Option Nat) (l : Log) : Prop := ∀ k ∈ onSamples l, ∃ m ∈ p, k ≤ m

/-- No release is awaited and the samples are within `p`. -/
def Counted (p : Option Nat) : Assn := fun l _ _ =>
  waiting l = none ∧ (∀ m ∈ p, m ≤ bound R) ∧
    (Always (HeldAtMost R) l → Fits p l)

end Invariant

variable {R : Nat} {env : Env}

/-! ## One event -/

/-- An event keeps the safety property if it is a sample that happens, is
allowed while a release is awaited, and stays within the bound. -/
theorem goal_step {e : Event} {l : Log} {t t' : Nat} (ht : t ≤ t')
    (hJ : Goal R env l t)
    (hsample : ∀ b level, e = .digitalRead b level → ∃ i, env.level i t' b = level)
    (hawait : ∀ b ∈ waiting l, e.sampled? = some b)
    (hcount : Always (HeldAtMost R) (⟨t', e⟩ :: l) →
      ∀ k ∈ onSamples (⟨t', e⟩ :: l), k ≤ bound R) :
    Goal R env (⟨t', e⟩ :: l) t' := by
  obtain ⟨htimely, hhead, hawaits, honly⟩ := hJ
  refine ⟨⟨⟨hsample, ?_⟩, htimely⟩, ?_, ⟨hawait, hawaits⟩, ?_⟩
  · exact fun e' he' => Nat.le_trans (hhead e' he') ht
  · intro e' he'
    obtain rfl := Option.some.inj he'
    exact Nat.le_refl t'
  · exact fun hheld => ⟨hcount hheld, honly hheld.2⟩

/-- A sample of the button whose release is awaited, if one is. -/
theorem goal_sample {b : Button} {level : Bool} {i : Nat} {l : Log} {t t' : Nat}
    (ht : t ≤ t') (hlevel : env.level i t' b = level) (hJ : Goal R env l t)
    (hawait : ∀ b' ∈ waiting l, b' = b)
    (hcount : Always (HeldAtMost R) (⟨t', .digitalRead b level⟩ :: l) →
      ∀ k ∈ onSamples (⟨t', .digitalRead b level⟩ :: l), k ≤ bound R) :
    Goal R env (⟨t', .digitalRead b level⟩ :: l) t' := by
  apply goal_step ht hJ _ _ hcount
  · rintro b' level' ⟨⟩
    exact ⟨i, hlevel⟩
  · intro b' hb'
    rw [hawait b' hb']
    rfl

/-- Neither a sample, a write to the relay nor an assignment of `throw_return`. -/
def plain : Event → Bool
  | .digitalRead _ _ | .analogWrite _ | .mark (.throwSet _) => false
  | _ => true

section Plain

variable {e : Event} (h : plain e = true) (t : Nat) (l : Log)

include h

/-- A plain event is no sample. -/
theorem onSamples_plain : onSamples (⟨t, e⟩ :: l) = onSamples l := by
  cases e with
  | digitalRead _ _ => cases h
  | analogWrite _ => cases h
  | _ => rfl

/-- Nothing waits after it. -/
theorem waiting_plain : waiting (⟨t, e⟩ :: l) = none := by
  cases e with
  | digitalRead _ _ => cases h
  | mark p => cases p <;> first | rfl | cases h
  | _ => rfl

/-- It samples no button. -/
theorem sampled_plain : e.sampled? = none := by
  cases e with
  | digitalRead _ _ => cases h
  | _ => rfl

end Plain

/-- An event that is no sample counts for none. -/
theorem no_sample {e : Event} (h : e.sampled? = none) (t : Nat) :
    ∀ b level, e = .digitalRead b level → ∃ i, env.level i t b = level := by
  rintro b level rfl
  cases h

/-- Where nothing waits, everything may come next. -/
theorem no_wait {e : Event} {l : Log} (h : waiting l = none) :
    ∀ b ∈ waiting l, e.sampled? = some b := by
  intro b hb
  rw [h] at hb
  cases hb

/-- Nor has a wait to be ended. -/
theorem no_release {l : Log} (h : waiting l = none) (b : Button) :
    ∀ b' ∈ waiting l, b' = b := by
  intro b' hb'
  rw [h] at hb'
  cases hb'

/-- A wait goes on with one more high sample. -/
theorem still_held {l : Log} {b : Button} (h : waiting l = some b) :
    ∀ b' ∈ waiting l, b' = b := by
  intro b' hb'
  rw [h] at hb'
  exact (Option.some.inj hb').symm

/-- A count that fits is below its bound. -/
theorem fits_le {p : Option Nat} {l : Log} {B : Nat} (h : Fits p l)
    (hp : ∀ m ∈ p, m ≤ B) : ∀ k ∈ onSamples l, k ≤ B := by
  intro k hk
  obtain ⟨m, hm, hkm⟩ := h k hk
  exact Nat.le_trans hkm (hp m hm)

/-- Plain events leave the count as it is. -/
theorem counted_plain {e : Event} (h : plain e = true) (p : Option Nat) :
    Enters (Goal R env) (Counted R p) e (Counted R p) := by
  rintro l t t' v ht hJ ⟨hwait, hp, hfits⟩
  have hfits' : Always (HeldAtMost R) (⟨t', e⟩ :: l) → Fits p (⟨t', e⟩ :: l) := by
    intro hheld
    unfold Fits
    rw [onSamples_plain h]
    exact hfits hheld.2
  constructor
  · exact goal_step ht hJ (no_sample (sampled_plain h) t') (no_wait hwait)
      fun hheld => fits_le (hfits' hheld) hp
  · exact ⟨waiting_plain h t' l, hp, hfits'⟩

/-- A zero is written to the relay. -/
theorem counted_off (p : Option Nat) :
    Enters (Goal R env) (Counted R p) (.analogWrite 0) (Counted R none) := by
  rintro l t t' v ht hJ ⟨hwait, -, -⟩
  have hnone : onSamples (⟨t', .analogWrite 0⟩ :: l) = none := by simp [onSamples]
  have hfits : Fits none (⟨t', .analogWrite 0⟩ :: l) := by
    intro k hk
    rw [hnone] at hk
    cases hk
  constructor
  · exact goal_step ht hJ (no_sample rfl t') (no_wait hwait)
      fun _ => fits_le hfits fun m hm => by cases hm
  · exact ⟨rfl, fun m hm => (by cases hm), fun _ => hfits⟩

/-- The relay is switched on, or left on. -/
theorem counted_on {value : UInt16} (hvalue : value ≠ 0) (m : Nat) :
    Enters (Goal R env) (Counted R (some m)) (.analogWrite value)
      (Counted R (some m)) := by
  rintro l t t' v ht hJ ⟨hwait, hm, hfits⟩
  have hon : onSamples (⟨t', .analogWrite value⟩ :: l) =
      some ((onSamples l).getD 0) := by simp [onSamples, hvalue]
  have hfits' : Always (HeldAtMost R) (⟨t', .analogWrite value⟩ :: l) →
      Fits (some m) (⟨t', .analogWrite value⟩ :: l) := by
    intro hheld k hk
    rw [hon] at hk
    obtain rfl := Option.some.inj hk
    refine ⟨m, rfl, ?_⟩
    cases hl : onSamples l with
    | none => exact Nat.zero_le m
    | some k =>
        obtain ⟨m', hm', hk⟩ := hfits hheld.2 k hl
        obtain rfl := Option.some.inj hm'
        exact hk
  constructor
  · exact goal_step ht hJ (no_sample rfl t') (no_wait hwait)
      fun hheld => fits_le (hfits' hheld) hm
  · exact ⟨rfl, hm, hfits'⟩

/-- A larger count. -/
theorem counted_weaken {p p' : Option Nat} (hp' : ∀ m ∈ p', m ≤ bound R)
    (h : ∀ m ∈ p, ∃ m' ∈ p', m ≤ m') {l : Log} {t : Nat} {v : Vars}
    (hl : Counted R p l t v) : Counted R p' l t v := by
  refine ⟨hl.1, hp', fun hheld k hk => ?_⟩
  obtain ⟨m, hm, hkm⟩ := hl.2.2 hheld k hk
  obtain ⟨m', hm', hle⟩ := h m hm
  exact ⟨m', hm', Nat.le_trans hkm hle⟩

/-! ## Polling -/

/-- `d` more samples. -/
def more (d : Nat) (p : Option Nat) : Option Nat := p.map (· + d)

/-- Counts that have grown by `d`. -/
theorem mem_more {d m : Nat} {p : Option Nat} :
    m ∈ more d p ↔ ∃ m₀ ∈ p, m₀ + d = m :=
  Option.map_eq_some_iff

/-- A sample is counted. -/
theorem onSamples_sample {b : Button} {level : Bool} {t k : Nat} {l : Log} :
    k ∈ onSamples (⟨t, .digitalRead b level⟩ :: l) ↔ ∃ k₀ ∈ onSamples l, k₀ + 1 = k :=
  Option.map_eq_some_iff

/-- A sample counts one. -/
theorem fits_sample {p : Option Nat} {l : Log} (h : Fits p l) (b : Button)
    (level : Bool) (t : Nat) : Fits (more 1 p) (⟨t, .digitalRead b level⟩ :: l) := by
  intro k hk
  obtain ⟨k₀, hk₀, rfl⟩ := onSamples_sample.mp hk
  obtain ⟨m, hm, hle⟩ := h k₀ hk₀
  exact ⟨m + 1, mem_more.mpr ⟨m, hm, rfl⟩, by omega⟩

/-- A larger growth. -/
theorem fits_more {d d' : Nat} (h : d ≤ d') {p : Option Nat} {l : Log}
    (hl : Fits (more d p) l) : Fits (more d' p) l := by
  intro k hk
  obtain ⟨m, hm, hle⟩ := hl k hk
  obtain ⟨m₀, hm₀, rfl⟩ := mem_more.mp hm
  exact ⟨m₀ + d', mem_more.mpr ⟨m₀, hm₀, rfl⟩, by omega⟩

/-- All samples of the poll so far but those of `b` held down. -/
def Ran (p : Option Nat) (b : Button) (l : Log) : Prop :=
  ∀ k ∈ onSamples l, ∃ m ∈ p, k ≤ m + b.rank + held b l

/-- The samples of a wait are bounded by `R`. -/
theorem held_le (l : Log) (hheld : Always (HeldAtMost R) l) {b : Button}
    (hb : b.isAdd = true) : held b l ≤ R := by
  cases l with
  | nil => exact Nat.zero_le R
  | cons e older => exact hheld.1 b hb

/-- A poll samples three buttons before the last. -/
theorem rank_le (b : Button) : b.rank ≤ 3 := by cases b <;> decide

/-- What is known during a poll from `p`. -/
def pollPoints (R : Nat) (p : Option Nat) : PollPoints where
  Scan k := Counted R (more k p)
  High b := fun l _ _ => waiting l = none ∧
    (Always (HeldAtMost R) l → Fits (more (b.rank + 1) p) l ∧ Ran p b l)
  Held b := fun l _ _ => waiting l = some b ∧ (Always (HeldAtMost R) l → Ran p b l)
  Released _ := Counted R (more (pollBound R) p)

/-- A high sample is one more in a row. -/
theorem held_sample (b : Button) {k : Nat} {l : Log} (hk : k ∈ onSamples l) (t : Nat) :
    held b (⟨t, .digitalRead b true⟩ :: l) = held b l + 1 := by
  simp [held, Option.mem_def.mp hk]

/-- One more high sample of a button held down. -/
theorem ran_high {p : Option Nat} {b : Button} {l : Log} (h : Ran p b l) (t : Nat) :
    Ran p b (⟨t, .digitalRead b true⟩ :: l) := by
  intro k hk
  obtain ⟨k₀, hk₀, rfl⟩ := onSamples_sample.mp hk
  obtain ⟨m, hm, hle⟩ := h k₀ hk₀
  have hheld := held_sample b hk₀ t
  exact ⟨m, hm, by omega⟩

/-- The first high sample of a button, after those of the buttons before it. -/
theorem ran_first {p : Option Nat} {b : Button} {l : Log}
    (h : Fits (more b.rank p) l) (t : Nat) :
    Ran p b (⟨t, .digitalRead b true⟩ :: l) := by
  intro k hk
  obtain ⟨k₀, hk₀, rfl⟩ := onSamples_sample.mp hk
  obtain ⟨m, hm, hle⟩ := h k₀ hk₀
  obtain ⟨m₀, hm₀, rfl⟩ := mem_more.mp hm
  have hheld := held_sample b hk₀ t
  exact ⟨m₀, hm₀, by omega⟩

/-- The release, after at most `R` high samples. -/
theorem fits_release {p : Option Nat} {b : Button} {l : Log} (h : Ran p b l)
    (hle : held b l ≤ R) (t : Nat) :
    Fits (more (pollBound R) p) (⟨t, .digitalRead b false⟩ :: l) := by
  intro k hk
  obtain ⟨k₀, hk₀, rfl⟩ := onSamples_sample.mp hk
  obtain ⟨m, hm, hk₀m⟩ := h k₀ hk₀
  have hrank := rank_le b
  refine ⟨m + pollBound R, mem_more.mpr ⟨m, hm, rfl⟩, ?_⟩
  unfold pollBound
  omega

section Poll

variable {p : Option Nat} (hp : ∀ m ∈ p, m + pollBound R ≤ bound R)

include hp

/-- A poll ends below the bound. -/
theorem more_le {d : Nat} (hd : d ≤ pollBound R) : ∀ m ∈ more d p, m ≤ bound R := by
  intro m hm
  obtain ⟨m₀, hm₀, rfl⟩ := mem_more.mp hm
  have hm₀' := hp m₀ hm₀
  omega

/-- However long its wait was. -/
theorem ran_le {b : Button} (hb : b.isAdd = true) {l : Log}
    (h : Always (HeldAtMost R) l → Ran p b l) (hheld : Always (HeldAtMost R) l) :
    ∀ k ∈ onSamples l, k ≤ bound R := by
  intro k hk
  obtain ⟨m, hm, hle⟩ := h hheld k hk
  have hR := held_le l hheld hb
  have hrank := rank_le b
  have hbound := hp m hm
  unfold pollBound at hbound
  omega

/-- A button is found low. -/
theorem poll_low (b : Button) :
    Reads (Goal R env) env (Counted R (more b.rank p)) b false
      (Counted R (more (b.rank + 1) p)) := by
  rintro l t t' v i ht hlevel hJ ⟨hwait, -, hfits⟩
  have hrank := rank_le b
  have hp' : ∀ m ∈ more (b.rank + 1) p, m ≤ bound R :=
    more_le hp (by unfold pollBound; omega)
  have hfits' : Always (HeldAtMost R) (⟨t', .digitalRead b false⟩ :: l) →
      Fits (more (b.rank + 1) p) (⟨t', .digitalRead b false⟩ :: l) := by
    intro hheld
    have h := fits_sample (hfits hheld.2) b false t'
    rwa [more, more, Option.map_map] at h
  constructor
  · exact goal_sample ht hlevel hJ (no_release hwait b)
      fun hheld => fits_le (hfits' hheld) hp'
  · exact ⟨rfl, hp', hfits'⟩

/-- A button is found high. -/
theorem poll_high (b : Button) :
    Reads (Goal R env) env (Counted R (more b.rank p)) b true
      ((pollPoints R p).High b) := by
  rintro l t t' v i ht hlevel hJ ⟨hwait, -, hfits⟩
  have hrank := rank_le b
  have hp' : ∀ m ∈ more (b.rank + 1) p, m ≤ bound R :=
    more_le hp (by unfold pollBound; omega)
  have hfits' : Always (HeldAtMost R) (⟨t', .digitalRead b true⟩ :: l) →
      Fits (more (b.rank + 1) p) (⟨t', .digitalRead b true⟩ :: l) := by
    intro hheld
    have h := fits_sample (hfits hheld.2) b true t'
    rwa [more, more, Option.map_map] at h
  constructor
  · exact goal_sample ht hlevel hJ (no_release hwait b)
      fun hheld => fits_le (hfits' hheld) hp'
  · constructor
    · simp [waiting, hwait]
    · exact fun hheld => ⟨hfits' hheld, ran_first (hfits hheld.2) t'⟩

/-- A button that is not waited for ends the poll. -/
theorem poll_answer (b : Button) (hb : b.isAdd = false) :
    Marks (Goal R env) ((pollPoints R p).High b) (.throwSet b.throwOf)
      (Counted R (more (pollBound R) p)) := by
  rintro l t v hJ ⟨hwait, hcount⟩
  have hrank := rank_le b
  have hp' := more_le hp (Nat.le_refl (pollBound R))
  have hfits : Always (HeldAtMost R) (⟨t, .mark (.throwSet b.throwOf)⟩ :: l) →
      Fits (more (pollBound R) p) (⟨t, .mark (.throwSet b.throwOf)⟩ :: l) := by
    intro hheld
    exact fits_more (l := l) (by unfold pollBound; omega) (hcount hheld.2).1
  constructor
  · exact goal_step (Nat.le_refl t) hJ (no_sample rfl t) (no_wait hwait)
      fun hheld => fits_le (hfits hheld) hp'
  · refine ⟨?_, hp', hfits⟩
    cases b <;> first | rfl | cases hb

/-- After an add button its release is awaited. -/
theorem poll_press (b : Button) (hb : b.isAdd = true) :
    Marks (Goal R env) ((pollPoints R p).High b) (.throwSet b.throwOf)
      ((pollPoints R p).Held b) := by
  rintro l t v hJ ⟨hwait, hcount⟩
  have hran : Always (HeldAtMost R) (⟨t, .mark (.throwSet b.throwOf)⟩ :: l) →
      Ran p b (⟨t, .mark (.throwSet b.throwOf)⟩ :: l) :=
    fun hheld => (hcount hheld.2).2
  constructor
  · exact goal_step (Nat.le_refl t) hJ (no_sample rfl t) (no_wait hwait)
      (ran_le hp hb hran)
  · refine ⟨?_, hran⟩
    cases b <;> first | rfl | cases hb

/-- It is still high. -/
theorem poll_held (b : Button) (hb : b.isAdd = true) :
    Reads (Goal R env) env ((pollPoints R p).Held b) b true
      ((pollPoints R p).Held b) := by
  rintro l t t' v i ht hlevel hJ ⟨hwait, hcount⟩
  have hran : Always (HeldAtMost R) (⟨t', .digitalRead b true⟩ :: l) →
      Ran p b (⟨t', .digitalRead b true⟩ :: l) :=
    fun hheld => ran_high (hcount hheld.2) t'
  constructor
  · exact goal_sample ht hlevel hJ (still_held hwait) (ran_le hp hb hran)
  · exact ⟨by simp [waiting, hwait], hran⟩

/-- It is let go. -/
theorem poll_release (b : Button) (hb : b.isAdd = true) :
    Reads (Goal R env) env ((pollPoints R p).Held b) b false
      (Counted R (more (pollBound R) p)) := by
  rintro l t t' v i ht hlevel hJ ⟨hwait, hcount⟩
  have hp' := more_le hp (Nat.le_refl (pollBound R))
  have hfits : Always (HeldAtMost R) (⟨t', .digitalRead b false⟩ :: l) →
      Fits (more (pollBound R) p) (⟨t', .digitalRead b false⟩ :: l) :=
    fun hheld => fits_release (hcount hheld.2) (held_le l hheld.2 hb) t'
  constructor
  · exact goal_sample ht hlevel hJ (still_held hwait)
      fun hheld => fits_le (hfits hheld) hp'
  · exact ⟨rfl, hp', hfits⟩

/-- The parts of a poll. -/
theorem poll_outline (thr : Throw) :
    PollOutline (Goal R env) env thr (pollPoints R p) (Counted R p)
      (fun _ => Counted R (more (pollBound R) p)) where
  entry := by
    intro l t v _ hl
    have hzero : more 0 p = p := by simp [more]
    show Counted R (more 0 p) l t v
    rwa [hzero]
  low := poll_low hp
  passed := by
    intro l t v _ hl
    have hp' := more_le hp (Nat.le_refl (pollBound R))
    refine ⟨hl.1, hp', fun hheld => fits_more ?_ (hl.2.2 hheld)⟩
    unfold pollBound
    omega
  high := poll_high hp
  answer := poll_answer hp
  press := poll_press hp
  held := poll_held hp
  release := poll_release hp
  settle := fun _ _ => counted_plain rfl _

/-- A poll takes at most `pollBound R` samples. -/
theorem poll_counted (thr : Throw) :
    Safely (Goal R env) env (Counted R p) (runEditAlarmMode thr)
      fun _ => Counted R (more (pollBound R) p) :=
  (poll_outline hp thr).safely

end Poll

/-! ## With the relay off -/

/-- The relay is off and no release is awaited. -/
def Off (R : Nat) : Assn := Counted R none

/-- With the relay off, nothing is counted. -/
theorem off_poll (thr : Throw) :
    Safely (Goal R env) env (Off R) (runEditAlarmMode thr) fun _ => Off R :=
  poll_counted (p := none) (fun m hm => by cases hm) thr

/-- Whatever is done. -/
theorem off_frame (R : Nat) (env : Env) {α : Type} {S : Event → Bool}
    {V : Vars → Vars → Prop} {c : Sketch α} (hc : Footprint S V c)
    (hS : ∀ e, S e = true → plain e = true) :
    Safely (Goal R env) env (Off R) c fun _ => Off R :=
  Safely.frame env hc (fun e he => counted_plain (hS e he) none) fun _ _ _ _ _ _ h => h

/-- What a session makes of an answer is plain. -/
theorem plain_of_inApply (e : Event) (h : e.inApply = true) : plain e = true := by
  cases e with
  | mark p => cases p <;> first | rfl | cases h
  | _ => first | rfl | cases h

/-- A message is plain. -/
theorem plain_of_inNotify (e : Event) (h : e.inNotify = true) : plain e = true := by
  cases e with
  | mark p => cases p <;> first | rfl | cases h
  | _ => first | rfl | cases h

/-- So are the other parts of the sketch. -/
theorem plain_of_inBackground (e : Event) (h : e.inBackground = true) :
    plain e = true := by
  cases e with
  | mark p => cases p <;> first | rfl | cases h
  | _ => first | rfl | cases h

/-- The assertions along a session. -/
def session (R : Nat) : SessionPoints where
  Start := Off R
  Begun := Off R
  Loop _ := Off R
  Polled _ := Off R
  Ended := Off R
  Over := Off R

/-- The parts of a session. -/
theorem session_outline : SessionOutline (Goal R env) env (session R) where
  start := by
    rintro d l t v hJ ⟨hl, rfl⟩
    have h := counted_plain (e := .mark (.editStart v.date)) rfl none l t t v
      (Nat.le_refl t) hJ hl
    exact ⟨h.1, h.2, rfl⟩
  shown := fun d l t t' v ht hJ hl => counted_plain rfl none l t t' v ht hJ hl.1
  poll := fun _ _ => off_poll .idle
  apply := fun thr => off_frame R env (Footprint.applyThrow thr) plain_of_inApply
  finish := fun _ _ => (counted_plain rfl none).marks
  pause := (counted_plain rfl none).waits

/-- All that `ptIO` does. -/
theorem ptIO_off : Safely (Goal R env) env (Off R) ptIO fun _ => Off R := by
  have hread : ∀ level, Reads (Goal R env) env (Off R) .btnEditMode level (Off R) := by
    rintro level l t t' v i ht hlevel hJ ⟨hwait, hp, hfits⟩
    have hfits' : Always (HeldAtMost R) (⟨t', .digitalRead .btnEditMode level⟩ :: l) →
        Fits none (⟨t', .digitalRead .btnEditMode level⟩ :: l) :=
      fun hheld => fits_sample (hfits hheld.2) .btnEditMode level t'
    constructor
    · exact goal_sample ht hlevel hJ (no_release hwait .btnEditMode)
        fun hheld => fits_le (hfits' hheld) hp
    · refine ⟨?_, hp, hfits'⟩
      cases level <;> simp [waiting, hwait]
  exact session_outline.protothread (Off R) (Off R) (Off R) (fun _ _ _ h => h)
    (hread false) (hread true) (fun _ _ _ h => h) (counted_plain rfl none) fun _ _ _ _ h => h

/-! ## An alarm episode -/

/-- The count before a round of the first loop with `k` rounds left. -/
def soFar (R k : Nat) : Nat := (400 - k) * pollBound R

/-- The assertions along the first `for` loop. -/
def relayOn (R : Nat) : RelayPoints where
  Round k _ := fun l t v => k ≤ 400 ∧ Counted R (some (soFar R k)) l t v
  Polled k _ := fun l t v => k ≤ 400 ∧ Counted R (some (soFar R k)) l t v
  Written k _ := fun l t v => k ≤ 400 ∧ Counted R (some (soFar R k)) l t v
  Done _ := Counted R (some (soFar R 0))

/-- Along the second, the relay is off from its first round on. -/
def relayOff (R : Nat) : RelayPoints where
  Round k _ := fun l t v =>
    Counted R (some (soFar R 0)) l t v ∧ (k < 200 → Off R l t v)
  Polled _ _ := Counted R (some (bound R))
  Written _ _ := Off R
  Done _ := Off R

/-- The assertions along an episode. -/
def episode (R : Nat) : EpisodePoints where
  Start := Off R
  Begun := Off R
  Timed := Off R
  Test _ := Off R
  Head := Off R
  Polled _ := Off R
  Due _ := Off R
  on := relayOn R
  off := relayOff R
  Report _ := Off R
  Notify _ _ := Off R
  Leaving := Off R
  Lit := Off R
  Quiet := Off R
  Dry := Off R
  Over := Off R

/-- One round more. -/
theorem soFar_succ (R : Nat) {k : Nat} (hk : k + 1 ≤ 400) :
    soFar R (k + 1) + pollBound R = soFar R k := by
  have h : 400 - k = (400 - (k + 1)) + 1 := by omega
  unfold soFar
  rw [h, Nat.add_mul, Nat.one_mul]

/-- All rounds together stay below the bound. -/
theorem soFar_le (R k : Nat) : soFar R k + pollBound R ≤ bound R := by
  have h : (400 - k) * pollBound R ≤ 400 * pollBound R :=
    Nat.mul_le_mul_right _ (by omega)
  unfold soFar bound
  omega

/-- One poll of the alarm loop from a count of `m`. -/
theorem alarmPoll_counted (env : Env) (site : PollSite) (thr : Throw) {m : Nat}
    (hm : m + pollBound R ≤ bound R) :
    Safely (Goal R env) env (Counted R (some m)) (alarmPoll site thr)
      fun _ => Counted R (some (m + pollBound R)) := by
  have hp : ∀ m' ∈ some m, m' + pollBound R ≤ bound R := by
    intro m' hm'
    obtain rfl := Option.some.inj hm'
    exact hm
  exact Safely.alarmPoll (counted_plain rfl _).marks (poll_counted hp thr)

/-- A count, beside something else that is kept. -/
theorem counted_side {e : Event} (h : plain e = true) {q : Prop} (p : Option Nat) :
    Enters (Goal R env) (fun l t v => q ∧ Counted R p l t v) e
      (fun l t v => q ∧ Counted R p l t v) := by
  rintro l t t' v ht hJ ⟨hq, hl⟩
  have h' := counted_plain h p l t t' v ht hJ hl
  exact ⟨h'.1, hq, h'.2⟩

/-- The parts of the first `for` loop. -/
theorem relayOn_outline :
    RelayOutline (Goal R env) env .onLoop 140 (relayOn R) where
  poll := by
    intro k thr
    by_cases hk : k + 1 ≤ 400
    · have hpoll := alarmPoll_counted env .onLoop thr (soFar_le R (k + 1))
      rw [soFar_succ R hk] at hpoll
      exact hpoll.weaken (fun _ _ _ _ h => h.2) fun _ _ _ _ _ h => ⟨by omega, h⟩
    · exact Safely.of_false fun _ _ _ _ h => hk h.1
  write := by
    rintro k thr l t t' v ht hJ ⟨hk, hl⟩
    have hne : (140 : UInt16) ≠ 0 := by decide
    have h := counted_on hne (soFar R k) l t t' v ht hJ hl
    exact ⟨h.1, hk, h.2⟩
  next := fun k _ _ => counted_side rfl (some (soFar R k))
  stop := by
    rintro k thr - l t t' v ht hJ ⟨hk, hl⟩
    have h := counted_plain (e := .delay 10) rfl _ l t t' v ht hJ hl
    refine ⟨h.1, counted_weaken ?_ ?_ h.2⟩
    · intro m hm
      obtain rfl := Option.some.inj hm
      have hle := soFar_le R 0
      omega
    · intro m hm
      obtain rfl := Option.some.inj hm
      exact ⟨soFar R 0, rfl, Nat.mul_le_mul_right _ (by omega)⟩
  finish := fun _ _ _ _ _ h => h.2

/-- Whatever the count allows, a relay that is off stays within it. -/
theorem counted_of_off {m : Nat} (hm : m ≤ bound R) {l : Log} {t : Nat} {v : Vars}
    (h : Off R l t v) : Counted R (some m) l t v := by
  refine counted_weaken ?_ ?_ h
  · intro m' hm'
    obtain rfl := Option.some.inj hm'
    exact hm
  · intro m' hm'
    cases hm'

/-- The parts of the second. -/
theorem relayOff_outline :
    RelayOutline (Goal R env) env .offLoop 0 (relayOff R) where
  poll := by
    intro k thr
    have hpoll := alarmPoll_counted env .offLoop thr (soFar_le R 0)
    have hall : soFar R 0 + pollBound R = bound R := by
      unfold soFar bound
      omega
    rw [hall] at hpoll
    exact hpoll.weaken (fun _ _ _ _ h => h.1) fun _ _ _ _ _ h => h
  write := fun _ _ => counted_off _
  next := by
    intro k thr _ l t t' v ht hJ hl
    have h := counted_plain (e := .delay 10) rfl none l t t' v ht hJ hl
    have hle := soFar_le R 0
    exact ⟨h.1, counted_of_off (by omega) h.2, fun _ => h.2⟩
  stop := fun _ _ _ => counted_plain rfl none
  finish := fun _ _ _ _ _ h => h.2 (by omega)

/-- An elapsed-time test. -/
theorem measures_off (limit : UInt32) :
    Measures (Goal R env) (Off R) limit (Off R) (Off R) :=
  Measures.keep (fun _ => counted_plain rfl none) fun _ => counted_plain rfl none

/-- The parts of an episode. -/
theorem episode_outline : EpisodeOutline (Goal R env) env (episode R) where
  alarm := (counted_plain rfl none).marks
  clock := fun l t t' v ht hJ hl => counted_plain rfl none l t t' v ht hJ hl
  tone := counted_plain rfl none
  stay := fun _ _ => (counted_plain rfl none).marks
  leave := fun _ _ => (counted_plain rfl none).marks
  head := (Safely.mark (Q := fun _ => Off R) (counted_plain rfl none).marks).seq
    fun _ => off_poll .idle
  due := fun _ => measures_off 10000
  lit := by
    intro thr l t t' v ht hJ hl
    have h := counted_plain (e := .backlight) rfl none l t t' v ht hJ hl
    have hle := soFar_le R 400
    exact ⟨h.1, Nat.le_refl 400, counted_of_off (by omega) h.2⟩
  on := relayOn_outline
  dark := by
    intro thr l t t' v ht hJ hl
    have h := counted_plain (e := .noBacklight) rfl _ l t t' v ht hJ hl
    exact ⟨h.1, h.2, fun hlt => absurd hlt (by omega)⟩
  off := relayOff_outline
  poured := fun _ _ _ _ _ h => h
  report := fun _ => measures_off 20000
  notify := fun _ _ msg => off_frame R env (Footprint.sendLineMessage msg) plain_of_inNotify
  notified := fun _ _ _ _ _ h => h
  backlight := counted_plain rfl none
  noTone := counted_plain rfl none
  dry := counted_off none
  finish := (counted_plain rfl none).marks

/-- Every point of every run. -/
theorem run_goal (R : Nat) (env : Env) (n : Nat) :
    Goal R env (run env n).log (run env n).now := by
  have hboot : Off R [] 0 Vars.zero :=
    ⟨rfl, fun m hm => (by cases hm), fun _ k hk => by cases hk⟩
  have hgoal : Goal R env [] 0 :=
    ⟨trivial, fun e he => (by cases he), trivial, fun _ => trivial⟩
  have hrest : ∀ e, e.inBackground = true → Enters (Goal R env) (Off R) e (Off R) :=
    fun e he => counted_plain (plain_of_inBackground e he) none
  exact episode_outline.run_safely ptIO_off hrest (fun _ _ _ _ h => h)
    (fun _ _ _ _ h => h) (fun _ _ _ _ h => h) ⟨hgoal, hboot⟩ n

end Energised

/-- A bound on how long an add button is held bounds the samples taken with the
relay on. -/
theorem onAtMost_of_heldAtMost (R : Nat) (env : Env) (n : Nat)
    (h : Always (HeldAtMost R) (run env n).log) :
    Always (OnAtMost (Energised.bound R)) (run env n).log :=
  (Energised.run_goal R env n).2.2.2 h

/-- **What holds the sprinkler on.**  In any set of surroundings the number of
samples taken with the relay on is bounded if and only if the number of high
samples in a row of an add button is. -/
theorem energised_bounded_iff (W : Set Env) :
    (∃ B, ∀ env ∈ W, ∀ n, Always (OnAtMost B) (run env n).log) ↔
      ∃ R, ∀ env ∈ W, ∀ n, Always (HeldAtMost R) (run env n).log := by
  constructor
  · rintro ⟨B, hB⟩
    refine ⟨B, fun env henv n => (hB env henv n).imp fun e older hon b _ => ?_⟩
    have hle := held_le_onSamples b (e :: older)
    cases hk : onSamples (e :: older) with
    | none =>
        rw [hk] at hle
        exact Nat.le_trans hle (Nat.zero_le B)
    | some k =>
        rw [hk] at hle
        exact Nat.le_trans hle (hon k hk)
  · rintro ⟨R, hR⟩
    exact ⟨Energised.bound R, fun env henv n =>
      onAtMost_of_heldAtMost R env n (hR env henv n)⟩

/-! ## A button held for ever -/

namespace Energised

/-- Where the release of a button that stays down is awaited, the log grows by
its high samples only. -/
theorem only_samples {env : Env} {b : Button} {τ : Nat}
    (hdown : ∀ i t, τ ≤ t → env.level i t b = true) {l : Log}
    (hwait : waiting l = some b) (hhead : ∀ e ∈ l.head?, τ ≤ e.time) :
    ∀ newer : Log, Always AwaitsRelease (newer ++ l) → Always (Timely env) (newer ++ l) →
      waiting (newer ++ l) = some b ∧ (∀ e ∈ (newer ++ l).head?, τ ≤ e.time) ∧
        onSamples (newer ++ l) = (onSamples l).map (· + newer.length) := by
  intro newer
  induction newer with
  | nil =>
      intro _ _
      exact ⟨hwait, hhead, by simp⟩
  | cons e newer ih =>
      rw [List.cons_append]
      rintro ⟨hawait, hawaits⟩ ⟨⟨hsample, htime⟩, htimely⟩
      obtain ⟨hwait', hhead', hcount⟩ := ih hawaits htimely
      obtain ⟨t, e⟩ := e
      have hsampled : e.sampled? = some b := hawait b hwait'
      have hlater : τ ≤ t := by
        cases hl : newer ++ l with
        | nil =>
            rw [hl] at hwait'
            cases hwait'
        | cons e' older =>
            rw [hl] at hhead' htime
            exact Nat.le_trans (hhead' e' rfl) (htime e' rfl)
      cases e with
      | digitalRead b' level =>
          obtain rfl := Option.some.inj hsampled
          obtain ⟨i, hlevel⟩ := hsample b' level rfl
          obtain rfl : true = level := (hdown i t hlater).symm.trans hlevel
          refine ⟨by simp [waiting, hwait'], fun e' he' => ?_, ?_⟩
          · obtain rfl := Option.some.inj he'
            exact hlater
          · show (onSamples (newer ++ l)).map (· + 1) = _
            rw [hcount, Option.map_map]
            rfl
      | _ => cases hsampled

/-- A button that is waited for has not stopped the processor. -/
theorem not_faulted {w : World} {b : Button} (h : waiting w.log = some b) :
    ¬ Faulted w := by
  rintro ⟨t, older, hlog⟩
  rw [hlog] at h
  cases h

end Energised

/-- Once the release of a button that stays down is awaited, every further
operation of the run is a sample of it. -/
theorem held_for_ever {env : Env} {b : Button} {τ : Nat}
    (hdown : ∀ i t, τ ≤ t → env.level i t b = true) {n : Nat}
    (hwait : waiting (run env n).log = some b)
    (hhead : ∀ e ∈ (run env n).log.head?, τ ≤ e.time) (k : Nat) :
    ∃ m, k ≤ m ∧ onSamples (run env (n + k)).log =
      (onSamples (run env n).log).map (· + m) := by
  obtain ⟨newer, hlog, htick⟩ := run_extends env n k
  obtain ⟨htimely, -, hawaits, -⟩ := Energised.run_goal 0 env (n + k)
  rw [hlog] at htimely hawaits
  obtain ⟨hwait', -, hcount⟩ :=
    Energised.only_samples hdown hwait hhead newer hawaits htimely
  rw [← hlog] at hwait' hcount
  have htickNow := (run_tick env n).resolve_right (Energised.not_faulted hwait)
  have htickLater :=
    (run_tick env (n + k)).resolve_right (Energised.not_faulted hwait')
  exact ⟨newer.length, by omega, hcount⟩

/-- The alarm rings for 10 s; then the hour button is held down for good, from
the second round of the first `for` loop on. -/
def hourHeld : Env :=
  { Env.pending with
    elapse := fun i => if i = 28 then 10000 else 0
    level := fun _ t b => b = .btnAddHour && 10010 ≤ t }

/-- No constant bounds the samples taken with the relay on. -/
theorem energised_unbounded :
    ¬ ∃ B, ∀ env : Env, ∀ n, Always (OnAtMost B) (run env n).log := by
  rintro ⟨B, hB⟩
  have hwait : waiting (run hourHeld 38).log = some .btnAddHour := by decide +kernel
  have hhead : ∀ e ∈ (run hourHeld 38).log.head?, 10010 ≤ e.time := by decide +kernel
  have hon : onSamples (run hourHeld 38).log = some 2 := by decide +kernel
  have hdown : ∀ i t, 10010 ≤ t → hourHeld.level i t .btnAddHour = true := by
    intro _ t ht
    simp [hourHeld, ht]
  obtain ⟨m, hm, hcount⟩ := held_for_ever hdown hwait hhead B
  rw [hon] at hcount
  have hall := hB hourHeld (38 + B)
  cases hl : (run hourHeld (38 + B)).log with
  | nil =>
      rw [hl] at hcount
      cases hcount
  | cons e older =>
      rw [hl] at hall hcount
      have hle := hall.1 (2 + m) hcount
      omega

end SprinklersAlarmClock
