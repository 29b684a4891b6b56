import SprinklersAlarmClock.Firmware.Outline
import SprinklersAlarmClock.Firmware.Readings
import Mathlib.Data.List.Pairwise
import Mathlib.Data.List.Perm.Subperm

/-!
# A held add button counts once

Every sample of an add button is taken by `runEditAlarmMode`, which does not
return before it has sampled the button low again.  A maximal run of high
samples therefore lies within one poll: if that is a poll of the edit loop, the
run makes at most one call, and if it is a poll of an alarm episode it makes
none (`held_counts_once`).  Nothing is assumed of the levels.
-/

namespace SprinklersAlarmClock

open Logic

/-! ## Reading the log -/

namespace Event

/-- The level this event reads from `b`. -/
def level? (b : Button) : Event → Option Bool
  | .digitalRead b' level => if b' = b then some level else none
  | _ => none

/-- The button behind this call on `date`. -/
def adds? : Event → Option Button
  | .mark .addHour => some .btnAddHour
  | .mark .addMinute => some .btnAddMinute
  | _ => none

end Event

/-- The levels `digitalRead(b)` has returned. -/
def levels (b : Button) (l : Log) : List Bool := l.filterMap fun e => e.event.level? b

/-- The number of maximal runs of high samples of `b`.  They are numbered from
1 in the order in which they begin. -/
def pressRuns (b : Button) (l : Log) : Nat := highRuns (levels b l)

/-- `e` is the first high sample of a maximal run. -/
def beginsRun (b : Button) (e : Entry) (older : Log) : Bool :=
  e.event.level? b == some true && (levels b older).head? != some true

/-- The number of calls the button stands behind. -/
def adds (b : Button) (l : Log) : Nat := l.countP fun e => e.event.adds? == some b

/-- For every such call, the number of the run it comes from: the last one that
began before it. -/
def callRuns (b : Button) : Log → List Nat
  | [] => []
  | e :: older =>
      if e.event.adds? = some b then pressRuns b older :: callRuns b older
      else callRuns b older

/-- The numbers of the runs that began inside an alarm episode. -/
def alarmRuns (b : Button) : Log → List Nat
  | [] => []
  | e :: older =>
      if beginsRun b e older = true ∧ (trigger older).isSome = true then
        (pressRuns b older + 1) :: alarmRuns b older
      else alarmRuns b older

/-! ## The property -/

/-- No run makes two calls, and none that began inside an alarm episode makes
one. -/
structure HeldOnce (b : Button) (l : Log) : Prop where
  count : adds b l ≤ pressRuns b l
  once : (callRuns b l).Pairwise (· > ·)
  alarm : ∀ k ∈ alarmRuns b l, k ∉ callRuns b l

namespace HeldButton

/-! ## Runs and calls of any log -/

/-- The runs of high samples, one more entry at a time. -/
theorem pressRuns_cons (b : Button) (e : Entry) (l : Log) :
    pressRuns b (e :: l) = pressRuns b l + if beginsRun b e l = true then 1 else 0 := by
  unfold pressRuns levels beginsRun
  rw [List.filterMap_cons]
  cases hlevel : e.event.level? b with
  | none => rfl
  | some level =>
      rw [highRuns_cons]
      simp [levels]

/-- They do not get fewer. -/
theorem pressRuns_le_cons (b : Button) (e : Entry) (l : Log) :
    pressRuns b l ≤ pressRuns b (e :: l) := by
  rw [pressRuns_cons]
  exact Nat.le_add_right _ _

/-- A call belongs to a run that has begun. -/
theorem callRuns_le (b : Button) (l : Log) :
    ∀ k ∈ callRuns b l, k ≤ pressRuns b l := by
  induction l with
  | nil => simp [callRuns]
  | cons e l ih =>
      intro k hk
      have hmono := pressRuns_le_cons b e l
      unfold callRuns at hk
      by_cases hadd : e.event.adds? = some b
      · rw [if_pos hadd] at hk
        rcases List.mem_cons.mp hk with rfl | hold
        · exact hmono
        · exact Nat.le_trans (ih k hold) hmono
      · rw [if_neg hadd] at hk
        exact Nat.le_trans (ih k hk) hmono

/-- So does a run that began in an episode. -/
theorem alarmRuns_le (b : Button) (l : Log) :
    ∀ k ∈ alarmRuns b l, k ≤ pressRuns b l := by
  induction l with
  | nil => simp [alarmRuns]
  | cons e l ih =>
      intro k hk
      have hmono := pressRuns_le_cons b e l
      unfold alarmRuns at hk
      by_cases hin : beginsRun b e l = true ∧ (trigger l).isSome = true
      · rw [if_pos hin] at hk
        rcases List.mem_cons.mp hk with rfl | hold
        · rw [pressRuns_cons, if_pos hin.1]
        · exact Nat.le_trans (ih k hold) hmono
      · rw [if_neg hin] at hk
        exact Nat.le_trans (ih k hk) hmono

/-- There are as many sources as calls. -/
theorem length_callRuns (b : Button) (l : Log) :
    (callRuns b l).length = adds b l := by
  induction l with
  | nil => rfl
  | cons e l ih =>
      unfold adds at ih ⊢
      unfold callRuns
      rw [List.countP_cons]
      by_cases hadd : e.event.adds? = some b
      · rw [if_pos hadd, List.length_cons, ih, if_pos (beq_iff_eq.mpr hadd)]
      · rw [if_neg hadd, ih, if_neg (mt beq_iff_eq.mp hadd)]
        rfl

/-- Calls of different runs are no more than the runs. -/
theorem adds_le {b : Button} {l : Log} (honce : (callRuns b l).Pairwise (· > ·))
    (hpos : ∀ k ∈ callRuns b l, 0 < k) : adds b l ≤ pressRuns b l := by
  have hnodup : (callRuns b l).Nodup := honce.imp fun h => Nat.ne_of_gt h
  have hsub : callRuns b l ⊆ List.range' 1 (pressRuns b l) := by
    intro k hk
    have hle := callRuns_le b l k hk
    have hk0 := hpos k hk
    rw [List.mem_range'_1]
    omega
  have hlen := (List.subperm_of_subset hnodup hsub).length_le
  rwa [length_callRuns, List.length_range'] at hlen

/-! ## The invariant -/

/-- What is to be shown of `b`, and that calls come from runs at all. -/
structure Once (b : Button) (l : Log) : Prop where
  once : (callRuns b l).Pairwise (· > ·)
  pos : ∀ k ∈ callRuns b l, 0 < k
  alarm : ∀ k ∈ alarmRuns b l, k ∉ callRuns b l

/-- Of every button. -/
def Goal : Safety := fun l _ => ∀ b, Once b l

/-- The last run of `b` began outside an alarm episode and has made no call. -/
structure Unspent (b : Button) (l : Log) : Prop where
  begun : 0 < pressRuns b l
  calls : ∀ k ∈ callRuns b l, k < pressRuns b l
  alarm : pressRuns b l ∉ alarmRuns b l

/-- Both add buttons were up when last sampled; `inside` says whether an alarm
episode is under way. -/
def Up (inside : Bool) : Assn := fun l _ _ =>
  (trigger l).isSome = inside ∧
    ∀ b, b.isAdd = true → (levels b l).head? ≠ some true

/-- `b` has been sampled high: the other add button is up, and outside an
episode the run is good for a call. -/
def Down (inside : Bool) (b : Button) : Assn := fun l _ _ =>
  (trigger l).isSome = inside ∧
    (∀ b', b'.isAdd = true → b' ≠ b → (levels b' l).head? ≠ some true) ∧
    (inside = false → b.isAdd = true → Unspent b l)

/-- After a poll that answered `thr`. -/
def Carries (inside : Bool) (thr : Throw) : Assn := fun l t v =>
  Up inside l t v ∧
    (inside = false → ∀ b, b.isAdd = true → thr = b.throwOf → Unspent b l)

/-! ## Entries that make no call -/

section Other

variable {b : Button} {e : Entry} {l : Log} (h : e.event.adds? ≠ some b)

include h

/-- An entry that calls nothing adds no source. -/
theorem callRuns_other : callRuns b (e :: l) = callRuns b l := if_neg h

/-- So what has been counted stays right. -/
theorem Once.other (ho : Once b l) : Once b (e :: l) := by
  have hcalls := callRuns_other (l := l) h
  refine ⟨?_, ?_, ?_⟩
  · rw [hcalls]
    exact ho.once
  · rw [hcalls]
    exact ho.pos
  · intro k hk
    rw [hcalls]
    unfold alarmRuns at hk
    by_cases hin : beginsRun b e l = true ∧ (trigger l).isSome = true
    · rw [if_pos hin] at hk
      rcases List.mem_cons.mp hk with rfl | hold
      · -- a run that begins now is newer than every call
        intro hcall
        have hle := callRuns_le b l _ hcall
        omega
      · exact ho.alarm k hold
    · rw [if_neg hin] at hk
      exact ho.alarm k hk

variable (hout : (trigger l).isSome = false)

include hout

omit h in

/-- An entry outside the episodes adds no run to theirs. -/
theorem alarmRuns_outside : alarmRuns b (e :: l) = alarmRuns b l := by
  refine if_neg ?_
  rintro ⟨-, hin⟩
  rw [hout] at hin
  cases hin

/-- A run that begins outside an episode has made no call yet. -/
theorem Unspent.begins (hbegin : beginsRun b e l = true) : Unspent b (e :: l) := by
  have hruns : pressRuns b (e :: l) = pressRuns b l + 1 := by
    rw [pressRuns_cons, if_pos hbegin]
  refine ⟨?_, ?_, ?_⟩
  · omega
  · intro k hk
    rw [callRuns_other h] at hk
    have hle := callRuns_le b l k hk
    omega
  · intro hin
    rw [alarmRuns_outside hout] at hin
    have hle := alarmRuns_le b l _ hin
    omega

/-- A run that has not been counted stays so. -/
theorem Unspent.other (hu : Unspent b l) : Unspent b (e :: l) := by
  by_cases hbegin : beginsRun b e l = true
  · exact Unspent.begins h hout hbegin
  · have hruns : pressRuns b (e :: l) = pressRuns b l := by
      rw [pressRuns_cons, if_neg hbegin, Nat.add_zero]
    refine ⟨?_, ?_, ?_⟩
    · rw [hruns]
      exact hu.begun
    · rw [callRuns_other h, hruns]
      exact hu.calls
    · rw [alarmRuns_outside hout, hruns]
      exact hu.alarm

end Other

/-! ## Calls -/

/-- A call is no sample. -/
theorem level_of_adds {e : Event} {b : Button} (h : e.adds? = some b) (b' : Button) :
    e.level? b' = none := by
  cases e with
  | digitalRead _ _ => cases h
  | _ => rfl

/-- It begins no run. -/
theorem beginsRun_of_adds {e : Entry} {b : Button} (h : e.event.adds? = some b)
    (b' : Button) (l : Log) : beginsRun b' e l = false := by
  unfold beginsRun
  rw [level_of_adds h]
  rfl

/-- A call takes a run that has not been counted. -/
theorem Once.call {b : Button} {e : Entry} {l : Log} (h : e.event.adds? = some b)
    (ho : Once b l) (hu : Unspent b l) : Once b (e :: l) := by
  have hcalls : callRuns b (e :: l) = pressRuns b l :: callRuns b l := if_pos h
  have halarm : alarmRuns b (e :: l) = alarmRuns b l := by
    refine if_neg ?_
    rintro ⟨hbegin, -⟩
    rw [beginsRun_of_adds h] at hbegin
    cases hbegin
  refine ⟨?_, ?_, ?_⟩
  · rw [hcalls, List.pairwise_cons]
    exact ⟨hu.calls, ho.once⟩
  · rw [hcalls]
    exact List.forall_mem_cons.mpr ⟨hu.begun, ho.pos⟩
  · intro k hk hmem
    rw [halarm] at hk
    rw [hcalls] at hmem
    rcases List.mem_cons.mp hmem with rfl | hold
    · exact hu.alarm hk
    · exact ho.alarm k hk hold

/-! ## Samples -/

section Samples

variable {b b' : Button} {level : Bool} {t : Nat} {l : Log}

/-- A sample is one more level of its button. -/
theorem levels_same : levels b (⟨t, .digitalRead b level⟩ :: l) = level :: levels b l := by
  simp [levels, Event.level?]

/-- It is none of another button. -/
theorem levels_other (h : b' ≠ b) :
    levels b' (⟨t, .digitalRead b level⟩ :: l) = levels b' l := by
  simp [levels, Event.level?, Ne.symm h]

/-- A sample calls nothing. -/
theorem adds_sample : (Event.digitalRead b level).adds? ≠ some b' := by
  intro h
  cases h

end Samples

/-! ## Entries between calls -/

/-- An entry that calls nothing leaves the goal as it is. -/
theorem goal_other {e : Event} (h : ∀ b, e.adds? ≠ some b) {l : Log} {t t' : Nat}
    (hJ : Goal l t) : Goal (⟨t', e⟩ :: l) t' :=
  fun b => (hJ b).other (h b)

/-- Between a press and its call other buttons stay as they are. -/
theorem down_keeps {e : Event} (b : Button) (hadds : ∀ b', e.adds? ≠ some b')
    (htrigger : ∀ t l, trigger (⟨t, e⟩ :: l) = trigger l)
    (hlevels : ∀ b' t l, b' ≠ b → levels b' (⟨t, e⟩ :: l) = levels b' l)
    (inside : Bool) : Enters Goal (Down inside b) e (Down inside b) := by
  rintro l t t' v - hJ ⟨hin, hup, hrun⟩
  refine ⟨goal_other hadds hJ, ?_, fun b' hadd hb => ?_, fun hout hadd => ?_⟩
  · rw [htrigger]
    exact hin
  · rw [hlevels b' t' l hb]
    exact hup b' hadd hb
  · exact (hrun hout hadd).other (hadds b) (hin.trans hout)

section Reads

variable {env : Env} (inside : Bool) (b : Button)

/-- A low sample leaves the buttons up. -/
theorem up_low : Reads Goal env (Up inside) b false (Up inside) := by
  rintro l t t' v i - - hJ ⟨hin, hup⟩
  refine ⟨goal_other (fun _ => adds_sample) hJ, hin, fun b' hadd => ?_⟩
  by_cases hb : b' = b
  · subst hb
    rw [levels_same]
    simp
  · rw [levels_other hb]
    exact hup b' hadd

/-- A high sample begins a run of its button. -/
theorem up_high : Reads Goal env (Up inside) b true (Down inside b) := by
  rintro l t t' v i - - hJ ⟨hin, hup⟩
  refine ⟨goal_other (fun _ => adds_sample) hJ, hin, fun b' hadd hb => ?_,
    fun hout hadd => ?_⟩
  · rw [levels_other hb]
    exact hup b' hadd
  · have hbegin : beginsRun b ⟨t', .digitalRead b true⟩ l = true := by
      simp [beginsRun, Event.level?, hup b hadd]
    exact Unspent.begins adds_sample (hin.trans hout) hbegin

/-- While a button is down its samples belong to one run. -/
theorem down_sample (level : Bool) :
    Reads Goal env (Down inside b) b level (Down inside b) :=
  (down_keeps b (fun _ => adds_sample) (fun _ _ => rfl)
    (fun _ _ _ hb => levels_other hb) inside).reads

/-- The release leaves both buttons up and the run good for one call. -/
theorem down_released :
    Reads Goal env (Down inside b) b false (Carries inside b.throwOf) := by
  intro l t t' v i ht hlevel hJ hd
  obtain ⟨hJ', hin, hup, hrun⟩ := down_sample inside b false l t t' v i ht hlevel hJ hd
  refine ⟨hJ', ⟨hin, fun b' hadd => ?_⟩, fun hout b' hadd hthr => ?_⟩
  · by_cases hb : b' = b
    · subst hb
      rw [levels_same]
      simp
    · exact hup b' hadd hb
  · obtain rfl := Button.throwOf_injective hthr
    exact hrun hout hadd

end Reads

/-! ## Entries that tell nothing -/

/-- Neither a sample nor a call nor an end of an alarm episode. -/
def plain : Event → Bool
  | .digitalRead _ _ => false
  | .mark .addHour | .mark .addMinute | .mark .alarm | .mark .alarmEnd => false
  | _ => true

section Plain

variable {e : Event} (h : plain e = true)

include h

/-- Plain events are no samples. -/
theorem level_plain (b : Button) : e.level? b = none := by
  cases e with
  | digitalRead _ _ => cases h
  | _ => rfl

/-- They call nothing. -/
theorem adds_plain (b : Button) : e.adds? ≠ some b := by
  have hnone : e.adds? = none := by
    cases e with
    | mark p => cases p <;> first | rfl | cases h
    | _ => rfl
  rw [hnone]
  intro hadd
  cases hadd

/-- They neither begin nor end an episode. -/
theorem trigger_plain (t : Nat) (l : Log) : trigger (⟨t, e⟩ :: l) = trigger l := by
  refine trigger_kept ?_ ?_ t l
  · rintro rfl
    cases h
  · rintro rfl
    cases h

/-- They leave the levels as they are. -/
theorem levels_plain (b : Button) (t : Nat) (l : Log) :
    levels b (⟨t, e⟩ :: l) = levels b l :=
  List.filterMap_cons_none (level_plain h b)

/-- So they change nothing while no button is down. -/
theorem up_plain (inside : Bool) : Enters Goal (Up inside) e (Up inside) := by
  rintro l t t' v - hJ ⟨hin, hup⟩
  refine ⟨goal_other (adds_plain h) hJ, ?_, fun b hadd => ?_⟩
  · rw [trigger_plain h, hin]
  · rw [levels_plain h]
    exact hup b hadd

/-- Or while one is. -/
theorem down_plain (inside : Bool) (b : Button) :
    Enters Goal (Down inside b) e (Down inside b) :=
  down_keeps b (adds_plain h) (trigger_plain h) (fun b' t l _ => levels_plain h b' t l)
    inside

/-- Or between the poll and the call. -/
theorem carries_plain (inside : Bool) (thr : Throw) :
    Enters Goal (Carries inside thr) e (Carries inside thr) := by
  rintro l t t' v ht hJ ⟨hup, hrun⟩
  have hup' := up_plain h inside l t t' v ht hJ hup
  refine ⟨hup'.1, hup'.2, fun hout b hadd hthr => ?_⟩
  exact (hrun hout b hadd hthr).other (adds_plain h b) (hup.1.trans hout)

end Plain

/-! ## Polling -/

/-- A button that is not an add button is good for no call. -/
theorem carries_of_down {inside : Bool} {b : Button} (hb : b.isAdd = false) {l : Log}
    {t : Nat} {v : Vars} (hd : Down inside b l t v) :
    Carries inside b.throwOf l t v := by
  obtain ⟨hin, hup, -⟩ := hd
  have hne : ∀ b', b'.isAdd = true → b' ≠ b := by
    rintro b' hadd rfl
    rw [hb] at hadd
    cases hadd
  refine ⟨⟨hin, fun b' hadd => hup b' hadd (hne b' hadd)⟩, fun _ b' hadd hthr => ?_⟩
  exact absurd (Button.throwOf_injective hthr).symm (hne b' hadd)

/-- A poll inside an alarm episode, or one that is entered with `idle`. -/
theorem poll_outline (env : Env) (inside : Bool) (thr : Throw)
    (hidle : inside = false → thr = .idle) :
    PollOutline Goal env thr
      { Scan := fun _ => Up inside
        High := Down inside
        Held := Down inside
        Released := fun b => Carries inside b.throwOf }
      (Up inside) (Carries inside) where
  entry := fun _ _ _ _ h => h
  low := up_low inside
  passed := by
    intro l t v _ hup
    refine ⟨hup, fun hout b hadd hthr => ?_⟩
    rw [hidle hout] at hthr
    cases b <;> cases hthr
  high := up_high inside
  answer := by
    intro b hb l t v hJ hd
    have hplain := (down_plain (e := .mark (.throwSet b.throwOf)) rfl inside b).marks
      l t v hJ hd
    exact ⟨hplain.1, carries_of_down hb hplain.2⟩
  press := fun b _ => (down_plain rfl inside b).marks
  held := fun b _ => down_sample inside b true
  release := fun b _ => down_released inside b
  settle := fun b _ => carries_plain rfl inside b.throwOf

/-! ## `ptIO` -/

/-- Functions that neither sample nor call. -/
theorem up_frame (env : Env) (inside : Bool) {α : Type} {c : Sketch α}
    (hc : Footprint plain (fun _ _ => True) c) :
    Safely Goal env (Up inside) c fun _ => Up inside :=
  Safely.frame env hc (fun _ he => up_plain he inside) fun _ _ _ _ _ _ h => h

/-- The call an answer stands for spends its run. -/
theorem call_spends {p : Point} {b : Button} (hadd : b.isAdd = true)
    (hp : (Event.mark p).adds? = some b) :
    Marks Goal (Carries false b.throwOf) p (Up false) := by
  rintro l t v hJ ⟨⟨hin, hup⟩, hrun⟩
  have hunspent := hrun rfl b hadd rfl
  have hlevels : ∀ b', levels b' (⟨t, .mark p⟩ :: l) = levels b' l :=
    fun _ => rfl
  have htrigger : trigger (⟨t, .mark p⟩ :: l) = trigger l := by
    refine trigger_kept ?_ ?_ t l
    · rintro ⟨rfl⟩
      cases hp
    · rintro ⟨rfl⟩
      cases hp
  refine ⟨fun b' => ?_, ?_, fun b' hb' => ?_⟩
  · by_cases hb : b' = b
    · subst hb
      exact (hJ b').call hp hunspent
    · refine (hJ b').other ?_
      rw [hp]
      exact fun h => hb (Option.some.inj h).symm
  · rw [htrigger]
    exact hin
  · rw [hlevels]
    exact hup b' hb'

/-- A call of `addHour` or `addMinute` uses up the run of its button. -/
theorem add_spends (env : Env) {p : Point} {b : Button} (f : Vars → Vars)
    (hadd : b.isAdd = true) (hp : (Event.mark p).adds? = some b) :
    Safely Goal env (Carries false b.throwOf) (do
      mark p
      assign f
      let v ← vars
      AlarmDisplay.displayEditModeUI v.date) fun _ => Up false := by
  refine (Safely.mark (Q := fun _ => Up false) (call_spends hadd hp)).seq fun _ => ?_
  refine up_frame env false ?_
  exact (Footprint.assign fun _ => trivial).bind fun _ => Footprint.vars.bind
    fun _ => Footprint.displayEditModeUI _ fun _ => rfl

/-- What a session makes of an answer. -/
theorem applyThrow_spends (env : Env) (thr : Throw) :
    Safely Goal env (Carries false thr) (applyThrow thr) fun _ => Up false := by
  cases thr with
  | idle => exact Safely.pure fun _ _ _ _ h => h.1
  | throwExit => exact Safely.pure fun _ _ _ _ h => h.1
  | throwAddHour => exact add_spends env (b := .btnAddHour) _ rfl rfl
  | throwAddMin => exact add_spends env (b := .btnAddMinute) _ rfl rfl
  | throwConfirm =>
      have hset : Footprint plain (fun _ _ => True) (applyThrow .throwConfirm) :=
        Footprint.vars.bind fun _ =>
          Footprint.setAlarm2 rfl rfl rfl (fun _ _ => rfl) fun _ _ _ => rfl
      exact (up_frame env false hset).weaken (fun _ _ _ _ h => h.1)
        fun _ _ _ _ _ h => h

/-- The assertions along a session. -/
def sessionPoints : SessionPoints where
  Start := Up false
  Begun := Up false
  Loop := fun _ => Up false
  Polled := Carries false
  Ended := Up false
  Over := Up false

/-- The parts of a session. -/
theorem session_outline (env : Env) : SessionOutline Goal env sessionPoints where
  start := by
    rintro d l t v hJ ⟨hup, hd⟩
    have h := (up_plain (e := .mark (.editStart d)) rfl false).marks l t v hJ hup
    exact ⟨h.1, h.2, hd⟩
  shown := fun d l t t' v ht hJ h => up_plain rfl false l t t' v ht hJ h.1
  poll := fun _ _ => (poll_outline env false .idle fun _ => rfl).safely
  apply := applyThrow_spends env
  finish := fun _ _ => (up_plain rfl false).marks
  pause := (up_plain rfl false).waits

/-- All that `ptIO` does. -/
theorem ptIO_up (env : Env) : Safely Goal env (Up false) ptIO fun _ => Up false := by
  have hclick : Reads Goal env (Up false) .btnEditMode true (Up false) := by
    intro l t t' v i ht hlevel hJ hup
    have h := up_high false .btnEditMode l t t' v i ht hlevel hJ hup
    exact ⟨h.1, (carries_of_down rfl h.2).1⟩
  exact (session_outline env).protothread (Up false) (Up false) (Up false)
    (fun _ _ _ h => h) (up_low false .btnEditMode) hclick (fun _ _ _ h => h)
    (up_plain rfl false) fun _ _ _ _ h => h

/-! ## `ptSprinklers` -/

/-- The two ends of an episode. -/
theorem up_crossing {inside : Bool} {p : Point} {inside' : Bool}
    (hp : ∀ t l, (trigger (⟨t, .mark p⟩ :: l)).isSome = inside')
    (hadd : (Event.mark p).adds? = none) : Marks Goal (Up inside) p (Up inside') := by
  rintro l t v hJ ⟨-, hup⟩
  refine ⟨goal_other (fun b h => ?_) hJ, hp t l, hup⟩
  rw [hadd] at h
  cases h

/-- A poll of the alarm loop: the answer makes no call. -/
theorem alarmPoll_up (env : Env) (site : PollSite) (thr : Throw) :
    Safely Goal env (Up true) (alarmPoll site thr) fun _ => Up true := by
  have hpoll := (poll_outline env true thr fun h => by cases h).safely
  refine Safely.alarmPoll (up_plain rfl true).marks ?_
  exact hpoll.weaken (fun _ _ _ _ h => h) fun _ _ _ _ _ h => h.1

/-- The assertions along a `for` loop. -/
def relayPoints : RelayPoints where
  Round := fun _ _ => Up true
  Polled := fun _ _ => Up true
  Written := fun _ _ => Up true
  Done := fun _ => Up true

/-- The parts of a `for` loop. -/
theorem relay_outline (env : Env) (site : PollSite) (value : UInt16) :
    RelayOutline Goal env site value relayPoints where
  poll := fun _ thr => alarmPoll_up env site thr
  write := fun _ _ => up_plain rfl true
  next := fun _ _ _ => up_plain rfl true
  stop := fun _ _ _ => up_plain rfl true
  finish := fun _ _ _ _ _ h => h

/-- The assertions along an episode. -/
def episodePoints : EpisodePoints where
  Start := Up false
  Begun := Up true
  Timed := Up true
  Test := fun _ => Up true
  Head := Up true
  Polled := fun _ => Up true
  Due := fun _ => Up true
  on := relayPoints
  off := relayPoints
  Report := fun _ => Up true
  Notify := fun _ _ => Up true
  Leaving := Up true
  Lit := Up true
  Quiet := Up true
  Dry := Up true
  Over := Up false

/-- A message is plain. -/
theorem plain_of_inNotify (e : Event) (h : e.inNotify = true) : plain e = true := by
  cases e with
  | mark p => cases p <;> first | rfl | cases h
  | _ => first | rfl | cases h

/-- So are the other parts of the sketch. -/
theorem plain_of_inBackground (e : Event) (h : e.inBackground = true) :
    plain e = true := by
  cases e with
  | mark p => cases p <;> first | rfl | cases h
  | _ => first | rfl | cases h

/-- The parts of an episode; a run that begins in it is never counted. -/
theorem episode_outline (env : Env) : EpisodeOutline Goal env episodePoints where
  alarm := up_crossing (fun _ _ => rfl) rfl
  clock := fun l t t' v ht hJ hup => up_plain rfl true l t t' v ht hJ hup
  tone := up_plain rfl true
  stay := fun _ _ => (up_plain rfl true).marks
  leave := fun _ _ => (up_plain rfl true).marks
  head := alarmPoll_up env .head .idle
  due := fun _ => Measures.keep (fun _ => up_plain rfl true) fun _ => up_plain rfl true
  lit := fun _ => up_plain rfl true
  on := relay_outline env .onLoop 140
  dark := fun _ => up_plain rfl true
  off := relay_outline env .offLoop 0
  poured := fun _ _ _ _ _ h => h
  report := fun _ => Measures.keep (fun _ => up_plain rfl true) fun _ => up_plain rfl true
  notify := fun _ _ msg =>
    Safely.frame env (Footprint.sendLineMessage msg)
      (fun e he => up_plain (plain_of_inNotify e he) true) fun _ _ _ _ _ _ h => h
  notified := fun _ _ _ _ _ h => h
  backlight := up_plain rfl true
  noTone := up_plain rfl true
  dry := up_plain rfl true
  finish := up_crossing (fun _ _ => rfl) rfl

end HeldButton

/-- **A held add button counts once**, in every run, whatever the levels, the
number of edit sessions and of alarm episodes. -/
theorem held_counts_once (env : Env) (n : Nat) (b : Button) :
    HeldOnce b (run env n).log := by
  open HeldButton in
  have hrest : ∀ e, e.inBackground = true → Enters Goal (Up false) e (Up false) :=
    fun e he => up_plain (plain_of_inBackground e he) false
  have hempty : Goal [] 0 :=
    fun b => ⟨List.Pairwise.nil, by simp [callRuns], by simp [alarmRuns]⟩
  have hboot : Both Goal (Up false) [] 0 Vars.zero :=
    ⟨hempty, rfl, fun b _ h => by cases h⟩
  have hgoal : Goal (run env n).log (run env n).now :=
    (episode_outline env).run_safely (ptIO_up env) hrest (fun _ _ _ _ h => h)
      (fun _ _ _ _ h => h) (fun _ _ _ _ h => h) hboot n
  exact ⟨adds_le (hgoal b).once (hgoal b).pos, (hgoal b).once, (hgoal b).alarm⟩

/-- An edit session in which the hour button is held for nine samples. -/
def longPress : Env :=
  { Env.quiet with
    level := fun i _ b => b = .btnEditMode && i == 18 ||
      b = .btnAddHour && decide (22 ≤ i) && decide (i ≤ 30) }

example : (levels .btnAddHour (run longPress 45).log).count true = 9 ∧
    adds .btnAddHour (run longPress 45).log = 1 := by decide +kernel

end SprinklersAlarmClock
