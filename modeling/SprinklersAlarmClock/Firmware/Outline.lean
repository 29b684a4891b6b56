import SprinklersAlarmClock.Firmware.Rules

/-!
# Outlines of the sketch

One rule for each part of the sketch that several properties need to follow
step by step: the button poll, a relay loop, an alarm episode, an edit session
and the two protothreads around them.  An outline assigns an assertion to every
hand-over point of the part and says what each entry of the log does to it; the
rule then walks the program text once and for all.
-/

namespace SprinklersAlarmClock

open Logic SPIOStream

variable {J : Safety} {env : Env}

/-! ## Polling the buttons -/

namespace Button

/-- The buttons in the order in which `runEditAlarmMode` samples them. -/
def rank : Button → Nat
  | btnEditMode => 0
  | btnAddHour => 1
  | btnAddMinute => 2
  | btnAlarmConfirm => 3

/-- What `runEditAlarmMode` assigns when the button is pressed. -/
def throwOf : Button → Throw
  | btnEditMode => .throwExit
  | btnAddHour => .throwAddHour
  | btnAddMinute => .throwAddMin
  | btnAlarmConfirm => .throwConfirm

theorem throwOf_injective : Function.Injective throwOf := by
  intro b b' h
  cases b <;> cases b' <;> first | rfl | cases h

/-- The two buttons whose release is awaited. -/
def isAdd : Button → Bool
  | btnAddHour | btnAddMinute => true
  | btnEditMode | btnAlarmConfirm => false

end Button

/-- Assertions along `runEditAlarmMode`: `Scan k` after `k` low samples,
`High b` after a high one, `Held b` and `Released b` around the end of the
release loop. -/
structure PollPoints where
  Scan : Nat → Assn
  High : Button → Assn
  Held : Button → Assn
  Released : Button → Assn

/-- `runEditAlarmMode(thr)` from `K` to `Q`. -/
structure PollOutline (J : Safety) (env : Env) (thr : Throw) (P : PollPoints)
    (K : Assn) (Q : Throw → Assn) : Prop where
  entry : ∀ l t v, J l t → K l t v → P.Scan 0 l t v
  low : ∀ b, Reads J env (P.Scan b.rank) b false (P.Scan (b.rank + 1))
  passed : ∀ l t v, J l t → P.Scan 4 l t v → Q thr l t v
  high : ∀ b, Reads J env (P.Scan b.rank) b true (P.High b)
  answer : ∀ b, b.isAdd = false →
    Marks J (P.High b) (.throwSet b.throwOf) (Q b.throwOf)
  press : ∀ b, b.isAdd = true →
    Marks J (P.High b) (.throwSet b.throwOf) (P.Held b)
  held : ∀ b, b.isAdd = true → Reads J env (P.Held b) b true (P.Held b)
  release : ∀ b, b.isAdd = true → Reads J env (P.Held b) b false (P.Released b)
  settle : ∀ b, b.isAdd = true →
    Enters J (P.Released b) (.delay 10) (Q b.throwOf)

namespace PollOutline

variable {thr : Throw} {P : PollPoints} {K : Assn} {Q : Throw → Assn}

theorem sample (O : PollOutline J env thr P K Q) (b : Button) :
    Safely J env (P.Scan b.rank) (digitalRead b)
      (fun level => if level = true then P.High b else P.Scan (b.rank + 1)) := by
  refine Safely.digitalRead fun level => ?_
  cases level with
  | true => exact O.high b
  | false => exact O.low b

theorem setThrow (O : PollOutline J env thr P K Q) (b : Button)
    (h : b.isAdd = false) :
    Safely J env (P.High b) (SPIOStream.setThrow b.throwOf) Q :=
  (Safely.mark (O.answer b h)).seq fun _ => Safely.pure fun _ _ _ _ h => h

theorem waitRelease (O : PollOutline J env thr P K Q) (b : Button)
    (h : b.isAdd = true) :
    Safely J env (P.Held b) (SPIOStream.waitRelease b)
      (fun _ => Q b.throwOf) := by
  have hcond : Safely J env (P.Held b) (digitalRead b)
      (fun level => if level = true then P.Held b else P.Released b) := by
    refine Safely.digitalRead fun level => ?_
    cases level with
    | true => exact O.held b h
    | false => exact O.release b h
  have hwait := Safely.whileDo (P.Held b) (P.Held b)
    (Q := fun _ => P.Released b) hcond (Safely.pure (a := ()) fun _ _ _ _ h => h)
  exact hwait.seq fun _ => Safely.delay (O.settle b h)

theorem press_add (O : PollOutline J env thr P K Q) (b : Button)
    (h : b.isAdd = true) :
    Safely J env (P.High b)
      (SPIOStream.setThrow b.throwOf >>= fun t =>
        SPIOStream.waitRelease b >>= fun _ => pure t) Q := by
  have hset : Safely J env (P.High b) (SPIOStream.setThrow b.throwOf)
      (fun t l t' v => t = b.throwOf ∧ P.Held b l t' v) :=
    (Safely.mark (O.press b h)).seq fun _ =>
      Safely.pure fun _ _ _ _ hHeld => ⟨rfl, hHeld⟩
  refine hset.seq fun t => ?_
  by_cases ht : t = b.throwOf
  · subst ht
    have hwait := (O.waitRelease b h).weaken (K := fun l t' v =>
      b.throwOf = b.throwOf ∧ P.Held b l t' v) (Q := fun _ => Q b.throwOf)
      (fun _ _ _ _ hHeld => hHeld.2) fun _ _ _ _ _ hQ => hQ
    exact hwait.seq fun _ => Safely.pure fun _ _ _ _ hQ => hQ
  · exact Safely.of_false fun _ _ _ _ hHeld => ht hHeld.1

/-- A sample either answers for its button or hands over to what follows. -/
theorem sampled (O : PollOutline J env thr P K Q) (b : Button)
    {whenHigh whenLow : Sketch Throw}
    (hHigh : Safely J env (P.High b) whenHigh Q)
    (hLow : Safely J env (P.Scan (b.rank + 1)) whenLow Q) :
    Safely J env (P.Scan b.rank)
      (digitalRead b >>= fun level =>
        if level = true then whenHigh else whenLow) Q := by
  refine (O.sample b).seq fun level => ?_
  cases level with
  | true => exact hHigh
  | false => exact hLow

theorem safely (O : PollOutline J env thr P K Q) :
    Safely J env K (runEditAlarmMode thr) Q := by
  have hconfirm := O.sampled .btnAlarmConfirm (O.setThrow .btnAlarmConfirm rfl)
    (Safely.pure O.passed)
  have hminute := O.sampled .btnAddMinute (O.press_add .btnAddMinute rfl) hconfirm
  have hhour := O.sampled .btnAddHour (O.press_add .btnAddHour rfl) hminute
  have hedit := O.sampled .btnEditMode (O.setThrow .btnEditMode rfl) hhour
  exact hedit.weaken O.entry fun _ _ _ _ _ hQ => hQ

end PollOutline

/-- A poll of the alarm loop. -/
theorem Safely.alarmPoll {K M : Assn} {site : PollSite} {thr : Throw}
    {Q : Throw → Assn} (hmark : Marks J K (.alarmPoll site) M)
    (hpoll : Safely J env M (runEditAlarmMode thr) Q) :
    Safely J env K (SprinklersAlarmClock.alarmPoll site thr) Q :=
  (Safely.mark (Q := fun _ => M) hmark).seq fun _ => hpoll

/-! ## The elapsed-time tests -/

/-- `elapsedAtLeast limit` leads from `K` to `Yes` or `No`: the difference of
the counter and `lastTime` decides. -/
def Measures (J : Safety) (K : Assn) (limit : UInt32) (Yes No : Assn) : Prop :=
  ∀ l t t' v, t ≤ t' → J l t → K l t v →
    let value := UInt32.ofNat t' - v.sprinklersLastTime
    let l' := ⟨t', .millis (UInt32.ofNat t')⟩ :: l
    J l' t' ∧
      (limit ≤ value →
        Both J Yes (⟨t', .mark (.elapsed limit value)⟩ :: l') t' v) ∧
      (value < limit →
        Both J No (⟨t', .mark (.elapsed limit value)⟩ :: l') t' v)

/-- A test that makes no difference. -/
theorem Measures.keep {K : Assn} {limit : UInt32}
    (hmillis : ∀ now, Enters J K (.millis now) K)
    (helapsed : ∀ value, Enters J K (.mark (.elapsed limit value)) K) :
    Measures J K limit K K := by
  intro l t t' v ht hJ hK
  have hread := hmillis (UInt32.ofNat t') l t t' v ht hJ hK
  have hmark := (helapsed (UInt32.ofNat t' - v.sprinklersLastTime)).marks _ t' v
    hread.1 hread.2
  exact ⟨hread.1, fun _ => hmark, fun _ => hmark⟩

theorem Safely.elapsedAtLeast {K Yes No : Assn} {limit : UInt32}
    (h : Measures J K limit Yes No) :
    Safely J env K (elapsedAtLeast limit)
      (fun b => if b = true then Yes else No) := by
  refine (Safely.millis (Q := fun now l t' v => ∃ older t, t ≤ t' ∧ J older t ∧
    K older t v ∧ now = UInt32.ofNat t' ∧
    l = ⟨t', .millis (UInt32.ofNat t')⟩ :: older) ?_).seq fun now => ?_
  · exact fun l t t' v ht hJ hK =>
      ⟨(h l t t' v ht hJ hK).1, l, t, ht, hJ, hK, rfl, rfl⟩
  · refine Safely.vars fun v₀ => ?_
    refine (Safely.mark (Q := fun _ =>
      if limit ≤ now - v₀.sprinklersLastTime then Yes else No) ?_).seq
      fun _ => Safely.pure ?_
    · rintro l t' v - ⟨⟨older, t, ht, hJ, hK, rfl, rfl⟩, rfl⟩
      obtain ⟨-, hyes, hno⟩ := h older t t' v ht hJ hK
      by_cases hdue : limit ≤ UInt32.ofNat t' - v.sprinklersLastTime
      · rw [if_pos hdue]
        exact hyes hdue
      · rw [if_neg hdue]
        exact hno (UInt32.not_le.mp hdue)
    · intro l t v _ hQ
      by_cases hdue : limit ≤ now - v₀.sprinklersLastTime
      · rw [if_pos hdue] at hQ
        rwa [if_pos (decide_eq_true hdue)]
      · rw [if_neg hdue] at hQ
        rwa [if_neg (by simpa using hdue)]

/-! ## The clock display -/

/-- Assertions along `ptUIDisplay`: `Top` where the body is entered, `Read d`,
`Left d` and `Updated d` while the reading `d` is stored, `Shown` once it is on
the LCD, `Wait` where the gate is evaluated and `Idle` when it stays shut. -/
structure UiPoints where
  Top : Assn
  Entered : Assn
  Read : RTCDateTime → Assn
  Left : RTCDateTime → Assn
  Updated : RTCDateTime → Assn
  Shown : Assn
  Wait : Assn
  Idle : Assn

/-- The verification conditions of `ptUIDisplay` for these assertions. -/
structure UiOutline (J : Safety) (env : Env) (P : UiPoints) : Prop where
  enter : Marks J P.Top .enterDS3231 P.Entered
  read : ∀ i, Enters J P.Entered (.readTime (env.clock i))
    (P.Read (DS3231.decodeDateTime (env.clock i)))
  left : ∀ d, Marks J (P.Read d) .leaveDS3231 (P.Left d)
  updated : ∀ d l t v, J l t → P.Left d l t v →
    J (⟨t, .mark (.updatedData d)⟩ :: l) t ∧
      P.Updated d (⟨t, .mark (.updatedData d)⟩ :: l) t { v with date := d }
  shown : ∀ d, Enters J (fun l t v => P.Updated d l t v ∧ v.date = d)
    (.lcd (AlarmDisplay.nowScreen d)) P.Shown
  stored : ∀ l t t' v, t ≤ t' → J l t → P.Shown l t v →
    let l' := ⟨t', .millis (UInt32.ofNat t')⟩ :: l
    J l' t' ∧ J (⟨t', .mark .uiStored⟩ :: l') t' ∧
      P.Wait (⟨t', .mark .uiStored⟩ :: l') t'
        { v with uiLastTime := UInt32.ofNat t', ptUi := true }
  gate : ∀ l t t' v, t ≤ t' → J l t → P.Wait l t v →
    let l' := ⟨t', .millis (UInt32.ofNat t')⟩ :: l
    J l' t' ∧
      (v.uiLastTime + 1000 ≤ UInt32.ofNat t' →
        Both J P.Top (⟨t', .mark (.uiGate true)⟩ :: l') t' v) ∧
      (¬ v.uiLastTime + 1000 ≤ UInt32.ofNat t' →
        Both J P.Idle (⟨t', .mark (.uiGate false)⟩ :: l') t' v)
  lc : ∀ l t v, P.Wait l t v → P.Wait l t { v with ptUi := true }

namespace UiOutline

variable {P : UiPoints}

theorem getDateTime (O : UiOutline J env P) :
    Safely J env P.Top DS3231.getDateTime P.Left := by
  refine (Safely.mark (Q := fun _ => P.Entered) O.enter).seq fun _ => ?_
  have hread : Safely J env P.Entered
      (DS3231.readTimeRegs >>= fun r => pure (DS3231.decodeDateTime r)) P.Read :=
    (Safely.readTimeRegs (Q := fun r => P.Read (DS3231.decodeDateTime r))
      O.read).seq fun _ => Safely.pure fun _ _ _ _ h => h
  refine hread.seq fun d => ?_
  exact (Safely.mark (Q := fun _ => P.Left d) (O.left d)).seq fun _ =>
    Safely.pure fun _ _ _ _ h => h

theorem updatedData (O : UiOutline J env P) :
    Safely J env P.Top TimeSystemData.updatedData
      (fun _ l t v => P.Updated v.date l t v) := by
  refine O.getDateTime.seq fun d => ?_
  refine Safely.seq (M := fun _ l t v => v.date = d ∧
    J (⟨t, .mark (.updatedData d)⟩ :: l) t ∧
    P.Updated d (⟨t, .mark (.updatedData d)⟩ :: l) t v) (Safely.assign ?_)
    fun _ => Safely.mark ?_
  · exact fun l t v hJ h => ⟨rfl, O.updated d l t v hJ h⟩
  · rintro l t v - ⟨rfl, hJ, h⟩
    exact ⟨hJ, h⟩

theorem refresh (O : UiOutline J env P) :
    Safely J env P.Top SprinklersAlarmClock.refresh
      fun _ l t v => P.Wait l t { v with ptUi := true } := by
  refine O.updatedData.seq fun _ => Safely.vars fun v₀ => ?_
  refine Safely.seq (M := fun _ => P.Shown) (Safely.act ?_) fun _ => ?_
  · rintro l t t' v ht hJ ⟨h, rfl⟩
    exact O.shown v.date l t t' v ht hJ ⟨h, rfl⟩
  refine (Safely.millis (Q := fun now l t v => J (⟨t, .mark .uiStored⟩ :: l) t ∧
    P.Wait (⟨t, .mark .uiStored⟩ :: l) t
      { v with uiLastTime := now, ptUi := true }) ?_).seq fun now => ?_
  · intro l t t' v ht hJ h
    exact ⟨(O.stored l t t' v ht hJ h).1, (O.stored l t t' v ht hJ h).2⟩
  refine Safely.seq (M := fun _ l t v => J (⟨t, .mark .uiStored⟩ :: l) t ∧
    P.Wait (⟨t, .mark .uiStored⟩ :: l) t { v with ptUi := true })
    (Safely.assign ?_) fun _ => Safely.mark fun _ _ _ _ h => h
  exact fun _ _ _ _ h => h

theorem uiDue (O : UiOutline J env P) :
    Safely J env P.Wait SprinklersAlarmClock.uiDue
      (fun b => if b = true then P.Top else P.Idle) := by
  refine (Safely.millis (Q := fun now l t' v => ∃ older t, t ≤ t' ∧ J older t ∧
    P.Wait older t v ∧ now = UInt32.ofNat t' ∧
    l = ⟨t', .millis (UInt32.ofNat t')⟩ :: older) ?_).seq fun now => ?_
  · exact fun l t t' v ht hJ h =>
      ⟨(O.gate l t t' v ht hJ h).1, l, t, ht, hJ, h, rfl, rfl⟩
  refine Safely.vars fun v₀ => ?_
  by_cases hdue : v₀.uiLastTime + 1000 ≤ now
  · rw [show decide (now ≥ v₀.uiLastTime + 1000) = true from decide_eq_true hdue]
    refine (Safely.mark (Q := fun _ => P.Top) ?_).seq fun _ =>
      Safely.pure fun _ _ _ _ h => h
    rintro l t' v - ⟨⟨older, t, ht, hJ, h, rfl, rfl⟩, rfl⟩
    exact (O.gate older t t' v ht hJ h).2.1 hdue
  · rw [show decide (now ≥ v₀.uiLastTime + 1000) = false from decide_eq_false hdue]
    refine (Safely.mark (Q := fun _ => P.Idle) ?_).seq fun _ =>
      Safely.pure fun _ _ _ _ h => h
    rintro l t' v - ⟨⟨older, t, ht, hJ, h, rfl, rfl⟩, rfl⟩
    exact (O.gate older t t' v ht hJ h).2.2 hdue

/-- `ptUIDisplay` from `K`, which is `Wait` or `Top` as the local continuation
says. -/
theorem safely (O : UiOutline J env P) {K : Assn}
    (hentry : ∀ l t v, J l t → K l t v →
      if v.ptUi = true then P.Wait l t v else P.Top l t v) :
    Safely J env K ptUIDisplay fun _ => P.Idle :=
  Safely.protothread Vars.ptUi P.Top
    (fun l t v => P.Wait l t { v with ptUi := true }) P.Wait P.Top O.refresh
    (fun _ _ _ _ h => h) (fun l t v _ h => O.lc l t v h) O.uiDue
    (Safely.pure fun _ _ _ _ h => h) hentry

end UiOutline

/-! ## A relay loop -/

/-- Assertions along a `for` loop of `relayRound`: `Round k thr` before a round
with `k` rounds left, `Done thr` after the loop. -/
structure RelayPoints where
  Round : Nat → Throw → Assn
  Polled : Nat → Throw → Assn
  Written : Nat → Throw → Assn
  Done : Throw → Assn

/-- The conditions of a `for` loop over the relay. -/
structure RelayOutline (J : Safety) (env : Env) (site : PollSite)
    (value : UInt16) (P : RelayPoints) : Prop where
  poll : ∀ k thr, Safely J env (P.Round (k + 1) thr) (alarmPoll site thr)
    (P.Polled k)
  write : ∀ k thr, Enters J (P.Polled k thr) (.analogWrite value) (P.Written k thr)
  next : ∀ k thr, isExitEditMode thr = false →
    Enters J (P.Written k thr) (.delay 10) (P.Round k thr)
  stop : ∀ k thr, isExitEditMode thr = true →
    Enters J (P.Written k thr) (.delay 10) (P.Done thr)
  finish : ∀ thr l t v, J l t → P.Round 0 thr l t v → P.Done thr l t v

theorem RelayOutline.safely {site : PollSite} {value : UInt16} {P : RelayPoints}
    (O : RelayOutline J env site value P) (k : Nat) (thr : Throw) :
    Safely J env (P.Round k thr) (Prog.upTo (relayRound site value) k thr)
      P.Done := by
  refine Safely.upTo P.Round (fun k thr => ?_) O.finish k thr
  refine (O.poll k thr).seq fun thr' => ?_
  refine (Safely.act (Q := fun _ => P.Written k thr') (O.write k thr')).seq
    fun _ => ?_
  have hafter : Enters J (P.Written k thr') (.delay 10)
      (if isExitEditMode thr' = true then P.Done thr' else P.Round k thr') := by
    cases hthr : isExitEditMode thr' with
    | true => exact O.stop k thr' hthr
    | false => exact O.next k thr' hthr
  exact (Safely.delay (Q := fun _ => _) hafter).seq fun _ =>
    Safely.pure fun _ _ _ _ h => h

/-! ## An alarm episode -/

/-- Assertions along `alarmEpisode`: `Test thr` before each evaluation of the
loop condition, `Head` where the body is entered, `Polled thr` after the poll at
its head, `Due thr` when 10 s have passed, `Report thr` before the 20 s test,
`Notify k thr` with `k` of the two messages still to be sent, and `Leaving` …
through the clean-up code. -/
structure EpisodePoints where
  Start : Assn
  Begun : Assn
  Timed : Assn
  Test : Throw → Assn
  Head : Assn
  Polled : Throw → Assn
  Due : Throw → Assn
  on : RelayPoints
  off : RelayPoints
  Report : Throw → Assn
  Notify : Nat → Throw → Assn
  Leaving : Assn
  Lit : Assn
  Quiet : Assn
  Dry : Assn
  Over : Assn

/-- The conditions of `ptSprinklers`. -/
structure EpisodeOutline (J : Safety) (env : Env) (P : EpisodePoints) :
    Prop where
  alarm : Marks J P.Start .alarm P.Begun
  clock : ∀ l t t' v, t ≤ t' → J l t → P.Begun l t v →
    J (⟨t', .millis (UInt32.ofNat t')⟩ :: l) t' ∧
      P.Timed (⟨t', .millis (UInt32.ofNat t')⟩ :: l) t'
        { v with sprinklersLastTime := UInt32.ofNat t' }
  tone : Enters J P.Timed (.tone 835) (P.Test .idle)
  stay : ∀ thr, isExitEditMode thr = false →
    Marks J (P.Test thr) (.alarmTest thr) P.Head
  leave : ∀ thr, isExitEditMode thr = true →
    Marks J (P.Test thr) (.alarmTest thr) P.Leaving
  head : Safely J env P.Head (alarmPoll .head .idle) P.Polled
  due : ∀ thr, Measures J (P.Polled thr) 10000 (P.Due thr) (P.Report thr)
  lit : ∀ thr, Enters J (P.Due thr) .backlight (P.on.Round 400 thr)
  on : RelayOutline J env .onLoop 140 P.on
  dark : ∀ thr, Enters J (P.on.Done thr) .noBacklight (P.off.Round 200 thr)
  off : RelayOutline J env .offLoop 0 P.off
  poured : ∀ thr l t v, J l t → P.off.Done thr l t v → P.Report thr l t v
  report : ∀ thr, Measures J (P.Report thr) 20000 (P.Notify 2 thr) (P.Test thr)
  notify : ∀ k thr msg, Safely J env (P.Notify (k + 1) thr)
    (LineNotify.sendLineMessage msg) fun _ => P.Notify k thr
  notified : ∀ thr l t v, J l t → P.Notify 0 thr l t v → P.Test thr l t v
  backlight : Enters J P.Leaving .backlight P.Lit
  noTone : Enters J P.Lit .noTone P.Quiet
  dry : Enters J P.Quiet (.analogWrite 0) P.Dry
  finish : Marks J P.Dry .alarmEnd P.Over

namespace EpisodeOutline

variable {P : EpisodePoints}

theorem sprinkle (O : EpisodeOutline J env P) (thr : Throw) :
    Safely J env (P.Polled thr) (SprinklersAlarmClock.sprinkle thr)
      P.Report := by
  refine (Safely.elapsedAtLeast (O.due thr)).seq fun b => ?_
  cases b with
  | false => exact Safely.pure fun _ _ _ _ h => h
  | true =>
      refine (Safely.act (Q := fun _ => P.on.Round 400 thr) (O.lit thr)).seq fun _ => ?_
      refine (O.on.safely 400 thr).seq fun thr' => ?_
      refine (Safely.act (Q := fun _ => P.off.Round 200 thr') (O.dark thr')).seq
        fun _ => ?_
      exact (O.off.safely 200 thr').weaken (fun _ _ _ _ h => h) O.poured

theorem reported (O : EpisodeOutline J env P) (thr : Throw) :
    Safely J env (P.Report thr) SprinklersAlarmClock.report
      fun _ => P.Test thr := by
  refine (Safely.elapsedAtLeast (O.report thr)).seq fun b => ?_
  cases b with
  | false => exact Safely.pure fun _ _ _ _ h => h
  | true =>
      refine (O.notify 1 thr _).seq fun _ => (O.notify 0 thr _).seq fun _ => ?_
      exact Safely.pure (O.notified thr)

theorem pass (O : EpisodeOutline J env P) :
    Safely J env P.Head alarmPass P.Test := by
  refine O.head.seq fun thr => (O.sprinkle thr).seq fun thr' => ?_
  exact (O.reported thr').seq fun _ => Safely.pure fun _ _ _ _ h => h

theorem loop (O : EpisodeOutline J env P) (thr : Throw) :
    Safely J env (P.Test thr) (alarmLoop thr) fun _ => P.Leaving := by
  refine Safely.loop P.Test (fun thr => ?_) thr
  have htest : Marks J (P.Test thr) (.alarmTest thr)
      (if isExitEditMode thr = true then P.Leaving else P.Head) := by
    cases hthr : isExitEditMode thr with
    | true => exact O.leave thr hthr
    | false => exact O.stay thr hthr
  refine (Safely.mark (Q := fun _ => _) htest).seq fun _ => Safely.ite ?_ ?_
  · intro hthr
    refine Safely.pure fun _ _ _ _ h => ?_
    rwa [if_pos hthr] at h
  · intro hthr
    refine (O.pass.weaken (fun _ _ _ _ h => ?_) fun _ _ _ _ _ h => h).seq
      fun thr' => Safely.pure fun _ _ _ _ h => h
    rwa [if_neg hthr] at h

theorem safely (O : EpisodeOutline J env P) :
    Safely J env P.Start alarmEpisode fun _ => P.Over := by
  refine (Safely.mark (Q := fun _ => P.Begun) O.alarm).seq fun _ => ?_
  refine (Safely.millis (Q := fun now l t v =>
    P.Timed l t { v with sprinklersLastTime := now }) O.clock).seq fun now => ?_
  refine (Safely.assign (Q := fun _ => P.Timed) fun _ _ _ _ h => h).seq fun _ => ?_
  refine (Safely.act (Q := fun _ => P.Test .idle) O.tone).seq fun _ => ?_
  refine (O.loop .idle).seq fun _ => ?_
  refine (Safely.act (Q := fun _ => P.Lit) O.backlight).seq fun _ => ?_
  refine (Safely.act (Q := fun _ => P.Quiet) O.noTone).seq fun _ => ?_
  refine (Safely.act (Q := fun _ => P.Dry) O.dry).seq fun _ => ?_
  exact Safely.mark O.finish

end EpisodeOutline

/-- The entries an episode makes by itself, its two ends and the entries of its
messages apart. -/
def Event.inBody : Event → Bool
  | .digitalRead _ _ | .delay _ | .millis _ => true
  | .noTone | .backlight | .noBacklight => true
  | .tone frequency => frequency == 835
  | .analogWrite value => value == 0 || value == 140
  | .mark (.alarmTest _) | .mark (.alarmPoll _) => true
  | .mark (.throwSet _) | .mark (.elapsed _ _) => true
  | _ => false

theorem inPoll_inBody : ∀ e : Event, e.inPoll = true → e.inBody = true
  | .digitalRead _ _, _ => rfl
  | .delay _, _ => rfl
  | .mark (.throwSet _), _ => rfl

/-- One assertion at every hand-over point of a relay loop. -/
def RelayPoints.uniform (K : Assn) : RelayPoints where
  Round := fun _ _ => K
  Polled := fun _ _ => K
  Written := fun _ _ => K
  Done := fun _ => K

/-- One assertion at every hand-over point inside an episode. -/
def EpisodePoints.uniform (Start K Over : Assn) : EpisodePoints where
  Start := Start
  Begun := K
  Timed := K
  Test := fun _ => K
  Head := K
  Polled := fun _ => K
  Due := fun _ => K
  on := .uniform K
  off := .uniform K
  Report := fun _ => K
  Notify := fun _ _ => K
  Leaving := K
  Lit := K
  Quiet := K
  Dry := K
  Over := Over

section Uniform

variable {Start K Over : Assn} (hev : ∀ e : Event, e.inBody = true → Enters J K e K)

include hev

theorem alarmPoll_uniform (site : PollSite) (thr : Throw) :
    Safely J env K (alarmPoll site thr) fun _ => K :=
  Safely.alarmPoll (hev _ rfl).marks
    (Safely.frame_eq env (Footprint.runEditAlarmMode thr)
      fun e he => hev e (inPoll_inBody e he))

theorem RelayOutline.uniform (site : PollSite) {value : UInt16}
    (h : (Event.analogWrite value).inBody = true) :
    RelayOutline J env site value (.uniform K) where
  poll := fun _ thr => alarmPoll_uniform hev site thr
  write := fun _ _ => hev _ h
  next := fun _ _ _ => hev _ rfl
  stop := fun _ _ _ => hev _ rfl
  finish := fun _ _ _ _ _ h => h

/-- What all these entries, the messages and `lastTime` leave alone holds all
through an episode. -/
theorem EpisodeOutline.uniform (halarm : Marks J Start .alarm K)
    (hover : Marks J K .alarmEnd Over)
    (hvar : ∀ l t v now, K l t v → K l t { v with sprinklersLastTime := now })
    (hnotify : ∀ msg, Safely J env K (LineNotify.sendLineMessage msg) fun _ => K) :
    EpisodeOutline J env (.uniform Start K Over) where
  alarm := halarm
  clock := fun l t t' v ht hJ h =>
    have h' := hev (.millis (UInt32.ofNat t')) rfl l t t' v ht hJ h
    ⟨h'.1, hvar _ _ _ _ h'.2⟩
  tone := hev _ rfl
  stay := fun _ _ => (hev _ rfl).marks
  leave := fun _ _ => (hev _ rfl).marks
  head := alarmPoll_uniform hev .head .idle
  due := fun _ => Measures.keep (fun _ => hev _ rfl) fun _ => hev _ rfl
  lit := fun _ => hev _ rfl
  on := RelayOutline.uniform hev .onLoop rfl
  dark := fun _ => hev _ rfl
  off := RelayOutline.uniform hev .offLoop rfl
  poured := fun _ _ _ _ _ h => h
  report := fun _ => Measures.keep (fun _ => hev _ rfl) fun _ => hev _ rfl
  notify := fun _ _ msg => hnotify msg
  notified := fun _ _ _ _ _ h => h
  backlight := hev _ rfl
  noTone := hev _ rfl
  dry := hev _ rfl
  finish := hover

end Uniform

/-- `ptSprinklers` from `Wait` to `Wait`, around episodes that start and end
there. -/
theorem EpisodeOutline.protothread {P : EpisodePoints}
    (O : EpisodeOutline J env P) {Wait : Assn}
    (hlc : ∀ l t v, Wait l t v → Wait l t { v with ptSprinklers := true })
    (hquery : ∀ e, e.inIsAlarm2 = true → Enters J Wait e Wait)
    (hstart : ∀ l t v, J l t → Wait l t v → P.Start l t v)
    (hover : ∀ l t v, J l t → P.Over l t v → Wait l t v) :
    Safely J env Wait ptSprinklers fun _ => Wait := by
  have hframe := Safely.frame_eq env (Footprint.isAlarm2 (V := Eq) true) hquery
  have hcond : Safely J env Wait (DS3231.isAlarm2 true)
      fun b => if b = true then P.Start else Wait := by
    refine hframe.weaken (fun _ _ _ _ h => h) fun b l t v hJ h => ?_
    cases b with
    | true => exact hstart l t v hJ h
    | false => exact h
  refine Safely.protothread Vars.ptSprinklers Wait Wait Wait P.Start
    (Safely.pure fun _ _ _ _ h => h) (fun l t v _ h => hlc l t v h)
    (fun l t v _ h => hlc l t v h) hcond ?_ ?_
  · exact O.safely.weaken (fun _ _ _ _ h => h) fun _ => hover
  · intro l t v _ h
    cases v.ptSprinklers <;> exact h

/-- Whole runs, for a property of episodes and perhaps of `ptIO`: between them
`Wait` holds, which everything else keeps and no variable matters to. -/
theorem EpisodeOutline.run_safely {P : EpisodePoints}
    (O : EpisodeOutline J env P) {Wait : Assn}
    (hIo : Safely J env Wait ptIO fun _ => Wait)
    (hrest : ∀ e, e.inBackground = true → Enters J Wait e Wait)
    (hvars : ∀ l t v v', Wait l t v → Wait l t v')
    (hstart : ∀ l t v, J l t → Wait l t v → P.Start l t v)
    (hover : ∀ l t v, J l t → P.Over l t v → Wait l t v)
    (hboot : Both J Wait [] 0 Vars.zero) (n : Nat) : Safe J (run env n) := by
  have hkeep : ∀ {S : Event → Bool} {V : Vars → Vars → Prop} {c : Sketch Unit},
      Footprint S V c → (∀ e, S e = true → e.inBackground = true) →
      Safely J env Wait c fun _ => Wait :=
    fun hc hS => Safely.frame env hc (fun e he => hrest e (hS e he))
      fun l t v v' _ _ h => hvars l t v v' h
  have hSprinklers := O.protothread (fun l t v h => hvars l t v _ h)
    (fun e he => hrest e (Footprint.inIsAlarm2_inBackground e he)) hstart hover
  exact SprinklersAlarmClock.run_safely
    (hkeep Footprint.setup Footprint.inSetup_inBackground)
    (hkeep Footprint.ptUIDisplay Footprint.inUi_inBackground) hIo hSprinklers hboot n

/-! ## An edit session -/

/-- Assertions along `editSession`: `Loop thr` where the loop condition is
evaluated, `Polled thr` after the poll, `Ended` before the closing delay. -/
structure SessionPoints where
  Start : Assn
  Begun : Assn
  Loop : Throw → Assn
  Polled : Throw → Assn
  Ended : Assn
  Over : Assn

/-- The conditions of an edit session. -/
structure SessionOutline (J : Safety) (env : Env) (P : SessionPoints) :
    Prop where
  start : ∀ d, Marks J (fun l t v => P.Start l t v ∧ v.date = d) (.editStart d)
    (fun l t v => P.Begun l t v ∧ v.date = d)
  shown : ∀ d, Enters J (fun l t v => P.Begun l t v ∧ v.date = d)
    (.lcd (AlarmDisplay.editScreen d)) (P.Loop .idle)
  poll : ∀ thr, isExitEditMode thr = false →
    Safely J env (P.Loop thr) (runEditAlarmMode .idle) P.Polled
  apply : ∀ thr, Safely J env (P.Polled thr) (applyThrow thr) fun _ => P.Loop thr
  finish : ∀ thr, isExitEditMode thr = true →
    Marks J (P.Loop thr) (.editEnd thr) P.Ended
  pause : Waits J env P.Ended 1000 P.Over

namespace SessionOutline

variable {P : SessionPoints}

theorem loop (O : SessionOutline J env P) (thr : Throw) :
    Safely J env (P.Loop thr) (editLoop thr) fun _ => P.Ended := by
  refine Safely.loop P.Loop (fun thr => Safely.ite ?_ ?_) thr
  · intro hthr
    exact (Safely.mark (Q := fun _ => P.Ended) (O.finish thr hthr)).seq fun _ =>
      Safely.pure fun _ _ _ _ h => h
  · intro hthr
    refine (O.poll thr (by simpa using hthr)).seq fun thr' => ?_
    exact (O.apply thr').seq fun _ => Safely.pure fun _ _ _ _ h => h

theorem safely (O : SessionOutline J env P) :
    Safely J env P.Start editSession fun _ => P.Over := by
  refine Safely.vars fun v₀ => ?_
  have hstart : Marks J (fun l t v => P.Start l t v ∧ v = v₀) (.editStart v₀.date)
      (fun l t v => P.Begun l t v ∧ v.date = v₀.date) := by
    rintro l t v hJ ⟨hS, rfl⟩
    exact O.start v.date l t v hJ ⟨hS, rfl⟩
  refine (Safely.mark (Q := fun _ => _) hstart).seq fun _ => ?_
  refine (Safely.act (Q := fun _ => P.Loop .idle) (O.shown _)).seq fun _ => ?_
  exact (O.loop .idle).seq fun _ => Safely.wait O.pause

end SessionOutline

/-- `ptIO` from `Wait` to `Idle`, around edit sessions. -/
theorem SessionOutline.protothread {P : SessionPoints}
    (O : SessionOutline J env P) (Wait Clicked Idle : Assn)
    (hlc : ∀ l t v, Wait l t v → Wait l t { v with ptIo := true })
    (hlow : Reads J env Wait .btnEditMode false Idle)
    (hhigh : Reads J env Wait .btnEditMode true Clicked)
    (hmode : ∀ l t v, Clicked l t v → Clicked l t { v with editMode := true })
    (hpause : Enters J Clicked (.delay 500) P.Start)
    (hover : ∀ l t v, J l t → P.Over l t v → Wait l t v) :
    Safely J env Wait ptIO fun _ => Idle := by
  have hclick : Safely J env Wait isClickedEditBtn
      (fun b => if b = true then P.Start else Idle) := by
    refine (Safely.digitalRead (Q := fun b => if b = true then Clicked else Idle)
      fun level => ?_).seq fun level => ?_
    · cases level with
      | true => exact hhigh
      | false => exact hlow
    · cases level with
      | false => exact Safely.pure fun _ _ _ _ h => h
      | true =>
          refine (Safely.assign (Q := fun _ => Clicked)
            fun l t v _ h => hmode l t v h).seq fun _ => ?_
          exact (Safely.delay (Q := fun _ => P.Start) hpause).seq fun _ =>
            Safely.pure fun _ _ _ _ h => h
  refine Safely.protothread Vars.ptIo Wait Wait Wait P.Start
    (Safely.pure fun _ _ _ _ h => h) (fun l t v _ h => hlc l t v h)
    (fun l t v _ h => hlc l t v h) hclick ?_ ?_
  · exact O.safely.weaken (fun _ _ _ _ h => h) fun _ => hover
  · intro l t v _ h
    cases v.ptIo <;> exact h

end SprinklersAlarmClock
