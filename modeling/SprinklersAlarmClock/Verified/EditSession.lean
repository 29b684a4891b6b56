import SprinklersAlarmClock.Firmware.Outline
import SprinklersAlarmClock.Firmware.Readings
import SprinklersAlarmClock.Verified.Dismissal

/-!
# Edit sessions

A session that starts at minute `m` of the day and reads `H` hour presses and
`M` minute presses stands at minute `m + 60 H + M` of the day, in the `date`
object and on the LCD alike (`Edits`).  A confirm hands exactly that time to
`setAlarm2`, which writes it to the alarm-2 registers in BCD with the mask bits
of an hour-and-minute match.  An exit writes nothing, and nothing else writes
those registers.
-/

namespace SprinklersAlarmClock

open Logic SPIOStream TimeSystemData AlarmDisplay

/-! ## Minutes of the day -/

/-- The hour and the minute are those of a day. -/
def Valid (d : RTCDateTime) : Prop := d.hour.toNat < 24 ∧ d.minute.toNat < 60

/-- The minutes of a day. -/
def minutesOf (d : RTCDateTime) : Nat := 60 * d.hour.toNat + d.minute.toNat

/-- A limit that is not reached. -/
theorem not_reached {b limit : UInt8} (h : b.toNat < limit.toNat) : ¬ b ≥ limit := by
  rw [ge_iff_le, UInt8.le_iff_toNat_le]
  exact Nat.not_le.mpr h

/-- A byte below its limit, after an increment: it starts again from zero or
stays below. -/
theorem byte_carry {b limit : UInt8} (hb : b.toNat < limit.toNat) :
    (b + 1 ≥ limit ∧ b.toNat + 1 = limit.toNat ∧ (b + 1 - limit).toNat = 0) ∨
      (¬ b + 1 ≥ limit ∧ b.toNat + 1 < limit.toNat ∧
        (b + 1).toNat = b.toNat + 1) := by
  have hlimit := limit.toNat_lt
  have hsucc : (b + 1).toNat = b.toNat + 1 := by
    rw [UInt8.toNat_add]
    show (b.toNat + 1) % 256 = _
    omega
  by_cases hc : b.toNat + 1 < limit.toNat
  · right
    exact ⟨not_reached (by omega), hc, hsucc⟩
  · left
    have heq : b + 1 = limit := UInt8.toNat_inj.mp (by omega)
    rw [heq, UInt8.sub_self]
    exact ⟨UInt8.le_refl _, by omega, rfl⟩

/-- The hour byte after `addHour` or a carry out of the minutes. -/
theorem hour_carry {h : UInt8} (hh : h.toNat < 24) :
    (h + 1 ≥ 24 ∧ h.toNat + 1 = 24 ∧ (h + 1 - 24).toNat = 0) ∨
      (¬ h + 1 ≥ 24 ∧ h.toNat + 1 < 24 ∧ (h + 1).toNat = h.toNat + 1) :=
  @byte_carry h 24 hh

/-- The minute byte after `addMinute`. -/
theorem minute_carry {m : UInt8} (hm : m.toNat < 60) :
    (m + 1 ≥ 60 ∧ m.toNat + 1 = 60 ∧ (m + 1 - 60).toNat = 0) ∨
      (¬ m + 1 ≥ 60 ∧ m.toNat + 1 < 60 ∧ (m + 1).toNat = m.toNat + 1) :=
  @byte_carry m 60 hm

/-- `d'` is `d` moved by `n` minutes, as far as the code carries. -/
structure Moved (n : Nat) (d d' : RTCDateTime) : Prop where
  valid : Valid d'
  minutes : minutesOf d' = (minutesOf d + n) % 1440
  day : d'.day.toNat = (d.day.toNat + (minutesOf d + n) / 1440) % 256
  month : d'.month = d.month
  year : d'.year = d.year
  second : d'.second = d.second

/-- A move read off the days it carries. -/
theorem Moved.of_carry {n carry : Nat} {d d' : RTCDateTime} (hvalid : Valid d')
    (hminutes : 1440 * carry + minutesOf d' = minutesOf d + n)
    (hday : d'.day.toNat = (d.day.toNat + carry) % 256)
    (hrest : d'.month = d.month ∧ d'.year = d.year ∧ d'.second = d.second) :
    Moved n d d' := by
  obtain ⟨hh, hm⟩ := hvalid
  have hlt : minutesOf d' < 1440 := by
    unfold minutesOf
    omega
  have hcarry : carry = (minutesOf d + n) / 1440 := by omega
  subst hcarry
  exact ⟨⟨hh, hm⟩, by omega, hday, hrest.1, hrest.2.1, hrest.2.2⟩

/-- A carry into the day byte. -/
theorem day_carry (b : UInt8) : (b + 1).toNat = (b.toNat + 1) % 256 :=
  UInt8.toNat_add b 1

/-- Adding nothing does not wrap. -/
theorem day_kept (b : UInt8) : b.toNat = (b.toNat + 0) % 256 :=
  (Nat.mod_eq_of_lt b.toNat_lt).symm

/-- An hour more is 60 minutes more. -/
theorem addHour_moved {d : RTCDateTime} (hd : Valid d) : Moved 60 d (addHour d) := by
  obtain ⟨hh, hm⟩ := hd
  have hmin : ¬ d.minute ≥ 60 := not_reached hm
  unfold addHour checkTimeFormat
  simp only [hmin, if_false]
  rcases hour_carry hh with ⟨hge, h23, hzero⟩ | ⟨hlt, hh', hsucc⟩
  · simp only [hge, if_true]
    refine Moved.of_carry ⟨?_, hm⟩ ?_ (day_carry d.day) ⟨rfl, rfl, rfl⟩
    · rw [hzero]
      decide
    · show 1440 * 1 + (60 * (d.hour + 1 - 24).toNat + d.minute.toNat) =
        60 * d.hour.toNat + d.minute.toNat + 60
      rw [hzero]
      omega
  · simp only [hlt, if_false]
    refine Moved.of_carry ⟨?_, hm⟩ ?_ (day_kept d.day) ⟨rfl, rfl, rfl⟩
    · rw [hsucc]
      exact hh'
    · show 1440 * 0 + (60 * (d.hour + 1).toNat + d.minute.toNat) =
        60 * d.hour.toNat + d.minute.toNat + 60
      rw [hsucc]
      omega

/-- A minute more is one. -/
theorem addMinute_moved {d : RTCDateTime} (hd : Valid d) : Moved 1 d (addMinute d) := by
  obtain ⟨hh, hm⟩ := hd
  unfold addMinute checkTimeFormat
  rcases minute_carry hm with ⟨hmin, h59, hzero⟩ | ⟨hmin, hm', hsucc⟩
  · -- a carry into the hours, and perhaps out of them
    simp only [hmin, if_true]
    rcases hour_carry hh with ⟨hge, h23, hz⟩ | ⟨hlt, hh', hs⟩
    · simp only [hge, if_true]
      refine Moved.of_carry ⟨?_, ?_⟩ ?_ (day_carry d.day) ⟨rfl, rfl, rfl⟩
      · rw [hz]
        decide
      · rw [hzero]
        decide
      · show 1440 * 1 + (60 * (d.hour + 1 - 24).toNat + (d.minute + 1 - 60).toNat) =
          60 * d.hour.toNat + d.minute.toNat + 1
        rw [hz, hzero]
        omega
    · simp only [hlt, if_false]
      refine Moved.of_carry ⟨?_, ?_⟩ ?_ (day_kept d.day) ⟨rfl, rfl, rfl⟩
      · rw [hs]
        exact hh'
      · rw [hzero]
        decide
      · show 1440 * 0 + (60 * (d.hour + 1).toNat + (d.minute + 1 - 60).toNat) =
          60 * d.hour.toNat + d.minute.toNat + 1
        rw [hs, hzero]
        omega
  · -- no carry at all
    have hhour : ¬ d.hour ≥ 24 := not_reached hh
    simp only [hmin, if_false, hhour]
    refine Moved.of_carry ⟨hh, ?_⟩ ?_ (day_kept d.day) ⟨rfl, rfl, rfl⟩
    · rw [hsucc]
      exact hm'
    · show 1440 * 0 + (60 * d.hour.toNat + (d.minute + 1).toNat) =
        60 * d.hour.toNat + d.minute.toNat + 1
      rw [hsucc]
      omega

/-! ## Reading a session -/

namespace Event

/-- The date a session starts with. -/
def editStart? : Event → Option RTCDateTime
  | .mark (.editStart d) => some d
  | _ => none

/-- The arguments of a call of `setAlarm2`. -/
def setAlarm2? : Event → Option (UInt8 × UInt8 × UInt8)
  | .mark (.setAlarm2 dydw hour minute) => some (dydw, hour, minute)
  | _ => none

/-- The screen this event draws. -/
def lcd? : Event → Option (List LcdCmd)
  | .lcd cmds => some cmds
  | _ => none

/-- The chip is written to. -/
def writes : Event → Bool
  | .writeRegisters _ _ _ => true
  | _ => false

/-- The start register and the bytes of a write that reaches the alarm-2
registers 0x0B to 0x0D. -/
def alarm2Write? : Event → Option (UInt8 × List UInt8)
  | .writeRegisters reg values _ =>
      if reg.toNat ≤ 0x0D ∧ 0x0B < reg.toNat + values.length then some (reg, values)
      else none
  | _ => none

end Event

/-- The entries since the last edit session began. -/
def session (l : Log) : Log := since (fun e => e.event.editStart?.isSome) l

/-- The date the last edit session began with. -/
def sessionDate (l : Log) : Option RTCDateTime :=
  latest (fun e => e.event.editStart?) l

/-- How often `runEditAlarmMode` has assigned `thr`. -/
def presses (thr : Throw) (l : Log) : Nat :=
  l.countP fun e => e.event.throwSet? == some thr

/-- The answer set last. -/
def lastThrow (l : Log) : Option Throw := latest (fun e => e.event.throwSet?) l

/-- What the LCD shows. -/
def shown (l : Log) : Option (List LcdCmd) := latest (fun e => e.event.lcd?) l

/-- The calls of `setAlarm2`, newest first. -/
def alarmCalls (l : Log) : List (UInt8 × UInt8 × UInt8) :=
  l.filterMap fun e => e.event.setAlarm2?

/-- The writes that reach the alarm-2 registers, each with its start register. -/
def alarm2Writes (l : Log) : List (UInt8 × List UInt8) :=
  l.filterMap fun e => e.event.alarm2Write?

/-- No register of the clock chip is written. -/
def Untouched (l : Log) : Prop := ∀ e ∈ l, e.event.writes = false

/-- One more event that writes nothing. -/
theorem Untouched.cons {e : Entry} {l : Log} (he : e.event.writes = false)
    (hl : Untouched l) : Untouched (e :: l) :=
  List.forall_mem_cons.mpr ⟨he, hl⟩

/-! ## The property -/

/-- Minutes of the day, before reduction, that a session stands at. -/
def total (d : RTCDateTime) (l : Log) : Nat :=
  minutesOf d + 60 * presses .throwAddHour l + presses .throwAddMin l

/-- The binary-coded decimal of a number below 100. -/
def bcd (n : Nat) : UInt8 := UInt8.ofNat (n / 10 * 16 + n % 10)

/-- One alarm was set in the session `l` that began with `d`: at the time the
presses lead to, which is the time last shown, and with the register bytes of an
hour-and-minute match in one write that starts at the minute register 0x0B. -/
def ConfirmedAs (d : RTCDateTime) (l : Log) : Prop :=
  ∃ dydw hour minute d' dayByte,
    alarmCalls l = [(dydw, hour, minute)] ∧
    hour.toNat = total d l % 1440 / 60 ∧
    minute.toNat = total d l % 60 ∧
    shown l = some (editScreen d') ∧ d'.hour = hour ∧ d'.minute = minute ∧
    alarm2Writes l = [(0x0B, [bcd minute.toNat, bcd hour.toNat, dayByte])] ∧
    bcd minute.toNat &&& 0b10000000 = 0 ∧ bcd hour.toNat &&& 0b10000000 = 0 ∧
    dayByte &&& 0b10000000 = 0b10000000

/-- What is confirmed is what was shown and what is armed. -/
def SessionOk (e : Entry) (older : Log) : Prop :=
  (e.event = .mark (.editEnd .throwConfirm) →
    ∃ d, sessionDate older = some d ∧ ConfirmedAs d (session older)) ∧
  (e.event = .mark (.editEnd .throwExit) → Untouched (session older)) ∧
  (e.event.alarm2Write?.isSome = true →
    lastThrow (session older) = some .throwConfirm ∧
      ∃ call ∈ older.head?, call.event.setAlarm2?.isSome = true)

/-- Every clock reading is a time of day. -/
def ClockValid (env : Env) : Prop :=
  ∀ i, Valid (DS3231.decodeDateTime (env.clock i))

namespace EditSession

/-- Every session that ends is fine. -/
def Goal : Safety := fun l _ => Always SessionOk l

/-! ## Events a session is not read from -/

/-- The events the readings of a session look at. -/
def tells : Event → Bool
  | .lcd _ | .mark (.editStart _) | .mark (.throwSet _) => true
  | .mark (.setAlarm2 _ _ _) | .mark (.editEnd _) => true
  | .writeRegisters _ _ _ => true
  | _ => false

/-- The same, but for writes that miss the alarm-2 registers. -/
def reveals : Event → Bool
  | .writeRegisters reg values a2f =>
      (Event.writeRegisters reg values a2f).alarm2Write?.isSome
  | e => tells e

/-- What the session is not told by, its end is not told by either. -/
theorem reveals_of_tells {e : Event} (h : tells e = false) : reveals e = false := by
  cases e with
  | writeRegisters _ _ _ => cases h
  | _ => exact h

/-- Only the end of a session says something of it. -/
theorem sessionOk_of {e : Entry} {older : Log}
    (hend : ∀ thr, e.event ≠ .mark (.editEnd thr))
    (hwrite : e.event.alarm2Write? = none) : SessionOk e older := by
  refine ⟨fun h => absurd h (hend _), fun h => absurd h (hend _), fun h => ?_⟩
  rw [hwrite] at h
  cases h

/-- An event that reveals nothing. -/
structure Silent (e : Event) : Prop where
  start : e.editStart? = none
  set : e.throwSet? = none
  call : e.setAlarm2? = none
  screen : e.lcd? = none
  write : e.alarm2Write? = none
  finish : ∀ thr, e ≠ .mark (.editEnd thr)

/-- Events that reveal nothing are silent. -/
theorem silent_of_reveals {e : Event} (h : reveals e = false) : Silent e := by
  cases e with
  | mark p =>
      cases p with
      | editStart _ => cases h
      | throwSet _ => cases h
      | setAlarm2 _ _ _ => cases h
      | editEnd _ => cases h
      | _ => exact ⟨rfl, rfl, rfl, rfl, rfl, fun _ h => by cases h⟩
  | lcd _ => cases h
  | writeRegisters reg values a2f =>
      exact ⟨rfl, rfl, rfl, rfl,
        Option.isNone_iff_eq_none.mp (Option.isSome_eq_false_iff.mp h),
        fun _ h => by cases h⟩
  | _ => exact ⟨rfl, rfl, rfl, rfl, rfl, fun _ h => by cases h⟩

section Silent

variable {e : Event} (h : Silent e) (t : Nat) (l : Log)

include h

/-- A silent event is fine. -/
theorem Silent.ok (older : Log) : SessionOk ⟨t, e⟩ older :=
  sessionOk_of h.finish h.write

/-- It is one more entry of its session. -/
theorem Silent.session : session (⟨t, e⟩ :: l) = ⟨t, e⟩ :: session l := by
  unfold SprinklersAlarmClock.session
  rw [since_cons, h.start]
  rfl

/-- The date the session started with is the same. -/
theorem Silent.sessionDate : sessionDate (⟨t, e⟩ :: l) = sessionDate l := by
  unfold SprinklersAlarmClock.sessionDate
  rw [latest_cons, h.start, Option.none_or]

/-- It is no press. -/
theorem Silent.presses (thr : Throw) :
    presses thr (⟨t, e⟩ :: l) = presses thr l := by
  unfold SprinklersAlarmClock.presses
  rw [List.countP_cons, h.set]
  rfl

/-- It adds nothing. -/
theorem Silent.total (d : RTCDateTime) : total d (⟨t, e⟩ :: l) = total d l := by
  unfold SprinklersAlarmClock.total
  rw [h.presses, h.presses]

/-- It draws nothing. -/
theorem Silent.shown : shown (⟨t, e⟩ :: l) = shown l := by
  unfold SprinklersAlarmClock.shown
  rw [latest_cons, h.screen, Option.none_or]

/-- It sets no answer. -/
theorem Silent.lastThrow : lastThrow (⟨t, e⟩ :: l) = lastThrow l := by
  unfold SprinklersAlarmClock.lastThrow
  rw [latest_cons, h.set, Option.none_or]

/-- It is no call of `setAlarm2`. -/
theorem Silent.alarmCalls : alarmCalls (⟨t, e⟩ :: l) = alarmCalls l := by
  unfold SprinklersAlarmClock.alarmCalls
  exact List.filterMap_cons_none (f := fun e : Entry => e.event.setAlarm2?) h.call

/-- It writes to no alarm-2 register. -/
theorem Silent.alarm2Writes : alarm2Writes (⟨t, e⟩ :: l) = alarm2Writes l := by
  unfold SprinklersAlarmClock.alarm2Writes
  exact List.filterMap_cons_none (f := fun e : Entry => e.event.alarm2Write?) h.write

end Silent

/-! ## The invariant -/

/-- The `date` object holds a time of day. -/
def ValidDate : Assn := fun _ _ v => Valid v.date

/-- The session stands `inc` minutes before the time its presses lead to, and
has not touched the clock chip. -/
structure Standing (inc : Nat) (d date : RTCDateTime) (l : Log) : Prop where
  valid : Valid date
  minutes : (minutesOf date + inc) % 1440 = total d l % 1440
  untouched : Untouched l
  calls : alarmCalls l = []
  writes : alarm2Writes l = []

/-- An open session: what `date` holds is what the LCD shows. -/
def Edits (inc : Nat) : Assn := fun l _ v =>
  ∃ d, sessionDate l = some d ∧ Standing inc d v.date (session l) ∧
    shown (session l) = some (editScreen v.date)

/-- The same, with the confirming press already read. -/
def Confirming : Assn := fun l t v =>
  Edits 0 l t v ∧ lastThrow (session l) = some .throwConfirm

/-- A session whose alarm has been set. -/
def Confirmed : Assn := fun l _ v =>
  Valid v.date ∧ ∃ d, sessionDate l = some d ∧ ConfirmedAs d (session l)

/-- So it leaves the account of the session as it is. -/
theorem Standing.silent {inc : Nat} {d date : RTCDateTime} {l : Log} {e : Event}
    {t : Nat} (h : Silent e) (hw : e.writes = false) (hs : Standing inc d date l) :
    Standing inc d date (⟨t, e⟩ :: l) where
  valid := hs.valid
  minutes := by rw [h.total, hs.minutes]
  untouched := hs.untouched.cons hw
  calls := by rw [h.alarmCalls, hs.calls]
  writes := by rw [h.alarm2Writes, hs.writes]

/-- Events a session is not told by write nothing. -/
theorem writes_of_tells {e : Event} (h : tells e = false) : e.writes = false := by
  cases e with
  | writeRegisters _ _ _ => cases h
  | _ => rfl

/-- The session goes on. -/
theorem edits_silent {e : Event} (h : tells e = false) (inc : Nat) :
    Enters Goal (Edits inc) e (Edits inc) := by
  rintro l t t' v - hJ ⟨d, hd, hs, hshown⟩
  have hsilent := silent_of_reveals (reveals_of_tells h)
  refine ⟨⟨hsilent.ok t' l, hJ⟩, d, ?_, ?_, ?_⟩
  · rw [hsilent.sessionDate, hd]
  · rw [hsilent.session]
    exact hs.silent hsilent (writes_of_tells h)
  · rw [hsilent.session, hsilent.shown, hshown]

/-- A confirm goes on. -/
theorem confirming_silent {e : Event} (h : tells e = false) :
    Enters Goal Confirming e Confirming := by
  intro l t t' v ht hJ hK
  have hedits := edits_silent h 0 l t t' v ht hJ hK.1
  have hsilent := silent_of_reveals (reveals_of_tells h)
  refine ⟨hedits.1, hedits.2, ?_⟩
  rw [hsilent.session, hsilent.lastThrow, hK.2]

/-- What has been confirmed stays so. -/
theorem ConfirmedAs.silent {d : RTCDateTime} {l : Log} {e : Event} {t : Nat}
    (h : Silent e) (hc : ConfirmedAs d l) : ConfirmedAs d (⟨t, e⟩ :: l) := by
  unfold ConfirmedAs
  rw [h.alarmCalls, h.total, h.shown, h.alarm2Writes]
  exact hc

/-- Until the session ends. -/
theorem confirmed_silent {e : Event} (h : reveals e = false) :
    Enters Goal Confirmed e Confirmed := by
  rintro l t t' v - hJ ⟨hv, d, hd, hc⟩
  have hsilent := silent_of_reveals h
  refine ⟨⟨hsilent.ok t' l, hJ⟩, hv, d, ?_, ?_⟩
  · rw [hsilent.sessionDate, hd]
  · rw [hsilent.session]
    exact ConfirmedAs.silent hsilent hc

/-- The events the property speaks of. -/
def settles : Event → Bool
  | .mark (.editEnd _) => true
  | e => e.alarm2Write?.isSome

/-- Outside the sessions nothing ends one. -/
theorem ok_of_settles {e : Event} (h : settles e = false) (t : Nat) (l : Log) :
    SessionOk ⟨t, e⟩ l := by
  have hend : ∀ thr, e ≠ .mark (.editEnd thr) := by
    rintro thr rfl
    cases h
  refine sessionOk_of hend ?_
  cases e with
  | writeRegisters _ _ _ =>
      exact Option.isNone_iff_eq_none.mp (Option.isSome_eq_false_iff.mp h)
  | _ => rfl

/-- The date stays valid. -/
theorem validDate_silent {e : Event} (h : settles e = false) :
    Enters Goal ValidDate e ValidDate :=
  fun l _ t' _ _ hJ hv => ⟨⟨ok_of_settles h t' l, hJ⟩, hv⟩

/-! ## A poll -/

/-- Minutes by which an answer moves the session. -/
def step : Throw → Nat
  | .throwAddHour => 60
  | .throwAddMin => 1
  | .idle | .throwExit | .throwConfirm => 0

/-- After a poll that answered `thr`. -/
def Polled (thr : Throw) : Assn := fun l t v =>
  Edits (step thr) l t v ∧
    (thr = .throwConfirm → lastThrow (session l) = some .throwConfirm)

/-- The assertions along a poll. -/
def poll : PollPoints where
  Scan := fun _ => Edits 0
  High := fun _ => Edits 0
  Held := fun b => Edits (step b.throwOf)
  Released := fun b => Edits (step b.throwOf)

/-- An answer adds nothing by itself. -/
theorem total_throwSet (d : RTCDateTime) (thr : Throw) (t : Nat) (l : Log) :
    total d (⟨t, .mark (.throwSet thr)⟩ :: l) = total d l + step thr := by
  unfold total presses
  rw [List.countP_cons, List.countP_cons]
  cases thr with
  | throwAddHour =>
      show _ + 60 * (_ + 1) + (_ + 0) = _ + 60
      omega
  | throwAddMin => rfl
  | idle => rfl
  | throwExit => rfl
  | throwConfirm => rfl

/-- An answer leaves the session one step behind its presses. -/
theorem edits_throwSet (thr : Throw) :
    Enters Goal (Edits 0) (.mark (.throwSet thr)) (Polled thr) := by
  rintro l t t' v - hJ ⟨d, hd, hs, hshown⟩
  have hok : SessionOk ⟨t', .mark (.throwSet thr)⟩ l :=
    sessionOk_of (fun _ h => by cases h) rfl
  refine ⟨⟨hok, hJ⟩, ⟨d, hd, ?_, hshown⟩, ?_⟩
  · show Standing (step thr) d v.date (⟨t', .mark (.throwSet thr)⟩ :: session l)
    refine ⟨hs.valid, ?_, hs.untouched.cons rfl, hs.calls, hs.writes⟩
    have hmin := hs.minutes
    rw [total_throwSet]
    omega
  · rintro rfl
    rfl

/-- The parts of a poll. -/
theorem poll_outline (env : Env) :
    PollOutline Goal env .idle poll (Edits 0) Polled where
  entry := fun _ _ _ _ h => h
  low := fun _ => (edits_silent rfl 0).reads
  passed := fun _ _ _ _ h => ⟨h, fun h => by cases h⟩
  high := fun _ => (edits_silent rfl 0).reads
  answer := fun b _ => (edits_throwSet b.throwOf).marks
  press := fun b _ l t v hJ h =>
    have h' := edits_throwSet b.throwOf l t t v (Nat.le_refl t) hJ h
    ⟨h'.1, h'.2.1⟩
  held := fun b _ => (edits_silent rfl (step b.throwOf)).reads
  release := fun b _ => (edits_silent rfl (step b.throwOf)).reads
  settle := by
    intro b hb l t t' v ht hJ h
    have h' := edits_silent (e := .delay 10) rfl (step b.throwOf) l t t' v ht hJ h
    refine ⟨h'.1, h'.2, fun hc => ?_⟩
    cases b with
    | btnAlarmConfirm => cases hb
    | _ => cases hc

/-! ## Acting on an answer -/

/-- Where the loop condition is evaluated on `thr`. -/
def Loop (thr : Throw) : Assn :=
  if thr = .throwConfirm then Confirmed else Edits 0

/-- `date` has moved, the LCD has not. -/
def Unshown (date : RTCDateTime) : Assn := fun l _ v =>
  v.date = date ∧ ∃ d, sessionDate l = some d ∧ Standing 0 d date (session l)

/-- The new time is shown. -/
theorem unshown_lcd (date : RTCDateTime) :
    Enters Goal (Unshown date) (.lcd (editScreen date)) (Edits 0) := by
  rintro l t t' v - hJ ⟨rfl, d, hd, hs⟩
  have hok : SessionOk ⟨t', .lcd (editScreen v.date)⟩ l :=
    sessionOk_of (fun _ h => by cases h) rfl
  refine ⟨⟨hok, hJ⟩, d, hd, ?_, rfl⟩
  show Standing 0 d v.date (⟨t', .lcd (editScreen v.date)⟩ :: session l)
  exact ⟨hs.valid, hs.minutes, hs.untouched.cons rfl, hs.calls, hs.writes⟩

/-- Both add branches: mark the call, move `date`, show it. -/
theorem add_shown (env : Env) (p : Point) (hp : tells (.mark p) = false)
    (inc : Nat) (f : RTCDateTime → RTCDateTime)
    (hf : ∀ d, Valid d → Moved inc d (f d)) :
    Safely Goal env (Edits inc)
      (mark p >>= fun _ => assign (fun v => { v with date := f v.date }) >>= fun _ =>
        vars >>= fun v => displayEditModeUI v.date) fun _ => Edits 0 := by
  refine (Safely.mark (Q := fun _ => Edits inc) (edits_silent hp inc).marks).seq
    fun _ => ?_
  refine Safely.seq (M := fun _ l t v => Unshown v.date l t v) (Safely.assign ?_)
    fun _ => Safely.vars fun v₀ => Safely.act ?_
  · rintro l t v - ⟨d, hd, hs, -⟩
    have hmoved := hf v.date hs.valid
    refine ⟨rfl, d, hd, hmoved.valid, ?_, hs.untouched, hs.calls, hs.writes⟩
    have hmin := hmoved.minutes
    have hmod := hs.minutes
    show (minutesOf (f v.date) + 0) % 1440 = _
    omega
  · rintro l t t' v ht hJ ⟨h, rfl⟩
    exact unshown_lcd v.date l t t' v ht hJ h

/-! ## Setting the alarm -/

/-- `setAlarm2` has been entered with the time of the session. -/
def Called (date : RTCDateTime) : Assn := fun l _ v =>
  v.date = date ∧ lastThrow (session l) = some .throwConfirm ∧
  (∃ call ∈ l.head?, call.event.setAlarm2?.isSome = true) ∧
  ∃ d, sessionDate l = some d ∧ Valid date ∧
    minutesOf date % 1440 = total d (session l) % 1440 ∧
    alarmCalls (session l) = [(date.day, date.hour, date.minute)] ∧
    shown (session l) = some (editScreen date) ∧ alarm2Writes (session l) = []

/-- The register bytes of an hour-and-minute match. -/
theorem alarm2Bytes_matchHM {date : RTCDateTime} (h : Valid date) :
    ∃ dayByte, DS3231.alarm2Bytes date.day date.hour date.minute .matchHM =
        [bcd date.minute.toNat, bcd date.hour.toNat, dayByte] ∧
      bcd date.minute.toNat &&& 0b10000000 = 0 ∧
      bcd date.hour.toNat &&& 0b10000000 = 0 ∧
      dayByte &&& 0b10000000 = 0b10000000 := by
  have hbyte : ∀ k < 60, DS3231.dec2bcd (UInt8.ofNat k) &&& 0b01111111 = bcd k ∧
      bcd k &&& 0b10000000 = 0 := by decide
  have hday : ∀ k < 256, (UInt8.ofNat k ||| 0b10000000) &&& 0b10000000 =
      0b10000000 := by decide +kernel
  have hmin := hbyte date.minute.toNat h.2
  have hhour := hbyte date.hour.toNat (Nat.lt_trans h.1 (by decide))
  rw [UInt8.ofNat_toNat] at hmin hhour
  refine ⟨DS3231.dec2bcd date.day ||| 0b10000000, ?_, hmin.2, hhour.2, ?_⟩
  · unfold DS3231.alarm2Bytes
    rw [← hmin.1, ← hhour.1]
  · have hd := hday (DS3231.dec2bcd date.day).toNat (DS3231.dec2bcd date.day).toNat_lt
    rwa [UInt8.ofNat_toNat] at hd

/-- The burst of `setAlarm2` brings minute, hour and day byte to their registers.
-/
theorem called_write (date : RTCDateTime) (a2f : Bool) :
    Enters Goal (Called date) (.writeRegisters regAlarm2
      (DS3231.alarm2Bytes date.day date.hour date.minute .matchHM) a2f)
      Confirmed := by
  rintro l t t' v - hJ ⟨rfl, hthrow, hcall, d, hd, hvalid, hmin, hcalls, hshown,
    hwrites⟩
  obtain ⟨dayByte, hbytes, hm0, hh0, hd1⟩ := alarm2Bytes_matchHM hvalid
  rw [hbytes]
  obtain ⟨hh, hm⟩ := hvalid
  unfold minutesOf at hmin
  refine ⟨⟨⟨(fun h => by cases h), (fun h => by cases h), fun _ => ⟨hthrow, hcall⟩⟩, hJ⟩,
    ⟨hh, hm⟩, d, hd, v.date.day, v.date.hour, v.date.minute, v.date, dayByte,
    hcalls, ?_, ?_, hshown, rfl, rfl, ?_, hm0, hh0, hd1⟩
  · show v.date.hour.toNat = total d (session l) % 1440 / 60
    omega
  · show v.date.minute.toNat = total d (session l) % 60
    omega
  · show (regAlarm2, [bcd v.date.minute.toNat, bcd v.date.hour.toNat, dayByte]) ::
      alarm2Writes (session l) = _
    rw [hwrites]
    rfl

/-- `setAlarm2` as the confirm branch calls it. -/
theorem setAlarm2_confirmed (env : Env) (date : RTCDateTime) :
    Safely Goal env (fun l t v => Confirming l t v ∧ v.date = date)
      (DS3231.setAlarm2 date.day date.hour date.minute .matchHM false)
      fun _ => Confirmed := by
  refine (Safely.mark (Q := fun _ l t v => Confirming l t v ∧ v.date = date)
    ?_).seq fun _ => Safely.seq (M := fun _ => Confirmed) ?_ fun _ => ?_
  · rintro l t v hJ ⟨h, rfl⟩
    have h' := confirming_silent (e := .mark .enterDS3231) rfl l t t v
      (Nat.le_refl t) hJ h
    exact ⟨h'.1, h'.2, rfl⟩
  · refine (Safely.mark (Q := fun _ => Called date) ?_).seq fun _ => ?_
    · rintro l t v hJ ⟨⟨⟨d, hd, hs, hshown⟩, hthrow⟩, rfl⟩
      have hok : SessionOk ⟨t, .mark (.setAlarm2 v.date.day v.date.hour
          v.date.minute)⟩ l := sessionOk_of (fun _ h => by cases h) rfl
      refine ⟨⟨hok, hJ⟩, rfl, hthrow, ⟨_, rfl, rfl⟩, d, hd, hs.valid, hs.minutes,
        ?_, hshown, hs.writes⟩
      show _ :: alarmCalls (session l) = _
      rw [hs.calls]
    refine (Safely.writeBurst (Q := fun _ => Confirmed) (called_write date)).seq
      fun _ => ?_
    have harm : Safely Goal env Confirmed (DS3231.armAlarm2 false)
        fun _ => Confirmed :=
      (Safely.ask (Q := fun _ => Confirmed) fun _ => confirmed_silent rfl).seq
        fun _ => Safely.writeBurst fun _ => confirmed_silent rfl
    have hclear : Safely Goal env Confirmed DS3231.clearAlarm2
        fun _ => Confirmed :=
      (Safely.ask (Q := fun _ => Confirmed) fun _ => confirmed_silent rfl).seq
        fun _ => Safely.writeBurst fun _ => confirmed_silent rfl
    exact harm.seq fun _ => hclear
  · exact (Safely.mark (Q := fun _ => Confirmed) (confirmed_silent rfl).marks).seq
      fun _ => Safely.pure fun _ _ _ _ h => h

/-- What the loop makes of an answer that does not leave it. -/
theorem applyThrow_loop (env : Env) (thr : Throw) :
    Safely Goal env (Polled thr) (applyThrow thr) fun _ => Loop thr := by
  cases thr with
  | idle => exact Safely.pure fun _ _ _ _ h => h.1
  | throwExit => exact Safely.pure fun _ _ _ _ h => h.1
  | throwAddHour =>
      exact (add_shown env .addHour rfl 60 addHour fun _ => addHour_moved).weaken
        (fun _ _ _ _ h => h.1) fun _ _ _ _ _ h => h
  | throwAddMin =>
      exact (add_shown env .addMinute rfl 1 addMinute
        fun _ => addMinute_moved).weaken (fun _ _ _ _ h => h.1)
        fun _ _ _ _ _ h => h
  | throwConfirm =>
      refine Safely.vars fun v₀ => ?_
      refine (setAlarm2_confirmed env v₀.date).weaken ?_ fun _ _ _ _ _ h => h
      rintro l t v - ⟨⟨hedits, hthrow⟩, rfl⟩
      exact ⟨⟨hedits, hthrow rfl⟩, rfl⟩

/-! ## A session -/

/-- The assertions along a session. -/
def points : SessionPoints where
  Start := ValidDate
  Begun := fun l _ v => Valid v.date ∧ sessionDate l = some v.date ∧ session l = []
  Loop := Loop
  Polled := Polled
  Ended := ValidDate
  Over := ValidDate

/-- A session starts with nothing added. -/
theorem standing_start {d : RTCDateTime} (h : Valid d) : Standing 0 d d [] where
  valid := h
  minutes := rfl
  untouched := fun _ h => by cases h
  calls := rfl
  writes := rfl

/-- The parts of a session. -/
theorem session_outline (env : Env) : SessionOutline Goal env points where
  start := by
    rintro d l t v hJ ⟨hv, rfl⟩
    have hok : SessionOk ⟨t, .mark (.editStart v.date)⟩ l :=
      sessionOk_of (fun _ h => by cases h) rfl
    exact ⟨⟨hok, hJ⟩, ⟨hv, rfl, rfl⟩, rfl⟩
  shown := by
    rintro d l t t' v ht hJ ⟨⟨hv, hd, hempty⟩, rfl⟩
    refine unshown_lcd v.date l t t' v ht hJ ⟨rfl, v.date, hd, ?_⟩
    rw [hempty]
    exact standing_start hv
  poll := by
    intro thr hthr
    have hloop : Loop thr = Edits 0 := by
      cases thr with
      | throwConfirm => cases hthr
      | _ => rfl
    show Safely Goal env (Loop thr) _ _
    rw [hloop]
    exact (poll_outline env).safely
  apply := applyThrow_loop env
  finish := by
    intro thr hthr l t v hJ h
    cases thr with
    | throwConfirm =>
        obtain ⟨hv, hc⟩ : Confirmed l t v := h
        exact ⟨⟨⟨fun _ => hc, (fun h => by cases h), fun h => by cases h⟩, hJ⟩, hv⟩
    | throwExit =>
        obtain ⟨d, hd, hs, -⟩ : Edits 0 l t v := h
        exact ⟨⟨⟨fun h => (by cases h), fun _ => hs.untouched,
          fun h => by cases h⟩, hJ⟩, hs.valid⟩
    | idle => cases hthr
    | throwAddHour => cases hthr
    | throwAddMin => cases hthr
  pause := (validDate_silent rfl).waits

/-- All that `ptIO` does. -/
theorem ptIO_valid (env : Env) :
    Safely Goal env ValidDate ptIO fun _ => ValidDate :=
  (session_outline env).protothread ValidDate ValidDate ValidDate
    (fun _ _ _ h => h) (validDate_silent rfl).reads (validDate_silent rfl).reads
    (fun _ _ _ h => h) (validDate_silent rfl) fun _ _ _ _ h => h

/-! ## The other parts of the sketch -/

/-- The assertions along `ptUIDisplay`: the date is valid once it has been read.
-/
def uiPoints : UiPoints where
  Top := ValidDate
  Entered := ValidDate
  Read := fun d l t v => ValidDate l t v ∧ Valid d
  Left := fun d l t v => ValidDate l t v ∧ Valid d
  Updated := fun d _ _ _ => Valid d
  Shown := ValidDate
  Wait := ValidDate
  Idle := ValidDate

/-- The parts of `ptUIDisplay`. -/
theorem ui_outline {env : Env} (hclock : ClockValid env) :
    UiOutline Goal env uiPoints where
  enter := (validDate_silent rfl).marks
  read := by
    intro i l t t' v ht hJ h
    have h' := validDate_silent (e := .readTime (env.clock i)) rfl l t t' v ht hJ h
    exact ⟨h'.1, h'.2, hclock i⟩
  left := by
    intro d l t v hJ h
    have h' := validDate_silent (e := .mark .leaveDS3231) rfl l t t v
      (Nat.le_refl t) hJ h.1
    exact ⟨h'.1, h'.2, h.2⟩
  updated := fun d l t v hJ h =>
    ⟨⟨sessionOk_of (fun _ h => by cases h) rfl, hJ⟩, h.2⟩
  shown := by
    rintro d l t t' v - hJ ⟨hv, rfl⟩
    exact ⟨⟨sessionOk_of (fun _ h => by cases h) rfl, hJ⟩, hv⟩
  stored := fun l t t' v ht hJ h =>
    have h' := validDate_silent (e := .millis (UInt32.ofNat t')) rfl l t t' v ht hJ h
    ⟨h'.1, (validDate_silent (e := .mark .uiStored) rfl _ t' t' v
      (Nat.le_refl t') h'.1 h'.2).1, h'.2⟩
  gate := fun l t t' v ht hJ h =>
    have h' := validDate_silent (e := .millis (UInt32.ofNat t')) rfl l t t' v ht hJ h
    ⟨h'.1,
      fun _ => validDate_silent (e := .mark (.uiGate true)) rfl _ t' t' v
        (Nat.le_refl t') h'.1 h'.2,
      fun _ => validDate_silent (e := .mark (.uiGate false)) rfl _ t' t' v
        (Nat.le_refl t') h'.1 h'.2⟩
  lc := fun _ _ _ h => h

/-- A register above `0x0D` is not one of the alarm-2 registers. -/
theorem settles_write {c reg : UInt8} {values : List UInt8} {a2f : Bool}
    (hc : 0x0D < c.toNat) (h : (reg == c && values.length == 1) = true) :
    settles (.writeRegisters reg values a2f) = false := by
  have hreg : reg = c := eq_of_beq (Bool.and_eq_true_iff.mp h).1
  subst hreg
  show (if reg.toNat ≤ 0x0D ∧ _ then some (reg, values) else none).isSome = false
  rw [if_neg fun h => Nat.not_le.mpr hc h.1]
  rfl

/-- `setup()` ends no session. -/
theorem settles_of_inSetup (e : Event) (h : e.inSetup = true) :
    settles e = false := by
  cases e with
  | mark p => cases p <;> first | rfl | cases h
  | writeRegisters reg values a2f => exact settles_write (c := regControl) (by decide) h
  | _ => rfl

/-- Nor does `ptSprinklers`. -/
theorem settles_of_inSprinklers (e : Event) (h : e.inSprinklers = true) :
    settles e = false := by
  cases e with
  | mark p => cases p <;> first | rfl | cases h
  | writeRegisters reg values a2f =>
      have hstatus : (reg == regStatus && values.length == 1 || false) = true := h
      rw [Bool.or_false] at hstatus
      exact settles_write (c := regStatus) (by decide) hstatus
  | _ => rfl

end EditSession

/-- **What is confirmed is what was shown and what is armed**, over whole runs
with a clock that reads times of day. -/
theorem sessions_ok (env : Env) (hclock : ClockValid env) (n : Nat) :
    Always SessionOk (run env n).log := by
  open EditSession in
  have hsetup := Safely.frame (J := Goal) (K := ValidDate) env
    Footprint.setup (fun e he => validDate_silent (settles_of_inSetup e he))
    fun _ _ v v' hv _ h => by
      show Valid v'.date
      rw [hv.1]
      exact h
  have hUi := (ui_outline hclock).safely (K := ValidDate)
    fun _ _ v _ h => by cases v.ptUi <;> exact h
  have hSprinklers := Safely.frame (J := Goal) (K := ValidDate) env
    Footprint.ptSprinklers
    (fun e he => validDate_silent (settles_of_inSprinklers e he))
    fun _ _ v v' hv _ h => by
      show Valid v'.date
      rw [hv.2.2]
      exact h
  exact run_safely hsetup hUi (ptIO_valid env) hSprinklers
    ⟨trivial, by decide, by decide⟩ n

/-- At 23:59 the edit button opens a session, both add buttons are tapped once
and the alarm is confirmed. -/
def nightSession : Env :=
  { Env.quiet with
    clock := fun _ => ⟨0x00, 0x59, 0x23, 0x01, 0x31, 0x12, 0x20⟩
    level := fun i _ b =>
      b = .btnEditMode && i == 18 || b = .btnAddHour && i == 22 ||
        b = .btnAddMinute && i == 28 || b = .btnAlarmConfirm && i == 35 }

/-- The session ends by confirm, with one alarm set for 01:00. -/
theorem nightSession_ok :
    Always SessionOk (run nightSession 45).log ∧
      alarmCalls (run nightSession 45).log = [(32, 1, 0)] ∧
      (∃ e ∈ (run nightSession 45).log, e.event = .mark (.editEnd .throwConfirm)) := by
  have hreading : Valid (DS3231.decodeDateTime
      ⟨0x00, 0x59, 0x23, 0x01, 0x31, 0x12, 0x20⟩) := by
    constructor <;> decide
  exact ⟨sessions_ok nightSession (fun _ => hreading) 45, by decide +kernel,
    by decide +kernel⟩

end SprinklersAlarmClock
