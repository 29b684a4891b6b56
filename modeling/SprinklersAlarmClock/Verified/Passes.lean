import Mathlib.Order.WellFounded
import SprinklersAlarmClock.Firmware.Outline
import SprinklersAlarmClock.Firmware.Readings

/-!
# How a pass of the alarm loop can end

Everything a pass does is counted, but for the answers on which one of its
waits goes round: an add button that is still high, and a socket that keeps a
message busy.  What is counted is bounded (`pass_bounded`), because both `for`
loops and the number of messages are.  So a pass that has begun reaches the
next evaluation of the loop condition, or the processor faults, or from some
operation on it gets nothing but such answers (`pass_ends`).
-/

namespace SprinklersAlarmClock

open Logic SPIOStream

/-! ## Reading a pass -/

/-- The value on which the alarm loop's condition is evaluated. -/
def Event.alarmTest? : Event → Option Throw
  | .mark (.alarmTest thr) => some thr
  | _ => none

/-- The boundary between two passes of the alarm loop. -/
def startsPass (e : Entry) : Bool :=
  match e.event with
  | .mark .alarm | .mark (.alarmTest _) => true
  | _ => false

/-- The entries of the pass under way. -/
def pass (l : Log) : Log := since startsPass l

/-- The body of the alarm loop has been entered and not been left. -/
def passOpen (l : Log) : Bool :=
  (latest (fun e => match e.event with
    | .mark .alarm => some false
    | .mark (.alarmTest thr) => some (!isExitEditMode thr)
    | _ => none) l).getD false

/-- The answers on which a wait goes round: in `runEditAlarmMode` an add button
that is high, in `sendLineMessage` a socket that holds data or is connected, and
a counter read or a millisecond waited meanwhile. -/
def Event.waits : Event → Bool
  | .digitalRead b true => b.isAdd
  | .net (.available _) | .net (.connected true) | .net (.read _) => true
  | .net .yield | .millis _ | .delay 1 => true
  | _ => false

/-- How many entries are no such answers. -/
def steps (l : Log) : Nat := l.countP fun e => !e.event.waits

/-! ## Waiting for ever -/

/-- From operation `n` on the program performs operations for ever and gets
nothing but answers on which a wait goes round. -/
def Endless (env : Env) (n : Nat) : Prop :=
  ∀ k, ∃ newer, (run env (n + k)).log = newer ++ (run env n).log ∧
    k ≤ newer.length ∧ ∀ e ∈ newer, e.event.waits = true

/-- Some time after operation `n` the pass under way ends: the loop condition is
evaluated, on a value of which `p` holds, and what happens next is `after`. -/
def TestFollows (env : Env) (n : Nat) (p : Throw → Bool) (after : List Event) : Prop :=
  ∃ m newer done test rest,
    (run env (n + m)).log = newer ++ done ++ test :: (rest ++ (run env n).log) ∧
      done.map Entry.event = after.reverse ∧ test.event.alarmTest?.any p = true ∧
      ∀ e ∈ rest, startsPass e = false

/-! ## The count of a pass -/

/-- More than a pass can count: 600 rounds of two operations and a poll each, a
poll before them, and two messages. -/
def passSteps : Nat := 6100

namespace Passes

/-- A pass under way counts at most `passSteps`, and no episode begins in it. -/
def Goal : Safety := fun l _ =>
  (passOpen l = true → steps (pass l) ≤ passSteps) ∧
    Always (fun e older => passOpen older = true → e.event ≠ .mark .alarm) l

/-- A pass is under way and has counted at most `m`. -/
def Spent (m : Nat) : Assn := fun l _ _ => passOpen l = true ∧ steps (pass l) ≤ m

/-- No pass is under way. -/
def Closed : Assn := fun l _ _ => passOpen l = false

/-- Events that neither begin nor end a pass. -/
def within (e : Event) : Bool := !startsPass ⟨0, e⟩

/-- Events within a pass do not end it. -/
theorem startsPass_of_within {e : Event} (h : within e = true) (t : Nat) :
    startsPass ⟨t, e⟩ = false := by
  simpa [within, startsPass] using h

/-- Whether one is open does not change. -/
theorem passOpen_within {e : Event} (h : within e = true) (t : Nat) (l : Log) :
    passOpen (⟨t, e⟩ :: l) = passOpen l := by
  cases e with
  | mark p => cases p <;> first | rfl | cases h
  | _ => rfl

/-- They are its entries. -/
theorem pass_within {e : Event} (h : within e = true) (t : Nat) (l : Log) :
    pass (⟨t, e⟩ :: l) = ⟨t, e⟩ :: pass l := by
  unfold pass
  rw [since_cons, startsPass_of_within h, if_neg Bool.false_ne_true]

/-- One entry more counts one or nothing. -/
theorem steps_cons (e : Entry) (l : Log) :
    steps (e :: l) = steps l + if e.event.waits = true then 0 else 1 := by
  unfold steps
  rw [List.countP_cons]
  cases e.event.waits <;> rfl

/-- None of them begins an episode. -/
theorem ne_alarm_of_within {e : Event} (h : within e = true) : e ≠ .mark .alarm := by
  rintro rfl
  cases h

/-- An event of a pass counts at most one. -/
theorem spent_one {e : Event} (h : within e = true) {m : Nat} (hm : m + 1 ≤ passSteps) :
    Enters Goal (Spent m) e (Spent (m + 1)) := by
  rintro l t t' v - ⟨-, hJ⟩ ⟨hopen, hsteps⟩
  have hcount : steps (pass (⟨t', e⟩ :: l)) ≤ m + 1 := by
    rw [pass_within h, steps_cons]
    split <;> omega
  have hopen' := (passOpen_within h t' l).trans hopen
  exact ⟨⟨fun _ => Nat.le_trans hcount hm, fun _ => ne_alarm_of_within h, hJ⟩,
    hopen', hcount⟩

/-- A wait that goes round counts nothing. -/
theorem spent_wait {e : Event} (h : within e = true) (hwait : e.waits = true) {m : Nat}
    (hm : m ≤ passSteps) : Enters Goal (Spent m) e (Spent m) := by
  rintro l t t' v - ⟨-, hJ⟩ ⟨hopen, hsteps⟩
  have hcount : steps (pass (⟨t', e⟩ :: l)) ≤ m := by
    rw [pass_within h, steps_cons, if_pos hwait]
    exact hsteps
  have hopen' := (passOpen_within h t' l).trans hopen
  exact ⟨⟨fun _ => Nat.le_trans hcount hm, fun _ => ne_alarm_of_within h, hJ⟩,
    hopen', hcount⟩

/-- A larger bound. -/
theorem Spent.mono {m m' : Nat} (h : m ≤ m') {l : Log} {t : Nat} {v : Vars}
    (hs : Spent m l t v) : Spent m' l t v := ⟨hs.1, Nat.le_trans hs.2 h⟩

/-- Outside a pass nothing counts. -/
theorem closed_enters {e : Event} (h : within e = true) :
    Enters Goal Closed e Closed := by
  intro l t t' v _ hJ hl
  have hclosed : passOpen (⟨t', e⟩ :: l) = false := (passOpen_within h t' l).trans hl
  refine ⟨⟨fun h => ?_, fun h => ?_, hJ.2⟩, hclosed⟩
  · rw [hclosed] at h
    cases h
  · rw [show passOpen l = false from hl] at h
    cases h

/-! ## What the parts of a pass count -/

/-- Run anywhere in a pass, `c` counts at most `k`. -/
def Costs (env : Env) (k : Nat) {α : Type} (c : Sketch α) : Prop :=
  ∀ m, m + k ≤ passSteps → Safely Goal env (Spent m) c fun _ => Spent (m + k)

section Costs

variable {env : Env} {α β : Type}

/-- A larger cost. -/
theorem Costs.mono {k k' : Nat} {c : Sketch α} (h : Costs env k c) (hk : k ≤ k') :
    Costs env k' c := fun m hm =>
  (h m (by omega)).weaken (fun _ _ _ _ h => h) fun _ _ _ _ _ h => h.mono (by omega)

/-- Nothing is done. -/
theorem Costs.pure (a : α) : Costs env 0 (pure a : Sketch α) :=
  fun _ _ => Safely.pure fun _ _ _ _ h => h

/-- Two parts cost as much as both. -/
theorem Costs.bind {k k' : Nat} {c : Sketch β} {f : β → Sketch α} (hc : Costs env k c)
    (hf : ∀ b, Costs env k' (f b)) : Costs env (k + k') (c >>= f) := by
  intro m hm
  refine (hc m (by omega)).seq fun b => ?_
  have h := hf b (m + k) (by omega)
  rwa [Nat.add_assoc] at h

/-- Two branches cost as much as either. -/
theorem Costs.ite {k : Nat} {p : Prop} [Decidable p] {c d : Sketch α}
    (hc : Costs env k c) (hd : Costs env k d) : Costs env k (if p then c else d) :=
  fun m hm => Safely.ite (fun _ => hc m hm) fun _ => hd m hm

/-- Reading the variables is free. -/
theorem Costs.vars {k : Nat} {f : Vars → Sketch α} (hf : ∀ v, Costs env k (f v)) :
    Costs env k (SprinklersAlarmClock.vars >>= f) := fun m hm =>
  Safely.vars fun v₀ => (hf v₀ m hm).weaken (fun _ _ _ _ h => h.1) fun _ _ _ _ _ h => h

/-- So is an assignment. -/
theorem Costs.assign (f : Vars → Vars) : Costs env 0 (assign f) :=
  fun _ _ => Safely.assign fun _ _ _ _ h => h

/-- A mark counts one. -/
theorem Costs.mark {p : Point} (h : within (.mark p) = true) : Costs env 1 (mark p) :=
  fun _ hm => Safely.mark (spent_one h hm).marks

/-- An operation counts one. -/
theorem Costs.ask {answer : Env → Nat → World → α} {event : α → Event}
    (h : ∀ a, within (event a) = true) :
    Costs env 1 (SprinklersAlarmClock.ask answer event) :=
  fun _ hm => Safely.ask fun a => spent_one (h a) hm

/-- An operation all of whose answers are waited on. -/
theorem Costs.wait {answer : Env → Nat → World → α} {event : α → Event}
    (h : ∀ a, within (event a) = true) (hw : ∀ a, (event a).waits = true) :
    Costs env 0 (SprinklersAlarmClock.ask answer event) :=
  fun _ hm => Safely.ask fun a => spent_wait (h a) (hw a) hm

/-- Reading the counter is waiting. -/
theorem Costs.millis : Costs env 0 SprinklersAlarmClock.millis :=
  Costs.wait (fun _ => rfl) fun _ => rfl

/-- So is asking for data. -/
theorem Costs.available : Costs env 0 Tcp.available := Costs.wait (fun _ => rfl) fun _ => rfl

/-- So is reading a character. -/
theorem Costs.read : Costs env 0 Tcp.read := Costs.wait (fun _ => rfl) fun _ => rfl

/-- A fault counts one, and is the last. -/
theorem Costs.fault : Costs env 1 (fault : Sketch α) := fun _ hm =>
  (Costs.mark (p := .nullDeref) rfl _ hm).seq fun _ => Safely.halt

end Costs

/-! ### A poll -/

/-- The assertions along a poll, by what has been counted so far. -/
def poll (m : Nat) : PollPoints where
  Scan := fun k => Spent (m + k)
  High := fun _ => Spent (m + 4)
  Held := fun _ => Spent (m + 5)
  Released := fun _ => Spent (m + 6)

/-- A poll counts at most seven, however long a button is held. -/
theorem runEditAlarmMode_costs (env : Env) (thr : Throw) :
    Costs env 7 (runEditAlarmMode thr) := by
  intro m hm
  have hrank : ∀ b : Button, b.rank + 1 ≤ 4 := by
    intro b
    cases b <;> decide
  have houtline : PollOutline Goal env thr (poll m) (Spent m) fun _ => Spent (m + 7) :=
    { entry := fun _ _ _ _ h => h
      low := fun b => (spent_one rfl (by have := hrank b; omega)).reads
      passed := fun _ _ _ _ h => h.mono (by omega)
      high := fun b l t t' v i ht hlevel hJ h => by
        have hb := hrank b
        have hread : Reads Goal env (Spent (m + b.rank)) b true (Spent (m + b.rank + 1)) :=
          (spent_one rfl (by omega)).reads
        have h' := hread l t t' v i ht hlevel hJ h
        exact ⟨h'.1, h'.2.mono (by omega)⟩
      answer := fun b _ l t v hJ h => by
        have h' := (spent_one (e := .mark (.throwSet b.throwOf)) rfl
          (by omega)).marks l t v hJ h
        exact ⟨h'.1, h'.2.mono (by omega)⟩
      press := fun b _ => (spent_one rfl (by omega)).marks
      held := fun b hb => (spent_wait (e := .digitalRead b true) rfl hb (by omega)).reads
      release := fun b _ => (spent_one rfl (by omega)).reads
      settle := fun b _ => spent_one rfl (by omega) }
  exact houtline.safely

/-- The same with its mark. -/
theorem alarmPoll_costs (env : Env) (site : PollSite) (thr : Throw) :
    Costs env 8 (alarmPoll site thr) :=
  ((Costs.mark rfl).bind fun _ => runEditAlarmMode_costs env thr).mono (Nat.le_refl _)

/-! ### A message -/

/-- A socket that is not connected counts, one that is does not. -/
theorem connected_costs (env : Env) (m : Nat) (hm : m + 1 ≤ passSteps) :
    Safely Goal env (Spent m) Tcp.connected
      fun up => if up = true then Spent m else Spent (m + 1) := by
  refine Safely.ask fun up => ?_
  cases up with
  | true => exact spent_wait rfl rfl (by omega)
  | false => exact spent_one rfl hm

/-- `http_connected()`. -/
theorem httpConnected_costs (env : Env) : Costs env 1 Http.httpConnected := by
  refine Costs.vars fun v => Costs.ite ?_ ((Costs.pure false).mono (by omega))
  refine (Costs.available.bind fun n => Costs.ite (k := 1) ?_ ?_).mono (by omega)
  · exact (Costs.pure true).mono (by omega)
  · exact Costs.ask fun _ => rfl

/-- Emptying the socket is waiting. -/
theorem drain_costs (env : Env) : Costs env 0 Http.drain := by
  intro m hm
  refine Safely.whileDo (Spent m) (Spent m) ?_ ?_
  · refine (Costs.available m hm).seq fun n => Safely.pure fun _ _ _ _ h => ?_
    split <;> exact h
  · exact (Costs.read m hm).seq fun _ => Safely.pure fun _ _ _ _ h => h

/-- `http_connect()`. -/
theorem httpConnect_costs (env : Env) : Costs env 3 Http.httpConnect := by
  refine ((httpConnected_costs env).bind fun up => Costs.ite (k := 2) ?_ ?_).mono (by omega)
  · exact ((drain_costs env).bind fun _ => Costs.pure true).mono (by omega)
  refine Costs.vars fun v => Costs.ite ((Costs.pure false).mono (by omega)) ?_
  refine ((Costs.assign _).bind fun _ => (Costs.ask fun _ => rfl).bind fun ok =>
    Costs.ite (k := 1) ?_ (httpConnected_costs env)).mono (by omega)
  exact (Costs.pure false).mono (by omega)

/-- `http_sendHeader(header)`. -/
theorem httpSendHeader_costs (env : Env) (header : String) :
    Costs env 2 (Http.httpSendHeader header) := by
  refine ((httpConnected_costs env).bind fun up => Costs.ite (k := 1) ?_ ?_).mono (by omega)
  · exact (Costs.pure false).mono (by omega)
  · exact (Costs.ask fun _ => rfl).bind fun n => Costs.pure _

/-- The payload of a request. -/
theorem sendPayload_costs (env : Env) (payload : String) :
    Costs env 1 (Http.sendPayload payload) := by
  refine Costs.ite ?_ ((Costs.pure 0).mono (by omega))
  refine (Costs.bind (k := 1) ?_ fun n => Costs.pure _).mono (by omega)
  exact Costs.vars fun v => Costs.ite (Costs.ask fun _ => rfl) Costs.fault

/-- `http_sendRequest(header, payload)`. -/
theorem httpSendRequest_costs (env : Env) (header payload : String) :
    Costs env 6 (Http.httpSendRequest header payload) := by
  refine Costs.ite ?_ ((sendPayload_costs env payload).mono (by omega))
  refine ((httpConnect_costs env).bind fun up => Costs.ite (k := 3) ?_ ?_).mono (by omega)
  · exact (Costs.pure _).mono (by omega)
  refine ((httpSendHeader_costs env header).bind fun sent =>
    Costs.ite (k := 1) ?_ (sendPayload_costs env payload)).mono (by omega)
  exact (Costs.pure _).mono (by omega)

/-- The wait for data ends at the first answer that is no wait. -/
theorem waitData_costs (env : Env) (dataTime : UInt32) :
    Costs env 1 (LineNotify.waitData dataTime) := by
  intro m hm
  have hgo : Safely Goal env (Spent m) (delay 1) fun _ => Spent m :=
    Safely.delay (spent_wait rfl rfl (by omega))
  refine Safely.whileDo (Spent m) (Spent m) ?_ hgo
  refine (connected_costs env m hm).seq fun up => ?_
  cases up with
  | false => exact Safely.pure fun _ _ _ _ h => h
  | true =>
      refine (Costs.available m (by omega)).seq fun n => Safely.ite ?_ ?_
      · exact fun _ => Safely.pure fun _ _ _ _ h => h.mono (by omega)
      · intro _
        refine (Costs.millis m (by omega)).seq fun now => Safely.pure fun _ _ _ _ h => ?_
        split
        · exact h
        · exact h.mono (by omega)

/-- A character is parsed for nothing. -/
theorem readChar_costs (env : Env) (r : LineNotify.ReadState) :
    Costs env 0 (LineNotify.readChar r) := by
  have hyield : Costs env 0 (net .yield) := fun m hm => Safely.act (spent_wait rfl rfl hm)
  refine hyield.bind fun _ => Costs.read.bind fun c => Costs.ite ?_ (Costs.pure _)
  exact Costs.millis.bind fun _ => Costs.pure _

/-- The loop over the characters. -/
theorem readReply_costs (env : Env) (r : LineNotify.ReadState) :
    Costs env 0 (LineNotify.readReply r) := by
  intro m hm
  refine Safely.loop (fun _ => Spent m) (fun r => ?_) r
  refine (Costs.available m hm).seq fun n => Safely.ite ?_ ?_
  · exact fun _ => Safely.pure fun _ _ _ _ h => h
  intro _
  refine (readChar_costs env r m hm).seq fun r' => ?_
  refine (Costs.millis m hm).seq fun now => Safely.ite ?_ ?_
  · exact fun _ => Safely.pure fun _ _ _ _ h => h
  · exact fun _ => Safely.pure fun _ _ _ _ h => h

/-- One round of the reply loop. -/
theorem awaitReply_costs (env : Env) (dataTime : UInt32) :
    Costs env 2 (LineNotify.awaitReply dataTime) := by
  refine ((waitData_costs env dataTime).bind fun _ => Costs.millis.bind fun now =>
    (Costs.ask fun _ => rfl).bind fun up => Costs.ite (Costs.pure _) ?_).mono (by omega)
  exact Costs.available.bind fun n => Costs.ite (Costs.pure _) (readReply_costs env _)

/-- `waitLineResponse()`. -/
theorem waitLineResponse_costs (env : Env) : Costs env 4 LineNotify.waitLineResponse := by
  refine (Costs.millis.bind fun dataTime => (Costs.assign _).bind fun _ =>
    Costs.bind (k := 2) ?_ fun up => Costs.ite (k := 2) ?_ ?_).mono (by omega)
  · exact (httpConnected_costs env).bind fun up => (Costs.mark rfl).bind fun _ =>
      Costs.pure up
  · exact (awaitReply_costs env dataTime).bind fun r => (Costs.assign _).bind fun _ =>
      Costs.pure _
  · exact Costs.fault.mono (by omega)

/-- `sendLineMessage(msg)`. -/
theorem sendLineMessage_costs (env : Env) (msg : String) :
    Costs env 20 (LineNotify.sendLineMessage msg) := by
  refine ((Costs.mark rfl).bind fun _ => (Costs.assign _).bind fun _ => Costs.vars fun v =>
    (httpSendRequest_costs env _ _).bind fun _ => (httpSendRequest_costs env _ _).bind fun _ =>
      (waitLineResponse_costs env).bind fun ok =>
        Costs.ite (k := 1) ?_ ?_).mono (by omega)
  · exact (Costs.mark rfl).bind fun _ => Costs.pure _
  · exact (Costs.mark rfl).bind fun _ => Costs.pure _

/-! ## A pass -/

/-- An elapsed-time test counts one; its counter reading is a wait. -/
theorem measures_costs {m : Nat} (hm : m + 1 ≤ passSteps) (limit : UInt32) :
    Measures Goal (Spent m) limit (Spent (m + 1)) (Spent (m + 1)) := by
  intro l t t' v ht hJ h
  have hread := spent_wait (e := .millis (UInt32.ofNat t')) rfl rfl
    (Nat.le_of_succ_le hm) l t t' v ht hJ h
  have hmark := (spent_one (e := .mark (.elapsed limit
    (UInt32.ofNat t' - v.sprinklersLastTime))) rfl hm).marks _ t' v hread.1 hread.2
  exact ⟨hread.1, fun _ => hmark, fun _ => hmark⟩

/-- A `for` loop of `rounds` rounds, entered after `start` counted entries. -/
def relay (start rounds : Nat) : RelayPoints where
  Round := fun k _ l t v => ∃ j, j + k = rounds ∧ Spent (start + 10 * j) l t v
  Polled := fun k _ l t v => ∃ j, j + k + 1 = rounds ∧ Spent (start + 10 * j + 8) l t v
  Written := fun k _ l t v => ∃ j, j + k + 1 = rounds ∧ Spent (start + 10 * j + 9) l t v
  Done := fun _ => Spent (start + 10 * rounds)

/-- A `for` loop: ten a round. -/
theorem relay_outline {start rounds : Nat} (h : start + 10 * rounds ≤ passSteps)
    (env : Env) (site : PollSite) (value : UInt16) :
    RelayOutline Goal env site value (relay start rounds) where
  poll := by
    intro k thr
    -- the number of rounds done is fixed before the poll is walked
    refine Safely.of_exists fun j => Safely.known fun hj => ?_
    refine (alarmPoll_costs env site thr (start + 10 * j) (by omega)).weaken
      (fun _ _ _ _ h => h) fun _ _ _ _ _ hs => ⟨j, by omega, hs⟩
  write := by
    rintro k thr l t t' v ht hJ ⟨j, hj, hs⟩
    have h' := spent_one (e := .analogWrite value) rfl (by omega) l t t' v ht hJ hs
    exact ⟨h'.1, j, hj, h'.2⟩
  next := by
    rintro k thr - l t t' v ht hJ ⟨j, hj, hs⟩
    have h' := spent_one (e := .delay 10) rfl (by omega) l t t' v ht hJ hs
    exact ⟨h'.1, j + 1, by omega, h'.2⟩
  stop := by
    rintro k thr - l t t' v ht hJ ⟨j, hj, hs⟩
    have h' := spent_one (e := .delay 10) rfl (by omega) l t t' v ht hJ hs
    exact ⟨h'.1, h'.2.mono (by omega)⟩
  finish := by
    rintro thr l t v - ⟨j, rfl, hs⟩
    exact hs

/-- The assertions along an episode, by what has been counted in the pass. -/
def episode : EpisodePoints where
  Start := Closed
  Begun := Closed
  Timed := Closed
  Test := fun _ _ _ _ => True
  Head := Spent 0
  Polled := fun _ => Spent 8
  Due := fun _ => Spent 9
  on := relay 10 400
  off := relay 4011 200
  Report := fun _ => Spent 6011
  Notify := fun k _ l t v => ∃ j, j + k = 2 ∧ Spent (6012 + 20 * j) l t v
  Leaving := Closed
  Lit := Closed
  Quiet := Closed
  Dry := Closed
  Over := Closed

/-- The parts of an episode. -/
theorem episode_outline (env : Env) : EpisodeOutline Goal env episode where
  alarm := by
    intro l t v hJ hl
    refine ⟨⟨(fun h => by cases h), fun h => ?_, hJ.2⟩, rfl⟩
    rw [show passOpen l = false from hl] at h
    cases h
  clock := fun l t t' v => closed_enters rfl l t t' v
  tone := by
    intro l t t' v ht hJ hl
    exact ⟨(closed_enters (e := .tone 835) rfl l t t' v ht hJ hl).1, trivial⟩
  stay := by
    intro thr hthr l t v hJ _
    refine ⟨⟨fun _ => Nat.zero_le _, (fun _ h => by cases h), hJ.2⟩, ?_, Nat.le_refl _⟩
    show (!isExitEditMode thr) = true
    rw [hthr]
    rfl
  leave := by
    intro thr hthr l t v hJ _
    refine ⟨⟨fun _ => Nat.zero_le _, (fun _ h => by cases h), hJ.2⟩, ?_⟩
    show (!isExitEditMode thr) = false
    rw [hthr]
    rfl
  head := alarmPoll_costs env .head .idle 0 (by decide)
  due := by
    intro thr l t t' v ht hJ h
    have h' := measures_costs (m := 8) (by decide) 10000 l t t' v ht hJ h
    exact ⟨h'.1, h'.2.1, fun hlt => ⟨(h'.2.2 hlt).1, (h'.2.2 hlt).2.mono (by decide)⟩⟩
  lit := by
    intro thr l t t' v ht hJ h
    have h' := spent_one (e := .backlight) rfl (m := 9) (by decide) l t t' v ht hJ h
    exact ⟨h'.1, 0, by decide, h'.2⟩
  on := relay_outline (by decide) env .onLoop 140
  dark := by
    intro thr l t t' v ht hJ h
    have h' := spent_one (e := .noBacklight) rfl (m := 4010) (by decide) l t t' v ht hJ h
    exact ⟨h'.1, 0, by decide, h'.2⟩
  off := relay_outline (by decide) env .offLoop 0
  poured := fun _ _ _ _ _ h => h
  report := by
    intro thr l t t' v ht hJ h
    have h' := measures_costs (m := 6011) (by decide) 20000 l t t' v ht hJ h
    exact ⟨h'.1, fun hle => ⟨(h'.2.1 hle).1, 0, by decide, (h'.2.1 hle).2⟩,
      fun hlt => ⟨(h'.2.2 hlt).1, trivial⟩⟩
  notify := by
    intro k thr msg
    refine Safely.of_exists fun j => Safely.known fun hj => ?_
    refine (sendLineMessage_costs env msg (6012 + 20 * j)
      (by show _ ≤ 6100; omega)).weaken (fun _ _ _ _ h => h)
      fun _ _ _ _ _ hs => ⟨j + 1, by omega, hs⟩
  notified := fun _ _ _ _ _ _ => trivial
  backlight := closed_enters rfl
  noTone := closed_enters rfl
  dry := closed_enters rfl
  finish := (closed_enters rfl).marks

/-! ## Whole runs -/

/-- `ptIO` begins and ends no pass. -/
theorem within_of_inIo (e : Event) (h : e.inIo = true) : within e = true := by
  cases e with
  | mark p => cases p <;> first | rfl | cases h
  | _ => rfl

/-- Nor do the other parts of the sketch. -/
theorem within_of_inBackground (e : Event) (h : e.inBackground = true) :
    within e = true := by
  cases e with
  | mark p => cases p <;> first | rfl | cases h
  | _ => rfl

end Passes

/-- **What a pass counts is bounded**, in every run. -/
theorem pass_bounded (env : Env) (n : Nat) :
    Passes.Goal (run env n).log (run env n).now := by
  open Passes in
  have hIo := Safely.frame (K := Closed) env Footprint.ptIO
    (fun e he => closed_enters (within_of_inIo e he)) fun _ _ _ _ _ _ h => h
  have hrest : ∀ e, e.inBackground = true → Enters Goal Closed e Closed :=
    fun e he => closed_enters (within_of_inBackground e he)
  exact (episode_outline env).run_safely hIo hrest (fun _ _ _ _ h => h)
    (fun _ _ _ _ h => h) (fun _ _ _ _ h => h)
    ⟨⟨fun _ => Nat.zero_le _, trivial⟩, rfl⟩ n

/-! ## The end of a pass -/

section Ends

variable {rest l : Log} (h : ∀ e ∈ rest, startsPass e = false)

include h

/-- The entries of a pass, over several operations. -/
theorem pass_append : pass (rest ++ l) = rest ++ pass l := by
  induction rest with
  | nil => rfl
  | cons e rest ih =>
      obtain ⟨he, hrest⟩ := List.forall_mem_cons.mp h
      unfold pass at ih ⊢
      rw [List.cons_append, since_cons, he, if_neg Bool.false_ne_true, ih hrest,
        List.cons_append]

/-- It stays open. -/
theorem passOpen_append : passOpen (rest ++ l) = passOpen l := by
  induction rest with
  | nil => rfl
  | cons e rest ih =>
      obtain ⟨he, hrest⟩ := List.forall_mem_cons.mp h
      rw [List.cons_append, ← ih hrest]
      obtain ⟨t, e⟩ := e
      exact Passes.passOpen_within (by simpa [Passes.within, startsPass] using he) t _

/-- And its count goes on. -/
theorem steps_append : steps (pass (rest ++ l)) = steps rest + steps (pass l) := by
  rw [pass_append h]
  exact List.countP_append

end Ends

/-- Where nothing is counted any more, there are only waits. -/
theorem waits_of_steps {l : Log} (h : steps l = 0) : ∀ e ∈ l, e.event.waits = true := by
  intro e he
  have hnone := List.countP_eq_zero.mp h e he
  simpa using hnone

/-- **How a pass ends.**  A pass under way reaches the next evaluation of the
loop condition, unless the processor faults in it or it waits for ever. -/
theorem pass_ends (env : Env) (n : Nat) (hopen : passOpen (run env n).log = true) :
    TestFollows env n (fun _ => true) [] ∨
      ∃ m rest, (run env (n + m)).log = rest ++ (run env n).log ∧
        (∀ e ∈ rest, startsPass e = false) ∧
        (Endless env (n + m) ∨ Faulted (run env (n + m))) := by
  by_cases hboundary : ∃ m newer e, (run env (n + m)).log = newer ++ (run env n).log ∧
      e ∈ newer ∧ startsPass e = true
  · left
    obtain ⟨m, newer, e, hlog, hmem, he⟩ := hboundary
    obtain ⟨later, test, rest, rfl, htest, hrest⟩ := exists_oldest ⟨e, hmem, he⟩
    rw [List.append_assoc, List.cons_append] at hlog
    -- the boundary is no new episode, so it is an evaluation of the condition
    have hnoalarm := (always_iff _ _).mp (pass_bounded env (n + m)).2 later test _ hlog
      ((passOpen_append hrest).trans hopen)
    refine ⟨m, later, [], test, rest, by rw [hlog, List.append_nil], rfl, ?_, hrest⟩
    obtain ⟨t, e⟩ := test
    cases e with
    | mark p =>
        cases p with
        | alarm => exact absurd rfl hnoalarm
        | alarmTest thr => rfl
        | _ => cases htest
    | _ => cases htest
  · right
    have hquiet : ∀ m, ∃ rest, (run env (n + m)).log = rest ++ (run env n).log ∧
        (run env (n + m)).tick ≤ (run env n).tick + rest.length ∧
        ∀ e ∈ rest, startsPass e = false := by
      intro m
      obtain ⟨rest, hlog, htick⟩ := run_extends env n m
      refine ⟨rest, hlog, htick, fun e he => ?_⟩
      cases hs : startsPass e with
      | false => rfl
      | true => exact absurd ⟨m, rest, e, hlog, he, hs⟩ hboundary
    by_cases hfault : ∃ m, Faulted (run env (n + m))
    · obtain ⟨m, hm⟩ := hfault
      obtain ⟨rest, hlog, -, hrest⟩ := hquiet m
      exact ⟨m, rest, hlog, hrest, .inr hm⟩
    -- from the observation on at which most is counted, nothing more is
    let count : Nat → Nat := fun m => steps (pass (run env (n + m)).log)
    have hbound : ∀ m, count m ≤ passSteps := by
      intro m
      obtain ⟨rest, hlog, -, hrest⟩ := hquiet m
      refine (pass_bounded env (n + m)).1 ?_
      rw [hlog, passOpen_append hrest]
      exact hopen
    obtain ⟨m, hmost⟩ : ∃ m, ∀ k, count k ≤ count m := by
      refine ⟨Function.argmin fun m => passSteps - count m, fun k => ?_⟩
      have hle := Function.argmin_le (fun m => passSteps - count m) k
      have hk := hbound k
      have hm := hbound (Function.argmin fun m => passSteps - count m)
      omega
    obtain ⟨rest, hlog, -, hrest⟩ := hquiet m
    refine ⟨m, rest, hlog, hrest, .inl fun k => ?_⟩
    obtain ⟨newer, hnewer, htick⟩ := run_extends env (n + m) k
    have hticks : ∀ i, (run env (n + i)).tick = n + i := fun i =>
      (run_tick env (n + i)).resolve_right fun hf => hfault ⟨i, hf⟩
    have hlength : k ≤ newer.length := by
      have hlater := hticks (m + k)
      rw [← Nat.add_assoc] at hlater
      rw [hlater, hticks m] at htick
      omega
    refine ⟨newer, hnewer, hlength, waits_of_steps ?_⟩
    have hnewerRest : ∀ e ∈ newer, startsPass e = false := by
      intro e he
      cases hs : startsPass e with
      | false => rfl
      | true =>
          refine absurd ⟨m + k, newer ++ rest, e, ?_, List.mem_append_left _ he, hs⟩ hboundary
          rw [← Nat.add_assoc, hnewer, hlog, List.append_assoc]
    have hgrow : count (m + k) = steps newer + count m := by
      show steps (pass (run env (n + (m + k))).log) = _
      rw [← Nat.add_assoc, hnewer, steps_append hnewerRest]
    have := hmost (m + k)
    omega

end SprinklersAlarmClock
