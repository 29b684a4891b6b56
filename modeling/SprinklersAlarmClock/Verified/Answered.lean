import SprinklersAlarmClock.Verified.Dismissal

/-!
# After the user has answered

Between the poll that reads a dismissal and the end of the pass the sketch may
still drive the relay (a round of the first loop writes 140 right after its
poll, and a pass whose first test succeeds enters that loop) and still send its
messages (the second test is not guarded by `throwEdit`).  Nothing of the kind
happens in a run whose dismissals are read outside the first loop and are
followed by failing tests (`nothing_after_answer`).
-/

namespace SprinklersAlarmClock

open Logic SPIOStream

/-! ## Reading an episode -/

namespace Event

/-- A nonzero write to the relay, or a message. -/
def acts : Event → Bool
  | .analogWrite value => value != 0
  | .mark (.notify _) => true
  | _ => false

/-- The limit and the value of an elapsed-time test. -/
def elapsed? : Event → Option (UInt32 × UInt32)
  | .mark (.elapsed limit value) => some (limit, value)
  | _ => none

/-- The poll of the alarm loop that starts here. -/
def alarmPoll? : Event → Option PollSite
  | .mark (.alarmPoll site) => some site
  | _ => none

end Event

/-- The boundaries of alarm episodes. -/
def boundsEpisode (e : Entry) : Bool :=
  match e.event with
  | .mark .alarm | .mark .alarmEnd => true
  | _ => false

/-- The entries of the episode under way. -/
def episodeLog (l : Log) : Log := since boundsEpisode l

/-- A poll of the episode under way has dismissed it. -/
def answered (l : Log) : Bool := dismissed (episodeLog l)

/-- The poll of the alarm loop that was started last. -/
def pollSite (l : Log) : Option PollSite :=
  latest (fun e => e.event.alarmPoll?) (episodeLog l)

/-! ## The property and its condition -/

/-- Nothing is actuated or reported after the user has answered. -/
def ActsBeforeAnswer (e : Entry) (older : Log) : Prop :=
  e.event.acts = true → answered older = false

/-- No dismissing button is sampled high in a poll of the first loop, and once
one has been sampled high in the episode no elapsed-time test succeeds. -/
def CalmAnswer (e : Entry) (older : Log) : Prop :=
  (e.event.high?.any Button.dismisses = true → pollSite older ≠ some .onLoop) ∧
  ∀ test ∈ e.event.elapsed?, sampledDismissal (episodeLog older) = true →
    test.2 < test.1

instance (e : Entry) (older : Log) : Decidable (ActsBeforeAnswer e older) :=
  inferInstanceAs (Decidable (_ → _))

instance (e : Entry) (older : Log) : Decidable (CalmAnswer e older) :=
  @instDecidableAnd _ _ inferInstance (Option.decidableForallMem _)

namespace Answered

/-- As long as the condition holds, nothing is done after an answer. -/
def Goal : Safety := fun l _ => Always CalmAnswer l → Always ActsBeforeAnswer l

/-! ## The invariant -/

/-- The episode has a dismissing poll exactly when it has a dismissing sample. -/
def Agree (l : Log) : Prop := answered l = sampledDismissal (episodeLog l)

/-- As long as the run is calm, nobody has answered yet. -/
def Clean : Assn := fun l _ _ =>
  Agree l ∧ (Always CalmAnswer l → answered l = false)

/-- As long as the run is calm, an answer has been given only if `thr` is one. -/
def Tidy (thr : Throw) : Assn := fun l _ _ =>
  Agree l ∧ (Always CalmAnswer l → answered l = true → isExitEditMode thr = true)

/-- The events an episode's answers are read from. -/
def answers : Event → Bool
  | .digitalRead _ true | .mark (.throwSet _) => true
  | .mark .alarm | .mark .alarmEnd => true
  | _ => false

section Silent

variable {e : Event} (h : answers e = false) (t : Nat) (l : Log)

include h

/-- An event that neither begins nor ends an episode is one more entry of it. -/
theorem episodeLog_silent : episodeLog (⟨t, e⟩ :: l) = ⟨t, e⟩ :: episodeLog l := by
  cases e with
  | mark p => cases p <;> first | rfl | cases h
  | _ => rfl

/-- And it answers nothing. -/
theorem answered_silent : answered (⟨t, e⟩ :: l) = answered l := by
  unfold answered
  rw [episodeLog_silent h]
  cases e with
  | mark p => cases p <;> first | rfl | cases h
  | _ => rfl

/-- Nor is it a dismissing sample. -/
theorem sampledDismissal_silent :
    sampledDismissal (episodeLog (⟨t, e⟩ :: l)) = sampledDismissal (episodeLog l) := by
  rw [episodeLog_silent h]
  cases e with
  | digitalRead b level =>
      cases level with
      | true => cases h
      | false => rfl
  | _ => rfl

end Silent

/-- So the two readings of the episode go on agreeing. -/
theorem agree_silent {e : Event} (h : answers e = false) {t : Nat} {l : Log}
    (hl : Agree l) : Agree (⟨t, e⟩ :: l) := by
  unfold Agree
  rw [answered_silent h, sampledDismissal_silent h]
  exact hl

/-- An entry that does not act keeps the property. -/
theorem goal_idle {e : Event} (h : e.acts = false) {t : Nat} {l : Log}
    (hJ : Goal l t) (t' : Nat) : Goal (⟨t', e⟩ :: l) t' := by
  intro hcalm
  refine ⟨fun hacts => ?_, hJ hcalm.2⟩
  rw [h] at hacts
  cases hacts

/-- Between the polls nothing has been answered. -/
theorem clean_silent {e : Event} (h : answers e = false) :
    Enters Goal Clean e Clean := by
  intro l t t' v _ hJ hl
  refine ⟨fun hcalm => ⟨fun _ => hl.2 hcalm.2, hJ hcalm.2⟩,
    agree_silent h hl.1, fun hcalm => ?_⟩
  rw [answered_silent h]
  exact hl.2 hcalm.2

/-- Where something has been answered, only events that do nothing follow. -/
theorem tidy_silent {e : Event} (h : answers e = false) (hacts : e.acts = false)
    (thr : Throw) : Enters Goal (Tidy thr) e (Tidy thr) := by
  intro l t t' v _ hJ hl
  refine ⟨goal_idle hacts hJ t', agree_silent h hl.1, fun hcalm hans => ?_⟩
  rw [answered_silent h] at hans
  exact hl.2 hcalm.2 hans

/-- Without an answer there is nothing to keep to. -/
theorem tidy_of_clean (thr : Throw) (l : Log) (t : Nat) (v : Vars)
    (hl : Clean l t v) : Tidy thr l t v := by
  refine ⟨hl.1, fun hcalm hans => ?_⟩
  rw [hl.2 hcalm] at hans
  cases hans

/-! ## A poll -/

/-- Inside a poll at `site`. -/
def Polling (site : PollSite) : Assn := fun l t v =>
  Clean l t v ∧ pollSite l = some site

/-- Between a high sample and the assignment it leads to. -/
def Sampled (site : PollSite) (b : Button) : Assn := fun l _ _ =>
  sampledDismissal (episodeLog l) = (b.dismisses || answered l) ∧
  pollSite l = some site ∧
  (Always CalmAnswer l → answered l = false ∧
    (b.dismisses = true → site ≠ .onLoop))

/-- After a poll at `site`: an answer, if there is one, is `thr`, and was not
given in the first loop. -/
def Polled (site : PollSite) (thr : Throw) : Assn := fun l _ _ =>
  Agree l ∧ (Always CalmAnswer l → answered l = true →
    isExitEditMode thr = true ∧ site ≠ .onLoop)

/-- The assertions along a poll that begins without an answer. -/
def poll (site : PollSite) : PollPoints where
  Scan := fun _ => Polling site
  High := Sampled site
  Held := fun _ => Polling site
  Released := fun _ => Polling site

/-- A poll in which no button is high answers nothing. -/
theorem polled_of_clean {site : PollSite} {thr : Throw} {l : Log} {t : Nat}
    {v : Vars} (hl : Clean l t v) : Polled site thr l t v := by
  refine ⟨hl.1, fun hcalm hans => ?_⟩
  rw [hl.2 hcalm] at hans
  cases hans

/-- The events a poll consists of, apart from its high samples. -/
theorem polling_silent {e : Event} (h : answers e = false)
    (hsite : e.alarmPoll? = none) (site : PollSite) :
    Enters Goal (Polling site) e (Polling site) := by
  intro l t t' v ht hJ hl
  have hclean := clean_silent h l t t' v ht hJ hl.1
  refine ⟨hclean.1, hclean.2, ?_⟩
  show latest _ (episodeLog _) = _
  rw [episodeLog_silent h, latest_cons]
  show (e.alarmPoll?).or (pollSite l) = _
  rw [hsite, Option.none_or, hl.2]

/-- A button is found high. -/
theorem sampled_high (site : PollSite) (b : Button) :
    Enters Goal (Polling site) (.digitalRead b true) (Sampled site b) := by
  rintro l t t' v - hJ ⟨⟨hagree, hclean⟩, hsite⟩
  refine ⟨goal_idle rfl hJ t', ?_, hsite, fun hcalm => ⟨hclean hcalm.2, ?_⟩⟩
  · show (b.dismisses || sampledDismissal (episodeLog l)) = _
    rw [← hagree]
    rfl
  · intro hb hon
    have hne := hcalm.1.1 hb
    rw [hsite, hon] at hne
    exact hne rfl

/-- The four buttons are two that dismiss and two that add. -/
theorem dismisses_eq_not_isAdd (b : Button) : b.dismisses = !b.isAdd := by
  cases b <;> rfl

/-- The sample becomes the answer of the poll. -/
theorem sampled_answer (site : PollSite) (b : Button) :
    Enters Goal (Sampled site b) (.mark (.throwSet b.throwOf))
      (Polled site b.throwOf) := by
  rintro l t t' v - hJ ⟨hagree, hsite, hclean⟩
  refine ⟨goal_idle rfl hJ t', hagree.symm, fun hcalm hans => ?_⟩
  obtain ⟨hnot, hon⟩ := hclean hcalm.2
  have hb : (b.dismisses || answered l) = true := hans
  rw [hnot, Bool.or_false] at hb
  exact ⟨hb, hon hb⟩

/-- The sample of an add button leaves the scan going. -/
theorem sampled_press (site : PollSite) {b : Button} (h : b.isAdd = true) :
    Enters Goal (Sampled site b) (.mark (.throwSet b.throwOf)) (Polling site) := by
  rintro l t t' v - hJ ⟨hagree, hsite, hclean⟩
  have hb : b.dismisses = false := by rw [dismisses_eq_not_isAdd, h]; rfl
  refine ⟨goal_idle rfl hJ t', ⟨hagree.symm, fun hcalm => ?_⟩, hsite⟩
  show (b.dismisses || answered l) = false
  rw [hb, (hclean hcalm.2).1]
  rfl

/-- A sample of a held add button changes nothing. -/
theorem polling_held (site : PollSite) {b : Button} (h : b.isAdd = true) :
    Enters Goal (Polling site) (.digitalRead b true) (Polling site) := by
  rintro l t t' v - hJ ⟨⟨hagree, hclean⟩, hsite⟩
  have hb : b.dismisses = false := by rw [dismisses_eq_not_isAdd, h]; rfl
  refine ⟨goal_idle rfl hJ t', ⟨?_, fun hcalm => hclean hcalm.2⟩, hsite⟩
  show answered l = (b.dismisses || sampledDismissal (episodeLog l))
  rw [hb, hagree]
  rfl

/-- The parts of a poll, put together. -/
theorem poll_outline (env : Env) (site : PollSite) (thr : Throw) :
    PollOutline Goal env thr (poll site) (Polling site) (Polled site) where
  entry := fun _ _ _ _ h => h
  low := fun _ => (polling_silent rfl rfl site).reads
  passed := fun _ _ _ _ h => polled_of_clean h.1
  high := fun b => (sampled_high site b).reads
  answer := fun b _ => (sampled_answer site b).marks
  press := fun _ h => (sampled_press site h).marks
  held := fun _ h => (polling_held site h).reads
  release := fun _ _ => (polling_silent rfl rfl site).reads
  settle := fun _ _ l t t' v ht hJ h =>
    have h' := polling_silent (e := .delay 10) rfl rfl site l t t' v ht hJ h
    ⟨h'.1, polled_of_clean h'.2.1⟩

/-- What a poll of the alarm loop leaves behind. -/
theorem alarmPoll_polled (env : Env) (site : PollSite) (thr : Throw) :
    Safely Goal env Clean (alarmPoll site thr) (Polled site) := by
  refine Safely.alarmPoll ?_ (poll_outline env site thr).safely
  intro l t v hJ hl
  have hclean := clean_silent (e := .mark (.alarmPoll site)) rfl l t t v
    (Nat.le_refl t) hJ hl
  exact ⟨hclean.1, hclean.2, rfl⟩

/-- Outside the first loop a poll leaves the answer in `throwEdit`. -/
theorem tidy_of_polled {site : PollSite} {thr : Throw} {l : Log} {t : Nat}
    {v : Vars} (h : Polled site thr l t v) : Tidy thr l t v :=
  ⟨h.1, fun hcalm hans => (h.2 hcalm hans).1⟩

/-- In the first loop there is no answer. -/
theorem clean_of_polled {thr : Throw} {l : Log} {t : Nat} {v : Vars}
    (h : Polled .onLoop thr l t v) : Clean l t v := by
  refine ⟨h.1, fun hcalm => ?_⟩
  by_contra hne
  exact (h.2 hcalm (by simpa using hne)).2 rfl

/-! ## An episode -/

/-- The elapsed-time tests; behind an answer the condition keeps them from
succeeding. -/
theorem measures (thr : Throw) (limit : UInt32) :
    Measures Goal (Tidy thr) limit Clean (Tidy thr) := by
  intro l t t' v ht hJ hl
  have hread := tidy_silent (e := .millis (UInt32.ofNat t')) rfl rfl thr l t t' v
    ht hJ hl
  have hmark := tidy_silent (e := .mark (.elapsed limit
    (UInt32.ofNat t' - v.sprinklersLastTime))) rfl rfl thr _ t' t' v
    (Nat.le_refl t') hread.1 hread.2
  refine ⟨hread.1, fun hdue => ⟨hmark.1, hmark.2.1, fun hcalm => ?_⟩,
    fun _ => hmark⟩
  -- a successful test is calm only if nobody has answered
  by_contra hne
  have hans : answered l = true := (Bool.not_eq_false _).mp hne
  have hlt := hcalm.1.2 _ rfl (hread.2.1 ▸ hans)
  exact absurd hlt (UInt32.not_lt.mpr hdue)

/-- The first `for` loop is left without an answer, by the condition. -/
def relayOn : RelayPoints where
  Round := fun _ _ => Clean
  Polled := fun _ _ => Clean
  Written := fun _ _ => Clean
  Done := fun _ => Clean

/-- The second can be left with one: switching the relay off is no act. -/
def relayOff : RelayPoints where
  Round := fun _ _ => Clean
  Polled := fun _ => Tidy
  Written := fun _ => Tidy
  Done := Tidy

/-- Once `throwEdit` is no answer, there has been none. -/
theorem clean_of_tidy {thr : Throw} (hthr : isExitEditMode thr = false) {l : Log}
    {t : Nat} {v : Vars} (h : Tidy thr l t v) : Clean l t v := by
  refine ⟨h.1, fun hcalm => ?_⟩
  by_contra hne
  have hexit := h.2 hcalm (by simpa using hne)
  rw [hthr] at hexit
  cases hexit

/-- The parts of the first `for` loop. -/
theorem relayOn_outline (env : Env) :
    RelayOutline Goal env .onLoop 140 relayOn where
  poll := fun _ thr => (alarmPoll_polled env .onLoop thr).weaken
    (fun _ _ _ _ h => h) fun _ _ _ _ _ h => clean_of_polled h
  write := fun _ _ => clean_silent rfl
  next := fun _ _ _ => clean_silent rfl
  stop := fun _ _ _ => clean_silent rfl
  finish := fun _ _ _ _ _ h => h

/-- The parts of the second. -/
theorem relayOff_outline (env : Env) :
    RelayOutline Goal env .offLoop 0 relayOff where
  poll := fun _ thr => (alarmPoll_polled env .offLoop thr).weaken
    (fun _ _ _ _ h => h) fun _ _ _ _ _ h => tidy_of_polled h
  write := fun _ thr => tidy_silent rfl rfl thr
  next := fun _ thr hthr l t t' v ht hJ h =>
    have h' := tidy_silent (e := .delay 10) rfl rfl thr l t t' v ht hJ h
    ⟨h'.1, clean_of_tidy hthr h'.2⟩
  stop := fun _ thr _ => tidy_silent rfl rfl thr
  finish := fun thr l t v _ h => tidy_of_clean thr l t v h

/-- Nothing is known. -/
def Anything : Assn := fun _ _ _ => True

/-- Before an episode begins, nothing is claimed of it. -/
theorem anything_enters {e : Event} (h : e.acts = false) {K : Assn} :
    Enters Goal K e Anything :=
  fun _ _ t' _ _ hJ _ => ⟨goal_idle h hJ t', trivial⟩

/-- The assertions along an episode. -/
def episode : EpisodePoints where
  Start := Anything
  Begun := Clean
  Timed := Clean
  Test := Tidy
  Head := Clean
  Polled := Tidy
  Due := fun _ => Clean
  on := relayOn
  off := relayOff
  Report := Tidy
  Notify := fun _ _ => Clean
  Leaving := Anything
  Lit := Anything
  Quiet := Anything
  Dry := Anything
  Over := Anything

/-- A message answers nothing. -/
theorem answers_of_inNotify (e : Event) (h : e.inNotify = true) :
    answers e = false := by
  cases e with
  | mark p => cases p <;> first | rfl | cases h
  | _ => first | rfl | cases h

/-- The parts of an episode. -/
theorem episode_outline (env : Env) : EpisodeOutline Goal env episode where
  alarm := fun _ t _ hJ _ => ⟨goal_idle rfl hJ t, rfl, fun _ => rfl⟩
  clock := fun l t t' v => clean_silent rfl l t t' v
  tone := fun l t t' v ht hJ h =>
    have h' := clean_silent (e := .tone 835) rfl l t t' v ht hJ h
    ⟨h'.1, tidy_of_clean .idle _ _ v h'.2⟩
  stay := fun thr hthr l t v hJ h =>
    have h' := tidy_silent (e := .mark (.alarmTest thr)) rfl rfl thr l t t v
      (Nat.le_refl t) hJ h
    ⟨h'.1, clean_of_tidy hthr h'.2⟩
  leave := fun _ _ => (anything_enters rfl).marks
  head := (alarmPoll_polled env .head .idle).weaken (fun _ _ _ _ h => h)
    fun _ _ _ _ _ h => tidy_of_polled h
  due := fun thr => measures thr 10000
  lit := fun _ => clean_silent rfl
  on := relayOn_outline env
  dark := fun _ => clean_silent rfl
  off := relayOff_outline env
  poured := fun _ _ _ _ _ h => h
  report := fun thr => measures thr 20000
  notify := fun _ _ msg => Safely.frame _ (Footprint.sendLineMessage msg)
    (fun e he => clean_silent (answers_of_inNotify e he)) fun _ _ _ _ _ _ h => h
  notified := fun thr l t v _ h => tidy_of_clean thr l t v h
  backlight := anything_enters rfl
  noTone := anything_enters rfl
  dry := anything_enters rfl
  finish := (anything_enters rfl).marks

/-! ## Whole runs -/

/-- `ptIO` does nothing that an alarm does. -/
theorem acts_of_inIo (e : Event) (h : e.inIo = true) : e.acts = false := by
  cases e with
  | mark p => cases p <;> first | rfl | cases h
  | _ => first | rfl | cases h

/-- Nor do the other parts of the sketch. -/
theorem acts_of_inBackground (e : Event) (h : e.inBackground = true) :
    e.acts = false := by
  cases e with
  | mark p => cases p <;> first | rfl | cases h
  | _ => first | rfl | cases h

end Answered

/-- **Nothing after the answer.**  In every run whose dismissing samples are
taken outside the first relay loop and followed only by failing elapsed-time
tests, nothing is actuated or reported after the user has answered. -/
theorem nothing_after_answer (env : Env) (n : Nat)
    (hcalm : Always CalmAnswer (run env n).log) :
    Always ActsBeforeAnswer (run env n).log := by
  open Answered in
  have hIo := Safely.frame (J := Goal) (K := Anything) env
    Footprint.ptIO (fun e he => anything_enters (acts_of_inIo e he))
    fun _ _ _ _ _ _ h => h
  have hrest : ∀ e, e.inBackground = true → Enters Goal Anything e Anything :=
    fun e he => anything_enters (acts_of_inBackground e he)
  exact (episode_outline env).run_safely hIo hrest (fun _ _ _ _ h => h)
    (fun _ _ _ _ h => h) (fun _ _ _ _ h => h) ⟨fun _ => trivial, trivial⟩ n hcalm

/-- An alarm pending at power-on is dismissed with the edit button at once. -/
def promptAnswer : Env :=
  { Env.pending with level := fun i _ b => b = .btnEditMode && i == 24 }

/-- The answer comes at the head of the pass, and the episode ends. -/
theorem nothing_after_prompt_answer :
    Always ActsBeforeAnswer (run promptAnswer 40).log :=
  nothing_after_answer promptAnswer 40 (by decide +kernel)

/-- The same alarm is dismissed in the first round of the first loop. -/
def answerInLoop : Env :=
  { Env.pending with
    elapse := fun i => if i = 24 then 10000 else 0
    level := fun i _ b => b = .btnEditMode && i == 30 }

/-- Or at the head of a pass, 20 s before its second test. -/
def answerBeforeReport : Env :=
  { Env.pending with
    elapse := fun i => if i = 26 then 20000 else 0
    level := fun i _ b => b = .btnEditMode && i == 24 }

/-- The relay is driven after the answer of `answerInLoop`, and a message is
sent after the answer of `answerBeforeReport`. -/
theorem acts_after_answer :
    ¬ Always ActsBeforeAnswer (run answerInLoop 32).log ∧
      ¬ Always ActsBeforeAnswer (run answerBeforeReport 27).log := by
  constructor
  · decide +kernel
  · decide +kernel

end SprinklersAlarmClock
