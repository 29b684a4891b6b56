import SprinklersAlarmClock.Verified.Offline

/-!
# Dismissing an alarm

A pass of the alarm loop polls the buttons at its head and once in every round
of its two `for` loops, and carries one `throwEdit` through all of them.  The
pass therefore ends on the button that was sampled high last, whatever was
sampled before (`PassOk`).  An episode left by its loop condition runs its four
clean-up statements, and nothing else in between (`owed`).  So a dismissal ends
the episode exactly when no add button is sampled high after it, and nothing
keeps the pass from its end: no message finds the socket dead, and no wait goes
on for ever (`dismissal_kept_iff`).
-/

namespace SprinklersAlarmClock

open Logic SPIOStream

/-! ## Reading a pass -/

namespace Event

/-- The button this event sampled high. -/
def high? : Event → Option Button
  | .digitalRead b true => some b
  | _ => none

/-- The value this event assigns to `throw_return`. -/
def throwSet? : Event → Option Throw
  | .mark (.throwSet thr) => some thr
  | _ => none

end Event

/-- The edit and the confirm button dismiss; the add buttons do not. -/
def Button.dismisses (b : Button) : Bool := isExitEditMode b.throwOf

/-- The button sampled high last. -/
def lastHigh (l : Log) : Option Button := latest (fun e => e.event.high?) l

/-- Some `runEditAlarmMode` has set `throwEdit` to `throwExit` or
`throwConfirm`. -/
def dismissed (l : Log) : Bool :=
  l.any fun e => e.event.throwSet?.any isExitEditMode

/-- The edit or the confirm button has been sampled high. -/
def sampledDismissal (l : Log) : Bool :=
  l.any fun e => e.event.high?.any Button.dismisses

/-- The clean-up code of an episode. -/
def cleanUp : List Event :=
  [.backlight, .noTone, .analogWrite 0, .mark .alarmEnd]

/-- What is left of the clean-up code once the loop has been left. -/
def owed : Log → List Event
  | [] => []
  | e :: older =>
      match e.event.alarmTest? with
      | some thr => if isExitEditMode thr then cleanUp else []
      | none => (owed older).tail

/-! ## The property and its condition -/

/-- A pass in which some poll dismissed ends on a dismissal, and from there on the
clean-up code runs. -/
def PassKept (e : Entry) (older : Log) : Prop :=
  (∀ thr ∈ e.event.alarmTest?, dismissed (pass older) = true →
    isExitEditMode thr = true) ∧
  ∀ next ∈ (owed older).head?, e.event = next

/-- In a pass in which the edit or the confirm button is sampled high, one of
them is sampled high last. -/
def AnswerLast (e : Entry) (older : Log) : Prop :=
  ∀ _thr ∈ e.event.alarmTest?, sampledDismissal (pass older) = true →
    (lastHigh (pass older)).any Button.dismisses = true

/-- Some poll of the pass under way has dismissed. -/
def passDismissed (l : Log) : Bool := passOpen l && dismissed (pass l)

/-- In the pass under way the edit or the confirm button has been sampled high. -/
def passAnswered (l : Log) : Bool := passOpen l && sampledDismissal (pass l)

/-- No dismissal is lost: a pass with a dismissal in it, be it a poll's answer or
as yet only a sample, comes to its end, on a dismissal, and the clean-up code
runs. -/
structure DismissalKept (env : Env) : Prop where
  passes : ∀ n, Always PassKept (run env n).log
  ends : ∀ n, passDismissed (run env n).log = true ∨ passAnswered (run env n).log = true →
    TestFollows env n isExitEditMode cleanUp

/-- When a message of such a pass asks for its stream, the socket is alive. -/
def OnlineOnceAnswered (e : Entry) (older : Log) : Prop :=
  ∀ _up ∈ e.event.streamPtr?, passAnswered older = true → socketAlive older = true

/-- A pass with a dismissing sample in it has one as its last high sample when it
ends, is not stopped by a dead socket and does not wait for ever. -/
structure AnswerStands (env : Env) : Prop where
  last : ∀ n, Always AnswerLast (run env n).log
  online : ∀ n, Always OnlineOnceAnswered (run env n).log
  letsGo : ∀ n, passAnswered (run env n).log = true → ¬ Endless env n

instance (e : Entry) (older : Log) : Decidable (PassKept e older) :=
  @instDecidableAnd _ _ (Option.decidableForallMem _) (Option.decidableForallMem _)

instance (e : Entry) (older : Log) : Decidable (AnswerLast e older) :=
  Option.decidableForallMem _

/-! ## The value carried through a pass -/

/-- `throwEdit` is the answer to the last high sample of the pass, and a pass
has a dismissing poll exactly when it has a dismissing sample. -/
def Answers (thr : Throw) (l : Log) : Prop :=
  thr = (lastHigh (pass l)).elim .idle Button.throwOf ∧
    dismissed (pass l) = sampledDismissal (pass l)

/-- Where a poll has dismissed, there is a sample that made it. -/
def Grounded (l : Log) : Prop := passDismissed l = true → passAnswered l = true

/-- What every entry of a run does. -/
structure PassOk (e : Entry) (older : Log) : Prop where
  answers : ∀ thr ∈ e.event.alarmTest?, Answers thr older
  owes : ∀ next ∈ (owed older).head?, e.event = next
  grounded : Grounded (e :: older)

/-- On entries that a run makes, the property and its condition agree. -/
theorem PassOk.kept_iff {e : Entry} {older : Log} (h : PassOk e older) :
    PassKept e older ↔ AnswerLast e older := by
  obtain ⟨htest, howed, -⟩ := h
  unfold PassKept AnswerLast
  rw [and_iff_left howed]
  refine forall_congr' fun thr => forall_congr' fun hthr => ?_
  obtain ⟨hvalue, hagree⟩ := htest thr hthr
  rw [hagree, hvalue]
  cases lastHigh (pass older) with
  | none => rfl
  | some b => rfl

/-- Outside a pass nothing has been dismissed. -/
theorem grounded_of_closed {l : Log} (h : passOpen l = false) : Grounded l := by
  intro hdismissed
  unfold passDismissed at hdismissed
  rw [h] at hdismissed
  cases hdismissed

/-- In a pass the polls are compared with the samples. -/
theorem grounded_of_sampled {l : Log}
    (h : dismissed (pass l) = true → sampledDismissal (pass l) = true) : Grounded l := by
  intro hdismissed
  obtain ⟨hopen, hpoll⟩ := Bool.and_eq_true_iff.mp hdismissed
  exact Bool.and_eq_true_iff.mpr ⟨hopen, h hpoll⟩

/-- Between two polls they agree. -/
theorem Answers.grounded {thr : Throw} {l : Log} (h : Answers thr l) : Grounded l := by
  refine grounded_of_sampled fun hdismissed => ?_
  rwa [h.2] at hdismissed

namespace Dismissal

/-- Every entry of the log is fine. -/
def Goal : Safety := fun l _ => Always PassOk l

/-- No clean-up code is due and no pass is under way. -/
def Settled : Assn := fun l _ _ => owed l = [] ∧ passOpen l = false

/-- No clean-up code is due and `throwEdit` has the value `thr`. -/
def Carries (thr : Throw) : Assn := fun l _ _ => owed l = [] ∧ Answers thr l

/-- The events that a pass is read from. -/
def polls : Event → Bool
  | .digitalRead _ true | .mark (.throwSet _) => true
  | .mark .alarm | .mark (.alarmTest _) => true
  | _ => false

/-- The loop condition is one of the events a pass is read from. -/
theorem alarmTest?_of_polls : ∀ {e : Event}, polls e = false → e.alarmTest? = none := by
  intro e h
  cases e with
  | mark p => cases p <;> first | rfl | cases h
  | _ => rfl

/-- It ends a pass. -/
theorem alarmTest?_of_within {e : Event} (h : Passes.within e = true) :
    e.alarmTest? = none := by
  cases e with
  | mark p => cases p <;> first | rfl | cases h
  | _ => rfl

/-- An entry is one statement less that is owed. -/
theorem owed_cons {e : Event} (h : e.alarmTest? = none) (t : Nat) (l : Log) :
    owed (⟨t, e⟩ :: l) = (owed l).tail := by
  simp only [owed, h]

/-- Where nothing is owed, nothing comes to be owed but at the loop condition. -/
theorem owed_settled {e : Event} (h : e.alarmTest? = none) (t : Nat) {l : Log}
    (hl : owed l = []) : owed (⟨t, e⟩ :: l) = [] := by
  rw [owed_cons h, hl]
  rfl

/-- An entry that is not an evaluation of the loop condition is fine where no
clean-up code is due. -/
theorem passOk_of_settled {e : Event} {t : Nat} {l : Log} (h : e.alarmTest? = none)
    (hl : owed l = []) (hgrounded : Grounded (⟨t, e⟩ :: l)) : PassOk ⟨t, e⟩ l where
  answers := by
    intro thr hthr
    rw [h] at hthr
    cases hthr
  owes := by
    intro next hnext
    rw [hl] at hnext
    cases hnext
  grounded := hgrounded

/-- Outside a pass, what neither begins nor ends one changes nothing. -/
theorem settled_enters {e : Event} (h : Passes.within e = true) :
    Enters Goal Settled e Settled := by
  rintro l t t' v - hJ ⟨howed, hclosed⟩
  have htest := alarmTest?_of_within h
  have hclosed' := (Passes.passOpen_within h t' l).trans hclosed
  exact ⟨⟨passOk_of_settled htest howed (grounded_of_closed hclosed'), hJ⟩,
    owed_settled htest t' howed, hclosed'⟩

/-- In a pass, an entry after which the value carried is the answer. -/
theorem carries_entered {e : Event} {thr : Throw} (h : e.alarmTest? = none) {l : Log}
    {t t' : Nat} {v : Vars} (hJ : Goal l t) (howed : owed l = [])
    (hanswers : Answers thr (⟨t', e⟩ :: l)) :
    Both Goal (Carries thr) (⟨t', e⟩ :: l) t' v :=
  ⟨⟨passOk_of_settled h howed hanswers.grounded, hJ⟩, owed_settled h t' howed, hanswers⟩

/-- Other events are entries of the pass and nothing more. -/
theorem pass_neutral {e : Event} (h : polls e = false) (t : Nat) (l : Log) :
    pass (⟨t, e⟩ :: l) = ⟨t, e⟩ :: pass l := by
  cases e with
  | mark p => cases p <;> first | rfl | cases h
  | _ => rfl

/-- They leave the answer of the pass as it is. -/
theorem answers_neutral {e : Event} (h : polls e = false) {thr : Throw} {t : Nat}
    {l : Log} (hl : Answers thr l) : Answers thr (⟨t, e⟩ :: l) := by
  unfold Answers
  rw [pass_neutral h]
  cases e with
  | digitalRead b level =>
      cases level with
      | true => cases h
      | false => exact hl
  | mark p => cases p <;> first | exact hl | cases h
  | _ => exact hl

/-- And the value carried with it. -/
theorem carries_neutral {e : Event} (h : polls e = false) (thr : Throw) :
    Enters Goal (Carries thr) e (Carries thr) := by
  rintro l t t' v - hJ ⟨howed, hanswers⟩
  exact carries_entered (alarmTest?_of_polls h) hJ howed (answers_neutral h hanswers)

/-! ## A poll -/

/-- Between a high sample and the assignment it leads to. -/
def Sampled (b : Button) : Assn := fun l _ _ =>
  owed l = [] ∧ lastHigh (pass l) = some b ∧
    sampledDismissal (pass l) = (b.dismisses || dismissed (pass l))

/-- The assertions along a poll that is given `thr`. -/
def poll (thr : Throw) : PollPoints where
  Scan := fun _ => Carries thr
  High := Sampled
  Held := fun b => Carries b.throwOf
  Released := fun b => Carries b.throwOf

/-- A button is found high. -/
theorem sampled_high (b : Button) (thr : Throw) :
    Enters Goal (Carries thr) (.digitalRead b true) (Sampled b) := by
  rintro l t t' v - hJ ⟨howed, -, hagree⟩
  have hsampled : sampledDismissal (pass (⟨t', .digitalRead b true⟩ :: l)) =
      (b.dismisses || dismissed (pass (⟨t', .digitalRead b true⟩ :: l))) := by
    show (b.dismisses || sampledDismissal (pass l)) = (b.dismisses || dismissed (pass l))
    rw [hagree]
  have hgrounded : Grounded (⟨t', .digitalRead b true⟩ :: l) :=
    grounded_of_sampled fun hdismissed => by rw [hsampled, hdismissed, Bool.or_true]
  exact ⟨⟨passOk_of_settled rfl howed hgrounded, hJ⟩, owed_settled rfl t' howed, rfl, hsampled⟩

/-- Its answer takes the place of the value carried so far. -/
theorem sampled_answer (b : Button) :
    Enters Goal (Sampled b) (.mark (.throwSet b.throwOf)) (Carries b.throwOf) := by
  rintro l t t' v - hJ ⟨howed, hlast, hagree⟩
  refine carries_entered rfl hJ howed ⟨?_, ?_⟩
  · show b.throwOf = (lastHigh (pass l)).elim .idle Button.throwOf
    rw [hlast]
    rfl
  · show (b.dismisses || dismissed (pass l)) = sampledDismissal (pass l)
    rw [hagree]

/-- A sample of a held add button changes nothing. -/
theorem carries_held {b : Button} (h : b.isAdd = true) :
    Enters Goal (Carries b.throwOf) (.digitalRead b true) (Carries b.throwOf) := by
  rintro l t t' v - hJ ⟨howed, -, hagree⟩
  have hquiet : b.dismisses = false := by
    cases b with
    | btnAddHour => rfl
    | btnAddMinute => rfl
    | btnEditMode => cases h
    | btnAlarmConfirm => cases h
  refine carries_entered rfl hJ howed ⟨rfl, ?_⟩
  show dismissed (pass l) = (b.dismisses || sampledDismissal (pass l))
  rw [hquiet, Bool.false_or, hagree]

/-- The parts of a poll. -/
theorem poll_outline (env : Env) (thr : Throw) :
    PollOutline Goal env thr (poll thr) (Carries thr) Carries where
  entry := fun _ _ _ _ h => h
  low := fun _ => (carries_neutral rfl thr).reads
  passed := fun _ _ _ _ h => h
  high := fun b => (sampled_high b thr).reads
  answer := fun b _ => (sampled_answer b).marks
  press := fun b _ => (sampled_answer b).marks
  held := fun _ h => (carries_held h).reads
  release := fun b _ => (carries_neutral rfl b.throwOf).reads
  settle := fun b _ => carries_neutral rfl b.throwOf

/-- A poll hands on the answer to the last high sample. -/
theorem alarmPoll_carries (env : Env) (site : PollSite) (thr : Throw) :
    Safely Goal env (Carries thr) (alarmPoll site thr) Carries :=
  Safely.alarmPoll (carries_neutral rfl thr).marks (poll_outline env thr).safely

/-! ## An episode -/

/-- The loop has been left, and the clean-up code is due from `n` on. -/
def Owes (n : Nat) : Assn := fun l _ _ => owed l = cleanUp.drop n ∧ passOpen l = false

/-- The statement that is owed is made, and the rest is owed. -/
theorem owes_pays {n : Nat} {e : Event} (hn : cleanUp[n]? = some e)
    (h : Passes.within e = true) : Enters Goal (Owes n) e (Owes (n + 1)) := by
  rintro l t t' v - hJ ⟨howed, hclosed⟩
  have htest := alarmTest?_of_within h
  have hclosed' := (Passes.passOpen_within h t' l).trans hclosed
  have hdrop : owed l = e :: cleanUp.drop (n + 1) := by
    obtain ⟨hlt, hget⟩ := List.getElem?_eq_some_iff.mp hn
    rw [howed, List.drop_eq_getElem_cons hlt, hget]
  refine ⟨⟨⟨?_, ?_, grounded_of_closed hclosed'⟩, hJ⟩, ?_, hclosed'⟩
  · intro thr hthr
    rw [htest] at hthr
    cases hthr
  · intro next hnext
    rw [hdrop] at hnext
    exact Option.some.inj hnext
  · rw [owed_cons htest, hdrop]
    rfl

/-- The assertions along the two `for` loops. -/
def relayPoints : RelayPoints where
  Round := fun _ => Carries
  Polled := fun _ => Carries
  Written := fun _ => Carries
  Done := Carries

/-- The parts of a `for` loop. -/
theorem relay_outline (env : Env) (site : PollSite) (value : UInt16) :
    RelayOutline Goal env site value relayPoints where
  poll := fun _ thr => alarmPoll_carries env site thr
  write := fun _ thr => carries_neutral rfl thr
  next := fun _ thr _ => carries_neutral rfl thr
  stop := fun _ thr _ => carries_neutral rfl thr
  finish := fun _ _ _ _ _ h => h

/-- The assertions along an episode; `Leaving` and what follows count the
clean-up code down. -/
def episode : EpisodePoints where
  Start := Settled
  Begun := Carries .idle
  Timed := Carries .idle
  Test := Carries
  Head := Carries .idle
  Polled := Carries
  Due := Carries
  on := relayPoints
  off := relayPoints
  Report := Carries
  Notify := fun _ => Carries
  Leaving := Owes 0
  Lit := Owes 1
  Quiet := Owes 2
  Dry := Owes 3
  Over := Settled

/-- An elapsed-time test reads no button. -/
theorem measures (thr : Throw) (limit : UInt32) :
    Measures Goal (Carries thr) limit (Carries thr) (Carries thr) :=
  Measures.keep (fun _ => carries_neutral rfl thr) fun _ => carries_neutral rfl thr

/-- Nor does a message. -/
theorem polls_of_inNotify : ∀ e : Event, e.inNotify = true → polls e = false := by
  intro e h
  cases e with
  | mark p => cases p <;> first | rfl | cases h
  | _ => first | rfl | cases h

/-- The evaluation of the loop condition closes a pass. -/
theorem passOk_test {thr : Throw} {t : Nat} {l : Log} (howed : owed l = [])
    (h : Answers thr l) : PassOk ⟨t, .mark (.alarmTest thr)⟩ l where
  answers := by
    intro thr' hthr
    obtain rfl : thr = thr' := Option.some.inj hthr
    exact h
  owes := by
    intro next hnext
    rw [howed] at hnext
    cases hnext
  grounded := grounded_of_sampled fun hdismissed => by cases hdismissed

/-- The parts of an episode. -/
theorem episode_outline (env : Env) : EpisodeOutline Goal env episode where
  alarm := by
    rintro l t v hJ ⟨howed, -⟩
    exact carries_entered rfl hJ howed ⟨rfl, rfl⟩
  clock := fun l t t' v => carries_neutral rfl .idle l t t' v
  tone := carries_neutral rfl .idle
  stay := by
    intro thr hthr l t v hJ hl
    refine ⟨⟨passOk_test hl.1 hl.2, hJ⟩, ?_, rfl, rfl⟩
    simp only [owed, Event.alarmTest?, hthr]
    rfl
  leave := by
    intro thr hthr l t v hJ hl
    refine ⟨⟨passOk_test hl.1 hl.2, hJ⟩, ?_, ?_⟩
    · simp only [owed, Event.alarmTest?, hthr]
      rfl
    · show (!isExitEditMode thr) = false
      rw [hthr]
      rfl
  head := alarmPoll_carries env .head .idle
  due := fun thr => measures thr 10000
  lit := fun thr => carries_neutral rfl thr
  on := relay_outline env .onLoop 140
  dark := fun thr => carries_neutral rfl thr
  off := relay_outline env .offLoop 0
  poured := fun _ _ _ _ _ h => h
  report := fun thr => measures thr 20000
  notify := fun _ thr msg => Safely.frame _ (Footprint.sendLineMessage msg)
    (fun e he => carries_neutral (polls_of_inNotify e he) thr)
    fun _ _ _ _ _ _ h => h
  notified := fun _ _ _ _ _ h => h
  backlight := owes_pays rfl rfl
  noTone := owes_pays rfl rfl
  dry := owes_pays rfl rfl
  finish := (owes_pays (n := 3) rfl rfl).marks

end Dismissal

/-! ## Whole runs -/

/-- Every pass of every run ends on the answer to its last high sample, and
every episode left runs its clean-up code. -/
theorem passes_ok (env : Env) (n : Nat) : Always PassOk (run env n).log := by
  open Dismissal in
  have hIo := Safely.frame (K := Settled) env Footprint.ptIO
    (fun e he => settled_enters (Passes.within_of_inIo e he)) fun _ _ _ _ _ _ h => h
  have hrest : ∀ e, e.inBackground = true → Enters Goal Settled e Settled :=
    fun e he => settled_enters (Passes.within_of_inBackground e he)
  exact (episode_outline env).run_safely hIo hrest (fun _ _ _ _ h => h)
    (fun _ _ _ _ h => h) (fun _ _ _ _ h => h) ⟨trivial, rfl, rfl⟩ n

/-- At any point of a run, no finished pass has lost a dismissal if and only if
every finished pass with a dismissing sample has one as its last high sample. -/
theorem passKept_iff (env : Env) (n : Nat) :
    Always PassKept (run env n).log ↔ Always AnswerLast (run env n).log :=
  Always.iff_of (fun _ _ => PassOk.kept_iff) (passes_ok env n)

/-- At any point of a run, a pass with a dismissing poll has a dismissing sample. -/
theorem passes_grounded (env : Env) (n : Nat) : Grounded (run env n).log := by
  have hall := passes_ok env n
  cases hlog : (run env n).log with
  | nil => exact grounded_of_closed rfl
  | cons e older =>
      rw [hlog] at hall
      exact hall.1.grounded

/-! ## The end of a dismissed pass -/

/-- A pass that has been answered stays so until it ends. -/
theorem passAnswered_append {rest l : Log} (h : ∀ e ∈ rest, startsPass e = false)
    (hl : passAnswered l = true) : passAnswered (rest ++ l) = true := by
  unfold passAnswered sampledDismissal at hl ⊢
  rw [passOpen_append h, pass_append h, List.any_append]
  simp only [Bool.and_eq_true, Bool.or_eq_true] at hl ⊢
  exact ⟨hl.1, .inr hl.2⟩

/-- Events that are not read leave it as it is. -/
theorem passAnswered_neutral {e : Event} (h : Dismissal.polls e = false) (t : Nat) (l : Log) :
    passAnswered (⟨t, e⟩ :: l) = passAnswered l := by
  unfold passAnswered sampledDismissal
  rw [Dismissal.pass_neutral h]
  cases e with
  | digitalRead b level =>
      cases level with
      | true => cases h
      | false => rfl
  | mark p => cases p <;> first | rfl | cases h
  | _ => rfl

/-- What is owed comes, entry by entry. -/
theorem owed_comes {l : Log} {todo : List Event} (howed : owed l = todo)
    (htodo : ∀ e ∈ todo, e.alarmTest? = none) :
    ∀ {newer : Log}, Always PassOk (newer ++ l) → newer.length ≤ todo.length →
      newer.map Entry.event = (todo.take newer.length).reverse ∧
        owed (newer ++ l) = todo.drop newer.length := by
  intro newer
  induction newer with
  | nil => exact fun _ _ => ⟨rfl, howed⟩
  | cons e newer ih =>
      intro hall hle
      obtain ⟨hmap, hrest⟩ := ih hall.2 (Nat.le_of_succ_le hle)
      have hlt : newer.length < todo.length := hle
      have hdrop := List.drop_eq_getElem_cons hlt
      have hhead : (owed (newer ++ l)).head? = some todo[newer.length] := by
        rw [hrest, hdrop]
        rfl
      have hnext : e.event = todo[newer.length] := hall.1.owes _ hhead
      have hnone : e.event.alarmTest? = none := by
        rw [hnext]
        exact htodo _ (List.getElem_mem hlt)
      constructor
      · rw [List.map_cons, hmap, List.length_cons, hnext, List.take_succ_eq_append_getElem hlt,
          List.reverse_append]
        rfl
      · show owed (e :: (newer ++ l)) = _
        rw [Dismissal.owed_cons hnone, hrest, List.length_cons, hdrop]
        rfl

/-- The clean-up code does not evaluate the condition again. -/
theorem alarmTest?_of_cleanUp : ∀ e ∈ cleanUp, e.alarmTest? = none := by decide

/-- Nothing comes after a null stream but its dereference. -/
theorem nullDeref_of_nullStream {l : Log} (hnull : nullStream l = true) :
    ∀ {newer : Log}, Always OfflineOk (newer ++ l) →
      ∀ e ∈ newer, e.event.isNullDeref = true := by
  intro newer
  induction newer with
  | nil => exact fun _ _ he => absurd he List.not_mem_nil
  | cons e newer ih =>
      intro hall
      have hold := ih hall.2
      have hhalts := hall.1.halts
      refine List.forall_mem_cons.mpr ⟨?_, hold⟩
      cases newer with
      | nil => exact hhalts.1 hnull
      | cons last newer =>
          -- the processor has already stopped
          obtain ⟨t, last⟩ := last
          have hlast := hold ⟨t, last⟩ List.mem_cons_self
          have hrun : halted (⟨t, last⟩ :: (newer ++ l)) = false := hhalts.2
          cases last with
          | mark p =>
              cases p with
              | nullDeref => cases hrun
              | _ => cases hlast
          | _ => cases hlast

/-- A fault ends no pass. -/
theorem startsPass_of_isNullDeref {e : Entry} (h : e.event.isNullDeref = true) :
    startsPass e = false := by
  obtain ⟨t, e⟩ := e
  cases e with
  | mark p => cases p <;> first | rfl | cases h
  | _ => cases h

/-- Where every stream asked for in a dismissed pass is alive, none of them is
dereferenced as null. -/
theorem not_faulted_of_passAnswered {w : World} (hanswered : passAnswered w.log = true)
    (hall : Always OfflineOk w.log) (honline : Always OnlineOnceAnswered w.log) :
    ¬ Faulted w := by
  rintro ⟨t, older, hlog⟩
  rw [hlog] at hall honline hanswered
  rw [passAnswered_neutral (by rfl)] at hanswered
  have hnull := hall.1.stream.2 rfl
  cases older with
  | nil => cases hnull
  | cons e older =>
      obtain ⟨t', e⟩ := e
      cases e with
      | mark p =>
          cases p with
          | streamPtr up =>
              cases up with
              | true => cases hnull
              | false =>
                  rw [passAnswered_neutral (by rfl)] at hanswered
                  have halive := honline.2.1 false rfl hanswered
                  rw [← hall.2.1.stream.1 false rfl] at halive
                  cases halive
          | _ => cases hnull
      | _ => cases hnull

/-- A dismissed pass whose last high sample dismisses ends on a dismissal. -/
theorem test_of_passAnswered {l older newer rest : Log} {test : Entry}
    (hlog : l = newer ++ test :: (rest ++ older))
    (htest : test.event.alarmTest?.any (fun _ => true) = true)
    (hrest : ∀ e ∈ rest, startsPass e = false) (hanswered : passAnswered older = true)
    (hall : Always PassOk l) (hlast : Always AnswerLast l) :
    test.event.alarmTest?.any isExitEditMode = true := by
  have hanswers := ((always_iff _ _).mp hall newer test _ hlog).answers
  have hhigh := (always_iff _ _).mp hlast newer test _ hlog
  have hsampled := (Bool.and_eq_true_iff.mp (passAnswered_append hrest hanswered)).2
  obtain ⟨thr, hthr⟩ : ∃ thr, test.event.alarmTest? = some thr := by
    cases h : test.event.alarmTest? with
    | none => rw [h] at htest; cases htest
    | some thr => exact ⟨thr, rfl⟩
  obtain ⟨hvalue, -⟩ := hanswers thr hthr
  have hdismisses := hhigh thr hthr hsampled
  rw [hthr]
  show isExitEditMode thr = true
  rw [hvalue]
  cases hb : lastHigh (pass (rest ++ older)) with
  | none => rw [hb] at hdismisses; cases hdismisses
  | some b => rw [hb] at hdismisses; exact hdismisses

/-- An evaluation of the loop condition on a dismissal is followed by the whole
clean-up code. -/
theorem cleanUp_follows {env : Env} {n m : Nat} {newer rest : Log} {test : Entry}
    (hlog : (run env (n + m)).log = newer ++ test :: (rest ++ (run env n).log))
    (htest : test.event.alarmTest?.any isExitEditMode = true)
    (hrest : ∀ e ∈ rest, startsPass e = false) :
    TestFollows env n isExitEditMode cleanUp := by
  have howed : owed (test :: (rest ++ (run env n).log)) = cleanUp := by
    obtain ⟨t, e⟩ := test
    cases e with
    | mark p =>
        cases p with
        | alarmTest thr =>
            have hthr : isExitEditMode thr = true := htest
            simp only [owed, Event.alarmTest?, hthr]
            rfl
        | _ => cases htest
    | _ => cases htest
  -- a fault is no part of the clean-up code
  have hcalm : ∀ k (later : Log),
      (run env k).log = later ++ test :: (rest ++ (run env n).log) →
      later.length ≤ cleanUp.length → ¬ Faulted (run env k) := by
    rintro k later hlater hle ⟨t, older, hfault⟩
    have hall := passes_ok env k
    rw [hlater] at hall hfault
    obtain ⟨hevents, -⟩ := owed_comes howed alarmTest?_of_cleanUp hall hle
    cases later with
    | nil =>
        obtain ⟨rfl, -⟩ := List.cons.inj hfault
        cases htest
    | cons last before =>
        obtain ⟨rfl, -⟩ := List.cons.inj hfault
        have hmem : Event.mark .nullDeref ∈ (cleanUp.take (before.length + 1)).reverse := by
          rw [← List.length_cons, ← hevents]
          exact List.mem_cons_self
        exact absurd (List.mem_of_mem_take (List.mem_reverse.mp hmem)) (by decide)
  obtain ⟨more, hmore, htick⟩ := run_extends env (n + m) cleanUp.length
  have hlater : (run env (n + m + cleanUp.length)).log =
      (more ++ newer) ++ test :: (rest ++ (run env n).log) := by
    rw [hmore, hlog, List.append_assoc]
  have hlength : cleanUp.length ≤ (more ++ newer).length := by
    by_contra hlt
    have hle := Nat.le_of_not_le hlt
    rw [List.length_append] at hlt hle
    rw [(run_tick env _).resolve_right (hcalm _ _ hlater (by rw [List.length_append]; exact hle)),
      (run_tick env _).resolve_right (hcalm _ _ hlog (by omega))] at htick
    omega
  have hall := passes_ok env (n + m + cleanUp.length)
  rw [hlater] at hall
  -- the oldest four of the newer entries are the clean-up code
  obtain ⟨before, done, hsplit, hdone⟩ : ∃ before done, more ++ newer = before ++ done ∧
      done.length = cleanUp.length :=
    ⟨_, _, (List.take_append_drop ((more ++ newer).length - cleanUp.length) _).symm, by
      rw [List.length_drop]
      omega⟩
  rw [hsplit, List.append_assoc] at hall
  have hdrop : Always PassOk (done ++ test :: (rest ++ (run env n).log)) := by
    have h := hall.drop before.length
    rwa [List.drop_left] at h
  obtain ⟨hevents, -⟩ := owed_comes howed alarmTest?_of_cleanUp hdrop (Nat.le_of_eq hdone)
  rw [hdone, List.take_length] at hevents
  refine ⟨m + cleanUp.length, before, done, test, rest, ?_, hevents, htest, hrest⟩
  rw [← Nat.add_assoc, hlater, hsplit]

/-- **When a dismissal is kept.**  In every run, every pass with a dismissal in it
ends on a dismissal, with the clean-up code after it, if and only if every such
pass has a dismissing sample as its last high one, finds the socket alive when a
message asks for its stream, and does not wait for ever. -/
theorem dismissal_kept_iff (env : Env) : DismissalKept env ↔ AnswerStands env := by
  constructor
  · intro h
    refine ⟨fun n => (passKept_iff env n).mp (h.passes n), fun n => ?_,
      fun n hn => not_endless_of_testFollows (h.ends n (.inr hn))⟩
    rw [always_iff]
    intro newer e older hlog up hup hanswered
    cases hup' : up with
    | true =>
        -- the pointer says what the socket said
        have hfollows := ((always_iff _ _).mp (offline_ok env n) newer e older hlog).stream
        rw [← hfollows.1 up hup, hup']
    | false =>
        exfalso
        subst hup'
        obtain ⟨t, e⟩ := e
        have hstream : e = .mark (.streamPtr false) := by
          cases e with
          | mark p =>
              cases p with
              | streamPtr b => rw [show b = false from Option.some.inj hup]
              | _ => cases hup
          | _ => cases hup
        subst hstream
        have hall := offline_ok env n
        rw [hlog] at hall
        have hnull : nullStream (⟨t, .mark (.streamPtr false)⟩ :: older) = true := rfl
        have hnewer : ∀ x ∈ newer, startsPass x = false := fun x hx =>
          startsPass_of_isNullDeref (nullDeref_of_nullStream hnull hall x hx)
        have hopen : passAnswered (run env n).log = true := by
          rw [hlog]
          refine passAnswered_append hnewer ?_
          rw [passAnswered_neutral (by rfl)]
          exact hanswered
        obtain ⟨m, later, done, test, rest, hlater, -, htest, -⟩ := h.ends n (.inr hopen)
        have hall' := offline_ok env (n + m)
        have hcut : (run env (n + m)).log = (later ++ done ++ test :: rest ++ newer) ++
            ⟨t, .mark (.streamPtr false)⟩ :: older := by
          rw [hlater, hlog]
          simp
        rw [hcut] at hall'
        have hderef := nullDeref_of_nullStream hnull hall' test (by simp)
        obtain ⟨t', e⟩ := test
        cases e with
        | mark p => cases p <;> first | cases htest | cases hderef
        | _ => cases htest
  · rintro ⟨hlast, honline, hletsGo⟩
    refine ⟨fun n => (passKept_iff env n).mpr (hlast n), fun n hkept => ?_⟩
    have hn := hkept.elim (passes_grounded env n) id
    have hopen : passOpen (run env n).log = true := (Bool.and_eq_true_iff.mp hn).1
    rcases pass_ends env n hopen with htest | ⟨m, rest, hlog, hrest, hend⟩
    · obtain ⟨m, newer, done, test, rest, hlog, hdone, htest, hrest⟩ := htest
      obtain rfl : done = [] := List.map_eq_nil_iff.mp hdone
      rw [List.append_nil] at hlog
      refine cleanUp_follows hlog ?_ hrest
      exact test_of_passAnswered hlog htest hrest hn (passes_ok env (n + m)) (hlast (n + m))
    · have hm : passAnswered (run env (n + m)).log = true := by
        rw [hlog]
        exact passAnswered_append hrest hn
      rcases hend with hendless | hfault
      · exact absurd hendless (hletsGo (n + m) hm)
      · exact absurd hfault (not_faulted_of_passAnswered hm (offline_ok env (n + m))
          (honline (n + m)))

/-- An alarm pending at power-on is dismissed with the edit button in the first
round of the first loop, and the hour button is tapped in the first round of the
second. -/
def tapAfterAnswer : Env :=
  { Env.pending with
    elapse := fun i => if i = 24 then 10000 else 0
    level := fun i _ b =>
      b = .btnEditMode && i == 30 || b = .btnAddHour && i == 35 }

/-- The tap is taken for the answer of the whole pass: the loop condition is
evaluated on `throwAddHour`, and the episode goes on. -/
theorem dismissal_lost : ¬ DismissalKept tapAfterAnswer := by
  have hlost : ¬ Always PassKept (run tapAfterAnswer 1235).log :=
    mt (Always.drop 1) (by decide +kernel)
  exact fun h => hlost (h.passes 1235)

end SprinklersAlarmClock
