import SprinklersAlarmClock.Verified.EditSession
import Mathlib.Algebra.Group.Nat.Defs

/-!
# The date an edit session starts with

`date` is both the clock reading and the edit buffer, and only the timed refresh
of `ptUIDisplay` cleans it.  A session ends with `delay(1000)`, so the next
refresh is due as soon as control leaves `ptIO`; but `ptIO` samples the edit
button once more before it returns.  If that sample is low the refresh comes
first, and the next session starts with a fresh `date`; if it is high the next
session starts with what the last one left behind (`fresh_start_iff`).
-/

namespace SprinklersAlarmClock

open Logic SPIOStream TimeSystemData

/-! ## Reading the log -/

namespace Event

/-- A session ends. -/
def endsSession : Event → Bool
  | .mark (.editEnd _) => true
  | _ => false

/-- The result of an `updatedData()` call. -/
def updated? : Event → Option RTCDateTime
  | .mark (.updatedData d) => some d
  | _ => none

/-- The edit button is sampled low. -/
def editLow : Event → Bool
  | .digitalRead .btnEditMode false => true
  | _ => false

end Event

/-- The entries since the last edit session ended, or all of them. -/
def sinceEnd (l : Log) : Log := since (fun e => e.event.endsSession) l

/-- Some edit session has ended. -/
def ended (l : Log) : Bool := l.any fun e => e.event.endsSession

/-- `d` is the result of an `updatedData()` call in `l`. -/
def updatedTo (d : RTCDateTime) (l : Log) : Bool :=
  l.any fun e => e.event.updated? == some d

/-- The edit button has been sampled low in `l`. -/
def sampledEditLow (l : Log) : Bool := l.any fun e => e.event.editLow

/-! ## The property and its condition -/

/-- A session starts with the result of an `updatedData()` call made after the
previous session ended. -/
def FreshStart (e : Entry) (older : Log) : Prop :=
  ∀ d ∈ e.event.editStart?, updatedTo d (sinceEnd older) = true

/-- When a session starts after another, the edit button has been sampled low in
between. -/
def ReleasedStart (e : Entry) (older : Log) : Prop :=
  ∀ _d ∈ e.event.editStart?, ended older = true →
    sampledEditLow (sinceEnd older) = true

instance (e : Entry) (older : Log) : Decidable (FreshStart e older) :=
  Option.decidableForallMem _

/-- At every start of a session the two agree. -/
def StartOk (e : Entry) (older : Log) : Prop := FreshStart e older ↔ ReleasedStart e older

namespace FreshDate

/-- The true time up to which the counter and its sum with 1000 do not wrap. -/
def horizon : Nat := 2 ^ 32 - 1000

/-- Before the counter wraps, every start is fine. -/
def Goal : Safety := fun l t => t < horizon → Always StartOk l

/-- An assertion that matters only before the counter wraps. -/
def Before (K : Assn) : Assn := fun l t v => t < horizon → K l t v

/-- Verification conditions before the counter wraps. -/
theorem before_enters {e : Event} {K K' : Assn}
    (h : ∀ l t t' v, t ≤ t' → t' < horizon → K l t v →
      StartOk ⟨t', e⟩ l ∧ K' (⟨t', e⟩ :: l) t' v) :
    Enters Goal (Before K) e (Before K') := by
  intro l t t' v ht hJ hK
  constructor
  · intro ht'
    have hlt : t < horizon := Nat.lt_of_le_of_lt ht ht'
    exact ⟨(h l t t' v ht ht' (hK hlt)).1, hJ hlt⟩
  · intro ht'
    exact (h l t t' v ht ht' (hK (Nat.lt_of_le_of_lt ht ht'))).2

/-! ## The invariant -/

/-- `lastTime` is the true time of an earlier moment. -/
def Timed (ago : Nat) (t : Nat) (v : Vars) : Prop :=
  v.ptUi = true ∧ ∃ L, v.uiLastTime = UInt32.ofNat L ∧ L + ago ≤ t

/-- The button has been released since the last session, if there was one. -/
def Released (l : Log) : Prop := ended l = true → sampledEditLow (sinceEnd l) = true

/-- `date` is a reading made since the last session. -/
def Fresh : Assn := fun l t v =>
  Timed 0 t v ∧ Released l ∧ updatedTo v.date (sinceEnd l) = true

/-- The next evaluation of the gate refreshes `date`. -/
def Due : Assn := fun l t v => Timed 1000 t v ∧ Released l

/-- A session has just ended. -/
def Stale : Assn := fun l t v =>
  Timed 1000 t v ∧ ended l = true ∧ sampledEditLow (sinceEnd l) = false ∧
    ∀ d, updatedTo d (sinceEnd l) = false

/-- No session has ended and nothing has been displayed. -/
def First : Assn := fun l _ v => v.ptUi = false ∧ ended l = false

/-- The events that start or end a session. -/
def crosses : Event → Bool
  | .mark (.editStart _) | .mark (.editEnd _) => true
  | _ => false

section Inside

variable {e : Event} (h : crosses e = false) (t : Nat) (l : Log)

include h

/-- An event that starts no session is fine. -/
theorem startOk_inside (older : Log) : StartOk ⟨t, e⟩ older := by
  have hnone : e.editStart? = none := by
    cases e with
    | mark p => cases p <;> first | rfl | cases h
    | _ => rfl
  constructor <;> intro _ d hd <;> rw [hnone] at hd <;> cases hd

/-- An event that ends none is one more since the last end. -/
theorem sinceEnd_inside : sinceEnd (⟨t, e⟩ :: l) = ⟨t, e⟩ :: sinceEnd l := by
  cases e with
  | mark p => cases p <;> first | rfl | cases h
  | _ => rfl

/-- Whether one has ended does not change. -/
theorem ended_inside : ended (⟨t, e⟩ :: l) = ended l := by
  cases e with
  | mark p => cases p <;> first | rfl | cases h
  | _ => rfl

end Inside

/-- A moment stays in the past. -/
theorem timed_later {ago t t' : Nat} {v : Vars} (ht : t ≤ t') (h : Timed ago t v) :
    Timed ago t' v :=
  ⟨h.1, h.2.imp fun _ hL => ⟨hL.1, Nat.le_trans hL.2 ht⟩⟩

/-- A button that was let go has been let go. -/
theorem released_inside {e : Event} (h : crosses e = false) {t : Nat} {l : Log}
    (hl : Released l) : Released (⟨t, e⟩ :: l) := by
  unfold Released
  rw [ended_inside h, sinceEnd_inside h]
  intro hended
  show (_ || sampledEditLow (sinceEnd l)) = true
  rw [hl hended, Bool.or_true]

/-- A reading stays fresh until a session ends. -/
theorem fresh_inside {e : Event} (h : crosses e = false) {l : Log} {t t' : Nat}
    {v : Vars} (ht : t ≤ t') (hl : Fresh l t v) : Fresh (⟨t', e⟩ :: l) t' v := by
  refine ⟨timed_later ht hl.1, released_inside h hl.2.1, ?_⟩
  rw [sinceEnd_inside h]
  show (_ || updatedTo v.date (sinceEnd l)) = true
  rw [hl.2.2, Bool.or_true]

/-- A refresh stays due. -/
theorem due_inside {e : Event} (h : crosses e = false) {l : Log} {t t' : Nat}
    {v : Vars} (ht : t ≤ t') (hl : Due l t v) : Due (⟨t', e⟩ :: l) t' v :=
  ⟨timed_later ht hl.1, released_inside h hl.2⟩

/-- Neither a low sample of the edit button nor a reading. -/
def cleans (e : Event) : Bool := e.editLow || e.updated?.isSome

/-- A date stays stale until the clock is read or the button sampled low. -/
theorem stale_inside {e : Event} (h : crosses e = false) (hc : cleans e = false)
    {l : Log} {t t' : Nat} {v : Vars} (ht : t ≤ t') (hl : Stale l t v) :
    Stale (⟨t', e⟩ :: l) t' v := by
  obtain ⟨htimed, hended, hlow, hupdate⟩ := hl
  obtain ⟨hnl, hnu⟩ := Bool.or_eq_false_iff.mp hc
  have hnone : e.updated? = none :=
    Option.isNone_iff_eq_none.mp (Option.isSome_eq_false_iff.mp hnu)
  refine ⟨timed_later ht htimed, by rw [ended_inside h, hended], ?_, fun d => ?_⟩
  · rw [sinceEnd_inside h]
    show (e.editLow || sampledEditLow (sinceEnd l)) = false
    rw [hnl, hlow]
    rfl
  · rw [sinceEnd_inside h]
    show ((e.updated? == some d) || updatedTo d (sinceEnd l)) = false
    rw [hnone, hupdate d]
    rfl

/-- An event inside a session or outside keeps what later events keep. -/
theorem inside_enters {e : Event} (h : crosses e = false) {K : Assn}
    (hK : ∀ l t t' v, t ≤ t' → K l t v → K (⟨t', e⟩ :: l) t' v) :
    Enters Goal (Before K) e (Before K) :=
  before_enters fun l t t' v ht _ hl =>
    ⟨startOk_inside h t' l, hK l t t' v ht hl⟩

/-- Outside sessions: `date` is fresh, or will be. -/
def Settled : Assn := fun l t v => Fresh l t v ∨ Due l t v

/-- Outside the sessions all this goes on. -/
theorem settled_inside {e : Event} (h : crosses e = false) :
    Enters Goal (Before Settled) e (Before Settled) :=
  inside_enters h fun _ _ _ _ ht hl =>
    hl.imp (fresh_inside h ht) (due_inside h ht)

/-! ## `ptUIDisplay` -/

/-- Up to the horizon a second that has passed opens the gate. -/
theorem gate_due {L T : Nat} (hL : L + 1000 ≤ T) (hT : T < horizon) :
    UInt32.ofNat L + 1000 ≤ UInt32.ofNat T := by
  unfold horizon at hT
  rw [UInt32.le_iff_toNat_le, UInt32.toNat_add, UInt32.toNat_ofNat',
    UInt32.toNat_ofNat']
  show (L % 2 ^ 32 + 1000) % 2 ^ 32 ≤ T % 2 ^ 32
  omega

/-- The assertions along `ptUIDisplay`. -/
def uiPoints : UiPoints where
  Top := Before fun l _ _ => Released l
  Entered := Before fun l _ _ => Released l
  Read := fun _ => Before fun l _ _ => Released l
  Left := fun _ => Before fun l _ _ => Released l
  Updated := fun d => Before fun l _ _ =>
    Released l ∧ updatedTo d (sinceEnd l) = true
  Shown := Before fun l _ v => Released l ∧ updatedTo v.date (sinceEnd l) = true
  Wait := Before Settled
  Idle := Before Fresh

/-- The release is not forgotten. -/
theorem released_enters {e : Event} (h : crosses e = false) :
    Enters Goal (Before fun l _ _ => Released l) e (Before fun l _ _ => Released l) :=
  inside_enters h fun _ _ _ _ _ hl => released_inside h hl

/-- Nor is the reading. -/
theorem updated_inside {e : Event} (h : crosses e = false) {d : RTCDateTime}
    {t : Nat} {l : Log} (hl : updatedTo d (sinceEnd l) = true) :
    updatedTo d (sinceEnd (⟨t, e⟩ :: l)) = true := by
  rw [sinceEnd_inside h]
  show (_ || updatedTo d (sinceEnd l)) = true
  rw [hl, Bool.or_true]

/-- Nor is the date that is shown. -/
theorem shown_enters {e : Event} (h : crosses e = false) :
    Enters Goal uiPoints.Shown e uiPoints.Shown :=
  inside_enters h fun _ _ _ _ _ hl =>
    ⟨released_inside h hl.1, updated_inside h hl.2⟩

/-- The parts of `ptUIDisplay`. -/
theorem ui_outline (env : Env) : UiOutline Goal env uiPoints where
  enter := (released_enters rfl).marks
  read := fun _ => released_enters rfl
  left := fun _ => (released_enters rfl).marks
  updated := by
    intro d l t v hJ hl
    have h := released_enters (e := .mark (.updatedData d)) rfl l t t v
      (Nat.le_refl t) hJ hl
    refine ⟨h.1, fun ht => ⟨h.2 ht, ?_⟩⟩
    show ((some d == some d) || _) = true
    rw [beq_self_eq_true, Bool.true_or]
  shown := by
    rintro d l t t' v ht hJ ⟨hl, rfl⟩
    exact shown_enters rfl l t t' v ht hJ hl
  stored := by
    intro l t t' v ht hJ hl
    have hread := shown_enters (e := .millis (UInt32.ofNat t')) rfl l t t' v ht hJ hl
    have hmark := shown_enters (e := .mark .uiStored) rfl _ t' t' v (Nat.le_refl t')
      hread.1 hread.2
    refine ⟨hread.1, hmark.1, fun htime => Or.inl ⟨?_, hmark.2 htime⟩⟩
    exact ⟨rfl, t', rfl, Nat.le_refl t'⟩
  gate := by
    intro l t t' v ht hJ hl
    have hread := settled_inside (e := .millis (UInt32.ofNat t')) rfl l t t' v ht hJ hl
    refine ⟨hread.1, fun _ => ?_, fun hshut => ?_⟩
    · have hmark := settled_inside (e := .mark (.uiGate true)) rfl _ t' t' v
        (Nat.le_refl t') hread.1 hread.2
      refine ⟨hmark.1, fun htime => ?_⟩
      rcases hmark.2 htime with hfresh | hdue
      · exact hfresh.2.1
      · exact hdue.2
    · have hmark := settled_inside (e := .mark (.uiGate false)) rfl _ t' t' v
        (Nat.le_refl t') hread.1 hread.2
      refine ⟨hmark.1, fun htime => ?_⟩
      rcases hmark.2 htime with hfresh | ⟨⟨-, L, hL, hpast⟩, -⟩
      · exact hfresh
      · rw [hL] at hshut
        exact absurd (gate_due hpast htime) hshut
  lc := by
    intro l t v hl ht
    refine (hl ht).imp ?_ ?_
    · exact fun h => ⟨⟨rfl, h.1.2⟩, h.2⟩
    · exact fun h => ⟨⟨rfl, h.1.2⟩, h.2⟩

/-! ## `ptIO` -/

/-- At the wait of `ptIO`. -/
def Pending : Assn := fun l t v => Fresh l t v ∨ Stale l t v

/-- The assertions along a session. -/
def sessionPoints : SessionPoints where
  Start := Before Pending
  Begun := Before fun _ t v => Timed 0 t v
  Loop := fun _ => Before fun _ t v => Timed 0 t v
  Polled := fun _ => Before fun _ t v => Timed 0 t v
  Ended := Before fun l t v => Timed 0 t v ∧ ended l = true ∧ sinceEnd l = []
  Over := Before Stale

/-- What is due or stale stays so while `ptIO` waits. -/
theorem pending_inside {e : Event} (h : crosses e = false)
    (hc : cleans e = false) :
    Enters Goal (Before Pending) e (Before Pending) :=
  inside_enters h fun _ _ _ _ ht hl =>
    hl.imp (fresh_inside h ht) (stale_inside h hc ht)

/-- `lastTime` stays in the past. -/
theorem timed_enters {e : Event} (h : crosses e = false) :
    Enters Goal (Before fun _ t v => Timed 0 t v) e
      (Before fun _ t v => Timed 0 t v) :=
  inside_enters h fun _ _ _ _ ht hl => timed_later ht hl

/-- `ptIO` does not assign to it. -/
theorem timed_vars {t : Nat} {v v' : Vars} (hv : ioVars v v') (h : Timed 0 t v) :
    Timed 0 t v' :=
  ⟨hv.1.trans h.1, h.2.imp fun _ hL => ⟨hv.2.1.trans hL.1, hL.2⟩⟩

/-- Where a session starts, the property and its condition agree. -/
theorem startOk_pending {l : Log} {t : Nat} {v : Vars} (h : Pending l t v) :
    StartOk ⟨t, .mark (.editStart v.date)⟩ l := by
  rcases h with ⟨-, hreleased, hupdated⟩ | ⟨-, hended, hlow, hupdate⟩
  · refine ⟨fun _ _ _ => hreleased, fun _ d hd => ?_⟩
    obtain rfl : v.date = d := Option.some.inj hd
    exact hupdated
  · constructor
    · intro hfresh
      have hup := hfresh v.date rfl
      rw [hupdate] at hup
      cases hup
    · intro hrel
      have hl := hrel v.date rfl hended
      rw [hlow] at hl
      cases hl

/-- Inside a session only the time of the last refresh matters. -/
theorem session_frame {α : Type} {env : Env} {S : Event → Bool} {c : Sketch α}
    (hc : Footprint S ioVars c) (hS : ∀ e, S e = true → crosses e = false) :
    Safely Goal env (Before fun _ t v => Timed 0 t v) c
      fun _ => Before fun _ t v => Timed 0 t v :=
  Safely.frame _ hc (fun e he => timed_enters (hS e he))
    fun _ _ _ _ hv _ h ht => timed_vars hv (h ht)

/-- A poll neither starts nor ends a session. -/
theorem crosses_of_inPoll (e : Event) (h : e.inPoll = true) : crosses e = false := by
  cases e with
  | mark p => cases p <;> first | rfl | cases h
  | _ => rfl

/-- Nor does what is made of its answer. -/
theorem crosses_of_inApply (e : Event) (h : e.inApply = true) :
    crosses e = false := by
  cases e with
  | mark p => cases p <;> first | rfl | cases h
  | _ => rfl

/-- The parts of a session; its closing delay makes a refresh due. -/
theorem session_outline {env : Env} (hdelay : env.HonoursDelay) :
    SessionOutline Goal env sessionPoints where
  start := by
    rintro d l t v hJ ⟨hl, rfl⟩
    refine ⟨fun ht => ⟨startOk_pending (hl ht), hJ ht⟩, fun ht => ?_, rfl⟩
    rcases hl ht with hfresh | hstale
    · exact hfresh.1
    · obtain ⟨hlc, L, hL, hpast⟩ := hstale.1
      exact ⟨hlc, L, hL, by omega⟩
  shown := by
    rintro d l t t' v ht hJ ⟨hl, -⟩
    exact timed_enters rfl l t t' v ht hJ hl
  poll := fun _ _ => session_frame (Footprint.runEditAlarmMode (V := ioVars) _)
    crosses_of_inPoll
  apply := fun thr => session_frame (Footprint.applyThrow thr) crosses_of_inApply
  finish := by
    intro thr _ l t v hJ hl
    have hok : StartOk ⟨t, .mark (.editEnd thr)⟩ l := by
      constructor <;> intro _ d hd <;> cases hd
    exact ⟨fun ht => ⟨hok, hJ ht⟩, fun ht => ⟨hl ht, rfl, rfl⟩⟩
  pause := by
    intro l t t' v ht hms hJ hl
    have hlong : t + 1000 ≤ t' := hms hdelay
    constructor
    · exact fun ht' => ⟨startOk_inside rfl t' l, hJ (Nat.lt_of_le_of_lt ht ht')⟩
    · intro ht'
      obtain ⟨⟨hlc, L, hL, hpast⟩, hended, hempty⟩ := hl (Nat.lt_of_le_of_lt ht ht')
      have hsince : sinceEnd (⟨t', .delay 1000⟩ :: l) = [⟨t', .delay 1000⟩] := by
        rw [sinceEnd_inside rfl, hempty]
      refine ⟨⟨hlc, L, hL, by omega⟩, by rw [ended_inside rfl, hended], ?_, ?_⟩
      · rw [hsince]
        rfl
      · intro d
        rw [hsince]
        rfl

/-- When `ptIO` returns, the button has been let go. -/
theorem ptIO_settled {env : Env} (hdelay : env.HonoursDelay) :
    Safely Goal env (Before Fresh) ptIO fun _ => Before Settled := by
  have hlow : Reads Goal env (Before Pending) .btnEditMode false (Before Settled) := by
    refine (before_enters fun l t t' v ht _ hl => ⟨startOk_inside rfl t' l, ?_⟩).reads
    rcases hl with hfresh | hstale
    · exact Or.inl (fresh_inside rfl ht hfresh)
    · exact Or.inr ⟨timed_later ht hstale.1, fun _ => rfl⟩
  have h := (session_outline hdelay).protothread (Before Pending) (Before Pending)
    (Before Settled) (fun _ _ _ h => h) hlow (pending_inside rfl rfl).reads
    (fun _ _ _ h => h) (pending_inside rfl rfl) fun _ _ _ _ h ht => Or.inr (h ht)
  exact h.weaken (fun _ _ _ _ h ht => Or.inl (h ht)) fun _ _ _ _ _ h => h

/-! ## The other parts of the sketch -/

/-- `setup()` starts no session. -/
theorem crosses_of_inSetup (e : Event) (h : e.inSetup = true) :
    crosses e = false := by
  cases e with
  | mark p => cases p <;> first | rfl | cases h
  | _ => rfl

/-- Nor does `ptSprinklers`. -/
theorem crosses_of_inSprinklers (e : Event) (h : e.inSprinklers = true) :
    crosses e = false := by
  cases e with
  | mark p => cases p <;> first | rfl | cases h
  | _ => rfl

/-- `ptSprinklers` leaves the clock display alone. -/
theorem settled_vars {l : Log} {t : Nat} {v v' : Vars} (hv : sprinklersVars v v')
    (h : Settled l t v) : Settled l t v' := by
  obtain ⟨hlc, hlast, hdate⟩ := hv
  refine h.imp ?_ ?_
  · rintro ⟨⟨hui, L, hL, hLt⟩, hreleased, hupdated⟩
    refine ⟨⟨hlc.trans hui, L, hlast.trans hL, hLt⟩, hreleased, ?_⟩
    rw [hdate]
    exact hupdated
  · rintro ⟨⟨hui, L, hL, hLt⟩, hreleased⟩
    exact ⟨⟨hlc.trans hui, L, hlast.trans hL, hLt⟩, hreleased⟩

/-- Where `loop()` is entered. -/
def Entry : Assn := fun l t v => Settled l t v ∨ First l t v

/-- Before the first display no session has ended. -/
theorem first_enters {e : Event} (h : crosses e = false) :
    Enters Goal (Before First) e (Before First) :=
  inside_enters h fun _ _ _ _ _ hl => ⟨hl.1, by rw [ended_inside h, hl.2]⟩

/-- `ptUIDisplay` returns with a fresh date. -/
theorem ptUIDisplay_fresh (env : Env) :
    Safely Goal env (Before Entry) ptUIDisplay fun _ => Before Fresh := by
  refine (ui_outline env).safely fun l t v _ h => ?_
  by_cases hlc : v.ptUi = true
  · rw [if_pos hlc]
    intro ht
    rcases h ht with hset | hfirst
    · exact hset
    · rw [hfirst.1] at hlc
      cases hlc
  · rw [if_neg hlc]
    intro ht
    rcases h ht with hset | hfirst
    · rcases hset with hfresh | hdue
      · exact hfresh.2.1
      · exact hdue.2
    · intro hended
      rw [hfirst.2] at hended
      cases hended

end FreshDate

/-- In every run every start of a session is fresh or condemned by its
condition, as long as true time is below `2 ^ 32 - 1000` ms. -/
theorem starts_ok (env : Env) (hdelay : env.HonoursDelay) (n : Nat)
    (htime : (run env n).now < 2 ^ 32 - 1000) : Always StartOk (run env n).log := by
  open FreshDate in
  have hsetup := Safely.frame (J := Goal) (K := Before First) env
    Footprint.setup (fun e he => first_enters (crosses_of_inSetup e he))
    fun _ _ _ _ hv _ h ht => ⟨hv.2 (h ht).1, (h ht).2⟩
  have hSprinklers := Safely.frame (J := Goal) (K := Before Settled) env
    Footprint.ptSprinklers
    (fun e he => settled_inside (crosses_of_inSprinklers e he))
    fun _ _ _ _ hv _ h ht => settled_vars hv (h ht)
  exact run_safely
    (hsetup.weaken (fun _ _ _ _ h => h) fun _ _ _ _ _ h ht => Or.inr (h ht))
    (ptUIDisplay_fresh env) (ptIO_settled hdelay)
    (hSprinklers.weaken (fun _ _ _ _ h => h) fun _ _ _ _ _ h ht => Or.inl (h ht))
    ⟨fun _ => trivial, fun _ => ⟨rfl, rfl⟩⟩ n htime

/-- **When an edit leaves no trace.**  Before the counter wraps, every session
of a run starts with a reading made after the previous session if and only if
the edit button has been sampled low in between. -/
theorem fresh_start_iff (env : Env) (hdelay : env.HonoursDelay) (n : Nat)
    (htime : (run env n).now < 2 ^ 32 - 1000) :
    Always FreshStart (run env n).log ↔ Always ReleasedStart (run env n).log :=
  Always.iff_of (fun _ _ h => h) (starts_ok env hdelay n htime)

/-- The edit button opens a session at power-on, closes it, and is still high when
`ptIO` samples it again. -/
def heldAfterExit : Env :=
  { Env.quiet with
    level := fun i _ b => b = .btnEditMode && (i == 18 || i == 26 || i == 28)
      || b = .btnAddHour && i == 22 }

/-- The second session starts with the hour of the first, which was cancelled. -/
theorem starts_stale :
    heldAfterExit.HonoursDelay ∧ (run heldAfterExit 30).now < 2 ^ 32 - 1000 ∧
      ¬ Always FreshStart (run heldAfterExit 30).log :=
  ⟨fun _ _ => Nat.le_refl _, by decide +kernel, by decide +kernel⟩

/-- The same, but the button is let go before it opens the second session. -/
def openedAgain : Env :=
  { Env.quiet with
    level := fun i _ b => b = .btnEditMode && (i == 18 || i == 26 || i == 35)
      || b = .btnAddHour && i == 22 }

/-- Both sessions start with the hour of the clock: the one added in the first is
gone. -/
theorem openedAgain_fresh :
    (run openedAgain 45).log.filterMap (fun e => e.event.editStart?.map fun d => d.hour) = [0, 0] ∧
      (Always FreshStart (run openedAgain 45).log ↔
        Always ReleasedStart (run openedAgain 45).log) :=
  ⟨by decide +kernel,
    fresh_start_iff openedAgain (fun _ _ => Nat.le_refl _) 45 (by decide +kernel)⟩

end SprinklersAlarmClock
