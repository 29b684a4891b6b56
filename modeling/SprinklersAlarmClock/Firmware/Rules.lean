import SprinklersAlarmClock.Firmware.Footprint

/-!
# Proof outlines over the board

Assertions inside a proof speak of the log, the true time and the program's
variables (`Assn`); what is to be shown at every program point speaks of the
first two only (`Safety`).  `Safely J env K c Q` is the Hoare triple of this
development: started where `K` holds, `c` keeps `J` at every program point and
ends where `Q` holds of its answer.  The rules of `Logic.Rules` are restated for
it, operation by operation, and `run_safely` puts the three protothreads
together.
-/

namespace SprinklersAlarmClock

open Logic

/-- An assertion on log, time and variables. -/
abbrev Assn := Log → Nat → Vars → Prop

/-- What has to hold at every program point. -/
abbrev Safety := Log → Nat → Prop

/-- An assertion together with the safety property. -/
def Both (J : Safety) (K : Assn) : Assn := fun l t v => J l t ∧ K l t v

/-- The assertion holds in a state. -/
def At (K : Assn) (w : World) : Prop := K w.log w.now w.vars

/-- The safety property holds in a state. -/
def Safe (J : Safety) (w : World) : Prop := J w.log w.now

/-- From a moment at which `J` and `K` hold, `c` keeps `J` at every program point
and establishes `Q`. -/
def Safely {α : Type} (J : Safety) (env : Env) (K : Assn) (c : Sketch α)
    (Q : α → Assn) : Prop :=
  ∀ w, At (Both J K) w → wp (Safe J) env c (fun a => At (Both J (Q a))) w

/-- An operation that enters `e` in the log leads from `K` to `K'`. -/
def Enters (J : Safety) (K : Assn) (e : Event) (K' : Assn) : Prop :=
  ∀ l t t' v, t ≤ t' → J l t → K l t v → Both J K' (⟨t', e⟩ :: l) t' v

/-- Program point `p` leads from `K` to `K'`, taking no time. -/
def Marks (J : Safety) (K : Assn) (p : Point) (K' : Assn) : Prop :=
  ∀ l t v, J l t → K l t v → Both J K' (⟨t, .mark p⟩ :: l) t v

/-- A sample of `b` that reads `level` leads from `K` to `K'`. -/
def Reads (J : Safety) (env : Env) (K : Assn) (b : Button) (level : Bool)
    (K' : Assn) : Prop :=
  ∀ l t t' v i, t ≤ t' → env.level i t' b = level → J l t → K l t v →
    Both J K' (⟨t', .digitalRead b level⟩ :: l) t' v

/-- A `delay(ms)` leads from `K` to `K'`. -/
def Waits (J : Safety) (env : Env) (K : Assn) (ms : Nat) (K' : Assn) : Prop :=
  ∀ l t t' v, t ≤ t' → (env.HonoursDelay → t + ms ≤ t') → J l t → K l t v →
    Both J K' (⟨t', .delay ms⟩ :: l) t' v

theorem Enters.waits {J : Safety} {env : Env} {K K' : Assn} {ms : Nat}
    (h : Enters J K (.delay ms) K') : Waits J env K ms K' :=
  fun l t t' v ht _ hJ hK => h l t t' v ht hJ hK

theorem Enters.marks {J : Safety} {K K' : Assn} {p : Point}
    (h : Enters J K (.mark p) K') : Marks J K p K' :=
  fun l t v hJ hK => h l t t v (Nat.le_refl t) hJ hK

theorem Enters.reads {J : Safety} {env : Env} {K K' : Assn} {b : Button}
    {level : Bool} (h : Enters J K (.digitalRead b level) K') :
    Reads J env K b level K' :=
  fun l t t' v _ ht _ hJ hK => h l t t' v ht hJ hK

namespace Safely

variable {J : Safety} {env : Env} {K : Assn} {α β : Type}

theorem weaken {K' : Assn} {c : Sketch α} {Q Q' : α → Assn}
    (h : Safely J env K' c Q') (hpre : ∀ l t v, J l t → K l t v → K' l t v)
    (hpost : ∀ a l t v, J l t → Q' a l t v → Q a l t v) :
    Safely J env K c Q := by
  intro w hw
  refine wp_mono (h w ⟨hw.1, hpre _ _ _ hw.1 hw.2⟩) ?_
  intro a w' hw'
  exact ⟨hw'.1, hpost a _ _ _ hw'.1 hw'.2⟩

theorem seq {c : Sketch β} {f : β → Sketch α} {M : β → Assn} {Q : α → Assn}
    (hc : Safely J env K c M) (hf : ∀ b, Safely J env (M b) (f b) Q) :
    Safely J env K (c >>= f) Q :=
  fun w hw => wp_bind (wp_mono (hc w hw) fun b w' hw' => hf b w' hw')

theorem pure {a : α} {Q : α → Assn} (h : ∀ l t v, J l t → K l t v → Q a l t v) :
    Safely J env K (pure a) Q :=
  fun _ hw => wp_pure ⟨hw.1, h _ _ _ hw.1 hw.2⟩

theorem halt {Q : α → Assn} : Safely J env K (Prog.halt : Sketch α) Q :=
  fun _ hw => wp_halt hw.1

theorem ite {p : Prop} [Decidable p] {c d : Sketch α} {Q : α → Assn}
    (hc : p → Safely J env K c Q) (hd : ¬ p → Safely J env K d Q) :
    Safely J env K (if p then c else d) Q :=
  fun w hw => wp_ite (fun hp => hc hp w hw) fun hp => hd hp w hw

/-- Nothing has to be shown where `K` cannot hold. -/
theorem of_false {c : Sketch α} {Q : α → Assn}
    (h : ∀ l t v, J l t → ¬ K l t v) : Safely J env K c Q :=
  fun _ hw => absurd hw.2 (h _ _ _ hw.1)

/-- A value the assertion speaks of is fixed for what follows. -/
theorem of_exists {ι : Type} {K : ι → Assn} {c : Sketch α} {Q : α → Assn}
    (h : ∀ i, Safely J env (K i) c Q) :
    Safely J env (fun l t v => ∃ i, K i l t v) c Q := by
  rintro w ⟨hJ, i, hK⟩
  exact h i w ⟨hJ, hK⟩

/-- What does not depend on the state is known throughout. -/
theorem known {p : Prop} {c : Sketch α} {Q : α → Assn}
    (h : p → Safely J env K c Q) : Safely J env (fun l t v => p ∧ K l t v) c Q := by
  rintro w ⟨hJ, hp, hK⟩
  exact h hp w ⟨hJ, hK⟩

/-! ### Operations -/

theorem act {e : Event} {Q : Unit → Assn} (h : Enters J K e (Q ())) :
    Safely J env K (act e) Q :=
  fun _ hw => wp_op hw.1 (h _ _ _ _ (Nat.le_add_right _ _) hw.1 hw.2)

theorem wait {ms : Nat} {Q : Unit → Assn} (h : Waits J env K ms (Q ())) :
    Safely J env K (SprinklersAlarmClock.delay ms) Q :=
  fun _ hw => wp_op hw.1 (h _ _ _ _ (Nat.le_add_right _ _)
    (fun hd => Nat.add_le_add_left (hd _ _) _) hw.1 hw.2)

theorem delay {ms : Nat} {Q : Unit → Assn}
    (h : Enters J K (.delay ms) (Q ())) : Safely J env K (delay ms) Q :=
  wait h.waits

theorem ask {answer : Env → Nat → World → α} {event : α → Event} {Q : α → Assn}
    (h : ∀ a, Enters J K (event a) (Q a)) :
    Safely J env K (ask answer event) Q :=
  fun _ hw => wp_op hw.1 (h _ _ _ _ _ (Nat.le_add_right _ _) hw.1 hw.2)

theorem millis {Q : UInt32 → Assn}
    (h : ∀ l t t' v, t ≤ t' → J l t → K l t v →
      Both J (Q (UInt32.ofNat t')) (⟨t', .millis (UInt32.ofNat t')⟩ :: l) t' v) :
    Safely J env K millis Q :=
  fun _ hw => wp_op hw.1 (h _ _ _ _ (Nat.le_add_right _ _) hw.1 hw.2)

theorem digitalRead {b : Button} {Q : Bool → Assn}
    (h : ∀ level, Reads J env K b level (Q level)) :
    Safely J env K (digitalRead b) Q :=
  fun w hw => wp_op hw.1
    (h _ _ _ _ _ w.tick (Nat.le_add_right _ _) rfl hw.1 hw.2)

theorem readTimeRegs {Q : TimeRegs → Assn}
    (h : ∀ i, Enters J K (.readTime (env.clock i)) (Q (env.clock i))) :
    Safely J env K DS3231.readTimeRegs Q :=
  fun w hw => wp_op hw.1 (h w.tick _ _ _ _ (Nat.le_add_right _ _) hw.1 hw.2)

theorem writeBurst {reg : UInt8} {values : List UInt8} {Q : Unit → Assn}
    (h : ∀ a2f, Enters J K (.writeRegisters reg values a2f) (Q ())) :
    Safely J env K (DS3231.writeBurst reg values) Q :=
  fun _ hw => wp_op hw.1 (h _ _ _ _ _ (Nat.le_add_right _ _) hw.1 hw.2)

theorem mark {p : Point} {Q : Unit → Assn} (h : Marks J K p (Q ())) :
    Safely J env K (mark p) Q :=
  fun _ hw => wp_modify (h _ _ _ hw.1 hw.2)

theorem assign {f : Vars → Vars} {Q : Unit → Assn}
    (h : ∀ l t v, J l t → K l t v → Q () l t (f v)) :
    Safely J env K (assign f) Q :=
  fun _ hw => wp_modify ⟨hw.1, h _ _ _ hw.1 hw.2⟩

/-- Reading the variables fixes their values for what follows. -/
theorem vars {f : Vars → Sketch α} {Q : α → Assn}
    (h : ∀ v₀, Safely J env (fun l t v => K l t v ∧ v = v₀) (f v₀) Q) :
    Safely J env K (vars >>= f) Q :=
  fun w hw => wp_bind (wp_bind (wp_get (wp_pure (h _ w ⟨hw.1, hw.2, rfl⟩))))

/-! ### Loops -/

theorem loop (Inv : β → Assn) {body : β → Sketch (β ⊕ α)} {Q : α → Assn}
    (hbody : ∀ b, Safely J env (Inv b) (body b)
      (fun r => Sum.elim Inv Q r)) (b : β) :
    Safely J env (Inv b) (Prog.loop body b) Q := by
  intro w hw
  refine wp_loop (fun b => At (Both J (Inv b))) ?_ (fun _ _ h => h.1) hw
  intro b w hw
  refine wp_mono (hbody b w hw) ?_
  intro r w' hr
  cases r with
  | inl b' => exact hr
  | inr a => exact hr

theorem whileDo {cond : Sketch Bool} {body : Sketch Unit} (Inv Go : Assn)
    {Q : Unit → Assn}
    (hcond : Safely J env Inv cond fun b => if b = true then Go else Q ())
    (hbody : Safely J env Go body fun _ => Inv) :
    Safely J env Inv (Prog.whileDo cond body) Q := by
  intro w hw
  refine wp_whileDo (At (Both J Inv)) ?_ (fun _ h => h.1) hw
  intro w hw
  refine wp_mono (hcond w hw) ?_
  intro b w' hb
  cases b with
  | true => exact hbody w' hb
  | false => exact hb

theorem upTo (Inv : Nat → β → Assn) {body : β → Sketch (β × Bool)}
    {Q : β → Assn}
    (hbody : ∀ k b, Safely J env (Inv (k + 1) b) (body b)
      fun r => if r.2 = true then Q r.1 else Inv k r.1)
    (hend : ∀ b l t v, J l t → Inv 0 b l t v → Q b l t v) (k : Nat) (b : β) :
    Safely J env (Inv k b) (Prog.upTo body k b) Q := by
  refine wp_upTo (fun k b => At (Both J (Inv k b))) ?_ ?_ k b
  · intro k b w hw
    refine wp_mono (hbody k b w hw) ?_
    rintro ⟨b', stop⟩ w' hr
    cases stop with
    | true => exact hr
    | false => exact hr
  · exact fun b w hw => ⟨hw.1, hend b _ _ _ hw.1 hw.2⟩

/-- A protothread whose local continuation is the variable `lc`.  It is entered
at the wait when `lc` is set and at the top otherwise. -/
theorem protothread (lc : Vars → Bool) {setLc : Vars → Vars}
    {before after : Sketch Unit} {cond : Sketch Bool}
    (Top Reached Wait Woken : Assn) {Q : Unit → Assn}
    (hbefore : Safely J env Top before fun _ => Reached)
    (hset : ∀ l t v, J l t → Reached l t v → Wait l t (setLc v))
    (hresume : ∀ l t v, J l t → Wait l t v → Wait l t (setLc v))
    (hcond : Safely J env Wait cond fun b => if b = true then Woken else Q ())
    (hafter : Safely J env Woken after fun _ => Top)
    (hentry : ∀ l t v, J l t → K l t v →
      if lc v = true then Wait l t v else Top l t v) :
    Safely J env K (Prog.protothread (fun w => lc w.vars)
      (fun w => { w with vars := setLc w.vars }) before cond after) Q := by
  intro w hw
  refine wp_protothread (At (Both J Top)) (At (Both J Wait)) (At (Both J Woken))
    ?_ ?_ ?_ hafter (fun _ h => h.1) (fun _ h => h.1) ?_
  · intro w hw
    refine wp_mono (hbefore w hw) ?_
    exact fun _ w' hw' => ⟨hw'.1, hset _ _ _ hw'.1 hw'.2⟩
  · exact fun w hw => ⟨hw.1, hresume _ _ _ hw.1 hw.2⟩
  · intro w hw
    refine wp_mono (hcond w hw) ?_
    intro b w' hb
    cases b with
    | true => exact hb
    | false => exact hb
  · have h := hentry _ _ _ hw.1 hw.2
    show if lc w.vars = true then _ else _
    by_cases hlc : lc w.vars = true
    · rw [if_pos hlc] at h ⊢
      exact ⟨hw.1, h⟩
    · rw [if_neg hlc] at h ⊢
      exact ⟨hw.1, h⟩

/-! ### Frames -/

/-- Functions whose footprint keeps an assertion keep it. -/
theorem frame (env : Env) {S : Event → Bool} {V : Vars → Vars → Prop}
    {c : Sketch α} (hc : Footprint S V c)
    (hev : ∀ e, S e = true → Enters J K e K)
    (hvar : ∀ l t v v', V v v' → J l t → K l t v → K l t v') :
    Safely J env K c fun _ => K := by
  intro w hw
  refine wp_of_within hc.within ?_ (fun _ h => h.1) hw
  intro w₁ w₂ hstep hw₁
  refine hstep.keeps (Both J K) ?_ ?_ hw₁
  · exact fun l t t' v e ht he h => hev e he l t t' v ht h.1 h.2
  · exact fun l t v v' hv h => ⟨h.1, hvar l t v v' hv h.1 h.2⟩

/-- Functions that assign nothing keep whatever their events keep. -/
theorem frame_eq (env : Env) {S : Event → Bool} {c : Sketch α}
    (hc : Footprint S Eq c) (hev : ∀ e, S e = true → Enters J K e K) :
    Safely J env K c fun _ => K :=
  frame env hc hev fun _ _ _ _ hv _ h => hv ▸ h

end Safely

/-! ## Whole runs -/

/-- `A` holds whenever `loop()` is entered, `B` between `ptUIDisplay` and
`ptIO`, `C` between `ptIO` and `ptSprinklers`; then `J` holds at every program
point. -/
theorem run_safely {J : Safety} {S A B C : Assn} {env : Env}
    (hsetup : Safely J env S setup fun _ => A)
    (hUi : Safely J env A ptUIDisplay fun _ => B)
    (hIo : Safely J env B ptIO fun _ => C)
    (hSprinklers : Safely J env C ptSprinklers fun _ => A)
    (hboot : Both J S [] 0 Vars.zero) (n : Nat) : Safe J (run env n) := by
  have hloop : Safely J env A loop fun _ => A :=
    hUi.seq fun _ => hIo.seq fun _ => hSprinklers
  have hround : ∀ u : Unit, Safely J env A
      (loop >>= fun _ => Pure.pure (.inl ()) : Sketch (Unit ⊕ Empty))
      (fun r => Sum.elim (fun _ => A) (fun _ => A) r) :=
    fun _ => hloop.seq fun _ => Safely.pure fun _ _ _ _ h => h
  have hfirmware : Safely J env S firmware fun _ => A :=
    hsetup.seq fun _ => Safely.loop (fun _ => A) hround ()
  rw [run_eq]
  refine run_of_wp (wp_mono (hfirmware (World.boot env) hboot) ?_) n
  exact fun _ _ h => h.1

-- From here on triples are composed by the rules only; unfolding one would
-- start to evaluate the program in it.
attribute [irreducible] Safely

end SprinklersAlarmClock
