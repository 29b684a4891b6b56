import Mathlib.Logic.Relation
import SprinklersAlarmClock.Logic.Prog

/-!
# Proof rules for observed programs

`wp I env c Q s` says: whatever the budget, an observation of `c` from `s`
either returns in a state satisfying `Q` or stops in a state satisfying `I`.
Since every interaction is a possible end of the observation, `I` has to hold
at every program point; this is how safety along a whole run, returning or
not, is proved with one rule per statement.

`Within R c` is the frame side of the same story: everything `c` does is a
sequence of `R` steps.  It is proved once per function and then serves every
invariant that `R` steps keep (`wp_of_within`).
-/

namespace SprinklersAlarmClock.Logic

variable {ε σ α β : Type}

/-- A returning outcome satisfies `Q`, a stopped one `I`. -/
def Outcome.Sat (I : σ → Prop) (Q : α → σ → Prop) : Outcome σ α → Prop
  | .done a _ s => Q a s
  | .stop s => I s

/-- The weakest precondition of `c` for the postcondition `Q`, with `I`
required at every program point on the way. -/
def wp (I : σ → Prop) (env : ε) (c : Prog ε σ α) (Q : α → σ → Prop) (s : σ) :
    Prop :=
  ∀ n, (c env n s).Sat I Q

section Wp

variable {I : σ → Prop} {env : ε} {Q : α → σ → Prop} {s : σ}

theorem Outcome.Sat.mono {I' : σ → Prop} {Q' : α → σ → Prop}
    {o : Outcome σ α} (h : o.Sat I Q) (hI : ∀ s, I s → I' s)
    (hQ : ∀ a s, Q a s → Q' a s) : o.Sat I' Q' := by
  cases o with
  | done a _ s => exact hQ a s h
  | stop s => exact hI s h

theorem wp_mono {Q' : α → σ → Prop} {c : Prog ε σ α} (h : wp I env c Q' s)
    (hQ : ∀ a s', Q' a s' → Q a s') : wp I env c Q s := by
  intro n
  exact (h n).mono (fun _ hs => hs) hQ

theorem wp_pure {a : α} (h : Q a s) : wp I env (pure a) Q s := fun _ => h

theorem wp_bind {c : Prog ε σ β} {f : β → Prog ε σ α}
    (h : wp I env c (fun b s' => wp I env (f b) Q s') s) :
    wp I env (c >>= f) Q s := by
  intro n
  show (Prog.bind c f env n s).Sat I Q
  have hc := h n
  unfold Prog.bind
  cases hrun : c env n s with
  | done b n' s' =>
      rw [hrun] at hc
      exact hc n'
  | stop s' =>
      rw [hrun] at hc
      exact hc

/-- An interaction is a program point, and then takes effect. -/
theorem wp_op {f : ε → σ → α × σ} (hI : I s) (h : Q (f env s).1 (f env s).2) :
    wp I env (Prog.op f) Q s := by
  intro n
  cases n with
  | zero => exact hI
  | succ n => exact h

theorem wp_get {Q : σ → σ → Prop} (h : Q s s) : wp I env Prog.get Q s :=
  fun _ => h

theorem wp_modify {f : σ → σ} {Q : Unit → σ → Prop} (h : Q () (f s)) :
    wp I env (Prog.modify f) Q s := fun _ => h

theorem wp_halt (h : I s) : wp I env (Prog.halt : Prog ε σ α) Q s := fun _ => h

theorem wp_ite {p : Prop} [Decidable p] {c d : Prog ε σ α}
    (hc : p → wp I env c Q s) (hd : ¬ p → wp I env d Q s) :
    wp I env (if p then c else d) Q s := by
  by_cases hp : p
  · rw [if_pos hp]
    exact hc hp
  · rw [if_neg hp]
    exact hd hp

/-- Every observation ends in a state satisfying `I`. -/
theorem run_of_wp {c : Prog ε σ α} (h : wp I env c (fun _ => I) s) (n : Nat) :
    I (c.run env n s) := by
  have hn := h n
  unfold Prog.run
  cases hrun : c env n s with
  | done a n' s' =>
      rw [hrun] at hn
      exact hn
  | stop s' =>
      rw [hrun] at hn
      exact hn

/-! ## Loops -/

/-- Unbounded loops: `Inv b` holds whenever the body is entered with loop
variable `b`. -/
theorem wp_loop (Inv : β → σ → Prop) {body : β → Prog ε σ (β ⊕ α)} {b : β}
    (hbody : ∀ b s, Inv b s → wp I env (body b)
      (fun r s' => Sum.elim (fun b' => Inv b' s') (fun a => Q a s') r) s)
    (hI : ∀ b s, Inv b s → I s) (h : Inv b s) :
    wp I env (Prog.loop body b) Q s := by
  have hN : ∀ k b s, Inv b s → wp I env (Prog.loopN body k b) Q s := by
    intro k
    induction k with
    | zero =>
        intro b s hb
        exact wp_halt (hI b s hb)
    | succ k ih =>
        intro b s hb
        refine wp_bind (wp_mono (hbody b s hb) ?_)
        intro r s' hr
        cases r with
        | inl b' => exact ih b' s' hr
        | inr a => exact wp_pure hr
  intro n
  exact hN (n + 1) b s h n

theorem wp_whileDo (Inv : σ → Prop) {cond : Prog ε σ Bool}
    {body : Prog ε σ Unit} {Q : Unit → σ → Prop}
    (hcond : ∀ s, Inv s → wp I env cond
      (fun b s' => if b = true then wp I env body (fun _ => Inv) s' else Q () s') s)
    (hI : ∀ s, Inv s → I s) (h : Inv s) :
    wp I env (Prog.whileDo cond body) Q s := by
  refine wp_loop (fun _ => Inv) ?_ (fun _ => hI) h
  intro _ s hs
  refine wp_bind (wp_mono (hcond s hs) ?_)
  intro b s' hb
  refine wp_ite ?_ ?_
  · intro ht
    rw [if_pos ht] at hb
    exact wp_bind (wp_mono hb fun _ _ hInv => wp_pure hInv)
  · intro hf
    rw [if_neg hf] at hb
    exact wp_pure hb

/-- Counted loops: `Inv k b` holds before a round when `k` rounds are left. -/
theorem wp_upTo (Inv : Nat → β → σ → Prop) {body : β → Prog ε σ (β × Bool)}
    {Q : β → σ → Prop}
    (hbody : ∀ k b s, Inv (k + 1) b s → wp I env (body b)
      (fun r s' => if r.2 = true then Q r.1 s' else Inv k r.1 s') s)
    (hend : ∀ b s, Inv 0 b s → Q b s) :
    ∀ k b s, Inv k b s → wp I env (Prog.upTo body k b) Q s := by
  intro k
  induction k with
  | zero =>
      intro b s hb
      exact wp_pure (hend b s hb)
  | succ k ih =>
      intro b s hb
      refine wp_bind (wp_mono (hbody k b s hb) ?_)
      intro r s' hr
      refine wp_ite ?_ ?_
      · intro ht
        rw [if_pos ht] at hr
        exact wp_pure hr
      · intro hf
        rw [if_neg hf] at hr
        exact ih r.1 s' hr

/-- Protothreads: `Top` holds where the loop is entered from above, `Wait`
each time the wait condition is about to be evaluated, `Woken` when it came
out true. -/
theorem wp_protothread (Top Wait Woken : σ → Prop) {resumed : σ → Bool}
    {setLc : σ → σ} {before after : Prog ε σ Unit} {cond : Prog ε σ Bool}
    {Q : Unit → σ → Prop}
    (hbefore : ∀ s, Top s → wp I env before (fun _ s' => Wait (setLc s')) s)
    (hresume : ∀ s, Wait s → Wait (setLc s))
    (hcond : ∀ s, Wait s → wp I env cond
      (fun b s' => if b = true then Woken s' else Q () s') s)
    (hafter : ∀ s, Woken s → wp I env after (fun _ => Top) s)
    (hTop : ∀ s, Top s → I s) (hWait : ∀ s, Wait s → I s)
    (h : if resumed s = true then Wait s else Top s) :
    wp I env (Prog.protothread resumed setLc before cond after) Q s := by
  refine wp_bind (wp_get ?_)
  refine wp_loop (fun atWait s => if atWait = true then Wait s else Top s)
    ?_ ?_ h
  · intro atWait s hs
    have hreach : wp I env (if atWait = true then pure () else before)
        (fun _ s' => Wait (setLc s')) s := by
      refine wp_ite ?_ ?_
      · intro ht
        rw [if_pos ht] at hs
        exact wp_pure (hresume s hs)
      · intro hf
        rw [if_neg hf] at hs
        exact hbefore s hs
    refine wp_bind (wp_mono hreach ?_)
    intro _ s₁ hs₁
    refine wp_bind (wp_modify ?_)
    refine wp_bind (wp_mono (hcond _ hs₁) ?_)
    intro b s₂ hb
    refine wp_ite ?_ ?_
    · intro ht
      rw [if_pos ht] at hb
      refine wp_bind (wp_mono (hafter s₂ hb) ?_)
      intro _ s₃ hs₃
      exact wp_pure (by simpa using hs₃)
    · intro hf
      rw [if_neg hf] at hb
      exact wp_pure hb
  · intro atWait s hs
    cases atWait with
    | true => exact hWait s (by simpa using hs)
    | false => exact hTop s (by simpa using hs)

end Wp

end SprinklersAlarmClock.Logic
