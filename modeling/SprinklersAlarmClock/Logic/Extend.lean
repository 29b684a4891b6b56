import SprinklersAlarmClock.Logic.Frame

/-!
# Longer observations

`Extends R c`: an observation of `c` with a larger budget agrees with the
shorter one.  If the shorter one returned, so does the longer one, in the same
state with the extra budget left over; if the shorter one stopped, the longer
one goes on from there by `R` steps.  The budgets of one program therefore show
prefixes of one and the same run.
-/

namespace SprinklersAlarmClock.Logic

open Relation

variable {ε σ α β : Type} {R : ε → σ → σ → Prop}

/-- What an outcome with `k` more units of budget owes to a shorter one. -/
def Outcome.ExtendedBy (R : σ → σ → Prop) (k : Nat) (o : Outcome σ α) :
    Outcome σ α → Prop
  | .done a n' s' => o = .done a (n' + k) s'
  | .stop s' => o.Sat (ReflTransGen R s') (fun _ => ReflTransGen R s')

/-- Observing `c` longer continues what was observed. -/
def Extends (R : ε → σ → σ → Prop) (c : Prog ε σ α) : Prop :=
  ∀ env n k s, (c env (n + k) s).ExtendedBy (R env) k (c env n s)

namespace Extends

theorem mono {R' : ε → σ → σ → Prop} {c : Prog ε σ α} (hc : Extends R c)
    (h : ∀ env s s', R env s s' → R' env s s') : Extends R' c := by
  intro env n k s
  have hk := hc env n k s
  cases hrun : c env n s with
  | done a n' s' =>
      rw [hrun] at hk
      exact hk
  | stop s' =>
      rw [hrun] at hk
      change (c env (n + k) s).Sat _ _ at hk
      have hgen : ∀ s₂, ReflTransGen (R env) s' s₂ → ReflTransGen (R' env) s' s₂ :=
        fun s₂ => ReflTransGen.mono (h env) s' s₂
      exact hk.mono hgen fun _ => hgen

theorem pure (a : α) : Extends R (pure a : Prog ε σ α) := fun _ _ _ _ => rfl

theorem get : Extends R (Prog.get : Prog ε σ σ) := fun _ _ _ _ => rfl

theorem modify {f : σ → σ} : Extends R (Prog.modify f : Prog ε σ Unit) :=
  fun _ _ _ _ => rfl

theorem halt : Extends R (Prog.halt : Prog ε σ α) := fun _ _ _ _ => .refl

theorem op {f : ε → σ → α × σ} (h : ∀ env s, R env s (f env s).2) :
    Extends R (Prog.op f) := by
  intro env n k s
  cases n with
  | zero => exact Within.op h env (0 + k) s
  | succ n =>
      show Prog.op f env (n + 1 + k) s = .done (f env s).1 (n + k) (f env s).2
      rw [Nat.succ_add]
      rfl

theorem bind {c : Prog ε σ β} {f : β → Prog ε σ α} (hc : Extends R c)
    (hf : ∀ b, Extends R (f b)) (hwithin : ∀ b, Within R (f b)) :
    Extends R (c >>= f) := by
  intro env n k s
  have h := hc env n k s
  show (Prog.bind c f env (n + k) s).ExtendedBy (R env) k (Prog.bind c f env n s)
  unfold Prog.bind
  cases hrun : c env n s with
  | done b n₁ s₁ =>
      rw [hrun] at h
      rw [show c env (n + k) s = .done b (n₁ + k) s₁ from h]
      exact hf b env n₁ k s₁
  | stop s₁ =>
      rw [hrun] at h
      change (c env (n + k) s).Sat _ _ at h
      show Outcome.Sat _ _ _
      cases hrun₂ : c env (n + k) s with
      | done b n₂ s₂ =>
          rw [hrun₂] at h
          have hreach : ReflTransGen (R env) s₁ s₂ := h
          exact (hwithin b env n₂ s₂).mono (fun _ h' => hreach.trans h')
            (fun _ _ h' => hreach.trans h')
      | stop s₂ =>
          rw [hrun₂] at h
          exact h

theorem ite {p : Prop} [Decidable p] {c d : Prog ε σ α}
    (hc : Extends R c) (hd : Extends R d) : Extends R (if p then c else d) := by
  by_cases hp : p
  · rwa [if_pos hp]
  · rwa [if_neg hp]

theorem loop {body : β → Prog ε σ (β ⊕ α)} (hbody : ∀ b, Extends R (body b))
    (hwithin : ∀ b, Within R (body b)) (b : β) :
    Extends R (Prog.loop body b) := by
  have hframe : ∀ m b, Within R (Prog.loopN body m b) := Within.loopN hwithin
  -- both the unrolling bound and the budget grow
  have hN : ∀ j m b env n k s,
      (Prog.loopN body (m + j) b env (n + k) s).ExtendedBy (R env) k
        (Prog.loopN body m b env n s) := by
    intro j m
    induction m with
    | zero => exact fun b env n k s => hframe (0 + j) b env (n + k) s
    | succ m ih =>
        intro b env n k s
        rw [Nat.succ_add]
        have h := hbody b env n k s
        show (Prog.bind (body b) _ env (n + k) s).ExtendedBy (R env) k
          (Prog.bind (body b) _ env n s)
        unfold Prog.bind
        cases hrun : body b env n s with
        | done r n₁ s₁ =>
            rw [hrun] at h
            rw [show body b env (n + k) s = .done r (n₁ + k) s₁ from h]
            cases r with
            | inl b' => exact ih b' env n₁ k s₁
            | inr a => rfl
        | stop s₁ =>
            rw [hrun] at h
            change (body b env (n + k) s).Sat _ _ at h
            show Outcome.Sat _ _ _
            cases hrun₂ : body b env (n + k) s with
            | done r n₂ s₂ =>
                rw [hrun₂] at h
                have hreach : ReflTransGen (R env) s₁ s₂ := h
                cases r with
                | inl b' =>
                    exact (hframe (m + j) b' env n₂ s₂).mono
                      (fun _ h' => hreach.trans h') (fun _ _ h' => hreach.trans h')
                | inr a => exact hreach
            | stop s₂ =>
                rw [hrun₂] at h
                exact h
  intro env n k s
  have h := hN k (n + 1) b env n k s
  rwa [show n + 1 + k = n + k + 1 from by omega] at h

theorem whileDo {cond : Prog ε σ Bool} {body : Prog ε σ Unit}
    (hc : Extends R cond) (hb : Extends R body) (hcw : Within R cond)
    (hbw : Within R body) : Extends R (Prog.whileDo cond body) := by
  have hround : ∀ b : Bool, Within R
      (if b = true then (body >>= fun _ => Pure.pure (.inl ()))
        else Pure.pure (.inr ()) : Prog ε σ (Unit ⊕ Unit)) := fun _ =>
    Within.ite (hbw.bind fun _ => Within.pure _) (Within.pure _)
  refine Extends.loop (fun _ => hc.bind (fun _ => ?_) hround)
    (fun _ => hcw.bind hround) ()
  exact Extends.ite (hb.bind (fun _ => Extends.pure _) fun _ => Within.pure _)
    (Extends.pure _)

theorem upTo {body : β → Prog ε σ (β × Bool)} (h : ∀ b, Extends R (body b))
    (hw : ∀ b, Within R (body b)) :
    ∀ n b, Extends R (Prog.upTo body n b) := by
  intro n
  induction n with
  | zero => exact fun b => Extends.pure b
  | succ n ih =>
      intro b
      refine (h b).bind (fun r => Extends.ite (Extends.pure _) (ih r.1)) fun r => ?_
      exact Within.ite (Within.pure _) (Within.upTo hw n r.1)

theorem protothread {resumed : σ → Bool} {setLc : σ → σ}
    {before after : Prog ε σ Unit} {cond : Prog ε σ Bool}
    (hset : ∀ env s, R env s (setLc s)) (hb : Extends R before)
    (hbw : Within R before) (hc : Extends R cond) (hcw : Within R cond)
    (ha : Extends R after) (haw : Within R after) :
    Extends R (Prog.protothread resumed setLc before cond after) := by
  have hround : ∀ b : Bool, Within R
      (if b = true then (after >>= fun _ => Pure.pure (.inl false))
        else Pure.pure (.inr ()) : Prog ε σ (Bool ⊕ Unit)) := fun _ =>
    Within.ite (haw.bind fun _ => Within.pure _) (Within.pure _)
  have hwait : ∀ _ : Unit, Within R
      (Prog.modify setLc >>= fun _ => cond >>= fun b =>
        if b = true then (after >>= fun _ => Pure.pure (.inl false))
          else Pure.pure (.inr ()) : Prog ε σ (Bool ⊕ Unit)) := fun _ =>
    (Within.modify hset).bind fun _ => hcw.bind hround
  have hreach : ∀ atWait : Bool, Within R
      (if atWait = true then Pure.pure () else before : Prog ε σ Unit) :=
    fun _ => Within.ite (Within.pure ()) hbw
  refine Extends.get.bind (fun s => ?_)
    fun s => Within.loop (fun atWait => (hreach atWait).bind hwait) _
  refine Extends.loop (fun atWait => ?_) (fun atWait => (hreach atWait).bind hwait) _
  refine (Extends.ite (Extends.pure ()) hb).bind (fun _ => ?_) hwait
  refine Extends.modify.bind (fun _ => hc.bind (fun _ => ?_) hround)
    fun _ => hcw.bind hround
  exact Extends.ite (ha.bind (fun _ => Extends.pure _) fun _ => Within.pure _)
    (Extends.pure _)

end Extends

/-- **Prefixes of one run.**  The state a longer observation ends in is reached
from the state the shorter one ended in, unless the shorter one returned. -/
theorem Extends.run {c : Prog ε σ α} (hc : Extends R c) (env : ε) (n k : Nat)
    (s : σ) (hreturn : ∀ a n' s', c env n s ≠ .done a n' s') :
    ReflTransGen (R env) (c.run env n s) (c.run env (n + k) s) := by
  have h := hc env n k s
  unfold Prog.run
  cases hrun : c env n s with
  | done a n' s' => exact absurd hrun (hreturn a n' s')
  | stop s' =>
      rw [hrun] at h
      change (c env (n + k) s).Sat _ _ at h
      cases hrun₂ : c env (n + k) s with
      | done a n' s₂ =>
          rw [hrun₂] at h
          exact h
      | stop s₂ =>
          rw [hrun₂] at h
          exact h

end SprinklersAlarmClock.Logic
