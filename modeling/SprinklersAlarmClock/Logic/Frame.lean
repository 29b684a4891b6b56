import SprinklersAlarmClock.Logic.Rules

/-!
# What a program may do, and how far it gets

Two facts about a program that do not depend on any property being proved of
it.

* `Within R c`: the states `c` passes through are linked by `R` steps.  It is
  established by walking the program text once; `wp_of_within` then turns every
  invariant of `R` into an invariant of `c`.
* `Metered ticks faulted c`: an observation of `n` operations performs exactly
  `n` operations, unless the program faults.  So the budget is the only thing
  that ends an observation and no loop is cut short.
-/

namespace SprinklersAlarmClock.Logic

open Relation

variable {ε σ α β : Type}

/-! ## Frames -/

/-- Every outcome of `c` is reached by `R` steps. -/
def Within (R : ε → σ → σ → Prop) (c : Prog ε σ α) : Prop :=
  ∀ env n s, (c env n s).Sat (ReflTransGen (R env) s)
    (fun _ => ReflTransGen (R env) s)

section Within

variable {R : ε → σ → σ → Prop}

/-- A frame read as a `wp` fact: what `R` steps keep, `c` keeps. -/
theorem wp_of_within {c : Prog ε σ α} (hc : Within R c) {env : ε}
    {I J : σ → Prop} (hstep : ∀ s s', R env s s' → J s → J s')
    (hI : ∀ s, J s → I s) {s : σ} (h : J s) :
    wp I env c (fun _ => J) s := by
  have hkeep : ∀ s', ReflTransGen (R env) s s' → J s' := by
    intro s' hs'
    induction hs' with
    | refl => exact h
    | tail _ hr ih => exact hstep _ _ hr ih
  intro n
  exact (hc env n s).mono (fun s' hs' => hI s' (hkeep s' hs'))
    (fun _ s' hs' => hkeep s' hs')

theorem Within.mono {R' : ε → σ → σ → Prop} {c : Prog ε σ α}
    (hc : Within R c) (h : ∀ env s s', R env s s' → R' env s s') :
    Within R' c := by
  intro env n s
  have hgen : ∀ s', ReflTransGen (R env) s s' → ReflTransGen (R' env) s s' :=
    fun s' => ReflTransGen.mono (h env) s s'
  exact (hc env n s).mono hgen (fun _ => hgen)

theorem Within.pure (a : α) : Within R (pure a : Prog ε σ α) :=
  fun _ _ _ => .refl

theorem Within.bind {c : Prog ε σ β} {f : β → Prog ε σ α} (hc : Within R c)
    (hf : ∀ b, Within R (f b)) : Within R (c >>= f) := by
  intro env n s
  have hfirst : wp (ReflTransGen (R env) s) env c
      (fun _ => ReflTransGen (R env) s) s := fun n => hc env n s
  refine wp_bind (wp_mono hfirst ?_) n
  intro b s' hs' n'
  exact (hf b env n' s').mono (fun _ h => hs'.trans h) (fun _ _ h => hs'.trans h)

theorem Within.op {f : ε → σ → α × σ} (h : ∀ env s, R env s (f env s).2) :
    Within R (Prog.op f) := by
  intro env n s
  cases n with
  | zero => exact .refl
  | succ n => exact .single (h env s)

theorem Within.get : Within R (Prog.get : Prog ε σ σ) := fun _ _ _ => .refl

theorem Within.modify {f : σ → σ} (h : ∀ env s, R env s (f s)) :
    Within R (Prog.modify f : Prog ε σ Unit) :=
  fun env _ s => .single (h env s)

theorem Within.halt : Within R (Prog.halt : Prog ε σ α) := fun _ _ _ => .refl

theorem Within.ite {p : Prop} [Decidable p] {c d : Prog ε σ α}
    (hc : Within R c) (hd : Within R d) : Within R (if p then c else d) := by
  by_cases hp : p
  · rwa [if_pos hp]
  · rwa [if_neg hp]

theorem Within.loopN {body : β → Prog ε σ (β ⊕ α)}
    (h : ∀ b, Within R (body b)) :
    ∀ k b, Within R (Prog.loopN body k b) := by
  intro k
  induction k with
  | zero => exact fun _ => Within.halt
  | succ k ih =>
      intro b
      refine (h b).bind ?_
      intro r
      cases r with
      | inl b' => exact ih b'
      | inr a => exact Within.pure a

theorem Within.loop {body : β → Prog ε σ (β ⊕ α)}
    (h : ∀ b, Within R (body b)) (b : β) : Within R (Prog.loop body b) :=
  fun env n s => Within.loopN h (n + 1) b env n s

theorem Within.whileDo {cond : Prog ε σ Bool} {body : Prog ε σ Unit}
    (hc : Within R cond) (hb : Within R body) :
    Within R (Prog.whileDo cond body) :=
  Within.loop (fun _ => hc.bind fun _ =>
    Within.ite (hb.bind fun _ => Within.pure _) (Within.pure _)) ()

theorem Within.upTo {body : β → Prog ε σ (β × Bool)}
    (h : ∀ b, Within R (body b)) :
    ∀ n b, Within R (Prog.upTo body n b) := by
  intro n
  induction n with
  | zero => exact fun b => Within.pure b
  | succ n ih =>
      intro b
      exact (h b).bind fun r => Within.ite (Within.pure _) (ih r.1)

theorem Within.protothread {resumed : σ → Bool} {setLc : σ → σ}
    {before after : Prog ε σ Unit} {cond : Prog ε σ Bool}
    (hset : ∀ env s, R env s (setLc s)) (hb : Within R before)
    (hc : Within R cond) (ha : Within R after) :
    Within R (Prog.protothread resumed setLc before cond after) := by
  refine Within.get.bind fun s => Within.loop (fun atWait => ?_) _
  refine (Within.ite (Within.pure ()) hb).bind fun _ => ?_
  refine (Within.modify hset).bind fun _ => hc.bind fun _ => ?_
  exact Within.ite (ha.bind fun _ => Within.pure _) (Within.pure _)

end Within

/-! ## Metering -/

/-- Operations performed and budget left always add up; an observation that
stops has used its budget or faulted. -/
def Metered (ticks : σ → Nat) (faulted : σ → Prop) (c : Prog ε σ α) : Prop :=
  ∀ env n s, match c env n s with
    | .done _ n' s' => n' ≤ n ∧ ticks s' + n' = ticks s + n
    | .stop s' => ticks s' = ticks s + n ∨ faulted s'

/-- `c` does not answer `a` with `p a` without performing an operation. -/
def Spends (p : α → Prop) (c : Prog ε σ α) : Prop :=
  ∀ env n s a n' s', c env n s = .done a n' s' → p a → n' < n

section Metered

variable {ticks : σ → Nat} {faulted : σ → Prop}

theorem Metered.pure (a : α) : Metered ticks faulted (pure a : Prog ε σ α) :=
  fun _ n _ => ⟨Nat.le_refl n, rfl⟩

theorem Metered.bind {c : Prog ε σ β} {f : β → Prog ε σ α}
    (hc : Metered ticks faulted c) (hf : ∀ b, Metered ticks faulted (f b)) :
    Metered ticks faulted (c >>= f) := by
  intro env n s
  show match Prog.bind c f env n s with
    | .done _ n' s' => n' ≤ n ∧ ticks s' + n' = ticks s + n
    | .stop s' => ticks s' = ticks s + n ∨ faulted s'
  have h := hc env n s
  unfold Prog.bind
  cases hrun : c env n s with
  | done b n₁ s₁ =>
      rw [hrun] at h
      obtain ⟨hle, hsum⟩ := h
      have hb := hf b env n₁ s₁
      dsimp only
      cases hrun₂ : f b env n₁ s₁ with
      | done a n₂ s₂ =>
          rw [hrun₂] at hb
          exact ⟨Nat.le_trans hb.1 hle, hb.2.trans hsum⟩
      | stop s₂ =>
          rw [hrun₂] at hb
          exact hb.imp_left fun h => h.trans hsum
  | stop s₁ =>
      rw [hrun] at h
      exact h

theorem Metered.op {f : ε → σ → α × σ}
    (h : ∀ env s, ticks (f env s).2 = ticks s + 1) :
    Metered ticks faulted (Prog.op f) := by
  intro env n s
  cases n with
  | zero => exact .inl rfl
  | succ n =>
      refine ⟨Nat.le_succ n, ?_⟩
      rw [h]
      omega

theorem Metered.get : Metered ticks faulted (Prog.get : Prog ε σ σ) :=
  fun _ n _ => ⟨Nat.le_refl n, rfl⟩

theorem Metered.modify {f : σ → σ} (h : ∀ s, ticks (f s) = ticks s) :
    Metered ticks faulted (Prog.modify f : Prog ε σ Unit) := by
  intro env n s
  refine ⟨Nat.le_refl n, ?_⟩
  rw [h]

theorem Metered.ite {p : Prop} [Decidable p] {c d : Prog ε σ α}
    (hc : Metered ticks faulted c) (hd : Metered ticks faulted d) :
    Metered ticks faulted (if p then c else d) := by
  by_cases hp : p
  · rwa [if_pos hp]
  · rwa [if_neg hp]

theorem Spends.op {p : α → Prop} {f : ε → σ → α × σ} :
    Spends p (Prog.op f) := by
  intro env n s a n' s' h _
  cases n with
  | zero => cases h
  | succ n =>
      cases h
      exact Nat.lt_succ_self _

/-- Paying first is paying. -/
theorem Spends.bind_left {p : α → Prop} {c : Prog ε σ β} {f : β → Prog ε σ α}
    (hc : Spends (fun _ => True) c) (hf : ∀ b, Metered ticks faulted (f b)) :
    Spends p (c >>= f) := by
  intro env n s a n' s' h _
  change Prog.bind c f env n s = _ at h
  unfold Prog.bind at h
  cases hrun : c env n s with
  | done b n₁ s₁ =>
      rw [hrun] at h
      dsimp only at h
      have hm := hf b env n₁ s₁
      rw [h] at hm
      exact Nat.lt_of_le_of_lt hm.1 (hc env n s b n₁ s₁ hrun trivial)
  | stop s₁ =>
      rw [hrun] at h
      cases h

/-- So is paying later. -/
theorem Spends.bind_right {p : α → Prop} {c : Prog ε σ β} {f : β → Prog ε σ α}
    (hc : Metered ticks faulted c) (hf : ∀ b, Spends p (f b)) :
    Spends p (c >>= f) := by
  intro env n s a n' s' h hp
  change Prog.bind c f env n s = _ at h
  unfold Prog.bind at h
  cases hrun : c env n s with
  | done b n₁ s₁ =>
      rw [hrun] at h
      have hm := hc env n s
      rw [hrun] at hm
      exact Nat.lt_of_lt_of_le (hf b env n₁ s₁ a n' s' h hp) hm.1
  | stop s₁ =>
      rw [hrun] at h
      cases h

theorem Spends.ite {p : α → Prop} {q : Prop} [Decidable q] {c d : Prog ε σ α}
    (hc : Spends p c) (hd : Spends p d) : Spends p (if q then c else d) := by
  by_cases hq : q
  · rwa [if_pos hq]
  · rwa [if_neg hq]

theorem Spends.pure {p : α → Prop} {a : α} (h : ¬ p a) :
    Spends p (pure a : Prog ε σ α) := by
  intro env n s a' n' s' hrun hp
  cases hrun
  exact absurd hp h

/-- A loop whose rounds perform at least one operation is never cut short by
its unrolling bound. -/
theorem Metered.loop {body : β → Prog ε σ (β ⊕ α)}
    (hbody : ∀ b, Metered ticks faulted (body b))
    (hspend : ∀ b, Spends (fun r => r.isLeft = true) (body b)) (b : β) :
    Metered ticks faulted (Prog.loop body b) := by
  have hN : ∀ k n b env s, n < k →
      match Prog.loopN body k b env n s with
      | .done _ n' s' => n' ≤ n ∧ ticks s' + n' = ticks s + n
      | .stop s' => ticks s' = ticks s + n ∨ faulted s' := by
    intro k
    induction k with
    | zero => exact fun _ _ _ _ h => absurd h (Nat.not_lt_zero _)
    | succ k ih =>
        intro n b env s hn
        have hm := hbody b env n s
        have hs := hspend b env n s
        simp only [Prog.loopN, Bind.bind, Prog.bind]
        cases hrun : body b env n s with
        | stop s₁ =>
            rw [hrun] at hm
            exact hm
        | done r n₁ s₁ =>
            rw [hrun] at hm
            obtain ⟨hle, hsum⟩ := hm
            cases r with
            | inr a => exact ⟨hle, hsum⟩
            | inl b' =>
                have hlt : n₁ < n := hs _ _ _ hrun rfl
                have hrest := ih n₁ b' env s₁ (by omega)
                dsimp only
                cases hrun₂ : Prog.loopN body k b' env n₁ s₁ with
                | done a n₂ s₂ =>
                    rw [hrun₂] at hrest
                    exact ⟨Nat.le_trans hrest.1 hle, hrest.2.trans hsum⟩
                | stop s₂ =>
                    rw [hrun₂] at hrest
                    exact hrest.imp_left fun h => h.trans hsum
  intro env n s
  exact hN (n + 1) n b env s (Nat.lt_succ_self n)

/-- A loop whose every round performs an operation performs one itself. -/
theorem Spends.loop {p : α → Prop} {body : β → Prog ε σ (β ⊕ α)}
    (hspend : ∀ b, Spends (fun _ => True) (body b)) (b : β) :
    Spends p (Prog.loop body b) := by
  have hN : ∀ k b env n s a n' s',
      Prog.loopN body k b env n s = .done a n' s' → n' < n := by
    intro k
    induction k with
    | zero =>
        intro b env n s a n' s' h
        cases h
    | succ k ih =>
        intro b env n s a n' s' h
        simp only [Prog.loopN, Bind.bind, Prog.bind] at h
        cases hrun : body b env n s with
        | stop s₁ =>
            rw [hrun] at h
            cases h
        | done r n₁ s₁ =>
            rw [hrun] at h
            have hlt : n₁ < n := hspend b env n s r n₁ s₁ hrun trivial
            cases r with
            | inr a' =>
                cases h
                exact hlt
            | inl b' => exact Nat.lt_trans (ih b' env n₁ s₁ a n' s' h) hlt
  intro env n s a n' s' h _
  exact hN (n + 1) b env n s a n' s' h

theorem Metered.whileDo {cond : Prog ε σ Bool} {body : Prog ε σ Unit}
    (hc : Metered ticks faulted cond) (hb : Metered ticks faulted body)
    (hspend : Spends (fun _ => True) cond) :
    Metered ticks faulted (Prog.whileDo cond body) := by
  have hround : ∀ b, Metered ticks faulted
      (if b = true then (body >>= fun _ => Pure.pure (.inl ()))
        else Pure.pure (.inr ()) : Prog ε σ (Unit ⊕ Unit)) := fun _ =>
    Metered.ite (hb.bind fun _ => Metered.pure _) (Metered.pure _)
  exact Metered.loop (fun _ => hc.bind hround)
    (fun _ => Spends.bind_left hspend hround) ()

theorem Metered.upTo {body : β → Prog ε σ (β × Bool)}
    (h : ∀ b, Metered ticks faulted (body b)) :
    ∀ n b, Metered ticks faulted (Prog.upTo body n b) := by
  intro n
  induction n with
  | zero => exact fun b => Metered.pure b
  | succ n ih =>
      intro b
      exact (h b).bind fun r => Metered.ite (Metered.pure _) (ih r.1)

theorem Metered.protothread {resumed : σ → Bool} {setLc : σ → σ}
    {before after : Prog ε σ Unit} {cond : Prog ε σ Bool}
    (hset : Metered ticks faulted (Prog.modify setLc : Prog ε σ Unit))
    (hb : Metered ticks faulted before) (hc : Metered ticks faulted cond)
    (hspend : Spends (fun _ => True) cond)
    (ha : Metered ticks faulted after) :
    Metered ticks faulted
      (Prog.protothread resumed setLc before cond after) := by
  have hround : ∀ b, Metered ticks faulted
      (if b = true then (after >>= fun _ => Pure.pure (.inl false))
        else Pure.pure (.inr ()) : Prog ε σ (Bool ⊕ Unit)) := fun _ =>
    Metered.ite (ha.bind fun _ => Metered.pure _) (Metered.pure _)
  have hreach : ∀ atWait : Bool, Metered ticks faulted
      (if atWait = true then Pure.pure () else before : Prog ε σ Unit) :=
    fun _ => Metered.ite (Metered.pure ()) hb
  refine Metered.get.bind fun s => Metered.loop (fun atWait => ?_)
    (fun atWait => ?_) _
  · exact (hreach atWait).bind fun _ =>
      hset.bind fun _ => hc.bind hround
  · exact Spends.bind_right (hreach atWait) fun _ =>
      Spends.bind_right hset fun _ =>
        Spends.bind_left hspend hround

theorem Spends.protothread {p : Unit → Prop} {resumed : σ → Bool}
    {setLc : σ → σ} {before after : Prog ε σ Unit} {cond : Prog ε σ Bool}
    (hset : Metered ticks faulted (Prog.modify setLc : Prog ε σ Unit))
    (hb : Metered ticks faulted before)
    (hspend : Spends (fun _ => True) cond)
    (ha : Metered ticks faulted after) :
    Spends p (Prog.protothread resumed setLc before cond after) := by
  have hround : ∀ b, Metered ticks faulted
      (if b = true then (after >>= fun _ => Pure.pure (.inl false))
        else Pure.pure (.inr ()) : Prog ε σ (Bool ⊕ Unit)) := fun _ =>
    Metered.ite (ha.bind fun _ => Metered.pure _) (Metered.pure _)
  have hreach : ∀ atWait : Bool, Metered ticks faulted
      (if atWait = true then Pure.pure () else before : Prog ε σ Unit) :=
    fun _ => Metered.ite (Metered.pure ()) hb
  have hget : Metered ticks faulted (Prog.get : Prog ε σ σ) := Metered.get
  exact Spends.bind_right hget
    fun s => Spends.loop (fun atWait => Spends.bind_right (hreach atWait)
      fun _ => Spends.bind_right hset
        fun _ => Spends.bind_left hspend hround) _

/-- An observation of `n` operations that does not fault performs `n`
operations, for a program that never returns as for one that does not return
early. -/
theorem Metered.ticks_run {c : Prog ε σ α} (hc : Metered ticks faulted c)
    (env : ε) (n : Nat) (s : σ)
    (hreturn : ∀ a n' s', c env n s ≠ .done a n' s') :
    ticks (c.run env n s) = ticks s + n ∨ faulted (c.run env n s) := by
  have h := hc env n s
  unfold Prog.run
  cases hrun : c env n s with
  | done a n' s' => exact absurd hrun (hreturn a n' s')
  | stop s' =>
      rw [hrun] at h
      exact h

end Metered

end SprinklersAlarmClock.Logic
