import Mathlib.Data.List.Basic

/-!
# Steps that may fail

Rules for computations in `Except`: how a computation that has answered, or
failed, goes on, and what a loop of fallible steps preserves.
-/

namespace SprinklersAlarmClock.Logic

variable {ε σ ι α β : Type}

theorem ok_bind (x : α) (f : α → Except ε β) : ((Except.ok x : Except ε α) >>= f) = f x := rfl

theorem error_bind (e : ε) (f : α → Except ε β) :
    ((Except.error e : Except ε α) >>= f) = .error e := rfl

/-- A computation that answers did so in both of its halves. -/
theorem of_bind_ok {m : Except ε α} {f : α → Except ε β} {y : β} (h : m >>= f = .ok y) :
    ∃ x, m = .ok x ∧ f x = .ok y := by
  cases m with
  | error e => cases h
  | ok x => exact ⟨x, rfl, h⟩

/-- A property of outcomes that every round hands on is one of the loop. -/
theorem foldlM_keeps {f : σ → ι → Except ε σ} {I : Except ε σ → Prop} {l : List ι}
    (h : ∀ i ∈ l, ∀ s, I (.ok s) → I (f s i)) {s : σ} (hs : I (.ok s)) :
    I (l.foldlM f s) := by
  induction l generalizing s with
  | nil => exact hs
  | cons i rest ih =>
      have hround := h i List.mem_cons_self s hs
      rw [List.foldlM_cons]
      generalize f s i = r at hround ⊢
      cases r with
      | error e => exact hround
      | ok s' => exact ih (fun j hj => h j (List.mem_cons_of_mem i hj)) hround

/-- A loop none of whose rounds fails. -/
theorem foldlM_ok {f : σ → ι → Except ε σ} {I : σ → Prop} {l : List ι}
    (h : ∀ i ∈ l, ∀ s, I s → ∃ s', f s i = .ok s' ∧ I s') {s : σ} (hs : I s) :
    ∃ s', l.foldlM f s = .ok s' ∧ I s' := by
  refine foldlM_keeps (I := fun r => ∃ s', r = .ok s' ∧ I s') ?_ ⟨s, rfl, hs⟩
  rintro i hi s₀ ⟨s', heq, hs'⟩
  obtain rfl := Except.ok.inj heq
  exact h i hi s₀ hs'

end SprinklersAlarmClock.Logic
