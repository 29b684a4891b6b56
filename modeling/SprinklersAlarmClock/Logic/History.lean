import Mathlib.Data.List.Basic
import Mathlib.Data.List.Destutter

/-!
# Histories

A history is the list of what has happened so far, newest first, so that one
more happening is a `cons` and everything older is the tail.  `Always P` says
that `P` held of every happening when it happened, given what was older.
`latest` looks up the most recent answer and `since` cuts off everything up to
the most recent boundary.  Of a history of levels, `highRuns` counts the maximal
runs of high ones.
-/

namespace SprinklersAlarmClock.Logic

variable {E β : Type}

/-- `P e older` held of every entry `e` at the time it was made. -/
def Always (P : E → List E → Prop) : List E → Prop
  | [] => True
  | e :: older => P e older ∧ Always P older

@[simp] theorem always_nil (P : E → List E → Prop) : Always P [] := trivial

@[simp] theorem always_cons (P : E → List E → Prop) (e : E) (l : List E) :
    Always P (e :: l) ↔ P e l ∧ Always P l := Iff.rfl

/-- The reading of `Always` that does not depend on its recursion: wherever
the history is cut, the entry just after the cut satisfied `P`. -/
theorem always_iff (P : E → List E → Prop) (l : List E) :
    Always P l ↔ ∀ newer e older, l = newer ++ e :: older → P e older := by
  induction l with
  | nil => simp
  | cons a l ih =>
      rw [always_cons, ih]
      constructor
      · rintro ⟨ha, hl⟩ newer e older h
        cases newer with
        | nil =>
            obtain ⟨rfl, rfl⟩ := List.cons.inj h
            exact ha
        | cons b newer =>
            obtain ⟨rfl, htail⟩ := List.cons.inj h
            exact hl newer e older htail
      · intro h
        exact ⟨h [] a l rfl, fun newer e older hl =>
          h (a :: newer) e older (by rw [hl, List.cons_append])⟩

theorem Always.imp {P Q : E → List E → Prop} (h : ∀ e l, P e l → Q e l)
    {l : List E} (hl : Always P l) : Always Q l := by
  rw [always_iff] at hl ⊢
  exact fun newer e older heq => h e older (hl newer e older heq)

theorem Always.and {P Q : E → List E → Prop} {l : List E} (hP : Always P l)
    (hQ : Always Q l) : Always (fun e older => P e older ∧ Q e older) l := by
  rw [always_iff] at hP hQ ⊢
  exact fun newer e older heq => ⟨hP newer e older heq, hQ newer e older heq⟩

/-- Two properties that agree wherever `R` holds agree on every history of
`R`. -/
theorem Always.iff_of {R P Q : E → List E → Prop}
    (h : ∀ e l, R e l → (P e l ↔ Q e l)) {l : List E} (hR : Always R l) :
    Always P l ↔ Always Q l := by
  constructor
  · intro hP
    exact (hR.and hP).imp fun e l hRP => (h e l hRP.1).mp hRP.2
  · intro hQ
    exact (hR.and hQ).imp fun e l hRQ => (h e l hRQ.1).mpr hRQ.2

/-- An older history satisfies what the newer one does. -/
theorem Always.drop {P : E → List E → Prop} (k : Nat) {l : List E}
    (h : Always P l) : Always P (l.drop k) := by
  rw [always_iff] at h ⊢
  intro newer e older hdrop
  have hcut : l = (l.take k ++ newer) ++ e :: older := by
    rw [List.append_assoc, ← hdrop, List.take_append_drop]
  exact h _ e older hcut

instance Always.decidable (P : E → List E → Prop)
    [∀ e l, Decidable (P e l)] : ∀ l, Decidable (Always P l)
  | [] => .isTrue trivial
  | _ :: l => @instDecidableAnd _ _ _ (Always.decidable P l)

/-- The most recent answer `f` gives. -/
def latest (f : E → Option β) : List E → Option β
  | [] => none
  | e :: older => (f e).or (latest f older)

@[simp] theorem latest_nil (f : E → Option β) : latest f [] = none := rfl

@[simp] theorem latest_cons (f : E → Option β) (e : E) (l : List E) :
    latest f (e :: l) = (f e).or (latest f l) := rfl

/-- The entry that gives the most recent answer. -/
theorem latest_cut {f : E → Option β} {l : List E} {b : β} (h : latest f l = some b) :
    ∃ newer e older, l = newer ++ e :: older ∧ f e = some b ∧ latest f newer = none := by
  induction l with
  | nil => cases h
  | cons e older ih =>
      cases he : f e with
      | some c =>
          rw [latest_cons, he] at h
          exact ⟨[], e, older, rfl, he.trans h, rfl⟩
      | none =>
          rw [latest_cons, he] at h
          obtain ⟨newer, e', older', hcut, he', hnewer⟩ := ih h
          refine ⟨e :: newer, e', older', by rw [hcut, List.cons_append], he', ?_⟩
          rw [latest_cons, he]
          exact hnewer

/-- The oldest entry of a kind. -/
theorem exists_oldest {p : E → Bool} {l : List E} (h : ∃ e ∈ l, p e = true) :
    ∃ newer e older, l = newer ++ e :: older ∧ p e = true ∧ ∀ x ∈ older, p x = false := by
  induction l with
  | nil =>
      obtain ⟨e, he, -⟩ := h
      cases he
  | cons a l ih =>
      by_cases hl : ∃ e ∈ l, p e = true
      · obtain ⟨newer, e, older, rfl, he, holder⟩ := ih hl
        exact ⟨a :: newer, e, older, rfl, he, holder⟩
      · have hnone : ∀ x ∈ l, p x = false := fun x hx =>
          Bool.eq_false_iff.mpr fun hpx => hl ⟨x, hx, hpx⟩
        obtain ⟨e, he, hpe⟩ := h
        rcases List.mem_cons.mp he with rfl | hmem
        · exact ⟨[], e, l, rfl, hpe, hnone⟩
        · exact absurd ⟨e, hmem, hpe⟩ hl

/-- The entries newer than the most recent boundary. -/
def since (boundary : E → Bool) : List E → List E
  | [] => []
  | e :: older => if boundary e then [] else e :: since boundary older

@[simp] theorem since_nil (b : E → Bool) : since b [] = [] := rfl

@[simp] theorem since_cons (b : E → Bool) (e : E) (l : List E) :
    since b (e :: l) = if b e then [] else e :: since b l := rfl

/-- The number of maximal runs of high levels: of every run, one is kept. -/
def highRuns (levels : List Bool) : Nat := (levels.destutter (· ≠ ·)).count true

/-- A level begins a run exactly when it is high and the one before it is not. -/
theorem highRuns_cons (level : Bool) (levels : List Bool) :
    highRuns (level :: levels) =
      highRuns levels + if level = true ∧ levels.head? ≠ some true then 1 else 0 := by
  unfold highRuns
  cases levels with
  | nil => cases level <;> rfl
  | cons last levels =>
      rw [List.destutter_cons_cons, List.destutter_cons']
      by_cases hne : level = last
      · subst hne
        simp
      · rw [if_pos hne, List.count_cons]
        cases level <;> cases last <;> simp at hne ⊢

end SprinklersAlarmClock.Logic
