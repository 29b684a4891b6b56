import Mathlib.Data.Fintype.Card
import Mathlib.Order.Interval.Finset.Fin

/-!
# A row of slots

A row is a table of `n` slots, each empty or holding a value.  `occupied` counts
the slots in use; it follows every change (`occupied_fill`, `occupied_clear`),
a row is full when it has reached `n` (`exists_empty`), and `firstEmpty`, the
search from slot 0 up, finds a slot in every row that is not full
(`firstEmpty_isSome`).  The slot it finds is never beyond the count
(`firstEmpty_le`): whoever fills the first empty slot finds it again among the
first `occupied` slots.
-/

namespace SprinklersAlarmClock.Logic

open Function

variable {α : Type} {n : Nat}

/-- A value written over functions that have it everywhere else. -/
theorem update_same {ι β : Type} [DecidableEq ι] {f : ι → β} {a q : ι} {x : β}
    (h : q ≠ a → f q = x) : update f a x q = x := by
  by_cases hq : q = a
  · rw [hq, update_self]
  · rw [update_of_ne hq]
    exact h hq

/-- The slots in use. -/
def inUse (row : Fin n → Option α) : Finset (Fin n) :=
  Finset.univ.filter fun i => (row i).isSome

/-- How many slots are in use. -/
def occupied (row : Fin n → Option α) : Nat := (inUse row).card

/-- The first empty slot. -/
def firstEmpty (row : Fin n → Option α) : Option (Fin n) :=
  (List.finRange n).find? fun i => (row i).isNone

theorem mem_inUse {row : Fin n → Option α} {i : Fin n} : i ∈ inUse row ↔ row i ≠ none := by
  simp [inUse, Option.isSome_iff_ne_none]

theorem occupied_le (row : Fin n → Option α) : occupied row ≤ n := by
  have hle : (inUse row).card ≤ Fintype.card (Fin n) := Finset.card_le_univ _
  rwa [Fintype.card_fin] at hle

@[simp] theorem occupied_empty : occupied (fun _ : Fin n => (none : Option α)) = 0 := by
  simp [occupied, inUse]

theorem occupied_eq_zero {row : Fin n → Option α} : occupied row = 0 ↔ ∀ i, row i = none := by
  simp [occupied, Finset.card_eq_zero, Finset.eq_empty_iff_forall_notMem, mem_inUse]

theorem occupied_pos {row : Fin n → Option α} {i : Fin n} (h : row i ≠ none) :
    0 < occupied row :=
  Finset.card_pos.2 ⟨i, mem_inUse.2 h⟩

/-- A row that is not full has an empty slot. -/
theorem exists_empty {row : Fin n → Option α} (h : occupied row < n) : ∃ i, row i = none := by
  by_contra hfull
  have hall : inUse row = Finset.univ := by
    ext i
    simp [mem_inUse, not_exists.1 hfull i]
  rw [occupied, hall, Finset.card_univ, Fintype.card_fin] at h
  omega

theorem inUse_fill (row : Fin n → Option α) (i : Fin n) (a : α) :
    inUse (update row i (some a)) = insert i (inUse row) := by
  ext j
  by_cases hj : j = i
  · subst hj
    simp [mem_inUse]
  · simp [mem_inUse, hj]

theorem inUse_clear (row : Fin n → Option α) (i : Fin n) :
    inUse (update row i none) = (inUse row).erase i := by
  ext j
  by_cases hj : j = i
  · subst hj
    simp [mem_inUse]
  · simp [mem_inUse, hj]

/-- Filling an empty slot adds one. -/
theorem occupied_fill {row : Fin n → Option α} {i : Fin n} (h : row i = none) (a : α) :
    occupied (update row i (some a)) = occupied row + 1 := by
  have hi : i ∉ inUse row := fun hmem => mem_inUse.1 hmem h
  rw [occupied, inUse_fill, Finset.card_insert_of_notMem hi]
  rfl

/-- Clearing a slot in use takes one away. -/
theorem occupied_clear {row : Fin n → Option α} {i : Fin n} (h : row i ≠ none) :
    occupied (update row i none) + 1 = occupied row := by
  rw [occupied, inUse_clear]
  exact Finset.card_erase_add_one (mem_inUse.2 h)

theorem firstEmpty_none {row : Fin n → Option α} {i : Fin n} (h : firstEmpty row = some i) :
    row i = none := by
  have hi := List.find?_some h
  exact Option.isNone_iff_eq_none.1 hi

theorem firstEmpty_isSome {row : Fin n → Option α} (h : occupied row < n) :
    ∃ i, firstEmpty row = some i := by
  obtain ⟨i, hi⟩ := exists_empty h
  have hsome : (firstEmpty row).isSome := by
    rw [firstEmpty, List.find?_isSome]
    exact ⟨i, List.mem_finRange i, by rw [hi]; rfl⟩
  exact Option.isSome_iff_exists.1 hsome

/-- Everything before the first empty slot is in use. -/
theorem inUse_before {row : Fin n → Option α} {i j : Fin n} (h : firstEmpty row = some i)
    (hj : j < i) : row j ≠ none := by
  obtain ⟨-, before, after, hsplit, hbefore⟩ := List.find?_eq_some_iff_append.1 h
  have hmem : j ∈ before ++ i :: after := hsplit ▸ List.mem_finRange j
  have hsorted : (before ++ i :: after).Pairwise (· < ·) :=
    hsplit ▸ List.pairwise_lt_finRange n
  rcases List.mem_append.1 hmem with hin | hout
  · have hused := hbefore j hin
    intro hnone
    rw [hnone] at hused
    cases hused
  · have hafter := (List.pairwise_append.1 hsorted).2.1
    rcases List.mem_cons.1 hout with rfl | hlater
    · exact absurd hj (lt_irrefl j)
    · exact absurd hj (lt_asymm (List.rel_of_pairwise_cons hafter hlater))

/-- The first empty slot is not beyond the count. -/
theorem firstEmpty_le {row : Fin n → Option α} {i : Fin n} (h : firstEmpty row = some i) :
    i.val ≤ occupied row := by
  have hsub : Finset.Iio i ⊆ inUse row := by
    intro j hj
    exact mem_inUse.2 (inUse_before h (Finset.mem_Iio.1 hj))
  have hcard := Finset.card_le_card hsub
  rwa [Fin.card_Iio] at hcard

end SprinklersAlarmClock.Logic
