import Mathlib.Data.List.Basic

/-!
# Strobed lines

A receiver on a set of parallel lines, one of which is a strobe.  The lines are
set again and again; the receiver takes the sample that stood on them when the
strobe falls (`Strobed.feed`).  A sender that sets a sample, raises the strobe
over it and lowers it again hands that sample over, once
(`Strobed.feed_pulse`), and settings with the strobe low hand over nothing
(`Strobed.feed_low`).

A byte that goes over four of the lines is cut into halves; `joinHalves` puts
them together again.
-/

namespace SprinklersAlarmClock.Logic

/-! ## The strobe -/

/-- What stands on the lines, and the receiver behind them. -/
structure Strobed (α σ : Type) where
  lines : α
  inner : σ

namespace Strobed

variable {α σ : Type} (strobe : α → Bool) (latch : α → σ → σ)

/-- The lines are set to `x`. -/
def feed (r : Strobed α σ) (x : α) : Strobed α σ where
  lines := x
  inner := if strobe r.lines = true ∧ strobe x = false then latch r.lines r.inner else r.inner

/-- The lines are set to each sample in turn. -/
def feedAll (r : Strobed α σ) (xs : List α) : Strobed α σ :=
  xs.foldl (feed strobe latch) r

@[simp] theorem feedAll_nil (r : Strobed α σ) : feedAll strobe latch r [] = r := rfl

@[simp] theorem feedAll_cons (r : Strobed α σ) (x : α) (xs : List α) :
    feedAll strobe latch r (x :: xs) = feedAll strobe latch (feed strobe latch r x) xs := rfl

theorem feedAll_append (r : Strobed α σ) (xs ys : List α) :
    feedAll strobe latch r (xs ++ ys) =
      feedAll strobe latch (feedAll strobe latch r xs) ys :=
  List.foldl_append

variable {strobe latch}

/-- With the strobe low before, nothing is taken. -/
theorem feed_low {r : Strobed α σ} (h : strobe r.lines = false) (x : α) :
    feed strobe latch r x = ⟨x, r.inner⟩ := by
  have hne : ¬ (strobe r.lines = true ∧ strobe x = false) := by simp [h]
  unfold feed
  rw [if_neg hne]

/-- The strobe falls. -/
theorem feed_fall {r : Strobed α σ} {x : α} (h : strobe r.lines = true)
    (hx : strobe x = false) : feed strobe latch r x = ⟨x, latch r.lines r.inner⟩ := by
  unfold feed
  rw [if_pos ⟨h, hx⟩]

/-- A pulse hands over the sample under it and leaves the strobe low. -/
theorem feed_pulse {r : Strobed α σ} {x y z : α} (h : strobe r.lines = false)
    (hx : strobe x = false) (hy : strobe y = true) (hz : strobe z = false) :
    feedAll strobe latch r [x, y, z] = ⟨z, latch y r.inner⟩ := by
  have hlow : feed strobe latch r x = ⟨x, r.inner⟩ := feed_low h x
  have hrise : feed strobe latch ⟨x, r.inner⟩ y = ⟨y, r.inner⟩ := feed_low hx y
  have hfall : feed strobe latch ⟨y, r.inner⟩ z = ⟨z, latch y r.inner⟩ := feed_fall hy hz
  rw [feedAll_cons, feedAll_cons, feedAll_cons, feedAll_nil, hlow, hrise, hfall]

end Strobed

/-! ## Halves of a byte -/

/-- A property of bytes can be checked on all 256 of them. -/
theorem forall_byte {P : UInt8 → Prop} (h : ∀ i : Fin 256, P (.ofFin i)) (v : UInt8) : P v :=
  h v.toFin

/-- The upper half, where it stands. -/
def highHalf (v : UInt8) : UInt8 := v &&& 0xF0

/-- The lower half, moved to where the upper one stood. -/
def lowHalf (v : UInt8) : UInt8 := (v <<< 4 : UInt8) &&& 0xF0

/-- A byte from its halves, both standing on the upper four lines. -/
def joinHalves (high low : UInt8) : UInt8 := highHalf high ||| low >>> 4

theorem joinHalves_halves (v : UInt8) : joinHalves (highHalf v) (lowHalf v) = v := by
  revert v
  exact forall_byte (by decide +kernel)

theorem highHalf_or (v m : UInt8) : highHalf (v ||| m) = highHalf v ||| highHalf m := by
  unfold highHalf
  simp only [← UInt8.toBitVec_inj, UInt8.toBitVec_and, UInt8.toBitVec_or,
    BitVec.and_or_distrib_right]

/-- Bits on the lower four lines do not disturb either half. -/
theorem joinHalves_marked {v m m' : UInt8} (hm : highHalf m = 0) (hm' : m' < 16) :
    joinHalves (highHalf v ||| m) (lowHalf v ||| m') = v := by
  have hshift : m' >>> 4 = 0 := by
    have hall : ∀ v : UInt8, v < 16 → v >>> 4 = 0 := forall_byte (by decide +kernel)
    exact hall m' hm'
  calc joinHalves (highHalf v ||| m) (lowHalf v ||| m')
      = joinHalves (highHalf v) (lowHalf v) := by
        unfold joinHalves
        rw [highHalf_or, hm, UInt8.or_zero, UInt8.shiftRight_or, hshift, UInt8.or_zero]
    _ = v := joinHalves_halves v

end SprinklersAlarmClock.Logic
