import Mathlib.Data.List.Basic

/-!
# Registers of flags

A byte that holds several fields is read through a mask, `v &&& m`, and written
by clearing bits with another mask and setting bits.  A write shows through a
mask of its own field and leaves every other mask as it was.  As simplification
rules, with the masks compared by evaluation, these lemmas reduce what a mask
shows after any nest of such writes.
-/

namespace SprinklersAlarmClock.Logic

theorem or_and_byte (x y m : UInt8) : (x ||| y) &&& m = (x &&& m) ||| (y &&& m) :=
  UInt8.toBitVec_inj.mp BitVec.and_or_distrib_right

/-- Bits cleared outside the mask. -/
theorem clear_keeps {a m : UInt8} (h : a &&& m = m) (v : UInt8) : v &&& a &&& m = v &&& m := by
  rw [UInt8.and_assoc, h]

/-- The mask itself is cleared. -/
theorem clear_clears {a m : UInt8} (h : a &&& m = 0) (v : UInt8) : v &&& a &&& m = 0 := by
  rw [UInt8.and_assoc, h, UInt8.and_zero]

/-- Bits set outside the mask. -/
theorem set_keeps {b m : UInt8} (h : b &&& m = 0) (v : UInt8) :
    (v ||| b) &&& m = v &&& m := by
  rw [or_and_byte, h, UInt8.or_zero]

/-- The mask itself is set. -/
theorem set_sets {b m : UInt8} (h : b &&& m = m) (v : UInt8) : (v ||| b) &&& m = m := by
  rw [or_and_byte, h]
  apply UInt8.toBitVec_inj.mp
  ext i hi
  simp

/-- A field written anew. -/
theorem write_shows {a m : UInt8} (h : a &&& m = 0) (v b : UInt8) :
    ((v &&& a) ||| b) &&& m = b &&& m := by
  rw [or_and_byte, clear_clears h, UInt8.zero_or]

theorem and_and_byte (v m : UInt8) : v &&& (v &&& m) = v &&& m := by
  rw [← UInt8.and_assoc, UInt8.and_self]

end SprinklersAlarmClock.Logic
