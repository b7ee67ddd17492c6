import Mathlib.Algebra.Order.Ring.Int

/-!
# Floats as bits

A `float` of 32 bits by its bits: a sign, and a magnitude that grows with the number it stands
for. The magnitudes from that of infinity on are not finite, those above it are no numbers. The
two zeros compare equal, and what is no number compares with nothing.

## Main definitions

* `FloatBits.isFinite`, `FloatBits.eq`, `FloatBits.lt`
-/

namespace RtCore.Foundation.FloatBits

/-- The bits without the sign. -/
def magnitude (bits : UInt32) : ℕ := bits.toNat % 2 ^ 31

/-- The magnitude of the infinities. -/
def infinity : ℕ := 0x7F800000

/-- Neither infinite nor a NaN. -/
def isFinite (bits : UInt32) : Bool := magnitude bits < infinity

/-- Not a number. -/
def isNan (bits : UInt32) : Bool := infinity < magnitude bits

/-- The numbers in their order, the zeros in one place. -/
def key (bits : UInt32) : ℤ :=
  if bits.toNat < 2 ^ 31 then magnitude bits else -magnitude bits

/-- `==`. -/
def eq (a b : UInt32) : Bool := !isNan a && !isNan b && key a = key b

/-- `<`. -/
def lt (a b : UInt32) : Bool := !isNan a && !isNan b && key a < key b

theorem isNan_of_isFinite {bits : UInt32} (finite : isFinite bits = true) : isNan bits = false := by
  simp only [isFinite, isNan, decide_eq_true_eq, decide_eq_false_iff_not] at *
  omega

theorem eq_iff {a b : UInt32} (finiteA : isFinite a = true) (finiteB : isFinite b = true) :
    eq a b = true ↔ key a = key b := by
  simp [eq, isNan_of_isFinite finiteA, isNan_of_isFinite finiteB]

theorem lt_iff {a b : UInt32} (finiteA : isFinite a = true) (finiteB : isFinite b = true) :
    lt a b = true ↔ key a < key b := by
  simp [lt, isNan_of_isFinite finiteA, isNan_of_isFinite finiteB]

end RtCore.Foundation.FloatBits
