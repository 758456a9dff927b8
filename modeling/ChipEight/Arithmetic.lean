/-!
# Byte arithmetic

The operations on byte registers that also give a flag: a carry, the absence of a
borrow, or the bit that a shift drops.
-/

namespace ChipEight.Arithmetic

/-- The sum, and whether it carries. -/
def add (a b : UInt8) : UInt8 × Bool :=
  (a + b, 255 < a.toNat + b.toNat)

/-- The difference, and whether it borrows nothing. -/
def subtract (a b : UInt8) : UInt8 × Bool :=
  (a - b, b ≤ a)

/-- Half of a byte, and whether it was odd. -/
def shiftRight (a : UInt8) : UInt8 × Bool :=
  (a >>> 1, a.toNat % 2 = 1)

/-- Twice a byte, and whether its highest bit was set. -/
def shiftLeft (a : UInt8) : UInt8 × Bool :=
  (a <<< 1, 128 ≤ a.toNat)

/-- The three decimal digits of a byte. -/
def decimalDigits (a : UInt8) : List UInt8 :=
  [a / 100, a / 10 % 10, a % 10]

end ChipEight.Arithmetic
