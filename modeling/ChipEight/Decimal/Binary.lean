/-!
# Binary floating-point numbers as integers

A finite `Float` is a signed integer times a power of two.  Its integer part, its
comparison with an integer and the float nearest to a quotient of integers are
computed from that form, without rounding on the way.
-/

namespace ChipEight.Decimal

/-- What the bits of a float stand for. -/
inductive Binary where
  | finite (negative : Bool) (mantissa : Nat) (exponent : Int)
  | infinite (negative : Bool)
  | notANumber
  deriving DecidableEq, Repr

namespace Binary

/-- Splits the sixty-four bits into sign, exponent and mantissa. -/
def ofFloat (x : Float) : Binary :=
  let bits := x.toBits.toNat
  let negative := 0x8000000000000000 ≤ bits
  let exponent : Nat := bits / 0x10000000000000 % 0x800
  let fraction : Nat := bits % 0x10000000000000
  if exponent = 2047 then
    if fraction = 0 then infinite negative else notANumber
  else if exponent = 0 then finite negative fraction (-1074)
  else finite negative (0x10000000000000 + fraction) ((exponent : Int) - 1075)

/-- The greatest integer not above a finite number. -/
def floor? : Binary → Option Int
  | finite negative mantissa exponent =>
      let signed : Int := if negative then -(mantissa : Int) else mantissa
      if 0 ≤ exponent then some (signed * Nat.pow 2 exponent.toNat)
      else some (signed.fdiv (Nat.pow 2 (-exponent).toNat))
  | _ => none

/-- The integer that a number is equal to. -/
def toInt? : Binary → Option Int
  | finite negative mantissa exponent =>
      let signed : Int := if negative then -(mantissa : Int) else mantissa
      if 0 ≤ exponent then some (signed * Nat.pow 2 exponent.toNat)
      else if mantissa % Nat.pow 2 (-exponent).toNat = 0 then
        some (signed.fdiv (Nat.pow 2 (-exponent).toNat))
      else none
  | _ => none

end Binary

/-- The float nearest to a natural number; infinite when it is too large. -/
def ofNat (n : Nat) : Float :=
  if n < Nat.pow 2 1024 then Float.ofScientific n false 0 else 1.0 / 0.0

/-- The float nearest to an integer. -/
def ofInt (n : Int) : Float :=
  if n < 0 then -(ofNat n.natAbs) else ofNat n.natAbs

/-- The float nearest to `numerator / denominator`.  Small operands are divided
directly.  Otherwise the quotient is cut to at least sixty-six bits, and a remainder
is kept as a last odd bit, so that the one rounding that follows decides as it would
on the whole quotient. -/
def ofRatio (numerator denominator : Nat) : Float :=
  if max numerator denominator < 0x20000000000000 then ofNat numerator / ofNat denominator
  else
    let shift : Int := (denominator.log2 : Int) - (numerator.log2 : Int) + 66
    let up := numerator * Nat.pow 2 shift.toNat
    let down := denominator * Nat.pow 2 (-shift).toNat
    let quotient := up / down
    let sticky := if up % down = 0 then quotient else quotient ||| 1
    (ofNat sticky).scaleB (-shift)

end ChipEight.Decimal
