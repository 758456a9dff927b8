import ChipEight.Decimal.Binary

/-!
# Shortest decimals

The text of a float has the fewest significant digits that read back as the same
float, and among those the digits nearest to its value.  The search runs over the
decimal grids of one, two, up to seventeen digits; on each grid only the two
neighbours of the value can lie in the interval of reals that round to the float.
-/

namespace ChipEight.Decimal

/-- A positive real as a quotient, with the interval of reals that round to it.  The
ends of the interval belong to it when `closed` holds. -/
structure Interval where
  low : Nat
  value : Nat
  high : Nat
  denominator : Nat
  closed : Bool

namespace Interval

/-- The interval of the float `mantissa * 2 ^ exponent`, in quarters of the last
place.  Below a power of two the floats lie twice as dense. -/
def ofBinary (mantissa : Nat) (exponent : Int) : Interval :=
  let quarter := exponent - 2
  let up := Nat.pow 2 quarter.toNat
  let low :=
    if mantissa = 0x10000000000000 ∧ -1074 < exponent then 4 * mantissa - 1
    else 4 * mantissa - 2
  { low := low * up
    value := 4 * mantissa * up
    high := (4 * mantissa + 2) * up
    denominator := Nat.pow 2 (-quarter).toNat
    closed := mantissa % 2 = 0 }

/-- The interval measured in units of `10 ^ scale`. -/
def inUnits (range : Interval) (scale : Int) : Interval :=
  let up := Nat.pow 10 (-scale).toNat
  { range with
    low := range.low * up
    value := range.value * up
    high := range.high * up
    denominator := range.denominator * Nat.pow 10 scale.toNat }

/-- Whether a natural number lies in the interval. -/
def covers (range : Interval) (n : Nat) : Bool :=
  let point := n * range.denominator
  if range.closed then range.low ≤ point && point ≤ range.high
  else range.low < point && point < range.high

/-- The natural number in the interval that is nearest to the value, an even one of
two that are equally near. -/
def nearest? (range : Interval) : Option Nat :=
  let below := range.value / range.denominator
  let rest := range.value % range.denominator
  match range.covers below, range.covers (below + 1) with
  | false, false => none
  | true, false => some below
  | false, true => some (below + 1)
  | true, true =>
      if 2 * rest < range.denominator then some below
      else if range.denominator < 2 * rest then some (below + 1)
      else some (if below % 2 = 0 then below else below + 1)

end Interval

/-- The number of decimal digits of a natural number. -/
def digitCount (n : Nat) : Nat :=
  (Nat.toDigits 10 n).length

/-- The zeros that follow the point of a positive quotient below one. -/
def leadingZeros (numerator denominator : Nat) : Nat :=
  ((List.range 400).find? fun k => denominator ≤ numerator * Nat.pow 10 (k + 1)).getD 400

/-- The power of ten just above a positive quotient: the exponent `k` with
`10 ^ (k - 1) ≤ numerator / denominator < 10 ^ k`. -/
def magnitude (numerator denominator : Nat) : Int :=
  if denominator ≤ numerator then digitCount (numerator / denominator)
  else -(leadingZeros numerator denominator : Int)

/-- The shortest digits of a positive float and the power of ten that they are
multiplied by. -/
def shortest (mantissa : Nat) (exponent : Int) : Nat × Int :=
  let range := Interval.ofBinary mantissa exponent
  let top := magnitude range.value range.denominator
  let found := (List.range 17).findSome? fun k =>
    let scale := top - (k + 1 : Nat)
    ((range.inUnits scale).nearest?).map fun digits => (digits, scale)
  found.getD (0, 0)

/-- Drops trailing zeros into the exponent. -/
def trimZeros : Nat → Nat × Int → Nat × Int
  | 0, decimal => decimal
  | fuel + 1, (digits, scale) =>
      if digits % 10 = 0 ∧ digits ≠ 0 then trimZeros fuel (digits / 10, scale + 1)
      else (digits, scale)

/-- Positional text of a positive decimal whose point stands after `point` digits;
at least one digit follows the point. -/
def positional (digits : List Char) (point : Int) : List Char :=
  if point ≤ 0 then '0' :: '.' :: (List.replicate (-point).toNat '0' ++ digits)
  else if digits.length ≤ point.toNat then
    digits ++ List.replicate (point.toNat - digits.length) '0' ++ ['.', '0']
  else digits.take point.toNat ++ '.' :: digits.drop point.toNat

/-- Text with an exponent of at least two digits: one digit, then a point only if
more digits follow. -/
def exponential (digits : List Char) (power : Int) : List Char :=
  let body :=
    match digits with
    | first :: rest => if rest.isEmpty then [first] else first :: '.' :: rest
    | [] => []
  let size := Nat.toDigits 10 power.natAbs
  body ++ 'e' :: (if power < 0 then '-' else '+') :: (List.replicate (2 - size.length) '0' ++ size)

/-- The text of a float: positional from `0.0001` up to below `10 ^ 16`, with an
exponent beyond. -/
def text (x : Float) : String :=
  match Binary.ofFloat x with
  | .notANumber => "nan"
  | .infinite negative => if negative then "-inf" else "inf"
  | .finite negative mantissa exponent =>
      let sign := if negative then "-" else ""
      if mantissa = 0 then sign ++ "0.0"
      else
        let (digits, scale) := trimZeros 20 (shortest mantissa exponent)
        let shown := Nat.toDigits 10 digits
        let point := (shown.length : Int) + scale
        sign ++ String.ofList
          (if -4 < point ∧ point ≤ 16 then positional shown point
           else exponential shown (point - 1))

end ChipEight.Decimal
