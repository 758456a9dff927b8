import ChipEight.Decimal.Binary

/-!
# Reading decimals

A decimal text has digits, an optional point and fraction, and an optional
exponent.  Its value is the float nearest to it.
-/

namespace ChipEight.Decimal

/-- The float nearest to `digits * 10 ^ exponent`.  Exponents far outside the range of
floats are settled without computing the power. -/
def nearest (digits : Nat) (exponent : Int) : Float :=
  let size := (Nat.toDigits 10 digits).length
  if digits = 0 then 0.0
  else if (size : Int) + exponent < -400 then 0.0
  else if 400 < (size : Int) + exponent then 1.0 / 0.0
  else if 0 ≤ exponent then Float.ofScientific (digits * Nat.pow 10 exponent.toNat) false 0
  else Float.ofScientific digits true (-exponent).toNat

/-- The value of a run of ASCII digits. -/
def digitsValue (digits : List Char) : Nat :=
  digits.foldl (fun value c => 10 * value + (c.toNat - 48)) 0

/-- Splits off the leading ASCII digits. -/
def spanDigits (text : List Char) : List Char × List Char :=
  text.span Char.isDigit

/-- Reads the exponent part, if any: a letter `e`, an optional sign and digits. -/
def readExponent? : List Char → Option Int
  | [] => some 0
  | e :: rest =>
      if e = 'e' ∨ e = 'E' then
        let (negative, digits) :=
          match rest with
          | '-' :: digits => (true, digits)
          | '+' :: digits => (false, digits)
          | digits => (false, digits)
        if !digits.isEmpty && digits.all Char.isDigit then
          let value : Int := digitsValue digits
          some (if negative then -value else value)
        else none
      else none

/-- Reads an unsigned decimal with at least one digit before or after the point. -/
def readUnsigned? (text : List Char) : Option Float :=
  let (whole, rest) := spanDigits text
  let (fraction, rest) :=
    match rest with
    | '.' :: rest => spanDigits rest
    | rest => ([], rest)
  if whole.isEmpty && fraction.isEmpty then none
  else
    (readExponent? rest).map fun exponent =>
      nearest (digitsValue (whole ++ fraction)) (exponent - fraction.length)

/-- Reads a decimal with an optional sign. -/
def read? : List Char → Option Float
  | '-' :: rest => (readUnsigned? rest).map fun value => -value
  | '+' :: rest => readUnsigned? rest
  | text => readUnsigned? text

end ChipEight.Decimal
