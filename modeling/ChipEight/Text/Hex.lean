/-!
# Hexadecimal text

Numbers are shown in base sixteen with a least width, and byte strings are
written and read as pairs of hexadecimal digits.  Reading accepts either letter
case and skips ASCII white space between two bytes, never inside one.
-/

namespace ChipEight.Hex

/-- The upper-case digit of a value below sixteen. -/
def upperDigit (value : Nat) : Char :=
  Char.ofNat (if value < 10 then 48 + value else 55 + value)

/-- The lower-case digit of a value below sixteen. -/
def lowerDigit (value : Nat) : Char :=
  Char.ofNat (if value < 10 then 48 + value else 87 + value)

/-- The digits of `value` in base sixteen, the highest first. -/
def digits (digit : Nat → Char) (value : Nat) : List Char :=
  if value < 16 then [digit value]
  else digits digit (value / 16) ++ [digit (value % 16)]

/-- A number with its sign, then `lead`, then at least so many digits that the
whole text is `width` characters long. -/
def signed (digit : Nat → Char) (lead : String) (width : Nat) (value : Int) : String :=
  let sign := if value < 0 then "-" else ""
  let body := digits digit value.natAbs
  let zeros := width - sign.length - lead.length - body.length
  sign ++ lead ++ String.ofList (List.replicate zeros '0' ++ body)

/-- Upper-case digits without a mark, zero-filled to `width`. -/
def upper (width : Nat) (value : Int) : String :=
  signed upperDigit "" width value

/-- An address in a message: `0x` and at least three digits.  A minus sign takes
the place of one digit. -/
def address (value : Int) : String :=
  signed lowerDigit "0x" 5 value

/-- An instruction word in a message: `0x` and at least four digits. -/
def word (value : Int) : String :=
  signed lowerDigit "0x" 6 value

/-! ## Byte strings -/

/-- The two digits of each byte, without separators. -/
def encode (digit : Nat → Char) (bytes : List UInt8) : List Char :=
  bytes.flatMap fun byte => [digit (byte.toNat / 16), digit (byte.toNat % 16)]

/-- Lower-case text of a byte string. -/
def lower (bytes : List UInt8) : String :=
  String.ofList (encode lowerDigit bytes)

/-- The value of a hexadecimal digit of either case. -/
def digitValue? (c : Char) : Option Nat :=
  if '0' ≤ c ∧ c ≤ '9' then some (c.toNat - 48)
  else if 'a' ≤ c ∧ c ≤ 'f' then some (c.toNat - 87)
  else if 'A' ≤ c ∧ c ≤ 'F' then some (c.toNat - 55)
  else none

/-- The six ASCII characters that may stand between two bytes. -/
def isSeparator (c : Char) : Bool :=
  c == ' ' || (9 ≤ c.toNat && c.toNat ≤ 13)

/-- Reads pairs of digits from the given position on.  A failure carries the
position of the first character that is not the digit it should be; for a missing
last digit that is the length of the text. -/
def decodeFrom (position : Nat) : List Char → Except Nat (List UInt8)
  | [] => .ok []
  | c :: rest =>
      if isSeparator c then decodeFrom (position + 1) rest
      else
        match digitValue? c, rest with
        | none, _ => .error position
        | some _, [] => .error (position + 1)
        | some high, d :: rest =>
            match digitValue? d with
            | none => .error (position + 1)
            | some low =>
                match decodeFrom (position + 2) rest with
                | .error failed => .error failed
                | .ok bytes => .ok (UInt8.ofNat (16 * high + low) :: bytes)

/-- Reads a byte string.  A character outside ASCII is reported before any other
fault. -/
def decode (text : List Char) : Except Nat (List UInt8) :=
  match text.findIdx? fun c => 128 ≤ c.toNat with
  | some position => .error position
  | none => decodeFrom 0 text

end ChipEight.Hex
