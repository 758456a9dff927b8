/-!
# Base 64

Every four characters of a base-64 text spell three bytes.  The last group may be
shorter, and is then filled up with the sign `=`; nothing after that is read.
Characters outside the alphabet are passed over.
-/

namespace ChipEight.Base64

/-- The six bits that a character stands for. -/
def bits? (c : Char) : Option Nat :=
  if 'A' ≤ c ∧ c ≤ 'Z' then some (c.toNat - 65)
  else if 'a' ≤ c ∧ c ≤ 'z' then some (c.toNat - 71)
  else if '0' ≤ c ∧ c ≤ '9' then some (c.toNat + 4)
  else if c = '+' then some 62
  else if c = '/' then some 63
  else none

/-- The whole bytes in a group of up to four characters.  Bits that are left over are
dropped. -/
def bytesOf : List Nat → List UInt8
  | [a, b] => [UInt8.ofNat (4 * a + b / 16)]
  | [a, b, c] => [UInt8.ofNat (4 * a + b / 16), UInt8.ofNat (16 * b + c / 4)]
  | [a, b, c, d] =>
      [UInt8.ofNat (4 * a + b / 16), UInt8.ofNat (16 * b + c / 4), UInt8.ofNat (64 * c + d)]
  | _ => []

/-- Reads on in the middle of a group, after so many signs that fill it up.  A text that
ends inside a group is refused. -/
def decodeFrom (group : List Nat) (filled : Nat) : List Char → Option (List UInt8)
  | [] => if group.isEmpty then some [] else none
  | c :: rest =>
      if c = '=' then
        if group.length < 2 then decodeFrom group filled rest
        else if group.length + filled < 3 then decodeFrom group (filled + 1) rest
        else some (bytesOf group)
      else
        match bits? c with
        | none => decodeFrom group filled rest
        | some bits =>
            if group.length < 3 then decodeFrom (group ++ [bits]) 0 rest
            else (decodeFrom [] 0 rest).map (bytesOf (group ++ [bits]) ++ ·)

/-- The bytes that a text spells. -/
def decode (text : List Char) : Option (List UInt8) :=
  decodeFrom [] 0 text

end ChipEight.Base64
