import ChipEight.Text.Blank
import ChipEight.Text.Hex
import ChipEight.Text.Quoted

/-!
# Integer text

An integer may be surrounded by white space and carry a sign.  Its digits may be
decimal digits of any script, and single underscores may stand between them.  In
base sixteen, eight and two the digits may follow the mark `0x`, `0o` or `0b`,
with one underscore allowed after the mark.
-/

namespace ChipEight.Integer

open ChipEight.Text

/-- The character with which a number is read: white space and decimal digits
outside ASCII count as the space and as the ASCII digit. -/
def toAscii (c : Char) : Char :=
  if c.toNat < 127 then c
  else if isBlank c then ' '
  else
    match decimalDigit? c with
    | some value => Char.ofNat (48 + value)
    | none => '?'

/-- The value of a digit that is smaller than the base. -/
def digitValue? (base : Nat) (c : Char) : Option Nat :=
  (Hex.digitValue? c).filter (· < base)

/-- Reads digits with single underscores between them.  The flag tells that the
last character was a digit, so that an underscore or the end may follow. -/
def readDigits (base : Nat) (value : Nat) (afterDigit : Bool) :
    List Char → Option (Nat × List Char)
  | [] => if afterDigit then some (value, []) else none
  | c :: rest =>
      if c = '_' then
        if afterDigit then readDigits base value false rest else none
      else
        match digitValue? base c with
        | some digit => readDigits base (value * base + digit) true rest
        | none => if afterDigit then some (value, c :: rest) else none

/-- The letter that follows the zero in the mark of a base. -/
def mark? : Nat → Option (Char × Char)
  | 2 => some ('b', 'B')
  | 8 => some ('o', 'O')
  | 16 => some ('x', 'X')
  | _ => none

/-- Drops the mark of the base, and one underscore after it. -/
def dropMark (base : Nat) (text : List Char) : List Char :=
  match mark? base, text with
  | some (small, large), '0' :: letter :: rest =>
      if letter = small ∨ letter = large then
        match rest with
        | '_' :: digits => digits
        | digits => digits
      else text
  | _, _ => text

/-- Bases that are no power of two take at most this many digits. -/
def maxDigits : Nat := 4300

/-- The number of digits at the start of a text, underscores left out. -/
def digitCount (base : Nat) (text : List Char) : Nat :=
  (text.takeWhile fun c => c == '_' || (digitValue? base c).isSome).countP (· != '_')

/-- A text with more digits than its base allows. -/
def tooLong (base : Nat) (digits : List Char) : Bool :=
  (mark? base).isNone && maxDigits < digitCount base digits

/-- Reads the digits after the sign: they must fill the text up to white space. -/
def readUnsigned (base : Nat) (text : List Char) : Option Nat :=
  let digits := dropMark base text
  if tooLong base digits then none
  else
    match readDigits base 0 false digits with
    | some (value, rest) => if rest.all Hex.isSeparator then some value else none
    | none => none

/-- Reads a sign and the digits after it. -/
def readSigned (base : Nat) : List Char → Option Int
  | '-' :: rest => (readUnsigned base rest).map fun value => -(value : Int)
  | '+' :: rest => (readUnsigned base rest).map Int.ofNat
  | text => (readUnsigned base text).map Int.ofNat

/-- The characters of a text from the first that is no white space on. -/
def trimmed (text : List Char) : List Char :=
  (text.map toAscii).dropWhile Hex.isSeparator

/-- The integer that a text spells in the given base. -/
def read (base : Nat) (text : Text) : Option Int :=
  readSigned base (trimmed text.chars)

/-- The characters after an optional sign. -/
def afterSign : List Char → List Char
  | '-' :: rest | '+' :: rest => rest
  | text => text

/-- Why a number with too many digits is neither read nor written; a number that is read
is told how many it has. -/
def limitMessage (digits : Option Nat) : String :=
  "Exceeds the limit (4300 digits) for integer string conversion" ++
    (match digits with
      | some count => ": value has " ++ toString count ++ " digits"
      | none => "") ++
    "; use sys.set_int_max_str_digits() to increase the limit"

/-- The complaint about a text that spells no integer in the given base.  A long text is
cut off. -/
def complaint (base : Nat) (text : Text) : String :=
  let digits := afterSign (trimmed text.chars)
  if tooLong base digits then limitMessage (some (digitCount base digits))
  else
    "invalid literal for int() with base " ++ toString base ++ ": " ++
      String.ofList (text.quotedChars.take 200)

/-- The decimal text of an integer, if it does not have too many digits. -/
def text? (n : Int) : Option String :=
  if n.natAbs < Nat.pow 10 maxDigits then some (toString n) else none

end ChipEight.Integer
