import ChipEight.Decimal.Reading
import ChipEight.Text.Base64
import ChipEight.Text.Integer
import ChipEight.Text.Lowercase
import ChipEight.Value.Basic
import ChipEight.Yaml.Kind
import ChipEight.Yaml.Problem

/-!
# Scalars as values

The value of a scalar is what its text spells in the notation of its kind.  Underscores
in numbers mean nothing.  Integers may be written in base two, eight, ten, sixteen or
sixty, floats in base ten or sixty.
-/

namespace ChipEight.Yaml

/-- A text without underscores. -/
def withoutUnderscores (text : Text) : Text :=
  ⟨text.letters.filter (· != .char '_')⟩

/-- Whether a text starts with a minus sign. -/
def isNegative (text : Text) : Bool := text.letters.head? == some (.char '-')

/-- A text without the sign at its start. -/
def withoutSign (text : Text) : Text :=
  match text.letters with
  | .char '+' :: rest | .char '-' :: rest => ⟨rest⟩
  | letters => ⟨letters⟩

/-- The parts of a text between colons. -/
def colonTexts (text : Text) : List Text :=
  (text.letters.splitOn (.char ':')).map Text.mk

/-! ## Integers -/

/-- The integer that digits spell in a base. -/
def integerIn (base : Nat) (digits : Text) : Except Problem Int :=
  match Integer.read base digits with
  | some n => .ok n
  | none => .error (.badValue (Integer.complaint base digits))

/-- The integer that a text without sign and underscores spells. -/
def unsignedInteger (text : Text) : Except Problem Int :=
  match text.letters with
  | [] => .error .emptyNumber
  | [.char '0'] => .ok 0
  | .char '0' :: .char 'b' :: digits => integerIn 2 ⟨digits⟩
  | .char '0' :: .char 'x' :: digits => integerIn 16 ⟨digits⟩
  | .char '0' :: _ => integerIn 8 text
  | _ => (colonTexts text).foldlM (fun value part =>
      (integerIn 10 part).map fun digit => 60 * value + digit) 0

/-- The integer that a text spells. -/
def readInt (text : Text) : Except Problem Int :=
  let text := withoutUnderscores text
  (unsignedInteger (withoutSign text)).map fun n => if isNegative text then -n else n

/-! ## Floats -/

/-- The float that a text spells, as a decimal or as a word, perhaps between spaces. -/
def floatText? (text : Text) : Option Float :=
  let trimmed := ((Integer.trimmed text.chars).reverse.dropWhile Hex.isSeparator).reverse
  let size := match String.ofList (Kind.unsigned trimmed) with
    | "inf" | "infinity" => some (1.0 / 0.0)
    | "nan" => some (0.0 / 0.0)
    | _ => Decimal.readUnsigned? (Kind.unsigned trimmed)
  size.map fun x => if trimmed.head? == some '-' then -x else x

/-- The float that a text spells. -/
def floatText (text : Text) : Except Problem Float :=
  match floatText? text with
  | some x => .ok x
  | none => .error (.badValue ("could not convert string to float: " ++ text.quoted))

/-- Adds digits in base sixty to a value, the last digit first.  The base with which a
digit counts has to be in the range of floats. -/
def sexagesimal (value : Float) (base : Nat) : List Float → Except Problem Float
  | [] => .ok value
  | digit :: digits =>
      if (Decimal.ofNat base).isInf then .error .tooLarge
      else sexagesimal (value + digit * Decimal.ofNat base) (60 * base) digits

/-- What is not a number, as a word of the format.  There is only one such number, while
other texts spell each its own. -/
def isNanWord (text : Text) : Bool :=
  withoutSign (withoutUnderscores text).small == ".nan"

/-- The float that a text without sign and underscores spells. -/
def unsignedFloat (text : Text) : Except Problem Float :=
  if text == ".inf" then .ok (1.0 / 0.0)
  else if text == ".nan" then .ok (0.0 / 0.0)
  else if text.letters.contains (.char ':') then do
    let digits ← (colonTexts text).mapM floatText
    sexagesimal 0.0 1 digits.reverse
  else floatText text

/-- The float that a text spells. -/
def readFloat (text : Text) : Except Problem Float :=
  let text := (withoutUnderscores text).small
  if text.letters.isEmpty then .error .emptyNumber
  else
    (unsignedFloat (withoutSign text)).map fun x => if isNegative text then -x else x

/-! ## Truth values -/

/-- The truth value that a word spells, in any letter case. -/
def readBool (text : Text) : Except Problem Bool :=
  match text.small.toString? with
  | none => .error .noTruth
  | some word =>
      if Kind.trueWords.contains word then .ok true
      else if Kind.falseWords.contains word then .ok false
      else .error .noTruth

/-! ## Moments -/

/-- The value of a run of digits. -/
def natural (digits : List Char) : Nat := Decimal.digitsValue digits

/-- A span of time as whole days and the seconds beyond them. -/
def spanText (seconds : Int) : String :=
  let rest := seconds.emod 86400
  "datetime.timedelta(days=" ++ toString (seconds.ediv 86400) ++
    (if rest = 0 then "" else ", seconds=" ++ toString rest) ++ ")"

/-- The offset of a zone in seconds.  It has to be less than a day. -/
def readZone : Option (Char × List Char × List Char) → Except Problem (Option Int)
  | none => .ok none
  | some (sign, hours, minutes) =>
      let size : Int := 3600 * natural hours + 60 * natural minutes
      let offset := if sign = '-' then -size else size
      if size < 86400 then .ok (some offset)
      else .error (.badValue ("offset must be a timedelta strictly between " ++
        "-timedelta(hours=24) and timedelta(hours=24), not " ++ spanText offset ++ "."))

/-- The microseconds that a fraction of a second spells; further digits are cut off. -/
def microseconds (fraction : List Char) : Nat :=
  natural ((fraction ++ List.replicate 6 '0').take 6)

/-- The moment that a text spells, perhaps with a line feed at its end. -/
def readMoment (text : Text) : Except Problem Moment :=
  match text.chars?.bind fun chars => Kind.momentParts? (Kind.withoutFeed chars) with
  | none => .error .noMoment
  | some parts => do
      let offset ← readZone parts.zone
      let time := parts.time.map fun (hour, minute, second, fraction) =>
        { hour := natural hour, minute := natural minute, second := natural second
          microsecond := microseconds fraction, offset := offset : TimeOfDay }
      let moment : Moment :=
        ⟨natural parts.year, natural parts.month, natural parts.day, time⟩
      match moment.complaint? with
      | none => return moment
      | some complaint => throw (.badValue complaint)

/-! ## Byte strings -/

/-- The byte string that a text spells.  The text may hold no character outside ASCII. -/
def readBinary (text : Text) : Except Problem (List UInt8) :=
  if text.letters.any fun letter => 128 ≤ letter.code then .error .malformed
  else
    match Base64.decode text.chars with
    | some data => .ok data
    | none => .error .malformed

/-! ## All kinds -/

/-- The value of a scalar of some kind. -/
def readScalar (kind : Kind) (text : Text) : Except Problem Value :=
  match kind with
  | .null => .ok .null
  | .bool => (readBool text).map .bool
  | .int => (readInt text).map .int
  | .float => (readFloat text).map .float
  | .moment => (readMoment text).map .moment
  | .string => .ok (.text text)
  | .binary => (readBinary text).map .bytes
  | _ => .error .malformed

end ChipEight.Yaml
