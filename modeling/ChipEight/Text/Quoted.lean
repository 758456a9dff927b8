import ChipEight.Text.Hex
import ChipEight.Text.Letter
import ChipEight.Text.Printable

/-!
# Quoted text

A text in a message stands between single quotes, or between double quotes when
it holds a single quote and no double one.  The quote in use, the backslash and
every letter that is not printable are written as escapes.
-/

namespace ChipEight.Text

/-- The quote that needs no escape, where one exists. -/
def quoteFor (text : List Char) : Char :=
  if text.contains '\x27' && !text.contains '"' then '"' else '\x27'

/-- An escape with a fixed number of lower-case hexadecimal digits. -/
def hexEscape (letter : Char) (width : Nat) (code : Nat) : List Char :=
  let digits := Hex.digits Hex.lowerDigit code
  '\\' :: letter :: (List.replicate (width - digits.length) '0' ++ digits)

/-- One character of a quoted text. -/
def quotedChar (quote c : Char) : List Char :=
  if c = quote ∨ c = '\\' then ['\\', c]
  else if c = '\n' then ['\\', 'n']
  else if c = '\r' then ['\\', 'r']
  else if c = '\t' then ['\\', 't']
  else if isPrintable c then [c]
  else if c.toNat < 0x100 then hexEscape 'x' 2 c.toNat
  else if c.toNat < 0x10000 then hexEscape 'u' 4 c.toNat
  else hexEscape 'U' 8 c.toNat

/-- One letter of a quoted text.  Half a surrogate pair is always escaped. -/
def quotedLetter (quote : Char) : Letter → List Char
  | .char c => quotedChar quote c
  | letter => hexEscape 'u' 4 letter.code

/-- The characters of a quoted text. -/
def quotedChars (text : Text) : List Char :=
  let quote := quoteFor text.chars
  quote :: (text.letters.flatMap (quotedLetter quote) ++ [quote])

/-- The quoted form of a text. -/
def quoted (text : Text) : String := String.ofList text.quotedChars

end ChipEight.Text
