/-!
# Texts

A text is a sequence of letters.  A letter is a character, or one half of a surrogate
pair that stands alone: such a half is no character, but an escape can spell it, and it
has to stay what it is until the text is shown.
-/

namespace ChipEight

/-- A character, or one half of a surrogate pair. -/
inductive Letter where
  | char (c : Char)
  | half (unit : Fin 0x800)
  deriving DecidableEq, Repr, Inhabited

namespace Letter

/-- The number of a letter. -/
def code : Letter → Nat
  | char c => c.toNat
  | half unit => 0xD800 + unit.val

/-- The letter with a given number. -/
def ofCode? (code : Nat) : Option Letter :=
  if valid : code.isValidChar then some (char (Char.ofNatAux code valid))
  else if half : code - 0xD800 < 0x800 ∧ 0xD800 ≤ code then some (.half ⟨code - 0xD800, half.1⟩)
  else none

/-- The letter as a character.  Half a pair becomes the character that stands for what
cannot be shown. -/
def toChar : Letter → Char
  | char c => c
  | half _ => '\uFFFD'

/-- Whether a letter is half a surrogate pair. -/
def isHalf : Letter → Bool
  | char _ => false
  | half _ => true

/-- The character that a letter is. -/
def char? : Letter → Option Char
  | char c => some c
  | half _ => none

end Letter

/-- A text. -/
structure Text where
  letters : List Letter
  deriving DecidableEq, Repr, Inhabited

namespace Text

/-- The text of some characters. -/
def ofChars (chars : List Char) : Text := ⟨chars.map .char⟩

/-- The text of a string. -/
def ofString (s : String) : Text := ofChars s.toList

instance : Coe String Text := ⟨ofString⟩

instance : Append Text := ⟨fun s t => ⟨s.letters ++ t.letters⟩⟩

/-- The characters of a text, if it has no other letters. -/
def chars? (t : Text) : Option (List Char) := t.letters.mapM Letter.char?

/-- The text as a string, if all its letters are characters. -/
def toString? (t : Text) : Option String := t.chars?.map String.ofList

/-- The characters of a text, with a stand-in for every other letter. -/
def chars (t : Text) : List Char := t.letters.map Letter.toChar

/-- The number of letters. -/
def length (t : Text) : Nat := t.letters.length

/-- Whether there are no letters. -/
def isEmpty (t : Text) : Bool := t.letters.isEmpty

/-- The parts of a text between line feeds. -/
def lines (t : Text) : List Text :=
  (t.letters.splitOn (.char '\n')).map Text.mk

end Text

end ChipEight
