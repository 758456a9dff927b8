import ChipEight.Text.Integer
import ChipEight.Text.Utf8
import ChipEight.Yaml.Block
import ChipEight.Yaml.Quoted

/-!
# Tokens

The tokens of a YAML document are its indicators and scalars, together with the starts
and ends of the collections that only indentation shows.  This module holds the tokens
and the ways to read a name, a tag and a directive.
-/

namespace ChipEight.Yaml

/-- A line that starts with a percent sign before a document. -/
inductive Directive where
  /-- The version of the format. -/
  | version (major : Int)
  /-- An abbreviation for the start of tags. -/
  | abbreviation (handle start : List Char)
  | other
  deriving DecidableEq, Repr

/-- A tag as it is written: an abbreviated start, if any, and the rest. -/
structure WrittenTag where
  handle : Option (List Char)
  suffix : List Char
  deriving DecidableEq, Repr

/-- A token. -/
inductive Token where
  | directive (d : Directive)
  | documentStart
  | documentEnd
  | blockSequenceStart
  | blockMappingStart
  | blockEnd
  | flowSequenceStart
  | flowSequenceEnd
  | flowMappingStart
  | flowMappingEnd
  | blockEntry
  | flowEntry
  | key
  | value
  | alias (name : List Char)
  | anchor (name : List Char)
  | tag (written : WrittenTag)
  | scalar (isPlain : Bool) (text : Text)
  deriving DecidableEq, Repr

/-! ## Names -/

/-- Reads a name that is not empty. -/
def readName : Scan (List Char) := do
  let name ← Scan.span isNameChar
  if name.isEmpty then throw .malformed else return name

/-- Whether the name of an anchor or alias may end before a character. -/
def endsAnchor (next : Option Char) : Bool :=
  endsWord next || next.any "?:,]\x7d%@\x60".toList.contains

/-- Reads the name of an anchor or alias after its indicator. -/
def readAnchor : Scan (List Char) := do
  Scan.pass 1
  let name ← readName
  if endsAnchor (← Scan.peek) then return name else throw .malformed

/-! ## Tags -/

/-- The characters of tags apart from the percent sign. -/
def isTagChar (c : Char) : Bool :=
  c.isAlphanum || "-;/?:@&=+$,_.!~*'()[]".toList.contains c

/-- Reads bytes written as a percent sign and two digits each. -/
def escapedBytes : Nat → Scan (List UInt8)
  | 0 => throw .malformed
  | fuel + 1 => do
      if ← Scan.isAt '%' then
        Scan.pass 1
        let byte ← readHex 2 0 0
        Scan.pass 2
        return UInt8.ofNat byte :: (← escapedBytes fuel)
      else return []

/-- Reads the characters of a tag. -/
def tagChars : Nat → Scan (List Char)
  | 0 => throw .malformed
  | fuel + 1 => do
      let run ← Scan.span isTagChar
      if ← Scan.isAt '%' then
        match Text.ofUtf8 (← escapedBytes (← Scan.fuel)) with
        | .error _ => throw .malformed
        | .ok text => return run ++ text ++ (← tagChars fuel)
      else return run

/-- Reads the characters of a tag, at least one. -/
def readTagChars : Scan (List Char) := do
  let chars ← tagChars (← Scan.fuel)
  if chars.isEmpty then throw .malformed else return chars

/-- Reads an abbreviated start: one exclamation mark, or a name between two. -/
def readHandle : Scan (List Char) := do
  unless ← Scan.isAt '!' do throw .malformed
  if (← Scan.peekAt 1) == some ' ' then
    Scan.pass 1
    return ['!']
  else
    Scan.pass 1
    let name ← Scan.span isNameChar
    if ← Scan.isAt '!' then
      Scan.pass 1
      return '!' :: name ++ ['!']
    else throw .malformed

/-- Whether a second exclamation mark stands in the word at the cursor. -/
def hasHandle : Scan Bool := do
  let word := (← get).rest.tail.takeWhile fun c => !(c == ' ' || c == '!' || isBreak c)
  return (← Scan.peekAt (word.length + 1)) == some '!'

/-- Reads a tag. -/
def readTag : Scan WrittenTag := do
  let next ← Scan.peekAt 1
  let written ←
    if next == some '<' then do
      Scan.pass 2
      let chars ← readTagChars
      unless ← Scan.isAt '>' do throw .malformed
      Scan.pass 1
      pure (⟨none, chars⟩ : WrittenTag)
    else if endsWord next then do
      Scan.pass 1
      pure ⟨none, ['!']⟩
    else do
      let named ← hasHandle
      let handle ←
        if named then readHandle
        else do
          Scan.pass 1
          pure ['!']
      pure ⟨some handle, ← readTagChars⟩
  if endsField (← Scan.peek) then return written else throw .malformed

/-! ## Directives -/

/-- Reads a natural number. -/
def readNumber : Scan Int := do
  unless (← Scan.peek).any Char.isDigit do throw .malformed
  let digits := (← get).rest.takeWhile Char.isDigit
  Scan.ask (digits.length + 1)
  let text := Text.ofChars digits
  match Integer.read 10 text with
  | some n =>
      Scan.pass digits.length
      return n
  | none => throw (.badValue (Integer.complaint 10 text))

/-- Reads the version after its directive's name. -/
def readVersion : Scan Directive := do
  Scan.skipSpaces
  let major ← readNumber
  unless ← Scan.isAt '.' do throw .malformed
  Scan.pass 1
  let _ ← readNumber
  if endsField (← Scan.peek) then return .version major else throw .malformed

/-- Reads the abbreviation after its directive's name. -/
def readAbbreviation : Scan Directive := do
  Scan.skipSpaces
  let handle ← readHandle
  unless ← Scan.isAt ' ' do throw .malformed
  Scan.skipSpaces
  let start ← readTagChars
  if endsField (← Scan.peek) then return .abbreviation handle start else throw .malformed

/-- Reads a directive and the rest of its line. -/
def readDirective : Scan Directive := do
  Scan.pass 1
  let name ← readName
  unless endsField (← Scan.peek) do throw .malformed
  let directive ←
    if name == "YAML".toList then readVersion
    else if name == "TAG".toList then readAbbreviation
    else do
      Scan.skip (!isBreak ·)
      pure .other
  endLine
  return directive

end ChipEight.Yaml
