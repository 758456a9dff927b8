import ChipEight.Text.Loading
import ChipEight.Yaml.Problem

/-!
# Places in a text

A cursor is a place in a text: the characters after it, how many came before it, and
the line and column on which it stands.  The layout of a YAML document depends on all
of them.  Lines end in one break character; the end of the text behaves like a break
that cannot be passed.

A text is loaded part by part, so a cursor also knows what stands behind the characters
that could be loaded: the end of the text, or a problem, which shows as soon as a
character behind them is asked for.
-/

namespace ChipEight.Yaml

/-- A place in a text. -/
structure Cursor where
  rest : List Char
  /-- The number of characters after the cursor. -/
  left : Nat
  index : Nat
  line : Nat
  column : Nat
  /-- What keeps further characters from being loaded. -/
  wall : Option Problem

/-- The characters that a document may hold. -/
def isPermitted (c : Char) : Bool :=
  let code := c.toNat
  code == 0x09 || code == 0x0A || code == 0x0D || (0x20 ≤ code && code ≤ 0x7E) || code == 0x85 ||
    (0xA0 ≤ code && code ≤ 0xD7FF) || (0xE000 ≤ code && code ≤ 0xFFFD) || 0x10000 ≤ code

/-- The characters that can be loaded, and what stands behind them.  The first two parts
of a file are loaded together. -/
def loadable : List (List Char) → Option Problem → List Char × Option Problem
  | [], wall => ([], wall)
  | part :: parts, wall =>
      if part.all isPermitted then
        let (rest, wall) := loadable parts wall
        (part ++ rest, wall)
      else ([], some .malformed)

/-- The parts of a file with the first two joined.  A file whose second part cannot be
decoded has no part that can be loaded. -/
def joinFirst (undecodable : Bool) : List (List Char) → List (List Char)
  | first :: second :: parts => (first ++ second) :: parts
  | [part] => if undecodable then [] else [part]
  | [] => []

/-- The start of a file. -/
def Cursor.start (bytes : List UInt8) : Cursor :=
  let (parts, fault) := Text.partsOf bytes
  let (rest, wall) := loadable (joinFirst fault.isSome parts) (fault.map .undecodable)
  { rest := rest, left := rest.length, index := 0, line := 0, column := 0, wall := wall }

/-! ## Classes of characters -/

/-- The characters that end a line. -/
def isBreak (c : Char) : Bool :=
  c == '\n' || c == '\u0085' || c == '\u2028' || c == '\u2029'

/-- A break, or the end of the text. -/
def endsLine : Option Char → Bool
  | none => true
  | some c => isBreak c

/-- A space, a break, or the end of the text. -/
def endsField : Option Char → Bool
  | none => true
  | some c => c == ' ' || isBreak c

/-- A space, a tab, a break, or the end of the text. -/
def endsWord : Option Char → Bool
  | none => true
  | some c => c == ' ' || c == '\t' || isBreak c

/-- The characters of names: ASCII letters and digits, hyphen and underscore. -/
def isNameChar (c : Char) : Bool :=
  c.isAlphanum || c == '-' || c == '_'

/-! ## Moving on -/

namespace Cursor

/-- The place one character further on.  A byte order mark takes no column. -/
def next (c : Cursor) : Cursor :=
  match c.rest with
  | [] => c
  | char :: rest =>
      let c := { c with rest := rest, left := c.left - 1, index := c.index + 1 }
      if isBreak char then { c with line := c.line + 1, column := 0 }
      else if char == '\uFEFF' then c
      else { c with column := c.column + 1 }

/-- The place some characters further on. -/
def advance (c : Cursor) : Nat → Cursor
  | 0 => c
  | count + 1 => c.next.advance count

end Cursor

/-- A reader of characters. -/
abbrev Scan := StateT Cursor (Except Problem)

namespace Scan

/-- Asks for some characters after the cursor. -/
def ask (count : Nat) : Scan Unit := fun c =>
  match c.wall with
  | none => .ok ((), c)
  | some problem => if c.left < count then .error problem else .ok ((), c)

/-- The character some places after the cursor. -/
def peekAt (distance : Nat) : Scan (Option Char) := do
  ask (distance + 1)
  return (← get).rest[distance]?

/-- The character after the cursor. -/
def peek : Scan (Option Char) := peekAt 0

/-- Whether the given character comes next. -/
def isAt (char : Char) : Scan Bool := return (← peek) == some char

/-- The next characters, up to the given number. -/
def ahead (count : Nat) : Scan (List Char) := do
  ask count
  return (← get).rest.take count

/-- Passes some characters.  The one behind them is asked for as well. -/
def pass (count : Nat) : Scan Unit := do
  ask (count + 1)
  modify (·.advance count)

/-- Passes the characters up to the first that fails a test. -/
def span (test : Char → Bool) : Scan (List Char) := do
  let run := (← get).rest.takeWhile test
  pass run.length
  return run

/-- Passes the characters that pass a test. -/
def skip (test : Char → Bool) : Scan Unit := do
  let _ ← span test

/-- Passes any spaces. -/
def skipSpaces : Scan Unit := skip (· == ' ')

/-- Passes spaces until the given column is reached. -/
def skipTo (column : Nat) : Scan Unit := do
  let c ← get
  if c.column < column then
    let spaces := (c.rest.takeWhile (· == ' ')).length
    pass (min spaces (column - c.column))

/-- Passes a comment, if there is one. -/
def skipComment : Scan Unit := do
  if ← isAt '#' then skip (!isBreak ·)

/-- Passes a break, if there is one, and gives it as it appears in a scalar: the breaks of
ASCII all appear as a line feed. -/
def break? : Scan (Option Char) := do
  match ← peek with
  | some char =>
      if char == '\n' || char == '\u0085' then
        pass 1
        return some '\n'
      else if isBreak char then
        pass 1
        return some char
      else return none
  | none => return none

/-- Whether a mark of three characters, which ends or starts a document, comes next. -/
def isMark (marks : List (List Char)) : Scan Bool := do
  if marks.contains (← ahead 3) then return endsWord (← peekAt 3) else return false

/-- Whether either of the marks between documents comes next. -/
def isDocumentMark : Scan Bool := isMark [['-', '-', '-'], ['.', '.', '.']]

/-- The number of steps that suffice to read to the end of the text. -/
def fuel : Scan Nat := return (← get).left + 1

end Scan

end ChipEight.Yaml
