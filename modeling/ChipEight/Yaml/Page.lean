/-!
# Pages

A document is written from left to right onto a page.  The page knows its last column, so
that long lines can be broken, and what stands on its last line, so that indicators which
follow each other share a line.
-/

namespace ChipEight.Yaml

/-- What has been written so far. -/
structure Page where
  text : String := ""
  column : Nat := 0
  /-- Whether a word can follow without a space. -/
  spaced : Bool := true
  /-- Whether only spaces and the indicators of nested collections stand on the line. -/
  fresh : Bool := true
  deriving Repr, Inhabited

namespace Page

/-- Lines are broken at the first opportunity behind this column. -/
def width : Nat := 80

/-- Whether a line is long enough to be broken. -/
def isFull (p : Page) : Bool := width < p.column

/-- Writes characters inside a word. -/
def put (p : Page) (chars : List Char) : Page :=
  { p with text := chars.foldl String.push p.text, column := p.column + chars.length }

/-- Ends the line. -/
def breakLine (p : Page) : Page := { text := p.text.push '\n' }

/-- Goes to a column, on a new line unless the last one can be gone on with. -/
def toColumn (p : Page) (column : Nat) : Page :=
  let isTaken := !p.fresh || column < p.column || (p.column == column && !p.spaced)
  let p := if isTaken then p.breakLine else p
  if p.column < column then
    { p.put (List.replicate (column - p.column) ' ') with spaced := true }
  else p

/-- A page on which words have been written on the last line. -/
def inWords (p : Page) : Page := { p with spaced := false, fresh := false }

/-- Writes a word after a space. -/
def word (p : Page) (chars : List Char) : Page :=
  (p.put (if p.spaced then chars else ' ' :: chars)).inWords

/-- Writes the indicator of a nested collection after a space. -/
def indicate (p : Page) (indicator : Char) : Page :=
  { p.put (if p.spaced then [indicator] else [' ', indicator]) with spaced := false }

/-- Writes characters directly after a word. -/
def close (p : Page) (chars : List Char) : Page := (p.put chars).inWords

end Page

end ChipEight.Yaml
