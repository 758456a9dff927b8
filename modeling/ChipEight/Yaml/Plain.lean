import ChipEight.Yaml.Cursor

/-!
# Plain scalars

A scalar without quotes ends where its text could mean something else: at a colon
before white space, at a comment, and inside brackets at a bracket, comma or question
mark.  It may go on over several lines as long as they are indented more than the
collection around it.
-/

namespace ChipEight.Yaml

/-- The brackets and the comma, which end a plain scalar inside brackets. -/
def isFlowMark (c : Char) : Bool :=
  c == ',' || c == '[' || c == ']' || c == '\x7b' || c == '\x7d'

/-- Whether a plain scalar ends before a character, apart from a colon. -/
def endsPlain (inFlow : Bool) (c : Char) : Bool :=
  c == ' ' || c == '\t' || isBreak c || (inFlow && (isFlowMark c || c == '?'))

/-- Whether a colon before the given character ends a plain scalar. -/
def endsKey (inFlow : Bool) (next : Option Char) : Bool :=
  endsWord next || (inFlow && next.any isFlowMark)

/-- The characters of a plain scalar up to white space or its end. -/
def plainRun (inFlow : Bool) : List Char → List Char
  | [] => []
  | c :: rest =>
      if endsPlain inFlow c || (c == ':' && endsKey inFlow rest.head?) then []
      else c :: plainRun inFlow rest

/-- Passes the characters of a plain scalar up to white space or its end. -/
def readPlainRun (inFlow : Bool) : Scan (List Char) := do
  let run := plainRun inFlow (← get).rest
  if (← Scan.peekAt run.length) == some ':' then Scan.ask (run.length + 2)
  unless run.isEmpty do Scan.pass run.length
  return run

/-- The breaks after a first one, with the spaces around them.  Nothing is said if a
mark between documents follows. -/
def plainBreaks : Nat → Scan (Option (List Char))
  | 0 => return none
  | fuel + 1 => do
      Scan.skipSpaces
      match ← Scan.break? with
      | none => return some []
      | some char =>
          if ← Scan.isDocumentMark then return none
          else return (← plainBreaks fuel).map (char :: ·)

/-- A run of breaks as it appears in a scalar: a single line feed becomes a space. -/
def folded (first : Char) (more : List Char) : List Char :=
  if first != '\n' then first :: more
  else if more.isEmpty then [' ']
  else more

/-- Passes the white space after a word, and gives it as it appears in the scalar if
another word follows, and whether a line was ended. -/
def plainSpace : Scan (List Char × Bool) := do
  let spaces ← Scan.span (· == ' ')
  match ← Scan.break? with
  | none => return (spaces, false)
  | some char =>
      if ← Scan.isDocumentMark then return ([], true)
      else
        match ← plainBreaks (← Scan.fuel) with
        | none => return ([], true)
        | some more => return (folded char more, true)

/-- Whether the line at the cursor belongs to a collection further out. -/
def isOutside (inFlow : Bool) (column : Int) : Scan Bool :=
  return !inFlow && (← get).column < column

/-- Reads the words of a plain scalar after the given white space, and whether a line was
ended after the last.  In a block the words after the first have to stand at the given
column or behind it. -/
def readWords (inFlow : Bool) (column : Int) (space : List Char) (broken : Bool) :
    Nat → Scan (List Char × Bool)
  | 0 => return ([], broken)
  | fuel + 1 => do
      if ← Scan.isAt '#' then return ([], broken)
      let word ← readPlainRun inFlow
      if word.isEmpty then return ([], broken)
      let (next, broken) ← plainSpace
      if next.isEmpty then return (space ++ word, broken)
      if ← isOutside inFlow column then return (space ++ word, broken)
      let (more, broken) ← readWords inFlow column next broken fuel
      return (space ++ word ++ more, broken)

/-- Reads a plain scalar, and whether a line was ended after it. -/
def readPlain (inFlow : Bool) (column : Int) : Scan (List Char × Bool) := do
  readWords inFlow column [] false (← Scan.fuel)

end ChipEight.Yaml
