import ChipEight.Yaml.Cursor

/-!
# Block scalars

A scalar in block form holds the lines that follow its header and are indented by the
same amount.  In the literal form they stand for themselves; in the folded form a break
between two lines that do not start with white space counts as a space.  The header can
fix the amount of indentation and tell what to do with the breaks at the end.
-/

namespace ChipEight.Yaml

/-- What happens to the breaks at the end of a block scalar. -/
inductive Chomping where
  /-- One break is kept. -/
  | clip
  /-- No break is kept. -/
  | strip
  /-- All breaks are kept. -/
  | keep
  deriving DecidableEq, Repr

/-- The chomping that a sign stands for. -/
def chompingSign? : Option Char → Option Chomping
  | some '+' => some .keep
  | some '-' => some .strip
  | _ => none

/-- Passes a chomping sign, if there is one. -/
def readChomping : Scan (Option Chomping) := do
  match chompingSign? (← Scan.peek) with
  | some chomping =>
      Scan.pass 1
      return some chomping
  | none => return none

/-- Passes a digit of indentation, if there is one.  It is not zero. -/
def readIncrement : Scan (Option Nat) := do
  match (← Scan.peek).filter Char.isDigit with
  | some digit =>
      if digit == '0' then throw .malformed
      Scan.pass 1
      return some (digit.toNat - 48)
  | none => return none

/-- Reads the chomping and the indentation that a header gives, in either order. -/
def readIndicators : Scan (Chomping × Option Nat) := do
  let first ← readChomping
  let increment ← readIncrement
  let second ← if first.isNone && increment.isSome then readChomping else pure none
  unless endsField (← Scan.peek) do throw .malformed
  return ((first <|> second).getD .clip, increment)

/-- Passes the rest of a line that may hold nothing but a comment. -/
def endLine : Scan Unit := do
  Scan.skipSpaces
  Scan.skipComment
  unless endsLine (← Scan.peek) do throw .malformed
  let _ ← Scan.break?

/-- Passes the empty lines at the start of a block scalar, and gives them and the widest
run of spaces. -/
def leadingBreaks (widest : Nat) : Nat → Scan (List Char × Nat)
  | 0 => return ([], widest)
  | fuel + 1 => do
      Scan.skipSpaces
      let widest := max widest (← get).column
      match ← Scan.break? with
      | none => return ([], widest)
      | some char =>
          let (more, widest) ← leadingBreaks widest fuel
          return (char :: more, widest)

/-- Passes the empty lines at the cursor and the indentation after them. -/
def blockBreaks (indent : Nat) : Nat → Scan (List Char)
  | 0 => return []
  | fuel + 1 => do
      Scan.skipTo indent
      match ← Scan.break? with
      | none => return []
      | some char => return char :: (← blockBreaks indent fuel)

/-- The break or breaks between two lines. -/
def between (fold : Bool) (first : List Char) (more : List Char) : List Char :=
  if fold then (if more.isEmpty then [' '] else more) else first ++ more

/-- The breaks at the end. -/
def chomped (chomping : Chomping) (first more : List Char) : List Char :=
  match chomping with
  | .clip => first
  | .strip => []
  | .keep => first ++ more

/-- Whether a line of a block scalar starts with white space. -/
def startsBlank : Scan Bool := do
  let next ← Scan.peek
  return next == some ' ' || next == some '\t'

/-- Whether another line of a block scalar comes next. -/
def hasLine (indent : Nat) : Scan Bool := do
  if (← get).column = indent then return (← Scan.peek).isSome else return false

/-- Reads the lines of a block scalar from the first one on. -/
def blockLines (foldLines : Bool) (chomping : Chomping) (indent : Nat) : Nat → Scan (List Char)
  | 0 => return []
  | fuel + 1 => do
      let solid := !(← startsBlank)
      let line ← Scan.span (!isBreak ·)
      let first := (← Scan.break?).toList
      let more ← blockBreaks indent (← Scan.fuel)
      if ← hasLine indent then
        let fold := foldLines && first == ['\n'] && solid && !(← startsBlank)
        return line ++ between fold first more ++ (← blockLines foldLines chomping indent fuel)
      else return line ++ chomped chomping first more

/-- Reads a block scalar from its indicator on.  Its lines are indented by one column
more than the collection around it, at least. -/
def readBlock (foldLines : Bool) (least : Nat) : Scan (List Char) := do
  Scan.pass 1
  let (chomping, increment) ← readIndicators
  endLine
  let fuel ← Scan.fuel
  let (breaks, indent) ←
    match increment with
    | some extra =>
        let indent := least + extra - 1
        pure (← blockBreaks indent fuel, indent)
    | none =>
        let (breaks, widest) ← leadingBreaks 0 fuel
        pure (breaks, max least widest)
  if ← hasLine indent then
    return breaks ++ (← blockLines foldLines chomping indent fuel)
  else return chomped chomping [] breaks

end ChipEight.Yaml
