import ChipEight.Text.Hex
import ChipEight.Text.Letter
import ChipEight.Yaml.Plain

/-!
# Quoted scalars

A scalar in single quotes stands for itself, with a doubled quote for a quote.  In
double quotes a backslash starts an escape, which can spell any letter.  In both a break
between two words counts as a space, and further breaks after it are kept.
-/

namespace ChipEight.Yaml

/-- The character that an escape of one character stands for. -/
def escaped? : Char → Option Char
  | '0' => some '\x00'
  | 'a' => some '\x07'
  | 'b' => some '\x08'
  | 't' | '\t' => some '\t'
  | 'n' => some '\n'
  | 'v' => some '\x0b'
  | 'f' => some '\x0c'
  | 'r' => some '\r'
  | 'e' => some '\x1b'
  | ' ' => some ' '
  | '"' => some '"'
  | '\\' => some '\\'
  | '/' => some '/'
  | 'N' => some '\u0085'
  | '_' => some '\u00a0'
  | 'L' => some '\u2028'
  | 'P' => some '\u2029'
  | _ => none

/-- The number of hexadecimal digits after the letter of an escape. -/
def escapeWidth? : Char → Option Nat
  | 'x' => some 2
  | 'u' => some 4
  | 'U' => some 8
  | _ => none

/-- The letters that some characters are. -/
def letters (chars : List Char) : List Letter := chars.map .char

/-- The letter with a given number. -/
def letterOf (code : Nat) : Except Problem Letter :=
  match Letter.ofCode? code with
  | some letter => .ok letter
  | none =>
      if code < 0x80000000 then .error (.badValue "chr() arg not in range(0x110000)")
      else .error .tooLarge

/-- Passes so many hexadecimal digits, and gives the number that they spell. -/
def readHex : Nat → Nat → Nat → Scan Nat
  | 0, _, value => return value
  | count + 1, distance, value => do
      match (← Scan.peekAt distance).bind Hex.digitValue? with
      | some digit => readHex count (distance + 1) (16 * value + digit)
      | none => throw .malformed

/-- The breaks after a first one.  A mark between documents may not follow. -/
def quotedBreaks : Nat → Scan (List Char)
  | 0 => throw .malformed
  | fuel + 1 => do
      if ← Scan.isDocumentMark then throw .malformed
      Scan.skip fun char => char == ' ' || char == '\t'
      match ← Scan.break? with
      | none => return []
      | some char => return char :: (← quotedBreaks fuel)

/-- Reads an escape after its backslash. -/
def quotedEscape : Scan (List Letter) := do
  match ← Scan.peek with
  | none => throw .malformed
  | some char =>
      match escaped? char, escapeWidth? char with
      | some meaning, _ =>
          Scan.pass 1
          return [.char meaning]
      | none, some width =>
          Scan.pass 1
          let letter ← letterOf (← readHex width 0 0)
          Scan.pass width
          return [letter]
      | none, none =>
          match ← Scan.break? with
          | some _ => return letters (← quotedBreaks (← Scan.fuel))
          | none => throw .malformed

/-- The characters that need no attention inside quotes. -/
def isQuotedPlain (c : Char) : Bool :=
  !(c == '\'' || c == '"' || c == '\\' || c == ' ' || c == '\t' || isBreak c)

/-- Reads white space inside quotes. -/
def quotedSpace : Scan (List Char) := do
  let blanks ← Scan.span fun char => char == ' ' || char == '\t'
  if (← Scan.peek).isNone then throw .malformed
  match ← Scan.break? with
  | some char => return folded char (← quotedBreaks (← Scan.fuel))
  | none => return blanks

/-- Passes a doubled quote, and tells whether there was one. -/
def passDoubled : Scan Bool := do
  if (← Scan.peekAt 1) == some '\'' then
    Scan.pass 2
    return true
  else return false

/-- Reads the content of a scalar up to its closing quote, and passes the quote. -/
def quotedContent (double : Bool) : Nat → Scan (List Letter)
  | 0 => throw .malformed
  | fuel + 1 => do
      let run ← Scan.span isQuotedPlain
      match ← Scan.peek with
      | none => throw .malformed
      | some '\'' =>
          if double then
            Scan.pass 1
            return letters run ++ .char '\'' :: (← quotedContent double fuel)
          else if ← passDoubled then return letters run ++ .char '\'' :: (← quotedContent double fuel)
          else
            Scan.pass 1
            return letters run
      | some '"' =>
          Scan.pass 1
          if double then return letters run
          else return letters run ++ .char '"' :: (← quotedContent double fuel)
      | some '\\' =>
          Scan.pass 1
          let part ← if double then quotedEscape else pure [.char '\\']
          return letters run ++ part ++ (← quotedContent double fuel)
      | some _ =>
          let space ← quotedSpace
          return letters (run ++ space) ++ (← quotedContent double fuel)

/-- Reads a quoted scalar from its opening quote on. -/
def readQuoted (double : Bool) : Scan Text := do
  Scan.pass 1
  return ⟨← quotedContent double (← Scan.fuel)⟩

end ChipEight.Yaml
