import ChipEight.Text.Hex
import ChipEight.Yaml.Cursor
import ChipEight.Yaml.Kind
import ChipEight.Yaml.Page

/-!
# Styles of texts

A text stands as it is where that cannot be misread, in single quotes where these suffice,
and otherwise in double quotes.  Long texts are folded between words; in double quotes
they can also be folded next to an escape.
-/

namespace ChipEight.Yaml

/-- A character with its neighbours, or the end of the text in their place. -/
structure Placed where
  before : Option Char
  char : Char
  after : Option Char

/-- The characters of a text with their neighbours. -/
def placed (before : Option Char) : List Char → List Placed
  | [] => []
  | c :: rest => ⟨before, c, rest.head?⟩ :: placed (some c) rest

/-- Whether a character at its place would be taken for an indicator. -/
def isIndicator (p : Placed) : Bool :=
  match p.before with
  | none =>
      "#,[]\x7b\x7d&*!|>'\"%@\x60".toList.contains p.char ||
        ((p.char == '?' || p.char == ':' || p.char == '-') && endsWord p.after)
  | some before =>
      (p.char == ':' && endsWord p.after) || (p.char == '#' && endsWord (some before))

/-- Whether a character can only be written as an escape. -/
def isSpecial (c : Char) : Bool :=
  !(c == '\n' || (' ' ≤ c && c ≤ '~'))

/-- Whether a space and a break come together. -/
def joins (first second : Char → Bool) (p : Placed) : Bool :=
  first p.char && p.after.any second

/-- The ways to write a text. -/
inductive Style where
  | plain
  | single
  | double
  deriving DecidableEq, Repr

namespace Style

/-- The simplest way to write a text so that it is read as the same text. -/
def ofText (text : Text) : Style :=
  let chars := text.chars
  let places := placed none chars
  let isSpace (c : Char) : Bool := c == ' '
  let marked := chars.take 3 == ['-', '-', '-'] || chars.take 3 == ['.', '.', '.']
  let loose := chars.head?.any isSpace || chars.getLast?.any isSpace
  if chars.any isSpecial || places.any (joins isSpace isBreak) || places.any (joins isBreak isSpace)
  then .double
  else if Kind.ofText text == .string && !marked && !loose && !chars.any isBreak &&
      !places.any isIndicator then .plain
  else .single

end Style

/-! ## Runs -/

/-- The runs of a text: spaces, line feeds, and what stands between them. -/
def runsOf (chars : List Char) : List (List Char) :=
  chars.splitBy fun a b => (a == ' ') == (b == ' ') && (a == '\n') == (b == '\n')

/-- The place and the freedom of a text on the page: the column of its further lines, and
whether it may have any. -/
structure Fold where
  column : Nat
  isAllowed : Bool

namespace Page

/-- Writes a text as it is.  A long line is broken at a single space. -/
def putPlain (p : Page) (fold : Fold) (chars : List Char) : Page :=
  (runsOf chars).foldl (fun p run =>
    if run == [' '] && p.isFull && fold.isAllowed then (p.toColumn fold.column).inWords
    else p.put run) p

/-- Writes what stands in single quotes.  A quote is doubled.  A long line is broken at a
single space that is neither the first nor the last character.  Reading takes away one of
several line feeds, so one is added to each run of them. -/
def putSingle (p : Page) (fold : Fold) (isFirst : Bool) : List (List Char) → Page
  | [] => p
  | run :: rest =>
      let canFold := p.isFull && fold.isAllowed && !isFirst && !rest.isEmpty
      let p :=
        if run.head? == some '\n' then
          (run.foldl (fun p _ => p.breakLine) p.breakLine).toColumn fold.column
        else if run == [' '] && canFold then p.toColumn fold.column
        else p.put (run.flatMap fun c => if c == '\'' then [c, c] else [c])
      putSingle p fold false rest

end Page

/-! ## Escapes -/

/-- The escape of a letter in double quotes. -/
def escape : Letter → List Char
  | .char '\x00' => ['0']
  | .char '\x07' => ['a']
  | .char '\x08' => ['b']
  | .char '\t' => ['t']
  | .char '\n' => ['n']
  | .char '\x0b' => ['v']
  | .char '\x0c' => ['f']
  | .char '\r' => ['r']
  | .char '\x1b' => ['e']
  | .char '"' => ['"']
  | .char '\\' => ['\\']
  | .char '\u0085' => ['N']
  | .char '\u00a0' => ['_']
  | .char '\u2028' => ['L']
  | .char '\u2029' => ['P']
  | letter =>
      let digits (mark : Char) (width : Nat) : List Char :=
        mark :: (Hex.upper width letter.code).toList
      if letter.code ≤ 0xFF then digits 'x' 2
      else if letter.code ≤ 0xFFFF then digits 'u' 4
      else digits 'U' 8

/-- The character that a letter is, if it can stand in double quotes. -/
def literal? : Letter → Option Char
  | .char c => if c == '"' || c == '\\' || c == '\n' || isSpecial c then none else some c
  | .half _ => none

namespace Page

/-- Breaks a line in double quotes before a letter.  A space at the start of the new line
is marked. -/
def foldDouble (p : Page) (fold : Fold) (next : Option Letter) : Page :=
  let p := ((p.put ['\\']).toColumn fold.column).inWords
  if next == some (.char ' ') then p.put ['\\'] else p

/-- Writes what stands in double quotes.  A long line is broken before a space or next to
an escape, but not next to the quotes.  Behind an escape it may be one column longer than
elsewhere. -/
def putDouble (p : Page) (fold : Fold) (isFirst afterEscape : Bool) : List Letter → Page
  | [] => p
  | letter :: rest =>
      let isInner := fold.isAllowed && !isFirst && !rest.isEmpty
      match literal? letter with
      | some c =>
          let p :=
            if isInner && (c == ' ' || afterEscape) && p.isFull then p.foldDouble fold (some letter)
            else p
          putDouble (p.put [c]) fold false false rest
      | none =>
          let p := p.put ('\\' :: escape letter)
          let isFull := width + 1 < p.column
          let p := if isInner && isFull then p.foldDouble fold rest.head? else p
          putDouble p fold false true rest

/-- Writes a text in a style. -/
def putText (p : Page) (fold : Fold) (text : Text) : Style → Page
  | .plain => (if p.spaced then p else p.put [' ']).inWords.putPlain fold text.chars
  | .single => (putSingle (p.word ['\'']) fold true (runsOf text.chars)).close ['\'']
  | .double => (putDouble (p.word ['"']) fold true false text.letters).close ['"']

end Page

end ChipEight.Yaml
