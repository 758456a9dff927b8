import ChipEight.Text.Letter

/-!
# Kinds of scalars and collections

A tag names the kind of a node.  A plain scalar without a tag has the kind that its
text shows: a truth value, a number, a date, nothing at all, and otherwise a text.
-/

namespace ChipEight.Yaml

/-- The kinds of nodes. -/
inductive Kind where
  | null
  | bool
  | int
  | float
  | moment
  | string
  /-- A byte string, written in base 64. -/
  | binary
  | sequence
  | mapping
  /-- A map in which only the keys count. -/
  | set
  /-- A sequence of maps of one entry each. -/
  | pairs
  /-- The key under which another map is merged. -/
  | merge
  /-- The key of a default value. -/
  | default
  /-- A kind that is not known here. -/
  | unknown
  deriving DecidableEq, Repr, Inhabited

namespace Kind

/-- The start of the tags of the known kinds. -/
def start : String := "tag:yaml.org,2002:"

/-- The kind that a tag names. -/
def ofTag (tag : List Char) : Kind :=
  match ((tag.take start.length == start.toList : Bool), String.ofList (tag.drop start.length)) with
  | (true, "null") => null
  | (true, "bool") => bool
  | (true, "int") => int
  | (true, "float") => float
  | (true, "timestamp") => moment
  | (true, "str") => string
  | (true, "binary") => binary
  | (true, "seq") => sequence
  | (true, "map") => mapping
  | (true, "set") => set
  | (true, "omap") | (true, "pairs") => pairs
  | (true, "merge") => merge
  | (true, "value") => default
  | _ => unknown

/-- Whether the nodes of a kind have nodes inside. -/
def isCollection : Kind → Bool
  | sequence | mapping | set | pairs => true
  | _ => false

/-! ## Truth values and nothing -/

/-- The words for true. -/
def trueWords : List String :=
  ["yes", "Yes", "YES", "true", "True", "TRUE", "on", "On", "ON"]

/-- The words for false. -/
def falseWords : List String :=
  ["no", "No", "NO", "false", "False", "FALSE", "off", "Off", "OFF"]

/-- The words for nothing. -/
def nullWords : List String := ["", "~", "null", "Null", "NULL"]

/-! ## Numbers -/

/-- The text after an optional sign. -/
def unsigned : List Char → List Char
  | '+' :: rest | '-' :: rest => rest
  | text => text

/-- Digits that may have underscores between them. -/
def isSpaced (digit : Char → Bool) (c : Char) : Bool := digit c || c == '_'

/-- Digits of base two. -/
def isBinary (c : Char) : Bool := c == '0' || c == '1'

/-- Digits of base eight. -/
def isOctal (c : Char) : Bool := '0' ≤ c && c ≤ '7'

/-- Digits of base sixteen. -/
def isHexadecimal (c : Char) : Bool :=
  c.isDigit || ('a' ≤ c && c ≤ 'f') || ('A' ≤ c && c ≤ 'F')

/-- The parts of a text between colons. -/
def colonParts (text : List Char) : List (List Char) := text.splitOn ':'

/-- One or two digits that make a number below sixty. -/
def isSixtieth : List Char → Bool
  | [c] => c.isDigit
  | [tens, c] => '0' ≤ tens && tens ≤ '5' && c.isDigit
  | _ => false

/-- A number that starts with another digit than zero, or with any digit. -/
def isWhole (anyFirst : Bool) : List Char → Bool
  | [] => false
  | c :: rest => c.isDigit && (anyFirst || c != '0') && rest.all (isSpaced Char.isDigit)

/-- Whether a text spells an integer: in base two, eight, ten, sixteen or sixty. -/
def isInt (text : List Char) : Bool :=
  match unsigned text with
  | ['0'] => true
  | '0' :: 'b' :: digits => !digits.isEmpty && digits.all (isSpaced isBinary)
  | '0' :: 'x' :: digits => !digits.isEmpty && digits.all (isSpaced isHexadecimal)
  | '0' :: digits => !digits.isEmpty && digits.all (isSpaced isOctal)
  | digits =>
      match colonParts digits with
      | first :: rest => isWhole false first && rest.all isSixtieth
      | [] => false

/-- Whether a text is an exponent with its sign, or nothing. -/
def isExponent : List Char → Bool
  | [] => true
  | e :: sign :: digits =>
      (e == 'e' || e == 'E') && (sign == '+' || sign == '-') && !digits.isEmpty &&
        digits.all Char.isDigit
  | _ => false

/-- Whether a text is a fraction after its point, perhaps with an exponent. -/
def isFraction (text : List Char) : Bool :=
  isExponent (text.dropWhile (isSpaced Char.isDigit))

/-- Whether a text without a sign spells a float: with a point, in base ten or sixty. -/
def isPointed (text : List Char) : Bool :=
  match colonParts (text.takeWhile (· != '.')), text.dropWhile (· != '.') with
  | [whole], '.' :: fraction => isWhole true whole && isFraction fraction
  | whole :: parts, '.' :: fraction =>
      isWhole true whole && parts.all isSixtieth && fraction.all (isSpaced Char.isDigit)
  | _, _ => false

/-- The words for infinity. -/
def infinityWords : List String := [".inf", ".Inf", ".INF"]

/-- The words for what is not a number. -/
def nanWords : List String := [".nan", ".NaN", ".NAN"]

/-- Whether a text spells a float.  Without digits before the point it has no sign. -/
def isFloat (text : List Char) : Bool :=
  isPointed (unsigned text) || infinityWords.contains (String.ofList (unsigned text)) ||
    nanWords.contains (String.ofList text) ||
    match text with
    | '.' :: c :: rest => c.isDigit && isFraction (c :: rest)
    | _ => false

/-! ## Moments -/

/-- The parts of a moment as they are written. -/
structure MomentParts where
  year : List Char
  month : List Char
  day : List Char
  time : Option (List Char × List Char × List Char × List Char)
  zone : Option (Char × List Char × List Char)

/-- Splits off at least and at most so many digits. -/
def digits? (least most : Nat) (text : List Char) : Option (List Char × List Char) :=
  let run := (text.take most).takeWhile Char.isDigit
  if least ≤ run.length then some (run, text.drop run.length) else none

/-- Splits off a given character. -/
def char? (c : Char) : List Char → Option (List Char)
  | first :: rest => if first = c then some rest else none
  | [] => none

/-- The offset of a zone: its sign, hours and minutes.  A `Z` stands for no offset. -/
def zone? : List Char → Option (Option (Char × List Char × List Char))
  | [] => some none
  | ['Z'] => some (some ('Z', [], []))
  | sign :: rest =>
      if sign = '+' ∨ sign = '-' then do
        let (hours, rest) ← digits? 1 2 rest
        match rest with
        | [] => return some (sign, hours, [])
        | ':' :: rest =>
            let (minutes, rest) ← digits? 2 2 rest
            if rest.isEmpty then return some (sign, hours, minutes) else none
        | _ => none
      else none

/-- White space inside a moment. -/
def isGap (c : Char) : Bool := c == ' ' || c == '\t'

/-- The time of day after the date. -/
def time? (text : List Char) :
    Option ((List Char × List Char × List Char × List Char) ×
      Option (Char × List Char × List Char)) := do
  let (hour, rest) ← digits? 1 2 text
  let rest ← char? ':' rest
  let (minute, rest) ← digits? 2 2 rest
  let rest ← char? ':' rest
  let (second, rest) ← digits? 2 2 rest
  let (fraction, rest) :=
    match rest with
    | '.' :: rest => (rest.takeWhile Char.isDigit, rest.dropWhile Char.isDigit)
    | rest => ([], rest)
  let spaced := rest.dropWhile isGap
  let zone ← if rest.isEmpty then some none else if spaced.isEmpty then none else zone? spaced
  return ((hour, minute, second, fraction), zone)

/-- The parts of a moment.  A date alone has two digits for month and day. -/
def momentParts? (text : List Char) : Option MomentParts := do
  let (year, rest) ← digits? 4 4 text
  let rest ← char? '-' rest
  let (month, rest) ← digits? 1 2 rest
  let rest ← char? '-' rest
  let (day, rest) ← digits? 1 2 rest
  match rest with
  | [] => return ⟨year, month, day, none, none⟩
  | c :: more =>
      let clock :=
        if c = 'T' ∨ c = 't' then more else if isGap c then more.dropWhile isGap else []
      let (time, zone) ← time? clock
      return ⟨year, month, day, some time, zone⟩

/-- Whether a plain text spells a moment. -/
def isMoment (text : List Char) : Bool :=
  match momentParts? text with
  | some parts => parts.time.isSome || (parts.month.length == 2 && parts.day.length == 2)
  | none => false

/-! ## Scalars without a tag -/

/-- The kind that a word shows. -/
def ofWord (word : String) : Kind :=
  let chars := word.toList
  if trueWords.contains word || falseWords.contains word then bool
  else if isFloat chars then float
  else if isInt chars then int
  else if word == "<<" then merge
  else if nullWords.contains word then null
  else if isMoment chars then moment
  else if word == "=" then default
  else if word == "!" || word == "&" || word == "*" then unknown
  else string

/-- A text without the line feed at its end. -/
def withoutFeed (text : List Char) : List Char :=
  if text.getLast? == some '\n' then text.dropLast else text

/-- The kind that a text shows.  A line feed at the end makes no difference unless it
stands alone. -/
def ofText (text : Text) : Kind :=
  match text.chars? with
  | some chars => if chars == ['\n'] then string else ofWord (String.ofList (withoutFeed chars))
  | none => string

end Kind

end ChipEight.Yaml
