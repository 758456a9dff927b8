import ChipEight.Text.Utf8

/-!
# Problems

What can be wrong with a file that ought to hold a document.  Reading stops at the first
problem that it meets.
-/

namespace ChipEight.Yaml

/-- What is wrong with a document. -/
inductive Problem where
  /-- The text does not follow the rules of the format. -/
  | malformed
  /-- The bytes are no text. -/
  | undecodable (fault : Text.DecodeFault)
  /-- A scalar does not spell a value of the kind it is said to have. -/
  | badValue (message : String)
  /-- An empty text is said to be a number. -/
  | emptyNumber
  /-- A text that is no moment is said to be one. -/
  | noMoment
  /-- A text that is no truth value is said to be one. -/
  | noTruth
  /-- A map is said to be a moment. -/
  | mapAsMoment
  /-- A number is beyond all bounds. -/
  | tooLarge
  /-- Collections stand inside each other too deeply. -/
  | tooDeep
  deriving DecidableEq, Repr

namespace Problem

/-- The message of a problem, if it has one. -/
def message : Problem → String
  | badValue message => message
  | undecodable fault => fault.message
  | tooDeep => "maximum recursion depth exceeded"
  | _ => ""

/-- The name under which a problem is reported. -/
def label : Problem → String
  | malformed => "YAMLError"
  | undecodable _ => "UnicodeDecodeError"
  | badValue _ => "ValueError"
  | emptyNumber => "IndexError"
  | noMoment => "AttributeError"
  | noTruth => "KeyError"
  | mapAsMoment => "TypeError"
  | tooLarge => "OverflowError"
  | tooDeep => "RecursionError"

end Problem

end ChipEight.Yaml
