import ChipEight.Text.Letter
import ChipEight.Value.Moment

/-!
# Dynamic values

Configurations, save files and restored snapshots arrive as values of any kind.
`Value` is the type of such data: what a structured text can spell, together with
the byte strings and fixed sequences that a machine state is made of.  A collection can
hold itself; it is then a knot, which is opened as often as it is looked at.
-/

namespace ChipEight

/-- A value whose kind is known only when it is looked at.  The entries of a map keep the
order in which they were entered, the items of a set that in which it lists them. -/
inductive Value where
  | null
  | bool (b : Bool)
  | int (n : Int)
  | float (x : Float)
  | text (s : Text)
  | bytes (data : List UInt8)
  /-- A byte string that its owner may still change. -/
  | buffer (data : List UInt8)
  | moment (m : Moment)
  | list (items : List Value)
  | tuple (items : List Value)
  | set (items : List Value)
  | map (entries : List (Value × Value))
  /-- A collection that may hold itself.  All knots with the same label are the same
  collection.  The content is given when it is asked for, so that a knot costs only as much
  as is looked at. -/
  | knot (label : Nat) (content : Unit → Value)
  deriving Inhabited

namespace Value

/-- The value itself, without the mark of a knot. -/
def content : Value → Value
  | knot _ content => (content ()).content
  | value => value

/-- The name of a value's kind, as messages give it. -/
def kindName : Value → String
  | null => "NoneType"
  | bool _ => "bool"
  | int _ => "int"
  | float _ => "float"
  | text _ => "str"
  | bytes _ => "bytes"
  | buffer _ => "bytearray"
  | moment m => if m.time.isSome then "datetime" else "date"
  | list _ => "list"
  | tuple _ => "tuple"
  | set _ => "set"
  | map _ => "dict"
  | knot _ content => (content ()).kindName

/-- The bytes of a byte string. -/
def octets? : Value → Option (List UInt8)
  | bytes data | buffer data => some data
  | _ => none

/-- Whether a value is the given text. -/
def isText (key : String) : Value → Bool
  | text s => s == key
  | _ => false

/-- The value of the first entry with the given text as its key. -/
def find? (key : String) (entries : List (Value × Value)) : Option Value :=
  (entries.find? fun entry => entry.1.isText key).map (·.2)

/-- The value under a key of a map; nothing for a value of another kind. -/
def lookup? (key : String) (value : Value) : Option Value :=
  match value.content with
  | map entries => find? key entries
  | _ => none

/-- Whether a value is a map. -/
def isMap (value : Value) : Bool :=
  match value.content with
  | map _ => true
  | _ => false

end Value

end ChipEight
