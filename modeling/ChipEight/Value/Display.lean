import ChipEight.Decimal.Shortest
import ChipEight.Text.Integer
import ChipEight.Text.Quoted
import ChipEight.Value.Basic

/-!
# Values in messages

A value is shown in two ways.  Its display form tells kinds apart: texts are quoted,
collections are bracketed.  Its plain form is the display form, except that a text
stands for itself and a date is written as a date.  A value has neither form if an integer
in it has too many digits, or if there is too little room for all the values inside each other.
-/

namespace ChipEight

/-- Why a value is not shown. -/
inductive Unshown where
  /-- An integer in it has too many digits. -/
  | tooManyDigits
  /-- There is too little room for the values inside each other. -/
  | tooDeep
  deriving DecidableEq, Repr

namespace Unshown

/-- The message about a value that is not shown. -/
def message : Unshown → String
  | tooManyDigits => Integer.limitMessage none
  | tooDeep => "maximum recursion depth exceeded while getting the repr of an object"

/-- The name under which it is reported that a value is not shown. -/
def label : Unshown → String
  | tooManyDigits => "ValueError"
  | tooDeep => "RecursionError"

end Unshown

namespace Value

/-- One byte of a displayed byte string. -/
def displayByte (quote : Char) (byte : UInt8) : List Char :=
  let c := Char.ofNat byte.toNat
  if 0x20 ≤ byte ∧ byte ≤ 0x7E ∨ c = '\n' ∨ c = '\r' ∨ c = '\t' then Text.quotedChar quote c
  else Text.hexEscape 'x' 2 byte.toNat

/-- The display form of a byte string. -/
def displayBytes (data : List UInt8) : String :=
  let quote := Text.quoteFor (data.map fun byte => Char.ofNat byte.toNat)
  String.ofList ('b' :: quote :: (data.flatMap (displayByte quote) ++ [quote]))

/-- The items of a sequence. -/
def listText (items : List String) : String :=
  "[" ++ ", ".intercalate items ++ "]"

/-- The items of a fixed sequence; a comma marks the sequence of one item. -/
def tupleText : List String → String
  | [item] => "(" ++ item ++ ",)"
  | items => "(" ++ ", ".intercalate items ++ ")"

/-- Items in braces. -/
def bracedText (items : List String) : String :=
  "\x7b" ++ ", ".intercalate items ++ "\x7d"

/-- The items of a set.  Empty braces would be an empty map. -/
def setText (items : List String) : String :=
  if items.isEmpty then "set()" else bracedText items

/-- What stands for a collection inside its own display form. -/
def ellipsis : Value → String
  | list _ => "[...]"
  | tuple _ => "(...)"
  | set _ => "set(...)"
  | map _ => "\x7b...\x7d"
  | _ => "..."

/-- The decimal text of an integer. -/
def displayInteger (n : Int) : Except Unshown String :=
  match Integer.text? n with
  | some digits => .ok digits
  | none => .error .tooManyDigits

/-- The room for values inside each other where one is shown.  How much there is depends on what
the machine runs on, and on the place.  There is always enough for a sequence of numbers in a
sequence, which is what the state of a generator is.  What takes more is wrong wherever it is read,
and the reading ends where it is shown; so the room at that one place is all that counts. -/
structure Room where
  /-- So many values may be shown inside each other. -/
  levels : Nat
  enough : 3 ≤ levels

instance : Inhabited Room := ⟨⟨3, Nat.le_refl 3⟩⟩

mutual

/-- The display form of a value inside the given knots, each with what stands for it
there.  It may be so many values deep.  The items of a set are shown as a list in it. -/
def displayIn (knots : List (Nat × String)) : Nat → Value → Except Unshown String
  | 0, _ => .error .tooDeep
  | _ + 1, null => .ok "None"
  | _ + 1, bool b => .ok (if b then "True" else "False")
  | _ + 1, int n => displayInteger n
  | _ + 1, float x => .ok (Decimal.text x)
  | _ + 1, text s => .ok s.quoted
  | _ + 1, bytes data => .ok (displayBytes data)
  | _ + 1, buffer data => .ok ("bytearray(" ++ displayBytes data ++ ")")
  | depth + 1, moment m => if m.layers ≤ depth + 1 then .ok m.display else .error .tooDeep
  | depth + 1, list items => (displayItems knots depth items).map listText
  | depth + 1, tuple items => (displayItems knots depth items).map tupleText
  | depth + 1, set items => (displayItems knots (depth - 1) items).map setText
  | depth + 1, map entries => (displayEntries knots depth entries).map bracedText
  | depth + 1, knot label content =>
      match knots.lookup label with
      | some mark => .ok mark
      | none => displayIn ((label, (content ()).ellipsis) :: knots) (depth + 1) (content ())

/-- The display forms of a sequence of values. -/
def displayItems (knots : List (Nat × String)) (depth : Nat) :
    List Value → Except Unshown (List String)
  | [] => .ok []
  | item :: items => do
      let first ← displayIn knots depth item
      return first :: (← displayItems knots depth items)

/-- The display forms of the entries of a map. -/
def displayEntries (knots : List (Nat × String)) (depth : Nat) :
    List (Value × Value) → Except Unshown (List String)
  | [] => .ok []
  | (key, value) :: entries => do
      let key ← displayIn knots depth key
      let value ← displayIn knots depth value
      return (key ++ ": " ++ value) :: (← displayEntries knots depth entries)

end

/-- The display form of a value. -/
def display (room : Room) (value : Value) : Except Unshown String :=
  value.displayIn [] room.levels

/-- The plain form of a value. -/
def plain (room : Room) : Value → Except Unshown Text
  | text s => .ok s
  | moment m => .ok m.plain
  | value => (value.display room).map Text.ofString

end Value

end ChipEight
