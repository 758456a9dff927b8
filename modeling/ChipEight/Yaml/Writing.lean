import ChipEight.Decimal.Shortest
import ChipEight.Value.Basic
import ChipEight.Yaml.Style

/-!
# Writing documents

A document is written in block form: an entry or item a line, maps inside maps indented
by two columns, the hyphens of a sequence in the column of its key.  A key that is long,
empty or of several lines stands behind a question mark, and its value behind a colon on
a line of its own.
-/

namespace ChipEight.Yaml

/-! ## Scalars -/

/-- A float as it is written: with a point even before an exponent. -/
def floatWord (x : Float) : String :=
  if x.isNaN then ".nan"
  else if x.isInf then (if x < 0.0 then "-.inf" else ".inf")
  else
    let text := (Decimal.text x).toList
    let (mantissa, exponent) := text.span (· != 'e')
    if mantissa.contains '.' || exponent.isEmpty then String.ofList text
    else String.ofList (mantissa ++ ['.', '0'] ++ exponent)

/-- The text of a scalar and its style. -/
def scalarText : Value → Text × Style
  | .null => ("null", .plain)
  | .bool b => (if b then "true" else "false", .plain)
  | .int n => (toString n, .plain)
  | .float x => (floatWord x, .plain)
  | .text s => (s, Style.ofText s)
  | .moment m => (m.plain, .plain)
  | _ => ("", .single)

/-! ## Keys -/

/-- The length of the tag that belongs to a value. -/
def tagLength : Value → Nat
  | .null | .bool _ => 6
  | .float _ => 7
  | .moment _ => 11
  | _ => 5

/-- Keys of this length and beyond stand behind a question mark. -/
def longKey : Nat := 128

/-- Whether a key can stand on one line with its colon.  Its tag counts with its text. -/
def isSimpleKey : Value → Bool
  | .list items | .tuple items | .set items => items.isEmpty
  | .map entries => entries.isEmpty
  | .bytes data | .buffer data => data.isEmpty
  | .knot _ _ => false
  | key =>
      let text := (scalarText key).1
      tagLength key + text.length < longKey && !text.letters.isEmpty &&
        !text.chars.any isBreak

/-! ## Values -/

/-- Where a value stands: the column of the collection around it, if any, and whether that
is a map. -/
structure Place where
  column : Option Nat := none
  inMap : Bool := false

namespace Place

/-- The column of the collections, and of the further lines of the texts, in a place. -/
def inner (place : Place) (first : Nat) : Nat :=
  match place.column with
  | none => first
  | some column => column + 2

/-- The column of the items of a sequence.  After a key they need no further column. -/
def items (place : Place) (p : Page) : Nat :=
  match place.column with
  | some column => if place.inMap && !p.fresh then column else column + 2
  | none => 0

end Place

/-- Writes a scalar.  Only outside of simple keys it may be folded. -/
def writeScalar (p : Page) (place : Place) (isKey : Bool) (value : Value) : Page :=
  let (text, style) := scalarText value
  p.putText ⟨place.inner 2, !isKey⟩ text style

/-- Writes the numbers of a byte string as items. -/
def writeBytes (p : Page) (column : Nat) (data : List UInt8) : Page :=
  data.foldl (fun p byte =>
    ((p.toColumn column).indicate '-').word (toString byte.toNat).toList) p

mutual

/-- Writes a value.  A byte string is written as the sequence of its bytes. -/
def writeValue (p : Page) (place : Place) (isKey : Bool) : Value → Page
  | .list items | .tuple items | .set items =>
      if items.isEmpty then p.word "[]".toList else writeItems p (place.items p) items
  | .map entries =>
      if entries.isEmpty then p.word "\x7b\x7d".toList
      else writeEntries p (place.inner 0) entries
  | .bytes data | .buffer data =>
      if data.isEmpty then p.word "[]".toList else writeBytes p (place.items p) data
  | .knot _ content => writeValue p place isKey (content ())
  | scalar => writeScalar p place isKey scalar

/-- Writes the items of a sequence. -/
def writeItems (p : Page) (column : Nat) : List Value → Page
  | [] => p
  | item :: items =>
      let p := writeValue ((p.toColumn column).indicate '-') ⟨some column, false⟩ false item
      writeItems p column items

/-- Writes the entries of a map. -/
def writeEntries (p : Page) (column : Nat) : List (Value × Value) → Page
  | [] => p
  | (key, value) :: entries =>
      let place : Place := ⟨some column, true⟩
      let p := p.toColumn column
      let p :=
        if isSimpleKey key then (writeValue p place true key).close [':']
        else ((writeValue (p.indicate '?') place false key).toColumn column).indicate ':'
      writeEntries (writeValue p place false value) column entries

end

/-- The text of a document. -/
def write (value : Value) : String :=
  ((writeValue {} {} false value).toColumn 0).text

end ChipEight.Yaml
