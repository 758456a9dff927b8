import ChipEight.Action
import ChipEight.Operation

/-!
# Assembly listings

A listing shows a range of memory two bytes at a time, each word as the instruction it
would be executed as.  A word that is no instruction is shown as data, and a last
single byte is left out.
-/

namespace ChipEight

/-- One line of a listing. -/
structure ListingLine where
  address : Int
  high : UInt8
  low : UInt8
  deriving DecidableEq, Repr

namespace ListingLine

/-- The word that the line shows, high byte first. -/
def word (line : ListingLine) : Int :=
  256 * line.high.toNat + line.low.toNat

/-- The two bytes in hexadecimal. -/
def bytesText (line : ListingLine) : String :=
  Hex.upper 2 line.high.toNat ++ " " ++ Hex.upper 2 line.low.toNat

/-- The instruction, or the word as data. -/
def text (line : ListingLine) : String :=
  match Operation.decode? line.word with
  | some op => op.text
  | none => "DW #" ++ Hex.upper 4 line.word

end ListingLine

namespace Memory

/-- The lines from an address up to but not including `last`. -/
def listingFrom (m : Memory) (last address : Int) : Except Fault (List ListingLine) :=
  if address + 1 < last then
    match m.peek address, m.peek (address + 1) with
    | .error fault, _ => .error fault
    | .ok _, .error fault => .error fault
    | .ok high, .ok low =>
        match listingFrom m last (address + 2) with
        | .error fault => .error fault
        | .ok lines => .ok (⟨address, high, low⟩ :: lines)
  else .ok []
termination_by (last - address).toNat

/-- The listing of `length` bytes from an address on, as far as memory goes. -/
def listing (m : Memory) (start length : Int) : Except Fault (List ListingLine) :=
  m.listingFrom (min (start + length) 4096) start

end Memory

namespace Action

/-- Looks at a byte without a record. -/
def peekByte (address : Int) : Action UInt8 := do
  lift ((← get).memory.peek address)

/-- Goes through memory in place, from an address up to but not including `last`. -/
def listingFrom (last address : Int) : Action (List ListingLine) := do
  if address + 1 < last then
    let high ← peekByte address
    let low ← peekByte (address + 1)
    let lines ← listingFrom last (address + 2)
    return ⟨address, high, low⟩ :: lines
  else return []
termination_by (last - address).toNat

end Action

end ChipEight
