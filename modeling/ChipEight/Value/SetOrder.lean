import ChipEight.Decimal.Binary
import ChipEight.Value.Equality

/-!
# The order of sets

A set lists its items by their places in a table of slots.  A number goes to the slot that
its residue modulo a Mersenne prime names, or to a free one after it.  The places of other
items follow no rule, so that a set with any of them keeps the order of entry.
-/

namespace ChipEight.Value

/-- The modulus of residues. -/
def residueModulus : Nat := Nat.pow 2 61 - 1

/-- A residue with the sign of its number.  The residue -1 is left out. -/
def signedResidue (negative : Bool) (size : Nat) : Int :=
  let residue : Int := if negative then -(size % residueModulus : Nat) else (size % residueModulus : Nat)
  if residue = -1 then -2 else residue

/-- The residue of a number; equal numbers have the same. -/
def residue? : Value → Option Int
  | .bool b => some (if b then 1 else 0)
  | .int n => some (signedResidue (n < 0) n.natAbs)
  | .float x =>
      match Decimal.Binary.ofFloat x with
      | .finite negative mantissa exponent =>
          some (signedResidue negative (mantissa * Nat.pow 2 (exponent.emod 61).toNat))
      | .infinite negative => some (if negative then -314159 else 314159)
      | .notANumber => none
  | _ => none

/-- A residue as a word of sixty-four bits. -/
def residueWord (residue : Int) : Nat := (residue.emod (Nat.pow 2 64)).toNat

/-- The first free slot among some that follow each other. -/
def freeSlot? (slots : Array (Option Value)) (place : Nat) : Nat → Option Nat
  | 0 => none
  | count + 1 =>
      match slots[place]? with
      | some none => some place
      | _ => freeSlot? slots (place + 1) count

/-- The slot for an item.  Up to ten slots that follow each other are tried before the
search goes on somewhere else. -/
def slotFor (slots : Array (Option Value)) : Nat → Nat → Nat → Nat
  | 0, place, _ => place
  | fuel + 1, place, rest =>
      let tries := if place + 9 < slots.size then 10 else 1
      match freeSlot? slots place tries with
      | some free => free
      | none =>
          let rest := rest / 32
          slotFor slots fuel ((place * 5 + 1 + rest) % slots.size) rest

/-- The least power of two from eight on that is above a number. -/
def tableSize (count : Nat) : Nat := max 8 (Nat.pow 2 (count.log2 + 1))

/-- The number of slots for some items. -/
def slotCount (count : Nat) : Nat :=
  if 5 * count < 21 then 8 else tableSize (2 * count)

/-- Enters a number into its slot. -/
def enterSlot (slots : Array (Option Value)) (item : Value) : Array (Option Value) :=
  match item.residue? with
  | some residue =>
      let word := residueWord residue
      slots.set! (slotFor slots (slots.size + 64) (word % slots.size) word) (some item)
  | none => slots

/-- The items of a set in the order in which it lists them. -/
def listed (items : List Value) : List Value :=
  if items.all (·.residue?.isSome) then
    let slots := Array.replicate (slotCount items.length) none
    (items.foldl enterSlot slots).toList.filterMap id
  else items

end ChipEight.Value
