import ChipEight.Refusal

/-!
# The keypad

Sixteen keys are either up or down.  An instruction can ask for a key press; the
request is met by the first key that goes down after it, and holds that key until the
instruction takes it.  A key that is down already when the request is made does not
meet it.
-/

namespace ChipEight

/-- The keys that are down, and the request for a key press: whether one is open, for
which register it was made last, and the key that has met it. -/
structure Keypad where
  keys : Vector Bool 16
  waiting : Bool
  waitRegister : Int
  pending : Option Int
  deriving DecidableEq

namespace Keypad

/-- All keys up and no request. -/
def initial : Keypad where
  keys := Vector.replicate 16 false
  waiting := false
  waitRegister := 0
  pending := none

/-- A keypad with given keys and request. -/
def ofParts (keys : List Bool) (waiting : Bool) (waitRegister : Int) (pending : Option Int) :
    Except Refusal Keypad :=
  let states := keys.toArray
  if size : states.size = 16 then .ok ⟨⟨states, size⟩, waiting, waitRegister, pending⟩
  else .error (.keyCount states.size)

/-- The key with a given number. -/
def key (number : Int) : Except Refusal (Fin 16) :=
  if inside : 0 ≤ number ∧ number < 16 then .ok ⟨number.toNat, by omega⟩
  else .error (.keyCode number)

/-- Sets the state of a key.  A key that goes down meets an open request that no key
has met yet. -/
def press (k : Keypad) (number : Fin 16) (down : Bool) : Keypad :=
  { k with
    keys := k.keys.set number down
    pending :=
      if down ∧ !k.keys[number] ∧ k.waiting ∧ k.pending.isNone then some number.val
      else k.pending }

/-- Sets the state of a key that the host names by number. -/
def update (k : Keypad) (number : Int) (down : Bool) : Except Refusal Keypad :=
  match key number with
  | .ok number => .ok (k.press number down)
  | .error refusal => .error refusal

/-- Whether a key that the host names by number is down. -/
def isDown (k : Keypad) (number : Int) : Except Refusal Bool :=
  match key number with
  | .ok number => .ok k.keys[number]
  | .error refusal => .error refusal

/-- Whether the key that the low half of a byte names is down. -/
def held (k : Keypad) (value : UInt8) : Bool :=
  k.keys[value.toNat % 16]

/-- Opens a request for a register, unless one is open. -/
def request (k : Keypad) (register : Int) : Keypad :=
  if k.waiting then k
  else { k with waiting := true, waitRegister := register, pending := none }

/-- The key that has met the request, with the request closed; nothing as long as no
key has met it. -/
def take? (k : Keypad) : Option (Int × Keypad) :=
  if k.waiting then k.pending.map fun key => (key, { k with waiting := false, pending := none })
  else none

end Keypad

end ChipEight
