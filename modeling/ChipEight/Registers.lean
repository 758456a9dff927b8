import ChipEight.Opcode
import ChipEight.Refusal

/-!
# Registers

The register file has sixteen byte registers, of which the last one, `VF`, also takes
the flags, the index register `I` of sixteen bits, the program counter and the stack
of at most sixteen return addresses.
-/

namespace ChipEight

/-- The return addresses: sixteen slots, of which the first `depth` are in use.  The
slots beyond keep what was last stored there. -/
structure CallStack where
  slots : Vector UInt16 16
  depth : Nat
  depth_le : depth ≤ 16 := by omega
  deriving DecidableEq

namespace CallStack

/-- A stack with no return address. -/
def empty : CallStack where
  slots := Vector.replicate 16 0
  depth := 0

/-- Stores a return address; nothing if all slots are in use. -/
def push? (s : CallStack) (address : UInt16) : Option CallStack :=
  if room : s.depth < 16 then
    some { slots := s.slots.set s.depth address, depth := s.depth + 1, depth_le := room }
  else none

/-- Takes the last return address; nothing if no slot is in use. -/
def pop? (s : CallStack) : Option (UInt16 × CallStack) :=
  if used : 0 < s.depth then
    have bound := s.depth_le
    some (s.slots[s.depth - 1],
      { slots := s.slots, depth := s.depth - 1, depth_le := by omega })
  else none

/-- Looks at the last return address; nothing if no slot is in use. -/
def top? (s : CallStack) : Option UInt16 :=
  if used : 0 < s.depth then
    have bound := s.depth_le
    some s.slots[s.depth - 1]
  else none

/-- The return addresses in use, oldest first. -/
def active (s : CallStack) : List UInt16 :=
  s.slots.toList.take s.depth

end CallStack

/-- The registers. -/
structure Registers where
  v : Vector UInt8 16
  i : UInt16
  pc : Int
  stack : CallStack
  deriving DecidableEq

namespace Registers

/-- The first byte register. -/
def first : Nibble := ⟨0, by decide⟩

/-- The flag register. -/
def flag : Nibble := Fin.last 15

/-- The registers at the start of a program. -/
def initial : Registers where
  v := Vector.replicate 16 0
  i := 0
  pc := 0x200
  stack := .empty

/-- Sets a byte register. -/
def setV (r : Registers) (register : Nibble) (value : UInt8) : Registers :=
  { r with v := r.v.set register value }

/-- Sets the first registers to some bytes. -/
def setAll (r : Registers) (values : List UInt8) : Registers :=
  { r with v := Vector.ofFn fun k => values.getD k.val (r.v.get k) }

/-! ## Access by number -/

/-- The byte register that an integer names, counted from the end if negative. -/
def getV? (r : Registers) (register : Int) : Except Refusal UInt8 :=
  match slot? 16 register with
  | some register => .ok (r.v.get register)
  | none => .error .noSuchSlot

/-- Sets the byte register that an integer names to the low eight bits of another. -/
def setV? (r : Registers) (register value : Int) : Except Refusal Registers :=
  match slot? 16 register with
  | some register => .ok (r.setV register (UInt8.ofInt value))
  | none => .error .noSuchSlot

/-- Sets the program counter from outside: to the start of an instruction. -/
def setPc (r : Registers) (value : Int) : Except Refusal Registers :=
  if value < 0 ∨ 0xFFE < value then .error (.pcOutside value)
  else if value % 2 = 1 then .error (.pcUnaligned value)
  else .ok { r with pc := value }

/-- Stores a return address. -/
def push (r : Registers) (address : Int) : Except Refusal Registers :=
  match r.stack.push? (UInt16.ofInt address) with
  | some stack => .ok { r with stack := stack }
  | none => .error (.fault .stackOverflow)

/-- Takes the last return address. -/
def pop (r : Registers) : Except Refusal (UInt16 × Registers) :=
  match r.stack.pop? with
  | some (address, stack) => .ok (address, { r with stack := stack })
  | none => .error (.fault .stackUnderflow)

end Registers

end ChipEight
