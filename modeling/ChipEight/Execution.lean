import ChipEight.Action
import ChipEight.Arithmetic
import ChipEight.Dialect
import ChipEight.Operation

/-!
# Executing an instruction

`Operation.execute` carries out a decoded instruction on a state whose program counter
still points at it, and gives the way in which the program goes on.  An instruction that
can fail checks what it is going to touch before it changes anything.
-/

namespace ChipEight

/-- How the program goes on after an instruction. -/
inductive Flow where
  | next
  | skip
  | jump (target : Int)
  /-- The same instruction again. -/
  | wait
  deriving DecidableEq, Repr

namespace Flow

/-- The program counter after an instruction at `pc`. -/
def apply (pc : Int) : Flow → Int
  | next => pc + 2
  | skip => pc + 4
  | jump target => target
  | wait => pc

/-- Skips the next instruction if the condition holds. -/
def skipIf (condition : Bool) : Flow :=
  if condition then skip else next

/-- A jump to a place where an instruction fits. -/
def jumpTo (target : Int) : Except Fault Flow :=
  if 0 ≤ target ∧ target ≤ 0xFFE then .ok (jump target) else .error (.jumpTarget target)

/-- The names of the ways to go on. -/
def label : Flow → String
  | next => "NEXT"
  | skip => "SKIP"
  | jump _ => "JUMP"
  | wait => "WAIT"

/-- The way to go on that has a given name.  Only a jump has a target. -/
def ofLabel (name : Text) (target : Int) : Except Refusal Flow :=
  match [next, skip, jump target, wait].find? fun flow => Text.ofString flow.label == name with
  | some (jump target) => (jumpTo target).mapError .fault
  | some flow => .ok flow
  | none => .error (.flowKind name)

end Flow

namespace Operation

/-- Stores a result in `Vx`, then its flag in `VF`; if they are the same register, the
flag remains. -/
def setFlagged (s : State) (x : Nibble) (result : UInt8 × Bool) : State :=
  (s.setV x result.1).setV Registers.flag (if result.2 then 1 else 0)

/-- Stores the result of a logical operation. -/
def setLogical (d : Dialect) (s : State) (x : Nibble) (result : UInt8) : State :=
  if d.clearFlag then (s.setV x result).setV Registers.flag 0 else s.setV x result

/-- The operand of a shift. -/
def shiftOperand (d : Dialect) (op : Operation) (s : State) : UInt8 :=
  if d.shiftFromY then s.v op.y else s.v op.x

/-- Moves `I` behind the registers `V0` to `Vx`, where the dialect says so. -/
def advanceIndex (d : Dialect) (op : Operation) (s : State) : State :=
  if d.advanceIndex then s.setI (s.registers.i + UInt16.ofNat (op.x.val + 1)) else s

/-- The registers `V0` to `Vx`. -/
def registersUpTo (x : Nibble) : List Nibble :=
  (List.finRange 16).take (x.val + 1)

/-- Makes a change, after which the program goes on with the next instruction. -/
def proceed (change : State → State) : Action Flow := do
  modify change
  return .next

/-- A jump, if there is a place to jump to. -/
def jump (target : Int) : Action Flow :=
  Action.lift (Flow.jumpTo target)

/-- Checks that the last return address, if there is one, can be jumped to. -/
def checkReturn : Action Unit := do
  match (← get).registers.stack.top? with
  | some target =>
      let _ ← jump target.toNat
  | none => return ()

/-- Checks that the bytes of a sprite lie in memory.  A sprite of no bytes lies anywhere. -/
def checkSprite (address : Int) (size : Nat) : Action Unit :=
  if size = 0 then return () else Action.checkRange address size

/-- Carries out an instruction. -/
def execute (d : Dialect) (op : Operation) : Action Flow := do
  let s ← get
  let vx := s.v op.x
  let vy := s.v op.y
  let index := s.registers.i.toNat
  match op.opcode with
  -- The flow of the program.
  | .ret => do
      checkReturn
      jump (← Action.pop).toNat
  | .jump => jump op.address
  | .call => do
      let flow ← jump op.address
      Action.push (UInt16.ofInt (s.registers.pc + 2))
      return flow
  | .jumpOffset => jump (op.address + (s.v (if d.offsetFromX then op.x else Registers.first)).toNat)
  | .skipEqualByte => return .skipIf (vx == op.byte)
  | .skipUnequalByte => return .skipIf (vx != op.byte)
  | .skipEqual => return .skipIf (vx == vy)
  | .skipUnequal => return .skipIf (vx != vy)
  | .skipPressed => return .skipIf (s.keypad.held vx)
  | .skipReleased => return .skipIf (!s.keypad.held vx)
  -- Byte registers.
  | .loadByte => proceed fun s => s.setV op.x op.byte
  | .addByte => proceed fun s => s.setV op.x (vx + op.byte)
  | .move => proceed fun s => s.setV op.x vy
  | .or => proceed fun s => setLogical d s op.x (vx ||| vy)
  | .and => proceed fun s => setLogical d s op.x (vx &&& vy)
  | .xor => proceed fun s => setLogical d s op.x (vx ^^^ vy)
  | .add => proceed fun s => setFlagged s op.x (Arithmetic.add vx vy)
  | .subtract => proceed fun s => setFlagged s op.x (Arithmetic.subtract vx vy)
  | .subtractFrom => proceed fun s => setFlagged s op.x (Arithmetic.subtract vy vx)
  | .shiftRight =>
      proceed fun s => setFlagged s op.x (Arithmetic.shiftRight (shiftOperand d op s))
  | .shiftLeft =>
      proceed fun s => setFlagged s op.x (Arithmetic.shiftLeft (shiftOperand d op s))
  | .random => do
      let (drawn, random) := s.random.nextByte
      modify fun s => { s with random := random }
      proceed fun s => s.setV op.x (drawn &&& op.byte)
  -- The index register.
  | .loadIndex => proceed fun s => s.setI (UInt16.ofNat op.address)
  | .addIndex => proceed fun s => s.setI (s.registers.i + vx.toUInt16)
  | .glyph => proceed fun s => s.setI (UInt16.ofNat (5 * (vx.toNat % 16)))
  -- Memory.
  | .decimal => do
      Action.checkRange index 3
      Action.writeBytes index (Arithmetic.decimalDigits vx)
      return .next
  | .store => do
      Action.checkRange index (op.x.val + 1)
      Action.writeBytes index ((registersUpTo op.x).map s.v)
      proceed (advanceIndex d op)
  | .load => do
      Action.checkRange index (op.x.val + 1)
      Action.readRegisters index (registersUpTo op.x)
      proceed (advanceIndex d op)
  -- Devices.
  | .clearScreen => proceed fun s => { s with screen := .blank }
  | .draw => do
      checkSprite index op.n.val
      let sprite ← Action.readBytes index op.n.val
      let (collision, screen) := s.screen.draw vx.toNat vy.toNat sprite d.clipSprites
      modify fun s => { s with screen := screen }
      proceed fun s => s.setV Registers.flag (if collision then 1 else 0)
  | .readDelay => proceed fun s => s.setV op.x s.timers.delay
  | .setDelay => proceed fun s => { s with timers := { s.timers with delay := vx } }
  | .setSound => proceed fun s => { s with timers := { s.timers with sound := vx } }
  | .awaitKey =>
      match s.keypad.take? with
      | none => do
          modify fun s => { s with keypad := s.keypad.request op.x.val }
          return .wait
      | some (key, keypad) => do
          modify fun s => { s with keypad := keypad }
          proceed fun s => s.setV op.x (UInt8.ofInt key)

end Operation

end ChipEight
