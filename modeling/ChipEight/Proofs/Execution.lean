import ChipEight.Execution
import ChipEight.Proofs.Blocks

/-!
# What an instruction does

An instruction changes the state one step after the other and may meet a fault on the way.
Here its outcome is described without the steps: `Operation.fault?` finds the fault in the
state before the instruction, and `Operation.flow` and `Operation.effect` say what happens
when there is none.  The main statement, `Operation.run_execute`, is that an instruction
either ends in that fault and has changed nothing, or is carried out whole.
-/

namespace ChipEight

namespace CallStack

/-- The stack with one more return address; as it was, if all slots are in use. -/
def pushed (s : CallStack) (address : UInt16) : CallStack :=
  (s.push? address).getD s

/-- The stack without its last return address; as it was, if no slot is in use. -/
def popped (s : CallStack) : CallStack :=
  match s.pop? with
  | some (_, rest) => rest
  | none => s

theorem pop?_eq (s : CallStack) : s.pop? = s.top?.map fun address => (address, s.popped) := by
  by_cases used : 0 < s.depth <;> simp [pop?, top?, popped, used]

theorem push?_eq (s : CallStack) (address : UInt16) :
    s.push? address = if s.depth < 16 then some (s.pushed address) else none := by
  by_cases room : s.depth < 16 <;> simp [push?, pushed, room]

end CallStack

namespace State

/-- Replaces the call stack. -/
def setStack (s : State) (stack : CallStack) : State :=
  { s with registers := { s.registers with stack := stack } }

end State

/-! ## Checks -/

/-- The fault of an access to a block that does not lie in memory. -/
def Memory.blockFault? (address length : Nat) : Option Fault :=
  if address + length ≤ 4096 then none else some (.outOfRange (max address 4096 : Nat))

/-- The fault of a jump to where no instruction fits. -/
def Flow.jumpFault? (target : Nat) : Option Fault :=
  if target ≤ 0xFFE then none else some (.jumpTarget target)

/-- A check that has a fault to report, or none. -/
def Action.verdict : Option Fault → Except Fault Unit
  | some fault => .error fault
  | none => .ok ()

theorem Memory.checkRange_block (address : Nat) {length : Nat} (used : 0 < length) :
    Memory.checkRange address length = Action.verdict (Memory.blockFault? address length) := by
  have start : ¬(address : Int) < 0 := by omega
  have size : max (length : Int) 1 = length := by omega
  have limit : max (address : Int) 4096 = (max address 4096 : Nat) := by omega
  rw [Memory.checkRange, if_neg start, size, limit, Memory.blockFault?]
  by_cases inside : address + length ≤ 4096
  · have within : ¬4095 < (address : Int) + length - 1 := by omega
    rw [if_neg within, if_pos inside]
    rfl
  · have beyond : 4095 < (address : Int) + length - 1 := by omega
    rw [if_pos beyond, if_neg inside]
    rfl

theorem Memory.blockFault?_eq_none {address length : Nat} :
    Memory.blockFault? address length = none ↔ address + length ≤ 4096 := by
  simp [Memory.blockFault?]

theorem Flow.jumpFault?_eq_none {target : Nat} :
    Flow.jumpFault? target = none ↔ target ≤ 0xFFE := by
  simp [Flow.jumpFault?]

theorem Flow.jumpTo_ok {target : Nat} (room : Flow.jumpFault? target = none) :
    Flow.jumpTo target = .ok (.jump target) := by
  have bound := Flow.jumpFault?_eq_none.mp room
  have inside : 0 ≤ (target : Int) ∧ (target : Int) ≤ 0xFFE := by omega
  rw [Flow.jumpTo, if_pos inside]

theorem Flow.jumpTo_error {target : Nat} {fault : Fault}
    (noRoom : Flow.jumpFault? target = some fault) : Flow.jumpTo target = .error fault := by
  have bound : ¬target ≤ 0xFFE ∧ Fault.jumpTarget target = fault := by
    simpa [Flow.jumpFault?] using noRoom
  have outside : ¬(0 ≤ (target : Int) ∧ (target : Int) ≤ 0xFFE) := by omega
  rw [Flow.jumpTo, if_neg outside, bound.2]

namespace Operation

/-! ## The outcome -/

/-- Where the jump with offset goes. -/
def offsetTarget (d : Dialect) (op : Operation) (s : State) : Nat :=
  op.address + (s.v (if d.offsetFromX then op.x else Registers.first)).toNat

/-- The fault that an instruction meets. -/
def fault? (d : Dialect) (op : Operation) (s : State) : Option Fault :=
  let index := s.registers.i.toNat
  match op.opcode with
  | .ret =>
      match s.registers.stack.top? with
      | some target => Flow.jumpFault? target.toNat
      | none => some .stackUnderflow
  | .jump => Flow.jumpFault? op.address
  | .call =>
      (Flow.jumpFault? op.address).or
        (if s.registers.stack.depth < 16 then none else some .stackOverflow)
  | .jumpOffset => Flow.jumpFault? (offsetTarget d op s)
  | .decimal => Memory.blockFault? index 3
  | .store | .load => Memory.blockFault? index (op.x.val + 1)
  | .draw => if op.n.val = 0 then none else Memory.blockFault? index op.n.val
  | _ => none

/-- How the program goes on after an instruction that meets no fault. -/
def flow (d : Dialect) (op : Operation) (s : State) : Flow :=
  let vx := s.v op.x
  let vy := s.v op.y
  match op.opcode with
  | .ret => .jump (s.registers.stack.top?.getD 0).toNat
  | .jump | .call => .jump op.address
  | .jumpOffset => .jump (offsetTarget d op s)
  | .skipEqualByte => .skipIf (vx == op.byte)
  | .skipUnequalByte => .skipIf (vx != op.byte)
  | .skipEqual => .skipIf (vx == vy)
  | .skipUnequal => .skipIf (vx != vy)
  | .skipPressed => .skipIf (s.keypad.held vx)
  | .skipReleased => .skipIf (!s.keypad.held vx)
  | .awaitKey => if s.keypad.take?.isSome then .next else .wait
  | _ => .next

/-- What drawing a sprite does. -/
def drawn (d : Dialect) (op : Operation) (s : State) : State :=
  let index := s.registers.i.toNat
  let (collision, screen) :=
    s.screen.draw (s.v op.x).toNat (s.v op.y).toNat (s.memory.window index op.n.val) d.clipSprites
  { s with memory := s.memory.noteReads index op.n.val, screen := screen }.setV Registers.flag
    (if collision then 1 else 0)

/-- What waiting for a key does: it opens a request, or takes the key that has met it. -/
def awaited (op : Operation) (s : State) : State :=
  match s.keypad.take? with
  | none => { s with keypad := s.keypad.request op.x.val }
  | some (key, keypad) => { s with keypad := keypad }.setV op.x (UInt8.ofInt key)

/-- What an instruction that meets no fault does to the state.  The program counter stays
where it is. -/
def effect (d : Dialect) (op : Operation) (s : State) : State :=
  let vx := s.v op.x
  let vy := s.v op.y
  let index := s.registers.i.toNat
  match op.opcode with
  | .ret => s.setStack s.registers.stack.popped
  | .call => s.setStack (s.registers.stack.pushed (UInt16.ofInt (s.registers.pc + 2)))
  | .loadByte => s.setV op.x op.byte
  | .addByte => s.setV op.x (vx + op.byte)
  | .move => s.setV op.x vy
  | .or => setLogical d s op.x (vx ||| vy)
  | .and => setLogical d s op.x (vx &&& vy)
  | .xor => setLogical d s op.x (vx ^^^ vy)
  | .add => setFlagged s op.x (Arithmetic.add vx vy)
  | .subtract => setFlagged s op.x (Arithmetic.subtract vx vy)
  | .subtractFrom => setFlagged s op.x (Arithmetic.subtract vy vx)
  | .shiftRight => setFlagged s op.x (Arithmetic.shiftRight (shiftOperand d op s))
  | .shiftLeft => setFlagged s op.x (Arithmetic.shiftLeft (shiftOperand d op s))
  | .random =>
      { s with random := s.random.nextByte.2 }.setV op.x (s.random.nextByte.1 &&& op.byte)
  | .loadIndex => s.setI (UInt16.ofNat op.address)
  | .addIndex => s.setI (s.registers.i + vx.toUInt16)
  | .glyph => s.setI (UInt16.ofNat (5 * (vx.toNat % 16)))
  | .decimal => { s with memory := s.memory.putAll index (Arithmetic.decimalDigits vx) }
  | .store =>
      advanceIndex d op
        { s with memory := s.memory.putAll index ((registersUpTo op.x).map s.v) }
  | .load => advanceIndex d op (s.takeBytes index (registersUpTo op.x))
  | .clearScreen => { s with screen := .blank }
  | .draw => drawn d op s
  | .readDelay => s.setV op.x s.timers.delay
  | .setDelay => { s with timers := { s.timers with delay := vx } }
  | .setSound => { s with timers := { s.timers with sound := vx } }
  | .awaitKey => awaited op s
  | _ => s

/-- The outcome of an instruction. -/
def outcome (d : Dialect) (op : Operation) (s : State) : Except Fault Flow × State :=
  match op.fault? d s with
  | some fault => (.error fault, s)
  | none => (.ok (op.flow d s), op.effect d s)

/-! ## Instructions that can fail -/

section Fallible

open ChipEight.Action

variable {op : Operation} (d : Dialect) (s : State)

theorem run_jump_ok {target : Nat} (room : Flow.jumpFault? target = none) :
    (jump target).run s = (.ok (.jump target), s) := by
  rw [jump, run_lift, Flow.jumpTo_ok room]

theorem run_jump_error {target : Nat} {fault : Fault}
    (noRoom : Flow.jumpFault? target = some fault) :
    (jump target).run s = (.error fault, s) := by
  rw [jump, run_lift, Flow.jumpTo_error noRoom]

theorem run_push_ok (address : UInt16) (room : s.registers.stack.depth < 16) :
    (push address).run s = (.ok (), s.setStack (s.registers.stack.pushed address)) := by
  rw [push, run_bind_ok (run_get s), CallStack.push?_eq, if_pos room]
  rfl

theorem run_push_full (address : UInt16) (full : ¬s.registers.stack.depth < 16) :
    (push address).run s = (.error .stackOverflow, s) := by
  rw [push, run_bind_ok (run_get s), CallStack.push?_eq, if_neg full]
  rfl

theorem run_pop_ok {address : UInt16} (top : s.registers.stack.top? = some address) :
    pop.run s = (.ok address, s.setStack s.registers.stack.popped) := by
  rw [pop, run_bind_ok (run_get s), CallStack.pop?_eq, top]
  rfl

theorem run_pop_empty (top : s.registers.stack.top? = none) :
    pop.run s = (.error .stackUnderflow, s) := by
  rw [pop, run_bind_ok (run_get s), CallStack.pop?_eq, top]
  rfl

theorem run_ret (kind : op.opcode = .ret) : (op.execute d).run s = outcome d op s := by
  rw [execute, run_bind_ok (run_get s)]
  simp only [kind, outcome, fault?, flow, effect]
  cases top : s.registers.stack.top? with
  | none =>
      have checked : checkReturn.run s = (.ok (), s) := by
        rw [checkReturn, run_bind_ok (run_get s), top, run_pure]
      rw [run_bind_ok checked, run_bind_error (run_pop_empty s top)]
  | some target =>
      cases room : Flow.jumpFault? target.toNat with
      | some fault =>
          have checked : checkReturn.run s = (.error fault, s) := by
            rw [checkReturn, run_bind_ok (run_get s), top, run_bind_error (run_jump_error s room)]
          simp only [run_bind_error checked, room]
      | none =>
          have checked : checkReturn.run s = (.ok (), s) := by
            rw [checkReturn, run_bind_ok (run_get s), top, run_bind_ok (run_jump_ok s room),
              run_pure]
          rw [run_bind_ok checked, run_bind_ok (run_pop_ok s top), run_jump_ok _ room]
          simp only [room, Option.getD_some]

theorem run_jump (kind : op.opcode = .jump) : (op.execute d).run s = outcome d op s := by
  rw [execute, run_bind_ok (run_get s)]
  simp only [kind, outcome, fault?, flow, effect]
  cases room : Flow.jumpFault? op.address with
  | some fault => rw [run_jump_error s room]
  | none => rw [run_jump_ok s room]

theorem run_call (kind : op.opcode = .call) : (op.execute d).run s = outcome d op s := by
  rw [execute, run_bind_ok (run_get s)]
  simp only [kind, outcome, fault?, flow, effect]
  cases target : Flow.jumpFault? op.address with
  | some fault => rw [run_bind_error (run_jump_error s target), Option.some_or]
  | none =>
      rw [run_bind_ok (run_jump_ok s target), Option.none_or]
      by_cases room : s.registers.stack.depth < 16
      · rw [run_bind_ok (run_push_ok s _ room), run_pure, if_pos room]
      · rw [run_bind_error (run_push_full s _ room), if_neg room]

theorem run_jumpOffset (kind : op.opcode = .jumpOffset) :
    (op.execute d).run s = outcome d op s := by
  rw [execute, run_bind_ok (run_get s)]
  simp only [kind, outcome, fault?, flow, effect, ← Int.natCast_add]
  change (jump (offsetTarget d op s)).run s = _
  cases room : Flow.jumpFault? (offsetTarget d op s) with
  | some fault => rw [run_jump_error s room]
  | none => rw [run_jump_ok s room]

/-! ## Instructions on blocks of memory -/

theorem run_checkRange_ok {address length : Nat} (used : 0 < length)
    (inside : Memory.blockFault? address length = none) :
    (checkRange address length).run s = (.ok (), s) := by
  rw [checkRange, run_lift, Memory.checkRange_block address used, inside]
  rfl

theorem run_checkRange_error {address length : Nat} {fault : Fault} (used : 0 < length)
    (outside : Memory.blockFault? address length = some fault) :
    (checkRange address length).run s = (.error fault, s) := by
  rw [checkRange, run_lift, Memory.checkRange_block address used, outside]
  rfl

theorem length_registersUpTo (x : Nibble) : (registersUpTo x).length = x.val + 1 := by
  rw [registersUpTo, List.length_take, List.length_finRange]
  omega

theorem run_decimal (kind : op.opcode = .decimal) : (op.execute d).run s = outcome d op s := by
  rw [execute, run_bind_ok (run_get s)]
  simp only [kind, outcome, fault?, flow, effect]
  cases block : Memory.blockFault? s.registers.i.toNat 3 with
  | some fault => exact run_bind_error (run_checkRange_error s (by decide) block)
  | none =>
      have inside := Memory.blockFault?_eq_none.1 block
      refine (run_bind_ok (run_checkRange_ok s (by decide) block)).trans ?_
      rw [run_bind_ok (run_writeBytes inside s), run_pure]

theorem run_store (kind : op.opcode = .store) : (op.execute d).run s = outcome d op s := by
  rw [execute, run_bind_ok (run_get s)]
  simp only [kind, outcome, fault?, flow, effect]
  cases block : Memory.blockFault? s.registers.i.toNat (op.x.val + 1) with
  | some fault => exact run_bind_error (run_checkRange_error s (Nat.succ_pos _) block)
  | none =>
      have inside := Memory.blockFault?_eq_none.1 block
      have written : ((registersUpTo op.x).map s.v).length = op.x.val + 1 := by
        rw [List.length_map, length_registersUpTo]
      rw [← written] at inside
      refine (run_bind_ok (run_checkRange_ok s (Nat.succ_pos _) block)).trans ?_
      rw [run_bind_ok (run_writeBytes inside s), proceed, run_bind_ok (run_modify _ _), run_pure]

theorem run_load (kind : op.opcode = .load) : (op.execute d).run s = outcome d op s := by
  rw [execute, run_bind_ok (run_get s)]
  simp only [kind, outcome, fault?, flow, effect]
  cases block : Memory.blockFault? s.registers.i.toNat (op.x.val + 1) with
  | some fault => exact run_bind_error (run_checkRange_error s (Nat.succ_pos _) block)
  | none =>
      have inside := Memory.blockFault?_eq_none.1 block
      rw [← length_registersUpTo] at inside
      refine (run_bind_ok (run_checkRange_ok s (Nat.succ_pos _) block)).trans ?_
      rw [run_bind_ok (run_readRegisters inside s), proceed, run_bind_ok (run_modify _ _),
        run_pure]

theorem run_checkSprite_error {address size : Nat} {fault : Fault} (used : size ≠ 0)
    (outside : Memory.blockFault? address size = some fault) :
    (checkSprite address size).run s = (.error fault, s) := by
  rw [checkSprite, if_neg used]
  exact run_checkRange_error s (Nat.pos_of_ne_zero used) outside

/-- Once a sprite has been checked, its bytes are read, wherever a sprite of no bytes lies. -/
theorem run_checkSprite_ok {address size : Nat}
    (inside : (if size = 0 then none else Memory.blockFault? address size) = none) :
    (checkSprite address size).run s = (.ok (), s) ∧
      (readBytes address size).run s =
        (.ok (s.memory.window address size),
          { s with memory := s.memory.noteReads address size }) := by
  by_cases empty : size = 0
  · subst empty
    exact ⟨rfl, rfl⟩
  · rw [if_neg empty] at inside
    rw [checkSprite, if_neg empty]
    exact ⟨run_checkRange_ok s (Nat.pos_of_ne_zero empty) inside,
      run_readBytes (Memory.blockFault?_eq_none.1 inside) s⟩

theorem run_draw (kind : op.opcode = .draw) : (op.execute d).run s = outcome d op s := by
  rw [execute, run_bind_ok (run_get s)]
  simp only [kind, outcome, fault?, flow, effect]
  cases block : if op.n.val = 0 then none else Memory.blockFault? s.registers.i.toNat op.n.val with
  | some fault =>
      have used : op.n.val ≠ 0 := by
        intro empty
        rw [if_pos empty] at block
        contradiction
      rw [if_neg used] at block
      exact run_bind_error (run_checkSprite_error s used block)
  | none =>
      obtain ⟨checked, sprite⟩ := run_checkSprite_ok s block
      rw [run_bind_ok checked, run_bind_ok sprite, run_bind_ok (run_modify _ _), proceed,
        run_bind_ok (run_modify _ _), run_pure]
      rfl

theorem run_awaitKey (kind : op.opcode = .awaitKey) : (op.execute d).run s = outcome d op s := by
  rw [execute, run_bind_ok (run_get s)]
  simp only [kind, outcome, fault?, flow, effect, awaited]
  cases s.keypad.take? with
  | none => rfl
  | some taken => rfl

end Fallible

open ChipEight.Action in
/-- An instruction either ends in the fault that the state before it holds for it, and has
changed nothing, or is carried out whole. -/
theorem run_execute (d : Dialect) (op : Operation) (s : State) :
    (op.execute d).run s = outcome d op s := by
  cases kind : op.opcode with
  | ret => exact run_ret d s kind
  | jump => exact run_jump d s kind
  | call => exact run_call d s kind
  | jumpOffset => exact run_jumpOffset d s kind
  | decimal => exact run_decimal d s kind
  | store => exact run_store d s kind
  | load => exact run_load d s kind
  | draw => exact run_draw d s kind
  | awaitKey => exact run_awaitKey d s kind
  | _ =>
      rw [execute, run_bind_ok (run_get s)]
      simp only [kind, outcome, fault?, flow, effect]
      rfl

end Operation

end ChipEight
