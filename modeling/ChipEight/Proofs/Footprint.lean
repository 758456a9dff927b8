import ChipEight.Proofs.Frames
import ChipEight.Proofs.Sprites

/-!
# What a step may change

Most instructions work on registers alone (`Operation.effect_eq_withRegisters`).  The few others
each touch one device besides, so that a step leaves nearly everything as it was.  The main
statement, `Machine.step_footprint`, says for each part of a state which instructions may change it
and where: the places in memory that an instruction writes to are `Operation.WritesTo`, the byte
registers that it sets are `Operation.Sets`.
-/

namespace ChipEight

/-! ## Blocks -/

/-- Writes to a block leave the places before and behind it alone. -/
theorem Memory.byte_putAll_of_outside {m : Memory} {address : Nat} {data : List UInt8}
    {other : Address} (room : address + data.length ≤ 4096)
    (outside : other.val < address ∨ address + data.length ≤ other.val) :
    (m.putAll address data).byte other = m.byte other := by
  induction data generalizing m address with
  | nil => rfl
  | cons first rest ih =>
      rw [List.length_cons] at room outside
      have apart : other ≠ place address := by
        intro same
        rw [same, place_val (by omega)] at outside
        omega
      rw [putAll_cons, ih (by omega) (by omega), byte_put, Function.update_of_ne apart]

namespace State

/-- The state with other registers and another record of accesses. -/
def withRegisters (s : State) (registers : Registers) (log : List Access) : State :=
  { s.withLog log with registers := registers }

/-- Registers that take bytes are all that changes, but for the record of accesses. -/
theorem exists_takeBytes (s : State) (address : Nat) (registers : List Nibble) :
    ∃ v log, s.takeBytes address registers = s.withRegisters { s.registers with v := v } log := by
  induction registers generalizing s address with
  | nil => exact ⟨s.registers.v, s.memory.log, rfl⟩
  | cons register rest ih => exact ih _ (address + 1)

theorem v_takeBytes_of_notMem {s : State} {address : Nat} {registers : List Nibble}
    {register : Nibble} (absent : register ∉ registers) :
    (s.takeBytes address registers).v register = s.v register := by
  induction registers generalizing s address with
  | nil => rfl
  | cons first rest ih =>
      rw [List.mem_cons, not_or] at absent
      rw [takeBytes, ih absent.2, v_setV, if_neg absent.1]
      rfl

end State

namespace Keypad

variable {k rest : Keypad} {key : Int}

theorem keys_request (k : Keypad) (register : Int) : (k.request register).keys = k.keys := by
  unfold request
  cases k.waiting <;> rfl

theorem keys_of_taken (taken : k.take? = some (key, rest)) : rest.keys = k.keys := by
  cases open_ : k.waiting with
  | false =>
      rw [take?_of_idle open_] at taken
      cases taken
  | true =>
      rw [take?_of_waiting open_] at taken
      obtain ⟨held, -, same⟩ := Option.map_eq_some_iff.mp taken
      cases same
      rfl

end Keypad

/-! ## Instructions -/

/-- The kinds of instruction that work on registers alone, and read memory at most. -/
def Opcode.onRegisters : Opcode → Bool
  | clearScreen | draw | random | decimal | store | setDelay | setSound | awaitKey => false
  | _ => true

namespace Operation

variable {d : Dialect} {op : Operation} {s : State} {x register : Nibble}

theorem mem_registersUpTo : register ∈ registersUpTo x ↔ register ≤ x := by
  simp only [registersUpTo, List.mem_take_iff_getElem, List.getElem_finRange, List.length_finRange]
  constructor
  · rintro ⟨k, bound, rfl⟩
    exact Nat.le_of_lt_succ (Nat.lt_of_lt_of_le bound (Nat.min_le_left _ _))
  · intro upTo
    have inside : register.val < x.val + 1 := Nat.lt_succ_of_le upTo
    exact ⟨register.val, by omega, rfl⟩

/-- At most the index register moves. -/
theorem exists_advanceIndex (d : Dialect) (op : Operation) (s : State) :
    ∃ i, advanceIndex d op s = s.setI i := by
  unfold advanceIndex
  cases d.advanceIndex with
  | false => exact ⟨s.registers.i, rfl⟩
  | true => exact ⟨_, rfl⟩

/-- Such an instruction changes nothing else but the record of accesses. -/
theorem effect_eq_withRegisters (d : Dialect) (s : State) (alone : op.opcode.onRegisters = true) :
    ∃ registers log, op.effect d s = s.withRegisters registers log := by
  cases kind : op.opcode with
  | clearScreen | draw | random | decimal | store | setDelay | setSound | awaitKey =>
      rw [kind] at alone
      cases alone
  | load =>
      obtain ⟨v, log, taken⟩ := s.exists_takeBytes s.registers.i.toNat (registersUpTo op.x)
      obtain ⟨i, moved⟩ := exists_advanceIndex d op
        (s.withRegisters { s.registers with v := v } log)
      simp only [effect, kind, taken, moved]
      exact ⟨_, _, rfl⟩
  | or | and | xor =>
      simp only [effect, kind, setLogical]
      cases d.clearFlag <;> exact ⟨_, _, rfl⟩
  | jump | jumpOffset | skipEqualByte | skipUnequalByte | skipEqual | skipUnequal | skipPressed
  | skipReleased =>
      simp only [effect, kind]
      exact ⟨s.registers, s.memory.log, rfl⟩
  | _ =>
      simp only [effect, kind]
      exact ⟨_, _, rfl⟩

/-! ### Memory -/

/-- The places in memory to which an instruction may write. -/
def WritesTo (op : Operation) (s : State) (place : Address) : Prop :=
  let index := s.registers.i.toNat
  match op.opcode with
  | .decimal => index ≤ place.val ∧ place.val ≤ index + 2
  | .store => index ≤ place.val ∧ place.val ≤ index + op.x.val
  | _ => False

theorem byte_effect {place : Address} (met : op.fault? d s = none)
    (unwritten : ¬op.WritesTo s place) :
    (op.effect d s).memory.byte place = s.memory.byte place := by
  cases kind : op.opcode with
  | decimal =>
      simp only [fault?, kind, Memory.blockFault?_eq_none] at met
      simp only [WritesTo, kind] at unwritten
      have written : (Arithmetic.decimalDigits (s.v op.x)).length = 3 := rfl
      simp only [effect, kind]
      exact Memory.byte_putAll_of_outside (by omega) (by omega)
  | store =>
      simp only [fault?, kind, Memory.blockFault?_eq_none] at met
      simp only [WritesTo, kind] at unwritten
      have written : ((registersUpTo op.x).map s.v).length = op.x.val + 1 := by
        rw [List.length_map, length_registersUpTo]
      simp only [effect, kind, memory_advanceIndex]
      exact Memory.byte_putAll_of_outside (by omega) (by omega)
  | draw =>
      have bytes := s.memory.bytes_noteReads s.registers.i.toNat op.n.val
      simp only [effect, kind, Memory.byte, drawn, State.setV, bytes]
  | awaitKey => simp only [effect, kind, memory_awaited]
  | clearScreen | setDelay | setSound => simp only [effect, kind]
  | random =>
      simp only [effect, kind]
      rfl
  | _ =>
      obtain ⟨registers, log, same⟩ := effect_eq_withRegisters d s (by rw [kind]; rfl)
      rw [same]
      rfl

/-! ### Devices -/

/-- The screen, the timers and the random numbers stay as they are, unless the instruction is about
them.  The random numbers go on in one way only, whatever the operands and the registers. -/
structure KeepsDevices (op : Operation) (s t : State) : Prop where
  screen : op.opcode ≠ .clearScreen → op.opcode ≠ .draw → t.screen = s.screen
  delay : op.opcode ≠ .setDelay → t.timers.delay = s.timers.delay
  sound : op.opcode ≠ .setSound → t.timers.sound = s.timers.sound
  random : op.opcode ≠ .random → t.random = s.random
  drawn : op.opcode = .random → t.random = s.random.nextByte.2

theorem keepsDevices_effect (d : Dialect) (op : Operation) (s : State) :
    op.KeepsDevices s (op.effect d s) := by
  cases kind : op.opcode with
  | clearScreen | decimal | setDelay | setSound | random =>
      simp only [effect, kind]
      constructor <;> simp [kind, State.setV]
  | draw =>
      simp only [effect, kind, drawn]
      constructor <;> simp [kind, State.setV]
  | store =>
      obtain ⟨i, moved⟩ := exists_advanceIndex d op
        { s with memory := s.memory.putAll s.registers.i.toNat ((registersUpTo op.x).map s.v) }
      simp only [effect, kind, moved]
      constructor <;> simp [kind, State.setI]
  | awaitKey =>
      simp only [effect, kind, awaited]
      cases s.keypad.take? <;> constructor <;> simp [kind, State.setV]
  | _ =>
      obtain ⟨registers, log, same⟩ := effect_eq_withRegisters d s (by rw [kind]; rfl)
      rw [same]
      constructor <;> simp [kind, State.withRegisters, State.withLog]

/-- No instruction moves a key. -/
theorem keys_effect (d : Dialect) (op : Operation) (s : State) :
    (op.effect d s).keypad.keys = s.keypad.keys := by
  by_cases isAwait : op.opcode = .awaitKey
  · simp only [effect, isAwait, awaited]
    cases taken : s.keypad.take? with
    | none => exact s.keypad.keys_request op.x.val
    | some met => exact Keypad.keys_of_taken taken
  · rw [keypad_effect isAwait]

/-! ### Registers -/

@[simp]
theorem i_setV (s : State) (register : Nibble) (value : UInt8) :
    (s.setV register value).registers.i = s.registers.i :=
  rfl

@[simp]
theorem i_setStack (s : State) (stack : CallStack) :
    (s.setStack stack).registers.i = s.registers.i :=
  rfl

theorem v_advanceIndex (d : Dialect) (op : Operation) (s : State) (register : Nibble) :
    (advanceIndex d op s).v register = s.v register := by
  obtain ⟨i, moved⟩ := exists_advanceIndex d op s
  rw [moved]
  rfl

/-- An instruction sets the index register. -/
def SetsIndex (d : Dialect) (op : Operation) : Prop :=
  match op.opcode with
  | .loadIndex | .addIndex | .glyph => True
  | .store | .load => d.advanceIndex = true
  | _ => False

theorem i_effect (unset : ¬op.SetsIndex d) : (op.effect d s).registers.i = s.registers.i := by
  cases kind : op.opcode with
  | loadIndex | addIndex | glyph =>
      simp only [SetsIndex, kind] at unset
      exact absurd trivial unset
  | store =>
      simp only [SetsIndex, kind] at unset
      simp only [effect, kind, advanceIndex, if_neg unset]
  | load =>
      obtain ⟨v, log, taken⟩ := s.exists_takeBytes s.registers.i.toNat (registersUpTo op.x)
      simp only [SetsIndex, kind] at unset
      simp only [effect, kind, advanceIndex, if_neg unset, taken, State.withRegisters]
  | or | and | xor =>
      simp only [effect, kind, setLogical]
      cases d.clearFlag <;> rfl
  | awaitKey =>
      simp only [effect, kind, awaited]
      cases s.keypad.take? <;> rfl
  | _ => simp [effect, kind, setFlagged, drawn]

/-- An instruction sets a byte register.  One that still waits for a key sets none. -/
def Sets (d : Dialect) (op : Operation) (waiting : Bool) (register : Nibble) : Prop :=
  match op.opcode with
  | .loadByte | .addByte | .move | .random | .readDelay => register = op.x
  | .or | .and | .xor => register = op.x ∨ (d.clearFlag = true ∧ register = Registers.flag)
  | .add | .subtract | .subtractFrom | .shiftRight | .shiftLeft =>
      register = op.x ∨ register = Registers.flag
  | .load => register ≤ op.x
  | .draw => register = Registers.flag
  | .awaitKey => waiting = false ∧ register = op.x
  | _ => False

theorem v_setLogical (d : Dialect) (s : State) (x register : Nibble) (result : UInt8) :
    (setLogical d s x result).v register =
      if d.clearFlag = true ∧ register = Registers.flag then 0
      else if register = x then result
      else s.v register := by
  unfold setLogical
  cases d.clearFlag with
  | false => simp [State.v_setV]
  | true => simp [State.v_setV]

theorem v_effect (unset : ¬op.Sets d s.keypad.take?.isNone register) :
    (op.effect d s).v register = s.v register := by
  cases kind : op.opcode with
  | loadByte | addByte | move | readDelay =>
      simp only [Sets, kind] at unset
      simp only [effect, kind, State.v_setV, if_neg unset]
  | random | draw =>
      simp only [Sets, kind] at unset
      simp only [effect, kind, drawn, State.v_setV, if_neg unset]
      rfl
  | or | and | xor =>
      simp only [Sets, kind, not_or] at unset
      simp only [effect, kind, v_setLogical, if_neg unset.1, if_neg unset.2]
  | add | subtract | subtractFrom | shiftRight | shiftLeft =>
      simp only [Sets, kind, not_or] at unset
      simp only [effect, kind, setFlagged, State.v_setV, if_neg unset.1, if_neg unset.2]
  | load =>
      simp only [Sets, kind, ← mem_registersUpTo] at unset
      simp only [effect, kind, v_advanceIndex]
      exact State.v_takeBytes_of_notMem unset
  | awaitKey =>
      simp only [Sets, kind] at unset
      simp only [effect, kind, awaited]
      cases taken : s.keypad.take? with
      | none => rfl
      | some met =>
          have other : register ≠ op.x := by
            intro same
            exact unset ⟨by rw [taken]; rfl, same⟩
          simp only [State.v_setV, if_neg other]
          rfl
  | store =>
      simp only [effect, kind, v_advanceIndex]
      rfl
  | jump | jumpOffset | skipEqualByte | skipUnequalByte | skipEqual | skipUnequal | skipPressed
  | skipReleased => simp only [effect, kind]
  | _ =>
      simp only [effect, kind]
      rfl

/-! ### The stack -/

theorem depth_effect_call (kind : op.opcode = .call) (met : op.fault? d s = none) :
    (op.effect d s).registers.stack.depth = s.registers.stack.depth + 1 := by
  simp only [effect, kind]
  exact CallStack.depth_pushed (State.room_of_call kind met) _

theorem depth_effect_ret (kind : op.opcode = .ret) (met : op.fault? d s = none) :
    (op.effect d s).registers.stack.depth + 1 = s.registers.stack.depth := by
  have used : s.registers.stack.depth ≠ 0 := by
    intro empty
    simp only [fault?, kind, CallStack.top?_of_empty empty] at met
    cases met
  simp only [effect, kind]
  change s.registers.stack.popped.depth + 1 = s.registers.stack.depth
  rw [CallStack.depth_popped]
  exact Nat.succ_pred_eq_of_ne_zero used

theorem slots_effect {k : Fin 16} (kept : op.opcode = .call → k.val ≠ s.registers.stack.depth) :
    (op.effect d s).registers.stack.slots.get k = s.registers.stack.slots.get k := by
  by_cases isCall : op.opcode = .call
  · simp only [effect, isCall]
    change (s.registers.stack.pushed _).slots[k.val] = s.registers.stack.slots[k.val]
    by_cases room : s.registers.stack.depth < 16
    · have apart := kept isCall
      simp only [CallStack.slots_pushed room]
      exact Vector.getElem_set_ne room k.isLt apart.symm
    · simp only [CallStack.pushed_of_full room]
  by_cases isReturn : op.opcode = .ret
  · simp only [effect, isReturn]
    change s.registers.stack.popped.slots.get k = _
    rw [CallStack.slots_popped]
  · rw [stack_effect isCall isReturn]

/-! ### All parts -/

/-- All that an instruction may change.  One that awaits a key may still wait in the end. -/
structure Footprint (d : Dialect) (op : Operation) (waiting : Bool) (s t : State) : Prop
    extends op.KeepsDevices s t where
  memory : ∀ place, ¬op.WritesTo s place → t.memory.byte place = s.memory.byte place
  keys : t.keypad.keys = s.keypad.keys
  request : op.opcode ≠ .awaitKey → t.keypad = s.keypad
  called : op.opcode = .call → t.registers.stack.depth = s.registers.stack.depth + 1
  returned : op.opcode = .ret → t.registers.stack.depth + 1 = s.registers.stack.depth
  depth : op.opcode ≠ .call → op.opcode ≠ .ret →
    t.registers.stack.depth = s.registers.stack.depth
  slots : ∀ k : Fin 16, (op.opcode = .call → k.val ≠ s.registers.stack.depth) →
    t.registers.stack.slots.get k = s.registers.stack.slots.get k
  index : ¬op.SetsIndex d → t.registers.i = s.registers.i
  registers : ∀ register, ¬op.Sets d waiting register → t.v register = s.v register

theorem footprint_effect (met : op.fault? d s = none) :
    op.Footprint d s.keypad.take?.isNone s (op.effect d s) where
  toKeepsDevices := keepsDevices_effect d op s
  memory := fun _ => byte_effect met
  keys := keys_effect d op s
  request := keypad_effect
  called := fun kind => depth_effect_call kind met
  returned := fun kind => depth_effect_ret kind met
  depth := fun notCall notReturn => by rw [stack_effect notCall notReturn]
  slots := fun _ => slots_effect
  index := i_effect
  registers := fun _ => v_effect

/-- Whether an instruction still waits is a matter of those that await a key. -/
theorem sets_iff_of_waiting {waiting other : Bool}
    (same : op.opcode = .awaitKey → waiting = other) :
    op.Sets d waiting register ↔ op.Sets d other register := by
  cases kind : op.opcode with
  | awaitKey => rw [same kind]
  | _ => simp only [Sets, kind]

end Operation

/-! ## Steps -/

namespace State

variable {d : Dialect} {op : Operation} {s : State}

theorem byte_stepped (d : Dialect) (op : Operation) (s : State) :
    (s.stepped d op).memory.byte = (op.effect d s.fetched).memory.byte :=
  rfl

theorem v_stepped (d : Dialect) (op : Operation) (s : State) (register : Nibble) :
    (s.stepped d op).v register = (op.effect d s.fetched).v register :=
  rfl

theorem i_stepped (d : Dialect) (op : Operation) (s : State) :
    (s.stepped d op).registers.i = (op.effect d s.fetched).registers.i :=
  rfl

/-- The program counter and the bytes in memory settle the instruction. -/
theorem instruction?_congr {t : State} (pc : t.registers.pc = s.registers.pc)
    (bytes : t.memory.byte = s.memory.byte) : t.instruction? = s.instruction? := by
  simp only [instruction?, fetchFault?, word, highPlace, lowPlace, pc, bytes]

/-- A step is ready for its instruction, unless the instruction meets a fault. -/
theorem ready_of_instruction? (spelled : s.instruction? = some op) (met : op.fault? d s = none) :
    s.ready d = .ok op := by
  unfold instruction? at spelled
  cases fetch : s.fetchFault? with
  | some fault =>
      rw [fetch] at spelled
      cases spelled
  | none =>
      rw [fetch] at spelled
      exact ready_eq_ok_iff.mpr ⟨fetch, spelled, met⟩

/-- Beyond its instruction a step changes the program counter, the record of accesses and the count
of steps. -/
theorem footprint_stepped (met : op.fault? d s = none) :
    op.Footprint d (s.report d op).waiting s (s.stepped d op) := by
  have effect : op.Footprint d s.keypad.take?.isNone s.fetched (op.effect d s.fetched) :=
    Operation.footprint_effect (s := s.fetched) met
  exact { effect with
    registers := fun register unset => effect.registers register fun set =>
      unset ((Operation.sets_iff_of_waiting waiting_report).mpr set) }

end State

namespace Machine

/-- A step of a machine carries out an instruction and leads to another machine. -/
def Performs (m : Machine) (op : Operation) (after : Machine) : Prop :=
  m.state.instruction? = some op ∧ ∃ report, m.call .step = (.ok (some report), after)

theorem performs_of_met {m : Machine} {op : Operation} (spelled : m.state.instruction? = some op)
    (met : op.fault? m.config.dialect m.state = none) :
    m.Performs op (m.withState (m.state.stepped m.config.dialect op)) :=
  ⟨spelled, _, call_step_of_ready (State.ready_of_instruction? spelled met)⟩

theorem Performs.met {m after : Machine} {op : Operation} (performs : m.Performs op after) :
    op.fault? m.config.dialect m.state = none ∧
      after = m.withState (m.state.stepped m.config.dialect op) := by
  obtain ⟨spelled, report, done⟩ := performs
  obtain ⟨found, isReady, -⟩ := ready_of_call_step done
  have same := State.instruction?_of_ready isReady
  rw [spelled] at same
  cases same
  rw [call_step_of_ready isReady] at done
  cases done
  exact ⟨(State.ready_eq_ok_iff.mp isReady).2.2, rfl⟩

/-- A machine after power-up that stands at one word. -/
def facing (high low : UInt8) : Machine :=
  (new {}).withState { State.initial (some 0) with memory := .ofWord high low [] }

theorem instruction?_facing {high low : UInt8} {op : Operation}
    (decoded : Operation.decode? (256 * high.toNat + low.toNat : Nat) = some op) :
    (facing high low).state.instruction? = some op := by
  have fetch : (facing high low).state.fetchFault? = none := rfl
  have spelled : (facing high low).state.word = (256 * high.toNat + low.toNat : Nat) := by
    rw [State.word_eq rfl (by decide)]
    change 256 * ((Memory.ofWord high low []).bytes[512].toNat : Int) +
      (Memory.ofWord high low []).bytes[513].toNat = _
    rw [Memory.high_ofWord, Memory.low_ofWord]
    rfl
  simp only [State.instruction?, fetch, spelled, decoded]

/-- What a step may change, by the instruction that it has carried out.  Memory: only the three
places of the decimal digits and the places where registers are stored.  The screen: only clearing
and drawing.  The timers: each only by the instruction that sets it.  The keypad: only the request
for a key, by the instruction that awaits one, and never a key.  The random numbers: only drawing
one, in a way that depends on nothing but them.  The stack: a call makes it deeper by one and
writes to the slot behind the old ones alone, a return makes it shallower by one.  The index
register and each byte register: only the instructions that set it.  The step is counted, and
the configuration stays as it is. -/
theorem step_footprint {m after : Machine} {report : StepReport}
    (done : m.call .step = (.ok (some report), after)) :
    m.state.instruction? = some report.operation ∧
      report.operation.Footprint m.config.dialect report.waiting m.state after.state ∧
      after.state.cycles = m.state.cycles + 1 ∧ after.config = m.config := by
  obtain ⟨op, isReady, rfl⟩ := ready_of_call_step done
  rw [call_step_of_ready isReady] at done
  cases done
  obtain ⟨-, -, met⟩ := State.ready_eq_ok_iff.mp isReady
  have counted : (op.effect m.config.dialect m.state.fetched).cycles = m.state.cycles :=
    Operation.cycles_effect _ op m.state.fetched
  refine ⟨State.instruction?_of_ready isReady, State.footprint_stepped met, ?_, rfl⟩
  exact congrArg (· + 1) counted

/-- A storing of two registers that writes over its own word. -/
theorem step_footprint_overwrite :
    ∃ (m after : Machine) (report : StepReport),
      m.call .step = (.ok (some report), after) ∧ report.operation = ⟨.store, 0xF155⟩ ∧
        (∀ place : Address, place.val ≠ 512 → place.val ≠ 513 →
          after.state.memory.byte place = m.state.memory.byte place) ∧
        (∀ register, after.state.v register = m.state.v register) ∧
        after.state.registers.stack.depth = m.state.registers.stack.depth := by
  let m := (facing 0xF1 0x55).withState ((facing 0xF1 0x55).state.setI 512)
  have spelled : m.state.instruction? = some ⟨.store, 0xF155⟩ :=
    calc
      m.state.instruction? = (facing 0xF1 0x55).state.instruction? :=
        State.instruction?_congr rfl rfl
      _ = some ⟨.store, 0xF155⟩ := instruction?_facing rfl
  have done := call_step_of_ready (State.ready_of_instruction? spelled rfl)
  obtain ⟨-, footprint, -⟩ := step_footprint done
  refine ⟨m, _, _, done, rfl, ?_, ?_, footprint.depth nofun nofun⟩
  · intro place notFirst notSecond
    refine footprint.memory place ?_
    rintro ⟨lower, upper⟩
    have lower : 512 ≤ place.val := lower
    have upper : place.val ≤ 512 + 1 := upper
    omega
  · intro register
    exact footprint.registers register id

end Machine

end ChipEight
