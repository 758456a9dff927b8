import ChipEight.Proofs.Restore
import ChipEight.Proofs.Step

/-!
# States that a host can bring about

Most of what a snapshot has to satisfy holds of every state, because of how states are made.
Three numbers are free: the program counter, and the two numbers of the keypad.  What calls
from power-up on can make of them is `State.Regular`: the keypad holds numbers of registers
and keys, and the program counter is at most one skip behind the last place from which a
word can be fetched.
-/

namespace ChipEight

/-- The three free numbers are what calls can make of them. -/
structure State.Regular (s : State) : Prop where
  pc_nonneg : 0 ≤ s.registers.pc
  pc_le : s.registers.pc ≤ 0x1002
  keypad : s.keypad.InRange

/-! ## The keypad -/

namespace Keypad

theorem InRange.press {k : Keypad} (inRange : k.InRange) (number : Fin 16) (down : Bool) :
    (k.press number down).InRange where
  register := inRange.register
  pending := by
    intro key held
    simp only [Keypad.press] at held
    by_cases meets : down ∧ !k.keys[number] ∧ k.waiting ∧ k.pending.isNone
    · rw [if_pos meets] at held
      cases held
      omega
    · rw [if_neg meets] at held
      exact inRange.pending key held

theorem InRange.request {k : Keypad} (inRange : k.InRange) (register : Nibble) :
    (k.request register.val).InRange := by
  unfold Keypad.request
  by_cases open_ : k.waiting = true
  · rw [if_pos open_]
    exact inRange
  · rw [if_neg open_]
    have bounds : 0 ≤ (register.val : Int) ∧ (register.val : Int) ≤ 15 := by omega
    exact ⟨bounds, nofun⟩

theorem InRange.take {k rest : Keypad} {key : Int} (inRange : k.InRange)
    (taken : k.take? = some (key, rest)) : rest.InRange := by
  unfold Keypad.take? at taken
  by_cases open_ : k.waiting = true
  · rw [if_pos open_] at taken
    obtain ⟨held, pending, same⟩ := Option.map_eq_some_iff.mp taken
    cases same
    exact ⟨inRange.register, nofun⟩
  · rw [if_neg open_] at taken
    cases taken

end Keypad

/-! ## Instructions -/

/-- A byte register holds a small number as it is. -/
theorem toNat_ofInt {n : Int} (lower : 0 ≤ n) (upper : n ≤ 255) :
    ((UInt8.ofInt n).toNat : Int) = n := by
  simp only [UInt8.ofInt, UInt8.toNat_ofNat']
  omega

theorem State.v_setV (s : State) (x y : Nibble) (value : UInt8) :
    (s.setV x value).v y = if y = x then value else s.v y := by
  change (s.registers.v.set x value)[y] = if y = x then value else s.registers.v[y]
  simp [Vector.getElem_set, Fin.ext_iff, eq_comm]

namespace Operation

variable {d : Dialect} {op : Operation} {s : State}

@[simp]
theorem keypad_setV (s : State) (register : Nibble) (value : UInt8) :
    (s.setV register value).keypad = s.keypad :=
  rfl

@[simp]
theorem keypad_setI (s : State) (value : UInt16) : (s.setI value).keypad = s.keypad :=
  rfl

@[simp]
theorem keypad_setStack (s : State) (stack : CallStack) :
    (s.setStack stack).keypad = s.keypad :=
  rfl

@[simp]
theorem keypad_advanceIndex (d : Dialect) (op : Operation) (s : State) :
    (advanceIndex d op s).keypad = s.keypad := by
  unfold advanceIndex
  cases d.advanceIndex <;> rfl

@[simp]
theorem keypad_setLogical (d : Dialect) (s : State) (x : Nibble) (result : UInt8) :
    (setLogical d s x result).keypad = s.keypad := by
  unfold setLogical
  cases d.clearFlag <;> rfl

@[simp]
theorem keypad_takeBytes (s : State) (address : Nat) (registers : List Nibble) :
    (s.takeBytes address registers).keypad = s.keypad := by
  induction registers generalizing s address with
  | nil => rfl
  | cons register registers ih =>
      rw [State.takeBytes, ih]
      rfl

/-- Only waiting for a key touches the keypad. -/
theorem keypad_effect (other : op.opcode ≠ .awaitKey) : (op.effect d s).keypad = s.keypad := by
  cases kind : op.opcode with
  | awaitKey => exact absurd kind other
  | _ => simp [effect, kind, setFlagged, drawn]

theorem inRange_effect (inRange : s.keypad.InRange) : (op.effect d s).keypad.InRange := by
  by_cases kind : op.opcode = .awaitKey
  · simp only [effect, kind, awaited]
    cases taken : s.keypad.take? with
    | none => exact inRange.request op.x
    | some result => exact inRange.take taken
  · rw [keypad_effect kind]
    exact inRange

end Operation

/-! ## The flow of a program -/

namespace Flow

/-- A jump goes to where an instruction fits. -/
def Lands : Flow → Prop
  | jump target => 0 ≤ target ∧ target ≤ 0xFFE
  | _ => True

theorem lands_skipIf (condition : Bool) : (skipIf condition).Lands := by
  cases condition <;> trivial

theorem lands_jump {target : Nat} (room : jumpFault? target = none) : (jump target).Lands := by
  have bound := jumpFault?_eq_none.mp room
  simp only [Lands]
  omega

theorem Lands.apply_nonneg {flow : Flow} (lands : flow.Lands) {pc : Int} (nonneg : 0 ≤ pc) :
    0 ≤ flow.apply pc := by
  cases flow <;> simp only [Lands, apply] at lands ⊢ <;> omega

theorem Lands.apply_le {flow : Flow} (lands : flow.Lands) {pc : Int} (inside : pc ≤ 0xFFE) :
    flow.apply pc ≤ 0x1002 := by
  cases flow <;> simp only [Lands, apply] at lands ⊢ <;> omega

end Flow

namespace Operation

variable {d : Dialect} {op : Operation} {s : State}

theorem lands_flow (met : op.fault? d s = none) : (op.flow d s).Lands := by
  cases kind : op.opcode with
  | ret =>
      simp only [fault?, kind] at met
      cases top : s.registers.stack.top? with
      | none => simp [top] at met
      | some target =>
          simp only [top] at met
          simp only [flow, kind, top, Option.getD_some]
          exact Flow.lands_jump met
  | jump | jumpOffset =>
      simp only [fault?, kind] at met
      simp only [flow, kind]
      exact Flow.lands_jump met
  | call =>
      simp only [fault?, kind, Option.or_eq_none_iff] at met
      simp only [flow, kind]
      exact Flow.lands_jump met.1
  | awaitKey =>
      simp only [flow, kind]
      cases s.keypad.take?.isSome <;> trivial
  | skipEqualByte | skipUnequalByte | skipEqual | skipUnequal | skipPressed | skipReleased =>
      simp only [flow, kind]
      exact Flow.lands_skipIf _
  | _ =>
      simp only [flow, kind]
      trivial

end Operation

/-! ## Steps -/

namespace State

theorem regular_initial (seed : Option Int) (fresh : Generator) : (initial seed fresh).Regular where
  pc_nonneg := by
    change 0 ≤ (0x200 : Int)
    decide
  pc_le := by
    change (0x200 : Int) ≤ 0x1002
    decide
  keypad := Keypad.inRange_initial

/-- A step keeps a state regular.  Where it comes to its end, the program counter was at a
place from which a word could be fetched, and so it is at most one skip further. -/
theorem Regular.step {s : State} (regular : s.Regular) (d : Dialect) : (s.step d).2.Regular := by
  rw [step_eq]
  cases isReady : s.ready d with
  | error fault =>
      obtain ⟨log, failedEq⟩ := s.failed_eq_withLog
      simp only [failedEq]
      exact ⟨regular.pc_nonneg, regular.pc_le, regular.keypad⟩
  | ok op =>
      obtain ⟨fetched, -, met⟩ := ready_eq_ok_iff.mp isReady
      obtain ⟨lower, upper⟩ := fetchFault?_eq_none.mp fetched
      have lands := Operation.lands_flow met
      exact ⟨lands.apply_nonneg lower, lands.apply_le upper,
        Operation.inRange_effect (s := s.fetched) regular.keypad⟩

/-- The free numbers of what is restored, whatever the state was before. -/
theorem free_numbers_restore {s t : State} {source : Restorable} {fresh : Generator}
    (restored : s.restore source fresh = .ok t) :
    (0 ≤ t.registers.pc ∧ t.registers.pc ≤ 0xFFE) ∧ t.keypad.InRange := by
  cases source with
  | foreign value => cases restored
  | snapshot snapshot =>
      cases valid : snapshot.validate with
      | error complaint => simp [State.restore, valid] at restored
      | ok _ =>
          obtain ⟨u, rebuilt, -, captured⟩ := restore_of_valid valid s fresh
          rw [restored] at rebuilt
          cases rebuilt
          exact Snapshot.free_numbers_of_valid valid captured

theorem Regular.restore {s t : State} {source : Restorable} {fresh : Generator}
    (restored : s.restore source fresh = .ok t) : t.Regular := by
  obtain ⟨⟨lower, upper⟩, keypad⟩ := free_numbers_restore restored
  exact ⟨lower, by omega, keypad⟩

end State

/-! ## Programs in memory -/

/-- The bytes of a program stand in memory from the place of programs on. -/
def Memory.Holds (m : Memory) (program : List UInt8) : Prop :=
  ∀ k byte, (inside : k < 3584) → program[k]? = some byte → m.bytes[k + 512] = byte

/-- A step is ready for the instruction that two bytes of a program in memory spell. -/
theorem State.ready_of_holds {s : State} {d : Dialect} {program : List UInt8} {k : Nat}
    {high low : UInt8} {op : Operation} (holds : s.memory.Holds program)
    (here : s.registers.pc = (k + 512 : Nat)) (inside : k + 1 < 3584)
    (first : program[k]? = some high) (second : program[k + 1]? = some low)
    (decoded : Operation.decode? (256 * high.toNat + low.toNat : Nat) = some op)
    (met : op.fault? d s = none) : s.ready d = .ok op := by
  have spelled : 256 * s.memory.bytes[k + 512].toNat + s.memory.bytes[k + 512 + 1].toNat =
      256 * high.toNat + low.toNat := by
    have next : s.memory.bytes[k + 512 + 1] = low := by
      rw [← holds (k + 1) low inside second]
    rw [holds k high (by omega) first, next]
  exact ready_of_bytes here (by omega) spelled decoded met

/-! ## Calls -/

namespace Machine

/-- Every call, whether it fails or not, keeps the state of a machine regular. -/
theorem regular_call {m : Machine} (regular : m.state.Regular) (call : Call) :
    (m.call call).2.state.Regular := by
  cases call with
  | load program =>
      simp only [Machine.call, load]
      cases m.state.memory.loadProgram program with
      | error fault => exact regular
      | ok memory => exact ⟨regular.pc_nonneg, regular.pc_le, regular.keypad⟩
  | step =>
      rw [call_step_eq]
      exact regular.step m.config.dialect
  | tick => exact ⟨regular.pc_nonneg, regular.pc_le, regular.keypad⟩
  | setKey key down =>
      simp only [Machine.call, setKey, Keypad.update]
      cases Keypad.key key with
      | error refusal => exact regular
      | ok number =>
          exact ⟨regular.pc_nonneg, regular.pc_le, regular.keypad.press number down⟩
  | reset fresh => exact State.regular_initial _ fresh
  | restore source fresh =>
      simp only [Machine.call, restore]
      cases restored : m.state.restore source fresh with
      | error failure => exact regular
      | ok state => exact State.Regular.restore restored

/-- Any calls keep the state of a machine regular. -/
theorem regular_callAll {m : Machine} (regular : m.state.Regular) (calls : List Call) :
    (m.callAll calls).state.Regular := by
  induction calls generalizing m with
  | nil => exact regular
  | cons call calls ih => exact ih (regular_call regular call)

/-- Whatever a host does with a new machine, its state is regular. -/
theorem regular_callAll_new (config : Config) (fresh : Generator) (calls : List Call) :
    ((new config fresh).callAll calls).state.Regular := by
  have powerUp : (new config fresh).state.Regular := State.regular_initial config.seed fresh
  exact regular_callAll powerUp calls

/-! ## Which snapshots a host gets back -/

/-- The snapshot of a machine that a host has brought about is valid exactly as long as the
program counter is at a place from which a word can be fetched.  Then every machine takes the
snapshot, and has it as its own snapshot afterwards.  Otherwise the program has run over the
end of memory, and every machine refuses the snapshot for its program counter. -/
theorem restore_capture (config : Config) (fresh : Generator) (calls : List Call)
    (other : Machine) (otherFresh : Generator) :
    let m := (new config fresh).callAll calls
    let outcome := other.call (.restore (.snapshot m.capture) otherFresh)
    if m.state.registers.pc ≤ 0xFFE then
      m.capture.validate = .ok () ∧
        ∃ after, outcome = (.ok none, after) ∧ after.capture = m.capture
    else
      m.capture.validate = .error (.invalid .pc) ∧
        outcome = (.error (.restore (.complaint (.invalid .pc))), other) := by
  intro m outcome
  have regular : m.state.Regular := regular_callAll_new config fresh calls
  have checked : m.capture.validate = _ := Snapshot.validate_ofState regular.keypad
  have lower := regular.pc_nonneg
  by_cases inside : m.state.registers.pc ≤ 0xFFE
  · rw [if_pos ⟨lower, inside⟩] at checked
    obtain ⟨after, restored, -, -, captured⟩ := restore_of_valid checked other otherFresh
    have own : (m.capture.seeded otherFresh).frozen = m.capture :=
      Snapshot.frozen_seeded_ofState m.state otherFresh
    rw [if_pos inside]
    refine ⟨checked, after, ?_, captured.trans own⟩
    simp only [outcome, call, restored, settle]
  · rw [if_neg fun both => inside both.2] at checked
    rw [if_neg inside]
    refine ⟨checked, ?_⟩
    simp only [outcome, call, restore_of_invalid checked other otherFresh, settle]

theorem call_step_of_ready {m : Machine} {op : Operation}
    (isReady : m.state.ready m.config.dialect = .ok op) :
    m.call .step = (.ok (some (m.state.report m.config.dialect op)),
      m.withState (m.state.stepped m.config.dialect op)) := by
  rw [call_step_eq, State.step_eq, isReady]
  rfl

theorem ready_of_call_step {m after : Machine} {report : StepReport}
    (stepped : m.call .step = (.ok (some report), after)) :
    ∃ op, m.state.ready m.config.dialect = .ok op ∧
      m.state.report m.config.dialect op = report := by
  cases isReady : m.state.ready m.config.dialect with
  | error fault => simp [call, step, State.step_eq, isReady] at stepped
  | ok op =>
      rw [call_step_of_ready isReady] at stepped
      cases stepped
      exact ⟨op, rfl, rfl⟩

/-- A program that jumps to the last word of memory, where it loads zero into a register. -/
def overrun : List UInt8 :=
  0x1F :: 0xFE :: (List.replicate 3580 0 ++ [0x60, 0x00])

theorem length_overrun : overrun.length = 3584 := by
  simp [overrun, -List.reduceReplicate]

theorem overrun_last (index : Nat) :
    overrun[index + 3582]? = ([0x60, 0x00] : List UInt8)[index]? := by
  rw [overrun, List.getElem?_cons_succ, List.getElem?_cons_succ,
    List.getElem?_append_right (by rw [List.length_replicate]; omega), List.length_replicate,
    Nat.add_sub_cancel]

/-- A machine takes any program that fits behind the glyphs and holds it from then on. -/
theorem call_load_of_fits (m : Machine) {program : List UInt8} (fits : program.length ≤ 3584) :
    ∃ memory : Memory,
      (m.call (.load program)).2 = m.withState { m.state with memory := memory } ∧
        memory.Holds program := by
  refine ⟨_, by simp only [call, load, Memory.loadProgram, if_pos fits, settle]; rfl, ?_⟩
  intro k byte inside found
  simp [found]

theorem ready_overrun {m : Machine} (powerUp : m.state.registers.pc = 0x200) :
    ∃ memory : Memory,
      (m.call (.load overrun)).2 = m.withState { m.state with memory := memory } ∧
        (m.withState { m.state with memory := memory }).state.ready m.config.dialect =
          .ok ⟨.jump, 0x1FFE⟩ ∧
        memory.Holds overrun := by
  obtain ⟨memory, loaded, holds⟩ := call_load_of_fits m (Nat.le_of_eq length_overrun)
  have here : (m.withState { m.state with memory := memory }).state.registers.pc =
      (0 + 512 : Nat) :=
    powerUp
  exact ⟨memory, loaded, State.ready_of_holds holds here (by decide) rfl rfl rfl rfl, holds⟩

theorem pc_overrun {m : Machine} (powerUp : m.state.registers.pc = 0x200) :
    (m.callAll [.load overrun, .step, .step]).state.registers.pc = 0x1000 := by
  obtain ⟨memory, loaded, jumps, holds⟩ := ready_overrun powerUp
  let first := m.withState { m.state with memory := memory }
  let second := first.withState (first.state.stepped m.config.dialect ⟨.jump, 0x1FFE⟩)
  have here : second.state.registers.pc = (3582 + 512 : Nat) := rfl
  have loads : second.state.ready m.config.dialect = .ok ⟨.loadByte, 0x6000⟩ :=
    State.ready_of_holds (s := second.state) holds here (by decide) (overrun_last 0)
      (overrun_last 1) rfl rfl
  calc
    (m.callAll [.load overrun, .step, .step]).state.registers.pc =
        (first.callAll [.step, .step]).state.registers.pc := by rw [callAll, loaded]
    _ = (second.callAll [.step]).state.registers.pc := by
        rw [callAll, call_step_of_ready jumps]
        rfl
    _ = (second.state.stepped m.config.dialect ⟨.loadByte, 0x6000⟩).registers.pc := by
        rw [callAll, call_step_of_ready loads]
        rfl
    _ = 0x1000 := rfl

/-- A machine that has run over the end of memory refuses its own snapshot. -/
theorem restore_capture_overrun :
    let m := (new {}).callAll [.load overrun, .step, .step]
    m.capture.validate = .error (.invalid .pc) ∧
      m.call (.restore (.snapshot m.capture) (.ofSeed 0)) =
        (.error (.restore (.complaint (.invalid .pc))), m) := by
  -- Stated for any calls, so that none of them is evaluated.
  have general : ∀ calls : List Call,
      ((new {}).callAll calls).state.registers.pc = 0x1000 →
        ((new {}).callAll calls).capture.validate = .error (.invalid .pc) ∧
          ((new {}).callAll calls).call
              (.restore (.snapshot ((new {}).callAll calls).capture) (.ofSeed 0)) =
            (.error (.restore (.complaint (.invalid .pc))), (new {}).callAll calls) := by
    intro calls beyond
    have outcome := restore_capture {} (.ofSeed 0) calls ((new {}).callAll calls) (.ofSeed 0)
    simp only [beyond] at outcome
    exact outcome
  exact general _ (pc_overrun rfl)

end Machine

end ChipEight
