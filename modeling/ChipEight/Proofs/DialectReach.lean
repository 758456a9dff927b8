import Mathlib.Data.List.Basic
import ChipEight.Proofs.KeyWait

/-!
# How far a dialect reaches

Each choice that a dialect makes is about a few instructions, and about some of these only where
the registers let it make a difference (`Operation.Governed`).  All others read nothing of the
dialect, and a sprite that lies on the screen is drawn the same whether sprites end at the edge or
wrap around.  So machines of different dialects go the same way until one of them comes to an
instruction that a choice governs on which the dialects differ.  The main statement is
`Machine.answers_of_ungoverned`.
-/

namespace ChipEight

/-! ## Sprites on the screen -/

namespace Memory

theorem length_window (m : Memory) (address count : Nat) :
    (m.window address count).length = count := by
  induction count generalizing address with
  | zero => rfl
  | succ count ih => rw [window, List.length_cons, ih]

end Memory

namespace Screen

/-- A row that ends on the screen leaves nothing to clip or to wrap. -/
theorem columns_of_inside {x : Int} (inside : x ≤ 56) (data : UInt8) (clip wrap : Bool) :
    columns x data clip = columns x data wrap := by
  apply List.filterMap_congr
  intro bit member
  have narrow := List.mem_range.mp member
  have onScreen : x + bit < 64 := by omega
  simp only [if_pos onScreen]

theorem rowPositions_of_inside {x y : Int} (right : x ≤ 56) (lower : y < 32) (data : UInt8)
    (clip wrap : Bool) : rowPositions x y data clip = rowPositions x y data wrap := by
  have onScreen : ¬32 ≤ y := Int.not_le.mpr lower
  simp only [rowPositions, onScreen, and_false, if_false, columns_of_inside right data clip wrap]

/-- A sprite that ends on the screen hits the same positions in every dialect. -/
theorem spritePositions_of_inside {x y : Int} {sprite : List UInt8} (right : x % 64 ≤ 56)
    (lower : y % 32 + sprite.length ≤ 32) (clip wrap : Bool) :
    spritePositions x y sprite clip = spritePositions x y sprite wrap := by
  apply List.flatMap_congr
  rintro ⟨data, k⟩ member
  obtain ⟨-, below, -⟩ := List.mem_zipIdx member
  have row : y % 32 + k < 32 := by omega
  simp only [rowPositions_of_inside right row data clip wrap]

theorem draw_of_inside {x y : Nat} {sprite : List UInt8} (s : Screen)
    (inside : 1 ≤ sprite.length → x % 64 ≤ 56 ∧ y % 32 + sprite.length ≤ 32)
    (clip wrap : Bool) : s.draw x y sprite clip = s.draw x y sprite wrap := by
  cases sprite with
  | nil => rfl
  | cons data rest =>
      obtain ⟨right, lower⟩ := inside (Nat.succ_pos rest.length)
      rw [draw, draw, spritePositions_of_inside (by omega) (by omega) clip wrap]

end Screen

/-! ## Governed instructions -/

namespace Operation

/-- A sprite of at least one row reaches beyond the right or the lower edge of the screen. -/
def Overhangs (op : Operation) (s : State) : Prop :=
  1 ≤ op.n.val ∧ (56 < (s.v op.x).toNat % 64 ∨ 32 < (s.v op.y).toNat % 32 + op.n.val)

/-- A choice on which two dialects differ makes a difference to an instruction. -/
def Governed (d e : Dialect) (op : Operation) (s : State) : Prop :=
  match op.opcode with
  | .shiftRight | .shiftLeft => d.shiftFromY ≠ e.shiftFromY ∧ s.v op.x ≠ s.v op.y
  | .store | .load => d.advanceIndex ≠ e.advanceIndex
  | .jumpOffset => d.offsetFromX ≠ e.offsetFromX ∧ s.v op.x ≠ s.v Registers.first
  | .or | .and | .xor => d.clearFlag ≠ e.clearFlag
  | .draw => d.clipSprites ≠ e.clipSprites ∧ op.Overhangs s
  | _ => False

variable {d e : Dialect} {op : Operation} {s : State}

/-- A choice makes no difference between values that are the same. -/
theorem choice_eq {first second : Bool} {chosen other : UInt8}
    (same : ¬(first ≠ second ∧ chosen ≠ other)) :
    (if first then chosen else other) = if second then chosen else other := by
  by_cases agree : first = second
  · rw [agree]
  · have equal : chosen = other := by
      by_contra differ
      exact same ⟨agree, differ⟩
    rw [equal, ite_self, ite_self]

theorem offsetTarget_of_ungoverned (kind : op.opcode = .jumpOffset)
    (ungoverned : ¬op.Governed d e s) : offsetTarget d op s = offsetTarget e op s := by
  simp only [Governed, kind] at ungoverned
  rw [offsetTarget, offsetTarget, apply_ite s.v, apply_ite s.v, choice_eq ungoverned]

theorem shiftOperand_of_ungoverned (kind : op.opcode = .shiftRight ∨ op.opcode = .shiftLeft)
    (ungoverned : ¬op.Governed d e s) : shiftOperand d op s = shiftOperand e op s := by
  have same : ¬(d.shiftFromY ≠ e.shiftFromY ∧ s.v op.y ≠ s.v op.x) := by
    rintro ⟨choices, registers⟩
    apply ungoverned
    rcases kind with kind | kind
    · simp only [Governed, kind]
      exact ⟨choices, registers.symm⟩
    · simp only [Governed, kind]
      exact ⟨choices, registers.symm⟩
  exact choice_eq same

theorem drawn_of_ungoverned (kind : op.opcode = .draw) (ungoverned : ¬op.Governed d e s) :
    drawn d op s = drawn e op s := by
  simp only [Governed, kind] at ungoverned
  by_cases agree : d.clipSprites = e.clipSprites
  · rw [drawn, drawn, agree]
  · have onScreen : ¬op.Overhangs s := fun overhangs => ungoverned ⟨agree, overhangs⟩
    let sprite := s.memory.window s.registers.i.toNat op.n.val
    have rows : sprite.length = op.n.val := s.memory.length_window _ _
    have inside : 1 ≤ sprite.length →
        (s.v op.x).toNat % 64 ≤ 56 ∧ (s.v op.y).toNat % 32 + sprite.length ≤ 32 := by
      rw [rows]
      unfold Overhangs at onScreen
      omega
    have same := s.screen.draw_of_inside inside d.clipSprites e.clipSprites
    simp only [drawn, same, sprite]

theorem fault?_of_ungoverned (ungoverned : ¬op.Governed d e s) :
    op.fault? d s = op.fault? e s := by
  cases kind : op.opcode with
  | jumpOffset => simp only [fault?, kind, offsetTarget_of_ungoverned kind ungoverned]
  | _ => simp only [fault?, kind]

theorem flow_of_ungoverned (ungoverned : ¬op.Governed d e s) : op.flow d s = op.flow e s := by
  cases kind : op.opcode with
  | jumpOffset => simp only [flow, kind, offsetTarget_of_ungoverned kind ungoverned]
  | _ => simp only [flow, kind]

theorem effect_of_ungoverned (ungoverned : ¬op.Governed d e s) :
    op.effect d s = op.effect e s := by
  cases kind : op.opcode with
  | shiftRight => simp only [effect, kind, shiftOperand_of_ungoverned (.inl kind) ungoverned]
  | shiftLeft => simp only [effect, kind, shiftOperand_of_ungoverned (.inr kind) ungoverned]
  | draw => simp only [effect, kind, drawn_of_ungoverned kind ungoverned]
  | store | load =>
      simp only [Governed, kind, ne_eq, not_not] at ungoverned
      simp only [effect, kind, advanceIndex, ungoverned]
  | or | and | xor =>
      simp only [Governed, kind, ne_eq, not_not] at ungoverned
      simp only [effect, kind, setLogical, ungoverned]
  | _ => simp only [effect, kind]

end Operation

/-! ## Steps -/

namespace State

/-- The instruction that the word at the program counter stands for, if there are both.  A step
sets about carrying it out, and may still meet a fault on the way. -/
def instruction? (s : State) : Option Operation :=
  match s.fetchFault? with
  | some _ => none
  | none => Operation.decode? s.word

variable {d e : Dialect} {s : State}

theorem ready_of_ungoverned
    (ungoverned : ∀ op, s.instruction? = some op → ¬op.Governed d e s) :
    s.ready d = s.ready e := by
  unfold instruction? at ungoverned
  unfold ready
  cases fetch : s.fetchFault? with
  | some fault => rfl
  | none =>
      rw [fetch] at ungoverned
      cases decoded : Operation.decode? s.word with
      | none => rfl
      | some op =>
          have same := Operation.fault?_of_ungoverned (ungoverned op decoded)
          simp only [same]

theorem instruction?_of_ready {op : Operation} (isReady : s.ready d = .ok op) :
    s.instruction? = some op := by
  obtain ⟨fetch, decoded, -⟩ := ready_eq_ok_iff.mp isReady
  simp only [instruction?, fetch, decoded]

/-- Where no choice makes a difference to the instruction, a step does the same in both dialects. -/
theorem step_of_ungoverned
    (ungoverned : ∀ op, s.instruction? = some op → ¬op.Governed d e s) : s.step d = s.step e := by
  rw [step_eq, step_eq, ← ready_of_ungoverned ungoverned]
  cases isReady : s.ready d with
  | error fault => rfl
  | ok op =>
      have here := ungoverned op (instruction?_of_ready isReady)
      have flow : op.flow d s = op.flow e s := Operation.flow_of_ungoverned here
      have effect : op.effect d s.fetched = op.effect e s.fetched :=
        Operation.effect_of_ungoverned here
      simp only [report, stepped, flow, effect]

end State

/-! ## Machines -/

namespace Machine

/-- Through some calls, one after the other, a machine comes to no instruction to which it makes a
difference whether the dialect is its own or another one. -/
def Ungoverned (other : Dialect) (m : Machine) : List Call → Prop
  | [] => True
  | call :: rest =>
      (call = .step → ∀ op, m.state.instruction? = some op →
        ¬op.Governed m.config.dialect other m.state) ∧
      (m.call call).2.Ungoverned other rest

variable {m n : Machine}

theorem call_of_ungoverned {call : Call} (same : m.state = n.state) (routine : call.Routine)
    (ungoverned : call = .step → ∀ op, m.state.instruction? = some op →
      ¬op.Governed m.config.dialect n.config.dialect m.state) :
    (m.call call).1 = (n.call call).1 ∧ (m.call call).2.state = (n.call call).2.state := by
  cases call with
  | step =>
      have stepped := State.step_of_ungoverned (ungoverned rfl)
      rw [call_step_eq, call_step_eq, stepped, same]
      exact ⟨rfl, rfl⟩
  | tick => exact ⟨rfl, congrArg State.tick same⟩
  | setKey key down =>
      simp only [Machine.call, setKey, Keypad.update, same]
      cases Keypad.key key with
      | error refusal => exact ⟨rfl, same⟩
      | ok place => exact ⟨rfl, rfl⟩
  | load | reset | restore => exact routine.elim

/-- Each choice of a dialect reaches only its own instructions.  Two machines in the same state,
whatever their dialects, answer steps, ticks and keys the same and stay in the same state, as long
as no step sets about an instruction that is governed by a choice on which the dialects differ: a
shift where the two registers hold different bytes, a storing or loading of registers, a jump with
offset where the two registers hold different bytes, a logical operation, or a sprite that reaches
beyond the right or the lower edge of the screen. -/
theorem answers_of_ungoverned {calls : List Call} (same : m.state = n.state)
    (routine : ∀ call ∈ calls, call.Routine) (ungoverned : m.Ungoverned n.config.dialect calls) :
    m.answers calls = n.answers calls ∧ (m.callAll calls).state = (n.callAll calls).state := by
  induction calls generalizing m n with
  | nil => exact ⟨rfl, same⟩
  | cons call rest ih =>
      obtain ⟨first, others⟩ := List.forall_mem_cons.mp routine
      obtain ⟨answer, after⟩ := call_of_ungoverned same first ungoverned.1
      have onwards : (m.call call).2.Ungoverned (n.call call).2.config.dialect rest := by
        rw [config_call]
        exact ungoverned.2
      obtain ⟨later, remain⟩ := ih after others onwards
      refine ⟨?_, remain⟩
      rw [answers, answers, answer, later]

/-- A sprite of five rows in the corner of the screen, drawn where sprites wrap around and where
they end at the edge. -/
theorem answers_of_ungoverned_corner :
    ∃ m n : Machine,
      m.config.dialect.clipSprites ≠ n.config.dialect.clipSprites ∧
        m.state.instruction? = some ⟨.draw, 0xD005⟩ ∧
        m.answers [.step, .tick] = n.answers [.step, .tick] ∧
        (m.callAll [.step, .tick]).state = (n.callAll [.step, .tick]).state := by
  let m := (new {}).withState { State.initial (some 0) with memory := .ofWord 0xD0 0x05 [] }
  let n := (new { dialect := { clipSprites := true } }).withState m.state
  have high : m.state.memory.bytes[512] = 0xD0 := Memory.high_ofWord _ _ _
  have low : m.state.memory.bytes[513] = 0x05 := Memory.low_ofWord _ _ _
  have word : 256 * m.state.memory.bytes[512].toNat + m.state.memory.bytes[513].toNat = 0xD005 := by
    rw [high, low]
    rfl
  have isReady : m.state.ready m.config.dialect = .ok ⟨.draw, 0xD005⟩ :=
    State.ready_of_bytes rfl (by decide) word rfl rfl
  have onScreen : ¬Operation.Overhangs ⟨.draw, 0xD005⟩ m.state := by
    rintro ⟨-, right | lower⟩
    · exact absurd right (by decide)
    · exact absurd lower (by decide)
  have here : ∀ op, m.state.instruction? = some op →
      ¬op.Governed m.config.dialect n.config.dialect m.state := by
    intro op found governed
    rw [State.instruction?_of_ready isReady] at found
    cases found
    exact onScreen governed.2
  have noStep : Call.tick ≠ .step := by
    intro same
    cases same
  have ungoverned : m.Ungoverned n.config.dialect [.step, .tick] :=
    ⟨fun _ => here, fun same => absurd same noStep, trivial⟩
  have routine : ∀ call ∈ [Call.step, .tick], call.Routine := by simp [Call.Routine]
  have same : m.state = n.state := rfl
  have found := State.instruction?_of_ready isReady
  obtain ⟨answers, states⟩ := answers_of_ungoverned same routine ungoverned
  exact ⟨m, n, by decide, found, answers, states⟩

end Machine

end ChipEight
