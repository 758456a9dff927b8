import ChipEight.Proofs.Bounds

/-!
# Calls and returns

A call stores the address behind it, and the return that belongs to it goes on there.  Which
return that is, depends on the depth of the stack alone: it is the first one that brings the depth
back to what it was before the call.  In between the stack may grow and shrink as it likes, and the
slots above are written again and again; the slot of the call and those below it are not touched
(`CallStack.Keeps`).  The main statement is `Machine.call_returns`.
-/

namespace ChipEight

/-! ## The stack -/

namespace CallStack

variable {s base : CallStack} {address : UInt16}

theorem depth_pushed (room : s.depth < 16) (address : UInt16) :
    (s.pushed address).depth = s.depth + 1 := by
  simp [pushed, push?, room]

theorem slots_pushed (room : s.depth < 16) (address : UInt16) :
    (s.pushed address).slots = s.slots.set s.depth address := by
  simp [pushed, push?, room]

theorem pushed_of_full (full : ¬s.depth < 16) (address : UInt16) : s.pushed address = s := by
  simp [pushed, push?, full]

theorem depth_popped (s : CallStack) : s.popped.depth = s.depth - 1 := by
  by_cases used : 0 < s.depth
  · simp [popped, pop?, used]
  · simp [popped, pop?, used]
    omega

theorem slots_popped (s : CallStack) : s.popped.slots = s.slots := by
  by_cases used : 0 < s.depth <;> simp [popped, pop?, used]

/-- The stack is deeper than another one was, still has an address in the slot behind it, and has
the same addresses as the other one below. -/
structure Keeps (s base : CallStack) (address : UInt16) : Prop where
  deeper : base.depth < s.depth
  stored : s.slots[base.depth]? = some address
  below : ∀ k < base.depth, s.slots[k]? = base.slots[k]?

theorem keeps_pushed (room : base.depth < 16) (address : UInt16) :
    (base.pushed address).Keeps base address where
  deeper := by rw [depth_pushed room]; exact Nat.lt_succ_self _
  stored := by rw [slots_pushed room, Vector.getElem?_set_self]
  below := by
    intro k lower
    rw [slots_pushed room, Vector.getElem?_set_ne _ (Nat.ne_of_gt lower)]

/-- Another address is stored above. -/
theorem Keeps.pushed (keeps : s.Keeps base address) (other : UInt16) :
    (s.pushed other).Keeps base address := by
  by_cases room : s.depth < 16
  · have deeper := keeps.deeper
    constructor
    · rw [depth_pushed room]
      omega
    · rw [slots_pushed room, Vector.getElem?_set_ne _ (by omega)]
      exact keeps.stored
    · intro k lower
      rw [slots_pushed room, Vector.getElem?_set_ne _ (by omega)]
      exact keeps.below k lower
  · rw [pushed_of_full room]
    exact keeps

/-- An address is taken from above. -/
theorem Keeps.popped (keeps : s.Keeps base address) (above : s.popped.depth ≠ base.depth) :
    s.popped.Keeps base address := by
  have deeper := keeps.deeper
  rw [depth_popped] at above
  constructor
  · rw [depth_popped]
    omega
  · rw [slots_popped]
    exact keeps.stored
  · intro k lower
    rw [slots_popped]
    exact keeps.below k lower

/-- When all other addresses have been taken, the one that is kept comes next. -/
theorem Keeps.top? (keeps : s.Keeps base address) (last : s.popped.depth = base.depth) :
    s.top? = some address := by
  have deeper := keeps.deeper
  have used : 0 < s.depth := by omega
  obtain ⟨top, topEq, stored⟩ := top?_of_used used
  rw [depth_popped] at last
  rw [last, keeps.stored] at stored
  rw [topEq, stored]

end CallStack

/-! ## Instructions -/

namespace Operation

variable {d : Dialect} {op : Operation} {s : State}

@[simp]
theorem stack_setV (s : State) (register : Nibble) (value : UInt8) :
    (s.setV register value).registers.stack = s.registers.stack :=
  rfl

@[simp]
theorem stack_setI (s : State) (value : UInt16) :
    (s.setI value).registers.stack = s.registers.stack :=
  rfl

@[simp]
theorem stack_advanceIndex (d : Dialect) (op : Operation) (s : State) :
    (advanceIndex d op s).registers.stack = s.registers.stack := by
  unfold advanceIndex
  cases d.advanceIndex <;> rfl

@[simp]
theorem stack_setLogical (d : Dialect) (s : State) (x : Nibble) (result : UInt8) :
    (setLogical d s x result).registers.stack = s.registers.stack := by
  unfold setLogical
  cases d.clearFlag <;> rfl

@[simp]
theorem stack_awaited (op : Operation) (s : State) :
    (op.awaited s).registers.stack = s.registers.stack := by
  unfold awaited
  cases s.keypad.take? <;> rfl

@[simp]
theorem stack_takeBytes (s : State) (address : Nat) (registers : List Nibble) :
    (s.takeBytes address registers).registers.stack = s.registers.stack := by
  induction registers generalizing s address with
  | nil => rfl
  | cons register registers ih =>
      rw [State.takeBytes, ih]
      rfl

/-- Only calls and returns touch the stack. -/
theorem stack_effect (notCall : op.opcode ≠ .call) (notReturn : op.opcode ≠ .ret) :
    (op.effect d s).registers.stack = s.registers.stack := by
  cases kind : op.opcode with
  | call => exact absurd kind notCall
  | ret => exact absurd kind notReturn
  | _ => simp [effect, kind, setFlagged, drawn]

end Operation

namespace State

variable {d : Dialect} {op : Operation} {s : State}

theorem stack_stepped_call (kind : op.opcode = .call) :
    (s.stepped d op).registers.stack =
      s.registers.stack.pushed (UInt16.ofInt (s.registers.pc + 2)) := by
  simp only [stepped, Operation.effect, kind]
  rfl

theorem stack_stepped_ret (kind : op.opcode = .ret) :
    (s.stepped d op).registers.stack = s.registers.stack.popped := by
  simp only [stepped, Operation.effect, kind]
  rfl

theorem stack_stepped (notCall : op.opcode ≠ .call) (notReturn : op.opcode ≠ .ret) :
    (s.stepped d op).registers.stack = s.registers.stack :=
  Operation.stack_effect (s := s.fetched) notCall notReturn

theorem pc_stepped_ret {address : UInt16} (kind : op.opcode = .ret)
    (top : s.registers.stack.top? = some address) :
    (s.stepped d op).registers.pc = address.toNat := by
  simp only [stepped, Operation.flow, kind, top, Option.getD_some]
  rfl

/-- A call that meets no fault finds a free slot. -/
theorem room_of_call (kind : op.opcode = .call) (met : op.fault? d s = none) :
    s.registers.stack.depth < 16 := by
  simp only [Operation.fault?, kind, Option.or_eq_none_iff] at met
  by_cases room : s.registers.stack.depth < 16
  · exact room
  · rw [if_neg room] at met
    cases met.2

end State

namespace Machine

/-! ## Runs -/

/-- A call of the host is a step that carries out a return, and brings the stack to a depth. -/
def ReturnsTo (m : Machine) (depth : Nat) (call : Call) : Prop :=
  ∃ report after, m.call call = (.ok (some report), after) ∧
    report.operation.opcode = .ret ∧ after.state.registers.stack.depth = depth

/-- None of some calls of the host, one after the other, returns to a depth. -/
def NeverReturnsTo (m : Machine) (depth : Nat) : List Call → Prop
  | [] => True
  | call :: rest => ¬m.ReturnsTo depth call ∧ (m.call call).2.NeverReturnsTo depth rest

variable {m : Machine} {base : CallStack} {address : UInt16}

/-- A step keeps what is stored for a return, unless it is the return. -/
theorem keeps_step (keeps : m.state.registers.stack.Keeps base address)
    (inside : ¬m.ReturnsTo base.depth .step) :
    (m.call .step).2.state.registers.stack.Keeps base address := by
  cases isReady : m.state.ready m.config.dialect with
  | error fault =>
      obtain ⟨log, failedEq⟩ := m.state.failed_eq_withLog
      simp only [call, step, State.step_eq, isReady, failedEq]
      exact keeps
  | ok op =>
      have stepped := call_step_of_ready isReady
      rw [stepped]
      by_cases isCall : op.opcode = .call
      · have pushed := State.stack_stepped_call (d := m.config.dialect) (s := m.state) isCall
        simp only [withState, pushed]
        exact keeps.pushed _
      by_cases isReturn : op.opcode = .ret
      · have popped := State.stack_stepped_ret (d := m.config.dialect) (s := m.state) isReturn
        simp only [withState, popped]
        refine keeps.popped fun arrived => inside ⟨_, _, stepped, isReturn, ?_⟩
        rw [← arrived, ← popped]
        rfl
      · have same := State.stack_stepped (d := m.config.dialect) (s := m.state) isCall isReturn
        simp only [withState, same]
        exact keeps

theorem keeps_call {call : Call} (keeps : m.state.registers.stack.Keeps base address)
    (goesOn : ¬m.Restarts call) (inside : ¬m.ReturnsTo base.depth call) :
    (m.call call).2.state.registers.stack.Keeps base address := by
  by_cases isStep : call = .step
  · subst isStep
    exact keeps_step keeps inside
  · rw [registers_call isStep goesOn]
    exact keeps

theorem keeps_callAll {calls : List Call} (keeps : m.state.registers.stack.Keeps base address)
    (goesOn : m.Uninterrupted calls) (inside : m.NeverReturnsTo base.depth calls) :
    (m.callAll calls).state.registers.stack.Keeps base address := by
  induction calls generalizing m with
  | nil => exact keeps
  | cons call rest ih => exact ih (keeps_call keeps goesOn.1 inside.1) goesOn.2 inside.2

/-- A step that carries out a call stores the address behind it. -/
theorem keeps_of_called {first : Machine} {report : StepReport}
    (called : m.call .step = (.ok (some report), first))
    (isCall : report.operation.opcode = .call) :
    ∃ address : UInt16, (address.toNat : Int) = m.state.registers.pc + 2 ∧
      first.state.registers.stack.Keeps m.state.registers.stack address := by
  obtain ⟨op, isReady, rfl⟩ := ready_of_call_step called
  change op.opcode = .call at isCall
  obtain ⟨fetched, -, met⟩ := State.ready_eq_ok_iff.mp isReady
  obtain ⟨lower, upper⟩ := State.fetchFault?_eq_none.mp fetched
  refine ⟨UInt16.ofInt (m.state.registers.pc + 2), ?_, ?_⟩
  · simp [UInt16.ofInt]
    omega
  · rw [call_step_of_ready isReady] at called
    cases called
    simp only [withState, State.stack_stepped_call isCall]
    exact CallStack.keeps_pushed (State.room_of_call isCall met) _

/-- A step that carries out the return goes on at the address that is kept for it. -/
theorem pc_of_returned (keeps : m.state.registers.stack.Keeps base address)
    (returned : m.ReturnsTo base.depth .step) :
    (m.call .step).2.state.registers.pc = address.toNat ∧
      ∀ k < base.depth, (m.call .step).2.state.registers.stack.slots[k]? = base.slots[k]? := by
  obtain ⟨report, after, done, isReturn, arrived⟩ := returned
  obtain ⟨op, isReady, rfl⟩ := ready_of_call_step done
  change op.opcode = .ret at isReturn
  have popped := State.stack_stepped_ret (d := m.config.dialect) (s := m.state) isReturn
  rw [call_step_of_ready isReady] at done ⊢
  cases done
  simp only [withState, popped] at arrived ⊢
  refine ⟨State.pc_stepped_ret isReturn (keeps.top? arrived), fun k lower => ?_⟩
  rw [CallStack.slots_popped]
  exact keeps.below k lower

/-! ## The return of a call -/

/-- A call of a subroutine and what comes of it.  After the step that carries out the call a
host may do what it likes, as long as it lets the machine go on from where it is: steps that
call, return, write over the program, wait for a key or fail, ticks, keys, further programs.
The first return that brings the stack back to its depth before the call goes on behind the call,
and the slots in use before the call still hold what they held. -/
theorem call_returns {m first : Machine} {report : StepReport} {calls : List Call}
    (called : m.call .step = (.ok (some report), first))
    (isCall : report.operation.opcode = .call) (goesOn : first.Uninterrupted calls)
    (inside : first.NeverReturnsTo m.state.registers.stack.depth calls)
    (returned : (first.callAll calls).ReturnsTo m.state.registers.stack.depth .step) :
    let after := ((first.callAll calls).call .step).2
    after.state.registers.pc = m.state.registers.pc + 2 ∧
      ∀ k < m.state.registers.stack.depth,
        after.state.registers.stack.slots[k]? = m.state.registers.stack.slots[k]? := by
  obtain ⟨address, behind, keeps⟩ := keeps_of_called called isCall
  obtain ⟨arrived, below⟩ := pc_of_returned (keeps_callAll keeps goesOn inside) returned
  exact ⟨arrived.trans behind, below⟩

/-- A program that calls a subroutine which calls another one. -/
def nested : List UInt8 :=
  [0x22, 0x06, 0x12, 0x02, 0x00, 0xEE, 0x22, 0x04, 0x00, 0xEE]

/-- The return of the inner call is not the one that belongs to the outer call. -/
theorem call_returns_nested :
    ∃ (m first : Machine) (report : StepReport) (calls : List Call),
      m.call .step = (.ok (some report), first) ∧ report.operation.opcode = .call ∧
        first.Uninterrupted calls ∧ first.NeverReturnsTo 0 calls ∧
        (first.callAll calls).ReturnsTo 0 .step ∧
        ((first.callAll calls).call .step).2.state.registers.pc = 0x202 := by
  obtain ⟨memory, -, holds⟩ := call_load_of_fits (new {}) (by decide : nested.length ≤ 3584)
  let m := (new {}).withState { (new {}).state with memory := memory }
  have outer : m.state.ready m.config.dialect = .ok ⟨.call, 0x2206⟩ :=
    State.ready_of_holds (k := 0) holds rfl (by decide) rfl rfl rfl rfl
  let first := m.withState (m.state.stepped m.config.dialect ⟨.call, 0x2206⟩)
  have inner : first.tick.state.ready first.tick.config.dialect = .ok ⟨.call, 0x2204⟩ :=
    State.ready_of_holds (s := first.tick.state) (k := 6) holds rfl (by decide) rfl rfl rfl rfl
  let second := first.tick.withState
    (first.tick.state.stepped first.tick.config.dialect ⟨.call, 0x2204⟩)
  have innerReturn : second.state.ready second.config.dialect = .ok ⟨.ret, 0x00EE⟩ :=
    State.ready_of_holds (s := second.state) (k := 4) holds rfl (by decide) rfl rfl rfl rfl
  let third := second.withState (second.state.stepped second.config.dialect ⟨.ret, 0x00EE⟩)
  have outerReturn : third.state.ready third.config.dialect = .ok ⟨.ret, 0x00EE⟩ :=
    State.ready_of_holds (s := third.state) (k := 8) holds rfl (by decide) rfl rfl rfl rfl
  have innerCall := call_step_of_ready (m := first.tick) inner
  have innerReturns := call_step_of_ready (m := second) innerReturn
  have afterCall : (first.tick.call .step).2 = second := congrArg Prod.snd innerCall
  have afterReturn : (second.call .step).2 = third := congrArg Prod.snd innerReturns
  have goesOn : first.Uninterrupted [.tick, .step, .step] := ⟨nofun, nofun, nofun, trivial⟩
  have inside : first.NeverReturnsTo 0 [.tick, .step, .step] := by
    refine ⟨?_, ?_, ?_, trivial⟩
    · rintro ⟨report, after, done, -⟩
      cases done
    · rintro ⟨report, after, done, isReturn, -⟩
      cases innerCall.symm.trans done
      cases isReturn
    · rintro ⟨report, after, done, -, depth⟩
      change (first.tick.call .step).2.call .step = _ at done
      rw [afterCall] at done
      cases innerReturns.symm.trans done
      cases depth
  have run : first.callAll [.tick, .step, .step] = third := by
    change ((first.tick.call .step).2.call .step).2 = third
    rw [afterCall, afterReturn]
  have returned : (first.callAll [.tick, .step, .step]).ReturnsTo 0 .step := by
    rw [run]
    exact ⟨_, _, call_step_of_ready (m := third) outerReturn, rfl, rfl⟩
  have behind : m.state.registers.pc + 2 = 0x202 := rfl
  obtain ⟨arrived, -⟩ := call_returns (call_step_of_ready outer) rfl goesOn inside returned
  exact ⟨m, first, _, _, call_step_of_ready outer, rfl, goesOn, inside, returned,
    arrived.trans behind⟩

end Machine

end ChipEight
