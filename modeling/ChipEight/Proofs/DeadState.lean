import ChipEight.Proofs.Frames
import ChipEight.Proofs.KeyWait

/-!
# Dead state

Some of what a state holds is left over: the slots of the stack that are not in use, the register
for which a key was awaited last, and the key that met a request, once the request is closed.  No
instruction and no check reads any of it before it has been written anew, which is to say that
`State.Agrees`, the relation of states that differ in nothing else, is kept by everything that
goes on around a machine.  The main statement is `Machine.answers_of_agrees`.
-/

namespace ChipEight

/-! ## The stack in use -/

namespace CallStack

theorem length_active (s : CallStack) : s.active.length = s.depth := by
  rw [active, List.length_take, Vector.length_toList]
  exact Nat.min_eq_left s.depth_le

theorem active_pushed {s : CallStack} (room : s.depth < 16) (address : UInt16) :
    (s.pushed address).active = s.active ++ [address] := by
  have inside : s.depth < (s.slots.toList.set s.depth address).length := by
    rw [List.length_set, Vector.length_toList]
    exact room
  rw [active, depth_pushed room, slots_pushed room, Vector.toList_set,
    List.take_succ_eq_append_getElem inside, List.take_set_of_le (Nat.le_refl _),
    List.getElem_set_self]
  rfl

theorem active_popped (s : CallStack) : s.popped.active = s.active.dropLast := by
  have shorter : s.depth - 1 ≤ s.depth := Nat.sub_le _ _
  rw [List.dropLast_eq_take, length_active, active, active, depth_popped, slots_popped,
    List.take_take, Nat.min_eq_left shorter]

theorem top?_eq_getLast? (s : CallStack) : s.top? = s.active.getLast? := by
  rw [List.getLast?_eq_getElem?, length_active]
  by_cases used : 0 < s.depth
  · obtain ⟨top, topEq, stored⟩ := top?_of_used used
    have last : s.depth - 1 < s.depth := Nat.sub_lt used Nat.one_pos
    rw [topEq, active, List.getElem?_take_of_lt last, Vector.getElem?_toList, stored]
  · have empty : s.active = [] := by
      rw [← List.length_eq_zero_iff, length_active]
      omega
    rw [empty]
    simp [top?, used]

variable {s t : CallStack}

theorem depth_of_active (active : s.active = t.active) : s.depth = t.depth := by
  rw [← length_active, active, length_active]

theorem top?_of_active (active : s.active = t.active) : s.top? = t.top? := by
  rw [top?_eq_getLast?, active, ← top?_eq_getLast?]

/-- A push covers the first of the slots that are not in use, whatever is left in it. -/
theorem pushed_of_active (active : s.active = t.active) (address : UInt16) :
    (s.pushed address).active = (t.pushed address).active := by
  have depth := depth_of_active active
  by_cases room : s.depth < 16
  · rw [active_pushed room, active_pushed (depth ▸ room), active]
  · rw [pushed_of_full room, pushed_of_full (depth ▸ room), active]

theorem popped_of_active (active : s.active = t.active) : s.popped.active = t.popped.active := by
  rw [active_popped, active, active_popped]

end CallStack

/-! ## The open request -/

namespace Keypad

/-- The same keys are down and both have an open request that the same key has met, or both have
none. -/
structure Agrees (k l : Keypad) : Prop where
  keys : k.keys = l.keys
  waiting : k.waiting = l.waiting
  pending : k.waiting = true → k.pending = l.pending

namespace Agrees

variable {k l : Keypad}

theorem held (agrees : k.Agrees l) (value : UInt8) : k.held value = l.held value := by
  rw [Keypad.held, Keypad.held, agrees.keys]

/-- Either both requests are met by the same key, or none is. -/
theorem take? (agrees : k.Agrees l) :
    (k.take? = none ∧ l.take? = none) ∨
      ∃ key kRest lRest, k.take? = some (key, kRest) ∧ l.take? = some (key, lRest) ∧
        kRest.Agrees lRest := by
  have sameWaiting := agrees.waiting
  cases open_ : k.waiting with
  | false => exact .inl ⟨take?_of_idle open_, take?_of_idle (sameWaiting ▸ open_)⟩
  | true =>
      have pending := agrees.pending open_
      rw [take?_of_waiting open_, take?_of_waiting (sameWaiting ▸ open_), ← pending]
      cases k.pending with
      | none => exact .inl ⟨rfl, rfl⟩
      | some key => exact .inr ⟨key, _, _, rfl, rfl, agrees.keys, rfl, nofun⟩

/-- A new request clears the key that is left over from an earlier one. -/
theorem request (agrees : k.Agrees l) (register : Int) :
    (k.request register).Agrees (l.request register) := by
  have sameWaiting := agrees.waiting
  unfold Keypad.request
  cases open_ : k.waiting with
  | true =>
      rw [if_pos rfl, if_pos (sameWaiting ▸ open_)]
      exact agrees
  | false =>
      rw [if_neg Bool.false_ne_true, if_neg (by simp [← sameWaiting, open_])]
      exact ⟨agrees.keys, rfl, fun _ => rfl⟩

theorem press (agrees : k.Agrees l) (place : Fin 16) (down : Bool) :
    (k.press place down).Agrees (l.press place down) where
  keys := by simp only [Keypad.press, agrees.keys]
  waiting := agrees.waiting
  pending := by
    intro open_
    have open_ : k.waiting = true := open_
    rw [pending_press open_, pending_press (agrees.waiting ▸ open_), agrees.keys,
      agrees.pending open_]

end Agrees

end Keypad

/-! ## States -/

/-- Two states differ in nothing but what is left over. -/
structure State.Agrees (s t : State) : Prop where
  memory : s.memory = t.memory
  v : s.registers.v = t.registers.v
  i : s.registers.i = t.registers.i
  pc : s.registers.pc = t.registers.pc
  stack : s.registers.stack.active = t.registers.stack.active
  screen : s.screen = t.screen
  keypad : s.keypad.Agrees t.keypad
  timers : s.timers = t.timers
  random : s.random = t.random
  cycles : s.cycles = t.cycles

namespace State.Agrees

variable {s t : State} {d : Dialect} {op : Operation}

/-- The other state is the first one with its own stack and keypad. -/
theorem eq_framed (agrees : s.Agrees t) :
    t = s.framed t.registers.stack t.keypad s.cycles := by
  obtain ⟨memory, v, i, pc, -, screen, -, timers, random, cycles⟩ := agrees
  rcases s with ⟨sMemory, ⟨sV, sI, sPc, sStack⟩, sScreen, sKeypad, sTimers, sRandom, sCycles⟩
  rcases t with ⟨tMemory, ⟨tV, tI, tPc, tStack⟩, tScreen, tKeypad, tTimers, tRandom, tCycles⟩
  subst memory v i pc screen timers random cycles
  rfl

theorem framed {stack : CallStack} {keypad : Keypad}
    (active : s.registers.stack.active = stack.active) (agrees : s.keypad.Agrees keypad) :
    s.Agrees (s.framed stack keypad s.cycles) :=
  ⟨rfl, rfl, rfl, rfl, active, rfl, agrees, rfl, rfl, rfl⟩

theorem withLog (agrees : s.Agrees t) (log : List Access) :
    (s.withLog log).Agrees (t.withLog log) := by
  rw [agrees.eq_framed]
  exact framed agrees.stack agrees.keypad

theorem fetched (agrees : s.Agrees t) : s.fetched.Agrees t.fetched := by
  rw [agrees.eq_framed]
  exact framed agrees.stack agrees.keypad

/-! ### Instructions -/

/-- The checks of an instruction read only the part of the stack that is in use. -/
theorem fault? (agrees : s.Agrees t) : op.fault? d s = op.fault? d t := by
  have top := CallStack.top?_of_active agrees.stack
  have depth := CallStack.depth_of_active agrees.stack
  rw [agrees.eq_framed]
  cases kind : op.opcode with
  | ret =>
      simp only [Operation.fault?, kind, top]
      rfl
  | call =>
      simp only [Operation.fault?, kind, depth]
      rfl
  | jumpOffset | decimal | store | load | draw =>
      simp only [Operation.fault?, kind]
      rfl
  | _ => simp only [Operation.fault?, kind]

theorem flow (agrees : s.Agrees t) : op.flow d s = op.flow d t := by
  have top := CallStack.top?_of_active agrees.stack
  have held := agrees.keypad.held
  rw [agrees.eq_framed]
  cases kind : op.opcode with
  | ret =>
      simp only [Operation.flow, kind, top]
      rfl
  | skipPressed | skipReleased =>
      simp only [Operation.flow, kind, held]
      rfl
  | awaitKey =>
      simp only [Operation.flow, kind]
      rcases agrees.keypad.take? with ⟨first, second⟩ | ⟨key, _, _, first, second, -⟩
      · rw [first, State.keypad_framed, second]
      · rw [first, State.keypad_framed, second]
        rfl
  | jumpOffset | skipEqualByte | skipUnequalByte | skipEqual | skipUnequal =>
      simp only [Operation.flow, kind]
      rfl
  | _ => simp only [Operation.flow, kind]

/-- What an instruction leaves over, it leaves over in both states. -/
theorem effect (agrees : s.Agrees t) : (op.effect d s).Agrees (op.effect d t) := by
  by_cases isCall : op.opcode = .call
  · simp only [Operation.effect, isCall, agrees.pc]
    exact { agrees with stack := CallStack.pushed_of_active agrees.stack _ }
  by_cases isReturn : op.opcode = .ret
  · simp only [Operation.effect, isReturn]
    exact { agrees with stack := CallStack.popped_of_active agrees.stack }
  by_cases isAwait : op.opcode = .awaitKey
  · simp only [Operation.effect, isAwait, Operation.awaited]
    rcases agrees.keypad.take? with ⟨first, second⟩ | ⟨key, kRest, lRest, first, second, rest⟩
    · rw [first, second]
      exact { agrees with keypad := agrees.keypad.request op.x.val }
    · rw [first, second]
      rw [agrees.eq_framed]
      exact framed agrees.stack rest
  · have stack : (op.effect d s).registers.stack = s.registers.stack :=
      Operation.stack_effect isCall isReturn
    have keypad : (op.effect d s).keypad = s.keypad := Operation.keypad_effect isAwait
    have cycles := Operation.cycles_effect d op s
    rw [agrees.eq_framed, Operation.effect_framed isCall isReturn isAwait, ← cycles]
    refine framed ?_ ?_
    · rw [stack]
      exact agrees.stack
    · rw [keypad]
      exact agrees.keypad

/-! ### Steps -/

theorem ready (agrees : s.Agrees t) (d : Dialect) : s.ready d = t.ready d := by
  have fault (op : Operation) : op.fault? d s = op.fault? d t := agrees.fault?
  have fetch : s.fetchFault? = t.fetchFault? := by
    rw [agrees.eq_framed]
    rfl
  have word : s.word = t.word := by
    rw [agrees.eq_framed]
    rfl
  simp only [State.ready, fetch, word, agrees.pc, fault]

theorem failed (agrees : s.Agrees t) : s.failed.Agrees t.failed := by
  have fetch : s.fetchFault? = t.fetchFault? := by
    rw [agrees.eq_framed]
    rfl
  unfold State.failed
  rw [fetch]
  cases t.fetchFault?.isSome with
  | true => exact agrees.withLog []
  | false => exact agrees.fetched

theorem report (agrees : s.Agrees t) : s.report d op = t.report d op := by
  have effect : (op.effect d s.fetched).Agrees (op.effect d t.fetched) := agrees.fetched.effect
  simp only [State.report, agrees.flow, agrees.pc, effect.memory, effect.cycles]

theorem stepped (agrees : s.Agrees t) : (s.stepped d op).Agrees (t.stepped d op) := by
  have effect : (op.effect d s.fetched).Agrees (op.effect d t.fetched) := agrees.fetched.effect
  simp only [State.stepped, agrees.flow, agrees.pc, effect.memory, effect.cycles]
  exact { effect with memory := rfl, pc := rfl, cycles := rfl }

/-- A step gives the same report or meets the same fault, and the states differ in nothing but
what is left over. -/
theorem step (agrees : s.Agrees t) (d : Dialect) :
    (s.step d).1 = (t.step d).1 ∧ (s.step d).2.Agrees (t.step d).2 := by
  rw [State.step_eq, State.step_eq, agrees.ready]
  cases t.ready d with
  | error fault => exact ⟨rfl, agrees.failed⟩
  | ok op => exact ⟨congrArg Except.ok agrees.report, agrees.stepped⟩

end State.Agrees

/-! ## Machines -/

namespace Machine

variable {m n : Machine}

/-- Whatever goes on around two machines that speak the same dialect, one answers it as the other
does. -/
theorem call_of_agrees (dialect : m.config.dialect = n.config.dialect)
    (agrees : m.state.Agrees n.state) {call : Call} (routine : call.Routine) :
    (m.call call).1 = (n.call call).1 ∧ (m.call call).2.state.Agrees (n.call call).2.state := by
  cases call with
  | step =>
      obtain ⟨same, after⟩ := agrees.step n.config.dialect
      rw [call_step_eq, call_step_eq, dialect, same]
      exact ⟨rfl, after⟩
  | tick => exact ⟨rfl, { agrees with timers := congrArg Timers.tick agrees.timers }⟩
  | setKey key down =>
      simp only [Machine.call, setKey, Keypad.update]
      cases Keypad.key key with
      | error refusal => exact ⟨rfl, agrees⟩
      | ok place => exact ⟨rfl, { agrees with keypad := agrees.keypad.press place down }⟩
  | load | reset | restore => exact routine.elim

/-- Dead state never shows.  Two machines that speak the same dialect may differ in the slots of
the stack that are not in use, in the register for which a key was awaited last and, as long as no
request is open, in the key that met the last one.  Whatever steps, ticks and keys follow, both
give the same reports and meet the same failures at the same places, and at the end they still
differ in nothing else. -/
theorem answers_of_agrees {calls : List Call} (dialect : m.config.dialect = n.config.dialect)
    (agrees : m.state.Agrees n.state) (routine : ∀ call ∈ calls, call.Routine) :
    m.answers calls = n.answers calls ∧
      (m.callAll calls).state.Agrees (n.callAll calls).state := by
  induction calls generalizing m n with
  | nil => exact ⟨rfl, agrees⟩
  | cons call rest ih =>
      obtain ⟨first, others⟩ := List.forall_mem_cons.mp routine
      obtain ⟨same, after⟩ := call_of_agrees dialect agrees first
      have sameDialect : (m.call call).2.config.dialect = (n.call call).2.config.dialect := by
        rw [config_call, config_call, dialect]
      obtain ⟨later, remain⟩ := ih sameDialect after others
      refine ⟨?_, remain⟩
      rw [answers, answers, same, later]

/-- Old return addresses and an old request are left in one machine, and the other one is new. -/
theorem answers_of_agrees_leftovers :
    ∃ m n : Machine,
      m.state.registers.stack.slots ≠ n.state.registers.stack.slots ∧
        m.state.keypad.waitRegister ≠ n.state.keypad.waitRegister ∧
        m.state.keypad.pending ≠ n.state.keypad.pending ∧
        m.answers [.step, .setKey 4 true, .tick, .step] =
          n.answers [.step, .setKey 4 true, .tick, .step] := by
  let n := new {}
  let m := n.withState
    { n.state with
      registers := { n.state.registers with stack := ⟨Vector.replicate 16 7, 0, by decide⟩ }
      keypad := { n.state.keypad with waitRegister := 3, pending := some 4 } }
  have dialect : m.config.dialect = n.config.dialect := rfl
  have keypad : m.state.keypad.Agrees n.state.keypad := ⟨rfl, rfl, nofun⟩
  have agrees : m.state.Agrees n.state :=
    ⟨rfl, rfl, rfl, rfl, rfl, rfl, keypad, rfl, rfl, rfl⟩
  have routine : ∀ call ∈ [Call.step, .setKey 4 true, .tick, .step], call.Routine := by
    simp [Call.Routine]
  refine ⟨m, n, ?_, ?_, ?_, (answers_of_agrees dialect agrees routine).1⟩
  · change Vector.replicate 16 (7 : UInt16) ≠ Vector.replicate 16 0
    decide
  · change (3 : Int) ≠ 0
    decide
  · exact Option.some_ne_none 4

end Machine

end ChipEight
