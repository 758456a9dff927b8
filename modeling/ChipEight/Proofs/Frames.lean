import ChipEight.Proofs.Replay
import ChipEight.Proofs.Returns

/-!
# What a step does not look at

Most instructions touch neither the stack nor the keypad, and none touches the count of steps.
They do the same whatever these hold, and leave them as they are (`Operation.effect_framed`).  So
the snapshot of a machine, which does not have the count, settles what a step does: of two machines
with the same snapshot and the same dialect, one does as the other (`Machine.alike_step`).
-/

namespace ChipEight

namespace State

/-- The state with another stack, another keypad and another count of steps. -/
def framed (s : State) (stack : CallStack) (keypad : Keypad) (cycles : Nat) : State :=
  { s with
    registers := { s.registers with stack := stack }
    keypad := keypad
    cycles := cycles }

/-- The state with another count of steps. -/
def recounted (s : State) (cycles : Nat) : State :=
  { s with cycles := cycles }

theorem framed_eq_recounted (s : State) (cycles : Nat) :
    s.framed s.registers.stack s.keypad cycles = s.recounted cycles :=
  rfl

theorem i_framed (s : State) (stack : CallStack) (keypad : Keypad) (cycles : Nat) :
    (s.framed stack keypad cycles).registers.i = s.registers.i :=
  rfl

theorem keypad_framed (s : State) (stack : CallStack) (keypad : Keypad) (cycles : Nat) :
    (s.framed stack keypad cycles).keypad = keypad :=
  rfl

theorem takeBytes_framed (s : State) (stack : CallStack) (keypad : Keypad) (cycles address : Nat)
    (registers : List Nibble) :
    (s.framed stack keypad cycles).takeBytes address registers =
      (s.takeBytes address registers).framed stack keypad cycles := by
  induction registers generalizing s address with
  | nil => rfl
  | cons register rest ih =>
      rw [takeBytes, takeBytes]
      exact ih ({ s with memory := s.memory.noteRead (Memory.place address) }.setV register
        (s.memory.byte (Memory.place address))) (address + 1)

end State

namespace Operation

variable {d : Dialect} {op : Operation} {s : State}

/-- An instruction that is about neither the stack nor the keypad leaves them and the count of
steps as they are, and does the same for any of them. -/
theorem effect_framed (notCall : op.opcode ≠ .call) (notReturn : op.opcode ≠ .ret)
    (notAwait : op.opcode ≠ .awaitKey) (stack : CallStack) (keypad : Keypad) (cycles : Nat) :
    op.effect d (s.framed stack keypad cycles) = (op.effect d s).framed stack keypad cycles := by
  cases kind : op.opcode with
  | call => exact absurd kind notCall
  | ret => exact absurd kind notReturn
  | awaitKey => exact absurd kind notAwait
  | or | and | xor =>
      simp only [effect, kind, setLogical]
      cases d.clearFlag <;> rfl
  | store =>
      simp only [effect, kind, advanceIndex]
      cases d.advanceIndex <;> rfl
  | load =>
      have taken := s.takeBytes_framed stack keypad cycles s.registers.i.toNat
        (registersUpTo op.x)
      simp only [effect, kind, advanceIndex, State.i_framed, taken]
      cases d.advanceIndex <;> rfl
  | jump | jumpOffset | skipEqualByte | skipUnequalByte | skipEqual | skipUnequal | skipPressed
  | skipReleased => simp only [effect, kind]
  | _ =>
      simp only [effect, kind]
      rfl

/-- No instruction looks at the count of steps or changes it. -/
theorem effect_recounted (cycles : Nat) :
    op.effect d (s.recounted cycles) = (op.effect d s).recounted cycles := by
  by_cases isCall : op.opcode = .call
  · simp only [effect, isCall]
    rfl
  by_cases isReturn : op.opcode = .ret
  · simp only [effect, isReturn]
    rfl
  by_cases isAwait : op.opcode = .awaitKey
  · simp only [effect, isAwait, awaited]
    cases taken : s.keypad.take? with
    | none => simp only [State.recounted, taken]
    | some met =>
        simp only [State.recounted, taken]
        rfl
  · rw [← State.framed_eq_recounted, effect_framed isCall isReturn isAwait,
      ← stack_effect (d := d) isCall isReturn, ← keypad_effect (d := d) isAwait]
    rfl

theorem cycles_effect (d : Dialect) (op : Operation) (s : State) :
    (op.effect d s).cycles = s.cycles := by
  have counted : op.effect d (s.recounted s.cycles) = (op.effect d s).recounted s.cycles :=
    effect_recounted s.cycles
  change (op.effect d (s.recounted s.cycles)).cycles = _
  rw [counted]
  rfl

end Operation

/-! ## The count of steps -/

namespace State

variable {d : Dialect} {op : Operation}

theorem failed_recounted (s : State) (cycles : Nat) :
    (s.recounted cycles).failed = s.failed.recounted cycles := by
  have sameFetch : (s.recounted cycles).fetchFault? = s.fetchFault? := rfl
  unfold failed
  rw [sameFetch]
  cases s.fetchFault?.isSome <;> rfl

theorem report_recounted (s : State) (cycles : Nat) :
    (s.recounted cycles).report d op = { s.report d op with cycle := cycles + 1 } := by
  have effect : op.effect d (s.fetched.recounted cycles) =
      (op.effect d s.fetched).recounted cycles := Operation.effect_recounted cycles
  change StepReport.mk _ _ _ _ ((op.effect d (s.fetched.recounted cycles)).cycles + 1) _
    (op.effect d (s.fetched.recounted cycles)).memory.log = _
  rw [effect]
  rfl

theorem stepped_recounted (s : State) (cycles : Nat) :
    (s.recounted cycles).stepped d op = (s.stepped d op).recounted (cycles + 1) := by
  have effect : op.effect d (s.fetched.recounted cycles) =
      (op.effect d s.fetched).recounted cycles := Operation.effect_recounted cycles
  have sameFetched : (s.recounted cycles).fetched = s.fetched.recounted cycles := rfl
  simp only [stepped, sameFetched, effect]
  rfl

/-- With another count of steps before it, a step does the same and goes on counting. -/
theorem step_recounted (s : State) (d : Dialect) (cycles : Nat) :
    (s.recounted cycles).step d =
      match s.step d with
      | (.error fault, after) => (.error fault, after.recounted cycles)
      | (.ok report, after) =>
          (.ok { report with cycle := cycles + 1 }, after.recounted (cycles + 1)) := by
  have sameReady : (s.recounted cycles).ready d = s.ready d := rfl
  rw [step_eq, step_eq, sameReady]
  cases s.ready d with
  | error fault => simp only [failed_recounted]
  | ok op => simp only [report_recounted, stepped_recounted]

/-- States with the same snapshot differ in the record of accesses and in the count of steps. -/
theorem withLog_recounted_of_ofState {s t : State}
    (captured : Snapshot.ofState s = Snapshot.ofState t) :
    t.withLog [] = (s.withLog []).recounted t.cycles := by
  have rebuilt := Snapshot.rebuild_ofState s s.random t.cycles
  rw [captured, Snapshot.rebuild_ofState] at rebuilt
  exact Except.ok.inj rebuilt

end State

namespace Machine

variable {m n : Machine}

/-- Two machines have the same snapshot and speak the same dialect. -/
structure Alike (m n : Machine) : Prop where
  dialect : m.config.dialect = n.config.dialect
  capture : m.capture = n.capture

namespace Alike

theorem tick (alike : m.Alike n) : m.tick.Alike n.tick where
  dialect := alike.dialect
  capture := by
    have same := State.withLog_recounted_of_ofState alike.capture
    have ticked : n.tick.state.withLog [] =
        (m.tick.state.withLog []).recounted n.state.cycles := congrArg State.tick same
    change Snapshot.ofState ((m.tick.state.withLog []).recounted n.state.cycles) =
      Snapshot.ofState (n.tick.state.withLog [])
    rw [ticked]

theorem state_step (alike : m.Alike n) :
    n.state.step n.config.dialect =
      match m.state.step m.config.dialect with
      | (.error fault, after) => (.error fault, after.recounted n.state.cycles)
      | (.ok report, after) =>
          (.ok { report with cycle := n.state.cycles + 1 },
            after.recounted (n.state.cycles + 1)) := by
  rw [← alike.dialect, ← n.state.step_withLog [],
    State.withLog_recounted_of_ofState alike.capture, State.step_recounted, State.step_withLog]

/-- Of two machines that are alike, both come to the end of a step, report the same but for the
count of steps, and are alike again. -/
theorem step_ok {after : Machine} {report : StepReport} (alike : m.Alike n)
    (done : m.step = (.ok report, after)) :
    ∃ other, n.step = (.ok { report with cycle := n.state.cycles + 1 }, other) ∧
      after.Alike other := by
  obtain ⟨stateStep, config⟩ := Machine.state_step done
  have otherStep := alike.state_step
  rw [stateStep] at otherStep
  refine ⟨n.withState (after.state.recounted (n.state.cycles + 1)), ?_, ?_, rfl⟩
  · simp only [step, otherStep]
  · rw [config]
    exact alike.dialect

/-- Or both meet the same fault, and are alike again. -/
theorem step_error {after : Machine} {fault : Fault} (alike : m.Alike n)
    (failed : m.step = (.error fault, after)) :
    ∃ other, n.step = (.error fault, other) ∧ after.Alike other := by
  obtain ⟨stateStep, config⟩ := Machine.state_step failed
  have otherStep := alike.state_step
  rw [stateStep] at otherStep
  refine ⟨n.withState (after.state.recounted n.state.cycles), ?_, ?_, rfl⟩
  · simp only [step, otherStep]
  · rw [config]
    exact alike.dialect

end Alike

end Machine

end ChipEight
