import ChipEight.Machine

/-!
# Host calls

A host drives a machine by calls, in any order and number.  A call that fails tells why,
and the host goes on with the machine as the call has left it.
-/

namespace ChipEight

/-- What a host can ask of a machine.  Where a call needs new random numbers, `fresh` are
those that the surroundings provide. -/
inductive Call where
  | load (program : List UInt8)
  | step
  | tick
  | setKey (key : Int) (down : Bool)
  | reset (fresh : Generator)
  | restore (source : Restorable) (fresh : Generator)

/-- Why a call fails. -/
inductive CallFailure where
  | fault (cause : Fault)
  | refusal (cause : Refusal)
  | restore (cause : RestoreFailure)
  deriving DecidableEq, Repr

/-- The name under which a failure is reported. -/
def CallFailure.label : CallFailure → String
  | fault cause => cause.label
  | refusal cause => cause.label
  | restore cause => cause.label

namespace Machine

/-- Goes on with the machine that a call has built, or without one with the old machine. -/
def settle {ε : Type} (m : Machine) (failure : ε → CallFailure) :
    Except ε Machine → Except CallFailure (Option StepReport) × Machine
  | .ok after => (.ok none, after)
  | .error cause => (.error (failure cause), m)

/-- Carries out a call.  A step gives its report. -/
def call (m : Machine) : Call → Except CallFailure (Option StepReport) × Machine
  | .load program => m.settle .fault (m.load program)
  | .step =>
      match m.step with
      | (.ok report, after) => (.ok (some report), after)
      | (.error fault, after) => (.error (.fault fault), after)
  | .tick => (.ok none, m.tick)
  | .setKey key down => m.settle .refusal (m.setKey key down)
  | .reset fresh => (.ok none, m.reset fresh)
  | .restore source fresh => m.settle .restore (m.restore source fresh)

/-- A step as a call: what the step of the state comes to, and the state after it. -/
theorem call_step_eq (m : Machine) :
    m.call .step =
      (((m.state.step m.config.dialect).1.map some).mapError .fault,
        m.withState (m.state.step m.config.dialect).2) := by
  simp only [Machine.call, step]
  cases (m.state.step m.config.dialect).1 <;> rfl

/-- No call changes the configuration. -/
@[simp]
theorem config_call (m : Machine) (call : Call) : (m.call call).2.config = m.config := by
  cases call with
  | load program =>
      simp only [Machine.call, load]
      cases m.state.memory.loadProgram program <;> rfl
  | step => rw [call_step_eq, config_withState]
  | tick => rfl
  | setKey key down =>
      simp only [Machine.call, setKey]
      cases m.state.keypad.update key down <;> rfl
  | reset fresh => exact m.config_reset fresh
  | restore source fresh =>
      simp only [Machine.call, restore]
      cases m.state.restore source fresh <;> rfl

/-- The machine after calls, whether they fail or not. -/
def callAll (m : Machine) : List Call → Machine
  | [] => m
  | call :: rest => (m.call call).2.callAll rest

/-- What calls come to, one after the other. -/
def answers (m : Machine) : List Call → List (Except CallFailure (Option StepReport))
  | [] => []
  | call :: rest => (m.call call).1 :: (m.call call).2.answers rest

end Machine

end ChipEight
