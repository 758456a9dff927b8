import ChipEight.Execution

/-!
# The instruction cycle

A step fetches the two bytes at the program counter, decodes the word they form, high
byte first, and carries it out.  It reports what was done, with every access to memory
on the way.
-/

namespace ChipEight

/-- What one step did. -/
structure StepReport where
  /-- The instruction waits for a key, and the program counter has not moved. -/
  waiting : Bool
  pc : Int
  nextPc : Int
  operation : Operation
  /-- The count of completed steps, this one included. -/
  cycle : Nat
  /-- The instruction as assembly text. -/
  symbol : String
  activity : List Access
  deriving DecidableEq, Repr

namespace Action

/-- Fetches the word at the program counter. -/
def fetch : Action Int := do
  let pc := (← get).registers.pc
  checkRange pc 2
  let high ← readByte pc
  let low ← readByte (pc + 1)
  return 256 * high.toNat + low.toNat

/-- The instruction that a word found at an address stands for. -/
def decode (word address : Int) : Action Operation :=
  match Operation.decode? word with
  | some op => return op
  | none => throw (.unknownInstruction word address)

/-- Takes the record of accesses, counts the step, and reports on it. -/
def finish (pc : Int) (op : Operation) (flow : Flow) : Action StepReport := do
  let activity ← takeLog
  modify fun s => { s with cycles := s.cycles + 1 }
  let s ← get
  return { waiting := flow = .wait, pc := pc, nextPc := s.registers.pc, operation := op
           cycle := s.cycles, symbol := op.text, activity := activity }

/-- One step. -/
def step (d : Dialect) : Action StepReport := do
  let _ ← takeLog
  let pc := (← get).registers.pc
  let op ← decode (← fetch) pc
  let flow ← op.execute d
  setPc (flow.apply pc)
  finish pc op flow

end Action

/-- One step: its report or the fault that it ended in, and the state after it. -/
def State.step (d : Dialect) (s : State) : Except Fault StepReport × State :=
  (Action.step d).run s

end ChipEight
