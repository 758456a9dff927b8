import ChipEight.State

/-!
# Actions

What an instruction does, it does to the state in place.  An action that ends in a fault
leaves behind whatever it has changed by then, so that one can see whether an instruction
looks before it acts.
-/

namespace ChipEight

/-- A change of the state in place, with a result or a fault at its end. -/
def Action (α : Type) : Type := ExceptT Fault (StateM State) α

namespace Action

instance : Monad Action := inferInstanceAs (Monad (ExceptT Fault (StateM State)))

instance : MonadStateOf State Action :=
  inferInstanceAs (MonadStateOf State (ExceptT Fault (StateM State)))

instance : MonadExceptOf Fault Action :=
  inferInstanceAs (MonadExceptOf Fault (ExceptT Fault (StateM State)))

/-- What an action comes to in a state, and the state that it leaves behind. -/
def run {α : Type} (action : Action α) (s : State) : Except Fault α × State :=
  StateT.run (m := Id) (ExceptT.run action) s

/-- The result of a check or of a look-up, or its fault. -/
def lift {α : Type} : Except Fault α → Action α
  | .ok value => pure value
  | .error fault => throw fault

variable {α β : Type}

@[simp]
theorem run_pure (value : α) (s : State) : (pure value : Action α).run s = (.ok value, s) :=
  rfl

@[simp]
theorem run_throw (fault : Fault) (s : State) :
    (throw fault : Action α).run s = (.error fault, s) :=
  rfl

@[simp]
theorem run_get (s : State) : (get : Action State).run s = (.ok s, s) :=
  rfl

@[simp]
theorem run_modify (change : State → State) (s : State) :
    (modify change : Action Unit).run s = (.ok (), change s) :=
  rfl

/-- After a fault nothing more is carried out. -/
@[simp]
theorem run_bind (action : Action α) (next : α → Action β) (s : State) :
    (action >>= next).run s =
      match action.run s with
      | (.ok value, t) => (next value).run t
      | (.error fault, t) => (.error fault, t) := by
  change StateT.run (m := Id) (ExceptT.bind action next) s = _
  simp only [ExceptT.bind, ExceptT.mk, StateT.run, run, ExceptT.run]
  change ExceptT.bindCont next (action s).1 (action s).2 = _
  cases action s with
  | mk result t => cases result <;> rfl

theorem run_bind_ok {action : Action α} {next : α → Action β} {value : α} {s t : State}
    (ran : action.run s = (.ok value, t)) : (action >>= next).run s = (next value).run t := by
  rw [run_bind, ran]

theorem run_bind_error {action : Action α} {next : α → Action β} {fault : Fault} {s t : State}
    (ran : action.run s = (.error fault, t)) :
    (action >>= next).run s = (.error fault, t) := by
  rw [run_bind, ran]

/-- A look-up changes nothing, whatever it comes to. -/
@[simp]
theorem run_lift (result : Except Fault α) (s : State) : (lift result).run s = (result, s) := by
  cases result <;> rfl

/-! ## Memory -/

/-- Checks that `length` bytes from an address on lie in memory. -/
def checkRange (address length : Int) : Action Unit :=
  lift (Memory.checkRange address length)

/-- Reads a byte. -/
def readByte (address : Int) : Action UInt8 := do
  let (data, memory) ← lift ((← get).memory.read address)
  modify fun s => { s with memory := memory }
  return data

/-- Writes a byte. -/
def writeByte (address : Int) (data : UInt8) : Action Unit := do
  let memory ← lift ((← get).memory.write address data)
  modify fun s => { s with memory := memory }

/-- Reads so many bytes one after the other. -/
def readBytes (address : Int) : Nat → Action (List UInt8)
  | 0 => return []
  | count + 1 => do
      let data ← readByte address
      let rest ← readBytes (address + 1) count
      return data :: rest

/-- Writes bytes one after the other. -/
def writeBytes (address : Int) : List UInt8 → Action Unit
  | [] => return ()
  | data :: rest => do
      writeByte address data
      writeBytes (address + 1) rest

/-- Reads one byte for each of some registers, which take them one after the other. -/
def readRegisters (address : Int) : List Nibble → Action Unit
  | [] => return ()
  | register :: rest => do
      let data ← readByte address
      modify fun s => s.setV register data
      readRegisters (address + 1) rest

/-- Takes the accesses since the record was last taken. -/
def takeLog : Action (List Access) := do
  let (log, memory) := (← get).memory.takeLog
  modify fun s => { s with memory := memory }
  return log

/-! ## Registers -/

/-- Stores a return address. -/
def push (address : UInt16) : Action Unit := do
  match (← get).registers.stack.push? address with
  | some stack => modify fun s => { s with registers := { s.registers with stack := stack } }
  | none => throw .stackOverflow

/-- Takes the last return address. -/
def pop : Action UInt16 := do
  match (← get).registers.stack.pop? with
  | some (address, stack) =>
      modify fun s => { s with registers := { s.registers with stack := stack } }
      return address
  | none => throw .stackUnderflow

/-- Sets the program counter. -/
def setPc (pc : Int) : Action Unit :=
  modify fun s => { s with registers := { s.registers with pc := pc } }

end Action

end ChipEight
