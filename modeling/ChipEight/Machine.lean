import ChipEight.Config.Basic
import ChipEight.Listing
import ChipEight.Snapshot
import ChipEight.Step

/-!
# Machines

A machine is a configuration, settled when it is built, and a state.  These are the
operations that hosts have on it.
-/

namespace ChipEight

/-- A configuration and a state. -/
structure Machine where
  config : Config
  state : State

namespace Machine

/-- A machine after power-up. -/
def new (config : Config) (fresh : Generator := .ofSeed 0) : Machine :=
  ⟨config, .initial config.seed fresh⟩

/-- Replaces the state. -/
def withState (m : Machine) (state : State) : Machine :=
  { m with state := state }

@[simp]
theorem config_withState (m : Machine) (state : State) : (m.withState state).config = m.config :=
  rfl

/-- Places a program in memory. -/
def load (m : Machine) (program : List UInt8) : Except Fault Machine :=
  match m.state.memory.loadProgram program with
  | .ok memory => .ok (m.withState { m.state with memory := memory })
  | .error fault => .error fault

/-- A machine with a program in memory, if one is given. -/
def build (config : Config) : Option (List UInt8) → Except Fault Machine
  | some program => (new config).load program
  | none => .ok (new config)

/-- Power-up again.  The machine gets new devices, then the registers and the count start
anew. -/
def reset (m : Machine) (fresh : Generator := .ofSeed 0) : Machine :=
  m.withState (m.state.withNewDevices m.config.seed fresh).restarted

/-- Everything but the configuration starts anew. -/
theorem reset_eq_new (m : Machine) (fresh : Generator) : m.reset fresh = new m.config fresh :=
  rfl

@[simp]
theorem config_reset (m : Machine) (fresh : Generator) : (m.reset fresh).config = m.config :=
  m.config_withState _

/-- Carries out one instruction. -/
def step (m : Machine) : Except Fault StepReport × Machine :=
  let (result, state) := m.state.step m.config.dialect
  (result, m.withState state)

/-- One tick of the timers. -/
def tick (m : Machine) : Machine :=
  m.withState m.state.tick

/-- Sets the state of a key. -/
def setKey (m : Machine) (key : Int) (down : Bool) : Except Refusal Machine :=
  match m.state.keypad.update key down with
  | .ok keypad => .ok (m.withState { m.state with keypad := keypad })
  | .error refusal => .error refusal

/-- The listing of `length` bytes from an address on, as far as memory goes. -/
def listing (m : Machine) (start length : Int) : Except Fault (List ListingLine) × Machine :=
  let (result, state) := (Action.listingFrom (min (start + length) 4096) start).run m.state
  (result, m.withState state)

/-- The snapshot of the machine. -/
def capture (m : Machine) : Snapshot :=
  .ofState m.state

/-- Goes on with what the host hands over, or leaves the machine as it was.  A snapshot
without random numbers gets those that the surroundings provide. -/
def restore (m : Machine) (source : Restorable) (fresh : Generator := .ofSeed 0) :
    Except RestoreFailure Machine :=
  match m.state.restore source fresh with
  | .ok state => .ok (m.withState state)
  | .error failure => .error failure

end Machine

end ChipEight
