import ChipEight.Keypad
import ChipEight.Memory
import ChipEight.Random.Twister
import ChipEight.Registers
import ChipEight.Screen
import ChipEight.Timers

/-!
# The state of a machine

All that changes while a machine runs.  What the host does to it between instructions
is a list of host events.
-/

namespace ChipEight

/-- Memory, registers, screen, keypad, timers, random numbers, and the count of
completed instructions. -/
structure State where
  memory : Memory
  registers : Registers
  screen : Screen
  keypad : Keypad
  timers : Timers
  random : Generator
  cycles : Nat

namespace State

/-- The generator that a new machine starts with: that of the seed, or without a seed the
one that the surroundings provide. -/
def startGenerator (seed : Option Int) (fresh : Generator) : Generator :=
  match seed with
  | some seed => .ofSeed seed
  | none => fresh

/-- The state after power-up.  Where the surroundings provide nothing else, a machine
without a seed gets the random numbers of seed zero. -/
def initial (seed : Option Int) (fresh : Generator := .ofSeed 0) : State where
  memory := .initial
  registers := .initial
  screen := .blank
  keypad := .initial
  timers := .stopped
  random := startGenerator seed fresh
  cycles := 0

/-- New devices in place of the old ones: memory, screen, keypad, timers and random numbers. -/
def withNewDevices (s : State) (seed : Option Int) (fresh : Generator) : State :=
  { s with
    memory := .initial
    screen := .blank
    keypad := .initial
    timers := .stopped
    random := startGenerator seed fresh }

/-- Registers and count as after power-up. -/
def restarted (s : State) : State :=
  { s with registers := .initial, cycles := 0 }

/-- Sets a byte register. -/
def setV (s : State) (register : Nibble) (value : UInt8) : State :=
  { s with registers := s.registers.setV register value }

/-- Sets the index register. -/
def setI (s : State) (value : UInt16) : State :=
  { s with registers := { s.registers with i := value } }

/-- A byte register. -/
def v (s : State) (register : Nibble) : UInt8 :=
  s.registers.v.get register

/-- Whether the machine waits for a key press. -/
def waiting (s : State) : Bool :=
  s.keypad.waiting

/-- One tick of both timers. -/
def tick (s : State) : State :=
  { s with timers := s.timers.tick }

/-- A key goes down or up. -/
def press (s : State) (key : Fin 16) (down : Bool) : State :=
  { s with keypad := s.keypad.press key down }

/-- The registers and timers by name, in the order in which they are listed. -/
def registerMap (s : State) : List (String × Int) :=
  let bytes : List (String × Int) :=
    (List.finRange 16).map fun k => ("V" ++ Hex.upper 1 k.val, ((s.v k).toNat : Int))
  let others : List (String × Int) :=
    [("I", s.registers.i.toNat), ("PC", s.registers.pc), ("SP", s.registers.stack.depth),
      ("DT", s.timers.delay.toNat), ("ST", s.timers.sound.toNat)]
  bytes ++ others

/-- The groups of registers with their widths in bits. -/
def registerLayout : List (String × List (String × Nat)) :=
  [("General", (List.finRange 16).map fun k => ("V" ++ Hex.upper 1 k.val, 8)),
    ("Index/Pointers", [("I", 16), ("PC", 16), ("SP", 8)]),
    ("Timers", [("DT", 8), ("ST", 8)])]

/-- The conditions that are shown as flags. -/
def flags (s : State) : List (String × Bool) :=
  [("VF", s.v Registers.flag != 0), ("SOUND", s.timers.soundActive),
    ("KEY_WAIT", s.keypad.waiting)]

end State

end ChipEight
