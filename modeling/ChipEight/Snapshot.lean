import ChipEight.State
import ChipEight.Value.Basic

/-!
# Snapshots

A snapshot records the whole state of a machine apart from its count of instructions.
A host may hand back a snapshot that it has altered, so the fields hold values of any
kind.  Restoring checks every one of them first, and only then builds a state from them,
part by part.
-/

namespace ChipEight

/-- The fields of a snapshot. -/
structure Snapshot where
  memory : Value
  v : Value
  i : Value
  pc : Value
  sp : Value
  stack : Value
  delay : Value
  sound : Value
  framebuffer : Value
  keys : Value
  waiting : Value
  waitRegister : Value
  pending : Value
  random : Value
  deriving Inhabited

namespace Snapshot

/-- The names of the fields. -/
inductive Field where
  | memory
  | v
  | i
  | pc
  | sp
  | stack
  | delay
  | sound
  | framebuffer
  | keys
  | waiting
  | waitRegister
  | pending
  | random
  deriving DecidableEq, Repr

namespace Field

/-- All fields, in the order in which they are checked. -/
def all : List Field :=
  [memory, v, i, pc, sp, stack, delay, sound, framebuffer, keys, waiting, waitRegister, pending,
    random]

theorem mem_all (field : Field) : field ∈ all := by
  cases field <;> decide

/-- What a field has to hold. -/
def requirement : Field → String
  | memory => "memory must be 4096 bytes"
  | v => "v must hold 16 8-bit values"
  | i => "i must be a 16-bit value"
  | pc => "pc must leave room for a 2-byte fetch"
  | sp => "sp must be between 0 and 16"
  | stack => "stack must hold 16 16-bit values"
  | delay => "delay_timer must be an 8-bit value"
  | sound => "sound_timer must be an 8-bit value"
  | framebuffer => "framebuffer must be 2048 pixels of 0 or 1"
  | keys => "keys must hold 16 booleans"
  | waiting => "key_waiting must be a boolean"
  | waitRegister => "key_wait_register must be a register index"
  | pending => "pending_key must be a key code"
  | random => "rng_state must be a random.Random state (version 3, 625 32-bit words)"

/-- The field that a host names. -/
def ofName? : String → Option Field
  | "memory" => some memory
  | "v" => some v
  | "i" => some i
  | "pc" => some pc
  | "sp" => some sp
  | "stack" => some stack
  | "delay_timer" => some delay
  | "sound_timer" => some sound
  | "framebuffer" => some framebuffer
  | "keys" => some keys
  | "key_waiting" => some waiting
  | "key_wait_register" => some waitRegister
  | "pending_key" => some pending
  | "rng_state" => some random
  | _ => none

end Field

/-- The snapshot with one field replaced. -/
def replace (s : Snapshot) (value : Value) : Field → Snapshot
  | .memory => { s with memory := value }
  | .v => { s with v := value }
  | .i => { s with i := value }
  | .pc => { s with pc := value }
  | .sp => { s with sp := value }
  | .stack => { s with stack := value }
  | .delay => { s with delay := value }
  | .sound => { s with sound := value }
  | .framebuffer => { s with framebuffer := value }
  | .keys => { s with keys := value }
  | .waiting => { s with waiting := value }
  | .waitRegister => { s with waitRegister := value }
  | .pending => { s with pending := value }
  | .random => { s with random := value }

/-- The fields in order. -/
def fields (s : Snapshot) : List Value :=
  [s.memory, s.v, s.i, s.pc, s.sp, s.stack, s.delay, s.sound, s.framebuffer, s.keys, s.waiting,
    s.waitRegister, s.pending, s.random]

/-! ## Taking a snapshot -/

/-- A natural number as a value. -/
def ofNat (n : Nat) : Value := .int n

/-- The words of a generator as values. -/
def ofWords (words : Vector UInt32 624) : List Value :=
  words.toList.map fun word => ofNat word.toNat

/-- The deviate that a generator keeps, if any, as a value. -/
def ofSpare : Option Float → Value
  | some x => .float x
  | none => .null

/-- The key that has met a request, if any, as a value. -/
def ofPending : Option Int → Value
  | some key => .int key
  | none => .null

/-- The state of the generator: its version, its words with the position behind them,
and the deviate that it keeps. -/
def ofGenerator (g : Generator) : Value :=
  .tuple [ofNat 3, .tuple (ofWords g.words ++ [ofNat g.position]), ofSpare g.spare]

/-- The snapshot of a state. -/
def ofState (s : State) : Snapshot where
  memory := .bytes s.memory.image
  v := .tuple (s.registers.v.toList.map fun value => ofNat value.toNat)
  i := ofNat s.registers.i.toNat
  pc := .int s.registers.pc
  sp := ofNat s.registers.stack.depth
  stack := .tuple (s.registers.stack.slots.toList.map fun slot => ofNat slot.toNat)
  delay := ofNat s.timers.delay.toNat
  sound := ofNat s.timers.sound.toNat
  framebuffer := .bytes s.screen.image
  keys := .tuple (s.keypad.keys.toList.map .bool)
  waiting := .bool s.keypad.waiting
  waitRegister := .int s.keypad.waitRegister
  pending := ofPending s.keypad.pending
  random := ofGenerator s.random

/-! ## Checking a snapshot -/

/-- Why something is not restored. -/
inductive Complaint where
  /-- It is no snapshot at all, but a value of another kind. -/
  | foreign (kind : String)
  /-- A field does not hold what it has to. -/
  | invalid (field : Field)
  deriving DecidableEq, Repr

/-- The message of a complaint. -/
def Complaint.message : Complaint → String
  | foreign kind => "Expected a MachineSnapshot, got " ++ kind ++ "."
  | invalid field => "Invalid snapshot: " ++ field.requirement ++ "."

/-- Whether a value is an integer from zero to a bound.  Truth values and floats are none. -/
def isUpTo (bound : Nat) : Value → Bool
  | .int n => 0 ≤ n && n ≤ bound
  | _ => false

/-- Whether a value is a truth value. -/
def isTruth : Value → Bool
  | .bool _ => true
  | _ => false

/-- Whether a value is there and passes a check, or is absent. -/
def isAbsentOr (check : Value → Bool) : Value → Bool
  | .null => true
  | value => check value

/-- Whether a value is a fixed sequence of so many items, each of which passes a check. -/
def isSequence (size : Nat) (check : Value → Bool) : Value → Bool
  | .tuple items => items.length == size && items.all check
  | _ => false

/-- Whether a value is a byte string of so many bytes, each of which passes a check. -/
def isOctets (size : Nat) (check : UInt8 → Bool) (value : Value) : Bool :=
  match value.octets? with
  | some data => data.length == size && data.all check
  | none => false

/-- Whether a value is a deviate that a generator may keep. -/
def isSpare : Value → Bool
  | .null | .float _ => true
  | _ => false

/-- Whether a value is the state of a generator: its version, its words with the position
behind them, and its deviate. -/
def isGenerator : Value → Bool
  | .tuple [.int version, .tuple words, spare] =>
      version == 3 && words.length == 625 && (words.take 624).all (isUpTo 0xFFFFFFFF) &&
        isUpTo 624 (words.getD 624 .null) && isSpare spare
  | _ => false

/-- Whether a field holds what it has to. -/
def accepts (s : Snapshot) : Field → Bool
  | .memory => isOctets 4096 (fun _ => true) s.memory
  | .v => isSequence 16 (isUpTo 0xFF) s.v
  | .i => isUpTo 0xFFFF s.i
  | .pc => isUpTo 0xFFE s.pc
  | .sp => isUpTo 16 s.sp
  | .stack => isSequence 16 (isUpTo 0xFFFF) s.stack
  | .delay => isUpTo 0xFF s.delay
  | .sound => isUpTo 0xFF s.sound
  | .framebuffer => isOctets 2048 (· ≤ 1) s.framebuffer
  | .keys => isSequence 16 isTruth s.keys
  | .waiting => isTruth s.waiting
  | .waitRegister => isUpTo 0xF s.waitRegister
  | .pending => isAbsentOr (isUpTo 0xF) s.pending
  | .random => isAbsentOr isGenerator s.random

/-- Checks all fields in order.  The complaint is about the first that is wrong. -/
def validate (s : Snapshot) : Except Complaint Unit :=
  match Field.all.find? fun field => !s.accepts field with
  | some field => .error (.invalid field)
  | none => .ok ()

/-! ## Building a state -/

/-- An integer. -/
def integer? : Value → Option Int
  | .int n => some n
  | _ => none

/-- A natural number below a bound. -/
def fin? (bound : Nat) (value : Value) : Option (Fin bound) :=
  (integer? value).bind (place? bound)

/-- A byte. -/
def byte? (value : Value) : Option UInt8 :=
  (fin? 256 value).map fun n => UInt8.ofNat n.val

/-- A number of sixteen bits. -/
def word? (value : Value) : Option UInt16 :=
  (fin? 65536 value).map fun n => UInt16.ofNat n.val

/-- A number of thirty-two bits. -/
def output? (value : Value) : Option UInt32 :=
  (fin? 4294967296 value).map fun n => UInt32.ofNat n.val

/-- A truth value. -/
def bool? : Value → Option Bool
  | .bool b => some b
  | _ => none

/-- The items of a fixed sequence. -/
def items? {α : Type} (item? : Value → Option α) : Value → Option (List α)
  | .tuple items => items.mapM item?
  | _ => none

/-- A list of the given length as a vector. -/
def vector? {α : Type} (size : Nat) (items : List α) : Option (Vector α size) :=
  if same : items.toArray.size = size then some ⟨items.toArray, same⟩ else none

/-- The deviate that a generator keeps: a float, or nothing. -/
def spare? : Value → Option (Option Float)
  | .null => some none
  | .float x => some (some x)
  | _ => none

/-- The generator with a given state. -/
def generator? : Value → Option Generator
  | .tuple [.int 3, .tuple words, spare] =>
      if words.length = 625 then do
        let outputs ← ((words.take 624).mapM output?).bind (vector? 624)
        let position ← fin? 625 (words.getD 624 .null)
        let spare ← spare? spare
        return { words := outputs, position := position.val, spare := spare }
      else none
  | _ => none

/-- The generator of a snapshot; where there is none, the one that the surroundings
provide. -/
def random? (fresh : Generator) : Value → Option Generator
  | .null => some fresh
  | value => generator? value

/-- The key that has met a request, if any. -/
def pending? : Value → Option (Option Int)
  | .null => some none
  | value => (integer? value).map some

/-- The registers of a snapshot. -/
def registers? (s : Snapshot) : Option Registers := do
  let v ← (items? byte? s.v).bind (vector? 16)
  let i ← word? s.i
  let pc ← integer? s.pc
  let depth ← fin? 17 s.sp
  let slots ← (items? word? s.stack).bind (vector? 16)
  return { v := v, i := i, pc := pc, stack := { slots := slots, depth := depth.val } }

/-- What a field was read as.  A part cannot be built from a value of the wrong kind. -/
def part {α : Type} : Option α → Except Refusal α
  | some value => .ok value
  | none => .error .wrongKind

/-- The state that a snapshot records, with the given count of instructions, built part by
part from fields that nobody has checked. -/
def rebuild (s : Snapshot) (fresh : Generator) (cycles : Nat) : Except Refusal State := do
  let random ← part (random? fresh s.random)
  let registers ← part s.registers?
  let memory ← Memory.ofImage (← part s.memory.octets?)
  let screen ← Screen.ofImage (← part s.framebuffer.octets?)
  let keypad ← Keypad.ofParts (← part (items? bool? s.keys)) (← part (bool? s.waiting))
    (← part (integer? s.waitRegister)) (← part (pending? s.pending))
  let delay ← part (integer? s.delay)
  let sound ← part (integer? s.sound)
  return { memory, registers, screen, keypad, timers := .ofInts delay sound, random, cycles }

end Snapshot

/-! ## Restoring -/

/-- What a host hands over to be restored. -/
inductive Restorable where
  | snapshot (s : Snapshot)
  | foreign (value : Value)
  deriving Inhabited

/-- What stops a restoration: a complaint about what was handed over, or a part of the
machine that refuses what it is to be built from. -/
inductive RestoreFailure where
  | complaint (cause : Snapshot.Complaint)
  | refusal (cause : Refusal)
  deriving DecidableEq, Repr

namespace RestoreFailure

/-- The message of a failure. -/
def message : RestoreFailure → String
  | complaint cause => cause.message
  | refusal cause => cause.message

/-- The name under which a failure is reported. -/
def label : RestoreFailure → String
  | complaint _ => "RestoreError"
  | refusal cause => cause.label

end RestoreFailure

/-- The state to go on with after something was handed over; the count of instructions
goes on. -/
def State.restore (s : State) (source : Restorable) (fresh : Generator := .ofSeed 0) :
    Except RestoreFailure State :=
  match source with
  | .foreign value => .error (.complaint (.foreign value.kindName))
  | .snapshot snapshot =>
      match snapshot.validate with
      | .error complaint => .error (.complaint complaint)
      | .ok () => (snapshot.rebuild fresh s.cycles).mapError .refusal

end ChipEight
