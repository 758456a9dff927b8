import ChipEight.State
import ChipEight.Step

/-!
# Breakpoints

A breakpoint names something to stop at: an address that is about to be executed, an
address that a step read or wrote, a value that a register has after a step, or a
register that a step changed.
-/

namespace ChipEight

/-- What a breakpoint watches. -/
inductive Watch where
  | programCounter
  | memoryRead
  | memoryWrite
  | registerValue
  | registerChange
  deriving DecidableEq, Repr

namespace Watch

/-- The names of what can be watched. -/
def label : Watch → String
  | programCounter => "PC_MATCH"
  | memoryRead => "MEMORY_READ"
  | memoryWrite => "MEMORY_WRITE"
  | registerValue => "REGISTER_VALUE"
  | registerChange => "REGISTER_CHANGE"

/-- What a name stands for. -/
def ofLabel (name : Text) : Except Refusal Watch :=
  let known := [programCounter, memoryRead, memoryWrite, registerValue, registerChange]
  match known.find? fun watch => Text.ofString watch.label == name with
  | some watch => .ok watch
  | none => .error (.breakpointKind name)

end Watch

/-- Something to stop at.  Each kind of watch looks at some of the other fields. -/
structure Breakpoint where
  watch : Watch
  value : Option Int
  address : Option Int
  register : Option String
  enabled : Bool
  deriving DecidableEq, Repr

namespace Breakpoint

/-- Whether to stop before executing the instruction at an address. -/
def stopsAt (b : Breakpoint) (pc : Int) : Bool :=
  b.enabled && b.watch == .programCounter && b.value == some pc

/-- The value of a register in a listing of registers. -/
def valueIn? (registers : List (String × Int)) (name : Option String) : Option Int :=
  name.bind fun name => (registers.find? fun entry => entry.1 == name).map (·.2)

/-- Whether an access is a read. -/
def isRead : Access → Bool
  | .read _ _ => true
  | .write _ _ _ => false

/-- Whether to stop after a step, given the registers before and after it. -/
def stopsAfter (b : Breakpoint) (activity : List Access) (before after : List (String × Int)) :
    Bool :=
  b.enabled &&
    match b.watch with
    | .programCounter => false
    | .memoryRead =>
        activity.any fun access => isRead access && b.address == some (access.address.val : Int)
    | .memoryWrite =>
        activity.any fun access => !isRead access && b.address == some (access.address.val : Int)
    | .registerValue =>
        match valueIn? after b.register with
        | some now => b.value == some now
        | none => false
    | .registerChange =>
        match valueIn? after b.register, valueIn? before b.register with
        | some now, some earlier => now != earlier
        | _, _ => false

end Breakpoint

end ChipEight
