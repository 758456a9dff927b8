import ChipEight.Text.Hex

/-!
# Engine faults

The ways in which an instruction, or the loading of a program, can go wrong.  A fault
is reported to the host, which alone decides what to do about it.
-/

namespace ChipEight

/-- What stops the engine. -/
inductive Fault where
  /-- An access to an address outside memory. -/
  | outOfRange (address : Int)
  /-- A jump to where no whole instruction fits. -/
  | jumpTarget (target : Int)
  /-- A program that reaches beyond the end of memory. -/
  | programTooLong (size : Nat)
  /-- A call with sixteen return addresses already stored. -/
  | stackOverflow
  /-- A return with no return address stored. -/
  | stackUnderflow
  /-- A word that is no instruction, found at an address if there is one. -/
  | unknownInstruction (word : Int) (address : Option Int)
  deriving DecidableEq, Repr

namespace Fault

/-- The address that a fault of addressing is about. -/
def badAddress? : Fault → Option Int
  | outOfRange address => some address
  | jumpTarget target => some target
  | programTooLong size => some (0x200 + (size : Int) - 1)
  | _ => none

/-- The message of a fault. -/
def message : Fault → String
  | outOfRange address => "Address " ++ Hex.address address ++ " out of bounds (0x000-0xFFF)."
  | jumpTarget target =>
      "Jump target " ++ Hex.address target ++ " leaves no room for a 2-byte instruction."
  | programTooLong size =>
      "Program of " ++ toString size ++ " bytes does not fit between 0x200 and 0xfff."
  | stackOverflow => "Call stack overflow: 16 return addresses already stored."
  | stackUnderflow => "Return with an empty call stack."
  | unknownInstruction word address =>
      let place := (address.map fun a => " at " ++ Hex.address a).getD ""
      "Unknown instruction " ++ Hex.word word ++ place ++ "."

/-- The name under which a fault is reported. -/
def label : Fault → String
  | outOfRange _ | jumpTarget _ | programTooLong _ => "AddressOutOfBounds"
  | stackOverflow => "StackOverflow"
  | stackUnderflow => "StackUnderflow"
  | unknownInstruction _ _ => "UnknownInstruction"

end Fault

end ChipEight
