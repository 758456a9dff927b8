import ChipEight.Fault
import ChipEight.Text.Quoted

/-!
# Refused requests

A host can ask a part of the machine for something that makes no sense: a value that
is no byte, a key that does not exist, a negative running time.  The part refuses and
stays as it was.
-/

namespace ChipEight

/-- Why a request of the host is refused. -/
inductive Refusal where
  /-- The request ran into a fault of the engine. -/
  | fault (cause : Fault)
  /-- A value to be stored is no byte. -/
  | notByte (data : Int)
  /-- Program data holds a value that is no byte. -/
  | byteRange
  /-- A memory image of the wrong size. -/
  | imageSize (size : Nat)
  /-- A screen image of the wrong size. -/
  | pixelCount (size : Nat)
  /-- A screen image with a value other than zero and one. -/
  | pixelValue
  /-- A pixel that is not on the screen. -/
  | pixelOutside (x y : Int)
  /-- A value of a kind that the part cannot do anything with. -/
  | wrongKind
  /-- A position beyond both ends of a sequence. -/
  | noSuchSlot
  /-- A key that does not exist. -/
  | keyCode (key : Int)
  /-- The wrong number of key states. -/
  | keyCount (count : Nat)
  /-- A program counter that leaves no room for an instruction. -/
  | pcOutside (value : Int)
  /-- A program counter between two instructions. -/
  | pcUnaligned (value : Int)
  /-- A rate of instructions or ticks that is not positive. -/
  | rates
  /-- A runner that stopped at a fault and has not been reset. -/
  | halted
  /-- A negative running time, with its text. -/
  | negativeTime (shown : String)
  /-- A negative number of instructions. -/
  | negativeCycles (count : Int)
  /-- A time too long for the clock. -/
  | timeOverflow
  /-- A time that is not a number. -/
  | timeUndefined
  /-- A negative history limit. -/
  | historyLimit
  /-- A history limit too large for any queue. -/
  | historyOverflow
  /-- A kind of breakpoint that does not exist. -/
  | breakpointKind (name : Text)
  /-- A way to go on that does not exist. -/
  | flowKind (name : Text)
  deriving DecidableEq, Repr

namespace Refusal

/-- The message of a refusal, if it has one. -/
def message : Refusal → String
  | fault cause => cause.message
  | notByte data => "Data " ++ toString data ++ " is not an 8-bit value."
  | byteRange => "bytes must be in range(0, 256)"
  | imageSize size => "Memory image must be 4096 bytes, got " ++ toString size ++ "."
  | pixelCount size => "Framebuffer needs 2048 pixels, got " ++ toString size ++ "."
  | pixelValue => "Framebuffer pixels must be 0 or 1."
  | pixelOutside x y => "Pixel (" ++ toString x ++ ", " ++ toString y ++ ") outside 64x32."
  | wrongKind => ""
  | noSuchSlot => ""
  | keyCode key => "Key code " ++ toString key ++ " is outside 0x0-0xF."
  | keyCount count => "Keypad needs 16 key states, got " ++ toString count ++ "."
  | pcOutside value => "PC " ++ Hex.address value ++ " is outside 0x000-0xFFE."
  | pcUnaligned value =>
      "PC " ++ Hex.address value ++ " is not aligned to an instruction boundary."
  | rates => "cycles_per_second and timer_hz must be positive"
  | halted => "Runner is halted after an engine error; call reset() first"
  | negativeTime shown => "elapsed_seconds must not be negative: " ++ shown
  | negativeCycles count => "Cycle count must not be negative: " ++ toString count
  | timeOverflow => ""
  | timeUndefined => "cannot convert float NaN to integer"
  | historyLimit => "maxlen must be non-negative"
  | historyOverflow => ""
  | breakpointKind name => Text.quoted name ++ " is not a valid BreakpointConditionType"
  | flowKind name => Text.quoted name ++ " is not a valid PcUpdateKind"

/-- The name under which a refusal is reported. -/
def label : Refusal → String
  | fault cause => cause.label
  | wrongKind => "TypeError"
  | pixelOutside _ _ | noSuchSlot => "IndexError"
  | halted => "RuntimeError"
  | timeOverflow | historyOverflow => "OverflowError"
  | _ => "ValueError"

end Refusal

/-- The place in a sequence that an index names from the front. -/
def place? (size : Nat) (index : Int) : Option (Fin size) :=
  if inside : 0 ≤ index ∧ index < size then some ⟨index.toNat, by omega⟩ else none

/-- The place that an index names in a sequence: from the front, or from the end when
it is negative. -/
def slot? (size : Nat) (index : Int) : Option (Fin size) :=
  place? size (if index < 0 then index + size else index)

end ChipEight
