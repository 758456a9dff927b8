/-!
# The instruction set

There are thirty-four kinds of instruction.  Each is recognised by some of the four
hexadecimal digits of its word; the other digits hold operands.  No word has the
pattern of two kinds.
-/

namespace ChipEight

/-- A hexadecimal digit; also the number of a register or of a key. -/
abbrev Nibble := Fin 16

/-- The digit of an integer with the given power of sixteen.  Negative integers have
the digits of their two's complement form, which goes on without end. -/
def nibble (raw : Int) (power : Nat) : Nibble :=
  Fin.ofNat 16 (raw / Nat.pow 16 power % 16).toNat

/-- The digits by which an instruction is recognised.  The first digit is always
fixed; a missing digit stands for any. -/
structure Pattern where
  first : Nibble
  second : Option Nibble
  third : Option Nibble
  fourth : Option Nibble
  deriving DecidableEq, Repr

namespace Pattern

/-- Whether a digit is the one that is asked for, if any. -/
def allows (wanted : Option Nibble) (digit : Nibble) : Bool :=
  match wanted with
  | none => true
  | some value => digit == value

/-- Whether an integer has the fixed digits of the pattern. -/
def accepts (p : Pattern) (raw : Int) : Bool :=
  nibble raw 3 == p.first && allows p.second (nibble raw 2) && allows p.third (nibble raw 1) &&
    allows p.fourth (nibble raw 0)

/-- The bits that the pattern fixes. -/
def mask (p : Pattern) : Nat :=
  let bits (digit : Option Nibble) := if digit.isSome then 15 else 0
  0xF000 + 0x100 * bits p.second + 0x10 * bits p.third + bits p.fourth

/-- The values of the fixed bits. -/
def value (p : Pattern) : Nat :=
  let bits (digit : Option Nibble) := (digit.map Fin.val).getD 0
  0x1000 * p.first.val + 0x100 * bits p.second + 0x10 * bits p.third + bits p.fourth

end Pattern

/-- The kinds of instruction. -/
inductive Opcode where
  | clearScreen
  | ret
  | jump
  | call
  | skipEqualByte
  | skipUnequalByte
  | skipEqual
  | loadByte
  | addByte
  | move
  | or
  | and
  | xor
  | add
  | subtract
  | shiftRight
  | subtractFrom
  | shiftLeft
  | skipUnequal
  | loadIndex
  | jumpOffset
  | random
  | draw
  | skipPressed
  | skipReleased
  | readDelay
  | awaitKey
  | setDelay
  | setSound
  | addIndex
  | glyph
  | decimal
  | store
  | load
  deriving DecidableEq, Repr

/-- What is shown of the operands of an instruction. -/
inductive OperandForm where
  | nothing
  | address
  | register
  | registerByte
  | registers
  | sprite
  /-- A fixed name, then `Vx`. -/
  | nameRegister (name : String)
  /-- `Vx`, then a fixed name. -/
  | registerName (name : String)
  /-- A fixed name, then an address. -/
  | nameAddress (name : String)
  deriving DecidableEq, Repr

namespace Opcode

/-- All kinds, in the order of their patterns. -/
def all : List Opcode :=
  [clearScreen, ret, jump, call, skipEqualByte, skipUnequalByte, skipEqual, loadByte, addByte,
    move, or, and, xor, add, subtract, shiftRight, subtractFrom, shiftLeft, skipUnequal,
    loadIndex, jumpOffset, random, draw, skipPressed, skipReleased, readDelay, awaitKey,
    setDelay, setSound, addIndex, glyph, decimal, store, load]

theorem mem_all (opcode : Opcode) : opcode ∈ all := by
  cases opcode <;> decide

/-- The digits by which a kind is recognised. -/
def pattern : Opcode → Pattern
  | clearScreen => ⟨0x0, some 0x0, some 0xE, some 0x0⟩
  | ret => ⟨0x0, some 0x0, some 0xE, some 0xE⟩
  | jump => ⟨0x1, none, none, none⟩
  | call => ⟨0x2, none, none, none⟩
  | skipEqualByte => ⟨0x3, none, none, none⟩
  | skipUnequalByte => ⟨0x4, none, none, none⟩
  | skipEqual => ⟨0x5, none, none, some 0x0⟩
  | loadByte => ⟨0x6, none, none, none⟩
  | addByte => ⟨0x7, none, none, none⟩
  | move => ⟨0x8, none, none, some 0x0⟩
  | or => ⟨0x8, none, none, some 0x1⟩
  | and => ⟨0x8, none, none, some 0x2⟩
  | xor => ⟨0x8, none, none, some 0x3⟩
  | add => ⟨0x8, none, none, some 0x4⟩
  | subtract => ⟨0x8, none, none, some 0x5⟩
  | shiftRight => ⟨0x8, none, none, some 0x6⟩
  | subtractFrom => ⟨0x8, none, none, some 0x7⟩
  | shiftLeft => ⟨0x8, none, none, some 0xE⟩
  | skipUnequal => ⟨0x9, none, none, some 0x0⟩
  | loadIndex => ⟨0xA, none, none, none⟩
  | jumpOffset => ⟨0xB, none, none, none⟩
  | random => ⟨0xC, none, none, none⟩
  | draw => ⟨0xD, none, none, none⟩
  | skipPressed => ⟨0xE, none, some 0x9, some 0xE⟩
  | skipReleased => ⟨0xE, none, some 0xA, some 0x1⟩
  | readDelay => ⟨0xF, none, some 0x0, some 0x7⟩
  | awaitKey => ⟨0xF, none, some 0x0, some 0xA⟩
  | setDelay => ⟨0xF, none, some 0x1, some 0x5⟩
  | setSound => ⟨0xF, none, some 0x1, some 0x8⟩
  | addIndex => ⟨0xF, none, some 0x1, some 0xE⟩
  | glyph => ⟨0xF, none, some 0x2, some 0x9⟩
  | decimal => ⟨0xF, none, some 0x3, some 0x3⟩
  | store => ⟨0xF, none, some 0x5, some 0x5⟩
  | load => ⟨0xF, none, some 0x6, some 0x5⟩

/-- The name of a kind in reports. -/
def label : Opcode → String
  | clearScreen => "CLS"
  | ret => "RET"
  | jump => "JP"
  | call => "CALL"
  | skipEqualByte => "SE_BYTE"
  | skipUnequalByte => "SNE_BYTE"
  | skipEqual => "SE_REG"
  | loadByte => "LD_BYTE"
  | addByte => "ADD_BYTE"
  | move => "LD_REG"
  | or => "OR"
  | and => "AND"
  | xor => "XOR"
  | add => "ADD_REG"
  | subtract => "SUB"
  | shiftRight => "SHR"
  | subtractFrom => "SUBN"
  | shiftLeft => "SHL"
  | skipUnequal => "SNE_REG"
  | loadIndex => "LD_I"
  | jumpOffset => "JP_OFFSET"
  | random => "RND"
  | draw => "DRW"
  | skipPressed => "SKP"
  | skipReleased => "SKNP"
  | readDelay => "LD_VX_DT"
  | awaitKey => "LD_VX_K"
  | setDelay => "LD_DT_VX"
  | setSound => "LD_ST_VX"
  | addIndex => "ADD_I"
  | glyph => "LD_F"
  | decimal => "LD_B"
  | store => "STORE"
  | load => "LOAD"

/-- The name of a kind in assembly text. -/
def mnemonic : Opcode → String
  | clearScreen => "CLS"
  | ret => "RET"
  | jump | jumpOffset => "JP"
  | call => "CALL"
  | skipEqualByte | skipEqual => "SE"
  | skipUnequalByte | skipUnequal => "SNE"
  | addByte | add | addIndex => "ADD"
  | or => "OR"
  | and => "AND"
  | xor => "XOR"
  | subtract => "SUB"
  | shiftRight => "SHR"
  | subtractFrom => "SUBN"
  | shiftLeft => "SHL"
  | random => "RND"
  | draw => "DRW"
  | skipPressed => "SKP"
  | skipReleased => "SKNP"
  | loadByte | move | loadIndex | readDelay | awaitKey | setDelay | setSound | glyph | decimal
  | store | load => "LD"

/-- What assembly text shows of the operands. -/
def form : Opcode → OperandForm
  | clearScreen | ret => .nothing
  | jump | call => .address
  | skipEqualByte | skipUnequalByte | loadByte | addByte | random => .registerByte
  | skipEqual | skipUnequal | move | or | and | xor | add | subtract | shiftRight
  | subtractFrom | shiftLeft => .registers
  | loadIndex => .nameAddress "I"
  | jumpOffset => .nameAddress "V0"
  | draw => .sprite
  | skipPressed | skipReleased => .register
  | readDelay => .registerName "DT"
  | awaitKey => .registerName "K"
  | setDelay => .nameRegister "DT"
  | setSound => .nameRegister "ST"
  | addIndex => .nameRegister "I"
  | glyph => .nameRegister "F"
  | decimal => .nameRegister "B"
  | store => .nameRegister "[I]"
  | load => .registerName "[I]"

end Opcode

end ChipEight
