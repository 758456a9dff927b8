import ChipEight.Opcode
import ChipEight.Text.Hex

/-!
# Decoded instructions

Decoding finds the one kind whose pattern a word has.  The operands are digits of the
word, cut out in the same way for every kind; which of them mean something depends on
the kind.
-/

namespace ChipEight

/-- An instruction word and its kind. -/
structure Operation where
  opcode : Opcode
  raw : Int
  deriving DecidableEq, Repr

namespace Operation

/-- The kind and word of an instruction; nothing if no pattern fits. -/
def decode? (raw : Int) : Option Operation :=
  (Opcode.all.find? fun opcode => opcode.pattern.accepts raw).map fun opcode => ⟨opcode, raw⟩

/-! ## Operands -/

/-- The register in the second digit. -/
def x (op : Operation) : Nibble := nibble op.raw 2

/-- The register in the third digit. -/
def y (op : Operation) : Nibble := nibble op.raw 1

/-- The number in the last digit. -/
def n (op : Operation) : Nibble := nibble op.raw 0

/-- The byte in the last two digits. -/
def byte (op : Operation) : UInt8 := UInt8.ofNat (op.raw % 256).toNat

/-- The address in the last three digits. -/
def address (op : Operation) : Nat := (op.raw % 4096).toNat

/-! ## Assembly text -/

/-- The name of a register. -/
def registerName (register : Nibble) : String :=
  "V" ++ Hex.upper 1 register.val

/-- An address in assembly text. -/
def addressText (address : Nat) : String :=
  "$" ++ Hex.upper 3 address

/-- The operands as they are shown. -/
def operands (op : Operation) : List String :=
  match op.opcode.form with
  | .nothing => []
  | .address => [addressText op.address]
  | .register => [registerName op.x]
  | .registerByte => [registerName op.x, "#$" ++ Hex.upper 2 op.byte.toNat]
  | .registers => [registerName op.x, registerName op.y]
  | .sprite => [registerName op.x, registerName op.y, "#$" ++ Hex.upper 1 op.n.val]
  | .nameRegister name => [name, registerName op.x]
  | .registerName name => [registerName op.x, name]
  | .nameAddress name => [name, addressText op.address]

/-- The instruction as assembly text. -/
def text (op : Operation) : String :=
  match op.operands with
  | [] => op.opcode.mnemonic
  | operands => op.opcode.mnemonic ++ " " ++ ", ".intercalate operands

/-- The instruction word with at least four digits. -/
def hex (op : Operation) : String :=
  Hex.upper 4 op.raw

/-- Every instruction is two bytes long. -/
def length (_ : Operation) : Nat := 2

end Operation

end ChipEight
