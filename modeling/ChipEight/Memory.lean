import ChipEight.Refusal

/-!
# Memory

Memory is 4096 bytes.  The first eighty hold the glyphs of the sixteen hexadecimal
digits, five bytes each, and programs are placed from `0x200` on.  Every read and
write by the engine is recorded in order until the record is taken; looking at a byte
from outside leaves no trace.
-/

namespace ChipEight

/-- A memory address. -/
abbrev Address := Fin 4096

/-- The glyphs of the hexadecimal digits. -/
def font : List UInt8 :=
  [0xF0, 0x90, 0x90, 0x90, 0xF0,
   0x20, 0x60, 0x20, 0x20, 0x70,
   0xF0, 0x10, 0xF0, 0x80, 0xF0,
   0xF0, 0x10, 0xF0, 0x10, 0xF0,
   0x90, 0x90, 0xF0, 0x10, 0x10,
   0xF0, 0x80, 0xF0, 0x10, 0xF0,
   0xF0, 0x80, 0xF0, 0x90, 0xF0,
   0xF0, 0x10, 0x20, 0x40, 0x40,
   0xF0, 0x90, 0xF0, 0x90, 0xF0,
   0xF0, 0x90, 0xF0, 0x10, 0xF0,
   0xF0, 0x90, 0xF0, 0x90, 0x90,
   0xE0, 0x90, 0xE0, 0x90, 0xE0,
   0xF0, 0x80, 0x80, 0x80, 0xF0,
   0xE0, 0x90, 0x90, 0x90, 0xE0,
   0xF0, 0x80, 0xF0, 0x80, 0xF0,
   0xF0, 0x80, 0xF0, 0x80, 0x80]

/-- One recorded access.  A write also keeps the byte that it replaced. -/
inductive Access where
  | read (address : Address) (data : UInt8)
  | write (address : Address) (data previous : UInt8)
  deriving DecidableEq, Repr

namespace Access

/-- The address of an access. -/
def address : Access → Address
  | read address _ => address
  | write address _ _ => address

/-- The byte that was read or written. -/
def data : Access → UInt8
  | read _ data => data
  | write _ data _ => data

end Access

/-- The bytes of memory and the accesses since the record was last taken. -/
structure Memory where
  bytes : Vector UInt8 4096
  log : List Access
  deriving DecidableEq

namespace Memory

/-- Memory with nothing in it but the glyphs. -/
def initial : Memory where
  bytes := Vector.ofFn fun k => font.getD k.val 0
  log := []

/-- Memory with a given image. -/
def ofImage (image : List UInt8) : Except Refusal Memory :=
  let bytes := image.toArray
  if size : bytes.size = 4096 then .ok { bytes := ⟨bytes, size⟩, log := [] }
  else .error (.imageSize bytes.size)

/-- The image of memory. -/
def image (m : Memory) : List UInt8 :=
  m.bytes.toList

/-- Checks that `length` bytes from an address on lie in memory.  The fault names the
first address outside. -/
def checkRange (address length : Int) : Except Fault Unit :=
  if address < 0 then .error (.outOfRange address)
  else if 4095 < address + max length 1 - 1 then .error (.outOfRange (max address 4096))
  else .ok ()

/-- The address that an integer names. -/
def locate (address : Int) : Except Fault Address :=
  if inside : 0 ≤ address ∧ address < 4096 then .ok ⟨address.toNat, by omega⟩
  else .error (.outOfRange address)

/-- The byte at a place. -/
def byte (m : Memory) (place : Address) : UInt8 :=
  m.bytes[place]

/-- Memory with one more read on record. -/
def noteRead (m : Memory) (place : Address) : Memory :=
  { m with log := m.log ++ [.read place (m.byte place)] }

/-- Memory with another byte at a place. -/
def withByte (m : Memory) (place : Address) (data : UInt8) : Memory :=
  { m with bytes := m.bytes.set place data }

/-- Memory after a write. -/
def put (m : Memory) (place : Address) (data : UInt8) : Memory :=
  { bytes := m.bytes.set place data, log := m.log ++ [.write place data (m.byte place)] }

/-- Looks at a byte without a record. -/
def peek (m : Memory) (address : Int) : Except Fault UInt8 :=
  match locate address with
  | .ok place => .ok (m.byte place)
  | .error fault => .error fault

/-- Reads a byte. -/
def read (m : Memory) (address : Int) : Except Fault (UInt8 × Memory) :=
  match locate address with
  | .ok place => .ok (m.byte place, m.noteRead place)
  | .error fault => .error fault

/-- Writes a byte. -/
def write (m : Memory) (address : Int) (data : UInt8) : Except Fault Memory :=
  match locate address with
  | .ok place => .ok (m.put place data)
  | .error fault => .error fault

/-- Writes a value that ought to be a byte. -/
def writeValue (m : Memory) (address data : Int) : Except Refusal Memory :=
  match locate address with
  | .ok _ =>
      if 0 ≤ data ∧ data ≤ 255 then
        match m.write address (UInt8.ofNat data.toNat) with
        | .ok m => .ok m
        | .error fault => .error (.fault fault)
      else .error (.notByte data)
  | .error fault => .error (.fault fault)

/-- The accesses since the record was last taken, and memory with an empty record. -/
def takeLog (m : Memory) : List Access × Memory :=
  (m.log, { m with log := [] })

/-- Places a program from `0x200` on.  The rest of memory and the record stay as they
were. -/
def loadProgram (m : Memory) (program : List UInt8) : Except Fault Memory :=
  if program.length ≤ 3584 then
    let data := program.toArray
    .ok { m with
      bytes := Vector.ofFn fun k =>
        if 512 ≤ k.val then data.getD (k.val - 512) m.bytes[k] else m.bytes[k] }
  else .error (.programTooLong program.length)

/-- The bytes that some integers spell, if each of them is a byte. -/
def bytesOf? : List Int → Option (List UInt8)
  | [] => some []
  | value :: rest =>
      if 0 ≤ value ∧ value ≤ 255 then
        (bytesOf? rest).map fun bytes => UInt8.ofNat value.toNat :: bytes
      else none

/-- Places a program given as integers. -/
def loadValues (m : Memory) (values : List Int) : Except Refusal Memory :=
  match bytesOf? values with
  | none => .error .byteRange
  | some program =>
      match m.loadProgram program with
      | .ok m => .ok m
      | .error fault => .error (.fault fault)

end Memory

end ChipEight
