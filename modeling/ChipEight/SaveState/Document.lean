import ChipEight.SaveState.Checksum
import ChipEight.Snapshot
import ChipEight.Value.Equality

/-!
# Save documents

A save document is a map that spells a snapshot: its registers and timers as numbers,
its memory as lines of hexadecimal text, its screen as rows of zeros and ones, and a
checksum over memory, screen and random state.  A document is checked in a fixed
order, and the first thing that is wrong with it is the reason to reject it.
-/

namespace ChipEight.SaveState

/-- The entry by which a save document is known. -/
def formatTag : String := "retro-chip8-state"

/-- The version of the format. -/
def formatVersion : Nat := 1

/-! ## Writing -/

/-- Why a snapshot has no document. -/
inductive Unsavable where
  /-- Something that ought to be a sequence is none. -/
  | noSequence
  /-- The state of the generator does not have three parts. -/
  | generatorParts (count : Nat)
  /-- The state of the generator cannot be shown. -/
  | unshown (reason : Unshown)
  deriving DecidableEq, Repr

/-- The message of a failure to save, if it has one. -/
def Unsavable.message : Unsavable → String
  | noSequence => ""
  | generatorParts count =>
      if count < 3 then "not enough values to unpack (expected 3, got " ++ toString count ++ ")"
      else "too many values to unpack (expected 3)"
  | unshown reason => reason.message

/-- The name under which a failure to save is reported. -/
def Unsavable.label : Unsavable → String
  | noSequence => "TypeError"
  | generatorParts _ => "ValueError"
  | unshown reason => reason.label

/-- The items of a value that can be gone through: those of a sequence or a set, the
characters of a text, the numbers of a byte string, the keys of a map. -/
def itemsOf : Value → Except Unsavable (List Value)
  | .list items | .tuple items | .set items => .ok items
  | .text s => .ok (s.letters.map fun letter => .text ⟨[letter]⟩)
  | .bytes data | .buffer data => .ok (data.map fun byte => Snapshot.ofNat byte.toNat)
  | .map entries => .ok (entries.map (·.1))
  | _ => .error .noSequence

/-- The bytes of a byte string.  Nothing else is taken for bytes, though a number and a sequence of
small numbers could stand for some: a snapshot with such a memory or screen does not pass its
checks. -/
def bytesOf (value : Value) : Except Unsavable (List UInt8) :=
  match value.octets? with
  | some data => .ok data
  | none => .error .noSequence

/-- The state of a generator as nested lists. -/
def writeGenerator : Value → Except Unsavable Value
  | .null => .ok .null
  | state => do
      match ← itemsOf state with
      | [version, words, spare] => return .list [version, .list (← itemsOf words), spare]
      | parts => .error (.generatorParts parts.length)

/-- Cuts a list into parts of a positive length; the last may be shorter. -/
def cut {α : Type} (length : Nat) (items : List α) : List (List α) :=
  (List.range ((items.length + length - 1) / length)).map fun k =>
    (items.drop (length * k)).take length

/-- Memory as lines of thirty-two bytes in upper-case hexadecimal. -/
def memoryLines (memory : List UInt8) : List Value :=
  (cut 32 memory).map fun line => .text (String.ofList (Hex.encode Hex.upperDigit line))

/-- The screen as thirty-two rows of zeros and ones. -/
def screenRows (pixels : List UInt8) : List Value :=
  (List.range 32).map fun y =>
    .text (String.ofList (((pixels.drop (64 * y)).take 64).map fun pixel =>
      if pixel = 0 then '0' else '1'))

/-- A map with texts as keys. -/
def record (entries : List (String × Value)) : Value :=
  .map (entries.map fun entry => (.text entry.1, entry.2))

/-- The document that spells a snapshot. -/
def toDocument (room : Value.Room) (s : Snapshot) : Except Unsavable Value := do
  let v ← itemsOf s.v
  let stack ← itemsOf s.stack
  let keys ← itemsOf s.keys
  let random ← writeGenerator s.random
  let memory ← bytesOf s.memory
  let pixels ← bytesOf s.framebuffer
  let sum ← (checksum room memory pixels s.random).mapError .unshown
  return record
    [("format", .text formatTag), ("version", Snapshot.ofNat formatVersion),
      ("registers", record [("v", .list v), ("i", s.i), ("pc", s.pc), ("sp", s.sp)]),
      ("stack", .list stack),
      ("timers", record [("delay", s.delay), ("sound", s.sound)]),
      ("input", record [("keys", .list keys), ("waiting", s.waiting),
        ("wait_register", s.waitRegister), ("pending_key", s.pending)]),
      ("rng_state", random),
      ("checksum", Snapshot.ofNat sum.toNat),
      ("memory", .list (memoryLines memory)),
      ("framebuffer", .list (screenRows pixels))]

/-! ## Reading -/

/-- Why a document is rejected. -/
inductive Rejection where
  /-- It does not carry the format's entry. -/
  | notSaveFile
  /-- Another version of the format, or none, as it is shown. -/
  | version (shown : String)
  /-- A part that is no map. -/
  | notMapping (part : String)
  /-- An entry that is absent. -/
  | missing (key part : String)
  /-- An entry that is no list. -/
  | notList (name : String)
  /-- Memory that is no list of texts. -/
  | memoryLines
  /-- Memory text with something other than a hexadecimal digit at a position. -/
  | memoryHex (position : Nat)
  /-- Memory of the wrong size. -/
  | memorySize (size : Nat)
  /-- A screen that does not have the right rows. -/
  | screenRows
  /-- A random state that does not have three parts, or no list of words. -/
  | randomState
  /-- A checksum that is not that of the contents. -/
  | checksum
  /-- Something that would have to be shown cannot be. -/
  | unshown (reason : Unshown)
  /-- A snapshot that cannot be restored. -/
  | snapshot (complaint : Snapshot.Complaint)

/-- The message of a rejection. -/
def Rejection.message : Rejection → String
  | notSaveFile => "Not a retro-chip8 save file."
  | version shown => "Unsupported save file version: " ++ shown ++ "."
  | notMapping part => "Invalid save file: " ++ part ++ " must be a mapping."
  | missing key part => "Invalid save file: missing '" ++ key ++ "' in " ++ part ++ "."
  | notList name => "Invalid save file: '" ++ name ++ "' must be a list."
  | memoryLines => "Invalid save file: memory must be a list of hex strings."
  | memoryHex position =>
      "Invalid save file: memory is not valid hex (non-hexadecimal number found in " ++
        "fromhex() arg at position " ++ toString position ++ ")."
  | memorySize size =>
      "Invalid save file: memory holds " ++ toString size ++ " bytes, expected 4096."
  | screenRows => "Invalid save file: framebuffer must be 32 rows of 64 '0'/'1' characters."
  | randomState => "Invalid save file: malformed rng_state."
  | checksum => "Save file checksum mismatch: the file is corrupt."
  | unshown reason => reason.message
  | snapshot complaint => complaint.message

/-- The name under which a rejection is reported. -/
def Rejection.label : Rejection → String
  | unshown reason => reason.label
  | _ => "RestoreError"

/-- An entry of a part of the document. -/
def entry (key part : String) (value : Value) : Except Rejection Value :=
  match value.content with
  | .map entries =>
      match Value.find? key entries with
      | some value => .ok value
      | none => .error (.missing key part)
  | _ => .error (.notMapping part)

/-- A list as a fixed sequence. -/
def sequence (name : String) (value : Value) : Except Rejection Value :=
  match value.content with
  | .list items => .ok (.tuple items)
  | _ => .error (.notList name)

/-- The text of a value that is one. -/
def text? : Value → Option Text
  | .text s => some s
  | _ => none

/-- The memory that lines of text spell, wherever the text is cut into lines. -/
def readMemory (value : Value) : Except Rejection (List UInt8) :=
  match value.content with
  | .list lines =>
      match lines.mapM text? with
      | none => .error .memoryLines
      | some texts =>
          match Hex.decode (texts.flatMap Text.chars) with
          | .error position => .error (.memoryHex position)
          | .ok memory =>
              if memory.length = 4096 then .ok memory else .error (.memorySize memory.length)
  | _ => .error .memoryLines

/-- The pixel that a character spells. -/
def pixel? (c : Char) : Option UInt8 :=
  if c = '0' then some 0 else if c = '1' then some 1 else none

/-- The pixels of a row. -/
def row? (value : Value) : Option (List UInt8) :=
  ((text? value).bind fun row => row.chars.mapM pixel?).filter (·.length = 64)

/-- The pixels of the screen. -/
def readScreen (value : Value) : Except Rejection (List UInt8) :=
  match value.content with
  | .list rows =>
      match rows.mapM row? with
      | some pixels => if pixels.length = 32 then .ok pixels.flatten else .error .screenRows
      | none => .error .screenRows
  | _ => .error .screenRows

/-- The state of a generator from nested lists. -/
def readGenerator (value : Value) : Except Rejection Value :=
  match value.content with
  | .null => .ok .null
  | .list [version, words, spare] =>
      match words.content with
      | .list words => .ok (.tuple [version, .tuple words, spare])
      | _ => .error .randomState
  | _ => .error .randomState

variable (room : Value.Room)

/-- The checksum of the contents of a document. -/
def checksumOf (memory pixels : List UInt8) (random : Value) : Except Rejection UInt32 :=
  (SaveState.checksum room memory pixels random).mapError .unshown

/-- The snapshot that a document spells, before its fields are checked. -/
def readDocument (document : Value) : Except Rejection Snapshot := do
  let formatEntry := (document.lookup? "format").getD .null
  unless document.isMap && formatEntry.isText formatTag do
    throw .notSaveFile
  let version := (document.lookup? "version").getD .null
  unless version.equal (Snapshot.ofNat formatVersion) do
    throw (match version.display room with
      | .ok shown => .version shown
      | .error reason => .unshown reason)
  let memory ← readMemory (← entry "memory" "document" document)
  let pixels ← readScreen (← entry "framebuffer" "document" document)
  let random ← readGenerator ((document.lookup? "rng_state").getD .null)
  let sum ← entry "checksum" "document" document
  unless sum.equal (Snapshot.ofNat (← checksumOf room memory pixels random).toNat) do
    throw .checksum
  let registers ← entry "registers" "document" document
  let timers ← entry "timers" "document" document
  let input ← entry "input" "document" document
  let v ← sequence "registers.v" (← entry "v" "registers" registers)
  let i ← entry "i" "registers" registers
  let pc ← entry "pc" "registers" registers
  let sp ← entry "sp" "registers" registers
  let stack ← sequence "stack" (← entry "stack" "document" document)
  let delay ← entry "delay" "timers" timers
  let sound ← entry "sound" "timers" timers
  let keys ← sequence "input.keys" (← entry "keys" "input" input)
  let waiting ← entry "waiting" "input" input
  let waitRegister ← entry "wait_register" "input" input
  let pending ← entry "pending_key" "input" input
  return { memory := .bytes memory, v, i, pc, sp, stack, delay, sound
           framebuffer := .bytes pixels, keys, waiting, waitRegister, pending, random }

/-- The snapshot that a document spells, fit to be restored. -/
def ofDocument (document : Value) : Except Rejection Snapshot :=
  match readDocument room document with
  | .error rejection => .error rejection
  | .ok snapshot =>
      match snapshot.validate with
      | .ok () => .ok snapshot
      | .error complaint => .error (.snapshot complaint)

end ChipEight.SaveState
