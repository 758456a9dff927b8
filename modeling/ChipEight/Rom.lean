import ChipEight.Files
import ChipEight.Machine
import ChipEight.Session.Log

/-!
# Program files

A program file holds the bytes of a program and nothing else.
-/

namespace ChipEight

/-- Why a program file is not loaded. -/
inductive RomFailure where
  | file (fault : FileFault)
  | engine (fault : Fault)
  deriving DecidableEq, Repr

namespace Rom

/-- The largest size of a program. -/
def capacity : Nat := 3584

/-- The source of the log entries of this module. -/
def source : String := "retro_chip8.loader.rom_loader"

/-- The warning about a program that is too large. -/
def warnings (path : Text) (program : List UInt8) : List LogEntry :=
  if program.length ≤ capacity then []
  else
    [⟨source, .warning, Text.ofString "ROM " ++ path ++
      Text.ofString (" is " ++ toString program.length ++ " bytes, larger than the " ++
        toString capacity ++ " bytes available")⟩]

/-- The entry about a program that was loaded. -/
def loadedEntry (path : Text) (program : List UInt8) : LogEntry :=
  ⟨source, .info, Text.ofString "Loaded ROM " ++ path ++
    Text.ofString (" (" ++ toString program.length ++ " bytes)")⟩

/-- Loads a program file into a machine. -/
def load (files : Files) (path : Text) (m : Machine) :
    List LogEntry × Except RomFailure (List UInt8 × Machine) :=
  match files.bytes path with
  | .error fault => ([], .error (.file fault))
  | .ok program =>
      match m.load program with
      | .error fault => (warnings path program, .error (.engine fault))
      | .ok m => (warnings path program ++ [loadedEntry path program], .ok (program, m))

end Rom

end ChipEight
