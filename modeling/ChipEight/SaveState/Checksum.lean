import ChipEight.Checksum.Crc32
import ChipEight.Text.Utf8
import ChipEight.Value.Display

/-!
# The checksum of a save state

One CRC-32 runs over the memory image, then the screen image, then the display form of
the generator state unless there is none.
-/

namespace ChipEight.SaveState

variable (room : Value.Room)

/-- The bytes that the generator state adds to the checksum, if it can be shown. -/
def randomBytes : Value → Except Unshown (List UInt8)
  | .null => .ok []
  | value => (value.display room).map Text.toUtf8

/-- The checksum of memory, screen and generator state, if that can be shown. -/
def checksum (memory framebuffer : List UInt8) (random : Value) : Except Unshown UInt32 :=
  (randomBytes room random).map fun shown =>
    Crc32.update (Crc32.update (Crc32.ofBytes memory) framebuffer) shown

end ChipEight.SaveState
