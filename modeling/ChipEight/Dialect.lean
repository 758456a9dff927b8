/-!
# Dialects

Interpreters of the machine have always differed on a few instructions.  A dialect
fixes one choice for each of them; it is settled when a machine is built and never
changes afterwards.
-/

namespace ChipEight

/-- The choices on which interpreters differ. -/
structure Dialect where
  /-- The shifts take their operand from `Vy` instead of `Vx`. -/
  shiftFromY : Bool := false
  /-- Storing and loading registers moves `I` behind the last byte. -/
  advanceIndex : Bool := true
  /-- The jump with offset adds `Vx` instead of `V0`. -/
  offsetFromX : Bool := false
  /-- The three logical operations clear the flag register. -/
  clearFlag : Bool := true
  /-- Sprites end at the edge of the screen instead of wrapping around. -/
  clipSprites : Bool := false
  deriving DecidableEq, Repr, Inhabited

namespace Dialect

/-- The choices with the names under which a configuration gives them, in order. -/
def choices (d : Dialect) : List (String × Bool) :=
  [("shift_uses_vy", d.shiftFromY), ("load_store_increments_i", d.advanceIndex),
    ("jump_offset_uses_vx", d.offsetFromX), ("logic_resets_vf", d.clearFlag),
    ("clip_sprites", d.clipSprites)]

end Dialect

end ChipEight
