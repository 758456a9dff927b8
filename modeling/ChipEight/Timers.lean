/-!
# The timers

Two timers of eight bits count down to zero, one step a tick.  The speaker sounds as
long as the second one runs.  The host decides when a tick is due.
-/

namespace ChipEight

/-- The delay timer and the sound timer. -/
structure Timers where
  delay : UInt8
  sound : UInt8
  deriving DecidableEq, Repr, Inhabited

namespace Timers

/-- Both timers stopped. -/
def stopped : Timers := ⟨0, 0⟩

/-- Timers set to the low eight bits of two integers. -/
def ofInts (delay sound : Int) : Timers :=
  ⟨UInt8.ofInt delay, UInt8.ofInt sound⟩

/-- One step of a timer; a timer at zero stays there. -/
def countDown (value : UInt8) : UInt8 :=
  if value = 0 then 0 else value - 1

/-- One step of both timers. -/
def tick (t : Timers) : Timers :=
  ⟨countDown t.delay, countDown t.sound⟩

/-- So many steps of both timers. -/
def ticks : Nat → Timers → Timers
  | 0, t => t
  | count + 1, t => ticks count t.tick

/-- Whether the speaker sounds. -/
def soundActive (t : Timers) : Bool :=
  t.sound != 0

end Timers

end ChipEight
