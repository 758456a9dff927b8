import ChipEight.Dialect

/-!
# Configurations

A configuration names the speed of the machine and of its timers, the seed of its
random numbers, and the dialect of its instructions.
-/

namespace ChipEight

/-- What a machine is built from. -/
structure Config where
  /-- Instructions per second. -/
  cyclesPerSecond : Int := 700
  /-- Timer ticks per second. -/
  timerHz : Int := 60
  /-- The seed of the random numbers, if they are to be the same every time. -/
  seed : Option Int := none
  dialect : Dialect := {}
  deriving DecidableEq, Repr, Inhabited

end ChipEight
