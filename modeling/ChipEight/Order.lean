import ChipEight.Host
import ChipEight.Runner

/-!
# Orders

What can happen to a runner: a host gives it orders, and goes on calling the machine behind
its back.
-/

namespace ChipEight

/-- An order to a runner, or a call of its machine. -/
inductive Order where
  | load (program : List UInt8)
  | pause
  | resume
  | togglePause
  | reset
  | reload
  | stepOnce
  | advance (seconds : Seconds)
  | runCycles (count : Int)
  | host (call : Call)

namespace Runner

/-- The runner after an order, whether it fails or not. -/
def obey (r : Runner) : Order → Runner
  | .load program =>
      match r.load program with
      | .ok after => after
      | .error _ => r
  | .pause => r.pause
  | .resume => r.resume
  | .togglePause => r.togglePause
  | .reset => r.reset
  | .reload => r.reload.2
  | .stepOnce => r.stepOnce.2
  | .advance seconds => (r.advance seconds).2
  | .runCycles count => (r.runCycles count).2
  | .host call => { r with machine := (r.machine.call call).2 }

/-- The runner after orders. -/
def obeyAll (r : Runner) : List Order → Runner
  | [] => r
  | order :: rest => (r.obey order).obeyAll rest

end Runner

end ChipEight
