import ChipEight.Debugger
import ChipEight.Host

/-!
# Commands

What can happen to a debugger: a host gives it commands, and goes on calling the machine
behind its back.
-/

namespace ChipEight

/-- A command to a debugger, or a call of its machine. -/
inductive Command where
  | step
  | run (maxSteps : Int)
  | stepBack
  | addBreakpoint (b : Breakpoint)
  | updateBreakpoint (old new : Breakpoint)
  | removeBreakpoint (b : Breakpoint)
  | enableBreakpoint (b : Breakpoint) (enabled : Bool)
  | host (call : Call)

namespace Debugger

/-- The debugger after a command, whether it fails or not. -/
def obey (d : Debugger) : Command → Debugger
  | .step => d.step.2
  | .run maxSteps => (d.run maxSteps).2
  | .stepBack => d.stepBack.2
  | .addBreakpoint b => d.addBreakpoint b
  | .updateBreakpoint old new => d.updateBreakpoint old new
  | .removeBreakpoint b => d.removeBreakpoint b
  | .enableBreakpoint b enabled => (d.enableBreakpoint b enabled).2
  | .host call => { d with machine := (d.machine.call call).2 }

/-- The debugger after commands. -/
def obeyAll (d : Debugger) : List Command → Debugger
  | [] => d
  | command :: rest => (d.obey command).obeyAll rest

end Debugger

end ChipEight
