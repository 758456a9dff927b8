import ChipEight.Breakpoint
import ChipEight.Machine

/-!
# The debugger

A debugger steps a machine, runs it up to a breakpoint, and takes steps back.  For that
it keeps, up to a limit, the reports of the latest steps and the snapshots from just
before them, newest first.
-/

namespace ChipEight

/-- Why a run of the debugger ended. -/
inductive StopReason where
  | breakpoint
  | keyWait
  | stepLimit
  deriving DecidableEq, Repr

/-- The names of the reasons. -/
def StopReason.label : StopReason → String
  | breakpoint => "BREAKPOINT"
  | keyWait => "KEY_WAIT"
  | stepLimit => "STEP_LIMIT"

/-- A machine with breakpoints and a history.  `before` holds the registers from just
before the latest step. -/
structure Debugger where
  machine : Machine
  breakpoints : List Breakpoint
  before : List (String × Int)
  last : Option StepReport
  history : List StepReport
  undo : List Snapshot
  limit : Nat

namespace Debugger

/-- A debugger that keeps so many steps. -/
def new (machine : Machine) (limit : Int) : Except Refusal Debugger :=
  if limit < -0x8000000000000000 ∨ 0x8000000000000000 ≤ limit then .error .historyOverflow
  else if limit < 0 then .error .historyLimit
  else
    .ok
      { machine := machine, breakpoints := [], before := machine.state.registerMap, last := none
        history := [], undo := [], limit := limit.toNat }

/-! ## Breakpoints -/

/-- Adds a breakpoint, unless there is an equal one. -/
def addBreakpoint (d : Debugger) (b : Breakpoint) : Debugger :=
  if d.breakpoints.contains b then d else { d with breakpoints := d.breakpoints ++ [b] }

/-- Removes the first breakpoint that is equal to the given one. -/
def removeBreakpoint (d : Debugger) (b : Breakpoint) : Debugger :=
  { d with breakpoints := d.breakpoints.erase b }

/-- Replaces the first breakpoint that is equal to the given one. -/
def updateBreakpoint (d : Debugger) (old new : Breakpoint) : Debugger :=
  { d with breakpoints := d.breakpoints.replace old new }

/-- Switches a breakpoint on or off, and gives the new one. -/
def enableBreakpoint (d : Debugger) (b : Breakpoint) (enabled : Bool) : Breakpoint × Debugger :=
  let changed := { b with enabled := enabled }
  (changed, d.updateBreakpoint b changed)

/-! ## Stepping -/

/-- One step.  A fault leaves the history as it was. -/
def step (d : Debugger) : Except Fault StepReport × Debugger :=
  let before := d.machine.capture
  let registers := d.machine.state.registerMap
  match d.machine.step with
  | (.error fault, machine) => (.error fault, { d with machine := machine })
  | (.ok report, machine) =>
      (.ok report,
        { d with
          machine := machine
          before := registers
          undo := (before :: d.undo).take d.limit
          history := (report :: d.history).take d.limit
          last := some report })

/-- Whether there is a step to take back. -/
def canStepBack (d : Debugger) : Bool :=
  !d.undo.isEmpty

/-- Takes back the latest step that is kept, and gives the report of the one before.  It
would fail if a snapshot were kept without the report of its step. -/
def stepBack (d : Debugger) : Except RestoreFailure (Option StepReport) × Debugger :=
  match d.undo with
  | [] => (.ok none, d)
  | snapshot :: undo =>
      match d.machine.restore (.snapshot snapshot) with
      | .error failure => (.error failure, { d with undo := undo })
      | .ok machine =>
          match d.history with
          | [] => (.error (.refusal .noSuchSlot), { d with machine := machine, undo := undo })
          | _ :: history =>
              (.ok history.head?,
                { d with
                  machine := machine
                  undo := undo
                  history := history
                  last := history.head?
                  before := machine.state.registerMap })

/-- Whether an enabled breakpoint asks to stop before the next instruction. -/
def stopsBefore (d : Debugger) : Bool :=
  d.breakpoints.any fun b => b.stopsAt d.machine.state.registers.pc

/-- Whether an enabled breakpoint asks to stop after a step. -/
def stopsAfter (d : Debugger) (report : StepReport) : Bool :=
  d.breakpoints.any fun b =>
    b.stopsAfter report.activity d.before d.machine.state.registerMap

/-- Steps at most so many times.  The first step is taken even from a breakpoint. -/
def runSteps (d : Debugger) (first : Bool) : Nat → Except Fault StopReason × Debugger
  | 0 => (.ok .stepLimit, d)
  | count + 1 =>
      if !first && d.stopsBefore then (.ok .breakpoint, d)
      else
        match d.step with
        | (.error fault, d) => (.error fault, d)
        | (.ok report, d) =>
            if report.waiting then (.ok .keyWait, d)
            else if d.stopsAfter report then (.ok .breakpoint, d)
            else runSteps d false count

/-- Runs to a breakpoint, a key wait or the limit on the number of steps. -/
def run (d : Debugger) (maxSteps : Int) : Except Fault StopReason × Debugger :=
  d.runSteps true maxSteps.toNat

end Debugger

end ChipEight
