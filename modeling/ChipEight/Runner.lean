import ChipEight.Decimal.Shortest
import ChipEight.Machine
import ChipEight.Schedule

/-!
# Runners

A runner drives a machine along a schedule, by elapsed time or by a number of
instructions.  It can be paused, it stops for good at a fault until it is reset, and it
remembers the last program so that it can start it anew.
-/

namespace ChipEight

/-- What a run did: instructions carried out, instructions that waited for a key, and
timer ticks. -/
structure RunReport where
  executed : Nat := 0
  waiting : Nat := 0
  ticks : Nat := 0
  deriving DecidableEq, Repr, Inhabited

namespace RunReport

/-- All steps, waiting or not. -/
def steps (r : RunReport) : Nat := r.executed + r.waiting

/-- One more tick. -/
def addTick (r : RunReport) : RunReport := { r with ticks := r.ticks + 1 }

/-- One more step. -/
def addStep (r : RunReport) (step : StepReport) : RunReport :=
  if step.waiting then { r with waiting := r.waiting + 1 }
  else { r with executed := r.executed + 1 }

end RunReport

/-- A running time as the host gives it. -/
inductive Seconds where
  | whole (n : Int)
  | real (x : Float)

namespace Seconds

/-- Whether the time is below zero. -/
def isNegative : Seconds → Bool
  | whole n => n < 0
  | real x => x < 0.0

/-- The time as a float. -/
def toFloat : Seconds → Float
  | whole n => Decimal.ofInt n
  | real x => x

/-- The time as text. -/
def text : Seconds → String
  | whole n => toString n
  | real x => Decimal.text x

/-- Whether a whole number of seconds is too large for a float. -/
def overflows : Seconds → Bool
  | whole n => (Decimal.ofInt n).isInf
  | real _ => false

end Seconds

/-- A machine with its schedule: what has been done since the last restart, and the
logical time in seconds. -/
structure Runner where
  machine : Machine
  rates : Rates
  paused : Bool
  halted : Bool
  rom : Option (List UInt8)
  elapsed : Float
  done : Progress

namespace Runner

/-- A runner at the start of its schedule. -/
def new (machine : Machine) (cyclesPerSecond timerHz : Int) : Except Refusal Runner :=
  match Rates.ofInts cyclesPerSecond timerHz with
  | .ok rates =>
      .ok
        { machine := machine, rates := rates, paused := false, halted := false, rom := none
          elapsed := 0.0, done := .start }
  | .error refusal => .error refusal

/-- Loads a program and remembers it. -/
def load (r : Runner) (program : List UInt8) : Except Fault Runner :=
  match r.machine.load program with
  | .ok machine => .ok { r with machine := machine, rom := some program }
  | .error fault => .error fault

/-- Lets no more time pass. -/
def pause (r : Runner) : Runner := { r with paused := true }

/-- Lets time pass again. -/
def resume (r : Runner) : Runner := { r with paused := false }

/-- Pauses a runner, or lets it go on if it is paused. -/
def togglePause (r : Runner) : Runner := { r with paused := !r.paused }

/-- Resets the machine and the schedule, and lets a stopped runner go on. -/
def reset (r : Runner) : Runner :=
  { r with machine := r.machine.reset, halted := false, elapsed := 0.0, done := .start }

/-- Resets, and loads the remembered program again. -/
def reload (r : Runner) : Except Fault Unit × Runner :=
  let fresh := r.reset
  match r.rom with
  | none => (.ok (), fresh)
  | some program =>
      match fresh.machine.load program with
      | .ok machine => (.ok (), { fresh with machine := machine })
      | .error fault => (.error fault, fresh)

/-- One step of the machine; a fault stops the runner. -/
def step (r : Runner) : Except Fault StepReport × Runner :=
  match r.machine.step with
  | (.ok report, machine) => (.ok report, { r with machine := machine })
  | (.error fault, machine) => (.error fault, { r with machine := machine, halted := true })

/-- One step outside the schedule, also while paused. -/
def stepOnce (r : Runner) : Except Refusal StepReport × Runner :=
  if r.halted then (.error .halted, r)
  else
    match r.step with
    | (.ok report, r) => (.ok report, r)
    | (.error fault, r) => (.error (.fault fault), r)

/-- Runs to a target, adding to a report.  A fault ends the run. -/
def runTo (target : Progress) (r : Runner) (report : RunReport) :
    Except Fault RunReport × Runner :=
  match _next : Progress.due r.rates target r.done with
  | none => (.ok report, r)
  | some .tick =>
      runTo target { r with machine := r.machine.tick, done := r.done.tick } report.addTick
  | some .cycle =>
      match r.machine.step with
      | (.error fault, machine) => (.error fault, { r with machine := machine, halted := true })
      | (.ok step, machine) =>
          runTo target { r with machine := machine, done := r.done.cycle } (report.addStep step)
termination_by Progress.remaining target r.done
decreasing_by
  · exact Progress.remaining_tick_lt (by assumption)
  · exact Progress.remaining_cycle_lt (by assumption)

/-- The steps of a run to a target, up to a fault. -/
def trace (target : Progress) (r : Runner) (steps : List StepReport) : List StepReport :=
  match _next : Progress.due r.rates target r.done with
  | none => steps.reverse
  | some .tick => trace target { r with machine := r.machine.tick, done := r.done.tick } steps
  | some .cycle =>
      match r.machine.step with
      | (.error _, _) => steps.reverse
      | (.ok step, machine) =>
          trace target { r with machine := machine, done := r.done.cycle } (step :: steps)
termination_by Progress.remaining target r.done
decreasing_by
  · exact Progress.remaining_tick_lt (by assumption)
  · exact Progress.remaining_cycle_lt (by assumption)

/-- Runs to a target. -/
def runUntil (r : Runner) (target : Progress) : Except Refusal RunReport × Runner :=
  match r.runTo target {} with
  | (.ok report, r) => (.ok report, r)
  | (.error fault, r) => (.error (.fault fault), r)

/-- The number of events that are due by a logical time.  A small allowance makes up
for rounding just below a whole number.  The rate has to fit into a float, even when no
time has passed. -/
def dueBy (elapsed : Float) (rate : Nat) : Except Refusal Nat :=
  let perSecond := Decimal.ofNat rate
  let count := elapsed * perSecond + 1e-9
  if perSecond.isInf then .error .timeOverflow
  else
    match (Decimal.Binary.ofFloat count).floor? with
    | some n => .ok n.toNat
    | none => .error (if count.isNaN then .timeUndefined else .timeOverflow)

/-- The progress that is due by a logical time. -/
def target (elapsed : Float) (rates : Rates) : Except Refusal Progress :=
  match dueBy elapsed rates.cycles, dueBy elapsed rates.ticks with
  | .error refusal, _ => .error refusal
  | .ok _, .error refusal => .error refusal
  | .ok cycles, .ok ticks => .ok ⟨cycles, ticks⟩

/-- Lets time pass.  A paused runner does nothing, and the time is lost. -/
def advance (r : Runner) (seconds : Seconds) : Except Refusal RunReport × Runner :=
  if r.halted then (.error .halted, r)
  else if seconds.isNegative then (.error (.negativeTime seconds.text), r)
  else if r.paused then (.ok {}, r)
  else if seconds.overflows then (.error .timeOverflow, r)
  else
    let later := { r with elapsed := r.elapsed + seconds.toFloat }
    match target later.elapsed r.rates with
    | .error refusal => (.error refusal, later)
    | .ok target => later.runUntil target

/-- The target of a run of `count` instructions. -/
def cycleTarget (r : Runner) (count : Nat) : Progress :=
  .atCycle r.rates (r.done.cycles + count)

/-- Runs a number of instructions with the ticks that are due meanwhile, and sets the
logical time to that of the last instruction.  A run of more than 10^308 instructions could leave
the runner at a time beyond all floats; that this is refused at its end is left out. -/
def runCycles (r : Runner) (count : Int) : Except Refusal RunReport × Runner :=
  if r.halted then (.error .halted, r)
  else if count < 0 then (.error (.negativeCycles count), r)
  else
    let target := r.cycleTarget count.toNat
    match r.runUntil target with
    | (.error refusal, r) => (.error refusal, r)
    | (.ok report, r) =>
        (.ok report, { r with elapsed := Decimal.ofRatio target.cycles r.rates.cycles })

end Runner

end ChipEight
