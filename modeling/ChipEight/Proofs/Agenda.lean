import Mathlib.Data.List.Basic
import ChipEight.Proofs.Slices

/-!
# The agenda of a run

A run to a target goes through a list of events that is settled before it starts: the agenda
depends on the rates, on the target and on what has been done, and not on the machine
(`Progress.agenda`).  Its order is that of logical time (`Progress.plans_agenda`).  The run does
one event after the other, all of them unless a step fails, and then none behind that step
(`Runner.runUntil_agenda`).
-/

namespace ChipEight

/-! ## Agendas -/

namespace Progress

/-- One more event. -/
def next (p : Progress) : Due → Progress
  | .tick => p.tick
  | .cycle => p.cycle

/-- What is done after events. -/
def after (p : Progress) : List Due → Progress
  | [] => p
  | event :: rest => (p.next event).after rest

@[simp]
theorem cycles_after (p : Progress) (events : List Due) :
    (p.after events).cycles = p.cycles + events.count .cycle := by
  induction events generalizing p with
  | nil => rfl
  | cons event rest ih =>
      rw [after, ih]
      cases event
      · rfl
      · simp only [next, cycle, List.count_cons_self]
        omega

@[simp]
theorem ticks_after (p : Progress) (events : List Due) :
    (p.after events).ticks = p.ticks + events.count .tick := by
  induction events generalizing p with
  | nil => rfl
  | cons event rest ih =>
      rw [after, ih]
      cases event
      · simp only [next, tick, List.count_cons_self]
        omega
      · rfl

section Due

variable {rates : Rates} {target done : Progress} {event : Due}

theorem remaining_next_lt (dueNext : due rates target done = some event) :
    remaining target (done.next event) < remaining target done := by
  cases event with
  | tick => exact remaining_tick_lt dueNext
  | cycle => exact remaining_cycle_lt dueNext

theorem beyond_next (dueNext : due rates target done = some event) :
    (done.next event).beyond target = done.beyond target := by
  cases event with
  | tick => exact beyond_of_due_tick dueNext
  | cycle => exact beyond_of_due_cycle dueNext

end Due

/-- The events on the way to a target. -/
def agenda (rates : Rates) (target done : Progress) : List Due :=
  match _dueNext : due rates target done with
  | none => []
  | some event => event :: agenda rates target (done.next event)
termination_by remaining target done
decreasing_by exact remaining_next_lt (by assumption)

section Agenda

variable {rates : Rates} {target done : Progress} {event : Due} {earlier later : List Due}

theorem agenda_of_due_none (dueNext : due rates target done = none) :
    agenda rates target done = [] := by
  rw [agenda.eq_def]
  split <;> simp_all

theorem agenda_of_due_some (dueNext : due rates target done = some event) :
    agenda rates target done = event :: agenda rates target (done.next event) := by
  rw [agenda.eq_def]
  split <;> simp_all

theorem agenda_eq_nil_iff : agenda rates target done = [] ↔ due rates target done = none := by
  cases dueNext : due rates target done with
  | none => simp [agenda_of_due_none dueNext]
  | some event => simp [agenda_of_due_some dueNext]

theorem agenda_eq_cons_iff :
    agenda rates target done = event :: later ↔
      due rates target done = some event ∧ agenda rates target (done.next event) = later := by
  cases dueNext : due rates target done with
  | none => simp [agenda_of_due_none dueNext]
  | some other =>
      simp only [agenda_of_due_some dueNext, List.cons.injEq, Option.some.injEq]
      constructor
      · rintro ⟨rfl, rest⟩
        exact ⟨rfl, rest⟩
      · rintro ⟨rfl, rest⟩
        exact ⟨rfl, rest⟩

/-- After a first part of the agenda the rest of it is the agenda. -/
theorem agenda_after (split : agenda rates target done = earlier ++ later) :
    agenda rates target (done.after earlier) = later := by
  induction earlier generalizing done with
  | nil => exact split
  | cons event rest ih => exact ih (agenda_eq_cons_iff.mp split).2

/-- The agenda leads to the target, or stays beyond it. -/
theorem after_agenda (rates : Rates) (target done : Progress) :
    done.after (agenda rates target done) = done.beyond target := by
  induction done using agenda.induct rates target with
  | case1 done dueNext =>
      rw [agenda_of_due_none dueNext, beyond_of_due_none dueNext]
      rfl
  | case2 done event dueNext ih =>
      rw [agenda_of_due_some dueNext, after, ih, beyond_next dueNext]

theorem count_cycle_agenda (rates : Rates) (target done : Progress) :
    (agenda rates target done).count .cycle = target.cycles - done.cycles := by
  have reached := congrArg Progress.cycles (after_agenda rates target done)
  simp only [cycles_after, beyond] at reached
  omega

theorem count_tick_agenda (rates : Rates) (target done : Progress) :
    (agenda rates target done).count .tick = target.ticks - done.ticks := by
  have reached := congrArg Progress.ticks (after_agenda rates target done)
  simp only [ticks_after, beyond] at reached
  omega

/-- The ticks done after the first `since` are those of the target that are due before the next
instruction, unless no instruction is left. -/
def Timely (rates : Rates) (target : Progress) (since : ℕ) (done : Progress) : Prop :=
  ∀ j, since < j → j ≤ done.ticks →
    j ≤ target.ticks ∧
      (target.cycles ≤ done.cycles ∨ j * rates.cycles ≤ (done.cycles + 1) * rates.ticks)

theorem timely_next {since : ℕ} (timely : Timely rates target since done)
    (dueNext : due rates target done = some event) :
    Timely rates target since (done.next event) := by
  intro j new made
  cases event with
  | tick =>
      obtain ⟨left, order⟩ := due_eq_tick_iff.mp dueNext
      rcases Nat.lt_or_ge done.ticks j with last | before
      · have isLast : j = done.ticks + 1 := Nat.le_antisymm made last
        rw [isLast]
        exact ⟨left, order⟩
      · exact timely j new before
  | cycle =>
      obtain ⟨asked, order⟩ := timely j new made
      refine ⟨asked, order.imp (fun finished => Nat.le_succ_of_le finished) fun inTime => ?_⟩
      exact inTime.trans (Nat.mul_le_mul_right _ (Nat.le_succ _))

theorem timely_after {since : ℕ} (timely : Timely rates target since done)
    (split : agenda rates target done = earlier ++ later) :
    Timely rates target since (done.after earlier) := by
  induction earlier generalizing done with
  | nil => exact timely
  | cons event rest ih =>
      obtain ⟨dueNext, split⟩ := agenda_eq_cons_iff.mp split
      exact ih (timely_next timely dueNext) split

/-- The ticks made before an instruction are those that are due by then. -/
theorem ticks_before_cycle (split : agenda rates target done = earlier ++ .cycle :: later)
    {j : ℕ} (new : done.ticks < j) :
    j ≤ (done.after earlier).ticks ↔
      j ≤ target.ticks ∧
        j * rates.cycles ≤ ((done.after earlier).cycles + 1) * rates.ticks := by
  have atStart : Timely rates target done.ticks done := by
    intro j new made
    omega
  have dueCycle := (agenda_eq_cons_iff.mp (agenda_after split)).1
  obtain ⟨cyclesLeft, noTick⟩ := due_eq_cycle_iff.mp dueCycle
  constructor
  · intro made
    obtain ⟨asked, order⟩ := timely_after atStart split j new made
    exact ⟨asked, order.resolve_left (Nat.not_le.mpr cyclesLeft)⟩
  · rintro ⟨asked, inTime⟩
    by_contra notMade
    have later : (done.after earlier).ticks + 1 ≤ j := Nat.not_le.mp notMade
    have tooEarly := noTick (Nat.lt_of_lt_of_le later asked)
    have same := Nat.mul_le_mul_right rates.cycles later
    omega

end Agenda

/-- The target that two integers give.  A negative one asks for nothing. -/
def ofInts (cycles ticks : ℤ) : Progress :=
  ⟨cycles.toNat, ticks.toNat⟩

/-- Events lead to a target of integers in the order of logical time: as many instructions and
ticks as are left, and before an instruction just those ticks of them that are due no later. -/
structure Plans (rates : Rates) (cycles ticks : ℤ) (done : Progress) (events : List Due) :
    Prop where
  cycles_eq : (events.count .cycle : ℤ) = max 0 (cycles - done.cycles)
  ticks_eq : (events.count .tick : ℤ) = max 0 (ticks - done.ticks)
  cycles_reached : ((done.after events).cycles : ℤ) = max (done.cycles : ℤ) cycles
  ticks_reached : ((done.after events).ticks : ℤ) = max (done.ticks : ℤ) ticks
  ordered : ∀ earlier later, events = earlier ++ .cycle :: later →
    ∀ j, done.ticks < j →
      (j ≤ (done.after earlier).ticks ↔
        j ≤ ticks ∧ j * rates.cycles ≤ ((done.after earlier).cycles + 1) * rates.ticks)

theorem plans_agenda (rates : Rates) (cycles ticks : ℤ) (done : Progress) :
    Plans rates cycles ticks done (agenda rates (ofInts cycles ticks) done) where
  cycles_eq := by
    simp only [count_cycle_agenda, ofInts]
    omega
  ticks_eq := by
    simp only [count_tick_agenda, ofInts]
    omega
  cycles_reached := by
    simp only [after_agenda, beyond, ofInts]
    omega
  ticks_reached := by
    simp only [after_agenda, beyond, ofInts]
    omega
  ordered := by
    intro earlier later split j new
    have asked : j ≤ ticks.toNat ↔ (j : ℤ) ≤ ticks := by omega
    rw [ticks_before_cycle split new, ← asked]
    rfl

/-- At three instructions and two ticks a second the second tick comes before the third
instruction, which is due at the same time. -/
example : agenda ⟨3, 2, by decide, by decide⟩ ⟨3, 2⟩ .start =
    [.cycle, .tick, .cycle, .tick, .cycle] := by
  cbv

end Progress

/-! ## Doing what is on the agenda -/

namespace Machine

/-- A machine gets through events without a fault: the steps report, and it becomes another
machine. -/
inductive Does : Machine → List Due → List StepReport → Machine → Prop
  | nil (m : Machine) : Does m [] [] m
  | tick {m after : Machine} {events : List Due} {reports : List StepReport}
      (rest : Does m.tick events reports after) : Does m (.tick :: events) reports after
  | cycle {m middle after : Machine} {events : List Due} {report : StepReport}
      {reports : List StepReport} (stepped : m.step = (.ok report, middle))
      (rest : Does middle events reports after) :
      Does m (.cycle :: events) (report :: reports) after

/-- A machine gets through events, and fails at the instruction behind them. -/
def FailsBehind (m : Machine) (earlier : List Due) (fault : Fault) (after : Machine) : Prop :=
  ∃ reports before, m.Does earlier reports before ∧ before.step = (.error fault, after)

theorem Does.length_reports {m after : Machine} {events : List Due} {reports : List StepReport}
    (done : m.Does events reports after) : reports.length = events.count .cycle := by
  induction done with
  | nil m => rfl
  | tick rest ih => exact ih
  | cycle stepped rest ih => rw [List.length_cons, ih, List.count_cons_self]

/-- A machine gets through events, or it fails at one of the instructions. -/
theorem does_or_fails (m : Machine) (events : List Due) :
    (∃ reports after, m.Does events reports after) ∨
      ∃ earlier later fault after, events = earlier ++ .cycle :: later ∧
        m.FailsBehind earlier fault after := by
  induction events generalizing m with
  | nil => exact .inl ⟨_, _, .nil m⟩
  | cons event rest ih =>
      cases event with
      | tick =>
          rcases ih m.tick with ⟨reports, after, done⟩ |
              ⟨earlier, later, fault, after, rfl, reports, before, done, failed⟩
          · exact .inl ⟨_, _, .tick done⟩
          · exact .inr ⟨.tick :: earlier, later, fault, after, rfl, _, _, .tick done, failed⟩
      | cycle =>
          rcases stepped : m.step with ⟨fault | report, middle⟩
          · exact .inr ⟨[], rest, fault, middle, rfl, _, _, .nil m, stepped⟩
          rcases ih middle with ⟨reports, after, done⟩ |
              ⟨earlier, later, fault, after, rfl, reports, before, done, failed⟩
          · exact .inl ⟨_, _, .cycle stepped done⟩
          · exact .inr ⟨.cycle :: earlier, later, fault, after, rfl, _, _,
              .cycle stepped done, failed⟩

end Machine

namespace RunReport

/-- The report of a run with some steps and a number of ticks. -/
def ofSteps (steps : List StepReport) (ticks : ℕ) : RunReport where
  executed := steps.countP (!·.waiting)
  waiting := steps.countP (·.waiting)
  ticks := ticks

theorem steps_ofSteps (steps : List StepReport) (ticks : ℕ) :
    (ofSteps steps ticks).steps = steps.length := by
  have counted := steps.length_eq_countP_add_countP (p := (·.waiting))
  simp only [Bool.not_eq_true, Bool.decide_eq_false] at counted
  rw [counted, Nat.add_comm]
  rfl

theorem add_eq (first second : RunReport) :
    first + second =
      ⟨first.executed + second.executed, first.waiting + second.waiting,
        first.ticks + second.ticks⟩ :=
  rfl

theorem empty_add (report : RunReport) : {} + report = report := by
  simp [add_eq]

theorem addTick_add_ofSteps (first : RunReport) (steps : List StepReport) (ticks : ℕ) :
    first.addTick + ofSteps steps ticks = first + ofSteps steps (ticks + 1) :=
  congrArg (RunReport.mk _ _) (Nat.add_right_comm first.ticks 1 ticks)

theorem addStep_add_ofSteps (first : RunReport) (step : StepReport) (steps : List StepReport)
    (ticks : ℕ) :
    first.addStep step + ofSteps steps ticks = first + ofSteps (step :: steps) ticks := by
  cases waits : step.waiting with
  | false => simp [addStep, add_eq, ofSteps, waits, Nat.add_assoc, Nat.add_comm 1]
  | true => simp [addStep, add_eq, ofSteps, waits, Nat.add_assoc, Nat.add_comm 1]

end RunReport

namespace Runner

section Runs

variable {target : Progress} {r : Runner}

/-- A run gets through a first part of the agenda, and goes on from there. -/
theorem runTo_of_does {earlier later : List Due} {reports : List StepReport} {before : Machine}
    (split : Progress.agenda r.rates target r.done = earlier ++ later)
    (done : r.machine.Does earlier reports before) (report : RunReport) :
    r.runTo target report =
      runTo target { r with machine := before, done := r.done.after earlier }
        (report + .ofSteps reports (earlier.count .tick)) := by
  generalize machineEq : r.machine = m at done
  induction done generalizing r report with
  | nil m =>
      subst m
      rfl
  | tick rest ih =>
      subst machineEq
      obtain ⟨dueNext, split⟩ := Progress.agenda_eq_cons_iff.mp split
      rw [runTo_of_due_tick dueNext]
      rw [ih (r := { r with machine := r.machine.tick, done := r.done.tick }) split _ rfl,
        RunReport.addTick_add_ofSteps, List.count_cons_self]
      rfl
  | cycle stepped rest ih =>
      subst machineEq
      obtain ⟨dueNext, split⟩ := Progress.agenda_eq_cons_iff.mp split
      rw [runTo_of_step_eq_ok dueNext stepped]
      rw [ih (r := { r with machine := _, done := r.done.cycle }) split _ rfl,
        RunReport.addStep_add_ofSteps]
      rfl

theorem runUntil_of_does {events : List Due} {reports : List StepReport} {after : Machine}
    (whole : Progress.agenda r.rates target r.done = events)
    (done : r.machine.Does events reports after) :
    r.runUntil target =
      (.ok (.ofSteps reports (events.count .tick)),
        { r with machine := after, done := r.done.after events }) := by
  have split := whole.trans (List.append_nil events).symm
  have finished := Progress.agenda_eq_nil_iff.mp (Progress.agenda_after split)
  rw [runUntil_eq_map, runTo_of_does split done, runTo_of_due_none finished, RunReport.empty_add]
  rfl

theorem runUntil_of_fails {earlier later : List Due} {fault : Fault} {after : Machine}
    (split : Progress.agenda r.rates target r.done = earlier ++ .cycle :: later)
    (fails : r.machine.FailsBehind earlier fault after) :
    r.runUntil target =
      (.error (.fault fault),
        { r with machine := after, halted := true, done := r.done.after earlier }) := by
  obtain ⟨reports, before, done, failed⟩ := fails
  have dueCycle := (Progress.agenda_eq_cons_iff.mp (Progress.agenda_after split)).1
  let there : Runner := { r with machine := before, done := r.done.after earlier }
  rw [runUntil_eq_map, runTo_of_does split done,
    runTo_of_step_eq_error (r := there) dueCycle failed]
  rfl

end Runs

/-- A run to a target of integers follows an agenda in the order of logical time.  If no step on
it fails, the run does all of it and reports how many steps waited and how many did not.  A step
that fails ends the run with its fault and halts the runner; all that comes earlier on the
agenda has been done, and nothing else. -/
theorem runUntil_agenda (r : Runner) (cycles ticks : ℤ) :
    ∃ events, Progress.Plans r.rates cycles ticks r.done events ∧
      ((∃ reports after, r.machine.Does events reports after ∧
          (RunReport.ofSteps reports (events.count .tick)).steps = events.count .cycle ∧
          r.runUntil (.ofInts cycles ticks) =
            (.ok (.ofSteps reports (events.count .tick)),
              { r with machine := after, done := r.done.after events })) ∨
        ∃ earlier later fault after, events = earlier ++ .cycle :: later ∧
          r.machine.FailsBehind earlier fault after ∧
          r.runUntil (.ofInts cycles ticks) =
            (.error (.fault fault),
              { r with machine := after, halted := true, done := r.done.after earlier })) := by
  obtain ⟨events, whole⟩ :
      ∃ events, Progress.agenda r.rates (.ofInts cycles ticks) r.done = events :=
    ⟨_, rfl⟩
  refine ⟨events, whole ▸ Progress.plans_agenda r.rates cycles ticks r.done, ?_⟩
  rcases r.machine.does_or_fails events with
    ⟨reports, after, done⟩ | ⟨earlier, later, fault, after, rfl, fails⟩
  · have counted :=
      (RunReport.steps_ofSteps reports (events.count .tick)).trans done.length_reports
    exact .inl ⟨reports, after, done, counted, runUntil_of_does whole done⟩
  · exact .inr ⟨earlier, later, fault, after, rfl, fails, runUntil_of_fails whole fails⟩

end Runner

end ChipEight
