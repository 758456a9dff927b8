import ChipEight.Proofs.Frames
import ChipEight.Proofs.Sessions

/-!
# Going on from a save file

A runner that is built anew counts instructions and ticks from zero.  So it has the schedule of a
runner that has been going for a while only if that one stands at a time at which both counts come
out even (`Progress.Balanced`).  From there on both do the same, with the counts shifted by what
the older runner has done (`Progress.due_add`), as long as their machines have the same snapshot
and the same dialect (`Runner.Resumes`).  A session that loads a save file has such a runner, and
with the slices of a run that gives what two sessions do in the place of one
(`Session.run_resumed`).
-/

namespace ChipEight

/-! ## Shifted schedules -/

namespace Progress

/-- What is done before and what is done after, counted from the start. -/
instance : Add Progress :=
  ⟨fun base p => ⟨base.cycles + p.cycles, base.ticks + p.ticks⟩⟩

/-- As many instructions as ticks, each at its rate: both counts are due at the same time. -/
def Balanced (rates : Rates) (base : Progress) : Prop :=
  base.cycles * rates.ticks = base.ticks * rates.cycles

section Balanced

variable {rates : Rates} {base : Progress}

/-- Which of two events comes first does not depend on what is done before, if that is even. -/
theorem next_le_iff (balanced : Balanced rates base) (done : Progress) :
    (base.ticks + done.ticks + 1) * rates.cycles ≤ (base.cycles + done.cycles + 1) * rates.ticks ↔
      (done.ticks + 1) * rates.cycles ≤ (done.cycles + 1) * rates.ticks := by
  have ticks : (base.ticks + done.ticks + 1) * rates.cycles =
      base.ticks * rates.cycles + (done.ticks + 1) * rates.cycles := by
    ring
  have cycles : (base.cycles + done.cycles + 1) * rates.ticks =
      base.cycles * rates.ticks + (done.cycles + 1) * rates.ticks := by
    ring
  rw [ticks, cycles, balanced]
  exact Nat.add_le_add_iff_left

theorem due_add (balanced : Balanced rates base) (target done : Progress) :
    due rates (base + target) (base + done) = due rates target done := by
  have ticksLeft : base.ticks + done.ticks < base.ticks + target.ticks ↔
      done.ticks < target.ticks := Nat.add_lt_add_iff_left
  have cyclesLeft : base.cycles + done.cycles < base.cycles + target.cycles ↔
      done.cycles < target.cycles := Nat.add_lt_add_iff_left
  have cyclesUp : base.cycles + target.cycles ≤ base.cycles + done.cycles ↔
      target.cycles ≤ done.cycles := Nat.add_le_add_iff_left
  change (if base.ticks + done.ticks < base.ticks + target.ticks ∧
      (base.cycles + target.cycles ≤ base.cycles + done.cycles ∨
        (base.ticks + done.ticks + 1) * rates.cycles ≤
          (base.cycles + done.cycles + 1) * rates.ticks) then some Due.tick
    else if base.cycles + done.cycles < base.cycles + target.cycles then some .cycle else none) = _
  simp only [ticksLeft, cyclesLeft, cyclesUp, next_le_iff balanced, due]

theorem atCycle_add (balanced : Balanced rates base) (n : ℕ) :
    atCycle rates (base.cycles + n) = base + atCycle rates n := by
  have ticks : (base.cycles + n) * rates.ticks / rates.cycles =
      base.ticks + n * rates.ticks / rates.cycles :=
    calc
      (base.cycles + n) * rates.ticks / rates.cycles =
          (n * rates.ticks + base.ticks * rates.cycles) / rates.cycles := by
        rw [Nat.add_mul, balanced, Nat.add_comm]
      _ = base.ticks + n * rates.ticks / rates.cycles := by
        rw [Nat.add_mul_div_right _ _ rates.cycles_pos, Nat.add_comm]
  exact congrArg (Progress.mk _) ticks

/-- The time of an instruction is even if a tick is due at that very time. -/
theorem balanced_atCycle {n : ℕ} (even : rates.cycles ∣ n * rates.ticks) :
    Balanced rates (atCycle rates n) :=
  (Nat.div_mul_cancel even).symm

end Balanced

end Progress

/-! ## Runs side by side -/

namespace Runner

/-- A runner does what is left to do for another one, whose schedule is ahead by `base`: the rates
are the same, and the machines are alike. -/
structure Resumes (r : Runner) (base : Progress) (s : Runner) : Prop where
  rates : s.rates = r.rates
  done : s.done = base + r.done
  alike : r.machine.Alike s.machine

section Runs

variable {base target : Progress} {r s : Runner}

namespace Resumes

theorem due (resumes : r.Resumes base s) (balanced : Progress.Balanced r.rates base) :
    Progress.due s.rates (base + target) s.done = Progress.due r.rates target r.done := by
  rw [resumes.rates, resumes.done, Progress.due_add balanced]

theorem tick (resumes : r.Resumes base s) :
    Resumes { r with machine := r.machine.tick, done := r.done.tick } base
      { s with machine := s.machine.tick, done := s.done.tick } where
  rates := resumes.rates
  done := by rw [resumes.done]; rfl
  alike := resumes.alike.tick

theorem cycle {machine other : Machine} (resumes : r.Resumes base s)
    (alike : machine.Alike other) :
    Resumes { r with machine := machine, done := r.done.cycle } base
      { s with machine := other, done := s.done.cycle } where
  rates := resumes.rates
  done := by rw [resumes.done]; rfl
  alike := alike

/-- Both runs report the same, or fail alike, and leave machines that are alike. -/
theorem runTo (resumes : r.Resumes base s) (balanced : Progress.Balanced r.rates base)
    (target : Progress) (report : RunReport) :
    (s.runTo (base + target) report).1 = (r.runTo target report).1 ∧
      (r.runTo target report).2.machine.Alike (s.runTo (base + target) report).2.machine := by
  induction r, report using runTo.induct target generalizing s with
  | case1 r report next =>
      have sameNext := (resumes.due balanced).trans next
      rw [runTo_of_due_none next, runTo_of_due_none sameNext]
      exact ⟨rfl, resumes.alike⟩
  | case2 r report next ih =>
      have sameNext := (resumes.due balanced).trans next
      rw [runTo_of_due_tick next, runTo_of_due_tick sameNext]
      exact ih resumes.tick balanced
  | case3 r report next fault machine stepped =>
      have sameNext := (resumes.due balanced).trans next
      obtain ⟨other, otherStepped, alike⟩ := resumes.alike.step_error stepped
      rw [runTo_of_step_eq_error next stepped, runTo_of_step_eq_error sameNext otherStepped]
      exact ⟨rfl, alike⟩
  | case4 r report next step machine stepped ih =>
      have sameNext := (resumes.due balanced).trans next
      obtain ⟨other, otherStepped, alike⟩ := resumes.alike.step_ok stepped
      rw [runTo_of_step_eq_ok next stepped, runTo_of_step_eq_ok sameNext otherStepped]
      -- The steps differ in their counts only, and a report of a run does not have these.
      exact ih (resumes.cycle alike) balanced

end Resumes

/-- A run of instructions is a run of the loop, apart from the logical time. -/
theorem runCycles_eq_runTo (running : r.halted = false) (count : ℕ) :
    (r.runCycles count).1 = (r.runTo (r.cycleTarget count) {}).1.mapError .fault ∧
      (r.runCycles count).2.machine = (r.runTo (r.cycleTarget count) {}).2.machine := by
  rw [runCycles_of_running running, runUntil_eq_map]
  rcases r.runTo (r.cycleTarget count) {} with ⟨fault | report, after⟩ <;> exact ⟨rfl, rfl⟩

theorem nonneg_of_runCycles_ok {count : Int} {report : RunReport}
    (ran : r.runCycles count = (.ok report, s)) : 0 ≤ count := by
  by_contra negative
  unfold runCycles at ran
  rw [if_pos (Int.not_le.mp negative)] at ran
  split at ran <;> cases ran

/-- Nothing but a fault can end a run of instructions early. -/
theorem runCycles_error {refusal : Refusal} (running : r.halted = false) (count : ℕ)
    (failed : (r.runCycles count).1 = .error refusal) : ∃ fault, refusal = .fault fault := by
  rw [(runCycles_eq_runTo running count).1] at failed
  cases outcome : (r.runTo (r.cycleTarget count) {}).1 with
  | error fault =>
      rw [outcome] at failed
      cases failed
      exact ⟨fault, rfl⟩
  | ok report =>
      rw [outcome] at failed
      cases failed

/-- A run of instructions that comes to its end leaves the runner running, with all of them and
the ticks meanwhile done. -/
theorem runCycles_ok {count : ℕ} {report : RunReport} (running : r.halted = false)
    (ran : r.runCycles count = (.ok report, s)) :
    s.halted = false ∧ s.done = r.done.beyond (r.cycleTarget count) := by
  rw [runCycles_of_running running] at ran
  cases outcome : r.runUntil (r.cycleTarget count) with
  | mk result after =>
      rw [outcome] at ran
      cases result with
      | error refusal => cases ran
      | ok total =>
          cases ran
          have kept := runUntil_eq_ok outcome
          rw [kept]
          exact ⟨running, rfl⟩

theorem Resumes.runCycles (resumes : r.Resumes base s)
    (balanced : Progress.Balanced r.rates base) (running : r.halted = false)
    (alsoRunning : s.halted = false) (count : ℕ) :
    (s.runCycles count).1 = (r.runCycles count).1 ∧
      (r.runCycles count).2.machine.Alike (s.runCycles count).2.machine := by
  have target : s.cycleTarget count = base + r.cycleTarget count := by
    rw [cycleTarget, resumes.rates, resumes.done, cycleTarget, ← Progress.atCycle_add balanced,
      ← Nat.add_assoc]
    rfl
  obtain ⟨sameReport, alike⟩ := resumes.runTo balanced (r.cycleTarget count) {}
  obtain ⟨report, machine⟩ := runCycles_eq_runTo running count
  obtain ⟨otherReport, otherMachine⟩ := runCycles_eq_runTo alsoRunning count
  rw [report, machine, otherReport, otherMachine, target, sameReport]
  exact ⟨rfl, alike⟩

/-- After a run of instructions another runner does the rest.  Its report is added to that of the
run, and its machine is like the one after all instructions. -/
theorem Resumes.runCycles_add {first : Runner} {a : ℕ} {report : RunReport}
    (resumes : r.Resumes base s) (balanced : Progress.Balanced r.rates base)
    (running : r.halted = false) (firstRunning : first.halted = false)
    (ran : first.runCycles a = (.ok report, s)) (b : ℕ) :
    (first.runCycles (a + b : ℕ)).1 = (r.runCycles b).1.map (report + ·) ∧
      (r.runCycles b).2.machine.Alike (first.runCycles (a + b : ℕ)).2.machine := by
  have alsoRunning := (runCycles_ok firstRunning ran).1
  obtain ⟨sameReport, alike⟩ := resumes.runCycles balanced running alsoRunning b
  obtain ⟨reports, runners, -⟩ := first.runCycles_add a b
  rw [ran] at reports runners
  have machine : (first.runCycles (a + b : ℕ)).2.machine = (s.runCycles b).2.machine :=
    (congrArg Runner.machine runners).symm
  rw [machine, ← reports, ← sameReport]
  exact ⟨rfl, alike⟩

end Runs

/-! ## The free numbers -/

theorem regular_runTo {target : Progress} {r : Runner} (regular : r.machine.state.Regular)
    (report : RunReport) : (r.runTo target report).2.machine.state.Regular := by
  induction r, report using runTo.induct target with
  | case1 r report next =>
      rw [runTo_of_due_none next]
      exact regular
  | case2 r report next ih =>
      rw [runTo_of_due_tick next]
      exact ih (Machine.regular_call regular .tick)
  | case3 r report next fault machine stepped =>
      rw [runTo_of_step_eq_error next stepped]
      have after := Machine.regular_call regular .step
      rw [Machine.call, stepped] at after
      exact after
  | case4 r report next step machine stepped ih =>
      rw [runTo_of_step_eq_ok next stepped]
      have after := Machine.regular_call regular .step
      rw [Machine.call, stepped] at after
      exact ih after

theorem regular_runCycles {r : Runner} (regular : r.machine.state.Regular)
    (running : r.halted = false) (count : ℕ) :
    (r.runCycles count).2.machine.state.Regular := by
  rw [(runCycles_eq_runTo running count).2]
  exact regular_runTo regular {}

end Runner

/-! ## Save files -/

namespace SaveState

open Snapshot

/-- A save file of a state that passes the checks is read as the snapshot of the state, if the
format reads what it has written. -/
theorem load_written {t : State} {document : Value} {files : Files} {path : Text}
    {format : Yaml.Format} {room : Value.Room} (valid : (ofState t).validate = .ok ())
    (spells : readDocument room document = .ok (ofState t))
    (kept : files.bytes path = .ok (Text.toUtf8 (format.write document)))
    (inverse : format.read (Text.toUtf8 (format.write document)) = .ok document) :
    load room files path format = .ok (ofState t) := by
  have found : readFile files path format = .ok document := by
    simp only [readFile, kept, inverse]
  have accepted : ofDocument room document = .ok (ofState t) := by
    simp only [ofDocument, spells, valid]
  rw [load, found]
  simp only [accepted]
  rfl

end SaveState

/-! ## Sessions -/

namespace Session

variable {room laterRoom wholeRoom : Value.Room} {c : Config} {program : List UInt8}
  {format : Yaml.Format}

/-- A session without a save file is ready with the new runner. -/
theorem verdict_prepare_new {o : Options} {files : Files} {seed : Int} {r : Runner}
    (given : Given room o files format c program) (unnamed : o.loadState = none)
    (built : newRunner c seed program = .ok r) :
    verdict (prepare room o files seed format) = .ok r := by
  rw [verdict_prepare given, built]
  exact verdict_loadState_none (by rw [unnamed]; rfl) r

/-- A session that succeeded without a save file: its runner at the start and at the end, and the
document that it saves. -/
theorem exists_run {o : Options} {files : Files} {seed : Int} {product : Product}
    (given : Given room o files format c program) (unnamed : o.loadState = none)
    (ran : verdict (run room o files seed format) = .ok product) :
    ∃ r document, ∃ count : ℕ,
      newRunner c seed program = .ok r ∧
        o.cycles = count ∧
        r.runCycles count = (.ok product.report, product.runner) ∧
        SaveState.toDocument room product.runner.machine.capture = .ok document ∧
        (∀ other, SaveState.readDocument other document =
          .ok product.runner.machine.capture) ∧
        product.save = (o.saveState.filter (!·.isEmpty)).map (·, format.write document) := by
  cases built : newRunner c seed program with
  | error failure =>
      rw [verdict_run_eq, verdict_prepare given, built] at ran
      cases ran
  | ok r =>
      have prepared := verdict_prepare_new given unnamed built
      cases outcome : r.runCycles o.cycles with
      | mk result after =>
          cases result with
          | error refusal =>
              rw [verdict_run_error prepared (congrArg Prod.fst outcome)] at ran
              cases ran
          | ok report =>
              obtain ⟨document, saved, read⟩ := SaveState.exists_document after.machine.state
              obtain ⟨output, came⟩ := verdict_run prepared outcome (saved room)
              rw [came] at ran
              cases ran
              obtain ⟨count, counted⟩ :=
                Int.eq_ofNat_of_zero_le (Runner.nonneg_of_runCycles_ok outcome)
              rw [counted] at outcome
              exact ⟨r, document, count, rfl, counted, outcome, saved room, read, rfl⟩

/-- What is done when a runner at its start has carried out some instructions. -/
theorem done_of_runCycles {r after : Runner} {count : ℕ} {report : RunReport} (poised : Poised c r)
    (ran : r.runCycles count = (.ok report, after)) :
    after.done = .atCycle r.rates count + r.done := by
  rw [(Runner.runCycles_ok poised.running ran).2, Runner.cycleTarget, poised.done]
  simp [Progress.beyond, Progress.start, Progress.atCycle]
  rfl

/-- The machine of a runner that has carried out some instructions is taken up by a machine with the
same configuration, unless the program has run over the end of memory. -/
theorem exists_taken_up {r after : Runner} {count : ℕ} {report : RunReport} (poised : Poised c r)
    (ran : r.runCycles count = (.ok report, after))
    (inside : after.machine.state.registers.pc ≤ 0xFFE) :
    after.machine.capture.validate = .ok () ∧
      ∃ machine, r.machine.restore (.snapshot after.machine.capture) = .ok machine ∧
        Runner.Resumes { r with machine := machine } (.atCycle r.rates count) after := by
  have regular := Runner.regular_runCycles poised.regular poised.running count
  have same := r.sameSetup_runCycles count
  rw [ran] at regular same
  have valid : after.machine.capture.validate = .ok () := by
    rw [Machine.capture, Snapshot.validate_ofState regular.keypad,
      if_pos ⟨regular.pc_nonneg, inside⟩]
  obtain ⟨machine, restored, config, -, captured⟩ :=
    Machine.restore_of_valid valid r.machine (.ofSeed 0)
  have capture := captured.trans (Snapshot.frozen_seeded_ofState after.machine.state _)
  refine ⟨valid, machine, restored, same.rates, done_of_runCycles poised ran, ?_, capture⟩
  rw [config, ← same.config]

/-- If the `count`-th instruction is due with a tick, then so it is by the numbers of the
configuration. -/
theorem balanced_of_dvd {r : Runner} {count : ℕ} (poised : Poised c r)
    (even : c.cyclesPerSecond ∣ count * c.timerHz) :
    Progress.Balanced r.rates (.atCycle r.rates count) := by
  rw [← poised.cycles, ← poised.ticks] at even
  exact Progress.balanced_atCycle (by exact_mod_cast even)

/-- After a session with a report, another one comes to what a single session comes to in the place
of both: they fail by the same fault, or they succeed, leave the same snapshot, and the two reports
add up to the single one. -/
inductive Completes (report : RunReport) : Except Failure Product → Except Failure Product → Prop
  | fault (cause : Fault) :
      Completes report (.error (.refused (.fault cause))) (.error (.refused (.fault cause)))
  | product {later total : Product}
      (captured : later.runner.machine.capture = total.runner.machine.capture)
      (reports : report + later.report = total.report) : Completes report (.ok later) (.ok total)

/-- Two sessions whose runs report the same, but for what has been reported before, and leave the
same snapshot.  They fail by the same fault or both succeed. -/
theorem verdicts_of_runCycles {second whole : Options} {later others : Files}
    {laterSeed wholeSeed : Int} {s r : Runner} {report : RunReport} {count : ℕ}
    (running : s.halted = false)
    (secondPrepared : verdict (prepare laterRoom second later laterSeed format) = .ok s)
    (wholePrepared : verdict (prepare wholeRoom whole others wholeSeed format) = .ok r)
    (counted : second.cycles = count)
    (sameReport : (r.runCycles whole.cycles).1 = (s.runCycles count).1.map (report + ·))
    (captured : (s.runCycles count).2.machine.capture =
      (r.runCycles whole.cycles).2.machine.capture) :
    Completes report (verdict (run laterRoom second later laterSeed format))
      (verdict (run wholeRoom whole others wholeSeed format)) := by
  cases secondRun : s.runCycles count with
  | mk result after =>
      rw [secondRun] at sameReport captured
      cases result with
      | error refusal =>
          have failed : (s.runCycles count).1 = .error refusal := congrArg Prod.fst secondRun
          obtain ⟨fault, rfl⟩ := Runner.runCycles_error running count failed
          rw [← counted] at failed
          rw [verdict_run_error secondPrepared failed, verdict_run_error wholePrepared sameReport]
          exact .fault fault
      | ok added =>
          cases wholeRun : r.runCycles whole.cycles with
          | mk wholeResult last =>
              rw [wholeRun] at sameReport captured
              rw [← counted] at secondRun
              cases sameReport
              obtain ⟨_, spelled, -⟩ := SaveState.exists_document after.machine.state
              obtain ⟨_, alsoSpelled, -⟩ := SaveState.exists_document last.machine.state
              obtain ⟨_, resumed⟩ := verdict_run secondPrepared secondRun (spelled laterRoom)
              obtain ⟨_, total⟩ := verdict_run wholePrepared wholeRun (alsoSpelled wholeRoom)
              rw [resumed, total]
              exact .product captured rfl

/-- A session carries out some instructions and saves, and a second one goes on from the save file
with the same configuration, which has a seed, and the same program.  If the time of the first one
is a whole number of ticks, and a word can be fetched at its end, both together do what one session
does that carries out all the instructions.  The format has to read the saved document as it was
written; what the surroundings give as a seed, and how much room, makes no difference. -/
theorem run_resumed {first second whole : Options} {files later others : Files}
    {seed fixed : Int} (laterSeed wholeSeed : Int) {product : Product} {path : Text} {text : String}
    (firstGiven : Given room first files format c program)
    (secondGiven : Given laterRoom second later format c program)
    (wholeGiven : Given wholeRoom whole others format c program)
    (seeded : c.seed = some fixed)
    (firstNew : first.loadState = none)
    (wholeNew : whole.loadState = none)
    (ran : verdict (run room first files seed format) = .ok product)
    (inside : product.runner.machine.state.registers.pc ≤ 0xFFE)
    (even : c.cyclesPerSecond ∣ first.cycles * c.timerHz)
    (saved : product.save = some (path, text))
    (named : second.loadState = some path)
    (kept : later.bytes path = .ok (Text.toUtf8 text))
    (inverse : ∀ document,
      SaveState.toDocument room product.runner.machine.capture = .ok document →
        format.read (Text.toUtf8 (format.write document)) = .ok document)
    (nonneg : 0 ≤ second.cycles)
    (together : whole.cycles = first.cycles + second.cycles) :
    Completes product.report (verdict (run laterRoom second later laterSeed format))
      (verdict (run wholeRoom whole others wholeSeed format)) := by
  obtain ⟨r, document, a, built, firstCycles, outcome, spelled, spells, saveEq⟩ :=
    exists_run firstGiven firstNew ran
  obtain ⟨b, secondCycles⟩ := Int.eq_ofNat_of_zero_le nonneg
  have poised := poised_newRunner built
  have balanced : Progress.Balanced r.rates (.atCycle r.rates a) :=
    balanced_of_dvd poised (firstCycles ▸ even)
  -- The second session goes on from the snapshot of the first.
  obtain ⟨valid, machine, restored, resumes⟩ := exists_taken_up poised outcome inside
  obtain ⟨sameName, rfl⟩ : first.saveState.filter (!·.isEmpty) = some path ∧
      format.write document = text := by
    rw [saveEq] at saved
    simpa using saved
  have loaded := SaveState.load_written valid (spells laterRoom) kept (inverse document spelled)
  have notEmpty : second.loadState.filter (!·.isEmpty) = some path := by
    rw [named]
    exact Option.filter_eq_some_iff.mpr ⟨rfl, (Option.filter_eq_some_iff.mp sameName).2⟩
  have sameRunner (other : Int) : newRunner c other program = .ok r :=
    (newRunner_of_seed seeded other seed program).trans built
  have secondPrepared : verdict (prepare laterRoom second later laterSeed format) =
      .ok { r with machine := machine } := by
    rw [verdict_prepare secondGiven, sameRunner]
    exact verdict_loadState notEmpty loaded restored
  have wholePrepared : verdict (prepare wholeRoom whole others wholeSeed format) = .ok r :=
    verdict_prepare_new wholeGiven wholeNew (sameRunner wholeSeed)
  -- Its runner does what is left to do for the runner of the first.
  have running : Runner.halted { r with machine := machine } = false := poised.running
  obtain ⟨sameReport, alike⟩ :=
    resumes.runCycles_add balanced running poised.running outcome b
  have wholeCycles : whole.cycles = (a + b : ℕ) := by
    rw [together, firstCycles, secondCycles]
    rfl
  rw [← wholeCycles] at sameReport alike
  exact verdicts_of_runCycles running secondPrepared wholePrepared secondCycles sameReport
    alike.capture

/-! ### A program that runs in a circle -/

/-- A program that jumps to where it is. -/
def circle : List UInt8 :=
  [0x12, 0x00]

/-- One instruction and one tick a second. -/
def steady : Config :=
  { cyclesPerSecond := 1, timerHz := 1, seed := some 1 }

/-- The configuration as a document. -/
def steadyDocument : Value :=
  .map [(.text "cpu",
    .map [(.text "cycles_per_second", .int 1), (.text "timer_hz", .int 1), (.text "seed", .int 1)])]

/-- The document as a file has it. -/
def steadyText : String :=
  "cpu:\n  cycles_per_second: 1\n  timer_hz: 1\n  seed: 1\n"

/-- A machine that is about to jump to where it is. -/
structure Circling (m : Machine) : Prop where
  here : m.state.registers.pc = 0x200
  holds : m.state.memory.Holds circle

namespace Circling

variable {m : Machine}

theorem ready (circling : Circling m) :
    m.state.ready m.config.dialect = .ok ⟨.jump, 0x1200⟩ := by
  have here : m.state.registers.pc = (0 + 512 : ℕ) := circling.here
  exact State.ready_of_holds circling.holds here (by decide) rfl rfl rfl rfl

theorem step (circling : Circling m) :
    ∃ report after, m.step = (.ok report, after) ∧ report.waiting = false ∧ Circling after := by
  refine ⟨m.state.report m.config.dialect ⟨.jump, 0x1200⟩,
    m.withState (m.state.stepped m.config.dialect ⟨.jump, 0x1200⟩), ?_, rfl, ⟨rfl, ?_⟩⟩
  · simp only [Machine.step, State.step_eq, circling.ready]
  · exact circling.holds

theorem tick (circling : Circling m) : Circling m.tick :=
  ⟨circling.here, circling.holds⟩

end Circling

theorem exists_load_circle {m : Machine} (powerUp : m.state.registers.pc = 0x200) :
    ∃ after, m.load circle = .ok after ∧ Circling after := by
  have fits : circle.length ≤ 3584 := by decide
  obtain ⟨memory, placed, holds⟩ := m.call_load_of_fits fits
  rcases m.load_cases circle with ⟨-, after, loaded, -⟩ | ⟨tooLong, -⟩
  · rw [Machine.call, loaded] at placed
    refine ⟨after, loaded, ?_⟩
    rw [show after = _ from placed]
    exact ⟨powerUp, holds⟩
  · exact absurd fits (Nat.not_le.mpr tooLong)

/-- A runner on such a machine, at the start of its schedule. -/
def circling (machine : Machine) : Runner :=
  { Runner.atStart machine ⟨1, 1, by decide, by decide⟩ with rom := some circle }

theorem exists_newRunner_circle :
    ∃ machine, Circling machine ∧ newRunner steady 0 circle = .ok (circling machine) := by
  let powerUp : Machine := .new { steady with seed := some 1 }
  obtain ⟨machine, loaded, isCircling⟩ := exists_load_circle (m := powerUp) rfl
  refine ⟨machine, isCircling, ?_⟩
  have started : Runner.new powerUp 1 1 =
      .ok (.atStart powerUp ⟨1, 1, by decide, by decide⟩) :=
    Runner.new_eq_ok_iff.mpr ⟨_, rfl, rfl⟩
  have placed : (Runner.atStart powerUp ⟨1, 1, by decide, by decide⟩).load circle =
      .ok (circling machine) := by
    rw [Runner.load, show (Runner.atStart powerUp _).machine = powerUp from rfl, loaded]
    rfl
  refine SaveState.bind_eq_ok_iff.mpr ⟨_, mapError_eq_ok_iff.mpr started, ?_⟩
  exact mapError_eq_ok_iff.mpr placed

/-- One tick and one instruction later the runner is where it was. -/
theorem runCycles_circling {machine : Machine} (isCircling : Circling machine) :
    ∃ after, (circling machine).runCycles 1 = (.ok { executed := 1, ticks := 1 }, after) ∧
      Circling after.machine := by
  obtain ⟨report, last, stepped, notWaiting, lastCircling⟩ := isCircling.tick.step
  let r := circling machine
  let ticked : Runner := { r with machine := r.machine.tick, done := r.done.tick }
  have first : Progress.due r.rates ⟨1, 1⟩ r.done = some .tick := rfl
  have second : Progress.due ticked.rates ⟨1, 1⟩ ticked.done = some .cycle := rfl
  have ran : r.runTo ⟨1, 1⟩ {} =
      (.ok { executed := 1, ticks := 1 }, { ticked with machine := last, done := ⟨1, 1⟩ }) := by
    rw [Runner.runTo_of_due_tick first, Runner.runTo_of_step_eq_ok second stepped,
      Runner.runTo_of_due_none rfl, RunReport.addStep, notWaiting]
    rfl
  have running : r.halted = false := rfl
  have target : r.cycleTarget 1 = ⟨1, 1⟩ := by
    change Progress.atCycle ⟨1, 1, _, _⟩ 1 = ⟨1, 1⟩
    decide
  have whole := Runner.runCycles_of_running running 1
  rw [Runner.runUntil_eq_map, target, ran] at whole
  exact ⟨_, whole, lastCircling⟩

/-- A session on the program. -/
def circleOptions : Options :=
  { rom := "circle.ch8", config := some ("steady.yaml" : Text) }

/-- Where the sessions leave the state of their machine. -/
def savePath : Text :=
  "state.yaml"

/-- The files of the sessions. -/
def circleFiles (config saved : List UInt8) : Files := fun name =>
  if name = "circle.ch8" then some circle
  else if name = "steady.yaml" then some config
  else if name = savePath then some saved
  else none

/-- YAML, where it is known beforehand what two of the files hold.  Others are read within some
limits. -/
def knowing (limits : Yaml.Limits) (config saved : List UInt8) (document : Value) :
    Yaml.Format where
  write := Yaml.write
  read bytes :=
    if bytes = saved then .ok document
    else if bytes = config then .ok steadyDocument
    else Yaml.read limits bytes

/-- An empty line may follow on the configuration, so that it is not what has been saved. -/
theorem exists_config (saved : List UInt8) :
    ∃ rest, (rest = [] ∨ rest = [0x0A]) ∧ Text.toUtf8 steadyText ++ rest ≠ saved := by
  by_cases same : Text.toUtf8 steadyText = saved
  · exact ⟨[0x0A], .inr rfl, by simp [← same]⟩
  · exact ⟨[], .inl rfl, by rwa [List.append_nil]⟩

theorem given_circle {limits : Yaml.Limits} {o : Options} {config saved : List UInt8}
    {document : Value} (different : config ≠ saved) (rom : o.rom = circleOptions.rom)
    (named : o.config = circleOptions.config) :
    Given room o (circleFiles config saved) (knowing limits config saved document) steady
      circle where
  config := by
    have known : (knowing limits config saved document).read config = .ok steadyDocument :=
      (if_neg different).trans (if_pos rfl)
    have found : Config.readFile (circleFiles config saved) "steady.yaml"
        (knowing limits config saved document) = .ok steadyDocument := by
      have bytes : (circleFiles config saved).bytes "steady.yaml" = .ok config := rfl
      simp only [Config.readFile, bytes, known]
    have loaded : (Config.load (circleFiles config saved) "steady.yaml"
        (knowing limits config saved document)).2 = .ok steady := by
      rw [Config.load, found]
      rfl
    rw [verdict_readConfig (by rw [named]; rfl), loaded]
    rfl
  program := by
    rw [rom]
    rfl

/-- After one instruction of the circle the state is saved, and a session goes on with two more. -/
theorem run_resumed_circle :
    let first : Options := { circleOptions with cycles := 1, saveState := some savePath }
    let second : Options := { circleOptions with cycles := 2, loadState := some savePath }
    let whole : Options := { circleOptions with cycles := 3 }
    ∃ files format, ∀ room, ∃ product,
      verdict (run room first files 0 format) = .ok product ∧
        product.report = { executed := 1, ticks := 1 } ∧
        product.runner.machine.state.registers.pc ≤ 0xFFE ∧
        (∃ text, product.save = some (savePath, text) ∧
          files.bytes savePath = .ok (Text.toUtf8 text)) ∧
        Completes product.report (verdict (run room second files 0 format))
          (verdict (run room whole files 0 format)) := by
  intro first second whole
  obtain ⟨machine, isCircling, built⟩ := exists_newRunner_circle
  obtain ⟨after, outcome, lastCircling⟩ := runCycles_circling isCircling
  obtain ⟨document, spelled, -⟩ := SaveState.exists_document after.machine.state
  let saved := Text.toUtf8 (Yaml.write document)
  obtain ⟨rest, -, different⟩ := exists_config saved
  let config := Text.toUtf8 steadyText ++ rest
  let format := knowing ⟨500, 1000⟩ config saved document
  let files := circleFiles config saved
  have given {room : Value.Room} {o : Options} (rom : o.rom = circleOptions.rom)
      (named : o.config = circleOptions.config) : Given room o files format steady circle :=
    given_circle different rom named
  refine ⟨files, format, fun room => ?_⟩
  have prepared : verdict (prepare room first files 0 format) = .ok (circling machine) :=
    verdict_prepare_new (given rfl rfl) rfl built
  obtain ⟨output, ran⟩ := verdict_run prepared outcome (spelled room)
  have inside : after.machine.state.registers.pc ≤ 0xFFE := by
    rw [lastCircling.here]
    decide
  have kept : files.bytes savePath = .ok saved := rfl
  have inverse : ∀ other, SaveState.toDocument room after.machine.capture = .ok other →
      format.read (Text.toUtf8 (format.write other)) = .ok other := by
    intro other alsoSpelled
    have same : document = other := Except.ok.inj ((spelled room).symm.trans alsoSpelled)
    rw [← same]
    exact if_pos rfl
  have firstGiven : Given room first files format steady circle := given rfl rfl
  have secondGiven : Given room second files format steady circle := given rfl rfl
  have wholeGiven : Given room whole files format steady circle := given rfl rfl
  refine ⟨_, ran, rfl, inside, ⟨_, rfl, kept⟩, ?_⟩
  exact run_resumed 0 0 firstGiven secondGiven wholeGiven rfl rfl rfl ran inside (one_dvd _) rfl
    rfl kept inverse (by decide) rfl

end Session

end ChipEight
