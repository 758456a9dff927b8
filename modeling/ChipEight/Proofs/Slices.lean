import Mathlib.Algebra.Order.Floor.Semifield
import Mathlib.Data.Rat.Floor
import Mathlib.Tactic.Ring
import ChipEight.Runner

/-!
# Running in slices

A run to what is due at one time, and then to what is due at a later time, does the same as one
run to the later time.  It is not enough that the second target is beyond the first: the
first has to be due at some time, so that whatever is left out of it comes later than whatever
is in it (`Progress.leads_atTime`).
-/

namespace ChipEight

/-! ## Targets -/

namespace Progress

/-- The progress that is due at a time in seconds. -/
def atTime (rates : Rates) (t : ℚ) : Progress :=
  ⟨⌊t * rates.cycles⌋₊, ⌊t * rates.ticks⌋₊⟩

/-- On the way to the first target, the second one asks for the same events. -/
def Leads (rates : Rates) (near far : Progress) : Prop :=
  ∀ done next, due rates near done = some next → due rates far done = some next

section Due

variable {rates : Rates} {target done : Progress}

theorem due_eq_tick_iff :
    due rates target done = some .tick ↔
      done.ticks < target.ticks ∧
        (target.cycles ≤ done.cycles ∨
          (done.ticks + 1) * rates.cycles ≤ (done.cycles + 1) * rates.ticks) := by
  unfold due
  split
  case isTrue tickFirst => simpa using tickFirst
  case isFalse notFirst =>
    split
    · simpa using notFirst
    · simpa using notFirst

theorem due_eq_none_iff :
    due rates target done = none ↔ target.cycles ≤ done.cycles ∧ target.ticks ≤ done.ticks := by
  unfold due
  split
  case isTrue tickFirst =>
    simp only [reduceCtorEq, false_iff]
    omega
  case isFalse notFirst =>
    split
    · simp only [reduceCtorEq, false_iff]
      omega
    · simp only [true_iff]
      omega

theorem due_eq_cycle_iff :
    due rates target done = some .cycle ↔
      done.cycles < target.cycles ∧
        (done.ticks < target.ticks →
          (done.cycles + 1) * rates.ticks < (done.ticks + 1) * rates.cycles) := by
  unfold due
  split
  case isTrue tickFirst =>
    simp only [Option.some.injEq, reduceCtorEq, false_iff]
    omega
  case isFalse notFirst =>
    split
    · simp only [true_iff]
      omega
    · simp only [reduceCtorEq, false_iff]
      omega

/-- What a run to a target leaves done: all that the target asks for, and what had been done
before beyond it. -/
def beyond (done target : Progress) : Progress :=
  ⟨max done.cycles target.cycles, max done.ticks target.ticks⟩

theorem beyond_of_due_none (next : due rates target done = none) :
    done.beyond target = done := by
  obtain ⟨cycles, ticks⟩ := due_eq_none_iff.mp next
  rw [beyond, max_eq_left cycles, max_eq_left ticks]

theorem beyond_of_due_tick (next : due rates target done = some .tick) :
    done.tick.beyond target = done.beyond target := by
  have left := (due_eq_tick_iff.mp next).1
  rw [beyond, beyond, max_eq_right left.le]
  exact congrArg _ (max_eq_right (Nat.succ_le_of_lt left))

theorem beyond_of_due_cycle (next : due rates target done = some .cycle) :
    done.cycle.beyond target = done.beyond target := by
  have left := (due_eq_cycle_iff.mp next).1
  rw [beyond, beyond, max_eq_right left.le]
  exact congrArg (Progress.mk · _) (max_eq_right (Nat.succ_le_of_lt left))

end Due

/-- What is done `p` times by some time at rate `a` is due before what has not been done `q`
times by then at rate `b`. -/
theorem cross_lt {t : ℚ} {a b p q : ℕ} (positive : 0 < a) (included : (p : ℚ) ≤ t * a)
    (excluded : t * b < q) : p * b < q * a := by
  have rate : (0 : ℚ) < a := Nat.cast_pos.mpr positive
  have cross : (p : ℚ) * b < q * a :=
    calc
      (p : ℚ) * b ≤ t * a * b := mul_le_mul_of_nonneg_right included (Nat.cast_nonneg b)
      _ = t * b * a := by ring
      _ < q * a := mul_lt_mul_of_pos_right excluded rate
  exact_mod_cast cross

/-- What is due at a time is on the way to what is due later.  An event that is only due at once
because the other kind is used up by then also comes first on the way to the later target. -/
theorem leads_atTime {rates : Rates} {t u : ℚ} (ordered : t ≤ u) :
    Leads rates (atTime rates t) (atTime rates u) := by
  intro done next
  have cyclesLe : ⌊t * rates.cycles⌋₊ ≤ ⌊u * rates.cycles⌋₊ :=
    Nat.floor_le_floor (mul_le_mul_of_nonneg_right ordered (Nat.cast_nonneg _))
  have ticksLe : ⌊t * rates.ticks⌋₊ ≤ ⌊u * rates.ticks⌋₊ :=
    Nat.floor_le_floor (mul_le_mul_of_nonneg_right ordered (Nat.cast_nonneg _))
  cases next with
  | tick =>
      rw [due_eq_tick_iff, due_eq_tick_iff]
      rintro ⟨ticksLeft, order⟩
      refine ⟨Nat.lt_of_lt_of_le ticksLeft ticksLe, .inr ?_⟩
      rcases order with cyclesDone | order
      -- The tick lies within the time, and the next instruction does not.
      · have included : ((done.ticks + 1 : ℕ) : ℚ) ≤ t * rates.ticks :=
          (Nat.le_floor_iff' (Nat.succ_ne_zero _)).mp ticksLeft
        have excluded : t * rates.cycles < (done.cycles + 1 : ℕ) :=
          Nat.lt_of_floor_lt (Nat.lt_succ_of_le cyclesDone)
        exact Nat.le_of_lt (cross_lt rates.ticks_pos included excluded)
      · exact order
  | cycle =>
      rw [due_eq_cycle_iff, due_eq_cycle_iff]
      rintro ⟨cyclesLeft, order⟩
      refine ⟨Nat.lt_of_lt_of_le cyclesLeft cyclesLe, fun _ => ?_⟩
      by_cases ticksLeft : done.ticks < ⌊t * rates.ticks⌋₊
      · exact order ticksLeft
      -- The instruction lies within the time, and the next tick does not.
      · have included : ((done.cycles + 1 : ℕ) : ℚ) ≤ t * rates.cycles :=
          (Nat.le_floor_iff' (Nat.succ_ne_zero _)).mp cyclesLeft
        have excluded : t * rates.ticks < (done.ticks + 1 : ℕ) :=
          Nat.lt_of_floor_lt (Nat.lt_succ_of_le (Nat.not_lt.mp ticksLeft))
        exact cross_lt rates.cycles_pos included excluded

/-- The progress at the time of an instruction is what is due at that time. -/
theorem atCycle_eq_atTime (rates : Rates) (n : ℕ) :
    atCycle rates n = atTime rates (n / rates.cycles) := by
  have rate : (rates.cycles : ℚ) ≠ 0 := Nat.cast_ne_zero.mpr (Nat.ne_of_gt rates.cycles_pos)
  have cycles : (n / rates.cycles : ℚ) * rates.cycles = n := div_mul_cancel₀ _ rate
  have ticks : (n / rates.cycles : ℚ) * rates.ticks = (n * rates.ticks : ℕ) / rates.cycles := by
    rw [Nat.cast_mul, div_mul_eq_mul_div]
  rw [atTime, cycles, ticks, Nat.floor_natCast, Nat.floor_div_eq_div]
  rfl

theorem leads_atCycle (rates : Rates) {m n : ℕ} (ordered : m ≤ n) :
    Leads rates (atCycle rates m) (atCycle rates n) := by
  rw [atCycle_eq_atTime, atCycle_eq_atTime]
  apply leads_atTime
  exact div_le_div_of_nonneg_right (Nat.cast_le.mpr ordered) (Nat.cast_nonneg _)

end Progress

/-! ## Reports -/

/-- What two runs did together. -/
instance : Add RunReport :=
  ⟨fun first second =>
    { executed := first.executed + second.executed
      waiting := first.waiting + second.waiting
      ticks := first.ticks + second.ticks }⟩

namespace RunReport

theorem add_addTick (first second : RunReport) :
    first + second.addTick = (first + second).addTick :=
  rfl

theorem add_addStep (first second : RunReport) (step : StepReport) :
    first + second.addStep step = (first + second).addStep step := by
  unfold addStep
  split <;> rfl

end RunReport

/-! ## Runs -/

namespace Runner

section Events

variable {target : Progress} {r : Runner}

theorem runTo_of_due_none (next : Progress.due r.rates target r.done = none)
    (report : RunReport) : r.runTo target report = (.ok report, r) := by
  rw [runTo.eq_def]
  split <;> simp_all

theorem runTo_of_due_tick (next : Progress.due r.rates target r.done = some .tick)
    (report : RunReport) :
    r.runTo target report =
      runTo target { r with machine := r.machine.tick, done := r.done.tick }
        report.addTick := by
  rw [runTo.eq_def]
  split <;> simp_all

theorem runTo_of_step_eq_ok {step : StepReport} {machine : Machine}
    (next : Progress.due r.rates target r.done = some .cycle)
    (stepped : r.machine.step = (.ok step, machine)) (report : RunReport) :
    r.runTo target report =
      runTo target { r with machine := machine, done := r.done.cycle }
        (report.addStep step) := by
  rw [runTo.eq_def]
  split <;> simp_all

theorem runTo_of_step_eq_error {fault : Fault} {machine : Machine}
    (next : Progress.due r.rates target r.done = some .cycle)
    (stepped : r.machine.step = (.error fault, machine)) (report : RunReport) :
    r.runTo target report =
      (.error fault, { r with machine := machine, halted := true }) := by
  rw [runTo.eq_def]
  split <;> simp_all

end Events

/-- A run, and after it another one unless it failed.  The reports add up. -/
def andThen {Failure : Type} (first : Except Failure RunReport × Runner)
    (second : Runner → Except Failure RunReport × Runner) :
    Except Failure RunReport × Runner :=
  match first with
  | (.error failure, r) => (.error failure, r)
  | (.ok report, r) => Prod.map (Except.map (report + ·)) id (second r)

/-- What was reported before a run is added to what the run reports. -/
theorem runTo_add (target : Progress) (r : Runner) (first second : RunReport) :
    r.runTo target (first + second) =
      Prod.map (Except.map (first + ·)) id (r.runTo target second) := by
  induction r, second using runTo.induct target with
  | case1 r second next =>
      rw [runTo_of_due_none next, runTo_of_due_none next]
      rfl
  | case2 r second next ih =>
      rw [runTo_of_due_tick next, runTo_of_due_tick next, ← ih, RunReport.add_addTick]
  | case3 r second next fault machine stepped =>
      rw [runTo_of_step_eq_error next stepped, runTo_of_step_eq_error next stepped]
      rfl
  | case4 r second next step machine stepped ih =>
      rw [runTo_of_step_eq_ok next stepped, runTo_of_step_eq_ok next stepped, ← ih,
        RunReport.add_addStep]

/-- A run to a target is a run to another one on the way, and a run from there. -/
theorem runTo_eq_andThen {near far : Progress} (r : Runner) (report : RunReport)
    (leads : Progress.Leads r.rates near far) :
    r.runTo far report = andThen (r.runTo near report) (·.runTo far {}) := by
  induction r, report using runTo.induct near with
  | case1 r report next =>
      rw [runTo_of_due_none next]
      exact r.runTo_add far report {}
  | case2 r report next ih =>
      rw [runTo_of_due_tick next, runTo_of_due_tick (leads _ _ next), ih leads]
  | case3 r report next fault machine stepped =>
      rw [runTo_of_step_eq_error next stepped,
        runTo_of_step_eq_error (leads _ _ next) stepped]
      rfl
  | case4 r report next step machine stepped ih =>
      rw [runTo_of_step_eq_ok next stepped, runTo_of_step_eq_ok (leads _ _ next) stepped,
        ih leads]

/-- A run that ends without a fault changes the machine and what is done, nothing else. -/
theorem runTo_eq_ok {target : Progress} {r after : Runner} {report total : RunReport}
    (ran : r.runTo target report = (.ok total, after)) :
    after = { r with machine := after.machine, done := r.done.beyond target } := by
  induction r, report using runTo.induct target with
  | case1 r report next =>
      rw [runTo_of_due_none next] at ran
      cases ran
      rw [Progress.beyond_of_due_none next]
  | case2 r report next ih =>
      rw [runTo_of_due_tick next] at ran
      simpa only [Progress.beyond_of_due_tick next] using ih ran
  | case3 r report next fault machine stepped =>
      rw [runTo_of_step_eq_error next stepped] at ran
      cases ran
  | case4 r report next step machine stepped ih =>
      rw [runTo_of_step_eq_ok next stepped] at ran
      simpa only [Progress.beyond_of_due_cycle next] using ih ran

/-- A change to a runner that has no part in its runs: it touches neither the machine nor the
schedule, and it is the same before a run as behind it. -/
structure Unseen (change : Runner → Runner) : Prop where
  machine : ∀ r, (change r).machine = r.machine
  rates : ∀ r, (change r).rates = r.rates
  done : ∀ r, (change r).done = r.done
  ran : ∀ (r : Runner) machine done,
    { change r with machine := machine, done := done } =
      change { r with machine := machine, done := done }
  failed : ∀ (r : Runner) machine,
    { change r with machine := machine, halted := true } =
      change { r with machine := machine, halted := true }

theorem runTo_unseen {change : Runner → Runner} (unseen : Unseen change) (target : Progress)
    (r : Runner) (report : RunReport) :
    (change r).runTo target report = Prod.map id change (r.runTo target report) := by
  have sameDue : ∀ r : Runner, Progress.due (change r).rates target (change r).done =
      Progress.due r.rates target r.done := fun r => by rw [unseen.rates, unseen.done]
  induction r, report using runTo.induct target with
  | case1 r report next =>
      rw [runTo_of_due_none next, runTo_of_due_none ((sameDue r).trans next)]
      rfl
  | case2 r report next ih =>
      rw [runTo_of_due_tick next, runTo_of_due_tick ((sameDue r).trans next), ← ih,
        ← unseen.ran r r.machine.tick, unseen.machine, unseen.done]
  | case3 r report next fault machine stepped =>
      rw [runTo_of_step_eq_error next stepped,
        runTo_of_step_eq_error ((sameDue r).trans next) (by rw [unseen.machine, stepped]),
        unseen.failed]
      rfl
  | case4 r report next step machine stepped ih =>
      rw [runTo_of_step_eq_ok next stepped,
        runTo_of_step_eq_ok ((sameDue r).trans next) (by rw [unseen.machine, stepped]), ← ih,
        ← unseen.ran r machine, unseen.done]

/-- The same runner at another logical time. -/
def retimed (r : Runner) (elapsed : Float) : Runner :=
  { r with elapsed := elapsed }

/-- The logical time has no part in a run. -/
theorem unseen_retimed (elapsed : Float) : Unseen (·.retimed elapsed) :=
  ⟨fun _ => rfl, fun _ => rfl, fun _ => rfl, fun _ _ _ => rfl, fun _ _ => rfl⟩

/-- A run to a target is a run of the loop, whose fault is passed on as a refusal. -/
theorem runUntil_eq_map (r : Runner) (target : Progress) :
    r.runUntil target = Prod.map (Except.mapError Refusal.fault) id (r.runTo target {}) := by
  unfold runUntil
  rcases r.runTo target {} with ⟨fault | report, after⟩ <;> rfl

theorem map_andThen {Failure Refused : Type} (refuse : Failure → Refused)
    (first : Except Failure RunReport × Runner)
    (second : Runner → Except Failure RunReport × Runner) :
    Prod.map (Except.mapError refuse) id (andThen first second) =
      andThen (Prod.map (Except.mapError refuse) id first)
        (fun r => Prod.map (Except.mapError refuse) id (second r)) := by
  rcases first with ⟨failure | report, middle⟩
  · rfl
  · simp only [andThen, Prod.map, Except.mapError, id]
    rcases second middle with ⟨failure | total, after⟩ <;> rfl

theorem runUntil_eq_andThen {near far : Progress} (r : Runner)
    (leads : Progress.Leads r.rates near far) :
    r.runUntil far = andThen (r.runUntil near) (·.runUntil far) := by
  simp only [runUntil_eq_map]
  rw [r.runTo_eq_andThen {} leads, map_andThen]

theorem runUntil_eq_ok {target : Progress} {r after : Runner} {report : RunReport}
    (ran : r.runUntil target = (.ok report, after)) :
    after = { r with machine := after.machine, done := r.done.beyond target } := by
  unfold runUntil at ran
  split at ran
  · next ended =>
      cases ran
      exact runTo_eq_ok ended
  · cases ran

theorem runUntil_unseen {change : Runner → Runner} (unseen : Unseen change) (r : Runner)
    (target : Progress) :
    (change r).runUntil target = Prod.map id change (r.runUntil target) := by
  rw [runUntil_eq_map, runUntil_eq_map, runTo_unseen unseen]
  rfl

theorem runCycles_of_halted {r : Runner} (halted : r.halted = true) (count : Int) :
    r.runCycles count = (.error .halted, r) := by
  rw [runCycles, if_pos halted]

theorem runCycles_of_running {r : Runner} (running : r.halted = false) (count : ℕ) :
    r.runCycles count =
      match r.runUntil (r.cycleTarget count) with
      | (.error refusal, after) => (.error refusal, after)
      | (.ok report, after) =>
          (.ok report,
            after.retimed
              (Decimal.ofRatio (r.cycleTarget count).cycles after.rates.cycles)) := by
  rw [runCycles, if_neg (by simp [running]), if_neg (by omega)]
  rfl

section Parts

variable {r middle : Runner} {report : RunReport} {a : ℕ}

/-- After a run of instructions, further ones end where they end together. -/
theorem cycleTarget_retimed (ran : r.runUntil (r.cycleTarget a) = (.ok report, middle))
    (b : ℕ) (elapsed : Float) :
    (middle.retimed elapsed).cycleTarget b = r.cycleTarget (a + b) := by
  rw [runUntil_eq_ok ran]
  simp [cycleTarget, retimed, Progress.beyond, Progress.atCycle, Nat.add_assoc]

theorem halted_retimed {target : Progress} (ran : r.runUntil target = (.ok report, middle))
    (elapsed : Float) : (middle.retimed elapsed).halted = r.halted := by
  rw [runUntil_eq_ok ran]
  rfl

end Parts

/-- A run of instructions in two parts does what one run of all of them does.  The logical times
differ only after a fault in the second part, as the first part has set it. -/
theorem runCycles_add (r : Runner) (a b : ℕ) :
    let parts := andThen (r.runCycles a) (·.runCycles b)
    let whole := r.runCycles (a + b : ℕ)
    parts.1 = whole.1 ∧
      parts.2 = whole.2.retimed parts.2.elapsed ∧
      ∀ report, whole.1 = .ok report → parts.2.elapsed = whole.2.elapsed := by
  dsimp only
  cases running : r.halted with
  | true =>
      rw [runCycles_of_halted running, runCycles_of_halted running]
      exact ⟨rfl, rfl, fun _ _ => rfl⟩
  | false =>
      have leads : Progress.Leads r.rates (r.cycleTarget a) (r.cycleTarget (a + b)) :=
        Progress.leads_atCycle r.rates (by omega)
      rw [runCycles_of_running running, runCycles_of_running running,
        r.runUntil_eq_andThen leads]
      rcases first : r.runUntil (r.cycleTarget a) with ⟨refusal | report, middle⟩
      · exact ⟨rfl, rfl, fun _ _ => rfl⟩
      · have still : ∀ elapsed, (middle.retimed elapsed).halted = false := fun elapsed =>
          (halted_retimed first elapsed).trans running
        simp only [andThen, runCycles_of_running (still _), cycleTarget_retimed first,
          runUntil_unseen (unseen_retimed _)]
        rcases middle.runUntil (r.cycleTarget (a + b)) with ⟨refusal | total, after⟩
        · refine ⟨rfl, rfl, ?_⟩
          rintro report ⟨⟩
        · exact ⟨rfl, rfl, fun _ _ => rfl⟩

/-- A run up to one time and then up to a later one leaves the runner, and reports, what one run
up to the later time does: a fault of the first run ends both, and one of the second run leaves
the same machine after the same instructions.  So it is with numbers of instructions, apart
from the logical time after a fault. -/
theorem run_in_slices (r : Runner) :
    (∀ t u : ℚ, t ≤ u →
      andThen (r.runUntil (.atTime r.rates t)) (·.runUntil (.atTime r.rates u)) =
        r.runUntil (.atTime r.rates u)) ∧
      ∀ a b : ℕ,
        let parts := andThen (r.runCycles a) (·.runCycles b)
        let whole := r.runCycles (a + b : ℕ)
        parts.1 = whole.1 ∧
          parts.2 = { whole.2 with elapsed := parts.2.elapsed } ∧
          ∀ report, whole.1 = .ok report → parts.2 = whole.2 := by
  constructor
  · intro t u ordered
    exact (r.runUntil_eq_andThen (Progress.leads_atTime ordered)).symm
  · intro a b
    obtain ⟨reports, runners, times⟩ := r.runCycles_add a b
    refine ⟨reports, runners, fun report succeeded => ?_⟩
    rw [runners, times report succeeded]
    rfl

/-- At three instructions and two ticks a second, the first slice ends between the first
instruction and the first tick. -/
theorem run_in_slices_before_tick :
    let r : Runner :=
      { machine := .new {}, rates := ⟨3, 2, by decide, by decide⟩, paused := false
        halted := false, rom := none, elapsed := 0.0, done := .start }
    (2 / 5 : ℚ) ≤ 7 / 3 ∧
      andThen (r.runUntil ⟨1, 0⟩) (·.runUntil ⟨7, 4⟩) = r.runUntil ⟨7, 4⟩ := by
  intro r
  have near : Progress.atTime r.rates (2 / 5) = ⟨1, 0⟩ := by
    norm_num [Progress.atTime, r]
  have far : Progress.atTime r.rates (7 / 3) = ⟨7, 4⟩ := by
    norm_num [Progress.atTime, r]
  have ordered : (2 / 5 : ℚ) ≤ 7 / 3 := by norm_num
  have slices := (run_in_slices r).1 (2 / 5) (7 / 3) ordered
  rw [near, far] at slices
  exact ⟨ordered, slices⟩

end Runner

end ChipEight
