import ChipEight.Proofs.Reload
import ChipEight.Proofs.Step

/-!
# The account of a runner

What a runner makes its machine do can be entered on a list, deed by deed, newest first:
programs and resets, ticks, and steps with what came of them.  The machine is at any time what
these deeds have made of it (`Machine.Becomes`), and the flags and counts of the runner can be
read off the part of the list since the last reset (`Runner.Accounts`): it is halted if a step
failed, and its progress is the number of ticks and of those successful steps that belonged to
the schedule.  Each deed keeps this, so a run keeps it, also one that is cut off by a fault, and
so does every order.  The main statement is `Runner.flags_and_counts`.
-/

namespace ChipEight

/-! ## Deeds -/

/-- Something that a runner makes its machine do, or that a host does behind its back. -/
inductive Deed where
  | load (program : List UInt8)
  | reset
  | tick
  /-- A step, in the schedule or outside of it, and what came of it. -/
  | step (scheduled : Bool) (outcome : Except Fault StepReport)
  | host (call : Call)

namespace Deed

/-- Whether the machine is reset. -/
def isReset : Deed → Bool
  | reset => true
  | _ => false

/-- Whether the timers tick. -/
def isTick : Deed → Bool
  | tick => true
  | _ => false

/-- Whether a step of the schedule comes to its end. -/
def isCycle : Deed → Bool
  | step true (.ok _) => true
  | _ => false

/-- Whether a step ends in a fault. -/
def fails : Deed → Bool
  | step _ (.error _) => true
  | _ => false

/-- The newest deeds, up to the last reset. -/
def sinceReset (past : List Deed) : List Deed :=
  past.takeWhile (!·.isReset)

theorem sinceReset_cons {deed : Deed} (goesOn : deed.isReset = false) (past : List Deed) :
    sinceReset (deed :: past) = deed :: sinceReset past := by
  rw [sinceReset, List.takeWhile_cons, goesOn]
  rfl

theorem fails_iff {deed : Deed} :
    deed.fails = true ↔ ∃ scheduled fault, deed = step scheduled (.error fault) := by
  rcases deed with _ | _ | _ | ⟨scheduled, _ | _⟩ | _ <;> simp [fails]

theorem any_fails_iff {past : List Deed} :
    past.any fails = true ↔ ∃ scheduled fault, step scheduled (.error fault) ∈ past := by
  rw [List.any_eq_true]
  constructor
  · rintro ⟨deed, member, failed⟩
    obtain ⟨scheduled, fault, rfl⟩ := fails_iff.mp failed
    exact ⟨scheduled, fault, member⟩
  · rintro ⟨scheduled, fault, member⟩
    exact ⟨_, member, rfl⟩

end Deed

/-- What deeds, newest first, have made of a machine. -/
inductive Machine.Becomes (first : Machine) : List Deed → Machine → Prop
  | start : Becomes first [] first
  | load {past : List Deed} {m after : Machine} {program : List UInt8}
      (before : Becomes first past m) (loaded : m.load program = .ok after) :
      Becomes first (.load program :: past) after
  | reset {past : List Deed} {m : Machine} (before : Becomes first past m) :
      Becomes first (.reset :: past) m.reset
  | tick {past : List Deed} {m : Machine} (before : Becomes first past m) :
      Becomes first (.tick :: past) m.tick
  | step {past : List Deed} {m after : Machine} {outcome : Except Fault StepReport}
      (scheduled : Bool) (before : Becomes first past m) (stepped : m.step = (outcome, after)) :
      Becomes first (.step scheduled outcome :: past) after
  | host {past : List Deed} {m : Machine} (call : Call) (before : Becomes first past m) :
      Becomes first (.host call :: past) (m.call call).2

namespace Runner

/-! ## Entering deeds -/

/-- Enters what a run to a target makes the machine do. -/
def enterRun (target : Progress) (r : Runner) (past : List Deed) : List Deed :=
  match _next : Progress.due r.rates target r.done with
  | none => past
  | some .tick =>
      enterRun target { r with machine := r.machine.tick, done := r.done.tick } (.tick :: past)
  | some .cycle =>
      match r.machine.step with
      | (.error fault, _) => .step true (.error fault) :: past
      | (.ok report, machine) =>
          enterRun target { r with machine := machine, done := r.done.cycle }
            (.step true (.ok report) :: past)
termination_by Progress.remaining target r.done
decreasing_by
  · exact Progress.remaining_tick_lt (by assumption)
  · exact Progress.remaining_cycle_lt (by assumption)

/-- Enters what an order makes the machine do. -/
def enter (r : Runner) (past : List Deed) : Order → List Deed
  | .load program =>
      match r.machine.load program with
      | .ok _ => .load program :: past
      | .error _ => past
  | .pause | .resume | .togglePause => past
  | .reset => .reset :: past
  | .reload =>
      match r.rom with
      | none => .reset :: past
      | some program =>
          match r.machine.reset.load program with
          | .ok _ => .load program :: .reset :: past
          | .error _ => .reset :: past
  | .stepOnce => if r.halted then past else .step false r.machine.step.1 :: past
  | .advance seconds =>
      if r.halted || seconds.isNegative || r.paused || seconds.overflows then past
      else
        match target (r.elapsed + seconds.toFloat) r.rates with
        | .error _ => past
        | .ok target =>
            enterRun target { r with elapsed := r.elapsed + seconds.toFloat } past
  | .runCycles count =>
      if r.halted || count < 0 then past else r.enterRun (r.cycleTarget count.toNat) past
  | .host call => .host call :: past

/-- Enters what orders make the machine do, one after the other. -/
def enterAll (r : Runner) (past : List Deed) : List Order → List Deed
  | [] => past
  | order :: rest => (r.obey order).enterAll (r.enter past order) rest

/-! ## What the account says -/

/-- A runner agrees with the account of its deeds: its machine is what they have made of the first
one, and its flag and its counts are those of the deeds since the last reset. -/
structure Accounts (first : Machine) (past : List Deed) (r : Runner) : Prop where
  machine : first.Becomes past r.machine
  halted : r.halted = (Deed.sinceReset past).any Deed.fails
  cycles : r.done.cycles = (Deed.sinceReset past).countP Deed.isCycle
  ticks : r.done.ticks = (Deed.sinceReset past).countP Deed.isTick

namespace Accounts

variable {first after : Machine} {past : List Deed} {r : Runner}

theorem tick (accounts : Accounts first past r) :
    Accounts first (.tick :: past) { r with machine := r.machine.tick, done := r.done.tick } where
  machine := .tick accounts.machine
  halted := accounts.halted
  cycles := accounts.cycles
  ticks := by
    rw [Deed.sinceReset_cons rfl, List.countP_cons_of_pos rfl, ← accounts.ticks]
    rfl

theorem cycle {report : StepReport} (accounts : Accounts first past r)
    (stepped : r.machine.step = (.ok report, after)) :
    Accounts first (.step true (.ok report) :: past)
      { r with machine := after, done := r.done.cycle } where
  machine := .step true accounts.machine stepped
  halted := accounts.halted
  cycles := by
    rw [Deed.sinceReset_cons rfl, List.countP_cons_of_pos rfl, ← accounts.cycles]
    rfl
  ticks := accounts.ticks

theorem fail {fault : Fault} (scheduled : Bool) (accounts : Accounts first past r)
    (stepped : r.machine.step = (.error fault, after)) :
    Accounts first (.step scheduled (.error fault) :: past)
      { r with machine := after, halted := true } where
  machine := .step scheduled accounts.machine stepped
  halted := rfl
  cycles := by cases scheduled <;> exact accounts.cycles
  ticks := accounts.ticks

theorem once {report : StepReport} (accounts : Accounts first past r)
    (stepped : r.machine.step = (.ok report, after)) :
    Accounts first (.step false (.ok report) :: past) { r with machine := after } where
  machine := .step false accounts.machine stepped
  halted := accounts.halted
  cycles := accounts.cycles
  ticks := accounts.ticks

theorem reset (accounts : Accounts first past r) : Accounts first (.reset :: past) r.reset where
  machine := .reset accounts.machine
  halted := rfl
  cycles := rfl
  ticks := rfl

theorem place {program : List UInt8} (accounts : Accounts first past r)
    (rom : Option (List UInt8)) (loaded : r.machine.load program = .ok after) :
    Accounts first (.load program :: past) { r with machine := after, rom := rom } where
  machine := .load accounts.machine loaded
  halted := accounts.halted
  cycles := accounts.cycles
  ticks := accounts.ticks

theorem host (accounts : Accounts first past r) (call : Call) :
    Accounts first (.host call :: past) { r with machine := (r.machine.call call).2 } where
  machine := .host call accounts.machine
  halted := accounts.halted
  cycles := accounts.cycles
  ticks := accounts.ticks

/-- The account is about neither the pause nor the logical time. -/
theorem retimed (accounts : Accounts first past r) (paused : Bool) (elapsed : Float) :
    Accounts first past { r with paused := paused, elapsed := elapsed } :=
  ⟨accounts.machine, accounts.halted, accounts.cycles, accounts.ticks⟩

end Accounts

section Runs

variable {target : Progress} {r : Runner} {past : List Deed}

theorem enterRun_of_due_none (next : Progress.due r.rates target r.done = none) :
    r.enterRun target past = past := by
  rw [enterRun.eq_def]
  split <;> simp_all

theorem enterRun_of_due_tick (next : Progress.due r.rates target r.done = some .tick) :
    r.enterRun target past =
      enterRun target { r with machine := r.machine.tick, done := r.done.tick }
        (.tick :: past) := by
  rw [enterRun.eq_def]
  split <;> simp_all

theorem enterRun_of_step_eq_ok {report : StepReport} {machine : Machine}
    (next : Progress.due r.rates target r.done = some .cycle)
    (stepped : r.machine.step = (.ok report, machine)) :
    r.enterRun target past =
      enterRun target { r with machine := machine, done := r.done.cycle }
        (.step true (.ok report) :: past) := by
  rw [enterRun.eq_def]
  split <;> simp_all

theorem enterRun_of_step_eq_error {fault : Fault} {machine : Machine}
    (next : Progress.due r.rates target r.done = some .cycle)
    (stepped : r.machine.step = (.error fault, machine)) :
    r.enterRun target past = .step true (.error fault) :: past := by
  rw [enterRun.eq_def]
  split <;> simp_all

end Runs

namespace Accounts

variable {first : Machine} {past : List Deed} {r : Runner}

/-- A run keeps the account, whether it gets to its target or not. -/
theorem runTo (target : Progress) (report : RunReport) (accounts : Accounts first past r) :
    Accounts first (r.enterRun target past) (r.runTo target report).2 := by
  induction r, report using Runner.runTo.induct target generalizing past with
  | case1 r report next =>
      rw [runTo_of_due_none next, enterRun_of_due_none next]
      exact accounts
  | case2 r report next ih =>
      rw [runTo_of_due_tick next, enterRun_of_due_tick next]
      exact ih accounts.tick
  | case3 r report next fault machine stepped =>
      rw [runTo_of_step_eq_error next stepped, enterRun_of_step_eq_error next stepped]
      exact accounts.fail true stepped
  | case4 r report next step machine stepped ih =>
      rw [runTo_of_step_eq_ok next stepped, enterRun_of_step_eq_ok next stepped]
      exact ih (accounts.cycle stepped)

theorem runUntil (target : Progress) (accounts : Accounts first past r) :
    Accounts first (r.enterRun target past) (r.runUntil target).2 := by
  rw [runUntil_eq_map]
  exact accounts.runTo target {}

theorem stepOnce (accounts : Accounts first past r) :
    Accounts first (r.enter past .stepOnce) r.stepOnce.2 := by
  rw [enter, Runner.stepOnce]
  by_cases halted : r.halted
  · rw [if_pos halted, if_pos halted]
    exact accounts
  · rw [if_neg halted, if_neg halted]
    unfold Runner.step
    rcases stepped : r.machine.step with ⟨fault | report, after⟩
    · exact accounts.fail false stepped
    · exact accounts.once stepped

theorem advance (accounts : Accounts first past r) (seconds : Seconds) :
    Accounts first (r.enter past (.advance seconds)) (r.advance seconds).2 := by
  have later := accounts.retimed r.paused (r.elapsed + seconds.toFloat)
  rw [enter, Runner.advance]
  by_cases idle : (r.halted || seconds.isNegative || r.paused || seconds.overflows) = true
  · rw [if_pos idle]
    split
    · exact accounts
    split
    · exact accounts
    split
    · exact accounts
    split
    · exact accounts
    · simp_all
  · rw [if_neg idle]
    simp only [Bool.or_eq_true, not_or] at idle
    obtain ⟨⟨⟨running, forward⟩, going⟩, bounded⟩ := idle
    rw [if_neg running, if_neg forward, if_neg going, if_neg bounded]
    dsimp only
    cases target (r.elapsed + seconds.toFloat) r.rates with
    | error refusal => exact later
    | ok target => exact later.runUntil target

theorem runCycles (accounts : Accounts first past r) (count : ℤ) :
    Accounts first (r.enter past (.runCycles count)) (r.runCycles count).2 := by
  have ran := accounts.runUntil (r.cycleTarget count.toNat)
  rw [enter, Runner.runCycles]
  by_cases halted : r.halted
  · simp only [halted, Bool.true_or, if_true]
    exact accounts
  by_cases negative : count < 0
  · simp only [halted, negative, decide_true, Bool.or_true, if_true, if_false, Bool.false_eq_true]
    exact accounts
  · simp only [halted, negative, decide_false, Bool.or_false, if_false, Bool.false_eq_true]
    split
    · next ended => rwa [ended] at ran
    · next after ended =>
        rw [ended] at ran
        exact ran.retimed after.paused _

theorem reload (accounts : Accounts first past r) :
    Accounts first (r.enter past .reload) r.reload.2 := by
  have fresh := accounts.reset
  rw [enter, Runner.reload]
  cases r.rom with
  | none => exact fresh
  | some program =>
      have sameMachine : r.reset.machine = r.machine.reset := rfl
      rw [← sameMachine]
      dsimp only
      cases loaded : r.reset.machine.load program with
      | error fault => exact fresh
      | ok machine => exact fresh.place _ loaded

theorem load (accounts : Accounts first past r) (program : List UInt8) :
    Accounts first (r.enter past (.load program)) (r.obey (.load program)) := by
  rw [enter, Runner.obey, Runner.load]
  cases loaded : r.machine.load program with
  | error fault => exact accounts
  | ok machine => exact accounts.place (some program) loaded

/-- Every order keeps the account. -/
theorem obey (accounts : Accounts first past r) (order : Order) :
    Accounts first (r.enter past order) (r.obey order) := by
  cases order with
  | load program => exact accounts.load program
  | pause | resume | togglePause => exact accounts.retimed _ r.elapsed
  | reset => exact accounts.reset
  | reload => exact accounts.reload
  | stepOnce => exact accounts.stepOnce
  | advance seconds => exact accounts.advance seconds
  | runCycles count => exact accounts.runCycles count
  | host call => exact accounts.host call

theorem obeyAll (accounts : Accounts first past r) (orders : List Order) :
    Accounts first (r.enterAll past orders) (r.obeyAll orders) := by
  induction orders generalizing r past with
  | nil => exact accounts
  | cons order rest ih => exact ih (accounts.obey order)

end Accounts

/-! ## The pause -/

theorem paused_runUntil (r : Runner) (target : Progress) :
    (r.runUntil target).2.paused = r.paused := by
  have unchanged : r.withPaused r.paused = r := rfl
  have same := runUntil_unseen (unseen_withPaused r.paused) r target
  rw [unchanged] at same
  rw [same]
  rfl

theorem paused_advance (r : Runner) (seconds : Seconds) :
    (r.advance seconds).2.paused = r.paused := by
  unfold advance
  split
  · rfl
  split
  · rfl
  split
  · rfl
  split
  · rfl
  · dsimp only
    split
    · rfl
    · exact paused_runUntil _ _

theorem paused_runCycles (r : Runner) (count : ℤ) : (r.runCycles count).2.paused = r.paused := by
  have ran := r.paused_runUntil (r.cycleTarget count.toNat)
  unfold runCycles
  split
  · rfl
  split
  · rfl
  · dsimp only
    split
    · next ended => rwa [ended] at ran
    · next ended => rwa [ended] at ran

theorem paused_stepOnce (r : Runner) : r.stepOnce.2.paused = r.paused := by
  unfold stepOnce
  split
  · rfl
  · unfold step
    rcases r.machine.step with ⟨fault | report, after⟩ <;> rfl

theorem paused_reset (r : Runner) : r.reset.paused = r.paused := by
  rw [reset]

theorem paused_reload (r : Runner) : r.reload.2.paused = r.paused := by
  have fresh := r.paused_reset
  rw [reload]
  cases r.rom with
  | none => exact fresh
  | some program =>
      generalize r.reset = after at fresh
      cases loaded : after.machine.load program <;> simpa only [loaded] using fresh

/-- Only three orders change the pause. -/
theorem order_of_paused {r : Runner} {order : Order} (changed : (r.obey order).paused ≠ r.paused) :
    order = .pause ∨ order = .resume ∨ order = .togglePause := by
  cases order with
  | pause => exact .inl rfl
  | resume => exact .inr (.inl rfl)
  | togglePause => exact .inr (.inr rfl)
  | load program =>
      rcases r.load_cases program with ⟨-, machine, -, -, loaded⟩ | ⟨-, failed⟩
      · simp [obey, loaded] at changed
      · simp [obey, failed] at changed
  | reset => exact absurd r.paused_reset changed
  | host call => exact (changed rfl).elim
  | reload => exact absurd r.paused_reload changed
  | stepOnce => exact absurd r.paused_stepOnce changed
  | advance seconds => exact absurd (r.paused_advance seconds) changed
  | runCycles count => exact absurd (r.paused_runCycles count) changed

/-! ## Flags and counts -/

theorem advance_of_paused {r : Runner} (running : r.halted = false) (paused : r.paused = true)
    {seconds : Seconds} (forward : seconds.isNegative = false) :
    r.advance seconds = (.ok {}, r) := by
  simp [advance, running, paused, forward]

/-- At any time in the life of a runner, in the course of which a host may also call the machine
behind its back: the machine is what the deeds on the account have made of it.  The runner is
halted exactly if a step since the last reset has failed, and its counts are those of the
successful steps of its schedule and of the ticks since then.  A halted runner refuses to step
and to run and stays as it is, a paused one lets time pass without any effect, and only the
orders about the pause change the pause. -/
theorem flags_and_counts {m : Machine} {cyclesPerSecond timerHz : ℤ} {first : Runner}
    (built : new m cyclesPerSecond timerHz = .ok first) (orders : List Order) :
    let r := first.obeyAll orders
    let past := first.enterAll [] orders
    m.Becomes past r.machine ∧
      (r.halted = true ↔
        ∃ scheduled fault, Deed.step scheduled (.error fault) ∈ Deed.sinceReset past) ∧
      r.done.cycles = (Deed.sinceReset past).countP Deed.isCycle ∧
      r.done.ticks = (Deed.sinceReset past).countP Deed.isTick ∧
      (r.halted = true → ∃ refusal : Refusal, refusal.label = "RuntimeError" ∧
        r.stepOnce = (.error refusal, r) ∧
        (∀ seconds, r.advance seconds = (.error refusal, r)) ∧
        ∀ count, r.runCycles count = (.error refusal, r)) ∧
      (r.halted = false → r.paused = true → ∀ seconds : Seconds, seconds.isNegative = false →
        r.advance seconds = (.ok {}, r)) ∧
      ∀ order, (r.obey order).paused ≠ r.paused →
        order = .pause ∨ order = .resume ∨ order = .togglePause := by
  intro r past
  obtain ⟨rates, -, rfl⟩ := new_eq_ok_iff.mp built
  have atStart : Accounts m [] (atStart m rates) := ⟨.start, rfl, rfl, rfl⟩
  have accounts := atStart.obeyAll orders
  refine ⟨accounts.machine, ?_, accounts.cycles, accounts.ticks, ?_, ?_, ?_⟩
  · rw [accounts.halted]
    exact Deed.any_fails_iff
  · intro halted
    refine ⟨.halted, rfl, ?_, ?_, r.runCycles_of_halted halted⟩
    · rw [stepOnce, if_pos halted]
    · intro seconds
      rw [advance, if_pos halted]
  · intro running paused seconds forward
    exact advance_of_paused running paused forward
  · intro order changed
    exact order_of_paused changed

/-- A runner whose machine finds no instruction halts at the first step and takes no other. -/
theorem flags_and_counts_unknown :
    ∃ (m : Machine) (first : Runner), new m 700 60 = .ok first ∧
      (first.obeyAll [.stepOnce]).halted = true ∧
      ∃ refusal, refusal.label = "RuntimeError" ∧
        (first.obeyAll [.stepOnce]).stepOnce = (.error refusal, first.obeyAll [.stepOnce]) := by
  let m := (Machine.new {}).withState { State.initial (some 0) with memory := .ofWord 0 0 [] }
  have high : m.state.memory.bytes[512] = 0 := Memory.high_ofWord _ _ _
  have low : m.state.memory.bytes[513] = 0 := Memory.low_ofWord _ _ _
  have here : m.state.registers.pc = (512 : Nat) := rfl
  have word : m.state.word = 0 := by
    rw [State.word_eq here (by decide), high, low]
    rfl
  have notReady : m.state.ready m.config.dialect = .error (.unknownInstruction 0 (some 512)) := by
    rw [State.ready, word]
    rfl
  have failed :
      m.step = (.error (.unknownInstruction 0 (some 512)), m.withState m.state.failed) := by
    rw [Machine.step, State.step_eq, notReady]
  have built : new m 700 60 = .ok (.atStart m ⟨700, 60, by decide, by decide⟩) :=
    new_eq_ok_iff.mpr ⟨_, rfl, rfl⟩
  obtain ⟨-, haltedIff, -, -, refuses, -⟩ := flags_and_counts built [.stepOnce]
  have entered : enterAll (.atStart m ⟨700, 60, by decide, by decide⟩) [] [.stepOnce] =
      [.step false m.step.1] := rfl
  rw [entered, failed] at haltedIff
  have halted := haltedIff.mpr ⟨false, _, List.mem_cons_self⟩
  obtain ⟨refusal, kind, refused, -⟩ := refuses halted
  exact ⟨m, _, built, halted, refusal, kind, refused⟩

end Runner

end ChipEight
