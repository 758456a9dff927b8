import ChipEight.Order
import ChipEight.Proofs.Slices

/-!
# Starting anew

A reset leaves nothing of what a machine has gone through, and a reload leaves nothing of what a
runner has gone through but the program that was last loaded.  What carries over is settled when
the machine and the runner are built (`Runner.Since`): the configuration and the rates never
change, and the remembered program is one that memory has room for.  So the reload cannot fail, and
what it leaves can be compared with a new machine under a new runner (`Runner.reload_anew`).
-/

namespace ChipEight

namespace Machine

/-- The surroundings have no say in a machine with a seed. -/
theorem new_of_seed {config : Config} {seed : Int} (seeded : config.seed = some seed)
    (fresh other : Generator) : new config fresh = new config other := by
  simp only [new, State.initial, State.startGenerator, seeded]

/-- A program is loaded if there is room for it. -/
theorem load_cases (m : Machine) (program : List UInt8) :
    (program.length ≤ 3584 ∧
        ∃ after, m.load program = .ok after ∧ after.config = m.config) ∨
      3584 < program.length ∧ m.load program = .error (.programTooLong program.length) := by
  unfold load Memory.loadProgram
  by_cases fits : program.length ≤ 3584
  · simp only [if_pos fits]
    exact .inl ⟨fits, _, rfl, m.config_withState _⟩
  · exact .inr ⟨Nat.lt_of_not_le fits, by simp only [if_neg fits]⟩

end Machine

namespace Runner

/-! ## What orders leave alone -/

/-- Two runners have the same configuration, the same rates and the same remembered program. -/
structure SameSetup (r after : Runner) : Prop where
  config : after.machine.config = r.machine.config
  rates : after.rates = r.rates
  rom : after.rom = r.rom

namespace SameSetup

variable {first second third : Runner}

theorem refl (r : Runner) : r.SameSetup r :=
  ⟨rfl, rfl, rfl⟩

theorem trans (one : first.SameSetup second) (two : second.SameSetup third) :
    first.SameSetup third where
  config := two.config.trans one.config
  rates := two.rates.trans one.rates
  rom := two.rom.trans one.rom

end SameSetup

/-- The machine, the halt, the logical time and what is done are not part of the setup, as long as
the machine keeps its configuration. -/
theorem sameSetup_with {machine : Machine} (r : Runner) (halted : Bool) (elapsed : Float)
    (done : Progress) (config : machine.config = r.machine.config) :
    r.SameSetup
      { r with machine := machine, halted := halted, elapsed := elapsed, done := done } :=
  ⟨config, rfl, rfl⟩

theorem sameSetup_step (r : Runner) : r.SameSetup r.step.2 := by
  have config := r.machine.config_call .step
  simp only [Machine.call] at config
  unfold step
  split
  · next stepped =>
      rw [stepped] at config
      exact r.sameSetup_with _ _ _ config
  · next stepped =>
      rw [stepped] at config
      exact r.sameSetup_with _ _ _ config

theorem sameSetup_runTo (target : Progress) (r : Runner) (report : RunReport) :
    r.SameSetup (r.runTo target report).2 := by
  induction r, report using runTo.induct target with
  | case1 r report next =>
      rw [runTo_of_due_none next]
      exact .refl r
  | case2 r report next ih =>
      rw [runTo_of_due_tick next]
      exact .trans (r.sameSetup_with _ _ _ (r.machine.config_call .tick)) ih
  | case3 r report next fault machine stepped =>
      rw [runTo_of_step_eq_error next stepped]
      have after := r.sameSetup_step
      rw [step, stepped] at after
      exact after
  | case4 r report next step machine stepped ih =>
      rw [runTo_of_step_eq_ok next stepped]
      have after := r.sameSetup_step
      rw [Runner.step, stepped] at after
      exact .trans (r.sameSetup_with _ _ _ after.config) ih

theorem sameSetup_runUntil (r : Runner) (target : Progress) :
    r.SameSetup (r.runUntil target).2 := by
  rw [runUntil_eq_map]
  exact r.sameSetup_runTo target {}

theorem sameSetup_runCycles (r : Runner) (count : Int) : r.SameSetup (r.runCycles count).2 := by
  unfold runCycles
  split
  · exact .refl r
  split
  · exact .refl r
  have ran := r.sameSetup_runUntil (r.cycleTarget count.toNat)
  dsimp only
  split
  · next ended => rwa [ended] at ran
  · next ended =>
      rw [ended] at ran
      exact ran.trans (sameSetup_with _ _ _ _ rfl)

theorem sameSetup_advance (r : Runner) (seconds : Seconds) :
    r.SameSetup (r.advance seconds).2 := by
  unfold advance
  split
  · exact .refl r
  split
  · exact .refl r
  split
  · exact .refl r
  split
  · exact .refl r
  have later := r.sameSetup_with r.halted (r.elapsed + seconds.toFloat) r.done rfl
  dsimp only
  split
  · exact later
  · exact later.trans (sameSetup_runUntil _ _)

theorem sameSetup_stepOnce (r : Runner) : r.SameSetup r.stepOnce.2 := by
  have stepped := r.sameSetup_step
  unfold stepOnce
  split
  · exact .refl r
  split
  · next ended => rwa [ended] at stepped
  · next ended => rwa [ended] at stepped

theorem sameSetup_reset (r : Runner) : r.SameSetup r.reset :=
  r.sameSetup_with _ _ _ (r.machine.config_reset (.ofSeed 0))

theorem sameSetup_reload (r : Runner) : r.SameSetup r.reload.2 := by
  have fresh := r.sameSetup_reset
  have config (program : List UInt8) := r.reset.machine.config_call (.load program)
  simp only [Machine.call] at config
  unfold reload
  split
  · exact fresh
  · next program remembered =>
      dsimp only
      split
      · next machine loaded =>
          have same := config program
          rw [loaded] at same
          exact fresh.trans (r.reset.sameSetup_with _ _ _ same)
      · exact fresh

/-! ## The remembered program -/

theorem load_cases (r : Runner) (program : List UInt8) :
    (program.length ≤ 3584 ∧
        ∃ machine, r.machine.load program = .ok machine ∧
          machine.config = r.machine.config ∧
          r.load program = .ok { r with machine := machine, rom := some program }) ∨
      3584 < program.length ∧ r.load program = .error (.programTooLong program.length) := by
  rcases r.machine.load_cases program with ⟨fits, machine, loaded, config⟩ | ⟨tooLong, failed⟩
  · exact .inl ⟨fits, machine, loaded, config, by rw [load, loaded]⟩
  · exact .inr ⟨tooLong, by rw [load, failed]⟩

/-- The program that an order loads, unless it fails. -/
def loaded? (r : Runner) : Order → Option (List UInt8)
  | .load program =>
      match r.load program with
      | .ok _ => some program
      | .error _ => none
  | _ => none

theorem loaded?_load (r : Runner) (program : List UInt8) :
    r.loaded? (.load program) = if program.length ≤ 3584 then some program else none := by
  rcases r.load_cases program with ⟨fits, machine, -, -, loaded⟩ | ⟨tooLong, failed⟩
  · rw [if_pos fits, loaded?, loaded]
  · rw [if_neg (Nat.not_le.mpr tooLong), loaded?, failed]

/-- Only loading changes the setup. -/
theorem obey_cases (r : Runner) (order : Order) :
    (∃ program, order = .load program) ∨
      r.SameSetup (r.obey order) ∧ r.loaded? order = none := by
  cases order with
  | load program => exact .inl ⟨program, rfl⟩
  | pause | resume | togglePause => exact .inr ⟨⟨rfl, rfl, rfl⟩, rfl⟩
  | reset => exact .inr ⟨r.sameSetup_reset, rfl⟩
  | reload => exact .inr ⟨r.sameSetup_reload, rfl⟩
  | stepOnce => exact .inr ⟨r.sameSetup_stepOnce, rfl⟩
  | advance seconds => exact .inr ⟨r.sameSetup_advance seconds, rfl⟩
  | runCycles count => exact .inr ⟨r.sameSetup_runCycles count, rfl⟩
  | host call => exact .inr ⟨r.sameSetup_with _ _ _ (r.machine.config_call call), rfl⟩

/-- The program that is loaded last in the course of orders, not counting those that fail. -/
def lastLoaded (r : Runner) : List Order → Option (List UInt8)
  | [] => none
  | order :: rest => ((r.obey order).lastLoaded rest).or (r.loaded? order)

/-- What carries over to a runner from an earlier one: the configuration and the rates.  The
remembered program may be another one, but there is room for it. -/
structure Since (r first : Runner) : Prop where
  config : r.machine.config = first.machine.config
  rates : r.rates = first.rates
  fits : ∀ program, r.rom = some program → program.length ≤ 3584

theorem rom_obey (r : Runner) (order : Order) :
    (r.obey order).rom = (r.loaded? order).or r.rom := by
  rcases r.obey_cases order with ⟨program, rfl⟩ | ⟨same, notLoaded⟩
  · rcases r.load_cases program with ⟨-, machine, -, -, loaded⟩ | ⟨-, failed⟩
    · simp only [obey, loaded?, loaded, Option.some_or]
    · simp only [obey, loaded?, failed, Option.none_or]
  · rw [same.rom, notLoaded, Option.none_or]

theorem rom_obeyAll (r : Runner) (orders : List Order) :
    (r.obeyAll orders).rom = (r.lastLoaded orders).or r.rom := by
  induction orders generalizing r with
  | nil => rfl
  | cons order rest ih => rw [obeyAll, ih, rom_obey, lastLoaded, Option.or_assoc]

theorem since_obey {r first : Runner} (since : r.Since first) (order : Order) :
    (r.obey order).Since first := by
  rcases r.obey_cases order with ⟨program, rfl⟩ | ⟨same, -⟩
  · rcases r.load_cases program with ⟨fits, machine, -, config, loaded⟩ | ⟨-, failed⟩
    · simp only [obey, loaded]
      refine ⟨config.trans since.config, since.rates, ?_⟩
      rintro _ ⟨⟩
      exact fits
    · simp only [obey, failed]
      exact since
  · exact ⟨same.config.trans since.config, same.rates.trans since.rates,
      fun program remembered => since.fits program (same.rom.symm.trans remembered)⟩

theorem since_obeyAll {r first : Runner} (since : r.Since first) (orders : List Order) :
    (r.obeyAll orders).Since first := by
  induction orders generalizing r with
  | nil => exact since
  | cons order rest ih => exact ih (since_obey since order)

/-! ## The pause -/

/-- The same runner, paused or not. -/
def withPaused (r : Runner) (paused : Bool) : Runner :=
  { r with paused := paused }

/-- The pause has no part in a run. -/
theorem unseen_withPaused (paused : Bool) : Unseen (·.withPaused paused) :=
  ⟨fun _ => rfl, fun _ => rfl, fun _ => rfl, fun _ _ _ => rfl, fun _ _ => rfl⟩

theorem runCycles_withPaused (r : Runner) (paused : Bool) (count : Int) :
    (r.withPaused paused).runCycles count =
      Prod.map id (·.withPaused paused) (r.runCycles count) := by
  unfold runCycles
  by_cases halted : r.halted
  · rw [if_pos halted, if_pos (show (r.withPaused paused).halted from halted)]
    rfl
  rw [if_neg halted, if_neg (show ¬(r.withPaused paused).halted from halted)]
  by_cases negative : count < 0
  · rw [if_pos negative, if_pos negative]
    rfl
  rw [if_neg negative, if_neg negative]
  have sameTarget :
      (r.withPaused paused).cycleTarget count.toNat = r.cycleTarget count.toNat := rfl
  simp only [sameTarget, runUntil_unseen (unseen_withPaused paused)]
  rcases r.runUntil (r.cycleTarget count.toNat) with ⟨refusal | report, after⟩ <;> rfl

/-- What some runs of instructions report or fail with, and the runner after them. -/
def runEach (r : Runner) : List Int → List (Except Refusal RunReport) × Runner
  | [] => ([], r)
  | count :: rest =>
      let (outcome, after) := r.runCycles count
      let (outcomes, last) := after.runEach rest
      (outcome :: outcomes, last)

theorem runEach_withPaused (r : Runner) (paused : Bool) (counts : List Int) :
    (r.withPaused paused).runEach counts =
      Prod.map id (·.withPaused paused) (r.runEach counts) := by
  induction counts generalizing r with
  | nil => rfl
  | cons count rest ih =>
      simp only [runEach, runCycles_withPaused, Prod.map]
      rw [ih]
      rfl

/-! ## Reloading -/

/-- A runner at the start of its schedule that remembers no program. -/
def atStart (machine : Machine) (rates : Rates) : Runner where
  machine := machine
  rates := rates
  paused := false
  halted := false
  rom := none
  elapsed := 0.0
  done := .start

theorem new_eq_ok_iff {m : Machine} {cyclesPerSecond timerHz : Int} {r : Runner} :
    new m cyclesPerSecond timerHz = .ok r ↔
      ∃ rates, Rates.ofInts cyclesPerSecond timerHz = .ok rates ∧ atStart m rates = r := by
  unfold new
  cases Rates.ofInts cyclesPerSecond timerHz with
  | error refusal => simp
  | ok rates => simp [atStart]

/-- A runner becomes another one by loading a program, if there is one. -/
def LoadsLast (r : Runner) : Option (List UInt8) → Runner → Prop
  | none, after => after = r
  | some program, after => r.load program = .ok after

theorem exists_loadsLast (r : Runner) {last : Option (List UInt8)}
    (fits : ∀ program, last = some program → program.length ≤ 3584) :
    ∃ after, r.LoadsLast last after := by
  cases last with
  | none => exact ⟨r, rfl⟩
  | some program =>
      rcases r.load_cases program with ⟨-, machine, -, -, loaded⟩ | ⟨tooLong, -⟩
      · exact ⟨_, loaded⟩
      · exact absurd (fits program rfl) (Nat.not_le.mpr tooLong)

/-- A reload does what a runner at the start does to load the remembered program. -/
theorem reload_eq {r loaded : Runner} {fresh : Machine} (wasReset : r.machine.reset = fresh)
    (loads : (atStart fresh r.rates).LoadsLast r.rom loaded) :
    r.reload = (.ok (), loaded.withPaused r.paused) := by
  have restart : r.reset = { atStart fresh r.rates with paused := r.paused, rom := r.rom } := by
    rw [reset, wasReset]
    rfl
  cases remembered : r.rom with
  | none =>
      rw [remembered] at loads
      cases loads
      simp only [reload, restart, remembered]
      rfl
  | some program =>
      have placed : (atStart fresh r.rates).load program = .ok loaded := by
        rwa [remembered] at loads
      unfold load at placed
      split at placed
      · next machine ended =>
          cases placed
          rw [atStart] at ended
          simp only [reload, restart, remembered, ended, atStart]
          rfl
      · cases placed

/-- A machine with a seed loses by a reset all that sets it apart from a new one. -/
theorem reset_of_since {r first : Runner} {seed : Int} (since : r.Since first)
    (seeded : first.machine.config.seed = some seed) (fresh other : Generator) :
    r.machine.reset fresh = Machine.new first.machine.config other := by
  rw [Machine.reset_eq_new, since.config]
  exact Machine.new_of_seed seeded fresh other

theorem obey_load_of_error {r : Runner} {program : List UInt8} {fault : Fault}
    (failed : r.load program = .error fault) :
    r.obey (.load program) = r ∧
      r.machine.call (.load program) = (.error (.fault fault), r.machine) := by
  constructor
  · rw [obey, failed]
  · unfold load at failed
    split at failed
    · cases failed
    · next refused =>
        cases failed
        rw [Machine.call, refused]
        rfl

/-- A machine with a seed and a runner on it, and any orders to the runner and calls of the machine.
A reset machine is a new one, whatever it has gone through.  A reload does not fail, and leaves
a runner like a new one on a new machine on which nothing but the last program that was loaded
without a fault has been loaded; only the pause stays as it was.  What is run afterwards reports,
fails and ends alike.  A program that cannot be loaded leaves the runner, and so a later reload, as
they were. -/
theorem reload_anew {m : Machine} {seed cyclesPerSecond timerHz : Int} {first : Runner}
    (seeded : m.config.seed = some seed)
    (built : new m cyclesPerSecond timerHz = .ok first) (orders : List Order) :
    let r := first.obeyAll orders
    (∀ fresh other, (r.machine.reset fresh).capture = (Machine.new m.config other).capture ∧
        (r.machine.reset fresh).state.cycles = 0) ∧
      (∀ other, ∃ anew loaded,
        new (Machine.new m.config other) cyclesPerSecond timerHz = .ok anew ∧
          anew.LoadsLast (first.lastLoaded orders) loaded ∧
          r.reload = (.ok (), { loaded with paused := r.paused }) ∧
          ∀ counts, r.reload.2.runEach counts =
            ((loaded.runEach counts).1, { (loaded.runEach counts).2 with paused := r.paused })) ∧
      ∀ program fault, r.load program = .error fault →
        r.obey (.load program) = r ∧
          r.machine.call (.load program) = (.error (.fault fault), r.machine) := by
  obtain ⟨rates, ratesEq, rfl⟩ := new_eq_ok_iff.mp built
  intro r
  have atFirst : (atStart m rates).Since (atStart m rates) :=
    ⟨rfl, rfl, fun program remembered => by cases remembered⟩
  have since : r.Since (atStart m rates) := since_obeyAll atFirst orders
  have remembered : r.rom = (atStart m rates).lastLoaded orders :=
    ((atStart m rates).rom_obeyAll orders).trans (Option.or_none)
  have anew := reset_of_since since seeded
  refine ⟨fun fresh other => ?_, fun other => ?_, fun program fault => obey_load_of_error⟩
  · rw [anew fresh other]
    exact ⟨rfl, rfl⟩
  · obtain ⟨loaded, loads⟩ :=
      exists_loadsLast (atStart (Machine.new m.config other) r.rates) since.fits
    have reloaded := reload_eq (anew _ other) loads
    rw [since.rates, remembered] at loads
    refine ⟨_, loaded, new_eq_ok_iff.mpr ⟨rates, ratesEq, rfl⟩, loads, reloaded, fun counts => ?_⟩
    rw [reloaded, runEach_withPaused]
    rfl

/-- One byte more than there is room for. -/
def tooLong : List UInt8 :=
  List.replicate 3585 0

/-- A program, another one behind the back of the runner that it halts at, and a third one that is
too long. -/
def mishaps : List Order :=
  [.load [0x00, 0xE0], .host (.load [0xFF, 0xFF]), .stepOnce, .load tooLong]

/-- After all of this the first program is loaded again, and the runner can go on. -/
theorem reload_anew_mishaps :
    ∃ first anew loaded : Runner,
      first.machine.config.seed = some 7 ∧ new (.new { seed := some 7 }) 700 60 = .ok first ∧
        new (.new { seed := some 7 }) 700 60 = .ok anew ∧ anew.load [0x00, 0xE0] = .ok loaded ∧
        (first.obeyAll mishaps).reload =
          (.ok (), { loaded with paused := (first.obeyAll mishaps).paused }) := by
  have seeded : (Machine.new { seed := some 7 }).config.seed = some 7 := rfl
  have built : new (.new { seed := some 7 }) 700 60 =
      .ok (atStart (.new { seed := some 7 }) ⟨700, 60, by decide, by decide⟩) :=
    new_eq_ok_iff.mpr ⟨_, rfl, rfl⟩
  have last (r : Runner) : r.lastLoaded mishaps = some [0x00, 0xE0] := by
    have length : tooLong.length = 3585 := List.length_replicate
    simp only [mishaps, lastLoaded, loaded?_load, length]
    rfl
  obtain ⟨-, reloads, -⟩ := reload_anew seeded built mishaps
  simp only [last] at reloads
  obtain ⟨anew, loaded, isNew, loads, reloaded, -⟩ := reloads (.ofSeed 0)
  exact ⟨_, anew, loaded, seeded, built, isNew, loads, reloaded⟩

end Runner

end ChipEight
