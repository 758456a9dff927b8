import Mathlib.Data.List.Nodup
import ChipEight.Proofs.Activity
import ChipEight.Proofs.Run

/-!
# Where a run ends

A run of the debugger looks at breakpoints at two places: before a step, unless it is the
first one, and after a step.  Here the end of a run is described by its steps alone.  `Ends`
lists what a step can be that a run ends with, `verdict` is what the run comes to then, and
`Debugger.run_ends` says that a run takes its steps up to the first of these, if there is one
within the limit.
-/

namespace ChipEight

/-! ## Registers by name -/

/-- A register that a breakpoint can name. -/
inductive RegisterName where
  | v (k : Nibble)
  | index
  | programCounter
  | stackPointer
  | delay
  | sound

namespace RegisterName

/-- The name of a register. -/
def name : RegisterName → String
  | v k => "V" ++ Hex.upper 1 k.val
  | index => "I"
  | programCounter => "PC"
  | stackPointer => "SP"
  | delay => "DT"
  | sound => "ST"

/-- What a register holds. -/
def value (s : State) : RegisterName → Int
  | v k => (s.v k).toNat
  | index => s.registers.i.toNat
  | programCounter => s.registers.pc
  | stackPointer => s.registers.stack.depth
  | delay => s.timers.delay.toNat
  | sound => s.timers.sound.toNat

/-- All registers, in the order in which they are listed. -/
def all : List RegisterName :=
  (List.finRange 16).map v ++ [index, programCounter, stackPointer, delay, sound]

theorem mem_all (r : RegisterName) : r ∈ all := by
  cases r <;> simp [all]

theorem map_name_all :
    all.map name =
      ["V0", "V1", "V2", "V3", "V4", "V5", "V6", "V7", "V8", "V9", "VA", "VB", "VC", "VD", "VE",
        "VF", "I", "PC", "SP", "DT", "ST"] := by
  decide +kernel

theorem nodup_map_name : (all.map name).Nodup := by
  rw [map_name_all]
  decide

/-- The listing of registers has each of them under its name. -/
theorem registerMap_eq (s : State) : s.registerMap = all.map fun r => (r.name, r.value s) := by
  simp [State.registerMap, all, name, value, Function.comp_def]

theorem name_injective : Function.Injective name := by
  intro r other same
  exact List.inj_on_of_nodup_map nodup_map_name (mem_all r) (mem_all other) same

theorem find?_name (r : RegisterName) :
    (all.find? fun other => other.name == r.name) = some r := by
  have present : (all.find? fun other => other.name == r.name).isSome = true :=
    List.find?_isSome.mpr ⟨r, mem_all r, beq_self_eq_true _⟩
  obtain ⟨other, found⟩ := Option.isSome_iff_exists.mp present
  have same : other.name = r.name := by simpa using List.find?_some found
  rw [found, name_injective same]

end RegisterName

namespace Breakpoint

theorem valueIn?_registerMap_name (s : State) (r : RegisterName) :
    valueIn? s.registerMap (some r.name) = some (r.value s) := by
  simp [valueIn?, RegisterName.registerMap_eq, List.find?_map, Function.comp_def,
    RegisterName.find?_name]

theorem valueIn?_registerMap_unknown (s : State) {register : Option String}
    (unknown : ∀ r : RegisterName, register ≠ some r.name) :
    valueIn? s.registerMap register = none := by
  cases register with
  | none => rfl
  | some text =>
      have absent : ∀ r ∈ RegisterName.all, ¬(r.name == text) = true := fun r _ same =>
        unknown r (congrArg some (eq_of_beq same).symm)
      simp [valueIn?, RegisterName.registerMap_eq, List.find?_map, Function.comp_def,
        List.find?_eq_none.mpr absent]

/-- What a breakpoint looks for in a step, apart from where the program goes on: an access on
record, what a register holds after the step, or a register that the step has changed. -/
def Hits (b : Breakpoint) (activity : List Access) (before after : State) : Prop :=
  match b.watch with
  | .programCounter => False
  | .memoryRead =>
      ∃ address data, .read address data ∈ activity ∧ b.address = some (address.val : Int)
  | .memoryWrite =>
      ∃ address data previous,
        .write address data previous ∈ activity ∧ b.address = some (address.val : Int)
  | .registerValue =>
      ∃ r : RegisterName, b.register = some r.name ∧ b.value = some (r.value after)
  | .registerChange =>
      ∃ r : RegisterName, b.register = some r.name ∧ r.value after ≠ r.value before

theorem stopsAfter_iff {b : Breakpoint} {activity : List Access} {before after : State} :
    b.stopsAfter activity before.registerMap after.registerMap = true ↔
      b.enabled = true ∧ b.Hits activity before after := by
  rw [stopsAfter, Bool.and_eq_true]
  refine and_congr_right fun _ => ?_
  cases kind : b.watch with
  | programCounter => simp [Hits, kind]
  | memoryRead =>
      simp only [Hits, kind, List.any_eq_true, Bool.and_eq_true, beq_iff_eq]
      constructor
      · rintro ⟨access, mem, read, address⟩
        cases access with
        | read place data => exact ⟨place, data, mem, address⟩
        | write place data previous => cases read
      · rintro ⟨place, data, mem, address⟩
        exact ⟨_, mem, rfl, address⟩
  | memoryWrite =>
      simp only [Hits, kind, List.any_eq_true, Bool.and_eq_true, beq_iff_eq]
      constructor
      · rintro ⟨access, mem, written, address⟩
        cases access with
        | read place data => cases written
        | write place data previous => exact ⟨place, data, previous, mem, address⟩
      · rintro ⟨place, data, previous, mem, address⟩
        exact ⟨_, mem, rfl, address⟩
  | registerValue =>
      simp only [Hits, kind]
      by_cases known : ∃ r : RegisterName, b.register = some r.name
      · obtain ⟨r, named⟩ := known
        simp [named, valueIn?_registerMap_name, RegisterName.name_injective.eq_iff]
      · have unknown := not_exists.mp known
        simp [valueIn?_registerMap_unknown after unknown, unknown]
  | registerChange =>
      simp only [Hits, kind]
      by_cases known : ∃ r : RegisterName, b.register = some r.name
      · obtain ⟨r, named⟩ := known
        simp [named, valueIn?_registerMap_name, RegisterName.name_injective.eq_iff]
      · have unknown := not_exists.mp known
        simp [valueIn?_registerMap_unknown after unknown, unknown]

end Breakpoint

/-! ## Steps that a run ends with -/

namespace Debugger

/-- What the next step can be that a run ends with.  A breakpoint at the place where the program
goes on ends it only if there is more to run. -/
inductive Ends (d : Debugger) (more : Prop) : Prop where
  | fault {fault : Fault} (failed : d.step.1 = .error fault)
  | wait {report : StepReport} (done : d.step.1 = .ok report) (waiting : report.waiting = true)
  | hit {report : StepReport} {b : Breakpoint} (done : d.step.1 = .ok report)
      (mem : b ∈ d.breakpoints) (enabled : b.enabled = true)
      (hits : b.Hits report.activity d.machine.state d.step.2.machine.state)
  | arrival {b : Breakpoint} (unfinished : more) (mem : b ∈ d.breakpoints)
      (enabled : b.enabled = true) (watch : b.watch = .programCounter)
      (arrived : b.value = some d.step.2.machine.state.registers.pc)

/-- What a run comes to that ends with the next step.  A key wait goes before a breakpoint. -/
def verdict (d : Debugger) : Except Fault StopReason :=
  match d.step.1 with
  | .error fault => .error fault
  | .ok report => .ok (if report.waiting then .keyWait else .breakpoint)

variable {d e : Debugger} {report : StepReport}

theorem before_step (done : d.step = (.ok report, e)) :
    e.before = d.machine.state.registerMap := by
  unfold step at done
  cases outcome : d.machine.step with
  | mk result machine =>
      rw [outcome] at done
      cases result with
      | error fault => cases done
      | ok found =>
          cases done
          rfl

@[simp]
theorem breakpoints_step (d : Debugger) : d.step.2.breakpoints = d.breakpoints := by
  unfold step
  cases d.machine.step with
  | mk result machine => cases result <;> rfl

/-- After a step the breakpoints are asked about the registers just before and just after it. -/
theorem stopsAfter_step_iff (done : d.step = (.ok report, e)) :
    e.stopsAfter report = true ↔
      ∃ b ∈ d.breakpoints,
        b.enabled = true ∧ b.Hits report.activity d.machine.state e.machine.state := by
  have same : e.breakpoints = d.breakpoints := by
    rw [← d.breakpoints_step, done]
  simp only [stopsAfter, List.any_eq_true, before_step done, same, Breakpoint.stopsAfter_iff]

theorem stopsBefore_iff :
    d.stopsBefore = true ↔
      ∃ b ∈ d.breakpoints,
        b.enabled = true ∧ b.watch = .programCounter ∧
          b.value = some d.machine.state.registers.pc := by
  simp [stopsBefore, Breakpoint.stopsAt, and_assoc]

/-- When the next step comes to its end, it ends a run if it waits for a key, or if a breakpoint
asks to stop after it, or before the step that would follow. -/
theorem ends_iff (done : d.step = (.ok report, e)) (more : Prop) :
    d.Ends more ↔
      report.waiting = true ∨ e.stopsAfter report = true ∨ more ∧ e.stopsBefore = true := by
  have result : d.step.1 = .ok report := by rw [done]
  have after : d.step.2 = e := by rw [done]
  have same : e.breakpoints = d.breakpoints := by
    rw [← d.breakpoints_step, done]
  rw [stopsAfter_step_iff done, stopsBefore_iff, same]
  constructor
  · intro ends
    cases ends with
    | fault failed =>
        rw [result] at failed
        cases failed
    | wait found waiting =>
        rw [result] at found
        cases found
        exact .inl waiting
    | hit found mem enabled hits =>
        rw [result] at found
        cases found
        rw [after] at hits
        exact .inr (.inl ⟨_, mem, enabled, hits⟩)
    | arrival unfinished mem enabled watch arrived =>
        rw [after] at arrived
        exact .inr (.inr ⟨unfinished, _, mem, enabled, watch, arrived⟩)
  · rintro (waiting | ⟨b, mem, enabled, hits⟩ | ⟨unfinished, b, mem, enabled, watch, arrived⟩)
    · exact .wait result waiting
    · exact .hit result mem enabled (by rwa [after])
    · exact .arrival unfinished mem enabled watch (by rwa [after])

/-! ## Runs -/

/-- The first step of a run is taken even from a breakpoint; later ones are not. -/
theorem runSteps_false (d : Debugger) (count : Nat) :
    d.runSteps false count =
      if 0 < count ∧ d.stopsBefore = true then (.ok .breakpoint, d) else d.runSteps true count := by
  cases count with
  | zero => rfl
  | succ count => 
      by_cases stopped : d.stopsBefore = true
      · simp [runSteps, stopped]
      · simp [runSteps, stopped]

theorem runSteps_of_ends {count : Nat} (ends : d.Ends (0 < count)) :
    d.runSteps true (count + 1) = (d.verdict, d.step.2) := by
  rw [runSteps, verdict]
  rcases stepped : d.step with ⟨fault | report, e⟩
  · rfl
  · have reason := (ends_iff stepped _).mp ends
    by_cases waiting : report.waiting = true
    · simp [waiting]
    · by_cases hit : e.stopsAfter report = true
      · simp [waiting, hit]
      · have arrived : 0 < count ∧ e.stopsBefore = true := by simpa [waiting, hit] using reason
        simp [waiting, hit, runSteps_false, arrived]

theorem runSteps_of_not_ends {count : Nat} (goesOn : ¬d.Ends (0 < count)) :
    d.runSteps true (count + 1) = d.step.2.runSteps true count := by
  rw [runSteps]
  rcases stepped : d.step with ⟨fault | report, e⟩
  · exact absurd (.fault (congrArg Prod.fst stepped)) goesOn
  · rw [ends_iff stepped, not_or, not_or] at goesOn
    obtain ⟨waiting, hit, arrived⟩ := goesOn
    simp [waiting, hit, runSteps_false, arrived]

/-- A run takes its steps up to the first that it ends with, or all that it may. -/
theorem runSteps_ends (d : Debugger) (count : Nat) :
    (∃ k < count,
      (stepTimes k d).Ends (k + 1 < count) ∧
        (∀ j < k, ¬(stepTimes j d).Ends (j + 1 < count)) ∧
        d.runSteps true count = ((stepTimes k d).verdict, stepTimes (k + 1) d)) ∨
      (∀ j < count, ¬(stepTimes j d).Ends (j + 1 < count)) ∧
        d.runSteps true count = (.ok .stepLimit, stepTimes count d) := by
  induction count generalizing d with
  | zero => exact .inr ⟨fun j inside => absurd inside (Nat.not_lt_zero j), rfl⟩
  | succ count ih =>
      have shift : ∀ k, k + 1 + 1 < count + 1 ↔ k + 1 < count := fun k => by omega
      by_cases ends : d.Ends (0 < count)
      · refine .inl ⟨0, Nat.succ_pos count, ?_, ?_, runSteps_of_ends ends⟩
        · simpa [stepTimes] using ends
        · intro j inside
          exact absurd inside (Nat.not_lt_zero j)
      · have first : ¬(stepTimes 0 d).Ends (0 + 1 < count + 1) := by simpa [stepTimes] using ends
        rw [runSteps_of_not_ends ends]
        rcases ih d.step.2 with ⟨k, inside, endsLater, goesOn, ran⟩ | ⟨goesOn, ran⟩
        · refine .inl ⟨k + 1, Nat.succ_lt_succ inside, ?_, ?_, ran⟩
          · rw [shift]
            exact endsLater
          · intro j earlier
            cases j with
            | zero => exact first
            | succ j =>
                rw [shift]
                exact goesOn j (Nat.lt_of_succ_lt_succ earlier)
        · refine .inr ⟨?_, ran⟩
          intro j inside
          cases j with
          | zero => exact first
          | succ j =>
              rw [shift]
              exact goesOn j (Nat.lt_of_succ_lt_succ inside)

/-- The accesses of a step, which breakpoints look at, begin with the reads of its word. -/
theorem fetch_prefix_activity (done : d.step.1 = .ok report) :
    ∃ high low : Address,
      (high.val : Int) = d.machine.state.registers.pc ∧
        (low.val : Int) = d.machine.state.registers.pc + 1 ∧
        [.read high (d.machine.state.memory.byte high),
          .read low (d.machine.state.memory.byte low)] <+: report.activity := by
  rcases stepped : d.machine.step with ⟨fault | found, after⟩
  · rw [step, stepped] at done
    cases done
  · rw [step, stepped] at done
    cases done
    obtain ⟨op, isReady, rfl, -⟩ := State.step_ok (Machine.state_step stepped).1
    have fetched := (State.ready_eq_ok_iff.mp isReady).1
    have bounds := State.fetchFault?_eq_none.mp fetched
    refine ⟨d.machine.state.highPlace, d.machine.state.lowPlace, ?_, ?_,
      d.machine.state.fetch_prefix_activity d.machine.config.dialect op⟩
    · rw [State.highPlace, Memory.place_val (by omega)]
      omega
    · rw [State.lowPlace, Memory.place_val (by omega)]
      omega

/-- A run takes its steps, none of them apart from what single steps do, up to the first one that
is a fault, waits for a key or hits a breakpoint, or that is not the last and leads to a
breakpoint; then it comes to what this step is.  If no step within the limit is of that kind, it
takes as many as it may. -/
theorem run_ends (d : Debugger) (n : Int) :
    ((∃ k : Nat, k < n ∧
        (stepTimes k d).Ends (k + 1 < n) ∧
        (∀ j < k, ¬(stepTimes j d).Ends (j + 1 < n)) ∧
        d.run n = ((stepTimes k d).verdict, stepTimes (k + 1) d)) ∨
      (∀ j : Nat, j < n → ¬(stepTimes j d).Ends (j + 1 < n)) ∧
        d.run n = (.ok .stepLimit, stepTimes n.toNat d)) ∧
    ∀ (k : Nat) (report : StepReport), (stepTimes k d).step.1 = .ok report →
      ∃ high low : Address,
        (high.val : Int) = (stepTimes k d).machine.state.registers.pc ∧
          (low.val : Int) = (stepTimes k d).machine.state.registers.pc + 1 ∧
          [.read high ((stepTimes k d).machine.state.memory.byte high),
            .read low ((stepTimes k d).machine.state.memory.byte low)] <+: report.activity := by
  refine ⟨?_, fun k report done => fetch_prefix_activity done⟩
  have within : ∀ k : Nat, k < n.toNat ↔ (k : Int) < n := fun k => by omega
  have ends := d.runSteps_ends n.toNat
  simp only [within] at ends
  exact ends

end Debugger

end ChipEight
