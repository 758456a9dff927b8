import Mathlib.Data.List.Forall2
import ChipEight.Proofs.Frames
import ChipEight.Proofs.StepBack

/-!
# The history of a debugger

The snapshots and the reports that a debugger keeps belong together one by one: a step from the
snapshot gives the report again (`Snapshot.Replays`), on any machine that speaks the same dialect.
Entering a step, dropping the oldest ones and taking the newest one back keep it so, and the host
cannot interfere, as all that it can reach is the machine.  The main statement is
`Debugger.history_replays`.
-/

namespace ChipEight

/-- Any machine that speaks a dialect and is put into a state by its snapshot has a given report to
make on its next step, but for the count of steps. -/
def Snapshot.Replays (dialect : Dialect) (s : Snapshot) (report : StepReport) : Prop :=
  ∀ (m : Machine) (fresh : Generator), m.config.dialect = dialect →
    ∃ restored after,
      m.restore (.snapshot s) fresh = .ok restored ∧
        restored.step = (.ok { report with cycle := m.state.cycles + 1 }, after)

namespace Machine

/-- A step that comes to its end can be replayed from the snapshot from before it. -/
theorem replays_of_step {m after : Machine} {report : StepReport} (regular : m.state.Regular)
    (done : m.step = (.ok report, after)) : m.capture.Replays m.config.dialect report := by
  intro other fresh dialect
  have kept := kept_of_step regular done
  obtain ⟨restored, restoredEq, config, cycles, captured, -⟩ := restore_kept kept other fresh
  have alike : m.Alike restored := ⟨by rw [config, dialect], captured.symm⟩
  obtain ⟨final, again, -⟩ := alike.step_ok done
  rw [cycles] at again
  exact ⟨restored, final, restoredEq, again⟩

theorem config_restore {m restored : Machine} {source : Restorable} {fresh : Generator}
    (restoredEq : m.restore source fresh = .ok restored) : restored.config = m.config := by
  have config := m.config_call (.restore source fresh)
  rw [call, restoredEq] at config
  exact config

end Machine

namespace Debugger

/-- Each snapshot that is kept replays the report that is kept with it, and the report that is
shown is the newest of the history, if anything is kept at all. -/
structure Faithful (dialect : Dialect) (d : Debugger) : Prop where
  dialect_eq : d.machine.config.dialect = dialect
  replays : List.Forall₂ (Snapshot.Replays dialect) d.undo d.history
  latest : 1 ≤ d.limit → d.last = d.history.head?

namespace Faithful

variable {dialect : Dialect} {d : Debugger}

/-- All that the host can reach is the machine. -/
theorem withMachine (faithful : d.Faithful dialect) {m : Machine}
    (config : m.config = d.machine.config) : { d with machine := m }.Faithful dialect where
  dialect_eq := by
    rw [← faithful.dialect_eq, ← config]
  replays := faithful.replays
  latest := faithful.latest

/-- A step that ends in a fault is not entered, and any other is entered along with the snapshot
from before it. -/
theorem step (faithful : d.Faithful dialect) (regular : d.machine.state.Regular) :
    d.step.2.Faithful dialect := by
  unfold Debugger.step
  cases outcome : d.machine.step with
  | mk result after =>
      obtain ⟨-, config⟩ := Machine.state_step outcome
      cases result with
      | error fault => exact faithful.withMachine config
      | ok report =>
          have newest : d.machine.capture.Replays dialect report := by
            rw [← faithful.dialect_eq]
            exact Machine.replays_of_step regular outcome
          constructor
          · rw [← faithful.dialect_eq, ← config]
          · exact List.forall₂_take d.limit (.cons newest faithful.replays)
          · intro room
            have used : d.limit ≠ 0 := Nat.ne_of_gt room
            change some report = ((report :: d.history).take d.limit).head?
            rw [List.head?_take, if_neg used, List.head?_cons]

/-- Taking a step back takes its report out of the history, and shows the one before. -/
theorem stepBack (faithful : d.Faithful dialect) : d.stepBack.2.Faithful dialect := by
  cases undoEq : d.undo with
  | nil =>
      rw [stepBack_of_empty undoEq]
      exact faithful
  | cons s older =>
      have replays := faithful.replays
      rw [undoEq] at replays
      cases historyEq : d.history with
      | nil =>
          rw [historyEq] at replays
          cases replays
      | cons report earlier =>
          rw [historyEq] at replays
          obtain ⟨newest, others⟩ := List.forall₂_cons.mp replays
          obtain ⟨restored, -, restoredEq, -⟩ := newest d.machine (.ofSeed 0) faithful.dialect_eq
          have config := Machine.config_restore restoredEq
          simp only [Debugger.stepBack, undoEq, restoredEq, historyEq]
          constructor
          · rw [← faithful.dialect_eq, ← config]
          · exact others
          · exact fun _ => rfl

end Faithful

end Debugger

namespace Journal

variable {limit : Nat} {dialect : Dialect} {j : Journal}

theorem Sound.faithful_stepTimes (sound : Sound limit j) (faithful : j.debugger.Faithful dialect)
    (count : Nat) : (j.stepTimes count).debugger.Faithful dialect := by
  induction count generalizing j with
  | zero => exact faithful
  | succ count ih =>
      have stepped := faithful.step sound.regular
      rw [← debugger_step] at stepped
      exact ih sound.step stepped

theorem Sound.faithful_obey (sound : Sound limit j) (faithful : j.debugger.Faithful dialect)
    (command : Command) : (j.obey command).debugger.Faithful dialect := by
  cases command with
  | step =>
      rw [debugger_obey]
      exact faithful.step sound.regular
  | run maxSteps => exact sound.faithful_stepTimes faithful _
  | stepBack => exact faithful.stepBack
  | addBreakpoint b =>
      simp only [Journal.obey, Debugger.obey, Debugger.addBreakpoint]
      cases j.debugger.breakpoints.contains b <;>
        exact ⟨faithful.dialect_eq, faithful.replays, faithful.latest⟩
  | updateBreakpoint old new => exact ⟨faithful.dialect_eq, faithful.replays, faithful.latest⟩
  | removeBreakpoint b => exact ⟨faithful.dialect_eq, faithful.replays, faithful.latest⟩
  | enableBreakpoint b enabled => exact ⟨faithful.dialect_eq, faithful.replays, faithful.latest⟩
  | host call => exact faithful.withMachine (j.debugger.machine.config_call call)

theorem Sound.faithful_obeyAll (sound : Sound limit j) (faithful : j.debugger.Faithful dialect)
    (commands : List Command) : (j.obeyAll commands).debugger.Faithful dialect := by
  induction commands generalizing j with
  | nil => exact faithful
  | cons command rest ih => exact ih (sound.obey command) (sound.faithful_obey faithful command)

/-- A debugger that begins has nothing to replay. -/
theorem faithful_start {machine : Machine} {limit : Int} {d : Debugger}
    (created : Debugger.new machine limit = .ok d) :
    d.Faithful d.machine.config.dialect := by
  unfold Debugger.new at created
  split at created
  · cases created
  · split at created
    · cases created
    · cases created
      exact ⟨rfl, .nil, fun _ => rfl⟩

end Journal

namespace Debugger

/-- What a debugger keeps, whatever it is told to do and whatever its host does to the machine
meanwhile.  There are as many snapshots as reports, within the limit.  Restoring any of the
snapshots, on any machine that speaks the same dialect, and stepping once gives the report that is
kept with it again, where only the count of steps may differ.  And if the limit is not zero, the
report that is shown is the newest of the history, or none if there is none. -/
theorem history_replays {config : Config} {fresh : Generator} {calls : List Call} {limit : Int}
    {d : Debugger}
    (created : Debugger.new ((Machine.new config fresh).callAll calls) limit = .ok d)
    (commands : List Command) :
    let e := d.obeyAll commands
    e.history.length = e.undo.length ∧ (e.undo.length : Int) ≤ limit ∧
      (∀ (k : Nat) (s : Snapshot) (report : StepReport), e.undo[k]? = some s →
        e.history[k]? = some report → ∀ (m : Machine) (other : Generator),
          m.config.dialect = e.machine.config.dialect →
          ∃ restored after,
            m.restore (.snapshot s) other = .ok restored ∧
              restored.step = (.ok { report with cycle := m.state.cycles + 1 }, after)) ∧
      (1 ≤ limit → e.last = e.history.head?) := by
  intro e
  obtain ⟨start, limitEq⟩ := Journal.sound_start created
  have same : ((Journal.start d).obeyAll commands).debugger = e :=
    Journal.debugger_obeyAll (Journal.start d) commands
  have sound := start.obeyAll commands
  have faithful := start.faithful_obeyAll (Journal.faithful_start created) commands
  have paired := sound.paired
  have bounded := sound.bounded
  have sameLimit := sound.limit_eq
  rw [same] at faithful paired bounded sameLimit
  refine ⟨paired, by omega, ?_, ?_⟩
  · intro k s report keptSnapshot keptReport m other dialect
    obtain ⟨insideUndo, rfl⟩ := List.getElem?_eq_some_iff.mp keptSnapshot
    obtain ⟨insideHistory, rfl⟩ := List.getElem?_eq_some_iff.mp keptReport
    rw [faithful.dialect_eq] at dialect
    exact faithful.replays.get insideUndo insideHistory m other dialect
  · intro room
    exact faithful.latest (by omega)

/-- A jump that a debugger has kept is carried out again by a new machine. -/
theorem history_replays_jump :
    ∃ d s report restored after,
      Debugger.new ((Machine.new {}).callAll [.load Machine.overrun]) 1 = .ok d ∧
        (d.obeyAll [.step]).undo[0]? = some s ∧
        (d.obeyAll [.step]).history[0]? = some report ∧
        (Machine.new {}).restore (.snapshot s) = .ok restored ∧
        restored.step = (.ok { report with cycle := 1 }, after) := by
  obtain ⟨memory, loaded, jumps, -⟩ := Machine.ready_overrun (m := Machine.new {}) rfl
  obtain ⟨d, created, machine⟩ :=
    exists_debugger ((Machine.new {}).callAll [.load Machine.overrun])
  have limitEq : d.limit = 1 := Int.ofNat_inj.mp (Journal.sound_start created).2
  have isReady : d.machine.state.ready d.machine.config.dialect = .ok ⟨.jump, 0x1FFE⟩ := by
    rw [machine, Machine.callAll, Machine.callAll, loaded]
    exact jumps
  rcases d.step_cases with
    ⟨fault, after, failed, -⟩ | ⟨report, first, outcome, done, -, undo, history⟩
  · rw [Machine.step, State.step_eq, isReady] at failed
    cases failed
  · have obeyed : d.obeyAll [.step] = first := congrArg Prod.snd done
    have keptSnapshot : (d.obeyAll [.step]).undo[0]? = some d.machine.capture := by
      rw [obeyed, undo, limitEq]
      rfl
    have keptReport : (d.obeyAll [.step]).history[0]? = some report := by
      rw [obeyed, history, limitEq]
      rfl
    obtain ⟨-, -, replays, -⟩ := history_replays created [.step]
    have dialect : (Machine.new {}).config.dialect =
        (d.obeyAll [.step]).machine.config.dialect := by
      rw [obeyed, (Machine.state_step outcome).2, machine, Machine.callAll, Machine.callAll,
        Machine.config_call]
    obtain ⟨restored, after, restoredEq, again⟩ :=
      replays 0 _ report keptSnapshot keptReport (Machine.new {}) (.ofSeed 0) dialect
    exact ⟨d, _, report, restored, after, created, keptSnapshot, keptReport, restoredEq, again⟩

end Debugger

end ChipEight
