import ChipEight.Proofs.Ledger
import ChipEight.Proofs.Reachable

/-!
# Taking steps back

Not every snapshot can be restored, but every snapshot that a debugger keeps can: it was
taken just before a step that came to its end, so that a word could be fetched there.  This
and the agreement of the kept snapshots with the live steps of the ledger is what
`Journal.Sound` says, and every command keeps it.
-/

namespace ChipEight

/-- A snapshot that was taken from a state, and that passes the checks. -/
def Snapshot.Kept (s : Snapshot) : Prop :=
  (∃ t : State, s = ofState t) ∧ s.validate = .ok ()

namespace Machine

/-- Any machine takes a kept snapshot, and has it as its own snapshot afterwards. -/
theorem restore_kept {s : Snapshot} (kept : s.Kept) (m : Machine) (fresh : Generator) :
    ∃ after,
      m.restore (.snapshot s) fresh = .ok after ∧
        after.config = m.config ∧
        after.state.cycles = m.state.cycles ∧
        after.capture = s ∧
        after.state.Regular := by
  obtain ⟨⟨t, rfl⟩, valid⟩ := kept
  obtain ⟨after, restored, config, cycles, captured⟩ := restore_of_valid valid m fresh
  refine ⟨after, restored, config, cycles, ?_, ?_⟩
  · exact captured.trans (Snapshot.frozen_seeded_ofState t fresh)
  · obtain ⟨⟨lower, upper⟩, keypad⟩ := Snapshot.free_numbers_of_valid valid captured
    exact ⟨lower, by omega, keypad⟩

/-- Where a step comes to its end, the snapshot from before it can be kept. -/
theorem kept_of_step {m after : Machine} {report : StepReport} (regular : m.state.Regular)
    (done : m.step = (.ok report, after)) : m.capture.Kept := by
  obtain ⟨stateStep, -⟩ := state_step done
  obtain ⟨op, isReady, -, -⟩ := State.step_ok stateStep
  obtain ⟨fetched, -, -⟩ := State.ready_eq_ok_iff.mp isReady
  have inside := State.fetchFault?_eq_none.mp fetched
  have checked : m.capture.validate = _ := Snapshot.validate_ofState regular.keypad
  rw [if_pos inside] at checked
  exact ⟨⟨m.state, rfl⟩, checked⟩

end Machine

namespace Debugger

/-- What a step of the debugger does: a fault only reaches the machine, and a step that comes
to its end is kept along with its report. -/
theorem step_cases (d : Debugger) :
    (∃ fault after,
      d.machine.step = (.error fault, after) ∧
        d.step = (.error fault, { d with machine := after })) ∨
      ∃ report e,
        d.machine.step = (.ok report, e.machine) ∧
          d.step = (.ok report, e) ∧
          e.limit = d.limit ∧
          e.undo = (d.machine.capture :: d.undo).take d.limit ∧
          e.history = (report :: d.history).take d.limit := by
  unfold step
  cases outcome : d.machine.step with
  | mk result after =>
      cases result with
      | error fault => exact .inl ⟨fault, after, rfl, rfl⟩
      | ok report => exact .inr ⟨report, _, rfl, rfl, rfl, rfl, rfl⟩

theorem undo_of_step {d e : Debugger} {report : StepReport} (done : d.step = (.ok report, e)) :
    e.limit = d.limit ∧ e.undo = (d.machine.capture :: d.undo).take d.limit := by
  rcases d.step_cases with ⟨fault, after, -, failed⟩ | ⟨other, found, -, stepped, limit, undo, -⟩
  · rw [failed] at done
    cases done
  · rw [stepped] at done
    cases done
    exact ⟨limit, undo⟩

end Debugger

namespace Journal

variable {limit : Nat}

/-- The debugger keeps the snapshots of the live steps, within the limit and each with a report,
and its machine and all that it keeps are as calls and steps can make them. -/
structure Sound (limit : Nat) (j : Journal) : Prop where
  limit_eq : j.debugger.limit = limit
  undo_eq : j.debugger.undo = j.ledger.live
  paired : j.debugger.history.length = j.debugger.undo.length
  bounded : j.debugger.undo.length ≤ limit
  kept : ∀ s ∈ j.debugger.undo, s.Kept
  regular : j.debugger.machine.state.Regular

/-- What happens to the machine alone is no matter for the ledger. -/
theorem Sound.withMachine {j : Journal} (sound : Sound limit j) {m : Machine}
    (regular : m.state.Regular) :
    Sound limit { j with debugger := { j.debugger with machine := m } } :=
  ⟨sound.limit_eq, sound.undo_eq, sound.paired, sound.bounded, sound.kept, regular⟩

theorem Sound.withBreakpoints {j : Journal} (sound : Sound limit j) (bs : List Breakpoint) :
    Sound limit { j with debugger := { j.debugger with breakpoints := bs } } :=
  ⟨sound.limit_eq, sound.undo_eq, sound.paired, sound.bounded, sound.kept, sound.regular⟩

theorem Sound.step {j : Journal} (sound : Sound limit j) : Sound limit j.step := by
  have stateStep := sound.regular.step j.debugger.machine.config.dialect
  rcases j.debugger.step_cases with
    ⟨fault, after, outcome, failed⟩ | ⟨report, e, outcome, done, sameLimit, undo, history⟩
  · rw [(Machine.state_step outcome).1] at stateStep
    simp only [Journal.step, failed]
    exact sound.withMachine stateStep
  · rw [(Machine.state_step outcome).1] at stateStep
    rw [sound.limit_eq] at sameLimit undo history
    simp only [Journal.step, done]
    have kept := Machine.kept_of_step sound.regular outcome
    refine ⟨sameLimit, ?_, ?_, ?_, ?_, stateStep⟩
    · rw [undo, sameLimit, Ledger.live_enter, sound.undo_eq]
    · rw [history, undo, List.length_take, List.length_take, List.length_cons,
        List.length_cons, sound.paired]
    · rw [undo, List.length_take]
      exact Nat.min_le_left _ _
    · intro s held
      rw [undo] at held
      rcases List.mem_cons.mp (List.mem_of_mem_take held) with rfl | older
      · exact kept
      · exact sound.kept s older

theorem Sound.stepTimes {j : Journal} (sound : Sound limit j) (count : Nat) :
    Sound limit (j.stepTimes count) := by
  induction count generalizing j with
  | zero => exact sound
  | succ count ih => exact ih sound.step

end Journal

namespace Debugger

/-- What taking a step back does, if the snapshot that comes up can be restored and has a
report. -/
theorem stepBack_of_kept {d : Debugger} {s : Snapshot} {older : List Snapshot}
    (undoEq : d.undo = s :: older) (kept : s.Kept) (paired : d.history.length = d.undo.length) :
    ∃ report e,
      d.stepBack = (.ok report, e) ∧
        e.machine.capture = s ∧
        e.machine.config = d.machine.config ∧
        e.machine.state.cycles = d.machine.state.cycles ∧
        e.machine.state.Regular ∧
        e.undo = older ∧ e.history = d.history.tail ∧ e.limit = d.limit := by
  obtain ⟨after, restored, config, cycles, captured, regular⟩ :=
    Machine.restore_kept kept d.machine (.ofSeed 0)
  cases historyEq : d.history with
  | nil => simp [historyEq, undoEq] at paired
  | cons report history =>
      let e : Debugger :=
        { d with
          machine := after
          undo := older
          history := history
          last := history.head?
          before := after.state.registerMap }
      refine ⟨history.head?, e, ?_, captured, config, cycles, regular, rfl, rfl, rfl⟩
      simp only [stepBack, undoEq, restored, historyEq, e]

theorem stepBack_of_empty {d : Debugger} (undoEq : d.undo = []) : d.stepBack = (.ok none, d) := by
  simp only [stepBack, undoEq]

end Debugger

namespace Journal

/-- As long as a snapshot is kept, a step can be taken back. -/
theorem Sound.exists_stepBack {j : Journal} (sound : Sound limit j) {s : Snapshot}
    {older : List Snapshot} (undoEq : j.debugger.undo = s :: older) :
    ∃ report e,
      j.debugger.stepBack = (.ok report, e) ∧
        e.machine.capture = s ∧
        e.machine.config = j.debugger.machine.config ∧
        e.machine.state.cycles = j.debugger.machine.state.cycles ∧
        e.machine.state.Regular ∧
        e.undo = older ∧ e.history = j.debugger.history.tail ∧ e.limit = j.debugger.limit := by
  have kept : s.Kept := sound.kept s (by rw [undoEq]; exact List.mem_cons_self)
  exact Debugger.stepBack_of_kept undoEq kept sound.paired

theorem Sound.stepBack {j : Journal} (sound : Sound limit j) : Sound limit (j.obey .stepBack) := by
  cases undoEq : j.debugger.undo with
  | nil =>
      have unchanged : j.obey .stepBack = ⟨j.debugger, j.ledger.undo⟩ := by
        rw [obey, Debugger.stepBack_of_empty undoEq]
      rw [unchanged]
      refine ⟨sound.limit_eq, ?_, sound.paired, sound.bounded, sound.kept, sound.regular⟩
      rw [Ledger.live_undo, ← sound.undo_eq, undoEq]
      rfl
  | cons s older =>
      obtain ⟨report, e, back, -, -, -, regular, undo, history, sameLimit⟩ :=
        sound.exists_stepBack undoEq
      have paired := sound.paired
      have bounded := sound.bounded
      rw [undoEq, List.length_cons] at paired bounded
      simp only [obey, back]
      refine ⟨sameLimit.trans sound.limit_eq, ?_, ?_, ?_, ?_, regular⟩
      · rw [undo, Ledger.live_undo, ← sound.undo_eq, undoEq]
        rfl
      · rw [history, undo, List.length_tail, paired]
        rfl
      · rw [undo]
        exact Nat.le_of_succ_le bounded
      · intro earlier held
        rw [undo] at held
        exact sound.kept earlier (by rw [undoEq]; exact List.mem_cons_of_mem s held)

/-- Every command keeps a journal sound. -/
theorem Sound.obey {j : Journal} (sound : Sound limit j) (command : Command) :
    Sound limit (j.obey command) := by
  cases command with
  | step => exact sound.step
  | run maxSteps => exact sound.stepTimes _
  | stepBack => exact sound.stepBack
  | addBreakpoint b =>
      simp only [Journal.obey, Debugger.obey, Debugger.addBreakpoint]
      cases j.debugger.breakpoints.contains b with
      | true => exact sound
      | false => exact sound.withBreakpoints _
  | updateBreakpoint old new => exact sound.withBreakpoints _
  | removeBreakpoint b => exact sound.withBreakpoints _
  | enableBreakpoint b enabled => exact sound.withBreakpoints _
  | host call => exact sound.withMachine (Machine.regular_call sound.regular call)

/-- Any commands keep a journal sound. -/
theorem Sound.obeyAll {j : Journal} (sound : Sound limit j) (commands : List Command) :
    Sound limit (j.obeyAll commands) := by
  induction commands generalizing j with
  | nil => exact sound
  | cons command rest ih => exact ih (sound.obey command)

end Journal

/-! ## Several steps back -/

namespace Debugger

/-- Takes so many steps back. -/
def stepBacks : Nat → Debugger → Debugger
  | 0, d => d
  | count + 1, d => stepBacks count d.stepBack.2

end Debugger

namespace Journal

/-- Taking all steps back that were kept after a snapshot, and then its own, restores it. -/
theorem Sound.capture_stepBacks {j : Journal} (sound : Sound limit j) {undo : List Snapshot}
    (undoEq : j.debugger.undo = undo) {index : Nat} {s : Snapshot}
    (held : undo[index]? = some s) :
    (j.debugger.stepBacks (index + 1)).machine.capture = s ∧
      (j.debugger.stepBacks (index + 1)).machine.config = j.debugger.machine.config ∧
      (j.debugger.stepBacks (index + 1)).machine.state.cycles =
        j.debugger.machine.state.cycles := by
  induction undo generalizing j index with
  | nil => cases held
  | cons newest older ih =>
      obtain ⟨report, e, back, captured, config, cycles, -, undo, -⟩ := sound.exists_stepBack undoEq
      rw [Debugger.stepBacks, back]
      cases index with
      | zero =>
          cases held
          exact ⟨captured, config, cycles⟩
      | succ index =>
          have earlier := sound.stepBack
          simp only [Journal.obey, back] at earlier
          rw [List.getElem?_cons_succ] at held
          obtain ⟨captured, sameConfig, sameCycles⟩ := ih earlier undo held
          exact ⟨captured, sameConfig.trans config, sameCycles.trans cycles⟩

/-- As long as no step is taken back, the debugger keeps the newest of the steps since then and
of those it kept before. -/
structure Since (d : Debugger) (j : Journal) : Prop where
  limit_eq : j.debugger.limit = d.limit
  undo_eq : j.debugger.undo = (j.ledger.map Entry.before ++ d.undo).take d.limit

theorem take_cons_take {α : Type} (limit : Nat) (newest : α) (older : List α) :
    (newest :: older.take limit).take limit = (newest :: older).take limit := by
  cases limit with
  | zero => rfl
  | succ limit =>
      rw [List.take_succ_cons, List.take_succ_cons, List.take_take,
        Nat.min_eq_left (Nat.le_succ limit)]

theorem since_start {d : Debugger} (bounded : d.undo.length ≤ d.limit) : Since d (start d) where
  limit_eq := rfl
  undo_eq := (List.take_of_length_le bounded).symm

theorem Since.step {d : Debugger} {j : Journal} (since : Since d j) : Since d j.step := by
  rcases j.debugger.step_cases with ⟨fault, after, -, failed⟩ | ⟨report, e, -, done, limit, undo, -⟩
  · simp only [Journal.step, failed]
    exact ⟨since.limit_eq, since.undo_eq⟩
  · simp only [Journal.step, done]
    refine ⟨limit.trans since.limit_eq, ?_⟩
    rw [undo, limit, since.limit_eq, Ledger.map_before_enter, since.undo_eq,
      List.cons_append, take_cons_take]

theorem Since.stepTimes {d : Debugger} {j : Journal} (since : Since d j) (count : Nat) :
    Since d (j.stepTimes count) := by
  induction count generalizing j with
  | zero => exact since
  | succ count ih => exact ih since.step

theorem Since.obey {d : Debugger} {j : Journal} (since : Since d j) {command : Command}
    (forward : command ≠ .stepBack) : Since d (j.obey command) := by
  cases command with
  | step => exact since.step
  | run maxSteps => exact since.stepTimes _
  | stepBack => exact absurd rfl forward
  | addBreakpoint b =>
      simp only [Journal.obey, Debugger.obey, Debugger.addBreakpoint]
      cases j.debugger.breakpoints.contains b <;> exact ⟨since.limit_eq, since.undo_eq⟩
  | updateBreakpoint old new => exact ⟨since.limit_eq, since.undo_eq⟩
  | removeBreakpoint b => exact ⟨since.limit_eq, since.undo_eq⟩
  | enableBreakpoint b enabled => exact ⟨since.limit_eq, since.undo_eq⟩
  | host call => exact ⟨since.limit_eq, since.undo_eq⟩

theorem Since.obeyAll {d : Debugger} {j : Journal} (since : Since d j) {commands : List Command}
    (forward : ∀ command ∈ commands, command ≠ .stepBack) : Since d (j.obeyAll commands) := by
  induction commands generalizing j with
  | nil => exact since
  | cons command rest ih =>
      have first : command ≠ .stepBack := forward command List.mem_cons_self
      exact ih (since.obey first) fun other later => forward other (List.mem_cons_of_mem _ later)

/-- The snapshot from before a step comes up as soon as the steps since then are taken back. -/
theorem Since.getElem?_undo {d first : Debugger} {j : Journal} {s : Snapshot}
    {older : List Snapshot} (since : Since first j) (limit : first.limit = d.limit)
    (undo : first.undo = (s :: older).take d.limit) (within : j.ledger.length < d.limit) :
    j.debugger.undo[j.ledger.length]? = some s := by
  have length : (j.ledger.map Entry.before).length = j.ledger.length := List.length_map _
  rw [since.undo_eq, limit, List.getElem?_take_of_lt within,
    List.getElem?_append_right (Nat.le_of_eq length), length, Nat.sub_self, undo,
    List.getElem?_take_of_lt (by omega)]
  rfl

/-- A debugger that begins on a machine that calls have brought about keeps a sound journal. -/
theorem sound_start {config : Config} {fresh : Generator} {calls : List Call} {limit : Int}
    {d : Debugger}
    (created : Debugger.new ((Machine.new config fresh).callAll calls) limit = .ok d) :
    Sound d.limit (start d) ∧ (d.limit : Int) = limit := by
  unfold Debugger.new at created
  by_cases overflow : limit < -0x8000000000000000 ∨ 0x8000000000000000 ≤ limit
  · rw [if_pos overflow] at created
    cases created
  · rw [if_neg overflow] at created
    by_cases negative : limit < 0
    · rw [if_pos negative] at created
      cases created
    · rw [if_neg negative] at created
      cases created
      have regular := Machine.regular_callAll_new config fresh calls
      exact ⟨⟨rfl, rfl, rfl, Nat.zero_le _, nofun, regular⟩, Int.toNat_of_nonneg (by omega)⟩

/-- What a step back does, read off the ledger. -/
theorem Sound.stepBack_latest {j : Journal} (sound : Sound limit j) :
    match j.ledger.latest? with
    | some before =>
        j.debugger.canStepBack = true ∧
          ∃ report after,
            j.debugger.stepBack = (.ok report, after) ∧
              after.machine.capture = before ∧
              after.machine.config = j.debugger.machine.config ∧
              after.machine.state.cycles = j.debugger.machine.state.cycles
    | none => j.debugger.canStepBack = false ∧ j.debugger.stepBack = (.ok none, j.debugger) := by
  rw [Ledger.latest?_eq_head?, ← sound.undo_eq]
  cases undoEq : j.debugger.undo with
  | nil => exact ⟨by simp [Debugger.canStepBack, undoEq], Debugger.stepBack_of_empty undoEq⟩
  | cons before older =>
      obtain ⟨report, after, back, captured, config, cycles, -⟩ := sound.exists_stepBack undoEq
      exact ⟨by simp [Debugger.canStepBack, undoEq], report, after, back, captured, config, cycles⟩

/-- After a step and whatever else but steps back, the state from before it comes back by as
many steps back as there have been steps since then. -/
theorem Sound.capture_stepBacks_since {j : Journal} (sound : Sound limit j) {report : StepReport}
    {first : Debugger} (stepped : j.debugger.step = (.ok report, first)) {later : List Command}
    (forward : ∀ command ∈ later, command ≠ .stepBack)
    (within : ((start first).obeyAll later).ledger.length < limit) :
    let steps := ((start first).obeyAll later).ledger.length + 1
    let last := first.obeyAll later
    (last.stepBacks steps).machine.capture = j.debugger.machine.capture ∧
      (last.stepBacks steps).machine.config = last.machine.config ∧
      (last.stepBacks steps).machine.state.cycles = last.machine.state.cycles := by
  intro steps last
  have firstEq : j.step.debugger = first := by rw [debugger_step, stepped]
  have bounded : first.undo.length ≤ first.limit := by
    rw [← firstEq, sound.step.limit_eq]
    exact sound.step.bounded
  obtain ⟨sameLimit, undo⟩ := Debugger.undo_of_step stepped
  rw [← sound.limit_eq] at within
  have held := ((since_start bounded).obeyAll forward).getElem?_undo sameLimit undo within
  -- The journal from before the step and the one that begins after it are of one debugger.
  have soundLast := sound.step.obeyAll later
  have lastEq : (j.step.obeyAll later).debugger = last := by rw [debugger_obeyAll, firstEq]
  have freshEq : ((start first).obeyAll later).debugger = last := debugger_obeyAll _ later
  rw [freshEq, ← lastEq] at held
  have back := soundLast.capture_stepBacks rfl held
  rw [lastEq] at back
  exact back

end Journal

namespace Debugger

/-- Whatever a debugger is told to do, and whatever its host does to the machine meanwhile, a
step can be taken back exactly when the ledger has one that is neither undone nor dropped.
Taking it back then puts the machine into the state from just before the latest of them, and
otherwise changes nothing; it never fails.  So after a step, and whatever else but steps back,
taking back as many steps as have come to their end since then, this one included, restores
the state from before it, as long as they are within the limit. -/
theorem stepBack_restores {config : Config} {fresh : Generator} {calls : List Call} {limit : Int}
    {d : Debugger}
    (created : Debugger.new ((Machine.new config fresh).callAll calls) limit = .ok d)
    (commands : List Command) :
    let e := d.obeyAll commands
    (match ((Journal.start d).obeyAll commands).ledger.latest? with
      | some before =>
          e.canStepBack = true ∧
            ∃ report after,
              e.stepBack = (.ok report, after) ∧
                after.machine.capture = before ∧
                after.machine.config = e.machine.config ∧
                after.machine.state.cycles = e.machine.state.cycles
      | none => e.canStepBack = false ∧ e.stepBack = (.ok none, e)) ∧
      ∀ report first later,
        e.step = (.ok report, first) →
        (∀ command ∈ later, command ≠ .stepBack) →
        let steps := ((Journal.start first).obeyAll later).ledger.length + 1
        (steps : Int) ≤ limit →
        let last := first.obeyAll later
        (last.stepBacks steps).machine.capture = e.machine.capture ∧
          (last.stepBacks steps).machine.config = last.machine.config ∧
          (last.stepBacks steps).machine.state.cycles = last.machine.state.cycles := by
  intro e
  obtain ⟨soundStart, limitEq⟩ := Journal.sound_start created
  have sound := soundStart.obeyAll commands
  have same : ((Journal.start d).obeyAll commands).debugger = e :=
    Journal.debugger_obeyAll (Journal.start d) commands
  constructor
  · have latest := sound.stepBack_latest
    rw [same] at latest
    exact latest
  · intro report first later stepped forward steps within last
    have inside : ((Journal.start first).obeyAll later).ledger.length < d.limit := by omega
    rw [← same] at stepped
    have back := sound.capture_stepBacks_since stepped forward inside
    rw [same] at back
    exact back

theorem exists_debugger (machine : Machine) :
    ∃ d, Debugger.new machine 1 = .ok d ∧ d.machine = machine :=
  ⟨_, rfl, rfl⟩

theorem exists_step {d : Debugger} {op : Operation}
    (isReady : d.machine.state.ready d.machine.config.dialect = .ok op) :
    ∃ report first, d.step = (.ok report, first) := by
  rcases d.step_cases with ⟨fault, after, failed, -⟩ | ⟨report, first, -, done, -⟩
  · rw [Machine.step, State.step_eq, isReady] at failed
    cases failed
  · exact ⟨report, first, done⟩

/-- A debugger that keeps one step takes back a jump. -/
theorem stepBack_restores_jump :
    ∃ d report first,
      Debugger.new ((Machine.new {}).callAll [.load Machine.overrun]) 1 = .ok d ∧
        d.step = (.ok report, first) ∧
        (first.stepBacks 1).machine.capture = d.machine.capture := by
  obtain ⟨memory, loaded, jumps, -⟩ := Machine.ready_overrun (m := Machine.new {}) rfl
  obtain ⟨d, created, machine⟩ :=
    exists_debugger ((Machine.new {}).callAll [.load Machine.overrun])
  have isReady : d.machine.state.ready d.machine.config.dialect = .ok ⟨.jump, 0x1FFE⟩ := by
    rw [machine, Machine.callAll, Machine.callAll, loaded]
    exact jumps
  obtain ⟨report, first, done⟩ := exists_step isReady
  have forward : ∀ command ∈ ([] : List Command), command ≠ .stepBack := by simp
  have back := (stepBack_restores created []).2 report first [] done forward (Int.le_refl 1)
  exact ⟨d, report, first, created, done, back.1⟩

end Debugger

end ChipEight
