import ChipEight.Host
import ChipEight.Proofs.Snapshot

/-!
# Restoring

What a host hands over is either refused by a complaint, and the machine goes on as it was,
or it is restored in full.  There is no third way: once the checks are passed, no part of
the machine can refuse to be built.
-/

namespace ChipEight

namespace State

theorem restore_of_valid {snapshot : Snapshot} (valid : snapshot.validate = .ok ()) (s : State)
    (fresh : Generator) :
    ∃ t, s.restore (.snapshot snapshot) fresh = .ok t ∧ t.cycles = s.cycles ∧
      Snapshot.ofState t = (snapshot.seeded fresh).frozen := by
  obtain ⟨t, rebuilt, cycles, captured⟩ := Snapshot.rebuild_of_valid valid fresh s.cycles
  refine ⟨t, ?_, cycles, captured⟩
  simp only [restore, valid, rebuilt]
  rfl

end State

namespace Machine

variable {s : Snapshot} {complaint : Snapshot.Complaint}

theorem restore_of_invalid (invalid : s.validate = .error complaint) (m : Machine)
    (fresh : Generator) : m.restore (.snapshot s) fresh = .error (.complaint complaint) := by
  simp only [restore, State.restore, invalid]

theorem restore_of_valid (valid : s.validate = .ok ()) (m : Machine) (fresh : Generator) :
    ∃ after,
      m.restore (.snapshot s) fresh = .ok after ∧
        after.config = m.config ∧
        after.state.cycles = m.state.cycles ∧
        after.capture = (s.seeded fresh).frozen := by
  obtain ⟨t, restored, cycles, captured⟩ := State.restore_of_valid valid m.state fresh
  exact ⟨m.withState t, by simp only [restore, restored], rfl, cycles, captured⟩

/-- The outcome of a restoration.  A value that is no snapshot and a snapshot that does not
pass the checks are refused by a complaint, and nothing has changed.  Every other snapshot is
restored: configuration and count of instructions go on, and the machine then has the snapshot
that was handed over, byte strings counted as the bytes they hold, with the random numbers of
the surroundings where it had none. -/
theorem call_restore (m : Machine) (source : Restorable) (fresh : Generator) :
    match source with
    | .foreign value =>
        let failure : CallFailure := .restore (.complaint (.foreign value.kindName))
        m.call (.restore source fresh) = (.error failure, m) ∧ failure.label = "RestoreError"
    | .snapshot s =>
        match s.validate with
        | .error complaint =>
            let failure : CallFailure := .restore (.complaint complaint)
            m.call (.restore source fresh) = (.error failure, m) ∧ failure.label = "RestoreError"
        | .ok () =>
            ∃ after,
              m.call (.restore source fresh) = (.ok none, after) ∧
                after.config = m.config ∧
                after.state.cycles = m.state.cycles ∧
                after.capture = (s.seeded fresh).frozen ∧
                (s.random ≠ .null → after.capture = s.frozen) := by
  cases source with
  | foreign value => exact ⟨rfl, rfl⟩
  | snapshot s =>
      cases valid : s.validate with
      | error complaint =>
          simp only [valid, call, restore_of_invalid valid m fresh, settle]
          exact ⟨trivial, rfl⟩
      | ok _ =>
          obtain ⟨after, restored, config, cycles, captured⟩ := restore_of_valid valid m fresh
          simp only [valid, call, restored, settle]
          refine ⟨after, rfl, config, cycles, captured, ?_⟩
          intro present
          rw [← Snapshot.seeded_eq_self present fresh]
          exact captured

theorem validate_capture_new (config : Config) (fresh : Generator) :
    (new config fresh).capture.validate = .ok () := by
  have inRange : (new config fresh).state.keypad.InRange := Keypad.inRange_initial
  have start : 0 ≤ (new config fresh).state.registers.pc ∧
      (new config fresh).state.registers.pc ≤ 0xFFE := by
    change 0 ≤ (0x200 : Int) ∧ (0x200 : Int) ≤ 0xFFE
    decide
  rw [capture, Snapshot.validate_ofState inRange, if_pos start]

/-- A machine after power-up takes its own snapshot back. -/
theorem call_restore_powerUp :
    ∃ after, (new {}).call (.restore (.snapshot (new {}).capture) (.ofSeed 1)) = (.ok none, after) ∧
      after.capture = (new {}).capture.frozen := by
  -- Stated for any machine, so that nothing is evaluated.
  have general : ∀ m : Machine, m.capture.validate = .ok () →
      ∃ after, m.call (.restore (.snapshot m.capture) (.ofSeed 1)) = (.ok none, after) ∧
        after.capture = m.capture.frozen := by
    intro m valid
    have outcome := call_restore m (.snapshot m.capture) (.ofSeed 1)
    simp only [valid] at outcome
    obtain ⟨after, called, -, -, -, captured⟩ := outcome
    exact ⟨after, called, captured (Snapshot.random_ofState_ne_null _)⟩
  exact general (new {}) (validate_capture_new {} _)

end Machine

end ChipEight
