import ChipEight.Proofs.Faults

/-!
# The bounds of a machine

A snapshot shows every number that a machine holds.  `Machine.capture_bounded` says within
which bounds they stay, whatever a host does.  Of all of them only the program counter can
leave the range from which a machine goes on: an instruction in the last word of memory leads
it over the end.  From there every step fails, and nothing but a reset or a restoration gets
the machine away.
-/

namespace ChipEight

namespace Snapshot

/-- An integer from zero to a bound. -/
def IsNumber (bound : Nat) (value : Value) : Prop :=
  ∃ n : Int, value = .int n ∧ 0 ≤ n ∧ n ≤ bound

/-- A fixed sequence of so many integers from zero to a bound. -/
def AreNumbers (size bound : Nat) (value : Value) : Prop :=
  ∃ items, value = .tuple items ∧ items.length = size ∧ ∀ item ∈ items, IsNumber bound item

/-- The numbers in a snapshot lie within the bounds of a machine. -/
structure Bounded (s : Snapshot) : Prop where
  memory : ∃ data, s.memory = .bytes data ∧ data.length = 4096
  v : AreNumbers 16 0xFF s.v
  i : IsNumber 0xFFFF s.i
  pc : IsNumber 0x1002 s.pc
  sp : IsNumber 16 s.sp
  stack : AreNumbers 16 0xFFFF s.stack
  delay : IsNumber 0xFF s.delay
  sound : IsNumber 0xFF s.sound
  framebuffer : ∃ pixels, s.framebuffer = .bytes pixels ∧ pixels.length = 2048 ∧
    ∀ pixel ∈ pixels, pixel = 0 ∨ pixel = 1
  waitRegister : IsNumber 15 s.waitRegister
  pending : s.pending = .null ∨ IsNumber 15 s.pending

theorem isNumber_iff {bound : Nat} {value : Value} :
    isUpTo bound value = true ↔ IsNumber bound value := by
  constructor
  · intro accepted
    obtain ⟨n, small, rfl⟩ := isUpTo_iff.mp accepted
    exact ⟨n, rfl, by omega, by omega⟩
  · rintro ⟨n, rfl, lower, upper⟩
    exact isUpTo_int_iff.mpr ⟨lower, upper⟩

theorem areNumbers_of_isSequence {size bound : Nat} {value : Value}
    (accepted : isSequence size (isUpTo bound) value = true) : AreNumbers size bound value := by
  cases value with
  | tuple items =>
      simp only [isSequence, Bool.and_eq_true, beq_iff_eq, List.all_eq_true] at accepted
      exact ⟨items, rfl, accepted.1, fun item member => isNumber_iff.mp (accepted.2 item member)⟩
  | _ => simp [isSequence] at accepted

theorem binary_of_le_one {pixel : UInt8} (binary : pixel ≤ 1) : pixel = 0 ∨ pixel = 1 := by
  rw [← Screen.shade_of_le_one binary]
  cases pixel == 1
  · exact .inl rfl
  · exact .inr rfl

/-- The numbers of a regular state lie within the bounds of a machine. -/
theorem bounded_ofState {t : State} (regular : t.Regular) : (ofState t).Bounded where
  memory := ⟨t.memory.image, rfl, Vector.length_toList⟩
  v := areNumbers_of_isSequence (@accepts_ofState t .v nofun nofun nofun)
  i := isNumber_iff.mp (@accepts_ofState t .i nofun nofun nofun)
  pc := ⟨t.registers.pc, rfl, regular.pc_nonneg, regular.pc_le⟩
  sp := isNumber_iff.mp (@accepts_ofState t .sp nofun nofun nofun)
  stack := areNumbers_of_isSequence (@accepts_ofState t .stack nofun nofun nofun)
  delay := isNumber_iff.mp (@accepts_ofState t .delay nofun nofun nofun)
  sound := isNumber_iff.mp (@accepts_ofState t .sound nofun nofun nofun)
  framebuffer := by
    refine ⟨t.screen.image, rfl, ?_, ?_⟩
    · rw [Screen.image_eq, List.length_map, Vector.length_toList]
    · intro pixel member
      have small := List.all_eq_true.mp t.screen.binary_image pixel member
      exact binary_of_le_one (of_decide_eq_true small)
  waitRegister := ⟨t.keypad.waitRegister, rfl, regular.keypad.register⟩
  pending := by
    change ofPending t.keypad.pending = .null ∨ IsNumber 15 (ofPending t.keypad.pending)
    cases held : t.keypad.pending with
    | none => exact .inl rfl
    | some key => exact .inr ⟨key, rfl, regular.keypad.pending key held⟩

end Snapshot

namespace Machine

/-! ## Over the end of memory -/

/-- A call that lets a machine start from another place: a reset, or a restoration that
succeeds. -/
def Restarts (m : Machine) : Call → Prop
  | .reset _ => True
  | .restore source fresh => ∃ after, m.restore source fresh = .ok after
  | _ => False

/-- None of some calls, one after the other, lets the machine start from another place. -/
def Uninterrupted (m : Machine) : List Call → Prop
  | [] => True
  | call :: rest => ¬m.Restarts call ∧ (m.call call).2.Uninterrupted rest

theorem pc_of_restarts {m : Machine} {call : Call} (restarts : m.Restarts call) :
    (m.call call).2.state.registers.pc ≤ 0xFFE := by
  cases call with
  | reset fresh =>
      change (0x200 : Int) ≤ 0xFFE
      decide
  | restore source fresh =>
      obtain ⟨after, restored⟩ := restarts
      simp only [call, restored, settle]
      unfold restore at restored
      cases outcome : m.state.restore source fresh with
      | error failure => simp [outcome] at restored
      | ok state =>
          rw [outcome] at restored
          cases restored
          exact (State.free_numbers_restore outcome).1.2
  | load | step | tick | setKey => cases restarts

/-- A step from over the end of memory fails. -/
theorem step_beyond {m : Machine} (beyond : 0xFFE < m.state.registers.pc) :
    m.step = (.error (.outOfRange (max m.state.registers.pc 0x1000)),
      m.withState m.state.failed) := by
  have nonneg : 0 ≤ m.state.registers.pc := by omega
  have fetch := (State.fetchFault?_eq_some nonneg).mpr ⟨beyond, rfl⟩
  have unready : m.state.ready m.config.dialect =
      .error (.outOfRange (max m.state.registers.pc 0x1000)) := by
    simp only [State.ready, fetch]
  rw [step, State.step_eq, unready]

/-- A call that is neither a step nor a new start leaves the registers as they are. -/
theorem registers_call {m : Machine} {call : Call} (notStep : call ≠ .step)
    (goesOn : ¬m.Restarts call) : (m.call call).2.state.registers = m.state.registers := by
  cases call with
  | load program =>
      simp only [Machine.call, load]
      cases m.state.memory.loadProgram program <;> rfl
  | step => exact absurd rfl notStep
  | tick => rfl
  | setKey key down =>
      simp only [Machine.call, setKey]
      cases m.state.keypad.update key down <;> rfl
  | reset fresh => exact absurd trivial goesOn
  | restore source fresh =>
      simp only [Machine.call]
      cases restored : m.restore source fresh with
      | error failure => rfl
      | ok after => exact absurd ⟨after, restored⟩ goesOn

/-- A call that is no new start leaves the program counter where it is, over the end of
memory. -/
theorem pc_call_of_beyond {m : Machine} {call : Call} (beyond : 0xFFE < m.state.registers.pc)
    (goesOn : ¬m.Restarts call) :
    (m.call call).2.state.registers.pc = m.state.registers.pc := by
  by_cases isStep : call = .step
  · obtain ⟨log, failedEq⟩ := m.state.failed_eq_withLog
    simp only [isStep, Machine.call, step_beyond beyond, failedEq]
    rfl
  · rw [registers_call isStep goesOn]

theorem pc_callAll_of_beyond {m : Machine} {calls : List Call}
    (beyond : 0xFFE < m.state.registers.pc) (goesOn : m.Uninterrupted calls) :
    (m.callAll calls).state.registers.pc = m.state.registers.pc := by
  induction calls generalizing m with
  | nil => rfl
  | cons call rest ih =>
      have same := pc_call_of_beyond beyond goesOn.1
      rw [callAll, ih (by rw [same]; exact beyond) goesOn.2, same]

/-- Whatever a host does with a new machine, its numbers stay within their bounds.  Where the
program counter has run over the end of memory, every step fails, after whatever calls, until
one of them lets the machine start from another place, which lies in memory again. -/
theorem capture_bounded (config : Config) (fresh : Generator) (calls : List Call) :
    let m := (new config fresh).callAll calls
    m.capture.Bounded ∧
      (∀ later, 0xFFE < m.state.registers.pc → m.Uninterrupted later →
        let failure : CallFailure := .fault (.outOfRange (max m.state.registers.pc 0x1000))
        ((m.callAll later).call .step).1 = .error failure ∧
          failure.label = "AddressOutOfBounds") ∧
      ∀ call, m.Restarts call → (m.call call).2.state.registers.pc ≤ 0xFFE := by
  intro m
  refine ⟨Snapshot.bounded_ofState (regular_callAll_new config fresh calls), ?_,
    fun call => pc_of_restarts⟩
  intro later beyond goesOn failure
  have same : (m.callAll later).state.registers.pc = m.state.registers.pc :=
    pc_callAll_of_beyond beyond goesOn
  have stillBeyond : 0xFFE < (m.callAll later).state.registers.pc := by
    rw [same]
    exact beyond
  refine ⟨?_, rfl⟩
  simp only [call, step_beyond stillBeyond, same]
  rfl

/-- Keys, ticks, a failing step and another program do not help a machine that has run over the
end of memory. -/
theorem capture_bounded_overrun :
    let m := (new {}).callAll [.load overrun, .step, .step]
    let later := [.setKey 3 true, .step, .tick, .load []]
    m.Uninterrupted later ∧
      ((m.callAll later).call .step).1 = .error (.fault (.outOfRange 0x1000)) := by
  -- Stated for any calls, so that none of them is evaluated.
  have general : ∀ calls later : List Call,
      ((new {}).callAll calls).state.registers.pc = 0x1000 →
        ((new {}).callAll calls).Uninterrupted later →
          ((((new {}).callAll calls).callAll later).call .step).1 =
            .error (.fault (.outOfRange 0x1000)) := by
    intro calls later there goesOn
    have beyond : 0xFFE < ((new {}).callAll calls).state.registers.pc := by
      rw [there]
      decide
    obtain ⟨-, fails, -⟩ := capture_bounded {} (.ofSeed 0) calls
    have failed := (fails later beyond goesOn).1
    rw [there] at failed
    exact failed
  have goesOn : ((new {}).callAll [.load overrun, .step, .step]).Uninterrupted
      [.setKey 3 true, .step, .tick, .load []] :=
    ⟨nofun, nofun, nofun, nofun, trivial⟩
  exact ⟨goesOn, general _ _ (pc_overrun rfl) goesOn⟩

end Machine

end ChipEight
