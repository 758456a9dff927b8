import ChipEight.Machine
import ChipEight.Proofs.Execution

/-!
# What a step does

A step can fail at three places: when it fetches a word, when it decodes it, and when it
carries out the instruction.  `State.step_eq` gives the outcome of a step in each case.
Two readings of it are what other files use: a step that ends in a fault leaves everything
but the record of accesses as it was (`State.step_error`), and a step that comes to its end
has carried out the instruction at the program counter (`State.step_ok`).
-/

namespace ChipEight

namespace State

/-- The state with another record of accesses. -/
def withLog (s : State) (log : List Access) : State :=
  { s with memory := { s.memory with log := log } }

/-! ## Fetching -/

/-- The fault of a fetch from where no whole word lies. -/
def fetchFault? (s : State) : Option Fault :=
  if s.registers.pc < 0 then some (.outOfRange s.registers.pc)
  else Memory.blockFault? s.registers.pc.toNat 2

/-- The place of the first byte of the word at the program counter. -/
def highPlace (s : State) : Address :=
  Memory.place s.registers.pc.toNat

/-- The place of the second byte of the word at the program counter. -/
def lowPlace (s : State) : Address :=
  Memory.place (s.registers.pc.toNat + 1)

/-- The word at the program counter, high byte first. -/
def word (s : State) : Int :=
  256 * (s.memory.byte s.highPlace).toNat + (s.memory.byte s.lowPlace).toNat

/-- The state in which an instruction is carried out: its word is all that is on record. -/
def fetched (s : State) : State :=
  s.withLog [.read s.highPlace (s.memory.byte s.highPlace),
    .read s.lowPlace (s.memory.byte s.lowPlace)]

theorem fetchFault?_eq_none {s : State} :
    s.fetchFault? = none ↔ 0 ≤ s.registers.pc ∧ s.registers.pc ≤ 0xFFE := by
  unfold fetchFault?
  by_cases negative : s.registers.pc < 0
  · rw [if_pos negative]
    constructor
    · intro impossible
      cases impossible
    · rintro ⟨bound, -⟩
      exact absurd bound (Int.not_le.mpr negative)
  · rw [if_neg negative, Memory.blockFault?_eq_none]
    omega

theorem word_eq {s : State} {pc : Nat} (here : s.registers.pc = pc) (inside : pc + 1 < 4096) :
    s.word = 256 * s.memory.bytes[pc].toNat + s.memory.bytes[pc + 1].toNat := by
  have start : s.registers.pc.toNat = pc := by omega
  have high : s.highPlace = ⟨pc, by omega⟩ := by
    apply Fin.ext
    rw [highPlace, start, Memory.place_val (by omega)]
  have low : s.lowPlace = ⟨pc + 1, inside⟩ := by
    apply Fin.ext
    rw [lowPlace, start, Memory.place_val inside]
  simp only [word, high, low]
  rfl

end State

namespace Action

theorem run_takeLog (s : State) : takeLog.run s = (.ok s.memory.log, s.withLog []) :=
  rfl

theorem run_fetch_error {s : State} {fault : Fault} (outside : s.fetchFault? = some fault) :
    fetch.run s = (.error fault, s) := by
  rw [fetch, run_bind_ok (run_get s)]
  apply run_bind_error
  unfold State.fetchFault? at outside
  by_cases negative : s.registers.pc < 0
  · rw [if_pos negative] at outside
    rw [checkRange, run_lift, Memory.checkRange, if_pos negative, Option.some.inj outside]
  · rw [if_neg negative] at outside
    have start : (s.registers.pc.toNat : Int) = s.registers.pc := by omega
    have checked := Operation.run_checkRange_error s (by decide) outside
    rw [start] at checked
    exact checked

/-- Where a whole word lies, it is fetched, and its two bytes are on record. -/
theorem run_fetch_ok {s : State} (inside : s.fetchFault? = none) :
    fetch.run (s.withLog []) = (.ok s.word, s.fetched) := by
  have bounds := State.fetchFault?_eq_none.mp inside
  have start : (s.registers.pc.toNat : Int) = s.registers.pc := by omega
  have block : Memory.blockFault? s.registers.pc.toNat 2 = none :=
    Memory.blockFault?_eq_none.mpr (by omega)
  have checked := Operation.run_checkRange_ok (s.withLog []) (by decide) block
  have firstInside : s.registers.pc.toNat < 4096 := by omega
  have secondInside : s.registers.pc.toNat + 1 < 4096 := by omega
  have high := run_readByte firstInside (s.withLog [])
  have low := run_readByte secondInside
    (s.withLog [.read s.highPlace (s.memory.byte s.highPlace)])
  rw [Int.natCast_succ] at low
  rw [start] at checked high low
  refine (run_bind_ok (run_get _)).trans ?_
  refine (run_bind_ok checked).trans ?_
  refine (run_bind_ok high).trans ?_
  exact run_bind_ok low

end Action

/-! ## The whole step -/

namespace State

variable (d : Dialect) (s : State)

/-- The instruction that a step carries out, or the fault that keeps it from doing so: of
the fetch, of the decoding, or of the instruction itself. -/
def ready : Except Fault Operation :=
  match s.fetchFault? with
  | some fault => .error fault
  | none =>
      match Operation.decode? s.word with
      | none => .error (.unknownInstruction s.word s.registers.pc)
      | some op =>
          match op.fault? d s with
          | some fault => .error fault
          | none => .ok op

/-- The state after a step that ends in a fault. -/
def failed : State :=
  if s.fetchFault?.isSome then s.withLog [] else s.fetched

/-- The state after an instruction that met no fault. -/
def stepped (op : Operation) : State :=
  let t := op.effect d s.fetched
  { t with
    memory := t.memory.takeLog.2
    registers := { t.registers with pc := (op.flow d s).apply s.registers.pc }
    cycles := t.cycles + 1 }

/-- The report on an instruction that met no fault. -/
def report (op : Operation) : StepReport where
  waiting := op.flow d s = .wait
  pc := s.registers.pc
  nextPc := (op.flow d s).apply s.registers.pc
  operation := op
  cycle := (op.effect d s.fetched).cycles + 1
  symbol := op.text
  activity := (op.effect d s.fetched).memory.log

/-- A step ends in a fault, or it carries out the instruction at the program counter. -/
theorem step_eq :
    s.step d =
      match s.ready d with
      | .error fault => (.error fault, s.failed)
      | .ok op => (.ok (s.report d op), s.stepped d op) := by
  refine (Action.run_bind_ok (Action.run_takeLog s)).trans ?_
  refine (Action.run_bind_ok (Action.run_get _)).trans ?_
  cases fetch : s.fetchFault? with
  | some fault =>
      have unready : s.ready d = .error fault := by simp only [ready, fetch]
      have after : s.failed = s.withLog [] := by simp [failed, fetch]
      rw [unready, after]
      exact Action.run_bind_error (Action.run_fetch_error (s := s.withLog []) fetch)
  | none =>
      refine (Action.run_bind_ok (Action.run_fetch_ok fetch)).trans ?_
      have after : s.failed = s.fetched := by simp [failed, fetch]
      rw [Action.decode, after]
      cases decoded : Operation.decode? s.word with
      | none =>
          have unready : s.ready d = .error (.unknownInstruction s.word s.registers.pc) := by
            simp only [ready, fetch, decoded]
          rw [unready]
          exact Action.run_bind_error (Action.run_throw _ _)
      | some op =>
          refine (Action.run_bind_ok (Action.run_pure op _)).trans ?_
          have executed := Operation.run_execute d op s.fetched
          have sameFault : op.fault? d s.fetched = op.fault? d s := rfl
          rw [Operation.outcome, sameFault] at executed
          cases met : op.fault? d s with
          | some fault =>
              have unready : s.ready d = .error fault := by simp only [ready, fetch, decoded, met]
              rw [met] at executed
              rw [unready]
              exact Action.run_bind_error executed
          | none =>
              have isReady : s.ready d = .ok op := by simp only [ready, fetch, decoded, met]
              rw [met] at executed
              rw [isReady]
              exact Action.run_bind_ok executed

theorem failed_eq_withLog : ∃ log, s.failed = s.withLog log := by
  unfold failed
  by_cases outside : s.fetchFault?.isSome
  · exact ⟨_, if_pos outside⟩
  · exact ⟨_, if_neg outside⟩

theorem ready_eq_ok_iff {d : Dialect} {s : State} {op : Operation} :
    s.ready d = .ok op ↔
      s.fetchFault? = none ∧ Operation.decode? s.word = some op ∧ op.fault? d s = none := by
  unfold ready
  cases s.fetchFault? with
  | some fault => simp
  | none =>
      cases Operation.decode? s.word with
      | none => simp
      | some found =>
          constructor
          · intro isReady
            cases met : found.fault? d s with
            | some fault => simp [met] at isReady
            | none =>
                simp only [met, Except.ok.injEq] at isReady
                subst isReady
                exact ⟨rfl, rfl, met⟩
          · rintro ⟨-, found, met⟩
            cases found
            simp [met]

/-- A step is ready for the instruction that the two bytes at the program counter spell. -/
theorem ready_of_bytes {s : State} {d : Dialect} {pc word : Nat} {op : Operation}
    (here : s.registers.pc = pc) (inside : pc + 1 < 4096)
    (bytes : 256 * s.memory.bytes[pc].toNat + s.memory.bytes[pc + 1].toNat = word)
    (decoded : Operation.decode? word = some op) (met : op.fault? d s = none) :
    s.ready d = .ok op := by
  have room : s.fetchFault? = none := fetchFault?_eq_none.mpr (by omega)
  have spelled : s.word = word := by
    rw [word_eq here inside]
    omega
  exact ready_eq_ok_iff.mpr ⟨room, by rw [spelled, decoded], met⟩

/-- A step that ends in a fault leaves everything but the record of accesses as it was. -/
theorem step_error {s t : State} {d : Dialect} {fault : Fault}
    (failed : s.step d = (.error fault, t)) : ∃ log, t = s.withLog log := by
  rw [step_eq] at failed
  cases isReady : s.ready d with
  | error reason =>
      rw [isReady] at failed
      cases failed
      exact failed_eq_withLog s
  | ok op =>
      rw [isReady] at failed
      cases failed

/-- A step that comes to its end has carried out the instruction at the program counter. -/
theorem step_ok {s t : State} {d : Dialect} {report : StepReport}
    (done : s.step d = (.ok report, t)) :
    ∃ op, s.ready d = .ok op ∧ report = s.report d op ∧ t = s.stepped d op := by
  rw [step_eq] at done
  cases isReady : s.ready d with
  | error reason =>
      rw [isReady] at done
      cases done
  | ok op =>
      rw [isReady] at done
      cases done
      exact ⟨op, rfl, rfl, rfl⟩

end State

namespace Memory

/-- Memory with nothing in it but the first word of a program. -/
def ofWord (high low : UInt8) (log : List Access) : Memory where
  bytes := ((Vector.replicate 4096 0).set 512 high).set 513 low
  log := log

theorem high_ofWord (high low : UInt8) (log : List Access) :
    (ofWord high low log).bytes[512] = high := by
  simp [ofWord]

theorem low_ofWord (high low : UInt8) (log : List Access) :
    (ofWord high low log).bytes[513] = low := by
  simp [ofWord]

end Memory

namespace Machine

/-- A step of a machine is a step of its state. -/
theorem state_step {m after : Machine} {result : Except Fault StepReport}
    (stepped : m.step = (result, after)) :
    m.state.step m.config.dialect = (result, after.state) ∧ after.config = m.config := by
  unfold step at stepped
  cases outcome : m.state.step m.config.dialect with
  | mk found state =>
      rw [outcome] at stepped
      cases stepped
      exact ⟨rfl, rfl⟩

/-- A step that ends in a fault has changed nothing but the record of accesses: neither the
bytes of memory, nor a register, the stack or its depth, the screen, the keypad, a timer, the
random numbers, the count of steps or the configuration. -/
theorem step_error_unchanged {m after : Machine} {fault : Fault}
    (failed : m.step = (.error fault, after)) :
    after.state.memory.bytes = m.state.memory.bytes ∧
      after.state.registers = m.state.registers ∧
      after.state.screen = m.state.screen ∧
      after.state.keypad = m.state.keypad ∧
      after.state.timers = m.state.timers ∧
      after.state.random = m.state.random ∧
      after.state.cycles = m.state.cycles ∧
      after.config = m.config ∧
      after.capture = m.capture := by
  obtain ⟨stateStep, sameConfig⟩ := state_step failed
  obtain ⟨log, stateEq⟩ := State.step_error stateStep
  rw [capture, stateEq]
  exact ⟨rfl, rfl, rfl, rfl, rfl, rfl, rfl, sameConfig, rfl⟩

/-- Two registers do not fit at the last address of memory. -/
theorem step_error_unchanged_store :
    ∃ m after : Machine,
      m.step = (.error (.outOfRange 0x1000), after) ∧ after.capture = m.capture := by
  let m := (new {}).withState
    { State.initial (some 0) with
      memory := .ofWord 0xF1 0x55 []
      registers := { Registers.initial with i := 0xFFF } }
  have high : m.state.memory.bytes[512] = 0xF1 := Memory.high_ofWord _ _ _
  have low : m.state.memory.bytes[513] = 0x55 := Memory.low_ofWord _ _ _
  have here : m.state.registers.pc = (512 : Nat) := rfl
  have word : m.state.word = 0xF155 := by
    rw [State.word_eq here (by decide), high, low]
    rfl
  have notReady : m.state.ready m.config.dialect = .error (.outOfRange 0x1000) := by
    rw [State.ready, word]
    rfl
  have failed : m.step = (.error (.outOfRange 0x1000), m.withState m.state.failed) := by
    rw [step, State.step_eq, notReady]
  obtain ⟨-, -, -, -, -, -, -, -, unchanged⟩ := step_error_unchanged failed
  exact ⟨m, _, failed, unchanged⟩

end Machine

end ChipEight
