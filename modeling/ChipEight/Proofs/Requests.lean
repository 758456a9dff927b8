import ChipEight.Proofs.Frames
import ChipEight.Proofs.KeyWait

/-!
# Requests and their instructions

The instruction that takes a key stores it in its own register, and not in the one that the keypad
has on record.  The two are the same because a machine with an open request stays at the
instruction that made it: steps do not get past it and do not write over it, and a snapshot
brings back the instruction along with the request.  A host can break this only by a program that
it places under an open request, or by a snapshot from elsewhere.  `Machine.Orderly` rules out
both, and `Machine.request_names_register` is what then holds of every open request.
-/

namespace ChipEight

/-- A key that is taken closes the request. -/
theorem Keypad.waiting_of_taken {k rest : Keypad} {key : Int} (taken : k.take? = some (key, rest)) :
    rest.waiting = false := by
  cases waiting : k.waiting with
  | false =>
      rw [take?_of_idle waiting] at taken
      cases taken
  | true =>
      rw [take?_of_waiting waiting] at taken
      obtain ⟨met, -, same⟩ := Option.map_eq_some_iff.mp taken
      cases same
      rfl

namespace State

variable {d : Dialect} {op : Operation} {s t : State}

/-- The instruction at the program counter awaits a key, for the register that the keypad has on
record. -/
structure Asks (s : State) (op : Operation) : Prop where
  room : s.fetchFault? = none
  spelled : Operation.decode? s.word = some op
  kind : op.opcode = .awaitKey
  register : s.keypad.waitRegister = op.x.val

/-- If a request is open, the machine is at the instruction that made it. -/
def AtRequest (s : State) : Prop :=
  s.waiting = true → ∃ op, s.Asks op

theorem Asks.ready (asks : s.Asks op) (d : Dialect) : s.ready d = .ok op := by
  refine ready_eq_ok_iff.mpr ⟨asks.room, asks.spelled, ?_⟩
  simp only [Operation.fault?, asks.kind]

theorem atRequest_of_idle (idle : s.waiting = false) : s.AtRequest := by
  intro waiting
  rw [idle] at waiting
  cases waiting

/-- The record of accesses and the count of steps have no part in it. -/
theorem Asks.of_withLog {log other : List Access} {cycles : Nat}
    (same : t.withLog log = (s.withLog other).recounted cycles) (asks : s.Asks op) : t.Asks op := by
  have recounted : ((s.withLog other).recounted cycles).Asks op :=
    ⟨asks.room, asks.spelled, asks.kind, asks.register⟩
  rw [← same] at recounted
  exact ⟨recounted.room, recounted.spelled, recounted.kind, recounted.register⟩

/-- What a snapshot was taken of counts, wherever it is restored. -/
theorem AtRequest.of_ofState (atRequest : s.AtRequest)
    (captured : Snapshot.ofState s = Snapshot.ofState t) : t.AtRequest := by
  have same := withLog_recounted_of_ofState captured
  intro waiting
  have alsoWaiting : s.waiting = true := by
    change ((s.withLog []).recounted t.cycles).waiting = true
    rw [← same]
    exact waiting
  obtain ⟨op, asks⟩ := atRequest alsoWaiting
  exact ⟨op, asks.of_withLog same⟩

/-! ## Steps -/

theorem waiting_stepped (other : op.opcode ≠ .awaitKey) :
    (s.stepped d op).waiting = s.waiting :=
  congrArg Keypad.waiting (Operation.keypad_effect (s := s.fetched) other)

/-- An instruction that awaits a key which has not come asks from then on, if the request that is
open already is its own. -/
theorem asks_stepped (atRequest : s.AtRequest) (isReady : s.ready d = .ok op)
    (kind : op.opcode = .awaitKey) (absent : s.keypad.take? = none) :
    (s.stepped d op).Asks op := by
  obtain ⟨room, spelled, -⟩ := ready_eq_ok_iff.mp isReady
  rw [stepped_of_absent kind absent]
  refine ⟨room, spelled, kind, ?_⟩
  change (s.keypad.request op.x.val).waitRegister = op.x.val
  cases waiting : s.keypad.waiting with
  | true =>
      obtain ⟨asking, asks⟩ := atRequest waiting
      have same : asking = op := Option.some.inj (asks.spelled.symm.trans spelled)
      rw [Keypad.request_of_waiting waiting, asks.register, same]
  | false =>
      rw [Keypad.request, waiting]
      rfl

/-- A step leaves an open request where it is, opens one of its own, or closes it. -/
theorem AtRequest.step (atRequest : s.AtRequest) (d : Dialect) : (s.step d).2.AtRequest := by
  rw [step_eq]
  cases isReady : s.ready d with
  | error fault =>
      obtain ⟨log, failedEq⟩ := s.failed_eq_withLog
      simp only [failedEq]
      intro waiting
      obtain ⟨op, asks⟩ := atRequest waiting
      exact ⟨op, asks.room, asks.spelled, asks.kind, asks.register⟩
  | ok op =>
      by_cases kind : op.opcode = .awaitKey
      · cases taken : s.keypad.take? with
        | none => exact fun _ => ⟨op, asks_stepped atRequest isReady kind taken⟩
        | some met =>
            apply atRequest_of_idle
            simp only [stepped_of_taken kind taken]
            exact Keypad.waiting_of_taken taken
      · intro waiting
        rw [waiting_stepped kind] at waiting
        obtain ⟨asking, asks⟩ := atRequest waiting
        have same : asking = op := Except.ok.inj ((asks.ready d).symm.trans isReady)
        exact absurd (same ▸ asks.kind) kind

end State

namespace Machine

/-! ## Runs -/

/-- What a host may do: it loads a program only while no request is open, as before the first step
and after a reset, and it restores only snapshots taken of the machine. -/
def Fits (m : Machine) (taken : List Snapshot) : Call → Prop
  | .load _ => m.state.waiting = false
  | .restore source _ => ∃ snapshot ∈ taken, source = .snapshot snapshot
  | _ => True

/-- Some calls, one after the other, are of that kind.  Before each of them a snapshot may be taken,
which later ones may restore. -/
def Orderly (m : Machine) (taken : List Snapshot) : List Call → Prop
  | [] => True
  | call :: rest =>
      m.Fits (m.capture :: taken) call ∧ (m.call call).2.Orderly (m.capture :: taken) rest

variable {m : Machine} {taken : List Snapshot}

/-- All snapshots taken are of machines that were at the instruction of their open request. -/
def TakenAtRequest (taken : List Snapshot) : Prop :=
  ∀ snapshot ∈ taken, ∃ s : State, s.AtRequest ∧ snapshot = .ofState s

theorem TakenAtRequest.cons (atRequest : m.state.AtRequest) (all : TakenAtRequest taken) :
    TakenAtRequest (m.capture :: taken) :=
  List.forall_mem_cons.mpr ⟨⟨m.state, atRequest, rfl⟩, all⟩

theorem atRequest_restore {snapshot : Snapshot} {after : Machine} {fresh : Generator}
    (all : TakenAtRequest taken) (own : snapshot ∈ taken)
    (restored : m.restore (.snapshot snapshot) fresh = .ok after) : after.state.AtRequest := by
  obtain ⟨s, atRequest, rfl⟩ := all snapshot own
  cases valid : (Snapshot.ofState s).validate with
  | error complaint =>
      rw [restore_of_invalid valid] at restored
      cases restored
  | ok _ =>
      obtain ⟨other, alsoRestored, -, -, captured⟩ := restore_of_valid valid m fresh
      have same : other = after := Except.ok.inj (alsoRestored.symm.trans restored)
      rw [Snapshot.frozen_seeded_ofState, same] at captured
      exact atRequest.of_ofState captured.symm

theorem atRequest_call {call : Call} (atRequest : m.state.AtRequest)
    (all : TakenAtRequest taken) (fits : m.Fits taken call) : (m.call call).2.state.AtRequest := by
  cases call with
  | load program =>
      simp only [Machine.call, load]
      cases m.state.memory.loadProgram program with
      | error fault => exact atRequest
      | ok memory => exact State.atRequest_of_idle fits
  | step =>
      rw [call_step_eq]
      exact atRequest.step m.config.dialect
  | tick =>
      intro waiting
      obtain ⟨op, asks⟩ := atRequest waiting
      exact ⟨op, asks.room, asks.spelled, asks.kind, asks.register⟩
  | setKey key down =>
      simp only [Machine.call, setKey, Keypad.update]
      cases Keypad.key key with
      | error refusal => exact atRequest
      | ok number =>
          intro waiting
          obtain ⟨op, asks⟩ := atRequest waiting
          exact ⟨op, asks.room, asks.spelled, asks.kind, asks.register⟩
  | reset fresh => exact State.atRequest_of_idle rfl
  | restore source fresh =>
      obtain ⟨snapshot, own, rfl⟩ := fits
      simp only [Machine.call]
      cases restored : m.restore (.snapshot snapshot) fresh with
      | error failure => exact atRequest
      | ok after => exact atRequest_restore all own restored

theorem atRequest_callAll {calls : List Call} (atRequest : m.state.AtRequest)
    (all : TakenAtRequest taken) (orderly : m.Orderly taken calls) :
    (m.callAll calls).state.AtRequest := by
  induction calls generalizing m taken with
  | nil => exact atRequest
  | cons call rest ih =>
      have more := all.cons atRequest
      exact ih (atRequest_call atRequest more orderly.1) more orderly.2

/-! ## From the request to the key -/

theorem asks_of_opened {report : StepReport} {after : Machine} (atRequest : m.state.AtRequest)
    (done : m.call .step = (.ok (some report), after)) (idle : m.state.waiting = false)
    (opened : after.state.waiting = true) : after.state.Asks report.operation := by
  obtain ⟨op, isReady, rfl⟩ := ready_of_call_step done
  rw [call_step_of_ready isReady] at done
  cases done
  change (m.state.stepped m.config.dialect op).Asks op
  by_cases kind : op.opcode = .awaitKey
  · exact State.asks_stepped atRequest isReady kind (Keypad.take?_of_idle idle)
  · have unchanged := State.waiting_stepped (d := m.config.dialect) (s := m.state) kind
    rw [idle] at unchanged
    exact absurd (unchanged.symm.trans opened) Bool.false_ne_true

/-- A step that an open request awaits comes to its end. -/
theorem call_step_of_asks {op : Operation} (asks : m.state.Asks op) :
    m.call .step = (.ok (some (m.state.report m.config.dialect op)), (m.call .step).2) := by
  rw [call_step_of_ready (asks.ready _)]

/-- As long as no key has met it, an open request is left as it is by a step. -/
theorem step_of_unmet {op : Operation} (asks : m.state.Asks op) (waiting : m.state.waiting = true)
    (unmet : m.state.keypad.pending = none) :
    (m.call .step).2.state.registers = m.state.registers ∧
      (m.call .step).2.state.keypad = m.state.keypad := by
  have absent : m.state.keypad.take? = none := by
    rw [Keypad.take?_of_waiting waiting, unmet]
    rfl
  rw [call_step_of_ready (asks.ready _), State.stepped_of_absent asks.kind absent]
  exact ⟨rfl, Keypad.request_of_waiting waiting _⟩

/-- The key that has met a request is stored in the register on record. -/
theorem step_of_met {op : Operation} {key : Int} (inRange : m.state.keypad.InRange)
    (asks : m.state.Asks op) (waiting : m.state.waiting = true)
    (met : m.state.keypad.pending = some key) :
    (m.call .step).2.state.waiting = false ∧
      ∀ y : Nibble, (((m.call .step).2.state.v y).toNat : Int) =
        if (y.val : Int) = m.state.keypad.waitRegister then key
        else ((m.state.v y).toNat : Int) := by
  have taken : m.state.keypad.take? =
      some (key, { m.state.keypad with waiting := false, pending := none }) := by
    rw [Keypad.take?_of_waiting waiting, met]
    rfl
  rw [call_step_of_ready (asks.ready _), State.stepped_of_taken asks.kind taken, asks.register]
  refine ⟨rfl, fun y => ?_⟩
  change (((m.state.setV op.x (UInt8.ofInt key)).v y).toNat : Int) = _
  rw [State.v_setV]
  by_cases same : y = op.x
  · obtain ⟨lower, upper⟩ := inRange.pending key met
    rw [if_pos same, if_pos (by rw [same]), toNat_ofInt lower (by omega)]
  · have differs : (y.val : Int) ≠ op.x.val := fun equal => same (Fin.ext (by omega))
    rw [if_neg same, if_neg differs]

/-- Between the step that makes a request and the one that takes the key, the register on record
is the same. -/
theorem waitRegister_call {call : Call} (atRequest : m.state.AtRequest)
    (inRange : m.state.keypad.InRange) (routine : call.Routine) (before : m.state.waiting = true)
    (after : (m.call call).2.state.waiting = true) :
    (m.call call).2.state.keypad.waitRegister = m.state.keypad.waitRegister := by
  cases call with
  | step =>
      obtain ⟨op, asks⟩ := atRequest before
      cases met : m.state.keypad.pending with
      | none => rw [(step_of_unmet asks before met).2]
      | some key =>
          rw [(step_of_met inRange asks before met).1] at after
          cases after
  | tick => rfl
  | setKey key down =>
      simp only [Machine.call, setKey, Keypad.update]
      cases Keypad.key key with
      | error refusal => rfl
      | ok number => rfl
  | load | reset | restore => exact routine.elim

/-- What holds of a new machine after an orderly run.  A step that opens a request carries out an
instruction that awaits a key, and puts the register of that instruction on record.  As long as the
request is open, that register stays on record, the program counter is at a place from which a word
can be fetched, and the word there is an instruction that awaits a key for the register on record.
A step from there comes to its end: before a key has met the request it changes neither registers
nor keypad, and afterwards it stores the key in the register on record, and in no other. -/
theorem request_names_register (config : Config) (fresh : Generator) {calls : List Call}
    (orderly : (new config fresh).Orderly [] calls) :
    let m := (new config fresh).callAll calls
    (∀ report after, m.call .step = (.ok (some report), after) → m.state.waiting = false →
      after.state.waiting = true →
        report.operation.opcode = .awaitKey ∧
          after.state.keypad.waitRegister = report.operation.x.val) ∧
    (∀ call : Call, call.Routine → m.state.waiting = true →
      (m.call call).2.state.waiting = true →
        (m.call call).2.state.keypad.waitRegister = m.state.keypad.waitRegister) ∧
    (m.state.waiting = true → ∃ op report after,
      (0 ≤ m.state.registers.pc ∧ m.state.registers.pc ≤ 0xFFE) ∧
        Operation.decode? m.state.word = some op ∧ op.opcode = .awaitKey ∧
        m.state.keypad.waitRegister = op.x.val ∧
        m.call .step = (.ok (some report), after) ∧
        (m.state.keypad.pending = none →
          after.state.registers = m.state.registers ∧ after.state.keypad = m.state.keypad) ∧
        ∀ key, m.state.keypad.pending = some key →
          after.state.waiting = false ∧
            ∀ y : Nibble, ((after.state.v y).toNat : Int) =
              if (y.val : Int) = m.state.keypad.waitRegister then key
              else ((m.state.v y).toNat : Int)) := by
  intro m
  have inRange : m.state.keypad.InRange := (regular_callAll_new config fresh calls).keypad
  have noneTaken : TakenAtRequest [] := List.forall_mem_nil _
  have atRequest : m.state.AtRequest :=
    atRequest_callAll (State.atRequest_of_idle rfl) noneTaken orderly
  refine ⟨?_, ?_, ?_⟩
  · intro report after done idle opened
    have asks := asks_of_opened atRequest done idle opened
    exact ⟨asks.kind, asks.register⟩
  · intro call routine before after
    exact waitRegister_call atRequest inRange routine before after
  · intro waiting
    obtain ⟨op, asks⟩ := atRequest waiting
    have room := State.fetchFault?_eq_none.mp asks.room
    exact ⟨op, _, _, room, asks.spelled, asks.kind, asks.register, call_step_of_asks asks,
      step_of_unmet asks waiting, fun key => step_of_met inRange asks waiting⟩

/-- A request that a program of one instruction makes. -/
theorem awaits_loaded {m : Machine} (powerUp : m.state.registers.pc = 0x200)
    (idle : m.state.keypad = .initial) :
    let asked := m.callAll [.load [0xF3, 0x0A], .step]
    asked.Awaits ⟨.awaitKey, 0xF30A⟩ 0x200 none ∧ asked.state.keypad.keys = Keypad.initial.keys ∧
      asked.state.keypad.waitRegister = 3 := by
  have fits : ([0xF3, 0x0A] : List UInt8).length ≤ 3584 := by decide
  obtain ⟨memory, loaded, holds⟩ := call_load_of_fits m fits
  let first := m.withState { m.state with memory := memory }
  have here : first.state.registers.pc = (0 + 512 : Nat) := powerUp
  have isReady : first.state.ready first.config.dialect = .ok ⟨.awaitKey, 0xF30A⟩ :=
    State.ready_of_holds holds here (by decide) rfl rfl rfl rfl
  have stillIdle : first.state.keypad = .initial := idle
  have noRequest : first.state.keypad.waiting = false := by
    rw [stillIdle]
    rfl
  have awaits := awaits_of_asked isReady rfl noRequest
  rw [here] at awaits
  rw [callAll, loaded, callAll]
  refine ⟨awaits, ?_⟩
  rw [call_step_of_ready isReady,
    State.stepped_of_absent rfl (Keypad.take?_of_idle noRequest), stillIdle]
  exact ⟨rfl, rfl⟩

/-- A snapshot taken between request and key brings the request back after a key has met it. -/
theorem met_again {start : Machine} (regular : start.state.Regular)
    (powerUp : start.state.registers.pc = 0x200) (idle : start.state.keypad = .initial) :
    let asked := start.callAll [.load [0xF3, 0x0A], .step]
    let calls := [.load [0xF3, 0x0A], .step, .setKey 5 true, .step,
      .restore (.snapshot asked.capture) (.ofSeed 0), .setKey 7 true]
    let m := start.callAll calls
    start.Orderly [] calls ∧ m.state.waiting = true ∧ m.state.keypad.pending = some 7 ∧
      m.state.keypad.waitRegister = 3 := by
  intro asked calls m
  obtain ⟨awaits, keys, register⟩ := awaits_loaded powerUp idle
  have inside : 0 ≤ asked.state.registers.pc ∧ asked.state.registers.pc ≤ 0xFFE := by
    rw [awaits.pc_eq]
    decide
  have valid : asked.capture.validate = .ok () := by
    rw [capture, Snapshot.validate_ofState (regular_callAll regular _).keypad, if_pos inside]
  let taken := start.callAll [.load [0xF3, 0x0A], .step, .setKey 5 true, .step]
  obtain ⟨after, restored, -, -, captured⟩ := restore_of_valid valid taken (.ofSeed 0)
  rw [capture, capture, Snapshot.frozen_seeded_ofState] at captured
  have same := State.withLog_recounted_of_ofState captured.symm
  have keypad : after.state.keypad = asked.state.keypad := by
    change (after.state.withLog []).keypad = _
    rw [same]
    rfl
  have again : (taken.call (.restore (.snapshot asked.capture) (.ofSeed 0))).2 = after := by
    simp only [call, restored, settle]
  have last : m.state.keypad = asked.state.keypad.press 7 true := by
    change ((taken.call _).2.call (.setKey 7 true)).2.state.keypad = _
    rw [again, ← keypad]
    rfl
  have noRequest : start.state.waiting = false := by
    rw [State.waiting, idle]
    rfl
  refine ⟨⟨noRequest, trivial, trivial, trivial, ⟨asked.capture, ?_, rfl⟩, trivial, trivial⟩,
    ?_, ?_, ?_⟩
  · exact List.mem_cons_of_mem _ (List.mem_cons_of_mem _ List.mem_cons_self)
  · rw [State.waiting, last]
    exact awaits.waiting
  · have up : asked.state.keypad.keys.get 7 = false := by
      rw [keys]
      rfl
    rw [last, Keypad.pending_press awaits.waiting, if_pos ⟨rfl, up, awaits.pending⟩]
    rfl
  · rw [last]
    exact register

/-- The key that comes after such a snapshot ends up in the register of the request. -/
theorem request_names_register_restored :
    let asked := (new {}).callAll [.load [0xF3, 0x0A], .step]
    let calls := [.load [0xF3, 0x0A], .step, .setKey 5 true, .step,
      .restore (.snapshot asked.capture) (.ofSeed 0), .setKey 7 true]
    let m := (new {}).callAll calls
    (new {}).Orderly [] calls ∧ m.state.waiting = true ∧
      ∃ report after, m.call .step = (.ok (some report), after) ∧ after.state.waiting = false ∧
        ((after.state.v 3).toNat : Int) = 7 := by
  -- Stated for any new machine, so that nothing is evaluated.
  have general : ∀ (config : Config) (fresh : Generator),
      let start := new config fresh
      let asked := start.callAll [.load [0xF3, 0x0A], .step]
      let calls := [.load [0xF3, 0x0A], .step, .setKey 5 true, .step,
        .restore (.snapshot asked.capture) (.ofSeed 0), .setKey 7 true]
      let m := start.callAll calls
      start.Orderly [] calls ∧ m.state.waiting = true ∧
        ∃ report after, m.call .step = (.ok (some report), after) ∧ after.state.waiting = false ∧
          ((after.state.v 3).toNat : Int) = 7 := by
    intro config fresh start asked calls m
    have regular : start.state.Regular := State.regular_initial _ fresh
    obtain ⟨orderly, waiting, met, register⟩ := met_again regular rfl rfl
    obtain ⟨-, -, holds⟩ := request_names_register config fresh orderly
    obtain ⟨op, report, after, -, -, -, -, done, -, taken⟩ := holds waiting
    obtain ⟨closed, stored⟩ := taken 7 met
    exact ⟨orderly, waiting, report, after, done, closed, (stored 3).trans (if_pos register.symm)⟩
  exact general {} (.ofSeed 0)

end Machine

end ChipEight
