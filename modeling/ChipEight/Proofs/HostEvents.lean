import ChipEight.Proofs.Footprint

/-!
# Host events between steps

A tick changes the timers and nothing else, a key the keypad and nothing else.  An instruction that
has nothing to do with the one or the other is carried out in the same way before and after such an
event (`Operation.effect_withDevices`, `Operation.flow_withDevices`).  So the host may let an event
come one step earlier or later (`Machine.host_events_commute`), or at the other end of a whole row
of steps like that (`Machine.host_events_pass`).
-/

namespace ChipEight

namespace Opcode

/-- The kinds of instruction that read or set a timer. -/
def aboutTimers : List Opcode := [readDelay, setDelay, setSound]

/-- The kinds of instruction that look at a key or await one. -/
def aboutKeypad : List Opcode := [skipPressed, skipReleased, awaitKey]

end Opcode

variable {f : Keypad → Keypad} {g : Timers → Timers} {d : Dialect} {op : Operation} {s : State}

namespace State

/-- The state with its keypad and its timers changed from outside. -/
def withDevices (s : State) (f : Keypad → Keypad) (g : Timers → Timers) : State :=
  { s with keypad := f s.keypad, timers := g s.timers }

theorem registers_withDevices (s : State) : (s.withDevices f g).registers = s.registers :=
  rfl

theorem takeBytes_withDevices (s : State) (address : Nat) (registers : List Nibble) :
    (s.withDevices f g).takeBytes address registers =
      (s.takeBytes address registers).withDevices f g := by
  induction registers generalizing s address with
  | nil => rfl
  | cons register rest ih =>
      exact ih ({ s with memory := s.memory.noteRead (Memory.place address) }.setV register
        (s.memory.byte (Memory.place address))) (address + 1)

end State

/-! ## Instructions -/

namespace Operation

/-- Where the program goes on depends on no timer, and on no key but by the instructions about the
keypad. -/
theorem flow_withDevices (keypad : op.opcode ∈ Opcode.aboutKeypad → f = id) :
    op.flow d (s.withDevices f g) = op.flow d s := by
  cases kind : op.opcode with
  | skipPressed | skipReleased | awaitKey =>
      obtain rfl := keypad (by rw [kind]; decide)
      simp only [flow, kind]
      rfl
  | ret | jumpOffset | skipEqualByte | skipUnequalByte | skipEqual | skipUnequal =>
      simp only [flow, kind]
      rfl
  | _ => simp only [flow, kind]

/-- An instruction that has nothing to do with the devices does the same whatever has been done to
them, and leaves that as it is. -/
theorem effect_withDevices (timers : op.opcode ∈ Opcode.aboutTimers → g = id)
    (keypad : op.opcode = .awaitKey → f = id) :
    op.effect d (s.withDevices f g) = (op.effect d s).withDevices f g := by
  cases kind : op.opcode with
  | readDelay | setDelay | setSound =>
      obtain rfl := timers (by rw [kind]; decide)
      simp only [effect, kind]
      rfl
  | awaitKey =>
      obtain rfl := keypad kind
      simp only [effect, kind, awaited]
      cases taken : s.keypad.take? with
      | none => simp only [State.withDevices, id, taken]
      | some met =>
          simp only [State.withDevices, id, taken]
          rfl
  | or | and | xor =>
      simp only [effect, kind, setLogical]
      cases d.clearFlag <;> rfl
  | store =>
      simp only [effect, kind, advanceIndex]
      cases d.advanceIndex <;> rfl
  | load =>
      simp only [effect, kind, advanceIndex, State.registers_withDevices,
        State.takeBytes_withDevices]
      cases d.advanceIndex <;> rfl
  | jump | jumpOffset | skipEqualByte | skipUnequalByte | skipEqual | skipUnequal | skipPressed
  | skipReleased => simp only [effect, kind]
  | _ =>
      simp only [effect, kind]
      rfl

end Operation

/-! ## Steps -/

namespace State

theorem failed_withDevices (s : State) : (s.withDevices f g).failed = s.failed.withDevices f g := by
  have sameFetch : (s.withDevices f g).fetchFault? = s.fetchFault? := rfl
  unfold failed
  rw [sameFetch]
  cases s.fetchFault?.isSome <;> rfl

/-- Nor does it make a difference to the step, whether it ends in a fault or not. -/
theorem step_withDevices
    (timers : ∀ op, s.instruction? = some op → op.opcode ∈ Opcode.aboutTimers → g = id)
    (keypad : ∀ op, s.instruction? = some op → op.opcode ∈ Opcode.aboutKeypad → f = id) :
    (s.withDevices f g).step d = ((s.step d).1, (s.step d).2.withDevices f g) := by
  have sameReady : (s.withDevices f g).ready d = s.ready d := rfl
  rw [step_eq, step_eq, sameReady]
  cases isReady : s.ready d with
  | error fault => simp only [failed_withDevices]
  | ok op =>
      have spelled := instruction?_of_ready isReady
      have await : op.opcode = .awaitKey → f = id := by
        intro kind
        exact keypad op spelled (by rw [kind]; decide)
      have flow : op.flow d (s.withDevices f g) = op.flow d s :=
        Operation.flow_withDevices (keypad op spelled)
      have effect : op.effect d (s.withDevices f g).fetched =
          (op.effect d s.fetched).withDevices f g :=
        Operation.effect_withDevices (s := s.fetched) (timers op spelled) await
      simp only [report, stepped, flow, effect]
      rfl

end State

/-! ## Events -/

/-- A call of the host changes the keypad and the timers of every machine in a given way, and always
comes to the same. -/
def Call.ActsBy (event : Call) (f : Keypad → Keypad) (g : Timers → Timers) : Prop :=
  ∃ answer, ∀ m : Machine, m.call event = (answer, m.withState (m.state.withDevices f g))

theorem Call.actsBy_tick : Call.tick.ActsBy id Timers.tick :=
  ⟨.ok none, fun _ => rfl⟩

/-- The host sets a key that there is, or is told that there is none. -/
theorem Call.exists_actsBy_setKey (key : Int) (down : Bool) :
    ∃ f, (Call.setKey key down).ActsBy f id := by
  cases found : Keypad.key key with
  | error refusal =>
      refine ⟨id, .error (.refusal refusal), fun m => ?_⟩
      simp only [Machine.call, Machine.setKey, Keypad.update, found]
      rfl
  | ok place =>
      refine ⟨(·.press place down), .ok none, fun m => ?_⟩
      simp only [Machine.call, Machine.setKey, Keypad.update, found]
      rfl

namespace Machine

/-- Two calls come to the same in either order, and lead to the same machine. -/
structure Commutes (m : Machine) (first second : Call) : Prop where
  first_answer : ((m.call second).2.call first).1 = (m.call first).1
  second_answer : ((m.call first).2.call second).1 = (m.call second).1
  after : ((m.call first).2.call second).2 = ((m.call second).2.call first).2

variable {m : Machine} {event : Call}

/-- An event commutes with a step whose instruction has nothing to do with it. -/
theorem commutes_step (acts : event.ActsBy f g)
    (timers : ∀ op, m.state.instruction? = some op → op.opcode ∈ Opcode.aboutTimers → g = id)
    (keypad : ∀ op, m.state.instruction? = some op → op.opcode ∈ Opcode.aboutKeypad → f = id) :
    m.Commutes event .step := by
  obtain ⟨answer, acts⟩ := acts
  let changed := m.withState (m.state.withDevices f g)
  have stepped : changed.state.step m.config.dialect = _ := State.step_withDevices timers keypad
  have later : changed.call .step =
      ((m.call .step).1,
        (m.call .step).2.withState ((m.call .step).2.state.withDevices f g)) := by
    rw [call_step_eq, call_step_eq, config_withState, stepped]
    rfl
  constructor
  · rw [acts, acts]
  · rw [acts, later]
  · rw [acts, later, acts]

/-- Events on different devices commute. -/
theorem commutes_of_apart {other : Call} (keypad : event.ActsBy f id) (timers : other.ActsBy id g) :
    m.Commutes other event := by
  obtain ⟨answer, acts⟩ := keypad
  obtain ⟨otherAnswer, otherActs⟩ := timers
  constructor
  · rw [otherActs, otherActs]
  · rw [acts, acts]
  · rw [acts, otherActs, acts, otherActs]
    rfl

theorem tick_commutes_step
    (unrelated : ∀ op, m.state.instruction? = some op → op.opcode ∉ Opcode.aboutTimers) :
    m.Commutes .tick .step :=
  commutes_step Call.actsBy_tick
    (fun op spelled about => absurd about (unrelated op spelled)) fun _ _ _ => rfl

theorem setKey_commutes_step
    (unrelated : ∀ op, m.state.instruction? = some op → op.opcode ∉ Opcode.aboutKeypad)
    (key : Int) (down : Bool) : m.Commutes (.setKey key down) .step := by
  obtain ⟨f, acts⟩ := Call.exists_actsBy_setKey key down
  exact commutes_step acts (fun _ _ _ => rfl)
    fun op spelled about => absurd about (unrelated op spelled)

/-- It makes no difference whether the host lets an event come right before or right after a step
whose instruction has nothing to do with it.  A tick commutes with every step, whether it fails or
not, unless the word at the program counter reads or sets a timer.  A key going down or up, also one
that there is not, commutes with every step unless the word looks at a key or awaits one.  Ticks and
keys commute with each other. -/
theorem host_events_commute (m : Machine) (key : Int) (down : Bool) :
    ((∀ op, m.state.instruction? = some op → op.opcode ∉ Opcode.aboutTimers) →
        m.Commutes .tick .step) ∧
      ((∀ op, m.state.instruction? = some op → op.opcode ∉ Opcode.aboutKeypad) →
        m.Commutes (.setKey key down) .step) ∧
      m.Commutes .tick (.setKey key down) := by
  obtain ⟨f, acts⟩ := Call.exists_actsBy_setKey key down
  refine ⟨tick_commutes_step, ?_, commutes_of_apart acts Call.actsBy_tick⟩
  intro unrelated
  exact setKey_commutes_step unrelated key down

/-- A machine that awaits a key, and one that sets the sound timer. -/
theorem host_events_commute_await :
    ∃ m n : Machine,
      m.state.instruction? = some ⟨.awaitKey, 0xF00A⟩ ∧ m.Commutes .tick .step ∧
        n.state.instruction? = some ⟨.setSound, 0xF018⟩ ∧ n.Commutes (.setKey 5 true) .step := by
  have awaits : (facing 0xF0 0x0A).state.instruction? = some ⟨.awaitKey, 0xF00A⟩ :=
    instruction?_facing rfl
  have sets : (facing 0xF0 0x18).state.instruction? = some ⟨.setSound, 0xF018⟩ :=
    instruction?_facing rfl
  refine ⟨_, _, awaits, (host_events_commute _ 5 true).1 ?_, sets,
    (host_events_commute _ 5 true).2.1 ?_⟩
  · intro op spelled
    rw [awaits] at spelled
    cases spelled
    decide
  · intro op spelled
    rw [sets] at spelled
    cases spelled
    decide

/-! ## Rows of steps -/

/-- None of so many steps comes to an instruction of some kinds. -/
def Avoids (kinds : List Opcode) (m : Machine) : Nat → Prop
  | 0 => True
  | count + 1 =>
      (∀ op, m.state.instruction? = some op → op.opcode ∉ kinds) ∧
        (m.call .step).2.Avoids kinds count

/-- A call may come before some others as well as after them. -/
structure Passes (m : Machine) (event : Call) (calls : List Call) : Prop where
  answer : ((m.callAll calls).call event).1 = (m.call event).1
  answers : (m.call event).2.answers calls = m.answers calls
  after : (m.call event).2.callAll calls = ((m.callAll calls).call event).2

/-- What commutes with each step in a row may come before the row or after it. -/
theorem passes_steps {kinds : List Opcode} {count : Nat}
    (commutes : ∀ n : Machine, (∀ op, n.state.instruction? = some op → op.opcode ∉ kinds) →
      n.Commutes event .step)
    (avoids : m.Avoids kinds count) : m.Passes event (List.replicate count .step) := by
  induction count generalizing m with
  | zero => exact ⟨rfl, rfl, rfl⟩
  | succ count ih =>
      obtain ⟨unrelated, onwards⟩ := avoids
      have here := commutes m unrelated
      have passes := ih onwards
      rw [List.replicate_succ]
      constructor
      · exact passes.answer.trans here.first_answer
      · rw [Machine.answers, Machine.answers, here.second_answer, here.after, passes.answers]
      · rw [callAll, callAll, here.after, passes.after]

/-- A tick may come at either end of a row of steps that have nothing to do with the timers, and a
key at either end of one that has nothing to do with the keypad. -/
theorem host_events_pass (m : Machine) (count : Nat) (key : Int) (down : Bool) :
    (m.Avoids Opcode.aboutTimers count → m.Passes .tick (List.replicate count .step)) ∧
      (m.Avoids Opcode.aboutKeypad count →
        m.Passes (.setKey key down) (List.replicate count .step)) := by
  refine ⟨passes_steps fun n => tick_commutes_step, passes_steps fun n unrelated => ?_⟩
  exact setKey_commutes_step unrelated key down

end Machine

end ChipEight
