import ChipEight.Proofs.Reachable

/-!
# Waiting for a key

An instruction that awaits a key is carried out again and again until a key has gone down.
`Machine.step_awaitKey` follows a machine from the step that makes the request: as long as no
key goes down that was up, steps only count themselves; the first key that does is kept, whatever
happens to it and to others before the next step, and that step takes it.
-/

namespace ChipEight

/-- What may go on around a machine that waits: steps, ticks, and keys that go up and down. -/
def Call.Routine : Call → Prop
  | .step | .tick | .setKey _ _ => True
  | _ => False

namespace State

/-- The state after the instruction at the program counter has taken a key for a register. -/
def received (s : State) (x : Nibble) (key : Int) : State :=
  { s with
    registers := { s.registers.setV x (UInt8.ofInt key) with pc := s.registers.pc + 2 }
    keypad := { s.keypad with waiting := false, pending := none }
    cycles := s.cycles + 1 }

variable {d : Dialect} {op : Operation} {s : State}

/-- The register holds the number of the key. -/
theorem v_received (s : State) (x : Nibble) (key : Fin 16) :
    (((s.received x key.val).v x).toNat : Int) = key.val := by
  change (((s.setV x (UInt8.ofInt key.val)).v x).toNat : Int) = key.val
  rw [v_setV, if_pos rfl, toNat_ofInt (by omega) (by omega)]

theorem withLog_nil (empty : s.memory.log = []) : s.withLog [] = s := by
  rw [withLog, ← empty]

/-- An instruction that awaits a key which has not come opens a request and stays where it is. -/
theorem stepped_of_absent (kind : op.opcode = .awaitKey) (absent : s.keypad.take? = none) :
    s.stepped d op =
      { s.withLog [] with keypad := s.keypad.request op.x.val, cycles := s.cycles + 1 } := by
  have fetched : s.fetched.keypad.take? = none := absent
  simp only [stepped, Operation.effect, Operation.flow, kind, Operation.awaited, fetched, absent]
  rfl

theorem stepped_of_taken {key : Int} {rest : Keypad} (kind : op.opcode = .awaitKey)
    (taken : s.keypad.take? = some (key, rest)) :
    s.stepped d op =
      { s.withLog [] with
        registers := { s.registers.setV op.x (UInt8.ofInt key) with pc := s.registers.pc + 2 }
        keypad := rest
        cycles := s.cycles + 1 } := by
  have fetched : s.fetched.keypad.take? = some (key, rest) := taken
  simp only [stepped, Operation.effect, Operation.flow, kind, Operation.awaited, fetched, taken]
  rfl

theorem waiting_report (kind : op.opcode = .awaitKey) :
    (s.report d op).waiting = s.keypad.take?.isNone := by
  simp only [report, Operation.flow, kind]
  cases s.keypad.take? <;> rfl

end State

/-! ## The keypad -/

namespace Keypad

variable {k : Keypad}

theorem key_eq_ok_iff {number : Int} {place : Fin 16} :
    key number = .ok place ↔ number = place.val := by
  unfold key
  by_cases inside : 0 ≤ number ∧ number < 16
  · rw [dif_pos inside, Except.ok.injEq, Fin.ext_iff]
    change number.toNat = place.val ↔ number = place.val
    omega
  · rw [dif_neg inside]
    simp only [reduceCtorEq, false_iff]
    omega

theorem isDown_eq_ok_iff {number : Int} {down : Bool} :
    k.isDown number = .ok down ↔
      ∃ place : Fin 16, number = place.val ∧ k.keys.get place = down := by
  unfold isDown
  cases found : key number with
  | error refusal =>
      simp only [reduceCtorEq, false_iff]
      rintro ⟨place, named, -⟩
      rw [key_eq_ok_iff.mpr named] at found
      contradiction
  | ok place =>
      have named := key_eq_ok_iff.mp found
      simp only [Except.ok.injEq]
      constructor
      · intro same
        exact ⟨place, named, same⟩
      · rintro ⟨other, alsoNamed, same⟩
        have equal : place = other := by omega
        rw [← equal] at same
        exact same

theorem take?_of_idle (idle : k.waiting = false) : k.take? = none := by
  rw [take?, idle]
  rfl

theorem take?_of_waiting (waiting : k.waiting = true) :
    k.take? = k.pending.map fun key => (key, { k with waiting := false, pending := none }) := by
  rw [take?, if_pos waiting]

theorem request_of_waiting (waiting : k.waiting = true) (register : Int) :
    k.request register = k := by
  rw [request, if_pos waiting]

theorem keys_press (k : Keypad) (place other : Fin 16) (down : Bool) :
    (k.press place down).keys.get other = if place = other then down else k.keys.get other := by
  change (k.press place down).keys[other] = if place = other then down else k.keys[other]
  simp [press, Vector.getElem_set, Fin.ext_iff]

/-- A key meets an open request if it goes down, was up, and none has met the request. -/
theorem pending_press (waiting : k.waiting = true) (place : Fin 16) (down : Bool) :
    (k.press place down).pending =
      if down = true ∧ k.keys.get place = false ∧ k.pending = none then some (place.val : Int)
      else k.pending := by
  change (k.press place down).pending =
    if down = true ∧ k.keys[place] = false ∧ k.pending = none then some (place.val : Int)
    else k.pending
  simp [press, waiting]

end Keypad

namespace Machine

/-! ## A machine that waits -/

/-- Whether a key that the host names is up. -/
def IsUp (m : Machine) (key : Int) : Prop :=
  m.state.keypad.isDown key = .ok false

/-- None of some calls, one after the other, presses a key that is up. -/
def Quiet (m : Machine) : List Call → Prop
  | [] => True
  | call :: rest => (∀ key, call = .setKey key true → ¬m.IsUp key) ∧ (m.call call).2.Quiet rest

/-- The machine stands at an instruction that awaits a key and has made its request, which the
given key has met, or none. -/
structure Awaits (m : Machine) (op : Operation) (pc : Int) (met : Option Int) : Prop where
  ready : m.state.ready m.config.dialect = .ok op
  kind : op.opcode = .awaitKey
  pc_eq : m.state.registers.pc = pc
  waiting : m.state.keypad.waiting = true
  pending : m.state.keypad.pending = met
  log : m.state.memory.log = []

theorem isUp_setKey {m : Machine} {key other : Int} {down : Bool}
    (up : (m.call (.setKey other down)).2.IsUp key) :
    m.IsUp key ∨ Call.setKey other down = .setKey key false := by
  simp only [call, setKey, Keypad.update] at up
  cases found : Keypad.key other with
  | error refusal =>
      rw [found] at up
      exact .inl up
  | ok place =>
      rw [found] at up
      have named := Keypad.key_eq_ok_iff.mp found
      obtain ⟨watched, rfl, isUp⟩ := Keypad.isDown_eq_ok_iff.mp up
      have pressed := m.state.keypad.keys_press place watched down
      have isUp := pressed.symm.trans isUp
      by_cases same : place = watched
      · rw [if_pos same] at isUp
        exact .inr (by rw [named, same, isUp])
      · rw [if_neg same] at isUp
        exact .inl (Keypad.isDown_eq_ok_iff.mpr ⟨watched, rfl, isUp⟩)

/-- The step that makes a request. -/
theorem awaits_of_asked {m : Machine} {op : Operation}
    (isReady : m.state.ready m.config.dialect = .ok op) (kind : op.opcode = .awaitKey)
    (idle : m.state.keypad.waiting = false) :
    (m.call .step).2.Awaits op m.state.registers.pc none := by
  have absent := Keypad.take?_of_idle idle
  rw [call_step_of_ready isReady, State.stepped_of_absent kind absent]
  have requested : m.state.keypad.request op.x.val =
      { m.state.keypad with waiting := true, waitRegister := op.x.val, pending := none } := by
    rw [Keypad.request, idle]
    rfl
  rw [requested]
  exact ⟨isReady, kind, rfl, rfl, rfl, rfl⟩

namespace Awaits

variable {m : Machine} {op : Operation} {pc : Int} {met : Option Int}

theorem take?_eq (awaits : m.Awaits op pc met) :
    m.state.keypad.take? = met.map fun key =>
      (key, { m.state.keypad with waiting := false, pending := none }) := by
  rw [Keypad.take?_of_waiting awaits.waiting, awaits.pending]

/-- As long as no key has met the request, a step does nothing but count itself. -/
theorem step_absent (awaits : m.Awaits op pc none) :
    m.call .step = (.ok (some (m.state.report m.config.dialect op)),
        m.withState { m.state with cycles := m.state.cycles + 1 }) ∧
      (m.state.report m.config.dialect op).waiting = true := by
  have absent : m.state.keypad.take? = none := awaits.take?_eq
  constructor
  · rw [call_step_of_ready awaits.ready, State.stepped_of_absent awaits.kind absent,
      State.withLog_nil awaits.log, Keypad.request_of_waiting awaits.waiting]
  · rw [State.waiting_report awaits.kind, absent]
    rfl

/-- Once a key has met the request, a step takes it. -/
theorem step_met {key : Int} (awaits : m.Awaits op pc (some key)) :
    m.call .step = (.ok (some (m.state.report m.config.dialect op)),
        m.withState (m.state.received op.x key)) ∧
      (m.state.report m.config.dialect op).waiting = false := by
  have taken := awaits.take?_eq
  constructor
  · rw [call_step_of_ready awaits.ready, State.stepped_of_taken awaits.kind taken,
      State.withLog_nil awaits.log]
    rfl
  · rw [State.waiting_report awaits.kind, taken]
    rfl

theorem call_step (awaits : m.Awaits op pc none) : (m.call .step).2.Awaits op pc none := by
  rw [awaits.step_absent.1]
  exact ⟨awaits.ready, awaits.kind, awaits.pc_eq, awaits.waiting, awaits.pending, awaits.log⟩

theorem call_tick (awaits : m.Awaits op pc met) : (m.call .tick).2.Awaits op pc met :=
  ⟨awaits.ready, awaits.kind, awaits.pc_eq, awaits.waiting, awaits.pending, awaits.log⟩

/-- Another state of a key, after which the request is met as the keypad says. -/
theorem press (awaits : m.Awaits op pc met) (place : Fin 16) (down : Bool) :
    (m.withState { m.state with keypad := m.state.keypad.press place down }).Awaits op pc
      (m.state.keypad.press place down).pending :=
  ⟨awaits.ready, awaits.kind, awaits.pc_eq, awaits.waiting, rfl, awaits.log⟩

/-- A key that goes up, that is down already or that comes after another leaves the request as
it is. -/
theorem call_setKey (awaits : m.Awaits op pc met) {key : Int} {down : Bool}
    (late : met = none → down = true → ¬m.IsUp key) :
    (m.call (.setKey key down)).2.Awaits op pc met := by
  simp only [call, setKey, Keypad.update]
  cases found : Keypad.key key with
  | error refusal => exact awaits
  | ok place =>
      have named := Keypad.key_eq_ok_iff.mp found
      have pressed := awaits.press place down
      rw [Keypad.pending_press awaits.waiting, awaits.pending, if_neg] at pressed
      · exact pressed
      · rintro ⟨goesDown, up, absent⟩
        exact late absent goesDown (Keypad.isDown_eq_ok_iff.mpr ⟨place, named, up⟩)

/-- The first key that goes down meets the request. -/
theorem call_press (awaits : m.Awaits op pc none) {key : Int} (up : m.IsUp key) :
    (m.call (.setKey key true)).2.Awaits op pc (some key) := by
  obtain ⟨place, rfl, isUp⟩ := Keypad.isDown_eq_ok_iff.mp up
  have pressed := awaits.press place true
  rw [Keypad.pending_press awaits.waiting, if_pos ⟨rfl, isUp, awaits.pending⟩] at pressed
  simp only [call, setKey, Keypad.update, Keypad.key_eq_ok_iff.mpr rfl]
  exact pressed

/-- One call around a machine that waits, where no key goes down that was up. -/
theorem call_quiet (awaits : m.Awaits op pc none) {call : Call} (routine : call.Routine)
    (quiet : ∀ key, call = .setKey key true → ¬m.IsUp key) :
    (m.call call).2.Awaits op pc none := by
  cases call with
  | step => exact awaits.call_step
  | tick => exact awaits.call_tick
  | setKey key down =>
      refine awaits.call_setKey ?_
      rintro - rfl
      exact quiet key rfl
  | load | reset | restore => exact routine.elim

/-- A key that is down stays down until it is released. -/
theorem isUp_call (awaits : m.Awaits op pc none) {call : Call} (routine : call.Routine)
    {key : Int} (up : (m.call call).2.IsUp key) : m.IsUp key ∨ call = .setKey key false := by
  cases call with
  | step =>
      rw [awaits.step_absent.1] at up
      exact .inl up
  | tick => exact .inl up
  | setKey other down => exact isUp_setKey up
  | load | reset | restore => exact routine.elim

/-! ## Runs of a machine that waits -/

section Runs

variable {calls : List Call} (routine : ∀ call ∈ calls, call.Routine)

include routine

/-- A machine waits on until a key goes down that was up. -/
theorem callAll_quiet (awaits : m.Awaits op pc none) (quiet : m.Quiet calls) :
    (m.callAll calls).Awaits op pc none := by
  induction calls generalizing m with
  | nil => exact awaits
  | cons call rest ih =>
      obtain ⟨first, others⟩ := List.forall_mem_cons.mp routine
      exact ih others (awaits.call_quiet first quiet.1) quiet.2

/-- The key that has met the request is kept until the next step. -/
theorem callAll_met {key : Int} (awaits : m.Awaits op pc (some key)) (noStep : .step ∉ calls) :
    (m.callAll calls).Awaits op pc (some key) := by
  induction calls generalizing m with
  | nil => exact awaits
  | cons call rest ih =>
      obtain ⟨first, others⟩ := List.forall_mem_cons.mp routine
      refine ih others ?_ fun member => noStep (List.mem_cons_of_mem call member)
      cases call with
      | step => exact absurd List.mem_cons_self noStep
      | tick => exact awaits.call_tick
      | setKey other down => exact awaits.call_setKey nofun
      | load | reset | restore => exact first.elim

/-- A key that was down at first and is up later has been released on the way. -/
theorem released_of_isUp (awaits : m.Awaits op pc none) (quiet : m.Quiet calls) {key : Int}
    (down : ¬m.IsUp key) (up : (m.callAll calls).IsUp key) : .setKey key false ∈ calls := by
  induction calls generalizing m with
  | nil => exact absurd up down
  | cons call rest ih =>
      obtain ⟨first, others⟩ := List.forall_mem_cons.mp routine
      by_cases stillDown : (m.call call).2.IsUp key
      · rcases awaits.isUp_call first stillDown with wasUp | released
        · exact absurd wasUp down
        · exact List.mem_cons.mpr (.inl released.symm)
      · exact List.mem_cons_of_mem call
          (ih others (awaits.call_quiet first quiet.1) quiet.2 stillDown up)

end Runs

end Awaits

theorem callAll_append (m : Machine) (first later : List Call) :
    m.callAll (first ++ later) = (m.callAll first).callAll later := by
  induction first generalizing m with
  | nil => rfl
  | cons call rest ih => exact ih _

/-- What comes of a step that carries out an instruction which awaits a key, on a machine with
no open request: the step waits.  After it, any steps, ticks and keys may follow.  As long as
none of them presses a key that is up, every step waits and changes nothing but the count of
steps.  The first key that is pressed while it is up is the one that the next step takes,
whatever other keys are pressed or released in between: it goes into the register of the
instruction, the program goes on behind it, and the request is closed.  If this key was down
at the request, it has been released before. -/
theorem step_awaitKey {m first : Machine} {report : StepReport}
    (asked : m.call .step = (.ok (some report), first))
    (kind : report.operation.opcode = .awaitKey) (idle : m.state.keypad.waiting = false) :
    report.waiting = true ∧
      (∀ calls, (∀ call ∈ calls, call.Routine) → first.Quiet calls →
        let t := first.callAll calls
        ∃ again, t.call .step =
            (.ok (some again), t.withState { t.state with cycles := t.state.cycles + 1 }) ∧
          again.waiting = true) ∧
      ∀ before key later, (∀ call ∈ before ++ later, call.Routine) → first.Quiet before →
        (first.callAll before).IsUp key → .step ∉ later →
        let t := first.callAll (before ++ .setKey key true :: later)
        let x := report.operation.x
        (∃ last, t.call .step = (.ok (some last), t.withState (t.state.received x key)) ∧
            last.waiting = false) ∧
          ((t.state.received x key).v x).toNat = key ∧
          (t.state.received x key).registers.pc = m.state.registers.pc + 2 ∧
          (¬first.IsUp key → .setKey key false ∈ before) := by
  obtain ⟨op, isReady, rfl⟩ := ready_of_call_step asked
  have awaits : first.Awaits op m.state.registers.pc none := by
    have requested := awaits_of_asked isReady kind idle
    rw [asked] at requested
    exact requested
  refine ⟨?_, ?_, ?_⟩
  · rw [State.waiting_report awaits.kind, Keypad.take?_of_idle idle]
    rfl
  · intro calls routine quiet t
    have waits : t.Awaits op m.state.registers.pc none := awaits.callAll_quiet routine quiet
    exact ⟨_, waits.step_absent⟩
  · intro before key later routine quiet up noStep t x
    obtain ⟨routineBefore, routineLater⟩ := List.forall_mem_append.mp routine
    have waits := awaits.callAll_quiet routineBefore quiet
    have met : t.Awaits op m.state.registers.pc (some key) := by
      change (first.callAll (before ++ .setKey key true :: later)).Awaits _ _ _
      rw [callAll_append]
      exact (waits.call_press up).callAll_met routineLater noStep
    refine ⟨⟨_, met.step_met⟩, ?_, ?_, ?_⟩
    · obtain ⟨place, rfl, -⟩ := Keypad.isDown_eq_ok_iff.mp up
      exact t.state.v_received x place
    · rw [← met.pc_eq]
      rfl
    · intro down
      exact awaits.released_of_isUp routineBefore quiet down up

theorem isUp_released {m : Machine} {op : Operation} {pc : Int} (awaits : m.Awaits op pc none)
    (key : Fin 16) : (m.callAll [.setKey key.val false, .step]).IsUp key.val := by
  have released : (m.call (.setKey key.val false)).2.Awaits op pc none := awaits.call_setKey nofun
  rw [callAll, callAll, released.step_absent.1]
  refine Keypad.isDown_eq_ok_iff.mpr ⟨key, rfl, ?_⟩
  simp only [callAll, call, setKey, Keypad.update, Keypad.key_eq_ok_iff.mpr rfl, settle]
  exact (m.state.keypad.keys_press key key false).trans (if_pos rfl)

/-- A key that is held at the request is released and pressed again; that another key follows
and that it is released itself before the next step makes no difference. -/
theorem step_awaitKey_held :
    ∃ (m first after : Machine) (report last : StepReport),
      m.state.keypad.isDown 5 = .ok true ∧
        m.call .step = (.ok (some report), first) ∧ report.waiting = true ∧
        (first.callAll [.setKey 5 false, .step, .setKey 5 true, .setKey 7 true,
            .setKey 5 false]).call .step = (.ok (some last), after) ∧
          last.waiting = false ∧ ((after.state.v 3).toNat : Int) = 5 := by
  let m := (new {}).withState
    { State.initial (some 0) with
      memory := .ofWord 0xF3 0x0A []
      keypad := { Keypad.initial with keys := (Vector.replicate 16 false).set 5 true } }
  have high : m.state.memory.bytes[512] = 0xF3 := Memory.high_ofWord _ _ _
  have low : m.state.memory.bytes[513] = 0x0A := Memory.low_ofWord _ _ _
  have word : 256 * m.state.memory.bytes[512].toNat + m.state.memory.bytes[513].toNat = 0xF30A := by
    rw [high, low]
    rfl
  have isReady : m.state.ready m.config.dialect = .ok ⟨.awaitKey, 0xF30A⟩ :=
    State.ready_of_bytes rfl (by decide) word rfl rfl
  have asked := call_step_of_ready isReady
  have awaits := awaits_of_asked isReady rfl rfl
  rw [asked] at awaits
  obtain ⟨waits, -, takes⟩ := step_awaitKey asked rfl rfl
  have quiet (other : Machine) : other.Quiet [.setKey 5 false, .step] := by
    refine ⟨?_, ?_, trivial⟩
    · rintro key ⟨⟩
    · rintro key ⟨⟩
  have routine : ∀ call ∈ [Call.setKey 5 false, .step] ++ [.setKey 7 true, .setKey 5 false],
      call.Routine := by
    simp [Call.Routine]
  obtain ⟨⟨last, taken, done⟩, stored, -⟩ :=
    takes _ 5 _ routine (quiet _) (isUp_released awaits 5) (by simp)
  exact ⟨m, _, _, _, last, rfl, asked, waits, taken, done, stored⟩

end Machine

end ChipEight
