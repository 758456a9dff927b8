import Mathlib.Data.List.Induction
import ChipEight.Proofs.Activity
import ChipEight.Proofs.Decoding

/-!
# Replaying a step

The report on a step lists its accesses to memory.  `Machine.step_activity` says that they tell
all that has happened to memory: each read has the byte that was there, each write has kept the
byte that it replaced, and so the list can be played forwards from the memory before the step,
and backwards from the memory after it.

What carries this through an instruction is `Memory.Recorded`: the record of accesses leads from
the bytes at its start to the bytes of now.  Only two operations touch memory, and both enter
what they do on the record.
-/

namespace ChipEight

/-- The bytes of memory, each at its address. -/
abbrev Bytes : Type := Address → UInt8

/-! ## One access -/

namespace Access

/-- The bytes after an access. -/
def redo (bytes : Bytes) : Access → Bytes
  | read _ _ => bytes
  | write address data _ => Function.update bytes address data

/-- The bytes before an access, from those after it. -/
def undo (bytes : Bytes) : Access → Bytes
  | read _ _ => bytes
  | write address _ previous => Function.update bytes address previous

/-- An access is about the bytes that it has met: a read has the byte at its address, and a
write has kept it. -/
def Met (bytes : Bytes) : Access → Prop
  | read address data => bytes address = data
  | write address _ previous => bytes address = previous

theorem undo_redo {bytes : Bytes} {access : Access} (met : access.Met bytes) :
    access.undo (access.redo bytes) = bytes := by
  cases access with
  | read address data => rfl
  | write address data previous =>
      simp only [Met] at met
      simp only [undo, redo, ← met]
      rw [Function.update_idem, Function.update_eq_self]

/-- The bytes after some accesses, one after the other. -/
def redoAll (bytes : Bytes) (accesses : List Access) : Bytes :=
  accesses.foldl redo bytes

/-- The bytes before some accesses, of which the last is undone first. -/
def undoAll (bytes : Bytes) (accesses : List Access) : Bytes :=
  accesses.foldr (fun access later => access.undo later) bytes

theorem redoAll_concat (bytes : Bytes) (accesses : List Access) (last : Access) :
    redoAll bytes (accesses ++ [last]) = last.redo (redoAll bytes accesses) := by
  rw [redoAll, List.foldl_append]
  rfl

theorem undoAll_concat (bytes : Bytes) (accesses : List Access) (last : Access) :
    undoAll bytes (accesses ++ [last]) = undoAll (last.undo bytes) accesses := by
  rw [undoAll, List.foldr_append]
  rfl

/-- Each of some accesses is about the bytes that the ones before it have left. -/
def AllMet (bytes : Bytes) (accesses : List Access) : Prop :=
  ∀ earlier access later, accesses = earlier ++ access :: later →
    access.Met (redoAll bytes earlier)

theorem allMet_concat_iff {bytes : Bytes} {accesses : List Access} {last : Access} :
    AllMet bytes (accesses ++ [last]) ↔
      AllMet bytes accesses ∧ last.Met (redoAll bytes accesses) := by
  constructor
  · intro met
    refine ⟨fun earlier access later split => ?_, met accesses last [] rfl⟩
    refine met earlier access (later ++ [last]) ?_
    rw [split, List.append_assoc, List.cons_append]
  · rintro ⟨met, lastMet⟩ earlier access later split
    rcases List.eq_nil_or_concat later with rfl | ⟨others, final, rfl⟩
    · obtain ⟨rfl, same⟩ := List.append_inj' split rfl
      cases same
      exact lastMet
    · rw [List.concat_eq_append, ← List.cons_append, ← List.append_assoc] at split
      exact met earlier access others (List.append_inj' split rfl).1

/-- Accesses that have met their bytes are undone by going back from the last to the first. -/
theorem undoAll_redoAll {bytes : Bytes} {accesses : List Access} (met : AllMet bytes accesses) :
    undoAll (redoAll bytes accesses) accesses = bytes := by
  induction accesses using List.reverseRecOn with
  | nil => rfl
  | append_singleton accesses last ih =>
      obtain ⟨before, lastMet⟩ := allMet_concat_iff.mp met
      rw [redoAll_concat, undoAll_concat, undo_redo lastMet]
      exact ih before

end Access

/-! ## The record -/

namespace Memory

/-- The record leads from some bytes to those of now, and each of its accesses is about the bytes
that the ones before it have left. -/
structure Recorded (start : Bytes) (m : Memory) : Prop where
  met : Access.AllMet start m.log
  bytes : Access.redoAll start m.log = m.byte

theorem recorded_of_log_nil {m : Memory} (empty : m.log = []) : Recorded m.byte m where
  met := by simp [empty, Access.AllMet]
  bytes := by rw [empty]; rfl

theorem byte_put (m : Memory) (place : Address) (data : UInt8) :
    (m.put place data).byte = Function.update m.byte place data := by
  funext other
  by_cases same : other = place
  · subst same
    rw [Function.update_self]
    exact Vector.getElem_set_self other.isLt
  · rw [Function.update_of_ne same]
    exact Vector.getElem_set_ne place.isLt other.isLt fun sameVal => same (Fin.ext sameVal.symm)

namespace Recorded

variable {start : Bytes} {m : Memory}

/-- One more access on record, with what it does to the bytes. -/
theorem enter {after : Memory} (recorded : m.Recorded start) (access : Access)
    (met : access.Met m.byte) (log : after.log = m.log ++ [access])
    (bytes : after.byte = access.redo m.byte) : after.Recorded start where
  met := by
    rw [log, Access.allMet_concat_iff, recorded.bytes]
    exact ⟨recorded.met, met⟩
  bytes := by rw [log, Access.redoAll_concat, recorded.bytes, bytes]

theorem noteRead (recorded : m.Recorded start) (place : Address) :
    (m.noteRead place).Recorded start :=
  recorded.enter (.read place (m.byte place)) rfl rfl rfl

theorem put (recorded : m.Recorded start) (place : Address) (data : UInt8) :
    (m.put place data).Recorded start :=
  recorded.enter (.write place data (m.byte place)) rfl rfl (m.byte_put place data)

theorem noteReads (recorded : m.Recorded start) (address count : Nat) :
    (m.noteReads address count).Recorded start := by
  induction count generalizing m address with
  | zero => exact recorded
  | succ count ih =>
      rw [noteReads_succ]
      exact ih (recorded.noteRead (place address)) (address + 1)

theorem putAll (recorded : m.Recorded start) (address : Nat) (data : List UInt8) :
    (m.putAll address data).Recorded start := by
  induction data generalizing m address with
  | nil => exact recorded
  | cons byte data ih =>
      rw [putAll_cons]
      exact ih (recorded.put (place address) byte) (address + 1)

end Recorded

end Memory

/-! ## Instructions -/

namespace State

variable {start : Bytes} {s : State}

theorem recorded_takeBytes (recorded : s.memory.Recorded start) (address : Nat)
    (registers : List Nibble) : (s.takeBytes address registers).memory.Recorded start := by
  induction registers generalizing s address with
  | nil => exact recorded
  | cons register registers ih =>
      rw [takeBytes]
      exact ih (recorded.noteRead (Memory.place address)) (address + 1)

/-- Whatever an instruction does to memory is on record. -/
theorem recorded_effect (recorded : s.memory.Recorded start) (d : Dialect) (op : Operation) :
    (op.effect d s).memory.Recorded start := by
  cases kind : op.opcode with
  | decimal =>
      simp only [Operation.effect, kind]
      exact recorded.putAll _ _
  | store =>
      simp only [Operation.effect, kind, Operation.memory_advanceIndex]
      exact recorded.putAll _ _
  | load =>
      simp only [Operation.effect, kind, Operation.memory_advanceIndex]
      exact recorded_takeBytes recorded _ _
  | draw =>
      simp only [Operation.effect, kind]
      exact recorded.noteReads _ _
  | or | and | xor =>
      simp only [Operation.effect, kind, Operation.memory_setLogical]
      exact recorded
  | awaitKey =>
      simp only [Operation.effect, kind, Operation.memory_awaited]
      exact recorded
  | _ =>
      simp only [Operation.effect, kind]
      exact recorded

/-- The record of an instruction begins with the reads of its word. -/
theorem recorded_fetched (s : State) : s.fetched.memory.Recorded s.memory.byte := by
  have cleared : (s.withLog []).memory.Recorded s.memory.byte :=
    Memory.recorded_of_log_nil (m := (s.withLog []).memory) rfl
  exact (cleared.noteRead s.highPlace).noteRead s.lowPlace

/-- The report on a step leads from the bytes before it to those after it. -/
theorem recorded_report (s : State) (d : Dialect) (op : Operation) :
    Access.AllMet s.memory.byte (s.report d op).activity ∧
      Access.redoAll s.memory.byte (s.report d op).activity = (s.stepped d op).memory.byte :=
  have recorded := recorded_effect s.recorded_fetched d op
  ⟨recorded.met, recorded.bytes⟩

/-- A step takes no notice of what was on record before it. -/
theorem step_withLog (s : State) (log : List Access) (d : Dialect) :
    (s.withLog log).step d = s.step d := by
  rw [step_eq, step_eq]
  rfl

end State

/-! ## Steps of a machine -/

namespace Machine

/-- What the report on a step says about memory.  It begins with the reads of the two bytes of the
word that is carried out, high byte first.  All accesses are to addresses in memory, and about
bytes.  Each read has the byte that memory held at that moment, and each write has kept the byte
that it replaced: at that moment memory held the bytes before the step with the earlier writes of
the list.  All writes in order make the memory after the step of that before it, and taken back
in reverse order they make the memory before the step of that after it.  What was on record
before the step, as from a step that has failed, makes no difference to it. -/
theorem step_activity {m after : Machine} {report : StepReport}
    (done : m.step = (.ok report, after)) :
    (∃ (first second : Address) (high low : UInt8) (rest : List Access),
      report.activity = .read first high :: .read second low :: rest ∧
        first.val = m.state.registers.pc ∧ second.val = m.state.registers.pc + 1 ∧
        report.operation.raw = 256 * high.toNat + low.toNat) ∧
      (∀ access ∈ report.activity, access.address.val ≤ 0xFFF ∧ access.data.toNat ≤ 0xFF) ∧
      (∀ earlier access later, report.activity = earlier ++ access :: later →
        let held := Access.redoAll m.state.memory.byte earlier
        match access with
        | .read address data => held address = data
        | .write address _ previous => held address = previous) ∧
      Access.redoAll m.state.memory.byte report.activity = after.state.memory.byte ∧
      Access.undoAll after.state.memory.byte report.activity = m.state.memory.byte ∧
      ∀ log, (m.withState (m.state.withLog log)).step = (.ok report, after) := by
  obtain ⟨stateStep, -⟩ := state_step done
  obtain ⟨op, isReady, rfl, stateEq⟩ := State.step_ok stateStep
  obtain ⟨fetched, decoded, -⟩ := State.ready_eq_ok_iff.mp isReady
  obtain ⟨met, redone⟩ := m.state.recorded_report m.config.dialect op
  rw [← stateEq] at redone
  refine ⟨?_, ?_, met, redone, ?_, ?_⟩
  · obtain ⟨rest, begins⟩ := m.state.fetch_prefix_activity m.config.dialect op
    obtain ⟨lower, upper⟩ := State.fetchFault?_eq_none.mp fetched
    have high : m.state.highPlace.val = m.state.registers.pc.toNat :=
      Memory.place_val (by omega)
    have low : m.state.lowPlace.val = m.state.registers.pc.toNat + 1 :=
      Memory.place_val (by omega)
    refine ⟨_, _, _, _, rest, begins.symm, by omega, by omega, ?_⟩
    exact (Operation.decode?_eq_some_iff.mp decoded).1
  · intro access _
    have address := access.address.isLt
    have data := access.data.toNat_lt
    omega
  · rw [← redone]
    exact Access.undoAll_redoAll met
  · intro log
    simp only [step, withState, State.step_withLog]
    exact done

/-- Two registers are stored over the instruction that stores them, after a step that has failed
there. -/
theorem step_activity_overwrite :
    ∃ (m after : Machine) (report : StepReport),
      m.state.memory.log = [.read 0x200 0, .read 0x201 0] ∧
        m.step = (.ok report, after) ∧
        report.activity =
          [.read 0x200 0xF1, .read 0x201 0x55, .write 0x200 7 0xF1, .write 0x201 7 0x55] ∧
        Access.undoAll after.state.memory.byte report.activity = m.state.memory.byte := by
  let m := (new {}).withState
    { State.initial (some 0) with
      memory := .ofWord 0xF1 0x55 [.read 0x200 0, .read 0x201 0]
      registers := { Registers.initial with v := Vector.replicate 16 7, i := 0x200 } }
  have high : m.state.memory.bytes[512] = 0xF1 := Memory.high_ofWord _ _ _
  have low : m.state.memory.bytes[513] = 0x55 := Memory.low_ofWord _ _ _
  have word : 256 * m.state.memory.bytes[512].toNat + m.state.memory.bytes[513].toNat = 0xF155 := by
    rw [high, low]
    rfl
  have isReady : m.state.ready m.config.dialect = .ok ⟨.store, 0xF155⟩ :=
    State.ready_of_bytes rfl (by decide) word rfl rfl
  have done : m.step = (.ok (m.state.report m.config.dialect ⟨.store, 0xF155⟩),
      m.withState (m.state.stepped m.config.dialect ⟨.store, 0xF155⟩)) := by
    rw [step, State.step_eq, isReady]
  obtain ⟨-, -, -, -, undone, -⟩ := step_activity done
  have accesses : (m.state.report m.config.dialect ⟨.store, 0xF155⟩).activity =
      [.read 0x200 m.state.memory.bytes[512], .read 0x201 m.state.memory.bytes[513],
        .write 0x200 7 m.state.memory.bytes[512],
        .write 0x201 7 (m.state.memory.bytes.set 512 7)[513]] :=
    rfl
  refine ⟨m, _, _, rfl, done, ?_, undone⟩
  have apart : 0x200 ≠ 0x201 := by decide
  rw [accesses, Vector.getElem_set_ne _ _ apart, high, low]

end Machine

end ChipEight
