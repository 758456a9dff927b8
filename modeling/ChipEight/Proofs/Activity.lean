import ChipEight.Proofs.Step

/-!
# What a step reports

An instruction never takes anything off the record of accesses, so the report on a step begins
with the two reads that fetched its word (`State.fetch_prefix_activity`).
-/

namespace ChipEight

/-! ## Blocks -/

namespace Memory

theorem log_prefix_noteReads (m : Memory) (address count : Nat) :
    m.log <+: (m.noteReads address count).log := by
  induction count generalizing m address with
  | zero => exact List.prefix_rfl
  | succ count ih =>
      rw [noteReads_succ]
      exact (List.prefix_append _ _).trans (ih (m.noteRead (place address)) (address + 1))

theorem log_prefix_putAll (m : Memory) (address : Nat) (data : List UInt8) :
    m.log <+: (m.putAll address data).log := by
  induction data generalizing m address with
  | nil => exact List.prefix_rfl
  | cons byte data ih =>
      rw [putAll_cons]
      exact (List.prefix_append _ _).trans (ih (m.put (place address) byte) (address + 1))

end Memory

namespace State

theorem log_prefix_takeBytes (s : State) (address : Nat) (registers : List Nibble) :
    s.memory.log <+: (s.takeBytes address registers).memory.log := by
  induction registers generalizing s address with
  | nil => exact List.prefix_rfl
  | cons register registers ih =>
      rw [takeBytes]
      refine List.IsPrefix.trans ?_ (ih _ (address + 1))
      exact List.prefix_append _ _

end State

/-! ## Instructions -/

namespace Operation

@[simp]
theorem memory_advanceIndex (d : Dialect) (op : Operation) (s : State) :
    (advanceIndex d op s).memory = s.memory := by
  unfold advanceIndex
  cases d.advanceIndex <;> rfl

@[simp]
theorem memory_setLogical (d : Dialect) (s : State) (x : Nibble) (result : UInt8) :
    (setLogical d s x result).memory = s.memory := by
  unfold setLogical
  cases d.clearFlag <;> rfl

@[simp]
theorem memory_awaited (op : Operation) (s : State) : (op.awaited s).memory = s.memory := by
  unfold awaited
  cases s.keypad.take? <;> rfl

/-- What is on record stays at the beginning of the record. -/
theorem log_prefix_effect (d : Dialect) (op : Operation) (s : State) :
    s.memory.log <+: (op.effect d s).memory.log := by
  cases kind : op.opcode with
  | decimal =>
      simp only [effect, kind]
      exact s.memory.log_prefix_putAll _ _
  | store =>
      simp only [effect, kind, memory_advanceIndex]
      exact s.memory.log_prefix_putAll _ _
  | load =>
      simp only [effect, kind, memory_advanceIndex]
      exact s.log_prefix_takeBytes _ _
  | draw =>
      simp only [effect, kind]
      exact s.memory.log_prefix_noteReads _ _
  | or | and | xor =>
      simp only [effect, kind, memory_setLogical]
      exact List.prefix_rfl
  | awaitKey =>
      simp only [effect, kind, memory_awaited]
      exact List.prefix_rfl
  | _ =>
      simp only [effect, kind]
      exact List.prefix_rfl

end Operation

namespace State

/-- A step begins with the reads of the two bytes of its word. -/
theorem fetch_prefix_activity (s : State) (d : Dialect) (op : Operation) :
    [.read s.highPlace (s.memory.byte s.highPlace), .read s.lowPlace (s.memory.byte s.lowPlace)]
      <+: (s.report d op).activity :=
  op.log_prefix_effect d s.fetched

end State

end ChipEight
