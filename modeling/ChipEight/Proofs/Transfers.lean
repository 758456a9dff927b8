import ChipEight.Proofs.Footprint

/-!
# Bytes between registers and memory

Three instructions carry bytes between the registers and memory, one after the other, from the
index register on: one stores `V0` to `Vx`, one loads them, and one stores the decimal digits of
`Vx`.  The first two go over the same registers and the same places in the same order, and come to
none of them twice (`Memory.byte_putAll`, `State.v_takeBytes`), so each of them undoes the other.
The main statement is `Machine.blocks_carried`.
-/

namespace ChipEight

/-! ## Blocks -/

namespace Memory

variable {m : Memory} {address : Nat} {data : List UInt8}

theorem getElem?_bytes (m : Memory) (inside : address < 4096) :
    m.bytes[address]? = some (m.byte (place address)) := by
  have same : place address = ⟨address, inside⟩ := Fin.ext (place_val inside)
  rw [same]
  exact Vector.getElem?_eq_getElem inside

theorem bytes_eq_of_byte {other : Memory} (same : ∀ place, m.byte place = other.byte place) :
    m.bytes = other.bytes := by
  apply Vector.ext
  intro index inside
  exact same ⟨index, inside⟩

/-- Every place of a block for some of the registers belongs to one of them. -/
theorem exists_register {x : Nibble} {other : Address} (lower : address ≤ other.val)
    (upper : other.val ≤ address + x.val) :
    ∃ register ≤ x, other = place (address + register.val) := by
  have there : address + (other.val - address) = other.val := by omega
  refine ⟨⟨other.val - address, by omega⟩, ?_, ?_⟩
  · change other.val - address ≤ x.val
    omega
  · apply Fin.ext
    change other.val = (place (address + (other.val - address))).val
    rw [there, place_val other.isLt]

/-- Each byte that is written to a block stands at its place afterwards. -/
theorem byte_putAll {k : Nat} {byte : UInt8} (room : address + data.length ≤ 4096)
    (found : data[k]? = some byte) :
    (m.putAll address data).byte (place (address + k)) = byte := by
  induction data generalizing m address k with
  | nil => cases found
  | cons first rest ih =>
      rw [List.length_cons] at room
      have behind : address + 1 + rest.length ≤ 4096 := by omega
      rw [putAll_cons]
      cases k with
      | zero =>
          have before : (place address).val < address + 1 := by
            rw [place_val (by omega)]
            exact Nat.lt_succ_self address
          have untouched := byte_putAll_of_outside (m := m.put (place address) first) behind
            (.inl before)
          rw [Nat.add_zero address, untouched, byte_put, Function.update_self]
          exact Option.some.inj found
      | succ k =>
          have next : address + (k + 1) = address + 1 + k := by omega
          rw [next]
          exact ih behind found

end Memory

/-- Each of some registers, of which none is listed twice, holds the byte at its place. -/
theorem State.v_takeBytes {s : State} {address k : Nat} {registers : List Nibble}
    {register : Nibble} (distinct : registers.Nodup) (found : registers[k]? = some register) :
    (s.takeBytes address registers).v register = s.memory.byte (Memory.place (address + k)) := by
  induction registers generalizing s address k with
  | nil => cases found
  | cons first rest ih =>
      obtain ⟨fresh, distinctRest⟩ := List.nodup_cons.mp distinct
      rw [takeBytes]
      cases k with
      | zero =>
          cases found
          rw [v_takeBytes_of_notMem fresh, v_setV, if_pos rfl, Nat.add_zero address]
      | succ k =>
          have next : address + (k + 1) = address + 1 + k := by omega
          rw [next]
          exact ih distinctRest found

namespace Operation

variable {d : Dialect} {op : Operation} {s : State} {x register : Nibble}

theorem getElem?_registersUpTo (upTo : register ≤ x) :
    (registersUpTo x)[register.val]? = some register := by
  have inside : register.val < x.val + 1 := Nat.lt_succ_of_le upTo
  rw [registersUpTo, List.getElem?_take_of_lt inside]
  simp

theorem nodup_registersUpTo (x : Nibble) : (registersUpTo x).Nodup :=
  (List.nodup_finRange 16).sublist (List.take_sublist _ _)

/-- Where the index register is after registers have been stored or loaded: behind the last of their
bytes or, in other dialects, still at the first one. -/
def indexAfter (d : Dialect) (op : Operation) (s : State) : Nat :=
  if d.advanceIndex then s.registers.i.toNat + op.x.val + 1 else s.registers.i.toNat

/-- Behind a block that lies in memory the index register has not wrapped around. -/
theorem i_advanceIndex (room : s.registers.i.toNat + op.x.val ≤ 0xFFF) :
    (advanceIndex d op s).registers.i.toNat = indexAfter d op s := by
  unfold advanceIndex indexAfter
  cases d.advanceIndex with
  | false => rfl
  | true =>
      change (s.registers.i + UInt16.ofNat (op.x.val + 1)).toNat = _
      rw [if_pos rfl, UInt16.toNat_add, UInt16.toNat_ofNat']
      omega

end Operation

/-- A byte is what its decimal digits spell. -/
theorem Arithmetic.exists_decimalDigits (a : UInt8) :
    ∃ hundreds tens ones : UInt8, decimalDigits a = [hundreds, tens, ones] ∧
      hundreds ≤ 9 ∧ tens ≤ 9 ∧ ones ≤ 9 ∧
      100 * hundreds.toNat + 10 * tens.toNat + ones.toNat = a.toNat := by
  have bound := a.toNat_lt
  refine ⟨_, _, _, rfl, ?_, ?_, ?_, ?_⟩
  · rw [UInt8.le_iff_toNat_le, UInt8.toNat_div]
    change a.toNat / 100 ≤ 9
    omega
  · rw [UInt8.le_iff_toNat_le, UInt8.toNat_mod, UInt8.toNat_div]
    change a.toNat / 10 % 10 ≤ 9
    omega
  · rw [UInt8.le_iff_toNat_le, UInt8.toNat_mod]
    change a.toNat % 10 ≤ 9
    omega
  · rw [UInt8.toNat_div, UInt8.toNat_mod, UInt8.toNat_div, UInt8.toNat_mod]
    change 100 * (a.toNat / 100) + 10 * (a.toNat / 10 % 10) + a.toNat % 10 = a.toNat
    omega

/-! ## Steps -/

namespace State

variable {d : Dialect} {op : Operation} {s : State}

/-- Each register that is stored stands at its place. -/
theorem byte_stepped_store {register : Nibble} (kind : op.opcode = .store)
    (room : s.registers.i.toNat + op.x.val ≤ 0xFFF) (upTo : register ≤ op.x) :
    (s.stepped d op).memory.byte (Memory.place (s.registers.i.toNat + register.val)) =
      s.v register := by
  have written : ((Operation.registersUpTo op.x).map s.v).length = op.x.val + 1 := by
    rw [List.length_map, Operation.length_registersUpTo]
  have block : s.registers.i.toNat + ((Operation.registersUpTo op.x).map s.v).length ≤ 4096 := by
    omega
  have found : ((Operation.registersUpTo op.x).map s.v)[register.val]? = some (s.v register) := by
    rw [List.getElem?_map, Operation.getElem?_registersUpTo upTo]
    rfl
  simp only [byte_stepped, Operation.effect, kind, Operation.memory_advanceIndex]
  exact Memory.byte_putAll block found

/-- Each register that is loaded holds the byte at its place. -/
theorem v_stepped_load {register : Nibble} (kind : op.opcode = .load) (upTo : register ≤ op.x) :
    (s.stepped d op).v register =
      s.memory.byte (Memory.place (s.registers.i.toNat + register.val)) := by
  have found := Operation.getElem?_registersUpTo upTo
  simp only [v_stepped, Operation.effect, kind, Operation.v_advanceIndex]
  exact v_takeBytes (Operation.nodup_registersUpTo op.x) found

theorem i_stepped_carried (kind : op.opcode = .store ∨ op.opcode = .load)
    (room : s.registers.i.toNat + op.x.val ≤ 0xFFF) :
    (s.stepped d op).registers.i.toNat = op.indexAfter d s := by
  rcases kind with kind | kind
  · simp only [i_stepped, Operation.effect, kind]
    exact Operation.i_advanceIndex room
  · obtain ⟨v, log, taken⟩ := s.fetched.exists_takeBytes s.registers.i.toNat
      (Operation.registersUpTo op.x)
    have start : (s.fetched.takeBytes s.registers.i.toNat
        (Operation.registersUpTo op.x)).registers.i = s.registers.i := by
      rw [taken]
      rfl
    rw [← start] at room
    rw [Operation.indexAfter, ← start]
    simp only [i_stepped, Operation.effect, kind]
    exact Operation.i_advanceIndex room

/-- Loading leaves the bytes in memory as they are. -/
theorem byte_stepped_load (kind : op.opcode = .load) :
    (s.stepped d op).memory.byte = s.memory.byte := by
  obtain ⟨v, log, taken⟩ := s.fetched.exists_takeBytes s.registers.i.toNat
    (Operation.registersUpTo op.x)
  have same : (s.fetched.takeBytes s.registers.i.toNat
      (Operation.registersUpTo op.x)).memory.byte = s.memory.byte := by
    rw [taken]
    rfl
  simp only [byte_stepped, Operation.effect, kind, Operation.memory_advanceIndex]
  exact same

end State

namespace Machine

variable {m : Machine} {op : Operation}

/-- An instruction that stores or loads registers meets no fault if and only if its block lies in
memory. -/
theorem met_iff_room (kind : op.opcode = .store ∨ op.opcode = .load) :
    op.fault? m.config.dialect m.state = none ↔
      m.state.registers.i.toNat + op.x.val ≤ 0xFFF := by
  rcases kind with kind | kind
  · simp only [Operation.fault?, kind, Memory.blockFault?_eq_none]
    omega
  · simp only [Operation.fault?, kind, Memory.blockFault?_eq_none]
    omega

theorem performs_store (spelled : m.state.instruction? = some op) (kind : op.opcode = .store)
    (room : m.state.registers.i.toNat + op.x.val ≤ 0xFFF) :
    ∃ after, m.Performs op after ∧
      (∀ register ≤ op.x, after.state.memory.bytes[m.state.registers.i.toNat + register.val]? =
        some (m.state.v register)) ∧
      after.state.registers.i.toNat = op.indexAfter m.config.dialect m.state := by
  refine ⟨_, performs_of_met spelled ((met_iff_room (.inl kind)).mpr room), ?_,
    State.i_stepped_carried (.inl kind) room⟩
  intro register upTo
  have inside : m.state.registers.i.toNat + register.val < 4096 := by
    have bound : register.val ≤ op.x.val := upTo
    omega
  rw [Memory.getElem?_bytes _ inside]
  exact congrArg some (State.byte_stepped_store kind room upTo)

theorem performs_load (spelled : m.state.instruction? = some op) (kind : op.opcode = .load)
    (room : m.state.registers.i.toNat + op.x.val ≤ 0xFFF) :
    ∃ after, m.Performs op after ∧
      (∀ register ≤ op.x, some (after.state.v register) =
        m.state.memory.bytes[m.state.registers.i.toNat + register.val]?) ∧
      after.state.registers.i.toNat = op.indexAfter m.config.dialect m.state := by
  refine ⟨_, performs_of_met spelled ((met_iff_room (.inr kind)).mpr room), ?_,
    State.i_stepped_carried (.inr kind) room⟩
  intro register upTo
  have inside : m.state.registers.i.toNat + register.val < 4096 := by
    have bound : register.val ≤ op.x.val := upTo
    omega
  rw [Memory.getElem?_bytes _ inside]
  exact congrArg some (State.v_stepped_load kind upTo)

theorem performs_decimal (spelled : m.state.instruction? = some op) (kind : op.opcode = .decimal)
    (room : m.state.registers.i.toNat + 2 ≤ 0xFFF) :
    ∃ after, m.Performs op after ∧ ∃ hundreds tens ones : UInt8,
      after.state.memory.bytes[m.state.registers.i.toNat]? = some hundreds ∧
      after.state.memory.bytes[m.state.registers.i.toNat + 1]? = some tens ∧
      after.state.memory.bytes[m.state.registers.i.toNat + 2]? = some ones ∧
      hundreds ≤ 9 ∧ tens ≤ 9 ∧ ones ≤ 9 ∧
      100 * hundreds.toNat + 10 * tens.toNat + ones.toNat = (m.state.v op.x).toNat := by
  have met : op.fault? m.config.dialect m.state = none := by
    simp only [Operation.fault?, kind, Memory.blockFault?_eq_none]
    omega
  obtain ⟨hundreds, tens, ones, digits, small⟩ := Arithmetic.exists_decimalDigits (m.state.v op.x)
  have block : m.state.registers.i.toNat +
      (Arithmetic.decimalDigits (m.state.v op.x)).length ≤ 4096 := Nat.succ_le_succ room
  have written (k : Nat) (digit : UInt8) (small : k ≤ 2)
      (found : (Arithmetic.decimalDigits (m.state.v op.x))[k]? = some digit) :
      (m.state.stepped m.config.dialect op).memory.bytes[m.state.registers.i.toNat + k]? =
        some digit := by
    rw [Memory.getElem?_bytes _ (by omega), State.byte_stepped]
    simp only [Operation.effect, kind]
    exact congrArg some (Memory.byte_putAll block found)
  refine ⟨_, performs_of_met spelled met, hundreds, tens, ones, ?_, ?_, ?_, small⟩
  · exact written 0 hundreds (by decide) (by rw [digits]; rfl)
  · exact written 1 tens (by decide) (by rw [digits]; rfl)
  · exact written 2 ones (by decide) (by rw [digits]; rfl)

variable {stored loaded between restored : Machine} {back : Operation}

/-- Registers that have been stored are loaded again from the same place. -/
theorem load_of_store (first : m.Performs op stored) (isStore : op.opcode = .store)
    (second : between.Performs back restored) (isLoad : back.opcode = .load)
    (sameRegisters : back.x = op.x)
    (sameIndex : between.state.registers.i = m.state.registers.i)
    (sameBytes : ∀ register ≤ op.x,
      between.state.memory.bytes[m.state.registers.i.toNat + register.val]? =
        stored.state.memory.bytes[m.state.registers.i.toNat + register.val]?) :
    ∀ register ≤ op.x, restored.state.v register = m.state.v register := by
  intro register upTo
  obtain ⟨met, rfl⟩ := first.met
  obtain ⟨-, rfl⟩ := second.met
  have room := (met_iff_room (.inl isStore)).mp met
  have inside : m.state.registers.i.toNat + register.val < 4096 := by
    have bound : register.val ≤ op.x.val := upTo
    omega
  have bytes := sameBytes register upTo
  rw [Memory.getElem?_bytes _ inside, Memory.getElem?_bytes _ inside, Option.some.injEq] at bytes
  calc
    (between.state.stepped between.config.dialect back).v register =
        between.state.memory.byte
          (Memory.place (between.state.registers.i.toNat + register.val)) :=
      State.v_stepped_load isLoad (sameRegisters ▸ upTo)
    _ = (m.state.stepped m.config.dialect op).memory.byte
          (Memory.place (m.state.registers.i.toNat + register.val)) := by rw [sameIndex, bytes]; rfl
    _ = m.state.v register := State.byte_stepped_store isStore room upTo

/-- Registers that have been loaded are stored again to the same place. -/
theorem store_of_load (first : m.Performs op loaded) (isLoad : op.opcode = .load)
    (second : between.Performs back restored) (isStore : back.opcode = .store)
    (sameRegisters : back.x = op.x)
    (sameIndex : between.state.registers.i = m.state.registers.i)
    (sameValues : ∀ register ≤ op.x, between.state.v register = loaded.state.v register)
    (sameBytes : between.state.memory.bytes = loaded.state.memory.bytes) :
    restored.state.memory.bytes = m.state.memory.bytes := by
  obtain ⟨-, rfl⟩ := first.met
  obtain ⟨met, rfl⟩ := second.met
  have room := (met_iff_room (.inl isStore)).mp met
  have bytes : between.state.memory.byte = m.state.memory.byte :=
    calc
      between.state.memory.byte = (m.state.stepped m.config.dialect op).memory.byte :=
        congrArg Vector.get sameBytes
      _ = m.state.memory.byte := State.byte_stepped_load isLoad
  apply Memory.bytes_eq_of_byte
  intro place
  by_cases inside : m.state.registers.i.toNat ≤ place.val ∧
      place.val ≤ m.state.registers.i.toNat + op.x.val
  · obtain ⟨register, upTo, rfl⟩ := Memory.exists_register inside.1 inside.2
    calc
      (between.state.stepped between.config.dialect back).memory.byte
          (Memory.place (m.state.registers.i.toNat + register.val)) = between.state.v register := by
        rw [← sameIndex]
        exact State.byte_stepped_store isStore room (sameRegisters ▸ upTo)
      _ = (m.state.stepped m.config.dialect op).v register := sameValues register upTo
      _ = m.state.memory.byte (Memory.place (m.state.registers.i.toNat + register.val)) :=
        State.v_stepped_load isLoad upTo
  · have unwritten : ¬back.WritesTo between.state place := by
      simp only [Operation.WritesTo, isStore, sameIndex, sameRegisters]
      exact inside
    have kept := (State.footprint_stepped met).memory place unwritten
    rw [← bytes]
    exact kept

/-- What becomes of bytes that go between the registers and memory, wherever their block lies in
memory.  Storing puts each of the registers `V0` to `Vx` at its place from the index register on,
loading sets each of them to the byte at its place, and both move the index register behind the
block where the dialect says so.  The decimal digits of a register are stored at three places.
What has been stored is loaded again from the same block, whatever the registers held in between,
and what has been loaded and is stored again to the same block leaves all of memory as it was. -/
theorem blocks_carried :
    (∀ (m : Machine) (op : Operation), m.state.instruction? = some op → op.opcode = .store →
      m.state.registers.i.toNat + op.x.val ≤ 0xFFF →
      ∃ after, m.Performs op after ∧
        (∀ register ≤ op.x, after.state.memory.bytes[m.state.registers.i.toNat + register.val]? =
          some (m.state.v register)) ∧
        after.state.registers.i.toNat = op.indexAfter m.config.dialect m.state) ∧
    (∀ (m : Machine) (op : Operation), m.state.instruction? = some op → op.opcode = .load →
      m.state.registers.i.toNat + op.x.val ≤ 0xFFF →
      ∃ after, m.Performs op after ∧
        (∀ register ≤ op.x, some (after.state.v register) =
          m.state.memory.bytes[m.state.registers.i.toNat + register.val]?) ∧
        after.state.registers.i.toNat = op.indexAfter m.config.dialect m.state) ∧
    (∀ (m : Machine) (op : Operation), m.state.instruction? = some op → op.opcode = .decimal →
      m.state.registers.i.toNat + 2 ≤ 0xFFF →
      ∃ after, m.Performs op after ∧ ∃ hundreds tens ones : UInt8,
        after.state.memory.bytes[m.state.registers.i.toNat]? = some hundreds ∧
        after.state.memory.bytes[m.state.registers.i.toNat + 1]? = some tens ∧
        after.state.memory.bytes[m.state.registers.i.toNat + 2]? = some ones ∧
        hundreds ≤ 9 ∧ tens ≤ 9 ∧ ones ≤ 9 ∧
        100 * hundreds.toNat + 10 * tens.toNat + ones.toNat = (m.state.v op.x).toNat) ∧
    (∀ (m stored between restored : Machine) (op back : Operation),
      m.Performs op stored → op.opcode = .store →
      between.Performs back restored → back.opcode = .load →
      back.x = op.x → between.state.registers.i = m.state.registers.i →
      (∀ register ≤ op.x,
        between.state.memory.bytes[m.state.registers.i.toNat + register.val]? =
          stored.state.memory.bytes[m.state.registers.i.toNat + register.val]?) →
      ∀ register ≤ op.x, restored.state.v register = m.state.v register) ∧
    ∀ (m loaded between restored : Machine) (op back : Operation),
      m.Performs op loaded → op.opcode = .load →
      between.Performs back restored → back.opcode = .store →
      back.x = op.x → between.state.registers.i = m.state.registers.i →
      (∀ register ≤ op.x, between.state.v register = loaded.state.v register) →
      between.state.memory.bytes = loaded.state.memory.bytes →
      restored.state.memory.bytes = m.state.memory.bytes := by
  refine ⟨?_, ?_, ?_, ?_, ?_⟩
  · intro m op
    exact performs_store
  · intro m op
    exact performs_load
  · intro m op
    exact performs_decimal
  · intro m stored between restored op back
    exact load_of_store
  · intro m loaded between restored op back
    exact store_of_load

/-- A program that stores two registers, clears the first of them, loads both again and stores them
once more. -/
def keeping : List UInt8 :=
  [0xF1, 0x55, 0x60, 0x00, 0xF1, 0x65, 0xF1, 0x55]

/-- A machine stands at one of these instructions, with the index register at the start of memory,
where it stays. -/
structure AtKeeping (m : Machine) (k : Nat) : Prop where
  holds : m.state.memory.Holds keeping
  here : m.state.registers.pc = (k + 512 : Nat)
  index : m.state.registers.i = 0
  stays : ¬m.config.dialect.advanceIndex = true

namespace AtKeeping

variable {k : Nat} {after : Machine}

theorem spelled {high low : UInt8} (standing : m.AtKeeping k) (inside : k + 1 < 3584)
    (first : keeping[k]? = some high) (second : keeping[k + 1]? = some low)
    (decoded : Operation.decode? (256 * high.toNat + low.toNat : Nat) = some op)
    (met : op.fault? m.config.dialect m.state = none) : m.state.instruction? = some op :=
  State.instruction?_of_ready
    (State.ready_of_holds standing.holds standing.here inside first second decoded met)

/-- The block of two registers lies in memory. -/
theorem room (standing : m.AtKeeping k) : m.state.registers.i.toNat + 1 ≤ 0xFFF := by
  rw [standing.index]
  decide

/-- The program goes on after an instruction that neither jumps nor writes to it. -/
theorem onwards (standing : m.AtKeeping k) (performs : m.Performs op after)
    (flow : op.flow m.config.dialect m.state = .next) (unset : ¬op.SetsIndex m.config.dialect)
    (front : ∀ place : Address, op.WritesTo m.state place → place.val < 512) :
    after.AtKeeping (k + 2) := by
  obtain ⟨met, rfl⟩ := performs.met
  have footprint : op.Footprint _ _ m.state (m.state.stepped m.config.dialect op) :=
    State.footprint_stepped met
  constructor
  · intro place byte inside found
    have unwritten : ¬op.WritesTo m.state ⟨place + 512, by omega⟩ := by
      intro written
      have before : place + 512 < 512 := front _ written
      omega
    exact (footprint.memory _ unwritten).trans (standing.holds place byte inside found)
  · change (op.flow m.config.dialect m.state).apply m.state.registers.pc = _
    rw [flow, standing.here]
    change ((k + 512 : Nat) : Int) + 2 = _
    omega
  · exact (footprint.index unset).trans standing.index
  · exact standing.stays

end AtKeeping

/-- Two registers are kept where the first glyph was, and the digits of another are stored there. -/
theorem blocks_carried_glyph :
    ∃ m stored between restored again : Machine,
      m.Performs ⟨.store, 0xF155⟩ stored ∧ stored.Performs ⟨.loadByte, 0x6000⟩ between ∧
        between.Performs ⟨.load, 0xF165⟩ restored ∧ restored.Performs ⟨.store, 0xF155⟩ again ∧
        between.state.v Registers.first ≠ m.state.v Registers.first ∧
        restored.state.v Registers.first = m.state.v Registers.first ∧
        again.state.memory.bytes = between.state.memory.bytes ∧
        ∃ counted, (facing 0xF2 0x33).Performs ⟨.decimal, 0xF233⟩ counted := by
  obtain ⟨store, load, decimal, undone, redone⟩ := blocks_carried
  obtain ⟨memory, -, holds⟩ := call_load_of_fits (new {}) (by decide : keeping.length ≤ 3584)
  let m := (new { dialect := { advanceIndex := false } }).withState
    ({ State.initial (some 0) with memory := memory }.setV Registers.first 9)
  have start : m.AtKeeping 0 := ⟨holds, rfl, rfl, Bool.false_ne_true⟩
  obtain ⟨stored, first, -⟩ := store m ⟨.store, 0xF155⟩
    (start.spelled (by decide) rfl rfl rfl ((met_iff_room (.inl rfl)).mpr start.room)) rfl
    start.room
  have inFront (place : Address) (written : Operation.WritesTo ⟨.store, 0xF155⟩ m.state place) :
      place.val < 512 := by
    have upper : place.val ≤ m.state.registers.i.toNat + 1 := written.2
    rw [start.index] at upper
    exact Nat.lt_of_le_of_lt upper (by decide)
  have atClearing := start.onwards first rfl start.stays inFront
  have clearing : stored.state.instruction? = some ⟨.loadByte, 0x6000⟩ :=
    atClearing.spelled (by decide) rfl rfl rfl rfl
  -- Kept behind a variable, so that the bytes in memory are not evaluated.
  obtain ⟨between, clears, cleared, sameBytes⟩ : ∃ between : Machine,
      stored.Performs ⟨.loadByte, 0x6000⟩ between ∧ between.state.v Registers.first = 0 ∧
        between.state.memory.bytes = stored.state.memory.bytes :=
    ⟨_, performs_of_met clearing rfl,
      (stored.state.fetched.v_setV Registers.first Registers.first 0).trans (if_pos rfl), rfl⟩
  have atLoading := atClearing.onwards clears rfl id fun _ => False.elim
  obtain ⟨restored, second, -⟩ := load between ⟨.load, 0xF165⟩
    (atLoading.spelled (by decide) rfl rfl rfl ((met_iff_room (.inr rfl)).mpr atLoading.room)) rfl
    atLoading.room
  have atStoring := atLoading.onwards second rfl atLoading.stays fun _ => False.elim
  obtain ⟨again, third, -⟩ := store restored ⟨.store, 0xF155⟩
    (atStoring.spelled (by decide) rfl rfl rfl ((met_iff_room (.inl rfl)).mpr atStoring.room)) rfl
    atStoring.room
  obtain ⟨counted, counts, -⟩ := decimal (facing 0xF2 0x33) ⟨.decimal, 0xF233⟩
    (instruction?_facing rfl) rfl (by decide)
  have before : m.state.v Registers.first = 9 :=
    (State.v_setV _ Registers.first Registers.first 9).trans (if_pos rfl)
  refine ⟨m, stored, between, restored, again, first, clears, second, third, ?_, ?_, ?_, counted,
    counts⟩
  · rw [cleared, before]
    decide
  · exact undone m stored between restored _ _ first rfl second rfl rfl
      (atLoading.index.trans start.index.symm) (fun _ _ => by rw [sameBytes]) _ (Nat.zero_le _)
  · exact redone between restored restored again _ _ second rfl third rfl rfl
      (atStoring.index.trans atLoading.index.symm) (fun _ _ => rfl) rfl

end Machine

end ChipEight
