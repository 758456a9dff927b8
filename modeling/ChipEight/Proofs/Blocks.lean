import ChipEight.Action

/-!
# Blocks of memory

Instructions read and write memory byte by byte.  Here is what the whole walk over a block
comes to: as long as the block lies in memory, no access on the way fails.
-/

namespace ChipEight

namespace Memory

/-- The place of an address. -/
def place (address : Nat) : Address :=
  ⟨address % 4096, Nat.mod_lt address (by decide)⟩

theorem place_val {address : Nat} (inside : address < 4096) : (place address).val = address :=
  Nat.mod_eq_of_lt inside

/-- So many bytes from an address on. -/
def window (m : Memory) (address : Nat) : Nat → List UInt8
  | 0 => []
  | count + 1 => m.byte (place address) :: m.window (address + 1) count

/-- Memory with reads of so many bytes on record. -/
def noteReads (m : Memory) (address : Nat) : Nat → Memory
  | 0 => m
  | count + 1 => (m.noteRead (place address)).noteReads (address + 1) count

/-- Memory after writes to consecutive addresses. -/
def putAll (m : Memory) (address : Nat) : List UInt8 → Memory
  | [] => m
  | data :: rest => (m.put (place address) data).putAll (address + 1) rest

theorem locate_natCast {address : Nat} (inside : address < 4096) :
    locate address = .ok (place address) := by
  have bounds : 0 ≤ (address : Int) ∧ (address : Int) < 4096 := by omega
  have same : (⟨(address : Int).toNat, by omega⟩ : Address) = place address := by
    apply Fin.ext
    exact (Int.toNat_natCast address).trans (place_val inside).symm
  rw [locate, dif_pos bounds, same]

theorem read_natCast (m : Memory) {address : Nat} (inside : address < 4096) :
    m.read address = .ok (m.byte (place address), m.noteRead (place address)) := by
  rw [read, locate_natCast inside]

theorem write_natCast (m : Memory) {address : Nat} (inside : address < 4096) (data : UInt8) :
    m.write address data = .ok (m.put (place address) data) := by
  rw [write, locate_natCast inside]

@[simp]
theorem window_noteRead (m : Memory) (place : Address) (address count : Nat) :
    (m.noteRead place).window address count = m.window address count := by
  induction count generalizing address with
  | zero => rfl
  | succ count ih =>
      rw [window, window, ih]
      rfl

theorem window_succ (m : Memory) (address count : Nat) :
    m.window address (count + 1) =
      m.byte (place address) :: (m.noteRead (place address)).window (address + 1) count := by
  rw [window, window_noteRead]

theorem noteReads_succ (m : Memory) (address count : Nat) :
    m.noteReads address (count + 1) =
      (m.noteRead (place address)).noteReads (address + 1) count := by
  rw [noteReads]

theorem putAll_cons (m : Memory) (address : Nat) (data : UInt8) (rest : List UInt8) :
    m.putAll address (data :: rest) = (m.put (place address) data).putAll (address + 1) rest := by
  rw [putAll]

end Memory

namespace State

/-- The state after registers have taken consecutive bytes. -/
def takeBytes (s : State) (address : Nat) : List Nibble → State
  | [] => s
  | register :: rest =>
      ({ s with memory := s.memory.noteRead (Memory.place address) }.setV register
        (s.memory.byte (Memory.place address))).takeBytes (address + 1) rest

end State

namespace Action

theorem run_readByte {address : Nat} (inside : address < 4096) (s : State) :
    (readByte address).run s =
      (.ok (s.memory.byte (Memory.place address)),
        { s with memory := s.memory.noteRead (Memory.place address) }) := by
  simp [readByte, Memory.read_natCast _ inside]

theorem run_writeByte {address : Nat} (inside : address < 4096) (data : UInt8) (s : State) :
    (writeByte address data).run s =
      (.ok (), { s with memory := s.memory.put (Memory.place address) data }) := by
  simp [writeByte, Memory.write_natCast _ inside]

/-- Reading does not stop before the end of a block that lies in memory. -/
theorem run_readBytes {address count : Nat} (inside : address + count ≤ 4096) (s : State) :
    (readBytes address count).run s =
      (.ok (s.memory.window address count),
        { s with memory := s.memory.noteReads address count }) := by
  induction count generalizing address s with
  | zero => rfl
  | succ count ih =>
      have first : address < 4096 := by omega
      have rest : address + 1 + count ≤ 4096 := by omega
      have following := ih rest { s with memory := s.memory.noteRead (Memory.place address) }
      rw [Int.natCast_succ] at following
      rw [readBytes, run_bind_ok (run_readByte first s), run_bind_ok following, run_pure,
        Memory.window_succ, Memory.noteReads_succ]

/-- Writing does not stop before the end of a block that lies in memory. -/
theorem run_writeBytes {address : Nat} {data : List UInt8}
    (inside : address + data.length ≤ 4096) (s : State) :
    (writeBytes address data).run s =
      (.ok (), { s with memory := s.memory.putAll address data }) := by
  induction data generalizing address s with
  | nil => rfl
  | cons byte data ih =>
      rw [List.length_cons] at inside
      have first : address < 4096 := by omega
      have rest : address + 1 + data.length ≤ 4096 := by omega
      rw [writeBytes, run_bind_ok (run_writeByte first byte s), Memory.putAll_cons]
      exact ih rest _

/-- Registers take bytes up to the end of a block that lies in memory. -/
theorem run_readRegisters {address : Nat} {registers : List Nibble}
    (inside : address + registers.length ≤ 4096) (s : State) :
    (readRegisters address registers).run s = (.ok (), s.takeBytes address registers) := by
  induction registers generalizing address s with
  | nil => rfl
  | cons register registers ih =>
      rw [List.length_cons] at inside
      have first : address < 4096 := by omega
      have rest : address + 1 + registers.length ≤ 4096 := by omega
      rw [readRegisters, run_bind_ok (run_readByte first s), run_bind_ok (run_modify _ _),
        State.takeBytes]
      exact ih rest _

end Action

end ChipEight
