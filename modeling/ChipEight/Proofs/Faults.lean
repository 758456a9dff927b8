import ChipEight.Proofs.Decoding
import ChipEight.Proofs.Reachable

/-!
# When a step fails

`State.Fails` lists the faults of a step, by the digits of the word at the program counter
and by the numbers in the state, without following the instruction cycle.  The main statement,
`Machine.step_fails_iff`, is that the list is complete: a machine that calls have brought
about fails in these cases and with these faults only, and in every other case its step comes
to its end.
-/

namespace ChipEight

namespace State

/-- When the instruction that a word spells fails in a state, and with which fault.  The word
is given by its digits.  A bad access and a bad jump are both reported as faults of
addressing, with the address that they name. -/
inductive Trips (d : Dialect) (s : State) (word : Int) : Fault → Prop
  | unknown (noPattern : ∀ opcode : Opcode, opcode.pattern.accepts word = false) :
      Trips d s word (.unknownInstruction word s.registers.pc)
  | returnEmpty (spelled : digits word = (0, 0, 0xE, 0xE))
      (empty : s.registers.stack.depth = 0) :
      Trips d s word .stackUnderflow
  | returnOutside {top : UInt16} (spelled : digits word = (0, 0, 0xE, 0xE))
      (used : 0 < s.registers.stack.depth)
      (last : s.registers.stack.slots[s.registers.stack.depth - 1]? = some top)
      (outside : 0xFFE < top.toNat) :
      Trips d s word (.jumpTarget top.toNat)
  | jump (spelled : digits word = (1, 0xF, 0xF, 0xF)) : Trips d s word (.jumpTarget 0xFFF)
  | call (spelled : digits word = (2, 0xF, 0xF, 0xF)) : Trips d s word (.jumpTarget 0xFFF)
  | callFull {a b c : Nibble} (spelled : digits word = (2, a, b, c))
      (room : (a, b, c) ≠ (0xF, 0xF, 0xF)) (full : s.registers.stack.depth = 16) :
      Trips d s word .stackOverflow
  | jumpOffset {x a b : Nibble} {target : Nat} (spelled : digits word = (0xB, x, a, b))
      (sum : target =
        0x100 * x.val + 0x10 * a.val + b.val + (s.v (if d.offsetFromX then x else 0)).toNat)
      (outside : 0xFFE < target) :
      Trips d s word (.jumpTarget target)
  | draw {x y n : Nibble} (spelled : digits word = (0xD, x, y, n)) (used : 1 ≤ n.val)
      (outside : 0xFFF < s.registers.i.toNat + n.val - 1) :
      Trips d s word (.outOfRange (max s.registers.i.toNat 0x1000))
  | decimal {x : Nibble} (spelled : digits word = (0xF, x, 3, 3))
      (outside : 0xFFF < s.registers.i.toNat + 2) :
      Trips d s word (.outOfRange (max s.registers.i.toNat 0x1000))
  | store {x : Nibble} (spelled : digits word = (0xF, x, 5, 5))
      (outside : 0xFFF < s.registers.i.toNat + x.val) :
      Trips d s word (.outOfRange (max s.registers.i.toNat 0x1000))
  | load {x : Nibble} (spelled : digits word = (0xF, x, 6, 5))
      (outside : 0xFFF < s.registers.i.toNat + x.val) :
      Trips d s word (.outOfRange (max s.registers.i.toNat 0x1000))

/-- When a step fails, and with which fault. -/
inductive Fails (d : Dialect) (s : State) : Fault → Prop
  | fetch (beyond : 0xFFE < s.registers.pc) :
      Fails d s (.outOfRange (max s.registers.pc 0x1000))
  | word {fault : Fault} (inside : s.registers.pc ≤ 0xFFE) (trips : Trips d s s.word fault) :
      Fails d s fault

end State

/-! ## Checks -/

theorem Memory.blockFault?_eq_some {address length : Nat} {fault : Fault} :
    Memory.blockFault? address length = some fault ↔
      0x1000 < address + length ∧ fault = .outOfRange (max address 0x1000) := by
  have limit : ((max address 4096 : Nat) : Int) = max (address : Int) 0x1000 := by omega
  rw [Memory.blockFault?, Option.ite_none_left_eq_some, Nat.not_le, Option.some.injEq, limit,
    eq_comm (b := fault)]

theorem Flow.jumpFault?_eq_some {target : Nat} {fault : Fault} :
    Flow.jumpFault? target = some fault ↔ 0xFFE < target ∧ fault = .jumpTarget target := by
  rw [Flow.jumpFault?, Option.ite_none_left_eq_some, Nat.not_le, Option.some.injEq,
    eq_comm (b := fault)]

theorem CallStack.top?_of_used {s : CallStack} (used : 0 < s.depth) :
    ∃ top, s.top? = some top ∧ s.slots[s.depth - 1]? = some top := by
  have bound := s.depth_le
  have inside : s.depth - 1 < 16 := by omega
  refine ⟨s.slots[s.depth - 1], ?_, Vector.getElem?_eq_getElem inside⟩
  rw [top?, dif_pos used]

theorem CallStack.top?_of_empty {s : CallStack} (empty : s.depth = 0) : s.top? = none := by
  simp [top?, empty]

namespace Operation

variable {d : Dialect} {s : State} {op : Operation} {fault : Fault}

/-! ## The faults of each kind -/

theorem fault?_ret (kind : op.opcode = .ret) :
    op.fault? d s = some fault ↔
      (s.registers.stack.depth = 0 ∧ fault = .stackUnderflow) ∨
        ∃ top : UInt16,
          0 < s.registers.stack.depth ∧
            s.registers.stack.slots[s.registers.stack.depth - 1]? = some top ∧
            0xFFE < top.toNat ∧ fault = .jumpTarget top.toNat := by
  simp only [fault?, kind]
  rcases Nat.eq_zero_or_pos s.registers.stack.depth with empty | used
  · simp [CallStack.top?_of_empty empty, empty, eq_comm]
  · obtain ⟨top, topEq, last⟩ := CallStack.top?_of_used used
    have notEmpty : s.registers.stack.depth ≠ 0 := Nat.ne_of_gt used
    simp [topEq, last, used, notEmpty, Flow.jumpFault?_eq_some]

theorem fault?_jump (kind : op.opcode = .jump) :
    op.fault? d s = some fault ↔ 0xFFE < op.address ∧ fault = .jumpTarget op.address := by
  simp only [fault?, kind, Flow.jumpFault?_eq_some]

theorem fault?_call (kind : op.opcode = .call) :
    op.fault? d s = some fault ↔
      (0xFFE < op.address ∧ fault = .jumpTarget op.address) ∨
        (op.address ≤ 0xFFE ∧ s.registers.stack.depth = 16 ∧ fault = .stackOverflow) := by
  have bound := s.registers.stack.depth_le
  have full : ¬s.registers.stack.depth < 16 ↔ s.registers.stack.depth = 16 := by omega
  simp only [fault?, kind, Option.or_eq_some_iff, Flow.jumpFault?_eq_some,
    Flow.jumpFault?_eq_none, Option.ite_none_left_eq_some, full, Option.some.injEq,
    eq_comm (b := fault)]

theorem fault?_jumpOffset (kind : op.opcode = .jumpOffset) :
    op.fault? d s = some fault ↔
      0xFFE < op.offsetTarget d s ∧ fault = .jumpTarget (op.offsetTarget d s) := by
  simp only [fault?, kind, Flow.jumpFault?_eq_some]

theorem fault?_decimal (kind : op.opcode = .decimal) :
    op.fault? d s = some fault ↔
      0x1000 < s.registers.i.toNat + 3 ∧
        fault = .outOfRange (max s.registers.i.toNat 0x1000) := by
  simp only [fault?, kind, Memory.blockFault?_eq_some]

theorem fault?_block (kind : op.opcode = .store ∨ op.opcode = .load) :
    op.fault? d s = some fault ↔
      0x1000 < s.registers.i.toNat + (op.x.val + 1) ∧
        fault = .outOfRange (max s.registers.i.toNat 0x1000) := by
  rcases kind with kind | kind <;> simp only [fault?, kind, Memory.blockFault?_eq_some]

theorem fault?_draw (kind : op.opcode = .draw) :
    op.fault? d s = some fault ↔
      op.n.val ≠ 0 ∧ 0x1000 < s.registers.i.toNat + op.n.val ∧
        fault = .outOfRange (max s.registers.i.toNat 0x1000) := by
  simp only [fault?, kind, Option.ite_none_left_eq_some, Memory.blockFault?_eq_some, ne_eq]

/-- Only the very last address leaves no room for an instruction. -/
theorem address_beyond (op : Operation) :
    0xFFE < op.address ↔
      nibble op.raw 2 = 0xF ∧ nibble op.raw 1 = 0xF ∧ nibble op.raw 0 = 0xF := by
  have spelled := op.address_eq
  have last : (0xF : Nibble).val = 15 := rfl
  simp only [Fin.ext_iff, last]
  omega

theorem address_of_beyond (beyond : 0xFFE < op.address) : op.address = 0xFFF := by
  have spelled := op.address_eq
  omega

/-! ## The list is complete -/

/-- A fault of an instruction is on the list. -/
theorem trips_of_fault? (accepted : op.opcode.pattern.accepts op.raw = true)
    (met : op.fault? d s = some fault) : s.Trips d op.raw fault := by
  rw [Pattern.accepts_iff] at accepted
  have address := op.address_eq
  cases kind : op.opcode with
  | ret =>
      simp only [kind, Opcode.pattern, Pattern.allows, beq_iff_eq] at accepted
      have spelled : digits op.raw = (0, 0, 0xE, 0xE) := digits_eq_iff.mpr accepted
      rcases (fault?_ret kind).mp met with ⟨empty, rfl⟩ | ⟨top, used, last, outside, rfl⟩
      · exact .returnEmpty spelled empty
      · exact .returnOutside spelled used last outside
  | jump =>
      simp only [kind, Opcode.pattern] at accepted
      obtain ⟨beyond, rfl⟩ := (fault?_jump kind).mp met
      rw [address_of_beyond beyond]
      exact .jump (digits_eq_iff.mpr ⟨accepted.1, op.address_beyond.mp beyond⟩)
  | call =>
      simp only [kind, Opcode.pattern] at accepted
      rcases (fault?_call kind).mp met with ⟨beyond, rfl⟩ | ⟨inside, full, rfl⟩
      · rw [address_of_beyond beyond]
        exact .call (digits_eq_iff.mpr ⟨accepted.1, op.address_beyond.mp beyond⟩)
      · refine .callFull (digits_eq_iff.mpr ⟨accepted.1, rfl, rfl, rfl⟩) ?_ full
        intro last
        simp only [Prod.mk.injEq] at last
        have beyond := op.address_beyond.mpr last
        omega
  | jumpOffset =>
      simp only [kind, Opcode.pattern] at accepted
      obtain ⟨outside, rfl⟩ := (fault?_jumpOffset kind).mp met
      refine .jumpOffset (digits_eq_iff.mpr ⟨accepted.1, rfl, rfl, rfl⟩) ?_ outside
      rw [offsetTarget, address]
      rfl
  | decimal =>
      simp only [kind, Opcode.pattern, Pattern.allows, beq_iff_eq] at accepted
      obtain ⟨outside, rfl⟩ := (fault?_decimal kind).mp met
      exact .decimal (digits_eq_iff.mpr ⟨accepted.1, rfl, accepted.2.2⟩) (by omega)
  | store =>
      simp only [kind, Opcode.pattern, Pattern.allows, beq_iff_eq] at accepted
      obtain ⟨outside, rfl⟩ := (fault?_block (.inl kind)).mp met
      exact .store (x := op.x) (digits_eq_iff.mpr ⟨accepted.1, rfl, accepted.2.2⟩) (by omega)
  | load =>
      simp only [kind, Opcode.pattern, Pattern.allows, beq_iff_eq] at accepted
      obtain ⟨outside, rfl⟩ := (fault?_block (.inr kind)).mp met
      exact .load (x := op.x) (digits_eq_iff.mpr ⟨accepted.1, rfl, accepted.2.2⟩) (by omega)
  | draw =>
      simp only [kind, Opcode.pattern] at accepted
      obtain ⟨used, outside, rfl⟩ := (fault?_draw kind).mp met
      exact .draw (n := op.n) (digits_eq_iff.mpr ⟨accepted.1, rfl, rfl, rfl⟩) (by omega) (by omega)
  | _ => simp [fault?, kind] at met

/-- A fault on the list is met by the instruction that the word spells. -/
theorem fault?_of_trips (accepted : op.opcode.pattern.accepts op.raw = true)
    (trips : s.Trips d op.raw fault) : op.fault? d s = some fault := by
  -- Each entry of the list gives the digits of a word, and they tell its kind.
  have kindOf {a b c e : Nibble} (spelled : digits op.raw = (a, b, c, e)) (opcode : Opcode)
      (fits : opcode.pattern.fits (a, b, c, e) = true) : op.opcode = opcode :=
    Opcode.eq_of_accepts accepted (Opcode.accepts_of_digits spelled fits)
  have address := op.address_eq
  cases trips with
  | unknown noPattern => simp [noPattern] at accepted
  | returnEmpty spelled empty =>
      exact (fault?_ret (kindOf spelled .ret rfl)).mpr (.inl ⟨empty, rfl⟩)
  | returnOutside spelled used last outside =>
      exact (fault?_ret (kindOf spelled .ret rfl)).mpr (.inr ⟨_, used, last, outside, rfl⟩)
  | jump spelled =>
      have beyond := op.address_beyond.mpr (digits_eq_iff.mp spelled).2
      refine (fault?_jump (kindOf spelled .jump rfl)).mpr ⟨beyond, ?_⟩
      rw [address_of_beyond beyond]
      rfl
  | call spelled =>
      have beyond := op.address_beyond.mpr (digits_eq_iff.mp spelled).2
      refine (fault?_call (kindOf spelled .call rfl)).mpr (.inl ⟨beyond, ?_⟩)
      rw [address_of_beyond beyond]
      rfl
  | callFull spelled room full =>
      refine (fault?_call (kindOf spelled .call rfl)).mpr (.inr ⟨?_, full, rfl⟩)
      obtain ⟨-, rfl, rfl, rfl⟩ := digits_eq_iff.mp spelled
      rw [← Nat.not_lt, address_beyond]
      simpa using room
  | jumpOffset spelled sum outside =>
      have kind := kindOf spelled .jumpOffset rfl
      obtain ⟨-, rfl, rfl, rfl⟩ := digits_eq_iff.mp spelled
      rw [← address] at sum
      subst sum
      exact (fault?_jumpOffset kind).mpr ⟨outside, rfl⟩
  | draw spelled used outside =>
      have kind := kindOf spelled .draw rfl
      obtain ⟨-, -, -, rfl⟩ := digits_eq_iff.mp spelled
      have inside : op.n = nibble op.raw 0 := rfl
      rw [fault?_draw kind, inside]
      exact ⟨by omega, by omega, rfl⟩
  | decimal spelled outside =>
      exact (fault?_decimal (kindOf spelled .decimal rfl)).mpr ⟨by omega, rfl⟩
  | store spelled outside =>
      have kind := kindOf spelled .store rfl
      obtain ⟨-, rfl, -⟩ := digits_eq_iff.mp spelled
      exact (fault?_block (.inl kind)).mpr ⟨by rw [x]; omega, rfl⟩
  | load spelled outside =>
      have kind := kindOf spelled .load rfl
      obtain ⟨-, rfl, -⟩ := digits_eq_iff.mp spelled
      exact (fault?_block (.inr kind)).mpr ⟨by rw [x]; omega, rfl⟩

end Operation

namespace State

variable {d : Dialect} {s : State} {fault : Fault}

/-- All entries of the list but the first are about words that have a pattern. -/
theorem Trips.eq_unknown {word : Int} (trips : s.Trips d word fault)
    (noPattern : ∀ opcode : Opcode, opcode.pattern.accepts word = false) :
    fault = .unknownInstruction word s.registers.pc := by
  have impossible {a b c e : Nibble} (spelled : digits word = (a, b, c, e)) (opcode : Opcode)
      (fits : opcode.pattern.fits (a, b, c, e) = true) : False := by
    have accepted := Opcode.accepts_of_digits spelled fits
    rw [noPattern opcode] at accepted
    contradiction
  cases trips with
  | unknown => rfl
  | returnEmpty spelled | returnOutside spelled => exact (impossible spelled .ret rfl).elim
  | jump spelled => exact (impossible spelled .jump rfl).elim
  | call spelled | callFull spelled => exact (impossible spelled .call rfl).elim
  | jumpOffset spelled => exact (impossible spelled .jumpOffset rfl).elim
  | draw spelled => exact (impossible spelled .draw rfl).elim
  | decimal spelled => exact (impossible spelled .decimal rfl).elim
  | store spelled => exact (impossible spelled .store rfl).elim
  | load spelled => exact (impossible spelled .load rfl).elim

/-- The list for a word is about the instruction that it spells, or about that it spells
none. -/
theorem trips_iff {word : Int} :
    s.Trips d word fault ↔
      match Operation.decode? word with
      | none => fault = .unknownInstruction word s.registers.pc
      | some op => op.fault? d s = some fault := by
  cases decoded : Operation.decode? word with
  | none =>
      have noPattern := Operation.decode?_eq_none_iff.mp decoded
      constructor
      · intro trips
        exact trips.eq_unknown noPattern
      · rintro rfl
        exact .unknown noPattern
  | some op =>
      obtain ⟨rfl, accepted⟩ := Operation.decode?_eq_some_iff.mp decoded
      exact ⟨Operation.fault?_of_trips accepted, Operation.trips_of_fault? accepted⟩

theorem fetchFault?_eq_some (nonneg : 0 ≤ s.registers.pc) :
    s.fetchFault? = some fault ↔
      0xFFE < s.registers.pc ∧ fault = .outOfRange (max s.registers.pc 0x1000) := by
  have start : (s.registers.pc.toNat : Int) = s.registers.pc := Int.toNat_of_nonneg nonneg
  have beyond : 0x1000 < s.registers.pc.toNat + 2 ↔ 0xFFE < s.registers.pc := by omega
  rw [fetchFault?, if_neg (Int.not_lt.mpr nonneg), Memory.blockFault?_eq_some, start, beyond]

/-- A step is kept from an instruction by the faults of the list. -/
theorem ready_eq_error_iff (nonneg : 0 ≤ s.registers.pc) :
    s.ready d = .error fault ↔ s.Fails d fault := by
  by_cases beyond : 0xFFE < s.registers.pc
  · have fetch := (fetchFault?_eq_some nonneg).mpr ⟨beyond, rfl⟩
    simp only [ready, fetch, Except.error.injEq]
    constructor
    · rintro rfl
      exact .fetch beyond
    · intro fails
      cases fails with
      | fetch => rfl
      | word inside => omega
  · have inside : s.registers.pc ≤ 0xFFE := Int.not_lt.mp beyond
    have fetch : s.fetchFault? = none := fetchFault?_eq_none.mpr ⟨nonneg, inside⟩
    have onList : s.Fails d fault ↔ s.Trips d s.word fault := by
      constructor
      · intro fails
        cases fails with
        | fetch => contradiction
        | word _ trips => exact trips
      · exact .word inside
    rw [onList, trips_iff]
    simp only [ready, fetch]
    cases Operation.decode? s.word with
    | none => simp [eq_comm]
    | some op => cases met : op.fault? d s <;> simp [met]

/-- What a fault of a step is reported as. -/
theorem Fails.label_mem (fails : s.Fails d fault) :
    fault.label ∈ ["AddressOutOfBounds", "UnknownInstruction", "StackUnderflow",
      "StackOverflow"] := by
  cases fails with
  | fetch => simp [Fault.label]
  | word _ trips => cases trips <;> simp [Fault.label]

end State

namespace Machine

theorem step_eq_error_iff {m : Machine} {fault : Fault} :
    (∃ after, m.step = (.error fault, after)) ↔ m.state.ready m.config.dialect = .error fault := by
  rw [step, State.step_eq]
  cases m.state.ready m.config.dialect <;> simp

theorem step_eq_ok_iff {m : Machine} :
    (∃ report after, m.step = (.ok report, after)) ↔
      ∀ fault, m.state.ready m.config.dialect ≠ .error fault := by
  rw [step, State.step_eq]
  cases m.state.ready m.config.dialect <;> simp

/-- A machine that a host has brought about fails in its next step exactly with the faults
that are listed for its state, and in every other case the step comes to its end. -/
theorem step_fails_iff (config : Config) (fresh : Generator) (calls : List Call) :
    let m := (new config fresh).callAll calls
    (∀ fault,
      (∃ after, m.step = (.error fault, after)) ↔ m.state.Fails m.config.dialect fault) ∧
    ((∃ report after, m.step = (.ok report, after)) ↔
      ∀ fault, ¬m.state.Fails m.config.dialect fault) ∧
    ∀ fault, m.state.Fails m.config.dialect fault →
      fault.label ∈ ["AddressOutOfBounds", "UnknownInstruction", "StackUnderflow",
        "StackOverflow"] := by
  intro m
  have regular : m.state.Regular := regular_callAll_new config fresh calls
  have listed : ∀ fault, m.state.ready m.config.dialect = .error fault ↔
      m.state.Fails m.config.dialect fault :=
    fun _ => State.ready_eq_error_iff regular.pc_nonneg
  refine ⟨?_, ?_, fun fault fails => fails.label_mem⟩
  · intro fault
    rw [step_eq_error_iff, listed]
  · rw [step_eq_ok_iff]
    exact forall_congr' fun fault => not_congr (listed fault)

end Machine

end ChipEight
