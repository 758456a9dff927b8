import ChipEight.Proofs.Footprint

/-!
# Results and flags

An arithmetic instruction gives a byte and a bit, which together are the exact result: the bit is
the carry, the missing borrow or the bit that a shift drops (`Operation.Balances`).  The operands
are read before anything is stored, and the bit is stored last.  So the equation between the
operands and the bit holds whichever of the three registers are the same, also where the bit
overwrites the byte (`Operation.Flagged`).  The main statement, `Machine.step_computes`, says this
of a step, and what the logical operations and the addition of a byte leave in the registers.
-/

namespace ChipEight

/-! ## Bytes -/

namespace Arithmetic

theorem add_balances (a b : UInt8) :
    256 * ((add a b).2.toNat : Int) + (add a b).1.toNat = a.toNat + b.toNat := by
  have first := a.toNat_lt
  have second := b.toNat_lt
  by_cases carries : 255 < a.toNat + b.toNat
  · simp only [add, carries, decide_true, Bool.toNat_true, UInt8.toNat_add]
    omega
  · simp only [add, carries, decide_false, Bool.toNat_false, UInt8.toNat_add]
    omega

theorem subtract_balances (a b : UInt8) :
    ((subtract a b).1.toNat : Int) = a.toNat - b.toNat + 256 * (1 - (subtract a b).2.toNat) := by
  have first := a.toNat_lt
  have second := b.toNat_lt
  by_cases fits : b ≤ a
  · have order := UInt8.le_iff_toNat_le.mp fits
    simp only [subtract, fits, decide_true, Bool.toNat_true, UInt8.toNat_sub]
    omega
  · have order : ¬b.toNat ≤ a.toNat := mt UInt8.le_iff_toNat_le.mpr fits
    simp only [subtract, fits, decide_false, Bool.toNat_false, UInt8.toNat_sub]
    omega

theorem shiftRight_balances (a : UInt8) :
    2 * ((shiftRight a).1.toNat : Int) + (shiftRight a).2.toNat = a.toNat := by
  have half : (a >>> 1).toNat = a.toNat / 2 := by
    rw [UInt8.toNat_shiftRight, Nat.shiftRight_eq_div_pow]
    rfl
  by_cases odd : a.toNat % 2 = 1
  · simp only [shiftRight, odd, decide_true, Bool.toNat_true, half]
    omega
  · simp only [shiftRight, odd, decide_false, Bool.toNat_false, half]
    omega

theorem shiftLeft_balances (a : UInt8) :
    256 * ((shiftLeft a).2.toNat : Int) + (shiftLeft a).1.toNat = 2 * a.toNat := by
  have bound := a.toNat_lt
  have twice : (a <<< 1).toNat = 2 * a.toNat % 256 := by
    rw [UInt8.toNat_shiftLeft, Nat.shiftLeft_eq, Nat.mul_comm]
    rfl
  by_cases high : 128 ≤ a.toNat
  · simp only [shiftLeft, high, decide_true, Bool.toNat_true, twice]
    omega
  · simp only [shiftLeft, high, decide_false, Bool.toNat_false, twice]
    omega

end Arithmetic

/-- The arithmetic and logical instructions. -/
def Opcode.arithmetic : List Opcode :=
  [.addByte, .or, .and, .xor, .add, .subtract, .subtractFrom, .shiftRight, .shiftLeft]

namespace Operation

variable {d : Dialect} {op : Operation} {s : State}

/-! ## Instructions with a flag -/

/-- The equation between the operands of an instruction, its flag and its result. -/
def Balances (d : Dialect) (op : Operation) (v : Nibble → UInt8) (flag result : UInt8) : Prop :=
  let vx : Int := (v op.x).toNat
  let vy : Int := (v op.y).toNat
  let source := if d.shiftFromY then vy else vx
  let f : Int := flag.toNat
  let r : Int := result.toNat
  match op.opcode with
  | .add => 256 * f + r = vx + vy
  | .subtract => r = vx - vy + 256 * (1 - f)
  | .subtractFrom => r = vy - vx + 256 * (1 - f)
  | .shiftRight => 2 * r + f = source
  | .shiftLeft => 256 * f + r = 2 * source
  | _ => False

/-- The equation leaves no choice, neither of the flag nor of the result. -/
theorem Balances.unique {v : Nibble → UInt8} {flag otherFlag result other : UInt8}
    (bit : flag.toNat ≤ 1) (otherBit : otherFlag.toNat ≤ 1)
    (balances : op.Balances d v flag result) (otherBalances : op.Balances d v otherFlag other) :
    flag = otherFlag ∧ result = other := by
  have byte := result.toNat_lt
  have otherByte := other.toNat_lt
  rw [← UInt8.toNat_inj, ← UInt8.toNat_inj]
  cases kind : op.opcode with
  | add | subtract | subtractFrom | shiftRight | shiftLeft =>
      simp only [Balances, kind] at balances otherBalances
      omega
  | _ =>
      simp only [Balances, kind] at balances

/-- The flag register holds a bit and `Vx` a byte which satisfy the equation; if they are the same
register, it holds the bit.  All other registers are as before. -/
structure Flagged (d : Dialect) (op : Operation) (v v' : Nibble → UInt8) : Prop where
  bit : (v' Registers.flag).toNat ≤ 1
  balances : ∃ result, op.Balances d v (v' Registers.flag) result ∧
    (op.x ≠ Registers.flag → v' op.x = result)
  others : ∀ register, register ≠ op.x → register ≠ Registers.flag → v' register = v register

/-- A bit as it stands in the flag register. -/
theorem toNat_bit (bit : Bool) : (if bit then 1 else 0 : UInt8).toNat = bit.toNat := by
  cases bit <;> rfl

theorem flagged_setFlagged {result : UInt8 × Bool}
    (balances : op.Balances d s.v (if result.2 then 1 else 0) result.1) :
    op.Flagged d s.v (setFlagged s op.x result).v := by
  have flag : (setFlagged s op.x result).v Registers.flag = if result.2 then 1 else 0 := by
    rw [setFlagged, State.v_setV, if_pos rfl]
  constructor
  · rw [flag, toNat_bit]
    exact result.2.toNat_le
  · refine ⟨result.1, by rwa [flag], fun other => ?_⟩
    rw [setFlagged, State.v_setV, if_neg other, State.v_setV, if_pos rfl]
  · intro register notResult notFlag
    rw [setFlagged, State.v_setV, if_neg notFlag, State.v_setV, if_neg notResult]

theorem shiftOperand_eq (d : Dialect) (op : Operation) (s : State) :
    ((shiftOperand d op s).toNat : Int) =
      if d.shiftFromY then ((s.v op.y).toNat : Int) else (s.v op.x).toNat := by
  unfold shiftOperand
  cases d.shiftFromY <;> rfl

/-! ## All of them -/

/-- A register holds the result of a logical operation, unless it is the flag register and the
dialect clears that. -/
def Logical (d : Dialect) (x : Nibble) (result : UInt8) (v v' : Nibble → UInt8) : Prop :=
  ∀ register, v' register =
    if d.clearFlag = true ∧ register = Registers.flag then 0
    else if register = x then result
    else v register

/-- What an arithmetic or logical instruction makes of the byte registers. -/
def Computes (d : Dialect) (op : Operation) (v v' : Nibble → UInt8) : Prop :=
  match op.opcode with
  | .add | .subtract | .subtractFrom | .shiftRight | .shiftLeft => op.Flagged d v v'
  | .or => Logical d op.x (v op.x ||| v op.y) v v'
  | .and => Logical d op.x (v op.x &&& v op.y) v v'
  | .xor => Logical d op.x (v op.x ^^^ v op.y) v v'
  | .addByte => ∀ register, (v' register).toNat =
      if register = op.x then ((v op.x).toNat + op.byte.toNat) % 256 else (v register).toNat
  | _ => False

theorem computes_effect (s : State) (kind : op.opcode ∈ Opcode.arithmetic) :
    op.Computes d s.v (op.effect d s).v := by
  cases opcode : op.opcode with
  | add | subtract | subtractFrom | shiftRight | shiftLeft =>
      simp only [Computes, effect, opcode]
      apply flagged_setFlagged
      -- What remains is the equation of bytes for the one operation or the other.
      simp only [Balances, opcode, toNat_bit, ← shiftOperand_eq, Arithmetic.add_balances,
        Arithmetic.subtract_balances, Arithmetic.shiftRight_balances,
        Arithmetic.shiftLeft_balances]
  | or | and | xor =>
      simp only [Computes, effect, opcode]
      exact fun register => v_setLogical d s op.x register _
  | addByte =>
      simp only [Computes, effect, opcode]
      intro register
      rw [State.v_setV]
      by_cases same : register = op.x
      · rw [if_pos same, if_pos same, UInt8.toNat_add]
      · rw [if_neg same, if_neg same]
  | _ =>
      rw [opcode] at kind
      exact absurd kind (by decide)

theorem fault?_of_arithmetic (kind : op.opcode ∈ Opcode.arithmetic) : op.fault? d s = none := by
  cases opcode : op.opcode with
  | ret | jump | call | jumpOffset | decimal | store | load | draw =>
      rw [opcode] at kind
      exact absurd kind (by decide)
  | _ => simp only [fault?, opcode]

end Operation

namespace Machine

/-- A step whose instruction is an arithmetic or logical one carries it out, whatever the registers
hold, whichever of them are the same and whatever the dialect.  The arithmetic ones leave a bit in
the flag register and, if that is not `Vx`, a byte in `Vx`, which satisfy the equation for the
operands before the step.  The logical ones leave their result in `Vx` and then zero in the flag
register, if the dialect clears it.  The addition of a byte leaves the sum in `Vx`, modulo 256, and
sets no flag. -/
theorem step_computes {m : Machine} {op : Operation} (spelled : m.state.instruction? = some op)
    (kind : op.opcode ∈ Opcode.arithmetic) :
    ∃ after, m.Performs op after ∧ op.Computes m.config.dialect m.state.v after.state.v :=
  ⟨_, performs_of_met spelled (Operation.fault?_of_arithmetic kind),
    Operation.computes_effect m.state.fetched kind⟩

/-- An addition to the flag register itself, which then holds the carry. -/
theorem step_computes_flag :
    ∃ m after : Machine,
      m.Performs ⟨.add, 0x8FE4⟩ after ∧ m.state.v 0xF = 200 ∧ m.state.v 0xE = 100 ∧
        after.state.v 0xF = 1 := by
  let s := ((facing 0x8F 0xE4).state.setV 0xF 200).setV 0xE 100
  let m := (facing 0x8F 0xE4).withState s
  have spelled : m.state.instruction? = some ⟨.add, 0x8FE4⟩ :=
    calc
      m.state.instruction? = (facing 0x8F 0xE4).state.instruction? :=
        State.instruction?_congr rfl rfl
      _ = some ⟨.add, 0x8FE4⟩ := instruction?_facing rfl
  obtain ⟨after, performs, computes⟩ := step_computes spelled (by decide)
  have flagged : Operation.Flagged m.config.dialect ⟨.add, 0x8FE4⟩ m.state.v after.state.v :=
    computes
  obtain ⟨result, balances, -⟩ := flagged.balances
  have sum : 256 * ((after.state.v 0xF).toNat : Int) + result.toNat = 200 + 100 := balances
  have byte := result.toNat_lt
  refine ⟨m, after, performs, rfl, rfl, UInt8.toNat_inj.mp ?_⟩
  change (after.state.v 0xF).toNat = 1
  omega

end Machine

end ChipEight
