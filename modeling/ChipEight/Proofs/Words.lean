import Mathlib.Data.Int.Bitwise
import ChipEight.Proofs.Decoding

/-!
# Instruction words

The table of instructions is one of masks: a word has the pattern of a kind if the bits under its
mask are the right ones.  For integers beyond sixteen bits, negative ones among them, the mask acts
on the two's complement form, so it cuts off all but the last four digits
(`Pattern.accepts_iff_matches`).  Hence decoding does not depend on the order of the table
(`Operation.decodeBy?_of_perm`), nor on anything but the residue of the word
(`Operation.decode?_congr`).  The fixed bits of a kind and the fields from which it takes its
operands together are the whole word (`Operation.residue_of_decode?`).
-/

namespace ChipEight

/-! ## Fixed bits -/

/-- A number below a power of two has no bits from that power on. -/
theorem inside_of_testBit {mask bits k : ℕ} (small : mask < 2 ^ bits)
    (set : mask.testBit k = true) : k < bits := by
  by_contra beyond
  have bounded := small.trans_le (Nat.pow_le_pow_right (by decide) (Nat.le_of_not_lt beyond))
  rw [Nat.testBit_lt_two_pow bounded] at set
  contradiction

/-- Masking cuts an integer down to the bits of the mask, whatever its sign and size. -/
theorem land_of_small (raw : ℤ) {mask : ℕ} (small : mask < 2 ^ 16) :
    Int.land raw mask = ((raw % 65536).toNat &&& mask : ℕ) := by
  cases raw with
  | ofNat n =>
      have residue : (Int.ofNat n % 65536).toNat = n % 2 ^ 16 := by
        rw [Int.ofNat_eq_natCast]
        omega
      rw [residue]
      change ((n &&& mask : ℕ) : ℤ) = _
      rw [Nat.cast_inj]
      apply Nat.eq_of_testBit_eq
      intro k
      rw [Nat.testBit_land, Nat.testBit_land, Nat.testBit_mod_two_pow]
      cases set : mask.testBit k with
      | false => rw [Bool.and_false, Bool.and_false]
      | true => rw [decide_eq_true (inside_of_testBit small set), Bool.true_and]
  | negSucc n =>
      have residue : (Int.negSucc n % 65536).toNat = 2 ^ 16 - (n % 2 ^ 16 + 1) := by omega
      rw [residue]
      change ((mask.ldiff n : ℕ) : ℤ) = _
      rw [Nat.cast_inj]
      apply Nat.eq_of_testBit_eq
      intro k
      rw [Nat.testBit_ldiff, Nat.testBit_land,
        Nat.testBit_two_pow_sub_succ (Nat.mod_lt _ (by decide)), Nat.testBit_mod_two_pow]
      cases set : mask.testBit k with
      | false => rw [Bool.false_and, Bool.and_false]
      | true =>
          rw [decide_eq_true (inside_of_testBit small set), Bool.true_and, Bool.true_and,
            Bool.true_and, Bool.and_true]

/-- Numbers in base sixteen are masked digit by digit. -/
theorem land_digit (high mask : ℕ) {low least : ℕ} (lowDigit : low < 16) (leastDigit : least < 16) :
    (16 * high + low) &&& (16 * mask + least) = 16 * (high &&& mask) + (low &&& least) := by
  apply Nat.eq_of_testBit_eq
  intro k
  have both : low &&& least < 2 ^ 4 := Nat.and_lt_two_pow low leastDigit
  rw [Nat.testBit_land, Nat.testBit_two_pow_mul_add (i := 4) _ lowDigit,
    Nat.testBit_two_pow_mul_add (i := 4) _ leastDigit, Nat.testBit_two_pow_mul_add (i := 4) _ both]
  split <;> simp

/-- The last four digits of an integer make up its residue. -/
theorem residue_eq (raw : ℤ) :
    (raw % 65536).toNat =
      16 * (16 * (16 * (nibble raw 3).val + (nibble raw 2).val) + (nibble raw 1).val) +
        (nibble raw 0).val := by
  have first := nibble_val raw 3
  have second := nibble_val raw 2
  have third := nibble_val raw 1
  have fourth := nibble_val raw 0
  simp only [Nat.pow_eq, Nat.reducePow] at first second third fourth
  omega

namespace Pattern

/-- Whether an integer has the fixed bits of the pattern, in the two's complement form that
goes on without end. -/
def Matches (p : Pattern) (raw : ℤ) : Prop := Int.land raw p.mask = p.value

instance (p : Pattern) (raw : ℤ) : Decidable (p.Matches raw) :=
  inferInstanceAs (Decidable (_ = _))

/-- The bits of one digit that are fixed. -/
def digitMask (wanted : Option Nibble) : ℕ := if wanted.isSome then 15 else 0

/-- What the fixed bits of one digit are. -/
def digitValue (wanted : Option Nibble) : ℕ := (wanted.map Fin.val).getD 0

theorem digitMask_lt (wanted : Option Nibble) : digitMask wanted < 16 := by
  cases wanted <;> simp [digitMask]

theorem digitValue_lt (wanted : Option Nibble) : digitValue wanted < 16 := by
  cases wanted with
  | none => decide
  | some value => exact value.isLt

theorem land_digitMask_eq_iff (wanted : Option Nibble) (digit : Nibble) :
    digit.val &&& digitMask wanted = digitValue wanted ↔ allows wanted digit = true := by
  cases wanted with
  | none => simp [digitMask, digitValue, allows]
  | some value =>
      have kept : digit.val &&& 15 = digit.val :=
        (Nat.and_two_pow_sub_one_eq_mod digit.val 4).trans (Nat.mod_eq_of_lt digit.isLt)
      simp [digitMask, digitValue, allows, kept, Fin.ext_iff]

theorem mask_eq (p : Pattern) :
    p.mask =
      16 * (16 * (16 * 15 + digitMask p.second) + digitMask p.third) + digitMask p.fourth := by
  simp only [mask, digitMask]
  omega

theorem value_eq (p : Pattern) :
    p.value =
      16 * (16 * (16 * p.first.val + digitValue p.second) + digitValue p.third) +
        digitValue p.fourth := by
  simp only [value, digitValue]
  omega

/-- Digits and masks tell the same integers. -/
theorem accepts_iff_matches {p : Pattern} {raw : ℤ} : p.accepts raw = true ↔ p.Matches raw := by
  have secondMask := digitMask_lt p.second
  have thirdMask := digitMask_lt p.third
  have fourthMask := digitMask_lt p.fourth
  have small : p.mask < 2 ^ 16 := by
    rw [mask_eq]
    omega
  have first : (nibble raw 3).val &&& 15 = (nibble raw 3).val :=
    (Nat.and_two_pow_sub_one_eq_mod _ 4).trans (Nat.mod_eq_of_lt (nibble raw 3).isLt)
  have second := Nat.and_lt_two_pow (nibble raw 2).val (n := 4) secondMask
  have third := Nat.and_lt_two_pow (nibble raw 1).val (n := 4) thirdMask
  have fourth := Nat.and_lt_two_pow (nibble raw 0).val (n := 4) fourthMask
  have secondValue := digitValue_lt p.second
  have thirdValue := digitValue_lt p.third
  have fourthValue := digitValue_lt p.fourth
  rw [Matches, land_of_small raw small, Nat.cast_inj, residue_eq, mask_eq, value_eq,
    land_digit _ _ (nibble raw 0).isLt fourthMask, land_digit _ _ (nibble raw 1).isLt thirdMask,
    land_digit _ _ (nibble raw 2).isLt secondMask, first, accepts_iff,
    ← land_digitMask_eq_iff p.second, ← land_digitMask_eq_iff p.third,
    ← land_digitMask_eq_iff p.fourth, Fin.ext_iff]
  omega

/-- The digits of an integer that the pattern leaves free, each at its place. -/
def free (p : Pattern) (raw : ℤ) : ℕ :=
  let digit (wanted : Option Nibble) (power : ℕ) : ℕ :=
    if wanted.isSome then 0 else (nibble raw power).val
  0x100 * digit p.second 2 + 0x10 * digit p.third 1 + digit p.fourth 0

/-- An integer that has the pattern is made up of the fixed digits and the free ones. -/
theorem residue_of_accepts {p : Pattern} {raw : ℤ} (accepted : p.accepts raw = true) :
    (raw % 65536).toNat = p.value + p.free raw := by
  obtain ⟨first, second, third, fourth⟩ := accepts_iff.mp accepted
  have digit {wanted : Option Nibble} {power : ℕ} (allowed : allows wanted (nibble raw power)) :
      (nibble raw power).val =
        digitValue wanted + if wanted.isSome then 0 else (nibble raw power).val := by
    cases wanted with
    | none => simp [digitValue]
    | some value => simp [digitValue, beq_iff_eq.mp allowed]
  have secondDigit := digit second
  have thirdDigit := digit third
  have fourthDigit := digit fourth
  rw [residue_eq, value_eq, first]
  simp only [free]
  omega

end Pattern

namespace Operation

/-- Decoding by a table of kinds in some order: the first kind whose fixed bits a word has. -/
def decodeBy? (table : List Opcode) (raw : ℤ) : Option Operation :=
  (table.find? fun opcode => decide (opcode.pattern.Matches raw)).map fun opcode => ⟨opcode, raw⟩

/-- All tables that list the same kinds decode alike. -/
theorem decodeBy?_of_perm {table : List Opcode} (listed : table.Perm Opcode.all) (raw : ℤ) :
    decodeBy? table raw = decode? raw := by
  cases decoded : decode? raw with
  | none =>
      have unmatched := decode?_eq_none_iff.mp decoded
      rw [decodeBy?, Option.map_eq_none_iff, List.find?_eq_none]
      intro opcode _
      rw [decide_eq_true_iff, ← Pattern.accepts_iff_matches, unmatched opcode]
      exact Bool.false_ne_true
  | some op =>
      obtain ⟨rfl, accepted⟩ := decode?_eq_some_iff.mp decoded
      have isListed : op.opcode ∈ table := listed.mem_iff.mpr op.opcode.mem_all
      cases found : table.find? fun opcode => decide (opcode.pattern.Matches op.raw) with
      | none =>
          have unmatched := List.find?_eq_none.mp found op.opcode isListed
          rw [decide_eq_true_iff, ← Pattern.accepts_iff_matches] at unmatched
          exact absurd accepted unmatched
      | some other =>
          have matched : other.pattern.Matches op.raw := by simpa using List.find?_some found
          have same := Opcode.eq_of_accepts (Pattern.accepts_iff_matches.mpr matched) accepted
          rw [decodeBy?, found, Option.map_some, same]

/-- What is read off a word: its kind, the name of the kind, the operands as they are shown, and
the operands as numbers. -/
def reading (op : Operation) :
    Opcode × String × List String × Nibble × Nibble × Nibble × UInt8 × ℕ :=
  (op.opcode, op.opcode.mnemonic, op.operands, op.x, op.y, op.n, op.byte, op.address)

theorem nibble_congr {raw other : ℤ} (same : raw % 65536 = other % 65536) {power : ℕ}
    (within : power < 4) : nibble raw power = nibble other power := by
  have first := nibble_val raw power
  have second := nibble_val other power
  apply Fin.ext
  obtain rfl | rfl | rfl | rfl : power = 0 ∨ power = 1 ∨ power = 2 ∨ power = 3 := by omega
  all_goals
    simp only [Nat.pow_eq, Nat.reducePow] at first second
    omega

theorem reading_congr {opcode : Opcode} {raw other : ℤ} (same : raw % 65536 = other % 65536) :
    (⟨opcode, raw⟩ : Operation).reading = (⟨opcode, other⟩ : Operation).reading := by
  have sameX : (⟨opcode, raw⟩ : Operation).x = (⟨opcode, other⟩ : Operation).x :=
    nibble_congr same (by decide)
  have sameY : (⟨opcode, raw⟩ : Operation).y = (⟨opcode, other⟩ : Operation).y :=
    nibble_congr same (by decide)
  have sameN : (⟨opcode, raw⟩ : Operation).n = (⟨opcode, other⟩ : Operation).n :=
    nibble_congr same (by decide)
  have sameByte : (⟨opcode, raw⟩ : Operation).byte = (⟨opcode, other⟩ : Operation).byte := by
    rw [byte, byte, show raw % 256 = other % 256 by omega]
  have sameAddress :
      (⟨opcode, raw⟩ : Operation).address = (⟨opcode, other⟩ : Operation).address := by
    rw [address, address, show raw % 4096 = other % 4096 by omega]
  simp only [reading, operands, sameX, sameY, sameN, sameByte, sameAddress]

/-- What decoding reads off an integer depends on its last sixteen bits alone. -/
theorem decode?_congr {raw other : ℤ} (same : raw % 65536 = other % 65536) :
    (decode? raw).map reading = (decode? other).map reading := by
  have accepts (opcode : Opcode) : opcode.pattern.accepts raw = opcode.pattern.accepts other := by
    simp only [Pattern.accepts, nibble_congr same (by decide : 3 < 4),
      nibble_congr same (by decide : 2 < 4), nibble_congr same (by decide : 1 < 4),
      nibble_congr same (by decide : 0 < 4)]
  simp only [decode?, accepts, Option.map_map]
  congr 1
  funext opcode
  exact reading_congr same

/-! ## Operand fields -/

/-- The bits of the word that the kind takes operands from. -/
def fields (op : Operation) : ℕ :=
  match op.opcode.form with
  | .nothing => 0
  | .address | .nameAddress _ => op.address
  | .register | .nameRegister _ | .registerName _ => 0x100 * op.x.val
  | .registerByte => 0x100 * op.x.val + op.byte.toNat
  | .registers => 0x100 * op.x.val + 0x10 * op.y.val
  | .sprite => 0x100 * op.x.val + 0x10 * op.y.val + op.n.val

theorem byte_eq (op : Operation) :
    op.byte.toNat = 0x10 * (nibble op.raw 1).val + (nibble op.raw 0).val := by
  have third := nibble_val op.raw 1
  have fourth := nibble_val op.raw 0
  simp only [Nat.pow_eq, Nat.reducePow] at third fourth
  rw [byte, UInt8.toNat_ofNat']
  omega

/-- Every kind takes its operands from exactly those digits that its pattern leaves free. -/
theorem fields_eq_free (op : Operation) : op.fields = op.opcode.pattern.free op.raw := by
  obtain ⟨opcode, raw⟩ := op
  cases opcode <;>
    simp [fields, Opcode.form, Opcode.pattern, Pattern.free, byte_eq, address_eq, x, y, n,
      Nat.add_assoc]

/-- A word is made up of the fixed bits of its kind and of its operands. -/
theorem residue_of_decode? {raw : ℤ} {op : Operation} (decoded : decode? raw = some op) :
    raw % 65536 = op.opcode.pattern.value + op.fields := by
  obtain ⟨rfl, accepted⟩ := decode?_eq_some_iff.mp decoded
  have residue := Pattern.residue_of_accepts accepted
  rw [fields_eq_free]
  omega

end Operation

end ChipEight
