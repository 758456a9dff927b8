import ChipEight.Checksum.Crc32
import Mathlib.Algebra.Group.Nat.Defs
import Mathlib.Logic.Function.Iterate

/-!
# Bursts of errors

A check register loses nothing: what it holds after a byte tells what it held before.  Four
bytes in a row fit into the register side by side, so two byte strings that differ within four
neighbouring bytes and nowhere else always have different checks (`Crc32.update_ne_of_burst`).
-/

namespace ChipEight.Crc32

/-! ## One bit -/

/-- The bit that a shift takes out of the register. -/
def lowBit (register : UInt32) : Bool :=
  register.toNat.testBit 0

/-- What comes back into the register for the bit that was taken out. -/
def feedback (bit : Bool) : UInt32 :=
  if bit then polynomial else 0

theorem lowBit_iff {register : UInt32} : lowBit register = true ↔ register &&& 1 = 1 := by
  rw [lowBit, Nat.testBit_zero, decide_eq_true_eq, ← UInt32.toNat_inj, UInt32.toNat_and,
    ← Nat.and_one_is_mod]
  rfl

theorem shift_eq (register : UInt32) :
    shift register = (register >>> 1) ^^^ feedback (lowBit register) := by
  by_cases odd : lowBit register = true
  · rw [shift, if_pos (lowBit_iff.mp odd), odd]
    rfl
  · rw [shift, if_neg fun low => odd (lowBit_iff.mpr low), eq_false_of_ne_true odd]
    exact UInt32.xor_zero.symm

theorem toNat_half (register : UInt32) : (register >>> 1).toNat = register.toNat / 2 := by
  rw [UInt32.toNat_shiftRight]
  exact Nat.shiftRight_eq_div_pow _ 1

theorem lowBit_xor (a b : UInt32) : lowBit (a ^^^ b) = (lowBit a ^^ lowBit b) := by
  rw [lowBit, UInt32.toNat_xor, Nat.testBit_xor]
  rfl

theorem feedback_xor (a b : Bool) : feedback (a ^^ b) = feedback a ^^^ feedback b := by
  cases a <;> cases b <;> rfl

/-- A shift is linear in exclusive or. -/
theorem shift_xor (a b : UInt32) : shift (a ^^^ b) = shift a ^^^ shift b := by
  rw [shift_eq, shift_eq, shift_eq, UInt32.shiftRight_xor, lowBit_xor, feedback_xor]
  ac_rfl

/-- The highest bit of the polynomial tells that a bit was taken out, so that no register but
the empty one is emptied by a shift. -/
theorem eq_zero_of_shift {register : UInt32} (emptied : shift register = 0) : register = 0 := by
  rw [shift_eq, UInt32.xor_eq_zero_iff] at emptied
  have half : register.toNat / 2 = (feedback (lowBit register)).toNat := by
    rw [← toNat_half, emptied]
  have bound := register.toNat_lt
  cases low : lowBit register with
  | true =>
      rw [low] at half
      have high : (feedback true).toNat = 0xEDB88320 := rfl
      omega
  | false =>
      rw [low] at half
      have none : (feedback false).toNat = 0 := rfl
      have even : ¬register.toNat % 2 = 1 := by
        rw [lowBit, Nat.testBit_zero, decide_eq_false_iff_not] at low
        exact low
      apply UInt32.toNat_inj.mp
      change register.toNat = 0
      omega

/-- Without a bit to take out, a shift moves all others down. -/
theorem toNat_shift_of_double {register : UInt32} {n : Nat} (double : register.toNat = 2 * n) :
    (shift register).toNat = n := by
  have low : lowBit register = false := by
    rw [lowBit, Nat.testBit_zero, double]
    simp
  have moved : shift register = register >>> 1 := by
    rw [shift_eq, low]
    exact UInt32.xor_zero
  rw [moved, toNat_half, double]
  omega

/-! ## One byte -/

theorem shiftByte_xor (a b : UInt32) : shiftByte (a ^^^ b) = shiftByte a ^^^ shiftByte b := by
  simp only [shiftByte, shift_xor]

theorem shiftByte_injective : Function.Injective shiftByte := by
  intro a b same
  rw [← UInt32.xor_eq_zero_iff, ← shiftByte_xor] at same
  have difference : a ^^^ b = 0 := by
    iterate 8 apply eq_zero_of_shift
    exact same
  exact UInt32.xor_eq_zero_iff.mp difference

theorem toNat_shiftLeft_byte {register : UInt32} (room : register.toNat < 2 ^ 24) :
    (register <<< 8).toNat = 256 * register.toNat := by
  rw [UInt32.toNat_shiftLeft, Nat.shiftLeft_eq]
  change register.toNat * 256 % 4294967296 = _
  omega

/-- A byte shift moves the three upper bytes down if the lowest is empty. -/
theorem shiftByte_shiftLeft {register : UInt32} (room : register.toNat < 2 ^ 24) :
    shiftByte (register <<< 8) = register := by
  apply UInt32.toNat_inj.mp
  iterate 8 apply toNat_shift_of_double
  rw [toNat_shiftLeft_byte room]
  omega

theorem absorb_injective (byte : UInt8) :
    Function.Injective fun register => absorb register byte := by
  intro a b same
  exact (UInt32.xor_left_inj byte.toUInt32).mp (shiftByte_injective same)

theorem foldl_absorb_injective (bytes : List UInt8) :
    Function.Injective fun register => bytes.foldl absorb register := by
  induction bytes with
  | nil => exact Function.injective_id
  | cons byte rest ih => exact ih.comp (absorb_injective byte)

/-! ## Four bytes -/

/-- Bytes side by side in a register, the first lowest. -/
def sideBySide : List UInt8 → UInt32
  | [] => 0
  | byte :: rest => byte.toUInt32 ^^^ sideBySide rest <<< 8

theorem toNat_sideBySide_lt {bytes : List UInt8} (fits : bytes.length ≤ 4) :
    (sideBySide bytes).toNat < 2 ^ (8 * bytes.length) := by
  induction bytes with
  | nil => decide
  | cons byte rest ih =>
      rw [List.length_cons] at fits ⊢
      have others := ih (by omega)
      have room : (sideBySide rest).toNat < 2 ^ 24 :=
        Nat.lt_of_lt_of_le others (Nat.pow_le_pow_right (by decide) (by omega))
      have low : byte.toUInt32.toNat < 2 ^ (8 * (rest.length + 1)) := by
        rw [UInt8.toNat_toUInt32]
        exact Nat.lt_of_lt_of_le byte.toNat_lt (Nat.pow_le_pow_right (by decide) (by omega))
      have high : (sideBySide rest <<< 8).toNat < 2 ^ (8 * (rest.length + 1)) := by
        rw [toNat_shiftLeft_byte room, Nat.mul_succ, Nat.pow_add]
        omega
      rw [sideBySide, UInt32.toNat_xor]
      exact Nat.xor_lt_two_pow low high

theorem room_sideBySide {bytes : List UInt8} (fits : bytes.length ≤ 3) :
    (sideBySide bytes).toNat < 2 ^ 24 :=
  Nat.lt_of_lt_of_le (toNat_sideBySide_lt (by omega))
    (Nat.pow_le_pow_right (by decide) (by omega))

/-- The lowest byte is the first. -/
theorem toUInt8_sideBySide {byte : UInt8} {rest : List UInt8} (fits : rest.length ≤ 3) :
    (sideBySide (byte :: rest)).toUInt8 = byte := by
  have empty : (sideBySide rest <<< 8).toUInt8 = 0 := by
    apply UInt8.toNat_inj.mp
    rw [UInt32.toNat_toUInt8, toNat_shiftLeft_byte (room_sideBySide fits)]
    exact Nat.mul_mod_right 256 _
  rw [sideBySide, UInt32.toUInt8_xor, empty]
  simp

theorem sideBySide_inj {a b : List UInt8} (size : a.length = b.length) (fits : a.length ≤ 4)
    (same : sideBySide a = sideBySide b) : a = b := by
  induction a generalizing b with
  | nil => exact (List.length_eq_zero_iff.mp size.symm).symm
  | cons byte rest ih =>
      cases b with
      | nil => contradiction
      | cons other others =>
          simp only [List.length_cons, Nat.add_right_cancel_iff] at size fits
          have first : byte = other := by
            have lowest : (sideBySide (byte :: rest)).toUInt8 = byte :=
              toUInt8_sideBySide (by omega)
            rw [← lowest, same, toUInt8_sideBySide (by omega)]
          subst first
          have shifted := (UInt32.xor_right_inj byte.toUInt32).mp same
          have numbers := congrArg UInt32.toNat shifted
          rw [toNat_shiftLeft_byte (room_sideBySide (by omega)),
            toNat_shiftLeft_byte (room_sideBySide (by omega))] at numbers
          have later : sideBySide rest = sideBySide others := by
            apply UInt32.toNat_inj.mp
            omega
          rw [ih size (by omega) later]

/-- Up to four bytes are taken in as if they had been put into the register side by side. -/
theorem foldl_absorb_eq {bytes : List UInt8} (fits : bytes.length ≤ 4) (register : UInt32) :
    bytes.foldl absorb register = shiftByte^[bytes.length] (register ^^^ sideBySide bytes) := by
  induction bytes generalizing register with
  | nil => simp [sideBySide]
  | cons byte rest ih =>
      rw [List.length_cons] at fits
      have moved : shiftByte (sideBySide rest <<< 8) = sideBySide rest :=
        shiftByte_shiftLeft (room_sideBySide (by omega))
      rw [List.foldl_cons, ih (by omega), absorb, List.length_cons, Function.iterate_succ_apply,
        sideBySide, ← UInt32.xor_assoc, shiftByte_xor (register ^^^ byte.toUInt32), moved]

theorem foldl_absorb_inj {a b : List UInt8} (size : a.length = b.length) (fits : a.length ≤ 4)
    {register : UInt32} (same : a.foldl absorb register = b.foldl absorb register) : a = b := by
  rw [foldl_absorb_eq fits, foldl_absorb_eq (size ▸ fits), ← size] at same
  have inputs := (shiftByte_injective.iterate a.length) same
  exact sideBySide_inj size fits ((UInt32.xor_right_inj register).mp inputs)

/-! ## Bursts -/

/-- Two byte strings of one length differ, but only within four bytes in a row. -/
structure Burst (a b : List UInt8) : Prop where
  length_eq : a.length = b.length
  ne : a ≠ b
  within : ∃ start, ∀ k, a[k]? ≠ b[k]? → start ≤ k ∧ k < start + 4

namespace Burst

variable {a b : List UInt8}

/-- One byte is changed. -/
theorem head {x y : UInt8} (ne : x ≠ y) (rest : List UInt8) : Burst (x :: rest) (y :: rest) := by
  refine ⟨rfl, fun same => ne (List.cons.inj same).1, 0, fun k differ => ?_⟩
  cases k with
  | zero => omega
  | succ k => exact absurd rfl differ

theorem append_right (burst : Burst a b) (behind : List UInt8) :
    Burst (a ++ behind) (b ++ behind) := by
  obtain ⟨start, within⟩ := burst.within
  refine ⟨by rw [List.length_append, List.length_append, burst.length_eq],
    fun same => burst.ne (List.append_cancel_right same), start, fun k differ => within k ?_⟩
  by_cases inside : k < a.length
  · rwa [List.getElem?_append_left inside,
      List.getElem?_append_left (burst.length_eq ▸ inside)] at differ
  · have outside : a.length ≤ k := Nat.le_of_not_lt inside
    rw [List.getElem?_append_right outside,
      List.getElem?_append_right (burst.length_eq ▸ outside), burst.length_eq] at differ
    exact absurd rfl differ

theorem append_left (burst : Burst a b) (before : List UInt8) :
    Burst (before ++ a) (before ++ b) := by
  obtain ⟨start, within⟩ := burst.within
  refine ⟨by rw [List.length_append, List.length_append, burst.length_eq],
    fun same => burst.ne (List.append_cancel_left same), before.length + start,
    fun k differ => ?_⟩
  by_cases inside : k < before.length
  · rw [List.getElem?_append_left inside, List.getElem?_append_left inside] at differ
    exact absurd rfl differ
  · have outside : before.length ≤ k := Nat.le_of_not_lt inside
    rw [List.getElem?_append_right outside, List.getElem?_append_right outside] at differ
    have near := within _ differ
    omega

/-- Such byte strings are the same before and behind four bytes, which are not the same. -/
theorem exists_parts (burst : Burst a b) :
    ∃ before first second behind,
      a = before ++ (first ++ behind) ∧ b = before ++ (second ++ behind) ∧
        first.length = second.length ∧ first.length ≤ 4 ∧ first ≠ second := by
  obtain ⟨start, within⟩ := burst.within
  have outside (k : Nat) (far : k < start ∨ start + 4 ≤ k) : a[k]? = b[k]? := by
    by_contra differ
    have near := within k differ
    omega
  have before : a.take start = b.take start := by
    apply List.ext_getElem?
    intro k
    rw [List.getElem?_take, List.getElem?_take]
    by_cases inside : k < start
    · rw [if_pos inside, if_pos inside, outside k (.inl inside)]
    · rw [if_neg inside, if_neg inside]
  have behind : (a.drop start).drop 4 = (b.drop start).drop 4 := by
    apply List.ext_getElem?
    intro k
    rw [List.getElem?_drop, List.getElem?_drop, List.getElem?_drop, List.getElem?_drop,
      outside _ (.inr (by omega))]
  have aEq : a = a.take start ++ ((a.drop start).take 4 ++ (a.drop start).drop 4) := by
    rw [List.take_append_drop, List.take_append_drop]
  have bEq : b = a.take start ++ ((b.drop start).take 4 ++ (a.drop start).drop 4) := by
    rw [before, behind, List.take_append_drop, List.take_append_drop]
  refine ⟨_, _, _, _, aEq, bEq, ?_, ?_, ?_⟩
  · simp only [List.length_take, List.length_drop, burst.length_eq]
  · exact List.length_take_le _ _
  · intro same
    apply burst.ne
    rw [aEq, bEq, same]

end Burst

/-- A burst of errors within four bytes changes every check. -/
theorem update_ne_of_burst {a b : List UInt8} (burst : Burst a b) (check : UInt32) :
    update check a ≠ update check b := by
  obtain ⟨before, first, second, behind, rfl, rfl, size, fits, ne⟩ := burst.exists_parts
  intro same
  rw [update, update, UInt32.not_inj, List.foldl_append, List.foldl_append, List.foldl_append,
    List.foldl_append] at same
  exact ne (foldl_absorb_inj size fits (foldl_absorb_injective behind same))

end ChipEight.Crc32
