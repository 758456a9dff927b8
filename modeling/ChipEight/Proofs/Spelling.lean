import ChipEight.Proofs.Snapshot
import ChipEight.SaveState.Document

/-!
# Memory and screen as text

Memory is spelled as lines of hexadecimal text and the screen as rows of zeros and ones.
Reading them back gives the bytes and the pixels that were written, since a text that is cut
into parts is whole again when its parts are put in a row.
-/

namespace ChipEight

/-! ## Hexadecimal text -/

namespace Hex

theorem digitValue?_upperDigit {n : Nat} (small : n < 16) :
    digitValue? (upperDigit n) = some n := by
  have all : ∀ n < 16, digitValue? (upperDigit n) = some n := by decide
  exact all n small

theorem isSeparator_upperDigit {n : Nat} (small : n < 16) :
    isSeparator (upperDigit n) = false := by
  have all : ∀ n < 16, isSeparator (upperDigit n) = false := by decide
  exact all n small

theorem upperDigit_ascii {n : Nat} (small : n < 16) : (upperDigit n).toNat < 128 := by
  have all : ∀ n < 16, (upperDigit n).toNat < 128 := by decide
  exact all n small

theorem highDigit_lt (byte : UInt8) : byte.toNat / 16 < 16 := by
  have bound := byte.toNat_lt
  omega

theorem lowDigit_lt (byte : UInt8) : byte.toNat % 16 < 16 :=
  Nat.mod_lt _ (by decide)

theorem ofNat_digits (byte : UInt8) :
    UInt8.ofNat (16 * (byte.toNat / 16) + byte.toNat % 16) = byte := by
  rw [Nat.div_add_mod, UInt8.ofNat_toNat]

theorem decodeFrom_pair {c d : Char} {high low : Nat} (start : isSeparator c = false)
    (first : digitValue? c = some high) (second : digitValue? d = some low) (position : Nat)
    (rest : List Char) :
    decodeFrom position (c :: d :: rest) =
      (decodeFrom (position + 2) rest).map (UInt8.ofNat (16 * high + low) :: ·) := by
  rw [decodeFrom.eq_def]
  simp only [start, first, second, Bool.false_eq_true, if_false]
  cases decodeFrom (position + 2) rest <;> rfl

/-- Pairs of digits are read back as the bytes that they were written for. -/
theorem decodeFrom_encode (bytes : List UInt8) (position : Nat) :
    decodeFrom position (encode upperDigit bytes) = .ok bytes := by
  induction bytes generalizing position with
  | nil => rfl
  | cons byte bytes ih =>
      have pair := decodeFrom_pair (isSeparator_upperDigit (highDigit_lt byte))
        (digitValue?_upperDigit (highDigit_lt byte)) (digitValue?_upperDigit (lowDigit_lt byte))
        position (encode upperDigit bytes)
      rw [ih, ofNat_digits] at pair
      exact pair

theorem decode_encode (bytes : List UInt8) : decode (encode upperDigit bytes) = .ok bytes := by
  have ascii : (encode upperDigit bytes).findIdx? (fun c => 128 ≤ c.toNat) = none := by
    rw [List.findIdx?_eq_none_iff]
    intro c member
    obtain ⟨byte, -, spelled⟩ := List.mem_flatMap.mp member
    have high := upperDigit_ascii (highDigit_lt byte)
    have low := upperDigit_ascii (lowDigit_lt byte)
    simp only [List.mem_cons, List.not_mem_nil, or_false] at spelled
    rcases spelled with rfl | rfl
    · simpa using high
    · simpa using low
  rw [decode, ascii]
  exact decodeFrom_encode bytes 0

theorem encode_flatten (digit : Nat → Char) (parts : List (List UInt8)) :
    encode digit parts.flatten = parts.flatMap (encode digit) := by
  induction parts with
  | nil => rfl
  | cons part parts ih =>
      rw [List.flatten_cons, List.flatMap_cons, ← ih]
      exact List.flatMap_append

end Hex

@[simp]
theorem Text.chars_ofChars (chars : List Char) : (Text.ofChars chars).chars = chars := by
  simp [Text.ofChars, Text.chars, Letter.toChar, Function.comp_def]

@[simp]
theorem Text.chars_ofString_ofList (chars : List Char) :
    (Text.ofString (String.ofList chars)).chars = chars := by
  rw [Text.ofString, String.toList_ofList, Text.chars_ofChars]

namespace SaveState

/-! ## Parts of a list -/

section Parts

variable {α : Type}

/-- Neighbouring parts of one length make up the beginning of a list. -/
theorem flatten_parts (length count : Nat) (items : List α) :
    ((List.range count).map fun k => (items.drop (length * k)).take length).flatten =
      items.take (length * count) := by
  induction count with
  | zero => simp
  | succ count ih =>
      rw [List.range_succ, List.map_append, List.flatten_append, ih, Nat.mul_succ,
        List.take_add]
      simp

theorem flatten_cut {length : Nat} (positive : 0 < length) (items : List α) :
    (cut length items).flatten = items := by
  have whole : items.length ≤ length * ((items.length + length - 1) / length) := by
    have quotient := Nat.div_add_mod (items.length + length - 1) length
    have rest := Nat.mod_lt (items.length + length - 1) positive
    omega
  rw [cut, flatten_parts, List.take_of_length_le whole]

end Parts

/-! ## Memory -/

/-- Memory is read from the lines that spell it. -/
theorem readMemory_memoryLines {memory : List UInt8} (size : memory.length = 4096) :
    readMemory (.list (memoryLines memory)) = .ok memory := by
  let spell (line : List UInt8) : Text :=
    Text.ofString (String.ofList (Hex.encode Hex.upperDigit line))
  have lines : memoryLines memory = ((cut 32 memory).map spell).map .text := by
    rw [List.map_map]
    rfl
  have texts : (memoryLines memory).mapM text? = some ((cut 32 memory).map spell) := by
    rw [lines]
    exact Snapshot.mapM_map_of_mem fun _ _ => rfl
  have spelled : ((cut 32 memory).map spell).flatMap Text.chars =
      Hex.encode Hex.upperDigit memory := by
    rw [List.flatMap_map]
    simp only [spell, Text.chars_ofString_ofList]
    rw [← Hex.encode_flatten, flatten_cut (by decide)]
  simp [readMemory, Value.content, texts, spelled, Hex.decode_encode, size]

/-! ## The screen -/

/-- A row of the screen as text. -/
def spellRow (row : List UInt8) : Value :=
  .text (String.ofList (row.map fun pixel => if pixel = 0 then '0' else '1'))

theorem pixel?_spelled {pixel : UInt8} (binary : pixel ≤ 1) :
    pixel? (if pixel = 0 then '0' else '1') = some pixel := by
  rw [← Screen.shade_of_le_one binary]
  cases pixel == 1 <;> rfl

theorem row?_spellRow {row : List UInt8} (size : row.length = 64)
    (binary : ∀ pixel ∈ row, pixel ≤ 1) : row? (spellRow row) = some row := by
  have pixels : (row.map fun pixel => if pixel = 0 then '0' else '1').mapM pixel? = some row :=
    Snapshot.mapM_map_of_mem fun pixel member => pixel?_spelled (binary pixel member)
  simp [row?, spellRow, text?, pixels, size]

/-- The screen is read from the rows that spell it. -/
theorem readScreen_screenRows {pixels : List UInt8} (size : pixels.length = 2048)
    (binary : pixels.all (· ≤ 1) = true) : readScreen (.list (screenRows pixels)) = .ok pixels := by
  let parts := (List.range 32).map fun y => (pixels.drop (64 * y)).take 64
  have rows : screenRows pixels = parts.map spellRow := by
    rw [List.map_map]
    rfl
  have read : (screenRows pixels).mapM row? = some parts := by
    rw [rows]
    apply Snapshot.mapM_map_of_mem
    intro row member
    obtain ⟨y, inside, rfl⟩ := List.mem_map.mp member
    have bound := List.mem_range.mp inside
    apply row?_spellRow
    · rw [List.length_take, List.length_drop, size]
      omega
    · intro pixel member
      have inside := List.mem_of_mem_drop (List.mem_of_mem_take member)
      exact of_decide_eq_true (List.all_eq_true.mp binary pixel inside)
  have count : parts.length = 32 := by simp [parts]
  have whole : parts.flatten = pixels := by
    rw [flatten_parts, List.take_of_length_le (Nat.le_of_eq size)]
  simp [readScreen, Value.content, read, count, whole]

end SaveState

end ChipEight
