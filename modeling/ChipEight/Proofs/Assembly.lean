import ChipEight.Proofs.Spelling
import ChipEight.Proofs.Words

/-!
# Assembly text

The text of an instruction tells its word.  Its first word is the mnemonic, and the operands behind
it can be told apart, since none of them has a blank or a comma in it.  Many kinds share a mnemonic;
those of one mnemonic differ in the characters that their operands start with
(`Opcode.eq_of_marks`).  The kind says which fields the operands were taken from, and hexadecimal
digits of a fixed number tell a number (`Hex.upper_injective`).  So the fields and with them all
sixteen bits are found again (`Operation.residue_of_text`).  The main statement is
`Operation.decode?_determined`.
-/

namespace ChipEight

/-! ## Hexadecimal text -/

namespace Hex

/-- The last `width` digits of a number in base sixteen, upper-case, with zeros in front. -/
def columns : ℕ → ℕ → List Char
  | 0, _ => []
  | width + 1, value => columns width (value / 16) ++ [upperDigit (value % 16)]

theorem columns_zero (width : ℕ) : columns width 0 = List.replicate width '0' := by
  induction width with
  | zero => rfl
  | succ width ih =>
      rw [columns, Nat.zero_div, ih, Nat.zero_mod, List.replicate_succ']
      rfl

/-- Filling the digits of a number up with zeros gives its columns. -/
theorem columns_eq {width value : ℕ} (fits : value < 16 ^ (width + 1)) :
    List.replicate (width + 1 - (digits upperDigit value).length) '0' ++ digits upperDigit value =
      columns (width + 1) value := by
  induction width generalizing value with
  | zero =>
      have small : value < 16 := fits
      rw [digits, if_pos small, columns, Nat.mod_eq_of_lt small]
      rfl
  | succ width ih =>
      rw [columns]
      by_cases small : value < 16
      · rw [digits, if_pos small, Nat.mod_eq_of_lt small, Nat.div_eq_of_lt small, columns_zero]
        rfl
      · have rest : value / 16 < 16 ^ (width + 1) :=
          Nat.div_lt_of_lt_mul (by rwa [← Nat.pow_succ'])
        rw [digits, if_neg small, ← ih rest, List.length_append, List.length_singleton,
          Nat.add_sub_add_right, List.append_assoc]

theorem toList_upper {width value : ℕ} (fits : value < 16 ^ (width + 1)) :
    (upper (width + 1) value).toList = columns (width + 1) value := by
  have nonnegative : ¬ ((value : ℤ) < 0) := by omega
  simp only [upper, signed, if_neg nonnegative, Int.natAbs_natCast, String.empty_append,
    String.toList_ofList, String.length_empty, Nat.sub_zero, columns_eq fits]

theorem upperDigit_injective {a b : ℕ} (first : a < 16) (second : b < 16)
    (same : upperDigit a = upperDigit b) : a = b := by
  have value := digitValue?_upperDigit first
  rw [same, digitValue?_upperDigit second] at value
  exact (Option.some.inj value).symm

theorem columns_injective {width a b : ℕ} (first : a < 16 ^ width) (second : b < 16 ^ width)
    (same : columns width a = columns width b) : a = b := by
  induction width generalizing a b with
  | zero => omega
  | succ width ih =>
      obtain ⟨high, low⟩ := List.append_inj' same rfl
      have lowest := upperDigit_injective (Nat.mod_lt a (by decide)) (Nat.mod_lt b (by decide))
        (List.singleton_inj.mp low)
      have rest : a / 16 = b / 16 :=
        ih (Nat.div_lt_of_lt_mul (by rwa [← Nat.pow_succ']))
          (Nat.div_lt_of_lt_mul (by rwa [← Nat.pow_succ'])) high
      omega

/-- Texts of numbers that fit into the width tell the numbers. -/
theorem upper_injective {width a b : ℕ} (first : a < 16 ^ (width + 1))
    (second : b < 16 ^ (width + 1)) (same : upper (width + 1) a = upper (width + 1) b) : a = b := by
  refine columns_injective first second ?_
  rw [← toList_upper first, ← toList_upper second, same]

/-- Every column is a digit. -/
theorem mem_columns {width value : ℕ} {c : Char} (member : c ∈ columns width value) :
    ∃ digit < 16, c = upperDigit digit := by
  induction width generalizing value with
  | zero => cases member
  | succ width ih =>
      rcases List.mem_append.mp member with high | low
      · exact ih high
      · exact ⟨value % 16, Nat.mod_lt _ (by decide), List.mem_singleton.mp low⟩

end Hex

/-! ## Words of a text -/

/-- The part of a text before its first blank. -/
def firstWord (text : String) : List Char := text.toList.takeWhile (· ≠ ' ')

theorem takeWhile_solid {word : List Char} (solid : ' ' ∉ word) (rest : List Char) :
    (word ++ rest).takeWhile (· ≠ ' ') = word ++ rest.takeWhile (· ≠ ' ') := by
  apply List.takeWhile_append_of_pos
  intro c member
  rw [decide_eq_true_iff]
  rintro rfl
  exact solid member

theorem firstWord_of_solid {word : String} (solid : ' ' ∉ word.toList) :
    firstWord word = word.toList := by
  have whole := takeWhile_solid solid []
  rwa [List.append_nil, List.takeWhile_nil, List.append_nil] at whole

theorem firstWord_of_blank {word : String} (solid : ' ' ∉ word.toList) (rest : String) :
    firstWord (word ++ " " ++ rest) = word.toList := by
  rw [firstWord, String.toList_append, String.toList_append, List.append_assoc,
    takeWhile_solid solid]
  exact List.append_nil _

/-- Two texts with a separator are cut at its first place. -/
theorem append_separator_inj {α : Type} {separator : α} {a b s t : List α}
    (first : separator ∉ a) (second : separator ∉ b)
    (same : a ++ separator :: s = b ++ separator :: t) : a = b ∧ s = t := by
  induction a generalizing b with
  | nil =>
      cases b with
      | nil => exact ⟨rfl, (List.cons.inj same).2⟩
      | cons c b =>
          obtain ⟨rfl, -⟩ := List.cons.inj same
          exact absurd List.mem_cons_self second
  | cons c a ih =>
      cases b with
      | nil =>
          obtain ⟨rfl, -⟩ := List.cons.inj same
          exact absurd List.mem_cons_self first
      | cons d b =>
          obtain ⟨rfl, rest⟩ := List.cons.inj same
          obtain ⟨rfl, rfl⟩ := ih (fun member => first (List.mem_cons_of_mem _ member))
            (fun member => second (List.mem_cons_of_mem _ member)) rest
          exact ⟨rfl, rfl⟩

/-- A list of parts without a separator in them is told by the parts put in a row. -/
theorem intercalate_inj {α : Type} {separator : α} {gap : List α} {as bs : List (List α)}
    (first : ∀ a ∈ as, separator ∉ a) (second : ∀ b ∈ bs, separator ∉ b)
    (someFirst : as ≠ []) (someSecond : bs ≠ [])
    (same : (separator :: gap).intercalate as = (separator :: gap).intercalate bs) : as = bs := by
  induction as generalizing bs with
  | nil => contradiction
  | cons a as ih =>
      cases bs with
      | nil => contradiction
      | cons b bs =>
          have firstPart := first a List.mem_cons_self
          have secondPart := second b List.mem_cons_self
          cases as with
          | nil =>
              cases bs with
              | nil => simpa using same
              | cons c bs =>
                  rw [List.intercalate_singleton, List.intercalate_cons_cons] at same
                  rw [same] at firstPart
                  simp at firstPart
          | cons d as =>
              cases bs with
              | nil =>
                  rw [List.intercalate_singleton, List.intercalate_cons_cons] at same
                  rw [← same] at secondPart
                  simp at secondPart
              | cons c bs =>
                  simp only [List.intercalate_cons_cons, List.append_assoc,
                    List.cons_append] at same
                  obtain ⟨rfl, rest⟩ := append_separator_inj firstPart secondPart same
                  have others := ih (fun a member => first a (List.mem_cons_of_mem _ member))
                    (fun b member => second b (List.mem_cons_of_mem _ member))
                    (List.cons_ne_nil _ _) (List.cons_ne_nil _ _)
                    (List.append_cancel_left rest)
                  rw [others]

/-! ## Operands -/

/-- A text without blanks and commas, so that one sees where it ends in a row of operands. -/
def Solid (text : String) : Prop := ' ' ∉ text.toList ∧ ',' ∉ text.toList

instance (text : String) : Decidable (Solid text) :=
  inferInstanceAs (Decidable (_ ∧ _))

theorem Solid.append {first second : String} (left : Solid first) (right : Solid second) :
    Solid (first ++ second) := by
  constructor
  · rw [String.toList_append, List.mem_append]
    exact not_or.mpr ⟨left.1, right.1⟩
  · rw [String.toList_append, List.mem_append]
    exact not_or.mpr ⟨left.2, right.2⟩

theorem solid_upper {width value : ℕ} (fits : value < 16 ^ (width + 1)) :
    Solid (Hex.upper (width + 1) value) := by
  have digits : ∀ digit < 16, Hex.upperDigit digit ≠ ' ' ∧ Hex.upperDigit digit ≠ ',' := by decide
  constructor
  all_goals
    rw [Hex.toList_upper fits]
    intro member
    obtain ⟨digit, small, spelled⟩ := Hex.mem_columns member
  · exact (digits digit small).1 spelled.symm
  · exact (digits digit small).2 spelled.symm

/-- The first characters of the operands that are shown. -/
def OperandForm.marks : OperandForm → List (Option Char)
  | nothing => []
  | address => [some '$']
  | register => [some 'V']
  | registerByte => [some 'V', some '#']
  | registers => [some 'V', some 'V']
  | sprite => [some 'V', some 'V', some '#']
  | nameRegister name => [name.toList.head?, some 'V']
  | registerName name => [some 'V', name.toList.head?]
  | nameAddress name => [name.toList.head?, some '$']

/-- The fixed name among the operands. -/
def OperandForm.name? : OperandForm → Option String
  | nameRegister name | registerName name | nameAddress name => some name
  | _ => none

/-- Kinds of one mnemonic differ in the first characters of their operands. -/
theorem Opcode.eq_of_marks :
    ∀ a ∈ all, ∀ b ∈ all, a.mnemonic = b.mnemonic → a.form.marks = b.form.marks → a = b := by
  decide

theorem Opcode.solid_mnemonic : ∀ a ∈ all, Solid a.mnemonic := by
  decide

theorem Opcode.solid_name : ∀ a ∈ all, ∀ name ∈ a.form.name?, Solid name := by
  decide

namespace Operation

theorem solid_registerName (register : Nibble) : Solid (registerName register) :=
  Solid.append (by decide) (solid_upper register.isLt)

theorem solid_addressText {address : ℕ} (fits : address < 4096) : Solid (addressText address) :=
  Solid.append (by decide) (solid_upper fits)

theorem solid_byteText (byte : UInt8) : Solid ("#$" ++ Hex.upper 2 byte.toNat) :=
  Solid.append (by decide) (solid_upper byte.toNat_lt)

theorem solid_digitText (digit : Nibble) : Solid ("#$" ++ Hex.upper 1 digit.val) :=
  Solid.append (by decide) (solid_upper digit.isLt)

theorem address_lt (op : Operation) : op.address < 4096 := by
  rw [address]
  omega

theorem solid_operands (op : Operation) : ∀ operand ∈ op.operands, Solid operand := by
  have solidName := op.opcode.solid_name op.opcode.mem_all
  have solidX := solid_registerName op.x
  have solidY := solid_registerName op.y
  have solidAddress := solid_addressText op.address_lt
  have solidByte := solid_byteText op.byte
  have solidDigit := solid_digitText op.n
  unfold operands
  cases shape : op.opcode.form <;> simp_all [OperandForm.name?]

theorem marks_operands (op : Operation) :
    op.operands.map (fun operand => operand.toList.head?) = op.opcode.form.marks := by
  unfold operands
  cases op.opcode.form <;>
    simp [OperandForm.marks, registerName, addressText, String.toList_append]

/-! ## Texts -/

/-- What follows the mnemonic. -/
def operandText : List String → List Char
  | [] => []
  | operands => ' ' :: [',', ' '].intercalate (operands.map String.toList)

theorem toList_text (op : Operation) :
    op.text.toList = op.opcode.mnemonic.toList ++ operandText op.operands := by
  unfold text
  cases op.operands with
  | nil => exact (List.append_nil _).symm
  | cons operand rest =>
      rw [String.toList_append, String.toList_append, String.toList_intercalate,
        List.append_assoc]
      rfl

theorem firstWord_text (op : Operation) : firstWord op.text = op.opcode.mnemonic.toList := by
  have solid := (op.opcode.solid_mnemonic op.opcode.mem_all).1
  unfold text
  cases op.operands with
  | nil => exact firstWord_of_solid solid
  | cons operand rest => exact firstWord_of_blank solid _

theorem operandText_inj {as bs : List String} (first : ∀ a ∈ as, Solid a)
    (second : ∀ b ∈ bs, Solid b) (same : operandText as = operandText bs) : as = bs := by
  have unseparated {texts : List String} (solid : ∀ text ∈ texts, Solid text) :
      ∀ letters ∈ texts.map String.toList, ',' ∉ letters := by
    rintro _ member
    obtain ⟨text, isText, rfl⟩ := List.mem_map.mp member
    exact (solid text isText).2
  cases as with
  | nil =>
      cases bs with
      | nil => rfl
      | cons b bs => cases same
  | cons a as =>
      cases bs with
      | nil => cases same
      | cons b bs =>
          have parts := intercalate_inj (unseparated first) (unseparated second)
            (List.cons_ne_nil _ _) (List.cons_ne_nil _ _) (List.cons.inj same).2
          exact (List.map_inj_right fun _ _ => String.toList_inj.mp).mp parts

/-- The text of an instruction shows its kind and its operands. -/
theorem opcode_operands_of_text {op other : Operation} (same : op.text = other.text) :
    op.opcode = other.opcode ∧ op.operands = other.operands := by
  have words : op.opcode.mnemonic.toList = other.opcode.mnemonic.toList := by
    rw [← firstWord_text, ← firstWord_text, same]
  have letters := congrArg String.toList same
  rw [toList_text, toList_text, words] at letters
  have operands := operandText_inj op.solid_operands other.solid_operands
    (List.append_cancel_left letters)
  have marks : op.opcode.form.marks = other.opcode.form.marks := by
    rw [← marks_operands, ← marks_operands, operands]
  exact ⟨Opcode.eq_of_marks _ op.opcode.mem_all _ other.opcode.mem_all
    (String.toList_inj.mp words) marks, operands⟩

theorem registerName_inj {a b : Nibble} (same : registerName a = registerName b) : a = b := by
  have digits := (String.append_right_inj _).mp same
  exact Fin.ext (Hex.upper_injective a.isLt b.isLt digits)

theorem addressText_inj {a b : ℕ} (first : a < 4096) (second : b < 4096)
    (same : addressText a = addressText b) : a = b :=
  Hex.upper_injective first second ((String.append_right_inj _).mp same)

theorem byteText_inj {a b : UInt8}
    (same : "#$" ++ Hex.upper 2 a.toNat = "#$" ++ Hex.upper 2 b.toNat) : a = b :=
  UInt8.toNat_inj.mp
    (Hex.upper_injective a.toNat_lt b.toNat_lt ((String.append_right_inj _).mp same))

theorem digitText_inj {a b : Nibble}
    (same : "#$" ++ Hex.upper 1 a.val = "#$" ++ Hex.upper 1 b.val) : a = b :=
  Fin.ext (Hex.upper_injective a.isLt b.isLt ((String.append_right_inj _).mp same))

/-- Operands of one form that are shown alike are taken from the same fields. -/
theorem fields_of_operands {op other : Operation} (sameForm : op.opcode.form = other.opcode.form)
    (same : op.operands = other.operands) : op.fields = other.fields := by
  unfold operands at same
  unfold fields
  rw [← sameForm] at same ⊢
  cases shape : op.opcode.form <;> simp only [shape, List.cons.injEq, and_true, true_and] at same ⊢
  case address | nameAddress => exact addressText_inj op.address_lt other.address_lt same
  case register | nameRegister | registerName => rw [registerName_inj same]
  case registerByte =>
      obtain ⟨sameX, sameByte⟩ := same
      rw [registerName_inj sameX, byteText_inj sameByte]
  case registers =>
      obtain ⟨sameX, sameY⟩ := same
      rw [registerName_inj sameX, registerName_inj sameY]
  case sprite =>
      obtain ⟨sameX, sameY, sameN⟩ := same
      rw [registerName_inj sameX, registerName_inj sameY, digitText_inj sameN]

/-- Two integers that are shown as the same instruction agree in their last sixteen bits. -/
theorem residue_of_text {raw word : ℤ} {op other : Operation} (decoded : decode? raw = some op)
    (otherDecoded : decode? word = some other) (same : op.text = other.text) :
    raw % 65536 = word % 65536 := by
  obtain ⟨sameOpcode, sameOperands⟩ := opcode_operands_of_text same
  rw [residue_of_decode? decoded, residue_of_decode? otherDecoded, sameOpcode,
    fields_of_operands (congrArg Opcode.form sameOpcode) sameOperands]

/-- An integer has the fixed bits of at most one kind, so that it does not matter in which order
the table of kinds is gone through.  Only the last sixteen bits of the integer count: they settle
whether it is an instruction, and everything that is read off it.  They are made up of the fixed
bits and of the operands, and they are told by the text of the instruction. -/
theorem decode?_determined (raw : ℤ) :
    (∀ a b : Opcode, a.pattern.Matches raw → b.pattern.Matches raw → a = b) ∧
      (∀ table : List Opcode, table.Perm Opcode.all → decodeBy? table raw = decode? raw) ∧
      (∀ word : ℤ, word % 65536 = raw % 65536 →
        (decode? word).map reading = (decode? raw).map reading) ∧
      (∀ op, decode? raw = some op →
        op.opcode.pattern.Matches raw ∧ raw % 65536 = op.opcode.pattern.value + op.fields) ∧
      ∀ (word : ℤ) (op other : Operation), decode? raw = some op → decode? word = some other →
        op.text = other.text → raw % 65536 = word % 65536 := by
  refine ⟨?_, ?_, ?_, ?_, ?_⟩
  · intro a b first second
    exact Opcode.eq_of_accepts (Pattern.accepts_iff_matches.mpr first)
      (Pattern.accepts_iff_matches.mpr second)
  · intro table listed
    exact decodeBy?_of_perm listed raw
  · intro word same
    exact decode?_congr same
  · intro op decoded
    obtain ⟨rfl, accepted⟩ := decode?_eq_some_iff.mp decoded
    exact ⟨Pattern.accepts_iff_matches.mp accepted, residue_of_decode? decoded⟩
  · intro word op other decoded otherDecoded same
    exact residue_of_text decoded otherDecoded same

end Operation

end ChipEight
