import Mathlib.Data.List.Forall2
import Mathlib.Data.Nat.Digits.Defs
import ChipEight.Proofs.Numerals

/-!
# Integers written and read back

What a number is written with in some base is a row of digits whose values make up the number
(`Integer.exists_areDigits`).  The letter case of a digit and zeros in front make no difference to
that.  So the decimal text of an integer is read back as the integer, as long as it does not have
too many digits, and so is every hexadecimal text of a number.  The main statement is
`Config.readInteger_reads_back`.
-/

namespace ChipEight

/-- The letter case of a hexadecimal digit makes no difference to its value. -/
theorem Hex.digitValue?_toLower (c : Char) : digitValue? c.toLower = digitValue? c := by
  by_cases capital : c.val ≥ 'A'.val ∧ c.val ≤ 'Z'.val
  · have all : ∀ code < 91,
        digitValue? (Char.ofNat code).toLower = digitValue? (Char.ofNat code) := by
      decide
    have bound : c.toNat < 91 := Nat.lt_succ_of_le (UInt32.le_iff_toNat_le.mp capital.2)
    rw [← Char.ofNat_toNat c]
    exact all c.toNat bound
  · have unchanged : c.toLower = c := dif_neg capital
    rw [unchanged]

namespace Integer

/-! ## Rows of digits -/

/-- Characters are digits of the given values, one for one. -/
abbrev AreDigits (base : ℕ) : List Char → List ℕ → Prop :=
  List.Forall₂ fun c value => digitValue? base c = some value

section AreDigits

variable {base : ℕ} {cs : List Char} {values : List ℕ}

theorem AreDigits.numeral (digits : AreDigits base cs values) (nonempty : cs ≠ []) :
    Numeral base cs values := by
  induction digits with
  | nil => exact absurd rfl nonempty
  | @cons c value cs values isDigit rest ih =>
      cases rest with
      | nil => exact .digit isDigit
      | cons => exact .next isDigit (ih (List.cons_ne_nil _ _))

theorem toAscii_of_digit {c : Char} {value : ℕ} (isDigit : digitValue? base c = some value) :
    toAscii c = c := by
  obtain ⟨digit, -⟩ := Option.filter_eq_some_iff.mp isDigit
  have bound := (Hex.digitValue?_bounds digit).2.2
  have notLast : c.toNat ≠ 127 := by
    intro last
    rw [← Char.ofNat_toNat c, last] at digit
    contradiction
  rw [toAscii, if_pos (by omega)]

theorem AreDigits.map_toAscii (digits : AreDigits base cs values) : cs.map toAscii = cs := by
  induction digits with
  | nil => rfl
  | cons isDigit rest ih => rw [List.map_cons, toAscii_of_digit isDigit, ih]

/-- Zeros in front of a number do not change it. -/
theorem AreDigits.zeros (digits : AreDigits base cs values) (positive : 0 < base) (count : ℕ) :
    AreDigits base (List.replicate count '0' ++ cs) (List.replicate count 0 ++ values) := by
  have zero : digitValue? base '0' = some 0 := by
    have value : Hex.digitValue? '0' = some 0 := rfl
    rw [digitValue?, value, Option.filter_some, if_pos (decide_eq_true positive)]
  induction count with
  | zero => exact digits
  | succ count ih => exact .cons zero ih

theorem digitValue?_digitChar {value : ℕ} (small : value < base) (upTo : base ≤ 16) :
    digitValue? base value.digitChar = some value := by
  have all : ∀ value < 16, Hex.digitValue? value.digitChar = some value := by decide
  rw [digitValue?, all value (small.trans_le upTo), Option.filter_some,
    if_pos (decide_eq_true small)]

/-- What a number is written with are digits, and their values make up the number. -/
theorem exists_areDigits (lower : 1 < base) (upper : base ≤ 16) (n : ℕ) :
    ∃ values, AreDigits base (Nat.toDigits base n) values ∧
      Nat.ofDigits base values.reverse = n := by
  induction n using Nat.strong_induction_on with
  | _ n ih =>
      rw [Nat.toDigits_eq_if lower]
      by_cases small : n < base
      · rw [if_pos small]
        exact ⟨[n], .cons (digitValue?_digitChar small upper) .nil, Nat.ofDigits_singleton⟩
      · rw [if_neg small]
        have fewer : n / base < n := Nat.div_lt_self (by omega) lower
        obtain ⟨values, digits, made⟩ := ih (n / base) fewer
        have last := digitValue?_digitChar (Nat.mod_lt n (Nat.zero_lt_of_lt lower)) upper
        refine ⟨values ++ [n % base], List.rel_append digits (.cons last .nil), ?_⟩
        rw [List.reverse_concat, Nat.ofDigits_cons, made, Nat.mod_add_div]

end AreDigits

/-- A numeral with few digits makes a small number. -/
theorem Numeral.ofDigits_lt {base : ℕ} {cs : List Char} {values : List ℕ}
    (numeral : Numeral base cs values) (lower : 1 < base) :
    Nat.ofDigits base values.reverse < base ^ values.length := by
  have small : ∀ value ∈ values, value < base := by
    induction numeral with
    | digit isDigit =>
        obtain ⟨-, small⟩ := Option.filter_eq_some_iff.mp isDigit
        exact List.forall_mem_singleton.mpr (of_decide_eq_true small)
    | next isDigit rest ih | apart isDigit rest ih =>
        obtain ⟨-, small⟩ := Option.filter_eq_some_iff.mp isDigit
        exact List.forall_mem_cons.mpr ⟨of_decide_eq_true small, ih⟩
  rw [← List.length_reverse]
  exact Nat.ofDigits_lt_base_pow_length lower fun value among =>
    small value (List.mem_reverse.mp among)

/-! ## Decimal text -/

theorem toList_toString (n : ℤ) :
    ∃ sign, (toString n).toList = sign ++ Nat.toDigits 10 n.natAbs ∧ Signed sign n.natAbs n := by
  cases n with
  | ofNat number => exact ⟨[], Nat.toList_repr, .plain number⟩
  | negSucc number =>
      refine ⟨['-'], ?_, .minus (number + 1)⟩
      change ("-" ++ (number + 1).repr).toList = _
      rw [String.toList_append, Nat.toList_repr]
      rfl

theorem Signed.map_toAscii {sign : List Char} {number : ℕ} {n : ℤ} (signed : Signed sign number n) :
    sign.map toAscii = sign := by
  cases signed <;> rfl

theorem spells_toString {n : ℤ} (few : n.natAbs < 10 ^ maxDigits) :
    Spells (Text.ofString (toString n)) n := by
  obtain ⟨sign, written, signed⟩ := toList_toString n
  obtain ⟨values, digits, made⟩ := exists_areDigits (by decide : 1 < 10) (by decide) n.natAbs
  have short : values.length ≤ maxDigits := by
    rw [← digits.length_eq]
    exact (Nat.length_toDigits_le_iff (by decide) (by decide)).mpr few
  have spelled : (Text.ofString (toString n)).chars.map toAscii =
      [] ++ (sign ++ (Nat.toDigits 10 n.natAbs ++ [])) := by
    rw [Text.ofString, Text.chars_ofChars, written, List.map_append, signed.map_toAscii,
      digits.map_toAscii, List.append_nil, List.nil_append]
  rw [← made] at signed
  exact .decimal spelled (List.forall_mem_nil _) signed (digits.numeral Nat.toDigits_ne_nil) short
    (List.forall_mem_nil _)

theorem Signed.eq_of_mem {sign : List Char} {number : ℕ} {n : ℤ} (signed : Signed sign number n)
    {c : Char} (among : c ∈ sign) : c = '-' ∨ c = '+' := by
  cases signed with
  | plain => cases among
  | plus => exact .inr (List.mem_singleton.mp among)
  | minus => exact .inl (List.mem_singleton.mp among)

theorem Signed.natAbs_eq {sign : List Char} {number : ℕ} {n : ℤ} (signed : Signed sign number n) :
    n.natAbs = number := by
  cases signed with
  | plain | plus => rfl
  | minus => exact Int.natAbs_neg number

/-- An integer with too many digits is spelled by no decimal text. -/
theorem natAbs_lt_of_read {text : Text} {n : ℤ} (found : read 10 text = some n) :
    n.natAbs < 10 ^ maxDigits := by
  obtain ⟨-, sign, digits, -, values, -, -, signed, numeral, short, -⟩ :=
    read_ten_eq_some_iff.mp found
  calc
    n.natAbs = Nat.ofDigits 10 values.reverse := signed.natAbs_eq
    _ < 10 ^ values.length := numeral.ofDigits_lt (by decide)
    _ ≤ 10 ^ maxDigits := Nat.pow_le_pow_right (by decide) short

/-! ## Hexadecimal text -/

theorem spells_hexadecimal {n : ℕ} {letter : Char} {digits : List Char}
    (isMark : letter = 'x' ∨ letter = 'X') (written : digits.map Char.toLower = Nat.toDigits 16 n)
    (zeros : ℕ) :
    Spells (Text.ofChars ('0' :: letter :: (List.replicate zeros '0' ++ digits))) n := by
  obtain ⟨values, lower, made⟩ := exists_areDigits (by decide : 1 < 16) (Nat.le_refl 16) n
  have row : AreDigits 16 digits values := by
    have same (c : Char) : digitValue? 16 c.toLower = digitValue? 16 c := by
      rw [digitValue?, digitValue?, Hex.digitValue?_toLower]
    rw [← written, AreDigits, List.forall₂_map_left_iff] at lower
    simpa only [same] using lower
  have filled := row.zeros (by decide) zeros
  have nonempty : List.replicate zeros '0' ++ digits ≠ [] := by
    intro empty
    obtain ⟨-, rfl⟩ := List.append_eq_nil_iff.mp empty
    exact Nat.toDigits_ne_nil written.symm
  have spelled : (Text.ofChars (List.replicate zeros '0' ++ digits)).chars.map toAscii =
      [] ++ (List.replicate zeros '0' ++ digits ++ []) := by
    rw [Text.chars_ofChars, filled.map_toAscii, List.append_nil, List.nil_append]
  have value : Nat.ofDigits 16 (List.replicate zeros 0 ++ values).reverse = n := by
    rw [List.reverse_append, List.reverse_replicate, Nat.ofDigits_append_replicate_zero, made]
  rw [← value]
  exact .hexadecimal rfl isMark spelled (.inl rfl) (filled.numeral nonempty) (List.forall_mem_nil _)

end Integer

namespace Config

open Integer

/-- A decimal text does not have the mark of base sixteen. -/
theorem isMarked_toString (n : ℤ) : isMarked (Text.ofString (toString n)) = false := by
  rw [Bool.eq_false_iff]
  intro marked
  obtain ⟨letter, rest, isMark, letters⟩ := isMarked_iff.mp marked
  obtain ⟨sign, written, signed⟩ := toList_toString n
  have among : letter ∈ sign ++ Nat.toDigits 10 n.natAbs := by
    have marking : Letter.char letter ∈ (Text.ofString (toString n)).letters := by
      rw [letters]
      exact List.mem_cons_of_mem _ List.mem_cons_self
    obtain ⟨c, member, same⟩ := List.mem_map.mp marking
    cases same
    rwa [written] at member
  rcases List.mem_append.mp among with inSign | inDigits
  · rcases signed.eq_of_mem inSign with rfl | rfl <;> simp at isMark
  · have isDigit := Nat.isDigit_of_mem_toDigits (by decide) (by decide) inDigits
    rcases isMark with rfl | rfl <;> contradiction

theorem readInteger_toString_iff (n : ℤ) :
    readInteger (.text (toString n)) = .ok n ↔ n.natAbs < 10 ^ maxDigits := by
  constructor
  · intro read
    rw [readInteger, isMarked_toString, if_neg Bool.false_ne_true] at read
    cases found : Integer.read 10 (toString n) with
    | none =>
        rw [found] at read
        contradiction
    | some number =>
        rw [found] at read
        cases read
        exact natAbs_lt_of_read found
  · intro few
    exact readInteger_eq_ok_iff.mpr (.text (spells_toString few))

theorem readInteger_text_cases (s : Text) :
    (∃ n, Spells s n ∧ readInteger (.text s) = .ok n) ∨
      (¬∃ n, Spells s n) ∧ ∃ complaint, readInteger (.text s) = .error complaint ∧
        complaint = .notInteger (.text s) ∧ ∀ room, complaint.label room = "ValueError" := by
  simp only [readInteger, ← read_eq_some_iff]
  cases Integer.read (if isMarked s then 16 else 10) s with
  | some n => exact .inl ⟨n, rfl, rfl⟩
  | none => exact .inr ⟨by rintro ⟨_, ⟨⟩⟩, _, rfl, rfl, fun _ => rfl⟩

/-- What becomes of integers and of texts that are read as integers.

An integer is what it is, and its decimal text is read back as the integer, unless it has too many
digits.  The hexadecimal text of a number is read back as the number, in any letter case and with
any zeros behind its mark.  A text is read as the integer that it spells, and one that spells none
is refused under one name. -/
theorem readInteger_reads_back :
    (∀ n : ℤ, readInteger (.int n) = .ok n) ∧
    (∀ n : ℤ, readInteger (.text (toString n)) = .ok n ↔ n.natAbs < 10 ^ maxDigits) ∧
    (∀ (n zeros : ℕ) (letter : Char) (digits : List Char), letter = 'x' ∨ letter = 'X' →
      digits.map Char.toLower = Nat.toDigits 16 n →
        readInteger (.text (.ofChars ('0' :: letter :: (List.replicate zeros '0' ++ digits)))) =
          .ok n) ∧
    ∀ s : Text, (∃ n, Spells s n ∧ readInteger (.text s) = .ok n) ∨
      (¬∃ n, Spells s n) ∧ ∃ complaint, readInteger (.text s) = .error complaint ∧
        complaint = .notInteger (.text s) ∧ ∀ room, complaint.label room = "ValueError" := by
  refine ⟨fun n => rfl, readInteger_toString_iff, ?_, readInteger_text_cases⟩
  intro n zeros letter digits isMark written
  exact readInteger_eq_ok_iff.mpr (.text (spells_hexadecimal isMark written zeros))

/-- A negative number in decimal digits, and a number in hexadecimal digits of either letter case
with zeros in front. -/
theorem readInteger_reads_back_padded :
    readInteger (.text "-1000") = .ok (-1000) ∧ readInteger (.text "0X00dEaD") = .ok 0xDEAD := by
  obtain ⟨-, decimal, hexadecimal, -⟩ := readInteger_reads_back
  have few : (-1000 : ℤ).natAbs < 10 ^ maxDigits :=
    calc
      (-1000 : ℤ).natAbs < 10 ^ 4 := by decide
      _ ≤ 10 ^ maxDigits := Nat.pow_le_pow_right (by decide) (by decide)
  refine ⟨(decimal (-1000)).mpr few, ?_⟩
  exact hexadecimal 0xDEAD 2 'X' ['d', 'E', 'a', 'D'] (.inr rfl) (by decide)

end Config

end ChipEight
