import Mathlib.Data.List.TakeWhile
import Mathlib.Data.Nat.Digits.Defs
import ChipEight.Config.Reading
import ChipEight.Proofs.Reading

/-!
# Texts of integers

What texts a configuration takes for integers, as a grammar.  A numeral is a row of digits in which
single underscores may stand (`Integer.Numeral`).  A text is decimal, with white space, a sign and
not too many digits, or it starts with the mark of base sixteen (`Config.Spells`).  Reading digits
finds the longest numeral, which white space ends, so an integer is read exactly from the texts of
the grammar (`Config.readInteger_eq_ok_iff`).
-/

namespace ChipEight

namespace Integer

/-! ## Numerals -/

/-- A row of digits with their values.  One underscore may stand between two digits. -/
inductive Numeral (base : ℕ) : List Char → List ℕ → Prop
  | digit {c : Char} {value : ℕ} (isDigit : digitValue? base c = some value) :
      Numeral base [c] [value]
  | next {c : Char} {value : ℕ} {cs : List Char} {values : List ℕ}
      (isDigit : digitValue? base c = some value) (rest : Numeral base cs values) :
      Numeral base (c :: cs) (value :: values)
  | apart {c : Char} {value : ℕ} {cs : List Char} {values : List ℕ}
      (isDigit : digitValue? base c = some value) (rest : Numeral base cs values) :
      Numeral base (c :: '_' :: cs) (value :: values)

/-- The value of a number that goes on with further digits. -/
def extend (base start : ℕ) (values : List ℕ) : ℕ :=
  values.foldl (fun number value => number * base + value) start

theorem extend_zero (base : ℕ) (values : List ℕ) :
    extend base 0 values = Nat.ofDigits base values.reverse := by
  rw [Nat.ofDigits_eq_foldr, List.foldr_reverse, extend]
  congr 1
  funext number value
  rw [Nat.cast_id, mul_comm, add_comm]

theorem ne_underscore {base : ℕ} {c : Char} {value : ℕ}
    (isDigit : digitValue? base c = some value) : c ≠ '_' := by
  rintro rfl
  obtain ⟨digit, -⟩ := Option.filter_eq_some_iff.mp isDigit
  contradiction

theorem isSeparator_of_digitValue? {base : ℕ} {c : Char} {value : ℕ}
    (isDigit : digitValue? base c = some value) : Hex.isSeparator c = false := by
  obtain ⟨digit, -⟩ := Option.filter_eq_some_iff.mp isDigit
  exact Hex.isSeparator_of_digit digit

/-- White space neither goes on a number nor separates its digits. -/
theorem ends_of_isSeparator (base : ℕ) {c : Char} (blank : Hex.isSeparator c = true) :
    c ≠ '_' ∧ digitValue? base c = none := by
  constructor
  · rintro rfl
    contradiction
  · cases isDigit : digitValue? base c with
    | none => rfl
    | some value =>
        rw [isSeparator_of_digitValue? isDigit] at blank
        contradiction

namespace Numeral

variable {base : ℕ} {cs after : List Char} {values : List ℕ}

theorem exists_head (numeral : Numeral base cs values) :
    ∃ c rest value, cs = c :: rest ∧ digitValue? base c = some value := by
  cases numeral with
  | digit isDigit | next isDigit | apart isDigit => exact ⟨_, _, _, rfl, isDigit⟩

/-- A numeral in front of white space is read as a whole. -/
theorem readDigits (numeral : Numeral base cs values)
    (blanks : ∀ c ∈ after, Hex.isSeparator c = true) (start : ℕ) (afterDigit : Bool) :
    Integer.readDigits base start afterDigit (cs ++ after) =
      some (extend base start values, after) := by
  induction numeral generalizing start afterDigit with
  | digit isDigit =>
      rw [List.cons_append, Integer.readDigits, if_neg (ne_underscore isDigit), isDigit]
      cases after with
      | nil => rfl
      | cons c after =>
          obtain ⟨notMark, noDigit⟩ := ends_of_isSeparator base (blanks c List.mem_cons_self)
          simp only [List.nil_append, Integer.readDigits, if_neg notMark, noDigit, if_true]
          rfl
  | next isDigit rest ih =>
      rw [List.cons_append, Integer.readDigits, if_neg (ne_underscore isDigit), isDigit]
      exact ih _ true
  | apart isDigit rest ih =>
      rw [List.cons_append, Integer.readDigits, if_neg (ne_underscore isDigit), isDigit]
      exact ih _ false

theorem digitCount (numeral : Numeral base cs values)
    (blanks : ∀ c ∈ after, Hex.isSeparator c = true) :
    Integer.digitCount base (cs ++ after) = values.length := by
  have inside : ∀ c ∈ cs, (c == '_' || (digitValue? base c).isSome) = true := by
    induction numeral with
    | digit isDigit => simp [isDigit]
    | next isDigit rest ih => simpa [isDigit] using ih
    | apart isDigit rest ih => simpa [isDigit] using ih
  have outside : after.takeWhile (fun c => c == '_' || (digitValue? base c).isSome) = [] := by
    cases after with
    | nil => rfl
    | cons c after =>
        obtain ⟨notMark, noDigit⟩ := ends_of_isSeparator base (blanks c List.mem_cons_self)
        simp [notMark, noDigit]
  rw [Integer.digitCount, List.takeWhile_append_of_pos inside, outside, List.append_nil]
  clear inside
  induction numeral with
  | digit isDigit => simp [ne_underscore isDigit]
  | next isDigit rest ih => simp [ne_underscore isDigit, ih]
  | apart isDigit rest ih => simp [ne_underscore isDigit, ih]

end Numeral

/-- Reading digits finds a numeral, behind an underscore if one may follow. -/
theorem numeral_of_readDigits {base start number : ℕ} {afterDigit : Bool} {cs rest : List Char}
    (read : readDigits base start afterDigit cs = some (number, rest)) :
    (afterDigit = true ∧ cs = rest ∧ number = start) ∨
      ∃ front values, Numeral base front values ∧ number = extend base start values ∧
        (cs = front ++ rest ∨ afterDigit = true ∧ cs = '_' :: (front ++ rest)) := by
  induction cs generalizing start afterDigit with
  | nil =>
      cases afterDigit with
      | false => contradiction
      | true =>
          cases read
          exact .inl ⟨rfl, rfl, rfl⟩
  | cons c cs ih =>
      rw [readDigits] at read
      split at read
      · next isMark =>
          cases afterDigit with
          | false => contradiction
          | true =>
              subst isMark
              rcases ih read with ⟨impossible, -⟩ | ⟨front, values, numeral, value, spelled⟩
              · contradiction
              · rcases spelled with rfl | ⟨impossible, -⟩
                · exact .inr ⟨front, values, numeral, value, .inr ⟨rfl, rfl⟩⟩
                · contradiction
      · split at read
        · next digit isDigit =>
            right
            rcases ih read with ⟨-, rfl, rfl⟩ | ⟨front, values, numeral, rfl, spelled⟩
            · exact ⟨_, _, .digit isDigit, rfl, .inl rfl⟩
            · rcases spelled with rfl | ⟨-, rfl⟩
              · exact ⟨_, _, .next isDigit numeral, rfl, .inl rfl⟩
              · exact ⟨_, _, .apart isDigit numeral, rfl, .inl rfl⟩
        · cases afterDigit with
          | false => contradiction
          | true =>
              cases read
              exact .inl ⟨rfl, rfl, rfl⟩

/-- A number without a sign is a numeral behind the mark of its base, and white space. -/
theorem readUnsigned_eq_some_iff {base number : ℕ} {text : List Char} :
    readUnsigned base text = some number ↔
      ∃ digits after values, dropMark base text = digits ++ after ∧ Numeral base digits values ∧
        (∀ c ∈ after, Hex.isSeparator c = true) ∧
        ((mark? base).isNone = true → values.length ≤ maxDigits) ∧
        number = Nat.ofDigits base values.reverse := by
  rw [readUnsigned]
  generalize dropMark base text = spelled
  constructor
  · intro read
    split at read
    · contradiction
    next short =>
    split at read
    · next value after found =>
        obtain ⟨blanks, whole⟩ := Option.ite_none_right_eq_some.mp read
        cases whole
        have blanks := List.all_eq_true.mp blanks
        rcases numeral_of_readDigits found with
          ⟨impossible, -⟩ | ⟨digits, values, numeral, rfl, place⟩
        · contradiction
        rcases place with rfl | ⟨impossible, -⟩
        · refine ⟨digits, after, values, rfl, numeral, blanks, ?_, extend_zero base values⟩
          intro unmarked
          rw [tooLong, unmarked, numeral.digitCount blanks] at short
          simpa using short
        · contradiction
    · contradiction
  · rintro ⟨digits, after, values, rfl, numeral, blanks, short, rfl⟩
    have fits : tooLong base (digits ++ after) = false := by
      rw [tooLong, numeral.digitCount blanks, Bool.and_eq_false_imp, decide_eq_false_iff_not]
      exact fun unmarked => Nat.not_lt.mpr (short unmarked)
    rw [fits, numeral.readDigits blanks, extend_zero]
    exact if_pos (List.all_eq_true.mpr blanks)

/-! ## Texts -/

/-- What a sign makes of a number. -/
inductive Signed : List Char → ℕ → ℤ → Prop
  | plain (number : ℕ) : Signed [] number number
  | plus (number : ℕ) : Signed ['+'] number number
  | minus (number : ℕ) : Signed ['-'] number (-number)

/-- The integer that a text spells.  White space and digits of any script may be in it
(`Integer.toAscii`). -/
inductive Spells (text : Text) : ℤ → Prop
  | decimal {before sign digits after : List Char} {values : List ℕ} {n : ℤ}
      (spelled : text.chars.map toAscii = before ++ (sign ++ (digits ++ after)))
      (blanksBefore : ∀ c ∈ before, Hex.isSeparator c = true)
      (signed : Signed sign (Nat.ofDigits 10 values.reverse) n)
      (numeral : Numeral 10 digits values) (short : values.length ≤ maxDigits)
      (blanksAfter : ∀ c ∈ after, Hex.isSeparator c = true) : Spells text n
  | hexadecimal {letter : Char} {rest : Text} {gap digits after : List Char} {values : List ℕ}
      (marked : text.letters = .char '0' :: .char letter :: rest.letters)
      (isMark : letter = 'x' ∨ letter = 'X')
      (spelled : rest.chars.map toAscii = gap ++ (digits ++ after))
      (once : gap = [] ∨ gap = ['_']) (numeral : Numeral 16 digits values)
      (blanksAfter : ∀ c ∈ after, Hex.isSeparator c = true) :
      Spells text (Nat.ofDigits 16 values.reverse : ℕ)

theorem readUnsigned_ten_eq_some_iff {number : ℕ} {text : List Char} :
    readUnsigned 10 text = some number ↔
      ∃ digits after values, text = digits ++ after ∧ Numeral 10 digits values ∧
        (∀ c ∈ after, Hex.isSeparator c = true) ∧ values.length ≤ maxDigits ∧
        number = Nat.ofDigits 10 values.reverse := by
  have unmarked : mark? 10 = none := rfl
  have whole : dropMark 10 text = text := rfl
  rw [readUnsigned_eq_some_iff, whole, unmarked]
  simp only [Option.isNone_none, forall_const]

theorem readUnsigned_ten_of_sign {c : Char} {rest : List Char} (sign : c = '-' ∨ c = '+') :
    readUnsigned 10 (c :: rest) = none := by
  rw [Option.eq_none_iff_forall_ne_some]
  intro number read
  obtain ⟨digits, after, values, spelled, numeral, -⟩ := readUnsigned_ten_eq_some_iff.mp read
  obtain ⟨first, others, value, rfl, isDigit⟩ := numeral.exists_head
  obtain ⟨rfl, -⟩ := List.cons.inj spelled
  rcases sign with rfl | rfl <;> contradiction

theorem readSigned_ten_eq_some_iff {n : ℤ} {text : List Char} :
    readSigned 10 text = some n ↔
      ∃ sign rest number, text = sign ++ rest ∧ Signed sign number n ∧
        readUnsigned 10 rest = some number := by
  constructor
  · intro read
    unfold readSigned at read
    split at read <;> obtain ⟨number, found, rfl⟩ := Option.map_eq_some_iff.mp read
    · obtain ⟨size, sized, same⟩ := Option.bind_eq_some_iff.mp found
      cases same
      exact ⟨_, _, _, rfl, .minus size, sized⟩
    · exact ⟨_, _, _, rfl, .plus number, found⟩
    · exact ⟨_, _, _, rfl, .plain number, found⟩
  · rintro ⟨sign, rest, number, rfl, signed, found⟩
    cases signed with
    | plus | minus => simp [readSigned, found]
    | plain =>
        rw [List.nil_append]
        unfold readSigned
        split
        · rw [readUnsigned_ten_of_sign (.inl rfl)] at found
          contradiction
        · rw [readUnsigned_ten_of_sign (.inr rfl)] at found
          contradiction
        · simp [found]

theorem Signed.append_head {sign digits : List Char} {values : List ℕ} {number : ℕ} {n : ℤ}
    (signed : Signed sign number n) (numeral : Numeral 10 digits values) (after : List Char) :
    ∃ c rest, sign ++ (digits ++ after) = c :: rest ∧ Hex.isSeparator c = false := by
  cases signed with
  | plus | minus => exact ⟨_, _, rfl, by decide⟩
  | plain =>
      obtain ⟨c, rest, value, rfl, isDigit⟩ := numeral.exists_head
      exact ⟨_, _, rfl, isSeparator_of_digitValue? isDigit⟩

/-- The decimal texts of integers. -/
theorem read_ten_eq_some_iff {text : Text} {n : ℤ} :
    read 10 text = some n ↔
      ∃ before sign digits after values,
        text.chars.map toAscii = before ++ (sign ++ (digits ++ after)) ∧
          (∀ c ∈ before, Hex.isSeparator c = true) ∧
          Signed sign (Nat.ofDigits 10 values.reverse) n ∧ Numeral 10 digits values ∧
          values.length ≤ maxDigits ∧ ∀ c ∈ after, Hex.isSeparator c = true := by
  rw [read, trimmed]
  generalize text.chars.map toAscii = chars
  constructor
  · intro found
    obtain ⟨sign, rest, number, trimmed, signed, found⟩ := readSigned_ten_eq_some_iff.mp found
    obtain ⟨digits, after, values, rfl, numeral, blanks, short, rfl⟩ :=
      readUnsigned_ten_eq_some_iff.mp found
    refine ⟨chars.takeWhile Hex.isSeparator, sign, digits, after, values, ?_, ?_, signed, numeral,
      short, blanks⟩
    · rw [← trimmed, List.takeWhile_append_dropWhile]
    · intro c member
      exact List.mem_takeWhile_imp member
  · rintro ⟨before, sign, digits, after, values, rfl, blanksBefore, signed, numeral, short, blanks⟩
    obtain ⟨c, rest, head, notBlank⟩ := signed.append_head numeral after
    rw [List.dropWhile_append_of_pos blanksBefore, head, List.dropWhile_cons, notBlank,
      if_neg Bool.false_ne_true, ← head]
    exact readSigned_ten_eq_some_iff.mpr ⟨_, _, _, rfl, signed,
      readUnsigned_ten_eq_some_iff.mpr ⟨_, _, _, rfl, numeral, blanks, short, rfl⟩⟩

/-- A text behind the mark of base sixteen. -/
theorem read_marked {text rest : Text} {letter : Char} (isMark : letter = 'x' ∨ letter = 'X')
    (marked : text.letters = .char '0' :: .char letter :: rest.letters) (base : ℕ) :
    read base text =
      (readUnsigned base ('0' :: letter :: rest.chars.map toAscii)).map Int.ofNat := by
  have spelled : text.chars.map toAscii = '0' :: letter :: rest.chars.map toAscii := by
    rw [Text.chars, marked]
    rcases isMark with rfl | rfl <;> rfl
  rw [read, trimmed, spelled]
  rfl

/-- No decimal number has the mark of base sixteen. -/
theorem read_ten_of_marked {text rest : Text} {letter : Char} (isMark : letter = 'x' ∨ letter = 'X')
    (marked : text.letters = .char '0' :: .char letter :: rest.letters) :
    read 10 text = none := by
  rw [read_marked isMark marked, Option.map_eq_none_iff, Option.eq_none_iff_forall_ne_some]
  intro number read
  obtain ⟨digits, after, values, spelled, numeral, blanks, -⟩ :=
    readUnsigned_ten_eq_some_iff.mp read
  cases numeral with
  | digit isDigit =>
      obtain ⟨-, rfl⟩ := List.cons.inj spelled
      have blank := blanks letter List.mem_cons_self
      rcases isMark with rfl | rfl <;> contradiction
  | next isDigit rest =>
      obtain ⟨first, others, value, rfl, isDigit⟩ := rest.exists_head
      simp only [List.cons_append, List.cons.injEq] at spelled
      obtain ⟨-, rfl, -⟩ := spelled
      rcases isMark with rfl | rfl <;> contradiction
  | apart isDigit rest =>
      simp only [List.cons_append, List.cons.injEq] at spelled
      obtain ⟨-, rfl, -⟩ := spelled
      rcases isMark with impossible | impossible <;> contradiction

/-- One underscore may follow the mark. -/
theorem dropMark_sixteen_cons {letter : Char} (isMark : letter = 'x' ∨ letter = 'X') (c : Char)
    (rest : List Char) :
    dropMark 16 ('0' :: letter :: c :: rest) = if c = '_' then rest else c :: rest := by
  by_cases gap : c = '_'
  · subst gap
    rcases isMark with rfl | rfl <;> rfl
  · rw [if_neg gap]
    unfold dropMark mark?
    rcases isMark with rfl | rfl <;> simp [gap]

theorem dropMark_sixteen_eq_iff {letter : Char} (isMark : letter = 'x' ∨ letter = 'X')
    {text digits after : List Char} {values : List ℕ} (numeral : Numeral 16 digits values) :
    dropMark 16 ('0' :: letter :: text) = digits ++ after ↔
      ∃ gap, (gap = [] ∨ gap = ['_']) ∧ text = gap ++ (digits ++ after) := by
  obtain ⟨first, others, value, rfl, isDigit⟩ := numeral.exists_head
  have notGap := ne_underscore isDigit
  constructor
  · intro same
    cases text with
    | nil => rcases isMark with rfl | rfl <;> contradiction
    | cons c rest =>
        rw [dropMark_sixteen_cons isMark] at same
        split at same
        · next gap => exact ⟨['_'], .inr rfl, by rw [gap, same]; rfl⟩
        · exact ⟨[], .inl rfl, same⟩
  · rintro ⟨gap, rfl | rfl, rfl⟩
    · rw [List.nil_append, List.cons_append, dropMark_sixteen_cons isMark, if_neg notGap]
    · rw [List.cons_append, dropMark_sixteen_cons isMark, if_pos rfl, List.nil_append]

/-- The texts with the mark of base sixteen. -/
theorem read_sixteen_eq_some_iff {text rest : Text} {letter : Char}
    (isMark : letter = 'x' ∨ letter = 'X')
    (marked : text.letters = .char '0' :: .char letter :: rest.letters) {n : ℤ} :
    read 16 text = some n ↔
      ∃ gap digits after values, rest.chars.map toAscii = gap ++ (digits ++ after) ∧
        (gap = [] ∨ gap = ['_']) ∧ Numeral 16 digits values ∧
        (∀ c ∈ after, Hex.isSeparator c = true) ∧ n = (Nat.ofDigits 16 values.reverse : ℕ) := by
  rw [read_marked isMark marked, Option.map_eq_some_iff]
  constructor
  · rintro ⟨number, read, rfl⟩
    obtain ⟨digits, after, values, dropped, numeral, blanks, -, rfl⟩ :=
      readUnsigned_eq_some_iff.mp read
    obtain ⟨gap, once, spelled⟩ := (dropMark_sixteen_eq_iff isMark numeral).mp dropped
    exact ⟨gap, digits, after, values, spelled, once, numeral, blanks, rfl⟩
  · rintro ⟨gap, digits, after, values, spelled, once, numeral, blanks, rfl⟩
    refine ⟨_, readUnsigned_eq_some_iff.mpr ⟨digits, after, values, ?_, numeral, blanks, ?_, rfl⟩,
      rfl⟩
    · exact (dropMark_sixteen_eq_iff isMark numeral).mpr ⟨gap, once, spelled⟩
    · intro unmarked
      contradiction

end Integer

namespace Config

open Integer

theorem isMarked_iff {text : Text} :
    isMarked text = true ↔
      ∃ (letter : Char) (rest : Text), (letter = 'x' ∨ letter = 'X') ∧
        text.letters = .char '0' :: .char letter :: rest.letters := by
  rw [isMarked]
  constructor
  · intro marked
    split at marked
    · next letter rest spelled =>
        simp only [Bool.or_eq_true, beq_iff_eq] at marked
        exact ⟨letter, ⟨rest⟩, marked, spelled⟩
    · contradiction
  · rintro ⟨letter, rest, isMark, spelled⟩
    rw [spelled]
    simpa using isMark

/-- The base of a text is told by its mark, so the texts that are read are those of the grammar. -/
theorem read_eq_some_iff {text : Text} {n : ℤ} :
    Integer.read (if isMarked text then 16 else 10) text = some n ↔ Spells text n := by
  by_cases marked : isMarked text = true
  · obtain ⟨letter, rest, isMark, letters⟩ := isMarked_iff.mp marked
    rw [if_pos marked, read_sixteen_eq_some_iff isMark letters]
    constructor
    · rintro ⟨gap, digits, after, values, spelled, once, numeral, blanks, rfl⟩
      exact .hexadecimal letters isMark spelled once numeral blanks
    · rintro (⟨spelled, before, signed, numeral, short, after⟩ | ⟨others, _, spelled, once,
        numeral, blanks⟩)
      · have read := read_ten_eq_some_iff.mpr
          ⟨_, _, _, _, _, spelled, before, signed, numeral, short, after⟩
        rw [read_ten_of_marked isMark letters] at read
        contradiction
      · rw [letters] at others
        simp only [List.cons.injEq, true_and] at others
        obtain ⟨-, same⟩ := others
        rw [Text.chars, ← same] at spelled
        exact ⟨_, _, _, _, spelled, once, numeral, blanks, rfl⟩
  · rw [if_neg marked, read_ten_eq_some_iff]
    constructor
    · rintro ⟨before, sign, digits, after, values, spelled, blanks, signed, numeral, short, rest⟩
      exact .decimal spelled blanks signed numeral short rest
    · rintro (⟨spelled, before, signed, numeral, short, after⟩ | ⟨letters, isMark, -, -, -, -⟩)
      · exact ⟨_, _, _, _, _, spelled, before, signed, numeral, short, after⟩
      · exact absurd (isMarked_iff.mpr ⟨_, _, isMark, letters⟩) marked

/-- A value stands for an integer: it is one, or a text that spells one. -/
inductive Means : Value → ℤ → Prop
  | int (n : ℤ) : Means (.int n) n
  | text {s : Text} {n : ℤ} (spelled : Spells s n) : Means (.text s) n

theorem readInteger_eq_ok_iff {value : Value} {n : ℤ} :
    readInteger value = .ok n ↔ Means value n := by
  constructor
  · intro read
    unfold readInteger at read
    split at read
    · cases read
      exact .int n
    · split at read
      · next found =>
          cases read
          exact .text (read_eq_some_iff.mp found)
      · contradiction
    · contradiction
  · intro means
    cases means with
    | int => rfl
    | text spelled => rw [readInteger, read_eq_some_iff.mpr spelled]

end Config

end ChipEight
