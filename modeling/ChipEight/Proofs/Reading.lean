import ChipEight.Proofs.Spelling

/-!
# What the parts of a document spell

Memory text is read by its normal form: hexadecimal digits in lower case, without the white
space between bytes.  A text is read as the bytes whose lower-case digits are its normal form,
and every other text is refused (`Hex.decode_eq_ok_iff`), so the way in which memory is cut into
lines and its letters are written does not matter.  Screen rows are read character by
character.
-/

namespace ChipEight

/-! ## Hexadecimal text -/

namespace Hex

/-- A hexadecimal digit in lower case; any other character as it is. -/
def fold (c : Char) : Char :=
  match digitValue? c with
  | some value => lowerDigit value
  | none => c

/-- Hexadecimal text in lower case, without the white space between its pairs of characters. -/
def normal : List Char → List Char
  | [] => []
  | c :: rest =>
      if isSeparator c then normal rest
      else
        match rest with
        | [] => [fold c]
        | d :: rest => fold c :: fold d :: normal rest

theorem digitValue?_lowerDigit {n : Nat} (small : n < 16) :
    digitValue? (lowerDigit n) = some n := by
  have all : ∀ n < 16, digitValue? (lowerDigit n) = some n := by decide
  exact all n small

theorem digitValue?_bounds {c : Char} {value : Nat} (digit : digitValue? c = some value) :
    value < 16 ∧ 48 ≤ c.toNat ∧ c.toNat < 128 := by
  have zero : '0'.toNat = 48 := rfl
  have nine : '9'.toNat = 57 := rfl
  have a : 'a'.toNat = 97 := rfl
  have f : 'f'.toNat = 102 := rfl
  have A : 'A'.toNat = 65 := rfl
  have F : 'F'.toNat = 70 := rfl
  unfold digitValue? at digit
  simp only [Char.le_def, UInt32.le_iff_toNat_le, ← Char.toNat_val] at digit zero nine a f A F ⊢
  split at digit
  · cases digit
    omega
  · split at digit
    · cases digit
      omega
    · split at digit
      · cases digit
        omega
      · contradiction

theorem isSeparator_ascii {c : Char} (separator : isSeparator c = true) : c.toNat < 128 := by
  have blank : ' '.toNat = 32 := rfl
  simp only [isSeparator, Bool.or_eq_true, Bool.and_eq_true, beq_iff_eq, decide_eq_true_eq]
    at separator
  rcases separator with rfl | control <;> omega

/-- A character is a digit exactly if it becomes the digit of its value. -/
theorem fold_eq_lowerDigit_iff {c : Char} {n : Nat} (small : n < 16) :
    fold c = lowerDigit n ↔ digitValue? c = some n := by
  have back := digitValue?_lowerDigit small
  unfold fold
  cases digit : digitValue? c with
  | none =>
      refine iff_of_false (fun same => ?_) (by simp)
      rw [← same, digit] at back
      contradiction
  | some value =>
      refine ⟨fun same => ?_, by rintro ⟨⟩; rfl⟩
      rw [← same, digitValue?_lowerDigit (digitValue?_bounds digit).1] at back
      exact back

theorem ofNat_pair {high low : Nat} (smallHigh : high < 16) (smallLow : low < 16) :
    (UInt8.ofNat (16 * high + low)).toNat = 16 * high + low :=
  UInt8.toNat_ofNat_of_lt' (by omega : 16 * high + low < 256)

section Pair

variable {c d : Char} {rest : List Char}

/-- A text that begins with a pair of characters is read as bytes if both are digits, which give
the first byte, and the rest is read as the others. -/
theorem decodeFrom_pair_eq_ok_iff (start : isSeparator c = false) (position : Nat)
    {bytes : List UInt8} :
    decodeFrom position (c :: d :: rest) = .ok bytes ↔
      ∃ byte others, bytes = byte :: others ∧ digitValue? c = some (byte.toNat / 16) ∧
        digitValue? d = some (byte.toNat % 16) ∧
        decodeFrom (position + 2) rest = .ok others := by
  constructor
  · intro read
    rw [decodeFrom.eq_def] at read
    simp only [start, Bool.false_eq_true, if_false] at read
    split at read
    · contradiction
    · contradiction
    · rename_i high other others first same
      cases same
      split at read
      · contradiction
      · rename_i low second
        split at read
        · contradiction
        · rename_i others later
          cases read
          have high_lt := (digitValue?_bounds first).1
          have low_lt := (digitValue?_bounds second).1
          refine ⟨_, others, rfl, ?_, ?_, later⟩
          · rw [ofNat_pair high_lt low_lt, first]
            congr 1
            omega
          · rw [ofNat_pair high_lt low_lt, second]
            congr 1
            omega
  · rintro ⟨byte, others, rfl, first, second, later⟩
    rw [decodeFrom_pair start first second, later, ofNat_digits]
    rfl

/-- A pair of characters is in normal form the digits of a byte if both are its digits. -/
theorem normal_pair_eq_encode_iff (start : isSeparator c = false) {bytes : List UInt8} :
    normal (c :: d :: rest) = encode lowerDigit bytes ↔
      ∃ byte others, bytes = byte :: others ∧ digitValue? c = some (byte.toNat / 16) ∧
        digitValue? d = some (byte.toNat % 16) ∧ normal rest = encode lowerDigit others := by
  have pair : normal (c :: d :: rest) = fold c :: fold d :: normal rest := by
    rw [normal.eq_def]
    simp only [start, Bool.false_eq_true, if_false]
  rw [pair]
  constructor
  · intro same
    cases bytes with
    | nil => contradiction
    | cons byte others =>
        have digits : encode lowerDigit (byte :: others) =
            lowerDigit (byte.toNat / 16) :: lowerDigit (byte.toNat % 16) ::
              encode lowerDigit others := rfl
        rw [digits, List.cons_eq_cons, List.cons_eq_cons,
          fold_eq_lowerDigit_iff (highDigit_lt byte),
          fold_eq_lowerDigit_iff (lowDigit_lt byte)] at same
        exact ⟨byte, others, rfl, same⟩
  · rintro ⟨byte, others, rfl, first, second, later⟩
    rw [(fold_eq_lowerDigit_iff (highDigit_lt byte)).mpr first,
      (fold_eq_lowerDigit_iff (lowDigit_lt byte)).mpr second, later]
    rfl

end Pair

/-- Pairs of digits are read as the bytes whose lower-case digits are the normal form of the
text. -/
theorem decodeFrom_eq_ok_iff {text : List Char} (position : Nat) {bytes : List UInt8} :
    decodeFrom position text = .ok bytes ↔ normal text = encode lowerDigit bytes := by
  -- Both sides skip white space before a pair and then take the pair as a whole.
  induction text using normal.induct generalizing position bytes with
  | case1 => cases bytes <;> simp [decodeFrom, normal, encode]
  | case2 c rest separator ih =>
      rw [decodeFrom.eq_def, normal.eq_def]
      simp only [separator, if_true]
      exact ih (position + 1)
  | case3 c start =>
      -- A digit is missing, and the normal form has an odd number of characters.
      have refused : decodeFrom position [c] ≠ .ok bytes := by
        rw [decodeFrom.eq_def]
        cases digit : digitValue? c <;> simp [start, digit]
      have odd : normal [c] ≠ encode lowerDigit bytes := by
        rw [normal.eq_def]
        cases bytes <;> simp [start, encode]
      exact iff_of_false refused odd
  | case4 c start d rest ih =>
      have start : isSeparator c = false := eq_false_of_ne_true start
      simp only [decodeFrom_pair_eq_ok_iff start, normal_pair_eq_encode_iff start, ih]

theorem ascii_of_normal {text : List Char} {bytes : List UInt8}
    (spelled : normal text = encode lowerDigit bytes) : ∀ c ∈ text, c.toNat < 128 := by
  induction text using normal.induct generalizing bytes with
  | case1 => simp
  | case2 c rest separator ih =>
      rw [normal.eq_def] at spelled
      simp only [separator, if_true] at spelled
      exact List.forall_mem_cons.mpr ⟨isSeparator_ascii separator, ih spelled⟩
  | case3 c start =>
      rw [normal.eq_def] at spelled
      cases bytes <;> simp [start, encode] at spelled
  | case4 c start d rest ih =>
      obtain ⟨byte, others, rfl, first, second, later⟩ :=
        (normal_pair_eq_encode_iff (eq_false_of_ne_true start)).mp spelled
      exact List.forall_mem_cons.mpr ⟨(digitValue?_bounds first).2.2,
        List.forall_mem_cons.mpr ⟨(digitValue?_bounds second).2.2, ih later⟩⟩

/-- A text is read as the bytes whose lower-case digits are its normal form. -/
theorem decode_eq_ok_iff {text : List Char} {bytes : List UInt8} :
    decode text = .ok bytes ↔ normal text = encode lowerDigit bytes := by
  rw [decode]
  cases foreign : text.findIdx? fun c => 128 ≤ c.toNat with
  | none => exact decodeFrom_eq_ok_iff 0
  | some position =>
      refine iff_of_false (by simp) fun spelled => ?_
      have ascii := ascii_of_normal spelled
      have none : text.findIdx? (fun c => 128 ≤ c.toNat) = none := by
        rw [List.findIdx?_eq_none_iff]
        intro c member
        simpa using ascii c member
      rw [none] at foreign
      contradiction

example : normal [' ', '0', 'A', '\t', 'f', '3'] = encode lowerDigit [0x0A, 0xF3] := by decide

theorem isSeparator_of_digit {c : Char} {value : Nat} (digit : digitValue? c = some value) :
    isSeparator c = false := by
  have bounds := digitValue?_bounds digit
  have blank : ' '.toNat = 32 := rfl
  have notBlank : c ≠ ' ' := by
    rintro rfl
    omega
  simp only [isSeparator, beq_false_of_ne notBlank, Bool.false_or, Bool.and_eq_false_iff,
    decide_eq_false_iff_not]
  omega

/-- Bytes spelled with digits of any shape have their lower-case digits as normal form. -/
theorem normal_encode {digit : Nat → Char} (reads : ∀ n < 16, digitValue? (digit n) = some n)
    (bytes : List UInt8) : normal (encode digit bytes) = encode lowerDigit bytes := by
  induction bytes with
  | nil => rfl
  | cons byte bytes ih =>
      have high := reads _ (highDigit_lt byte)
      have low := reads _ (lowDigit_lt byte)
      exact (normal_pair_eq_encode_iff (isSeparator_of_digit high)).mpr
        ⟨byte, bytes, rfl, high, low, ih⟩

end Hex

namespace SaveState

/-! ## Memory -/

/-- The digits that the lines of memory make up together, in normal form. -/
def memoryDigits? (value : Value) : Option (List Char) :=
  match value.content with
  | .list lines => (lines.mapM text?).map fun texts => Hex.normal (texts.flatMap Text.chars)
  | _ => none

/-- What a value says about memory: its lines make up the digits of 4096 bytes. -/
def SpellsMemory (value : Value) (memory : List UInt8) : Prop :=
  memoryDigits? value = some (Hex.encode Hex.lowerDigit memory) ∧ memory.length = 4096

theorem readMemory_eq_ok_iff {value : Value} {memory : List UInt8} :
    readMemory value = .ok memory ↔ SpellsMemory value memory := by
  unfold readMemory SpellsMemory memoryDigits?
  cases value.content with
  | list lines =>
      dsimp only
      cases lines.mapM text? with
      | none => simp
      | some texts =>
          simp only [Option.map_some, Option.some_inj, ← Hex.decode_eq_ok_iff]
          cases Hex.decode (texts.flatMap Text.chars) with
          | error position => simp
          | ok found =>
              by_cases size : found.length = 4096
              · simp only [size, if_true, Except.ok.injEq]
                exact ⟨by rintro rfl; exact ⟨rfl, size⟩, fun spelled => spelled.1⟩
              · simp only [size, if_false, Except.ok.injEq, reduceCtorEq, false_iff, not_and]
                rintro rfl
                exact size
  | _ => simp

/-! ## The screen -/

section Lists

variable {α β : Type}

theorem mapM_eq_some_iff {read? : α → Option β} {items : List α} {results : List β} :
    items.mapM read? = some results ↔ items.map read? = results.map some := by
  induction items generalizing results with
  | nil => cases results <;> simp
  | cons item items ih =>
      cases results with
      | nil =>
          cases first : read? item <;> cases rest : items.mapM read? <;> simp [first, rest]
      | cons result results =>
          rw [List.map_cons, List.map_cons, List.cons_eq_cons, ← ih]
          cases first : read? item <;> cases rest : items.mapM read? <;> simp [first, rest]

/-- An entry of rows of one width that stand one behind the other. -/
theorem getElem?_flatten_rows {width : Nat} {rows : List (List α)}
    (wide : ∀ row ∈ rows, row.length = width) (y : Nat) {x : Nat} (inside : x < width) :
    rows.flatten[width * y + x]? = rows[y]?.bind (·[x]?) := by
  induction rows generalizing y with
  | nil => simp
  | cons row rows ih =>
      have size := wide row List.mem_cons_self
      rw [List.flatten_cons]
      cases y with
      | zero =>
          rw [Nat.mul_zero, Nat.zero_add, List.getElem?_append_left (by omega)]
          rfl
      | succ y =>
          have others := ih (fun other member => wide other (List.mem_cons_of_mem row member)) y
          rw [List.getElem?_append_right (by rw [size, Nat.mul_succ]; omega),
            List.getElem?_cons_succ, ← others]
          congr 1
          rw [size, Nat.mul_succ]
          omega

end Lists

/-- Rows of text show pixels: there are 32 rows of 64 characters, and the pixels are what the
characters stand for, character `x` of row `y` for pixel `x` of row `y`. -/
structure Depicts (rows : List Text) (pixels : List UInt8) : Prop where
  height : rows.length = 32
  width : ∀ row ∈ rows, row.chars.length = 64
  pixel : ∀ y x, x < 64 →
    pixels[64 * y + x]?.map some = (rows[y]?.bind fun row => row.chars[x]?).map pixel?

/-- What a value says about the screen: it is a list of texts that show the pixels. -/
def SpellsScreen (value : Value) (pixels : List UInt8) : Prop :=
  ∃ rows : List Text, value.content = .list (rows.map .text) ∧ Depicts rows pixels

/-- The pixels stand one behind the other as the characters do. -/
theorem depicts_iff {rows : List Text} {pixels : List UInt8} :
    Depicts rows pixels ↔
      rows.length = 32 ∧ (∀ row ∈ rows, row.chars.length = 64) ∧
        (rows.map Text.chars).flatten.map pixel? = pixels.map some := by
  have position (width : ∀ row ∈ rows, row.chars.length = 64) (y x : Nat) (inside : x < 64) :
      (rows.map Text.chars).flatten[64 * y + x]? = rows[y]?.bind fun row => row.chars[x]? := by
    rw [getElem?_flatten_rows (List.forall_mem_map.mpr width) y inside, List.getElem?_map,
      Option.bind_map]
    rfl
  constructor
  · intro depicts
    refine ⟨depicts.height, depicts.width, List.ext_getElem? fun k => ?_⟩
    have entry := depicts.pixel (k / 64) (k % 64) (Nat.mod_lt k (by decide))
    rw [← position depicts.width _ _ (Nat.mod_lt k (by decide)), Nat.div_add_mod] at entry
    rw [List.getElem?_map, List.getElem?_map, entry]
  · rintro ⟨height, width, same⟩
    refine ⟨height, width, fun y x inside => ?_⟩
    rw [← position width y x inside, ← List.getElem?_map, ← List.getElem?_map, same]

theorem row?_text_eq_some_iff {row : Text} {pixels : List UInt8} :
    row? (.text row) = some pixels ↔
      row.chars.length = 64 ∧ row.chars.map pixel? = pixels.map some := by
  have size (same : row.chars.map pixel? = pixels.map some) :
      pixels.length = row.chars.length := by
    simpa using (congrArg List.length same).symm
  rw [row?, Option.filter_eq_some_iff, text?, Option.bind_some, mapM_eq_some_iff,
    decide_eq_true_eq, and_comm]
  exact and_congr_left fun same => by rw [size same]

/-- Rows are read from texts only, each of them as its pixels. -/
theorem mapM_row?_eq_some_iff {values : List Value} {parts : List (List UInt8)} :
    values.mapM row? = some parts ↔
      ∃ rows : List Text, values = rows.map .text ∧ (∀ row ∈ rows, row.chars.length = 64) ∧
        (rows.map Text.chars).map (List.map pixel?) = parts.map (List.map some) := by
  rw [mapM_eq_some_iff]
  constructor
  · intro read
    induction values generalizing parts with
    | nil =>
        refine ⟨[], rfl, by simp, ?_⟩
        rw [List.map_nil, eq_comm, List.map_eq_nil_iff] at read
        rw [read]
        rfl
    | cons value values ih =>
        cases parts with
        | nil => contradiction
        | cons part parts =>
            rw [List.map_cons, List.map_cons, List.cons_eq_cons] at read
            obtain ⟨rows, rfl, width, pixels⟩ := ih read.2
            cases value with
            | text row =>
                obtain ⟨first, same⟩ := row?_text_eq_some_iff.mp read.1
                refine ⟨row :: rows, rfl, List.forall_mem_cons.mpr ⟨first, width⟩, ?_⟩
                rw [List.map_cons, List.map_cons, List.map_cons, same, pixels]
            | _ => simp [row?, text?] at read
  · rintro ⟨rows, rfl, width, pixels⟩
    induction rows generalizing parts with
    | nil =>
        rw [List.map_nil, List.map_nil, eq_comm, List.map_eq_nil_iff] at pixels
        rw [pixels]
        rfl
    | cons row rows ih =>
        cases parts with
        | nil => contradiction
        | cons part parts =>
            rw [List.map_cons, List.map_cons, List.map_cons, List.cons_eq_cons] at pixels
            have wide := List.forall_mem_cons.mp width
            rw [List.map_cons, List.map_cons, List.map_cons,
              row?_text_eq_some_iff.mpr ⟨wide.1, pixels.1⟩, ih wide.2 pixels.2]

theorem readScreen_eq_ok_iff {value : Value} {pixels : List UInt8} :
    readScreen value = .ok pixels ↔ SpellsScreen value pixels := by
  unfold readScreen SpellsScreen
  simp only [depicts_iff]
  cases value.content with
  | list values =>
      dsimp only
      constructor
      · intro read
        cases parts : values.mapM row? with
        | none => simp [parts] at read
        | some found =>
            obtain ⟨rows, rfl, width, same⟩ := mapM_row?_eq_some_iff.mp parts
            rw [parts] at read
            by_cases count : found.length = 32
            · simp only [count, if_true, Except.ok.injEq] at read
              have height := congrArg List.length same
              simp only [List.length_map] at height
              refine ⟨rows, rfl, height.trans count, width, ?_⟩
              rw [← read, List.map_flatten, List.map_flatten, same]
            · simp [count] at read
      · rintro ⟨rows, valuesEq, height, width, same⟩
        rw [Value.list.injEq] at valuesEq
        let parts := (rows.map Text.chars).map (List.map fun c => (pixel? c).getD 0)
        have each : ∀ c ∈ (rows.map Text.chars).flatten, pixel? c = some ((pixel? c).getD 0) := by
          intro c member
          have shown : pixel? c ∈ pixels.map some := same ▸ List.mem_map_of_mem member
          obtain ⟨pixel, -, found⟩ := List.mem_map.mp shown
          rw [← found, Option.getD_some]
        have partsEq : (rows.map Text.chars).map (List.map pixel?) = parts.map (List.map some) := by
          rw [List.map_map (g := List.map some)]
          refine List.map_congr_left fun row among => ?_
          rw [Function.comp_apply, List.map_map]
          exact List.map_congr_left fun c member =>
            each c (List.mem_flatten.mpr ⟨row, among, member⟩)
        have whole : parts.flatten = pixels := by
          apply (List.map_inj_right fun _ _ => Option.some.inj).mp
          rw [List.map_flatten, ← partsEq, ← List.map_flatten, same]
        have count : parts.length = 32 := by
          rw [List.length_map, List.length_map, height]
        rw [valuesEq, mapM_row?_eq_some_iff.mpr ⟨rows, rfl, width, partsEq⟩]
        simp only [count, whole, if_true]
  | _ => simp

/-! ## The state of the generator -/

/-- What a value says about the generator: nothing, or the three parts of its state, with the
words and the position in a list. -/
inductive SpellsGenerator (value : Value) : Value → Prop
  | absent (none : value.content = .null) : SpellsGenerator value .null
  | state {version words spare : Value} {items : List Value}
      (parts : value.content = .list [version, words, spare]) (list : words.content = .list items) :
      SpellsGenerator value (.tuple [version, .tuple items, spare])

theorem readGenerator_eq_ok_iff {value random : Value} :
    readGenerator value = .ok random ↔ SpellsGenerator value random := by
  constructor
  · intro read
    unfold readGenerator at read
    split at read
    · rename_i none
      cases read
      exact .absent none
    · rename_i version words spare parts
      split at read
      · rename_i items list
        cases read
        exact .state parts list
      · contradiction
    · contradiction
  · intro spelled
    cases spelled with
    | absent none => simp [readGenerator, none]
    | state parts list => simp [readGenerator, parts, list]

end SaveState

end ChipEight
