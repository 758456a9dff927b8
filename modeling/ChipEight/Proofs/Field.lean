import ChipEight.Snapshot

/-!
# The fields of a snapshot

A field is looked at twice: it is checked, and later a part of the state is built from it.
For each kind of field there are two facts.  The check accepts exactly the values that taking
a snapshot can put there, and reading such a value gives back what it was made from.
-/

namespace ChipEight.Snapshot

/-! ## Numbers -/

theorem isUpTo_iff {bound : Nat} {value : Value} :
    isUpTo bound value = true ↔ ∃ n, n ≤ bound ∧ value = ofNat n := by
  constructor
  · intro accepted
    cases value with
    | int n =>
        simp only [isUpTo, Bool.and_eq_true, decide_eq_true_eq] at accepted
        refine ⟨n.toNat, by omega, ?_⟩
        rw [ofNat, Int.toNat_of_nonneg accepted.1]
    | _ => simp [isUpTo] at accepted
  · rintro ⟨n, bounded, rfl⟩
    simp only [ofNat, isUpTo, Bool.and_eq_true, decide_eq_true_eq]
    omega

/-- The check of a number, where the numbers up to the bound are those of some type. -/
theorem isUpTo_iff_exists {α : Type} {bound : Nat} {toNat : α → Nat}
    (bounded : ∀ a, toNat a ≤ bound) (onto : ∀ n, n ≤ bound → ∃ a, toNat a = n) {value : Value} :
    isUpTo bound value = true ↔ ∃ a, value = ofNat (toNat a) := by
  rw [isUpTo_iff]
  constructor
  · rintro ⟨n, small, rfl⟩
    obtain ⟨a, rfl⟩ := onto n small
    exact ⟨a, rfl⟩
  · rintro ⟨a, rfl⟩
    exact ⟨toNat a, bounded a, rfl⟩

theorem isUpTo_byte_iff {value : Value} :
    isUpTo 0xFF value = true ↔ ∃ byte : UInt8, value = ofNat byte.toNat :=
  isUpTo_iff_exists (fun byte => Nat.le_of_lt_succ byte.toNat_lt) fun n small =>
    ⟨UInt8.ofNat n, UInt8.toNat_ofNat_of_lt' (Nat.lt_succ_of_le small)⟩

theorem isUpTo_word_iff {value : Value} :
    isUpTo 0xFFFF value = true ↔ ∃ word : UInt16, value = ofNat word.toNat :=
  isUpTo_iff_exists (fun word => Nat.le_of_lt_succ word.toNat_lt) fun n small =>
    ⟨UInt16.ofNat n, UInt16.toNat_ofNat_of_lt' (Nat.lt_succ_of_le small)⟩

theorem isUpTo_output_iff {value : Value} :
    isUpTo 0xFFFFFFFF value = true ↔ ∃ output : UInt32, value = ofNat output.toNat :=
  isUpTo_iff_exists (fun output => Nat.le_of_lt_succ output.toNat_lt) fun n small =>
    ⟨UInt32.ofNat n, UInt32.toNat_ofNat_of_lt' (Nat.lt_succ_of_le small)⟩

@[simp]
theorem integer?_ofNat (n : Nat) : integer? (ofNat n) = some (n : Int) :=
  rfl

theorem fin?_ofNat {bound n : Nat} (inside : n < bound) :
    fin? bound (ofNat n) = some ⟨n, inside⟩ := by
  have bounds : 0 ≤ (n : Int) ∧ (n : Int) < bound := by omega
  simp [fin?, place?, bounds]

@[simp]
theorem byte?_ofNat (byte : UInt8) : byte? (ofNat byte.toNat) = some byte := by
  simp [byte?, fin?_ofNat byte.toNat_lt]

@[simp]
theorem word?_ofNat (word : UInt16) : word? (ofNat word.toNat) = some word := by
  simp [word?, fin?_ofNat word.toNat_lt]

@[simp]
theorem output?_ofNat (output : UInt32) : output? (ofNat output.toNat) = some output := by
  simp [output?, fin?_ofNat output.toNat_lt]

/-! ## Truth values -/

theorem isTruth_iff {value : Value} : isTruth value = true ↔ ∃ b, value = .bool b := by
  cases value <;> simp [isTruth]

/-! ## Absent values -/

theorem isAbsentOr_iff {check : Value → Bool} {value : Value} :
    isAbsentOr check value = true ↔ value = .null ∨ check value = true := by
  cases value <;> simp [isAbsentOr]

/-! ## Sequences -/

section Sequences

variable {α : Type} {check : Value → Bool} {encode : α → Value} {item? : Value → Option α}

/-- If each item that passes its check is made from something, so are all of them. -/
theorem exists_items (shape : ∀ value, check value = true ↔ ∃ a, value = encode a)
    (values : List Value) :
    values.all check = true ↔ ∃ items : List α, values = items.map encode := by
  induction values with
  | nil => simp
  | cons value values ih =>
      rw [List.all_cons, Bool.and_eq_true, shape, ih]
      constructor
      · rintro ⟨⟨a, rfl⟩, items, rfl⟩
        exact ⟨a :: items, rfl⟩
      · rintro ⟨items, valuesEq⟩
        cases items with
        | nil => cases valuesEq
        | cons a items =>
            cases valuesEq
            exact ⟨⟨a, rfl⟩, items, rfl⟩

theorem isSequence_iff {size : Nat}
    (shape : ∀ value, check value = true ↔ ∃ a, value = encode a) {value : Value} :
    isSequence size check value = true ↔
      ∃ items : Vector α size, value = .tuple (items.toList.map encode) := by
  constructor
  · intro accepted
    cases value with
    | tuple values =>
        simp only [isSequence, Bool.and_eq_true, beq_iff_eq] at accepted
        obtain ⟨items, rfl⟩ := (exists_items shape values).mp accepted.2
        have sameSize : items.toArray.size = size := by
          rw [← accepted.1, List.length_map, List.size_toArray]
        exact ⟨⟨items.toArray, sameSize⟩, rfl⟩
    | _ => simp [isSequence] at accepted
  · rintro ⟨items, rfl⟩
    simp only [isSequence, Bool.and_eq_true, beq_iff_eq, List.length_map, Vector.length_toList,
      true_and]
    exact (exists_items shape _).mpr ⟨items.toList, rfl⟩

/-- Items that are each read as what they were made from are so all together. -/
theorem mapM_map_of_mem {β : Type} {spell : α → β} {read? : β → Option α} {items : List α}
    (reads : ∀ a ∈ items, read? (spell a) = some a) :
    (items.map spell).mapM read? = some items := by
  induction items with
  | nil => rfl
  | cons a items ih =>
      have first := reads a List.mem_cons_self
      have others := ih fun b member => reads b (List.mem_cons_of_mem a member)
      simp [first, others]

theorem mapM_map_encode (reads : ∀ a, item? (encode a) = some a) (items : List α) :
    (items.map encode).mapM item? = some items :=
  mapM_map_of_mem fun a _ => reads a

theorem items?_tuple (reads : ∀ a, item? (encode a) = some a) (items : List α) :
    items? item? (.tuple (items.map encode)) = some items :=
  mapM_map_encode reads items

@[simp]
theorem vector?_toList {size : Nat} (items : Vector α size) :
    vector? size items.toList = some items := by
  have same : items.toList.toArray.size = size := by
    rw [List.size_toArray, Vector.length_toList]
  have array : items.toList.toArray = items.toArray := Array.toArray_toList
  simp [vector?, array]

end Sequences

/-! ## Byte strings -/

theorem isOctets_iff {size : Nat} {check : UInt8 → Bool} {value : Value} :
    isOctets size check value = true ↔
      ∃ data, value.octets? = some data ∧ data.length = size ∧ data.all check = true := by
  unfold isOctets
  cases value.octets? with
  | none => simp
  | some data => simp

/-! ## The generator -/

theorem isSpare_iff {value : Value} : isSpare value = true ↔ ∃ spare, value = ofSpare spare := by
  constructor
  · intro accepted
    cases value with
    | null => exact ⟨none, rfl⟩
    | float x => exact ⟨some x, rfl⟩
    | _ => simp [isSpare] at accepted
  · rintro ⟨spare, rfl⟩
    cases spare <;> rfl

@[simp]
theorem spare?_ofSpare (spare : Option Float) : spare? (ofSpare spare) = some spare := by
  cases spare <;> rfl

@[simp]
theorem length_ofWords (words : Vector UInt32 624) : (ofWords words).length = 624 := by
  rw [ofWords, List.length_map, Vector.length_toList]

theorem take_ofWords (words : Vector UInt32 624) (last : Value) :
    (ofWords words ++ [last]).take 624 = ofWords words :=
  List.take_left' (length_ofWords words)

theorem last_ofWords (words : Vector UInt32 624) (last : Value) :
    (ofWords words ++ [last]).getD 624 .null = last := by
  rw [List.getD_eq_getElem?_getD, List.getElem?_append_right (Nat.le_of_eq (length_ofWords words)),
    length_ofWords]
  rfl

theorem eq_take_append_last {values : List Value} {size : Nat}
    (length : values.length = size + 1) :
    values = values.take size ++ [values.getD size .null] := by
  have inside : size < values.length := by omega
  have last : values.getD size .null = values[size] := by
    rw [List.getD_eq_getElem?_getD, List.getElem?_eq_getElem inside, Option.getD_some]
  rw [last, List.take_append_getElem inside, List.take_of_length_le (by omega)]

/-- The state of a generator is read as that generator. -/
theorem generator?_ofGenerator (g : Generator) : generator? (ofGenerator g) = some g := by
  have outputs : (ofWords g.words).mapM output? = some g.words.toList :=
    mapM_map_encode output?_ofNat g.words.toList
  have inside : g.position < 625 := Nat.lt_succ_of_le g.position_le
  have position : fin? 625 (ofNat g.position) = some ⟨g.position, inside⟩ := fin?_ofNat inside
  have version : ofNat 3 = .int 3 := rfl
  simp only [ofGenerator, version, generator?, take_ofWords, last_ofWords, outputs, position,
    spare?_ofSpare, List.length_append, length_ofWords, Option.bind_some, vector?_toList]
  rfl

/-- The check accepts exactly the states of generators. -/
theorem isGenerator_iff {value : Value} :
    isGenerator value = true ↔ ∃ g : Generator, value = ofGenerator g := by
  constructor
  · intro accepted
    unfold isGenerator at accepted
    split at accepted
    · rename_i version words spare
      simp only [Bool.and_eq_true, beq_iff_eq] at accepted
      obtain ⟨⟨⟨⟨rfl, size⟩, outputs⟩, position⟩, deviate⟩ := accepted
      obtain ⟨items, itemsEq⟩ := (exists_items (fun _ => isUpTo_output_iff) _).mp outputs
      obtain ⟨place, bounded, placeEq⟩ := isUpTo_iff.mp position
      obtain ⟨kept, rfl⟩ := isSpare_iff.mp deviate
      have itemsSize : items.toArray.size = 624 := by
        have taken := congrArg List.length itemsEq
        rw [List.length_take, List.length_map, size] at taken
        exact taken.symm
      refine ⟨⟨⟨items.toArray, itemsSize⟩, place, bounded, kept⟩, ?_⟩
      rw [ofGenerator, eq_take_append_last size, itemsEq, placeEq]
      rfl
    · contradiction
  · rintro ⟨g, rfl⟩
    have words : (ofWords g.words).all (isUpTo 0xFFFFFFFF) = true :=
      (exists_items (fun _ => isUpTo_output_iff) _).mpr ⟨g.words.toList, rfl⟩
    have position : isUpTo 624 (ofNat g.position) = true :=
      isUpTo_iff.mpr ⟨g.position, g.position_le, rfl⟩
    have spare : isSpare (ofSpare g.spare) = true := isSpare_iff.mpr ⟨g.spare, rfl⟩
    have version : ofNat 3 = .int 3 := rfl
    simp only [ofGenerator, version, isGenerator, take_ofWords, last_ofWords, words, position,
      spare, List.length_append, length_ofWords]
    rfl

end ChipEight.Snapshot
