import ChipEight.Proofs.Restore
import ChipEight.Proofs.Spelling

/-!
# Save documents are read as they were written

Every snapshot that passes the checks has a save document, and the document is read as that
snapshot (`SaveState.ofDocument_toDocument`).  The checksum is the same on both sides because
the state of the generator, which is shown for it, comes back as the very value it was.
-/

namespace ChipEight

/-- The numbers in the state of a generator are small. -/
theorem Snapshot.exists_ofNat_of_mem {g : Generator} {item : Value}
    (member : item ∈ ofWords g.words ++ [ofNat g.position]) :
    ∃ n, n ≤ 0xFFFFFFFF ∧ item = ofNat n := by
  rcases List.mem_append.mp member with among | position
  · obtain ⟨word, -, rfl⟩ := List.mem_map.mp among
    exact ⟨word.toNat, Nat.le_of_lt_succ word.toNat_lt, rfl⟩
  · have bound := g.position_le
    exact ⟨g.position, by omega, List.mem_singleton.mp position⟩

theorem Moment.layers_le (m : Moment) : m.layers ≤ 3 := by
  unfold layers
  split
  · decide
  · split <;> decide

/-! ## Equal values -/

namespace Value

theorem equal_null : null.equal null = true := by
  simp [equal]

@[simp]
theorem equal_ofNat (n : Nat) : (Snapshot.ofNat n).equal (Snapshot.ofNat n) = true := by
  simp [Snapshot.ofNat, equal, number?]

theorem equalItems_self {items : List Value} (same : ∀ item ∈ items, item.equal item = true) :
    equalItems items items = true := by
  induction items with
  | nil => simp [equalItems]
  | cons item items ih =>
      have first := same item List.mem_cons_self
      have others := ih fun other member => same other (List.mem_cons_of_mem item member)
      simp [equalItems, first, others]

theorem equal_tuple {items : List Value} (same : ∀ item ∈ items, item.equal item = true) :
    (tuple items).equal (tuple items) = true := by
  rw [equal, equalItems_self same]

/-! ## Showing values -/

theorem lt_pow_digits {n limit : Nat} (small : n ≤ 0xFFFFFFFF) (room : 10 ≤ limit) :
    n < Nat.pow 10 limit :=
  Nat.lt_of_lt_of_le (Nat.lt_of_le_of_lt small (by decide : 0xFFFFFFFF < 10 ^ 10))
    (Nat.pow_le_pow_right (by decide) room)

theorem displayInteger_ofNat {n : Nat} (small : n ≤ 0xFFFFFFFF) :
    displayInteger n = .ok (toString (n : Int)) := by
  have room : 10 ≤ Integer.maxDigits := by decide
  -- For any limit with room for ten digits: the power of the actual one is not to be evaluated.
  unfold displayInteger Integer.text?
  generalize Integer.maxDigits = limit at room
  have shown : (n : Int).natAbs < Nat.pow 10 limit := lt_pow_digits small room
  rw [if_pos shown]

/-- A value has one display form wherever there is room for so many values inside each other. -/
def ShownWithin (knots : List (Nat × String)) (levels : Nat) (value : Value) : Prop :=
  ∃ text, ∀ depth, levels ≤ depth → displayIn knots depth value = .ok text

section Shown

variable {knots : List (Nat × String)} {levels : Nat}

theorem ShownWithin.mono {value : Value} {more : Nat} (shown : ShownWithin knots levels value)
    (enough : levels ≤ more) : ShownWithin knots more value :=
  shown.imp fun _ same depth deep => same depth (Nat.le_trans enough deep)

theorem exists_displayItems {items : List Value}
    (shown : ∀ item ∈ items, ShownWithin knots levels item) :
    ∃ texts, ∀ depth, levels ≤ depth → displayItems knots depth items = .ok texts := by
  induction items with
  | nil => exact ⟨[], fun _ _ => rfl⟩
  | cons item items ih =>
      obtain ⟨first, firstEq⟩ := shown item List.mem_cons_self
      obtain ⟨others, othersEq⟩ := ih fun other member =>
        shown other (List.mem_cons_of_mem item member)
      refine ⟨first :: others, fun depth deep => ?_⟩
      rw [displayItems, firstEq depth deep, othersEq depth deep]
      rfl

theorem shownWithin_tuple {items : List Value}
    (shown : ∀ item ∈ items, ShownWithin knots levels item) :
    ShownWithin knots (levels + 1) (tuple items) := by
  obtain ⟨texts, textsEq⟩ := exists_displayItems shown
  refine ⟨tupleText texts, fun depth deep => ?_⟩
  cases depth with
  | zero => contradiction
  | succ depth =>
      rw [displayIn, textsEq depth (Nat.le_of_succ_le_succ deep)]
      rfl

theorem shownWithin_ofNat {n : Nat} (small : n ≤ 0xFFFFFFFF) :
    ShownWithin knots 1 (Snapshot.ofNat n) := by
  refine ⟨toString (n : Int), fun depth deep => ?_⟩
  cases depth with
  | zero => contradiction
  | succ depth => rw [Snapshot.ofNat, displayIn, displayInteger_ofNat small]

theorem shownWithin_ofSpare (spare : Option Float) :
    ShownWithin knots 1 (Snapshot.ofSpare spare) := by
  refine ⟨spare.elim "None" Decimal.text, fun depth deep => ?_⟩
  cases depth with
  | zero => contradiction
  | succ depth => cases spare <;> rw [Snapshot.ofSpare, displayIn] <;> rfl

theorem shownWithin_ofGenerator (knots : List (Nat × String)) (g : Generator) :
    ShownWithin knots 3 (Snapshot.ofGenerator g) := by
  have numbers : ∀ item ∈ Snapshot.ofWords g.words ++ [Snapshot.ofNat g.position],
      ShownWithin knots 1 item := by
    intro item member
    obtain ⟨n, small, rfl⟩ := Snapshot.exists_ofNat_of_mem member
    exact shownWithin_ofNat small
  apply shownWithin_tuple
  intro item member
  simp only [List.mem_cons, List.not_mem_nil, or_false] at member
  rcases member with rfl | rfl | rfl
  · exact (shownWithin_ofNat (by decide)).mono (by decide)
  · exact shownWithin_tuple numbers
  · exact (shownWithin_ofSpare g.spare).mono (by decide)

end Shown

/-- What is shown alike with three levels and more has that display form in every room. -/
theorem display_eq_of_displayIn {value : Value} {shown : Except Unshown String}
    (alike : ∀ depth, value.displayIn [] (depth + 3) = shown) (room : Room) :
    value.display room = shown := by
  obtain ⟨depth, levels⟩ := Nat.exists_eq_add_of_le' room.enough
  rw [display, levels]
  exact alike depth

theorem display_null (room : Room) : null.display room = .ok "None" :=
  display_eq_of_displayIn (fun _ => by rw [displayIn]) room

theorem display_ofNat (room : Room) (n : Nat) :
    (Snapshot.ofNat n).display room = displayInteger n :=
  display_eq_of_displayIn (fun _ => by rw [Snapshot.ofNat, displayIn]) room

theorem display_text (room : Room) (s : Text) : (text s).display room = .ok s.quoted :=
  display_eq_of_displayIn (fun _ => by rw [displayIn]) room

/-- There is always room for a moment with its zone. -/
theorem display_moment (room : Room) (m : Moment) : (moment m).display room = .ok m.display := by
  refine display_eq_of_displayIn (fun depth => ?_) room
  have within : m.layers ≤ depth + 3 := Nat.le_trans m.layers_le (Nat.le_add_left 3 depth)
  rw [displayIn, if_pos within]

/-- The state of a generator is shown alike wherever it is shown. -/
theorem exists_display_ofGenerator (g : Generator) :
    ∃ text, ∀ room, (Snapshot.ofGenerator g).display room = .ok text := by
  obtain ⟨text, shown⟩ := shownWithin_ofGenerator [] g
  exact ⟨text, fun room => shown room.levels room.enough⟩

end Value

namespace SaveState

open Snapshot

/-! ## The state of the generator -/

/-- What a snapshot may hold for its generator. -/
def MayHold (random : Value) : Prop :=
  random = .null ∨ ∃ g, random = ofGenerator g

theorem mayHold_of_valid {s : Snapshot} (valid : s.validate = .ok ()) : MayHold s.random := by
  have accepted : isAbsentOr isGenerator s.random = true := validate_eq_ok_iff.mp valid .random
  exact (isAbsentOr_iff.mp accepted).imp_right isGenerator_iff.mp

/-- The state of a generator is read as it was written. -/
theorem exists_written {random : Value} (held : MayHold random) :
    ∃ written, writeGenerator random = .ok written ∧ readGenerator written = .ok random := by
  rcases held with rfl | ⟨g, rfl⟩
  · exact ⟨.null, rfl, rfl⟩
  · exact ⟨_, rfl, rfl⟩

/-- What a snapshot may hold for its generator has one checksum, wherever it is shown for that. -/
theorem exists_checksum (memory pixels : List UInt8) {random : Value} (held : MayHold random) :
    ∃ sum, ∀ room, checksum room memory pixels random = .ok sum := by
  rcases held with rfl | ⟨g, rfl⟩
  · exact ⟨_, fun _ => rfl⟩
  · obtain ⟨text, shown⟩ := Value.exists_display_ofGenerator g
    have bytes (room : Value.Room) :
        randomBytes room (ofGenerator g) = .ok (Text.toUtf8 text) := by
      change ((ofGenerator g).display room).map Text.toUtf8 = _
      rw [shown room]
      rfl
    exact ⟨_, fun room => by rw [checksum, bytes room]; rfl⟩

/-! ## Records -/

theorem ofString_inj {name key : String} : Text.ofString name = Text.ofString key ↔ name = key := by
  constructor
  · intro same
    have chars := congrArg Text.chars same
    simpa [Text.ofString, String.toList_inj] using chars
  · rintro rfl
    rfl

theorem isText_ofString (name key : String) :
    (Value.text (Text.ofString name)).isText key = (name == key) := by
  rw [Value.isText, Bool.eq_iff_iff, beq_iff_eq, beq_iff_eq, ofString_inj]

theorem lookup?_record (key : String) (entries : List (String × Value)) :
    (record entries).lookup? key = (entries.find? fun known => known.1 == key).map (·.2) := by
  simp [Value.lookup?, record, Value.content, Value.find?, List.find?_map, Function.comp_def,
    isText_ofString]

/-- An entry of a record is found by its name. -/
theorem entry_record (key part : String) (entries : List (String × Value)) :
    entry key part (record entries) =
      match (entries.find? fun known => known.1 == key).map (·.2) with
      | some value => .ok value
      | none => .error (.missing key part) := by
  rw [← lookup?_record]
  rfl

/-! ## Documents -/

/-- What a document says about the registers of a state. -/
def writtenRegisters (t : State) : Value :=
  record
    [("v", .list (t.registers.v.toList.map fun value => ofNat value.toNat)),
      ("i", ofNat t.registers.i.toNat), ("pc", .int t.registers.pc),
      ("sp", ofNat t.registers.stack.depth)]

/-- What a document says about the timers of a state. -/
def writtenTimers (t : State) : Value :=
  record [("delay", ofNat t.timers.delay.toNat), ("sound", ofNat t.timers.sound.toNat)]

/-- What a document says about the keypad of a state. -/
def writtenInput (t : State) : Value :=
  record
    [("keys", .list (t.keypad.keys.toList.map .bool)), ("waiting", .bool t.keypad.waiting),
      ("wait_register", .int t.keypad.waitRegister), ("pending_key", ofPending t.keypad.pending)]

/-- The document of a state, with what it says about the generator and with a checksum. -/
def written (t : State) (random : Value) (sum : UInt32) : Value :=
  record
    [("format", .text formatTag), ("version", ofNat formatVersion),
      ("registers", writtenRegisters t),
      ("stack", .list (t.registers.stack.slots.toList.map fun slot => ofNat slot.toNat)),
      ("timers", writtenTimers t), ("input", writtenInput t), ("rng_state", random),
      ("checksum", ofNat sum.toNat), ("memory", .list (memoryLines t.memory.image)),
      ("framebuffer", .list (screenRows t.screen.image))]

section Written

variable {room : Value.Room} {t : State} {random spelled : Value} {sum : UInt32}

theorem toDocument_eq (spells : writeGenerator random = .ok spelled)
    (checked : checksum room t.memory.image t.screen.image random = .ok sum) :
    toDocument room { ofState t with random := random } = .ok (written t spelled sum) := by
  simp only [toDocument, ofState, itemsOf, bytesOf, Value.octets?, spells, bind_ok, checked]
  rfl

theorem readMemory_written :
    readMemory (.list (memoryLines t.memory.image)) = .ok t.memory.image :=
  readMemory_memoryLines Vector.length_toList

theorem readScreen_written :
    readScreen (.list (screenRows t.screen.image)) = .ok t.screen.image := by
  have size : t.screen.image.length = 2048 := by
    rw [Screen.image_eq, List.length_map, Vector.length_toList]
  exact readScreen_screenRows size t.screen.binary_image

theorem readDocument_written (reads : readGenerator spelled = .ok random)
    (checked : checksum room t.memory.image t.screen.image random = .ok sum) :
    readDocument room (written t spelled sum) = .ok { ofState t with random := random } := by
  have sumOf : checksumOf room t.memory.image t.screen.image random = .ok sum := by
    rw [checksumOf, checked]
    rfl
  have isMap (entries : List (String × Value)) : (record entries).isMap = true := rfl
  simp [readDocument, written, writtenRegisters, writtenTimers, writtenInput, isMap,
    lookup?_record, entry_record, bind_ok, readMemory_written, readScreen_written, reads, sumOf,
    isText_ofString, sequence, Value.content, ofState, pure, Except.pure]

end Written

/-! ## Snapshots -/

theorem toDocument_frozen (room : Value.Room) (s : Snapshot) :
    toDocument room s.frozen = toDocument room s := by
  simp only [toDocument, frozen, bytesOf, octets?_freeze]

end SaveState

namespace Snapshot

theorem accepts_frozen (s : Snapshot) (field : Field) :
    s.frozen.accepts field = s.accepts field := by
  cases field with
  | memory | framebuffer => simp only [accepts, frozen, isOctets, octets?_freeze]
  | _ => rfl

theorem validate_frozen (s : Snapshot) : s.frozen.validate = s.validate := by
  simp only [validate, accepts_frozen]

/-- A snapshot that passes the checks is that of a state, apart from the generator, which it may
leave out. -/
theorem exists_state_of_frozen {s : Snapshot} (valid : s.validate = .ok ()) :
    ∃ t : State, s.frozen = { ofState t with random := s.random } := by
  obtain ⟨t, snapshotEq⟩ := exists_state_of_valid valid (.ofSeed 0)
  obtain ⟨g, seededEq⟩ := exists_generator (validate_eq_ok_iff.mp valid .random) (.ofSeed 0)
  rw [seededEq] at snapshotEq
  exact ⟨t, congrArg (fun found : Snapshot => { found with random := s.random }) snapshotEq⟩

section Equal

open Value

theorem equal_of_isUpTo {bound : Nat} {value : Value} (accepted : isUpTo bound value = true) :
    value.equal value = true := by
  obtain ⟨n, -, rfl⟩ := isUpTo_iff.mp accepted
  exact equal_ofNat n

theorem equal_of_isTruth {value : Value} (accepted : isTruth value = true) :
    value.equal value = true := by
  obtain ⟨b, rfl⟩ := isTruth_iff.mp accepted
  simp [equal, number?]

theorem equal_of_isSequence {size : Nat} {check : Value → Bool} {value : Value}
    (each : ∀ item, check item = true → item.equal item = true)
    (accepted : isSequence size check value = true) : value.equal value = true := by
  cases value with
  | tuple items =>
      simp only [isSequence, Bool.and_eq_true] at accepted
      exact equal_tuple fun item member => each item (List.all_eq_true.mp accepted.2 item member)
  | _ => simp [isSequence] at accepted

theorem equal_freeze {size : Nat} {check : UInt8 → Bool} {value : Value}
    (accepted : isOctets size check value = true) : (freeze value).equal value = true := by
  cases value with
  | bytes data => simp [freeze, equal]
  | buffer data => simp [freeze, equal]
  | _ => simp [isOctets, octets?] at accepted

theorem equal_ofGenerator {g : Generator} (spare : g.spare = none) :
    (ofGenerator g).equal (ofGenerator g) = true := by
  have numbers : ∀ item ∈ ofWords g.words ++ [ofNat g.position], item.equal item = true := by
    intro item member
    obtain ⟨n, -, rfl⟩ := exists_ofNat_of_mem member
    exact equal_ofNat n
  apply equal_tuple
  intro item member
  simp only [List.mem_cons, List.not_mem_nil, or_false] at member
  rcases member with rfl | rfl | rfl
  · exact equal_ofNat 3
  · exact equal_tuple numbers
  · rw [spare]
    exact equal_null

end Equal

/-- The fields of a snapshot are equal to themselves, unless its generator keeps a deviate. -/
theorem equalItems_frozen {s : Snapshot} (valid : s.validate = .ok ())
    (spares : ∀ g, s.random = ofGenerator g → g.spare = none) :
    Value.equalItems s.frozen.fields s.fields = true := by
  have accepted := validate_eq_ok_iff.mp valid
  have pending : s.pending.equal s.pending = true := by
    rcases isAbsentOr_iff.mp (accepted .pending) with absent | present
    · rw [absent]
      exact Value.equal_null
    · exact equal_of_isUpTo present
  have random : s.random.equal s.random = true := by
    rcases isAbsentOr_iff.mp (accepted .random) with absent | present
    · rw [absent]
      exact Value.equal_null
    · obtain ⟨g, randomEq⟩ := isGenerator_iff.mp present
      rw [randomEq]
      exact equal_ofGenerator (spares g randomEq)
  simp only [fields, frozen, Value.equalItems, equal_freeze (accepted .memory),
    equal_of_isSequence (fun _ => equal_of_isUpTo) (accepted .v), equal_of_isUpTo (accepted .i),
    equal_of_isUpTo (accepted .pc), equal_of_isUpTo (accepted .sp),
    equal_of_isSequence (fun _ => equal_of_isUpTo) (accepted .stack),
    equal_of_isUpTo (accepted .delay), equal_of_isUpTo (accepted .sound),
    equal_freeze (accepted .framebuffer),
    equal_of_isSequence (fun _ => equal_of_isTruth) (accepted .keys),
    equal_of_isTruth (accepted .waiting), equal_of_isUpTo (accepted .waitRegister), pending,
    random, Bool.and_self]

end Snapshot

namespace SaveState

open Snapshot

/-- A snapshot that passes the checks has a document, and the document is read as that snapshot,
with plain byte strings where their owner could still change them.  All fields then equal what
they were, as long as the generator keeps no deviate. -/
theorem ofDocument_toDocument {s : Snapshot} (valid : s.validate = .ok ()) :
    ∃ document,
      (∀ room, toDocument room s = .ok document) ∧
        (∀ room, ofDocument room document = .ok s.frozen) ∧
        ((∀ g, s.random = ofGenerator g → g.spare = none) →
          Value.equalItems s.frozen.fields s.fields = true) := by
  obtain ⟨t, frozenEq⟩ := exists_state_of_frozen valid
  obtain ⟨spelled, spells, reads⟩ := exists_written (mayHold_of_valid valid)
  obtain ⟨sum, checked⟩ :=
    exists_checksum t.memory.image t.screen.image (mayHold_of_valid valid)
  refine ⟨written t spelled sum, fun room => ?_, fun room => ?_, equalItems_frozen valid⟩
  · rw [← toDocument_frozen, frozenEq, toDocument_eq spells (checked room)]
  · have read := readDocument_written reads (checked room)
    rw [← frozenEq] at read
    simp only [ofDocument, read, validate_frozen, valid]

/-- The snapshot of a machine after power-up is saved and read again. -/
theorem ofDocument_toDocument_powerUp :
    let s := (Machine.new {}).capture
    ∃ document,
      (∀ room, toDocument room s = .ok document) ∧
        (∀ room, ofDocument room document = .ok s.frozen) ∧
        Value.equalItems s.frozen.fields s.fields = true := by
  -- Stated for any machine, so that nothing is evaluated.
  have general : ∀ m : Machine, m.capture.validate = .ok () → m.state.random.spare = none →
      ∃ document,
        (∀ room, toDocument room m.capture = .ok document) ∧
          (∀ room, ofDocument room document = .ok m.capture.frozen) ∧
          Value.equalItems m.capture.frozen.fields m.capture.fields = true := by
    intro m valid noSpare
    obtain ⟨document, saved, read, equal⟩ := ofDocument_toDocument valid
    refine ⟨document, saved, read, equal ?_⟩
    intro g random
    have same : some m.state.random = some g := by
      rw [← generator?_ofGenerator, ← generator?_ofGenerator]
      exact congrArg generator? random
    rw [← Option.some.inj same]
    exact noSpare
  exact general (Machine.new {}) (Machine.validate_capture_new {} _) rfl

end SaveState

end ChipEight
