import ChipEight.Proofs.Field

/-!
# Snapshots and states

The snapshot of a state records all of it but the count of instructions and the record of
accesses: `Snapshot.rebuild_ofState` gets it back.  Conversely a snapshot that passes the
checks is the snapshot of some state (`Snapshot.exists_state_of_valid`), where a byte string
that its owner may still change counts as the bytes that it holds.  Together they say that
the checks see everything that could stop the building of a state.
-/

namespace ChipEight

/-! ## Parts -/

namespace Memory

theorem ofImage_image (m : Memory) : ofImage m.image = .ok { m with log := [] } := by
  have array : m.image.toArray = m.bytes.toArray := Array.toArray_toList
  simp only [ofImage, array]
  exact dif_pos m.bytes.size_toArray

end Memory

namespace Screen

/-- A pixel as it stands in an image. -/
def shade (lit : Bool) : UInt8 :=
  if lit then 1 else 0

theorem image_eq (s : Screen) : s.image = s.pixels.toList.map shade :=
  rfl

theorem binary_image (s : Screen) : s.image.all (· ≤ 1) = true := by
  rw [image_eq, List.all_map, List.all_eq_true]
  intro lit _
  cases lit <;> rfl

theorem shade_of_le_one {value : UInt8} (binary : value ≤ 1) : shade (value == 1) = value := by
  have small : value.toNat ≤ 1 := UInt8.le_iff_toNat_le.mp binary
  by_cases lit : value = 1
  · subst lit
    rfl
  · have dark : value = 0 := by
      apply UInt8.toNat_inj.mp
      have notOne : value.toNat ≠ 1 := fun same => lit (UInt8.toNat_inj.mp same)
      change value.toNat = 0
      omega
    subst dark
    rfl

theorem ofImage_image (s : Screen) : ofImage s.image = .ok s := by
  have pixels : s.image.map (· == 1) = s.pixels.toList := by
    rw [image_eq, List.map_map]
    exact List.map_id'' (fun lit => by cases lit <;> rfl) _
  have array : (s.image.map (· == 1)).toArray = s.pixels.toArray := by
    rw [pixels]
    exact Array.toArray_toList
  simp only [ofImage, s.binary_image, if_true, array]
  exact dif_pos s.pixels.size_toArray

/-- An image of zeros and ones in the right number is that of a screen. -/
theorem exists_image {image : List UInt8} (size : image.length = 2048)
    (binary : image.all (· ≤ 1) = true) : ∃ s : Screen, image = s.image := by
  have pixels : (image.map (· == 1)).toArray.size = 2048 := by
    rw [List.size_toArray, List.length_map, size]
  refine ⟨⟨⟨(image.map (· == 1)).toArray, pixels⟩⟩, ?_⟩
  rw [image_eq]
  change image = (image.map (· == 1)).map shade
  rw [List.map_map]
  have same : ∀ value ∈ image, (shade ∘ (· == 1)) value = value := by
    intro value member
    have small := List.all_eq_true.mp binary value member
    exact shade_of_le_one (of_decide_eq_true small)
  rw [List.map_congr_left same, List.map_id']

end Screen

namespace Keypad

theorem ofParts_toList (k : Keypad) :
    ofParts k.keys.toList k.waiting k.waitRegister k.pending = .ok k := by
  have array : k.keys.toList.toArray = k.keys.toArray := Array.toArray_toList
  simp only [ofParts, array]
  exact dif_pos k.keys.size_toArray

end Keypad

namespace Timers

theorem ofInt_toNat (byte : UInt8) : UInt8.ofInt byte.toNat = byte := by
  have bound := byte.toNat_lt
  apply UInt8.toNat_inj.mp
  simp [UInt8.ofInt]
  omega

theorem ofInts_toNat (t : Timers) : ofInts t.delay.toNat t.sound.toNat = t := by
  rw [ofInts, ofInt_toNat, ofInt_toNat]

end Timers

/-- The numbers that a keypad holds are those of a register and of a key. -/
structure Keypad.InRange (k : Keypad) : Prop where
  register : 0 ≤ k.waitRegister ∧ k.waitRegister ≤ 15
  pending : ∀ key ∈ k.pending, 0 ≤ key ∧ key ≤ 15

theorem Keypad.inRange_initial : Keypad.initial.InRange where
  register := by decide
  pending := nofun

/-- The state as it goes on from a snapshot: with an empty record of accesses, and with a
count of instructions that does not come from the snapshot. -/
def State.resumed (s : State) (cycles : Nat) : State :=
  { s with memory := { s.memory with log := [] }, cycles := cycles }

namespace Snapshot

/-! ## Rebuilding what was taken -/

theorem registers?_ofState (t : State) : (ofState t).registers? = some t.registers := by
  have v : items? byte? (ofState t).v = some t.registers.v.toList :=
    items?_tuple byte?_ofNat _
  have slots : items? word? (ofState t).stack = some t.registers.stack.slots.toList :=
    items?_tuple word?_ofNat _
  have i : word? (ofState t).i = some t.registers.i := word?_ofNat _
  have inside : t.registers.stack.depth < 17 := Nat.lt_succ_of_le t.registers.stack.depth_le
  have depth : fin? 17 (ofState t).sp = some ⟨t.registers.stack.depth, inside⟩ := fin?_ofNat inside
  simp only [registers?, v, slots, i, depth, Option.bind_some, vector?_toList]
  rfl

@[simp]
theorem pending?_ofPending (pending : Option Int) :
    pending? (ofPending pending) = some pending := by
  cases pending <;> rfl

theorem random?_ofGenerator (fresh g : Generator) : random? fresh (ofGenerator g) = some g :=
  generator?_ofGenerator g

theorem bind_ok {ε α β : Type} (value : α) (next : α → Except ε β) :
    (Except.ok value >>= next) = next value :=
  rfl

/-- The snapshot of a state is enough to build that state again. -/
theorem rebuild_ofState (t : State) (fresh : Generator) (cycles : Nat) :
    (ofState t).rebuild fresh cycles = .ok (t.resumed cycles) := by
  have random : random? fresh (ofState t).random = some t.random := random?_ofGenerator fresh _
  have memory : (ofState t).memory.octets? = some t.memory.image := rfl
  have screen : (ofState t).framebuffer.octets? = some t.screen.image := rfl
  have key (down : Bool) : bool? (.bool down) = some down := rfl
  have keys : items? bool? (ofState t).keys = some t.keypad.keys.toList := items?_tuple key _
  have waiting : bool? (ofState t).waiting = some t.keypad.waiting := rfl
  have waitRegister : integer? (ofState t).waitRegister = some t.keypad.waitRegister := rfl
  have pending : pending? (ofState t).pending = some t.keypad.pending := pending?_ofPending _
  have delay : integer? (ofState t).delay = some (t.timers.delay.toNat : Int) := rfl
  have sound : integer? (ofState t).sound = some (t.timers.sound.toNat : Int) := rfl
  simp only [rebuild, random, registers?_ofState, memory, screen, keys, waiting, waitRegister,
    pending, delay, sound, part, bind_ok, Memory.ofImage_image, Screen.ofImage_image,
    Keypad.ofParts_toList, Timers.ofInts_toNat]
  rfl

/-! ## Passing the checks -/

theorem validate_eq_ok_iff {s : Snapshot} :
    s.validate = .ok () ↔ ∀ field, s.accepts field = true := by
  unfold validate
  constructor
  · intro valid field
    cases first : Field.all.find? fun field => !s.accepts field with
    | some wrong => simp [first] at valid
    | none =>
        have none := List.find?_eq_none.mp first field field.mem_all
        simpa using none
  · intro accepted
    have none : (Field.all.find? fun field => !s.accepts field) = none := by
      apply List.find?_eq_none.mpr
      intro field _
      simp [accepted field]
    rw [none]

/-- A snapshot that is not valid is refused for a field that does not hold what it has to. -/
theorem exists_field_of_invalid {s : Snapshot} {complaint : Complaint}
    (invalid : s.validate = .error complaint) :
    ∃ field, complaint = .invalid field ∧ s.accepts field = false := by
  unfold validate at invalid
  cases first : Field.all.find? fun field => !s.accepts field with
  | none => simp [first] at invalid
  | some field =>
      rw [first] at invalid
      cases invalid
      have rejected := List.find?_some first
      exact ⟨field, rfl, by simpa using rejected⟩

/-- A byte string that its owner may still change, as the bytes that it holds. -/
def freeze : Value → Value
  | .buffer data => .bytes data
  | value => value

/-- The snapshot with plain byte strings. -/
def frozen (s : Snapshot) : Snapshot :=
  { s with memory := freeze s.memory, framebuffer := freeze s.framebuffer }

/-- The snapshot with a generator, where it had none. -/
def seeded (s : Snapshot) (fresh : Generator) : Snapshot :=
  match s.random with
  | .null => { s with random := ofGenerator fresh }
  | _ => s

theorem seeded_eq_self {s : Snapshot} (present : s.random ≠ .null) (fresh : Generator) :
    s.seeded fresh = s := by
  unfold seeded
  cases random : s.random with
  | null => exact absurd random present
  | _ => rfl

theorem freeze_eq_bytes {value : Value} {data : List UInt8} (octets : value.octets? = some data) :
    freeze value = .bytes data := by
  cases value with
  | bytes held =>
      cases octets
      rfl
  | buffer held =>
      cases octets
      rfl
  | _ => simp [Value.octets?] at octets

@[simp]
theorem octets?_freeze (value : Value) : (freeze value).octets? = value.octets? := by
  cases value <;> rfl

theorem rebuild_frozen (s : Snapshot) (fresh : Generator) (cycles : Nat) :
    s.frozen.rebuild fresh cycles = s.rebuild fresh cycles := by
  have registers : s.frozen.registers? = s.registers? := rfl
  simp only [rebuild, registers]
  simp only [frozen, octets?_freeze]

theorem rebuild_seeded (s : Snapshot) (fresh : Generator) (cycles : Nat) :
    (s.seeded fresh).rebuild fresh cycles = s.rebuild fresh cycles := by
  unfold seeded
  cases absent : s.random with
  | null =>
      have random : random? fresh (ofGenerator fresh) = random? fresh s.random := by
        rw [random?_ofGenerator, absent, random?]
      have registers : { s with random := ofGenerator fresh }.registers? = s.registers? := rfl
      simp only [rebuild, registers, random]
  | _ => rfl

theorem exists_pending {value : Value} (accepted : isAbsentOr (isUpTo 0xF) value = true) :
    ∃ pending, value = ofPending pending := by
  rcases isAbsentOr_iff.mp accepted with absent | present
  · exact ⟨none, absent⟩
  · obtain ⟨key, -, keyEq⟩ := isUpTo_iff.mp present
    exact ⟨some key, keyEq⟩

theorem exists_generator {s : Snapshot} (accepted : isAbsentOr isGenerator s.random = true)
    (fresh : Generator) : ∃ g, s.seeded fresh = { s with random := ofGenerator g } := by
  rcases isAbsentOr_iff.mp accepted with absent | present
  · refine ⟨fresh, ?_⟩
    simp only [seeded, absent]
  · obtain ⟨g, random⟩ := isGenerator_iff.mp present
    have notNull : s.random ≠ .null := by
      rw [random, ofGenerator]
      simp
    exact ⟨g, by rw [seeded_eq_self notNull, ← random]⟩

/-- A snapshot that passes the checks is that of a state. -/
theorem exists_state_of_valid {s : Snapshot} (valid : s.validate = .ok ()) (fresh : Generator) :
    ∃ t : State, (s.seeded fresh).frozen = ofState t := by
  have accepted := validate_eq_ok_iff.mp valid
  obtain ⟨image, memory, imageSize, -⟩ := isOctets_iff.mp (accepted .memory)
  obtain ⟨v, vEq⟩ := (isSequence_iff fun _ => isUpTo_byte_iff).mp (accepted .v)
  obtain ⟨i, iEq⟩ := isUpTo_word_iff.mp (accepted .i)
  obtain ⟨pc, -, pcEq⟩ := isUpTo_iff.mp (accepted .pc)
  obtain ⟨depth, depthLe, spEq⟩ := isUpTo_iff.mp (accepted .sp)
  obtain ⟨slots, slotsEq⟩ := (isSequence_iff fun _ => isUpTo_word_iff).mp (accepted .stack)
  obtain ⟨delay, delayEq⟩ := isUpTo_byte_iff.mp (accepted .delay)
  obtain ⟨sound, soundEq⟩ := isUpTo_byte_iff.mp (accepted .sound)
  obtain ⟨pixels, framebuffer, pixelCount, binary⟩ := isOctets_iff.mp (accepted .framebuffer)
  obtain ⟨screen, rfl⟩ := Screen.exists_image pixelCount binary
  obtain ⟨keys, keysEq⟩ := (isSequence_iff fun _ => isTruth_iff).mp (accepted .keys)
  obtain ⟨waiting, waitingEq⟩ := isTruth_iff.mp (accepted .waiting)
  obtain ⟨waitRegister, -, waitRegisterEq⟩ := isUpTo_iff.mp (accepted .waitRegister)
  obtain ⟨pending, pendingEq⟩ := exists_pending (accepted .pending)
  obtain ⟨random, randomEq⟩ := exists_generator (accepted .random) fresh
  have size : image.toArray.size = 4096 := by rw [List.size_toArray, imageSize]
  let t : State :=
    { memory := { bytes := ⟨image.toArray, size⟩, log := [] }
      registers := { v, i, pc, stack := { slots, depth, depth_le := depthLe } }
      screen
      keypad := { keys, waiting, waitRegister, pending }
      timers := { delay, sound }
      random
      cycles := 0 }
  refine ⟨t, ?_⟩
  rw [randomEq, frozen, freeze_eq_bytes memory, freeze_eq_bytes framebuffer, vEq, iEq, pcEq, spEq,
    slotsEq, delayEq, soundEq, keysEq, waitingEq, waitRegisterEq, pendingEq]
  rfl

/-- Whatever passes the checks can be built, and the state that is built has the snapshot that
it was built from.  No part refuses its field, and none alters it. -/
theorem rebuild_of_valid {s : Snapshot} (valid : s.validate = .ok ()) (fresh : Generator)
    (cycles : Nat) :
    ∃ t, s.rebuild fresh cycles = .ok t ∧ t.cycles = cycles ∧
      ofState t = (s.seeded fresh).frozen := by
  obtain ⟨t, snapshotEq⟩ := exists_state_of_valid valid fresh
  refine ⟨t.resumed cycles, ?_, rfl, ?_⟩
  · rw [← rebuild_seeded, ← rebuild_frozen, snapshotEq, rebuild_ofState]
  · rw [snapshotEq]
    rfl

/-! ## Which states have valid snapshots -/

theorem random_ofState_ne_null (t : State) : (ofState t).random ≠ .null := by
  change ofGenerator t.random ≠ .null
  simp [ofGenerator]

theorem isUpTo_int_iff {bound : Nat} {n : Int} :
    isUpTo bound (.int n) = true ↔ 0 ≤ n ∧ n ≤ bound := by
  simp [isUpTo]

theorem accepts_pending_iff {t : State} :
    (ofState t).accepts .pending = true ↔ ∀ key ∈ t.keypad.pending, 0 ≤ key ∧ key ≤ 15 := by
  change isAbsentOr (isUpTo 0xF) (ofPending t.keypad.pending) = true ↔ _
  cases t.keypad.pending with
  | none => simp [ofPending, isAbsentOr]
  | some key => simp [ofPending, isAbsentOr, isUpTo_int_iff]

theorem isOctets_bytes {size : Nat} {check : UInt8 → Bool} {data : List UInt8}
    (length : data.length = size) (passed : data.all check = true) :
    isOctets size check (.bytes data) = true :=
  isOctets_iff.mpr ⟨data, rfl, length, passed⟩

/-- Only three fields of the snapshot of a state can be wrong: the program counter, and the
two numbers that the keypad holds. -/
theorem accepts_ofState (t : State) {field : Field} (notPc : field ≠ .pc)
    (notRegister : field ≠ .waitRegister) (notPending : field ≠ .pending) :
    (ofState t).accepts field = true := by
  cases field with
  | memory => exact isOctets_bytes Vector.length_toList (by simp)
  | v => exact (isSequence_iff fun _ => isUpTo_byte_iff).mpr ⟨t.registers.v, rfl⟩
  | i => exact isUpTo_word_iff.mpr ⟨t.registers.i, rfl⟩
  | pc => exact absurd rfl notPc
  | sp => exact isUpTo_iff.mpr ⟨t.registers.stack.depth, t.registers.stack.depth_le, rfl⟩
  | stack => exact (isSequence_iff fun _ => isUpTo_word_iff).mpr ⟨t.registers.stack.slots, rfl⟩
  | delay => exact isUpTo_byte_iff.mpr ⟨t.timers.delay, rfl⟩
  | sound => exact isUpTo_byte_iff.mpr ⟨t.timers.sound, rfl⟩
  | framebuffer =>
      have size : t.screen.image.length = 2048 := by
        rw [Screen.image_eq, List.length_map, Vector.length_toList]
      exact isOctets_bytes size t.screen.binary_image
  | keys => exact (isSequence_iff fun _ => isTruth_iff).mpr ⟨t.keypad.keys, rfl⟩
  | waiting => rfl
  | waitRegister => exact absurd rfl notRegister
  | pending => exact absurd rfl notPending
  | random =>
      exact isAbsentOr_iff.mpr (.inr (isGenerator_iff.mpr ⟨t.random, rfl⟩))

theorem frozen_seeded_ofState (t : State) (fresh : Generator) :
    ((ofState t).seeded fresh).frozen = ofState t := by
  rw [seeded_eq_self (random_ofState_ne_null t)]
  rfl

/-- Where the keypad holds the numbers of a register and of a key, the checks come down to the
program counter: whether a word can be fetched from there. -/
theorem validate_ofState {t : State} (inRange : t.keypad.InRange) :
    (ofState t).validate =
      if 0 ≤ t.registers.pc ∧ t.registers.pc ≤ 0xFFE then .ok ()
      else .error (.invalid .pc) := by
  have pcAccepted : (ofState t).accepts .pc = true ↔ 0 ≤ t.registers.pc ∧ t.registers.pc ≤ 0xFFE :=
    isUpTo_int_iff
  have others : ∀ field, field ≠ .pc → (ofState t).accepts field = true := by
    intro field notPc
    by_cases register : field = .waitRegister
    · subst register
      exact isUpTo_int_iff.mpr inRange.register
    · by_cases pending : field = .pending
      · subst pending
        exact accepts_pending_iff.mpr inRange.pending
      · exact accepts_ofState t notPc register pending
  by_cases inside : 0 ≤ t.registers.pc ∧ t.registers.pc ≤ 0xFFE
  · rw [if_pos inside, validate_eq_ok_iff]
    intro field
    by_cases isPc : field = .pc
    · subst isPc
      exact pcAccepted.mpr inside
    · exact others field isPc
  · have rejected : (ofState t).accepts .pc = false := by
      rw [← Bool.not_eq_true]
      exact fun accepted => inside (pcAccepted.mp accepted)
    have first : (Field.all.find? fun field => !(ofState t).accepts field) = some .pc := by
      simp [Field.all, others, rejected]
    rw [if_neg inside, validate, first]

/-- Freezing and seeding leave the three fields alone that can be wrong in a state. -/
theorem free_fields (s : Snapshot) (fresh : Generator) :
    (s.seeded fresh).frozen.pc = s.pc ∧ (s.seeded fresh).frozen.waitRegister = s.waitRegister ∧
      (s.seeded fresh).frozen.pending = s.pending := by
  unfold seeded
  cases s.random <;> exact ⟨rfl, rfl, rfl⟩

/-- A state that was built from a valid snapshot has a valid snapshot. -/
theorem free_numbers_of_valid {s : Snapshot} {t : State} {fresh : Generator}
    (valid : s.validate = .ok ()) (captured : ofState t = (s.seeded fresh).frozen) :
    (0 ≤ t.registers.pc ∧ t.registers.pc ≤ 0xFFE) ∧ t.keypad.InRange := by
  have accepted := validate_eq_ok_iff.mp valid
  obtain ⟨pcEq, registerEq, pendingEq⟩ := s.free_fields fresh
  rw [← captured] at pcEq registerEq pendingEq
  have pc : isUpTo 0xFFE s.pc = true := accepted .pc
  have register : isUpTo 0xF s.waitRegister = true := accepted .waitRegister
  have pending : isAbsentOr (isUpTo 0xF) s.pending = true := accepted .pending
  rw [← pcEq] at pc
  rw [← registerEq] at register
  rw [← pendingEq] at pending
  exact ⟨isUpTo_int_iff.mp pc, isUpTo_int_iff.mp register, accepts_pending_iff.mp pending⟩

end Snapshot

end ChipEight
