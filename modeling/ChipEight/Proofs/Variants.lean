import ChipEight.Proofs.Acceptance

/-!
# Variants of a document

Memory is spelled by its digits, and nobody looks at an entry that has no place in the format.
So there are many documents for a snapshot, and the verdict on all of them is the same
(`SaveState.ofDocument_verdict`).
-/

namespace ChipEight.SaveState

open Snapshot

/-! ## Documents that say the same -/

/-- Two documents differ at most in how the digits of memory are written and cut into lines, and
in entries that no reader of documents asks for. -/
structure Alike (d e : Value) : Prop where
  entries : ∀ key ∈ ["format", "version", "framebuffer", "rng_state", "checksum", "stack"],
    d.lookup? key = e.lookup? key
  memory : (d.lookup? "memory").bind memoryDigits? = (e.lookup? "memory").bind memoryDigits?
  registers : ∀ key ∈ ["v", "i", "pc", "sp"],
    d.lookupIn? "registers" key = e.lookupIn? "registers" key
  timers : ∀ key ∈ ["delay", "sound"], d.lookupIn? "timers" key = e.lookupIn? "timers" key
  input : ∀ key ∈ ["keys", "waiting", "wait_register", "pending_key"],
    d.lookupIn? "input" key = e.lookupIn? "input" key

namespace Alike

variable {d e : Value}

theorem symm (alike : Alike d e) : Alike e d where
  entries key member := (alike.entries key member).symm
  memory := alike.memory.symm
  registers key member := (alike.registers key member).symm
  timers key member := (alike.timers key member).symm
  input key member := (alike.input key member).symm

theorem contents (alike : Alike d e) {contents : Contents} (spelled : SpellsContents d contents) :
    SpellsContents e contents := by
  have screen := alike.entries "framebuffer" (by simp)
  have random := alike.entries "rng_state" (by simp)
  obtain ⟨lines, entered, digits, size⟩ := spelled.memory
  have found : (e.lookup? "memory").bind memoryDigits? =
      some (Hex.encode Hex.lowerDigit contents.memory) := by
    rw [← alike.memory, entered, Option.bind_some, digits]
  obtain ⟨recut, recutEntered, recutDigits⟩ := Option.bind_eq_some_iff.mp found
  exact ⟨⟨recut, recutEntered, recutDigits, size⟩, screen ▸ spelled.screen,
    random ▸ spelled.random⟩

theorem fields (alike : Alike d e) {s : Snapshot} (spelled : SpellsFields d s) :
    SpellsFields e s where
  v := alike.registers "v" (by simp) ▸ spelled.v
  i := alike.registers "i" (by simp) ▸ spelled.i
  pc := alike.registers "pc" (by simp) ▸ spelled.pc
  sp := alike.registers "sp" (by simp) ▸ spelled.sp
  stack := alike.entries "stack" (by simp) ▸ spelled.stack
  delay := alike.timers "delay" (by simp) ▸ spelled.delay
  sound := alike.timers "sound" (by simp) ▸ spelled.sound
  keys := alike.input "keys" (by simp) ▸ spelled.keys
  waiting := alike.input "waiting" (by simp) ▸ spelled.waiting
  waitRegister := alike.input "wait_register" (by simp) ▸ spelled.waitRegister
  pending := alike.input "pending_key" (by simp) ▸ spelled.pending

theorem spells (alike : Alike d e) {room : Value.Room} {s : Snapshot} (spelled : Spells room d s) :
    Spells room e s := by
  have format := alike.entries "format" (by simp)
  have version := alike.entries "version" (by simp)
  have sum := alike.entries "checksum" (by simp)
  obtain ⟨contents, memory, screen, random, held, found, checked, sealed⟩ := spelled.contents
  exact ⟨⟨format ▸ spelled.header.format, version ▸ spelled.header.version⟩,
    ⟨contents, memory, screen, random, alike.contents held, found, checked, sum ▸ sealed⟩,
    alike.fields spelled.fields⟩

end Alike

/-! ## Changing an entry -/

/-- A map with a value under a key, in place of what was there if anything was. -/
def enter (key : String) (entered value : Value) : Value :=
  match value.content with
  | .map entries => .map ((.text key, entered) :: entries.filter fun entry => !entry.1.isText key)
  | _ => value

theorem isText_unique {name key : String} {value : Value} (isName : value.isText name = true)
    (isKey : value.isText key = true) : name = key := by
  cases value with
  | text s =>
      rw [Value.isText, beq_iff_eq] at isName isKey
      exact ofString_inj.mp (isName.symm.trans isKey)
  | _ => contradiction

theorem lookup?_enter {value : Value} (isMap : value.isMap = true) (key other : String)
    (entered : Value) :
    (enter key entered value).lookup? other =
      if other = key then some entered else value.lookup? other := by
  unfold Value.isMap at isMap
  split at isMap
  · rename_i entries content
    rw [enter, Value.lookup?, Value.lookup?, content]
    change Value.find? other _ = if other = key then _ else Value.find? other entries
    rw [Value.find?, List.find?_cons, isText_ofString]
    by_cases same : other = key
    · simp [same]
    · have apart : (key == other) = false := beq_false_of_ne fun equal => same equal.symm
      rw [apart, if_neg same, Value.find?, List.find?_filter]
      dsimp only
      congr 2
      funext entry
      cases isOther : entry.1.isText other with
      | false => simp
      | true =>
          have notKey : entry.1.isText key = false :=
            eq_false_of_ne_true fun isKey => same (isText_unique isOther isKey)
          simp [notKey]
  · contradiction

theorem isMap_enter {value : Value} (isMap : value.isMap = true) (key : String) (entered : Value) :
    (enter key entered value).isMap = true :=
  isMap_of_lookup? (by rw [lookup?_enter isMap key key, if_pos rfl])

/-! ## Variants of a written document -/

/-- A snapshot that passes the checks is written as the document of a state, which is read as that
snapshot. -/
theorem exists_written_of_valid {s : Snapshot} (valid : s.validate = .ok ()) :
    ∃ t spelled sum, (∀ room, toDocument room s = .ok (written t spelled sum)) ∧
      ∀ room, ofDocument room (written t spelled sum) = .ok s.frozen := by
  obtain ⟨t, frozenEq⟩ := exists_state_of_frozen valid
  obtain ⟨spelled, spells, reads⟩ := exists_written (mayHold_of_valid valid)
  obtain ⟨sum, checked⟩ :=
    exists_checksum t.memory.image t.screen.image (mayHold_of_valid valid)
  refine ⟨t, spelled, sum, fun room => ?_, fun room => ?_⟩
  · rw [← toDocument_frozen, frozenEq, toDocument_eq spells (checked room)]
  · have read := readDocument_written reads (checked room)
    rw [← frozenEq] at read
    rw [ofDocument_eq_ok_iff, ← readDocument_eq_ok_iff, validate_frozen]
    exact ⟨read, valid⟩

theorem memoryDigits?_line (line : Text) :
    memoryDigits? (.list [.text line]) = some (Hex.normal line.chars) := by
  simp [memoryDigits?, Value.content, text?]

/-- The document of a state with memory in one line of lower-case digits behind a blank, and with
notes that no reader asks for. -/
def annotated (t : State) (random : Value) (sum : UInt32) : Value :=
  let digits := Hex.encode Hex.lowerDigit t.memory.image
  let registers := enter "note" .null (writtenRegisters t)
  enter "note" .null
    (enter "registers" registers
      (enter "memory" (.list [.text (String.ofList (' ' :: digits))]) (written t random sum)))

theorem alike_annotated (t : State) (random : Value) (sum : UInt32) :
    Alike (written t random sum) (annotated t random sum) := by
  have isMap (entries : List (String × Value)) : (record entries).isMap = true := rfl
  have start : (written t random sum).isMap = true := isMap _
  have registersEq : (written t random sum).lookup? "registers" = some (writtenRegisters t) := by
    rw [written, lookup?_record]
    rfl
  have memoryEq : (written t random sum).lookup? "memory" =
      some (.list (memoryLines t.memory.image)) := by
    rw [written, lookup?_record]
    rfl
  have found (key : String) : (annotated t random sum).lookup? key =
      if key = "note" then some .null
      else if key = "registers" then some (enter "note" .null (writtenRegisters t))
      else if key = "memory" then
        some (.list [.text (String.ofList (' ' :: Hex.encode Hex.lowerDigit t.memory.image))])
      else (written t random sum).lookup? key := by
    rw [annotated, lookup?_enter (isMap_enter (isMap_enter start _ _) _ _),
      lookup?_enter (isMap_enter start _ _), lookup?_enter start]
  have oneLine : memoryDigits?
      (.list [.text (String.ofList (' ' :: Hex.encode Hex.lowerDigit t.memory.image))]) =
        some (Hex.encode Hex.lowerDigit t.memory.image) := by
    rw [memoryDigits?_line, Text.chars_ofString_ofList, Hex.normal.eq_def]
    exact congrArg some (Hex.normal_encode (fun _ => Hex.digitValue?_lowerDigit) _)
  refine ⟨?_, ?_, ?_, ?_, ?_⟩
  · intro key known
    simp only [List.mem_cons, List.not_mem_nil, or_false] at known
    rcases known with rfl | rfl | rfl | rfl | rfl | rfl <;> rw [found] <;> rfl
  · rw [found, memoryEq]
    exact (readMemory_eq_ok_iff.mp readMemory_written).1.trans oneLine.symm
  · intro key known
    have other : key ≠ "note" := by
      rintro rfl
      simp at known
    rw [Value.lookupIn?, Value.lookupIn?, registersEq, found]
    exact (lookup?_enter (isMap _) "note" key .null).trans (if_neg other) |>.symm
  · intro key known
    rw [Value.lookupIn?, Value.lookupIn?, found]
    rfl
  · intro key known
    rw [Value.lookupIn?, Value.lookupIn?, found]
    rfl

theorem display_of_large (room : Value.Room) {n : Nat}
    (large : Nat.pow 10 Integer.maxDigits ≤ n) :
    (ofNat n).display room = .error .tooManyDigits := by
  -- For any limit: the power of the actual one is not to be evaluated.
  rw [Value.display_ofNat]
  unfold Value.displayInteger Integer.text?
  generalize Integer.maxDigits = limit at large
  rw [Int.natAbs_natCast, if_neg (Nat.not_lt.mpr large)]

/-- A document can have a version with more digits than an integer is shown with. -/
theorem unshownVersion_of_large (room : Value.Room) {n : Nat}
    (large : Nat.pow 10 Integer.maxDigits ≤ n) :
    UnshownVersion room (record [("format", .text formatTag), ("version", ofNat n)])
      .tooManyDigits := by
  refine ⟨?_, ofNat n, ?_, ?_, display_of_large room large⟩
  · rw [lookup?_record]
    exact beq_self_eq_true (Text.ofString formatTag)
  · rw [lookup?_record]
    rfl
  · have some : Integer.maxDigits ≠ 0 := by decide
    generalize Integer.maxDigits = limit at large some
    have other : n ≠ 1 := by
      rintro rfl
      exact absurd large (Nat.not_le.mpr (Nat.one_lt_pow some (by decide)))
    simp only [Value.equal, ofNat, formatVersion, Value.number?, beq_eq_false_iff_ne]
    omega

/-- What becomes of a document.

A rejection is reported under one name, unless something that would have to be shown cannot be:
a version other than the one of the format, which is then reported under a name of its own, or the
state of the generator.  A document is accepted exactly if it says of every part of a snapshot
what it is, carries the checksum of its memory, screen and generator, and the snapshot passes its
checks.  The verdict is the same for every document that differs only in the spelling of memory
and in entries that nobody asks for. -/
theorem ofDocument_verdict (room : Value.Room) (document : Value) :
    (∀ rejection, ofDocument room document = .error rejection →
      rejection.label = "RestoreError" ∨
        ∃ reason, rejection = .unshown reason ∧ Unshowable room document reason) ∧
    (∀ reason, UnshownVersion room document reason →
      ofDocument room document = .error (.unshown reason) ∧
        (Rejection.unshown reason).label ≠ "RestoreError") ∧
    (∀ s, ofDocument room document = .ok s ↔ Spells room document s ∧ s.validate = .ok ()) ∧
    ∀ variant, Alike document variant →
      ∀ s, ofDocument room document = .ok s ↔ ofDocument room variant = .ok s := by
  refine ⟨fun _ => ofDocument_eq_error, fun reason unshown => ⟨?_, ?_⟩,
    fun _ => ofDocument_eq_ok_iff, fun variant alike s => ?_⟩
  · apply ofDocument_of_readDocument
    rw [readDocument_eq, readHeader_of_unshownVersion unshown]
    rfl
  · cases reason <;> decide
  · rw [ofDocument_eq_ok_iff, ofDocument_eq_ok_iff]
    exact and_congr_left fun _ => ⟨alike.spells, alike.symm.spells⟩

/-- Three documents: one whose version has more digits than are shown, one that is no map, and
that of a machine after power-up, which is accepted with annotations as it is without. -/
theorem ofDocument_verdict_powerUp :
    (∀ room, ofDocument room (record [("format", .text formatTag),
        ("version", ofNat (Nat.pow 10 Integer.maxDigits))]) = .error (.unshown .tooManyDigits)) ∧
      (∀ room, ofDocument room .null = .error .notSaveFile ∧
        Rejection.notSaveFile.label = "RestoreError") ∧
      ∃ t spelled sum,
        (∀ room, toDocument room (Machine.new {}).capture = .ok (written t spelled sum)) ∧
          ∀ room, ofDocument room (annotated t spelled sum) =
            .ok (Machine.new {}).capture.frozen := by
  refine ⟨fun room => ?_, fun room => ⟨rfl, ?_⟩, ?_⟩
  · have unshown := unshownVersion_of_large room (Nat.le_refl _)
    exact ((ofDocument_verdict room _).2.1 _ unshown).1
  · rcases (ofDocument_verdict room .null).1 .notSaveFile rfl with label | ⟨reason, same, -⟩
    · exact label
    · contradiction
  · -- Stated for any machine, so that nothing is evaluated.
    have general : ∀ m : Machine, m.capture.validate = .ok () →
        ∃ t spelled sum, (∀ room, toDocument room m.capture = .ok (written t spelled sum)) ∧
          ∀ room, ofDocument room (annotated t spelled sum) = .ok m.capture.frozen := by
      intro m valid
      obtain ⟨t, spelled, sum, saved, read⟩ := exists_written_of_valid valid
      have alike := alike_annotated t spelled sum
      exact ⟨t, spelled, sum, saved,
        fun room => ((ofDocument_verdict room _).2.2.2 _ alike _).mp (read room)⟩
    exact general (Machine.new {}) (Machine.validate_capture_new {} _)

end ChipEight.SaveState
