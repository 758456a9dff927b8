import ChipEight.Proofs.Document
import ChipEight.Proofs.Reading

/-!
# Which documents are accepted

A document is read in four stages: its header, its contents, the checksum of the contents, and
the fields that are taken as they are.  For each stage there are two facts.  It succeeds exactly
on the documents that say what it is to find (`readDocument_eq_ok_iff` puts these together), and
whatever stops it is reported as a document that is not restored.  The second has exceptions:
a version other than the one of the format is shown in the message about it, and the state of the
generator is shown for the checksum, so either can stop the reading by not being showable
(`ofDocument_eq_error`).
-/

namespace ChipEight

/-- The value under a key of a part of a map. -/
def Value.lookupIn? (part key : String) (value : Value) : Option Value :=
  (value.lookup? part).bind (·.lookup? key)

namespace SaveState

open Snapshot

/-! ## Steps of a reading -/

theorem bind_eq_ok_iff {ε α β : Type} {step : Except ε α} {next : α → Except ε β} {result : β} :
    (step >>= next) = .ok result ↔ ∃ value, step = .ok value ∧ next value = .ok result := by
  cases step <;> simp [bind, Except.bind]

theorem bind_eq_error_iff {ε α β : Type} {step : Except ε α} {next : α → Except ε β} {cause : ε} :
    (step >>= next) = .error cause ↔
      step = .error cause ∨ ∃ value, step = .ok value ∧ next value = .error cause := by
  cases step <;> simp [bind, Except.bind]

/-- Whatever stops a reading is reported under the name of a document that is not restored. -/
def Reported {α : Type} (step : Except Rejection α) : Prop :=
  ∀ rejection, step = .error rejection → rejection.label = "RestoreError"

section Reported

variable {α β : Type}

theorem reported_ok (value : α) : Reported (.ok value) :=
  nofun

theorem reported_error {rejection : Rejection} (label : rejection.label = "RestoreError") :
    Reported (.error rejection : Except Rejection α) := by
  rintro _ ⟨⟩
  exact label

theorem reported_bind {step : Except Rejection α} {next : α → Except Rejection β}
    (first : Reported step) (rest : ∀ value, Reported (next value)) :
    Reported (step >>= next) := by
  intro rejection failed
  cases step with
  | error known => exact first rejection (by cases failed; rfl)
  | ok value => exact rest value rejection failed

end Reported

theorem entry_eq_ok_iff {key part : String} {value found : Value} :
    entry key part value = .ok found ↔ value.lookup? key = some found := by
  unfold entry Value.lookup?
  cases value.content with
  | map entries => cases h : Value.find? key entries <;> simp [h]
  | _ => simp

theorem reported_entry (key part : String) (value : Value) : Reported (entry key part value) := by
  unfold entry
  split
  · split
    · exact reported_ok _
    · exact reported_error rfl
  · exact reported_error rfl

theorem sequence_eq_ok_iff {name : String} {value found : Value} :
    sequence name value = .ok found ↔
      ∃ items, value.content = .list items ∧ found = .tuple items := by
  unfold sequence
  cases value.content <;> simp [eq_comm]

theorem reported_sequence (name : String) (value : Value) : Reported (sequence name value) := by
  unfold sequence
  split
  · exact reported_ok _
  · exact reported_error rfl

/-- Takes an entry as a fixed sequence. -/
def readList (key part name : String) (value : Value) : Except Rejection Value := do
  sequence name (← entry key part value)

/-- An entry is a list, and a field has its items. -/
def SpellsList (found : Option Value) (field : Value) : Prop :=
  ∃ items, found.map Value.content = some (.list items) ∧ field = .tuple items

theorem readList_eq_ok_iff {key part name : String} {value field : Value} :
    readList key part name value = .ok field ↔ SpellsList (value.lookup? key) field := by
  simp only [readList, bind_eq_ok_iff, entry_eq_ok_iff, sequence_eq_ok_iff, SpellsList,
    Option.map_eq_some_iff]
  constructor
  · rintro ⟨found, entered, items, content, same⟩
    exact ⟨items, ⟨found, entered, content⟩, same⟩
  · rintro ⟨items, ⟨found, entered, content⟩, same⟩
    exact ⟨found, entered, items, content, same⟩

theorem reported_readList (key part name : String) (value : Value) :
    Reported (readList key part name value) :=
  reported_bind (reported_entry key part value) fun found => reported_sequence name found

theorem reported_readMemory (value : Value) : Reported (readMemory value) := by
  unfold readMemory
  split
  · split
    · exact reported_error rfl
    · split
      · exact reported_error rfl
      · split
        · exact reported_ok _
        · exact reported_error rfl
  · exact reported_error rfl

theorem reported_readScreen (value : Value) : Reported (readScreen value) := by
  unfold readScreen
  split
  · split
    · split
      · exact reported_ok _
      · exact reported_error rfl
    · exact reported_error rfl
  · exact reported_error rfl

theorem reported_readGenerator (value : Value) : Reported (readGenerator value) := by
  unfold readGenerator
  split
  · exact reported_ok _
  · split
    · exact reported_ok _
    · exact reported_error rfl
  · exact reported_error rfl

/-! ## Reading in stages -/

section Stages

variable (room : Value.Room)

/-- Checks the entries by which a document is known. -/
def readHeader (document : Value) : Except Rejection Unit := do
  let formatEntry := (document.lookup? "format").getD .null
  unless document.isMap && formatEntry.isText formatTag do
    throw .notSaveFile
  let version := (document.lookup? "version").getD .null
  unless version.equal (ofNat formatVersion) do
    throw (match version.display room with
      | .ok shown => .version shown
      | .error reason => .unshown reason)

/-- What the checksum runs over. -/
structure Contents where
  memory : List UInt8
  pixels : List UInt8
  random : Value

/-- Reads memory, screen and generator. -/
def readContents (document : Value) : Except Rejection Contents := do
  let memory ← readMemory (← entry "memory" "document" document)
  let pixels ← readScreen (← entry "framebuffer" "document" document)
  let random ← readGenerator ((document.lookup? "rng_state").getD .null)
  return { memory, pixels, random }

/-- Compares the checksum of a document with that of its contents. -/
def readChecksum (document : Value) (contents : Contents) : Except Rejection Unit := do
  let sum ← entry "checksum" "document" document
  let computed ← checksumOf room contents.memory contents.pixels contents.random
  unless sum.equal (ofNat computed.toNat) do
    throw .checksum

/-- Reads the fields that are taken as they are. -/
def readFields (document : Value) (contents : Contents) : Except Rejection Snapshot := do
  let registers ← entry "registers" "document" document
  let timers ← entry "timers" "document" document
  let input ← entry "input" "document" document
  let v ← readList "v" "registers" "registers.v" registers
  let i ← entry "i" "registers" registers
  let pc ← entry "pc" "registers" registers
  let sp ← entry "sp" "registers" registers
  let stack ← readList "stack" "document" "stack" document
  let delay ← entry "delay" "timers" timers
  let sound ← entry "sound" "timers" timers
  let keys ← readList "keys" "input" "input.keys" input
  let waiting ← entry "waiting" "input" input
  let waitRegister ← entry "wait_register" "input" input
  let pending ← entry "pending_key" "input" input
  return { memory := .bytes contents.memory, v, i, pc, sp, stack, delay, sound
           framebuffer := .bytes contents.pixels, keys, waiting, waitRegister, pending
           random := contents.random }

theorem readDocument_eq (document : Value) :
    readDocument room document =
      (readHeader room document >>= fun _ =>
        readContents document >>= fun contents =>
          readChecksum room document contents >>= fun _ => readFields document contents) := by
  unfold readDocument readHeader
  dsimp only
  -- A header that is refused ends both sides; the rest is the same steps in the same order.
  split
  · split
    · simp only [readContents, readChecksum, readFields, readList, bind_assoc, pure_bind]
      refine bind_congr fun _ => bind_congr fun _ => bind_congr fun _ => bind_congr fun _ =>
        bind_congr fun _ => bind_congr fun _ => bind_congr fun _ => ?_
      split <;> rfl
    · rfl
  · rfl

end Stages

/-! ## The header -/

variable {room : Value.Room}

/-- A document has the entries by which it is known: the format, and a version that equals the
one of the format. -/
structure Headed (document : Value) : Prop where
  format : (document.lookup? "format").any (·.isText formatTag) = true
  version : (document.lookup? "version").any (·.equal (ofNat formatVersion)) = true

/-- A document has the entry of the format and another version, which cannot be shown. -/
structure UnshownVersion (room : Value.Room) (document : Value) (reason : Unshown) : Prop where
  format : (document.lookup? "format").any (·.isText formatTag) = true
  version : ∃ found, document.lookup? "version" = some found ∧
    found.equal (ofNat formatVersion) = false ∧ found.display room = .error reason

theorem isMap_of_lookup? {key : String} {value found : Value}
    (entered : value.lookup? key = some found) : value.isMap = true := by
  unfold Value.lookup? at entered
  unfold Value.isMap
  split at entered
  · rfl
  · contradiction

theorem hasFormat_iff {document : Value} :
    (document.isMap && ((document.lookup? "format").getD .null).isText formatTag) = true ↔
      (document.lookup? "format").any (·.isText formatTag) = true := by
  cases found : document.lookup? "format" with
  | none => simp [Value.isText]
  | some tag => simp [isMap_of_lookup? found]

theorem hasVersion_iff {document : Value} :
    ((document.lookup? "version").getD .null).equal (ofNat formatVersion) = true ↔
      (document.lookup? "version").any (·.equal (ofNat formatVersion)) = true := by
  cases document.lookup? "version" with
  | none => simp [Value.equal, ofNat, Value.number?]
  | some version => rfl

theorem readHeader_eq_ok_iff {document : Value} {done : Unit} :
    readHeader room document = .ok done ↔ Headed document := by
  unfold readHeader
  dsimp only
  split
  · rename_i format
    split
    · rename_i version
      exact iff_of_true rfl ⟨hasFormat_iff.mp format, hasVersion_iff.mp version⟩
    · rename_i version
      exact iff_of_false nofun fun headed => version (hasVersion_iff.mpr headed.version)
  · rename_i format
    exact iff_of_false nofun fun headed => format (hasFormat_iff.mpr headed.format)

/-- A header is refused under the name of a document that is not restored, unless it has a
version that cannot be shown. -/
theorem readHeader_eq_error {document : Value} {rejection : Rejection}
    (failed : readHeader room document = .error rejection) :
    rejection.label = "RestoreError" ∨
      ∃ reason, rejection = .unshown reason ∧ UnshownVersion room document reason := by
  unfold readHeader at failed
  dsimp only at failed
  split at failed
  · rename_i format
    split at failed
    · contradiction
    · rename_i version
      cases failed
      cases found : document.lookup? "version" with
      | none =>
          left
          rw [Option.getD_none, Value.display_null]
          rfl
      | some value =>
          rw [found] at version
          have differs : value.equal (ofNat formatVersion) = false := eq_false_of_ne_true version
          cases shown : value.display room with
          | ok text =>
              left
              simp only [Option.getD_some, shown]
              rfl
          | error reason =>
              right
              refine ⟨reason, ?_, hasFormat_iff.mp format, value, found, differs, shown⟩
              simp only [Option.getD_some, shown]
  · cases failed
    exact .inl rfl

theorem readHeader_of_unshownVersion {document : Value} {reason : Unshown}
    (unshown : UnshownVersion room document reason) :
    readHeader room document = .error (.unshown reason) := by
  obtain ⟨version, found, differs, shown⟩ := unshown.version
  unfold readHeader
  dsimp only
  rw [if_pos (hasFormat_iff.mpr unshown.format), found, Option.getD_some,
    if_neg (ne_true_of_eq_false differs), shown]
  rfl

/-! ## The contents -/

/-- A document says of memory, screen and generator what they are. -/
structure SpellsContents (document : Value) (contents : Contents) : Prop where
  memory : ∃ lines, document.lookup? "memory" = some lines ∧ SpellsMemory lines contents.memory
  screen : ∃ rows, document.lookup? "framebuffer" = some rows ∧ SpellsScreen rows contents.pixels
  random : SpellsGenerator ((document.lookup? "rng_state").getD .null) contents.random

theorem readContents_eq_ok_iff {document : Value} {contents : Contents} :
    readContents document = .ok contents ↔ SpellsContents document contents := by
  simp only [readContents, bind_eq_ok_iff, entry_eq_ok_iff, readMemory_eq_ok_iff,
    readScreen_eq_ok_iff, readGenerator_eq_ok_iff, pure, Except.pure, Except.ok.injEq]
  constructor
  · rintro ⟨lines, hasMemory, memory, memorySpelled, rows, hasScreen, pixels, screenSpelled, random,
      randomSpelled, rfl⟩
    exact ⟨⟨lines, hasMemory, memorySpelled⟩, ⟨rows, hasScreen, screenSpelled⟩, randomSpelled⟩
  · rintro ⟨⟨lines, hasMemory, memorySpelled⟩, ⟨rows, hasScreen, screenSpelled⟩, randomSpelled⟩
    exact ⟨lines, hasMemory, _, memorySpelled, rows, hasScreen, _, screenSpelled, _, randomSpelled,
      rfl⟩

theorem reported_readContents (document : Value) : Reported (readContents document) :=
  reported_bind (reported_entry _ _ _) fun _ =>
    reported_bind (reported_readMemory _) fun _ =>
      reported_bind (reported_entry _ _ _) fun _ =>
        reported_bind (reported_readScreen _) fun _ =>
          reported_bind (reported_readGenerator _) fun _ => reported_ok _

/-! ## The checksum -/

/-- A document carries the checksum of its contents. -/
def Sealed (room : Value.Room) (document : Value) (contents : Contents) : Prop :=
  ∃ found sum, document.lookup? "checksum" = some found ∧
    checksum room contents.memory contents.pixels contents.random = .ok sum ∧
    found.equal (ofNat sum.toNat) = true

theorem checksumOf_eq_ok_iff {memory pixels : List UInt8} {random : Value} {sum : UInt32} :
    checksumOf room memory pixels random = .ok sum ↔
      checksum room memory pixels random = .ok sum := by
  unfold checksumOf
  cases checksum room memory pixels random with
  | error reason => exact iff_of_false nofun nofun
  | ok found =>
      change (Except.ok found : Except Rejection UInt32) = .ok sum ↔ _
      rw [Except.ok.injEq, Except.ok.injEq]

theorem checksumOf_eq_error {memory pixels : List UInt8} {random : Value} {rejection : Rejection}
    (failed : checksumOf room memory pixels random = .error rejection) :
    ∃ reason, rejection = .unshown reason ∧ randomBytes room random = .error reason := by
  unfold checksumOf checksum at failed
  cases shown : randomBytes room random with
  | error reason =>
      rw [shown] at failed
      cases failed
      exact ⟨reason, rfl, rfl⟩
  | ok bytes =>
      rw [shown] at failed
      contradiction

theorem readChecksum_eq_ok_iff {document : Value} {contents : Contents} {done : Unit} :
    readChecksum room document contents = .ok done ↔ Sealed room document contents := by
  simp only [readChecksum, bind_eq_ok_iff, entry_eq_ok_iff, checksumOf_eq_ok_iff]
  constructor
  · rintro ⟨found, entered, sum, computed, compared⟩
    split at compared
    · rename_i equal
      exact ⟨found, sum, entered, computed, equal⟩
    · contradiction
  · rintro ⟨found, sum, entered, computed, equal⟩
    exact ⟨found, entered, sum, computed, by rw [if_pos equal]; rfl⟩

/-- A checksum that is not that of the contents is the reason to reject a document. -/
theorem readChecksum_of_differs {document : Value} {contents : Contents} {found : Value}
    {sum : UInt32} (entered : document.lookup? "checksum" = some found)
    (computed : checksum room contents.memory contents.pixels contents.random = .ok sum)
    (differs : found.equal (ofNat sum.toNat) = false) :
    readChecksum room document contents = .error .checksum := by
  unfold readChecksum
  rw [entry_eq_ok_iff.mpr entered, bind_ok, checksumOf_eq_ok_iff.mpr computed, bind_ok,
    if_neg (ne_true_of_eq_false differs)]
  rfl

/-- A checksum is refused under the name of a document that is not restored, unless the state of
the generator cannot be shown. -/
theorem readChecksum_eq_error {document : Value} {contents : Contents} {rejection : Rejection}
    (failed : readChecksum room document contents = .error rejection) :
    rejection.label = "RestoreError" ∨
      ∃ reason, rejection = .unshown reason ∧ randomBytes room contents.random = .error reason := by
  unfold readChecksum at failed
  cases found : entry "checksum" "document" document with
  | error known =>
      rw [found] at failed
      cases failed
      exact .inl (reported_entry _ _ _ _ found)
  | ok value =>
      rw [found, bind_ok] at failed
      cases computed : checksumOf room contents.memory contents.pixels contents.random with
      | error known =>
          rw [computed] at failed
          cases failed
          exact .inr (checksumOf_eq_error computed)
      | ok sum =>
          rw [computed, bind_ok] at failed
          split at failed
          · contradiction
          · cases failed
            exact .inl rfl

/-! ## The other fields -/

/-- A document says of each other field what it is. -/
structure SpellsFields (document : Value) (s : Snapshot) : Prop where
  v : SpellsList (document.lookupIn? "registers" "v") s.v
  i : document.lookupIn? "registers" "i" = some s.i
  pc : document.lookupIn? "registers" "pc" = some s.pc
  sp : document.lookupIn? "registers" "sp" = some s.sp
  stack : SpellsList (document.lookup? "stack") s.stack
  delay : document.lookupIn? "timers" "delay" = some s.delay
  sound : document.lookupIn? "timers" "sound" = some s.sound
  keys : SpellsList (document.lookupIn? "input" "keys") s.keys
  waiting : document.lookupIn? "input" "waiting" = some s.waiting
  waitRegister : document.lookupIn? "input" "wait_register" = some s.waitRegister
  pending : document.lookupIn? "input" "pending_key" = some s.pending

theorem readFields_eq_ok_iff {document : Value} {contents : Contents} {s : Snapshot} :
    readFields document contents = .ok s ↔
      s.memory = .bytes contents.memory ∧ s.framebuffer = .bytes contents.pixels ∧
        s.random = contents.random ∧ SpellsFields document s := by
  simp only [readFields, bind_eq_ok_iff, entry_eq_ok_iff, readList_eq_ok_iff, pure, Except.pure,
    Except.ok.injEq]
  -- Once a part is found, its entries are looked up in it.
  have inPart {part : String} {found : Value} (entered : document.lookup? part = some found)
      (key : String) : document.lookupIn? part key = found.lookup? key := by
    rw [Value.lookupIn?, entered, Option.bind_some]
  constructor
  · rintro ⟨registers, hasRegisters, timers, hasTimers, input, hasInput, _, v, _, i, _, pc, _, sp,
      _, stack, _, delay, _, sound, _, keys, _, waiting, _, waitRegister, _, pending, rfl⟩
    refine ⟨rfl, rfl, rfl, ?_⟩
    constructor <;> simp only [inPart hasRegisters, inPart hasTimers, inPart hasInput, v, i, pc, sp,
      stack, delay, sound, keys, waiting, waitRegister, pending]
  · rintro ⟨memory, screen, random, fields⟩
    obtain ⟨registers, hasRegisters, i⟩ := Option.bind_eq_some_iff.mp fields.i
    obtain ⟨timers, hasTimers, delay⟩ := Option.bind_eq_some_iff.mp fields.delay
    obtain ⟨input, hasInput, waiting⟩ := Option.bind_eq_some_iff.mp fields.waiting
    refine ⟨registers, hasRegisters, timers, hasTimers, input, hasInput,
      _, inPart hasRegisters "v" ▸ fields.v, _, i, _, inPart hasRegisters "pc" ▸ fields.pc,
      _, inPart hasRegisters "sp" ▸ fields.sp, _, fields.stack,
      _, delay, _, inPart hasTimers "sound" ▸ fields.sound,
      _, inPart hasInput "keys" ▸ fields.keys, _, waiting,
      _, inPart hasInput "wait_register" ▸ fields.waitRegister,
      _, inPart hasInput "pending_key" ▸ fields.pending, ?_⟩
    rw [← memory, ← screen, ← random]

theorem reported_readFields (document : Value) (contents : Contents) :
    Reported (readFields document contents) := by
  unfold readFields
  -- Every step finds an entry or takes one as a sequence.
  repeat'
    first
    | exact reported_entry _ _ _
    | exact reported_readList _ _ _ _
    | exact reported_ok _
    | refine reported_bind ?_ fun _ => ?_

/-! ## Accepted and rejected documents -/

/-- A document says of every part of a snapshot what it is, and carries the checksum of memory,
screen and generator. -/
structure Spells (room : Value.Room) (document : Value) (s : Snapshot) : Prop where
  header : Headed document
  contents : ∃ contents : Contents, s.memory = .bytes contents.memory ∧
    s.framebuffer = .bytes contents.pixels ∧ s.random = contents.random ∧
    SpellsContents document contents ∧ Sealed room document contents
  fields : SpellsFields document s

theorem readDocument_eq_ok_iff {document : Value} {s : Snapshot} :
    readDocument room document = .ok s ↔ Spells room document s := by
  simp only [readDocument_eq, bind_eq_ok_iff, readHeader_eq_ok_iff, readContents_eq_ok_iff,
    readChecksum_eq_ok_iff, readFields_eq_ok_iff]
  constructor
  · rintro ⟨_, header, contents, spelled, _, sealed, memory, screen, random, fields⟩
    exact ⟨header, ⟨contents, memory, screen, random, spelled, sealed⟩, fields⟩
  · rintro ⟨header, ⟨contents, memory, screen, random, spelled, sealed⟩, fields⟩
    exact ⟨(), header, contents, spelled, (), sealed, memory, screen, random, fields⟩

theorem ofDocument_eq_ok_iff {document : Value} {s : Snapshot} :
    ofDocument room document = .ok s ↔ Spells room document s ∧ s.validate = .ok () := by
  rw [← readDocument_eq_ok_iff, ofDocument]
  cases readDocument room document with
  | error rejection => simp
  | ok found =>
      dsimp only
      rw [Except.ok.injEq]
      cases valid : found.validate with
      | error complaint =>
          refine iff_of_false (by simp) ?_
          rintro ⟨rfl, accepted⟩
          rw [accepted] at valid
          contradiction
      | ok _ =>
          dsimp only
          rw [Except.ok.injEq]
          exact ⟨fun same => ⟨same, same ▸ valid⟩, fun accepted => accepted.1⟩

/-- Something in a document would have to be shown and cannot be. -/
inductive Unshowable (room : Value.Room) (document : Value) (reason : Unshown) : Prop
  | version (unshown : UnshownVersion room document reason)
  | random (contents : Contents) (spelled : SpellsContents document contents)
      (unshown : randomBytes room contents.random = .error reason)

theorem readDocument_eq_error {document : Value} {rejection : Rejection}
    (failed : readDocument room document = .error rejection) :
    rejection.label = "RestoreError" ∨
      ∃ reason, rejection = .unshown reason ∧ Unshowable room document reason := by
  rw [readDocument_eq] at failed
  cases header : readHeader room document with
  | error known =>
      rw [header] at failed
      cases failed
      exact (readHeader_eq_error header).imp_right fun ⟨reason, same, unshown⟩ =>
        ⟨reason, same, .version unshown⟩
  | ok _ =>
      rw [header, bind_ok] at failed
      cases read : readContents document with
      | error known =>
          rw [read] at failed
          cases failed
          exact .inl (reported_readContents document _ read)
      | ok contents =>
          rw [read, bind_ok] at failed
          cases compared : readChecksum room document contents with
          | error known =>
              rw [compared] at failed
              cases failed
              exact (readChecksum_eq_error compared).imp_right fun ⟨reason, same, unshown⟩ =>
                ⟨reason, same, .random contents (readContents_eq_ok_iff.mp read) unshown⟩
          | ok _ =>
              rw [compared, bind_ok] at failed
              exact .inl (reported_readFields document contents _ failed)

theorem ofDocument_eq_error {document : Value} {rejection : Rejection}
    (failed : ofDocument room document = .error rejection) :
    rejection.label = "RestoreError" ∨
      ∃ reason, rejection = .unshown reason ∧ Unshowable room document reason := by
  unfold ofDocument at failed
  split at failed
  · rename_i known read
    cases failed
    exact readDocument_eq_error read
  · split at failed
    · contradiction
    · cases failed
      exact .inl rfl

theorem ofDocument_of_readDocument {document : Value} {rejection : Rejection}
    (failed : readDocument room document = .error rejection) :
    ofDocument room document = .error rejection := by
  rw [ofDocument, failed]

end SaveState

end ChipEight
