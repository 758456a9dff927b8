import ChipEight.Proofs.Bursts
import ChipEight.Proofs.Variants

/-!
# Altered documents are rejected

The checksum of a document runs over memory and screen as one byte string, so it tells apart any
two contents that differ within four neighbouring bytes and nowhere else.  A document whose
memory or screen was altered within four bytes therefore never carries the checksum of what it
says now, and is rejected for it (`SaveState.checksum_detects_burst`).
-/

namespace ChipEight

/-- No value equals two numbers. -/
theorem Value.eq_of_equal {m n : Nat} : ∀ {value : Value},
    value.equal (Snapshot.ofNat m) = true → value.equal (Snapshot.ofNat n) = true → m = n
  | knot _ content, first, second => by
      rw [equal] at first second
      exact eq_of_equal first second
  | bool b, first, second => by
      simp only [Snapshot.ofNat, equal, number?, beq_iff_eq] at first second
      omega
  | int k, first, second => by
      simp only [Snapshot.ofNat, equal, number?, beq_iff_eq] at first second
      omega
  | float x, first, second => by
      simp only [Snapshot.ofNat, equal, number?, beq_iff_eq] at first second
      rw [first, Option.some_inj] at second
      omega
  | null, first, _ | text _, first, _ | bytes _, first, _ | buffer _, first, _
  | moment _, first, _ | list _, first, _ | tuple _, first, _ | set _, first, _
  | map _, first, _ => by
      simp [Snapshot.ofNat, equal, number?] at first

namespace SaveState

open Snapshot Crc32

/-! ## Checksums -/

/-- Contents that differ within four bytes in a row have different checksums, whatever the
generator adds to them. -/
theorem checksum_ne_of_burst {room : Value.Room} {random : Value}
    {memory pixels memory' pixels' : List UInt8}
    (burst : Burst (memory ++ pixels) (memory' ++ pixels')) {shown : List UInt8}
    (bytes : randomBytes room random = .ok shown) :
    ∃ sum sum', checksum room memory pixels random = .ok sum ∧
      checksum room memory' pixels' random = .ok sum' ∧ sum ≠ sum' := by
  have whole (memory pixels : List UInt8) :
      checksum room memory pixels random = .ok (update 0 (memory ++ pixels ++ shown)) := by
    rw [checksum, bytes, update_append, update_append]
    rfl
  exact ⟨_, _, whole memory pixels, whole memory' pixels',
    update_ne_of_burst (burst.append_right shown) 0⟩

/-! ## Documents -/

/-- Two documents have the same entries but for one, and what that entry spells in the one
document differs from what it spells in the other within four bytes in a row. -/
structure AlteredAt (key : String) (spells : Value → List UInt8 → Prop) (d e : Value) : Prop where
  others : ∀ other, other ≠ key → e.lookup? other = d.lookup? other
  burst : ∃ before after old new, d.lookup? key = some before ∧ spells before old ∧
    e.lookup? key = some after ∧ spells after new ∧ Burst old new

/-- A document is that of another one with up to four neighbouring bytes of memory or pixels of
the screen changed. -/
def Altered (d e : Value) : Prop :=
  AlteredAt "memory" SpellsMemory d e ∨ AlteredAt "framebuffer" SpellsScreen d e

theorem spellsMemory_unique {value : Value} {a b : List UInt8} (first : SpellsMemory value a)
    (second : SpellsMemory value b) : a = b :=
  Except.ok.inj ((readMemory_eq_ok_iff.mpr first).symm.trans (readMemory_eq_ok_iff.mpr second))

theorem spellsScreen_unique {value : Value} {a b : List UInt8} (first : SpellsScreen value a)
    (second : SpellsScreen value b) : a = b :=
  Except.ok.inj ((readScreen_eq_ok_iff.mpr first).symm.trans (readScreen_eq_ok_iff.mpr second))

namespace Altered

variable {d e : Value}

theorem lookup?_eq (altered : Altered d e) {key : String} (notMemory : key ≠ "memory")
    (notScreen : key ≠ "framebuffer") : e.lookup? key = d.lookup? key := by
  rcases altered with inMemory | inScreen
  · exact inMemory.others key notMemory
  · exact inScreen.others key notScreen

/-- What an altered document says about memory, screen and generator differs from what was said
within four bytes in a row. -/
theorem exists_contents (altered : Altered d e) {contents : Contents}
    (spelled : SpellsContents d contents) :
    ∃ changed : Contents, SpellsContents e changed ∧ changed.random = contents.random ∧
      Burst (contents.memory ++ contents.pixels) (changed.memory ++ changed.pixels) := by
  have random : e.lookup? "rng_state" = d.lookup? "rng_state" :=
    altered.lookup?_eq (by decide) (by decide)
  obtain ⟨lines, hasLines, spellsLines⟩ := spelled.memory
  obtain ⟨rows, hasRows, spellsRows⟩ := spelled.screen
  rcases altered with ⟨others, before, after, old, new, hadOld, wasOld, hasNew, isNew, burst⟩ |
    ⟨others, before, after, old, new, hadOld, wasOld, hasNew, isNew, burst⟩
  · have screen := others "framebuffer" (by decide)
    cases Option.some.inj (hadOld.symm.trans hasLines)
    rw [spellsMemory_unique wasOld spellsLines] at burst
    exact ⟨{ contents with memory := new },
      ⟨⟨after, hasNew, isNew⟩, ⟨rows, screen.trans hasRows, spellsRows⟩, random ▸ spelled.random⟩,
      rfl, burst.append_right contents.pixels⟩
  · have memory := others "memory" (by decide)
    cases Option.some.inj (hadOld.symm.trans hasRows)
    rw [spellsScreen_unique wasOld spellsRows] at burst
    exact ⟨{ contents with pixels := new },
      ⟨⟨lines, memory.trans hasLines, spellsLines⟩, ⟨after, hasNew, isNew⟩,
        random ▸ spelled.random⟩,
      rfl, burst.append_left contents.memory⟩

/-- An altered document does not carry the checksum of what it says now. -/
theorem readDocument_rejects (altered : Altered d e) {room : Value.Room} {s : Snapshot}
    (spelled : Spells room d s) : readDocument room e = .error .checksum := by
  have format : e.lookup? "format" = d.lookup? "format" :=
    altered.lookup?_eq (by decide) (by decide)
  have version : e.lookup? "version" = d.lookup? "version" :=
    altered.lookup?_eq (by decide) (by decide)
  have sumEntry : e.lookup? "checksum" = d.lookup? "checksum" :=
    altered.lookup?_eq (by decide) (by decide)
  have headed : Headed e :=
    ⟨format ▸ spelled.header.format, version ▸ spelled.header.version⟩
  obtain ⟨contents, -, -, -, held, found, sum, entered, computed, equal⟩ := spelled.contents
  obtain ⟨changed, changedHeld, sameRandom, burst⟩ := altered.exists_contents held
  obtain ⟨shown, bytes⟩ : ∃ shown, randomBytes room contents.random = .ok shown := by
    rw [checksum] at computed
    cases shown : randomBytes room contents.random with
    | error reason =>
        rw [shown] at computed
        contradiction
    | ok bytes => exact ⟨bytes, rfl⟩
  obtain ⟨old, new, computedOld, computedNew, differ⟩ := checksum_ne_of_burst burst bytes
  have differs : found.equal (ofNat new.toNat) = false := by
    rw [← Bool.not_eq_true]
    intro equalNew
    rw [computed, Except.ok.injEq] at computedOld
    apply differ
    rw [← computedOld]
    exact UInt32.toNat_inj.mp (Value.eq_of_equal equal equalNew)
  have header : readHeader room e = .ok () := readHeader_eq_ok_iff.mpr headed
  rw [readDocument_eq, header, bind_ok, readContents_eq_ok_iff.mpr changedHeld, bind_ok,
    readChecksum_of_differs (sumEntry.trans entered) (sameRandom ▸ computedNew) differs]
  rfl

end Altered

/-- Memory lines that spell other bytes alter a document, if these differ from the memory of the
state within four bytes in a row. -/
theorem altered_enter {t : State} {random : Value} {sum : UInt32} {changed : List UInt8}
    (burst : Burst t.memory.image changed) :
    Altered (written t random sum)
      (enter "memory" (.list (memoryLines changed)) (written t random sum)) := by
  have isMap : (written t random sum).isMap = true := rfl
  have size : changed.length = 4096 := burst.length_eq ▸ Vector.length_toList
  refine .inl ⟨?_, .list (memoryLines t.memory.image), .list (memoryLines changed), _, _, ?_,
    readMemory_eq_ok_iff.mp readMemory_written, ?_,
    readMemory_eq_ok_iff.mp (readMemory_memoryLines size), burst⟩
  · intro key different
    rw [lookup?_enter isMap, if_neg different]
  · rw [written, lookup?_record]
    rfl
  · rw [lookup?_enter isMap, if_pos rfl]

theorem ne_add_one (byte : UInt8) : byte ≠ byte + 1 := by
  intro same
  have numbers := congrArg UInt8.toNat same
  rw [UInt8.toNat_add] at numbers
  have one : (1 : UInt8).toNat = 1 := rfl
  omega

/-- The checksum tells contents apart that differ within four bytes in a row and nowhere else.

For any two pairs of memory and screen that do so as one byte string, and whatever the state of
the generator, the checksums differ; where there is no checksum, because the state of the
generator cannot be shown, it is none that a generator can be in.  A snapshot that passes the
checks has a document, and that document is rejected for its checksum once up to four
neighbouring bytes of its memory text or pixels of its rows have been changed. -/
theorem checksum_detects_burst :
    (∀ (room : Value.Room) (random : Value) (memory pixels memory' pixels' : List UInt8),
      Burst (memory ++ pixels) (memory' ++ pixels') →
        (∃ sum sum', checksum room memory pixels random = .ok sum ∧
          checksum room memory' pixels' random = .ok sum' ∧ sum ≠ sum') ∨
        ¬MayHold random ∧ ∃ reason, checksum room memory pixels random = .error reason ∧
          checksum room memory' pixels' random = .error reason) ∧
    ∀ s : Snapshot, s.validate = .ok () →
      ∃ document, (∀ room, toDocument room s = .ok document) ∧
        ∀ altered, Altered document altered →
          (∀ room, ofDocument room altered = .error .checksum) ∧
            Rejection.checksum.label = "RestoreError" := by
  constructor
  · intro room random memory pixels memory' pixels' burst
    cases bytes : randomBytes room random with
    | ok shown => exact .inl (checksum_ne_of_burst burst bytes)
    | error reason =>
        have none (memory pixels : List UInt8) :
            checksum room memory pixels random = .error reason := by
          rw [checksum, bytes]
          rfl
        refine .inr ⟨fun held => ?_, reason, none memory pixels, none memory' pixels'⟩
        obtain ⟨sum, computed⟩ := exists_checksum memory pixels held
        have failed := none memory pixels
        rw [computed room] at failed
        contradiction
  · intro s valid
    obtain ⟨t, spelled, sum, saved, read⟩ := exists_written_of_valid valid
    refine ⟨written t spelled sum, saved, fun altered change => ⟨fun room => ?_, rfl⟩⟩
    exact ofDocument_of_readDocument
      (change.readDocument_rejects (ofDocument_eq_ok_iff.mp (read room)).1)

/-- A change of the first byte is noticed, as such and in the document of a machine after
power-up. -/
theorem checksum_detects_burst_powerUp :
    (∀ room, ∃ sum sum', checksum room [0] [] .null = .ok sum ∧
      checksum room [1] [] .null = .ok sum' ∧ sum ≠ sum') ∧
    ∃ t spelled sum first rest, t.memory.image = first :: rest ∧
      (∀ room, toDocument room (Machine.new {}).capture = .ok (written t spelled sum)) ∧
      ∀ room, ofDocument room (enter "memory" (.list (memoryLines ((first + 1) :: rest)))
        (written t spelled sum)) = .error .checksum := by
  constructor
  · intro room
    have burst : Burst ([0] ++ []) ([1] ++ []) := Burst.head (by decide) []
    rcases checksum_detects_burst.1 room .null [0] [] [1] [] burst with differ | ⟨foreign, -⟩
    · exact differ
    · exact absurd (.inl rfl) foreign
  · -- Stated for any machine, so that nothing is evaluated.
    have general : ∀ m : Machine, m.capture.validate = .ok () →
        ∃ t spelled sum first rest, t.memory.image = first :: rest ∧
          (∀ room, toDocument room m.capture = .ok (written t spelled sum)) ∧
          ∀ room, ofDocument room (enter "memory" (.list (memoryLines ((first + 1) :: rest)))
            (written t spelled sum)) = .error .checksum := by
      intro m valid
      obtain ⟨document, saved, rejected⟩ := checksum_detects_burst.2 m.capture valid
      obtain ⟨t, spelled, sum, savedAs, -⟩ := exists_written_of_valid valid
      cases Except.ok.inj ((savedAs default).symm.trans (saved default))
      have size : t.memory.image.length = 4096 := Vector.length_toList
      obtain ⟨first, rest, image⟩ := List.exists_cons_of_ne_nil
        (List.ne_nil_of_length_pos (by omega : 0 < t.memory.image.length))
      have burst : Burst t.memory.image ((first + 1) :: rest) := by
        rw [image]
        exact .head (ne_add_one first) rest
      exact ⟨t, spelled, sum, first, rest, image, savedAs, (rejected _ (altered_enter burst)).1⟩
    exact general (Machine.new {}) (Machine.validate_capture_new {} _)

end SaveState

end ChipEight
