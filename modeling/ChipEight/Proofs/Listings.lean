import ChipEight.Proofs.Assembly
import ChipEight.Proofs.Faults

/-!
# Listings and execution

A listing goes through memory two bytes at a time, and so does a program that does not jump; but
the one only looks at the bytes, as far as they are there, and the other reads them for the record
and fails where they are not.  `Memory.listing_eq` gives the lines in closed form.  From it one
reads off which addresses have a line, and that a listing may be cut at any even place.  A line
and a step from its address decode the same word, so they show the same text; and the text of a
line tells its bytes, because the text of an instruction does and no instruction is called `DW`.
The main statement is `Machine.listing_agrees_with_execution`.
-/

namespace ChipEight

theorem Opcode.mnemonic_ne_data : ∀ a ∈ all, a.mnemonic.toList ≠ ['D', 'W'] := by
  decide

/-! ## Lines -/

namespace ListingLine

/-- What a line shows is in memory. -/
def Shows (m : Memory) (line : ListingLine) : Prop :=
  m.peek line.address = .ok line.high ∧ m.peek (line.address + 1) = .ok line.low

/-- A line that shows its word as data. -/
def IsData (line : ListingLine) : Prop :=
  line.text = "DW #" ++ Hex.upper 4 line.word

theorem word_bounds (line : ListingLine) : 0 ≤ line.word ∧ line.word < 65536 := by
  have high := line.high.toNat_lt
  have low := line.low.toNat_lt
  rw [word]
  omega

theorem text_of_undecoded {line : ListingLine} (undecoded : Operation.decode? line.word = none) :
    line.IsData := by
  rw [IsData, text, undecoded]

theorem text_of_decoded {line : ListingLine} {op : Operation}
    (decoded : Operation.decode? line.word = some op) : line.text = op.text := by
  rw [text, decoded]

theorem firstWord_of_isData {line : ListingLine} (data : line.IsData) :
    firstWord line.text = ['D', 'W'] := by
  have spelled : line.text = "DW" ++ " " ++ ("#" ++ Hex.upper 4 line.word) := by
    rw [data, ← String.append_assoc]
    rfl
  rw [spelled, firstWord_of_blank (by decide)]
  rfl

/-- The first word of a line tells whether it is data. -/
theorem undecoded_iff_firstWord (line : ListingLine) :
    Operation.decode? line.word = none ↔ firstWord line.text = ['D', 'W'] := by
  constructor
  · intro undecoded
    exact firstWord_of_isData (text_of_undecoded undecoded)
  · intro first
    cases decoded : Operation.decode? line.word with
    | none => rfl
    | some op =>
        rw [text_of_decoded decoded, op.firstWord_text] at first
        exact absurd first (Opcode.mnemonic_ne_data op.opcode op.opcode.mem_all)

theorem isData_iff (line : ListingLine) : line.IsData ↔ Operation.decode? line.word = none := by
  constructor
  · intro data
    exact line.undecoded_iff_firstWord.mpr (firstWord_of_isData data)
  · exact text_of_undecoded

theorem eq_of_word {a b : ListingLine} (same : a.word = b.word) :
    a.high = b.high ∧ a.low = b.low := by
  have lowA := a.low.toNat_lt
  have lowB := b.low.toNat_lt
  rw [word, word] at same
  constructor
  · apply UInt8.toNat_inj.mp
    omega
  · apply UInt8.toNat_inj.mp
    omega

/-- The text of a line tells its word, whether it is an instruction or not. -/
theorem word_of_text {a b : ListingLine} (same : a.text = b.text) : a.word = b.word := by
  have boundsA := a.word_bounds
  have boundsB := b.word_bounds
  have alike : Operation.decode? a.word = none ↔ Operation.decode? b.word = none := by
    rw [undecoded_iff_firstWord, undecoded_iff_firstWord, same]
  cases decodedA : Operation.decode? a.word with
  | none =>
      have dataA := text_of_undecoded decodedA
      have dataB := text_of_undecoded (alike.mp decodedA)
      have digits : Hex.upper 4 a.word = Hex.upper 4 b.word :=
        (String.append_right_inj _).mp (dataA.symm.trans (same.trans dataB))
      rw [← Int.toNat_of_nonneg boundsA.1, ← Int.toNat_of_nonneg boundsB.1] at digits
      have residues := Hex.upper_injective (by omega) (by omega) digits
      omega
  | some op =>
      cases decodedB : Operation.decode? b.word with
      | none =>
          rw [alike.mpr decodedB] at decodedA
          cases decodedA
      | some other =>
          rw [text_of_decoded decodedA, text_of_decoded decodedB] at same
          have residues := Operation.residue_of_text decodedA decodedB same
          omega

end ListingLine

/-! ## Closed form -/

namespace Memory

theorem peek_eq (m : Memory) {address : ℤ} (lower : 0 ≤ address) (upper : address < 4096) :
    m.peek address = .ok (m.byte (place address.toNat)) := by
  have located := locate_natCast (by omega : address.toNat < 4096)
  rw [Int.toNat_of_nonneg lower] at located
  rw [peek, located]

theorem peek_eq_ok {m : Memory} {address : ℤ} {data : UInt8} (peeked : m.peek address = .ok data) :
    0 ≤ address ∧ address < 4096 ∧ data = m.byte (place address.toNat) := by
  by_cases inside : 0 ≤ address ∧ address < 4096
  · rw [m.peek_eq inside.1 inside.2] at peeked
    exact ⟨inside.1, inside.2, (Except.ok.inj peeked).symm⟩
  · rw [peek, locate, dif_neg inside] at peeked
    cases peeked

/-- The line at an address. -/
def lineAt (m : Memory) (address : ℤ) : ListingLine :=
  ⟨address, m.byte (place address.toNat), m.byte (place (address + 1).toNat)⟩

/-- The lines of so many words from an address on. -/
def linesAt (m : Memory) (start : ℤ) (count : ℕ) : List ListingLine :=
  (List.range count).map fun k : ℕ => m.lineAt (start + 2 * k)

/-- How many words lie in a range as far as memory goes. -/
def wordCount (start length : ℤ) : ℕ := ((min (start + length) 4096 - start) / 2).toNat

theorem linesAt_succ (m : Memory) (start : ℤ) (count : ℕ) :
    m.linesAt start (count + 1) = m.lineAt start :: m.linesAt (start + 2) count := by
  rw [linesAt, List.range_succ_eq_map, List.map_cons, List.map_map]
  congr 1
  · rw [Nat.cast_zero, mul_zero, add_zero]
  · apply List.map_congr_left
    intro k _
    rw [Function.comp_apply, Nat.cast_succ]
    congr 1
    omega

theorem linesAt_add (m : Memory) (start : ℤ) (first second : ℕ) :
    m.linesAt start (first + second) =
      m.linesAt start first ++ m.linesAt (start + 2 * first) second := by
  rw [linesAt, List.range_add, List.map_append, List.map_map]
  congr 1
  apply List.map_congr_left
  intro k _
  rw [Function.comp_apply, Nat.cast_add]
  congr 1
  omega

theorem shows_lineAt (m : Memory) {address : ℤ} (lower : 0 ≤ address) (upper : address < 4095) :
    (m.lineAt address).Shows m := by
  have beyond : address + 1 < 4096 := by omega
  have high := m.peek_eq lower (by omega)
  have low := m.peek_eq (Int.le_add_one lower) beyond
  exact ⟨high, low⟩

theorem listingFrom_eq (m : Memory) {last address : ℤ} (lower : 0 ≤ address)
    (inside : last ≤ 4096) :
    m.listingFrom last address = .ok (m.linesAt address ((last - address) / 2).toNat) := by
  generalize counted : ((last - address) / 2).toNat = count
  induction count generalizing address with
  | zero =>
      have noRoom : ¬ address + 1 < last := by omega
      rw [listingFrom, if_neg noRoom]
      rfl
  | succ count ih =>
      have room : address + 1 < last := by omega
      have rest := @ih (address + 2) (by omega) (by omega)
      rw [listingFrom, if_pos room, m.peek_eq lower (by omega), m.peek_eq (by omega) (by omega),
        rest, linesAt_succ]
      rfl

theorem listing_eq (m : Memory) {start : ℤ} (lower : 0 ≤ start) (length : ℤ) :
    m.listing start length = .ok (m.linesAt start (wordCount start length)) :=
  m.listingFrom_eq lower (Int.min_le_right _ _)

theorem getElem?_linesAt (m : Memory) (start : ℤ) (count k : ℕ) :
    (m.linesAt start count)[k]? = if k < count then some (m.lineAt (start + 2 * k)) else none := by
  rw [linesAt, List.getElem?_map]
  by_cases inside : k < count
  · rw [if_pos inside, List.getElem?_range inside]
    rfl
  · rw [if_neg inside, List.getElem?_eq_none (by simpa using inside)]
    rfl

theorem lt_wordCount_iff {start length : ℤ} {k : ℕ} :
    k < wordCount start length ↔ start + 2 * k + 1 < min (start + length) 0x1000 := by
  rw [wordCount]
  omega

/-- A range that is cut at an even place has the words of both parts. -/
theorem linesAt_wordCount (m : Memory) {start first second : ℤ} (even : 2 ∣ first)
    (firstLength : 0 ≤ first) (secondLength : 0 ≤ second) :
    m.linesAt start (wordCount start (first + second)) =
      m.linesAt start (wordCount start first) ++
        m.linesAt (start + first) (wordCount (start + first) second) := by
  by_cases inside : start + first ≤ 4096
  · have counts : wordCount start (first + second) =
        wordCount start first + wordCount (start + first) second := by
      rw [wordCount, wordCount, wordCount]
      omega
    have cut : start + 2 * (wordCount start first : ℤ) = start + first := by
      rw [wordCount]
      omega
    rw [counts, linesAt_add, cut]
  · have rest : wordCount (start + first) second = 0 := by
      rw [wordCount]
      omega
    have counts : wordCount start (first + second) = wordCount start first := by
      rw [wordCount, wordCount]
      omega
    rw [rest, counts]
    exact (List.append_nil _).symm

end Memory

/-! ## Listings in place -/

namespace Action

theorem run_peekByte (address : ℤ) (s : State) :
    (peekByte address).run s = (s.memory.peek address, s) := by
  rw [peekByte, run_bind_ok (run_get s), run_lift]

/-- A walk over memory gives the lines and leaves everything as it is. -/
theorem run_listingFrom (last address : ℤ) (s : State) :
    (listingFrom last address).run s = (s.memory.listingFrom last address, s) := by
  induction address using listingFrom.induct last with
  | case1 address room ih =>
      rw [listingFrom, Memory.listingFrom, if_pos room, if_pos room]
      cases high : s.memory.peek address with
      | error fault => exact run_bind_error ((run_peekByte address s).trans (by rw [high]))
      | ok first =>
          refine (run_bind_ok ((run_peekByte address s).trans (by rw [high]))).trans ?_
          cases low : s.memory.peek (address + 1) with
          | error fault => exact run_bind_error ((run_peekByte _ s).trans (by rw [low]))
          | ok second =>
              refine (run_bind_ok ((run_peekByte _ s).trans (by rw [low]))).trans ?_
              cases rest : s.memory.listingFrom last (address + 2) with
              | error fault => exact run_bind_error (ih.trans (by rw [rest]))
              | ok lines => exact run_bind_ok (ih.trans (by rw [rest]))
  | case2 address noRoom =>
      rw [listingFrom, Memory.listingFrom, if_neg noRoom, if_neg noRoom]
      rfl

end Action

namespace Machine

/-- A listing leaves the machine as it is. -/
theorem listing_eq (m : Machine) (start length : ℤ) :
    m.listing start length = (m.state.memory.listing start length, m) := by
  rw [listing, Action.run_listingFrom]
  rfl

theorem listing_of_nonneg (m : Machine) {start : ℤ} (lower : 0 ≤ start) (length : ℤ) :
    m.listing start length =
      (.ok (m.state.memory.linesAt start (Memory.wordCount start length)), m) := by
  rw [listing_eq, Memory.listing_eq _ lower]

end Machine

/-! ## Lines and steps -/

namespace ListingLine

variable {line : ListingLine}

theorem shows_of_mem_linesAt {m : Memory} {start length : ℤ} (lower : 0 ≤ start)
    (member : line ∈ m.linesAt start (Memory.wordCount start length)) : line.Shows m := by
  obtain ⟨k, listed, rfl⟩ := List.mem_map.mp member
  have inside := Memory.lt_wordCount_iff.mp (List.mem_range.mp listed)
  exact m.shows_lineAt (by omega) (by omega)

theorem bytes_of_texts {first second : List ListingLine}
    (same : first.map text = second.map text) :
    first.map (fun line => (line.high, line.low)) =
      second.map fun line => (line.high, line.low) := by
  induction first generalizing second with
  | nil =>
      cases second with
      | nil => rfl
      | cons line rest => cases same
  | cons line rest ih =>
      cases second with
      | nil => cases same
      | cons other others =>
          obtain ⟨sameText, sameRest⟩ := List.cons.inj same
          obtain ⟨sameHigh, sameLow⟩ := eq_of_word (word_of_text sameText)
          rw [List.map_cons, List.map_cons, sameHigh, sameLow, ih sameRest]

/-- A word is spelled by the digits of its two bytes. -/
theorem hex_word (line : ListingLine) :
    Hex.upper 4 line.word = Hex.upper 2 line.high.toNat ++ Hex.upper 2 line.low.toNat := by
  have high := line.high.toNat_lt
  have low := line.low.toNat_lt
  have whole : line.word = ((256 * line.high.toNat + line.low.toNat : ℕ) : ℤ) := by
    rw [word]
    omega
  have first : (256 * line.high.toNat + line.low.toNat) / 16 / 16 = line.high.toNat := by omega
  have third : (256 * line.high.toNat + line.low.toNat) / 16 % 16 = line.low.toNat / 16 % 16 := by
    omega
  have fourth : (256 * line.high.toNat + line.low.toNat) % 16 = line.low.toNat % 16 := by omega
  apply String.toList_inj.mp
  rw [whole, String.toList_append, Hex.toList_upper (by omega), Hex.toList_upper (by omega),
    Hex.toList_upper (by omega)]
  simp only [Hex.columns, first, third, fourth, List.append_assoc, List.nil_append]

end ListingLine

namespace State

variable {s : State} {line : ListingLine}

/-- The word of the line at the program counter is the one that is fetched. -/
theorem word_of_shows (here : line.address = s.registers.pc) (shown : line.Shows s.memory) :
    s.fetchFault? = none ∧ s.word = line.word := by
  obtain ⟨high, low⟩ := shown
  rw [here] at high low
  obtain ⟨lower, -, highByte⟩ := Memory.peek_eq_ok high
  obtain ⟨-, upper, lowByte⟩ := Memory.peek_eq_ok low
  have lowPlace : (s.registers.pc + 1).toNat = s.registers.pc.toNat + 1 := by omega
  constructor
  · exact fetchFault?_eq_none.mpr (by omega)
  · rw [word, ListingLine.word, highByte, lowByte, lowPlace]
    rfl

theorem ready_of_undecoded {d : Dialect} (fetched : s.fetchFault? = none)
    (undecoded : Operation.decode? s.word = none) :
    s.ready d = .error (.unknownInstruction s.word s.registers.pc) := by
  simp only [ready, fetched, undecoded]

/-- Only words that are no instructions are unknown. -/
theorem undecoded_of_ready {d : Dialect} {word : ℤ} {address : Option ℤ}
    (fetched : s.fetchFault? = none)
    (unknown : s.ready d = .error (.unknownInstruction word address)) :
    Operation.decode? s.word = none := by
  have lower := (fetchFault?_eq_none.mp fetched).1
  have fails := (ready_eq_error_iff lower).mp unknown
  cases fails with
  | word inside trips =>
      cases trips with
      | unknown noPattern => exact Operation.decode?_eq_none_iff.mpr noPattern

end State

namespace Machine

variable {m : Machine} {line : ListingLine}

theorem step_unknown_iff (here : line.address = m.state.registers.pc)
    (shown : line.Shows m.state.memory) :
    (∃ word address after, m.step = (.error (.unknownInstruction word address), after)) ↔
      line.IsData := by
  obtain ⟨fetched, sameWord⟩ := State.word_of_shows here shown
  rw [ListingLine.isData_iff, ← sameWord]
  constructor
  · rintro ⟨word, address, unknown⟩
    exact State.undecoded_of_ready fetched (step_eq_error_iff.mp unknown)
  · intro undecoded
    exact ⟨_, _, step_eq_error_iff.mpr (State.ready_of_undecoded fetched undecoded)⟩

theorem report_of_shows {report : StepReport} {after : Machine}
    (here : line.address = m.state.registers.pc) (shown : line.Shows m.state.memory)
    (stepped : m.step = (.ok report, after)) :
    report.operation.text = line.text ∧ report.symbol = line.text ∧
      report.operation.hex = Hex.upper 2 line.high.toNat ++ Hex.upper 2 line.low.toNat := by
  obtain ⟨-, sameWord⟩ := State.word_of_shows here shown
  obtain ⟨op, isReady, rfl, -⟩ := State.step_ok (state_step stepped).1
  have decoded := (State.ready_eq_ok_iff.mp isReady).2.1
  rw [sameWord] at decoded
  have text := ListingLine.text_of_decoded decoded
  have raw : op.raw = line.word := (Operation.decode?_eq_some_iff.mp decoded).1
  refine ⟨text.symm, text.symm, ?_⟩
  rw [← line.hex_word, ← raw]
  rfl

/-- A listing leaves the machine as it is.  It has a line for every second address from its start on
from which a whole word lies in the range and in memory, with the two bytes that are there.  It
may be cut at any even place, and its texts tell its bytes.  The line at the program counter is
what the next step does: it is data if the step finds no instruction there, and otherwise a step
that comes to its end has the text and the bytes of the line. -/
theorem listing_agrees_with_execution (m : Machine) :
    (∀ start length : ℤ, 0 ≤ start →
      ∃ lines, m.listing start length = (.ok lines, m) ∧
        (∀ k : ℕ, (lines.map ListingLine.address)[k]? =
          if start + 2 * k + 1 < min (start + length) 0x1000 then some (start + 2 * k)
          else none) ∧
        ∀ line ∈ lines, line.Shows m.state.memory) ∧
      (∀ start first second : ℤ, 0 ≤ start → 2 ∣ first → 0 ≤ first → 0 ≤ second →
        ∃ lines others, m.listing start first = (.ok lines, m) ∧
          m.listing (start + first) second = (.ok others, m) ∧
          m.listing start (first + second) = (.ok (lines ++ others), m)) ∧
      (∀ (n : Machine) (start length otherStart otherLength : ℤ) (lines others : List ListingLine),
        m.listing start length = (.ok lines, m) →
        n.listing otherStart otherLength = (.ok others, n) →
        lines.map ListingLine.text = others.map ListingLine.text →
        lines.map (fun line => (line.high, line.low)) =
          others.map fun line => (line.high, line.low)) ∧
      (0 ≤ m.state.registers.pc → m.state.registers.pc ≤ 0xFFE →
        ∃ line, m.listing m.state.registers.pc 2 = (.ok [line], m)) ∧
      ∀ (start length : ℤ) (lines : List ListingLine) (line : ListingLine), 0 ≤ start →
        m.listing start length = (.ok lines, m) → line ∈ lines →
        line.address = m.state.registers.pc →
        ((∃ word address after, m.step = (.error (.unknownInstruction word address), after)) ↔
            line.IsData) ∧
          ∀ report after, m.step = (.ok report, after) →
            report.operation.text = line.text ∧ report.symbol = line.text ∧
              report.operation.hex =
                Hex.upper 2 line.high.toNat ++ Hex.upper 2 line.low.toNat := by
  refine ⟨?_, ?_, ?_, ?_, ?_⟩
  · intro start length lower
    refine ⟨_, m.listing_of_nonneg lower length, ?_, ?_⟩
    · intro k
      rw [List.getElem?_map, Memory.getElem?_linesAt]
      by_cases inside : k < Memory.wordCount start length
      · rw [if_pos inside, if_pos (Memory.lt_wordCount_iff.mp inside)]
        rfl
      · rw [if_neg inside, if_neg (Memory.lt_wordCount_iff.not.mp inside)]
        rfl
    · intro line member
      exact ListingLine.shows_of_mem_linesAt lower member
  · intro start first second lower even firstLength secondLength
    refine ⟨_, _, m.listing_of_nonneg lower first,
      m.listing_of_nonneg (Int.add_nonneg lower firstLength) second, ?_⟩
    rw [m.listing_of_nonneg lower, Memory.linesAt_wordCount _ even firstLength secondLength]
  · intro n start length otherStart otherLength lines others _ _ same
    exact ListingLine.bytes_of_texts same
  · intro lower upper
    refine ⟨m.state.memory.lineAt m.state.registers.pc, ?_⟩
    have single : Memory.wordCount m.state.registers.pc 2 = 1 := by
      rw [Memory.wordCount]
      omega
    rw [m.listing_of_nonneg lower, single, Memory.linesAt_succ]
    rfl
  · intro start length lines line lower listed member here
    rw [m.listing_of_nonneg lower] at listed
    cases listed
    have shown := ListingLine.shows_of_mem_linesAt lower member
    refine ⟨step_unknown_iff here shown, ?_⟩
    intro report after stepped
    exact report_of_shows here shown stepped

end Machine

end ChipEight
