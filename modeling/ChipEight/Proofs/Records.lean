import ChipEight.Bus
import ChipEight.Proofs.Replay

/-!
# What memory answers to requests

Memory is a plain map from addresses to bytes, along with a record.  Nothing changes a byte but a
write to its address and a program that covers it, and nothing enters the record but a read or a
write, so the byte at an address is what was last put there, and the record tells the reads and
writes since it was last handed over.  What one request can come to is listed by `Memory.Response`,
and the rest is read off it, for one request first and then for any number of them.  The main
statement is `Memory.bytes_and_record`.
-/

namespace ChipEight.Memory

/-! ## Answers at once -/

/-- The answer to a request and the memory afterwards, or only why there is no answer. -/
def reply (m : Memory) : Request → Except Refusal (Answer × Memory)
  | .read address => ((m.read address).map fun result => (.byte result.1, result.2)).mapError .fault
  | .write address data => (m.writeValue address data).map fun after => (.done, after)
  | .peek address => ((m.peek address).map fun data => (.byte data, m)).mapError .fault
  | .load values => (m.loadValues values).map fun after => (.done, after)
  | .takeLog => .ok (.log m.takeLog.1, m.takeLog.2)

/-- A request that is refused has not changed anything by then. -/
theorem ask_eq (m : Memory) (request : Request) :
    m.ask request =
      match m.reply request with
      | .ok (answer, after) => (.ok answer, after)
      | .error cause => (.error cause, m) := by
  cases request with
  | read address =>
      simp only [ask, errand, reply, find, read]
      cases locate address <;> rfl
  | write address data =>
      simp only [ask, errand, reply, find, writeValue, write]
      cases locate address with
      | error fault => rfl
      | ok place =>
          by_cases isByte : 0 ≤ data ∧ data ≤ 255
          · simp only [if_pos isByte]
            rfl
          · simp only [if_neg isByte]
            rfl
  | peek address =>
      simp only [ask, errand, reply, find, peek]
      cases locate address <;> rfl
  | load values =>
      simp only [ask, errand, reply, spelled, loadValues]
      cases bytesOf? values with
      | none => rfl
      | some program =>
          dsimp only [EStateM.run, bind, EStateM.bind, pure, EStateM.pure, get, getThe,
            MonadStateOf.get, EStateM.get]
          cases m.loadProgram program <;> rfl
  | takeLog => rfl

/-! ## One request -/

/-- Bytes as the numbers that they are. -/
def numbers (program : List UInt8) : List Int :=
  program.map fun byte => (byte.toNat : Int)

theorem ofNat_toNat_of_isByte {data : Int} (isByte : 0 ≤ data ∧ data ≤ 255) :
    ((UInt8.ofNat data.toNat).toNat : Int) = data := by
  have small : data.toNat < 256 := by omega
  rw [UInt8.toNat_ofNat_of_lt' small]
  exact Int.toNat_of_nonneg isByte.1

theorem place_self (address : Address) : place address.val = address :=
  Fin.ext (place_val address.isLt)

theorem locate_val (place : Address) : locate (place.val : Int) = .ok place := by
  rw [locate_natCast place.isLt, place_self]

theorem locate_cases (address : Int) :
    (∃ place : Address, address = place.val ∧ locate address = .ok place) ∨
      (¬(0 ≤ address ∧ address ≤ 0xFFF) ∧ locate address = .error (.outOfRange address)) := by
  by_cases inside : 0 ≤ address ∧ address < 4096
  · obtain ⟨number, rfl⟩ := Int.eq_ofNat_of_zero_le inside.1
    exact .inl ⟨⟨number, by omega⟩, rfl, locate_val ⟨number, by omega⟩⟩
  · refine .inr ⟨by omega, ?_⟩
    rw [locate, dif_neg inside]

theorem bytesOf?_cases (values : List Int) :
    (∃ program, values = numbers program ∧ bytesOf? values = some program) ∨
      (¬(∀ value ∈ values, 0 ≤ value ∧ value ≤ 255) ∧ bytesOf? values = none) := by
  induction values with
  | nil => exact .inl ⟨[], rfl, rfl⟩
  | cons value rest ih =>
      rw [bytesOf?]
      by_cases isByte : 0 ≤ value ∧ value ≤ 255
      · rw [if_pos isByte]
        rcases ih with ⟨program, rfl, spelled⟩ | ⟨wrong, spelled⟩
        · refine .inl ⟨UInt8.ofNat value.toNat :: program, ?_, by rw [spelled]; rfl⟩
          change value :: numbers program =
            ((UInt8.ofNat value.toNat).toNat : Int) :: numbers program
          rw [ofNat_toNat_of_isByte isByte]
        · refine .inr ⟨fun all => wrong fun other among => ?_, by rw [spelled]; rfl⟩
          exact all other (List.mem_cons_of_mem value among)
      · rw [if_neg isByte]
        exact .inr ⟨fun all => isByte (all value List.mem_cons_self), rfl⟩

/-- Memory with a program in it: the bytes of the program are at their places, and nothing else has
changed. -/
structure Placed (m : Memory) (program : List UInt8) (after : Memory) : Prop where
  bytes : ∀ place : Address, after.byte place =
    if 0x200 ≤ place.val then program.getD (place.val - 0x200) (m.byte place) else m.byte place
  log : after.log = m.log

theorem loadProgram_cases (m : Memory) (program : List UInt8) :
    (program.length ≤ 3584 ∧
        ∃ after, m.loadProgram program = .ok after ∧ m.Placed program after) ∨
      (3584 < program.length ∧
        m.loadProgram program = .error (.programTooLong program.length)) := by
  rw [loadProgram]
  by_cases fits : program.length ≤ 3584
  · rw [if_pos fits]
    refine .inl ⟨fits, _, rfl, fun place => ?_, rfl⟩
    simp [byte]
  · rw [if_neg fits]
    exact .inr ⟨Nat.lt_of_not_le fits, rfl⟩

/-- What a request can come to, with the memory that it leaves behind. -/
inductive Response (m : Memory) : Request → Except Refusal Answer → Memory → Prop
  | read (place : Address) :
      Response m (.read place.val) (.ok (.byte (m.byte place))) (m.noteRead place)
  | readOutside {address : Int} (outside : ¬(0 ≤ address ∧ address ≤ 0xFFF)) :
      Response m (.read address) (.error (.fault (.outOfRange address))) m
  | write (place : Address) (data : UInt8) :
      Response m (.write place.val data.toNat) (.ok .done) (m.put place data)
  | writeOutside {address data : Int} (outside : ¬(0 ≤ address ∧ address ≤ 0xFFF)) :
      Response m (.write address data) (.error (.fault (.outOfRange address))) m
  | writeNoByte (place : Address) {data : Int} (noByte : ¬(0 ≤ data ∧ data ≤ 255)) :
      Response m (.write place.val data) (.error (.notByte data)) m
  | peek (place : Address) : Response m (.peek place.val) (.ok (.byte (m.byte place))) m
  | peekOutside {address : Int} (outside : ¬(0 ≤ address ∧ address ≤ 0xFFF)) :
      Response m (.peek address) (.error (.fault (.outOfRange address))) m
  | load {program : List UInt8} {after : Memory} (fits : program.length ≤ 3584)
      (placed : m.Placed program after) : Response m (.load (numbers program)) (.ok .done) after
  | loadNoBytes {values : List Int} (noBytes : ¬(∀ value ∈ values, 0 ≤ value ∧ value ≤ 255)) :
      Response m (.load values) (.error .byteRange) m
  | loadTooLong {program : List UInt8} (tooLong : 3584 < program.length) :
      Response m (.load (numbers program))
        (.error (.fault (.programTooLong program.length))) m
  | takeLog : Response m .takeLog (.ok (.log m.log)) { m with log := [] }

theorem response_ask (m : Memory) (request : Request) :
    Response m request (m.ask request).1 (m.ask request).2 := by
  rw [ask_eq]
  cases request with
  | read address =>
      rw [reply, Memory.read]
      rcases locate_cases address with ⟨place, rfl, located⟩ | ⟨outside, located⟩
      · rw [located]
        exact .read place
      · rw [located]
        exact .readOutside outside
  | write address data =>
      rw [reply, writeValue, Memory.write]
      rcases locate_cases address with ⟨place, rfl, located⟩ | ⟨outside, located⟩
      · rw [located]
        dsimp only
        by_cases isByte : 0 ≤ data ∧ data ≤ 255
        · have written := Response.write (m := m) place (UInt8.ofNat data.toNat)
          rw [ofNat_toNat_of_isByte isByte] at written
          rw [if_pos isByte]
          exact written
        · rw [if_neg isByte]
          exact .writeNoByte place isByte
      · rw [located]
        exact .writeOutside outside
  | peek address =>
      rw [reply, Memory.peek]
      rcases locate_cases address with ⟨place, rfl, located⟩ | ⟨outside, located⟩
      · rw [located]
        exact .peek place
      · rw [located]
        exact .peekOutside outside
  | load values =>
      rw [reply, loadValues]
      rcases bytesOf?_cases values with ⟨program, rfl, spelled⟩ | ⟨wrong, spelled⟩
      · rw [spelled]
        dsimp only
        rcases m.loadProgram_cases program with ⟨fits, after, loaded, placed⟩ | ⟨tooLong, loaded⟩
        · rw [loaded]
          exact .load fits placed
        · rw [loaded]
          exact .loadTooLong tooLong
      · rw [spelled]
        exact .loadNoBytes wrong
  | takeLog => exact .takeLog

/-! ## What a request changes -/

/-- The value that a request puts at a place if it is carried out. -/
def Request.puts? (place : Address) : Request → Option Int
  | .write address data => if address = place.val then some data else none
  | .load values => if 0x200 ≤ place.val then values[place.val - 0x200]? else none
  | _ => none

/-- The value that a request has put at a place; one that was refused has put none there. -/
def put? (place : Address) : Request × Except Refusal Answer → Option Int
  | (request, .ok _) => request.puts? place
  | (_, .error _) => none

/-- The access that a request has made, if it was a read or a write and not refused.  A write has
kept the byte that it replaced. -/
def access? (m : Memory) : Request → Except Refusal Answer → Option Access
  | .read address, .ok _ =>
      let there := place address.toNat
      some (.read there (m.byte there))
  | .write address data, .ok _ =>
      let there := place address.toNat
      some (.write there (UInt8.ofNat data.toNat) (m.byte there))
  | _, _ => none

/-- Whether a request asks for what there is: addresses of memory, bytes, and programs that fit. -/
def Request.Proper : Request → Prop
  | .read address | .peek address => 0 ≤ address ∧ address ≤ 0xFFF
  | .write address data => (0 ≤ address ∧ address ≤ 0xFFF) ∧ 0 ≤ data ∧ data ≤ 255
  | .load values => values.length ≤ 3584 ∧ ∀ value ∈ values, 0 ≤ value ∧ value ≤ 255
  | .takeLog => True

theorem getElem?_numbers (program : List UInt8) (k : Nat) :
    (numbers program)[k]? = program[k]?.map fun byte => (byte.toNat : Int) :=
  List.getElem?_map

theorem length_numbers (program : List UInt8) : (numbers program).length = program.length :=
  List.length_map _

namespace Response

variable {m after : Memory} {request : Request} {result : Except Refusal Answer}

/-- The byte at a place is what the request has put there, or else what it was. -/
theorem byte_after (response : m.Response request result after) (place : Address) :
    ((after.byte place).toNat : Int) =
      (put? place (request, result)).getD (m.byte place).toNat := by
  cases response with
  | write other data =>
      rw [byte_put]
      by_cases here : other = place
      · subst here
        simp [put?, Request.puts?]
      · have apart : ¬((other.val : Int) = place.val) := by
          intro same
          exact here (Fin.ext (Int.ofNat_inj.mp same))
        simp [put?, Request.puts?, Function.update_of_ne (Ne.symm here), apart]
  | @load program after fits placed =>
      rw [placed.bytes, put?, Request.puts?, getElem?_numbers, List.getD_eq_getElem?_getD]
      by_cases inside : 0x200 ≤ place.val
      · rw [if_pos inside, if_pos inside]
        cases program[place.val - 0x200]? <;> rfl
      · rw [if_neg inside, if_neg inside]
        rfl
  | _ => rfl

/-- A read or a write that is not refused goes on record, and nothing else does. -/
theorem log_after (response : m.Response request result after) (keeps : request ≠ .takeLog) :
    after.log = m.log ++ (m.access? request result).toList := by
  cases response with
  | read place =>
      rw [access?, Int.toNat_natCast, place_self]
      rfl
  | write place data =>
      have same : UInt8.ofNat (data.toNat : Int).toNat = data := by
        rw [Int.toNat_natCast, UInt8.ofNat_toNat]
      rw [access?, same, Int.toNat_natCast, place_self]
      rfl
  | load fits placed => exact placed.log.trans (List.append_nil _).symm
  | takeLog => exact absurd rfl keeps
  | _ => exact (List.append_nil _).symm

theorem refused (response : m.Response request result after) {cause : Refusal}
    (failed : result = .error cause) :
    after = m ∧ (cause.label = "AddressOutOfBounds" ∨ cause.label = "ValueError") := by
  cases response with
  | readOutside | writeOutside | peekOutside | loadTooLong =>
      cases failed
      exact ⟨rfl, .inl rfl⟩
  | writeNoByte | loadNoBytes =>
      cases failed
      exact ⟨rfl, .inr rfl⟩
  | _ => contradiction

theorem carriedOut_iff (response : m.Response request result after) :
    (∃ answer, result = .ok answer) ↔ request.Proper := by
  cases response with
  | read place | peek place =>
      have bound := place.isLt
      refine iff_of_true ⟨_, rfl⟩ ?_
      simp only [Request.Proper]
      omega
  | write place data =>
      have bound := place.isLt
      have small := data.toNat_lt
      refine iff_of_true ⟨_, rfl⟩ ?_
      simp only [Request.Proper]
      omega
  | load fits placed =>
      refine iff_of_true ⟨_, rfl⟩ ⟨?_, fun value among => ?_⟩
      · rw [length_numbers]
        exact fits
      · obtain ⟨byte, -, rfl⟩ := List.mem_map.mp among
        have small := byte.toNat_lt
        omega
  | takeLog => exact iff_of_true ⟨_, rfl⟩ trivial
  | readOutside outside | peekOutside outside => exact iff_of_false (by rintro ⟨_, ⟨⟩⟩) outside
  | writeOutside outside => exact iff_of_false (by rintro ⟨_, ⟨⟩⟩) fun proper => outside proper.1
  | writeNoByte place noByte =>
      exact iff_of_false (by rintro ⟨_, ⟨⟩⟩) fun proper => noByte proper.2
  | loadNoBytes noBytes =>
      exact iff_of_false (by rintro ⟨_, ⟨⟩⟩) fun proper => noBytes proper.2
  | loadTooLong tooLong =>
      refine iff_of_false (by rintro ⟨_, ⟨⟩⟩) fun proper => ?_
      have fits := proper.1
      rw [length_numbers] at fits
      exact Nat.not_le.mpr tooLong fits

/-- A program that is placed reaches no further than its bytes do, and is not recorded. -/
theorem outside_program {values : List Int} (response : m.Response (.load values) result after) :
    after.log = m.log ∧ ∀ place : Address,
      ¬(0x200 ≤ place.val ∧ place.val < 0x200 + values.length) →
        after.byte place = m.byte place := by
  cases response with
  | @load program after fits placed =>
      refine ⟨placed.log, fun place outside => ?_⟩
      rw [length_numbers] at outside
      rw [placed.bytes]
      by_cases inside : 0x200 ≤ place.val
      · have behind : program.length ≤ place.val - 0x200 := by omega
        rw [if_pos inside, List.getD_eq_getElem?_getD, List.getElem?_eq_none behind]
        rfl
      · rw [if_neg inside]
  | loadNoBytes | loadTooLong => exact ⟨rfl, fun _ _ => rfl⟩

end Response

/-! ## Requests one after the other -/

/-- The value that was last put at a place. -/
def lastPut? (place : Address) (exchanges : List (Request × Except Refusal Answer)) : Option Int :=
  exchanges.reverse.findSome? (put? place)

/-- The reads and writes among some requests that are not refused, in order. -/
def accesses (m : Memory) : List Request → List Access
  | [] => []
  | request :: rest =>
      (m.access? request (m.ask request).1).toList ++ (m.ask request).2.accesses rest

theorem askAll_append (m : Memory) (first second : List Request) :
    m.askAll (first ++ second) = (m.askAll first).askAll second := by
  induction first generalizing m with
  | nil => rfl
  | cons request rest ih => exact ih (m.ask request).2

/-- The byte at a place is what was last put there, or else what it was at the beginning. -/
theorem byte_askAll (m : Memory) (requests : List Request) (place : Address) :
    (((m.askAll requests).byte place).toNat : Int) =
      (lastPut? place (m.exchanges requests)).getD (m.byte place).toNat := by
  induction requests generalizing m with
  | nil => rfl
  | cons request rest ih =>
      rw [askAll, ih, (m.response_ask request).byte_after, exchanges, lastPut?, lastPut?,
        List.reverse_cons, List.findSome?_append, List.findSome?_singleton]
      cases (exchanges (m.ask request).2 rest).reverse.findSome? (put? place) <;> rfl

/-- As long as the record is not handed over, it goes on with all reads and writes. -/
theorem log_askAll {m : Memory} {requests : List Request} (keeps : .takeLog ∉ requests) :
    (m.askAll requests).log = m.log ++ m.accesses requests := by
  induction requests generalizing m with
  | nil => exact (List.append_nil _).symm
  | cons request rest ih =>
      have other : request ≠ .takeLog := (List.ne_of_not_mem_cons keeps).symm
      have keepsRest : .takeLog ∉ rest := List.not_mem_of_not_mem_cons keeps
      rw [askAll, ih keepsRest, (m.response_ask request).log_after other, accesses,
        List.append_assoc]

/-- Memory after any requests, whatever their numbers and however many of them are refused.

It has its size.  A request is carried out exactly if it asks for what there is; otherwise it is
refused, and changes nothing.  The byte at each address is what the last write to it, or the last
program that covers it, has put there, or else what it was at the beginning, and reading or looking
there gives it.  A program changes nothing but the bytes that it covers, from `0x200` on.  The
record that is handed over has the reads and writes that were not refused, in order, each write with
the byte that it replaced: all of them, behind what was on record at the beginning, or those since
it was last handed over. -/
theorem bytes_and_record (m : Memory) (requests : List Request) :
    let after := m.askAll requests
    after.image.length = 4096 ∧
    (∀ request, ((∃ answer, (after.ask request).1 = .ok answer) ↔ request.Proper) ∧
      ∀ cause, (after.ask request).1 = .error cause → (after.ask request).2 = after ∧
        (cause.label = "AddressOutOfBounds" ∨ cause.label = "ValueError")) ∧
    (∀ place : Address,
      ((after.byte place).toNat : Int) =
          (lastPut? place (m.exchanges requests)).getD (m.byte place).toNat ∧
        (after.ask (.read place.val)).1 = .ok (.byte (after.byte place)) ∧
        (after.ask (.peek place.val)).1 = .ok (.byte (after.byte place))) ∧
    (∀ values, (after.ask (.load values)).2.log = after.log ∧
      ∀ place : Address, ¬(0x200 ≤ place.val ∧ place.val < 0x200 + values.length) →
        (after.ask (.load values)).2.byte place = after.byte place) ∧
    (.takeLog ∉ requests → (after.ask .takeLog).1 = .ok (.log (m.log ++ m.accesses requests))) ∧
    ∀ earlier recent, requests = earlier ++ .takeLog :: recent → .takeLog ∉ recent →
      (after.ask .takeLog).1 = .ok (.log ((m.askAll (earlier ++ [.takeLog])).accesses recent)) := by
  intro after
  refine ⟨?_, fun request => ?_, fun place => ⟨?_, ?_, ?_⟩, fun values => ?_, fun keeps => ?_,
    fun earlier recent split keeps => ?_⟩
  · rw [image, Vector.length_toList]
  · have response := after.response_ask request
    exact ⟨response.carriedOut_iff, fun cause => response.refused⟩
  · exact m.byte_askAll requests place
  · rw [ask_eq, reply, read, locate_val]
    rfl
  · rw [ask_eq, reply, peek, locate_val]
    rfl
  · exact (after.response_ask (.load values)).outside_program
  · exact congrArg (fun log => Except.ok (Answer.log log)) (log_askAll keeps)
  · have cut : requests = (earlier ++ [.takeLog]) ++ recent := by rw [split, List.append_assoc]; rfl
    have empty : (m.askAll (earlier ++ [.takeLog])).log = [] := by
      rw [askAll_append]
      rfl
    have recorded := log_askAll (m := m.askAll (earlier ++ [.takeLog])) keeps
    rw [← askAll_append, ← cut, empty, List.nil_append] at recorded
    exact congrArg (fun log => Except.ok (Answer.log log)) recorded

/-- A byte that was written is read, and then replaced by a write that keeps it.  Requests for what
there is not are refused in between. -/
theorem bytes_and_record_replaced :
    let place : Address := 0x300
    let earlier : List Request := [.write 0x300 0xAB, .write (-1) 0, .load [0, 256], .peek 0x300]
    let recent : List Request :=
      [.write 0x300 256, .read 0x300, .write 0x1000 1, .write 0x300 0xCD]
    let after := initial.askAll (earlier ++ .takeLog :: recent)
    .takeLog ∉ recent ∧
      (after.ask .takeLog).1 = .ok (.log [.read place 0xAB, .write place 0xCD 0xAB]) ∧
      after.byte place = 0xCD := by
  intro place earlier recent after
  have keeps : .takeLog ∉ recent := by decide
  let between := initial.askAll (earlier ++ [.takeLog])
  have old : between.byte place = 0xAB := by
    obtain ⟨-, -, bytes, -⟩ := bytes_and_record initial (earlier ++ [.takeLog])
    exact UInt8.toNat_inj.mp (Int.ofNat_inj.mp (bytes place).1)
  have made (m : Memory) :
      m.accesses recent = [.read place (m.byte place), .write place 0xCD (m.byte place)] := rfl
  obtain ⟨-, -, bytes, -, -, record⟩ := bytes_and_record initial (earlier ++ .takeLog :: recent)
  refine ⟨keeps, ?_, UInt8.toNat_inj.mp (Int.ofNat_inj.mp (bytes place).1)⟩
  calc
    (after.ask .takeLog).1 = .ok (.log (between.accesses recent)) := record earlier recent rfl keeps
    _ = .ok (.log [.read place 0xAB, .write place 0xCD 0xAB]) := by rw [made, old]

end ChipEight.Memory
