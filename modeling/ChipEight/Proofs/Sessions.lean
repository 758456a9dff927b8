import ChipEight.Proofs.Acceptance
import ChipEight.Proofs.Listings
import ChipEight.Proofs.Reachable
import ChipEight.Proofs.Reload
import ChipEight.Session.Run

/-!
# Sessions in parts

A session adds to the log as it goes on, but nothing in it looks at the log.  So what it comes to
is that of its parts, one after the other (`verdict_bind`).  Showing and saving cannot fail, and so
a session that has a machine with its program comes to what the run of its runner comes to
(`verdict_run`, `verdict_run_error`).
-/

namespace ChipEight

/-! ## What cannot fail -/

namespace Memory

theorem exists_listing (m : Memory) {start : Int} (lower : 0 ≤ start) (length : Int) :
    ∃ lines, m.listing start length = .ok lines :=
  ⟨_, m.listing_eq lower length⟩

end Memory

namespace Machine

theorem regular_new (config : Config) (fresh : Generator) : (new config fresh).state.Regular :=
  State.regular_initial config.seed fresh

theorem regular_load {m after : Machine} {program : List UInt8} (regular : m.state.Regular)
    (loaded : m.load program = .ok after) : after.state.Regular := by
  have kept := regular_call regular (.load program)
  rw [call, loaded] at kept
  exact kept

end Machine

theorem Rates.toInt_of_ofInts {cycles ticks : Int} {rates : Rates}
    (given : Rates.ofInts cycles ticks = .ok rates) :
    (rates.cycles : Int) = cycles ∧ (rates.ticks : Int) = ticks := by
  unfold ofInts at given
  split at given
  · next positive =>
      cases given
      dsimp only
      omega
  · cases given

namespace SaveState

open Snapshot

/-- Every state is saved, and what was saved is read as its snapshot. -/
theorem exists_document (t : State) :
    ∃ document, (∀ room, toDocument room (ofState t) = .ok document) ∧
      ∀ room, readDocument room document = .ok (ofState t) := by
  have held : MayHold (ofGenerator t.random) := .inr ⟨t.random, rfl⟩
  obtain ⟨spelled, spells, reads⟩ := exists_written held
  obtain ⟨sum, checked⟩ := exists_checksum t.memory.image t.screen.image held
  exact ⟨written t spelled sum, fun room => toDocument_eq spells (checked room),
    fun room => readDocument_written reads (checked room)⟩

end SaveState

/-! ## Parts -/

namespace Session

section Parts

variable {α β : Type}

/-- What a part comes to at the start of a log. -/
def verdict (part : Part α) : Except Failure α :=
  (part.run.run []).1

/-- A part comes to the same whatever is in the log. -/
def Blind (part : Part α) : Prop :=
  ∀ log, (part.run.run log).1 = verdict part

theorem run_bind (part : Part α) (next : α → Part β) (log : List LogEntry) :
    (part >>= next).run.run log =
      match part.run.run log with
      | (.ok value, after) => (next value).run.run after
      | (.error failure, after) => (.error failure, after) := by
  simp only [ExceptT.run_bind, StateT.run_bind]
  cases part.run.run log with
  | mk result after => cases result <;> rfl

theorem blind_pure (value : α) : Blind (pure value : Part α) :=
  fun _ => rfl

theorem blind_record (entries : List LogEntry) : Blind (record entries) :=
  fun _ => rfl

theorem blind_orFail {ε : Type} (failure : ε → Failure) (result : Except ε α) :
    Blind (orFail failure result) := by
  cases result <;> exact fun _ => rfl

@[simp]
theorem verdict_record (entries : List LogEntry) : verdict (record entries) = .ok () :=
  rfl

@[simp]
theorem verdict_orFail {ε : Type} (failure : ε → Failure) (result : Except ε α) :
    verdict (orFail failure result) = result.mapError failure := by
  cases result <;> rfl

/-- One part after the other. -/
theorem verdict_bind {part : Part α} {next : α → Part β} (blind : ∀ value, Blind (next value)) :
    verdict (part >>= next) = verdict part >>= fun value => verdict (next value) := by
  rw [verdict, run_bind, verdict]
  cases part.run.run [] with
  | mk result after =>
      cases result with
      | error failure => rfl
      | ok value => exact blind value after

theorem Blind.bind {part : Part α} {next : α → Part β} (first : Blind part)
    (rest : ∀ value, Blind (next value)) : Blind (part >>= next) := by
  intro log
  have same := first log
  rw [verdict_bind rest, run_bind, ← same]
  cases part.run.run log with
  | mk result after =>
      cases result with
      | error failure => rfl
      | ok value => exact rest value after

theorem verdict_bind_ok {part : Part α} {next : α → Part β} {value : α}
    (blind : ∀ value, Blind (next value)) (first : verdict part = .ok value) :
    verdict (part >>= next) = verdict (next value) := by
  rw [verdict_bind blind, first]
  rfl

end Parts

/-! ## The parts of a session -/

section Stages

variable {room : Value.Room} {o : Options} {files : Files} {format : Yaml.Format} {c : Config}
  {program : List UInt8} {r : Runner}

theorem blind_build (c : Config) (seed : Int) : Blind (build c seed) :=
  (blind_record _).bind fun _ => blind_orFail _ _

theorem blind_loadRom (o : Options) (files : Files) (r : Runner) : Blind (loadRom o files r) :=
  (blind_orFail _ _).bind fun _ =>
    (blind_record _).bind fun _ =>
      (blind_orFail _ _).bind fun _ => (blind_record _).bind fun _ => blind_pure _

theorem blind_loadState (o : Options) (files : Files) (r : Runner) (format : Yaml.Format) :
    Blind (loadState room o files r format) := by
  unfold loadState
  split
  · exact blind_pure r
  · exact (blind_orFail _ _).bind fun _ =>
      (blind_orFail _ _).bind fun _ =>
        (blind_record _).bind fun _ => (blind_record _).bind fun _ => blind_pure _

theorem blind_saveText (o : Options) (m : Machine) (format : Yaml.Format) :
    Blind (saveText room o m format) := by
  unfold saveText
  split
  · exact blind_pure none
  · exact (blind_orFail _ _).bind fun _ => blind_pure _

/-- The warnings about a configuration do not count. -/
theorem verdict_readConfig {path : Text} (named : o.config.filter (!·.isEmpty) = some path) :
    verdict (readConfig room o files format) =
      (Config.load files path format).2.mapError .config := by
  unfold readConfig
  rw [named]
  change verdict (record _ >>= fun _ => orFail .config (Config.load files path format).2) = _
  rw [verdict_bind_ok (fun _ => blind_orFail _ _) (verdict_record _), verdict_orFail]

theorem verdict_readConfig_none (unnamed : o.config.filter (!·.isEmpty) = none) :
    verdict (readConfig room o files format) = .ok {} := by
  unfold readConfig
  rw [unnamed]
  rfl

/-- What a session is given: a configuration and a program, whatever the files are called that they
are read from. -/
structure Given (room : Value.Room) (o : Options) (files : Files) (format : Yaml.Format)
    (c : Config) (program : List UInt8) : Prop where
  config : verdict (readConfig room o files format) = .ok c
  program : files.bytes o.rom = .ok program

/-- The runner of a session with its program, before a save file is looked at. -/
def newRunner (c : Config) (seed : Int) (program : List UInt8) : Except Failure Runner := do
  let machine := Machine.new { c with seed := some (c.seed.getD seed) }
  let r ← (Runner.new machine c.cyclesPerSecond c.timerHz).mapError .refused
  (r.load program).mapError fun fault => .refused (.fault fault)

theorem verdict_build (c : Config) (seed : Int) :
    verdict (build c seed) =
      (Runner.new (.new { c with seed := some (c.seed.getD seed) }) c.cyclesPerSecond
        c.timerHz).mapError .refused := by
  unfold build
  rw [verdict_bind_ok (fun _ => blind_orFail _ _) (verdict_record _), verdict_orFail]

theorem verdict_loadRom (found : files.bytes o.rom = .ok program) (r : Runner) :
    verdict (loadRom o files r) =
      (r.load program).mapError fun fault => .refused (.fault fault) := by
  unfold loadRom
  rw [found, orFail, pure_bind]
  cases r.load program <;> rfl

/-- The parts of a session up to its run. -/
theorem verdict_prepare_eq (o : Options) (files : Files) (seed : Int) (format : Yaml.Format) :
    verdict (prepare room o files seed format) =
      verdict (readConfig room o files format) >>= fun c =>
        verdict (build c seed) >>= fun r =>
          verdict (loadRom o files r) >>= fun r => verdict (loadState room o files r format) := by
  unfold prepare
  rw [verdict_bind fun c => (blind_build c seed).bind fun r =>
    (blind_loadRom o files r).bind (blind_loadState o files · format)]
  simp only [verdict_bind fun r =>
    (blind_loadRom o files r).bind (blind_loadState o files · format),
    verdict_bind (blind_loadState o files · format)]

theorem verdict_prepare (given : Given room o files format c program) (seed : Int) :
    verdict (prepare room o files seed format) =
      newRunner c seed program >>= fun r => verdict (loadState room o files r format) := by
  rw [verdict_prepare_eq, given.config, newRunner]
  simp only [verdict_build, verdict_loadRom given.program, bind_assoc]
  rfl

theorem verdict_loadState_none (unnamed : o.loadState.filter (!·.isEmpty) = none)
    (r : Runner) : verdict (loadState room o files r format) = .ok r := by
  unfold loadState
  rw [unnamed]
  rfl

theorem verdict_loadState {path : Text} {snapshot : Snapshot} {machine : Machine}
    (named : o.loadState.filter (!·.isEmpty) = some path)
    (loaded : SaveState.load room files path format = .ok snapshot)
    (restored : r.machine.restore (.snapshot snapshot) = .ok machine) :
    verdict (loadState room o files r format) = .ok { r with machine := machine } := by
  unfold loadState
  rw [named]
  dsimp only
  rw [loaded, orFail, pure_bind, restored, orFail, pure_bind]
  rfl

theorem verdict_loadState_error {path : Text} {cause : SaveState.LoadFailure}
    (named : o.loadState.filter (!·.isEmpty) = some path)
    (failed : SaveState.load room files path format = .error cause) (r : Runner) :
    verdict (loadState room o files r format) = .error (.state cause) := by
  unfold loadState
  rw [named]
  dsimp only
  rw [failed]
  rfl

/-- A runner that is about to carry out its first instruction. -/
structure Poised (c : Config) (r : Runner) : Prop where
  cycles : (r.rates.cycles : Int) = c.cyclesPerSecond
  ticks : (r.rates.ticks : Int) = c.timerHz
  running : r.halted = false
  done : r.done = .start
  regular : r.machine.state.Regular

theorem mapError_eq_ok_iff {ε ε' α : Type} {failure : ε → ε'} {result : Except ε α} {value : α} :
    result.mapError failure = .ok value ↔ result = .ok value := by
  cases result <;> simp [Except.mapError]

theorem mapError_eq_error_iff {ε ε' α : Type} {failure : ε → ε'} {result : Except ε α}
    {cause : ε'} :
    result.mapError failure = .error cause ↔ ∃ other, result = .error other ∧ failure other = cause
    := by
  cases result <;> simp [Except.mapError]

theorem poised_newRunner {seed : Int} (built : newRunner c seed program = .ok r) :
    Poised c r := by
  unfold newRunner at built
  obtain ⟨start, started, loaded⟩ := SaveState.bind_eq_ok_iff.mp built
  obtain ⟨rates, ratesEq, rfl⟩ := Runner.new_eq_ok_iff.mp (mapError_eq_ok_iff.mp started)
  have placed := mapError_eq_ok_iff.mp loaded
  unfold Runner.load at placed
  split at placed
  · next machine ended =>
      cases placed
      obtain ⟨cycles, ticks⟩ := Rates.toInt_of_ofInts ratesEq
      have regular := Machine.regular_load (Machine.regular_new _ _) ended
      exact ⟨cycles, ticks, rfl, rfl, regular⟩
  · cases placed

theorem newRunner_of_seed {seed : Int} (seeded : c.seed = some seed) (first second : Int)
    (program : List UInt8) : newRunner c first program = newRunner c second program := by
  simp only [newRunner, seeded, Option.getD_some]

/-- The log of a run is written down without being looked at. -/
theorem result_drive (o : Options) (r : Runner) (log : List LogEntry) :
    ((drive o r).run.run log).1 =
      match r.runCycles o.cycles with
      | (.ok report, after) => .ok (report, after)
      | (.error refusal, _) => .error (.refused refusal) := by
  unfold drive
  rcases r.runCycles o.cycles with ⟨refusal | report, after⟩ <;> cases o.verbose <;> rfl

theorem blind_drive (o : Options) (r : Runner) : Blind (drive o r) :=
  fun log => (result_drive o r log).trans (result_drive o r []).symm

theorem verdict_drive_ok {report : RunReport} {after : Runner}
    (ran : r.runCycles o.cycles = (.ok report, after)) :
    verdict (drive o r) = .ok (report, after) := by
  rw [verdict, result_drive, ran]

theorem verdict_drive_error {refusal : Refusal}
    (failed : (r.runCycles o.cycles).1 = .error refusal) :
    verdict (drive o r) = .error (.refused refusal) := by
  rw [verdict, result_drive]
  split
  · next ran =>
      rw [ran] at failed
      cases failed
  · next ran =>
      rw [ran] at failed
      cases failed
      rfl

theorem exists_listingLines (o : Options) (program : List UInt8) (s : State) :
    ∃ lines, listingLines o program s = .ok lines := by
  unfold listingLines
  cases o.disassemble with
  | false => exact ⟨[], rfl⟩
  | true =>
      obtain ⟨lines, listed⟩ :=
        s.memory.exists_listing (by decide : (0 : Int) ≤ 0x200) program.length
      exact ⟨lines.map listingLine, by rw [if_pos rfl, listed]; rfl⟩

/-- What is saved is the document of the snapshot, under the name that is not empty. -/
theorem verdict_saveText {m : Machine} {document : Value} (o : Options) (format : Yaml.Format)
    (saved : SaveState.toDocument room m.capture = .ok document) :
    verdict (saveText room o m format) =
      .ok ((o.saveState.filter (!·.isEmpty)).map (·, format.write document)) := by
  have text : SaveState.fileText room m.capture format = .ok (format.write document) := by
    rw [SaveState.fileText, saved]
    rfl
  unfold saveText
  split
  · next unnamed =>
      rw [unnamed]
      rfl
  · next path named =>
      rw [named, verdict_bind fun _ => blind_pure _, verdict_orFail, text]
      rfl

/-! ## Whole sessions -/

/-- What is left of a session when the instructions have been carried out. -/
def finish (room : Value.Room) (o : Options) (format : Yaml.Format)
    (outcome : RunReport × Runner) : Part Product := do
  let listing ← orFail (fun fault => .refused (.fault fault))
    (listingLines o (outcome.2.rom.getD []) outcome.2.machine.state)
  let save ← saveText room o outcome.2.machine format
  return { report := outcome.1, runner := outcome.2
           output := screenLines o outcome.2.machine.state ++ listing, save := save }

theorem blind_finish (o : Options) (format : Yaml.Format) (outcome : RunReport × Runner) :
    Blind (finish room o format outcome) :=
  (blind_orFail _ _).bind fun _ => (blind_saveText _ _ _).bind fun _ => blind_pure _

theorem verdict_run_eq (o : Options) (files : Files) (seed : Int) (format : Yaml.Format) :
    verdict (run room o files seed format) =
      verdict (prepare room o files seed format) >>= fun r =>
        verdict (drive o r) >>= fun outcome => verdict (finish room o format outcome) := by
  have parts : run room o files seed format =
      prepare room o files seed format >>= fun r => drive o r >>= finish room o format := rfl
  rw [parts, verdict_bind fun r => (blind_drive o r).bind (blind_finish o format)]
  simp only [verdict_bind (blind_finish o format)]

/-- Nothing that is left to do can fail. -/
theorem verdict_finish (o : Options) (format : Yaml.Format) (report : RunReport) {after : Runner}
    {document : Value} (saved : SaveState.toDocument room after.machine.capture = .ok document) :
    ∃ output,
      verdict (finish room o format (report, after)) =
        .ok ⟨report, after, output,
          (o.saveState.filter (!·.isEmpty)).map (·, format.write document)⟩ := by
  obtain ⟨lines, listed⟩ := exists_listingLines o (after.rom.getD []) after.machine.state
  refine ⟨screenLines o after.machine.state ++ lines, ?_⟩
  have listing : verdict (orFail (fun fault => .refused (.fault fault))
      (listingLines o (after.rom.getD []) after.machine.state)) = .ok lines := by
    rw [verdict_orFail, listed]
    rfl
  rw [finish, verdict_bind_ok (fun _ => (blind_saveText _ _ _).bind fun _ => blind_pure _) listing,
    verdict_bind_ok (fun _ => blind_pure _) (verdict_saveText o format saved)]
  rfl

section Prepared

variable {seed : Int} (prepared : verdict (prepare room o files seed format) = .ok r)
include prepared

/-- A session whose run comes to its end succeeds. -/
theorem verdict_run {report : RunReport} {after : Runner} {document : Value}
    (ran : r.runCycles o.cycles = (.ok report, after))
    (saved : SaveState.toDocument room after.machine.capture = .ok document) :
    ∃ output,
      verdict (run room o files seed format) =
        .ok ⟨report, after, output,
          (o.saveState.filter (!·.isEmpty)).map (·, format.write document)⟩ := by
  obtain ⟨output, finished⟩ := verdict_finish o format report saved
  refine ⟨output, ?_⟩
  rw [verdict_run_eq, prepared]
  change (verdict (drive o r) >>= fun outcome => verdict (finish room o format outcome)) = _
  rw [verdict_drive_ok ran]
  exact finished

/-- What ends the run ends the session. -/
theorem verdict_run_error {refusal : Refusal} (failed : (r.runCycles o.cycles).1 = .error refusal) :
    verdict (run room o files seed format) = .error (.refused refusal) := by
  rw [verdict_run_eq, prepared]
  change (verdict (drive o r) >>= fun outcome => verdict (finish room o format outcome)) = _
  rw [verdict_drive_error failed]
  rfl

end Prepared

end Stages

end Session

end ChipEight
