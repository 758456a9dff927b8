import ChipEight.Proofs.Configurations
import ChipEight.Proofs.Resumption

/-!
# How sessions end

A session ends with status zero or one, or with a failure that is not reported and escapes.
What can escape is listed in `Session.Escapes`: a document that holds what has no value, and
something nested too deeply to be shown.  A configuration that is no document at all is among them,
though a save file that is none is reported.  Whatever else goes wrong is reported, at whatever
part of the session it shows, and then no file is written.
-/

namespace ChipEight

namespace Session

variable {room : Value.Room} {o : Options} {files : Files} {format : Yaml.Format} {c : Config}
  {seed : Int} {failure : Failure}

/-! ## What escapes -/

/-- The failures that a session does not report: a problem with the configuration file or the save
file, unless its bytes are no text or a scalar spells no value of its kind, and a complaint about
something in these files that is nested too deeply to be shown.  The save file comes up only if
there are a configuration and a program, and the program fits into memory. -/
inductive Escapes (room : Value.Room) (o : Options) (files : Files) (format : Yaml.Format) :
    Failure → Prop where
  | configProblem {path : Text} {problem : Yaml.Problem}
      (named : o.config.filter (!·.isEmpty) = some path)
      (read : Config.readFile files path format = .error (.document problem))
      (isText : ∀ fault, problem ≠ .undecodable fault)
      (hasKind : ∀ message, problem ≠ .badValue message) :
      Escapes room o files format (.config (.document problem))
  | configTooDeep {path : Text} {value : Value} {complaint : Config.Complaint}
      (named : o.config.filter (!·.isEmpty) = some path)
      (read : Config.readFile files path format = .ok value)
      (found : Config.ofValue value = .error complaint)
      (tooDeep : complaint.shown room = .error .tooDeep) :
      Escapes room o files format (.config (.content complaint))
  | stateProblem {c : Config} {program : List UInt8} {path : Text} {problem : Yaml.Problem}
      (given : Given room o files format c program) (fits : program.length ≤ 3584)
      (named : o.loadState.filter (!·.isEmpty) = some path)
      (read : SaveState.readFile files path format = .error (.noValue problem))
      (hasKind : ∀ message, problem ≠ .badValue message) :
      Escapes room o files format (.state (.noValue problem))
  | stateTooDeep {c : Config} {program : List UInt8} {path : Text} {document : Value}
      (given : Given room o files format c program) (fits : program.length ≤ 3584)
      (named : o.loadState.filter (!·.isEmpty) = some path)
      (read : SaveState.readFile files path format = .ok document)
      (found : SaveState.ofDocument room document = .error (.unshown .tooDeep)) :
      Escapes room o files format (.state (.rejected (.unshown .tooDeep)))

/-! ## The configuration -/

/-- A problem with a document is reported, unless it escapes. -/
theorem isReportedProblem_eq_false_iff {problem : Yaml.Problem} :
    Failure.isReportedProblem problem = false ↔
      (∀ fault, problem ≠ .undecodable fault) ∧ ∀ message, problem ≠ .badValue message := by
  cases problem <;> simp [Failure.isReportedProblem]

theorem readFile_error {path : Text} {cause : Config.LoadFailure}
    (failed : Config.readFile files path format = .error cause) :
    (∃ fault, cause = .file fault) ∨ ∃ problem, cause = .document problem := by
  unfold Config.readFile at failed
  split at failed
  · cases failed
    exact .inl ⟨_, rfl⟩
  · split at failed
    · cases failed
    · cases failed
      exact .inr ⟨_, rfl⟩

/-- A failure of the configuration is reported or escapes. -/
theorem readConfig_error (failed : verdict (readConfig room o files format) = .error failure) :
    failure.isReported room = true ∨ Escapes room o files format failure := by
  cases named : o.config.filter (!·.isEmpty) with
  | none =>
      rw [verdict_readConfig_none named] at failed
      cases failed
  | some path =>
      rw [verdict_readConfig named, mapError_eq_error_iff] at failed
      obtain ⟨cause, loading, rfl⟩ := failed
      unfold Config.load at loading
      cases read : Config.readFile files path format with
      | error other =>
          rw [read] at loading
          cases loading
          rcases readFile_error read with ⟨fault, rfl⟩ | ⟨problem, rfl⟩
          · exact .inl rfl
          · cases reported : Failure.isReportedProblem problem with
            | true => exact .inl reported
            | false =>
                obtain ⟨isText, hasKind⟩ := isReportedProblem_eq_false_iff.mp reported
                exact .inr (.configProblem named read isText hasKind)
      | ok value =>
          rw [read] at loading
          obtain ⟨complaint, found, rfl⟩ := mapError_eq_error_iff.mp loading
          cases shown : complaint.shown room with
          | ok message =>
              left
              simp only [Failure.isReported, shown]
          | error reason =>
              cases reason with
              | tooManyDigits =>
                  left
                  simp only [Failure.isReported, shown, Failure.isReportedGap]
              | tooDeep => exact .inr (.configTooDeep named read found shown)

theorem positive_of_readConfig (read : verdict (readConfig room o files format) = .ok c) :
    0 < c.cyclesPerSecond ∧ 0 < c.timerHz := by
  cases named : o.config.filter (!·.isEmpty) with
  | none =>
      rw [verdict_readConfig_none named] at read
      cases read
      decide
  | some path =>
      rw [verdict_readConfig named, mapError_eq_ok_iff] at read
      unfold Config.load at read
      cases held : Config.readFile files path format with
      | error other =>
          rw [held] at read
          cases read
      | ok value =>
          rw [held] at read
          exact (Config.ofValue_eq_ok_iff.mp (mapError_eq_ok_iff.mp read)).rates_pos

/-! ## The machine and its program -/

/-- A machine is built from every configuration that is read. -/
theorem exists_build (read : verdict (readConfig room o files format) = .ok c) (seed : Int) :
    ∃ r, verdict (build c seed) = .ok r := by
  let machine := Machine.new { c with seed := some (c.seed.getD seed) }
  obtain ⟨r, built⟩ := Config.exists_runner (positive_of_readConfig read) machine
  refine ⟨r, ?_⟩
  rw [verdict_build]
  exact mapError_eq_ok_iff.mpr built

theorem loadRom_error {r : Runner} (failed : verdict (loadRom o files r) = .error failure) :
    failure.isReported room = true := by
  cases found : files.bytes o.rom with
  | error fault =>
      unfold loadRom at failed
      rw [found] at failed
      cases failed
      rfl
  | ok program =>
      rw [verdict_loadRom found, mapError_eq_error_iff] at failed
      obtain ⟨fault, -, rfl⟩ := failed
      rfl

/-- A program is loaded if and only if it fits into memory. -/
theorem exists_load_iff {r : Runner} {program : List UInt8} :
    (∃ s, r.load program = .ok s) ↔ program.length ≤ 3584 := by
  unfold Runner.load Machine.load Memory.loadProgram
  by_cases fits : program.length ≤ 3584
  · simp [fits]
  · simp [fits]

/-- What is known of a session that has loaded its program. -/
theorem given_of_loadRom {r s : Runner} (read : verdict (readConfig room o files format) = .ok c)
    (loaded : verdict (loadRom o files r) = .ok s) :
    ∃ program, Given room o files format c program ∧ program.length ≤ 3584 := by
  cases found : files.bytes o.rom with
  | error fault =>
      unfold loadRom at loaded
      rw [found] at loaded
      cases loaded
  | ok program =>
      rw [verdict_loadRom found, mapError_eq_ok_iff] at loaded
      exact ⟨program, ⟨read, found⟩, exists_load_iff.mp ⟨s, loaded⟩⟩

/-! ## The save file -/

/-- A save file that is read is taken up by every machine. -/
theorem exists_loadState {path : Text} {snapshot : Snapshot}
    (named : o.loadState.filter (!·.isEmpty) = some path)
    (loaded : SaveState.load room files path format = .ok snapshot) (r : Runner) :
    ∃ machine, verdict (loadState room o files r format) = .ok { r with machine := machine } := by
  have valid : snapshot.validate = .ok () := by
    have spelled := loaded
    unfold SaveState.load at spelled
    split at spelled
    · cases spelled
    · exact (SaveState.ofDocument_eq_ok_iff.mp (mapError_eq_ok_iff.mp spelled)).2
  obtain ⟨machine, restored, -⟩ := Machine.restore_of_valid valid r.machine (.ofSeed 0)
  exact ⟨machine, verdict_loadState named loaded restored⟩

theorem running_of_loadState {r s : Runner} (running : r.halted = false)
    (loaded : verdict (loadState room o files r format) = .ok s) : s.halted = false := by
  cases named : o.loadState.filter (!·.isEmpty) with
  | none =>
      rw [verdict_loadState_none named] at loaded
      cases loaded
      exact running
  | some path =>
      cases read : SaveState.load room files path format with
      | error cause =>
          rw [verdict_loadState_error named read] at loaded
          cases loaded
      | ok snapshot =>
          obtain ⟨machine, restored⟩ := exists_loadState named read r
          rw [restored] at loaded
          cases loaded
          exact running

/-- Text that is no document is not a problem of its own in a save file. -/
theorem saveFile_error {path : Text} {cause : SaveState.LoadFailure}
    (failed : SaveState.readFile files path format = .error cause) :
    (Failure.state cause).isReported room = true ∨
      ∃ problem, cause = .noValue problem ∧ ∀ message, problem ≠ .badValue message := by
  unfold SaveState.readFile at failed
  split at failed
  · cases failed
    exact .inl rfl
  · split at failed
    · cases failed
    · cases failed
      exact .inl rfl
    · cases failed
      exact .inl rfl
    · next problem notMalformed isText found =>
        cases failed
        cases reported : Failure.isReportedProblem problem with
        | true => exact .inl reported
        | false => exact .inr ⟨problem, rfl, (isReportedProblem_eq_false_iff.mp reported).2⟩

/-- A failure of the save file is reported or escapes. -/
theorem loadState_error {r : Runner} {program : List UInt8}
    (given : Given room o files format c program) (fits : program.length ≤ 3584)
    (failed : verdict (loadState room o files r format) = .error failure) :
    failure.isReported room = true ∨ Escapes room o files format failure := by
  cases named : o.loadState.filter (!·.isEmpty) with
  | none =>
      rw [verdict_loadState_none named] at failed
      cases failed
  | some path =>
      cases loaded : SaveState.load room files path format with
      | ok snapshot =>
          obtain ⟨machine, restored⟩ := exists_loadState named loaded r
          rw [restored] at failed
          cases failed
      | error cause =>
          rw [verdict_loadState_error named loaded] at failed
          cases failed
          unfold SaveState.load at loaded
          cases read : SaveState.readFile files path format with
          | error other =>
              rw [read] at loaded
              cases loaded
              rcases saveFile_error read with reported | ⟨problem, rfl, hasKind⟩
              · exact .inl reported
              · exact .inr (.stateProblem given fits named read hasKind)
          | ok document =>
              rw [read] at loaded
              obtain ⟨rejection, found, rfl⟩ := mapError_eq_error_iff.mp loaded
              cases rejection with
              | unshown reason =>
                  cases reason with
                  | tooManyDigits => exact .inl rfl
                  | tooDeep => exact .inr (.stateTooDeep given fits named read found)
              | _ => exact .inl rfl

/-! ## The run -/

theorem prepare_error (failed : verdict (prepare room o files seed format) = .error failure) :
    failure.isReported room = true ∨ Escapes room o files format failure := by
  rw [verdict_prepare_eq, SaveState.bind_eq_error_iff] at failed
  rcases failed with failed | ⟨c, read, failed⟩
  · exact readConfig_error failed
  rw [SaveState.bind_eq_error_iff] at failed
  rcases failed with failed | ⟨r, -, failed⟩
  · obtain ⟨r, built⟩ := exists_build read seed
    rw [built] at failed
    cases failed
  rw [SaveState.bind_eq_error_iff] at failed
  rcases failed with failed | ⟨s, loaded, failed⟩
  · exact .inl (loadRom_error failed)
  · obtain ⟨program, given, fits⟩ := given_of_loadRom read loaded
    exact loadState_error given fits failed

theorem running_of_prepare {r : Runner}
    (prepared : verdict (prepare room o files seed format) = .ok r) : r.halted = false := by
  have parts := prepared
  rw [verdict_prepare_eq] at parts
  obtain ⟨c, read, parts⟩ := SaveState.bind_eq_ok_iff.mp parts
  obtain ⟨start, -, parts⟩ := SaveState.bind_eq_ok_iff.mp parts
  obtain ⟨loaded, program, -⟩ := SaveState.bind_eq_ok_iff.mp parts
  obtain ⟨program, given, -⟩ := given_of_loadRom read program
  rw [verdict_prepare given] at prepared
  obtain ⟨fresh, built, restored⟩ := SaveState.bind_eq_ok_iff.mp prepared
  exact running_of_loadState (poised_newRunner built).running restored

/-- Whatever ends a session early is reported or escapes. -/
theorem run_error (counted : 0 ≤ o.cycles)
    (failed : verdict (run room o files seed format) = .error failure) :
    failure.isReported room = true ∨ Escapes room o files format failure := by
  rw [verdict_run_eq, SaveState.bind_eq_error_iff] at failed
  rcases failed with failed | ⟨r, prepared, failed⟩
  · exact prepare_error failed
  obtain ⟨count, countEq⟩ := Int.eq_ofNat_of_zero_le counted
  rw [SaveState.bind_eq_error_iff] at failed
  rcases failed with failed | ⟨⟨report, after⟩, -, failed⟩
  · cases ran : r.runCycles o.cycles with
    | mk result after =>
        cases result with
        | ok report =>
            rw [verdict_drive_ok ran] at failed
            cases failed
        | error refusal =>
            have early : (r.runCycles o.cycles).1 = .error refusal := congrArg Prod.fst ran
            rw [verdict_drive_error early] at failed
            cases failed
            rw [countEq] at early
            obtain ⟨fault, rfl⟩ := Runner.runCycles_error (running_of_prepare prepared) count early
            exact .inl rfl
  · obtain ⟨document, saved, -⟩ := SaveState.exists_document after.machine.state
    obtain ⟨output, finished⟩ := verdict_finish o format report (saved room)
    rw [finished] at failed
    cases failed

/-! ## What escapes does escape -/

theorem isText_of_noValue {path : Text} {problem : Yaml.Problem}
    (read : SaveState.readFile files path format = .error (.noValue problem))
    (fault : Text.DecodeFault) : problem ≠ .undecodable fault := by
  unfold SaveState.readFile at read
  split at read
  · cases read
  · split at read
    · cases read
    · cases read
    · cases read
    · next other notMalformed isText found =>
        cases read
        exact isText fault

theorem isReported_of_escapes (escapes : Escapes room o files format failure) :
    failure.isReported room = false := by
  cases escapes with
  | configProblem named read isText hasKind =>
      exact isReportedProblem_eq_false_iff.mpr ⟨isText, hasKind⟩
  | configTooDeep named read found tooDeep =>
      simp only [Failure.isReported, tooDeep, Failure.isReportedGap]
  | stateProblem given fits named read hasKind =>
      exact isReportedProblem_eq_false_iff.mpr ⟨isText_of_noValue read, hasKind⟩
  | stateTooDeep given fits named read found => rfl

/-- A configuration and a program that fits give a runner. -/
theorem exists_newRunner {program : List UInt8} (given : Given room o files format c program)
    (fits : program.length ≤ 3584) (seed : Int) : ∃ r, newRunner c seed program = .ok r := by
  obtain ⟨start, built⟩ := exists_build given.config seed
  obtain ⟨r, loaded⟩ := exists_load_iff (r := start).mpr fits
  rw [verdict_build] at built
  refine ⟨r, SaveState.bind_eq_ok_iff.mpr ⟨start, built, ?_⟩⟩
  rw [loaded]
  rfl

theorem run_of_readConfig (failed : verdict (readConfig room o files format) = .error failure) :
    verdict (run room o files seed format) = .error failure := by
  rw [verdict_run_eq, verdict_prepare_eq, failed]
  rfl

theorem run_of_loadState {program : List UInt8} {path : Text} {cause : SaveState.LoadFailure}
    (given : Given room o files format c program) (fits : program.length ≤ 3584)
    (named : o.loadState.filter (!·.isEmpty) = some path)
    (failed : SaveState.load room files path format = .error cause) :
    verdict (run room o files seed format) = .error (.state cause) := by
  obtain ⟨r, built⟩ := exists_newRunner given fits seed
  rw [verdict_run_eq, verdict_prepare given, built]
  change (verdict (loadState room o files r format) >>= _) = _
  rw [verdict_loadState_error named failed]
  rfl

/-- A failure that escapes ends the session, whatever the surroundings give as a seed. -/
theorem run_of_escapes (escapes : Escapes room o files format failure) :
    verdict (run room o files seed format) = .error failure := by
  cases escapes with
  | configProblem named read isText hasKind =>
      apply run_of_readConfig
      rw [verdict_readConfig named, Config.load, read]
      rfl
  | configTooDeep named read found tooDeep =>
      apply run_of_readConfig
      simp only [verdict_readConfig named, Config.load, read, found]
      rfl
  | stateProblem given fits named read hasKind =>
      apply run_of_loadState given fits named
      rw [SaveState.load, read]
  | stateTooDeep given fits named read found =>
      apply run_of_loadState given fits named
      simp only [SaveState.load, read, found]
      rfl

/-! ## Outcomes -/

namespace Outcome

variable {before : Outcome}

@[simp]
theorem save_ofFailure (log : List LogEntry) (output : List String) (failure : Failure) :
    (ofFailure room log output failure).save = none := by
  unfold ofFailure
  split <;> rfl

theorem ending_of_reported (reported : failure.isReported room = true) (log : List LogEntry)
    (output : List String) : (ofFailure room log output failure).ending = .status 1 := by
  rw [ofFailure, if_pos reported]

theorem ending_of_unreported (unreported : failure.isReported room = false) (log : List LogEntry)
    (output : List String) : (ofFailure room log output failure).ending = .escaped failure := by
  rw [ofFailure, unreported, if_neg Bool.false_ne_true]

/-- Where there is nothing to be saved, nothing changes. -/
theorem afterSave_of_unsaved (unsaved : before.save = none) (written : Except FileFault Unit) :
    before.afterSave room written = before := by
  unfold afterSave
  rw [unsaved]

theorem filesAfter_of_unsaved (unsaved : before.save = none)
    (target : Except FileFault Text) : before.filesAfter files target = files := by
  unfold filesAfter
  rw [unsaved]

/-- A file is written or cannot be opened. -/
theorem ending_afterSave (room : Value.Room) (done : before.ending = .status 0) (files : Files)
    (target : Except FileFault Text) :
    (before.afterSave room (target.map fun _ => ())).ending = .status 0 ∨
      (before.afterSave room (target.map fun _ => ())).ending = .status 1 ∧
        before.filesAfter files target = files := by
  cases saved : before.save with
  | none => exact .inl (by rw [afterSave_of_unsaved saved, done])
  | some save =>
      cases target with
      | ok name =>
          left
          unfold afterSave
          rw [saved]
          exact done
      | error fault =>
          right
          unfold afterSave filesAfter
          rw [saved]
          exact ⟨rfl, rfl⟩

end Outcome

/-- What has become of a session that carries out any instructions. -/
theorem outcome_of_ok {product : Product} (counted : 0 ≤ o.cycles)
    (ran : verdict (run room o files seed format) = .ok product) :
    (outcome room o files seed format).ending = .status 0 := by
  rw [outcome, if_neg (Int.not_lt.mpr counted)]
  rw [verdict] at ran
  split
  · rfl
  · next found =>
      rw [found] at ran
      cases ran

theorem outcome_of_error (counted : 0 ≤ o.cycles)
    (failed : verdict (run room o files seed format) = .error failure) :
    ∃ log, outcome room o files seed format = .ofFailure room log [] failure := by
  rw [outcome, if_neg (Int.not_lt.mpr counted)]
  rw [verdict] at failed
  split
  · next found =>
      rw [found] at failed
      cases failed
  · next other log found =>
      rw [found] at failed
      cases failed
      exact ⟨log, rfl⟩

/-! ## Endings -/

/-- How a session ends, once its save file has been written or could not be opened: with status
zero or one, or with a failure that escapes.  The failures that escape are those listed, as long as
the number of instructions is not negative; among them is a configuration that is no document.  A
session that does not end with status zero has written no file. -/
theorem ending_of_session (room : Value.Room) (o : Options) (files : Files) (seed : Int)
    (format : Yaml.Format) (target : Except FileFault Text) :
    let before := outcome room o files seed format
    let after := before.afterSave room (target.map fun _ => ())
    (after.ending = .status 0 ∨ after.ending = .status 1 ∨
      ∃ failure, 0 ≤ o.cycles ∧ Escapes room o files format failure ∧
        after.ending = .escaped failure) ∧
    (∀ failure, 0 ≤ o.cycles → Escapes room o files format failure →
      after.ending = .escaped failure) ∧
    (after.ending ≠ .status 0 → before.filesAfter files target = files) := by
  intro before after
  by_cases counted : 0 ≤ o.cycles
  · cases ran : verdict (run room o files seed format) with
    | ok product =>
        have done : before.ending = .status 0 := outcome_of_ok counted ran
        have written := Outcome.ending_afterSave room done files target
        refine ⟨?_, ?_, ?_⟩
        · rcases written with ended | ⟨ended, -⟩
          · exact .inl ended
          · exact .inr (.inl ended)
        · intro failure _ escapes
          rw [run_of_escapes escapes] at ran
          cases ran
        · intro failed
          rcases written with ended | ⟨-, unchanged⟩
          · exact absurd ended failed
          · exact unchanged
    | error failure =>
        obtain ⟨log, came⟩ := outcome_of_error counted ran
        have unsaved : before.save = none := by
          change (outcome room o files seed format).save = none
          rw [came, Outcome.save_ofFailure]
        have same : after = .ofFailure room log [] failure :=
          (Outcome.afterSave_of_unsaved unsaved _).trans came
        refine ⟨?_, ?_, fun _ => Outcome.filesAfter_of_unsaved unsaved target⟩
        · right
          rw [same]
          rcases run_error counted ran with reported | escapes
          · exact .inl (Outcome.ending_of_reported reported log [])
          · exact .inr ⟨failure, counted, escapes,
              Outcome.ending_of_unreported (isReported_of_escapes escapes) log []⟩
        · intro other _ escapes
          rw [run_of_escapes escapes] at ran
          cases ran
          rw [same]
          exact Outcome.ending_of_unreported (isReported_of_escapes escapes) log []
  · have refused : before = _ := if_pos (Int.not_le.mp counted)
    have unsaved : before.save = none := by rw [refused]
    have same : after = before := Outcome.afterSave_of_unsaved unsaved _
    refine ⟨?_, fun _ nonneg => absurd nonneg counted,
      fun _ => Outcome.filesAfter_of_unsaved unsaved target⟩
    rw [same, refused]
    exact .inr (.inl rfl)

/-! ### A configuration that is no document -/

/-- Nothing stands before the first character that no document may hold. -/
theorem start_control :
    Yaml.Cursor.start [0x01] =
      { rest := [], left := 0, index := 0, line := 0, column := 0, wall := some .malformed } := by
  have parts : Text.partsOf [0x01] = ([[Char.ofNat 1]], none) := rfl
  simp only [Yaml.Cursor.start, parts]
  rfl

theorem readDocument_control (limits : Yaml.Limits) (fuel : Nat) :
    (Yaml.readDocument limits fuel).run { layout := .start [0x01] } = .error .malformed := by
  have first : Yaml.Composing.head?.run { layout := .start [0x01] } = .error .malformed := by
    simp only [Yaml.Composing.head?, Yaml.Layout.start, start_control]
    rfl
  rw [Yaml.readDocument, StateT.run_bind, first]
  rfl

/-- A reader that stops at once does so however far it may go. -/
theorem graphOf_of_stopped {limits : Yaml.Limits} {bytes : List UInt8} {problem : Yaml.Problem}
    (stopped : ∀ fuel,
      (Yaml.readDocument limits fuel).run { layout := .start bytes } = .error problem) :
    Yaml.graphOf limits bytes = .error problem := by
  unfold Yaml.graphOf
  generalize 16 * bytes.length + 64 = fuel
  rw [stopped fuel]

theorem read_control (limits : Yaml.Limits) :
    (Yaml.Format.standard limits).read [0x01] = .error .malformed := by
  change Yaml.read limits [0x01] = _
  unfold Yaml.read
  rw [graphOf_of_stopped (readDocument_control limits)]

/-- A session with such a configuration ends with a failure that escapes, and writes no file. -/
theorem ending_of_session_control :
    let o : Options :=
      { rom := "game", config := some "settings", cycles := 2, saveState := some "saved" }
    let files : Files := fun name => if name = "settings" then some [0x01] else none
    let before (room : Value.Room) (limits : Yaml.Limits) : Outcome :=
      outcome room o files 0 (.standard limits)
    (∀ room limits, ((before room limits).afterSave room (.ok ())).ending =
        .escaped (.config (.document .malformed))) ∧
      ∀ room limits, (before room limits).filesAfter files (.ok "saved") = files := by
  intro o files before
  have ended (room : Value.Room) (limits : Yaml.Limits) :
      ((before room limits).afterSave room (.ok ())).ending =
        .escaped (.config (.document .malformed)) := by
    have read : Config.readFile files "settings" (.standard limits) =
        .error (.document .malformed) := by
      have found : files.bytes "settings" = .ok [0x01] := rfl
      rw [Config.readFile, found]
      simp only [read_control]
    have named : o.config.filter (!·.isEmpty) = some "settings" := rfl
    have unreported : Failure.isReportedProblem .malformed = false := rfl
    obtain ⟨isText, hasKind⟩ := isReportedProblem_eq_false_iff.mp unreported
    obtain ⟨-, escapes, -⟩ := ending_of_session room o files 0 (.standard limits) (.ok "saved")
    exact escapes _ (by decide) (.configProblem named read isText hasKind)
  refine ⟨ended, fun room limits => ?_⟩
  obtain ⟨-, -, unchanged⟩ := ending_of_session room o files 0 (.standard limits) (.ok "saved")
  refine unchanged fun succeeded => ?_
  cases (ended room limits).symm.trans succeeded

end Session

end ChipEight
