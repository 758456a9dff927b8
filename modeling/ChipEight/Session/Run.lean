import ChipEight.Config.File
import ChipEight.Rom
import ChipEight.Runner
import ChipEight.SaveState.File
import ChipEight.Session.Options

/-!
# Sessions

A session builds a machine from a configuration file, loads a program, perhaps goes on
from a save file, carries out a number of instructions, and shows or saves what has
become of the machine.  It reads files through a lookup and leaves the writing of the
save file to its caller, so that it is a function of its options and of the files.
-/

namespace ChipEight.Session

/-- What ends a session early. -/
inductive Failure where
  | config (failure : Config.LoadFailure)
  | file (fault : FileFault)
  | refused (cause : Refusal)
  | state (failure : SaveState.LoadFailure)
  | restore (failure : RestoreFailure)
  | unsavable (cause : SaveState.Unsavable)

namespace Failure

section Shown

variable (room : Value.Room)

/-- The message of a failure. -/
def message : Failure → Text
  | config failure => failure.message room
  | file fault => fault.message
  | refused cause => cause.message
  | state failure => failure.message
  | restore failure => failure.message
  | unsavable cause => cause.message

/-- The name under which a failure is reported. -/
def label : Failure → String
  | config failure => failure.label room
  | file fault => fault.label
  | refused cause => cause.label
  | state failure => failure.label
  | restore failure => failure.label
  | unsavable cause => cause.label

end Shown

/-- Whether a problem with a document is reported in the log. -/
def isReportedProblem : Yaml.Problem → Bool
  | .badValue _ | .undecodable _ => true
  | _ => false

/-- Whether it is reported in the log that a value cannot be shown. -/
def isReportedGap : Unshown → Bool
  | .tooManyDigits => true
  | .tooDeep => false

/-- Whether a refusal is reported in the log. -/
def isReportedRefusal : Refusal → Bool
  | .wrongKind | .pixelOutside _ _ | .noSuchSlot | .halted | .timeOverflow | .historyOverflow =>
      false
  | _ => true

/-- Whether a failure is reported in the log.  Any other escapes. -/
def isReported (room : Value.Room) : Failure → Bool
  | config (.document problem) => isReportedProblem problem
  | config (.content complaint) =>
      match complaint.shown room with
      | .ok _ => true
      | .error reason => isReportedGap reason
  | state (.noValue problem) => isReportedProblem problem
  | state (.rejected (.unshown reason)) => isReportedGap reason
  | refused cause | restore (.refusal cause) => isReportedRefusal cause
  | unsavable (.unshown reason) => isReportedGap reason
  | unsavable .noSequence => false
  | _ => true

end Failure

/-- A part of a session: it adds to the log and may fail. -/
abbrev Part := ExceptT Failure (StateM (List LogEntry))

/-- Adds entries to the log. -/
def record (entries : List LogEntry) : Part Unit :=
  modify (· ++ entries)

/-- Adds an entry to the log. -/
def note (source : String) (level : LogLevel) (message : Text) : Part Unit :=
  record [⟨source, level, message⟩]

/-- A result, or the failure that it stands for. -/
def orFail {ε α : Type} (failure : ε → Failure) : Except ε α → Part α
  | .ok value => pure value
  | .error cause => throw (failure cause)

/-! ## Log entries -/

/-- The source of the entries of the session itself. -/
def source : String := "retro_chip8"

/-- The source of the entries about the machine. -/
def machineSource : String := "retro_chip8.core.machine"

/-- The source of the entries about save files. -/
def stateSource : String := "retro_chip8.persistence.state_file"

/-- A truth value in a log entry. -/
def truth (b : Bool) : String := if b then "True" else "False"

/-- A dialect in a log entry. -/
def dialectText (d : Dialect) : String :=
  "Quirks(" ++ ", ".intercalate (d.choices.map fun (name, b) => name ++ "=" ++ truth b) ++ ")"

/-- What a log says about a configuration, if its numbers can be shown. -/
def builtText? (c : Config) : Option String := do
  let cycles ← Integer.text? c.cyclesPerSecond
  let ticks ← Integer.text? c.timerHz
  let seed ← match c.seed with
    | some seed => Integer.text? seed
    | none => some "None"
  return "Built CHIP-8 system: " ++ cycles ++ " cycles/s, timers at " ++ ticks ++ " Hz, seed=" ++
    seed

/-- The entries about a new machine. -/
def builtEntries (c : Config) : List LogEntry :=
  ⟨machineSource, .debug, "Machine created with quirks " ++ dialectText c.dialect⟩ ::
    (builtText? c).toList.map fun (text : String) => ⟨"retro_chip8.config.builder", .info, text⟩

/-- The entry about a step. -/
def stepEntry (step : StepReport) : LogEntry :=
  ⟨"retro_chip8.core.cpu", .debug, Hex.upper 3 step.pc ++ ": " ++ step.operation.hex ++ " " ++
    step.operation.text⟩

/-- The entry about a run. -/
def reportEntry (report : RunReport) (pc : Int) : LogEntry :=
  ⟨source, .info, "Executed " ++ toString report.executed ++ " instructions (" ++
    toString report.waiting ++ " waiting, " ++ toString report.ticks ++ " timer ticks), PC=" ++
    Hex.upper 3 pc⟩

/-! ## The parts of a session -/

/-- Reads the configuration; without a file it is the default. -/
def readConfig (room : Value.Room) (o : Options) (files : Files) (format : Yaml.Format) :
    Part Config :=
  match o.config.filter (!·.isEmpty) with
  | none => pure {}
  | some path => do
      let (warnings, result) := Config.load files path format
      record ((warnings.filterMap fun warning => (warning.message room).toOption).map fun message =>
        ⟨"retro_chip8.config.loader", .warning, message⟩)
      orFail .config result

/-- Builds a machine with a runner.  Where the configuration names no seed, the random
numbers start from the given one. -/
def build (c : Config) (seed : Int) : Part Runner := do
  record (builtEntries c)
  let machine := Machine.new { c with seed := some (c.seed.getD seed) }
  orFail .refused (Runner.new machine c.cyclesPerSecond c.timerHz)

/-- Loads the program file. -/
def loadRom (o : Options) (files : Files) (r : Runner) : Part Runner := do
  let program ← orFail .file (files.bytes o.rom)
  record (Rom.warnings o.rom program)
  let r ← orFail (fun fault => .refused (.fault fault)) (r.load program)
  note machineSource .info
    ("Loaded program of " ++ toString program.length ++ " bytes at 0x200")
  return r

/-- Goes on from a save file, if one is named. -/
def loadState (room : Value.Room) (o : Options) (files : Files) (r : Runner)
    (format : Yaml.Format) : Part Runner :=
  match o.loadState.filter (!·.isEmpty) with
  | none => pure r
  | some path => do
      let snapshot ← orFail .state (SaveState.load room files path format)
      let machine ← orFail .restore (r.machine.restore (.snapshot snapshot))
      let place := Hex.upper 3 machine.state.registers.pc
      note stateSource .info
        (Text.ofString "Loaded machine state from " ++ path ++
          Text.ofString (" (PC=" ++ place ++ ")"))
      note machineSource .debug ("Machine state restored (PC=" ++ place ++ ")")
      return { r with machine := machine }

/-- A machine with its program, ready to run. -/
def prepare (room : Value.Room) (o : Options) (files : Files) (seed : Int)
    (format : Yaml.Format) : Part Runner := do
  let c ← readConfig room o files format
  let r ← build c seed
  let r ← loadRom o files r
  loadState room o files r format

/-- Carries out the instructions. -/
def drive (o : Options) (r : Runner) : Part (RunReport × Runner) := do
  if o.verbose then
    record ((r.trace (r.cycleTarget o.cycles.toNat) []).map stepEntry)
  match r.runCycles o.cycles with
  | (.ok report, r) =>
      record [reportEntry report r.machine.state.registers.pc]
      return (report, r)
  | (.error refusal, r) =>
      note "retro_chip8.host.runner" .error
        ("Engine halted at cycle " ++ toString r.machine.state.cycles)
      throw (.refused refusal)

/-- The lines that show the screen, if they are asked for. -/
def screenLines (o : Options) (s : State) : List String :=
  if o.dumpScreen then s.screen.lines "#" "." else []

/-- A line of the listing of the program. -/
def listingLine (line : ListingLine) : String :=
  Hex.upper 3 line.address ++ ": " ++ line.bytesText ++ "  " ++ line.text

/-- The lines of the listing of the program, if they are asked for. -/
def listingLines (o : Options) (program : List UInt8) (s : State) : Except Fault (List String) :=
  if o.disassemble then
    (s.memory.listing 0x200 program.length).map fun lines => lines.map listingLine
  else .ok []

/-- What a session that did not fail has to show and to save. -/
structure Product where
  report : RunReport
  runner : Runner
  output : List String
  /-- The name and the text of the save file to be written. -/
  save : Option (Text × String)

/-- The text to be saved, if a file is named. -/
def saveText (room : Value.Room) (o : Options) (m : Machine) (format : Yaml.Format) :
    Part (Option (Text × String)) :=
  match o.saveState.filter (!·.isEmpty) with
  | none => pure none
  | some path => do
      let text ← orFail .unsavable (SaveState.fileText room m.capture format)
      return some (path, text)

/-- A whole session apart from the writing of the save file. -/
def run (room : Value.Room) (o : Options) (files : Files) (seed : Int)
    (format : Yaml.Format) : Part Product := do
  let r ← prepare room o files seed format
  let (report, r) ← drive o r
  let listing ← orFail (fun fault => .refused (.fault fault))
    (listingLines o (r.rom.getD []) r.machine.state)
  let save ← saveText room o r.machine format
  return { report := report, runner := r
           output := screenLines o r.machine.state ++ listing, save := save }

/-! ## The end of a session -/

/-- How a session ends: with a status, or with a failure that escapes. -/
inductive Ending where
  | status (code : Nat)
  | escaped (failure : Failure)

/-- All that a session shows. -/
structure Outcome where
  log : List LogEntry
  output : List String
  save : Option (Text × String)
  ending : Ending

section Endings

variable (room : Value.Room)

/-- The entry that reports a failure. -/
def failureEntry (failure : Failure) : LogEntry :=
  ⟨source, .error, Text.ofString (failure.label room ++ ": ") ++ failure.message room⟩

namespace Outcome

/-- The outcome of a session that failed. -/
def ofFailure (log : List LogEntry) (output : List String) (failure : Failure) : Outcome :=
  if failure.isReported room then ⟨log ++ [failureEntry room failure], output, none, .status 1⟩
  else ⟨log, output, none, .escaped failure⟩

/-- The outcome once the save file has been written, or could not be opened. -/
def afterSave (o : Outcome) (written : Except FileFault Unit) : Outcome :=
  match o.save, written with
  | none, _ => o
  | some (path, _), .ok () =>
      { o with
        log := o.log ++
          [⟨stateSource, .info, Text.ofString "Saved machine state to " ++ path⟩] }
  | some _, .error fault => ofFailure room o.log o.output (.file fault)

/-- The files once the save file has been written under a name, or could not be opened. -/
def filesAfter (o : Outcome) (files : Files) (target : Except FileFault Text) : Files :=
  match o.save, target with
  | some (_, text), .ok name =>
      fun other => if other = name then some (Text.toUtf8 text) else files other
  | _, _ => files

/-- The lines of the log. -/
def logLines (o : Outcome) (verbose : Bool) : List Text :=
  (o.log.filter (LogEntry.isShown verbose)).flatMap LogEntry.lines

end Outcome

/-- The outcome of a session before its save file is written.  A negative number of
instructions is refused before anything is read. -/
def outcome (o : Options) (files : Files) (seed : Int) (format : Yaml.Format) : Outcome :=
  if o.cycles < 0 then
    ⟨[⟨source, .error, "--cycles must not be negative"⟩], [], none, .status 1⟩
  else
    match (run room o files seed format).run.run [] with
    | (.ok product, log) => ⟨log, product.output, product.save, .status 0⟩
    | (.error failure, log) => .ofFailure room log [] failure

end Endings

end ChipEight.Session
