import ChipEight.Session.Run

/-!
# The command line

Reads the files that a session needs, runs it, writes its save file, and prints what it
shows: its output, and its log on the error stream.
-/

namespace ChipEight.Main

/-- The bytes of a file, if it can be read. -/
def readFile (path : Text) : IO (Option (List UInt8)) := do
  let some name := path.toString? | return none
  try
    return some (← IO.FS.readBinFile name).toList
  catch _ => return none

/-- Why a file could not be written. -/
def causeOf : IO.Error → FileCause
  | .permissionDenied .. => .forbidden
  | .inappropriateType .. => .folder
  | .noFileOrDirectory .. => .missing
  | _ => .notFolder

/-- A text that can be printed, with a stand-in for letters that cannot. -/
def printable (text : Text) : String := String.ofList text.chars

/-- Writes a file, or tells why it could not. -/
def writeFile (path : Text) (text : String) : IO (Except FileFault Unit) := do
  try
    IO.FS.writeFile (printable path) text
    return .ok ()
  catch e => return .error ⟨causeOf e, path⟩

/-- The files that the options name, read beforehand. -/
def readFiles (o : Options) : IO Files := do
  let names := [some o.rom, o.config, o.loadState].filterMap id
  let contents ← names.mapM fun name => return (name, ← readFile name)
  return fun name => (contents.lookup name).join

/-- The room for values inside each other on the command line. -/
def room : Value.Room := ⟨1000, by decide⟩

/-- The format of the files, with limits that no ordinary document comes near. -/
def format : Yaml.Format := .standard ⟨500, 1000⟩

/-- Runs a session and prints what it shows. -/
def perform (o : Options) : IO UInt32 := do
  let seed ← IO.rand 0 0x4000000000000000
  let outcome := Session.outcome room o (← readFiles o) seed format
  let written ← match outcome.save with
    | some (path, text) => writeFile path text
    | none => pure (.ok ())
  let outcome := outcome.afterSave room written
  for line in outcome.output do
    IO.println line
  for line in outcome.logLines o.verbose do
    IO.eprintln (printable line)
  match outcome.ending with
  | .status code => return UInt32.ofNat code
  | .escaped failure =>
      IO.eprintln (failure.label room ++ ": " ++ printable (failure.message room))
      return 1

end ChipEight.Main

/-- Runs the command. -/
def main (args : List String) : IO UInt32 :=
  match ChipEight.Options.ofTexts (args.map ChipEight.Text.ofString) with
  | .ok options => ChipEight.Main.perform options
  | .error reason => do
      for line in reason.output do
        IO.println line
      if reason = .wrong then
        for line in ChipEight.Help.usage do
          IO.eprintln line
      return UInt32.ofNat reason.status
