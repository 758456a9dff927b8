import ChipEight.Files
import ChipEight.SaveState.Document
import ChipEight.Yaml.Format

/-!
# Save files

A save file is a save document in YAML.
-/

namespace ChipEight.SaveState

/-- Why a save file is not loaded. -/
inductive LoadFailure where
  /-- The file cannot be opened. -/
  | file (fault : FileFault)
  /-- The file is no text, or its text is no document. -/
  | notYaml (path : Text)
  /-- The document holds something that has no value. -/
  | noValue (problem : Yaml.Problem)
  /-- The document spells no snapshot. -/
  | rejected (reason : Rejection)

namespace LoadFailure

/-- The message of a failure. -/
def message : LoadFailure → Text
  | file fault => fault.message
  | notYaml path => Text.ofString "Save file " ++ path ++ Text.ofString " is not valid YAML:"
  | noValue problem => problem.message
  | rejected reason => reason.message

/-- The name under which a failure is reported. -/
def label : LoadFailure → String
  | file fault => fault.label
  | notYaml _ => "RestoreError"
  | noValue problem => problem.label
  | rejected reason => reason.label

end LoadFailure

/-- The document that a save file holds. -/
def readFile (files : Files) (path : Text) (format : Yaml.Format) :
    Except LoadFailure Value :=
  match files.bytes path with
  | .error fault => .error (.file fault)
  | .ok bytes =>
      match format.read bytes with
      | .ok document => .ok document
      | .error .malformed | .error (.undecodable _) => .error (.notYaml path)
      | .error problem => .error (.noValue problem)

/-- The snapshot that a save file spells. -/
def load (room : Value.Room) (files : Files) (path : Text) (format : Yaml.Format) :
    Except LoadFailure Snapshot :=
  match readFile files path format with
  | .error failure => .error failure
  | .ok document => (ofDocument room document).mapError .rejected

/-- The text of a save file. -/
def fileText (room : Value.Room) (s : Snapshot) (format : Yaml.Format) :
    Except Unsavable String :=
  (toDocument room s).map format.write

end ChipEight.SaveState
