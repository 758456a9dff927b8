import ChipEight.Config.Reading
import ChipEight.Files
import ChipEight.Yaml.Format

/-!
# Configuration files

A configuration file is a YAML document.
-/

namespace ChipEight.Config

/-- Why a configuration file gives no configuration. -/
inductive LoadFailure where
  | file (fault : FileFault)
  | document (problem : Yaml.Problem)
  | content (complaint : Complaint)

namespace LoadFailure

variable (room : Value.Room)

/-- The message of a failure. -/
def message : LoadFailure → Text
  | file fault => fault.message
  | document problem => problem.message
  | content complaint => complaint.message room

/-- The name under which a failure is reported. -/
def label : LoadFailure → String
  | file fault => fault.label
  | document problem => problem.label
  | content complaint => complaint.label room

end LoadFailure

/-- The value that a configuration file holds. -/
def readFile (files : Files) (path : Text) (format : Yaml.Format) :
    Except LoadFailure Value :=
  match files.bytes path with
  | .error fault => .error (.file fault)
  | .ok bytes =>
      match format.read bytes with
      | .ok value => .ok value
      | .error problem => .error (.document problem)

/-- The configuration that a file gives, after the warnings about it. -/
def load (files : Files) (path : Text) (format : Yaml.Format) :
    List Warning × Except LoadFailure Config :=
  match readFile files path format with
  | .error failure => ([], .error failure)
  | .ok value => (warnings value, (ofValue value).mapError .content)

end ChipEight.Config
