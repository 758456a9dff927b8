import ChipEight.Config.Basic
import ChipEight.Text.Integer
import ChipEight.Value.Display

/-!
# Reading configurations

A configuration is read from a map with two sections, one for the speed of the machine
and one for its dialect.  Sections and entries that are absent keep their defaults.
Unknown keys are warned about and otherwise ignored; a wrong value is complained about.
-/

namespace ChipEight.Config

/-- An unknown key of the configuration or of one of its sections. -/
inductive Warning where
  | unknownSection (key : Value)
  | unknownKey (part : String) (key : Value)

/-- The message of a warning, if its key can be shown. -/
def Warning.message (room : Value.Room) : Warning → Except Unshown Text
  | unknownSection key => do
      return "Ignoring unknown configuration key '" ++ (← key.plain room) ++ "'"
  | unknownKey part key => do
      return "Ignoring unknown key '" ++ (← key.plain room) ++ "' in section '" ++ part ++ "'"

/-- What is wrong with a configuration. -/
inductive Complaint where
  /-- The configuration is no map. -/
  | root (kind : String)
  /-- A section is no map. -/
  | part (name : String)
  /-- A value is no integer and no text of one. -/
  | notInteger (value : Value)
  /-- A rate is zero or negative. -/
  | notPositive (name : String) (value : Int)
  /-- A choice of the dialect is no truth value. -/
  | notTruth (name : String) (value : Value)

namespace Complaint

variable (room : Value.Room)

/-- The message of a complaint, if what it is about can be shown. -/
def shown : Complaint → Except Unshown Text
  | root kind => .ok ("Configuration root must be a mapping, got " ++ kind)
  | part name => .ok ("Section '" ++ name ++ "' must be a mapping")
  | notInteger value => do return "Invalid integer format: " ++ (← value.plain room)
  | notPositive name value => do
      return Text.ofString (name ++ " must be positive: " ++ (← Value.displayInteger value))
  | notTruth name value => do
      return Text.ofString ("Quirk '" ++ name ++ "' must be true or false: " ++
        (← value.display room))

/-- The message of a complaint.  That something cannot be shown is a complaint of its own. -/
def message (complaint : Complaint) : Text :=
  match complaint.shown room with
  | .ok message => message
  | .error reason => reason.message

/-- The name under which a complaint is reported. -/
def label (complaint : Complaint) : String :=
  match complaint.shown room with
  | .ok _ => "ValueError"
  | .error reason => reason.label

end Complaint

/-! ## Entries -/

/-- Whether a text starts with the mark of base sixteen. -/
def isMarked (text : Text) : Bool :=
  match text.letters with
  | .char '0' :: .char c :: _ => c == 'x' || c == 'X'
  | _ => false

/-- An integer, or a text that spells one. -/
def readInteger (value : Value) : Except Complaint Int :=
  match value with
  | .int n => .ok n
  | .text s =>
      match Integer.read (if isMarked s then 16 else 10) s with
      | some n => .ok n
      | none => .error (.notInteger value)
  | _ => .error (.notInteger value)

/-- An integer entry, or the default when it is absent. -/
def integerEntry (name : String) (default : Int) (entries : List (Value × Value)) :
    Except Complaint Int :=
  match Value.find? name entries with
  | some value => readInteger value
  | none => .ok default

/-- An integer entry that may be absent or null. -/
def optionalEntry (name : String) (entries : List (Value × Value)) :
    Except Complaint (Option Int) :=
  match Value.find? name entries with
  | none | some .null => .ok none
  | some value => (readInteger value).map some

/-- A choice, or the default when it is absent. -/
def choiceEntry (name : String) (default : Bool) (entries : List (Value × Value)) :
    Except Complaint Bool :=
  match Value.find? name entries with
  | none => .ok default
  | some (.bool choice) => .ok choice
  | some value => .error (.notTruth name value)

/-- A rate has to be positive. -/
def checkPositive (name : String) (value : Int) : Except Complaint Unit :=
  if 0 < value then .ok () else .error (.notPositive name value)

/-! ## Sections -/

/-- The keys of the configuration. -/
def sectionNames : List String := ["cpu", "quirks"]

/-- The keys of the section on speed. -/
def speedNames : List String := ["cycles_per_second", "timer_hz", "seed"]

/-- The keys of the section on the dialect. -/
def choiceNames : List String := ({} : Dialect).choices.map (·.1)

/-- The keys that are none of the given names, in order. -/
def unknownKeys (names : List String) (entries : List (Value × Value)) : List Value :=
  (entries.map (·.1)).filter fun key => !names.any key.isText

/-- The entries of a section; an absent section has none. -/
def entriesOf (name : String) (entries : List (Value × Value)) :
    Except Complaint (List (Value × Value)) :=
  match (Value.find? name entries).map Value.content with
  | none | some .null => .ok []
  | some (.map entries) => .ok entries
  | some _ => .error (.part name)

/-- The configuration with the speed that a section gives. -/
def readSpeed (entries : List (Value × Value)) (c : Config) : Except Complaint Config := do
  let cycles ← integerEntry "cycles_per_second" c.cyclesPerSecond entries
  let ticks ← integerEntry "timer_hz" c.timerHz entries
  checkPositive "cycles_per_second" cycles
  checkPositive "timer_hz" ticks
  let seed ← optionalEntry "seed" entries
  return { c with cyclesPerSecond := cycles, timerHz := ticks, seed := seed }

/-- The dialect that a section gives. -/
def readDialect (entries : List (Value × Value)) (d : Dialect) : Except Complaint Dialect := do
  let shiftFromY ← choiceEntry "shift_uses_vy" d.shiftFromY entries
  let advanceIndex ← choiceEntry "load_store_increments_i" d.advanceIndex entries
  let offsetFromX ← choiceEntry "jump_offset_uses_vx" d.offsetFromX entries
  let clearFlag ← choiceEntry "logic_resets_vf" d.clearFlag entries
  let clipSprites ← choiceEntry "clip_sprites" d.clipSprites entries
  return { shiftFromY, advanceIndex, offsetFromX, clearFlag, clipSprites }

/-! ## The whole configuration -/

/-- The configuration that a value gives.  The section on speed is settled before the
section on the dialect is looked at. -/
def ofValue (value : Value) : Except Complaint Config :=
  match value.content with
  | .null => .ok {}
  | .map entries => do
      let config ← readSpeed (← entriesOf "cpu" entries) {}
      let dialect ← readDialect (← entriesOf "quirks" entries) config.dialect
      return { config with dialect := dialect }
  | value => .error (.root value.kindName)

/-- The warnings about one section, if it can be looked at. -/
def sectionWarnings (name : String) (names : List String) (entries : List (Value × Value)) :
    List Warning :=
  match entriesOf name entries with
  | .ok entries => (unknownKeys names entries).map (.unknownKey name)
  | .error _ => []

/-- Whether the section on speed gives a configuration. -/
def speedSettled (entries : List (Value × Value)) : Bool :=
  match (entriesOf "cpu" entries).bind fun entries => readSpeed entries {} with
  | .ok _ => true
  | .error _ => false

/-- The warnings about a configuration, in the order in which its parts are looked at.
After a complaint no further part is looked at. -/
def warnings (value : Value) : List Warning :=
  match value.content with
  | .map entries =>
      (unknownKeys sectionNames entries).map .unknownSection ++
        sectionWarnings "cpu" speedNames entries ++
        (if speedSettled entries then sectionWarnings "quirks" choiceNames entries else [])
  | _ => []

end ChipEight.Config
