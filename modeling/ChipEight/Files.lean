import ChipEight.Text.Utf8
import ChipEight.Text.Quoted

/-!
# Files

What a program of the machine, a configuration or a save state is read from: bytes under
a name.  All files lie in one folder, and a path leads to them step by step.  Nothing is
known of the folders around it but that they are there.
-/

namespace ChipEight

/-- The files of a folder, by name. -/
abbrev Files := Text → Option (List UInt8)

/-- Why a file cannot be opened. -/
inductive FileCause where
  /-- There is no file of that name. -/
  | missing
  /-- The path leads to a folder. -/
  | folder
  /-- A part of the path that ought to be a folder is none. -/
  | notFolder
  /-- The path or a name in it is too long. -/
  | tooLong
  /-- The path holds a character that no name can hold. -/
  | badName
  /-- From one place to another the path holds halves of surrogate pairs, and the first of
  them, with the given number, stands for no byte. -/
  | noBytes (first last code : Nat)
  /-- The file may not be used. -/
  | forbidden
  deriving DecidableEq, Repr

/-- A file that cannot be opened. -/
structure FileFault where
  cause : FileCause
  path : Text
  deriving DecidableEq, Repr

namespace FileCause

/-- The name under which a cause is reported. -/
def label : FileCause → String
  | missing => "FileNotFoundError"
  | folder => "IsADirectoryError"
  | notFolder => "NotADirectoryError"
  | tooLong => "OSError"
  | badName => "ValueError"
  | noBytes _ _ _ => "UnicodeEncodeError"
  | forbidden => "PermissionError"

end FileCause

namespace FileFault

/-- The message of a fault. -/
def message (fault : FileFault) : String :=
  match fault.cause with
  | .missing => "[Errno 2] No such file or directory: " ++ Text.quoted fault.path
  | .folder => "[Errno 21] Is a directory: " ++ Text.quoted fault.path
  | .notFolder => "[Errno 20] Not a directory: " ++ Text.quoted fault.path
  | .tooLong => "[Errno 36] File name too long: " ++ Text.quoted fault.path
  | .badName => "embedded null byte"
  | .noBytes first last code =>
      let place :=
        if first = last then
          "character '\\u" ++ String.ofList (Hex.digits Hex.lowerDigit code) ++ "' in position " ++
            toString first
        else "characters in position " ++ toString first ++ "-" ++ toString last
      "'utf-8' codec can't encode " ++ place ++ ": surrogates not allowed"
  | .forbidden => "[Errno 13] Permission denied: " ++ Text.quoted fault.path

/-- The name under which a fault is reported. -/
def label (fault : FileFault) : String := fault.cause.label

end FileFault

/-! ## Paths -/

/-- What the first steps of a path lead to. -/
inductive Waypoint where
  /-- The folder of the files. -/
  | here
  /-- Another folder. -/
  | elsewhere
  | file (name : Text) (data : List UInt8)
  | nothing (name : Text)
  deriving Repr

namespace Path

/-- The number of bytes of a letter.  Half a surrogate pair can stand for a single byte. -/
def letterSize : Letter → Nat
  | .char c => c.utf8Size
  | .half _ => 1

/-- The number of bytes of a path. -/
def size (path : Text) : Nat := path.letters.foldl (fun size letter => size + letterSize letter) 0

/-- Whether a letter stands for no byte. -/
def isUnwritable (letter : Letter) : Bool :=
  letter.isHalf && !(0xDC80 ≤ letter.code && letter.code ≤ 0xDCFF)

/-- Where a path holds letters that stand for no byte. -/
def unwritable? (path : Text) : Option FileCause :=
  (path.letters.findIdx? isUnwritable).bind fun first =>
    match (path.letters.drop first).takeWhile (·.isHalf) with
    | [] => none
    | letter :: more => some (.noBytes first (first + more.length) letter.code)

/-- A name has at most so many bytes. -/
def maxName : Nat := 255

/-- A path has fewer bytes than this. -/
def maxLength : Nat := 4096

/-- The steps of a path. -/
def steps (path : Text) : List Text := (path.letters.splitOn (.char '/')).map Text.mk

/-- Where a path starts. -/
def start (path : Text) : Waypoint :=
  if path.letters.head? = some (.char '/') then .elsewhere else .here

/-- Takes one step of a path. -/
def step (files : Files) (place : Waypoint) (name : Text) : Except FileCause Waypoint :=
  match place with
  | .file _ _ => .error .notFolder
  | .nothing _ => .error .missing
  | .here | .elsewhere =>
      if name = "" ∨ name = "." then .ok place
      else if name = ".." then .ok .elsewhere
      else if maxName < size name then .error .tooLong
      else
        match place with
        | .here =>
            match files name with
            | some data => .ok (.file name data)
            | none => .ok (.nothing name)
        | _ => .ok (.nothing name)

/-- Follows the steps of a path. -/
def follow (files : Files) (place : Waypoint) (names : List Text) :
    Except FileCause Waypoint :=
  names.foldlM (step files) place

/-- What is wrong with a path before any of its steps is taken. -/
def check (path : Text) : Except FileCause Unit :=
  match unwritable? path with
  | some cause => .error cause
  | none =>
      if path.letters.contains (.char '\x00') then .error .badName
      else if path = "" then .error .missing
      else if maxLength ≤ size path then .error .tooLong
      else .ok ()

/-- What is read under a path. -/
def source (files : Files) (path : Text) : Except FileCause (List UInt8) := do
  check path
  match ← follow files (start path) (steps path) with
  | .file _ data => return data
  | .nothing _ => throw .missing
  | .here | .elsewhere => throw .folder

/-- The name of the file that is written under a path.  It need not exist, but what the
path leads through has to.  A slash at the end stands for a folder. -/
def target (files : Files) (path : Text) : Except FileCause Text := do
  check path
  let names := (steps path).reverse
  let named := names.dropWhile (·.isEmpty)
  let parent ← follow files (start path) named.tail.reverse
  match named.head?, ← step files parent "" with
  | some name, parent =>
      if names.head? = some ("" : Text) then throw .folder
      else
        match parent, ← step files parent name with
        | .here, .file name _ | .here, .nothing name => return name
        | _, .nothing _ => return path
        | _, _ => throw .folder
  | none, _ => throw .folder

end Path

namespace Files

/-- The bytes of a file. -/
def bytes (files : Files) (path : Text) : Except FileFault (List UInt8) :=
  match files path with
  | some data => .ok data
  | none => (Path.source files path).mapError fun cause => ⟨cause, path⟩

/-- The name under which a file is written. -/
def target (files : Files) (path : Text) : Except FileFault Text :=
  match files path with
  | some _ => .ok path
  | none => (Path.target files path).mapError fun cause => ⟨cause, path⟩

end Files

end ChipEight
