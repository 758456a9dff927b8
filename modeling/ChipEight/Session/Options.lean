import ChipEight.Session.Help
import ChipEight.Text.Integer

/-!
# Command lines

A command line names a program file and may hold switches.  A long switch may be
shortened as long as only one switch begins that way, and its value may follow it or be
joined to it by an equals sign.  Two hyphens alone end the switches.
-/

namespace ChipEight

/-- What a session is to do. -/
structure Options where
  rom : Text
  config : Option Text := none
  cycles : Int := 700
  loadState : Option Text := none
  saveState : Option Text := none
  dumpScreen : Bool := false
  disassemble : Bool := false
  verbose : Bool := false
  deriving DecidableEq, Repr, Inhabited

/-- Why a command line gives no options. -/
inductive Usage where
  /-- Help was asked for. -/
  | help
  /-- The command line is wrong. -/
  | wrong
  deriving DecidableEq, Repr

/-- The exit status without options. -/
def Usage.status : Usage → Nat
  | help => 0
  | wrong => 2

/-- The lines that are printed instead of a session. -/
def Usage.output : Usage → List String
  | help => Help.lines
  | wrong => []

/-- The switches. -/
inductive Switch where
  | help
  | config
  | cycles
  | loadState
  | saveState
  | dumpScreen
  | disassemble
  | verbose
  deriving DecidableEq, Repr

namespace Switch

/-- The long switches as they are written. -/
def spellings : List (String × Switch) :=
  [("--help", help), ("--config", config), ("--cycles", cycles), ("--load-state", loadState),
    ("--save-state", saveState), ("--dump-screen", dumpScreen), ("--disassemble", disassemble),
    ("--verbose", verbose)]

/-- The switch that is written exactly so. -/
def named? (text : String) : Option Switch :=
  if text == "-h" then some help else spellings.lookup text

/-- The long switches that begin with a text. -/
def startingWith (text : String) : List Switch :=
  (spellings.filter fun entry => entry.1.startsWith text).map (·.2)

end Switch

/-- A word of a command line. -/
inductive Word where
  | argument (text : Text)
  /-- A switch, perhaps with a value joined to it. -/
  | switch (s : Switch) (joined : Option Text)
  /-- A word that looks like a switch but is none. -/
  | unknown
  /-- The end of the switches. -/
  | separator
  deriving DecidableEq, Repr

namespace Word

/-- Splits a text at its first equals sign. -/
def splitEquals (text : Text) : Text × Option Text :=
  let (name, rest) := text.letters.span (· != .char '=')
  match rest with
  | _ :: joined => (⟨name⟩, some ⟨joined⟩)
  | [] => (text, none)

/-- Decimal digits of any script. -/
def isDigit (c : Char) : Bool := (Text.decimalDigit? c).isSome

/-- Whether the text after a hyphen is a number, with or without a point.  A line feed
may end it. -/
def isNumber (text : List Char) : Bool :=
  let text := if text.getLast? == some '\n' then text.dropLast else text
  match text.span isDigit with
  | (whole, []) => !whole.isEmpty
  | (_, '.' :: fraction) => !fraction.isEmpty && fraction.all isDigit
  | _ => false

/-- A word that begins with two hyphens and names no switch in full. -/
def ofLong (text : Text) : Except Usage (Option Word) :=
  let (name, joined) := splitEquals text
  match name.toString?.bind Switch.named?, (name.toString?.map Switch.startingWith).getD [] with
  | some s, _ => .ok (some (.switch s joined))
  | none, [s] => .ok (some (.switch s joined))
  | none, [] => .ok none
  | none, _ => .error .wrong

/-- The letters that are joined to a short switch.  One equals sign may come before them. -/
def joinedLetters : List Letter → Option (List Letter)
  | [] => none
  | .char '=' :: letters => some letters
  | letters => some letters

/-- A word that begins with a single hyphen.  The short switch for help may be repeated in
one word, and takes no other letter. -/
def ofShort (text : Text) : Option Word :=
  match text.letters with
  | .char '-' :: .char 'h' :: rest =>
      match joinedLetters rest with
      | none => some (.switch .help none)
      | some letters =>
          if !letters.isEmpty && letters.all (· == .char 'h') then some (.switch .help none)
          else some (.switch .help (some ⟨letters⟩))
  | _ => none

/-- A word before the end of the switches. -/
def ofText (text : Text) : Except Usage Word :=
  match text.letters with
  | .char '-' :: second :: _ => do
      let known ← if second = .char '-' then ofLong text else pure (ofShort text)
      match known with
      | some word => return word
      | none =>
          if isNumber text.chars.tail || text.chars.contains ' ' then return .argument text
          else return .unknown
  | _ => .ok (.argument text)

/-- The words of a command line. -/
def ofTexts : List Text → Except Usage (List Word)
  | [] => .ok []
  | text :: texts =>
      if text == "--" then .ok (separator :: texts.map argument)
      else do
        let word ← ofText text
        return word :: (← ofTexts texts)

end Word

namespace Options

/-- The options so far. -/
structure Draft where
  rom : Option Text := none
  options : Options := { rom := "" }
  /-- Whether the program file was the last word, so that the end of the switches may
  follow. -/
  closing : Bool := false
  /-- Whether there was a word that means nothing. -/
  surplus : Bool := false

/-- Sets the value of a switch that takes one. -/
def setValue (o : Options) (value : Text) : Switch → Except Usage Options
  | .config => .ok { o with config := some value }
  | .cycles =>
      match Integer.read 10 value with
      | some cycles => .ok { o with cycles := cycles }
      | none => .error .wrong
  | .loadState => .ok { o with loadState := some value }
  | .saveState => .ok { o with saveState := some value }
  | _ => .error .wrong

/-- Sets a switch that takes no value. -/
def setFlag? (o : Options) : Switch → Option Options
  | .dumpScreen => some { o with dumpScreen := true }
  | .disassemble => some { o with disassemble := true }
  | .verbose => some { o with verbose := true }
  | _ => none

/-- Takes words in order.  The first argument that is no value is the program file. -/
def take (d : Draft) : List Word → Except Usage Draft
  | [] => .ok d
  | .argument text :: words =>
      match d.rom with
      | none => take { d with rom := some text, closing := true } words
      | some _ => take { d with closing := false, surplus := true } words
  | .separator :: words =>
      take { d with closing := false, surplus := d.surplus || (d.rom.isSome && !d.closing) } words
  | .unknown :: words => take { d with closing := false, surplus := true } words
  | .switch s joined :: words =>
      match s, d.options.setFlag? s, joined with
      | .help, _, none => .error .help
      | .help, _, some _ => .error .wrong
      | _, some options, none => take { d with options := options, closing := false } words
      | _, some _, some _ => .error .wrong
      | s, none, some value =>
          match d.options.setValue value s with
          | .ok options => take { d with options := options, closing := false } words
          | .error usage => .error usage
      | s, none, none =>
          match words with
          | .argument value :: words =>
              match d.options.setValue value s with
              | .ok options => take { d with options := options, closing := false } words
              | .error usage => .error usage
          | _ => .error .wrong

/-- The options that a command line gives. -/
def ofTexts (texts : List Text) : Except Usage Options := do
  let d ← take {} (← Word.ofTexts texts)
  match d.rom with
  | some rom => if d.surplus then throw .wrong else return { d.options with rom := rom }
  | none => throw .wrong

end Options

end ChipEight
