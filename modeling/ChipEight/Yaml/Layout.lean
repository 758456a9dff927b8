import ChipEight.Yaml.Token

/-!
# Layout

Outside brackets the collections of a document show only in its layout.  A layout is
what has to be known while tokens are read: the columns of the open collections, the
depth of brackets, and the places where a key may have begun.  That a scalar was a key
shows at the colon behind it, and the token that says so is put in at the place where
the key began.  A key has to end on its own line within 1024 characters.

Tokens are read when they are asked for, and further ahead only while the next one may
still turn out to be a key.  So a document is never read further than its beginning
makes sense.
-/

namespace ChipEight.Yaml

/-- A place where a key may have begun. -/
structure PossibleKey where
  /-- The number of tokens before it. -/
  place : Nat
  /-- Whether nothing but a key can stand there. -/
  required : Bool
  index : Nat
  line : Nat
  column : Nat

/-- The state of the reading of tokens. -/
structure Layout where
  cursor : Cursor
  /-- The tokens that were read and not taken yet. -/
  tokens : List Token := []
  /-- The number of tokens that were taken. -/
  taken : Nat := 0
  /-- Whether the end of the text was reached. -/
  finished : Bool := false
  /-- The column of the innermost open block collection; before the first it is -1. -/
  indent : Int := -1
  /-- The columns of the collections around it. -/
  outer : List Int := []
  /-- The depth of brackets. -/
  depth : Nat := 0
  /-- Whether a key may begin at the cursor. -/
  keyAllowed : Bool := true
  /-- The possible keys, at most one for each depth. -/
  keys : List (Nat × PossibleKey) := []

namespace Layout

/-- The layout at the start of a file. -/
def start (bytes : List UInt8) : Layout := { cursor := .start bytes }

/-- Whether the cursor stands inside brackets. -/
def inFlow (l : Layout) : Bool := l.depth != 0

/-- The number of tokens that were read. -/
def count (l : Layout) : Nat := l.taken + l.tokens.length

/-- Adds a token. -/
def push (l : Layout) (token : Token) : Layout :=
  { l with tokens := l.tokens ++ [token] }

/-- Puts in a token so that the given number of tokens comes before it. -/
def insertAt (l : Layout) (place : Nat) (token : Token) : Layout :=
  let before := place - l.taken
  { l with tokens := l.tokens.take before ++ token :: l.tokens.drop before }

/-- Allows or forbids a key at the cursor. -/
def allowKey (l : Layout) (allowed : Bool) : Layout := { l with keyAllowed := allowed }

/-! ## Indentation -/

/-- Opens a block collection at a column if it is indented more than those around it. -/
def openBlock? (l : Layout) (column : Int) : Option Layout :=
  if l.indent < column then some { l with indent := column, outer := l.indent :: l.outer }
  else none

/-- Closes the block collections that are indented more than a column. -/
def closeTo (column : Int) : List Int → Layout → Layout
  | [], l => l
  | around :: outer, l =>
      if l.indent ≤ column then l
      else closeTo column outer { l.push .blockEnd with indent := around, outer := outer }

/-- Closes the block collections that are indented more than a column; inside brackets
indentation means nothing. -/
def unwind (l : Layout) (column : Int) : Layout :=
  if l.inFlow then l else closeTo column l.outer l

/-! ## Keys -/

/-- The possible key at the present depth. -/
def key? (l : Layout) : Option PossibleKey :=
  (l.keys.find? fun entry => entry.1 == l.depth).map (·.2)

/-- Forgets the possible key at the present depth. -/
def forgetKey (l : Layout) : Layout :=
  { l with keys := l.keys.filter fun entry => entry.1 != l.depth }

/-- Gives up the possible key at the present depth; a required one has to be a key. -/
def dropKey (l : Layout) : Except Problem Layout :=
  if l.key?.any (·.required) then .error .malformed else .ok l.forgetKey

/-- Marks the cursor as a place where a key may begin, if that is allowed. -/
def markKey (l : Layout) : Except Problem Layout :=
  if l.keyAllowed then do
    let l ← l.dropKey
    let c := l.cursor
    let key : PossibleKey :=
      { place := l.count, required := !l.inFlow && l.indent == c.column
        index := c.index, line := c.line, column := c.column }
    return { l with keys := (l.depth, key) :: l.keys }
  else .ok l

/-- Whether a key that began there could no longer end at the cursor. -/
def isStale (c : Cursor) (key : PossibleKey) : Bool :=
  key.line != c.line || 1024 < c.index - key.index

/-- Gives up the keys that could no longer end at the cursor. -/
def dropStale (l : Layout) : Except Problem Layout :=
  if l.keys.any fun entry => isStale l.cursor entry.2 && entry.2.required then .error .malformed
  else .ok { l with keys := l.keys.filter fun entry => !isStale l.cursor entry.2 }

/-- Whether the next token may still turn out to be a key. -/
def awaitsKey (l : Layout) : Bool :=
  (l.keys.map fun entry => entry.2.place).min? == some l.taken

end Layout

/-- A reader of tokens. -/
abbrev Reader := StateT Layout (Except Problem)

namespace Reader

/-- Reads characters at the cursor. -/
def scan {α : Type} (read : Scan α) : Reader α := fun l =>
  match read l.cursor with
  | .ok (a, c) => .ok (a, { l with cursor := c })
  | .error problem => .error problem

/-- Changes the layout. -/
def change (step : Layout → Except Problem Layout) : Reader Unit := fun l =>
  (step l).map fun l => ((), l)

/-! ## White space -/

/-- Passes spaces, comments and line ends.  A new line may begin with a key. -/
def skipBlank : Nat → Reader Unit
  | 0 => pure ()
  | fuel + 1 => do
      scan Scan.skipSpaces
      scan Scan.skipComment
      if (← scan Scan.break?).isSome then
        modify fun l => l.allowKey (l.keyAllowed || !l.inFlow)
        skipBlank fuel

/-- Passes everything up to the next token, and a byte order mark at the start. -/
def skipToToken : Reader Unit := do
  if (← get).cursor.index == 0 then
    if ← scan (Scan.isAt '\uFEFF') then scan (Scan.pass 1)
  skipBlank (← scan Scan.fuel)

/-! ## Tokens -/

/-- Adds a token for some characters. -/
def take (count : Nat) (token : Token) : Reader Unit := do
  scan (Scan.pass count)
  modify (·.push token)

/-- Leaves all block collections, before a directive or a mark between documents. -/
def leaveAll : Reader Unit := do
  change fun l => (l.unwind (-1)).dropKey
  modify (·.allowKey false)

/-- A bracket opens. -/
def openFlow (token : Token) : Reader Unit := do
  change Layout.markKey
  modify fun l => { l with depth := l.depth + 1, keyAllowed := true }
  take 1 token

/-- A bracket closes. -/
def closeFlow (token : Token) : Reader Unit := do
  if (← get).depth == 0 then throw .malformed
  change Layout.dropKey
  modify fun l => { l with depth := l.depth - 1, keyAllowed := false }
  take 1 token

/-- A comma. -/
def takeComma : Reader Unit := do
  change fun l => (l.allowKey true).dropKey
  take 1 .flowEntry

/-- Opens a collection at the cursor before an indicator.  Outside brackets a key has to
be allowed there. -/
def openBefore (token : Token) : Reader Unit := do
  let l ← get
  unless l.inFlow do
    unless l.keyAllowed do throw .malformed
    if let some l := l.openBlock? l.cursor.column then set (l.push token)

/-- A hyphen that starts an item. -/
def takeItem : Reader Unit := do
  openBefore .blockSequenceStart
  change fun l => (l.allowKey true).dropKey
  take 1 .blockEntry

/-- A question mark that starts a key. -/
def takeKey : Reader Unit := do
  openBefore .blockMappingStart
  change fun l => (l.allowKey !l.inFlow).dropKey
  take 1 .key

/-- Says that what began at a place was a key.  The first key of a map also starts the
map. -/
def confirmKey (key : PossibleKey) : Reader Unit := do
  modify fun l => l.forgetKey.insertAt key.place .key
  let l ← get
  unless l.inFlow do
    if let some l := l.openBlock? key.column then set (l.insertAt key.place .blockMappingStart)
  modify (·.allowKey false)

/-- A colon that starts a value. -/
def takeValue : Reader Unit := do
  match (← get).key? with
  | some key => confirmKey key
  | none =>
      openBefore .blockMappingStart
      change fun l => (l.allowKey !l.inFlow).dropKey
  take 1 .value

/-- Something that may itself be a key: a scalar, an alias, an anchor or a tag. -/
def takeNode (read : Scan Token) : Reader Unit := do
  change Layout.markKey
  modify (·.allowKey false)
  let token ← scan read
  modify (·.push token)

/-- A plain scalar. -/
def takePlain : Reader Unit := do
  change Layout.markKey
  let l ← get
  let (text, broken) ← scan (readPlain l.inFlow (l.indent + 1))
  modify fun l => (l.allowKey broken).push (.scalar true (Text.ofChars text))

/-- A block scalar. -/
def takeBlock (foldLines : Bool) : Reader Unit := do
  change fun l => (l.allowKey true).dropKey
  let text ← scan (readBlock foldLines (max 1 ((← get).indent + 1).toNat))
  modify (·.push (.scalar false (Text.ofChars text)))

/-- Whether a character alone can be the start of a plain scalar. -/
def opensPlain (char : Char) : Bool :=
  !(endsWord (some char) || "-?:,[]\x7b\x7d#&*!|>'\"%@\x60".toList.contains char)

/-- Whether a plain scalar may begin with a character at the cursor. -/
def startsPlain (char : Char) : Reader Bool := do
  if opensPlain char then return true
  else if endsWord (← scan (Scan.peekAt 1)) then return false
  else return char == '-' || (!(← get).inFlow && (char == '?' || char == ':'))

/-- Whether an indicator at the cursor stands before white space. -/
def isAlone : Reader Bool := return endsWord (← scan (Scan.peekAt 1))

/-- Whether an indicator at the cursor counts: inside brackets always, outside them before
white space. -/
def counts : Reader Bool := do
  if (← get).inFlow then return true else isAlone

/-- Whether a mark between documents begins at the cursor. -/
def isMark (mark : List Char) : Reader Bool := do
  if (← get).cursor.column == 0 then scan (Scan.isMark [mark]) else return false

/-- Reads a token that begins with no indicator, or with one that does not count. -/
def takeOther (char : Char) : Reader Unit := do
  if ← startsPlain char then takePlain else throw .malformed

/-- Reads the token that begins with a percent sign. -/
def takePercent : Reader Unit := do
  if (← get).cursor.column == 0 then
    leaveAll
    let directive ← scan readDirective
    modify (·.push (.directive directive))
  else takeOther '%'

/-- Reads the token that begins with a hyphen. -/
def takeHyphen : Reader Unit := do
  if ← isMark ['-', '-', '-'] then
    leaveAll
    take 3 .documentStart
  else if ← isAlone then takeItem
  else takePlain

/-- Reads the token that begins with a full stop. -/
def takeStop : Reader Unit := do
  if ← isMark ['.', '.', '.'] then
    leaveAll
    take 3 .documentEnd
  else takePlain

/-- Reads the token at the cursor, which stands before a character. -/
def takeToken (char : Char) : Reader Unit := do
  match char with
  | '%' => takePercent
  | '-' => takeHyphen
  | '.' => takeStop
  | '[' => openFlow .flowSequenceStart
  | '\x7b' => openFlow .flowMappingStart
  | ']' => closeFlow .flowSequenceEnd
  | '\x7d' => closeFlow .flowMappingEnd
  | ',' => takeComma
  | '?' => if ← counts then takeKey else takeOther char
  | ':' => if ← counts then takeValue else takeOther char
  | '*' => takeNode (return .alias (← readAnchor))
  | '&' => takeNode (return .anchor (← readAnchor))
  | '!' => takeNode (return .tag (← readTag))
  | '|' => if (← get).inFlow then takeOther char else takeBlock false
  | '>' => if (← get).inFlow then takeOther char else takeBlock true
  | '\'' => takeNode (return .scalar false (← readQuoted false))
  | '"' => takeNode (return .scalar false (← readQuoted true))
  | char => takeOther char

/-- Reads the next token, or finds the end of the text. -/
def readToken : Reader Unit := do
  skipToToken
  change Layout.dropStale
  modify fun l => l.unwind l.cursor.column
  match ← scan Scan.peek with
  | some char => takeToken char
  | none =>
      change fun l => (l.unwind (-1)).dropKey
      modify fun l => { l with keyAllowed := false, keys := [], finished := true }

/-- Reads tokens until the next one is settled. -/
def settle : Nat → Reader Unit
  | 0 => pure ()
  | fuel + 1 => do
      unless (← get).finished do
        unless (← get).tokens.isEmpty do change Layout.dropStale
        let l ← get
        if l.tokens.isEmpty || l.awaitsKey then
          readToken
          settle fuel

/-- The next token; none at the end of the text. -/
def head? : Reader (Option Token) := do
  settle ((← get).cursor.left + 2)
  return (← get).tokens.head?

/-- Passes the next token. -/
def pass : Reader Unit :=
  modify fun l => { l with tokens := l.tokens.tail, taken := l.taken + 1 }

/-- Passes the next token if it is the given one, and tells whether it was. -/
def accept (token : Token) : Reader Bool := do
  if (← head?) == some token then
    pass
    return true
  else return false

/-- Passes the given token, which has to come next. -/
def expect (token : Token) : Reader Unit := do
  unless ← accept token do throw .malformed

end Reader

end ChipEight.Yaml
