import ChipEight.Yaml.Kind
import ChipEight.Yaml.Layout

/-!
# Nodes

A document consists of scalars, sequences and maps, each of some kind.  The kind is
what the tag says; without a tag, a plain scalar has the kind that its text shows.  A
node with an anchor can be used again under an alias, even inside itself.  So nodes refer
to each other by number, and a document is a graph of them.  This module builds the graph
from the tokens.
-/

namespace ChipEight.Yaml

/-- The number of a node. -/
abbrev NodeId := Nat

/-- What a node holds. -/
inductive Content where
  | scalar (text : Text)
  | sequence (items : List NodeId)
  | mapping (entries : List (NodeId × NodeId))
  deriving Repr, Inhabited

/-- A node of a document. -/
structure Node where
  kind : Kind
  content : Content
  deriving Repr, Inhabited

/-- The nodes of a document. -/
abbrev Graph := Array Node

/-- The state of building a graph: the tokens to come, the nodes so far, and those with
anchors. -/
structure Composition where
  layout : Layout
  nodes : Graph := #[]
  anchors : List (List Char × NodeId) := []

/-- A builder of nodes. -/
abbrev Composing := StateT Composition (Except Problem)

namespace Composing

/-- Reads tokens. -/
def read {α : Type} (reader : Reader α) : Composing α := fun c =>
  match reader c.layout with
  | .ok (a, layout) => .ok (a, { c with layout := layout })
  | .error problem => .error problem

/-- The next token. -/
def head? : Composing (Option Token) := read Reader.head?

/-- Passes the next token. -/
def pass : Composing Unit := read Reader.pass

/-- Passes the next token if it is the given one, and tells whether it was. -/
def accept (token : Token) : Composing Bool := read (Reader.accept token)

/-- Passes the given token, which has to come next. -/
def expect (token : Token) : Composing Unit := read (Reader.expect token)

/-- Whether one of the given tokens comes next. -/
def isNext (tokens : List Token) : Composing Bool := do
  return (← head?).any tokens.contains

/-- Adds a node. -/
def add (node : Node) : Composing NodeId := fun c =>
  .ok (c.nodes.size, { c with nodes := c.nodes.push node })

/-- Fills a node that was added empty. -/
def fill (id : NodeId) (content : Content) : Composing Unit :=
  modify fun c => { c with nodes := c.nodes.modify id fun node => { node with content := content } }

end Composing

/-- The abbreviations for the start of tags. -/
abbrev Handles := List (List Char × List Char)

/-- The abbreviations that every document has. -/
def Handles.standard : Handles :=
  [("!".toList, "!".toList), ("!!".toList, Kind.start.toList)]

/-- The tag that is written. -/
def WrittenTag.expand? (handles : Handles) (written : WrittenTag) : Option (List Char) :=
  match written.handle with
  | none => some written.suffix
  | some handle => (handles.lookup handle).map fun start => start ++ written.suffix

/-! ## Properties -/

/-- The anchor and the tag before a node. -/
structure Properties where
  anchor : Option (List Char) := none
  tag : Option (List Char) := none

/-- Reads a tag, if one comes next. -/
def readWritten : Composing (Option WrittenTag) := do
  match ← Composing.head? with
  | some (.tag written) =>
      Composing.pass
      return some written
  | _ => return none

/-- Reads an anchor, if one comes next. -/
def readAnchored : Composing (Option (List Char)) := do
  match ← Composing.head? with
  | some (.anchor name) =>
      Composing.pass
      return some name
  | _ => return none

/-- Reads an anchor and a tag, in either order. -/
def readMarks : Composing (Option (List Char) × Option WrittenTag) := do
  match ← readAnchored with
  | some anchor => return (some anchor, ← readWritten)
  | none =>
      match ← readWritten with
      | some written => return (← readAnchored, some written)
      | none => return (none, none)

/-- Reads the properties of a node.  An abbreviation in its tag has to be known. -/
def readProperties (handles : Handles) : Composing Properties := do
  let (anchor, written) ← readMarks
  match written with
  | none => return { anchor := anchor }
  | some written =>
      match written.expand? handles with
      | some tag => return { anchor := anchor, tag := some tag }
      | none => throw .malformed

namespace Properties

/-- The tag that leaves the kind open. -/
def openTag : List Char := ['!']

/-- The kind of a scalar. -/
def scalarKind (p : Properties) (isPlain : Bool) (text : Text) : Kind :=
  match p.tag with
  | none => if isPlain then .ofText text else .string
  | some tag => if tag == openTag then .ofText text else .ofTag tag

/-- The kind of a collection without a tag is the given one. -/
def kindOr (p : Properties) (kind : Kind) : Kind :=
  match p.tag with
  | none => kind
  | some tag => if tag == openTag then kind else .ofTag tag

end Properties

/-- Adds a node with its anchor.  An anchor may not be used twice. -/
def addNode (p : Properties) (kind : Kind) (content : Content) : Composing NodeId := do
  match p.anchor with
  | none => Composing.add ⟨kind, content⟩
  | some name =>
      if ((← get).anchors.lookup name).isSome then throw .malformed
      let id ← Composing.add ⟨kind, content⟩
      modify fun c => { c with anchors := (name, id) :: c.anchors }
      return id

/-- The node that an alias stands for. -/
def nodeAt (name : List Char) : Composing NodeId := do
  match (← get).anchors.lookup name with
  | some id => return id
  | none => throw .malformed

/-- A part of a document that is left empty. -/
def addEmpty : Composing NodeId := Composing.add ⟨.ofWord "", .scalar ""⟩

/-- A node without content has at least an anchor or a tag. -/
def addNothing (p : Properties) : Composing NodeId :=
  if p.anchor.isSome || p.tag.isSome then addNode p (p.scalarKind true "") (.scalar "")
  else throw .malformed

/-- Adds a sequence before its items are read. -/
def addSequence (p : Properties) (items : Composing (List NodeId)) : Composing NodeId := do
  let id ← addNode p (p.kindOr .sequence) (.sequence [])
  Composing.fill id (.sequence (← items))
  return id

/-- Adds a map before its entries are read. -/
def addMapping (p : Properties) (entries : Composing (List (NodeId × NodeId))) :
    Composing NodeId := do
  let id ← addNode p (p.kindOr .mapping) (.mapping [])
  Composing.fill id (.mapping (← entries))
  return id

/-! ## Collections -/

/-- Where a node stands: inside brackets, in a block, or after a key or its colon,
where the hyphens of a sequence need not be indented. -/
inductive Position where
  | flow
  | block
  | afterKey
  deriving DecidableEq

/-- How far a reader follows what stands inside each other.  That depends on what it runs on. -/
structure Limits where
  /-- How many collections may stand inside each other. -/
  depth : Nat
  /-- How many maps may be merged inside each other, and how many default values may stand for
  each other. -/
  chain : Nat

/-- What surrounds a node: the abbreviations of its document, and a number of collections, which
has a limit. -/
structure Context where
  handles : Handles
  limit : Nat
  depth : Nat := 0

/-- What surrounds the nodes of a collection. -/
def Context.inner (around : Context) : Context := { around with depth := around.depth + 1 }

mutual

/-- Reads a node. -/
def readNode (around : Context) (position : Position) : Nat → Composing NodeId
  | 0 => throw .tooDeep
  | fuel + 1 => do
      if around.limit < around.depth then throw .tooDeep
      match ← Composing.head? with
      | some (.alias name) =>
          Composing.pass
          nodeAt name
      | _ => readContent around position (← readProperties around.handles) fuel

/-- Reads what follows the properties of a node. -/
def readContent (around : Context) (position : Position) (p : Properties) :
    Nat → Composing NodeId
  | 0 => throw .tooDeep
  | fuel + 1 => do
      match ← Composing.head? with
      | some (.scalar isPlain text) =>
          Composing.pass
          addNode p (p.scalarKind isPlain text) (.scalar text)
      | some .flowSequenceStart =>
          addSequence p do
            Composing.pass
            readFlowItems around.inner true fuel
      | some .flowMappingStart =>
          addMapping p do
            Composing.pass
            readFlowEntries around.inner true fuel
      | some .blockEntry =>
          if position = .afterKey then addSequence p (readOpenItems around.inner fuel)
          else addNothing p
      | some .blockSequenceStart =>
          if position = .flow then addNothing p
          else addSequence p do
            Composing.pass
            readBlockItems around.inner fuel
      | some .blockMappingStart =>
          if position = .flow then addNothing p
          else addMapping p do
            Composing.pass
            readBlockEntries around.inner fuel
      | _ => addNothing p

/-- Reads a node, unless one of the given tokens shows that it is left empty. -/
def readUnless (around : Context) (position : Position) (ends : List Token) :
    Nat → Composing NodeId
  | 0 => throw .tooDeep
  | fuel + 1 => do
      if ← Composing.isNext ends then addEmpty else readNode around position fuel

/-- Reads the items of an indented sequence. -/
def readBlockItems (around : Context) : Nat → Composing (List NodeId)
  | 0 => throw .tooDeep
  | fuel + 1 => do
      if ← Composing.accept .blockEntry then
        let item ← readUnless around .block [.blockEntry, .blockEnd] fuel
        return item :: (← readBlockItems around fuel)
      else
        Composing.expect .blockEnd
        return []

/-- Reads the items of a sequence that is not indented. -/
def readOpenItems (around : Context) : Nat → Composing (List NodeId)
  | 0 => throw .tooDeep
  | fuel + 1 => do
      if ← Composing.accept .blockEntry then
        let item ← readUnless around .block [.blockEntry, .key, .value, .blockEnd] fuel
        return item :: (← readOpenItems around fuel)
      else return []

/-- Reads the value of an entry, which may be left out together with its indicator. -/
def readValue (around : Context) (position : Position) (ends : List Token) :
    Nat → Composing NodeId
  | 0 => throw .tooDeep
  | fuel + 1 => do
      if ← Composing.accept .value then readUnless around position ends fuel else addEmpty

/-- Reads the entries of an indented map. -/
def readBlockEntries (around : Context) : Nat → Composing (List (NodeId × NodeId))
  | 0 => throw .tooDeep
  | fuel + 1 => do
      let ends : List Token := [.key, .value, .blockEnd]
      if ← Composing.accept .key then
        let key ← readUnless around .afterKey ends fuel
        let value ← readValue around .afterKey ends fuel
        return (key, value) :: (← readBlockEntries around fuel)
      else
        Composing.expect .blockEnd
        return []

/-- Reads an entry of a map in brackets, after the indicator of its key. -/
def readFlowEntry (around : Context) (ends : List Token) :
    Nat → Composing (NodeId × NodeId)
  | 0 => throw .tooDeep
  | fuel + 1 => do
      let key ← readUnless around .flow (.value :: ends) fuel
      let value ← readValue around .flow ends fuel
      return (key, value)

/-- Reads the items of a sequence in brackets.  An item can be a map of one entry. -/
def readFlowItems (around : Context) (first : Bool) :
    Nat → Composing (List NodeId)
  | 0 => throw .tooDeep
  | fuel + 1 => do
      if ← Composing.accept .flowSequenceEnd then return []
      unless first do Composing.expect .flowEntry
      if ← Composing.isNext [.key] then
        let item ← addMapping {} do
          Composing.pass
          let ends : List Token := [.flowEntry, .flowSequenceEnd]
          return [← readFlowEntry around.inner ends fuel]
        return item :: (← readFlowItems around false fuel)
      else if ← Composing.accept .flowSequenceEnd then return []
      else
        let item ← readNode around .flow fuel
        return item :: (← readFlowItems around false fuel)

/-- Reads the entries of a map in brackets. -/
def readFlowEntries (around : Context) (first : Bool) :
    Nat → Composing (List (NodeId × NodeId))
  | 0 => throw .tooDeep
  | fuel + 1 => do
      if ← Composing.accept .flowMappingEnd then return []
      unless first do Composing.expect .flowEntry
      if ← Composing.accept .key then
        let entry ← readFlowEntry around [.flowEntry, .flowMappingEnd] fuel
        return entry :: (← readFlowEntries around false fuel)
      else if ← Composing.accept .flowMappingEnd then return []
      else
        let key ← readNode around .flow fuel
        let value ← addEmpty
        return (key, value) :: (← readFlowEntries around false fuel)

end

/-! ## Documents -/

/-- Reads the directives before a document.  The version may be given once, and each
abbreviation once. -/
def readHandles (versioned : Bool) (handles : Handles) : Nat → Composing Handles
  | 0 => throw .malformed
  | fuel + 1 => do
      match ← Composing.head? with
      | some (.directive (.version major)) =>
          Composing.pass
          if versioned || major != 1 then throw .malformed
          readHandles true handles fuel
      | some (.directive (.abbreviation handle start)) =>
          Composing.pass
          if (handles.lookup handle).isSome then throw .malformed
          readHandles versioned (handles ++ [(handle, start)]) fuel
      | some (.directive .other) =>
          Composing.pass
          readHandles versioned handles fuel
      | _ => return handles

/-- Reads the node of a document. -/
def readRoot (limits : Limits) (fuel : Nat) : Composing NodeId := do
  match ← Composing.head? with
  | some (.directive _) | some .documentStart =>
      let handles ← readHandles false [] fuel
      Composing.expect .documentStart
      match ← Composing.head? with
      | none | some (.directive _) | some .documentStart | some .documentEnd => addEmpty
      | some _ => readNode { handles := handles ++ .standard, limit := limits.depth } .block fuel
  | _ => readNode { handles := .standard, limit := limits.depth } .block fuel

/-- Passes the marks of the end of a document. -/
def passEnds : Nat → Composing Unit
  | 0 => pure ()
  | fuel + 1 => do
      if ← Composing.accept .documentEnd then passEnds fuel

/-- Reads a whole file, which may hold one document. -/
def readDocument (limits : Limits) (fuel : Nat) : Composing (Option NodeId) := do
  if (← Composing.head?).isNone then return none
  let root ← readRoot limits fuel
  passEnds fuel
  if (← Composing.head?).isSome then
    let _ ← readHandles false [] fuel
    throw .malformed
  return some root

/-- The nodes of the document that a file holds, and the number of its root; nothing for a
file without a document.  A file may not hold more than one document. -/
def graphOf (limits : Limits) (bytes : List UInt8) : Except Problem (Option (Graph × NodeId)) :=
  match (readDocument limits (16 * bytes.length + 64)).run { layout := .start bytes } with
  | .ok (root, c) => .ok (root.map fun root => (c.nodes, root))
  | .error problem => .error problem

end ChipEight.Yaml
