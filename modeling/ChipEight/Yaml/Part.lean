import ChipEight.Value.Equality
import ChipEight.Yaml.Merging
import ChipEight.Yaml.Scalar

/-!
# Parts of values

Every node of a document is a part of its value: a scalar is what it spells, and a
collection consists of parts of its own.  A node that is used several times is one part.
Scalars are read where they are met first.  Collections wait for their turn, so that those
nearer to the root are filled earlier; of several problems the first that is met counts.
-/

namespace ChipEight.Yaml

/-- A part of a value.  What is no number and not spelled by a word differs from every
such number that another node spells, so that its node belongs to it. -/
inductive Part where
  | leaf (value : Value) (source : Option NodeId)
  | collection (id : NodeId)
  deriving Inhabited

/-- The parts of a collection. -/
inductive Filling where
  | list (items : List Part)
  | pairs (items : List (Part × Part))
  | set (items : List Part)
  | map (entries : List (Part × Part))
  deriving Inhabited

namespace Part

/-- Whether two scalars are the same key. -/
def same : Part → Part → Bool
  | leaf value source, leaf other otherSource => source == otherSource && value.equal other
  | _, _ => false

/-- Enters a value under a key.  A key that is present keeps its place and its form, and
its value is replaced. -/
def enter (key value : Part) : List (Part × Part) → List (Part × Part)
  | [] => [(key, value)]
  | (known, old) :: entries =>
      if known.same key then (known, value) :: entries
      else (known, old) :: enter key value entries

end Part

/-! ## Scalars -/

/-- The text of a scalar, or of the first default value of a map. -/
def textAt (graph : Graph) : Nat → NodeId → Except Problem Text
  | 0, _ => .error .tooDeep
  | fuel + 1, id =>
      match graph.contentAt id with
      | .scalar text => .ok text
      | .sequence _ => .error .malformed
      | .mapping entries =>
          match entries.find? fun entry => graph.kindAt entry.1 == .default with
          | some (_, value) => textAt graph fuel value
          | none => .error .malformed

/-- The value of a scalar.  A map can stand for its default value, but not as a moment. -/
def scalarAt (limits : Limits) (graph : Graph) (id : NodeId) : Except Problem Part :=
  match textAt graph limits.chain id with
  | .error problem => .error problem
  | .ok text =>
      match graph.kindAt id, graph.contentAt id with
      | .moment, .mapping _ => .error .mapAsMoment
      | kind, _ =>
          (readScalar kind text).map fun value =>
            match value with
            | .float x => .leaf value (if x.isNaN && !isNanWord text then some id else none)
            | _ => .leaf value none

/-! ## Collections -/

/-- The state of putting a value together: the nodes, the parts so far, and the
collections that wait to be filled, the latest first. -/
structure Assembly where
  graph : Graph
  parts : Array (Option Part)
  fillings : Array (Option Filling)
  waiting : List NodeId := []

/-- A reader of parts. -/
abbrev Assembling := StateT Assembly (Except Problem)

namespace Assembling

variable (limits : Limits)

/-- The part that a node is.  A kind that no value has is a problem of the node. -/
def part (id : NodeId) : Assembling Part := do
  let state ← get
  match (state.parts[id]?).join with
  | some known => return known
  | none =>
      let kind := state.graph.kindAt id
      if kind.isCollection then
        modify fun state => { state with
          parts := state.parts.set! id (some (.collection id)), waiting := id :: state.waiting }
        return .collection id
      else if kind = .merge ∨ kind = .default ∨ kind = .unknown then throw .malformed
      else
        match scalarAt limits state.graph id with
        | .error problem => throw problem
        | .ok found =>
            modify fun state => { state with parts := state.parts.set! id (some found) }
            return found

/-- The key of an entry.  Sequences and maps cannot be keys. -/
def key (id : NodeId) : Assembling Part := do
  match ← part limits id with
  | .leaf value source => return .leaf value source
  | .collection _ => throw .malformed

/-- The entries of a map, what it takes over among them. -/
def entries (id : NodeId) : Assembling (List (Part × Part)) := do
  let state ← get
  match state.graph.contentAt id with
  | .mapping _ =>
      match (mergeInto limits id).run state.graph with
      | .error problem => throw problem
      | .ok (_, graph) =>
          set { state with graph := graph }
          (graph.entriesAt id).foldlM (fun known entry => do
            let found ← key limits entry.1
            return Part.enter found (← part limits entry.2) known) []
  | _ => throw .malformed

/-- A map of one entry as a pair. -/
def pair (id : NodeId) : Assembling (Part × Part) := do
  match (← get).graph.contentAt id with
  | .mapping [(first, second)] => return (← part limits first, ← part limits second)
  | _ => throw .malformed

/-- The parts of a collection, which has to have the form of its kind. -/
def filling (id : NodeId) : Assembling Filling := do
  let graph := (← get).graph
  match graph.kindAt id, graph.contentAt id with
  | .sequence, .sequence items => return .list (← items.mapM (part limits))
  | .pairs, .sequence items => return .pairs (← items.mapM (pair limits))
  | .mapping, _ => return .map (← entries limits id)
  | .set, _ => return .set ((← entries limits id).map (·.1))
  | _, _ => throw .malformed

/-- Fills a collection. -/
def fill (id : NodeId) : Assembling Unit := do
  let found ← filling limits id
  modify fun state => { state with fillings := state.fillings.set! id (some found) }

/-- Fills the collections that wait, and those that start to wait meanwhile. -/
def fillAll : Nat → Assembling Unit
  | 0 => pure ()
  | fuel + 1 => do
      let waiting := (← get).waiting
      unless waiting.isEmpty do
        modify fun state => { state with waiting := [] }
        waiting.reverse.forM (fill limits)
        fillAll fuel

end Assembling

/-- The part that the root of a document is, and the parts of all collections. -/
def partsOf (limits : Limits) (graph : Graph) (root : NodeId) :
    Except Problem (Part × Array (Option Filling)) :=
  let assembling : Assembling Part := do
    let found ← Assembling.part limits root
    Assembling.fillAll limits (graph.size + 1)
    return found
  let start : Assembly :=
    { graph := graph, parts := .replicate graph.size none, fillings := .replicate graph.size none }
  (assembling.run start).map fun (found, state) => (found, state.fillings)

end ChipEight.Yaml
