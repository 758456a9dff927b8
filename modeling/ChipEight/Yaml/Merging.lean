import ChipEight.Yaml.Node
import ChipEight.Yaml.Problem

/-!
# Merging maps

Under a merge key a map names another map, or a sequence of maps, and takes over what they
hold.  What is taken over comes before the entries of the map itself, so that those count
where both have the same key; of a sequence the first map comes last.  A map is merged in
place: every other map that takes over from it finds it merged already.

Merging removes a merge key before it looks at what stands under it.  Hence maps may name
each other in a circle, and the number of merge keys bounds the work.
-/

namespace ChipEight.Yaml

/-- An entry of a map, as two nodes. -/
abbrev Entry := NodeId × NodeId

namespace Graph

/-- The kind of a node. -/
def kindAt (graph : Graph) (id : NodeId) : Kind :=
  match graph[id]? with
  | some node => node.kind
  | none => .unknown

/-- What a node holds. -/
def contentAt (graph : Graph) (id : NodeId) : Content :=
  match graph[id]? with
  | some node => node.content
  | none => .scalar ""

/-- The entries of a map. -/
def entriesAt (graph : Graph) (id : NodeId) : List Entry :=
  match graph.contentAt id with
  | .mapping entries => entries
  | _ => []

/-- Replaces the entries of a map. -/
def withEntries (graph : Graph) (id : NodeId) (entries : List Entry) : Graph :=
  graph.modify id fun node => { node with content := .mapping entries }

/-- The number of merge keys among some entries. -/
def mergeKeyCount (graph : Graph) (entries : List Entry) : Nat :=
  entries.countP fun entry => graph.kindAt entry.1 == .merge

/-- The number of merge keys in all maps. -/
def mergeKeys (graph : Graph) : Nat :=
  (List.range graph.size).foldl (fun count id => count + graph.mergeKeyCount (graph.entriesAt id)) 0

/-- The place of the first merge key among some entries, from a given place on. -/
def mergePlace? (graph : Graph) (entries : List Entry) (start : Nat) : Option Nat :=
  ((entries.drop start).findIdx? fun entry => graph.kindAt entry.1 == .merge).map (start + ·)

/-- Makes texts of the keys of default values: as a key of a map that is read, the key of
a default value is a key like any other. -/
def withPlainKeys (graph : Graph) (entries : List Entry) : Graph :=
  entries.foldl (fun graph entry =>
    if graph.kindAt entry.1 = .default then
      graph.modify entry.1 fun node => { node with kind := .string }
    else graph) graph

end Graph

/-- A change of the maps of a document. -/
abbrev Merging := StateT Graph (Except Problem)

variable (limits : Limits)

mutual

/-- Merges into a map what it names from a place on, after what was taken over before. -/
def mergeFrom (depth : Nat) (id : NodeId) (start : Nat) (taken : List Entry) :
    Nat → Merging Unit
  | 0 => throw .tooDeep
  | fuel + 1 => do
      let graph ← get
      let entries := graph.entriesAt id
      match graph.mergePlace? entries start with
      | none =>
          let merged := taken ++ entries
          set ((graph.withEntries id merged).withPlainKeys merged)
      | some place =>
          set (graph.withEntries id (entries.eraseIdx place))
          match entries[place]? with
          | some (_, source) =>
              let more ← takeOver depth source fuel
              mergeFrom depth id place (taken ++ more) fuel
          | none => throw .malformed

/-- The entries that a node offers to the map that names it. -/
def takeOver (depth : Nat) (source : NodeId) : Nat → Merging (List Entry)
  | 0 => throw .tooDeep
  | fuel + 1 => do
      if limits.chain < depth then throw .tooDeep
      match (← get).contentAt source with
      | .scalar _ => throw .malformed
      | .mapping _ =>
          mergeFrom (depth + 1) source 0 [] fuel
          return (← get).entriesAt source
      | .sequence items =>
          items.foldlM (fun later item => do
            match (← get).contentAt item with
            | .mapping _ =>
                mergeFrom (depth + 1) item 0 [] fuel
                return (← get).entriesAt item ++ later
            | _ => throw .malformed) []

end

/-- Merges into a map what it names. -/
def mergeInto (id : NodeId) : Merging Unit := do
  mergeFrom limits 0 id 0 [] (3 * (← get).mergeKeys + 3)

end ChipEight.Yaml
