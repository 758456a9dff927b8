import ChipEight.Value.SetOrder
import ChipEight.Yaml.Part

/-!
# Documents as values

The value of a document is put together from its parts.  A collection that holds itself,
or another one that does, has no value of finite size: it is a knot, and is unfolded as far
as it is looked at.  Every way down a knot ends only after some collection has been met for
the second time, which is as far as anything is shown.
-/

namespace ChipEight.Yaml

namespace Part

/-- The value of a part, if the values of collections are given. -/
def valueWith (valueOf : NodeId → Value) : Part → Value
  | leaf value _ => value
  | collection id => valueOf id

end Part

namespace Filling

/-- The value of a collection, if the values of the collections in it are given. -/
def valueWith (valueOf : NodeId → Value) : Filling → Value
  | list items => .list (items.map (·.valueWith valueOf))
  | pairs items =>
      .list (items.map fun item =>
        .tuple [item.1.valueWith valueOf, item.2.valueWith valueOf])
  | set items => .set (Value.listed (items.map (·.valueWith valueOf)))
  | map entries =>
      .map (entries.map fun entry =>
        (entry.1.valueWith valueOf, entry.2.valueWith valueOf))

/-- The collections among some parts. -/
def collectionsIn (parts : List Part) : List NodeId :=
  parts.filterMap fun part =>
    match part with
    | .collection id => some id
    | .leaf _ _ => none

/-- The collections in a collection. -/
def collections : Filling → List NodeId
  | list items | set items => collectionsIn items
  | pairs items | map items => collectionsIn (items.flatMap fun item => [item.1, item.2])

end Filling

/-! ## Collections of finite size -/

/-- What is known of the collections: nothing, or that one has been looked at, with its
value unless it leads back to a collection that is still being looked at. -/
abbrev Values := Array (Option (Option Value))

namespace Values

/-- The value of a collection, as far as it is known. -/
def value? (values : Values) (id : NodeId) : Option Value := ((values[id]?).join).join

/-- Whether nothing is known of a collection yet. -/
def isNew (values : Values) (id : NodeId) : Bool :=
  match values[id]? with
  | some none => true
  | _ => false

end Values

/-- Looks at a collection, after those in it.  Only one without a way back to itself, or to
another such collection, gets a value. -/
def settle (fillings : Array (Option Filling)) : Nat → Values → NodeId → Values
  | 0, values, _ => values
  | fuel + 1, values, id =>
      match (fillings[id]?).join with
      | some filling =>
          if values.isNew id then
            let values := filling.collections.foldl (settle fillings fuel)
              (values.set! id (some none))
            if filling.collections.all fun inner => (values.value? inner).isSome then
              let value := filling.valueWith fun inner => (values.value? inner).getD .null
              values.set! id (some (some value))
            else values
          else values
      | none => values

/-! ## Knots -/

/-- A collection, unfolded no further than so many knots deep. -/
def unfold (fillings : Array (Option Filling)) (values : Values) : Nat → NodeId → Value
  | 0, id => .knot id fun _ => .null
  | depth + 1, id =>
      match values.value? id, (fillings[id]?).join with
      | some value, _ => value
      | none, some filling =>
          .knot id fun _ => filling.valueWith (unfold fillings values depth)
      | none, none => .null

/-- The value of a collection.  Whoever goes down through more knots than there are
collections meets one again.  The eight further ones are for what is looked at before it is
shown: a section of a document, an entry of it and an item of that. -/
def collectionValue (fillings : Array (Option Filling)) (id : NodeId) : Value :=
  let size := fillings.size
  unfold fillings (settle fillings (size + 1) (.replicate size none) id) (size + 8) id

/-! ## Documents -/

/-- The value of the document that a file holds; nothing for a file without one. -/
def read (limits : Limits) (bytes : List UInt8) : Except Problem Value :=
  match graphOf limits bytes with
  | .error problem => .error problem
  | .ok none => .ok .null
  | .ok (some (graph, root)) =>
      (partsOf limits graph root).map fun (part, fillings) =>
        part.valueWith (collectionValue fillings)

end ChipEight.Yaml
