import TokenScopes.Value.Key
import TokenScopes.Yaml.Node
import TokenScopes.Yaml.Scalar

namespace TokenScopes.Yaml

namespace Nodes

def tag (nodes : Nodes) (i : NodeId) : Tag :=
  (nodes[i]?.map Node.tag).getD .unknown

def entries (nodes : Nodes) (i : NodeId) : List (NodeId × NodeId) :=
  (nodes[i]?.map Node.entries).getD []

def setEntries (nodes : Nodes) (i : NodeId) (entries : List (NodeId × NodeId)) : Nodes :=
  nodes.modify i (Node.withEntries entries)

/-- A key for the default value becomes a plain text. -/
def plainKey (nodes : Nodes) (i : NodeId) : Nodes :=
  nodes.modify i Node.asPlainKey

/-- The text of a scalar. A mapping has one too, that of its entry for the default value; the count
exceeds the number of nodes, so when it is used up the chain of defaults has no end. -/
def text (nodes : Nodes) : Nat → NodeId → Except Fault Text
  | 0, _ => .error .endless
  | fuel + 1, i =>
    match nodes[i]? with
    | some (.scalar _ s) => .ok s
    | some (.mapping _ entries) =>
      match entries.find? fun (k, _) => nodes.tag k = .value with
      | some (_, v) => nodes.text fuel v
      | none => .error .malformed
    | _ => .error .malformed

def scalarValue (nodes : Nodes) (i : NodeId) : Except Fault Value :=
  match nodes.tag i with
  | .merge | .value | .unknown => .error .malformed
  | tag => do
    let s ← nodes.text (nodes.size + 1) i
    match tag, nodes[i]? with
    | .timestamp, some (.mapping _ _) => throw .notText
    | _, _ => Yaml.scalarValue tag s

/-- The value of the first merge key, and the entries without it. -/
def takeMerge (nodes : Nodes) :
    List (NodeId × NodeId) → Option (NodeId × List (NodeId × NodeId))
  | [] => none
  | (k, v) :: rest =>
    if nodes.tag k = .merge then some (v, rest)
    else (nodes.takeMerge rest).map fun (source, others) => (source, (k, v) :: others)

/-- The entries of several mappings, the last first, each after what `flat` does to it. -/
def bring (flat : NodeId → Nodes → Except Fault Nodes) :
    List NodeId → Nodes → Except Fault (List (NodeId × NodeId) × Nodes)
  | [], nodes => .ok ([], nodes)
  | i :: rest, nodes =>
    match nodes[i]? with
    | some (.mapping _ _) => do
      let nodes ← flat i nodes
      let brought := nodes.entries i
      let (later, nodes) ← bring flat rest nodes
      return (later ++ brought, nodes)
    | _ => .error .malformed

/-- Replaces the merge keys of a mapping by the entries that they bring in, behind those that were
`merged` so far: merged entries come first, so that the others override them. A merge key is taken
out before its value is looked at, so a mapping may bring in itself, and the count is that of the
merge keys that are left. -/
def flatten (merged : List (NodeId × NodeId)) : Nat → NodeId → Nodes → Except Fault Nodes
  | 0, _, _ => .error .malformed
  | fuel + 1, i, nodes =>
    match nodes.takeMerge (nodes.entries i) with
    | none =>
      let own := nodes.entries i
      .ok (own.foldl (fun nodes (k, _) => nodes.plainKey k) (nodes.setEntries i (merged ++ own)))
    | some (source, others) => do
      let sources ← match nodes[source]? with
        | some (.mapping _ _) => .ok [source]
        | some (.sequence _ items) => .ok items
        | _ => .error .malformed
      let (brought, nodes) ← bring (flatten [] fuel) sources (nodes.setEntries i others)
      flatten (merged ++ brought) fuel i nodes

def mergeCount (nodes : Nodes) : Nat :=
  nodes.foldl (fun count n => count + n.entries.countP fun (k, _) => nodes.tag k = .merge) 0

end Nodes

/-- What a collection of a tag is before it is filled. -/
def Tag.emptyCollection? : Tag → Option Value
  | .seq | .omap | .pairs => some (.list [])
  | .map => some (.map [])
  | .set => some (.set [])
  | _ => none

structure Maker where
  nodes : Nodes
  /-- The values so far, by node; a collection has nothing in it yet. -/
  made : Array (Option Value)
  /-- The collections that are still to be filled, the last first. -/
  waiting : List NodeId := []

namespace Maker

/-- Makes the value of a node. A collection is not filled at once, so of two faults the one nearer
to the root counts, and of two on one level the first. -/
def make (m : Maker) (i : NodeId) : Except Fault Maker :=
  if (m.made[i]?.getD none).isSome then .ok m
  else
    match (m.nodes.tag i).emptyCollection? with
    | some empty =>
      .ok { m with made := m.made.setIfInBounds i (some empty), waiting := i :: m.waiting }
    | none => do
      let v ← m.nodes.scalarValue i
      return { m with made := m.made.setIfInBounds i (some v) }

def makeItems : List NodeId → Maker → Except Fault Maker
  | [], m => .ok m
  | i :: rest, m => do makeItems rest (← m.make i)

/-- Makes entries one by one; only values that cannot change are keys. -/
def makeEntries : List (NodeId × NodeId) → Maker → Except Fault Maker
  | [], m => .ok m
  | (k, v) :: rest, m => do
    let m ← m.make k
    if (m.nodes.tag k).emptyCollection?.isSome then throw .malformed
    makeEntries rest (← m.make v)

def makePairs : List NodeId → Maker → Except Fault Maker
  | [], m => .ok m
  | i :: rest, m =>
    match m.nodes[i]? with
    | some (.mapping _ [(k, v)]) => do
      let m ← m.make k
      makePairs rest (← m.make v)
    | _ => .error .malformed

/-- Makes what a collection holds. The merge keys of a mapping take effect before. -/
def fill (m : Maker) (i : NodeId) : Except Fault Maker :=
  match m.nodes[i]? with
  | some (.sequence .seq items) => makeItems items m
  | some (.sequence .omap items) | some (.sequence .pairs items) => makePairs items m
  | some (.mapping .map _) | some (.mapping .set _) => do
    let nodes ← m.nodes.flatten [] (m.nodes.mergeCount + 1) i
    makeEntries (nodes.entries i) { m with nodes }
  | _ => .error .malformed

def fillAll : List NodeId → Maker → Except Fault Maker
  | [], m => .ok m
  | i :: rest, m => do fillAll rest (← m.fill i)

/-- Fills the collections that wait, then those that they hold, and so on; each waits once. -/
def fillLevels : Nat → Maker → Except Fault Maker
  | 0, m => .ok m
  | fuel + 1, m =>
    if m.waiting.isEmpty then .ok m
    else do fillLevels fuel (← fillAll m.waiting.reverse { m with waiting := [] })

end Maker

/-- Puts the values of its parts into a collection. -/
def Nodes.filled (nodes : Nodes) (values : Array Value) (i : NodeId) (v : Value) : Value :=
  let value (j : NodeId) : Value := values.getD j .null
  let pair (k v : NodeId) : Value × Value := (value k, value v)
  match nodes[i]? with
  | some (.sequence .seq items) => .list (items.map value)
  | some (.sequence .omap items) | some (.sequence .pairs items) =>
    .list (items.flatMap fun i => (nodes.entries i).map fun (k, v) => .tuple [value k, value v])
  | some (.mapping .map entries) =>
    .map (Value.insertAll [] (entries.map fun (k, v) => pair k v))
  | some (.mapping .set entries) =>
    .set ((Value.insertAll [] (entries.map fun (k, v) => pair k v)).map Prod.fst)
  | _ => v

/-- The values after collections were filled a number of times, each with what its parts were the
time before. -/
def Nodes.filledTimes (nodes : Nodes) (values : Array Value) : Nat → Array Value
  | 0 => values
  | n + 1 =>
    let before := nodes.filledTimes values n
    before.mapIdx (nodes.filled before)

/-- How far a value is looked into, in any case. -/
def viewDepth : Nat := 16

/-- The value of a document. A collection in which it does not stand itself is whole when it has
been filled as often as there are collections; one that holds itself has no end, and goes on as far
as it is looked into. -/
def Document.toValue (d : Document) : Except Fault Value := do
  let m ← Maker.make ⟨d.nodes, d.nodes.map fun _ => none, []⟩ d.root
  let m ← m.fillLevels (d.nodes.size + 1)
  let values := m.made.map fun v => v.getD .null
  let depth := d.nodes.countP fun n => n.tag.emptyCollection?.isSome
  return (m.nodes.filledTimes values (depth + viewDepth)).getD d.root .null

end TokenScopes.Yaml
