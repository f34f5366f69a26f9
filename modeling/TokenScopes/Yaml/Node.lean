import TokenScopes.Yaml.Tag
import TokenScopes.Yaml.Token

namespace TokenScopes.Yaml

/-- The place of a node among the nodes of its document. -/
abbrev NodeId := Nat

/-- A tagged node, whose parts are known by their places. An alias is the place of the node that
it stands for, so a collection may hold itself. -/
inductive Node where
  | scalar (tag : Tag) (text : Text)
  | sequence (tag : Tag) (items : List NodeId)
  | mapping (tag : Tag) (entries : List (NodeId × NodeId))

def Node.tag : Node → Tag
  | .scalar tag _ | .sequence tag _ | .mapping tag _ => tag

def Node.entries : Node → List (NodeId × NodeId)
  | .mapping _ entries => entries
  | _ => []

def Node.withEntries (entries : List (NodeId × NodeId)) : Node → Node
  | .mapping tag _ => .mapping tag entries
  | n => n

/-- What a key for the default value is taken for where a mapping is read as one: a text. -/
def Node.asPlainKey : Node → Node
  | .scalar .value s => .scalar .str s
  | .sequence .value items => .sequence .str items
  | .mapping .value entries => .mapping .str entries
  | n => n

/-- What stands for content that is left out. -/
def Node.empty : Node :=
  .scalar .null ""

/-- The nodes of a document. Some of them change while values are made of them. -/
abbrev Nodes := Array Node

structure Document where
  nodes : Nodes
  root : NodeId

end TokenScopes.Yaml
