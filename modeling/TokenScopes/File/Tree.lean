import TokenScopes.File.Path

namespace TokenScopes

/-- The place of a node is the list of names that leads to it from the top. -/
inductive FileNode where
  | file (bytes : List UInt8)
  | directory (children : List (String × FileNode))
  deriving Inhabited

namespace FileNode

def empty : FileNode :=
  .directory []

def at? : FileNode → List String → Option FileNode
  | n, [] => some n
  | .directory children, name :: place =>
    match children.lookup name with
    | some child => child.at? place
    | none => none
  | .file _, _ :: _ => none

/-- Puts a child under a name, in the place of an older one if there is one. -/
def putChild (name : String) (child : FileNode) :
    List (String × FileNode) → List (String × FileNode)
  | [] => [(name, child)]
  | (other, node) :: rest =>
    if other = name then (name, child) :: rest else (other, node) :: putChild name child rest

/-- Puts a node at a place. Directories on the way are made where nothing stands. -/
def put : FileNode → List String → FileNode → FileNode
  | _, [], node => node
  | .directory children, name :: place, node =>
    .directory (putChild name (put ((children.lookup name).getD empty) place node) children)
  | .file bytes, _ :: _, _ => .file bytes

mutual

def filesBelow (p : Path) : FileNode → List Path
  | .file _ => [p]
  | .directory children => filesOfChildren p children

def filesOfChildren (p : Path) : List (String × FileNode) → List Path
  | [] => []
  | (name, node) :: rest => filesBelow (p.child name) node ++ filesOfChildren p rest

end

/-- The places and contents of the files that are new or have another content. -/
def changes (before after : FileNode) : List (List String × List UInt8) :=
  (filesBelow (Path.of "") after).filterMap fun p =>
    match after.at? p.parts, before.at? p.parts with
    | some (.file new), some (.file old) => if new = old then none else some (p.parts, new)
    | some (.file new), _ => some (p.parts, new)
    | _, _ => none

end FileNode

end TokenScopes
