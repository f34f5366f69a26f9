import TokenScopes.Text.Basic

namespace TokenScopes

inductive DiffKind where
  | added
  | removed
  | unchanged
  deriving DecidableEq

/-- The names a path is made of. A bare text stands for the path of its code points, and every part
of it occurs in it. -/
inductive NameSequence where
  | names (ns : List Text)
  | text (s : Text)

structure DiffEntry where
  name : Text
  kind : DiffKind
  deriving DecidableEq

/-- The comparison of two paths. Each name is classified by whether it occurs in the other path;
names in both are shown in both columns. -/
structure ScopeDiff where
  expected : List DiffEntry
  actual : List DiffEntry
  deriving DecidableEq

/-- Whether a list occurs as consecutive elements of another. -/
def isPartOf (part : List CodePoint) : List CodePoint → Bool
  | [] => part.isEmpty
  | c :: cs => part.isPrefixOf (c :: cs) || isPartOf part cs

namespace NameSequence

def toList : NameSequence → List Text
  | .names ns => ns
  | .text s => s.toList.map Text.singleton

def contains (ns : NameSequence) (name : Text) : Bool :=
  match ns with
  | .names ns => ns.contains name
  | .text s => isPartOf name.toList s.toList

end NameSequence

namespace DiffKind

def label : DiffKind → String
  | .added => "added"
  | .removed => "removed"
  | .unchanged => "unchanged"

/-- The two characters in front of a name of this kind. -/
def mark : DiffKind → Text
  | .added => "+ "
  | .removed => "- "
  | .unchanged => "  "

def classify (name : Text) (expected actual : NameSequence) : DiffKind :=
  match expected.contains name, actual.contains name with
  | false, true => .added
  | true, false => .removed
  | _, _ => .unchanged

end DiffKind

def DiffEntry.render (e : DiffEntry) : Text :=
  e.kind.mark ++ e.name

namespace ScopeDiff

def ofSequences (expected actual : NameSequence) : ScopeDiff :=
  let column (ns : NameSequence) : List DiffEntry :=
    ns.toList.map fun n => ⟨n, DiffKind.classify n expected actual⟩
  ⟨column expected, column actual⟩

/-- The comparison of an expected path with an actual one. -/
def between (expected actual : List Text) : ScopeDiff :=
  ofSequences (.names expected) (.names actual)

def added (d : ScopeDiff) : List Text :=
  (d.actual.filter fun e => e.kind = .added).map (·.name)

def removed (d : ScopeDiff) : List Text :=
  (d.expected.filter fun e => e.kind = .removed).map (·.name)

def indent (line : Text) : Text :=
  "  " ++ line

def render (d : ScopeDiff) : List Text :=
  ("scopes in spec" : Text) :: d.expected.map (fun e => indent e.render) ++
    ("" : Text) :: ("actual scopes" : Text) :: d.actual.map (fun e => indent e.render)

end ScopeDiff

end TokenScopes
