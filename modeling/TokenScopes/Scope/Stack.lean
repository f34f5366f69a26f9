import TokenScopes.Text.Basic

namespace TokenScopes

/-- Open scopes, the innermost first. -/
structure ScopeStack where
  fromTop : List Text
  deriving DecidableEq

/-- A name that was closed while something else, or nothing, was on top. -/
structure CloseMismatch where
  name : Text
  top : Option Text
  deriving DecidableEq

namespace ScopeStack

def ofRoot (root : Text) : ScopeStack :=
  ⟨[root]⟩

/-- The open scopes, the outermost first. -/
def path (s : ScopeStack) : List Text :=
  s.fromTop.reverse

def top? (s : ScopeStack) : Option Text :=
  s.fromTop.head?

def push (s : ScopeStack) (name : Text) : ScopeStack :=
  ⟨name :: s.fromTop⟩

def pop (s : ScopeStack) : ScopeStack :=
  ⟨s.fromTop.tail⟩

def mismatch? (s : ScopeStack) (name : Text) : Option CloseMismatch :=
  if s.top? = some name then none else some ⟨name, s.top?⟩

def opened (s : ScopeStack) (names : List Text) : ScopeStack :=
  names.foldl push s

/-- Closes names one after the other. The top entry leaves the stack even where the name is not on
top, so that the tokens that follow are still checked. -/
def closeEach (s : ScopeStack) : List Text → ScopeStack × List CloseMismatch
  | [] => (s, [])
  | name :: names =>
    let (final, later) := s.pop.closeEach names
    (final, (s.mismatch? name).toList ++ later)

/-- Closes names that are listed in the order of their opening, the last one first. -/
def close (s : ScopeStack) (names : List Text) : ScopeStack × List CloseMismatch :=
  s.closeEach names.reverse

end ScopeStack

end TokenScopes
