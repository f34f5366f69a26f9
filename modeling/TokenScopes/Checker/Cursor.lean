import TokenScopes.Scope.Name
import TokenScopes.Scope.Stack
import TokenScopes.Span

namespace TokenScopes

namespace ScopeStack

/-- Passing a span opens its scopes and closes those it closes. -/
def pass (s : ScopeStack) (span : Span) : ScopeStack × List CloseMismatch :=
  (s.opened span.opens).close span.closes

/-- The path that holds on the text of a span, without decorations. -/
def pathOn (s : ScopeStack) (suffixes : List Text) (span : Span) : List Text :=
  Scope.stripDecorations suffixes ((s.opened span.opens).path ++ span.scopes)

end ScopeStack

/-- The spans still to come, how many went by, and the scopes that are open. -/
structure Cursor where
  position : Nat := 0
  remaining : List Span
  stack : ScopeStack
  deriving DecidableEq

namespace Cursor

def start (spans : List Span) (root : Text) : Cursor where
  remaining := spans
  stack := .ofRoot root

def isExhausted (c : Cursor) : Bool :=
  c.remaining.isEmpty

def peek? (c : Cursor) : Option Span :=
  c.remaining.head?

/-- Moves past the front span, if there is one, and leaves the stack alone. -/
def advance (c : Cursor) : Cursor :=
  match c.remaining with
  | [] => c
  | _ :: rest => { c with position := c.position + 1, remaining := rest }

/-- Applies the scope changes of a span. -/
def pass (c : Cursor) (span : Span) : Cursor × List CloseMismatch :=
  let (stack, mismatches) := c.stack.pass span
  ({ c with stack }, mismatches)

/-- Passes the spans without text at the front of a list. -/
def flushFrom (position : Nat) (stack : ScopeStack) : List Span → Cursor × List CloseMismatch
  | [] => (⟨position, [], stack⟩, [])
  | span :: rest =>
    if span.isZeroWidth then
      let (next, now) := stack.pass span
      let (final, later) := flushFrom (position + 1) next rest
      (final, now ++ later)
    else (⟨position, span :: rest, stack⟩, [])

/-- Passes the spans without text at the front, so that a text stands in front or nothing does. -/
def flush (c : Cursor) : Cursor × List CloseMismatch :=
  flushFrom c.position c.stack c.remaining

end Cursor

end TokenScopes
