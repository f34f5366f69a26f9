import TokenScopes.Scope.Diff
import TokenScopes.Scope.Stack
import TokenScopes.Value.Basic

namespace TokenScopes

inductive DiagnosticKind where
  | exhaustedSpecs
  | contentMismatch
  | scopeMismatch
  | stackDiscipline
  | unconsumedSpecs
  deriving DecidableEq

namespace DiagnosticKind

def label : DiagnosticKind → String
  | .exhaustedSpecs => "exhausted_specs"
  | .contentMismatch => "content_mismatch"
  | .scopeMismatch => "scope_mismatch"
  | .stackDiscipline => "stack_discipline"
  | .unconsumedSpecs => "unconsumed_specs"

def all : List DiagnosticKind :=
  [.exhaustedSpecs, .contentMismatch, .scopeMismatch, .stackDiscipline, .unconsumedSpecs]

def ofLabel? (s : String) : Option DiagnosticKind :=
  all.find? (·.label == s)

end DiagnosticKind

/-- A problem that a check finds. -/
structure Diagnostic where
  kind : DiagnosticKind
  message : Text
  tokenText : Text := ""
  expected : List Text := []
  actual : List Text := []
  diff : Option ScopeDiff := none
  lineNumber : Option Int := none
  deriving DecidableEq

namespace Diagnostic

def ofCloseMismatch (m : CloseMismatch) : Diagnostic where
  kind := .stackDiscipline
  message := "attempted to pop " ++ m.name ++ " off scope stack, top of stack is " ++
    m.top.getD "<empty>"
  expected := [m.name]
  actual := m.top.toList

def exhausted (token : Text) : Diagnostic where
  kind := .exhaustedSpecs
  message := "ran out of specs"
  tokenText := token

/-- The next span has another text than the token. -/
def wrongText (token spec : Text) : Diagnostic where
  kind := .contentMismatch
  message := "spec mismatch: next token is |" ++ token ++ "| but spec has |" ++ spec ++ "|"
  tokenText := token
  expected := [spec]
  actual := [token]

def wrongScopes (token : Text) (expected actual : List Text) : Diagnostic where
  kind := .scopeMismatch
  message := "scope mismatch: token |" ++ token ++ "| has wrong scope"
  tokenText := token
  expected := expected
  actual := actual
  diff := some (ScopeDiff.between expected actual)

/-- Spans were left when the tokens ended; `first` heads their texts. -/
def unconsumed (first : Text) (rest : List Text) : Diagnostic where
  kind := .unconsumedSpecs
  message := toString (rest.length + 1) ++ " spec entries were not matched by any token; next is |" ++
    first ++ "|"
  expected := first :: rest

def indented (line : Text) : Text :=
  if line == "" then line else "  " ++ line

/-- The lines a reader sees: the message, and the diff set off by empty lines. -/
def render (d : Diagnostic) : List Text :=
  let head := match d.lineNumber with
    | some n => "line " ++ toString n ++ ": " ++ d.message
    | none => d.message
  match d.diff with
  | none => [head]
  | some diff =>
    head :: ("" : Text) :: diff.render.map indented ++ [("" : Text)]

end Diagnostic

namespace DiffEntry

def toValue (e : DiffEntry) : Value :=
  .ofFields [("scope", .text e.name), ("kind", .text e.kind.label)]

end DiffEntry

namespace ScopeDiff

def toValue (d : ScopeDiff) : Value :=
  .ofFields [("expected", .list (d.expected.map DiffEntry.toValue)),
    ("actual", .list (d.actual.map DiffEntry.toValue))]

end ScopeDiff

def Diagnostic.toValue (d : Diagnostic) : Value :=
  .ofFields <|
    [(("kind" : Text), .text d.kind.label), ("message", .text d.message),
      ("token_text", .text d.tokenText), ("expected", .ofTexts d.expected),
      ("actual", .ofTexts d.actual),
      ("line_number", (d.lineNumber.map Value.int).getD .null)] ++
    (d.diff.map fun diff => (("diff" : Text), diff.toValue)).toList

end TokenScopes
