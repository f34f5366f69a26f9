import TokenScopes.Checker.Verifier
import TokenScopes.File.Path
import TokenScopes.Spec.Normalize

namespace TokenScopes

structure Line where
  text : Text
  tokens : List Token
  deriving DecidableEq

/-- Lines with their tokens, and the specification they are checked against. -/
structure Case where
  name : Text
  lines : List Line
  spec : List Value
  /-- The path of the file the case comes from. -/
  sourcePath : Option Path := none

structure CaseResult where
  name : Text
  passed : Bool
  tokensChecked : Nat
  diagnostics : List Diagnostic
  sourcePath : Option Path
  deriving DecidableEq

namespace Verifier

/-- Checks lines from a number on. With `stopOnMismatch` the first line that fails ends the run;
`false` says that it did. -/
def checkLines (v : Verifier) (number : Nat) : List Line → Bool × Verifier
  | [] => (true, v)
  | line :: rest =>
    match v.checkLine line.text line.tokens (some number) v.config.stopOnMismatch with
    | (passed, next) =>
      if !passed && v.config.stopOnMismatch then (false, next)
      else next.checkLines (number + 1) rest

/-- A whole run. After a line that ended it, spans and tokens are not aligned, and what is left of
the spans says nothing. -/
def run (v : Verifier) (lines : List Line) : Verifier :=
  match v.checkLines 1 lines with
  | (true, after) => after.finish.2
  | (false, after) => after

end Verifier

namespace Case

/-- Checks a case; the second component holds the echoed lines. -/
def check (c : Case) (config : Config) (echoes : Bool) :
    Except SpecFault (CaseResult × List Text) := do
  let spans ← Spec.spans c.spec
  let v := (Verifier.start config spans echoes).run c.lines
  return (⟨c.name, !v.failed, v.tokensChecked, v.log.entries, c.sourcePath⟩, v.log.echoed)

end Case

def CaseResult.toValue (r : CaseResult) : Value :=
  .ofFields [("name", .text r.name), ("passed", .bool r.passed),
    ("tokens_checked", .int r.tokensChecked),
    ("source_path", (r.sourcePath.map fun p => Value.text p.toText).getD .null),
    ("diagnostics", .list (r.diagnostics.map Diagnostic.toValue))]

end TokenScopes
