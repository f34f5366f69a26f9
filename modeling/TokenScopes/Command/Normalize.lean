import TokenScopes.Command.Outcome
import TokenScopes.Json.Printer

namespace TokenScopes.NormalizeCommand

/-- A document whose format its name decides: standard input counts as JSON. -/
structure Source where
  name : Path
  text : String

def readInput (around : Surroundings) : Except CommandFault Source :=
  match Text.decodeUtf8 around.input with
  | .ok cs => .ok ⟨Path.of "stdin.json", String.ofList (Text.foldLineEnds cs)⟩
  | .error f => .error (.encoding f)

def readSource (c : NormalizeCommand) (around : Surroundings) : Except CommandFault Source :=
  if c.source.toText = streamName then readInput around
  else
    match around.files.readText c.source with
    | .ok text => .ok ⟨c.source, text⟩
    | .error (.path f) => .error (.source f)
    | .error (.encoding f) => .error (.encoding f)

/-- The entries of a specification: a list, or the one a mapping holds. -/
def entriesOf : Value → Option (List Value)
  | .list items => some items
  | .map fields =>
    match Value.field? fields "spec" with
    | some (.list items) => some items
    | _ => none
  | _ => none

/-- Why a source has no structured form. -/
inductive Fault where
  | load (fault : Fixture.LoadFault)
  | noEntries
  | spec (fault : SpecFault)

def faultText (c : NormalizeCommand) : Fault → Text
  | .load f => f.message
  | .noEntries => c.source.toText ++ ": expected a spec list or a mapping with 'spec'"
  | .spec f => c.source.toText ++ ": " ++ f.message

def spansOf (source : Source) : Except Fixture.ScalarFault (Except Fault (List Value × List Span)) :=
  match Fixture.decode source.name source.text with
  | .error (.scalar f) => .error f
  | .error (.malformed reason) => .ok (.error (.load ⟨source.name, .malformed reason⟩))
  | .ok payload =>
    match entriesOf payload with
    | none => .ok (.error .noEntries)
    | some entries =>
      match Spec.spans entries with
      | .error f => .ok (.error (.spec f))
      | .ok spans => .ok (.ok (entries, spans))

def notes (entries : List Value) (spans : List Span) : List Text :=
  if Spec.isLegacy entries then
    ["converted " ++ toString entries.length ++ " legacy entries into " ++
      toString spans.length ++ " spans"]
  else []

def resultText (spans : List Span) : String :=
  Json.prettyText (.list (spans.map Span.toValue))

def run (c : NormalizeCommand) (around : Surroundings) : Except CommandFault Outcome := do
  let source ← c.readSource around
  match ← (spansOf source).mapError .scalar with
  | .error f =>
    return { exitCode := 2, errors := escapedLines [c.faultText f], files := around.files }
  | .ok (entries, spans) =>
    let (output, files) ←
      (deliver around.files c.output (resultText spans)).mapError .target
    return { exitCode := 0, output, errors := escapedLines (notes entries spans), files }

end TokenScopes.NormalizeCommand
